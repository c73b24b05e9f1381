import TgwGateway.Auth.AuthFilter
import TgwGateway.Governance.RateLimitFilter
import TgwGateway.Governance.UpstreamClient
import TgwGateway.Observability.Metrics
import TgwGateway.Observability.Tracing

/- GatewayHandler: route, authenticate, limit, forward. Filters, metrics and tracer may be absent.
   The trace lists the rate-limit keys and the forward contexts that were built. -/
namespace TgwGatewayHandler
open ByteStrings DecimalText TgwClock TgwConfig TgwStatus TgwHttp TgwRouteRule TgwAuthFilter
open TgwRateLimitFilter TgwTracing TgwMetrics
open TgwGovernance (UpstreamClient)

inductive GatewayEvent where
  | rateLimitKey (key : Bytes)
  | forwardContext (ctx : ForwardContext)
  deriving DecidableEq

structure GatewayState (Redis State : Type) where
  rateLimit : RateLimitState Redis
  metrics : MetricsRegistry := ∅
  tracer : TracerState
  upstream : State
  trace : List GatewayEvent := []

structure GatewayHandler (Redis State : Type) where
  routeManager : RouteRuleManager
  upstreamClient : UpstreamClient State
  authFilter : Option AuthFilter
  rateLimitFilter : Option RateLimitConfig
  redisLink : RedisLink Redis
  hasMetrics : Bool
  tracer : Option TracingConfig

variable {Redis State : Type}

abbrev GatewayEnv (Redis State : Type) := Env (GatewayState Redis State)

def emit (env : GatewayEnv Redis State) (e : GatewayEvent) : GatewayEnv Redis State :=
  { env with state := { env.state with trace := env.state.trace ++ [e] } }

def onTracer {Result : Type} (run : TracerEnv → Result × TracerEnv)
    (env : GatewayEnv Redis State) : Result × GatewayEnv Redis State :=
  env.onPart GatewayState.tracer (fun tracer s => { s with tracer := tracer }) run

def onRateLimit {Result : Type} (run : RateLimitEnv Redis → Result × RateLimitEnv Redis)
    (env : GatewayEnv Redis State) : Result × GatewayEnv Redis State :=
  env.onPart GatewayState.rateLimit (fun rateLimit s => { s with rateLimit := rateLimit }) run

def onUpstream {Result : Type} (run : Env State → Result × Env State)
    (env : GatewayEnv Redis State) : Result × GatewayEnv Redis State :=
  env.onPart GatewayState.upstream (fun upstream s => { s with upstream := upstream }) run

def copiedHeaders : List Bytes := [
  bytes "Authorization", bytes "X-Request-Id", bytes "X-Trace-Id", bytes "X-Span-Id",
  bytes "X-Parent-Span-Id", bytes "X-Username", bytes "X-User-Id", bytes "X-Role",
  bytes "Content-Type", bytes "traceparent", bytes "X-Debug-Sleep-Ms",
  bytes "X-Debug-Force-Status"]

def copyHeader (request : HttpRequest) (headers : ByteMap Bytes) (key : Bytes) : ByteMap Bytes :=
  match request.headers[key]? with
  | some value => headers.insert key value
  | none => headers

def buildForwardContext (request : HttpRequest) (matched : RouteMatchResult) (now : Int) :
    ForwardContext :=
  { requestId := request.requestId
    upstream := matched.route.upstream
    upstreamPath := matched.upstreamPath
    method := request.method
    query := request.query
    body := request.body
    timeoutMs := matched.route.timeoutMs
    deadline := some (startDeadline matched.route.timeoutMs now)
    headers := (copiedHeaders.foldl (copyHeader request) ∅).insert (bytes "X-Request-Id")
      request.requestId }

def putHeader (request : HttpRequest) (key value : Bytes) : HttpRequest :=
  { request with headers := request.headers.insert key value }

def putNonempty (request : HttpRequest) (key value : Bytes) : HttpRequest :=
  if value = [] then request else putHeader request key value

def noRoute (requestId : Bytes) : HttpResponse :=
  errorResponse 404 .notFound (bytes "gateway route not found") requestId

def attributesOf (items : List (Bytes × Bytes)) : ByteMap Bytes :=
  items.foldl (fun attributes item => attributes.insert item.1 item.2) ∅

def orNone (upstream : Bytes) : Bytes := if upstream = [] then bytes "none" else upstream

/-- The finish closure of Handle. -/
def finish (handler : GatewayHandler Redis State) (request : HttpRequest) (startedAt : Int)
    (span : TraceSpan) (rsp : HttpResponse) (upstream : Bytes) (env : GatewayEnv Redis State) :
    HttpResponse × GatewayEnv Redis State :=
  let env :=
    if handler.hasMetrics then
      let elapsed := UInt64.ofInt ((env.now - startedAt).tdiv nanosPerMilli)
      { env.tick with
        state :=
          { env.state with
            metrics := recordRequest env.state.metrics request.path (orNone upstream) rsp.status
              elapsed } }
    else env
  match handler.tracer with
  | none => (rsp, env)
  | some tracing =>
    let attributes := attributesOf
      [(bytes "http.method", request.method), (bytes "request.id", request.requestId)]
    let env := (onTracer (fun tracer => ((), finishSpan tracing span (bytes "server") request.path
      (orNone upstream) rsp.status attributes tracer)) env).2
    let rsp :=
      if tracing.exposeDebugHeaders && !span.traceId.isEmpty then
        rsp.setHeader (bytes "X-Trace-Id") span.traceId
      else rsp
    let rsp :=
      if tracing.exposeDebugHeaders && !span.spanId.isEmpty then
        rsp.setHeader (bytes "X-Span-Id") span.spanId
      else rsp
    (rsp, env)

def startGatewaySpan (handler : GatewayHandler Redis State) (request : HttpRequest)
    (env : GatewayEnv Redis State) : TraceSpan × GatewayEnv Redis State :=
  match handler.tracer with
  | some tracing => onTracer (startServerSpan tracing request (bytes "gateway.handle")) env
  | none => ({}, env)

def withTrace (span : TraceSpan) (request : HttpRequest) : HttpRequest :=
  putNonempty (putNonempty request (bytes "X-Trace-Id") span.traceId) (bytes "X-Parent-Span-Id")
    span.spanId

/-- The identity headers are written only for a user id above zero. -/
def withIdentity (result : AuthResult) (request : HttpRequest) : HttpRequest :=
  if 0 < result.userId then
    putHeader (putHeader (putHeader request (bytes "X-User-Id") (intText result.userId))
      (bytes "X-Username") result.username) (bytes "X-Role") result.role
  else request

/-- Without a filter the request stays as it is, which is what a result without a user does. -/
def authenticate (handler : GatewayHandler Redis State) (request : HttpRequest)
    (env : GatewayEnv Redis State) : AuthResult × GatewayEnv Redis State :=
  match handler.authFilter with
  | some filter => filter.check request env
  | none => ({ allowed := true }, env)

def checkRateLimit (handler : GatewayHandler Redis State) (forwardRequest : HttpRequest)
    (matched : RouteMatchResult) (env : GatewayEnv Redis State) :
    RateLimitDecision × GatewayEnv Redis State :=
  match handler.rateLimitFilter with
  | some config =>
    let env := if config.enabled then emit env (.rateLimitKey (buildKey forwardRequest matched))
      else env
    onRateLimit (check handler.redisLink config forwardRequest matched) env
  | none => ({}, env)

def withClientSpan (span : TraceSpan) (ctx : ForwardContext) : ForwardContext :=
  let put := fun (headers : ByteMap Bytes) (key value : Bytes) =>
    if value = [] then headers else headers.insert key value
  { ctx with
    headers := put (put (put ctx.headers (bytes "X-Trace-Id") span.traceId) (bytes "X-Span-Id")
      span.spanId) (bytes "X-Parent-Span-Id") span.parentSpanId }

def startUpstreamSpan (handler : GatewayHandler Redis State) (gatewaySpan : TraceSpan)
    (ctx : ForwardContext) (env : GatewayEnv Redis State) : TraceSpan × GatewayEnv Redis State :=
  match handler.tracer with
  | some _ => onTracer (startClientSpan gatewaySpan (bytes "upstream." ++ ctx.upstream)) env
  | none => ({}, env)

def finishUpstreamSpan (handler : GatewayHandler Redis State) (request : HttpRequest)
    (upstreamSpan : TraceSpan) (ctx : ForwardContext) (status : Int)
    (env : GatewayEnv Redis State) : GatewayEnv Redis State :=
  match handler.tracer with
  | some tracing =>
    let attributes := attributesOf [(bytes "http.method", ctx.method),
      (bytes "request.id", ctx.requestId), (bytes "route.path", request.path)]
    (onTracer (fun tracer => ((), finishSpan tracing upstreamSpan (bytes "client")
      ctx.upstreamPath ctx.upstream status attributes tracer)) env).2
  | none => env

def withRateLimitHeaders (handler : GatewayHandler Redis State) (decision : RateLimitDecision)
    (rsp : HttpResponse) : HttpResponse :=
  if handler.rateLimitFilter.isSome && 0 < decision.limit then
    ((rsp.setHeader (bytes "X-RateLimit-Limit") (intText decision.limit)).setHeader
      (bytes "X-RateLimit-Remaining") (intText decision.remaining)).setHeader
      (bytes "X-RateLimit-Reset") (intText decision.resetSeconds)
  else rsp

/-- Handle from the building of the forward context on. -/
def forwardRequestTo (handler : GatewayHandler Redis State) (request forwardRequest : HttpRequest)
    (matched : RouteMatchResult) (startedAt : Int) (span : TraceSpan)
    (decision : RateLimitDecision) (env : GatewayEnv Redis State) :
    HttpResponse × GatewayEnv Redis State :=
  let built := buildForwardContext forwardRequest matched env.now
  let client := startUpstreamSpan handler span built { env.tick with deadline := built.deadline }
  let ctx := withClientSpan client.1 built
  let called := onUpstream (handler.upstreamClient ctx) (emit client.2 (.forwardContext ctx))
  let env := finishUpstreamSpan handler request client.1 ctx called.1.status called.2
  finish handler request startedAt span (withRateLimitHeaders handler decision called.1)
    ctx.upstream env

def handle (handler : GatewayHandler Redis State) (request : HttpRequest)
    (env : GatewayEnv Redis State) : HttpResponse × GatewayEnv Redis State :=
  let startedAt := env.now
  let started := startGatewaySpan handler request env.tick
  let span := started.1
  match handler.routeManager.matchPath request.path with
  | none => finish handler request startedAt span (noRoute request.requestId) (bytes "none") started.2
  | some matched =>
    let auth := authenticate handler request started.2
    if !auth.1.allowed then
      finish handler request startedAt span auth.1.response matched.route.upstream auth.2
    else
      let forwardRequest := withIdentity auth.1 (withTrace span request)
      let limited := checkRateLimit handler forwardRequest matched auth.2
      if !limited.1.allowed then
        finish handler request startedAt span limited.1.response matched.route.upstream limited.2
      else forwardRequestTo handler request forwardRequest matched startedAt span limited.1 limited.2

end TgwGatewayHandler
