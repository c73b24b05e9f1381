import TgwGateway.Gateway.HandlerExits
import TgwGateway.Lib.CountedMaps

/- Handle as the steps between which other threads may run. Each registry has its own mutex, so a
   call that has entered one and not yet the other can be overtaken by any number of others. -/
namespace TgwCallRuns
open ByteStrings CountedMaps TgwClock TgwConfig TgwHttp TgwRouteRule TgwAuthFilter
open TgwRateLimitFilter TgwTracing TgwMetrics TgwGatewayHandler TgwHandlerTrace TgwHandlerExits
variable {Redis State : Type}

/-- What a call holds since its server span was started. -/
structure Opened where
  startedAt : Int
  span : TraceSpan

/-- Where a call stands. From `finishing` on it is known whether the upstream was called. -/
inductive Progress where
  | arrived
  | opened (call : Opened)
  | authenticated (call : Opened) (matched : RouteMatchResult) (forwardRequest : HttpRequest)
  | limited (call : Opened) (matched : RouteMatchResult) (forwardRequest : HttpRequest)
      (decision : RateLimitDecision)
  | calling (call : Opened) (decision : RateLimitDecision) (client : TraceSpan)
      (ctx : ForwardContext)
  | answered (call : Opened) (decision : RateLimitDecision) (client : TraceSpan)
      (ctx : ForwardContext) (rsp : HttpResponse)
  | finishing (call : Opened) (called : Bool) (rsp : HttpResponse) (upstream : Bytes)
  | recorded (call : Opened) (called : Bool) (rsp : HttpResponse) (upstream : Bytes)
      (durationMs : UInt64)
  | completed (call : Opened) (called : Bool) (rsp : HttpResponse) (upstream : Bytes)
      (durationMs : UInt64)

section halves
variable (handler : GatewayHandler Redis State) (request : HttpRequest)

def elapsedMs (startedAt : Int) (env : GatewayEnv Redis State) : UInt64 :=
  UInt64.ofInt ((env.now - startedAt).tdiv nanosPerMilli)

/-- The half of the finish closure that enters the metrics registry. -/
def recordCall (startedAt : Int) (rsp : HttpResponse) (upstream : Bytes)
    (env : GatewayEnv Redis State) : GatewayEnv Redis State :=
  if handler.hasMetrics then
    { env.tick with
      state :=
        { env.state with
          metrics := recordRequest env.state.metrics request.path (orNone upstream) rsp.status
            (elapsedMs startedAt env) } }
  else env

def serverAttributes : ByteMap Bytes :=
  attributesOf [(bytes "http.method", request.method), (bytes "request.id", request.requestId)]

def clientAttributes (ctx : ForwardContext) : ByteMap Bytes :=
  attributesOf [(bytes "http.method", ctx.method), (bytes "request.id", ctx.requestId),
    (bytes "route.path", request.path)]

def finishServerSpan (span : TraceSpan) (rsp : HttpResponse) (upstream : Bytes)
    (env : GatewayEnv Redis State) : HttpResponse × GatewayEnv Redis State :=
  match handler.tracer with
  | none => (rsp, env)
  | some tracing =>
    let env := (onTracer (fun tracer => ((), finishSpan tracing span (bytes "server") request.path
      (orNone upstream) rsp.status (serverAttributes request) tracer)) env).2
    let rsp :=
      if tracing.exposeDebugHeaders && !span.traceId.isEmpty then
        rsp.setHeader (bytes "X-Trace-Id") span.traceId
      else rsp
    let rsp :=
      if tracing.exposeDebugHeaders && !span.spanId.isEmpty then
        rsp.setHeader (bytes "X-Span-Id") span.spanId
      else rsp
    (rsp, env)

theorem finish_halves (startedAt : Int) (span : TraceSpan) (rsp : HttpResponse) (upstream : Bytes)
    (env : GatewayEnv Redis State) :
    finish handler request startedAt span rsp upstream env =
      finishServerSpan handler request span rsp upstream
        (recordCall handler request startedAt rsp upstream env) := rfl

end halves

/-- The next step of a call. The deadline belongs to the call, so it is put in place where the
   upstream client sees it. -/
def advance (handler : GatewayHandler Redis State) (request : HttpRequest)
    (env : GatewayEnv Redis State) : Progress → Progress × GatewayEnv Redis State
  | .arrived =>
    let started := startGatewaySpan handler request env.tick
    (.opened ⟨env.now, started.1⟩, started.2)
  | .opened call =>
    match handler.routeManager.matchPath request.path with
    | none => (.finishing call false (noRoute request.requestId) (bytes "none"), env)
    | some matched =>
      let auth := authenticate handler request env
      if !auth.1.allowed then
        (.finishing call false auth.1.response matched.route.upstream, auth.2)
      else
        (.authenticated call matched (withIdentity auth.1 (withTrace call.span request)), auth.2)
  | .authenticated call matched forwardRequest =>
    let checked := checkRateLimit handler forwardRequest matched env
    if !checked.1.allowed then
      (.finishing call false checked.1.response matched.route.upstream, checked.2)
    else (.limited call matched forwardRequest checked.1, checked.2)
  | .limited call matched forwardRequest decision =>
    let built := buildForwardContext forwardRequest matched env.now
    let client := startUpstreamSpan handler call.span built env.tick
    (.calling call decision client.1 (withClientSpan client.1 built), client.2)
  | .calling call decision client ctx =>
    let called := onUpstream (handler.upstreamClient ctx)
      (emit { env with deadline := ctx.deadline } (.forwardContext ctx))
    (.answered call decision client ctx called.1, called.2)
  | .answered call decision client ctx rsp =>
    (.finishing call true (withRateLimitHeaders handler decision rsp) ctx.upstream,
      finishUpstreamSpan handler request client ctx rsp.status env)
  | .finishing call called rsp upstream =>
    (.recorded call called rsp upstream (elapsedMs call.startedAt env),
      recordCall handler request call.startedAt rsp upstream env)
  | .recorded call called rsp upstream durationMs =>
    let finished := finishServerSpan handler request call.span rsp upstream env
    (.completed call called finished.1 upstream durationMs, finished.2)
  | .completed call called rsp upstream durationMs =>
    (.completed call called rsp upstream durationMs, env)

section alone
variable (handler : GatewayHandler Redis State) (request : HttpRequest)
  (env : GatewayEnv Redis State)

def advanceAlone (reached : Progress × GatewayEnv Redis State) :
    Progress × GatewayEnv Redis State := advance handler request reached.2 reached.1

theorem startUpstreamSpan_deadline (span : TraceSpan) (ctx : ForwardContext)
    (deadline : Option DeadlineContext) :
    startUpstreamSpan handler span ctx { env with deadline := deadline } =
      ((startUpstreamSpan handler span ctx env).1,
        { (startUpstreamSpan handler span ctx env).2 with deadline := deadline }) := by
  unfold startUpstreamSpan
  cases handler.tracer with
  | none => rfl
  | some tracing =>
    cases sampled : span.sampled <;>
      simp [onTracer, Env.onPart, startClientSpan, sampled, Env.tick, Env.tickSystem, Env.now]

theorem finish_in_two (call : Opened) (called : Bool) (rsp : HttpResponse) (upstream : Bytes) :
    ((advanceAlone handler request)^[2] (.finishing call called rsp upstream, env)) =
      (.completed call called
        (finish handler request call.startedAt call.span rsp upstream env).1 upstream
        (elapsedMs call.startedAt env),
        (finish handler request call.startedAt call.span rsp upstream env).2) := by
  rw [finish_halves]
  rfl

theorem finishing_completes {start : Progress × GatewayEnv Redis State} {turns : Nat}
    {call : Opened} {called : Bool} {rsp : HttpResponse} {upstream : Bytes}
    (few : turns + 2 ≤ 8)
    (reached : (advanceAlone handler request)^[turns] start =
      (.finishing call called rsp upstream, env)) :
    ∃ call' called' upstream' durationMs, (advanceAlone handler request)^[8] start =
      (.completed call' called'
        (finish handler request call.startedAt call.span rsp upstream env).1 upstream' durationMs,
        (finish handler request call.startedAt call.span rsp upstream env).2) := by
  refine ⟨call, called, upstream, elapsedMs call.startedAt env, ?_⟩
  obtain ⟨rest, turns_eq⟩ := Nat.exists_eq_add_of_le' few
  rw [turns_eq, Nat.add_comm turns 2, ← Nat.add_assoc, Function.iterate_add_apply, reached,
    Function.iterate_add_apply, finish_in_two]
  exact Function.iterate_fixed rfl rest

theorem opened_in_one : (advanceAlone handler request)^[1] (.arrived, env) =
    (.opened ⟨env.now, gatewaySpan handler request env⟩, authEnv handler request env) := rfl

theorem authenticated_in_two {matched : RouteMatchResult}
    (routed : handler.routeManager.matchPath request.path = some matched)
    (accepted : (authOutcome handler request env).1.allowed = true) :
    (advanceAlone handler request)^[2] (.arrived, env) =
      (.authenticated ⟨env.now, gatewaySpan handler request env⟩ matched
        (forwardedRequest handler request env), (authOutcome handler request env).2) := by
  rw [Function.iterate_succ_apply', opened_in_one]
  rw [authOutcome] at accepted
  simp [advanceAlone, advance, routed, accepted, forwardedRequest, authOutcome]

/-- Alone, a call takes the steps of Handle. -/
theorem advanceAlone_handle :
    ∃ call called upstream durationMs, (advanceAlone handler request)^[8] (.arrived, env) =
      (.completed call called (handle handler request env).1 upstream durationMs,
        (handle handler request env).2) := by
  have exit := handle_exit handler request env
  generalize handle handler request env = out at exit ⊢
  cases exit with
  | noRoute unrouted =>
    have two : (advanceAlone handler request)^[2] (.arrived, env) =
        (.finishing ⟨env.now, gatewaySpan handler request env⟩ false (noRoute request.requestId)
          (bytes "none"), authEnv handler request env) := by
      rw [Function.iterate_succ_apply', opened_in_one]
      simp only [advanceAlone, advance, unrouted]
    have done := finishing_completes handler request _ (by omega) two
    exact done
  | rejected matched routed refused =>
    have two : (advanceAlone handler request)^[2] (.arrived, env) =
        (.finishing ⟨env.now, gatewaySpan handler request env⟩ false
          (authOutcome handler request env).1.response matched.route.upstream,
          (authOutcome handler request env).2) := by
      rw [Function.iterate_succ_apply', opened_in_one]
      rw [authOutcome] at refused ⊢
      simp [advanceAlone, advance, routed, refused]
    have done := finishing_completes handler request _ (by omega) two
    exact done
  | limited matched routed authenticated refused =>
    have three : (advanceAlone handler request)^[3] (.arrived, env) =
        (.finishing ⟨env.now, gatewaySpan handler request env⟩ false
          (limitOutcome handler request env matched).1.response matched.route.upstream,
          (limitOutcome handler request env matched).2) := by
      rw [Function.iterate_succ_apply',
        authenticated_in_two handler request env routed authenticated]
      rw [limitOutcome] at refused ⊢
      simp [advanceAlone, advance, refused]
    have done := finishing_completes handler request _ (by omega) three
    exact done
  | forwarded matched routed authenticated admitted =>
    have three : (advanceAlone handler request)^[3] (.arrived, env) =
        (.limited ⟨env.now, gatewaySpan handler request env⟩ matched
          (forwardedRequest handler request env) (limitOutcome handler request env matched).1,
          (limitOutcome handler request env matched).2) := by
      rw [Function.iterate_succ_apply',
        authenticated_in_two handler request env routed authenticated]
      rw [limitOutcome] at admitted ⊢
      simp [advanceAlone, advance, admitted]
    have enough : 6 + 2 ≤ 8 := by omega
    have done := finishing_completes handler request _ enough (by
      rw [show 6 = 3 + 3 from rfl, Function.iterate_add_apply, three]
      rfl)
    simp only [forwardRequestTo, startUpstreamSpan_deadline]
    exact done

end alone

section spans

def finishedOf (tracing : TracingConfig) (span : TraceSpan) (kind path upstream : Bytes)
    (status : Int) (attributes : ByteMap Bytes) (now : Int) : Option FinishedSpan :=
  if !span.sampled || span.traceId.isEmpty || span.spanId.isEmpty then none
  else
    some
      { traceId := span.traceId
        spanId := span.spanId
        parentSpanId := span.parentSpanId
        name := span.name
        serviceName := tracing.serviceName
        kind := kind
        path := path
        upstream := upstream
        status := status
        startUnixMs := span.startUnixMs
        durationMs := UInt64.ofInt ((now - span.startedAt).tdiv nanosPerMilli)
        attributes := attributes }

theorem finishSpan_finished (tracing : TracingConfig) (span : TraceSpan)
    (kind path upstream : Bytes) (status : Int) (attributes : ByteMap Bytes) (env : TracerEnv) :
    (finishSpan tracing span kind path upstream status attributes env).state.finishedSpans =
      match finishedOf tracing span kind path upstream status attributes env.now with
      | none => env.state.finishedSpans
      | some finished =>
        keepLast tracing.maxFinishedSpans (env.state.finishedSpans ++ [finished]) := by
  unfold finishSpan finishedOf
  split
  · rfl
  · rfl

def appendedBy (tracing : TracingConfig) (request : HttpRequest) (env : GatewayEnv Redis State) :
    Progress → Option FinishedSpan
  | .answered _ _ client ctx rsp =>
    finishedOf tracing client (bytes "client") ctx.upstreamPath ctx.upstream rsp.status
      (clientAttributes request ctx) env.now
  | .recorded call _ rsp upstream _ =>
    finishedOf tracing call.span (bytes "server") request.path (orNone upstream) rsp.status
      (serverAttributes request) env.now
  | _ => none

end spans

/-- The calls of a gateway with what they share, and the spans they have appended, each with the
   number of its call. -/
structure Run (Redis State : Type) where
  env : GatewayEnv Redis State
  calls : List (HttpRequest × Progress)
  appended : List (Nat × FinishedSpan) := []

/-- A gateway that has just been started; every request waits for its thread. -/
def start (env : GatewayEnv Redis State) (requests : List HttpRequest) : Run Redis State where
  env := { env with
    state := { env.state with
      metrics := ∅
      tracer := { env.state.tracer with finishedSpans := [] } } }
  calls := requests.map fun request => (request, .arrived)

def turn (handler : GatewayHandler Redis State) (tracing : TracingConfig) (run : Run Redis State)
    (caller : Nat) : Run Redis State :=
  match run.calls[caller]? with
  | none => run
  | some (request, progress) =>
    let next := advance handler request run.env progress
    { env := next.2
      calls := run.calls.set caller (request, next.1)
      appended := run.appended ++
        (appendedBy tracing request run.env progress).toList.map (Prod.mk caller) }

def runCalls (handler : GatewayHandler Redis State) (tracing : TracingConfig)
    (env : GatewayEnv Redis State) (requests : List HttpRequest) (schedule : List Nat) :
    Run Redis State := schedule.foldl (turn handler tracing) (start env requests)

end TgwCallRuns
