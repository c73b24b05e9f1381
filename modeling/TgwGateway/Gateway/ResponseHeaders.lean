import TgwGateway.Gateway.HandlerExits
import TgwGateway.Gateway.IdentityHeaders
import TgwGateway.Gateway.LocalRpcErrors
import TgwGateway.Governance.ForwardLaws
import TgwGateway.Lib.HttpText
import TgwGateway.Observability.SpanIds

/- The headers that an answer may carry, whichever part of the gateway has put it together. -/
namespace TgwResponseHeaders
open ByteStrings DecimalText HttpText TgwClock TgwConfig TgwStatus TgwHttp TgwRouteRule
open TgwAuthFilter TgwRateLimitFilter TgwTracing TgwGatewayHandler TgwHandlerExits
open TgwGovernance (UpstreamClient)
variable {Redis State : Type}

section definitions

/-- The names that some part of the gateway gives to a header of an answer. -/
def gatewayHeaders : List Bytes := [
  bytes "X-Request-Id", bytes "X-Trace-Id", bytes "X-Span-Id",
  bytes "X-RateLimit-Limit", bytes "X-RateLimit-Remaining", bytes "X-RateLimit-Reset",
  bytes "X-Circuit-State", bytes "X-Debug-Forced", bytes "X-Governance-Timeout",
  bytes "X-Governance-Attempt", bytes "X-Governance-Elapsed-Ms", bytes "X-Governance-Fallback"]

def contentTypes : List Bytes :=
  [bytes "application/json", bytes "text/plain; version=0.0.4; charset=utf-8"]

/-- A status line has room for three digits. -/
def HasThreeDigits (status : Int) : Prop := 100 ≤ status ∧ status ≤ 999

instance (status : Int) : Decidable (HasThreeDigits status) :=
  inferInstanceAs (Decidable (_ ∧ _))

/-- The debug header that forces a status asks for no more than three digits, if it is there. -/
def ForcesThreeDigits (headers : ByteMap Bytes) : Prop :=
  TgwGovernance.headerToInt headers (bytes "X-Debug-Force-Status") 0 ≤ 999

instance (headers : ByteMap Bytes) : Decidable (ForcesThreeDigits headers) :=
  inferInstanceAs (Decidable (_ ≤ _))

structure HeaderFits (requestId name value : Bytes) : Prop where
  known : name ∈ gatewayHeaders
  own : name = bytes "X-Request-Id" → value = requestId
  line : OneLine value

/-- An answer with known headers only, on one line each, and with the id of its request if any. Its
    status has three digits unless the headers of the request force another. -/
structure Stamped (requestId : Bytes) (asked : ByteMap Bytes) (rsp : HttpResponse) : Prop where
  status : ForcesThreeDigits asked → HasThreeDigits rsp.status
  contentType : rsp.contentType ∈ contentTypes
  headers : ∀ (name value : Bytes), rsp.headers[name]? = some value →
    HeaderFits requestId name value

/-- An upstream client whose answers are of this kind, as long as the id of the call is one line. -/
def StampingClient (client : UpstreamClient State) : Prop :=
  ∀ ctx env, OneLine ctx.requestId → Stamped ctx.requestId ctx.headers (client ctx env).1

/-- What a parser of requests delivers: neither the id nor a header has a line end in it. -/
structure SingleLines (request : HttpRequest) : Prop where
  requestId : OneLine request.requestId
  headers : ∀ (name value : Bytes), request.headers[name]? = some value → OneLine value

end definitions

section headers
variable {requestId : Bytes} {asked : ByteMap Bytes}

theorem fits_own (line : OneLine requestId) :
    HeaderFits requestId (bytes "X-Request-Id") requestId :=
  ⟨by simp [gatewayHeaders], fun _ => rfl, line⟩

theorem fits_other {name value : Bytes} (known : name ∈ gatewayHeaders)
    (other : name ≠ bytes "X-Request-Id") (line : OneLine value) :
    HeaderFits requestId name value :=
  ⟨known, fun same => absurd same other, line⟩

theorem fits_insert {headers : ByteMap Bytes} {key text : Bytes}
    (old : ∀ name value, headers[name]? = some value → HeaderFits requestId name value)
    (new : HeaderFits requestId key text) (name value : Bytes)
    (found : (headers.insert key text)[name]? = some value) : HeaderFits requestId name value := by
  rw [Std.ExtTreeMap.getElem?_insert] at found
  split at found
  · rename_i same
    obtain rfl := Std.LawfulEqCmp.eq_of_compare same
    obtain rfl := Option.some.inj found
    exact new
  · exact old name value found

theorem Stamped.setHeader {rsp : HttpResponse} (stamped : Stamped requestId asked rsp)
    {name value : Bytes} (fits : HeaderFits requestId name value) :
    Stamped requestId asked (rsp.setHeader name value) :=
  ⟨stamped.status, stamped.contentType, fits_insert stamped.headers fits⟩

theorem stamped_json {status : Int} {body : Bytes}
    (digits : ForcesThreeDigits asked → HasThreeDigits status) (line : OneLine requestId) :
    Stamped requestId asked
      { status := status, contentType := bytes "application/json", body := body
        headers := (∅ : ByteMap Bytes).insert (bytes "X-Request-Id") requestId } :=
  ⟨digits, by simp [contentTypes], fits_insert (by simp) (fits_own line)⟩

theorem stamped_plain : Stamped requestId asked {} :=
  ⟨fun _ => by decide, by simp [contentTypes], by simp⟩

/-- Only the forced status matters among the headers of a request. -/
theorem Stamped.asked_as {other : ByteMap Bytes} {rsp : HttpResponse}
    (stamped : Stamped requestId asked rsp)
    (same : ForcesThreeDigits other → ForcesThreeDigits asked) : Stamped requestId other rsp :=
  ⟨fun forced => stamped.status (same forced), stamped.contentType, stamped.headers⟩

theorem Stamped.fits {rsp : HttpResponse} (stamped : Stamped requestId asked rsp) :
    ∀ header ∈ rsp.headers.toList, HeaderFits requestId header.1 header.2 := by
  intro header listed
  have held := Std.ExtTreeMap.mem_toList_iff_getElem?_eq_some.mp listed
  exact stamped.headers header.1 header.2 held

theorem intText_line (n : Int) : OneLine (intText n) := (intText_visible n).oneLine

theorem hexId_line {size : Nat} {id : Bytes} (hex : TgwSpanIds.HexId size id) : OneLine id := by
  intro c inside
  have lower := hex.2 c inside
  constructor <;> (rintro rfl; exact absurd lower (by decide))

end headers

section filters
variable {request : HttpRequest} {asked : ByteMap Bytes}

theorem check_stamped (filter : AuthFilter) (env : Env State) (line : OneLine request.requestId) :
    Stamped request.requestId asked (filter.check request env).1.response := by
  have refused : ∀ status code message, HasThreeDigits status →
      Stamped request.requestId asked (errorResponse status code message request.requestId) :=
    fun _ _ _ digits => stamped_json (fun _ => digits) line
  unfold AuthFilter.check
  split
  · exact stamped_plain
  · split
    · exact refused 401 _ _ (by decide)
    · simp only
      split
      · exact refused 401 _ _ (by decide)
      · split
        · exact refused 401 _ _ (by decide)
        · split
          · exact refused 403 _ _ (by decide)
          · exact stamped_plain

theorem tooManyRequests_stamped {requestId : Bytes} (line : OneLine requestId)
    (limit remaining resetSeconds : Int) :
    Stamped requestId asked (tooManyRequests requestId limit remaining resetSeconds) := by
  refine ⟨fun _ => (by decide : HasThreeDigits 429), by simp [tooManyRequests, contentTypes], ?_⟩
  refine fits_insert (fits_insert (fits_insert (fits_insert (by simp) (fits_own line)) ?_) ?_) ?_
  · exact fits_other (by simp [gatewayHeaders]) (by decide) (intText_line limit)
  · exact fits_other (by simp [gatewayHeaders]) (by decide) (intText_line remaining)
  · exact fits_other (by simp [gatewayHeaders]) (by decide) (intText_line resetSeconds)

theorem check_limited_stamped (link : RedisLink Redis) (config : RateLimitConfig)
    (matched : RouteMatchResult) (env : RateLimitEnv Redis) (line : OneLine request.requestId) :
    Stamped request.requestId asked
      (TgwRateLimitFilter.check link config request matched env).1.response := by
  have bucket : ∀ windowSeconds limit key now found, Stamped request.requestId asked
      (checkBucket windowSeconds limit key request.requestId now found).1.response := by
    intro windowSeconds limit key now found
    simp only [checkBucket]
    generalize (if startsWindow windowSeconds now found = true then Bucket.mk now 0 else found) =
      started
    split
    · exact tooManyRequests_stamped line _ _ _
    · exact stamped_plain
  have redis : ∀ key windowSeconds limit count ttl, Stamped request.requestId asked
      (redisDecision key request.requestId windowSeconds limit count ttl).response := by
    intro key windowSeconds limit count ttl
    simp only [redisDecision]
    split
    · exact tooManyRequests_stamped line _ _ _
    · exact stamped_plain
  unfold TgwRateLimitFilter.check
  split
  · exact stamped_plain
  · simp only
    split
    · simp only [checkRedis]
      generalize countRequest link _ _ _ = counted
      obtain ⟨reply, rest⟩ := counted
      cases reply with
      | ok numbers => exact redis _ _ _ _ _
      | error e =>
        simp only
        split
        · exact tooManyRequests_stamped line _ _ _
        · exact bucket _ _ _ _ _
    · exact bucket _ _ _ _ _

end filters

section governance
open TgwGovernance TgwForwardLaws
variable {inner : UpstreamClient State} {config : GovernanceConfig} {ctx : ForwardContext}

theorem error_stamped {requestId : Bytes} {asked : ByteMap Bytes} (line : OneLine requestId)
    {status : Int} (digits : ForcesThreeDigits asked → HasThreeDigits status) (code : ErrorCode)
    (message : Bytes) :
    Stamped requestId asked (buildErrorResponse status code message requestId) :=
  stamped_json digits line

def Ended (ctx : ForwardContext) : LoopExit → Prop
  | .returned rsp => Stamped ctx.requestId ctx.headers rsp
  | .left last => ∀ rsp ∈ last, Stamped ctx.requestId ctx.headers rsp

variable (line : OneLine ctx.requestId)
include line

theorem timeout_stamped (attempt : Int) :
    Stamped ctx.requestId ctx.headers (timeoutResponse ctx attempt) := by
  refine ((error_stamped line (fun _ => by decide) _ _).setHeader ?_).setHeader ?_
  · exact fits_other (by simp [gatewayHeaders]) (by decide) (by decide)
  · exact fits_other (by simp [gatewayHeaders]) (by decide) (intText_line attempt)

theorem fallback_stamped (reason : Bytes) :
    Stamped ctx.requestId ctx.headers (fallbackResponse config ctx reason) := by
  refine ⟨fun _ => (by decide : HasThreeDigits 200), by simp [fallbackResponse, contentTypes], ?_⟩
  refine fits_insert (fits_insert (fits_insert (by simp) (fits_own line)) ?_) ?_
  · exact fits_other (by simp [gatewayHeaders]) (by decide) (by decide)
  · exact fits_other (by simp [gatewayHeaders]) (by decide) (by decide)

theorem circuitOpen_stamped :
    Stamped ctx.requestId ctx.headers (circuitOpenResponse config ctx) := by
  unfold circuitOpenResponse
  split
  · exact fallback_stamped line _
  · refine (error_stamped line (fun _ => by decide) _ _).setHeader ?_
    exact fits_other (by simp [gatewayHeaders]) (by decide) (by decide)

variable (stamping : StampingClient inner)
include stamping

theorem callOnce_stamped (env : GovernanceEnv State) :
    Stamped ctx.requestId ctx.headers (callOnce inner ctx env).1 := by
  unfold callOnce
  extract_lets debugSleepMs slept done debugForceStatus
  split
  · split
    · exact timeout_stamped line 1
    · split
      · rename_i failure
        have digits (forced : ForcesThreeDigits ctx.headers) : HasThreeDigits debugForceStatus :=
          ⟨le_trans (by decide) failure, forced⟩
        refine (error_stamped line digits _ _).setHeader ?_
        exact fits_other (by simp [gatewayHeaders]) (by decide) (by decide)
      · exact stamping ctx _ line
  · exact timeout_stamped line 1

theorem runAttempt_stamped (attempt : Int) (env : GovernanceEnv State) :
    Stamped ctx.requestId ctx.headers (runAttempt inner config ctx attempt env).1 := by
  unfold runAttempt
  extract_lets startedAt called elapsed done timedOut response env' stamped
  have answered : Stamped ctx.requestId ctx.headers response := by
    unfold response
    split
    · exact timeout_stamped line attempt
    · exact callOnce_stamped line stamping _
  refine (answered.setHeader ?_).setHeader ?_
  · exact fits_other (by simp [gatewayHeaders]) (by decide) (intText_line attempt)
  · exact fits_other (by simp [gatewayHeaders]) (by decide) (intText_line elapsed.1)

theorem forwardLoop_stamped (maxAttempts : Int) (left : Nat) (attempt : Int)
    (last : Option HttpResponse) (before : ∀ rsp ∈ last, Stamped ctx.requestId ctx.headers rsp)
    (env : GovernanceEnv State) :
    Ended ctx (forwardLoop inner config ctx maxAttempts left attempt last env).1 := by
  have timeout : ∀ attempt, ∀ rsp ∈ some (timeoutResponse ctx attempt),
      Stamped ctx.requestId ctx.headers rsp := by
    intro attempt rsp same
    obtain rfl := Option.some.inj same
    exact timeout_stamped line attempt
  induction left generalizing attempt last env with
  | zero => exact before
  | succ left ih =>
    unfold forwardLoop
    extract_lets done tried slept
    have answered : Stamped ctx.requestId ctx.headers tried.1 :=
      runAttempt_stamped line stamping attempt done.2
    have kept : ∀ rsp ∈ some tried.1, Stamped ctx.requestId ctx.headers rsp := by
      intro rsp same
      obtain rfl := Option.some.inj same
      exact answered
    split
    · exact timeout attempt
    · split
      · exact answered
      · split
        · exact kept
        · split
          · split
            · exact ih _ _ kept _
            · exact timeout attempt
          · exact ih _ _ kept _

omit line in
/-- Deadline, retries, breaker and fallback around a client keep its answers of this kind. -/
theorem forward_stamping : StampingClient (forward inner config) := by
  intro ctx env line
  cases enabled : config.enabled with
  | false =>
    rw [forward, enabled]
    exact stamping ctx _ line
  | true =>
    rw [forward_eq inner config ctx env enabled]
    split
    · have ended : Ended ctx (forwardLoop inner config ctx (attemptLimit config)
          (attemptLimit config).toNat 1 none (admission config ctx.upstream env).2).1 :=
        forwardLoop_stamped line stamping _ _ _ _ (by simp) _
      generalize forwardLoop inner config ctx (attemptLimit config) (attemptLimit config).toNat 1
        none (admission config ctx.upstream env).2 = exit at ended
      obtain ⟨way, after⟩ := exit
      cases way with
      | returned rsp => exact ended
      | left last =>
        cases last with
        | none => exact error_stamped line (fun _ => by decide) _ _
        | some last =>
          simp only [settle]
          split
          · exact fallback_stamped line _
          · exact ended last rfl
    · exact circuitOpen_stamped line

end governance

section local_rpc
open TgwExceptions TgwRpc TgwLocalRpc TgwLocalRpcErrors

def IsJsonAnswer (requestId : Bytes) (rsp : HttpResponse) : Prop :=
  ∃ status api, HasThreeDigits status ∧ rsp = buildJsonResponse status api requestId

theorem mapHttpStatus_digits (code : RpcCode) : HasThreeDigits (mapHttpStatus code) := by
  unfold mapHttpStatus
  split <;> decide

theorem rpc_answer (rpcMeta : RpcMeta) (data requestId : Bytes) :
    IsJsonAnswer requestId (buildRpcResponse rpcMeta data requestId) := by
  unfold buildRpcResponse
  split
  · exact ⟨200, _, by decide, rfl⟩
  · exact ⟨mapHttpStatus rpcMeta.code, _, mapHttpStatus_digits rpcMeta.code, rfl⟩

theorem callMethod_answer {Request : Type} (ctx : ForwardContext)
    (request : Except CppException Request)
    (call : Request → LocalRpcEnv State → HttpResponse × LocalRpcEnv State)
    (answered : ∀ req env, IsJsonAnswer ctx.requestId (call req env).1) (env : LocalRpcEnv State)
    {rsp : HttpResponse} (done : (callMethod ctx request call env).1 = .ok rsp) :
    IsJsonAnswer ctx.requestId rsp := by
  have late : IsJsonAnswer ctx.requestId (deadlineExceeded ctx) := ⟨504, _, by decide, rfl⟩
  unfold callMethod beforeDeadline at done
  simp only at done
  split at done
  · cases done
    exact late
  · split at done
    · cases done
    · split at done
      · cases done
        exact late
      · cases done
        exact answered _ _

theorem handleEndpoint_answer (services : LocalRpcServices State) (ctx : ForwardContext)
    (rpcCtx : RpcContext) (env : LocalRpcEnv State) (endpoint : Endpoint) {rsp : HttpResponse}
    (done : (handleEndpoint services ctx rpcCtx env endpoint).1 = .ok rsp) :
    IsJsonAnswer ctx.requestId rsp := by
  cases endpoint with
  | login => exact callMethod_answer ctx _ _ (fun _ _ => rpc_answer _ _ _) env done
  | getProfile => exact callMethod_answer ctx _ _ (fun _ _ => rpc_answer _ _ _) env done
  | createFileMeta => exact callMethod_answer ctx _ _ (fun _ _ => rpc_answer _ _ _) env done
  | getFileMeta => exact callMethod_answer ctx (.ok _) _ (fun _ _ => rpc_answer _ _ _) env done
  | createTask => exact callMethod_answer ctx _ _ (fun _ _ => rpc_answer _ _ _) env done
  | getTask => exact callMethod_answer ctx (.ok _) _ (fun _ _ => rpc_answer _ _ _) env done
  | submitTaskEvent => exact callMethod_answer ctx _ _ (fun _ _ => ⟨200, _, by decide, rfl⟩) env done

theorem localRpc_answer (services : LocalRpcServices State) (ctx : ForwardContext)
    (env : LocalRpcEnv State) :
    IsJsonAnswer ctx.requestId (TgwLocalRpc.forward services ctx env).1 := by
  have dispatched : ∀ rsp, (beforeDeadline ctx (dispatch services ctx) env).1 = .ok rsp →
      IsJsonAnswer ctx.requestId rsp := by
    intro rsp done
    unfold beforeDeadline at done
    simp only at done
    split at done
    · cases done
      exact ⟨504, _, by decide, rfl⟩
    · have found := dispatch_endpoint services ctx env.deadlineExceeded.2
      split at found
      · rw [found] at done
        exact handleEndpoint_answer services ctx _ _ _ done
      · obtain ⟨message, env', answer, _⟩ := found
        rw [answer] at done
        cases done
        exact ⟨404, _, by decide, rfl⟩
  unfold TgwLocalRpc.forward
  split
  · rename_i rsp _ handled
    exact dispatched rsp (by rw [handled])
  · exact ⟨400, _, by decide, rfl⟩
  · exact ⟨500, _, by decide, rfl⟩

theorem localRpc_stamping (services : LocalRpcServices State) :
    StampingClient (TgwLocalRpc.forward services) := by
  intro ctx env line
  obtain ⟨status, api, digits, same⟩ := localRpc_answer services ctx env
  rw [same]
  exact stamped_json (fun _ => digits) line

end local_rpc

section handler
variable {handler : GatewayHandler Redis State} {request : HttpRequest}

theorem finish_stamped {span : TraceSpan} {rsp : HttpResponse} (traceLine : OneLine span.traceId)
    (spanLine : OneLine span.spanId) (stamped : Stamped request.requestId request.headers rsp)
    (startedAt : Int) (upstream : Bytes) (env : GatewayEnv Redis State) :
    Stamped request.requestId request.headers
      (finish handler request startedAt span rsp upstream env).1 := by
  unfold finish
  extract_lets elapsed env
  cases handler.tracer with
  | none => exact stamped
  | some tracing =>
    have traced : Stamped request.requestId request.headers
        (if tracing.exposeDebugHeaders && !span.traceId.isEmpty then
          rsp.setHeader (bytes "X-Trace-Id") span.traceId else rsp) := by
      split
      · exact stamped.setHeader (fits_other (by simp [gatewayHeaders]) (by decide) traceLine)
      · exact stamped
    simp only
    split
    · exact traced.setHeader (fits_other (by simp [gatewayHeaders]) (by decide) spanLine)
    · exact traced

theorem traceParent_line {text : Bytes} (line : OneLine text) :
    OneLine (extractTraceIdFromTraceParent text) := by
  unfold extractTraceIdFromTraceParent
  split
  · exact fun c inside => line c (List.mem_of_mem_drop (List.mem_of_mem_take inside))
  · exact oneLine_nil

theorem extractTraceId_line (lines : SingleLines request) (config : TracingConfig) :
    OneLine (extractTraceIdFromRequest config request) := by
  have header : OneLine (fromTraceParent config request extractTraceIdFromTraceParent) := by
    unfold fromTraceParent
    split
    · split
      · rename_i text found
        exact traceParent_line (lines.headers _ _ found)
      · exact oneLine_nil
    · exact oneLine_nil
  unfold extractTraceIdFromRequest nonemptyHeader
  split
  · rename_i value custom
    split at custom
    · rename_i text found
      split at custom
      · cases custom
      · obtain rfl := Option.some.inj custom
        exact lines.headers _ _ found
    · cases custom
  · exact header

theorem startServerSpan_lines (lines : SingleLines request) (config : TracingConfig) (name : Bytes)
    (env : TracerEnv) :
    OneLine (startServerSpan config request name env).1.traceId ∧
      OneLine (startServerSpan config request name env).1.spanId := by
  unfold startServerSpan
  extract_lets startedAt startUnixMs ticked sample span extracted trace own
  split
  · exact ⟨oneLine_nil, oneLine_nil⟩
  · refine ⟨?_, hexId_line (TgwSpanIds.generateId_hex 8 16 trace.2)⟩
    show OneLine trace.1
    unfold trace
    split
    · exact hexId_line (TgwSpanIds.generateId_hex 24 32 _)
    · exact extractTraceId_line lines config

theorem gatewaySpan_lines (handler : GatewayHandler Redis State) (lines : SingleLines request)
    (env : GatewayEnv Redis State) :
    OneLine (gatewaySpan handler request env).traceId ∧
      OneLine (gatewaySpan handler request env).spanId := by
  unfold gatewaySpan startGatewaySpan
  split
  · exact startServerSpan_lines lines _ _ _
  · exact ⟨oneLine_nil, oneLine_nil⟩

theorem forwardedRequest_requestId (env : GatewayEnv Redis State) :
    (forwardedRequest handler request env).requestId = request.requestId := by
  unfold forwardedRequest withIdentity withTrace putNonempty putHeader
  split_ifs <;> rfl

theorem forwardedRequest_forced (env : GatewayEnv Redis State) :
    (forwardedRequest handler request env).headers[bytes "X-Debug-Force-Status"]? =
      request.headers[bytes "X-Debug-Force-Status"]? := by
  unfold forwardedRequest withIdentity withTrace putNonempty
  split_ifs <;> simp +decide [TgwIdentityHeaders.putHeader_lookup]

theorem context_forced (span : TraceSpan) (matched : RouteMatchResult) (now : Int)
    (env : GatewayEnv Redis State) (forced : ForcesThreeDigits request.headers) :
    ForcesThreeDigits (withClientSpan span
      (buildForwardContext (forwardedRequest handler request env) matched now)).headers := by
  unfold ForcesThreeDigits TgwGovernance.headerToInt at forced ⊢
  rwa [TgwIdentityHeaders.context_copied (by decide) (by decide), forwardedRequest_forced]

theorem withRateLimitHeaders_stamped {rsp : HttpResponse} {requestId : Bytes}
    {asked : ByteMap Bytes} (stamped : Stamped requestId asked rsp) (decision : RateLimitDecision) :
    Stamped requestId asked (withRateLimitHeaders handler decision rsp) := by
  unfold withRateLimitHeaders
  split
  · refine ((stamped.setHeader ?_).setHeader ?_).setHeader ?_
    · exact fits_other (by simp [gatewayHeaders]) (by decide) (intText_line decision.limit)
    · exact fits_other (by simp [gatewayHeaders]) (by decide) (intText_line decision.remaining)
    · exact fits_other (by simp [gatewayHeaders]) (by decide) (intText_line decision.resetSeconds)
  · exact stamped

theorem authOutcome_stamped (line : OneLine request.requestId) (env : GatewayEnv Redis State) :
    Stamped request.requestId request.headers (authOutcome handler request env).1.response := by
  unfold authOutcome authenticate
  split
  · exact check_stamped _ _ line
  · exact stamped_plain

theorem limitOutcome_stamped (line : OneLine request.requestId) (env : GatewayEnv Redis State)
    (matched : RouteMatchResult) :
    Stamped request.requestId request.headers
      (limitOutcome handler request env matched).1.response := by
  have own : (forwardedRequest handler request env).requestId = request.requestId :=
    forwardedRequest_requestId env
  unfold limitOutcome checkRateLimit
  split
  · rw [← own] at line ⊢
    exact check_limited_stamped _ _ _ _ line
  · exact stamped_plain

/-- Every answer of Handle is stamped when those of its upstream client are. -/
theorem handle_stamped (stamping : StampingClient handler.upstreamClient)
    (lines : SingleLines request) (env : GatewayEnv Redis State) :
    Stamped request.requestId request.headers (handle handler request env).1 := by
  obtain ⟨traceLine, spanLine⟩ := gatewaySpan_lines handler lines env
  have exit := handle_exit handler request env
  generalize handle handler request env = out at exit
  cases exit with
  | noRoute unrouted =>
    exact finish_stamped traceLine spanLine (stamped_json (fun _ => by decide) lines.requestId) _ _ _
  | rejected matched routed refused =>
    exact finish_stamped traceLine spanLine (authOutcome_stamped lines.requestId env) _ _ _
  | limited matched routed authenticated refused =>
    exact finish_stamped traceLine spanLine (limitOutcome_stamped lines.requestId env matched) _ _ _
  | forwarded matched routed authenticated admitted =>
    have own : (forwardedRequest handler request env).requestId = request.requestId :=
      forwardedRequest_requestId env
    unfold forwardRequestTo
    extract_lets built started client ctx called after
    have id : ctx.requestId = request.requestId := own
    refine finish_stamped traceLine spanLine (withRateLimitHeaders_stamped ?_ _) _ _ _
    rw [← id]
    exact (stamping ctx _ (id ▸ lines.requestId)).asked_as (context_forced _ matched _ env)

end handler

end TgwResponseHeaders
