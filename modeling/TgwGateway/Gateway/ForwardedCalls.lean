import TgwGateway.Gateway.CallRuns
import TgwGateway.Gateway.Mediation
import TgwGateway.Governance.InnerCalls

/- From Handle to the client behind the governance: a request that is answered with success was
   forwarded, and the answer is what the last call for it has returned, or a fallback that says so. -/
namespace TgwForwardedCalls
open ByteStrings TgwClock TgwConfig TgwHttp TgwRouteRule TgwTokenService TgwAuthFilter
open TgwRateLimitFilter TgwTracing TgwGatewayHandler TgwHandlerTrace TgwHandlerExits TgwMediation
open TgwCallRuns TgwInnerCalls
open TgwGovernance (UpstreamClient GovernanceState GovernanceEnv)
variable {Redis State : Type}

section clocks

theorem startServerSpan_onward (tracing : TracingConfig) (request : HttpRequest) (name : Bytes)
    (env : TracerEnv) : Onward env.system (startServerSpan tracing request name env).2.system := by
  unfold startServerSpan
  extract_lets startedAt startUnixMs ticked sample span extracted trace own
  split <;> exact onward_next _

theorem startClientSpan_onward (parent : TraceSpan) (name : Bytes) (env : TracerEnv) :
    Onward env.system (startClientSpan parent name env).2.system := by
  unfold startClientSpan
  extract_lets span ticked own
  split <;> exact onward_next _

theorem finishSpan_system (tracing : TracingConfig) (span : TraceSpan)
    (kind path upstream : Bytes) (status : Int) (attributes : ByteMap Bytes) (env : TracerEnv) :
    (finishSpan tracing span kind path upstream status attributes env).system = env.system := by
  unfold finishSpan
  split <;> rfl

variable (handler : GatewayHandler Redis State) (request : HttpRequest)
  (env : GatewayEnv Redis State)

theorem onTracer_onward {Result : Type} {run : TracerEnv → Result × TracerEnv}
    (timely : ∀ env, Onward env.system (run env).2.system) :
    Onward env.system (onTracer run env).2.system :=
  timely ⟨env.steady, env.system, env.deadline, env.state.tracer⟩

theorem startGatewaySpan_onward :
    Onward env.system (startGatewaySpan handler request env).2.system := by
  unfold startGatewaySpan
  split
  · exact onTracer_onward env (startServerSpan_onward _ _ _)
  · exact onward_refl _

theorem check_onward (filter : AuthFilter) (env : Env State) :
    Onward env.system (filter.check request env).2.system := by
  have validated : ∀ config token, Onward env.system (validateToken config token env).2.system := by
    intro config token
    unfold validateToken
    split
    · exact onward_refl _
    · split <;> exact onward_next _
  unfold AuthFilter.check
  split
  · exact onward_refl _
  · split
    · exact onward_refl _
    · rename_i service _
      extract_lets authorization token
      split
      · exact onward_refl _
      · have read := validated service token
        generalize validateToken service token env = out at read
        obtain ⟨record?, after⟩ := out
        cases record? with
        | none => exact read
        | some record =>
          simp only
          split <;> exact read

theorem authenticate_onward :
    Onward env.system (authenticate handler request env).2.system := by
  unfold authenticate
  split
  · exact check_onward request _ env
  · exact onward_refl _

theorem limiter_system (link : RedisLink Redis) (config : RateLimitConfig)
    (matched : RouteMatchResult) (env : RateLimitEnv Redis) :
    (check link config request matched env).2.system = env.system := by
  unfold check
  split
  · rfl
  · extract_lets windowSeconds limit key
    split
    · unfold checkRedis
      extract_lets redisKey counted ticked
      cases counted.1 with
      | ok numbers => rfl
      | error e =>
        simp only
        split <;> rfl
    · rfl

theorem checkRateLimit_system (matched : RouteMatchResult) :
    (checkRateLimit handler request matched env).2.system = env.system := by
  unfold checkRateLimit
  split
  · rename_i config _
    simp only [onRateLimit, Env.onPart, limiter_system]
    split <;> rfl
  · rfl

theorem startUpstreamSpan_onward (span : TraceSpan) (ctx : ForwardContext) :
    Onward env.system (startUpstreamSpan handler span ctx env).2.system := by
  unfold startUpstreamSpan
  split
  · exact onTracer_onward env (startClientSpan_onward _ _)
  · exact onward_refl _

theorem finishUpstreamSpan_system (span : TraceSpan) (ctx : ForwardContext) (status : Int) :
    (finishUpstreamSpan handler request span ctx status env).system = env.system := by
  unfold finishUpstreamSpan
  split
  · exact finishSpan_system _ _ _ _ _ _ _ _
  · rfl

theorem finish_system (startedAt : Int) (span : TraceSpan) (rsp : HttpResponse)
    (upstream : Bytes) :
    (finish handler request startedAt span rsp upstream env).2.system = env.system := by
  have recorded : (recordCall handler request startedAt rsp upstream env).system = env.system := by
    unfold recordCall
    split <;> rfl
  rw [finish_halves]
  unfold finishServerSpan
  split
  · exact recorded
  · exact (finishSpan_system _ _ _ _ _ _ _ _).trans recorded

end clocks

section answers

theorem fallback_setHeader {rsp : HttpResponse} {key : Bytes} (value : Bytes)
    (other : key ≠ bytes "X-Governance-Fallback") :
    IsFallback (rsp.setHeader key value) ↔ IsFallback rsp := by
  simp [IsFallback, HttpResponse.setHeader, Std.ExtTreeMap.getElem?_insert, other]

variable (handler : GatewayHandler Redis State) (request : HttpRequest)
  (env : GatewayEnv Redis State)

/-- What is added on the way back is neither the body nor the mark of a fallback. -/
theorem finish_answer (startedAt : Int) (span : TraceSpan) (rsp : HttpResponse)
    (upstream : Bytes) :
    (finish handler request startedAt span rsp upstream env).1.body = rsp.body ∧
      (IsFallback (finish handler request startedAt span rsp upstream env).1 ↔ IsFallback rsp) := by
  have traceId : bytes "X-Trace-Id" ≠ bytes "X-Governance-Fallback" := by decide
  have spanId : bytes "X-Span-Id" ≠ bytes "X-Governance-Fallback" := by decide
  rw [finish_halves]
  unfold finishServerSpan
  cases handler.tracer with
  | none => exact ⟨rfl, Iff.rfl⟩
  | some tracing =>
    simp only
    split
    · split
      · exact ⟨rfl, (fallback_setHeader _ spanId).trans (fallback_setHeader _ traceId)⟩
      · exact ⟨rfl, fallback_setHeader _ spanId⟩
    · split
      · exact ⟨rfl, fallback_setHeader _ traceId⟩
      · exact ⟨rfl, Iff.rfl⟩

theorem withRateLimitHeaders_answer (decision : RateLimitDecision) (rsp : HttpResponse) :
    (withRateLimitHeaders handler decision rsp).status = rsp.status ∧
      (withRateLimitHeaders handler decision rsp).body = rsp.body ∧
      (IsFallback (withRateLimitHeaders handler decision rsp) ↔ IsFallback rsp) := by
  unfold withRateLimitHeaders
  split
  · refine ⟨rfl, rfl, (fallback_setHeader _ ?_).trans ((fallback_setHeader _ ?_).trans
      (fallback_setHeader _ ?_))⟩ <;> decide
  · exact ⟨rfl, rfl, Iff.rfl⟩

theorem check_refused_status (filter : AuthFilter) (env : Env State)
    (refused : (filter.check request env).1.allowed = false) :
    (filter.check request env).1.response.status ≠ 200 := by
  cases enabled : filter.config.enabled with
  | false => simp [AuthFilter.check, enabled] at refused
  | true =>
    rcases check_cases filter request env enabled with ⟨_, allowed⟩ | ⟨_, _, _, status⟩ |
      ⟨_, _, _, status⟩
    · rw [refused] at allowed
      cases allowed
    · simp [status]
    · simp [status]

end answers

section calls

def ContextOf (handler : GatewayHandler Redis State) (request : HttpRequest)
    (env : GatewayEnv Redis State) (ctx : ForwardContext) : Prop :=
  ∃ matched now span, handler.routeManager.matchPath request.path = some matched ∧
    ctx = withClientSpan span
      (buildForwardContext (forwardedRequest handler request env) matched now)

variable {handler : GatewayHandler Redis (GovernanceState State)} {inner : UpstreamClient State}
  {config : GovernanceConfig}

section stages
variable (handler : GatewayHandler Redis State) (request : HttpRequest)
  (env : GatewayEnv Redis State)

theorem authEnv_onward : Onward env.system (authEnv handler request env).system :=
  startGatewaySpan_onward handler request env.tick

theorem authOutcome_onward : Onward env.system (authOutcome handler request env).2.system :=
  (authEnv_onward handler request env).trans (authenticate_onward handler request _)

theorem limitOutcome_onward (matched : RouteMatchResult) :
    Onward env.system (limitOutcome handler request env matched).2.system := by
  rw [limitOutcome, checkRateLimit_system]
  exact authOutcome_onward handler request env

theorem limitOutcome_upstream (matched : RouteMatchResult) :
    (limitOutcome handler request env matched).2.state.upstream = env.state.upstream := by
  rw [limitOutcome, checkRateLimit_upstream]
  exact (authOutcome_untouched handler request env).upstream

theorem authOutcome_refused (refused : (authOutcome handler request env).1.allowed = false) :
    (authOutcome handler request env).1.response.status ≠ 200 := by
  unfold authOutcome authenticate at refused ⊢
  cases filtered : handler.authFilter with
  | none => simp [filtered] at refused
  | some filter =>
    rw [filtered] at refused
    exact check_refused_status request filter _ refused

end stages

theorem finish_inner (handler : GatewayHandler Redis (GovernanceState State))
    (request : HttpRequest) (startedAt : Int) (span : TraceSpan) (rsp : HttpResponse)
    (upstream : Bytes) (env : GatewayEnv Redis (GovernanceState State)) :
    (finish handler request startedAt span rsp upstream env).2.state.upstream.inner =
      env.state.upstream.inner :=
  congrArg GovernanceState.inner (finish_untouched handler request startedAt span rsp upstream
    env).upstream

structure MadeFor (inner : UpstreamClient State) (config : GovernanceConfig) (ctx : ForwardContext)
    (env : GatewayEnv Redis (GovernanceState State))
    (out : HttpResponse × GatewayEnv Redis (GovernanceState State)) (calls : List (Env State)) :
    Prop where
  lead : CallsLead inner ctx env.state.upstream.inner calls out.2.state.upstream.inner
  found : ∀ call ∈ calls, Onward env.system call.system
  onward : Onward env.system out.2.system
  few : calls.length ≤ callLimit config ctx
  answered : FromLast inner ctx calls out.1

theorem forwardRequestTo_made
    (governed : handler.upstreamClient = TgwGovernance.forward inner config)
    (timely : TimelyClient inner) (request forwardRequest : HttpRequest)
    (matched : RouteMatchResult) (startedAt : Int) (span : TraceSpan)
    (decision : RateLimitDecision) (env : GatewayEnv Redis (GovernanceState State)) :
    ∃ client calls, MadeFor inner config
      (withClientSpan client (buildForwardContext forwardRequest matched env.now)) env
      (forwardRequestTo handler request forwardRequest matched startedAt span decision env) calls := by
  unfold forwardRequestTo
  extract_lets built clock client ctx called after
  have early : Onward env.system client.2.system :=
    startUpstreamSpan_onward handler { env.tick with deadline := built.deadline } span built
  have kept : client.2.state.upstream = env.state.upstream := by
    unfold client startUpstreamSpan
    split <;> rfl
  let entry : GovernanceEnv State :=
    ⟨client.2.steady, client.2.system, client.2.deadline, client.2.state.upstream⟩
  obtain ⟨calls, makes, answered⟩ : ∃ calls,
      Makes inner ctx (callLimit config ctx) entry (TgwGovernance.forward inner config ctx entry).2
        calls ∧ FromLast inner ctx calls (TgwGovernance.forward inner config ctx entry).1 :=
    forward_makes timely entry
  rw [← governed] at makes answered
  have finished := finish_answer handler request after startedAt span
    (withRateLimitHeaders handler decision called.1) ctx.upstream
  have limited := withRateLimitHeaders_answer handler decision called.1
  refine ⟨client.1, calls, ⟨?_, ?_, ?_, makes.few, ?_⟩⟩
  · have lead := makes.lead
    rw [show entry.state.inner = env.state.upstream.inner from congrArg _ kept] at lead
    rw [finish_inner]
    unfold after finishUpstreamSpan
    cases handler.tracer <;> exact lead
  · exact fun call listed => early.trans (makes.found call listed)
  · rw [finish_system, finishUpstreamSpan_system]
    exact early.trans makes.onward
  · intro success own
    rw [finish_status, limited.1] at success
    rw [finished.2, limited.2.2] at own
    obtain ⟨last, isLast, status, body⟩ := answered success own
    exact ⟨last, isLast, status, finished.1.trans (limited.2.1.trans body)⟩

/-- A request is forwarded, or it is answered with no success and nothing has been called. -/
theorem handle_forwards (governed : handler.upstreamClient = TgwGovernance.forward inner config)
    (timely : TimelyClient inner) (request : HttpRequest)
    (env : GatewayEnv Redis (GovernanceState State)) :
    ((handle handler request env).2.state.upstream.inner = env.state.upstream.inner ∧
        Onward env.system (handle handler request env).2.system ∧
        (handle handler request env).1.status ≠ 200) ∨
      ∃ ctx calls, ContextOf handler request env ctx ∧
        (authOutcome handler request env).1.allowed = true ∧
        MadeFor inner config ctx env (handle handler request env) calls := by
  have exit := handle_exit handler request env
  generalize handle handler request env = out at exit
  cases exit with
  | noRoute unrouted =>
    refine Or.inl ⟨?_, ?_, by simp [noRoute, errorResponse]⟩
    · rw [finish_inner, (authEnv_untouched handler request env).upstream]
    · rw [finish_system]
      exact authEnv_onward handler request env
  | rejected matched routed refused =>
    refine Or.inl ⟨?_, ?_, ?_⟩
    · rw [finish_inner, (authOutcome_untouched handler request env).upstream]
    · rw [finish_system]
      exact authOutcome_onward handler request env
    · rw [finish_status]
      exact authOutcome_refused handler request env refused
  | limited matched routed authenticated refused =>
    refine Or.inl ⟨?_, ?_, ?_⟩
    · rw [finish_inner, limitOutcome_upstream]
    · rw [finish_system]
      exact limitOutcome_onward handler request env matched
    · rw [finish_status, limitOutcome, checkRateLimit_refused refused]
      decide
  | forwarded matched routed authenticated admitted =>
    obtain ⟨client, calls, made⟩ := forwardRequestTo_made governed timely request
      (forwardedRequest handler request env) matched env.now (gatewaySpan handler request env)
      (limitOutcome handler request env matched).1 (limitOutcome handler request env matched).2
    have early := limitOutcome_onward handler request env matched
    refine Or.inr ⟨_, calls,
      ⟨matched, (limitOutcome handler request env matched).2.now, client, routed, rfl⟩,
      authenticated, ?_⟩
    have lead := made.lead
    rw [limitOutcome_upstream] at lead
    exact ⟨lead, fun call listed => early.trans (made.found call listed),
      early.trans made.onward, made.few, made.answered⟩

end calls

end TgwForwardedCalls
