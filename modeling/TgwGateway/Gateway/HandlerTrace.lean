import TgwGateway.Gateway.GatewayHandler

/- What one Handle call adds to the trace: the key of its rate limit check and the context it
   forwards. -/
namespace TgwHandlerTrace
open ByteStrings TgwClock TgwConfig TgwHttp TgwRouteRule TgwAuthFilter TgwTokenService
open TgwRateLimitFilter TgwTracing TgwGatewayHandler
variable {Redis State : Type}

def authEnv (handler : GatewayHandler Redis State) (request : HttpRequest)
    (env : GatewayEnv Redis State) : GatewayEnv Redis State :=
  (startGatewaySpan handler request env.tick).2

@[simp] theorem onTracer_trace {Result : Type} (run : TracerEnv → Result × TracerEnv)
    (env : GatewayEnv Redis State) : (onTracer run env).2.state.trace = env.state.trace := rfl

@[simp] theorem onRateLimit_trace {Result : Type}
    (run : RateLimitEnv Redis → Result × RateLimitEnv Redis) (env : GatewayEnv Redis State) :
    (onRateLimit run env).2.state.trace = env.state.trace := rfl

@[simp] theorem onUpstream_trace {Result : Type} (run : Env State → Result × Env State)
    (env : GatewayEnv Redis State) : (onUpstream run env).2.state.trace = env.state.trace := rfl

@[simp] theorem emit_trace (env : GatewayEnv Redis State) (e : GatewayEvent) :
    (emit env e).state.trace = env.state.trace ++ [e] := rfl

theorem validateToken_state (config : AuthConfig) (token : Bytes) (env : Env State) :
    (validateToken config token env).2.state = env.state := by
  unfold validateToken
  split
  · rfl
  · split <;> rfl

theorem check_state (filter : AuthFilter) (request : HttpRequest) (env : Env State) :
    (filter.check request env).2.state = env.state := by
  unfold AuthFilter.check
  split
  · rfl
  · cases filter.tokenService with
    | none => rfl
    | some service =>
      have same := validateToken_state service
        ((findHeader request (bytes "Authorization")).drop bearer.length) env
      simp only
      split
      · rfl
      · split
        · rename_i validated
          rw [validated] at same
          exact same
        · rename_i validated
          rw [validated] at same
          split <;> exact same

@[simp] theorem authenticate_state (handler : GatewayHandler Redis State) (request : HttpRequest)
    (env : GatewayEnv Redis State) : (authenticate handler request env).2.state = env.state := by
  unfold authenticate
  split
  · exact check_state _ request env
  · rfl

@[simp] theorem startGatewaySpan_trace (handler : GatewayHandler Redis State)
    (request : HttpRequest) (env : GatewayEnv Redis State) :
    (startGatewaySpan handler request env).2.state.trace = env.state.trace := by
  unfold startGatewaySpan
  split <;> rfl

@[simp] theorem finish_trace (handler : GatewayHandler Redis State) (request : HttpRequest)
    (startedAt : Int) (span : TraceSpan) (rsp : HttpResponse) (upstream : Bytes)
    (env : GatewayEnv Redis State) :
    (finish handler request startedAt span rsp upstream env).2.state.trace = env.state.trace := by
  unfold finish
  cases handler.tracer <;> cases handler.hasMetrics <;> rfl

def keyEvents (handler : GatewayHandler Redis State) (forwardRequest : HttpRequest)
    (matched : RouteMatchResult) : List GatewayEvent :=
  match handler.rateLimitFilter with
  | some config =>
    if config.enabled then [.rateLimitKey (buildKey forwardRequest matched)] else []
  | none => []

theorem keyEvents_cases (handler : GatewayHandler Redis State) :
    (∀ r matched, keyEvents handler r matched = []) ∨
    ∀ r matched, keyEvents handler r matched = [.rateLimitKey (buildKey r matched)] := by
  cases limiter : handler.rateLimitFilter with
  | none => exact Or.inl fun r matched => by simp [keyEvents, limiter]
  | some config =>
    cases enabled : config.enabled with
    | false => exact Or.inl fun r matched => by simp [keyEvents, limiter, enabled]
    | true => exact Or.inr fun r matched => by simp [keyEvents, limiter, enabled]

theorem checkRateLimit_trace (handler : GatewayHandler Redis State) (forwardRequest : HttpRequest)
    (matched : RouteMatchResult) (env : GatewayEnv Redis State) :
    (checkRateLimit handler forwardRequest matched env).2.state.trace =
      env.state.trace ++ keyEvents handler forwardRequest matched := by
  cases limiter : handler.rateLimitFilter with
  | none => simp [checkRateLimit, keyEvents, limiter]
  | some config =>
    simp only [checkRateLimit, keyEvents, limiter, onRateLimit_trace]
    split <;> simp

theorem checkRateLimit_allowed (handler : GatewayHandler Redis State)
    (forwardRequest : HttpRequest) (matched : RouteMatchResult) (env : GatewayEnv Redis State)
    (unlimited : keyEvents handler forwardRequest matched = []) :
    (checkRateLimit handler forwardRequest matched env).1.allowed = true := by
  cases limiter : handler.rateLimitFilter with
  | none => simp [checkRateLimit, limiter]
  | some config =>
    cases enabled : config.enabled with
    | true => simp [keyEvents, limiter, enabled] at unlimited
    | false => simp [checkRateLimit, limiter, onRateLimit, Env.onPart, check, enabled]

/-- The events of a call whose authentication lets the request through. -/
structure Forwarded (handler : GatewayHandler Redis State) (forwardRequest : HttpRequest)
    (matched : RouteMatchResult) (events contexts : List GatewayEvent) : Prop where
  split : events = keyEvents handler forwardRequest matched ++ contexts
  built : ∀ e ∈ contexts, ∃ span now,
    e = .forwardContext (withClientSpan span (buildForwardContext forwardRequest matched now))
  reached : keyEvents handler forwardRequest matched = [] → contexts ≠ []

@[simp] theorem startUpstreamSpan_trace (handler : GatewayHandler Redis State) (span : TraceSpan)
    (ctx : ForwardContext) (env : GatewayEnv Redis State) :
    (startUpstreamSpan handler span ctx env).2.state.trace = env.state.trace := by
  unfold startUpstreamSpan
  split <;> rfl

@[simp] theorem finishUpstreamSpan_trace (handler : GatewayHandler Redis State)
    (request : HttpRequest) (span : TraceSpan) (ctx : ForwardContext) (status : Int)
    (env : GatewayEnv Redis State) :
    (finishUpstreamSpan handler request span ctx status env).state.trace = env.state.trace := by
  unfold finishUpstreamSpan
  split <;> rfl

theorem forwardRequestTo_trace (handler : GatewayHandler Redis State)
    (request forwardRequest : HttpRequest) (matched : RouteMatchResult) (startedAt : Int)
    (span : TraceSpan) (decision : RateLimitDecision) (env : GatewayEnv Redis State) :
    ∃ client now, (forwardRequestTo handler request forwardRequest matched startedAt span decision
      env).2.state.trace = env.state.trace ++
        [.forwardContext (withClientSpan client (buildForwardContext forwardRequest matched now))] := by
  simp only [forwardRequestTo, finish_trace, finishUpstreamSpan_trace, onUpstream_trace, emit_trace,
    startUpstreamSpan_trace]
  exact ⟨_, _, rfl⟩

section handle
variable (handler : GatewayHandler Redis State) (request : HttpRequest)
  (env : GatewayEnv Redis State)

theorem handle_unrouted (unrouted : handler.routeManager.matchPath request.path = none) :
    (handle handler request env).2.state.trace = env.state.trace := by
  simp [handle, unrouted]

theorem handle_rejected {matched : RouteMatchResult}
    (routed : handler.routeManager.matchPath request.path = some matched)
    (rejected : (authenticate handler request (authEnv handler request env)).1.allowed = false) :
    (handle handler request env).2.state.trace = env.state.trace := by
  rw [authEnv] at rejected
  simp [handle, routed, rejected]

theorem handle_forwarded {matched : RouteMatchResult}
    (routed : handler.routeManager.matchPath request.path = some matched)
    (allowed : (authenticate handler request (authEnv handler request env)).1.allowed = true) :
    ∃ events contexts, (handle handler request env).2.state.trace = env.state.trace ++ events ∧
      Forwarded handler
        (withIdentity (authenticate handler request (authEnv handler request env)).1
          (withTrace (startGatewaySpan handler request env.tick).1 request)) matched events
        contexts := by
  rw [authEnv] at allowed ⊢
  generalize fr : withIdentity (authenticate handler request
    (startGatewaySpan handler request env.tick).2).1
    (withTrace (startGatewaySpan handler request env.tick).1 request) = forwardRequest
  have keys := checkRateLimit_trace handler forwardRequest matched
    (authenticate handler request (startGatewaySpan handler request env.tick).2).2
  rw [authenticate_state, startGatewaySpan_trace, Env.tick_state] at keys
  cases limited : (checkRateLimit handler forwardRequest matched
      (authenticate handler request (startGatewaySpan handler request env.tick).2).2).1.allowed with
  | false =>
    refine ⟨_, [], ?_, ⟨(List.append_nil _).symm, by simp, ?_⟩⟩
    · simpa [handle, routed, allowed, fr, limited] using keys
    · intro unlimited
      rw [checkRateLimit_allowed handler forwardRequest matched _ unlimited] at limited
      simp at limited
  | true =>
    obtain ⟨client, now, trace⟩ := forwardRequestTo_trace handler request forwardRequest matched
      env.now (startGatewaySpan handler request env.tick).1
      (checkRateLimit handler forwardRequest matched
        (authenticate handler request (startGatewaySpan handler request env.tick).2).2).1
      (checkRateLimit handler forwardRequest matched
        (authenticate handler request (startGatewaySpan handler request env.tick).2).2).2
    rw [keys, List.append_assoc] at trace
    refine ⟨_, [.forwardContext (withClientSpan client (buildForwardContext forwardRequest matched
      now))], ?_, ⟨rfl, ?_, by simp⟩⟩
    · simpa [handle, routed, allowed, fr, limited] using trace
    · intro e member
      exact ⟨client, now, List.mem_singleton.mp member⟩

end handle

end TgwHandlerTrace
