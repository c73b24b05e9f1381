import TgwGateway.Gateway.HandlerTrace

/- The four ways a Handle call ends, and what finishing a call leaves alone. -/
namespace TgwHandlerExits
open ByteStrings TgwClock TgwHttp TgwRouteRule TgwAuthFilter TgwRateLimitFilter TgwTracing
open TgwGatewayHandler TgwHandlerTrace
variable {Redis State : Type}

section stages
variable (handler : GatewayHandler Redis State) (request : HttpRequest)
  (env : GatewayEnv Redis State)

def gatewaySpan : TraceSpan := (startGatewaySpan handler request env.tick).1

def authOutcome : AuthResult × GatewayEnv Redis State :=
  authenticate handler request (authEnv handler request env)

def forwardedRequest : HttpRequest :=
  withIdentity (authOutcome handler request env).1
    (withTrace (gatewaySpan handler request env) request)

def limitOutcome (matched : RouteMatchResult) : RateLimitDecision × GatewayEnv Redis State :=
  checkRateLimit handler (forwardedRequest handler request env) matched
    (authOutcome handler request env).2

/-- Every call ends in one of these ways. -/
inductive HandleExit : HttpResponse × GatewayEnv Redis State → Prop where
  | noRoute (unrouted : handler.routeManager.matchPath request.path = none) :
      HandleExit (finish handler request env.now (gatewaySpan handler request env)
        (noRoute request.requestId) (bytes "none") (authEnv handler request env))
  | rejected (matched : RouteMatchResult)
      (routed : handler.routeManager.matchPath request.path = some matched)
      (refused : (authOutcome handler request env).1.allowed = false) :
      HandleExit (finish handler request env.now (gatewaySpan handler request env)
        (authOutcome handler request env).1.response matched.route.upstream
        (authOutcome handler request env).2)
  | limited (matched : RouteMatchResult)
      (routed : handler.routeManager.matchPath request.path = some matched)
      (authenticated : (authOutcome handler request env).1.allowed = true)
      (refused : (limitOutcome handler request env matched).1.allowed = false) :
      HandleExit (finish handler request env.now (gatewaySpan handler request env)
        (limitOutcome handler request env matched).1.response matched.route.upstream
        (limitOutcome handler request env matched).2)
  | forwarded (matched : RouteMatchResult)
      (routed : handler.routeManager.matchPath request.path = some matched)
      (authenticated : (authOutcome handler request env).1.allowed = true)
      (admitted : (limitOutcome handler request env matched).1.allowed = true) :
      HandleExit (forwardRequestTo handler request (forwardedRequest handler request env) matched
        env.now (gatewaySpan handler request env) (limitOutcome handler request env matched).1
        (limitOutcome handler request env matched).2)

theorem handle_exit : HandleExit handler request env (handle handler request env) := by
  cases routed : handler.routeManager.matchPath request.path with
  | none =>
    have run : handle handler request env = finish handler request env.now
        (gatewaySpan handler request env) (noRoute request.requestId) (bytes "none")
        (authEnv handler request env) := by simp [handle, routed, gatewaySpan, authEnv]
    exact run ▸ .noRoute routed
  | some matched =>
    cases authenticated : (authOutcome handler request env).1.allowed with
    | false =>
      have refused := authenticated
      rw [authOutcome, authEnv] at refused
      have run : handle handler request env = finish handler request env.now
          (gatewaySpan handler request env) (authOutcome handler request env).1.response
          matched.route.upstream (authOutcome handler request env).2 := by
        simp [handle, routed, refused, gatewaySpan, authOutcome, authEnv]
      exact run ▸ .rejected matched routed authenticated
    | true =>
      have accepted := authenticated
      rw [authOutcome, authEnv] at accepted
      cases admitted : (limitOutcome handler request env matched).1.allowed with
      | false =>
        have refused := admitted
        rw [limitOutcome, forwardedRequest, authOutcome, authEnv, gatewaySpan] at refused
        have run : handle handler request env = finish handler request env.now
            (gatewaySpan handler request env) (limitOutcome handler request env matched).1.response
            matched.route.upstream (limitOutcome handler request env matched).2 := by
          simp [handle, routed, accepted, refused, gatewaySpan, authOutcome, limitOutcome,
            forwardedRequest, authEnv]
        exact run ▸ .limited matched routed authenticated admitted
      | true =>
        have passed := admitted
        rw [limitOutcome, forwardedRequest, authOutcome, authEnv, gatewaySpan] at passed
        have run : handle handler request env = forwardRequestTo handler request
            (forwardedRequest handler request env) matched env.now
            (gatewaySpan handler request env) (limitOutcome handler request env matched).1
            (limitOutcome handler request env matched).2 := by
          simp [handle, routed, accepted, passed, gatewaySpan, authOutcome, limitOutcome,
            forwardedRequest, authEnv]
        exact run ▸ .forwarded matched routed authenticated admitted

end stages

structure Untouched (before after : GatewayState Redis State) : Prop where
  upstream : after.upstream = before.upstream
  rateLimit : after.rateLimit = before.rateLimit

theorem untouched_trans {a b c : GatewayState Redis State} (first : Untouched a b)
    (second : Untouched b c) : Untouched a c :=
  ⟨second.upstream.trans first.upstream, second.rateLimit.trans first.rateLimit⟩

section finish
variable (handler : GatewayHandler Redis State) (request : HttpRequest) (startedAt : Int)
  (span : TraceSpan) (rsp : HttpResponse) (upstream : Bytes) (env : GatewayEnv Redis State)

@[simp] theorem finish_status :
    (finish handler request startedAt span rsp upstream env).1.status = rsp.status := by
  unfold finish
  cases handler.tracer with
  | none => rfl
  | some tracing =>
    simp only
    split <;> split <;> rfl

theorem finish_untouched :
    Untouched env.state (finish handler request startedAt span rsp upstream env).2.state := by
  unfold finish
  cases handler.tracer <;> cases handler.hasMetrics <;> exact ⟨rfl, rfl⟩

end finish

section stages
variable (handler : GatewayHandler Redis State) (request : HttpRequest)
  (env : GatewayEnv Redis State)

theorem startGatewaySpan_untouched :
    Untouched env.state (startGatewaySpan handler request env).2.state := by
  unfold startGatewaySpan
  split <;> exact ⟨rfl, rfl⟩

theorem authEnv_untouched : Untouched env.state (authEnv handler request env).state :=
  startGatewaySpan_untouched handler request env.tick

theorem authOutcome_untouched :
    Untouched env.state (authOutcome handler request env).2.state := by
  rw [authOutcome, authenticate_state]
  exact authEnv_untouched handler request env

theorem checkRateLimit_upstream (matched : RouteMatchResult) :
    (checkRateLimit handler request matched env).2.state.upstream = env.state.upstream := by
  unfold checkRateLimit
  split
  · simp only
    split <;> rfl
  · rfl

end stages

end TgwHandlerExits
