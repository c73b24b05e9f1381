import TgwGateway.Gateway.HandlerExits
import TgwGateway.Gateway.IdentityHeaders
import TgwGateway.Gateway.RuleSelection

/- Which requests get past the gateway: those with a route, a public path or an accepted token
   whose role is listed, and room in their rate limit. All others are answered on the way. -/
namespace TgwMediation
open ByteStrings LongestPrefix TgwClock TgwConfig TgwHttp TgwRouteRule TgwAuthFilter
open TgwTokenService TgwRateLimitFilter TgwGatewayHandler TgwHandlerTrace TgwIdentityHeaders
open TgwRuleSelection TgwHandlerExits
variable {Redis State : Type}

/-- RequireAuth of the process entry point: the handler behind the filter, if there is one. -/
def requireAuth (authFilter : Option AuthFilter)
    (handler : HttpRequest → Env State → HttpResponse × Env State) :
    HttpRequest → Env State → HttpResponse × Env State :=
  fun request env =>
    match authFilter with
    | none => handler request env
    | some filter =>
      let result := filter.check request env
      if !result.1.allowed then (result.1.response, result.2) else handler request result.2

def PrefixRouted (manager : RouteRuleManager) (path : Bytes) : Prop :=
  ∃ route ∈ manager.routes,
    route.matchType = bytes "prefix" ∧ route.path ≠ [] ∧ Covers route.path path

def AcceptsToken (filter : AuthFilter) (request : HttpRequest) (env : Env State)
    (record : TokenRecord) : Prop :=
  ∃ service token, filter.tokenService = some service ∧
    findHeader request (bytes "Authorization") = bearer ++ token ∧
    (validateToken service token env).1 = some record

/-- The longest rule that covers the path, and the first one of that length. -/
def LongestRule (rules : List RbacRuleConfig) (path : Bytes) (rule : RbacRuleConfig) : Prop :=
  ∃ before later, rules = before ++ rule :: later ∧ Covers rule.path path ∧
    (∀ r ∈ before, Covers r.path path → r.path.length < rule.path.length) ∧
    (∀ r ∈ later, Covers r.path path → r.path.length ≤ rule.path.length)

def RoleListed (filter : AuthFilter) (path role : Bytes) : Prop :=
  filter.config.rbacEnabled = false ∨ (∀ rule ∈ filter.rbacRules, ¬ Covers rule.path path) ∨
    ∃ rule, LongestRule filter.rbacRules path rule ∧ role ∈ rule.roles

def Authorised (filter : AuthFilter) (request : HttpRequest) (env : Env State) : Prop :=
  request.path ∈ filter.config.publicPaths ∨
    ∃ record, AcceptsToken filter request env record ∧ RoleListed filter request.path record.role

def LimiterAllows (handler : GatewayHandler Redis State) (request : HttpRequest)
    (env : GatewayEnv Redis State) : Prop :=
  ∃ matched, handler.routeManager.matchPath request.path = some matched ∧
    (limitOutcome handler request env matched).1.allowed = true

/-- What one Handle call does, with the events it adds to the trace. -/
structure Mediated (handler : GatewayHandler Redis State) (filter : AuthFilter)
    (request : HttpRequest) (env : GatewayEnv Redis State) (events : List GatewayEvent)
    (out : HttpResponse × GatewayEnv Redis State) : Prop where
  calls_upstream_iff : (∃ ctx, .forwardContext ctx ∈ events) ↔
    PrefixRouted handler.routeManager request.path ∧
      Authorised filter request (authEnv handler request env) ∧ LimiterAllows handler request env
  not_found : ¬ PrefixRouted handler.routeManager request.path →
    out.1.status = 404 ∧ Untouched env.state out.2.state
  unauthorized : PrefixRouted handler.routeManager request.path →
    request.path ∉ filter.config.publicPaths →
    (∀ record, ¬ AcceptsToken filter request (authEnv handler request env) record) →
    out.1.status = 401 ∧ Untouched env.state out.2.state
  forbidden : PrefixRouted handler.routeManager request.path →
    request.path ∉ filter.config.publicPaths →
    ∀ record, AcceptsToken filter request (authEnv handler request env) record →
      ¬ RoleListed filter request.path record.role →
      out.1.status = 403 ∧ Untouched env.state out.2.state
  rate_limited : PrefixRouted handler.routeManager request.path →
    Authorised filter request (authEnv handler request env) → ¬ LimiterAllows handler request env →
    out.1.status = 429 ∧ out.2.state.upstream = env.state.upstream

/-- A wrapped handler is run on the request exactly when the filter lets the request through;
    otherwise the answer is the same for every handler. -/
structure Guarded (filter : AuthFilter) (request : HttpRequest) (env : Env State) : Prop where
  runs : Authorised filter request env → ∀ handler,
    requireAuth (some filter) handler request env = handler request (filter.check request env).2
  unauthorized : request.path ∉ filter.config.publicPaths →
    (∀ record, ¬ AcceptsToken filter request env record) →
    ∃ out : HttpResponse × Env State, out.1.status = 401 ∧ out.2.state = env.state ∧
      ∀ handler, requireAuth (some filter) handler request env = out
  forbidden : request.path ∉ filter.config.publicPaths →
    ∀ record, AcceptsToken filter request env record →
      ¬ RoleListed filter request.path record.role →
      ∃ out : HttpResponse × Env State, out.1.status = 403 ∧ out.2.state = env.state ∧
        ∀ handler, requireAuth (some filter) handler request env = out

section routing

theorem matchPath_isSome_iff (manager : RouteRuleManager) (path : Bytes) :
    (∃ matched, manager.matchPath path = some matched) ↔ PrefixRouted manager path := by
  simp only [RouteRuleManager.matchPath, Option.map_eq_some_iff]
  constructor
  · rintro ⟨matched, route, found, _⟩
    have accepted := List.find?_some found
    simp only [Bool.and_eq_true, beq_iff_eq, isPrefixMatch_iff] at accepted
    exact ⟨route, List.mem_of_find?_eq_some found, accepted.1, accepted.2⟩
  · rintro ⟨route, member, own, nonempty, covers⟩
    cases found : manager.routes.find? fun route =>
        route.matchType == bytes "prefix" && TgwRouteRule.isPrefixMatch route.path path with
    | some route => exact ⟨_, route, rfl, rfl⟩
    | none =>
      have refused := List.find?_eq_none.mp found route member
      simp only [own, BEq.rfl, Bool.true_and] at refused
      exact absurd (isPrefixMatch_iff.mpr ⟨nonempty, covers⟩) refused

end routing

section authorisation
variable (filter : AuthFilter) (request : HttpRequest) (env : Env State)

theorem isPublicPath_iff (path : Bytes) :
    filter.isPublicPath path = true ↔ path ∈ filter.config.publicPaths := by
  simp [AuthFilter.isPublicPath]

theorem bearerRecord_iff (record : TokenRecord) :
    bearerRecord filter request env = some record ↔ AcceptsToken filter request env record := by
  unfold bearerRecord AcceptsToken
  cases filter.tokenService with
  | none => simp
  | some service =>
    simp only [Option.some.injEq, exists_and_left, exists_eq_left']
    constructor
    · intro found
      by_cases starts : startsWith (findHeader request (bytes "Authorization")) bearer = true
      · obtain ⟨token, rest⟩ := List.isPrefixOf_iff_prefix.mp starts
        rw [if_pos starts, ← rest, List.drop_left] at found
        exact ⟨token, rest.symm, found⟩
      · rw [if_neg starts] at found
        cases found
    · rintro ⟨token, carried, found⟩
      have starts : startsWith (bearer ++ token) bearer = true :=
        List.isPrefixOf_iff_prefix.mpr (List.prefix_append _ _)
      simpa [carried, starts] using found

variable {filter request env} in
theorem accepts_unique {record record' : TokenRecord}
    (one : AcceptsToken filter request env record)
    (other : AcceptsToken filter request env record') : record = record' := by
  rw [← bearerRecord_iff] at one other
  rwa [one, Option.some.injEq] at other

theorem bestRuleLoop_iff (path : Bytes) (rules : List RbacRuleConfig) (rule : RbacRuleConfig) :
    bestRuleLoop path rules none = some rule ↔ LongestRule rules path rule := by
  rw [bestRuleLoop_eq_scan, scan_eq_some_iff]
  simp [Chosen, LongestRule, coversPath_iff, prefers]

theorem isRoleAllowed_iff (path role : Bytes) :
    filter.isRoleAllowed path role = true ↔ RoleListed filter path role := by
  rw [isRoleAllowed_eq, Bool.or_eq_true, RoleListed, Bool.not_eq_true']
  refine or_congr Iff.rfl ?_
  cases found : bestRuleLoop path filter.rbacRules none with
  | none =>
    have uncovered : ∀ rule ∈ filter.rbacRules, ¬ Covers rule.path path := by
      rw [bestRuleLoop_eq_scan] at found
      intro rule member covers
      have refused := scan_eq_none_iff.mp found rule member
      rw [coversPath_iff.mpr covers] at refused
      exact absurd refused (by simp)
    simpa using Or.inl uncovered
  | some rule =>
    have longest := (bestRuleLoop_iff path filter.rbacRules rule).mp found
    obtain ⟨before, later, split, covers, _⟩ := id longest
    simp only [Option.all_some, List.contains_iff_mem]
    constructor
    · exact fun listed => Or.inr ⟨rule, longest, listed⟩
    · rintro (uncovered | ⟨other, longest', listed⟩)
      · exact absurd covers (uncovered rule (by simp [split]))
      · have same := (bestRuleLoop_iff path filter.rbacRules other).mpr longest'
        rw [found, Option.some.injEq] at same
        exact same ▸ listed

variable (enabled : filter.config.enabled = true)
include enabled

theorem check_cases :
    Authorised filter request env ∧ (filter.check request env).1.allowed = true ∨
    request.path ∉ filter.config.publicPaths ∧
      (∀ record, ¬ AcceptsToken filter request env record) ∧
      (filter.check request env).1.allowed = false ∧
      (filter.check request env).1.response.status = 401 ∨
    request.path ∉ filter.config.publicPaths ∧
      (∃ record, AcceptsToken filter request env record ∧
        ¬ RoleListed filter request.path record.role) ∧
      (filter.check request env).1.allowed = false ∧
      (filter.check request env).1.response.status = 403 := by
  simp only [Authorised, ← isPublicPath_iff, ← bearerRecord_iff, ← isRoleAllowed_iff,
    bearerRecord, AuthFilter.check, enabled, Bool.not_true, Bool.false_or, Bool.not_eq_true]
  cases filter.isPublicPath request.path with
  | true => simp
  | false =>
    cases filter.tokenService with
    | none => simp [unauthorized, errorResponse]
    | some service =>
      simp only [Bool.false_eq_true, ↓reduceIte, false_or, true_and]
      cases startsWith (findHeader request (bytes "Authorization")) bearer with
      | false => simp [unauthorized, errorResponse]
      | true =>
        simp only [Bool.not_true, Bool.false_eq_true, ↓reduceIte]
        generalize validateToken service
          ((findHeader request (bytes "Authorization")).drop bearer.length) env = validated
        obtain ⟨record?, after⟩ := validated
        cases record? with
        | none => simp [unauthorized, errorResponse]
        | some record =>
          simp only [Option.some.injEq, exists_eq_left']
          cases permitted : filter.isRoleAllowed request.path record.role with
          | true => simp
          | false => simp [forbidden, errorResponse]

theorem check_unauthorized (notPublic : request.path ∉ filter.config.publicPaths)
    (none : ∀ record, ¬ AcceptsToken filter request env record) :
    (filter.check request env).1.allowed = false ∧
      (filter.check request env).1.response.status = 401 := by
  rcases check_cases filter request env enabled with ⟨isPublic | ⟨record, accepted, _⟩, _⟩ |
    ⟨_, _, answered⟩ | ⟨_, ⟨record, accepted, _⟩, _⟩
  · exact absurd isPublic notPublic
  · exact absurd accepted (none record)
  · exact answered
  · exact absurd accepted (none record)

theorem check_forbidden (notPublic : request.path ∉ filter.config.publicPaths)
    {record : TokenRecord} (accepted : AcceptsToken filter request env record)
    (unlisted : ¬ RoleListed filter request.path record.role) :
    (filter.check request env).1.allowed = false ∧
      (filter.check request env).1.response.status = 403 := by
  rcases check_cases filter request env enabled with ⟨isPublic | ⟨record', accepted', listed⟩, _⟩ |
    ⟨_, none, _⟩ | ⟨_, _, answered⟩
  · exact absurd isPublic notPublic
  · exact absurd (accepts_unique accepted accepted' ▸ listed) unlisted
  · exact absurd accepted (none record)
  · exact answered

theorem check_allowed_iff :
    (filter.check request env).1.allowed = true ↔ Authorised filter request env := by
  rcases check_cases filter request env enabled with ⟨authorised, allowed⟩ |
    ⟨notPublic, none, refused, _⟩ | ⟨notPublic, ⟨record, accepted, unlisted⟩, refused, _⟩
  · simp [authorised, allowed]
  · simp only [refused, Bool.false_eq_true, false_iff]
    rintro (isPublic | ⟨record, accepted, _⟩)
    · exact notPublic isPublic
    · exact none record accepted
  · simp only [refused, Bool.false_eq_true, false_iff]
    rintro (isPublic | ⟨record', accepted', listed⟩)
    · exact notPublic isPublic
    · exact unlisted (accepts_unique accepted accepted' ▸ listed)

end authorisation

section limiter
variable {link : RedisLink Redis} {config : RateLimitConfig} {request : HttpRequest}
  {matched : RouteMatchResult} {env : RateLimitEnv Redis}

theorem checkBucket_refused {windowSeconds limit now : Int} {key requestId : Bytes}
    {found : Bucket}
    (refused : (checkBucket windowSeconds limit key requestId now found).1.allowed = false) :
    (checkBucket windowSeconds limit key requestId now found).1.response.status = 429 := by
  simp only [checkBucket] at refused ⊢
  generalize (if startsWindow windowSeconds now found = true then Bucket.mk now 0 else found) =
    bucket at refused ⊢
  split
  · rfl
  · rename_i below
    rw [if_neg below] at refused
    cases refused

theorem redisDecision_refused {redisKey requestId : Bytes} {windowSeconds limit count ttl : Int}
    (refused : (redisDecision redisKey requestId windowSeconds limit count ttl).allowed = false) :
    (redisDecision redisKey requestId windowSeconds limit count ttl).response.status = 429 := by
  simp only [redisDecision] at refused ⊢
  split
  · rfl
  · rename_i below
    rw [if_neg below] at refused
    cases refused

theorem check_refused (refused : (check link config request matched env).1.allowed = false) :
    (check link config request matched env).1.response.status = 429 := by
  revert refused
  unfold check
  cases config.enabled with
  | false => simp
  | true =>
    simp only [Bool.not_true, Bool.false_eq_true, ↓reduceIte]
    cases config.redis.enabled with
    | false => exact checkBucket_refused
    | true =>
      simp only [↓reduceIte, checkRedis]
      generalize countRequest link _ _ _ = counted
      obtain ⟨reply, redis⟩ := counted
      cases reply with
      | ok numbers => exact redisDecision_refused
      | error e =>
        cases config.redis.failOpen with
        | false => exact fun _ => rfl
        | true => exact checkBucket_refused

end limiter

theorem checkRateLimit_refused {handler : GatewayHandler Redis State} {request : HttpRequest}
    {matched : RouteMatchResult} {env : GatewayEnv Redis State}
    (refused : (checkRateLimit handler request matched env).1.allowed = false) :
    (checkRateLimit handler request matched env).1.response.status = 429 := by
  unfold checkRateLimit at refused ⊢
  cases limiter : handler.rateLimitFilter with
  | none => simp [limiter] at refused
  | some config =>
    simp only [limiter] at refused ⊢
    exact check_refused refused

section handler
variable (handler : GatewayHandler Redis State) (request : HttpRequest)
  (env : GatewayEnv Redis State)

theorem authOutcome_trace :
    (authOutcome handler request env).2.state.trace = env.state.trace := by
  rw [authOutcome, authenticate_state, authEnv, startGatewaySpan_trace, Env.tick_state]

theorem limitOutcome_trace (matched : RouteMatchResult) :
    (limitOutcome handler request env matched).2.state.trace =
      env.state.trace ++ keyEvents handler (forwardedRequest handler request env) matched := by
  rw [limitOutcome, checkRateLimit_trace, authOutcome_trace]

theorem no_context_in_keys (matched : RouteMatchResult) (ctx : ForwardContext) :
    .forwardContext ctx ∉ keyEvents handler request matched := by
  rcases keyEvents_cases handler with none | key
  · simp [none]
  · simp [key]

/-- The upstream client is called on one of the four exits only. -/
theorem exit_events {out : HttpResponse × GatewayEnv Redis State}
    (exit : HandleExit handler request env out) :
    ∃ events, out.2.state.trace = env.state.trace ++ events ∧
      ((∃ ctx, .forwardContext ctx ∈ events) ↔
        (authOutcome handler request env).1.allowed = true ∧
          LimiterAllows handler request env) := by
  cases exit with
  | noRoute unrouted =>
    refine ⟨[], ?_, by simp [LimiterAllows, unrouted]⟩
    rw [finish_trace, authEnv, startGatewaySpan_trace, Env.tick_state, List.append_nil]
  | rejected matched routed refused =>
    exact ⟨[], by rw [finish_trace, authOutcome_trace, List.append_nil], by simp [refused]⟩
  | limited matched routed authenticated refused =>
    refine ⟨_, by rw [finish_trace, limitOutcome_trace], ?_⟩
    simp [no_context_in_keys, LimiterAllows, routed, refused]
  | forwarded matched routed authenticated admitted =>
    obtain ⟨client, now, trace⟩ := forwardRequestTo_trace handler request
      (forwardedRequest handler request env) matched env.now (gatewaySpan handler request env)
      (limitOutcome handler request env matched).1 (limitOutcome handler request env matched).2
    rw [limitOutcome_trace, List.append_assoc] at trace
    refine ⟨_, trace, ?_⟩
    simp [LimiterAllows, routed, authenticated, admitted]

/-- Each way to end a call, with its reason and its answer. -/
def Answer (out : HttpResponse × GatewayEnv Redis State) : Prop :=
  ¬ PrefixRouted handler.routeManager request.path ∧ out.1.status = 404 ∧
    Untouched env.state out.2.state ∨
  PrefixRouted handler.routeManager request.path ∧
    (authOutcome handler request env).1.allowed = false ∧
    out.1.status = (authOutcome handler request env).1.response.status ∧
    Untouched env.state out.2.state ∨
  PrefixRouted handler.routeManager request.path ∧
    (authOutcome handler request env).1.allowed = true ∧ ¬ LimiterAllows handler request env ∧
    out.1.status = 429 ∧ out.2.state.upstream = env.state.upstream ∨
  PrefixRouted handler.routeManager request.path ∧
    (authOutcome handler request env).1.allowed = true ∧ LimiterAllows handler request env

variable {handler request env} {out : HttpResponse × GatewayEnv Redis State}

theorem exit_answer (exit : HandleExit handler request env out) :
    Answer handler request env out := by
  have routing := matchPath_isSome_iff handler.routeManager request.path
  cases exit with
  | noRoute unrouted =>
    refine Or.inl ⟨?_, by rw [finish_status]; rfl, ?_⟩
    · rw [← routing]
      simp [unrouted]
    · exact untouched_trans (authEnv_untouched handler request env) (finish_untouched ..)
  | rejected matched routed refused =>
    refine Or.inr (Or.inl ⟨routing.mp ⟨matched, routed⟩, refused, finish_status .., ?_⟩)
    exact untouched_trans (authOutcome_untouched handler request env) (finish_untouched ..)
  | limited matched routed authenticated refused =>
    refine Or.inr (Or.inr (Or.inl ⟨routing.mp ⟨matched, routed⟩, authenticated, ?_, ?_, ?_⟩))
    · rintro ⟨other, routed', admitted⟩
      rw [routed, Option.some.injEq] at routed'
      rw [← routed', refused] at admitted
      cases admitted
    · rw [finish_status]
      exact checkRateLimit_refused refused
    · rw [(finish_untouched ..).upstream, limitOutcome, checkRateLimit_upstream]
      exact (authOutcome_untouched handler request env).upstream
  | forwarded matched routed authenticated admitted =>
    exact Or.inr (Or.inr (Or.inr ⟨routing.mp ⟨matched, routed⟩, authenticated, matched, routed,
      admitted⟩))

theorem rejected_answer (answer : Answer handler request env out)
    (routed : PrefixRouted handler.routeManager request.path)
    (refused : (authOutcome handler request env).1.allowed = false) :
    out.1.status = (authOutcome handler request env).1.response.status ∧
      Untouched env.state out.2.state := by
  rcases answer with ⟨unrouted, _⟩ | ⟨_, _, answered⟩ | ⟨_, allowed, _⟩ | ⟨_, allowed, _⟩
  · exact absurd routed unrouted
  · exact answered
  · simp [refused] at allowed
  · simp [refused] at allowed

variable (handler request env)
variable (filter : AuthFilter) (installed : handler.authFilter = some filter)
include installed

theorem authOutcome_eq :
    authOutcome handler request env = filter.check request (authEnv handler request env) := by
  simp [authOutcome, authenticate, installed]

variable (enabled : filter.config.enabled = true)
include enabled

theorem handle_mediated :
    ∃ events, (handle handler request env).2.state.trace = env.state.trace ++ events ∧
      Mediated handler filter request env events (handle handler request env) := by
  have exit := handle_exit handler request env
  obtain ⟨events, trace, called⟩ := exit_events handler request env exit
  have answer := exit_answer exit
  have allowed_iff := check_allowed_iff filter request (authEnv handler request env) enabled
  have own := authOutcome_eq handler request env filter installed
  rw [← own] at allowed_iff
  refine ⟨events, trace, ?_, ?_, ?_, ?_, ?_⟩
  · rw [called, allowed_iff]
    constructor
    · rintro ⟨authorised, matched, routed, admitted⟩
      have known := (matchPath_isSome_iff handler.routeManager request.path).mp ⟨matched, routed⟩
      exact ⟨known, authorised, matched, routed, admitted⟩
    · exact And.right
  · intro unrouted
    rcases answer with ⟨_, status, untouched⟩ | ⟨routed, _⟩ | ⟨routed, _⟩ | ⟨routed, _⟩
    · exact ⟨status, untouched⟩
    · exact absurd routed unrouted
    · exact absurd routed unrouted
    · exact absurd routed unrouted
  · intro routed notPublic none
    obtain ⟨refused, status⟩ := check_unauthorized filter request _ enabled notPublic none
    rw [← own] at refused status
    exact status ▸ rejected_answer answer routed refused
  · intro routed notPublic record accepted unlisted
    obtain ⟨refused, status⟩ := check_forbidden filter request _ enabled notPublic accepted unlisted
    rw [← own] at refused status
    exact status ▸ rejected_answer answer routed refused
  · intro routed authorised full
    rw [← allowed_iff] at authorised
    rcases answer with ⟨unrouted, _⟩ | ⟨_, refused, _⟩ | ⟨_, _, _, status, upstream⟩ | ⟨_, _, admitted⟩
    · exact absurd routed unrouted
    · rw [authorised] at refused
      cases refused
    · exact ⟨status, upstream⟩
    · exact absurd admitted full

end handler

theorem require_auth_guarded (filter : AuthFilter) (request : HttpRequest) (env : Env State)
    (enabled : filter.config.enabled = true) : Guarded filter request env where
  runs := by
    intro authorised handler
    have allowed := (check_allowed_iff filter request env enabled).mpr authorised
    simp [requireAuth, allowed]
  unauthorized := by
    intro notPublic none
    obtain ⟨refused, status⟩ := check_unauthorized filter request env enabled notPublic none
    refine ⟨((filter.check request env).1.response, (filter.check request env).2), status,
      check_state filter request env, fun handler => ?_⟩
    simp [requireAuth, refused]
  forbidden := by
    intro notPublic record accepted unlisted
    obtain ⟨refused, status⟩ := check_forbidden filter request env enabled notPublic accepted
      unlisted
    refine ⟨((filter.check request env).1.response, (filter.check request env).2), status,
      check_state filter request env, fun handler => ?_⟩
    simp [requireAuth, refused]

/-- No way past the filter: neither through Handle nor through a wrapped handler. -/
theorem requests_mediated (handler : GatewayHandler Redis State) (filter : AuthFilter)
    (installed : handler.authFilter = some filter) (enabled : filter.config.enabled = true)
    (request : HttpRequest) (env : GatewayEnv Redis State) :
    (∃ events, (handle handler request env).2.state.trace = env.state.trace ++ events ∧
      Mediated handler filter request env events (handle handler request env)) ∧
    ∀ (Shared : Type) (wrapped : Env Shared), Guarded filter request wrapped :=
  ⟨handle_mediated handler request env filter installed enabled,
    fun _ wrapped => require_auth_guarded filter request wrapped enabled⟩

/-- An admin path asked for without a token, behind the default settings. -/
theorem requests_mediated_admin_path :
    let filter : AuthFilter := ⟨{}, [{ path := bytes "/admin", roles := [bytes "admin"] }], some {}⟩
    let handler : GatewayHandler Unit Unit := { loginHandler with authFilter := some filter }
    let request : HttpRequest := { method := bytes "GET", path := bytes "/admin/routes" }
    (∃ events, (handle handler request loginEnv).2.state.trace = loginEnv.state.trace ++ events ∧
      Mediated handler filter request loginEnv events (handle handler request loginEnv)) ∧
    ∀ (Shared : Type) (wrapped : Env Shared), Guarded filter request wrapped :=
  requests_mediated _ _ rfl rfl _ _

end TgwMediation
