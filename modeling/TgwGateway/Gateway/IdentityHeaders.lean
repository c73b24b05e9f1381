import TgwGateway.Gateway.HandlerTrace
import TgwGateway.Lib.ByteMaps

/- Whose identity the rate-limit key and the upstream see: the validated token's, unless the
   request gets through without a token for a user id above zero. -/
namespace TgwIdentityHeaders
open ByteStrings ByteMaps DecimalText TgwClock TgwConfig TgwHttp TgwRouteRule TgwAuthFilter
open TgwTokenService TgwRateLimitFilter TgwTracing TgwGatewayHandler TgwHandlerTrace
variable {Redis State : Type}

def identityHeaders : List Bytes := [bytes "X-User-Id", bytes "X-Username", bytes "X-Role"]

structure SameButIdentity (r other : HttpRequest) : Prop where
  method : r.method = other.method
  path : r.path = other.path
  query : r.query = other.query
  body : r.body = other.body
  clientIp : r.clientIp = other.clientIp
  requestId : r.requestId = other.requestId
  headers : ∀ key, key ∉ identityHeaders → r.headers[key]? = other.headers[key]?

def bearerRecord (filter : AuthFilter) (request : HttpRequest) (env : Env State) :
    Option TokenRecord :=
  match filter.tokenService with
  | none => none
  | some service =>
    let authorization := findHeader request (bytes "Authorization")
    if startsWith authorization bearer then
      (validateToken service (authorization.drop bearer.length) env).1
    else none

/-- The path needs a token, and no token for a user id of zero or below is let through. -/
def IdentityChecked (handler : GatewayHandler Redis State) (request : HttpRequest)
    (env : GatewayEnv Redis State) : Prop :=
  ∃ filter, handler.authFilter = some filter ∧ filter.config.enabled = true ∧
    filter.isPublicPath request.path = false ∧
    ∀ record, bearerRecord filter request env = some record →
      filter.isRoleAllowed request.path record.role = true → 0 < record.userId

section lookups

theorem putHeader_lookup (r : HttpRequest) (key value j : Bytes) :
    (putHeader r key value).headers[j]? = if key = j then some value else r.headers[j]? := by
  simp [putHeader, Std.ExtTreeMap.getElem?_insert]

theorem same_putHeader {r other : HttpRequest} (same : SameButIdentity r other)
    (key value : Bytes) : SameButIdentity (putHeader r key value) (putHeader other key value) where
  method := same.method
  path := same.path
  query := same.query
  body := same.body
  clientIp := same.clientIp
  requestId := same.requestId
  headers := by
    intro j outside
    rw [putHeader_lookup, putHeader_lookup, same.headers j outside]

theorem same_withTrace {r other : HttpRequest} (same : SameButIdentity r other)
    (span : TraceSpan) : SameButIdentity (withTrace span r) (withTrace span other) := by
  unfold withTrace putNonempty
  split
  · split
    · exact same
    · exact same_putHeader same _ _
  · split
    · exact same_putHeader same _ _
    · exact same_putHeader (same_putHeader same _ _) _ _

theorem withIdentity_lookup {result : AuthResult} (identified : 0 < result.userId)
    (r : HttpRequest) (j : Bytes) :
    (withIdentity result r).headers[j]? =
      if bytes "X-Role" = j then some result.role
      else if bytes "X-Username" = j then some result.username
      else if bytes "X-User-Id" = j then some (intText result.userId)
      else r.headers[j]? := by
  simp only [withIdentity, identified, ↓reduceIte, putHeader_lookup]

theorem same_withIdentity {r other : HttpRequest} (same : SameButIdentity r other)
    {result : AuthResult} (identified : 0 < result.userId) :
    withIdentity result r = withIdentity result other := by
  have headers : (withIdentity result r).headers = (withIdentity result other).headers := by
    apply Std.ExtTreeMap.ext_getElem?
    intro j
    rw [withIdentity_lookup identified, withIdentity_lookup identified]
    split
    · rfl
    · split
      · rfl
      · split
        · rfl
        · refine same.headers j ?_
          simp only [identityHeaders, List.mem_cons, List.not_mem_nil, or_false, not_or]
          exact ⟨Ne.symm ‹_›, Ne.symm ‹_›, Ne.symm ‹_›⟩
  have rest : ∀ q : HttpRequest, withIdentity result q =
      ⟨q.method, q.path, q.query, q.body, (withIdentity result q).headers, q.clientIp,
        q.requestId⟩ := by
    intro q
    rw [withIdentity, if_pos identified]
    rfl
  rw [rest r, rest other, headers, same.method, same.path, same.query, same.body, same.clientIp,
    same.requestId]

end lookups

theorem findHeader_same {r other : HttpRequest} (same : SameButIdentity r other) {key : Bytes}
    (outside : ∀ name ∈ identityHeaders, toLower name ≠ toLower key) :
    findHeader r key = findHeader other key := by
  have found := @find_toList_congr _ r.headers other.headers
    (fun name => toLower name == toLower key) fun name accepted => by
      refine same.headers name fun member => ?_
      exact outside name member (by simpa using accepted)
  simp only [findHeader, found]

theorem extractTraceId_same {r other : HttpRequest} (same : SameButIdentity r other)
    (config : TracingConfig) :
    extractTraceIdFromRequest config r = extractTraceIdFromRequest config other := by
  have trace := same.headers (bytes "X-Trace-Id") (by decide)
  have traceparent := same.headers (bytes "traceparent") (by decide)
  rw [extractTraceIdFromRequest, extractTraceIdFromRequest, nonemptyHeader, nonemptyHeader,
    fromTraceParent, fromTraceParent, trace, traceparent]

theorem extractParentSpanId_same {r other : HttpRequest} (same : SameButIdentity r other)
    (config : TracingConfig) :
    extractParentSpanIdFromRequest config r = extractParentSpanIdFromRequest config other := by
  have span := same.headers (bytes "X-Span-Id") (by decide)
  have parent := same.headers (bytes "X-Parent-Span-Id") (by decide)
  have traceparent := same.headers (bytes "traceparent") (by decide)
  simp only [extractParentSpanIdFromRequest, nonemptyHeader, fromTraceParent]
  rw [span, parent, traceparent]

theorem startServerSpan_same {r other : HttpRequest} (same : SameButIdentity r other)
    (config : TracingConfig) (name : Bytes) (env : TracerEnv) :
    startServerSpan config r name env = startServerSpan config other name env := by
  simp only [startServerSpan, extractTraceId_same same, extractParentSpanId_same same]

theorem startGatewaySpan_same {r other : HttpRequest} (same : SameButIdentity r other)
    (handler : GatewayHandler Redis State) (env : GatewayEnv Redis State) :
    startGatewaySpan handler r env = startGatewaySpan handler other env := by
  unfold startGatewaySpan
  split
  · simp only [onTracer, Env.onPart, startServerSpan_same same]
  · rfl

theorem check_same {r other : HttpRequest} (same : SameButIdentity r other) (filter : AuthFilter)
    (env : Env State) : filter.check r env = filter.check other env := by
  have authorization := findHeader_same same (show ∀ name ∈ identityHeaders,
    toLower name ≠ toLower (bytes "Authorization") by decide)
  simp only [AuthFilter.check, same.path, same.requestId, authorization]

theorem authenticate_same {r other : HttpRequest} (same : SameButIdentity r other)
    (handler : GatewayHandler Redis State) (env : GatewayEnv Redis State) :
    authenticate handler r env = authenticate handler other env := by
  unfold authenticate
  split
  · exact check_same same _ env
  · rfl

theorem finish_same {r other : HttpRequest} (same : SameButIdentity r other)
    (handler : GatewayHandler Redis State) (startedAt : Int) (span : TraceSpan)
    (rsp : HttpResponse) (upstream : Bytes) (env : GatewayEnv Redis State) :
    finish handler r startedAt span rsp upstream env =
      finish handler other startedAt span rsp upstream env := by
  simp only [finish, same.path, same.method, same.requestId]

section auth
variable (filter : AuthFilter) (request : HttpRequest) (env : Env State)

theorem check_guarded (enabled : filter.config.enabled = true)
    (guarded : filter.isPublicPath request.path = false) :
    (∃ record, bearerRecord filter request env = some record ∧
      (filter.check request env).1.userId = record.userId ∧
      (filter.check request env).1.username = record.username ∧
      (filter.check request env).1.role = record.role ∧
      (filter.check request env).1.allowed = filter.isRoleAllowed request.path record.role) ∨
    bearerRecord filter request env = none ∧ (filter.check request env).1.allowed = false := by
  simp only [AuthFilter.check, bearerRecord, enabled, guarded, Bool.not_true, Bool.false_or,
    Bool.false_eq_true, ↓reduceIte]
  cases filter.tokenService with
  | none => exact Or.inr ⟨rfl, rfl⟩
  | some service =>
    simp only
    cases startsWith (findHeader request (bytes "Authorization")) bearer with
    | false => exact Or.inr ⟨rfl, rfl⟩
    | true =>
      simp only [Bool.not_true, Bool.false_eq_true, ↓reduceIte]
      generalize validateToken service
        ((findHeader request (bytes "Authorization")).drop bearer.length) env = validated
      obtain ⟨record?, after⟩ := validated
      cases record? with
      | none => exact Or.inr ⟨rfl, rfl⟩
      | some record =>
        refine Or.inl ⟨record, rfl, ?_⟩
        simp only
        cases permitted : filter.isRoleAllowed request.path record.role <;> simp

theorem check_unguarded
    (unguarded : filter.config.enabled = false ∨ filter.isPublicPath request.path = true) :
    (filter.check request env).1 = { allowed := true } := by
  have skips : (!filter.config.enabled || filter.isPublicPath request.path) = true := by
    rcases unguarded with off | isPublic
    · simp [off]
    · simp [isPublic]
  simp only [AuthFilter.check, skips, ↓reduceIte]

end auth

section handler
variable (handler : GatewayHandler Redis State) (request : HttpRequest)
  (env : GatewayEnv Redis State)

theorem unchecked_result (unchecked : ¬ IdentityChecked handler request env) :
    (authenticate handler request env).1.allowed = true ∧
      ¬ 0 < (authenticate handler request env).1.userId := by
  unfold authenticate
  cases present : handler.authFilter with
  | none => simp
  | some filter =>
    simp only
    by_cases guarded : filter.config.enabled = true ∧ filter.isPublicPath request.path = false
    · obtain ⟨enabled, notPublic⟩ := guarded
      have escapes : ∃ record, bearerRecord filter request env = some record ∧
          filter.isRoleAllowed request.path record.role = true ∧ ¬ 0 < record.userId := by
        by_contra none
        refine unchecked ⟨filter, present, enabled, notPublic, fun record found permitted => ?_⟩
        by_contra low
        exact none ⟨record, found, permitted, low⟩
      obtain ⟨record, found, permitted, low⟩ := escapes
      rcases check_guarded filter request env enabled notPublic with
        ⟨record', found', user, _, _, allowed⟩ | ⟨missing, _⟩
      · obtain rfl : record = record' := by simpa [found] using found'
        exact ⟨allowed.trans permitted, by omega⟩
      · simp [found] at missing
    · have skips : filter.config.enabled = false ∨ filter.isPublicPath request.path = true := by
        cases enabled : filter.config.enabled <;> simp_all
      simp [check_unguarded filter request env skips]

theorem checked_result (checked : IdentityChecked handler request env)
    (allowed : (authenticate handler request env).1.allowed = true) :
    ∃ filter record, handler.authFilter = some filter ∧
      bearerRecord filter request env = some record ∧ 0 < record.userId ∧
      (authenticate handler request env).1.userId = record.userId ∧
      (authenticate handler request env).1.username = record.username ∧
      (authenticate handler request env).1.role = record.role := by
  obtain ⟨filter, present, enabled, notPublic, positive⟩ := checked
  simp only [authenticate, present] at allowed ⊢
  rcases check_guarded filter request env enabled notPublic with
    ⟨record, found, user, name, role, decided⟩ | ⟨_, refused⟩
  · rw [allowed] at decided
    exact ⟨filter, record, rfl, found, positive record found decided.symm, user, name, role⟩
  · rw [allowed] at refused
    simp at refused

end handler

section context

theorem copiedHeaders_lookup (request : HttpRequest) (keys : List Bytes) (headers : ByteMap Bytes)
    (name : Bytes) :
    (keys.foldl (copyHeader request) headers)[name]? =
      if name ∈ keys then (request.headers[name]?).or headers[name]? else headers[name]? := by
  induction keys generalizing headers with
  | nil => simp
  | cons key keys ih =>
    have step : (copyHeader request headers key)[name]? =
        if key = name then (request.headers[name]?).or headers[name]? else headers[name]? := by
      unfold copyHeader
      split
      · rename_i value found
        by_cases own : key = name
        · subst own
          simp [found]
        · simp [Std.ExtTreeMap.getElem?_insert, own]
      · rename_i missing
        by_cases own : key = name
        · subst own
          simp [missing]
        · simp [own]
    rw [List.foldl_cons, ih, step]
    by_cases own : key = name
    · subst own
      simp
      intro _
      cases request.headers[key]? <;> simp
    · simp [own, Ne.symm own]

theorem context_copied {name : Bytes} (copied : name ∈ copiedHeaders)
    (others : name ∉ [bytes "X-Trace-Id", bytes "X-Span-Id", bytes "X-Parent-Span-Id",
      bytes "X-Request-Id"])
    (span : TraceSpan) (request : HttpRequest) (matched : RouteMatchResult) (now : Int) :
    (withClientSpan span (buildForwardContext request matched now)).headers[name]? =
      request.headers[name]? := by
  simp only [List.mem_cons, List.not_mem_nil, or_false, not_or] at others
  obtain ⟨trace, own, parent, requestId⟩ := others
  have built : (buildForwardContext request matched now).headers[name]? =
      request.headers[name]? := by
    simp [buildForwardContext, Std.ExtTreeMap.getElem?_insert, Ne.symm requestId,
      copiedHeaders_lookup, copied]
  have put : ∀ (headers : ByteMap Bytes) (key value : Bytes), name ≠ key →
      (if value = [] then headers else headers.insert key value)[name]? = headers[name]? := by
    intro headers key value differ
    split
    · rfl
    · simp [Std.ExtTreeMap.getElem?_insert, Ne.symm differ]
  simp only [withClientSpan]
  rw [put _ _ _ parent, put _ _ _ own, put _ _ _ trace, built]

theorem identity_copied : ∀ name ∈ identityHeaders, name ∈ copiedHeaders ∧
    name ∉ [bytes "X-Trace-Id", bytes "X-Span-Id", bytes "X-Parent-Span-Id",
      bytes "X-Request-Id"] := by
  decide

theorem context_identity {name : Bytes} (identity : name ∈ identityHeaders) (span : TraceSpan)
    (request : HttpRequest) (matched : RouteMatchResult) (now : Int) :
    (withClientSpan span (buildForwardContext request matched now)).headers[name]? =
      request.headers[name]? :=
  context_copied (identity_copied name identity).1 (identity_copied name identity).2 span request
    matched now

end context

def validatedRecord (handler : GatewayHandler Redis State) (request : HttpRequest)
    (env : GatewayEnv Redis State) : Option TokenRecord :=
  handler.authFilter.bind fun filter => bearerRecord filter request (authEnv handler request env)

def addressOf (request : HttpRequest) : Bytes :=
  if request.clientIp = [] then bytes "unknown" else request.clientIp

/-- The identity in an event is absent or the one of the record. -/
def GenuineIdentity (request : HttpRequest) (record : Option TokenRecord) : GatewayEvent → Prop
  | .rateLimitKey key => ∃ route,
      key = bytes "ip:" ++ addressOf request ++ bytes "|route:" ++ route ∨
      ∃ r, record = some r ∧ key = bytes "user:" ++ intText r.userId ++ bytes "|route:" ++ route
  | .forwardContext ctx =>
      (∀ name ∈ identityHeaders, ctx.headers[name]? = none) ∨
      ∃ r, record = some r ∧ ctx.headers[bytes "X-User-Id"]? = some (intText r.userId) ∧
        ctx.headers[bytes "X-Username"]? = some r.username ∧
        ctx.headers[bytes "X-Role"]? = some r.role

structure IdentityIndependent (handler : GatewayHandler Redis State) (request : HttpRequest)
    (env : GatewayEnv Redis State) : Prop where
  same_view : ∀ other, SameButIdentity request other →
    (handle handler other env).2.state.trace = (handle handler request env).2.state.trace
  genuine : ∀ events, (handle handler request env).2.state.trace = env.state.trace ++ events →
    ∀ e ∈ events, GenuineIdentity request (validatedRecord handler request env) e

section views
variable (handler : GatewayHandler Redis State) {request other : HttpRequest}
  (env : GatewayEnv Redis State)

theorem forwardRequestTo_same (same : SameButIdentity request other) (forwardRequest : HttpRequest)
    (matched : RouteMatchResult) (startedAt : Int) (span : TraceSpan)
    (decision : RateLimitDecision) (env : GatewayEnv Redis State) :
    forwardRequestTo handler request forwardRequest matched startedAt span decision env =
      forwardRequestTo handler other forwardRequest matched startedAt span decision env := by
  simp only [forwardRequestTo, finish_same same, finishUpstreamSpan, same.path]

/-- When every request that is let through has a user, the two runs are one. -/
theorem handle_same (same : SameButIdentity request other)
    (identified : handler.routeManager.matchPath request.path = none ∨
      ((authenticate handler request (authEnv handler request env)).1.allowed = true →
        0 < (authenticate handler request (authEnv handler request env)).1.userId)) :
    handle handler request env = handle handler other env := by
  rw [authEnv] at identified
  unfold handle
  rw [← startGatewaySpan_same same handler env.tick, ← same.path, ← same.requestId]
  generalize startGatewaySpan handler request env.tick = span at identified ⊢
  simp only [← authenticate_same same handler span.2]
  generalize authenticate handler request span.2 = auth at identified ⊢
  cases routed : handler.routeManager.matchPath request.path with
  | none => exact finish_same same handler _ _ _ _ _
  | some matched =>
    have positive := identified.resolve_left (by simp [routed])
    simp only
    cases allowed : auth.1.allowed with
    | false => exact finish_same same handler _ _ _ _ _
    | true =>
      have equal := same_withIdentity (same_withTrace same span.1) (positive allowed)
      simp only [equal, Bool.not_true, Bool.false_eq_true, ↓reduceIte]
      split
      · exact finish_same same handler _ _ _ _ _
      · exact forwardRequestTo_same handler same _ _ _ _ _ _

theorem buildKey_user {r : HttpRequest} {user : Bytes} (nonempty : user ≠ [])
    (found : r.headers[bytes "X-User-Id"]? = some user) (matched : RouteMatchResult) :
    buildKey r matched = bytes "user:" ++ user ++ bytes "|route:" ++ matched.route.path := by
  have value : headerValue r (bytes "X-User-Id") = user := by
    simp [headerValue, Std.ExtTreeMap.getD_eq_getD_getElem?, found]
  simp [buildKey, value, nonempty]

theorem identified_genuine {result : AuthResult} {record : TokenRecord}
    (positive : 0 < result.userId) (user : result.userId = record.userId)
    (name : result.username = record.username) (role : result.role = record.role)
    {r : HttpRequest} {matched : RouteMatchResult} {events contexts : List GatewayEvent}
    (forwarded : Forwarded handler (withIdentity result r) matched events contexts)
    (e : GatewayEvent) (member : e ∈ events) : GenuineIdentity request (some record) e := by
  have userHeader : (withIdentity result r).headers[bytes "X-User-Id"]? =
      some (intText record.userId) := by
    rw [withIdentity_lookup positive, if_neg (by decide), if_neg (by decide), if_pos rfl, user]
  have nameHeader : (withIdentity result r).headers[bytes "X-Username"]? =
      some record.username := by
    rw [withIdentity_lookup positive, if_neg (by decide), if_pos rfl, name]
  have roleHeader : (withIdentity result r).headers[bytes "X-Role"]? = some record.role := by
    rw [withIdentity_lookup positive, if_pos rfl, role]
  rw [forwarded.split] at member
  rcases List.mem_append.mp member with key | context
  · have own : e = .rateLimitKey (buildKey (withIdentity result r) matched) := by
      rcases keyEvents_cases handler with unlimited | limited
      · simp [unlimited] at key
      · simpa [limited] using key
    rw [own, buildKey_user (intText_ne_nil _) userHeader]
    exact ⟨matched.route.path, Or.inr ⟨record, rfl, rfl⟩⟩
  · obtain ⟨span, now, rfl⟩ := forwarded.built e context
    refine Or.inr ⟨record, rfl, ?_, ?_, ?_⟩
    · rw [context_identity (by decide), userHeader]
    · rw [context_identity (by decide), nameHeader]
    · rw [context_identity (by decide), roleHeader]

end views

def otherUser (request : HttpRequest) : Bytes :=
  if headerValue request (bytes "X-User-Id") = bytes "1" then bytes "2" else bytes "1"

theorem same_with_other_user (request : HttpRequest) (user : Bytes) :
    SameButIdentity request (putHeader request (bytes "X-User-Id") user) where
  method := rfl
  path := rfl
  query := rfl
  body := rfl
  clientIp := rfl
  requestId := rfl
  headers := by
    intro key outside
    rw [putHeader_lookup, if_neg]
    rintro rfl
    exact outside (by decide)

theorem otherUser_ne_nil (request : HttpRequest) : otherUser request ≠ [] := by
  unfold otherUser
  split <;> decide

theorem otherUser_differs (request : HttpRequest) :
    otherUser request ≠ headerValue request (bytes "X-User-Id") := by
  unfold otherUser
  split
  · rename_i one
    rw [one]
    decide
  · rename_i notOne
    exact Ne.symm notOne

theorem buildKey_differs {r other : HttpRequest} {user : Bytes} (nonempty : user ≠ [])
    (differs : user ≠ headerValue r (bytes "X-User-Id"))
    (found : other.headers[bytes "X-User-Id"]? = some user) (matched : RouteMatchResult) :
    buildKey other matched ≠ buildKey r matched := by
  rw [buildKey_user nonempty found]
  intro equal
  by_cases absent : headerValue r (bytes "X-User-Id") = []
  · have user_ : bytes "user:" = 117 :: bytes "ser:" := by decide
    have ip_ : bytes "ip:" = 105 :: bytes "p:" := by decide
    rw [buildKey, if_neg (not_not.mpr absent), user_, ip_] at equal
    exact absurd (List.cons.inj equal).1 (by decide)
  · rw [buildKey, if_pos absent] at equal
    exact differs (List.append_cancel_left (List.append_cancel_right
      (List.append_cancel_right equal)))

theorem withTrace_identity {name : Bytes} (identity : name ∈ identityHeaders) (span : TraceSpan)
    (r : HttpRequest) : (withTrace span r).headers[name]? = r.headers[name]? := by
  have others : bytes "X-Trace-Id" ≠ name ∧ bytes "X-Parent-Span-Id" ≠ name := by
    revert name
    decide
  unfold withTrace putNonempty
  split <;> split <;> simp [putHeader_lookup, others]

theorem forwarded_differ {handler : GatewayHandler Redis State} {r other : HttpRequest}
    {matched : RouteMatchResult} {events contexts events' contexts' : List GatewayEvent}
    (left : Forwarded handler r matched events contexts)
    (right : Forwarded handler other matched events' contexts')
    (keys : buildKey other matched ≠ buildKey r matched)
    (users : other.headers[bytes "X-User-Id"]? ≠ r.headers[bytes "X-User-Id"]?) :
    events' ≠ events := by
  intro equal
  have identity : bytes "X-User-Id" ∈ identityHeaders := by decide
  rw [left.split, right.split] at equal
  rcases keyEvents_cases handler with unlimited | limited
  · rw [unlimited, unlimited, List.nil_append, List.nil_append] at equal
    cases built : contexts' with
    | nil => exact right.reached (unlimited _ _) built
    | cons e rest =>
      obtain ⟨span, now, own⟩ := right.built e (by simp [built])
      obtain ⟨span', now', same⟩ := left.built e (by simp [← equal, built])
      rw [own, GatewayEvent.forwardContext.injEq] at same
      have header := congrArg (fun ctx : ForwardContext => ctx.headers[bytes "X-User-Id"]?) same
      simp only [context_identity identity] at header
      exact users header
  · rw [limited, limited] at equal
    exact keys (GatewayEvent.rateLimitKey.inj (List.cons.inj equal).1)

/-- What reaches the views when the request gets through without a user. -/
theorem unidentified_views_differ (handler : GatewayHandler Redis State) (request : HttpRequest)
    (env : GatewayEnv Redis State) {matched : RouteMatchResult}
    (routed : handler.routeManager.matchPath request.path = some matched)
    (allowed : (authenticate handler request (authEnv handler request env)).1.allowed = true)
    (unidentified : ¬ 0 < (authenticate handler request (authEnv handler request env)).1.userId) :
    (handle handler (putHeader request (bytes "X-User-Id") (otherUser request)) env).2.state.trace ≠
      (handle handler request env).2.state.trace := by
  have same := same_with_other_user request (otherUser request)
  have user : (putHeader request (bytes "X-User-Id") (otherUser request)).headers[
      bytes "X-User-Id"]? = some (otherUser request) := by simp [putHeader_lookup]
  generalize putHeader request (bytes "X-User-Id") (otherUser request) = other at same user ⊢
  have sameAuth : authenticate handler other (authEnv handler other env) =
      authenticate handler request (authEnv handler request env) := by
    rw [authEnv, authEnv, startGatewaySpan_same same, authenticate_same same]
  obtain ⟨events, contexts, trace, left⟩ := handle_forwarded handler request env routed allowed
  obtain ⟨events', contexts', trace', right⟩ := handle_forwarded handler other env
    (same.path ▸ routed) (sameAuth ▸ allowed)
  rw [sameAuth, ← startGatewaySpan_same same] at right
  rw [withIdentity, if_neg unidentified] at left right
  rw [trace, trace']
  intro equal
  have identity : bytes "X-User-Id" ∈ identityHeaders := by decide
  refine forwarded_differ left right ?_ ?_ (List.append_cancel_left equal)
  · refine buildKey_differs (otherUser_ne_nil request) ?_ ?_ matched
    · simpa [headerValue, Std.ExtTreeMap.getD_eq_getD_getElem?, withTrace_identity identity]
        using otherUser_differs request
    · rw [withTrace_identity identity, user]
  · rw [withTrace_identity identity, withTrace_identity identity, user]
    intro same'
    refine otherUser_differs request ?_
    simp [headerValue, Std.ExtTreeMap.getD_eq_getD_getElem?, ← same']

/-- Exactly when the identity headers of the client are without effect. -/
theorem identity_independent_iff (handler : GatewayHandler Redis State) (request : HttpRequest)
    (env : GatewayEnv Redis State) :
    IdentityIndependent handler request env ↔
      handler.routeManager.matchPath request.path = none ∨
        IdentityChecked handler request (authEnv handler request env) := by
  constructor
  · intro independent
    by_contra neither
    obtain ⟨routed?, unchecked⟩ := not_or.mp neither
    obtain ⟨matched, routed⟩ := Option.ne_none_iff_exists'.mp routed?
    obtain ⟨allowed, unidentified⟩ := unchecked_result handler request _ unchecked
    exact unidentified_views_differ handler request env routed allowed unidentified
      (independent.same_view _ (same_with_other_user request _))
  · intro settled
    have identified : handler.routeManager.matchPath request.path = none ∨
        ((authenticate handler request (authEnv handler request env)).1.allowed = true →
          0 < (authenticate handler request (authEnv handler request env)).1.userId) := by
      refine settled.imp_right fun checked allowed => ?_
      obtain ⟨_, record, _, _, positive, user, _⟩ := checked_result handler request _ checked allowed
      omega
    refine ⟨fun other same => by rw [handle_same handler env same identified], ?_⟩
    intro events trace e member
    cases routed : handler.routeManager.matchPath request.path with
    | none =>
      rw [handle_unrouted handler request env routed] at trace
      obtain rfl : events = [] := by simpa using trace
      simp at member
    | some matched =>
      have checked := settled.resolve_left (by simp [routed])
      cases allowed : (authenticate handler request (authEnv handler request env)).1.allowed with
      | false =>
        rw [handle_rejected handler request env routed allowed] at trace
        obtain rfl : events = [] := by simpa using trace
        simp at member
      | true =>
        obtain ⟨filter, record, present, found, positive, user, name, role⟩ :=
          checked_result handler request _ checked allowed
        obtain ⟨events', contexts, trace', forwarded⟩ :=
          handle_forwarded handler request env routed allowed
        obtain rfl := List.append_cancel_left (trace.symm.trans trace')
        have validated : validatedRecord handler request env = some record := by
          rw [validatedRecord, present]
          exact found
        rw [validated]
        exact identified_genuine handler (by omega) user name role forwarded e member

section login

def loginHandler : GatewayHandler Unit Unit where
  routeManager := {
    routes := [{ path := bytes "/api/user", upstream := bytes "user_service" }]
    longestFirst := by simp }
  upstreamClient := fun _ env => ({}, env)
  authFilter := some ⟨{}, [], some {}⟩
  rateLimitFilter := some {}
  redisLink := ⟨fun redis => (.ok (), redis), fun _ redis => (.ok 0, redis)⟩
  hasMetrics := false
  tracer := none

def spoofedLogin : HttpRequest :=
  { method := bytes "POST"
    path := bytes "/api/user/login"
    clientIp := bytes "10.0.0.1"
    headers := (∅ : ByteMap Bytes).insert (bytes "X-User-Id") (bytes "10001") }

def loginEnv : GatewayEnv Unit Unit :=
  { steady := ticking 1000
    system := stopped 0
    deadline := none
    state := {
      rateLimit := { redis := () }
      tracer := { hexDraws := fun _ => 0, sampleDraws := fun _ => 0 }
      upstream := () } }

theorem spoofed_login_seen : ¬ IdentityIndependent loginHandler spoofedLogin loginEnv := by
  intro independent
  have routed : loginHandler.routeManager.matchPath spoofedLogin.path = some
      { route := { path := bytes "/api/user", upstream := bytes "user_service" }
        originalPath := bytes "/api/user/login"
        upstreamPath := bytes "/login" } := by decide
  exact unidentified_views_differ loginHandler spoofedLogin loginEnv routed (by decide) (by decide)
    (independent.same_view _ (same_with_other_user spoofedLogin _))

end login

end TgwIdentityHeaders
