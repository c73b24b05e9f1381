import TgwGateway.Gateway.HandlerExits
import TgwGateway.Gateway.IdentityHeaders

/- Two requests whose headers differ only in the spelling of the names. The auth filter compares
   names without case; everything else on the way finds a header by its exact spelling. -/
namespace TgwHeaderCase
open ByteStrings TgwClock TgwConfig TgwHttp TgwRouteRule TgwAuthFilter TgwTokenService
open TgwRateLimitFilter TgwTracing TgwGatewayHandler TgwHandlerTrace TgwHandlerExits TgwIdentityHeaders
variable {Redis State : Type}

/-- Each header of one map is in the other, up to the case of its name. -/
structure SameUpToCase (left right : ByteMap Bytes) : Prop where
  there : ∀ name value, left[name]? = some value →
    ∃ spelled, toLower spelled = toLower name ∧ right[spelled]? = some value
  back : ∀ name value, right[name]? = some value →
    ∃ spelled, toLower spelled = toLower name ∧ left[spelled]? = some value

def DistinctNames (headers : ByteMap Bytes) : Prop :=
  ∀ name other value value', headers[name]? = some value → headers[other]? = some value' →
    toLower name = toLower other → name = other

structure Recased (r other : HttpRequest) : Prop where
  method : r.method = other.method
  path : r.path = other.path
  query : r.query = other.query
  body : r.body = other.body
  clientIp : r.clientIp = other.clientIp
  requestId : r.requestId = other.requestId
  distinct : DistinctNames r.headers
  distinct_other : DistinctNames other.headers
  headers : SameUpToCase r.headers other.headers

/-- What the rate limiter and the upstream client are given is the same, the names of the
   forwarded headers up to case. -/
inductive SameEvent : GatewayEvent → GatewayEvent → Prop where
  | rateLimitKey (key : Bytes) : SameEvent (.rateLimitKey key) (.rateLimitKey key)
  | forwardContext (ctx : ForwardContext) (headers : ByteMap Bytes)
      (same : SameUpToCase ctx.headers headers) :
      SameEvent (.forwardContext ctx) (.forwardContext { ctx with headers := headers })

def SameSources (tracing : TracingConfig) (r other : HttpRequest) : Prop :=
  extractTraceIdFromRequest tracing r = extractTraceIdFromRequest tracing other ∧
    extractParentSpanIdFromRequest tracing r = extractParentSpanIdFromRequest tracing other

structure TreatedAlike (handler : GatewayHandler Redis State) (env : GatewayEnv Redis State)
    (r other : HttpRequest) : Prop where
  decision : (authOutcome handler r env).1 = (authOutcome handler other env).1
  sources : ∀ tracing, handler.tracer = some tracing → SameSources tracing r other
  events : List.Forall₂ SameEvent (handle handler r env).2.state.trace
    (handle handler other env).2.state.trace

/-- The names Handle looks up by their spelling and does not overwrite. -/
def exactNames : List Bytes := copiedHeaders.filter fun name => name ≠ bytes "X-Request-Id"

def SpelledAlike (r other : HttpRequest) : Prop :=
  ∀ name ∈ exactNames, r.headers[name]? = other.headers[name]?

theorem exactNames_iff (name : Bytes) :
    name ∈ exactNames ↔ name ∈ copiedHeaders ∧ name ≠ bytes "X-Request-Id" := by
  simp [exactNames]

theorem sameUpToCase_refl (headers : ByteMap Bytes) : SameUpToCase headers headers :=
  ⟨fun name _ found => ⟨name, rfl, found⟩, fun name _ found => ⟨name, rfl, found⟩⟩

theorem sameEvent_refl (e : GatewayEvent) : SameEvent e e := by
  cases e with
  | rateLimitKey key => exact .rateLimitKey key
  | forwardContext ctx => exact .forwardContext ctx ctx.headers (sameUpToCase_refl _)

section auth
variable {r other : HttpRequest}

theorem findHeader_distinct {key name value : Bytes} (distinct : DistinctNames r.headers)
    (found : r.headers[name]? = some value) (same : toLower name = toLower key) :
    findHeader r key = value := by
  unfold findHeader
  cases first : r.headers.toList.find? fun item => toLower item.1 == toLower key with
  | none =>
    have member : (name, value) ∈ r.headers.toList :=
      Std.ExtTreeMap.mem_toList_iff_getElem?_eq_some.mpr found
    have rejected := List.find?_eq_none.mp first (name, value) member
    simp [same] at rejected
  | some item =>
    have accepted : toLower item.1 = toLower key := by
      simpa using List.find?_some first
    have inside := Std.ExtTreeMap.mem_toList_iff_getElem?_eq_some.mp
      (List.mem_of_find?_eq_some first)
    have own := distinct item.1 name item.2 value inside found (accepted.trans same.symm)
    rw [own, found] at inside
    exact (Option.some.inj inside).symm

theorem findHeader_absent {key : Bytes}
    (absent : ∀ name value, r.headers[name]? = some value → toLower name ≠ toLower key) :
    findHeader r key = [] := by
  unfold findHeader
  cases first : r.headers.toList.find? fun item => toLower item.1 == toLower key with
  | none => rfl
  | some item =>
    have accepted : toLower item.1 = toLower key := by
      simpa using List.find?_some first
    exact absurd accepted (absent item.1 item.2
      (Std.ExtTreeMap.mem_toList_iff_getElem?_eq_some.mp (List.mem_of_find?_eq_some first)))

theorem findHeader_recased (recased : Recased r other) (key : Bytes) :
    findHeader r key = findHeader other key := by
  by_cases present : ∃ name value, r.headers[name]? = some value ∧ toLower name = toLower key
  · obtain ⟨name, value, found, same⟩ := present
    obtain ⟨spelled, agrees, there⟩ := recased.headers.there name value found
    rw [findHeader_distinct recased.distinct found same,
      findHeader_distinct recased.distinct_other there (agrees.trans same)]
  · have absent : ∀ name value, r.headers[name]? = some value → toLower name ≠ toLower key :=
      fun name value found same => present ⟨name, value, found, same⟩
    rw [findHeader_absent absent, findHeader_absent]
    intro name value found same
    obtain ⟨spelled, agrees, back⟩ := recased.headers.back name value found
    exact absent spelled value back (agrees.trans same)

theorem check_recased (recased : Recased r other) (filter : AuthFilter) (env : Env State) :
    filter.check r env = filter.check other env := by
  simp only [AuthFilter.check, recased.path, recased.requestId, findHeader_recased recased]

theorem validateToken_system (config : AuthConfig) (token : Bytes) {env env' : Env State}
    (same : env.system = env'.system) :
    (validateToken config token env).1 = (validateToken config token env').1 := by
  unfold validateToken
  split
  · rfl
  · rw [same]
    split <;> rfl

theorem check_system (filter : AuthFilter) (r : HttpRequest) {env env' : Env State}
    (same : env.system = env'.system) : (filter.check r env).1 = (filter.check r env').1 := by
  unfold AuthFilter.check
  split
  · rfl
  · cases filter.tokenService with
    | none => rfl
    | some service =>
      have validated := validateToken_system service
        ((findHeader r (bytes "Authorization")).drop bearer.length) same
      simp only
      split
      · rfl
      · rcases left : validateToken service
          ((findHeader r (bytes "Authorization")).drop bearer.length) env with ⟨found, after⟩
        rcases right : validateToken service
          ((findHeader r (bytes "Authorization")).drop bearer.length) env' with ⟨found', after'⟩
        rw [left, right] at validated
        obtain rfl : found = found' := validated
        cases found with
        | none => rfl
        | some record =>
          simp only
          split <;> rfl

theorem startServerSpan_system (tracing : TracingConfig) (request : HttpRequest) (name : Bytes)
    (env : TracerEnv) :
    (startServerSpan tracing request name env).2.system = env.system.next := by
  unfold startServerSpan
  simp only
  generalize (if tracing.enabled then shouldSample tracing env.tick.tickSystem.state
    else (false, env.tick.tickSystem.state)) = sample
  split <;> rfl

theorem startGatewaySpan_system (handler : GatewayHandler Redis State)
    (env : GatewayEnv Redis State) :
    (startGatewaySpan handler r env).2.system = (startGatewaySpan handler other env).2.system := by
  unfold startGatewaySpan
  split
  · simp only [onTracer, Env.onPart, startServerSpan_system]
  · rfl

theorem authOutcome_recased (recased : Recased r other) (handler : GatewayHandler Redis State)
    (env : GatewayEnv Redis State) :
    (authOutcome handler r env).1 = (authOutcome handler other env).1 := by
  unfold authOutcome authenticate
  split
  · rw [check_recased recased]
    exact check_system _ other (startGatewaySpan_system handler env.tick)
  · rfl

end auth

/-- Requests that differ at most in headers nobody finds. -/
structure Alike (r other : HttpRequest) : Prop where
  method : r.method = other.method
  query : r.query = other.query
  body : r.body = other.body
  clientIp : r.clientIp = other.clientIp
  requestId : r.requestId = other.requestId
  spelled : SpelledAlike r other

section alike
variable {r other : HttpRequest} (alike : Alike r other)
include alike

theorem alike_putHeader (key value : Bytes) :
    Alike (putHeader r key value) (putHeader other key value) where
  method := alike.method
  query := alike.query
  body := alike.body
  clientIp := alike.clientIp
  requestId := alike.requestId
  spelled := by
    intro name inside
    rw [putHeader_lookup, putHeader_lookup, alike.spelled name inside]

theorem alike_withTrace (span : TraceSpan) : Alike (withTrace span r) (withTrace span other) := by
  unfold withTrace putNonempty
  split
  · split
    · exact alike
    · exact alike_putHeader alike _ _
  · split
    · exact alike_putHeader alike _ _
    · exact alike_putHeader (alike_putHeader alike _ _) _ _

theorem alike_withIdentity (result : AuthResult) :
    Alike (withIdentity result r) (withIdentity result other) := by
  unfold withIdentity
  split
  · exact alike_putHeader (alike_putHeader (alike_putHeader alike _ _) _ _) _ _
  · exact alike

theorem sources_alike (tracing : TracingConfig) : SameSources tracing r other := by
  have trace := alike.spelled (bytes "X-Trace-Id") (by decide)
  have span := alike.spelled (bytes "X-Span-Id") (by decide)
  have parent := alike.spelled (bytes "X-Parent-Span-Id") (by decide)
  have traceparent := alike.spelled (bytes "traceparent") (by decide)
  constructor
  · rw [extractTraceIdFromRequest, extractTraceIdFromRequest, nonemptyHeader, nonemptyHeader,
      fromTraceParent, fromTraceParent, trace, traceparent]
  · simp only [extractParentSpanIdFromRequest, nonemptyHeader, fromTraceParent]
    rw [span, parent, traceparent]

theorem startGatewaySpan_alike (handler : GatewayHandler Redis State)
    (env : GatewayEnv Redis State) :
    startGatewaySpan handler r env = startGatewaySpan handler other env := by
  unfold startGatewaySpan
  split
  · rename_i tracing _
    obtain ⟨trace, parent⟩ := sources_alike alike tracing
    simp only [onTracer, Env.onPart, startServerSpan, trace, parent]
  · rfl

theorem buildKey_alike (matched : RouteMatchResult) : buildKey r matched = buildKey other matched := by
  have user := alike.spelled (bytes "X-User-Id") (by decide)
  simp only [buildKey, headerValue, Std.ExtTreeMap.getD_eq_getD_getElem?, user, alike.clientIp]

theorem checkRateLimit_alike (handler : GatewayHandler Redis State) (matched : RouteMatchResult)
    (env : GatewayEnv Redis State) :
    checkRateLimit handler r matched env = checkRateLimit handler other matched env := by
  have key := buildKey_alike alike matched
  have checked : ∀ config, check handler.redisLink config r matched =
      check handler.redisLink config other matched := by
    intro config
    funext env
    simp only [check, checkRedis, checkLocal, key, alike.requestId]
  unfold checkRateLimit
  split
  · simp only [key, checked]
  · rfl

theorem buildForwardContext_alike (matched : RouteMatchResult) (now : Int) :
    buildForwardContext r matched now = buildForwardContext other matched now := by
  have headers : (copiedHeaders.foldl (copyHeader r) ∅).insert (bytes "X-Request-Id")
      other.requestId = (copiedHeaders.foldl (copyHeader other) ∅).insert (bytes "X-Request-Id")
      other.requestId := by
    apply Std.ExtTreeMap.ext_getElem?
    intro name
    simp only [Std.ExtTreeMap.getElem?_insert, copiedHeaders_lookup]
    split
    · rfl
    · rename_i differs
      split
      · rename_i copied
        rw [alike.spelled name ((exactNames_iff name).mpr
          ⟨copied, fun own => differs (by simp [own])⟩)]
      · rfl
  simp only [buildForwardContext, alike.requestId, alike.method, alike.query, alike.body, headers]

end alike

section recased
variable {r other : HttpRequest} (recased : Recased r other)
include recased

theorem finish_recased (handler : GatewayHandler Redis State) (startedAt : Int) (span : TraceSpan)
    (rsp : HttpResponse) (upstream : Bytes) (env : GatewayEnv Redis State) :
    finish handler r startedAt span rsp upstream env =
      finish handler other startedAt span rsp upstream env := by
  simp only [finish, recased.path, recased.method, recased.requestId]

/-- Where the headers are spelled alike the two calls are one. -/
theorem handle_recased (spelled : SpelledAlike r other) (handler : GatewayHandler Redis State)
    (env : GatewayEnv Redis State) : handle handler r env = handle handler other env := by
  have alike : Alike r other := ⟨recased.method, recased.query, recased.body, recased.clientIp,
    recased.requestId, spelled⟩
  have auth : ∀ env, authenticate handler r env = authenticate handler other env := by
    intro env
    unfold authenticate
    split
    · exact check_recased recased _ env
    · rfl
  unfold handle
  simp only [startGatewaySpan_alike alike, recased.path, recased.requestId, auth,
    finish_recased recased]
  cases handler.routeManager.matchPath other.path with
  | none => rfl
  | some matched =>
    have limited := fun span result env => checkRateLimit_alike
      (alike_withIdentity (alike_withTrace alike span) result) handler matched env
    have built := fun span result now => buildForwardContext_alike
      (alike_withIdentity (alike_withTrace alike span) result) matched now
    simp only [limited, forwardRequestTo, built, finishUpstreamSpan, recased.path,
      finish_recased recased]

end recased

section probe

def probeHandler (path : Bytes) (tracer : Option TracingConfig) : GatewayHandler Unit Unit where
  routeManager := {
    routes := [{ path := path, upstream := bytes "UserService" }]
    longestFirst := by simp }
  upstreamClient := fun _ env => ({}, env)
  authFilter := none
  rateLimitFilter := none
  redisLink := ⟨fun redis => (.ok (), redis), fun _ redis => (.ok 0, redis)⟩
  hasMetrics := false
  tracer := tracer

def probeEnv : GatewayEnv Unit Unit :=
  { steady := ticking 1000
    system := stopped 0
    deadline := none
    state := {
      rateLimit := { redis := () }
      tracer := { hexDraws := fun _ => 0, sampleDraws := fun _ => 0 }
      upstream := () } }

theorem probe_trace (r : HttpRequest) (routed : r.path ≠ []) :
    ∃ matched now, (handle (probeHandler r.path none) r probeEnv).2.state.trace =
      [.forwardContext (buildForwardContext r matched now)] := by
  have found : ∃ matched, (probeHandler r.path none).routeManager.matchPath r.path =
      some matched := by
    simp [RouteRuleManager.matchPath, probeHandler, TgwRouteRule.isPrefixMatch, routed]
  obtain ⟨matched, found⟩ := found
  have noSpan : ∀ env, startGatewaySpan (probeHandler r.path none) r env = ({}, env) :=
    fun _ => rfl
  have noFilter : ∀ env, authenticate (probeHandler r.path none) r env =
      ({ allowed := true }, env) := fun _ => rfl
  have noLimit : ∀ env, checkRateLimit (probeHandler r.path none) r matched env = ({}, env) :=
    fun _ => rfl
  have asGiven : withIdentity { allowed := true } (withTrace {} r) = r := by
    simp [withIdentity, withTrace, putNonempty]
  have unspanned : ∀ ctx env, startUpstreamSpan (probeHandler r.path none) {} ctx env =
      ({}, env) := fun _ _ => rfl
  have kept : ∀ ctx, withClientSpan {} ctx = ctx := fun _ => rfl
  refine ⟨matched, probeEnv.tick.now, ?_⟩
  simp only [handle, found, noSpan, noFilter, asGiven, noLimit, Bool.not_true, Bool.false_eq_true,
    ↓reduceIte, forwardRequestTo, unspanned, kept, finish_trace, finishUpstreamSpan_trace,
    onUpstream_trace, emit_trace]
  rfl

theorem matchPath_empty (manager : RouteRuleManager) : manager.matchPath [] = none := by
  have unmatched : ∀ rulePath, TgwRouteRule.isPrefixMatch rulePath [] = false := by
    intro rulePath
    cases rulePath <;> simp [TgwRouteRule.isPrefixMatch]
  simp [RouteRuleManager.matchPath, unmatched]

theorem context_names {r : HttpRequest} {matched : RouteMatchResult} {now : Int}
    {name value : Bytes}
    (found : (buildForwardContext r matched now).headers[name]? = some value) :
    name ∈ copiedHeaders := by
  by_contra outside
  have differs : bytes "X-Request-Id" ≠ name := by
    rintro rfl
    exact outside (by decide)
  simp [buildForwardContext, Std.ExtTreeMap.getElem?_insert, copiedHeaders_lookup, outside,
    differs] at found

theorem context_lookup (r : HttpRequest) (matched : RouteMatchResult) (now : Int) {name : Bytes}
    (inside : name ∈ exactNames) :
    (buildForwardContext r matched now).headers[name]? = r.headers[name]? := by
  obtain ⟨copied, differs⟩ := (exactNames_iff name).mp inside
  simp [buildForwardContext, Std.ExtTreeMap.getElem?_insert, copiedHeaders_lookup, copied,
    Ne.symm differs]

theorem copied_spelling : ∀ name ∈ copiedHeaders, ∀ other ∈ copiedHeaders,
    toLower name = toLower other → name = other := by decide

/-- Forwarded headers have one spelling each, so they agree up to case only when they agree. -/
theorem spelled_of_contexts {r other : HttpRequest} {matched matched' : RouteMatchResult}
    {now now' : Int}
    (same : SameUpToCase (buildForwardContext r matched now).headers
      (buildForwardContext other matched' now').headers) : SpelledAlike r other := by
  intro name inside
  have copied := ((exactNames_iff name).mp inside).1
  apply Option.ext
  intro value
  rw [← context_lookup r matched now inside, ← context_lookup other matched' now' inside]
  constructor
  · intro found
    obtain ⟨spelled, agrees, there⟩ := same.there name value found
    rwa [copied_spelling spelled (context_names there) name copied agrees] at there
  · intro found
    obtain ⟨spelled, agrees, back⟩ := same.back name value found
    rwa [copied_spelling spelled (context_names back) name copied agrees] at back

end probe

/-- Exactly which respellings of the header names no gateway can tell from the original. -/
theorem header_case_iff (r other : HttpRequest) (recased : Recased r other) :
    (∀ (Redis State : Type) (handler : GatewayHandler Redis State) (env : GatewayEnv Redis State),
      TreatedAlike handler env r other) ↔
    SpelledAlike r other ∨ r.path = [] ∧ ∀ tracing, SameSources tracing r other := by
  constructor
  · intro alike
    by_cases routed : r.path = []
    · refine Or.inr ⟨routed, fun tracing => ?_⟩
      exact (alike Unit Unit (probeHandler [] (some tracing)) probeEnv).sources tracing rfl
    · left
      obtain ⟨matched, now, trace⟩ := probe_trace r routed
      obtain ⟨matched', now', trace'⟩ := probe_trace other (recased.path ▸ routed)
      have events := (alike Unit Unit (probeHandler r.path none) probeEnv).events
      rw [trace, recased.path, trace'] at events
      cases events with
      | cons same _ =>
        generalize left : buildForwardContext r matched now = ctx at same
        generalize right : buildForwardContext other matched' now' = ctx' at same
        cases same with
        | forwardContext _ headers same =>
          have agree : SameUpToCase (buildForwardContext r matched now).headers
              (buildForwardContext other matched' now').headers := by
            rw [left, right]
            exact same
          exact spelled_of_contexts agree
  · rintro (spelled | ⟨unrouted, sources⟩) Redis State handler env
    · have alike : Alike r other := ⟨recased.method, recased.query, recased.body,
        recased.clientIp, recased.requestId, spelled⟩
      refine ⟨authOutcome_recased recased handler env, fun tracing _ => sources_alike alike tracing,
        ?_⟩
      rw [handle_recased recased spelled]
      exact List.forall₂_same.mpr fun e _ => sameEvent_refl e
    · refine ⟨authOutcome_recased recased handler env, fun tracing _ => sources tracing, ?_⟩
      have unmatched : handler.routeManager.matchPath r.path = none := by
        rw [unrouted]
        exact matchPath_empty _
      rw [handle_unrouted handler r env unmatched,
        handle_unrouted handler other env (recased.path ▸ unmatched)]
      exact List.forall₂_same.mpr fun e _ => sameEvent_refl e

section respelled

def namedTrace (name : Bytes) : HttpRequest :=
  { method := bytes "GET"
    path := bytes "/api/user/profile"
    headers := (∅ : ByteMap Bytes).insert name (bytes "4bf92f3577b34da6a3ce929d0e0e4736") }

theorem namedTrace_recased {name other : Bytes} (same : toLower name = toLower other) :
    Recased (namedTrace name) (namedTrace other) where
  method := rfl
  path := rfl
  query := rfl
  body := rfl
  clientIp := rfl
  requestId := rfl
  distinct := by
    intro a b value value' left right _
    simp [namedTrace, Std.ExtTreeMap.getElem?_insert] at left right
    exact left.1.symm.trans right.1
  distinct_other := by
    intro a b value value' left right _
    simp [namedTrace, Std.ExtTreeMap.getElem?_insert] at left right
    exact left.1.symm.trans right.1
  headers := by
    constructor
    · intro a value found
      simp [namedTrace, Std.ExtTreeMap.getElem?_insert] at found
      obtain ⟨rfl, rfl⟩ := found
      exact ⟨other, same.symm, by simp [namedTrace]⟩
    · intro a value found
      simp [namedTrace, Std.ExtTreeMap.getElem?_insert] at found
      obtain ⟨rfl, rfl⟩ := found
      exact ⟨name, same, by simp [namedTrace]⟩

theorem header_case_iff_trace_id :
    (∀ (Redis State : Type) (handler : GatewayHandler Redis State) (env : GatewayEnv Redis State),
      TreatedAlike handler env (namedTrace (bytes "X-Trace-Id"))
        (namedTrace (bytes "x-trace-id"))) ↔
    SpelledAlike (namedTrace (bytes "X-Trace-Id")) (namedTrace (bytes "x-trace-id")) ∨
      (namedTrace (bytes "X-Trace-Id")).path = [] ∧ ∀ tracing, SameSources tracing
        (namedTrace (bytes "X-Trace-Id")) (namedTrace (bytes "x-trace-id")) :=
  header_case_iff _ _ (namedTrace_recased (by decide))

/-- In lower case the trace id is not found and the gateway makes up another one. -/
theorem lower_case_trace_lost :
    Recased (namedTrace (bytes "X-Trace-Id")) (namedTrace (bytes "x-trace-id")) ∧
    ¬ TreatedAlike (probeHandler (bytes "/api/user") (some {})) probeEnv
      (namedTrace (bytes "X-Trace-Id")) (namedTrace (bytes "x-trace-id")) := by
  refine ⟨namedTrace_recased (by decide), fun alike => ?_⟩
  exact absurd (alike.sources {} rfl).1 (by decide)

end respelled

end TgwHeaderCase
