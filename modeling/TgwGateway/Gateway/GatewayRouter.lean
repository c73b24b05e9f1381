import TgwGateway.Admin.AdminHandler
import TgwGateway.Common.ConfigLaws
import TgwGateway.Gateway.CallAccounting
import TgwGateway.Gateway.LocalRpcUpstreamClient
import TgwGateway.Gateway.Mediation
import TgwGateway.Gateway.ResponseHeaders
import TgwGateway.Gateway.Router
import TgwGateway.Observability.MetricsText
import TgwGateway.Observability.RecentSpans

/- BuildRouter of the process entry point: the routes of the gateway itself, some of them behind the
   auth filter, and the gateway handler for everything else. -/
namespace TgwGatewayRouter
open ByteStrings Doubles TgwAppConfig TgwClock TgwConfig TgwStatus TgwHttp TgwRouteRule
open TgwAuthFilter
open TgwRateLimitFilter TgwMetrics TgwMetricsText TgwTracing TgwRecentSpans TgwGatewayHandler
open TgwHandlerTrace TgwHandlerExits TgwMediation TgwRouter TgwAdminHandler TgwResponseHeaders
open TgwGovernance (UpstreamClient GovernanceState)
open TgwLocalRpc (LocalRpcServices LocalRpcState)
open TgwRpc (UserService FileMetaService TaskService)
variable {Redis State : Type}

section process

/-- What ListRoutes names once all routes are registered, in no order. -/
def routeNames : List Bytes := [
  bytes "GET /health", bytes "GET /routes", bytes "GET /admin/routes", bytes "GET /admin/runtime",
  bytes "GET /admin/features", bytes "GET /metrics", bytes "GET /debug/traces",
  bytes "FALLBACK /api/*"]

/-- The ratio as the sampling compares it: nothing is sampled at one that is no number. -/
def ratioOf : Double → Rat
  | .finite value _ => value
  | .negativeZero => 0
  | .infinite negative => if negative then 0 else 1
  | .notANumber => 0

def tracingConfig (settings : TracingSettings) : TracingConfig :=
  { enabled := settings.enabled
    serviceName := settings.serviceName
    sampleRatio := ratioOf settings.sampleRatio
    maxFinishedSpans := settings.maxFinishedSpans
    acceptTraceparent := settings.acceptTraceparent
    exposeDebugHeaders := settings.exposeDebugHeaders
    otlpExporterEnabled := settings.otlpExporterEnabled }

/-- The configuration and what it is put together with: the services, the way to Redis, and the
    orders that a sort and a hash map leave open. -/
structure Process (Redis State : Type) where
  config : AppConfig
  userService : UserService State
  fileMetaService : FileMetaService State
  taskService : TaskService State
  redisLink : RedisLink Redis
  routeManager : RouteRuleManager
  sorted : routeManager.routes.Perm config.routes
  exactRoutes : List Bytes
  listed : exactRoutes.Perm routeNames

abbrev ProcessState (Redis State : Type) :=
  GatewayState Redis (GovernanceState (LocalRpcState State))

abbrev ProcessEnv (Redis State : Type) := Env (ProcessState Redis State)

variable (process : Process Redis State)

def Process.authFilter : AuthFilter :=
  ⟨process.config.auth, process.config.rbacRules, some process.config.auth⟩

def Process.services : LocalRpcServices State :=
  { userService := process.userService
    fileMetaService := process.fileMetaService
    taskService := process.taskService
    tokenService := some process.config.auth }

def Process.upstreamClient : UpstreamClient (GovernanceState (LocalRpcState State)) :=
  TgwGovernance.forward (TgwLocalRpc.forward process.services) process.config.governance

def Process.gatewayHandler : GatewayHandler Redis (GovernanceState (LocalRpcState State)) :=
  { routeManager := process.routeManager
    upstreamClient := process.upstreamClient
    authFilter := some process.authFilter
    rateLimitFilter := some process.config.rateLimit
    redisLink := process.redisLink
    hasMetrics := true
    tracer := some (tracingConfig process.config.tracing) }

def Process.adminHandler : AdminHandler :=
  { config := process.config
    exactRoutes := process.exactRoutes
    routeManager := process.routeManager }

def healthJson (config : AppConfig) : Bytes := JsonDocuments.rawObject
  [(bytes "status", bytes "\"ok\""), (bytes "service", stringToJson config.server.name)]

def healthResponse (config : AppConfig) : HttpResponse :=
  { status := 200
    contentType := bytes "application/json"
    body := (ApiResponse.success (healthJson config)).toJson }

def showing (answer : HttpRequest → ProcessState Redis State → HttpResponse) :
    RouteHandler (ProcessState Redis State) :=
  fun request env => (answer request env.state, env)

def Process.registrations : List (Registration (ProcessState Redis State)) :=
  let admin := process.adminHandler
  let guarded := fun answer => requireAuth (some process.authFilter) (showing answer)
  [.route (bytes "GET") (bytes "/health") (showing fun _ _ => healthResponse process.config),
    .route (bytes "GET") (bytes "/routes") (showing fun request _ => admin.routes request),
    .route (bytes "GET") (bytes "/admin/routes") (guarded fun request _ => admin.routes request),
    .route (bytes "GET") (bytes "/admin/runtime") (guarded fun request _ => admin.runtime request),
    .route (bytes "GET") (bytes "/admin/features") (guarded fun request _ => admin.features request),
    .route (bytes "GET") (bytes "/metrics")
      (showing fun _ s => buildPrometheusResponse (some s.metrics)),
    .route (bytes "GET") (bytes "/debug/traces")
      (showing fun _ s => buildTraceDebugResponse (some s.tracer)),
    .fallback (handle process.gatewayHandler)]

def buildRouter : Router (ProcessState Redis State) := registered process.registrations

/-- A configuration that the loader accepts names the upstream of every route of the handler. -/
theorem upstreams_named (valid : TgwConfigLaws.ValidConfig process.config) :
    TgwCallAccounting.UpstreamsNamed process.gatewayHandler := by
  intro route listed
  have configured : route ∈ process.config.routes := process.sorted.mem_iff.mp listed
  exact (valid.routes route configured).upstream

end process

section routes

inductive OwnRoute where
  | health
  | routes
  | adminRoutes
  | adminRuntime
  | adminFeatures
  | metrics
  | debugTraces
  deriving DecidableEq

def OwnRoute.path : OwnRoute → Bytes
  | .health => bytes "/health"
  | .routes => bytes "/routes"
  | .adminRoutes => bytes "/admin/routes"
  | .adminRuntime => bytes "/admin/runtime"
  | .adminFeatures => bytes "/admin/features"
  | .metrics => bytes "/metrics"
  | .debugTraces => bytes "/debug/traces"

def ownRoutes : List OwnRoute :=
  [.debugTraces, .metrics, .adminFeatures, .adminRuntime, .adminRoutes, .routes, .health]

def OwnRoute.guarded : OwnRoute → Bool
  | .adminRoutes | .adminRuntime | .adminFeatures => true
  | _ => false

def OwnRoute.answer (process : Process Redis State) (request : HttpRequest)
    (s : ProcessState Redis State) : OwnRoute → HttpResponse
  | .health => healthResponse process.config
  | .routes => process.adminHandler.routes request
  | .adminRoutes => process.adminHandler.routes request
  | .adminRuntime => process.adminHandler.runtime request
  | .adminFeatures => process.adminHandler.features request
  | .metrics => buildPrometheusResponse (some s.metrics)
  | .debugTraces => buildTraceDebugResponse (some s.tracer)

def ownRoute (request : HttpRequest) : Option OwnRoute :=
  if bytes "GET" = request.method then ownRoutes.find? fun route => route.path = request.path
  else none

def serveRoute (process : Process Redis State) (route : OwnRoute) :
    RouteHandler (ProcessState Redis State) :=
  let shown := showing fun request s => route.answer process request s
  if route.guarded then requireAuth (some process.authFilter) shown else shown

variable (process : Process Redis State)

theorem registrations_eq : process.registrations =
    ownRoutes.reverse.map (fun route =>
      .route (bytes "GET") route.path (serveRoute process route)) ++
      [.fallback (handle process.gatewayHandler)] := rfl

theorem registrations_plain : Plain process.registrations := by
  intro method path handler listed
  rw [registrations_eq, List.mem_append, List.mem_map] at listed
  rcases listed with ⟨route, _, same⟩ | rest
  · cases same
    decide
  · simp at rest

theorem findSome_chosen {α β : Type} (chosen : α → Bool) (value : α → β) (items : List α) :
    items.findSome? (fun item => if chosen item then some (value item) else none) =
      (items.find? chosen).map value := by
  induction items with
  | nil => rfl
  | cons item items ih => cases own : chosen item <;> simp [own, ih]

/-- The routes of the process by their paths, and Handle for every other request. -/
theorem dispatch_eq (request : HttpRequest) (plainMethod : 32 ∉ request.method)
    (env : ProcessEnv Redis State) :
    (buildRouter process).dispatch request env =
      match ownRoute request with
      | some route => serveRoute process route request env
      | none => handle process.gatewayHandler request env := by
  have chosen : process.registrations.reverse.findSome?
      (Registration.forRoute request.method request.path) =
        (ownRoute request).map (serveRoute process) := by
    rw [registrations_eq, List.reverse_append, List.reverse_singleton, List.singleton_append,
      List.findSome?_cons, ← List.map_reverse, List.reverse_reverse, List.findSome?_map]
    simp only [Registration.forRoute, Function.comp_def, ownRoute]
    by_cases get : bytes "GET" = request.method
    · simp only [get, true_and, ↓reduceIte]
      rw [← findSome_chosen]
      simp
    · simp [get]
  have rest : process.registrations.reverse.findSome? Registration.forRest =
      some (handle process.gatewayHandler) := by
    rw [registrations_eq, List.reverse_append, List.reverse_singleton, List.singleton_append,
      List.findSome?_cons]
    rfl
  rw [buildRouter, dispatch_registered (registrations_plain process) request plainMethod,
    lastRegistered, chosen, rest]
  cases ownRoute request <;> rfl

end routes

section mediation
variable (process : Process Redis State)

/-- A route of the gateway shows the state as it is, some of them to an authorised request only. -/
structure RouteMediated (route : OwnRoute) (request : HttpRequest) (env : ProcessEnv Redis State)
    (out : HttpResponse × ProcessEnv Redis State) : Prop where
  unchanged : out.2.state = env.state
  shown : route.guarded = false → out = (route.answer process request env.state, env)
  authorised : route.guarded = true → Authorised process.authFilter request env →
    out.1 = route.answer process request env.state
  unauthorized : route.guarded = true → request.path ∉ process.config.auth.publicPaths →
    (∀ record, ¬ AcceptsToken process.authFilter request env record) → out.1.status = 401
  forbidden : route.guarded = true → request.path ∉ process.config.auth.publicPaths →
    ∀ record, AcceptsToken process.authFilter request env record →
      ¬ RoleListed process.authFilter request.path record.role → out.1.status = 403

/-- What one request may do: it meets a route of the gateway, or else Handle. -/
structure RouterMediated (request : HttpRequest) (env : ProcessEnv Redis State)
    (out : HttpResponse × ProcessEnv Redis State) : Prop where
  own : ∀ route, ownRoute request = some route → RouteMediated process route request env out
  handled : ownRoute request = none → ∃ events, out.2.state.trace = env.state.trace ++ events ∧
    Mediated process.gatewayHandler process.authFilter request env events out

variable (enabled : process.config.auth.enabled = true)
include enabled

theorem serveRoute_mediated (route : OwnRoute) (request : HttpRequest)
    (env : ProcessEnv Redis State) :
    RouteMediated process route request env (serveRoute process route request env) := by
  have guard := require_auth_guarded process.authFilter request env enabled
  have checked := check_state process.authFilter request env
  cases guarded : route.guarded with
  | false =>
    have served : serveRoute process route request env =
        (route.answer process request env.state, env) := by
      simp [serveRoute, guarded, showing]
    rw [served]
    have off : ¬ route.guarded = true := by simp [guarded]
    exact ⟨rfl, fun _ => rfl, fun on => absurd on off, fun on => absurd on off,
      fun on => absurd on off⟩
  | true =>
    have served : serveRoute process route request env = requireAuth (some process.authFilter)
        (showing fun request s => route.answer process request s) request env := by
      simp [serveRoute, guarded]
    rw [served]
    refine ⟨?_, by simp [guarded], fun _ authorised => ?_, fun _ notPublic none => ?_,
      fun _ notPublic record accepted unlisted => ?_⟩
    · unfold requireAuth
      simp only
      split
      · exact checked
      · exact checked
    · rw [guard.runs authorised, showing, checked]
    · obtain ⟨out, status, _, same⟩ := guard.unauthorized notPublic none
      rw [same, status]
    · obtain ⟨out, status, _, same⟩ := guard.forbidden notPublic record accepted unlisted
      rw [same, status]

theorem dispatch_mediated (request : HttpRequest) (plainMethod : 32 ∉ request.method)
    (env : ProcessEnv Redis State) :
    RouterMediated process request env ((buildRouter process).dispatch request env) := by
  rw [dispatch_eq process request plainMethod env]
  cases own : ownRoute request with
  | none =>
    refine ⟨fun route found => ?_, fun _ => handle_mediated _ request env _ rfl enabled⟩
    rw [own] at found
    cases found
  | some route =>
    refine ⟨fun other found => ?_, fun none => ?_⟩
    · rw [own] at found
      obtain rfl := Option.some.inj found
      exact serveRoute_mediated process enabled _ request env
    · rw [own] at none
      cases none

/-- A request that gets as far as the services: it has a route, a right to it and room. -/
structure Reaches (request : HttpRequest) (env : ProcessEnv Redis State) : Prop where
  not_own : ownRoute request = none
  routed : PrefixRouted process.routeManager request.path
  authorised : Authorised process.authFilter request
    (authEnv process.gatewayHandler request env)
  admitted : LimiterAllows process.gatewayHandler request env

/-- Any other request leaves the services and what governs the calls to them alone. -/
theorem upstream_kept {request : HttpRequest} (plainMethod : 32 ∉ request.method)
    {env : ProcessEnv Redis State} (stopped : ¬ Reaches process request env) :
    ((buildRouter process).dispatch request env).2.state.upstream = env.state.upstream := by
  have mediated := dispatch_mediated process enabled request plainMethod env
  generalize (buildRouter process).dispatch request env = out at mediated
  cases own : ownRoute request with
  | some route => rw [(mediated.own route own).unchanged]
  | none =>
    obtain ⟨events, _, handled⟩ := mediated.handled own
    by_cases routed : PrefixRouted process.routeManager request.path
    · by_cases authorised : Authorised process.authFilter request
          (authEnv process.gatewayHandler request env)
      · have full : ¬ LimiterAllows process.gatewayHandler request env := fun admitted =>
          stopped ⟨own, routed, authorised, admitted⟩
        exact (handled.rate_limited routed authorised full).2
      · simp only [Authorised, not_or, not_exists, not_and] at authorised
        obtain ⟨notPublic, unlisted⟩ := authorised
        by_cases known : ∃ record, AcceptsToken process.authFilter request
            (authEnv process.gatewayHandler request env) record
        · obtain ⟨record, accepted⟩ := known
          exact (handled.forbidden routed notPublic record accepted
            (unlisted record accepted)).2.upstream
        · exact (handled.unauthorized routed notPublic (not_exists.mp known)).2.upstream
    · exact (handled.not_found routed).2.upstream

/-- Requests served one after another, each with a deadline of its own. -/
def serve (requests : List HttpRequest) (env : ProcessEnv Redis State) : ProcessEnv Redis State :=
  requests.foldl (fun env request =>
    ((buildRouter process).dispatch request { env with deadline := none }).2) env

def meeting (earlier : List HttpRequest) (env : ProcessEnv Redis State) : ProcessEnv Redis State :=
  { serve process earlier env with deadline := none }

/-- Over a run every request is mediated, and whatever has become of the services and their breakers
    is the doing of requests that had a right to reach them. -/
theorem run_mediated (requests : List HttpRequest) (plain : ∀ r ∈ requests, 32 ∉ r.method)
    (env : ProcessEnv Redis State) :
    (∀ earlier request later, requests = earlier ++ request :: later →
      RouterMediated process request (meeting process earlier env)
        ((buildRouter process).dispatch request (meeting process earlier env))) ∧
    ((serve process requests env).state.upstream ≠ env.state.upstream →
      ∃ earlier request later, requests = earlier ++ request :: later ∧
        Reaches process request (meeting process earlier env)) := by
  constructor
  · rintro earlier request later rfl
    exact dispatch_mediated process enabled request (plain request (by simp)) _
  · induction requests using List.reverseRecOn with
    | nil => exact fun changed => absurd rfl changed
    | append_singleton requests last ih =>
      intro changed
      by_cases reached : Reaches process last (meeting process requests env)
      · exact ⟨requests, last, [], rfl, reached⟩
      · have kept := upstream_kept process enabled (plain last (by simp)) reached
        have whole : serve process (requests ++ [last]) env =
            ((buildRouter process).dispatch last (meeting process requests env)).2 := by
          simp [serve, meeting]
        rw [whole, kept] at changed
        obtain ⟨earlier, request, later, rfl, reaches⟩ :=
          ih (fun r listed => plain r (List.mem_append_left _ listed)) changed
        exact ⟨earlier, request, later ++ [last], by simp, reaches⟩

def idleProcess : Process Unit Unit where
  config := {}
  userService := ⟨fun _ _ env => ({}, env), fun _ _ env => ({}, env)⟩
  fileMetaService := ⟨fun _ _ env => ({}, env), fun _ _ env => ({}, env)⟩
  taskService := ⟨fun _ _ env => ({}, env), fun _ _ env => ({}, env), fun _ _ env => env⟩
  redisLink := ⟨fun redis => (.ok (), redis), fun _ redis => (.ok 0, redis)⟩
  routeManager := ⟨[], List.Pairwise.nil⟩
  sorted := List.Perm.refl _
  exactRoutes := routeNames
  listed := List.Perm.refl _

def idleEnv : ProcessEnv Unit Unit where
  steady := ticking 1000
  system := stopped 0
  deadline := none
  state := {
    rateLimit := { redis := () }
    tracer := { hexDraws := fun _ => 0, sampleDraws := fun _ => 0 }
    upstream := { inner := { services := () } } }

omit enabled in
theorem run_mediated_admin :
    let request : HttpRequest := { method := bytes "GET", path := bytes "/admin/routes" }
    RouterMediated idleProcess request (meeting idleProcess [request] idleEnv)
      ((buildRouter idleProcess).dispatch request (meeting idleProcess [request] idleEnv)) := by
  intro request
  have plain : ∀ r ∈ [request, request], 32 ∉ r.method := by
    intro r listed
    obtain rfl : r = request := by simpa using listed
    decide
  exact (run_mediated idleProcess rfl [request, request] plain idleEnv).1 [request] request [] rfl

end mediation

section stamping
variable (process : Process Redis State)

theorem shown_stamped (requestId : Bytes) (asked : ByteMap Bytes) (route : OwnRoute)
    (request : HttpRequest) (s : ProcessState Redis State) :
    Stamped requestId asked (route.answer process request s) := by
  have json : ∀ body, Stamped requestId asked
      { status := 200, contentType := bytes "application/json", body := body } :=
    fun _ => ⟨fun _ => (by decide : HasThreeDigits 200), by simp [contentTypes], by simp⟩
  cases route with
  | metrics => exact ⟨fun _ => (by decide : HasThreeDigits 200),
      by simp [OwnRoute.answer, buildPrometheusResponse, contentTypes],
      by simp [OwnRoute.answer, buildPrometheusResponse]⟩
  | _ => exact json _

theorem dispatch_stamped {request : HttpRequest} (lines : SingleLines request)
    (env : ProcessEnv Redis State) :
    Stamped request.requestId request.headers ((buildRouter process).dispatch request env).1 := by
  unfold buildRouter
  let answers (out : HttpResponse × ProcessEnv Redis State) : Prop :=
    Stamped request.requestId request.headers out.1
  show answers _
  refine dispatch_meets request env
    (fun method path handler listed => ?_) (fun handler listed => ?_)
    (stamped_json (fun _ => by decide) lines.requestId)
  · rw [registrations_eq, List.mem_append, List.mem_map] at listed
    rcases listed with ⟨route, _, same⟩ | rest
    · cases same
      unfold serveRoute
      split
      · unfold requireAuth
        simp only
        split
        · exact check_stamped _ _ lines.requestId
        · exact shown_stamped process _ _ route request _
      · exact shown_stamped process _ _ route request _
    · simp at rest
  · rw [registrations_eq, List.mem_append, List.mem_map] at listed
    rcases listed with ⟨route, _, same⟩ | rest
    · cases same
    · obtain rfl : handler = handle process.gatewayHandler := by simpa using rest
      exact handle_stamped (forward_stamping (localRpc_stamping process.services)) lines env

end stamping

end TgwGatewayRouter
