import TgwGateway.Auth.AuthFilter
import TgwGateway.Common.Clock
import TgwGateway.Gateway.Http
import TgwGateway.Lib.ByteMaps
import Mathlib.Data.List.Induction

/- Router: a handler for each exact method and path, and a fallback for every other request. The
   map of the source has no order, so the order in which routes are listed is not one. -/
namespace TgwRouter
open ByteStrings TgwClock TgwStatus TgwHttp TgwAuthFilter
variable {State : Type}

section router

abbrev RouteHandler (State : Type) := HttpRequest → Env State → HttpResponse × Env State

structure Router (State : Type) where
  routes : ByteMap (RouteHandler State) := ∅
  fallback : Option (RouteHandler State) := none

def makeRouteKey (method path : Bytes) : Bytes := method ++ bytes " " ++ path

def Router.addRoute (router : Router State) (method path : Bytes) (handler : RouteHandler State) :
    Router State :=
  { router with routes := router.routes.insert (makeRouteKey method path) handler }

def Router.setFallback (router : Router State) (handler : RouteHandler State) : Router State :=
  { router with fallback := some handler }

def routeNotFound (request : HttpRequest) : HttpResponse :=
  errorResponse 404 .notFound (bytes "route not found") request.requestId

def Router.dispatch (router : Router State) : RouteHandler State := fun request env =>
  match router.routes[makeRouteKey request.method request.path]? with
  | some handler => handler request env
  | none =>
    match router.fallback with
    | some handler => handler request env
    | none => (routeNotFound request, env)

def Router.listRoutes (router : Router State) : List Bytes :=
  router.routes.keys ++ if router.fallback.isSome then [bytes "FALLBACK /api/*"] else []

end router

section registrations

inductive Registration (State : Type) where
  | route (method path : Bytes) (handler : RouteHandler State)
  | fallback (handler : RouteHandler State)

def register (router : Router State) : Registration State → Router State
  | .route method path handler => router.addRoute method path handler
  | .fallback handler => router.setFallback handler

/-- What a router is after these registrations, in their order. -/
def registered (registrations : List (Registration State)) : Router State :=
  registrations.foldl register {}

def Registration.forRoute (method path : Bytes) : Registration State → Option (RouteHandler State)
  | .route m p handler => if m = method ∧ p = path then some handler else none
  | .fallback _ => none

def Registration.forRest : Registration State → Option (RouteHandler State)
  | .route _ _ _ => none
  | .fallback handler => some handler

/-- The handler that a request should meet: the last one for its method and path, or else the last
    fallback, or else the answer that there is no route. -/
def lastRegistered (registrations : List (Registration State)) : RouteHandler State :=
  fun request env =>
    match registrations.reverse.findSome? (Registration.forRoute request.method request.path) with
    | some handler => handler request env
    | none =>
      match registrations.reverse.findSome? Registration.forRest with
      | some handler => handler request env
      | none => (routeNotFound request, env)

/-- No method of a registered route has a blank in it, as no HTTP method has. -/
def Plain (registrations : List (Registration State)) : Prop :=
  ∀ method path handler, .route method path handler ∈ registrations → 32 ∉ method

theorem makeRouteKey_eq (method path : Bytes) : makeRouteKey method path = method ++ 32 :: path := by
  have blank : bytes " " = [32] := by decide
  rw [makeRouteKey, blank, List.append_assoc, List.singleton_append]

theorem makeRouteKey_injective {method method' path path' : Bytes} (plain : 32 ∉ method)
    (plain' : 32 ∉ method') (same : makeRouteKey method path = makeRouteKey method' path') :
    method = method' ∧ path = path' := by
  rw [makeRouteKey_eq, makeRouteKey_eq] at same
  induction method generalizing method' with
  | nil =>
    cases method' with
    | nil => exact ⟨rfl, (List.cons.inj same).2⟩
    | cons c rest => exact absurd (List.cons.inj same).1 fun head => plain' (by simp [head])
  | cons c rest ih =>
    cases method' with
    | nil => exact absurd (List.cons.inj same).1 fun head => plain (by simp [head])
    | cons c' rest' =>
      obtain ⟨head, tail⟩ := List.cons.inj same
      obtain ⟨rests, paths⟩ := ih (fun inside => plain (List.mem_cons_of_mem c inside))
        (fun inside => plain' (List.mem_cons_of_mem c' inside)) tail
      exact ⟨by rw [head, rests], paths⟩

theorem registered_snoc (registrations : List (Registration State)) (last : Registration State) :
    registered (registrations ++ [last]) = register (registered registrations) last := by
  simp [registered]

theorem registered_route {registrations : List (Registration State)} (plain : Plain registrations)
    {method : Bytes} (plainMethod : 32 ∉ method) (path : Bytes) :
    (registered registrations).routes[makeRouteKey method path]? =
      registrations.reverse.findSome? (Registration.forRoute method path) := by
  induction registrations using List.reverseRecOn with
  | nil => rfl
  | append_singleton registrations last ih =>
    have before := ih fun m p h listed => plain m p h (List.mem_append_left _ listed)
    rw [registered_snoc, List.reverse_append, List.reverse_singleton, List.singleton_append,
      List.findSome?_cons]
    cases last with
    | fallback handler => exact before
    | route m p handler =>
      have plainLast := plain m p handler (List.mem_append_right _ (List.mem_singleton.mpr rfl))
      simp only [register, Router.addRoute, Registration.forRoute]
      rw [Std.ExtTreeMap.getElem?_insert]
      by_cases own : m = method ∧ p = path
      · rw [if_pos own, own.1, own.2, if_pos Std.ReflCmp.compare_self]
      · have other : ¬ compare (makeRouteKey m p) (makeRouteKey method path) = .eq := by
          intro same
          exact own (makeRouteKey_injective plainLast plainMethod
            (Std.LawfulEqCmp.eq_of_compare same))
        rw [if_neg own, if_neg other]
        exact before

theorem registered_fallback (registrations : List (Registration State)) :
    (registered registrations).fallback =
      registrations.reverse.findSome? Registration.forRest := by
  induction registrations using List.reverseRecOn with
  | nil => rfl
  | append_singleton registrations last ih =>
    rw [registered_snoc, List.reverse_append, List.reverse_singleton, List.singleton_append,
      List.findSome?_cons]
    cases last with
    | fallback handler => rfl
    | route m p handler => exact ih

theorem dispatch_registered {registrations : List (Registration State)}
    (plain : Plain registrations) (request : HttpRequest) (plainMethod : 32 ∉ request.method)
    (env : Env State) :
    (registered registrations).dispatch request env = lastRegistered registrations request env := by
  rw [Router.dispatch, lastRegistered, registered_route plain plainMethod, registered_fallback]

theorem mem_registered_keys (registrations : List (Registration State)) (key : Bytes) :
    key ∈ (registered registrations).routes.keys ↔
      ∃ method path handler, .route method path handler ∈ registrations ∧
        key = makeRouteKey method path := by
  rw [Std.ExtTreeMap.mem_keys]
  induction registrations using List.reverseRecOn with
  | nil => simp [registered]
  | append_singleton registrations last ih =>
    rw [registered_snoc]
    cases last with
    | fallback handler =>
      simp only [register, Router.setFallback, List.mem_append, List.mem_singleton, reduceCtorEq,
        or_false]
      exact ih
    | route m p handler =>
      simp only [register, Router.addRoute, Std.ExtTreeMap.mem_insert]
      rw [ih]
      constructor
      · rintro (same | ⟨method, path, earlier, listed, rfl⟩)
        · exact ⟨m, p, handler, by simp, (Std.LawfulEqCmp.eq_of_compare same).symm⟩
        · exact ⟨method, path, earlier, List.mem_append_left _ listed, rfl⟩
      · rintro ⟨method, path, found, listed, rfl⟩
        rcases List.mem_append.mp listed with earlier | newest
        · exact .inr ⟨method, path, found, earlier, rfl⟩
        · obtain ⟨rfl, rfl, _⟩ : method = m ∧ path = p ∧ found = handler := by simpa using newest
          exact .inl Std.ReflCmp.compare_self

theorem registered_fallback_isSome (registrations : List (Registration State)) :
    (registered registrations).fallback.isSome ↔
      ∃ handler, .fallback handler ∈ registrations := by
  rw [registered_fallback, List.findSome?_isSome_iff]
  constructor
  · rintro ⟨registration, listed, found⟩
    cases registration with
    | route method path handler => cases found
    | fallback handler => exact ⟨handler, List.mem_reverse.mp listed⟩
  · rintro ⟨handler, listed⟩
    exact ⟨.fallback handler, List.mem_reverse.mpr listed, rfl⟩

theorem registered_handler {registrations : List (Registration State)} {key : Bytes}
    {handler : RouteHandler State}
    (found : (registered registrations).routes[key]? = some handler) :
    ∃ method path, .route method path handler ∈ registrations := by
  induction registrations using List.reverseRecOn with
  | nil => simp [registered] at found
  | append_singleton registrations last ih =>
    rw [registered_snoc] at found
    have earlier : (registered registrations).routes[key]? = some handler →
        ∃ method path, .route method path handler ∈ registrations ++ [last] := by
      intro before
      obtain ⟨method, path, listed⟩ := ih before
      exact ⟨method, path, List.mem_append_left _ listed⟩
    cases last with
    | fallback other => exact earlier found
    | route method path own =>
      simp only [register, Router.addRoute] at found
      rw [Std.ExtTreeMap.getElem?_insert] at found
      split at found
      · obtain rfl := Option.some.inj found
        exact ⟨method, path, by simp⟩
      · exact earlier found

theorem dispatch_meets {registrations : List (Registration State)} (request : HttpRequest)
    (env : Env State) {holds : HttpResponse × Env State → Prop}
    (routes : ∀ method path handler, .route method path handler ∈ registrations →
      holds (handler request env))
    (rest : ∀ handler, .fallback handler ∈ registrations → holds (handler request env))
    (missing : holds (routeNotFound request, env)) :
    holds ((registered registrations).dispatch request env) := by
  unfold Router.dispatch
  split
  · rename_i handler found
    obtain ⟨method, path, listed⟩ := registered_handler found
    exact routes method path handler listed
  · split
    · rename_i handler found
      rw [registered_fallback] at found
      obtain ⟨registration, listed, own⟩ := List.exists_of_findSome?_eq_some found
      cases registration with
      | route method path other => cases own
      | fallback other =>
        obtain rfl := Option.some.inj own
        exact rest _ (List.mem_reverse.mp listed)
    · exact missing

theorem mem_listRoutes (registrations : List (Registration State)) (text : Bytes) :
    text ∈ (registered registrations).listRoutes ↔
      (∃ method path handler, .route method path handler ∈ registrations ∧
        text = makeRouteKey method path) ∨
      (∃ handler, .fallback handler ∈ registrations) ∧ text = bytes "FALLBACK /api/*" := by
  rw [Router.listRoutes, List.mem_append, mem_registered_keys, ← registered_fallback_isSome]
  cases (registered registrations).fallback.isSome with
  | false => simp
  | true => simp

/-- A request is served by the handler registered last for it, and the list of routes names what
    was registered and nothing else. -/
theorem registrations_served {registrations : List (Registration State)}
    (plain : Plain registrations) :
    (∀ (request : HttpRequest) (env : Env State), 32 ∉ request.method →
      (registered registrations).dispatch request env =
        lastRegistered registrations request env) ∧
    ∀ text, text ∈ (registered registrations).listRoutes ↔
      (∃ method path handler, .route method path handler ∈ registrations ∧
        text = makeRouteKey method path) ∨
      (∃ handler, .fallback handler ∈ registrations) ∧ text = bytes "FALLBACK /api/*" :=
  ⟨fun request env plainMethod => dispatch_registered plain request plainMethod env,
    mem_listRoutes registrations⟩

theorem registrations_served_twice :
    let served := fun status : Int => (fun (_ : HttpRequest) (env : Env Unit) =>
      (({ status } : HttpResponse), env))
    let registrations : List (Registration Unit) :=
      [.route (bytes "GET") (bytes "/health") (served 200), .fallback (served 404),
        .route (bytes "GET") (bytes "/health") (served 204)]
    (∀ (request : HttpRequest) (env : Env Unit), 32 ∉ request.method →
      (registered registrations).dispatch request env =
        lastRegistered registrations request env) ∧
    ∀ text, text ∈ (registered registrations).listRoutes ↔
      (∃ method path handler, .route method path handler ∈ registrations ∧
        text = makeRouteKey method path) ∨
      (∃ handler, .fallback handler ∈ registrations) ∧ text = bytes "FALLBACK /api/*" := by
  intro served registrations
  refine registrations_served ?_
  intro method path handler listed
  have get : method = bytes "GET" := by
    simp only [registrations, List.mem_cons, Registration.route.injEq, reduceCtorEq,
      List.not_mem_nil, or_false, false_or] at listed
    rcases listed with ⟨rfl, _⟩ | ⟨rfl, _⟩ <;> rfl
  rw [get]
  decide

end registrations

end TgwRouter
