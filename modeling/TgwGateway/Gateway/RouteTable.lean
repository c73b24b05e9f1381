import TgwGateway.Gateway.RuleSelection
import Mathlib.Data.List.Nodup

/- What the route table finds for a path, for every list of routes and every order in which
   std::sort may leave them. A route with an empty path is configured but never found. -/
namespace TgwRouteTable
open ByteStrings LongestPrefix TgwConfig TgwRouteRule TgwRuleSelection

def prefixRoutes (routes : List RouteConfig) : List RouteConfig :=
  routes.filter fun route => route.matchType == bytes "prefix"

def candidates (routes : List RouteConfig) : List RouteConfig :=
  (prefixRoutes routes).filter fun route => !route.path.isEmpty

/-- Match on a table made of the routes: what it returns is a configured route with the longest
    path among those of the given routes. -/
structure Finds (routes among : List RouteConfig) (manager : RouteRuleManager)
    (requestPath : Bytes) : Prop where
  longest : Selected (among.map (·.path)) requestPath
    ((manager.matchPath requestPath).map (·.route.path))
  configured : ∀ matched, manager.matchPath requestPath = some matched →
    matched.route ∈ prefixRoutes routes ∧ matched.originalPath = requestPath

structure MatchLaws (routes : List RouteConfig) (manager : RouteRuleManager)
    (requestPath : Bytes) : Prop where
  finds : Finds routes (candidates routes) manager requestPath
  order_free : ((candidates routes).map (·.path)).Nodup →
    ∀ (reordered : List RouteConfig) (other : RouteRuleManager), reordered.Perm routes →
      other.routes.Perm reordered → other.matchPath requestPath = manager.matchPath requestPath
  stripped : ∀ matched, manager.matchPath requestPath = some matched →
    matched.route.stripRoutePrefix = true →
      matched.upstreamPath.head? = some slash ∧
        if requestPath = matched.route.path then matched.upstreamPath = [slash]
        else matched.route.path ++ matched.upstreamPath = requestPath

theorem some_arrangement (routes : List RouteConfig) :
    ∃ manager : RouteRuleManager, manager.routes.Perm routes := by
  let longer : RouteConfig → RouteConfig → Bool := fun lhs rhs =>
    decide (rhs.path.length ≤ lhs.path.length)
  have sorted : (routes.mergeSort longer).Pairwise fun lhs rhs => longer lhs rhs = true := by
    refine List.pairwise_mergeSort ?_ ?_ routes
    · intro a b c first second
      simp only [longer, decide_eq_true_eq] at first second ⊢
      omega
    · intro a b
      simp only [longer, Bool.or_eq_true, decide_eq_true_eq]
      omega
  exact ⟨⟨routes.mergeSort longer, sorted.imp fun {_ _} => of_decide_eq_true⟩,
    List.mergeSort_perm routes longer⟩

section table
variable {routes : List RouteConfig} {manager : RouteRuleManager}

theorem mem_candidates {route : RouteConfig} :
    route ∈ candidates routes ↔
      route ∈ routes ∧ route.matchType = bytes "prefix" ∧ route.path ≠ [] := by
  simp only [candidates, prefixRoutes, List.mem_filter, beq_iff_eq, Bool.not_eq_true',
    List.isEmpty_eq_false_iff, ne_eq, and_assoc]

theorem matchPath_candidates (manager : RouteRuleManager) (requestPath : Bytes) :
    manager.matchPath requestPath =
      ((candidates manager.routes).find? fun route => isPrefixMatch route.path requestPath).map
        fun route =>
          { route := route
            originalPath := requestPath
            upstreamPath := buildUpstreamPath route.path requestPath route.stripRoutePrefix } := by
  unfold RouteRuleManager.matchPath candidates prefixRoutes
  rw [List.find?_filter, List.find?_filter]
  congr 2
  funext route
  cases empty : route.path with
  | nil => simp [isPrefixMatch]
  | cons c rest => simp [Bool.beq_eq_decide_eq]

theorem candidates_perm {reordered : List RouteConfig} (arranged : List.Perm reordered routes) :
    (candidates reordered).Perm (candidates routes) :=
  (arranged.filter _).filter _

theorem candidate_matches {route : RouteConfig} (member : route ∈ candidates routes)
    (requestPath : Bytes) :
    isPrefixMatch route.path requestPath = true ↔ Covers route.path requestPath := by
  have named := (mem_candidates.mp member).2.2
  simp [isPrefixMatch_iff, named]

theorem candidates_longestFirst (manager : RouteRuleManager) :
    (candidates manager.routes).Pairwise fun lhs rhs => rhs.path.length ≤ lhs.path.length :=
  (manager.longestFirst.filter _).filter _

theorem found_candidate {requestPath : Bytes} {matched : RouteMatchResult}
    (found : manager.matchPath requestPath = some matched) :
    matched.route ∈ candidates manager.routes ∧ Covers matched.route.path requestPath ∧
      matched.originalPath = requestPath ∧
      matched.upstreamPath =
        buildUpstreamPath matched.route.path requestPath matched.route.stripRoutePrefix := by
  rw [matchPath_candidates] at found
  obtain ⟨route, hit, rfl⟩ := Option.map_eq_some_iff.mp found
  have member := List.mem_of_find?_eq_some hit
  have covers : isPrefixMatch route.path requestPath = true :=
    List.find?_some (p := fun route : RouteConfig => isPrefixMatch route.path requestPath) hit
  exact ⟨member, (candidate_matches member requestPath).mp covers, rfl, rfl⟩

variable (arranged : manager.routes.Perm routes) (requestPath : Bytes)
include arranged

theorem match_finds : Finds routes (candidates routes) manager requestPath := by
  constructor
  · have covering : ∀ route ∈ candidates manager.routes,
        isPrefixMatch route.path requestPath = true ↔ Covers route.path requestPath :=
      fun route member => candidate_matches member requestPath
    have selects := find_selects (candidates_longestFirst manager) covering
    have same : ∀ q, q ∈ (candidates manager.routes).map (·.path) ↔
        q ∈ (candidates routes).map (·.path) :=
      fun q => ((candidates_perm arranged).map _).mem_iff
    rw [matchPath_candidates, Option.map_map]
    exact selected_congr same selects
  · intro matched found
    obtain ⟨member, _, original, _⟩ := found_candidate found
    obtain ⟨inside, kind, _⟩ := mem_candidates.mp member
    exact ⟨by simp [prefixRoutes, arranged.mem_iff.mp inside, kind], original⟩

/-- Two tables with the same routes return the same route when the path tells it apart. -/
theorem match_order_free (distinct : ((candidates routes).map (·.path)).Nodup)
    {other : RouteRuleManager} (same : other.routes.Perm routes) :
    other.matchPath requestPath = manager.matchPath requestPath := by
  have paths := selected_unique (match_finds same requestPath).longest
    (match_finds arranged requestPath).longest
  cases here : manager.matchPath requestPath with
  | none =>
    rw [here] at paths
    exact Option.map_eq_none_iff.mp paths
  | some matched =>
    rw [here] at paths
    obtain ⟨matched', there, path⟩ := Option.map_eq_some_iff.mp paths
    obtain ⟨member, _, original, upstream⟩ := found_candidate here
    obtain ⟨member', _, original', upstream'⟩ := found_candidate there
    have route : matched'.route = matched.route :=
      List.inj_on_of_nodup_map distinct ((candidates_perm same).mem_iff.mp member')
        ((candidates_perm arranged).mem_iff.mp member) path
    rw [there, Option.some.injEq]
    cases matched
    cases matched'
    simp_all

omit arranged in
theorem stripped_path {q : Bytes} (covers : Covers q requestPath) :
    (buildUpstreamPath q requestPath true).head? = some slash ∧
      if requestPath = q then buildUpstreamPath q requestPath true = [slash]
      else q ++ buildUpstreamPath q requestPath true = requestPath := by
  rcases covers with rfl | ⟨rest, rfl⟩
  · simp [buildUpstreamPath]
  · have differs : q ++ [separator] ++ rest ≠ q := by
      intro same
      have size := congrArg List.length same
      simp only [List.length_append, List.length_singleton] at size
      omega
    have upstream : buildUpstreamPath q (q ++ [separator] ++ rest) true = separator :: rest := by
      have longer : ¬ (q ++ separator :: rest).length = q.length := by
        simp only [List.length_append, List.length_cons]
        omega
      rw [List.append_assoc, List.singleton_append, buildUpstreamPath, if_neg (by simp),
        if_neg longer, List.drop_left]
      rfl
    rw [if_neg differs, upstream]
    exact ⟨rfl, by simp⟩

theorem match_laws : MatchLaws routes manager requestPath where
  finds := match_finds arranged requestPath
  order_free := fun distinct _ _ reordering same =>
    match_order_free arranged requestPath distinct (same.trans reordering)
  stripped := by
    intro matched found strips
    obtain ⟨_, covers, _, upstream⟩ := found_candidate found
    rw [strips] at upstream
    rw [upstream]
    exact stripped_path requestPath covers

end table

/-- Two routes of one length and a longer one that is no prefix route. -/
theorem match_laws_stripped :
    let user : RouteConfig := { path := bytes "/api/user", stripRoutePrefix := true }
    let file : RouteConfig := { path := bytes "/api/file" }
    let login : RouteConfig := { path := bytes "/api/user/login", matchType := bytes "exact" }
    let manager : RouteRuleManager := ⟨[login, file, user], by decide⟩
    MatchLaws [user, file, login] manager (bytes "/api/user/login") := by
  intro user file login manager
  exact match_laws (by decide) _

/-- An empty configured path is a prefix of every path, and yet it is never taken. -/
theorem empty_path_never_found :
    let everywhere : RouteConfig := { path := [] }
    let manager : RouteRuleManager := ⟨[everywhere], by decide⟩
    manager.matchPath (bytes "/api") = none ∧
      ¬ Finds [everywhere] (prefixRoutes [everywhere]) manager (bytes "/api") := by
  intro everywhere manager
  have nothing : manager.matchPath (bytes "/api") = none := by decide
  refine ⟨nothing, fun finds => ?_⟩
  have longest := finds.longest
  rw [nothing] at longest
  exact longest [] (by decide) (by decide)

end TgwRouteTable
