import TgwGateway.Auth.AuthFilter
import TgwGateway.Gateway.RouteRule
import TgwGateway.Governance.RateLimitFilter
import TgwGateway.Lib.LongestPrefix

/- Which rule the route table, the role rules and the rate limits select for a path. -/
namespace TgwRuleSelection
open ByteStrings LongestPrefix TgwConfig TgwRouteRule TgwAuthFilter
open TgwRateLimitFilter hiding isPrefixMatch isPrefixMatch_eq

theorem isPrefixMatch_iff {rulePath requestPath : Bytes} :
    isPrefixMatch rulePath requestPath = true ↔
      rulePath ≠ [] ∧ Covers rulePath requestPath := by
  by_cases empty : rulePath = []
  · simp [isPrefixMatch, empty]
  · have starts : requestPath.take rulePath.length = rulePath ↔ rulePath <+: requestPath :=
      List.prefix_iff_eq_take.trans eq_comm |>.symm
    simp only [isPrefixMatch, empty, ↓reduceIte, covers_iff, ← starts, not_false_eq_true,
      ne_eq, true_and]
    by_cases agree : requestPath.take rulePath.length = rulePath
    · have fits : ¬ requestPath.length < rulePath.length := by
        have size := congrArg List.length agree
        simp only [List.length_take] at size
        omega
      by_cases same : requestPath.length = rulePath.length
      · simp [agree, same]
      · simp only [fits, ↓reduceIte, agree, not_true_eq_false, same, beq_iff_eq, true_and,
          false_or]
        rfl
    · simp [agree]

def coversPath (path : Bytes) (rule : RbacRuleConfig) : Bool :=
  startsWith path rule.path &&
    !decide (rule.path.length < path.length ∧ path[rule.path.length]? ≠ some 47)

theorem coversPath_iff {path : Bytes} {rule : RbacRuleConfig} :
    coversPath path rule = true ↔ Covers rule.path path := by
  simp only [coversPath, startsWith, covers_iff, Bool.and_eq_true, List.isPrefixOf_iff_prefix]
  refine and_congr_right fun starts => ?_
  have fits := starts.length_le
  simp only [Bool.not_eq_true', decide_eq_false_iff_not, not_and_or, not_not, separator]
  exact or_congr (by omega) Iff.rfl

theorem bestRuleLoop_eq_scan (path : Bytes) (rules : List RbacRuleConfig)
    (best : Option RbacRuleConfig) :
    bestRuleLoop path rules best =
      scan (coversPath path) (fun rule => rule.path.length) false rules best := by
  induction rules generalizing best with
  | nil => rfl
  | cons rule rules ih =>
    by_cases starts : startsWith path rule.path = true
    · by_cases outside : rule.path.length < path.length ∧ path[rule.path.length]? ≠ some 47
      · have refused : coversPath path rule = false := by
          rw [coversPath, starts, decide_eq_true outside]
          rfl
        simp only [bestRuleLoop, scan, starts, refused, Bool.not_true, Bool.not_false,
          Bool.false_eq_true, ↓reduceIte, if_pos outside, ih]
      · have accepted : coversPath path rule = true := by
          rw [coversPath, starts, decide_eq_false outside]
          rfl
        simp only [bestRuleLoop, scan, starts, accepted, Bool.not_true, Bool.false_eq_true,
          ↓reduceIte, if_neg outside]
        cases best with
        | none => exact ih _
        | some held => simp only [prefers, Bool.false_eq_true, ↓reduceIte, decide_eq_true_eq, ih]
    · have refused : coversPath path rule = false := by simp [coversPath, starts]
      simp [bestRuleLoop, scan, starts, refused, ih]

/-- The rule whose max_requests ResolveLimit takes. -/
def limitRule (config : RateLimitConfig) (originalPath : Bytes) : Option RateLimitRuleConfig :=
  scan (fun rule => TgwRateLimitFilter.isPrefixMatch rule.path originalPath)
    (fun rule => rule.path.length) true config.rules none

theorem resolveLimitLoop_eq_scan (originalPath : Bytes) (default : Int)
    (rules : List RateLimitRuleConfig) (held : Option RateLimitRuleConfig) :
    resolveLimitLoop originalPath rules (held.elim 0 (·.path.length))
        (held.elim default (·.maxRequests)) =
      (scan (fun rule => TgwRateLimitFilter.isPrefixMatch rule.path originalPath)
        (fun rule => rule.path.length) true rules held).elim default (·.maxRequests) := by
  induction rules generalizing held with
  | nil => rfl
  | cons rule rules ih =>
    simp only [resolveLimitLoop, scan]
    cases TgwRateLimitFilter.isPrefixMatch rule.path originalPath with
    | false => exact ih held
    | true =>
      cases held with
      | none => exact ih (some rule)
      | some best =>
        by_cases larger : best.path.length ≤ rule.path.length
        · simpa [prefers, larger] using ih (some rule)
        · simpa [prefers, larger] using ih (some best)

theorem resolveLimit_eq (config : RateLimitConfig) (matched : RouteMatchResult) :
    resolveLimit config matched =
      (limitRule config matched.originalPath).elim config.defaultMaxRequests (·.maxRequests) :=
  resolveLimitLoop_eq_scan matched.originalPath config.defaultMaxRequests config.rules none

theorem isRoleAllowed_eq (filter : AuthFilter) (path role : Bytes) :
    filter.isRoleAllowed path role =
      (!filter.config.rbacEnabled ||
        (bestRuleLoop path filter.rbacRules none).all fun rule => rule.roles.contains role) := by
  unfold AuthFilter.isRoleAllowed
  cases filter.config.rbacEnabled with
  | false => simp
  | true =>
    cases empty : filter.rbacRules with
    | nil => simp [bestRuleLoop]
    | cons rule rules =>
      simp only [Bool.not_true, List.isEmpty_cons, Bool.or_self, Bool.false_eq_true, ↓reduceIte,
        Bool.false_or]
      cases bestRuleLoop path (rule :: rules) none <;> rfl

theorem route_selected {manager : RouteRuleManager} (requestPath : Bytes)
    (prefixed : ∀ route ∈ manager.routes, route.matchType = bytes "prefix" ∧ route.path ≠ []) :
    Selected (manager.routes.map (·.path)) requestPath
      ((manager.matchPath requestPath).map (·.route.path)) := by
  have covering : ∀ route ∈ manager.routes,
      (route.matchType == bytes "prefix" && isPrefixMatch route.path requestPath) = true ↔
        Covers route.path requestPath := by
    intro route member
    obtain ⟨own, nonempty⟩ := prefixed route member
    simp [own, isPrefixMatch_iff, nonempty]
  have selects := find_selects manager.longestFirst covering
  simpa [RouteRuleManager.matchPath, Option.map_map, Function.comp_def] using selects

theorem role_rule_selected (filter : AuthFilter) (path : Bytes) :
    Selected (filter.rbacRules.map (·.path)) path
      ((bestRuleLoop path filter.rbacRules none).map (·.path)) := by
  rw [bestRuleLoop_eq_scan]
  exact scan_selects fun rule _ => coversPath_iff

theorem limit_rule_selected {config : RateLimitConfig} (path : Bytes)
    (nonempty : ∀ rule ∈ config.rules, rule.path ≠ []) :
    Selected (config.rules.map (·.path)) path ((limitRule config path).map (·.path)) :=
  scan_selects fun rule member => by
    rw [TgwRateLimitFilter.isPrefixMatch_eq]
    simp [isPrefixMatch_iff, nonempty rule member]

/-- What the three components select for a path, and that the selection is what decides. -/
structure RulesAgree (manager : RouteRuleManager) (filter : AuthFilter) (config : RateLimitConfig)
    (requestPath : Bytes) (selected : Option Bytes) : Prop where
  route : (manager.matchPath requestPath).map (·.route.path) = selected
  role_rule : (bestRuleLoop requestPath filter.rbacRules none).map (·.path) = selected
  role_decides : ∀ role, filter.isRoleAllowed requestPath role =
    (!filter.config.rbacEnabled ||
      (bestRuleLoop requestPath filter.rbacRules none).all fun rule => rule.roles.contains role)
  limit_rule : (limitRule config requestPath).map (·.path) = selected
  limit_decides : ∀ matched : RouteMatchResult, matched.originalPath = requestPath →
    resolveLimit config matched =
      (limitRule config requestPath).elim config.defaultMaxRequests (·.maxRequests)

/-- The route table is any sorted arrangement of the configured routes. -/
theorem rules_agree {paths : List Bytes} (requestPath : Bytes) {routes : List RouteConfig}
    {manager : RouteRuleManager} {filter : AuthFilter} {config : RateLimitConfig}
    (nonempty : ∀ q ∈ paths, q ≠ []) (arranged : manager.routes.Perm routes)
    (prefixed : ∀ route ∈ routes, route.matchType = bytes "prefix")
    (routePaths : (routes.map (·.path)).Perm paths)
    (rolePaths : (filter.rbacRules.map (·.path)).Perm paths)
    (limitPaths : (config.rules.map (·.path)).Perm paths) :
    ∃ selected, Selected paths requestPath selected ∧
      RulesAgree manager filter config requestPath selected := by
  have tablePaths : (manager.routes.map (·.path)).Perm paths := (arranged.map _).trans routePaths
  have named : ∀ route ∈ manager.routes, route.matchType = bytes "prefix" ∧ route.path ≠ [] := by
    intro route member
    refine ⟨prefixed route (arranged.mem_iff.mp member), nonempty _ ?_⟩
    exact tablePaths.mem_iff.mp (List.mem_map_of_mem member)
  have limited : ∀ rule ∈ config.rules, rule.path ≠ [] := by
    intro rule member
    exact nonempty _ (limitPaths.mem_iff.mp (List.mem_map_of_mem member))
  have route := selected_congr (fun q => tablePaths.mem_iff)
    (route_selected requestPath named)
  have role := selected_congr (fun q => rolePaths.mem_iff) (role_rule_selected filter requestPath)
  have limit := selected_congr (fun q => limitPaths.mem_iff)
    (limit_rule_selected requestPath limited)
  refine ⟨_, route, rfl, selected_unique role route, isRoleAllowed_eq filter requestPath,
    selected_unique limit route, ?_⟩
  rintro matched rfl
  exact resolveLimit_eq config matched

theorem rules_agree_nested :
    let user := bytes "/api/user"
    let login := bytes "/api/user/login"
    let manager : RouteRuleManager := ⟨[{ path := login }, { path := user }, { path := user }],
      by decide⟩
    let filter : AuthFilter := ⟨{}, [{ path := user }, { path := login }, { path := user }], none⟩
    let config : RateLimitConfig :=
      { rules := [{ path := user }, { path := user }, { path := login }] }
    ∃ selected, Selected [user, login, user] (bytes "/api/user/login/x") selected ∧
      RulesAgree manager filter config (bytes "/api/user/login/x") selected := by
  intro user login manager filter config
  exact rules_agree _ (by decide) (List.Perm.refl manager.routes) (by decide) (by decide)
    (by decide) (by decide)

end TgwRuleSelection
