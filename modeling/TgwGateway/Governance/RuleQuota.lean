import TgwGateway.Gateway.RuleSelection
import TgwGateway.Governance.LocalBuckets

/- Whose quota a local check uses up. The limit is the one of the rule for the path and the count
   the one of the client and the route, so a rule has a quota of its own only where they agree. -/
namespace TgwRuleQuota
open ByteStrings FixedWindow TgwConfig TgwHttp TgwRouteRule TgwRateLimitFilter TgwLocalBuckets
open TgwRuleSelection

inductive Client where
  | user (id : Bytes)
  | address (ip : Bytes)
  deriving DecidableEq

def clientOf (request : HttpRequest) : Client :=
  let userId := headerValue request (bytes "X-User-Id")
  if userId ≠ [] then .user userId
  else .address (if request.clientIp = [] then bytes "unknown" else request.clientIp)

structure ServedCheck where
  check : WaitingCheck
  held : LockedCheck

structure Served where
  buckets : Buckets := ∅
  checks : List ServedCheck := []

def serve (config : RateLimitConfig) (served : Served) (check : WaitingCheck) : Served :=
  let held := lockBucket config served.buckets check
  ⟨held.2, served.checks ++ [⟨check, held.1⟩]⟩

/-- Checks in the order in which they take the lock; their readings are in any order. -/
def serveAll (config : RateLimitConfig) (checks : List WaitingCheck) : Served :=
  checks.foldl (serve config) {}

def keyOf (check : WaitingCheck) : Bytes := buildKey check.request check.matched

def governing (config : RateLimitConfig) (check : WaitingCheck) : Option RateLimitRuleConfig :=
  limitRule config check.matched.originalPath

def passed (served : ServedCheck) : Bool := served.held.decision.allowed

def startsNew (config : RateLimitConfig) (served : ServedCheck) : Bool :=
  starts (windowOf config) served.held

def onBucket (key : Bytes) (checks : List ServedCheck) : List ServedCheck :=
  checks.filter fun served => served.held.key == key

def usesQuota (config : RateLimitConfig) (check : WaitingCheck) (rule : RateLimitRuleConfig)
    (served : ServedCheck) : Bool :=
  passed served && clientOf served.check.request == clientOf check.request &&
    served.check.matched.route.path == check.matched.route.path &&
    governing config served.check == some rule

/-- A request is rejected only when its own rule's quota is used up in the current window. -/
def RuleQuota (config : RateLimitConfig) (checks : List ServedCheck) : Prop :=
  EachEvent (fun earlier e => ∀ rule, governing config e.check = some rule → passed e = false →
    rule.maxRequests ≤ (allowedBefore (startsNew config) (usesQuota config e.check rule)
      (onBucket (keyOf e.check) earlier) e : Nat)) checks

/-- The requests that share a bucket with one under a rule are of one client and route and are
    governed by that rule themselves. -/
def OwnBuckets (config : RateLimitConfig) (issued : HttpRequest → RouteMatchResult → Prop) :
    Prop :=
  ∀ request matched request' matched', issued request matched → issued request' matched' →
    buildKey request matched = buildKey request' matched' →
    ∀ rule, limitRule config matched.originalPath = some rule → 0 < rule.maxRequests →
      clientOf request' = clientOf request ∧ matched'.route.path = matched.route.path ∧
        limitRule config matched'.originalPath = some rule

section serve
variable (config : RateLimitConfig)

def nextServed (buckets : Buckets) (check : WaitingCheck) : ServedCheck :=
  ⟨check, nextCheck (windowOf config) (limitOf config check.matched) (keyOf check)
    check.request.requestId check.now (buckets.getD (keyOf check) {})⟩

theorem serve_eq (served : Served) (check : WaitingCheck) :
    serve config served check =
      ⟨served.buckets.insert (keyOf check) (nextServed config served.buckets check).held.left,
        served.checks ++ [nextServed config served.buckets check]⟩ := by
  simp [serve, lockBucket_eq, nextServed, keyOf]

/-- What holds after any checks: a bucket counts what its window has allowed, and a rejected check
    has met its limit. -/
structure ServedInvariant (served : Served) : Prop where
  counted : ∀ key, (served.buckets.getD key {}).count =
    allowedInWindow (startsNew config) passed (onBucket key served.checks)
  keyed : ∀ e ∈ served.checks, e.held.key = keyOf e.check
  refused : EachEvent (fun earlier e => passed e = false →
    limitOf config e.check.matched ≤ (allowedBefore (startsNew config) passed
      (onBucket (keyOf e.check) earlier) e : Nat)) served.checks

theorem served_invariant_nil : ServedInvariant config {} where
  counted := by simp [onBucket, allowedInWindow]
  keyed := by simp
  refused := each_event_nil

variable {config}

theorem next_counted {served : Served} (before : ServedInvariant config served)
    (check : WaitingCheck) :
    (allowedBefore (startsNew config) passed (onBucket (keyOf check) served.checks)
      (nextServed config served.buckets check) : Int) =
        countBefore (windowOf config) check.now (served.buckets.getD (keyOf check) {}) := by
  simp only [allowedBefore, startsNew, starts, nextServed, nextCheck, countBefore, before.counted]
  split <;> simp [*]

theorem serve_invariant {served : Served} (before : ServedInvariant config served)
    (check : WaitingCheck) : ServedInvariant config (serve config served check) := by
  have counted := next_counted before check
  rw [serve_eq]
  refine ⟨?_, ?_, each_event_snoc.mpr ⟨before.refused, ?_⟩⟩
  · intro key
    by_cases own : keyOf check = key
    · subst own
      have counts := checkBucket_count (windowOf config) (limitOf config check.matched)
        (keyOf check) check.request.requestId check.now (served.buckets.getD (keyOf check) {})
      have last : onBucket (keyOf check) (served.checks ++ [nextServed config served.buckets check]) =
          onBucket (keyOf check) served.checks ++ [nextServed config served.buckets check] := by
        simp [onBucket, nextServed, nextCheck]
      rw [last, allowedInWindow_snoc, Int.natCast_add]
      simp only [allowedBefore] at counted
      rw [counted]
      simp only [Std.ExtTreeMap.getD_insert_self, nextServed, nextCheck, counts, passed]
      split <;> simp [*]
    · have other : onBucket key (served.checks ++ [nextServed config served.buckets check]) =
          onBucket key served.checks := by
        simp [onBucket, nextServed, nextCheck, own]
      rw [other, ← before.counted key]
      simp [Std.ExtTreeMap.getD_insert, own]
  · intro e member
    rcases List.mem_append.mp member with earlier | here
    · exact before.keyed e earlier
    · obtain rfl := List.mem_singleton.mp here
      rfl
  · intro rejected
    have met : ¬ countBefore (windowOf config) check.now (served.buckets.getD (keyOf check) {}) <
        limitOf config check.matched := by
      rw [← checkBucket_allowed _ _ (keyOf check) check.request.requestId]
      simpa [passed, nextServed, nextCheck] using rejected
    rw [← counted] at met
    exact Int.not_lt.mp met

theorem serveAll_snoc (checks : List WaitingCheck) (last : WaitingCheck) :
    serveAll config (checks ++ [last]) = serve config (serveAll config checks) last := by
  simp [serveAll]

variable (config)

/-- By induction on the checks, with the last one served last. -/
theorem serveAll_invariant (checks : List WaitingCheck) :
    ServedInvariant config (serveAll config checks) := by
  induction checks using List.reverseRecOn with
  | nil => exact served_invariant_nil config
  | append_singleton checks last ih =>
    rw [serveAll_snoc]
    exact serve_invariant ih last

theorem serveAll_checks (checks : List WaitingCheck) :
    (serveAll config checks).checks.map (·.check) = checks := by
  induction checks using List.reverseRecOn with
  | nil => rfl
  | append_singleton checks last ih =>
    rw [serveAll_snoc, serve_eq, List.map_append, ih]
    rfl

end serve

/-- The concurrent checks of the local buckets are served in some order. -/
theorem run_served (config : RateLimitConfig) (actions : List LocalAction) :
    ∃ checks, (∀ c ∈ checks, .readClock c.request c.matched c.now ∈ actions) ∧
      (run config actions).buckets = (serveAll config checks).buckets ∧
      (run config actions).locked = (serveAll config checks).checks.map (·.held) := by
  suffices served : ∃ checks, (∀ c ∈ checks ++ (run config actions).waiting,
      .readClock c.request c.matched c.now ∈ actions) ∧
      (run config actions).buckets = (serveAll config checks).buckets ∧
      (run config actions).locked = (serveAll config checks).checks.map (·.held) by
    obtain ⟨checks, read, same⟩ := served
    exact ⟨checks, fun c member => read c (by simp [member]), same⟩
  induction actions using List.reverseRecOn with
  | nil => exact ⟨[], by simp [run], rfl, rfl⟩
  | append_singleton actions action ih =>
    obtain ⟨checks, read, buckets, locked⟩ := ih
    have stepped : run config (actions ++ [action]) = step config (run config actions) action := by
      simp [run]
    rw [stepped]
    cases action with
    | readClock request matched now =>
      refine ⟨checks, fun c member => ?_, buckets, locked⟩
      simp only [step, ← List.append_assoc] at member
      rcases List.mem_append.mp member with earlier | here
      · exact List.mem_append_left _ (read c earlier)
      · obtain rfl := List.mem_singleton.mp here
        simp
    | takeLock caller =>
      simp only [step]
      cases found : (run config actions).waiting[caller]? with
      | none => exact ⟨checks, fun c member => List.mem_append_left _ (read c member), buckets, locked⟩
      | some check =>
        refine ⟨checks ++ [check], fun c member => List.mem_append_left _ (read c ?_), ?_, ?_⟩
        · simp only [List.append_assoc, List.mem_append, List.singleton_append, List.mem_cons]
            at member ⊢
          rcases member with earlier | rfl | later
          · exact Or.inl earlier
          · exact Or.inr (List.mem_of_getElem? found)
          · exact Or.inr (List.mem_of_mem_eraseIdx later)
        · simp [serveAll_snoc, serve, buckets]
        · simp [serveAll_snoc, serve, buckets, locked]

section quota
variable {config : RateLimitConfig} {issued : HttpRequest → RouteMatchResult → Prop}

theorem limitOf_governing {check : WaitingCheck} {rule : RateLimitRuleConfig}
    (governed : governing config check = some rule) (positive : 0 < rule.maxRequests) :
    limitOf config check.matched = rule.maxRequests := by
  rw [governing] at governed
  rw [limitOf, resolveLimit_eq, governed]
  simp only [Option.elim_some]
  omega

theorem own_buckets_quota (own : OwnBuckets config issued) (checks : List WaitingCheck)
    (all : ∀ c ∈ checks, issued c.request c.matched) :
    RuleQuota config (serveAll config checks).checks := by
  intro earlier e later split rule governed rejected
  by_cases positive : 0 < rule.maxRequests
  · have invariant := serveAll_invariant config checks
    have met := invariant.refused earlier e later split rejected
    rw [limitOf_governing governed positive] at met
    have served : ∀ o ∈ earlier ++ e :: later, issued o.check.request o.check.matched := by
      intro o member
      refine all o.check ?_
      rw [← serveAll_checks config checks, split]
      exact List.mem_map_of_mem member
    have same : ∀ o ∈ onBucket (keyOf e.check) earlier,
        passed o = usesQuota config e.check rule o := by
      intro o member
      obtain ⟨before, key⟩ := List.mem_filter.mp member
      have keyed := invariant.keyed o (by simp [split, before])
      rw [beq_iff_eq, keyed] at key
      obtain ⟨client, route, governs⟩ := own _ _ _ _ (served e (by simp))
        (served o (by simp [before])) key.symm rule governed positive
      simp [usesQuota, client, route, governing, governs]
    rw [allowedBefore, allowedInWindow_congr (startsNew config) same] at met
    exact met
  · omega

end quota

section shared_bucket
variable (config : RateLimitConfig)

theorem same_window (count : Int) :
    startsWindow (windowOf config) 1 ⟨1, count⟩ = false := by
  have wide : ¬ windowOf config ≤ 0 := Int.not_le.mpr (windowOf_pos config)
  simp [startsWindow, wide]

theorem serve_in_window {served : Served} {check : WaitingCheck} {count : Int}
    (reading : check.now = 1) (bucket : served.buckets.getD (keyOf check) {} = ⟨1, count⟩)
    (room : count < limitOf config check.matched) :
    (serve config served check).buckets.getD (keyOf check) {} = ⟨1, count + 1⟩ := by
  have full : ¬ limitOf config check.matched ≤ count := by omega
  rw [serve_eq]
  simp [nextServed, nextCheck, checkBucket, bucket, reading, same_window, full]

theorem refused_in_window {served : Served} {check : WaitingCheck} {count : Int}
    (reading : check.now = 1) (bucket : served.buckets.getD (keyOf check) {} = ⟨1, count⟩)
    (full : limitOf config check.matched ≤ count) :
    passed (nextServed config served.buckets check) = false ∧
      startsNew config (nextServed config served.buckets check) = false := by
  simp [passed, startsNew, starts, nextServed, nextCheck, checkBucket, bucket, reading,
    same_window, full]

theorem serve_first {check : WaitingCheck} (reading : check.now = 1) :
    (serve config {} check).buckets.getD (keyOf check) {} = ⟨1, 1⟩ := by
  have room : ¬ limitOf config check.matched ≤ 0 := by
    unfold limitOf
    omega
  rw [serve_eq]
  simp [nextServed, nextCheck, checkBucket, startsWindow, reading, room]

/-- One request of another kind, then as many as the rule allows: the last one is rejected. -/
theorem shared_bucket_breaks {first check : WaitingCheck} {rule : RateLimitRuleConfig}
    (readings : first.now = 1 ∧ check.now = 1) (shared : keyOf first = keyOf check)
    (governed : governing config check = some rule) (positive : 0 < rule.maxRequests)
    (foreign : ¬ (clientOf first.request = clientOf check.request ∧
      first.matched.route.path = check.matched.route.path ∧ governing config first = some rule)) :
    ¬ RuleQuota config (serveAll config
      (first :: List.replicate rule.maxRequests.toNat check)).checks := by
  have limit := limitOf_governing governed positive
  have filled : ∀ n : Nat, n < rule.maxRequests →
      (serveAll config (first :: List.replicate n check)).buckets.getD (keyOf check) {} =
        ⟨1, n + 1⟩ := by
    intro n
    induction n with
    | zero =>
      intro _
      have start := serve_first config readings.1
      rw [shared] at start
      simpa [serveAll] using start
    | succ n ih =>
      intro small
      rw [List.replicate_succ', ← List.cons_append, serveAll_snoc]
      have grown := serve_in_window config readings.2 (ih (by omega)) (by omega)
      rw [grown]
      rfl
  obtain ⟨n, size⟩ : ∃ n : Nat, rule.maxRequests = n + 1 :=
    ⟨(rule.maxRequests - 1).toNat, by omega⟩
  have count : rule.maxRequests.toNat = n + 1 := by omega
  rw [count, List.replicate_succ', ← List.cons_append, serveAll_snoc, serve_eq]
  intro quota
  have bucket := filled n (by omega)
  obtain ⟨rejected, running⟩ := refused_in_window config readings.2 bucket (by omega)
  have used := quota _ _ [] rfl rule governed rejected
  rw [allowedBefore, running, if_neg (by simp)] at used
  have few : (onBucket (keyOf check) (serveAll config
      (first :: List.replicate n check)).checks).countP (usesQuota config check rule) ≤ n := by
    have own := serveAll_checks config (first :: List.replicate n check)
    generalize (serveAll config (first :: List.replicate n check)).checks = served at own
    obtain ⟨head, rest, rfl, headOwn, restOwn⟩ := List.map_eq_cons_iff.mp own
    have skipped : usesQuota config check rule head = false := by
      rw [← headOwn] at foreign
      simp only [usesQuota, Bool.and_eq_false_iff, beq_eq_false_iff_ne]
      tauto
    have size := congrArg List.length restOwn
    rw [List.length_map, List.length_replicate] at size
    calc (onBucket (keyOf check) (head :: rest)).countP (usesQuota config check rule)
        ≤ (head :: rest).countP (usesQuota config check rule) :=
          List.Sublist.countP_le List.filter_sublist
      _ = rest.countP (usesQuota config check rule) := by
          rw [List.countP_cons_of_neg (by simp [skipped])]
      _ ≤ rest.length := List.countP_le_length
      _ = n := size
  have bound := allowedInWindow_le_countP (startsNew config) (usesQuota config check rule)
    (onBucket (keyOf check) (serveAll config (first :: List.replicate n check)).checks)
  simp only [nextServed] at used
  omega

end shared_bucket

/-- Exactly which requests can be served so that every rule keeps a quota of its own. -/
theorem rule_quota_iff (config : RateLimitConfig)
    (issued : HttpRequest → RouteMatchResult → Prop) :
    (∀ checks : List WaitingCheck, (∀ c ∈ checks, issued c.request c.matched) →
      RuleQuota config (serveAll config checks).checks) ↔ OwnBuckets config issued := by
  constructor
  · intro quotas request matched request' matched' own own' shared rule governed positive
    by_contra foreign
    have first : keyOf ⟨request', matched', 1⟩ = keyOf ⟨request, matched, 1⟩ := shared.symm
    refine shared_bucket_breaks config ⟨rfl, rfl⟩ first governed positive foreign (quotas _ ?_)
    intro c member
    rcases List.mem_cons.mp member with rfl | again
    · exact own'
    · obtain rfl := List.eq_of_mem_replicate again
      exact own
  · exact own_buckets_quota

section shipped_rules

def shippedRules : RateLimitConfig where
  defaultMaxRequests := 100
  rules := [{ path := bytes "/api/user/login", maxRequests := 20 },
    { path := bytes "/api/user/profile", maxRequests := 100 },
    { path := bytes "/api/file", maxRequests := 100 },
    { path := bytes "/api/task", maxRequests := 100 }]

def userCheck (path : Bytes) : WaitingCheck where
  request := {
    path := path
    headers := (∅ : ByteMap Bytes).insert (bytes "X-User-Id") (bytes "10001") }
  matched := { route := { path := bytes "/api/user" }, originalPath := path }
  now := 1

/-- One request for another path, and the hundredth profile request is rejected. -/
theorem other_path_uses_quota :
    ¬ RuleQuota shippedRules (serveAll shippedRules (userCheck (bytes "/api/user/logout") ::
      List.replicate 100 (userCheck (bytes "/api/user/profile")))).checks := by
  have shared : keyOf (userCheck (bytes "/api/user/logout")) =
      keyOf (userCheck (bytes "/api/user/profile")) := by decide
  have governed : governing shippedRules (userCheck (bytes "/api/user/profile")) =
      some { path := bytes "/api/user/profile", maxRequests := 100 } := by decide
  have otherwise : governing shippedRules (userCheck (bytes "/api/user/logout")) = none := by decide
  have readings : (userCheck (bytes "/api/user/logout")).now = 1 ∧
      (userCheck (bytes "/api/user/profile")).now = 1 := ⟨rfl, rfl⟩
  have breaks := shared_bucket_breaks shippedRules readings shared governed (by decide)
    (by simp [otherwise])
  simpa only [Int.reduceToNat] using breaks

end shipped_rules

end TgwRuleQuota
