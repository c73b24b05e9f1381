import TgwGateway.Governance.RateLimitFilter
import TgwGateway.Lib.FixedWindow

/- Concurrent checks against the local buckets. A check reads the clock when it arrives and
   takes the lock at any later time, so the readings reach a bucket in any order. -/
namespace TgwLocalBuckets
open ByteStrings FixedWindow TgwClock TgwConfig TgwHttp TgwRouteRule TgwRateLimitFilter

structure WaitingCheck where
  request : HttpRequest
  matched : RouteMatchResult
  now : Int

/-- One critical section, with the bucket it found and the one it left behind. -/
structure LockedCheck where
  key : Bytes
  limit : Int
  now : Int
  found : Bucket
  left : Bucket
  decision : RateLimitDecision

structure LocalSystem where
  buckets : Buckets := ∅
  waiting : List WaitingCheck := []
  locked : List LockedCheck := []

inductive LocalAction where
  | readClock (request : HttpRequest) (matched : RouteMatchResult) (now : Int)
  | takeLock (caller : Nat)

def lockBucket (config : RateLimitConfig) (buckets : Buckets) (check : WaitingCheck) :
    LockedCheck × Buckets :=
  let key := buildKey check.request check.matched
  let limit := limitOf config check.matched
  let checked := checkLocked (windowOf config) limit key check.request.requestId check.now buckets
  (⟨key, limit, check.now, buckets.getD key {}, checked.2.getD key {}, checked.1⟩, checked.2)

def step (config : RateLimitConfig) (system : LocalSystem) : LocalAction → LocalSystem
  | .readClock request matched now =>
    { system with waiting := system.waiting ++ [⟨request, matched, now⟩] }
  | .takeLock caller =>
    match system.waiting[caller]? with
    | none => system
    | some check =>
      let held := lockBucket config system.buckets check
      { buckets := held.2
        waiting := system.waiting.eraseIdx caller
        locked := system.locked ++ [held.1] }

def run (config : RateLimitConfig) (actions : List LocalAction) : LocalSystem :=
  actions.foldl (step config) {}

def ReadingsPositive (actions : List LocalAction) : Prop :=
  ∀ request matched now, .readClock request matched now ∈ actions → 0 < now

def ofKey (key : Bytes) (checks : List LockedCheck) : List LockedCheck :=
  checks.filter fun check => check.key == key

theorem check_alone {Redis : Type} (link : RedisLink Redis) (config : RateLimitConfig)
    (request : HttpRequest) (matched : RouteMatchResult) (env : RateLimitEnv Redis)
    (locked : List LockedCheck) (enabled : config.enabled = true)
    (unshared : config.redis.enabled = false) :
    ∃ held, held.decision = (check link config request matched env).1 ∧
      step config (step config ⟨env.state.buckets, [], locked⟩
        (.readClock request matched (nowUnixSeconds env.now))) (.takeLock 0) =
          ⟨(check link config request matched env).2.state.buckets, [], locked ++ [held]⟩ := by
  simp only [check, enabled, unshared, checkLocal, step]
  exact ⟨_, rfl, rfl⟩

def starts (windowSeconds : Int) (e : LockedCheck) : Bool :=
  startsWindow windowSeconds e.now e.found

def allowed (e : LockedCheck) : Bool := e.decision.allowed

structure LocalLaws (windowSeconds : Int) (checks : List LockedCheck) : Prop where
  first_starts : ∀ e ∈ checks.head?, starts windowSeconds e = true
  window_starts : checks.IsChain
    (WindowStep (starts windowSeconds) (fun e => e.left.windowStart) windowSeconds)
  allowed_iff : EachEvent (fun earlier e => allowed e = true ↔
    (allowedBefore (starts windowSeconds) allowed earlier e : Int) < e.limit) checks
  bounded : ∀ (limit : Nat) (low high : Int), low ≤ high →
    (∀ e ∈ checks, e.limit = limit ∧ low ≤ e.now ∧ e.now ≤ high) →
    (checks.countP allowed : Int) ≤ limit * ((high - low) / windowSeconds + 1)

section critical_section
variable (windowSeconds limit : Int) (key requestId : Bytes) (now : Int) (found : Bucket)

theorem checkBucket_windowStart :
    (checkBucket windowSeconds limit key requestId now found).2.windowStart =
      if startsWindow windowSeconds now found then now else found.windowStart := by
  simp only [checkBucket]
  split <;> split <;> rfl

def countBefore : Int := if startsWindow windowSeconds now found then 0 else found.count

theorem checkBucket_allowed :
    (checkBucket windowSeconds limit key requestId now found).1.allowed = true ↔
      countBefore windowSeconds now found < limit := by
  simp only [checkBucket, countBefore]
  split <;> split <;> simp_all

theorem checkBucket_count :
    (checkBucket windowSeconds limit key requestId now found).2.count =
      countBefore windowSeconds now found +
        if (checkBucket windowSeconds limit key requestId now found).1.allowed then 1 else 0 := by
  simp only [checkBucket, countBefore]
  split <;> split <;> simp_all

theorem checkBucket_remaining :
    (checkBucket windowSeconds limit key requestId now found).1.remaining =
      if countBefore windowSeconds now found < limit then
        limit - (countBefore windowSeconds now found + 1)
      else 0 := by
  have started : (if startsWindow windowSeconds now found then Bucket.mk now 0 else found).count =
      countBefore windowSeconds now found := by
    unfold countBefore
    split <;> rfl
  rw [checkBucket, ← started]
  generalize (if startsWindow windowSeconds now found then Bucket.mk now 0 else found) = bucket
  by_cases full : limit ≤ bucket.count
  · have none_left : ¬ bucket.count < limit := by omega
    simp only [full, none_left, ↓reduceIte]
  · have some_left : bucket.count < limit := by omega
    have natural : max (limit - (bucket.count + 1)) 0 = limit - (bucket.count + 1) := by omega
    simp only [full, some_left, natural, ↓reduceIte]

end critical_section

/-- What holds of the bucket of a key after the checks on it. -/
structure KeyInvariant (windowSeconds : Int) (checks : List LockedCheck) (bucket : Bucket) :
    Prop where
  unused : checks = [] → bucket = {}
  current : ∀ e ∈ checks.getLast?, bucket = e.left
  counted : bucket.count = allowedInWindow (starts windowSeconds) allowed checks
  started : checks ≠ [] → 0 < bucket.windowStart
  own_start : ∀ e ∈ checks, starts windowSeconds e = true → e.left.windowStart = e.now
  first_starts : ∀ e ∈ checks.head?, starts windowSeconds e = true
  window_starts : checks.IsChain
    (WindowStep (starts windowSeconds) (fun e => e.left.windowStart) windowSeconds)
  allowed_iff : EachEvent (fun earlier e => allowed e = true ↔
    (allowedBefore (starts windowSeconds) allowed earlier e : Int) < e.limit) checks

theorem key_invariant_nil (windowSeconds : Int) : KeyInvariant windowSeconds [] {} where
  unused := by simp
  current := by simp
  counted := rfl
  started := by simp
  own_start := by simp
  first_starts := by simp
  window_starts := by simp
  allowed_iff := each_event_nil

def nextCheck (windowSeconds limit : Int) (key requestId : Bytes) (now : Int)
    (found : Bucket) : LockedCheck :=
  let checked := checkBucket windowSeconds limit key requestId now found
  ⟨key, limit, now, found, checked.2, checked.1⟩

section next_check
variable {windowSeconds : Int} {checks : List LockedCheck} {bucket : Bucket}
  (before : KeyInvariant windowSeconds checks bucket)
  (limit : Int) (key requestId : Bytes) (now : Int)
include before

theorem fresh_bucket_starts (first : checks = []) :
    startsWindow windowSeconds now bucket = true := by
  simp [startsWindow, before.unused first]

theorem next_count_before :
    (allowedBefore (starts windowSeconds) allowed checks
      (nextCheck windowSeconds limit key requestId now bucket) : Int) =
        countBefore windowSeconds now bucket := by
  simp only [allowedBefore, starts, nextCheck, countBefore, before.counted]
  split <;> simp [*]

theorem next_allowed_iff :
    allowed (nextCheck windowSeconds limit key requestId now bucket) = true ↔
      (allowedBefore (starts windowSeconds) allowed checks
        (nextCheck windowSeconds limit key requestId now bucket) : Int) < limit := by
  rw [next_count_before before]
  exact checkBucket_allowed windowSeconds limit key requestId now bucket

theorem next_window_step (last : LockedCheck)
    (isLast : last ∈ checks.getLast?) :
    WindowStep (starts windowSeconds) (fun e => e.left.windowStart) windowSeconds last
      (nextCheck windowSeconds limit key requestId now bucket) := by
  have same := before.current last isLast
  have running : 0 < bucket.windowStart := before.started (by rintro rfl; simp at isLast)
  simp only [WindowStep, starts, nextCheck, checkBucket_windowStart, ← same]
  cases new : startsWindow windowSeconds now bucket with
  | true =>
    simp only [startsWindow, Bool.or_eq_true, decide_eq_true_eq] at new
    simp only [↓reduceIte]
    omega
  | false => rfl

theorem key_invariant_snoc (positive : 0 < now) :
    KeyInvariant windowSeconds
      (checks ++ [nextCheck windowSeconds limit key requestId now bucket])
      (nextCheck windowSeconds limit key requestId now bucket).left where
  unused := by simp
  current := by simp
  counted := by
    have counts := checkBucket_count windowSeconds limit key requestId now bucket
    have earlier := next_count_before before limit key requestId now
    rw [allowedInWindow_snoc, Int.natCast_add]
    simp only [allowedBefore] at earlier
    rw [earlier]
    simp only [nextCheck, counts, allowed]
    split <;> simp [*]
  started := by
    intro _
    simp only [nextCheck, checkBucket_windowStart]
    split
    · exact positive
    · rename_i same
      exact before.started fun first => same (fresh_bucket_starts before now first)
  own_start := by
    intro e member new
    rcases List.mem_append.mp member with earlier | here
    · exact before.own_start e earlier new
    · obtain rfl := List.mem_singleton.mp here
      simp only [starts, nextCheck] at new
      simp [nextCheck, checkBucket_windowStart, new]
  first_starts := by
    cases empty : checks with
    | nil => simpa [starts, nextCheck] using fresh_bucket_starts before now empty
    | cons e rest =>
      have first := before.first_starts
      simpa [empty] using first
  window_starts := by
    refine List.isChain_append.mpr ⟨before.window_starts, by simp, ?_⟩
    intro last isLast next isNext
    obtain rfl : nextCheck windowSeconds limit key requestId now bucket = next := by
      simpa using isNext
    exact next_window_step before limit key requestId now last isLast
  allowed_iff :=
    each_event_snoc.mpr ⟨before.allowed_iff, next_allowed_iff before limit key requestId now⟩

end next_check

theorem key_laws {windowSeconds : Int} {checks : List LockedCheck} {bucket : Bucket}
    (wide : 0 < windowSeconds) (invariant : KeyInvariant windowSeconds checks bucket) :
    LocalLaws windowSeconds checks where
  first_starts := invariant.first_starts
  window_starts := invariant.window_starts
  allowed_iff := invariant.allowed_iff
  bounded := by
    intro limit low high nonempty same
    refine allowed_le wide nonempty invariant.first_starts invariant.window_starts ?_ ?_
    · intro earlier e later split accepts
      have room := (invariant.allowed_iff earlier e later split).mp accepts
      rw [(same e (by simp [split])).1] at room
      exact Int.ofNat_lt.mp room
    · intro e member new
      rw [invariant.own_start e member new]
      exact (same e member).2

structure SystemInvariant (config : RateLimitConfig) (system : LocalSystem) : Prop where
  waiting : ∀ check ∈ system.waiting, 0 < check.now
  keys : ∀ key, KeyInvariant (windowOf config) (ofKey key system.locked)
    (system.buckets.getD key {})

theorem lockBucket_eq (config : RateLimitConfig) (buckets : Buckets) (check : WaitingCheck) :
    lockBucket config buckets check =
      let key := buildKey check.request check.matched
      let held := nextCheck (windowOf config) (limitOf config check.matched) key
        check.request.requestId check.now (buckets.getD key {})
      (held, buckets.insert key held.left) := by
  simp [lockBucket, checkLocked, nextCheck]

theorem step_invariant (config : RateLimitConfig) (system : LocalSystem) (action : LocalAction)
    (before : SystemInvariant config system)
    (positive : ∀ request matched now, action = .readClock request matched now → 0 < now) :
    SystemInvariant config (step config system action) := by
  cases action with
  | readClock request matched now =>
    refine ⟨?_, before.keys⟩
    intro check member
    rcases List.mem_append.mp member with old | new
    · exact before.waiting check old
    · obtain rfl := List.mem_singleton.mp new
      exact positive request matched now rfl
  | takeLock caller =>
    simp only [step]
    cases found : system.waiting[caller]? with
    | none => exact before
    | some check =>
      have reading := before.waiting check (List.mem_of_getElem? found)
      simp only [lockBucket_eq]
      refine ⟨fun c member => before.waiting c (List.mem_of_mem_eraseIdx member), ?_⟩
      intro key
      have here := before.keys key
      by_cases own : buildKey check.request check.matched = key
      · have next := key_invariant_snoc here (limitOf config check.matched) key
          check.request.requestId check.now reading
        simpa [ofKey, nextCheck, own] using next
      · simpa [ofKey, nextCheck, Std.ExtTreeMap.getD_insert, own] using here

theorem run_invariant (config : RateLimitConfig) (actions : List LocalAction)
    (positive : ReadingsPositive actions) : SystemInvariant config (run config actions) := by
  induction actions using List.reverseRecOn with
  | nil => exact ⟨by simp [run], fun key => by simpa [run, ofKey] using key_invariant_nil _⟩
  | append_singleton actions action ih =>
    have before := ih fun request matched now member => positive request matched now (by simp [member])
    simp only [run, List.foldl_append, List.foldl_cons, List.foldl_nil]
    refine step_invariant config _ action before ?_
    rintro request matched now rfl
    exact positive request matched now (by simp)

theorem local_window_laws (config : RateLimitConfig) (actions : List LocalAction)
    (positive : ReadingsPositive actions) (key : Bytes) :
    LocalLaws (windowOf config) (ofKey key (run config actions).locked) := by
  exact key_laws (windowOf_pos config) ((run_invariant config actions positive).keys key)

/-- The later reading takes the lock first. -/
theorem local_window_laws_out_of_order :
    let config : RateLimitConfig := { windowSeconds := 10 }
    let request : HttpRequest := { clientIp := bytes "10.0.0.1" }
    let matched : RouteMatchResult := { route := { path := bytes "/api" } }
    let actions : List LocalAction :=
      [.readClock request matched 5, .readClock request matched 17, .takeLock 1, .takeLock 0]
    LocalLaws (windowOf config) (ofKey (buildKey request matched) (run config actions).locked) := by
  intro config request matched actions
  refine local_window_laws config actions ?_ _
  intro request' matched' now member
  simp only [actions, List.mem_cons, LocalAction.readClock.injEq, List.not_mem_nil, or_false,
    reduceCtorEq] at member
  omega

end TgwLocalBuckets
