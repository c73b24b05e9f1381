import TgwGateway.Governance.LocalBuckets
import TgwGateway.Governance.RedisExpiry
import TgwGateway.Governance.RedisFleet

/- The local bucket and the Redis counter on one sequence of checks of one client and route. The
   bucket stops counting at the limit, the counter goes on. -/
namespace TgwCheckAgreement
open ByteStrings MachineInt TgwClock TgwConfig TgwExceptions TgwHttp TgwRateLimitFilter
open TgwRedisServer TgwRedisConnection
variable {Redis : Type}

def runLocal (config : RateLimitConfig) (buckets : Buckets) (check : TimedCheck) :
    RateLimitDecision × Buckets :=
  let ran := checkLocal check.request (windowOf config) check.limit check.key
    { steady := check.steady
      system := stopped 0
      deadline := none
      state := { buckets := buckets, redis := () } }
  (ran.1, ran.2.state.buckets)

section runs
variable (link : Nat → RedisLink Redis) (config : RateLimitConfig)

def localDecisions : List TimedCheck → Buckets → List RateLimitDecision
  | [], _ => []
  | check :: checks, buckets =>
    let ran := runLocal config buckets check
    ran.1 :: localDecisions checks ran.2

def redisDecisions :
    List TimedCheck → RedisState Redis → List (Except CppException RateLimitDecision)
  | [], _ => []
  | check :: checks, state =>
    let ran := runCheck link config state check
    ran.1 :: redisDecisions checks ran.2

def SameDecision (own : RateLimitDecision) (shared : Except CppException RateLimitDecision) :
    Prop :=
  ∃ decision, shared = .ok decision ∧ decision.allowed = own.allowed ∧
    decision.remaining = own.remaining

def Agree (checks : List TimedCheck) (buckets : Buckets) (state : RedisState Redis) : Prop :=
  List.Forall₂ SameDecision (localDecisions config checks buckets)
    (redisDecisions link config checks state)

def CountedBefore (time : Nat) : List TimedCheck → RedisState Redis → Prop
  | [], _ => True
  | check :: checks, state =>
    check.countTime state < time ∧ CountedBefore time checks (runCheck link config state check).2

def expiryOf (state : RedisState Redis) (first : TimedCheck) : Nat :=
  first.expireTime state + (windowOf config).toNat * secondNanos

/-- The checks are of one client and route, count for one window of the steady clock on either
    side, and are counted before the Redis counter expires. -/
structure InOneWindow (state : RedisState Redis) (first : TimedCheck) (later : List TimedCheck) :
    Prop where
  same_key : ∀ check ∈ later, check.key = first.key
  same_limit : ∀ check ∈ later, check.limit = first.limit
  same_index : ∀ check ∈ later,
    check.seconds.tdiv (windowOf config) = first.seconds.tdiv (windowOf config)
  inside : ∀ check ∈ later, check.seconds - first.seconds < windowOf config
  alive : CountedBefore link config (expiryOf config state first) later
    (runCheck link config state first).2

end runs

section local_answer
variable {config : RateLimitConfig}

theorem runLocal_eq (buckets : Buckets) (check : TimedCheck) :
    runLocal config buckets check =
      let checked := checkBucket (windowOf config) check.limit check.key check.request.requestId
        check.seconds (buckets.getD check.key {})
      (checked.1, buckets.insert check.key checked.2) :=
  rfl

/-- A counted request and the bucket that has allowed as many, up to the limit. -/
theorem same_answer {windowSeconds limit now ttl : Int} {key redisKey requestId : Bytes}
    {found : Bucket} {count : Int} (positive : 1 ≤ limit) (fits : FitsInt32 limit)
    (counted : 1 ≤ count)
    (before : TgwLocalBuckets.countBefore windowSeconds now found = min (count - 1) limit) :
    SameDecision (checkBucket windowSeconds limit key requestId now found).1
      (.ok (redisDecision redisKey requestId windowSeconds limit count ttl)) := by
  refine ⟨_, rfl, ?_, ?_⟩
  · rw [Bool.eq_iff_iff, TgwRedisFleet.redisDecision_allowed,
      TgwLocalBuckets.checkBucket_allowed, before]
    omega
  · rw [TgwLocalBuckets.checkBucket_remaining, before]
    by_cases exceeded : limit < count
    · have stopped : ¬ min (count - 1) limit < limit := by omega
      rw [if_neg stopped]
      simp [redisDecision, exceeded]
    · have running : min (count - 1) limit < limit := by omega
      have narrow : toInt32 (limit - count) = limit - count := by
        obtain ⟨low, high⟩ := fits
        exact toInt32_of_fits ⟨by omega, by omega⟩
      have least : min (count - 1) limit + 1 = count := by omega
      have natural : max (limit - count) 0 = limit - count := by omega
      simp [redisDecision, exceeded, running, narrow, least, natural]

end local_answer

section steps
variable {link : Nat → RedisLink Redis} {entry : Redis → Bytes → Nat → Option RedisEntry}
  (laws : EntryLaws link entry) {config : RateLimitConfig}

/-- After n checks: the bucket has allowed n of them up to the limit, the counter stands at n. -/
structure Counted (entry : Redis → Bytes → Nat → Option RedisEntry) (config : RateLimitConfig)
    (state : RedisState Redis) (first : TimedCheck) (n : Int) (buckets : Buckets)
    (shared : RedisState Redis) : Prop where
  some_counted : 1 ≤ n
  own : buckets.getD first.key {} = ⟨first.seconds, min n first.limit⟩
  shared : ∀ time, shared.time ≤ time → time < expiryOf config state first →
    entry shared.server (first.redisKey config) time =
      some ⟨n, some (expiryOf config state first)⟩

include laws in
theorem read_later {redis : Redis} {key : Bytes} {n : Int} {since time expiry : Nat}
    (there : entry redis key since = some ⟨n, some expiry⟩) (order : since ≤ time)
    (alive : time < expiry) : entry redis key time = some ⟨n, some expiry⟩ := by
  rw [laws.later since time redis key order, there]
  exact Option.filter_eq_some_iff.mpr ⟨rfl, by simpa [isLive] using alive⟩

section first
variable {state : RedisState Redis} {first : TimedCheck} {buckets : Buckets}
  (positive : 1 ≤ first.limit) (fits : FitsInt32 first.limit)
  (narrow : windowOf config < 2 ^ 31) (whole : first.Undisturbed)
  (freshBucket : buckets[first.key]? = none)
  (freshKey : entry state.server (first.redisKey config) (first.countTime state) = none)
include laws positive fits narrow whole freshBucket freshKey

theorem first_check :
    SameDecision (runLocal config buckets first).1 (runCheck link config state first).1 ∧
      Counted entry config state first 1 (runLocal config buckets first).2
        (runCheck link config state first).2 := by
  have unused : buckets.getD first.key {} = {} := by
    rw [Std.ExtTreeMap.getD_eq_getD_getElem?, freshBucket]
    rfl
  have starts : startsWindow (windowOf config) first.seconds {} = true := by simp [startsWindow]
  have new : Creates link config state first := by
    rw [Creates, counting, laws.incr_answer, freshKey]
    rfl
  have created : entry (counting link config state first).2 (first.redisKey config)
      (first.expireTime state) = some { count := 1 } := by
    have ahead : first.countTime state ≤ first.expireTime state := Nat.le_add_right _ _
    rw [laws.later _ _ _ _ ahead, counting, laws.incr_entry, if_pos rfl, freshKey]
    rfl
  have expires : entry (expiring link config state first).2 (first.redisKey config)
      (first.expireTime state) = some ⟨1, some (expiryOf config state first)⟩ := by
    rw [expiring, laws.expire_entry _ _ _ _ _ (windowOf_pos config) narrow, if_pos rfl, created]
    rfl
  obtain ⟨ttl, answered, changed, time⟩ := undisturbed_created laws narrow whole new
  rw [runLocal_eq, unused, answered]
  refine ⟨?_, ⟨Int.le_refl 1, ?_, fun seen since alive => ?_⟩⟩
  · refine same_answer positive fits (Int.le_refl 1) ?_
    rw [TgwLocalBuckets.countBefore, if_pos starts]
    omega
  · have open_ : ¬ first.limit ≤ 0 := by omega
    have least : min 1 first.limit = 1 := by omega
    simp [checkBucket, starts, open_, least]
  · rw [changed]
    exact read_later laws expires (time.trans since) alive

end first

section later
variable {state shared : RedisState Redis} {first check : TimedCheck} {buckets : Buckets} {n : Int}
  (positive : 1 ≤ first.limit) (fits : FitsInt32 first.limit) (whole : check.Undisturbed)
  (sameKey : check.key = first.key) (sameLimit : check.limit = first.limit)
  (sameIndex : check.seconds.tdiv (windowOf config) = first.seconds.tdiv (windowOf config))
  (alive : check.countTime shared < expiryOf config state first)
  (before : Counted entry config state first n buckets shared)
include laws whole sameKey sameIndex alive before

theorem later_count :
    ∃ ttl, (runCheck link config shared check).1 = .ok (redisDecision (first.redisKey config)
        check.request.requestId (windowOf config) check.limit (n + 1) ttl) ∧
      ∀ time, (runCheck link config shared check).2.time ≤ time →
        time < expiryOf config state first →
          entry (runCheck link config shared check).2.server (first.redisKey config) time =
            some ⟨n + 1, some (expiryOf config state first)⟩ := by
  have key : check.redisKey config = first.redisKey config := by
    simp only [TimedCheck.redisKey, TgwRateLimitFilter.redisKey, sameKey, sameIndex]
  have there : entry shared.server (first.redisKey config) (check.countTime shared) =
      some ⟨n, some (expiryOf config state first)⟩ := by
    refine before.shared _ ?_ alive
    unfold TimedCheck.countTime
    omega
  have answer : (counting link config shared check).1 = .ok (n + 1) := by
    rw [counting, key, laws.incr_answer, there]
    rfl
  have counts : entry (counting link config shared check).2 (first.redisKey config)
      (check.countTime shared) = some ⟨n + 1, some (expiryOf config state first)⟩ := by
    rw [counting, key, laws.incr_entry, if_pos rfl, there]
    rfl
  have old : n + 1 ≠ 1 := by
    have some_counted := before.some_counted
    omega
  obtain ⟨ttl, answered, changed, time⟩ := undisturbed_counted laws whole answer old
  refine ⟨ttl, ?_, fun seen since live => ?_⟩
  · rw [answered, key]
  · rw [changed]
    exact read_later laws counts (time.trans since) live

include positive fits sameLimit

theorem later_check (started : first.seconds ≠ 0)
    (inside : check.seconds - first.seconds < windowOf config) :
    SameDecision (runLocal config buckets check).1 (runCheck link config shared check).1 ∧
      Counted entry config state first (n + 1) (runLocal config buckets check).2
        (runCheck link config shared check).2 := by
  have some_counted := before.some_counted
  obtain ⟨ttl, answered, stored⟩ := later_count laws whole sameKey sameIndex alive before
  have same : startsWindow (windowOf config) check.seconds
      ⟨first.seconds, min n first.limit⟩ = false := by
    simp [startsWindow, started, inside]
  rw [runLocal_eq, sameKey, before.own, sameLimit, answered, sameLimit]
  refine ⟨?_, ⟨by omega, ?_, stored⟩⟩
  · refine same_answer positive fits (by omega) ?_
    simp [TgwLocalBuckets.countBefore, same]
  · rw [Std.ExtTreeMap.getD_insert_self]
    by_cases full : first.limit ≤ min n first.limit
    · have stays : min (n + 1) first.limit = min n first.limit := by omega
      simp [checkBucket, same, full, stays]
    · have grows : min (n + 1) first.limit = min n first.limit + 1 := by omega
      simp [checkBucket, same, full, grows]

/-- A window that starts at second zero counts as unset, so the bucket starts another one. -/
theorem zero_start_disagrees (zero : first.seconds = 0) :
    ¬ SameDecision (runLocal config buckets check).1 (runCheck link config shared check).1 := by
  have some_counted := before.some_counted
  obtain ⟨ttl, answered, _⟩ := later_count laws whole sameKey sameIndex alive before
  have starts : startsWindow (windowOf config) check.seconds
      ⟨first.seconds, min n first.limit⟩ = true := by
    simp [startsWindow, zero]
  have none_before : TgwLocalBuckets.countBefore (windowOf config) check.seconds
      ⟨first.seconds, min n first.limit⟩ = 0 := by
    simp [TgwLocalBuckets.countBefore, starts]
  rw [runLocal_eq, sameKey, before.own, sameLimit, answered, sameLimit]
  rintro ⟨decision, equal, accepts, remains⟩
  cases equal
  rw [Bool.eq_iff_iff, TgwRedisFleet.redisDecision_allowed,
    TgwLocalBuckets.checkBucket_allowed, none_before] at accepts
  have running : ¬ first.limit < n + 1 := by omega
  have narrow : toInt32 (max (first.limit - (n + 1)) 0) = first.limit - (n + 1) := by
    obtain ⟨low, high⟩ := fits
    have natural : max (first.limit - (n + 1)) 0 = first.limit - (n + 1) := by omega
    rw [natural]
    exact toInt32_of_fits ⟨by omega, by omega⟩
  rw [TgwLocalBuckets.checkBucket_remaining, none_before, if_pos (by omega)] at remains
  simp only [redisDecision, running, ↓reduceIte, narrow] at remains
  omega

end later

section sequence
variable {state : RedisState Redis} {first : TimedCheck} (positive : 1 ≤ first.limit)
  (fits : FitsInt32 first.limit)
include laws positive fits

/-- By induction on the checks: bucket and counter move on together. -/
theorem later_agree (started : first.seconds ≠ 0) (later : List TimedCheck) :
    ∀ (n : Int) (buckets : Buckets) (shared : RedisState Redis),
      Counted entry config state first n buckets shared → (∀ check ∈ later, check.Undisturbed) →
      (∀ check ∈ later, check.key = first.key) → (∀ check ∈ later, check.limit = first.limit) →
      (∀ check ∈ later,
        check.seconds.tdiv (windowOf config) = first.seconds.tdiv (windowOf config)) →
      (∀ check ∈ later, check.seconds - first.seconds < windowOf config) →
      CountedBefore link config (expiryOf config state first) later shared →
      Agree link config later buckets shared := by
  induction later with
  | nil => intros; exact .nil
  | cons check later ih =>
    intro n buckets shared before whole sameKey sameLimit sameIndex inside alive
    obtain ⟨now, then_⟩ := alive
    have next := later_check laws positive fits (whole check (by simp)) (sameKey check (by simp))
      (sameLimit check (by simp)) (sameIndex check (by simp)) now before started
      (inside check (by simp))
    refine .cons next.1 (ih (n + 1) _ _ next.2 ?_ ?_ ?_ ?_ ?_ then_)
    · exact fun c member => whole c (by simp [member])
    · exact fun c member => sameKey c (by simp [member])
    · exact fun c member => sameLimit c (by simp [member])
    · exact fun c member => sameIndex c (by simp [member])
    · exact fun c member => inside c (by simp [member])

end sequence

end steps

/-- Whatever server keeps to what is documented of the commands: the two agree on every check exactly
    if the window does not start at second zero of the clock, or there is only one check. -/
theorem agree_iff {link : Nat → RedisLink Redis}
    {entry : Redis → Bytes → Nat → Option RedisEntry} (laws : EntryLaws link entry)
    (config : RateLimitConfig) (state : RedisState Redis) (buckets : Buckets)
    (first : TimedCheck) (later : List TimedCheck) (positive : 1 ≤ first.limit)
    (fits : FitsInt32 first.limit) (window : FitsInt32 config.windowSeconds)
    (whole : ∀ check ∈ first :: later, check.Undisturbed)
    (together : InOneWindow link config state first later)
    (freshBucket : buckets[first.key]? = none)
    (freshKey : entry state.server (first.redisKey config) (first.countTime state) = none) :
    Agree link config (first :: later) buckets state ↔ first.seconds ≠ 0 ∨ later = [] := by
  have narrow : windowOf config < 2 ^ 31 := by
    have high := (windowOf_fits window).2
    omega
  obtain ⟨same, counted⟩ := first_check laws positive fits narrow (whole first (by simp))
    freshBucket freshKey
  constructor
  · intro agree
    by_contra! neither
    obtain ⟨zero, more⟩ := neither
    cases later with
    | nil => exact more rfl
    | cons check later =>
      obtain ⟨now, _⟩ := together.alive
      cases agree with
      | cons _ agree =>
        cases agree with
        | cons second _ =>
          exact zero_start_disagrees laws positive fits (whole check (by simp))
            (together.same_key check (by simp)) (together.same_limit check (by simp))
            (together.same_index check (by simp)) now counted zero second
  · rintro (started | rfl)
    · exact .cons same (later_agree laws positive fits started later 1 _ _ counted
        (fun check member => whole check (by simp [member])) together.same_key
        together.same_limit together.same_index together.inside together.alive)
    · exact .cons same .nil

def checkAt (second : Nat) : TimedCheck where
  key := bytes "ip:10.0.0.1|route:/api"
  limit := 1
  steady := { ticking secondNanos with taken := second }

theorem checkAt_undisturbed (second : Nat) : (checkAt second).Undisturbed := by
  intro index
  simp [checkAt, TimedCheck.operation]

def oneMinute : RateLimitConfig := { windowSeconds := 60 }

theorem agree_iff_seventh_second :
    Agree serverLink oneMinute [checkAt 7, checkAt 8, checkAt 59] ∅ noKeys ↔
      (checkAt 7).seconds ≠ 0 ∨ [checkAt 8, checkAt 59] = [] := by
  have together : InOneWindow serverLink oneMinute noKeys (checkAt 7) [checkAt 8, checkAt 59] := by
    refine ⟨?_, ?_, ?_, ?_, ?_⟩
    · simp [checkAt]
    · simp [checkAt]
    · decide
    · decide
    · exact ⟨by decide, by decide, trivial⟩
  refine agree_iff entryLaws oneMinute noKeys ∅ (checkAt 7) [checkAt 8, checkAt 59] (by decide)
    (by decide) (by decide) ?_ together (by simp) (by decide)
  intro check member
  simp only [List.mem_cons, List.not_mem_nil, or_false] at member
  rcases member with rfl | rfl | rfl <;> exact checkAt_undisturbed _

/-- Two checks in the first second of the clock, where one is allowed: the bucket allows both. -/
theorem second_zero_allows_both :
    (∀ check ∈ [checkAt 0, checkAt 0], check.Undisturbed) ∧
      InOneWindow serverLink oneMinute noKeys (checkAt 0) [checkAt 0] ∧
      (localDecisions oneMinute [checkAt 0, checkAt 0] ∅).map (·.allowed) = [true, true] ∧
      ¬ Agree serverLink oneMinute [checkAt 0, checkAt 0] ∅ noKeys := by
  refine ⟨?_, ⟨?_, ?_, ?_, ?_, ?_⟩, by decide, ?_⟩
  · intro check member
    simp only [List.mem_cons, List.not_mem_nil, or_false, or_self] at member
    subst member
    exact checkAt_undisturbed 0
  · simp
  · simp
  · simp
  · decide
  · exact ⟨by decide, trivial⟩
  · rintro (_ | ⟨_, _ | ⟨⟨decision, shared, accepts, _⟩, _⟩⟩)
    have rejected : (runCheck serverLink oneMinute (runCheck serverLink oneMinute noKeys
        (checkAt 0)).2 (checkAt 0)).1.toOption.map (·.allowed) = some false := by decide
    have allowed : (runLocal oneMinute (runLocal oneMinute ∅ (checkAt 0)).2
        (checkAt 0)).1.allowed = true := by decide
    rw [shared, Except.toOption, Option.map_some, accepts, allowed] at rejected
    cases rejected

end TgwCheckAgreement
