import TgwGateway.Governance.LocalBuckets

/- What concurrent local checks report: the requests left and the seconds to the next window. A
   check may take the lock with an older reading than the one the window started at. -/
namespace TgwLocalReports
open ByteStrings FixedWindow MachineInt TgwConfig TgwHttp TgwRouteRule TgwRateLimitFilter
open TgwLocalBuckets

structure Reports (windowSeconds : Int) (earlier : List LockedCheck) (e : LockedCheck) : Prop where
  reset : 1 ≤ e.decision.resetSeconds ∧ e.decision.resetSeconds ≤ windowSeconds
  bounds : 0 ≤ e.decision.remaining ∧ e.decision.remaining < e.limit
  remaining : e.decision.remaining =
    if allowed e then
      e.limit - (allowedBefore (starts windowSeconds) allowed earlier e + 1 : Nat)
    else 0

/-- The reading lies in the window the check is counted in, as far as 32 bits tell. -/
def OnTime (windowSeconds : Int) (e : LockedCheck) : Prop :=
  starts windowSeconds e = true ∨ (e.now - e.found.windowStart) % 2 ^ 32 < windowSeconds

def Arises (windowSeconds : Int) (earlier : List LockedCheck) (e : LockedCheck) : Prop :=
  ∃ limit key requestId now bucket, 1 ≤ limit ∧ KeyInvariant windowSeconds earlier bucket ∧
    e = nextCheck windowSeconds limit key requestId now bucket

theorem limitOf_pos (config : RateLimitConfig) (matched : RouteMatchResult) :
    1 ≤ limitOf config matched := by
  unfold limitOf
  omega

theorem run_arises (config : RateLimitConfig) (actions : List LocalAction)
    (positive : ReadingsPositive actions) (key : Bytes) :
    EachEvent (Arises (windowOf config)) (ofKey key (run config actions).locked) := by
  induction actions using List.reverseRecOn with
  | nil => exact each_event_nil
  | append_singleton actions action ih =>
    have earlier : ReadingsPositive actions := fun request matched now member =>
      positive request matched now (by simp [member])
    have before := run_invariant config actions earlier
    simp only [run, List.foldl_append, List.foldl_cons, List.foldl_nil] at before ih ⊢
    cases action with
    | readClock request matched now => exact ih earlier
    | takeLock caller =>
      simp only [step]
      split
      · exact ih earlier
      · rename_i check found
        rw [lockBucket_eq]
        simp only [ofKey, List.filter_append]
        by_cases own : buildKey check.request check.matched = key
        · rw [List.filter_singleton, nextCheck, own, beq_self_eq_true, cond_true]
          refine each_event_snoc.mpr ⟨ih earlier, ?_⟩
          exact ⟨_, _, _, _, _, limitOf_pos config check.matched, before.keys key, rfl⟩
        · simpa [ofKey, nextCheck, own] using ih earlier

/-- Of a number modulo 2^32 only a residue up to the window is reported inside the window. -/
theorem clipped_reset_iff {windowSeconds : Int} (positive : 1 ≤ windowSeconds)
    (fits : FitsInt32 windowSeconds) (elapsed : Int) :
    (1 ≤ (if toInt32 (windowSeconds - elapsed) < 0 then 0
        else toInt32 (windowSeconds - elapsed)) ∧
      (if toInt32 (windowSeconds - elapsed) < 0 then 0
        else toInt32 (windowSeconds - elapsed)) ≤ windowSeconds) ↔
      elapsed % 2 ^ 32 < windowSeconds := by
  obtain ⟨low, high⟩ := toInt32_fits (windowSeconds - elapsed)
  obtain ⟨wraps, wrapped⟩ := toInt32_low_bits (windowSeconds - elapsed)
  have wide := fits.2
  split <;> omega

section report
variable {windowSeconds limit now : Int} {key requestId : Bytes} {bucket : Bucket}

theorem checkBucket_resetSeconds :
    (checkBucket windowSeconds limit key requestId now bucket).1.resetSeconds =
      if toInt32 (windowSeconds - (now - (if startsWindow windowSeconds now bucket then now
          else bucket.windowStart))) < 0 then 0
      else toInt32 (windowSeconds - (now - (if startsWindow windowSeconds now bucket then now
          else bucket.windowStart))) := by
  simp only [checkBucket]
  split <;> split <;> rfl

theorem reset_inside_iff (positive : 1 ≤ windowSeconds) (fits : FitsInt32 windowSeconds) :
    (1 ≤ (nextCheck windowSeconds limit key requestId now bucket).decision.resetSeconds ∧
      (nextCheck windowSeconds limit key requestId now bucket).decision.resetSeconds ≤
        windowSeconds) ↔
      OnTime windowSeconds (nextCheck windowSeconds limit key requestId now bucket) := by
  simp only [nextCheck, OnTime, starts, checkBucket_resetSeconds]
  rw [clipped_reset_iff positive fits]
  split
  · rename_i new
    simp [new]
    omega
  · rename_i same
    simp [same]

end report

theorem reports_iff {windowSeconds : Int} (positive : 1 ≤ windowSeconds)
    (fits : FitsInt32 windowSeconds) {earlier : List LockedCheck} {e : LockedCheck}
    (arises : Arises windowSeconds earlier e) :
    Reports windowSeconds earlier e ↔ OnTime windowSeconds e := by
  obtain ⟨limit, key, requestId, now, bucket, room, before, rfl⟩ := arises
  rw [← reset_inside_iff positive fits]
  refine ⟨fun reports => reports.reset, fun inside => ?_⟩
  have counted := next_count_before before limit key requestId now
  have accepts := next_allowed_iff before limit key requestId now
  have natural := Int.natCast_nonneg (allowedBefore (starts windowSeconds) allowed earlier
    (nextCheck windowSeconds limit key requestId now bucket))
  have left : (nextCheck windowSeconds limit key requestId now bucket).decision.remaining =
      if allowed (nextCheck windowSeconds limit key requestId now bucket) then
        limit - (allowedBefore (starts windowSeconds) allowed earlier
          (nextCheck windowSeconds limit key requestId now bucket) + 1 : Nat)
      else 0 := by
    simp only [accepts]
    rw [Int.natCast_add, counted]
    exact checkBucket_remaining windowSeconds limit key requestId now bucket
  refine ⟨inside, ?_, left⟩
  rw [left]
  change 0 ≤ _ ∧ _ < limit
  by_cases accepted : allowed (nextCheck windowSeconds limit key requestId now bucket) = true
  · have free := accepts.mp accepted
    rw [if_pos accepted]
    omega
  · rw [if_neg accepted]
    omega

/-- In a run every check reports the numbers of its window exactly when none takes the lock with a
    reading from before the window started. -/
theorem local_reports_iff (config : RateLimitConfig) (actions : List LocalAction)
    (positive : ReadingsPositive actions) (fits : FitsInt32 config.windowSeconds) :
    (∀ key, EachEvent (Reports (windowOf config)) (ofKey key (run config actions).locked)) ↔
      ∀ e ∈ (run config actions).locked, OnTime (windowOf config) e := by
  have each : ∀ key earlier e later,
      ofKey key (run config actions).locked = earlier ++ e :: later →
        (Reports (windowOf config) earlier e ↔ OnTime (windowOf config) e) :=
    fun key earlier e later split =>
      reports_iff (windowOf_pos config) (windowOf_fits fits)
        (run_arises config actions positive key earlier e later split)
  constructor
  · intro reports e member
    have own : e ∈ ofKey e.key (run config actions).locked :=
      List.mem_filter.mpr ⟨member, by simp⟩
    obtain ⟨earlier, later, split⟩ := List.append_of_mem own
    exact (each e.key earlier e later split).mp (reports e.key earlier e later split)
  · intro onTime key earlier e later split
    have own : e ∈ ofKey key (run config actions).locked := by simp [split]
    exact (each key earlier e later split).mpr (onTime e (List.mem_filter.mp own).1)

section readings

def tenSeconds : RateLimitConfig := { windowSeconds := 10 }

def clientRequest : HttpRequest := { clientIp := bytes "10.0.0.1" }

def apiRoute : RouteMatchResult := { route := { path := bytes "/api" } }

/-- Two checks read the clock, and the lock is taken in that order. -/
def readTwice (first second : Int) (order : List Nat) : List LocalAction :=
  [.readClock clientRequest apiRoute first, .readClock clientRequest apiRoute second] ++
    order.map .takeLock

theorem readTwice_positive {first second : Int} (one : 0 < first) (two : 0 < second)
    (order : List Nat) : ReadingsPositive (readTwice first second order) := by
  intro request matched now member
  simp [readTwice] at member
  omega

theorem local_reports_iff_in_order :
    (∀ key, EachEvent (Reports (windowOf tenSeconds))
        (ofKey key (run tenSeconds (readTwice 5 17 [0, 0])).locked)) ↔
      ∀ e ∈ (run tenSeconds (readTwice 5 17 [0, 0])).locked, OnTime (windowOf tenSeconds) e :=
  local_reports_iff tenSeconds _ (readTwice_positive (by decide) (by decide) _) (by decide)

/-- The later reading takes the lock first; the other check is told to wait longer than a window. -/
theorem stale_reading_waits_longer :
    ReadingsPositive (readTwice 5 6 [1, 0]) ∧
      (ofKey (buildKey clientRequest apiRoute) (run tenSeconds (readTwice 5 6 [1, 0])).locked).map
        (·.decision.resetSeconds) = [10, 11] ∧
      ¬ ∀ key, EachEvent (Reports (windowOf tenSeconds))
        (ofKey key (run tenSeconds (readTwice 5 6 [1, 0])).locked) := by
  have waits : (ofKey (buildKey clientRequest apiRoute)
      (run tenSeconds (readTwice 5 6 [1, 0])).locked).map (·.decision.resetSeconds) =
        [10, 11] := by decide
  refine ⟨readTwice_positive (by decide) (by decide) _, waits, fun reports => ?_⟩
  obtain ⟨fresh, stale, both⟩ : ∃ fresh stale, ofKey (buildKey clientRequest apiRoute)
      (run tenSeconds (readTwice 5 6 [1, 0])).locked = [fresh, stale] := ⟨_, _, rfl⟩
  have bounded := (reports _ [fresh] stale [] both).reset.2
  simp only [both, List.map_cons, List.map_nil, List.cons.injEq, and_true] at waits
  rw [waits.2] at bounded
  exact absurd bounded (by decide)

end readings

end TgwLocalReports
