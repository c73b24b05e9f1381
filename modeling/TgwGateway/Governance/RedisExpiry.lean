import TgwGateway.Governance.RedisConnection
import TgwGateway.Lib.MachineInt
import Mathlib.Data.List.Induction

/- The expiry of the counters over checks whose connections may fail at any command. Only the check
   that creates a key asks for its expiry. -/
namespace TgwRedisExpiry
open ByteStrings MachineInt TgwClock TgwConfig TgwExceptions TgwHttp TgwRateLimitFilter
open TgwRedisServer TgwRedisConnection
variable {Redis : Type}

section definitions
variable (link : Nat → RedisLink Redis) (entry : Redis → Bytes → Nat → Option RedisEntry)
  (config : RateLimitConfig) (start : RedisState Redis)

def runChecks (checks : List TimedCheck) : RedisState Redis :=
  checks.foldl (fun state check => (runCheck link config state check).2) start

def Completes (state : RedisState Redis) (check : TimedCheck) : Prop :=
  ∃ decision, (runCheck link config state check).1 = .ok decision

def HasExpiry (state : RedisState Redis) (key : Bytes) : Prop :=
  ∀ found, entry state.server key state.time = some found → found.expiresAt ≠ none

/-- Whenever a check completes, its key is left with an expiry. -/
def KeysExpire (checks : List TimedCheck) : Prop :=
  ∀ earlier check later, checks = earlier ++ check :: later →
    Completes link config (runChecks link config start earlier) check →
      HasExpiry entry (runCheck link config (runChecks link config start earlier) check).2
        (check.redisKey config)

def Stuck (redis : Redis) (key : Bytes) : Prop :=
  ∃ time found, entry redis key time = some found ∧ found.expiresAt = none

def CountsPositive (redis : Redis) (time : Nat) : Prop :=
  ∀ key found, entry redis key time = some found → 1 ≤ found.count

def CutOff (checks : List TimedCheck) (key : Bytes) : Prop :=
  ∃ earlier check later, checks = earlier ++ check :: later ∧ check.redisKey config = key ∧
    Interrupted link config (runChecks link config start earlier) check

end definitions

section entries
variable {link : Nat → RedisLink Redis} {entry : Redis → Bytes → Nat → Option RedisEntry}
  (laws : EntryLaws link entry) {redis : Redis} {key : Bytes}
include laws

/-- An entry without expiry is there at any time. -/
theorem stuck_iff (time : Nat) : Stuck entry redis key ↔
    ∃ found, entry redis key time = some found ∧ found.expiresAt = none := by
  constructor
  · rintro ⟨seen, found, there, forever⟩
    refine ⟨found, ?_, forever⟩
    rcases Nat.le_total time seen with before | behind
    · rw [laws.later time seen redis key before] at there
      exact (Option.filter_eq_some_iff.mp there).1
    · rw [laws.later seen time redis key behind, there]
      exact Option.filter_eq_some_iff.mpr ⟨rfl, by simp [isLive, forever]⟩
  · rintro ⟨found, there, forever⟩
    exact ⟨time, found, there, forever⟩

theorem positive_later {time time' : Nat} (order : time ≤ time')
    (positive : CountsPositive entry redis time) : CountsPositive entry redis time' := by
  intro other found there
  rw [laws.later time time' redis other order] at there
  exact positive other found (Option.filter_eq_some_iff.mp there).1

variable {time : Nat} (positive : CountsPositive entry redis time)

theorem stuck_incr (other : Bytes) :
    Stuck entry ((link time).executeInteger (incrCommand key) redis).2 other ↔
      if key = other then (countedEntry (entry redis key time)).expiresAt = none
      else Stuck entry redis other := by
  rw [stuck_iff laws time, laws.incr_entry]
  split
  · simp
  · rw [stuck_iff laws time]

theorem stuck_expire {seconds : Int} (some_seconds : 0 < seconds) (narrow : seconds < 2 ^ 31)
    (other : Bytes) :
    Stuck entry ((link time).executeInteger (expireCommand key seconds) redis).2 other ↔
      key ≠ other ∧ Stuck entry redis other := by
  rw [stuck_iff laws time, laws.expire_entry _ _ _ _ _ some_seconds narrow]
  split
  · simp [*, expiringEntry]
  · rw [stuck_iff laws time]
    simp [*]

include positive

theorem positive_incr :
    CountsPositive entry ((link time).executeInteger (incrCommand key) redis).2 time := by
  intro other found there
  rw [laws.incr_entry] at there
  split at there
  · obtain rfl := Option.some.inj there
    cases before : entry redis key time with
    | none => simp [countedEntry]
    | some old =>
      have counted := positive key old before
      simp only [countedEntry]
      omega
  · exact positive other found there

theorem positive_expire {seconds : Int} (some_seconds : 0 < seconds) (narrow : seconds < 2 ^ 31) :
    CountsPositive entry ((link time).executeInteger (expireCommand key seconds) redis).2 time := by
  intro other found there
  rw [laws.expire_entry _ _ _ _ _ some_seconds narrow] at there
  split at there
  · obtain ⟨old, before, rfl⟩ := Option.map_eq_some_iff.mp there
    exact positive key old before
  · exact positive other found there

end entries

section step
variable {link : Nat → RedisLink Redis} {entry : Redis → Bytes → Nat → Option RedisEntry}
  (laws : EntryLaws link entry) {config : RateLimitConfig} {state : RedisState Redis}
  {check : TimedCheck} (narrow : windowOf config < 2 ^ 31)
  (positive : CountsPositive entry state.server state.time)
include laws positive

theorem countTime_positive : CountsPositive entry state.server (check.countTime state) :=
  positive_later laws (by unfold TimedCheck.countTime; omega) positive

theorem creates_iff : Creates link config state check ↔
    entry state.server (check.redisKey config) (check.countTime state) = none := by
  rw [Creates, counting, laws.incr_answer]
  cases found : entry state.server (check.redisKey config) (check.countTime state) with
  | none => simp [countedEntry]
  | some old =>
    have counted := countTime_positive laws positive _ old found
    simp only [countedEntry, Except.ok.injEq, reduceCtorEq, iff_false]
    omega

theorem created_not_stuck (created : Creates link config state check) :
    ¬ Stuck entry state.server (check.redisKey config) := by
  have absent := (creates_iff laws positive).mp created
  intro stuck
  obtain ⟨found, there, _⟩ := (stuck_iff laws (check.countTime state)).mp stuck
  rw [absent] at there
  cases there

theorem counting_positive :
    CountsPositive entry (counting link config state check).2 (check.countTime state) :=
  positive_incr laws (countTime_positive laws positive)

include narrow

/-- A check leaves a key without expiry if it finds one, or if it is cut off itself. -/
theorem runCheck_stuck (key : Bytes) :
    CountsPositive entry (runCheck link config state check).2.server
        (runCheck link config state check).2.time ∧
      (Stuck entry (runCheck link config state check).2.server key ↔
        Stuck entry state.server key ∨
          check.redisKey config = key ∧ Interrupted link config state check) := by
  have creates := @creates_iff _ link entry laws config state check positive
  have counted := @counting_positive _ link entry laws config state check positive
  have left (other : Bytes) : Stuck entry (counting link config state check).2 other ↔ _ :=
    stuck_incr laws other
  rcases runCheck_cases laws narrow state check with ⟨_, _, kept, time, whole⟩ |
    ⟨old, changed, time⟩ | ⟨cut, _, _, changed, time⟩ | ⟨new, whole, changed, time⟩
  · rw [kept]
    exact ⟨positive_later laws time positive, by simp [whole]⟩
  · have whole : ¬ Interrupted link config state check := fun cut => old cut.created
    rw [changed, left]
    refine ⟨positive_later laws time counted, ?_⟩
    cases found : entry state.server (check.redisKey config) (check.countTime state) with
    | none => exact absurd (creates.mpr found) old
    | some before =>
      simp only [whole, and_false, or_false, countedEntry]
      split
      · rename_i same
        rw [← same, stuck_iff laws (check.countTime state), found]
        simp
      · rfl
  · rw [changed, left, creates.mp cut.created]
    refine ⟨positive_later laws time counted, ?_⟩
    split
    · rename_i same
      simp [countedEntry, same, cut]
    · rename_i other
      simp [other]
  · have ahead : check.countTime state ≤ check.expireTime state := by
      unfold TimedCheck.expireTime
      omega
    have expired (other : Bytes) : Stuck entry (expiring link config state check).2 other ↔ _ :=
      stuck_expire laws (windowOf_pos config) narrow other
    rw [changed, expired, left]
    refine ⟨positive_later laws time (positive_expire laws (positive_later laws ahead counted)
      (windowOf_pos config) narrow), ?_⟩
    simp only [whole, and_false, or_false]
    by_cases same : check.redisKey config = key
    · simp [same ▸ created_not_stuck laws positive new, same]
    · simp [same]

end step

section run
variable {link : Nat → RedisLink Redis} {entry : Redis → Bytes → Nat → Option RedisEntry}
  {config : RateLimitConfig} {start : RedisState Redis}

theorem runChecks_snoc (checks : List TimedCheck) (last : TimedCheck) :
    runChecks link config start (checks ++ [last]) =
      (runCheck link config (runChecks link config start checks) last).2 := by
  simp [runChecks]

theorem cutOff_snoc {checks : List TimedCheck} {last : TimedCheck} {key : Bytes} :
    CutOff link config start (checks ++ [last]) key ↔ CutOff link config start checks key ∨
      last.redisKey config = key ∧
        Interrupted link config (runChecks link config start checks) last := by
  constructor
  · rintro ⟨earlier, check, later, split, own, cut⟩
    rcases List.eq_nil_or_concat later with rfl | ⟨later, final, rfl⟩
    · obtain ⟨rfl, rfl⟩ := List.append_singleton_inj.mp split
      exact Or.inr ⟨own, cut⟩
    · rw [List.concat_eq_append, ← List.cons_append, ← List.append_assoc] at split
      obtain ⟨rfl, rfl⟩ := List.append_singleton_inj.mp split
      exact Or.inl ⟨earlier, check, later, rfl, own, cut⟩
  · rintro (⟨earlier, check, later, rfl, own, cut⟩ | ⟨own, cut⟩)
    · exact ⟨earlier, check, later ++ [last], by simp, own, cut⟩
    · exact ⟨checks, last, [], rfl, own, cut⟩

variable (laws : EntryLaws link entry) (narrow : windowOf config < 2 ^ 31)
  (empty : ∀ key, entry start.server key start.time = none)
include laws narrow empty

/-- By induction on the checks: the keys without expiry are those on which one was cut off. -/
theorem runChecks_stuck (checks : List TimedCheck) :
    CountsPositive entry (runChecks link config start checks).server
        (runChecks link config start checks).time ∧
      ∀ key, Stuck entry (runChecks link config start checks).server key ↔
        CutOff link config start checks key := by
  induction checks using List.reverseRecOn with
  | nil =>
    refine ⟨fun key found there => ?_, fun key => ?_⟩
    · have none := empty key
      rw [runChecks, List.foldl_nil, none] at there
      cases there
    · rw [stuck_iff laws start.time]
      simp [runChecks, CutOff, empty]
  | append_singleton checks last ih =>
    obtain ⟨positive, stuck⟩ := ih
    rw [runChecks_snoc]
    refine ⟨(runCheck_stuck laws narrow positive []).1, fun key => ?_⟩
    rw [(runCheck_stuck laws narrow positive key).2, stuck, cutOff_snoc]

theorem completed_expiry {earlier : List TimedCheck} {check : TimedCheck}
    (completes : Completes link config (runChecks link config start earlier) check) :
    HasExpiry entry (runCheck link config (runChecks link config start earlier) check).2
        (check.redisKey config) ↔
      ¬ CutOff link config start earlier (check.redisKey config) := by
  obtain ⟨positive, stuck⟩ := runChecks_stuck laws narrow empty earlier
  have whole : ¬ Interrupted link config (runChecks link config start earlier) check := by
    intro cut
    obtain ⟨decision, finished⟩ := completes
    rcases runCheck_cases laws narrow (runChecks link config start earlier) check with
      ⟨e, failed, _, _, _⟩ | ⟨old, _, _⟩ | ⟨_, e, failed, _, _⟩ | ⟨_, whole, _, _⟩
    · rw [finished] at failed
      cases failed
    · exact old cut.created
    · rw [finished] at failed
      cases failed
    · exact whole cut
  have left := (@runCheck_stuck _ link entry laws config _ check narrow positive (check.redisKey config)).2
  simp only [whole, and_false, or_false] at left
  rw [← stuck, ← left,
    stuck_iff laws (runCheck link config (runChecks link config start earlier) check).2.time]
  simp only [HasExpiry, not_exists, not_and, ne_eq]

theorem keys_expire_iff_cut (checks : List TimedCheck) :
    KeysExpire link entry config start checks ↔
      ∀ earlier check later, checks = earlier ++ check :: later →
        CutOff link config start earlier (check.redisKey config) →
          ¬ Completes link config (runChecks link config start earlier) check := by
  refine forall_congr' fun earlier => forall_congr' fun check => forall_congr' fun later =>
    imp_congr_right fun _ => ?_
  constructor
  · intro expires cut completes
    exact (completed_expiry laws narrow empty completes).mp (expires completes) cut
  · intro unfinished completes
    exact (completed_expiry laws narrow empty completes).mpr fun cut => unfinished cut completes

end run

/-- Whatever server keeps to what is documented of the commands, from an empty one on: every check
    that completes leaves its key with an expiry exactly when no check completes on a key on which
    an earlier one was cut off. -/
theorem keys_expire_iff {link : Nat → RedisLink Redis}
    {entry : Redis → Bytes → Nat → Option RedisEntry} (laws : EntryLaws link entry)
    {config : RateLimitConfig} (fits : FitsInt32 config.windowSeconds) {start : RedisState Redis}
    (empty : ∀ key, entry start.server key start.time = none) (checks : List TimedCheck) :
    KeysExpire link entry config start checks ↔
      ∀ earlier check later, checks = earlier ++ check :: later →
        CutOff link config start earlier (check.redisKey config) →
          ¬ Completes link config (runChecks link config start earlier) check := by
  have narrow : windowOf config < 2 ^ 31 := by
    have high := (windowOf_fits fits).2
    omega
  exact keys_expire_iff_cut laws narrow empty checks

section interrupted

def minuteWindow : RateLimitConfig := { redis := { enabled := true } }

def wholeCheck : TimedCheck := { key := bytes "ip:10.0.0.1|route:/api", steady := ticking 1 }

/-- The answer to INCR never arrives. -/
def cutCheck : TimedCheck :=
  { wholeCheck with script := [{}, { fate := .unanswered (bytes "Connection reset by peer") }] }

def otherCheck : TimedCheck := { wholeCheck with key := bytes "ip:10.0.0.2|route:/api" }

theorem keys_expire_iff_other :
    KeysExpire serverLink lookup minuteWindow noKeys [cutCheck, otherCheck] := by
  have empty (key : Bytes) : lookup noKeys.server key noKeys.time = none := by
    simp [lookup, noKeys]
  refine (keys_expire_iff entryLaws (by decide) empty [cutCheck, otherCheck]).mpr
    fun earlier check later split cut => ?_
  obtain ⟨before, cutting, after, whole, same, _⟩ := cut
  cases earlier with
  | nil => simp at whole
  | cons first rest =>
    simp only [List.cons_append, List.cons.injEq] at split
    obtain ⟨rfl, split⟩ := split
    cases rest with
    | nil =>
      simp only [List.nil_append, List.cons.injEq] at split
      obtain ⟨rfl, rfl⟩ := split
      obtain rfl : cutting = cutCheck := by
        have among : cutting ∈ [cutCheck] := by simp [whole]
        simpa using among
      exact absurd same (by decide)
    | cons second rest => simp at split

theorem cut_check_never_expires :
    lookup (runChecks serverLink minuteWindow noKeys [cutCheck, wholeCheck]).server
      (wholeCheck.redisKey minuteWindow) 0 = some { count := 2 } ∧
    ¬ KeysExpire serverLink lookup minuteWindow noKeys [cutCheck, wholeCheck] := by
  have stored : lookup (runChecks serverLink minuteWindow noKeys [cutCheck, wholeCheck]).server
      (wholeCheck.redisKey minuteWindow) 0 = some { count := 2 } := by decide
  refine ⟨stored, fun expires => ?_⟩
  have second := expires [cutCheck] wholeCheck [] rfl ⟨_, rfl⟩
  exact second { count := 2 } stored rfl

end interrupted

end TgwRedisExpiry
