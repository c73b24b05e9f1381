import TgwGateway.Governance.UpstreamClient
import TgwGateway.Lib.CheckedInt

/- The sleeping loop turn by turn, with every int operation checked and every sleep recorded beside
   the number of clock readings before it. -/
namespace TgwSleepTurns
open ByteStrings MachineInt CheckedInt TgwClock TgwGovernance
variable {State : Type}

inductive SleepTurn (State : Type) where
  | stop (env : GovernanceEnv State)
  | sleep (stepMs sleptMs : Int) (env : GovernanceEnv State)

/-- The body of the loop; no result where an int operation overflows. -/
def sleepTurn (sleepMs sleptMs : Int) (env : GovernanceEnv State) : Option (SleepTurn State) :=
  let done := env.deadlineExceeded
  if done.1 then some (.stop (done.2.cancelDeadline (bytes "deadline exceeded")))
  else do
    let stepMs := min 10 (← minus sleepMs sleptMs)
    match done.2.deadline with
    | none => return .sleep stepMs (← plus sleptMs stepMs) (emit done.2 (.sleepFor stepMs))
    | some d =>
      let remainingMs := d.remainingMs done.2.now
      if remainingMs ≤ 0 then
        return .stop (done.2.tick.cancelDeadline (bytes "deadline exceeded"))
      else do
        let stepMs ← checked (min stepMs remainingMs)
        return .sleep stepMs (← plus sleptMs stepMs) (emit done.2.tick (.sleepFor stepMs))

structure SleepRun (State : Type) where
  ready : Bool
  env : GovernanceEnv State
  sleeps : List (Nat × Int) := []

def sleepTurns (sleepMs : Int) : Nat → Int → GovernanceEnv State → Option (SleepRun State)
  | 0, sleptMs, env =>
    if sleepMs ≤ sleptMs then some ⟨(readyBeforeDeadline env).1, (readyBeforeDeadline env).2, []⟩
    else none
  | turns + 1, sleptMs, env =>
    if sleepMs ≤ sleptMs then some ⟨(readyBeforeDeadline env).1, (readyBeforeDeadline env).2, []⟩
    else
      match sleepTurn sleepMs sleptMs env with
      | none => none
      | some (.stop env) => some ⟨false, env, []⟩
      | some (.sleep stepMs sleptMs env) =>
        (sleepTurns sleepMs turns sleptMs env).map fun run =>
          { run with sleeps := (env.steady.taken, stepMs) :: run.sleeps }

def sleepWithin (turns : Nat) (sleepMs : Int) (env : GovernanceEnv State) :
    Option (SleepRun State) :=
  if sleepMs ≤ 0 then some ⟨(readyBeforeDeadline env).1, (readyBeforeDeadline env).2, []⟩
  else sleepTurns sleepMs turns 0 env

def totalMs (sleeps : List (Nat × Int)) : Int := (sleeps.map Prod.snd).sum

/-- Between the readings before a sleep and those after it the clock moves on by its length. -/
def SleepsTake (reading : Nat → Int) (sleeps : List (Nat × Int)) : Prop :=
  ∀ sleep ∈ sleeps, ∀ before < sleep.1, reading before + sleep.2 * nanosPerMilli ≤ reading sleep.1

def DoneFromNow (env : GovernanceEnv State) : Prop :=
  ∃ d, env.deadline = some d ∧ ∀ n, d.cancelled = true ∨
    d.isExpired (env.steady.reading (env.steady.taken + n)) = true

section turns
variable {sleepMs sleptMs : Int} {env : GovernanceEnv State}

theorem cancelled_done {env : GovernanceEnv State} {d : DeadlineContext}
    (own : env.deadline = some d) (reason : Bytes) : DoneFromNow (env.cancelDeadline reason) := by
  refine ⟨d.cancel reason, by simp [Env.cancelDeadline, own], fun _ => Or.inl ?_⟩
  unfold DeadlineContext.cancel
  split
  · assumption
  · rfl

theorem exceeded_done (exceeded : env.deadlineExceeded.1 = true) :
    ∃ d, env.deadline = some d ∧ env.deadlineExceeded.2.deadline = some d ∧
      DoneFromNow env.deadlineExceeded.2 := by
  unfold Env.deadlineExceeded at exceeded ⊢
  cases own : env.deadline with
  | none => simp [own] at exceeded
  | some d =>
    rw [own] at exceeded
    cases cancelled : d.cancelled with
    | true => exact ⟨d, rfl, by simp [cancelled, own], d, by simp [cancelled, own], by simp [cancelled]⟩
    | false =>
      simp only [cancelled, Bool.false_eq_true, ↓reduceIte] at exceeded ⊢
      have passed : d.deadline ≤ env.steady.reading env.steady.taken := of_decide_eq_true exceeded
      refine ⟨d, rfl, own, d, own, fun n => Or.inr (decide_eq_true ?_)⟩
      exact passed.trans (env.steady.nondecreasing _ _ (by simp [Env.tick, SteadyClock.next]; omega))

/-- What a turn does: it gives up for good, or it sleeps within what is left of all bounds. The loop
    of the client does the same. -/
inductive TurnCase (sleepMs sleptMs : Int) (env : GovernanceEnv State) : Prop
  | stop (after : GovernanceEnv State) (turn : sleepTurn sleepMs sleptMs env = some (.stop after))
      (loop : ∀ fuel, sleepLoop sleepMs (fuel + 1) sleptMs env = (false, after))
      (done : DoneFromNow after)
  | sleep (stepMs : Int) (after : GovernanceEnv State)
      (turn : sleepTurn sleepMs sleptMs env = some (.sleep stepMs (sleptMs + stepMs) after))
      (loop : ∀ fuel, sleepLoop sleepMs (fuel + 1) sleptMs env =
        sleepLoop sleepMs fuel (sleptMs + stepMs) after)
      (positive : 1 ≤ stepMs) (small : stepMs ≤ 10) (left : sleptMs + stepMs ≤ sleepMs)
      (deadline : after.deadline = env.deadline)
      (clock : after.steady.reading = env.steady.reading)
      (remaining : ∀ d, env.deadline = some d → after.steady.taken = env.steady.taken + 2 ∧
        stepMs * nanosPerMilli ≤ d.deadline - env.steady.reading (env.steady.taken + 1))

theorem remainingMs_le {d : DeadlineContext} {now : Int} (positive : 0 < d.remainingMs now) :
    d.remainingMs now * nanosPerMilli ≤ d.deadline - now := by
  unfold DeadlineContext.remainingMs at positive ⊢
  split at positive
  · omega
  · rename_i early
    rw [if_neg early, Int.tdiv_eq_ediv_of_nonneg (by omega)]
    exact Int.ediv_mul_le _ (by decide)

theorem sleepTurn_cases (fits : FitsInt32 sleepMs) (natural : 0 ≤ sleptMs)
    (unslept : sleptMs < sleepMs) : TurnCase sleepMs sleptMs env := by
  obtain ⟨low, high⟩ := fits
  have left : minus sleepMs sleptMs = some (sleepMs - sleptMs) :=
    checked_fits ⟨by omega, by omega⟩
  have running : ¬ sleepMs ≤ sleptMs := by omega
  cases exceeded : env.deadlineExceeded.1 with
  | true =>
    obtain ⟨d, _, own, _⟩ := exceeded_done exceeded
    exact .stop _ (by simp [sleepTurn, exceeded]) (by simp [sleepLoop, running, exceeded])
      (cancelled_done own (bytes "deadline exceeded"))
  | false =>
    cases own : env.deadline with
    | none =>
      have after : env.deadlineExceeded.2 = env := by simp [Env.deadlineExceeded, own]
      obtain ⟨stepMs, step⟩ : ∃ stepMs, stepMs = min 10 (sleepMs - sleptMs) := ⟨_, rfl⟩
      have sum : plus sleptMs stepMs = some (sleptMs + stepMs) :=
        checked_fits ⟨by omega, by omega⟩
      refine .sleep stepMs (emit env (.sleepFor stepMs)) ?_ ?_ (by omega) (by omega) (by omega)
        rfl rfl (by simp [own])
      · simp [sleepTurn, exceeded, after, own, left, ← step, sum]
      · simp [sleepLoop, running, exceeded, after, own, ← step]
    | some d =>
      have live : d.cancelled = false := by
        cases cancelled : d.cancelled with
        | false => rfl
        | true => simp [Env.deadlineExceeded, own, cancelled] at exceeded
      have after : env.deadlineExceeded.2 = env.tick := by simp [Env.deadlineExceeded, own, live]
      by_cases none : d.remainingMs env.tick.now ≤ 0
      · refine .stop (env.tick.tick.cancelDeadline (bytes "deadline exceeded")) ?_ ?_
          (@cancelled_done _ env.tick.tick d own _)
        · simp [sleepTurn, exceeded, after, own, left, none]
        · simp [sleepLoop, running, exceeded, after, own, none]
      · obtain ⟨stepMs, step⟩ : ∃ stepMs, stepMs =
          min 10 (min (sleepMs - sleptMs) (d.remainingMs env.tick.now)) := ⟨_, rfl⟩
        have remaining := @remainingMs_le d env.tick.now (by omega)
        have cast : checked stepMs = some stepMs := checked_fits ⟨by omega, by omega⟩
        have sum : plus sleptMs stepMs = some (sleptMs + stepMs) :=
          checked_fits ⟨by omega, by omega⟩
        refine .sleep stepMs (emit env.tick.tick (.sleepFor stepMs)) ?_ ?_ (by omega) (by omega)
          (by omega) rfl rfl ?_
        · simp [sleepTurn, exceeded, after, own, left, none, ← step, cast, sum]
        · simp [sleepLoop, running, exceeded, after, own, none, ← step]
        · rintro _ own'
          obtain rfl : d = _ := Option.some.inj (own.symm.trans own')
          refine ⟨rfl, ?_⟩
          have now : env.tick.now = env.steady.reading (env.steady.taken + 1) := rfl
          simp only [nanosPerMilli, now] at remaining step ⊢
          omega

end turns

section loop
variable {sleepMs : Int}

theorem totalMs_cons (sleep : Nat × Int) (sleeps : List (Nat × Int)) :
    totalMs (sleep :: sleeps) = sleep.2 + totalMs sleeps := by
  simp [totalMs]

structure RunLaws (sleepMs : Int) (turns : Nat) (sleptMs : Int) (env : GovernanceEnv State)
    (run : SleepRun State) : Prop where
  same : (run.ready, run.env) = sleepLoop sleepMs turns sleptMs env
  each : ∀ sleep ∈ run.sleeps, 1 ≤ sleep.2 ∧ sleep.2 ≤ 10
  total : run.sleeps ≠ [] → sleptMs + totalMs run.sleeps ≤ sleepMs
  remaining : SleepsTake env.steady.reading run.sleeps → ∀ d, env.deadline = some d →
    run.sleeps ≠ [] → totalMs run.sleeps * nanosPerMilli ≤ d.deadline - env.now
  done : run.ready = false → DoneFromNow run.env

theorem ready_laws {turns : Nat} {sleptMs : Int} {env : GovernanceEnv State}
    (slept : sleepMs ≤ sleptMs) : RunLaws sleepMs turns sleptMs env
      ⟨(readyBeforeDeadline env).1, (readyBeforeDeadline env).2, []⟩ where
  same := by cases turns <;> simp [sleepLoop, slept]
  each := by simp
  total := by simp
  remaining := by simp
  done unready := by
    obtain ⟨d, _, _, done⟩ := exceeded_done (by simpa [readyBeforeDeadline] using unready)
    exact done

/-- Each turn sleeps at least one millisecond, so as many turns as milliseconds are enough. -/
theorem sleepTurns_laws (fits : FitsInt32 sleepMs) {turns : Nat} {sleptMs : Int}
    {env : GovernanceEnv State} (natural : 0 ≤ sleptMs) (enough : sleepMs - sleptMs ≤ turns) :
    ∃ run, sleepTurns sleepMs turns sleptMs env = some run ∧
      RunLaws sleepMs turns sleptMs env run := by
  induction turns generalizing sleptMs env with
  | zero =>
    have slept : sleepMs ≤ sleptMs := by omega
    exact ⟨_, by rw [sleepTurns, if_pos slept], ready_laws slept⟩
  | succ turns ih =>
    by_cases slept : sleepMs ≤ sleptMs
    · exact ⟨_, by rw [sleepTurns, if_pos slept], ready_laws slept⟩
    · have unslept : sleptMs < sleepMs := by omega
      rw [sleepTurns, if_neg slept]
      rcases @sleepTurn_cases _ _ _ env fits natural unslept with ⟨after, turn, loop, done⟩ |
        ⟨stepMs, after, turn, loop, positive, small, left, deadline, clock, remaining⟩
      · rw [turn]
        refine ⟨_, rfl, ?_, by simp, by simp, by simp, fun _ => done⟩
        exact (loop turns).symm
      · obtain ⟨run, ran, laws⟩ := @ih (sleptMs + stepMs) after (by omega) (by omega)
        rw [turn]
        simp only [ran, Option.map_some]
        refine ⟨_, rfl, ?_, ?_, ?_, ?_, laws.done⟩
        · rw [loop]
          exact laws.same
        · intro sleep member
          rcases List.mem_cons.mp member with rfl | later
          · exact ⟨positive, small⟩
          · exact laws.each sleep later
        · intro _
          rw [totalMs_cons]
          cases rest : run.sleeps with
          | nil => simpa [totalMs] using left
          | cons sleep later =>
            have total := laws.total (by simp [rest])
            rw [rest] at total
            omega
        · intro takes d own _
          obtain ⟨taken, early⟩ := remaining d own
          have order := env.steady.nondecreasing env.steady.taken (env.steady.taken + 1) (by omega)
          have now : env.now = env.steady.reading env.steady.taken := rfl
          rw [totalMs_cons, now]
          cases rest : run.sleeps with
          | nil =>
            simp only [totalMs, List.map_nil, List.sum_nil, nanosPerMilli] at early ⊢
            omega
          | cons sleep later =>
            have slept := takes (after.steady.taken, stepMs) List.mem_cons_self
              (env.steady.taken + 1) (by simp only; omega)
            have later_takes : SleepsTake after.steady.reading run.sleeps := by
              rw [clock]
              exact fun sleep member => takes sleep (List.mem_cons_of_mem _ member)
            have bound := laws.remaining later_takes d (deadline.trans own) (by simp [rest])
            have next : after.now = env.steady.reading after.steady.taken := by
              rw [← clock]
              rfl
            rw [next, rest] at bound
            simp only [nanosPerMilli] at slept bound early ⊢
            omega

end loop

theorem total_le_remaining {d : DeadlineContext} {entry now total : Int} (before : entry ≤ now)
    (bound : total * nanosPerMilli ≤ d.deadline - now) (positive : 1 ≤ total) :
    total ≤ d.remainingMs entry := by
  simp only [nanosPerMilli] at bound
  have early : ¬ d.deadline ≤ entry := by omega
  rw [DeadlineContext.remainingMs, if_neg early, Int.tdiv_eq_ediv_of_nonneg (by omega),
    nanosPerMilli]
  omega

theorem totalMs_positive {sleeps : List (Nat × Int)} (some_sleep : sleeps ≠ [])
    (each : ∀ sleep ∈ sleeps, 1 ≤ sleep.2) : 1 ≤ totalMs sleeps := by
  induction sleeps with
  | nil => exact absurd rfl some_sleep
  | cons sleep sleeps ih =>
    have first := each sleep List.mem_cons_self
    rw [totalMs_cons]
    cases rest : sleeps with
    | nil => simpa [totalMs] using first
    | cons next later =>
      have others := ih (by simp [rest]) fun other member => each other (List.mem_cons_of_mem _ member)
      rw [rest] at others
      omega

theorem remainingMs_natural (d : DeadlineContext) (now : Int) : 0 ≤ d.remainingMs now := by
  unfold DeadlineContext.remainingMs
  split
  · decide
  · exact Int.tdiv_nonneg (by omega) (by decide)

/-- Whatever the deadline, the loop ends within as many turns as milliseconds are asked for, without
    an overflow, and the sleeps keep to both bounds; it gives up only on a deadline that is over. -/
theorem sleep_laws (sleepMs : Int) (fits : FitsInt32 sleepMs) (env : GovernanceEnv State) :
    ∃ run, sleepWithin (max sleepMs 0).toNat sleepMs env = some run ∧
      (run.ready, run.env) = sleepUntilReadyOrDeadline sleepMs env ∧
      (∀ sleep ∈ run.sleeps, 1 ≤ sleep.2) ∧ totalMs run.sleeps ≤ max sleepMs 0 ∧
      (SleepsTake env.steady.reading run.sleeps → ∀ d entry, env.deadline = some d →
        entry ≤ env.now → totalMs run.sleeps ≤ d.remainingMs entry) ∧
      (run.ready = false → DoneFromNow run.env) := by
  by_cases none : sleepMs ≤ 0
  · have laws := @ready_laws _ sleepMs 0 0 env none
    refine ⟨_, by rw [sleepWithin, if_pos none], ?_, by simp, ?_, ?_, laws.done⟩
    · rw [sleepUntilReadyOrDeadline, if_pos none]
    · simp only [totalMs, List.map_nil, List.sum_nil]
      omega
    · intro _ d entry _ _
      exact remainingMs_natural d entry
  · have turns : (max sleepMs 0).toNat = sleepMs.toNat := by omega
    obtain ⟨run, ran, laws⟩ := @sleepTurns_laws _ _ fits sleepMs.toNat 0 env (by omega) (by omega)
    have positive : ∀ sleep ∈ run.sleeps, 1 ≤ sleep.2 := fun sleep member => (laws.each sleep member).1
    refine ⟨run, ?_, ?_, positive, ?_, ?_, laws.done⟩
    · rw [turns, sleepWithin, if_neg none, ran]
    · rw [sleepUntilReadyOrDeadline, if_neg none]
      exact laws.same
    · cases slept : run.sleeps with
      | nil =>
        simp only [totalMs, List.map_nil, List.sum_nil]
        omega
      | cons sleep later =>
        have total := laws.total (by simp [slept])
        rw [slept] at total
        omega
    · intro takes d entry own before
      cases slept : run.sleeps with
      | nil => exact remainingMs_natural d entry
      | cons sleep later =>
        have some_sleep : run.sleeps ≠ [] := by simp [slept]
        have bound := laws.remaining takes d own some_sleep
        rw [← slept]
        exact total_le_remaining before bound (totalMs_positive some_sleep positive)

/-- A clock that moves on by ten milliseconds between any two readings. -/
theorem sleep_laws_twenty_five :
    let env : GovernanceEnv Unit :=
      { freshClient (ticking 10000000) (stopped 0) () with
        deadline := some (startDeadline 1000 0) }
    ∃ run, sleepWithin 25 25 env = some run ∧ run.sleeps = [(2, 10), (4, 10), (6, 5)] ∧
      totalMs run.sleeps ≤ (startDeadline 1000 0).remainingMs 0 := by
  intro env
  obtain ⟨run, ran, _, _, _, remaining, _⟩ := sleep_laws 25 (by decide) env
  have computed : (sleepWithin 25 25 env).map (·.sleeps) = some [(2, 10), (4, 10), (6, 5)] := by
    decide
  have ran' : sleepWithin 25 25 env = some run := ran
  rw [ran', Option.map_some, Option.some.injEq] at computed
  refine ⟨run, ran', computed, remaining ?_ _ 0 rfl (by decide)⟩
  intro sleep member before earlier
  have now : ∀ n, env.steady.reading n = n * 10000000 := fun n => rfl
  rw [computed] at member
  simp only [List.mem_cons, List.not_mem_nil, or_false] at member
  rw [now, now, nanosPerMilli]
  rcases member with rfl | rfl | rfl <;> simp only at earlier ⊢ <;> omega

end TgwSleepTurns
