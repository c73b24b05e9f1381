import TgwGateway.Governance.CircuitBreaker
import TgwGateway.Lib.TrailingRun
import Mathlib.Data.List.Induction
import Mathlib.Algebra.Ring.Int.Defs
import Mathlib.Algebra.Ring.Nat

/- What the breaker table remembers of an arbitrary history of AllowRequest and RecordResult
   calls. The two operations take the mutex, so a history is the order in which they took it,
   each with the clock reading it was made with. -/
namespace TgwBreakerHistory
open ByteStrings TgwConfig TgwCircuitBreaker TrailingRun

inductive Event where
  | allow (upstream : Bytes) (now : Int)
  | result (upstream : Bytes) (success : Bool) (now : Int)
  deriving DecidableEq

def Event.upstream : Event → Bytes
  | .allow upstream _ => upstream
  | .result upstream _ _ => upstream

def step (config : GovernanceConfig) (states : CircuitStates) : Event → CircuitStates
  | .allow upstream now => (allowRequest config states upstream now).2
  | .result upstream success now => recordResult config states upstream success now

def run (config : GovernanceConfig) (events : List Event) : CircuitStates :=
  events.foldl (step config) ∅

def after (config : GovernanceConfig) (events : List Event) (upstream : Bytes) :
    CircuitBreakerRuntimeState := stateOf (run config events) upstream

def own (upstream : Bytes) (events : List Event) : List Event :=
  events.filter fun e => e.upstream = upstream

/-- The results recorded for one upstream, oldest first; true is a success. -/
def results (upstream : Bytes) (events : List Event) : List Bool :=
  events.filterMap fun
    | .allow _ _ => none
    | .result other success _ => if other = upstream then some success else none

def resultCount (events : List Event) : Nat :=
  events.countP fun
    | .allow _ _ => false
    | .result _ _ _ => true

/-- The history splits at the admission that last took the upstream from OPEN to HALF_OPEN,
   and the upstream has been HALF_OPEN after every event since. -/
structure HalfOpenSince (config : GovernanceConfig) (upstream : Bytes)
    (before : List Event) (now : Int) (since : List Event) : Prop where
  was_open : (after config before upstream).state = .opened
  stays : ∀ mid, mid <+: since →
    (after config (before ++ .allow upstream now :: mid) upstream).state = .halfOpen

/-- The laws of one upstream after a history, and of the next event on top of it. -/
structure HistoryLaws (config : GovernanceConfig) (upstream : Bytes) (events : List Event) :
    Prop where
  own_events_only : ∀ other, own upstream other = own upstream events →
    after config other upstream = after config events upstream
  failures_trail : (after config events upstream).consecutiveFailures =
    trailing (· == false) (results upstream events)
  successes_since_half_open : (after config events upstream).state = .halfOpen →
    ∃ before now since, events = before ++ .allow upstream now :: since ∧
      HalfOpenSince config upstream before now since ∧
      (after config events upstream).consecutiveSuccesses = (results upstream since).count true
  successes_elsewhere : (after config events upstream).state ≠ .halfOpen →
    (after config events upstream).consecutiveSuccesses = 0
  closed_below : (after config events upstream).state = .closed →
    (after config events upstream).consecutiveFailures < config.circuitBreaker.failureThreshold
  half_open_below : (after config events upstream).state = .halfOpen →
    (after config events upstream).consecutiveSuccesses <
      config.circuitBreaker.halfOpenSuccessThreshold
  counters_fit : (after config events upstream).consecutiveFailures < 2 ^ 31 ∧
    (after config events upstream).consecutiveSuccesses < 2 ^ 31
  enters_open : ∀ e, (after config events upstream).state ≠ .opened →
    (after config (events ++ [e]) upstream).state = .opened →
    ∃ now, e = .result upstream false now ∧
      ((after config events upstream).state = .halfOpen ∨
        (trailing (· == false) (results upstream (events ++ [e])) : Int) =
          config.circuitBreaker.failureThreshold)
  leaves_open : ∀ e, (after config events upstream).state = .opened →
    (after config (events ++ [e]) upstream).state ≠ .opened →
    ∃ now, e = .allow upstream now ∧ (after config events upstream).openUntil ≤ now
  reenters_closed : ∀ e, (after config events upstream).state ≠ .closed →
    (after config (events ++ [e]) upstream).state = .closed →
    (after config events upstream).state = .halfOpen ∧
    ∃ now before opened since, e = .result upstream true now ∧
      events = before ++ .allow upstream opened :: since ∧
      HalfOpenSince config upstream before opened since ∧
      results upstream (since ++ [e]) =
        List.replicate config.circuitBreaker.halfOpenSuccessThreshold.toNat true
  refuses_iff : ∀ now, (allowRequest config (run config events) upstream now).1 = false ↔
    (after config events upstream).state = .opened ∧
      now < (after config events upstream).openUntil

theorem run_snoc (config : GovernanceConfig) (events : List Event) (e : Event) :
    run config (events ++ [e]) = step config (run config events) e := by
  simp [run]

theorem results_snoc (upstream : Bytes) (events : List Event) (e : Event) :
    results upstream (events ++ [e]) = results upstream events ++ results upstream [e] := by
  simp [results]

@[simp] theorem results_allow (upstream other : Bytes) (now : Int) :
    results upstream [.allow other now] = [] := rfl

@[simp] theorem results_own (upstream : Bytes) (success : Bool) (now : Int) :
    results upstream [.result upstream success now] = [success] := by
  simp [results]

theorem results_other {upstream other : Bytes} (differ : other ≠ upstream) (success : Bool)
    (now : Int) : results upstream [.result other success now] = [] := by
  simp [results, differ]

section enabled
variable {config : GovernanceConfig} (enabled : config.circuitBreaker.enabled = true)
include enabled

theorem after_allow (events : List Event) (upstream : Bytes) (now : Int) :
    after config (events ++ [.allow upstream now]) upstream =
      (allowState now (after config events upstream)).2 := by
  simp [after, run_snoc, step, allowRequest, enabled]

theorem after_result (events : List Event) (upstream : Bytes) (success : Bool) (now : Int) :
    after config (events ++ [.result upstream success now]) upstream =
      recordState config.circuitBreaker success now (after config events upstream) := by
  simp [after, run_snoc, step, recordResult, enabled]

theorem after_other (events : List Event) {upstream : Bytes} (e : Event)
    (differ : e.upstream ≠ upstream) :
    after config (events ++ [e]) upstream = after config events upstream := by
  cases e with
  | allow other now =>
    simp only [after, run_snoc, step, allowRequest, enabled, ↓reduceIte]
    exact stateOf_insert_other _ _ differ
  | result other success now =>
    simp only [after, run_snoc, step, recordResult, enabled, ↓reduceIte]
    exact stateOf_insert_other _ _ differ

theorem failure_leaves_half_open (events : List Event) (upstream : Bytes) (now : Int) :
    (after config (events ++ [.result upstream false now]) upstream).state ≠ .halfOpen := by
  rw [after_result enabled]
  rcases recordState_cases config.circuitBreaker false now (after config events upstream) with
    ⟨bad, _⟩ | ⟨bad, _⟩ | ⟨bad, _⟩ | ⟨_, _, run⟩ | ⟨_, other, _, run⟩
  · contradiction
  · contradiction
  · contradiction
  · simp [run]
  · simpa [run] using other

/-- A failure would have taken the upstream back to OPEN, so only successes were recorded. -/
theorem only_successes {upstream : Bytes} {before since : List Event} {now : Int}
    (h : HalfOpenSince config upstream before now since) :
    ∀ r ∈ results upstream since, r = true := by
  intro r member
  simp only [results, List.mem_filterMap] at member
  obtain ⟨e, inside, eq⟩ := member
  cases e with
  | allow other t => simp at eq
  | result other success t =>
    by_cases same : other = upstream
    · subst other
      simp only [↓reduceIte, Option.some.injEq] at eq
      subst r
      cases success with
      | true => rfl
      | false =>
        obtain ⟨left, right, split⟩ := List.append_of_mem inside
        have still := h.stays (left ++ [.result upstream false t]) ⟨right, by simp [split]⟩
        have gone := failure_leaves_half_open enabled (before ++ .allow upstream now :: left)
          upstream t
        simp only [List.append_assoc, List.cons_append] at gone
        exact False.elim (gone still)
    · simp [same] at eq

end enabled

theorem HalfOpenSince.extend {config : GovernanceConfig} {upstream : Bytes}
    {before since : List Event} {now : Int} (h : HalfOpenSince config upstream before now since)
    (e : Event)
    (still : (after config ((before ++ .allow upstream now :: since) ++ [e]) upstream).state =
      .halfOpen) :
    HalfOpenSince config upstream before now (since ++ [e]) where
  was_open := h.was_open
  stays := by
    intro mid inside
    rcases List.prefix_concat_iff.mp inside with eq | shorter
    · subst mid
      simpa using still
    · exact h.stays mid shorter

/-- The part of the laws that is carried from one event to the next. -/
structure Invariant (config : GovernanceConfig) (upstream : Bytes) (events : List Event) :
    Prop where
  failures_trail : (after config events upstream).consecutiveFailures =
    trailing (· == false) (results upstream events)
  successes_since : (after config events upstream).state = .halfOpen →
    ∃ before now since, events = before ++ .allow upstream now :: since ∧
      HalfOpenSince config upstream before now since ∧
      (after config events upstream).consecutiveSuccesses = (results upstream since).count true
  successes_elsewhere : (after config events upstream).state ≠ .halfOpen →
    (after config events upstream).consecutiveSuccesses = 0
  closed_below : (after config events upstream).state = .closed →
    (after config events upstream).consecutiveFailures < config.circuitBreaker.failureThreshold
  half_open_below : (after config events upstream).state = .halfOpen →
    (after config events upstream).consecutiveSuccesses <
      config.circuitBreaker.halfOpenSuccessThreshold

section thresholds
variable {config : GovernanceConfig} (enabled : config.circuitBreaker.enabled = true)
  (failureThreshold : 1 ≤ config.circuitBreaker.failureThreshold)
  (successThreshold : 1 ≤ config.circuitBreaker.halfOpenSuccessThreshold)
include enabled failureThreshold successThreshold

omit enabled successThreshold in
theorem invariant_nil (upstream : Bytes) : Invariant config upstream [] where
  failures_trail := by simp [after, run, results]
  successes_since := by simp [after, run]
  successes_elsewhere := by simp [after, run]
  closed_below := by
    simp only [after, run, List.foldl_nil, stateOf_empty]
    omega
  half_open_below := by simp [after, run]

omit failureThreshold successThreshold in
theorem invariant_other {upstream : Bytes} {events : List Event} (e : Event)
    (differ : e.upstream ≠ upstream) (h : Invariant config upstream events) :
    Invariant config upstream (events ++ [e]) := by
  have same := after_other enabled events e differ
  have noResult : results upstream [e] = [] := by
    cases e with
    | allow other now => rfl
    | result other success now => exact results_other differ success now
  have resultsSame : results upstream (events ++ [e]) = results upstream events := by
    rw [results_snoc, noResult, List.append_nil]
  constructor
  · rw [same, resultsSame]
    exact h.failures_trail
  · intro half
    rw [same] at half ⊢
    obtain ⟨before, now, since, eq, opened, count⟩ := h.successes_since half
    refine ⟨before, now, since ++ [e], by simp [eq], ?_, ?_⟩
    · apply opened.extend
      rw [← eq, same]
      exact half
    · rw [results_snoc, noResult, List.append_nil]
      exact count
  · rw [same]
    exact h.successes_elsewhere
  · rw [same]
    exact h.closed_below
  · rw [same]
    exact h.half_open_below

omit failureThreshold in
theorem invariant_allow {upstream : Bytes} {events : List Event} (now : Int)
    (h : Invariant config upstream events) :
    Invariant config upstream (events ++ [.allow upstream now]) := by
  have next := after_allow enabled events upstream now
  have resultsSame : results upstream (events ++ [.allow upstream now]) =
      results upstream events := by simp [results_snoc]
  rcases allowState_cases now (after config events upstream) with
    ⟨isOpen, late, run⟩ | ⟨isOpen, early, run⟩ | ⟨other, run⟩
  · rw [run] at next
    constructor
    · rw [next, resultsSame]
      exact h.failures_trail
    · intro half
      refine ⟨events, now, [], rfl, ⟨isOpen, ?_⟩, by simp [next, results]⟩
      intro mid inside
      rw [List.prefix_nil.mp inside]
      exact half
    · simp [next]
    · simp [next]
    · intro _
      simp only [next]
      omega
  all_goals
    rw [run] at next
    constructor
    · rw [next, resultsSame]
      exact h.failures_trail
    · intro half
      rw [next] at half ⊢
      obtain ⟨before, t, since, eq, opened, count⟩ := h.successes_since half
      refine ⟨before, t, since ++ [.allow upstream now], by simp [eq], ?_, ?_⟩
      · apply opened.extend
        rw [← eq, next]
        exact half
      · simpa [results_snoc] using count
    · rw [next]
      exact h.successes_elsewhere
    · rw [next]
      exact h.closed_below
    · rw [next]
      exact h.half_open_below

omit successThreshold in
theorem invariant_result {upstream : Bytes} {events : List Event} (success : Bool) (now : Int)
    (h : Invariant config upstream events) :
    Invariant config upstream (events ++ [.result upstream success now]) := by
  have next := after_result enabled events upstream success now
  have trail := h.failures_trail
  rcases recordState_cases config.circuitBreaker success now (after config events upstream) with
    ⟨rfl, half, enough, run⟩ | ⟨rfl, half, below, run⟩ | ⟨rfl, notHalf, run⟩ |
      ⟨rfl, trips, run⟩ | ⟨rfl, notHalf, below, run⟩
  · rw [run] at next
    constructor
    · simp [next, results_snoc]
    · simp [next]
    · simp [next]
    · intro _
      simp only [next]
      omega
    · simp [next]
  · rw [run] at next
    constructor
    · simp [next, results_snoc]
    · intro still
      obtain ⟨before, t, since, eq, opened, count⟩ := h.successes_since half
      refine ⟨before, t, since ++ [.result upstream true now], by simp [eq], ?_, ?_⟩
      · apply opened.extend
        rw [← eq]
        exact still
      · simp [next, count, results_snoc]
    · simp [next, half]
    · simp [next, half]
    · intro _
      simpa [next] using below
  · rw [run] at next
    constructor
    · simp [next, results_snoc]
    · simp [next, notHalf]
    · intro _
      simpa [next] using h.successes_elsewhere notHalf
    · intro _
      simp only [next]
      omega
    · simp [next, notHalf]
  · rw [run] at next
    constructor
    · simp [next, results_snoc, trail]
    · simp [next]
    · simp [next]
    · simp [next]
    · simp [next]
  · rw [run] at next
    constructor
    · simp [next, results_snoc, trail]
    · simp [next, notHalf]
    · simp [next]
    · intro _
      simpa [next] using below
    · simp [next, notHalf]

theorem invariant_run (upstream : Bytes) (events : List Event) :
    Invariant config upstream events := by
  induction events using List.reverseRecOn with
  | nil => exact invariant_nil failureThreshold upstream
  | append_singleton events e ih =>
    by_cases mine : e.upstream = upstream
    · cases e with
      | allow other now =>
        obtain rfl : other = upstream := mine
        exact invariant_allow enabled successThreshold now ih
      | result other success now =>
        obtain rfl : other = upstream := mine
        exact invariant_result enabled failureThreshold success now ih
    · exact invariant_other enabled e mine ih

theorem opening_event {upstream : Bytes} (events : List Event) (e : Event)
    (notOpen : (after config events upstream).state ≠ .opened)
    (isOpen : (after config (events ++ [e]) upstream).state = .opened) :
    ∃ now, e = .result upstream false now ∧
      ((after config events upstream).state = .halfOpen ∨
        (trailing (· == false) (results upstream (events ++ [e])) : Int) =
          config.circuitBreaker.failureThreshold) := by
  have inv := invariant_run enabled failureThreshold successThreshold upstream events
  by_cases mine : e.upstream = upstream
  · cases e with
    | allow other now =>
      obtain rfl : other = upstream := mine
      rw [after_allow enabled] at isOpen
      rcases allowState_cases now (after config events other) with
        ⟨_, _, run⟩ | ⟨was, _, _⟩ | ⟨_, run⟩
      · simp [run] at isOpen
      · exact False.elim (notOpen was)
      · exact False.elim (notOpen (by simpa [run] using isOpen))
    | result other success now =>
      obtain rfl : other = upstream := mine
      rw [after_result enabled] at isOpen
      rcases recordState_cases config.circuitBreaker success now (after config events other) with
        ⟨_, _, _, run⟩ | ⟨_, half, _, run⟩ | ⟨_, _, run⟩ | ⟨rfl, trips, _⟩ | ⟨_, _, _, run⟩
      · simp [run] at isOpen
      · simp [run, half] at isOpen
      · exact False.elim (notOpen (by simpa [run] using isOpen))
      · refine ⟨now, rfl, ?_⟩
        by_cases half : (after config events other).state = .halfOpen
        · exact Or.inl half
        · have reached := trips.resolve_left half
          have closed : (after config events other).state = .closed := by
            cases h : (after config events other).state <;> simp_all
          have below := inv.closed_below closed
          have trail := inv.failures_trail
          refine Or.inr ?_
          simp only [results_snoc, results_own, trailing_snoc, beq_self_eq_true, ↓reduceIte]
          omega
      · exact False.elim (notOpen (by simpa [run] using isOpen))
  · rw [after_other enabled events e mine] at isOpen
    exact False.elim (notOpen isOpen)

omit failureThreshold successThreshold in
theorem leaving_event {upstream : Bytes} (events : List Event) (e : Event)
    (isOpen : (after config events upstream).state = .opened)
    (notOpen : (after config (events ++ [e]) upstream).state ≠ .opened) :
    ∃ now, e = .allow upstream now ∧ (after config events upstream).openUntil ≤ now := by
  by_cases mine : e.upstream = upstream
  · cases e with
    | allow other now =>
      obtain rfl : other = upstream := mine
      rw [after_allow enabled] at notOpen
      rcases allowState_cases now (after config events other) with
        ⟨_, late, _⟩ | ⟨_, _, run⟩ | ⟨other, _⟩
      · exact ⟨now, rfl, late⟩
      · exact False.elim (notOpen (by simpa [run] using isOpen))
      · exact False.elim (other isOpen)
    | result other success now =>
      obtain rfl : other = upstream := mine
      rw [after_result enabled] at notOpen
      rcases recordState_cases config.circuitBreaker success now (after config events other) with
        ⟨_, half, _⟩ | ⟨_, half, _⟩ | ⟨_, _, run⟩ | ⟨_, _, run⟩ | ⟨_, _, _, run⟩
      · simp [isOpen] at half
      · simp [isOpen] at half
      · exact False.elim (notOpen (by simpa [run] using isOpen))
      · simp [run] at notOpen
      · exact False.elim (notOpen (by simpa [run] using isOpen))
  · rw [after_other enabled events e mine] at notOpen
    exact False.elim (notOpen isOpen)

theorem closing_event {upstream : Bytes} (events : List Event) (e : Event)
    (notClosed : (after config events upstream).state ≠ .closed)
    (isClosed : (after config (events ++ [e]) upstream).state = .closed) :
    (after config events upstream).state = .halfOpen ∧
    ∃ now before opened since, e = .result upstream true now ∧
      events = before ++ .allow upstream opened :: since ∧
      HalfOpenSince config upstream before opened since ∧
      results upstream (since ++ [e]) =
        List.replicate config.circuitBreaker.halfOpenSuccessThreshold.toNat true := by
  have inv := invariant_run enabled failureThreshold successThreshold upstream events
  by_cases mine : e.upstream = upstream
  · cases e with
    | allow other now =>
      obtain rfl : other = upstream := mine
      rw [after_allow enabled] at isClosed
      rcases allowState_cases now (after config events other) with
        ⟨_, _, run⟩ | ⟨was, _, run⟩ | ⟨_, run⟩
      · simp [run] at isClosed
      · simp [run, was] at isClosed
      · exact False.elim (notClosed (by simpa [run] using isClosed))
    | result other success now =>
      obtain rfl : other = upstream := mine
      rw [after_result enabled] at isClosed
      rcases recordState_cases config.circuitBreaker success now (after config events other) with
        ⟨rfl, half, enough, _⟩ | ⟨_, half, _, run⟩ | ⟨_, _, run⟩ | ⟨_, _, run⟩ | ⟨_, _, _, run⟩
      · obtain ⟨before, opened, since, eq, window, count⟩ := inv.successes_since half
        refine ⟨half, now, before, opened, since, rfl, eq, window, ?_⟩
        have below := inv.half_open_below half
        have streak := only_successes enabled window
        have all : results other since =
            List.replicate (results other since).length true :=
          List.eq_replicate_of_mem streak
        have counted : (results other since).count true = (results other since).length :=
          List.count_eq_length.mpr fun r member => (streak r member).symm
        have size : config.circuitBreaker.halfOpenSuccessThreshold.toNat =
            (results other since).length + 1 := by omega
        rw [results_snoc, results_own, size, List.replicate_succ', ← all]
      · simp [run, half] at isClosed
      · exact False.elim (notClosed (by simpa [run] using isClosed))
      · simp [run] at isClosed
      · exact False.elim (notClosed (by simpa [run] using isClosed))
  · rw [after_other enabled events e mine] at isClosed
    exact False.elim (notClosed isClosed)

end thresholds

theorem results_length_le (upstream : Bytes) (events : List Event) :
    (results upstream events).length ≤ resultCount events := by
  induction events with
  | nil => simp [results]
  | cons e events ih =>
    simp only [results, resultCount, List.filterMap_cons, List.countP_cons] at ih ⊢
    cases e with
    | allow other now => simpa using ih
    | result other success now => split <;> simp_all; omega

/-- The entry of an upstream is computed from its own events in their order. -/
theorem after_eq_own {config : GovernanceConfig}
    (enabled : config.circuitBreaker.enabled = true) (upstream : Bytes) (events : List Event) :
    after config events upstream = after config (own upstream events) upstream := by
  induction events using List.reverseRecOn with
  | nil => rfl
  | append_singleton events e ih =>
    by_cases mine : e.upstream = upstream
    · have kept : own upstream (events ++ [e]) = own upstream events ++ [e] := by
        simp [own, mine]
      rw [kept]
      cases e with
      | allow other now =>
        obtain rfl : other = upstream := mine
        rw [after_allow enabled, after_allow enabled, ih]
      | result other success now =>
        obtain rfl : other = upstream := mine
        rw [after_result enabled, after_result enabled, ih]
    · have dropped : own upstream (events ++ [e]) = own upstream events := by
        simp [own, mine]
      rw [dropped, after_other enabled events e mine, ih]

theorem history_laws (config : GovernanceConfig)
    (enabled : config.circuitBreaker.enabled = true)
    (failureThreshold : 1 ≤ config.circuitBreaker.failureThreshold)
    (successThreshold : 1 ≤ config.circuitBreaker.halfOpenSuccessThreshold)
    (upstream : Bytes) (events : List Event) (few : resultCount events < 2 ^ 31) :
    HistoryLaws config upstream events := by
  have inv := invariant_run enabled failureThreshold successThreshold upstream events
  constructor
  · intro other same
    rw [after_eq_own enabled upstream other, same, ← after_eq_own enabled upstream events]
  · exact inv.failures_trail
  · exact inv.successes_since
  · exact inv.successes_elsewhere
  · exact inv.closed_below
  · exact inv.half_open_below
  · have bound := results_length_le upstream events
    have trail := trailing_le_length (· == false) (results upstream events)
    refine ⟨by rw [inv.failures_trail]; omega, ?_⟩
    by_cases half : (after config events upstream).state = .halfOpen
    · obtain ⟨before, now, since, eq, _, count⟩ := inv.successes_since half
      have part : (results upstream since).length ≤ (results upstream events).length := by
        simp [eq, results]
      have most := List.count_le_length (a := true) (l := results upstream since)
      omega
    · rw [inv.successes_elsewhere half]
      decide
  · exact opening_event enabled failureThreshold successThreshold events
  · exact leaving_event enabled events
  · exact closing_event enabled failureThreshold successThreshold events
  · intro now
    simp only [allowRequest, enabled, ↓reduceIte]
    exact allowState_refuses_iff now _

/-- A full cycle under the default thresholds: five failures, an expired open period, two
   successes. -/
theorem history_laws_full_cycle :
    HistoryLaws {} (bytes "UserService")
      (List.replicate 5 (.result (bytes "UserService") false 3) ++
        [.allow (bytes "UserService") 10000000003, .result (bytes "UserService") true 10000000004,
          .result (bytes "UserService") true 10000000005]) :=
  history_laws {} rfl (by decide) (by decide) _ _ (by decide)

end TgwBreakerHistory
