import TgwGateway.Common.Clock
import TgwGateway.Common.Config

/- The circuit breaker table of the governance client. Times are steady clock readings in
   nanoseconds. Both operations look the upstream up with operator[], so an unknown upstream
   starts in the default state and is stored even when nothing about it changes. -/
namespace TgwCircuitBreaker
open ByteStrings TgwConfig TgwClock

inductive CircuitState where
  | closed
  | opened
  | halfOpen
  deriving DecidableEq, Repr

structure CircuitBreakerRuntimeState where
  state : CircuitState := .closed
  consecutiveFailures : Int := 0
  consecutiveSuccesses : Int := 0
  openUntil : Int := 0
  deriving DecidableEq, Repr

abbrev CircuitStates := ByteMap CircuitBreakerRuntimeState

def stateOf (states : CircuitStates) (upstream : Bytes) : CircuitBreakerRuntimeState :=
  states.getD upstream {}

/-- The critical section of AllowRequest on one entry. -/
def allowState (now : Int) (s : CircuitBreakerRuntimeState) :
    Bool × CircuitBreakerRuntimeState :=
  if s.state = .opened then
    if s.openUntil ≤ now then
      (true, { s with state := .halfOpen, consecutiveSuccesses := 0 })
    else (false, s)
  else (true, s)

def allowRequest (config : GovernanceConfig) (states : CircuitStates) (upstream : Bytes)
    (now : Int) : Bool × CircuitStates :=
  if config.circuitBreaker.enabled then
    let entry := allowState now (stateOf states upstream)
    (entry.1, states.insert upstream entry.2)
  else (true, states)

/-- The critical section of RecordResult on one entry. -/
def recordState (config : CircuitBreakerConfig) (success : Bool) (now : Int)
    (s : CircuitBreakerRuntimeState) : CircuitBreakerRuntimeState :=
  if success then
    if s.state = .halfOpen then
      if config.halfOpenSuccessThreshold ≤ s.consecutiveSuccesses + 1 then
        { s with consecutiveFailures := 0, state := .closed, consecutiveSuccesses := 0 }
      else
        { s with consecutiveFailures := 0, consecutiveSuccesses := s.consecutiveSuccesses + 1 }
    else { s with consecutiveFailures := 0 }
  else if s.state = .halfOpen ∨ config.failureThreshold ≤ s.consecutiveFailures + 1 then
    { state := .opened
      consecutiveFailures := s.consecutiveFailures + 1
      consecutiveSuccesses := 0
      openUntil := now + config.openSeconds * nanosPerSecond }
  else
    { s with consecutiveSuccesses := 0, consecutiveFailures := s.consecutiveFailures + 1 }

def recordResult (config : GovernanceConfig) (states : CircuitStates) (upstream : Bytes)
    (success : Bool) (now : Int) : CircuitStates :=
  if config.circuitBreaker.enabled then
    states.insert upstream
      (recordState config.circuitBreaker success now (stateOf states upstream))
  else states

@[simp] theorem stateOf_empty (upstream : Bytes) : stateOf ∅ upstream = {} := by
  simp [stateOf]

@[simp] theorem stateOf_insert_same (states : CircuitStates) (upstream : Bytes)
    (s : CircuitBreakerRuntimeState) : stateOf (states.insert upstream s) upstream = s := by
  simp [stateOf]

theorem stateOf_insert_other (states : CircuitStates) {upstream other : Bytes}
    (s : CircuitBreakerRuntimeState) (differ : upstream ≠ other) :
    stateOf (states.insert upstream s) other = stateOf states other := by
  simp [stateOf, Std.ExtTreeMap.getD_insert, differ]

/-- What admission does to an entry: it is refused exactly while open, and only an expired
   open entry changes. -/
theorem allowState_cases (now : Int) (s : CircuitBreakerRuntimeState) :
    (s.state = .opened ∧ s.openUntil ≤ now ∧
      allowState now s = (true, { s with state := .halfOpen, consecutiveSuccesses := 0 })) ∨
    (s.state = .opened ∧ now < s.openUntil ∧ allowState now s = (false, s)) ∨
    (s.state ≠ .opened ∧ allowState now s = (true, s)) := by
  unfold allowState
  by_cases isOpen : s.state = .opened
  · by_cases expired : s.openUntil ≤ now
    · exact Or.inl ⟨isOpen, expired, by simp [isOpen, expired]⟩
    · exact Or.inr (Or.inl ⟨isOpen, by omega, by simp [isOpen, expired]⟩)
  · exact Or.inr (Or.inr ⟨isOpen, by simp [isOpen]⟩)

theorem allowState_refuses_iff (now : Int) (s : CircuitBreakerRuntimeState) :
    (allowState now s).1 = false ↔ s.state = .opened ∧ now < s.openUntil := by
  rcases allowState_cases now s with ⟨_, late, run⟩ | ⟨isOpen, early, run⟩ | ⟨other, run⟩
  · simp only [run, Bool.true_eq_false, false_iff]
    omega
  · simp [run, isOpen, early]
  · simp [run, other]

theorem admitted_not_open (now : Int) (s : CircuitBreakerRuntimeState)
    (admitted : (allowState now s).1 = true) : (allowState now s).2.state ≠ .opened := by
  rcases allowState_cases now s with ⟨_, _, run⟩ | ⟨_, _, run⟩ | ⟨other, run⟩
  · simp [run]
  · simp [run] at admitted
  · simpa [run] using other

theorem recordState_cases (config : CircuitBreakerConfig) (success : Bool) (now : Int)
    (s : CircuitBreakerRuntimeState) :
    (success = true ∧ s.state = .halfOpen ∧
      config.halfOpenSuccessThreshold ≤ s.consecutiveSuccesses + 1 ∧
      recordState config success now s =
        { s with consecutiveFailures := 0, state := .closed, consecutiveSuccesses := 0 }) ∨
    (success = true ∧ s.state = .halfOpen ∧
      s.consecutiveSuccesses + 1 < config.halfOpenSuccessThreshold ∧
      recordState config success now s =
        { s with
          consecutiveFailures := 0
          consecutiveSuccesses := s.consecutiveSuccesses + 1 }) ∨
    (success = true ∧ s.state ≠ .halfOpen ∧
      recordState config success now s = { s with consecutiveFailures := 0 }) ∨
    (success = false ∧
      (s.state = .halfOpen ∨ config.failureThreshold ≤ s.consecutiveFailures + 1) ∧
      recordState config success now s =
        { state := .opened
          consecutiveFailures := s.consecutiveFailures + 1
          consecutiveSuccesses := 0
          openUntil := now + config.openSeconds * nanosPerSecond }) ∨
    (success = false ∧ s.state ≠ .halfOpen ∧
      s.consecutiveFailures + 1 < config.failureThreshold ∧
      recordState config success now s =
        { s with
          consecutiveSuccesses := 0
          consecutiveFailures := s.consecutiveFailures + 1 }) := by
  cases success with
  | true =>
    by_cases half : s.state = .halfOpen
    · by_cases enough : config.halfOpenSuccessThreshold ≤ s.consecutiveSuccesses + 1
      · exact Or.inl ⟨rfl, half, enough, by simp [recordState, half, enough]⟩
      · refine Or.inr (Or.inl ⟨rfl, half, by omega, ?_⟩)
        simp [recordState, half, enough]
    · exact Or.inr (Or.inr (Or.inl ⟨rfl, half, by simp [recordState, half]⟩))
  | false =>
    by_cases trips : s.state = .halfOpen ∨ config.failureThreshold ≤ s.consecutiveFailures + 1
    · exact Or.inr (Or.inr (Or.inr (Or.inl ⟨rfl, trips, by simp [recordState, trips]⟩)))
    · obtain ⟨notHalf, below⟩ := not_or.mp trips
      refine Or.inr (Or.inr (Or.inr (Or.inr ⟨rfl, notHalf, by omega, ?_⟩)))
      simp [recordState, trips]

end TgwCircuitBreaker
