import TgwGateway.Governance.BreakerHistory

/- What a result does that arrives in a later period of the breaker than the one its request was
   admitted in. AllowRequest hands out no epoch and RecordResult takes none, so the entry cannot
   tell such a result from a current one. -/
namespace TgwLateResults
open ByteStrings TgwConfig TgwCircuitBreaker TgwBreakerHistory TrailingRun

structure Call where
  request : Nat
  event : Event
  deriving DecidableEq

def events (calls : List Call) : List Event := calls.map Call.event

@[simp] theorem events_append (calls more : List Call) :
    events (calls ++ more) = events calls ++ events more := by simp [events]

@[simp] theorem events_cons (c : Call) (calls : List Call) :
    events (c :: calls) = c.event :: events calls := rfl

@[simp] theorem events_nil : events [] = [] := rfl

def Admitted (config : GovernanceConfig) (upstream : Bytes) (request : Nat)
    (early : List Call) (now : Int) (rest calls : List Call) : Prop :=
  calls = early ++ ⟨request, .allow upstream now⟩ :: rest ∧
    (allowRequest config (run config (events early)) upstream now).1 = true

/-- The orders in which the table sees the calls of concurrent requests. A request to the
   upstream asks for admission once and only then, one for each attempt, reports results.
   Calls about other upstreams stand anywhere. -/
inductive Interleaving (config : GovernanceConfig) (upstream : Bytes) : List Call → Prop where
  | nil : Interleaving config upstream []
  | allow {calls : List Call} (request : Nat) (now : Int) :
      Interleaving config upstream calls → (∀ c ∈ calls, c.request ≠ request) →
      Interleaving config upstream (calls ++ [⟨request, .allow upstream now⟩])
  | result {calls : List Call} (request : Nat) (success : Bool) (now : Int) :
      Interleaving config upstream calls →
      (∃ early start rest, Admitted config upstream request early start rest calls) →
      Interleaving config upstream (calls ++ [⟨request, .result upstream success now⟩])
  | other {calls : List Call} (c : Call) :
      Interleaving config upstream calls → c.event.upstream ≠ upstream →
      Interleaving config upstream (calls ++ [c])

def OpensWithin (config : GovernanceConfig) (upstream : Bytes) (early rest : List Call) : Prop :=
  ∃ part c later, rest = part ++ c :: later ∧
    (after config (events (early ++ part)) upstream).state ≠ .opened ∧
    (after config (events (early ++ part ++ [c])) upstream).state = .opened

/-- The request was admitted before the most recent transition to OPEN. -/
def Late (config : GovernanceConfig) (upstream : Bytes) (calls : List Call)
    (request : Nat) : Prop :=
  ∃ early start rest, Admitted config upstream request early start rest calls ∧
    OpensWithin config upstream (early ++ [⟨request, .allow upstream start⟩]) rest

/-- What a result recorded at `now` does to the state and open_until of its upstream. -/
structure ResultEffect (config : GovernanceConfig) (upstream : Bytes) (history : List Event)
    (success : Bool) (now : Int) (next : CircuitBreakerRuntimeState) : Prop where
  success_keeps_period : success = true →
    next.openUntil = (after config history upstream).openUntil
  success_keeps_state : success = true → (after config history upstream).state ≠ .halfOpen →
    next.state = (after config history upstream).state
  success_counts : success = true → (after config history upstream).state = .halfOpen →
    ∃ before opened since, history = before ++ .allow upstream opened :: since ∧
      HalfOpenSince config upstream before opened since ∧
      next.state = if config.circuitBreaker.halfOpenSuccessThreshold ≤
        (results upstream since).count true + 1 then .closed else .halfOpen
  failure_opens : success = false →
    (after config history upstream).state = .halfOpen ∨
      config.circuitBreaker.failureThreshold ≤
        trailing (· == false) (results upstream (history ++ [.result upstream false now])) →
    next.state = .opened ∧
      next.openUntil = now + config.circuitBreaker.openSeconds * TgwClock.nanosPerSecond
  failure_below : success = false → (after config history upstream).state ≠ .halfOpen →
    (trailing (· == false) (results upstream (history ++ [.result upstream false now])) : Int) <
      config.circuitBreaker.failureThreshold →
    next.state = (after config history upstream).state ∧
      next.openUntil = (after config history upstream).openUntil

theorem opens_within (config : GovernanceConfig) (upstream : Bytes) (early rest : List Call)
    (notOpen : (after config (events early) upstream).state ≠ .opened)
    (isOpen : (after config (events (early ++ rest)) upstream).state = .opened) :
    OpensWithin config upstream early rest := by
  induction rest using List.reverseRecOn with
  | nil =>
    rw [List.append_nil] at isOpen
    exact absurd isOpen notOpen
  | append_singleton rest c ih =>
    by_cases already : (after config (events (early ++ rest)) upstream).state = .opened
    · obtain ⟨part, turn, later, rfl, below, above⟩ := ih already
      exact ⟨part, turn, later ++ [c], by simp, below, above⟩
    · exact ⟨rest, c, [], rfl, already, by simpa using isOpen⟩

theorem result_admitted {config : GovernanceConfig} {upstream : Bytes} {calls : List Call}
    {request : Nat} {success : Bool} {now : Int}
    (order : Interleaving config upstream
      (calls ++ [⟨request, .result upstream success now⟩])) :
    ∃ early start rest, Admitted config upstream request early start rest calls := by
  generalize whole : calls ++ [⟨request, .result upstream success now⟩] = all at order
  cases order with
  | nil => simp at whole
  | allow other start _ _ =>
    obtain ⟨_, last⟩ := List.append_inj' whole rfl
    simp at last
  | result other outcome time _ admitted =>
    obtain ⟨rfl, last⟩ := List.append_inj' whole rfl
    simp only [List.cons.injEq, Call.mk.injEq, and_true] at last
    obtain ⟨rfl, _⟩ := last
    exact admitted
  | other c _ differ =>
    obtain ⟨_, last⟩ := List.append_inj' whole rfl
    simp only [List.cons.injEq, and_true] at last
    rw [← last] at differ
    exact absurd rfl differ

section enabled
variable {config : GovernanceConfig} (enabled : config.circuitBreaker.enabled = true)
include enabled

theorem admission_not_open {upstream : Bytes} {request : Nat} {early rest calls : List Call}
    {start : Int} (admitted : Admitted config upstream request early start rest calls) :
    (after config (events (early ++ [⟨request, .allow upstream start⟩])) upstream).state ≠
      .opened := by
  have allowed := admitted.2
  simp only [allowRequest, enabled, ↓reduceIte] at allowed
  simp only [events_append, events_cons, events_nil, after_allow enabled]
  exact admitted_not_open start _ allowed

/-- While the upstream is OPEN nobody is admitted, so whoever reports was admitted earlier. -/
theorem open_results_late {upstream : Bytes} {calls : List Call} {request : Nat}
    {success : Bool} {now : Int}
    (order : Interleaving config upstream (calls ++ [⟨request, .result upstream success now⟩]))
    (isOpen : (after config (events calls) upstream).state = .opened) :
    Late config upstream calls request := by
  obtain ⟨early, start, rest, admitted⟩ := result_admitted order
  refine ⟨early, start, rest, admitted, ?_⟩
  apply opens_within
  · exact admission_not_open enabled admitted
  · have whole := admitted.1
    subst whole
    simpa using isOpen

theorem result_effect (failureThreshold : 1 ≤ config.circuitBreaker.failureThreshold)
    (successThreshold : 1 ≤ config.circuitBreaker.halfOpenSuccessThreshold)
    (upstream : Bytes) (history : List Event) (success : Bool) (now : Int) :
    ResultEffect config upstream history success now
      (after config (history ++ [.result upstream success now]) upstream) := by
  have inv := invariant_run enabled failureThreshold successThreshold upstream history
  have trail := inv.failures_trail
  have next := after_result enabled history upstream success now
  have streak : trailing (· == false)
      (results upstream (history ++ [.result upstream false now])) =
      trailing (· == false) (results upstream history) + 1 := by
    simp [results_snoc]
  rcases recordState_cases config.circuitBreaker success now (after config history upstream) with
    ⟨rfl, half, enough, moved⟩ | ⟨rfl, half, below, moved⟩ | ⟨rfl, notHalf, moved⟩ |
      ⟨rfl, trips, moved⟩ | ⟨rfl, notHalf, below, moved⟩
  · rw [moved] at next
    obtain ⟨before, opened, since, eq, window, count⟩ := inv.successes_since half
    constructor
    · simp [next]
    · exact fun _ notHalf => absurd half notHalf
    · intro _ _
      refine ⟨before, opened, since, eq, window, ?_⟩
      rw [count] at enough
      simp [next, enough]
    · simp
    · simp
  · rw [moved] at next
    obtain ⟨before, opened, since, eq, window, count⟩ := inv.successes_since half
    constructor
    · simp [next]
    · exact fun _ notHalf => absurd half notHalf
    · intro _ _
      refine ⟨before, opened, since, eq, window, ?_⟩
      rw [count] at below
      rw [if_neg (by omega)]
      simpa [next] using half
    · simp
    · simp
  · rw [moved] at next
    constructor
    · simp [next]
    · simp [next]
    · exact fun _ half => absurd half notHalf
    · simp
    · simp
  · rw [moved] at next
    constructor
    · simp
    · simp
    · simp
    · simp [next]
    · intro _ notHalf below
      have reached := trips.resolve_left notHalf
      omega
  · rw [moved] at next
    constructor
    · simp
    · simp
    · simp
    · intro _ trips
      have reached := trips.resolve_left notHalf
      omega
    · simp [next]

end enabled

/-- A late result is recorded like a current one, and while OPEN there are only late ones. -/
theorem late_results (config : GovernanceConfig)
    (enabled : config.circuitBreaker.enabled = true)
    (failureThreshold : 1 ≤ config.circuitBreaker.failureThreshold)
    (successThreshold : 1 ≤ config.circuitBreaker.halfOpenSuccessThreshold)
    (upstream : Bytes) (calls : List Call) (request : Nat) (success : Bool) (now : Int)
    (order : Interleaving config upstream
      (calls ++ [⟨request, .result upstream success now⟩])) :
    ((after config (events calls) upstream).state = .opened →
      Late config upstream calls request) ∧
    (Late config upstream calls request →
      ResultEffect config upstream (events calls) success now
        (after config (events (calls ++ [⟨request, .result upstream success now⟩])) upstream)) := by
  refine ⟨open_results_late enabled order, fun _ => ?_⟩
  rw [events_append]
  exact result_effect enabled failureThreshold successThreshold upstream (events calls) success now

section slow
def slowUpstream : Bytes := bytes "UserService"

def slowConfig : GovernanceConfig :=
  { circuitBreaker := { failureThreshold := 1, halfOpenSuccessThreshold := 1 } }

/-- Requests 0 and 1 are admitted together; request 0 fails first. -/
def slowCalls : List Call :=
  [⟨0, .allow slowUpstream 0⟩, ⟨1, .allow slowUpstream 0⟩, ⟨0, .result slowUpstream false 1⟩]

def probedCalls : List Call := slowCalls ++ [⟨2, .allow slowUpstream 10000000001⟩]

def slowState (calls : List Call) : CircuitBreakerRuntimeState :=
  after slowConfig (events calls) slowUpstream

theorem slow_calls_interleave : Interleaving slowConfig slowUpstream slowCalls := by
  have zero : Interleaving slowConfig slowUpstream [⟨0, .allow slowUpstream 0⟩] :=
    .allow 0 0 .nil (by simp)
  have one : Interleaving slowConfig slowUpstream
      [⟨0, .allow slowUpstream 0⟩, ⟨1, .allow slowUpstream 0⟩] :=
    .allow 1 0 zero (by simp)
  exact .result 0 false 1 one ⟨[], 0, _, rfl, by decide⟩

theorem slow_result_interleaves (success : Bool) (now : Int) :
    Interleaving slowConfig slowUpstream
        (slowCalls ++ [⟨1, .result slowUpstream success now⟩]) ∧
      Interleaving slowConfig slowUpstream
        (probedCalls ++ [⟨1, .result slowUpstream success now⟩]) := by
  have probed : Interleaving slowConfig slowUpstream probedCalls :=
    .allow 2 10000000001 slow_calls_interleave (by decide)
  constructor
  · exact .result 1 success now slow_calls_interleave
      ⟨[⟨0, .allow slowUpstream 0⟩], 0, _, rfl, by decide⟩
  · exact .result 1 success now probed ⟨[⟨0, .allow slowUpstream 0⟩], 0, _, rfl, by decide⟩

theorem late_results_slow_request :
    ((after slowConfig (events slowCalls) slowUpstream).state = .opened →
      Late slowConfig slowUpstream slowCalls 1) ∧
    (Late slowConfig slowUpstream slowCalls 1 →
      ResultEffect slowConfig slowUpstream (events slowCalls) false 5000000000
        (after slowConfig (events (slowCalls ++ [⟨1, .result slowUpstream false 5000000000⟩]))
          slowUpstream)) :=
  late_results slowConfig rfl (by decide) (by decide) slowUpstream slowCalls 1 false 5000000000
    (slow_result_interleaves false 5000000000).1

/-- The slow request prolongs the open period, and after the probe either reopens or closes the
   circuit. -/
theorem late_results_move_breaker :
    (Interleaving slowConfig slowUpstream
        (slowCalls ++ [⟨1, .result slowUpstream false 5000000000⟩]) ∧
      Late slowConfig slowUpstream slowCalls 1 ∧
      (slowState slowCalls).openUntil <
        (slowState (slowCalls ++ [⟨1, .result slowUpstream false 5000000000⟩])).openUntil) ∧
    (∀ success now, Interleaving slowConfig slowUpstream
        (probedCalls ++ [⟨1, .result slowUpstream success now⟩])) ∧
    Late slowConfig slowUpstream probedCalls 1 ∧
    (slowState probedCalls).state = .halfOpen ∧
    (slowState (probedCalls ++ [⟨1, .result slowUpstream false 10000000002⟩])).state = .opened ∧
    (slowState (probedCalls ++ [⟨1, .result slowUpstream true 10000000002⟩])).state = .closed := by
  refine ⟨⟨(slow_result_interleaves false 5000000000).1, ?_, by decide⟩,
    fun success now => (slow_result_interleaves success now).2, ?_, by decide, by decide,
    by decide⟩
  · exact ⟨[⟨0, .allow slowUpstream 0⟩], 0, [⟨0, .result slowUpstream false 1⟩], ⟨rfl, by decide⟩,
      [], _, [], rfl, by decide, by decide⟩
  · exact ⟨[⟨0, .allow slowUpstream 0⟩], 0,
      [⟨0, .result slowUpstream false 1⟩, ⟨2, .allow slowUpstream 10000000001⟩],
      ⟨rfl, by decide⟩, [], _, [_], rfl, by decide, by decide⟩
end slow

end TgwLateResults
