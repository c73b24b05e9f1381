import TgwGateway.Governance.ForwardLaws

/- Which calls reach the inner client while the breaker of their upstream is open: admission is
   asked once per Forward call, so only a retry can, after a failure of the same call. -/
namespace TgwOpenCalls
open ByteStrings TgwClock TgwConfig TgwHttp TgwCircuitBreaker TgwGovernance TgwForwardRuns
open TgwForwardLaws
variable {State : Type}

def NoCallWhileOpen (trace : List GovernanceEvent) : Prop :=
  ∀ upstream breaker now, .innerForward upstream breaker now ∈ trace →
    ¬ (breaker.state = .opened ∧ now < breaker.openUntil)

/-- The call follows a failure recorded since its Forward call was admitted. -/
def RetryAfterFailure (upstream : Bytes) (earlier : List GovernanceEvent) : Prop :=
  ∃ before since, earlier = before ++ .allowRequest upstream true :: since ∧
    (∀ other admitted, .allowRequest other admitted ∉ since) ∧
    .recordResult upstream false ∈ since

def OpenCallsAreRetries (trace : List GovernanceEvent) : Prop :=
  ∀ earlier upstream breaker now later,
    trace = earlier ++ .innerForward upstream breaker now :: later →
    breaker.state = .opened → RetryAfterFailure upstream earlier

theorem retry_prepend {upstream : Bytes} {earlier : List GovernanceEvent}
    (retry : RetryAfterFailure upstream earlier) (prior : List GovernanceEvent) :
    RetryAfterFailure upstream (prior ++ earlier) := by
  obtain ⟨before, since, rfl, single, failure⟩ := retry
  exact ⟨prior ++ before, since, by simp, single, failure⟩

theorem split_append {xs ys earlier later : List GovernanceEvent} {e : GovernanceEvent}
    (split : xs ++ ys = earlier ++ e :: later) :
    (∃ rest, xs = earlier ++ e :: rest) ∨
      ∃ prior, earlier = xs ++ prior ∧ ys = prior ++ e :: later := by
  rcases List.append_eq_append_iff.mp split with ⟨prior, whole, rest⟩ | ⟨rest, whole, tail⟩
  · exact Or.inr ⟨prior, whole, rest⟩
  · cases rest with
    | nil => exact Or.inr ⟨[], by simpa using whole.symm, by simpa using tail.symm⟩
    | cons first rest =>
      obtain ⟨rfl, _⟩ := List.cons.inj tail
      exact Or.inl ⟨rest, whole⟩

theorem open_calls_append {xs ys : List GovernanceEvent} (left : OpenCallsAreRetries xs)
    (right : OpenCallsAreRetries ys) : OpenCallsAreRetries (xs ++ ys) := by
  intro earlier upstream breaker now later split isOpen
  rcases split_append split with ⟨rest, here⟩ | ⟨prior, rfl, there⟩
  · exact left earlier upstream breaker now rest here isOpen
  · exact retry_prepend (right prior upstream breaker now later there isOpen) xs

theorem open_calls_none {trace : List GovernanceEvent}
    (none : ∀ upstream breaker now, .innerForward upstream breaker now ∈ trace →
      breaker.state ≠ .opened) : OpenCallsAreRetries trace := by
  intro earlier upstream breaker now later split isOpen
  exact absurd isOpen (none upstream breaker now (by simp [split]))

theorem recordState_opens {config : CircuitBreakerConfig} {success : Bool} {now : Int}
    {s : CircuitBreakerRuntimeState} (isOpen : (recordState config success now s).state = .opened) :
    s.state = .opened ∨ success = false := by
  rcases recordState_cases config success now s with ⟨_, _, _, run⟩ | ⟨_, half, _, run⟩ |
    ⟨_, _, run⟩ | ⟨failure, _⟩ | ⟨failure, _⟩
  · simp [run] at isOpen
  · simp [run, half] at isOpen
  · exact Or.inl (by simpa [run] using isOpen)
  · exact Or.inr failure
  · exact Or.inr failure

theorem round_opens {config : GovernanceConfig} {upstream : Bytes}
    {s t : CircuitBreakerRuntimeState} {response : HttpResponse} {events : List GovernanceEvent}
    (round : Round config upstream s response events t) (isOpen : t.state = .opened) :
    s.state = .opened ∨ .recordResult upstream false ∈ events := by
  obtain ⟨now, entry⟩ := round.entry
  obtain ⟨pauses, calls, _, rfl⟩ := round.shape
  split at entry
  · rw [entry] at isOpen
    rcases recordState_opens isOpen with before | failure
    · exact Or.inl before
    · exact Or.inr (by simp [failure])
  · exact Or.inl (entry ▸ isOpen)

theorem round_calls {config : GovernanceConfig} {upstream : Bytes}
    {s t : CircuitBreakerRuntimeState} {response : HttpResponse} {events : List GovernanceEvent}
    (round : Round config upstream s response events t) {e : GovernanceEvent}
    (member : e ∈ events) :
    (∀ other breaker now, e = .innerForward other breaker now →
      other = upstream ∧ breaker = s) ∧
    (∀ other admitted, e ≠ .allowRequest other admitted) := by
  obtain ⟨pauses, calls, single, rfl⟩ := round.shape
  have called : e ∈ calls → ∃ now, e = .innerForward upstream s now := by
    rcases single with rfl | ⟨now, rfl⟩
    · simp
    · intro here
      exact ⟨now, by simpa using here⟩
  simp only [List.mem_cons, List.mem_append, List.mem_map, List.not_mem_nil, or_false] at member
  rcases member with rfl | (⟨ms, _, rfl⟩ | inner) | rfl | rfl
  · simp
  · simp
  · obtain ⟨now, rfl⟩ := called inner
    refine ⟨?_, by simp⟩
    intro other breaker now' same
    cases same
    exact ⟨rfl, rfl⟩
  · simp
  · simp

/-- Within the attempts of one call, by induction on them: a call made while open follows a
   recorded failure, unless the breaker was open before the first attempt. -/
theorem rounds_open_calls {config : GovernanceConfig} {upstream : Bytes}
    {s t : CircuitBreakerRuntimeState} {rs : List HttpResponse} {events : List GovernanceEvent}
    (rounds : Rounds config upstream s rs events t) (earlier : List GovernanceEvent)
    (other : Bytes) (breaker : CircuitBreakerRuntimeState) (now : Int)
    (later : List GovernanceEvent)
    (split : events = earlier ++ .innerForward other breaker now :: later)
    (isOpen : breaker.state = .opened) :
    other = upstream ∧ (s.state = .opened ∨ .recordResult upstream false ∈ earlier) := by
  induction rounds generalizing earlier with
  | nil s => simp at split
  | @cons s t u response rest events tail pauses first _ ih =>
    rcases split_append split with ⟨_, front⟩ | ⟨prior, rfl, back⟩
    · rcases split_append front with ⟨_, here⟩ | ⟨_, _, sleeping⟩
      · have member : GovernanceEvent.innerForward other breaker now ∈ events := by simp [here]
        obtain ⟨rfl, rfl⟩ := (round_calls first member).1 other breaker now rfl
        exact ⟨rfl, Or.inl isOpen⟩
      · have member : GovernanceEvent.innerForward other breaker now ∈
            pauses.map GovernanceEvent.sleepFor := by simp [sleeping]
        simp at member
    · obtain ⟨same, opened⟩ := ih prior back
      refine ⟨same, ?_⟩
      rcases opened with tOpen | failure
      · rcases round_opens first tOpen with before | failure
        · exact Or.inl before
        · exact Or.inr (by simp [failure])
      · exact Or.inr (by simp [failure])

theorem rounds_without_admission {config : GovernanceConfig} {upstream : Bytes}
    {s t : CircuitBreakerRuntimeState} {rs : List HttpResponse} {events : List GovernanceEvent}
    (rounds : Rounds config upstream s rs events t) (other : Bytes) (admitted : Bool) :
    .allowRequest other admitted ∉ events := by
  induction rounds with
  | nil s => simp
  | cons pauses first tail ih =>
    intro member
    rcases List.mem_append.mp member with front | later
    · rcases List.mem_append.mp front with here | sleeping
      · exact (round_calls first here).2 other admitted rfl
      · simp at sleeping
    · exact ih later

theorem admitted_rounds_open_calls {config : GovernanceConfig} {upstream : Bytes}
    {s t : CircuitBreakerRuntimeState} {rs : List HttpResponse} {events : List GovernanceEvent}
    (rounds : Rounds config upstream s rs events t) (notOpen : s.state ≠ .opened) :
    OpenCallsAreRetries (.allowRequest upstream true :: events) := by
  intro earlier other breaker now later split isOpen
  cases earlier with
  | nil => simp at split
  | cons e earlier =>
    rw [List.cons_append] at split
    obtain ⟨rfl, rest⟩ := List.cons.inj split
    obtain ⟨rfl, opened⟩ := rounds_open_calls rounds earlier other breaker now later rest isOpen
    refine ⟨[], earlier, rfl, ?_, opened.resolve_left notOpen⟩
    intro other' admitted member
    exact rounds_without_admission rounds other' admitted (by simp [rest, member])

theorem admission_not_open (config : GovernanceConfig) (upstream : Bytes) (env : GovernanceEnv State)
    (breaker : config.circuitBreaker.enabled = true)
    (admitted : (admission config upstream env).1 = true) :
    (stateOf (admission config upstream env).2.state.circuitStates upstream).state ≠ .opened := by
  simp only [admission, breaker, ↓reduceIte, allowRequest, emit_circuitStates, stateOf_insert_same]
    at admitted ⊢
  exact admitted_not_open _ _ admitted

theorem forward_open_calls (inner : UpstreamClient State) (config : GovernanceConfig)
    (ctx : ForwardContext) (env : GovernanceEnv State) (enabled : config.enabled = true)
    (breaker : config.circuitBreaker.enabled = true) :
    ∃ events, (forward inner config ctx env).2.state.trace = env.state.trace ++ events ∧
      OpenCallsAreRetries events := by
  have trace := admission_trace config ctx.upstream env
  rw [forward_eq inner config ctx env enabled]
  cases admitted : (admission config ctx.upstream env).1 with
  | false =>
    rw [admitted] at trace
    exact ⟨[.allowRequest ctx.upstream false], by simpa using trace, open_calls_none (by simp)⟩
  | true =>
    obtain ⟨rs, events, laws⟩ := forwardLoop_laws inner config ctx (attemptLimit config)
      (attemptLimit config).toNat 1 none (admission config ctx.upstream env).2
    refine ⟨.allowRequest ctx.upstream true :: events, ?_, ?_⟩
    · simp [laws.trace, trace, admitted]
    · exact admitted_rounds_open_calls laws.rounds (admission_not_open config ctx.upstream env
        breaker admitted)

/-- With governance off the breaker table is never written, so no entry is ever open. -/
theorem ungoverned_open_calls (inner : UpstreamClient State) (config : GovernanceConfig)
    (ctx : ForwardContext) (env : GovernanceEnv State) (disabled : config.enabled = false)
    (unused : env.state.circuitStates = ∅) :
    (forward inner config ctx env).2.state.circuitStates = ∅ ∧
    ∃ events, (forward inner config ctx env).2.state.trace = env.state.trace ++ events ∧
      OpenCallsAreRetries events := by
  simp only [forward, disabled, Bool.false_eq_true, ↓reduceIte, innerForward, emit_trace,
    emit_circuitStates, unused, stateOf_empty, true_and]
  refine ⟨_, rfl, open_calls_none ?_⟩
  intro upstream entry now member
  simp only [List.mem_singleton, GovernanceEvent.innerForward.injEq] at member
  simp [member]

structure RunInvariant (config : GovernanceConfig) (env : GovernanceEnv State) : Prop where
  open_calls : OpenCallsAreRetries env.state.trace
  unused : config.enabled = false → env.state.circuitStates = ∅

theorem forward_run_invariant (inner : UpstreamClient State) (config : GovernanceConfig)
    (ctx : ForwardContext) (env : GovernanceEnv State)
    (breaker : config.circuitBreaker.enabled = true) (before : RunInvariant config env) :
    RunInvariant config (forward inner config ctx env).2 := by
  cases governed : config.enabled with
  | true =>
    obtain ⟨events, trace, opens⟩ := forward_open_calls inner config ctx env governed breaker
    exact ⟨trace ▸ open_calls_append before.open_calls opens, by simp [governed]⟩
  | false =>
    obtain ⟨states, events, trace, opens⟩ :=
      ungoverned_open_calls inner config ctx env governed (before.unused governed)
    exact ⟨trace ▸ open_calls_append before.open_calls opens, fun _ => states⟩

theorem run_invariant (inner : UpstreamClient State) (config : GovernanceConfig)
    (calls : List ForwardContext) (env : GovernanceEnv State)
    (breaker : config.circuitBreaker.enabled = true) (before : RunInvariant config env) :
    RunInvariant config (runForwards inner config calls env) := by
  induction calls generalizing env with
  | nil => exact before
  | cons ctx calls ih =>
    have start : RunInvariant config { env with deadline := ctx.deadline } :=
      ⟨before.open_calls, before.unused⟩
    exact ih _ (forward_run_invariant inner config ctx _ breaker start)

theorem open_calls_are_retries (inner : UpstreamClient State) (config : GovernanceConfig)
    (calls : List ForwardContext) (steady : SteadyClock) (system : SystemClock) (shared : State)
    (breaker : config.circuitBreaker.enabled = true) :
    OpenCallsAreRetries
      (runForwards inner config calls (freshClient steady system shared)).state.trace := by
  have start : RunInvariant config (freshClient steady system shared) :=
    ⟨open_calls_none (by simp [freshClient]), fun _ => rfl⟩
  exact (run_invariant inner config calls _ breaker start).open_calls

section one_failure_opens

def failingServer : UpstreamClient Unit := fun _ env => ({ status := 500 }, env)

def getUser : ForwardContext := { method := bytes "GET", upstream := bytes "user_service" }

def oneFailureOpens : GovernanceConfig :=
  { retry := { backoffMs := 0 }, circuitBreaker := { failureThreshold := 1 } }

theorem open_calls_are_retries_one_failure :
    OpenCallsAreRetries (runForwards failingServer oneFailureOpens [getUser, getUser]
      (freshClient (ticking 1000) (stopped 0) ())).state.trace :=
  open_calls_are_retries _ _ _ _ _ _ rfl

theorem retry_sent_while_open :
    ¬ NoCallWhileOpen (runForwards failingServer oneFailureOpens [getUser]
      (freshClient (ticking 1000) (stopped 0) ())).state.trace := by
  intro never
  have second : .innerForward (bytes "user_service")
      { state := .opened, consecutiveFailures := 1, openUntil := 10000003000 } 5000 ∈
      (runForwards failingServer oneFailureOpens [getUser]
        (freshClient (ticking 1000) (stopped 0) ())).state.trace := by decide +kernel
  exact never _ _ _ second (by decide)

end one_failure_opens

end TgwOpenCalls
