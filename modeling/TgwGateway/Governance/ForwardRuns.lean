import TgwGateway.Governance.UpstreamClient

/- What one Forward call leaves in the trace and in the breaker entry of its upstream. -/
namespace TgwForwardRuns
open ByteStrings DecimalText TgwClock TgwConfig TgwStatus TgwHttp TgwCircuitBreaker TgwGovernance
variable {State : Type}

@[simp] theorem emit_trace (env : GovernanceEnv State) (e : GovernanceEvent) :
    (emit env e).state.trace = env.state.trace ++ [e] := rfl

@[simp] theorem emit_circuitStates (env : GovernanceEnv State) (e : GovernanceEvent) :
    (emit env e).state.circuitStates = env.state.circuitStates := rfl

@[simp] theorem readyBeforeDeadline_state (env : GovernanceEnv State) :
    (readyBeforeDeadline env).2.state = env.state := by simp [readyBeforeDeadline]

@[simp] theorem elapsedMsSince_state (startedAt : Int) (env : GovernanceEnv State) :
    (elapsedMsSince startedAt env).2.state = env.state := by
  unfold elapsedMsSince
  split <;> rfl

@[simp] theorem withGovernanceHeaders_status (response : HttpResponse) (attempt elapsedMs : Int) :
    (withGovernanceHeaders response attempt elapsedMs).status = response.status := rfl

@[simp] theorem isFailureResponse_stamped (response : HttpResponse) (attempt elapsedMs : Int) :
    isFailureResponse (withGovernanceHeaders response attempt elapsedMs) =
      isFailureResponse response := rfl

theorem isFailureResponse_iff (response : HttpResponse) :
    isFailureResponse response = true ↔ 500 ≤ response.status := by
  simp only [isFailureResponse, Bool.or_eq_true, beq_iff_eq, decide_eq_true_eq]
  omega

theorem isFailureResponse_false_iff (response : HttpResponse) :
    isFailureResponse response = false ↔ response.status < 500 := by
  rw [← Bool.not_eq_true, isFailureResponse_iff]
  omega

/-- Sleeping adds pauses to the trace and touches nothing else of the client. -/
def Paused (before after : GovernanceState State) : Prop :=
  ∃ pauses : List Int,
    after = { before with trace := before.trace ++ pauses.map GovernanceEvent.sleepFor }

theorem paused_refl (s : GovernanceState State) : Paused s s := ⟨[], by simp⟩

theorem paused_sleep {before after : GovernanceState State} (ms : Int)
    (rest : Paused { before with trace := before.trace ++ [.sleepFor ms] } after) :
    Paused before after := by
  obtain ⟨pauses, eq⟩ := rest
  exact ⟨ms :: pauses, by simp [eq]⟩

theorem sleepLoop_paused (sleepMs : Int) (fuel : Nat) (sleptMs : Int)
    (env : GovernanceEnv State) :
    Paused env.state (sleepLoop sleepMs fuel sleptMs env).2.state := by
  induction fuel generalizing sleptMs env with
  | zero => simpa [sleepLoop] using paused_refl env.state
  | succ fuel ih =>
    simp only [sleepLoop]
    split
    · simpa using paused_refl env.state
    · split
      · simpa using paused_refl env.state
      · split
        · have rest := ih (sleptMs + min 10 (sleepMs - sleptMs))
            (emit env.deadlineExceeded.2 (.sleepFor (min 10 (sleepMs - sleptMs))))
          exact paused_sleep _ (by simpa [emit] using rest)
        · rename_i d _
          split
          · simpa using paused_refl env.state
          · have rest := ih
              (sleptMs + min (min 10 (sleepMs - sleptMs))
                (d.remainingMs env.deadlineExceeded.2.now))
              (emit env.deadlineExceeded.2.tick (.sleepFor
                (min (min 10 (sleepMs - sleptMs)) (d.remainingMs env.deadlineExceeded.2.now))))
            exact paused_sleep _ (by simpa [emit] using rest)

theorem sleep_paused (sleepMs : Int) (env : GovernanceEnv State) :
    Paused env.state (sleepUntilReadyOrDeadline sleepMs env).2.state := by
  unfold sleepUntilReadyOrDeadline
  split
  · simpa using paused_refl env.state
  · exact sleepLoop_paused sleepMs sleepMs.toNat 0 env

/-- The inner calls of one attempt: none, or one that sees the breaker entry s. -/
def InnerCall (upstream : Bytes) (s : CircuitBreakerRuntimeState) (calls : List GovernanceEvent) :
    Prop :=
  calls = [] ∨ ∃ now, calls = [.innerForward upstream s now]

theorem callOnce_trace (inner : UpstreamClient State) (ctx : ForwardContext)
    (env : GovernanceEnv State) :
    ∃ (pauses : List Int) (calls : List GovernanceEvent),
      InnerCall ctx.upstream (stateOf env.state.circuitStates ctx.upstream) calls ∧
      (callOnce inner ctx env).2.state.circuitStates = env.state.circuitStates ∧
      (callOnce inner ctx env).2.state.trace = env.state.trace ++
        .callOnce :: (pauses.map GovernanceEvent.sleepFor ++ calls) := by
  have slept : ∀ env' : GovernanceEnv State, Paused (emit env .callOnce).state env'.state →
      ∃ pauses : List Int, env'.state.circuitStates = env.state.circuitStates ∧
        env'.state.trace =
          env.state.trace ++ .callOnce :: pauses.map GovernanceEvent.sleepFor := by
    rintro env' ⟨pauses, eq⟩
    exact ⟨pauses, by simp [eq], by simp [eq]⟩
  unfold callOnce
  simp only
  generalize sleep : (if 0 < headerToInt ctx.headers (bytes "X-Debug-Sleep-Ms") 0 then
    sleepUntilReadyOrDeadline (headerToInt ctx.headers (bytes "X-Debug-Sleep-Ms") 0)
      (emit env .callOnce) else (true, emit env .callOnce)) = after
  have paused : Paused (emit env .callOnce).state after.2.state := by
    subst after
    split
    · exact sleep_paused _ _
    · exact paused_refl _
  obtain ⟨pauses, states, trace⟩ := slept after.2 paused
  split
  · split
    · exact ⟨pauses, [], Or.inl rfl, by simp [states], by simp [trace]⟩
    · split
      · exact ⟨pauses, [], Or.inl rfl, by simp [states], by simp [trace]⟩
      · refine ⟨pauses, [.innerForward ctx.upstream (stateOf env.state.circuitStates ctx.upstream)
          after.2.deadlineExceeded.2.now], Or.inr ⟨_, rfl⟩, ?_, ?_⟩
        · simp [innerForward, states]
        · simp only [innerForward, emit_trace, Env.deadlineExceeded_state, states, trace]
          simp
  · exact ⟨pauses, [], Or.inl rfl, by simp [states], by simp [trace]⟩

/-- One attempt: the breaker entry moves from s to t while the events are appended. -/
structure Round (config : GovernanceConfig) (upstream : Bytes) (s : CircuitBreakerRuntimeState)
    (response : HttpResponse) (events : List GovernanceEvent) (t : CircuitBreakerRuntimeState) :
    Prop where
  entry : ∃ now, t = if config.circuitBreaker.enabled then
    recordState config.circuitBreaker (!isFailureResponse response) now s else s
  shape : ∃ (pauses : List Int) (calls : List GovernanceEvent), InnerCall upstream s calls ∧
    events = .callOnce :: (pauses.map GovernanceEvent.sleepFor ++ calls ++
      [.response response, .recordResult upstream (!isFailureResponse response)])

theorem record_trace (config : GovernanceConfig) (upstream : Bytes) (success : Bool)
    (env : GovernanceEnv State) :
    (record config upstream success env).state.trace =
      env.state.trace ++ [.recordResult upstream success] := by
  unfold record
  simp only
  split <;> rfl

theorem record_entry (config : GovernanceConfig) (upstream : Bytes) (success : Bool)
    (env : GovernanceEnv State) :
    ∃ now, stateOf (record config upstream success env).state.circuitStates upstream =
      if config.circuitBreaker.enabled then
        recordState config.circuitBreaker success now (stateOf env.state.circuitStates upstream)
      else stateOf env.state.circuitStates upstream := by
  refine ⟨env.now, ?_⟩
  unfold record
  by_cases enabled : config.circuitBreaker.enabled = true
  · simp [enabled, recordResult, emit, Env.now]
  · simp [enabled]

theorem runAttempt_round (inner : UpstreamClient State) (config : GovernanceConfig)
    (ctx : ForwardContext) (attempt : Int) (env : GovernanceEnv State) :
    ∃ response elapsed events,
      Round config ctx.upstream (stateOf env.state.circuitStates ctx.upstream) response events
        (stateOf (runAttempt inner config ctx attempt env).2.state.circuitStates ctx.upstream) ∧
      (runAttempt inner config ctx attempt env).1 =
        withGovernanceHeaders response attempt elapsed ∧
      (runAttempt inner config ctx attempt env).2.state.trace = env.state.trace ++ events := by
  obtain ⟨pauses, calls, single, states, trace⟩ := callOnce_trace inner ctx env.tick
  unfold runAttempt
  simp only
  generalize (elapsedMsSince env.now (callOnce inner ctx env.tick).2).1 = elapsed
  generalize timed : ((elapsedMsSince env.now (callOnce inner ctx env.tick).2).2.deadlineExceeded.1
    || decide (ctx.timeoutMs < elapsed)) = timedOut
  generalize (if timedOut = true then timeoutResponse ctx attempt
    else (callOnce inner ctx env.tick).1) = response
  generalize settled : (if timedOut = true then
    (elapsedMsSince env.now (callOnce inner ctx env.tick).2).2.deadlineExceeded.2.cancelDeadline
      (bytes "deadline exceeded")
    else (elapsedMsSince env.now (callOnce inner ctx env.tick).2).2.deadlineExceeded.2) = env'
  have same : env'.state = (callOnce inner ctx env.tick).2.state := by
    subst env'
    split <;> simp
  obtain ⟨now, entry⟩ := record_entry config ctx.upstream
    (!isFailureResponse (withGovernanceHeaders response attempt elapsed))
    (emit env' (.response response))
  refine ⟨response, elapsed, .callOnce :: (pauses.map GovernanceEvent.sleepFor ++ calls ++
    [.response response, .recordResult ctx.upstream (!isFailureResponse response)]),
    ⟨⟨now, ?_⟩, ⟨pauses, calls, single, rfl⟩⟩, rfl, ?_⟩
  · rw [entry]
    simp only [emit_circuitStates, same, states, Env.tick_state]
    rfl
  · rw [record_trace]
    simp only [emit_trace, same, trace, Env.tick_state]
    simp

/-- The attempts of one call, each started in the breaker entry the one before it left. -/
inductive Rounds (config : GovernanceConfig) (upstream : Bytes) :
    CircuitBreakerRuntimeState → List HttpResponse → List GovernanceEvent →
      CircuitBreakerRuntimeState → Prop where
  | nil (s : CircuitBreakerRuntimeState) : Rounds config upstream s [] [] s
  | cons {s t u : CircuitBreakerRuntimeState} {response : HttpResponse}
      {rest : List HttpResponse} {events later : List GovernanceEvent} (pauses : List Int)
      (first : Round config upstream s response events t)
      (tail : Rounds config upstream t rest later u) :
      Rounds config upstream s (response :: rest)
        (events ++ pauses.map GovernanceEvent.sleepFor ++ later) u

def ExitLaws (attempt : Int) (lastResponse : Option HttpResponse) (rs : List HttpResponse) :
    LoopExit → Prop
  | .returned response => ∃ failed accepted elapsed, rs = failed ++ [accepted] ∧
      (∀ r ∈ failed, 500 ≤ r.status) ∧ accepted.status < 500 ∧
      response = withGovernanceHeaders accepted (attempt + failed.length) elapsed
  | .left last => (∀ r ∈ rs, 500 ≤ r.status) ∧
      (last = lastResponse ∧ rs = [] ∨ ∃ r, last = some r ∧ 500 ≤ r.status)

structure LoopLaws (config : GovernanceConfig) (ctx : ForwardContext) (left : Nat) (attempt : Int)
    (lastResponse : Option HttpResponse) (env : GovernanceEnv State)
    (out : LoopExit × GovernanceEnv State) (rs : List HttpResponse)
    (events : List GovernanceEvent) : Prop where
  rounds : Rounds config ctx.upstream (stateOf env.state.circuitStates ctx.upstream) rs events
    (stateOf out.2.state.circuitStates ctx.upstream)
  trace : out.2.state.trace = env.state.trace ++ events
  bounded : rs.length ≤ left
  once : canRetryMethod config ctx = false → rs.length ≤ 1
  exit : ExitLaws attempt lastResponse rs out.1
  some_response : left ≠ 0 → out.1 ≠ .left none

theorem timeoutResponse_fails (ctx : ForwardContext) (attempt : Int) :
    500 ≤ (timeoutResponse ctx attempt).status := by
  simp [timeoutResponse, buildErrorResponse]

section attempt
variable {config : GovernanceConfig} {ctx : ForwardContext} (left : Nat) (attempt : Int)
  (lastResponse : Option HttpResponse) {env tried paused : GovernanceEnv State}
  {response : HttpResponse} {events : List GovernanceEvent}
  (round : Round config ctx.upstream (stateOf env.state.circuitStates ctx.upstream) response
    events (stateOf tried.state.circuitStates ctx.upstream))
  (trace : tried.state.trace = env.state.trace ++ events)
include round trace

theorem laws_accept {elapsed : Int} (accepted : response.status < 500) :
    LoopLaws config ctx (left + 1) attempt lastResponse env
      (.returned (withGovernanceHeaders response attempt elapsed), tried) [response] events where
  rounds := by simpa using Rounds.cons [] round (Rounds.nil _)
  trace := trace
  bounded := by simp
  once := by simp
  exit := ⟨[], response, elapsed, rfl, by simp, accepted, by simp⟩
  some_response := by simp

variable (pause : Paused tried.state paused.state) (failed : 500 ≤ response.status)
include pause failed

theorem laws_stop {last : HttpResponse} (lastFails : 500 ≤ last.status) :
    ∃ events, LoopLaws config ctx (left + 1) attempt lastResponse env
      (.left (some last), paused) [response] events := by
  obtain ⟨pauses, eq⟩ := pause
  have rounds := Rounds.cons pauses round (Rounds.nil _)
  refine ⟨_, by simpa [eq] using rounds, by simp [eq, trace], by simp, by simp, ?_, by simp⟩
  exact ⟨by simpa using failed, Or.inr ⟨last, rfl, lastFails⟩⟩

theorem laws_retry {out : LoopExit × GovernanceEnv State} {rs : List HttpResponse}
    {later : List GovernanceEvent} {stamped : HttpResponse} (stampedFails : 500 ≤ stamped.status)
    (retry : canRetryMethod config ctx = true)
    (rest : LoopLaws config ctx left (attempt + 1) (some stamped) paused out rs later) :
    ∃ events, LoopLaws config ctx (left + 1) attempt lastResponse env out (response :: rs)
      events := by
  obtain ⟨pauses, eq⟩ := pause
  have entry : stateOf paused.state.circuitStates ctx.upstream =
      stateOf tried.state.circuitStates ctx.upstream := by simp [eq]
  have rounds := rest.rounds
  rw [entry] at rounds
  refine ⟨_, Rounds.cons pauses round rounds, ?_, ?_, ?_, ?_, ?_⟩
  · simp [rest.trace, eq, trace]
  · have bound := rest.bounded
    simp only [List.length_cons]
    omega
  · simp [retry]
  · have exit := rest.exit
    cases shape : out.1 with
    | returned rsp =>
      rw [shape] at exit
      obtain ⟨init, accepted, elapsed, split, all, small, same⟩ := exit
      refine ⟨response :: init, accepted, elapsed, by simp [split], ?_, small, ?_⟩
      · simpa [failed] using all
      · rw [same]
        congr 1
        simp only [List.length_cons]
        omega
    | left last =>
      rw [shape] at exit
      obtain ⟨all, ends⟩ := exit
      refine ⟨by simpa [failed] using all, Or.inr ?_⟩
      rcases ends with ⟨rfl, _⟩ | found
      · exact ⟨stamped, rfl, stampedFails⟩
      · exact found
  · intro _ none
    have exit := rest.exit
    rw [none] at exit
    rcases exit.2 with ⟨bad, _⟩ | ⟨r, bad, _⟩
    · simp at bad
    · simp at bad

end attempt

/-- The whole loop, by induction on the attempts still allowed. -/
theorem forwardLoop_laws (inner : UpstreamClient State) (config : GovernanceConfig)
    (ctx : ForwardContext) (maxAttempts : Int) (left : Nat) (attempt : Int)
    (lastResponse : Option HttpResponse) (env : GovernanceEnv State) :
    ∃ rs events, LoopLaws config ctx left attempt lastResponse env
      (forwardLoop inner config ctx maxAttempts left attempt lastResponse env) rs events := by
  induction left generalizing attempt lastResponse env with
  | zero =>
    exact ⟨[], [], Rounds.nil _, by simp [forwardLoop], by simp, by simp,
      ⟨by simp, Or.inl ⟨rfl, rfl⟩⟩, by simp⟩
  | succ left ih =>
    obtain ⟨response, elapsed, events, round, stamped, trace⟩ :=
      runAttempt_round inner config ctx attempt env.deadlineExceeded.2
    rw [Env.deadlineExceeded_state] at round trace
    simp only [forwardLoop, stamped, isFailureResponse_stamped]
    split
    · exact ⟨[], [], by simpa using Rounds.nil _, by simp, by simp, by simp,
        ⟨by simp, Or.inr ⟨_, rfl, timeoutResponse_fails ctx attempt⟩⟩, by simp⟩
    · split
      · rename_i accepted
        have small := (isFailureResponse_false_iff response).mp (by simpa using accepted)
        exact ⟨[response], events, laws_accept left attempt lastResponse round trace small⟩
      · rename_i refused
        have failed := (isFailureResponse_iff response).mp (by simpa using refused)
        split
        · obtain ⟨all, laws⟩ := laws_stop left attempt lastResponse round trace (paused_refl _)
            failed (show 500 ≤ (withGovernanceHeaders response attempt elapsed).status from failed)
          exact ⟨_, all, laws⟩
        · rename_i again
          have retry : canRetryMethod config ctx = true := by
            cases h : canRetryMethod config ctx <;> simp_all
          split
          · have pause := sleep_paused config.retry.backoffMs
              (runAttempt inner config ctx attempt env.deadlineExceeded.2).2
            split
            · obtain ⟨rs, later, rest⟩ := ih (attempt + 1)
                (some (withGovernanceHeaders response attempt elapsed))
                (sleepUntilReadyOrDeadline config.retry.backoffMs
                  (runAttempt inner config ctx attempt env.deadlineExceeded.2).2).2
              obtain ⟨all, laws⟩ := laws_retry left attempt lastResponse round trace pause failed
                (by simpa using failed) retry rest
              exact ⟨_, all, laws⟩
            · obtain ⟨all, laws⟩ := laws_stop left attempt lastResponse round trace pause failed
                (timeoutResponse_fails ctx attempt)
              exact ⟨_, all, laws⟩
          · obtain ⟨rs, later, rest⟩ := ih (attempt + 1)
              (some (withGovernanceHeaders response attempt elapsed))
              (runAttempt inner config ctx attempt env.deadlineExceeded.2).2
            obtain ⟨all, laws⟩ := laws_retry left attempt lastResponse round trace
              (paused_refl _) failed (by simpa using failed) retry rest
            exact ⟨_, all, laws⟩

end TgwForwardRuns
