import TgwGateway.Governance.ForwardRuns

/- Attempts, recorded results and the returned response of one Forward call. -/
namespace TgwForwardLaws
open ByteStrings TgwClock TgwConfig TgwStatus TgwHttp TgwCircuitBreaker TgwGovernance TgwForwardRuns
variable {State : Type}

def isAttemptEvent : GovernanceEvent → Bool
  | .callOnce | .response _ | .recordResult _ _ => true
  | _ => false

def attemptEvents (upstream : Bytes) (response : HttpResponse) : List GovernanceEvent :=
  [.callOnce, .response response, .recordResult upstream (response.status < 500)]

structure AttemptLaws (config : GovernanceConfig) (ctx : ForwardContext)
    (rs : List HttpResponse) (events : List GovernanceEvent) (returned : HttpResponse) :
    Prop where
  recorded_once : events.filter isAttemptEvent = rs.flatMap (attemptEvents ctx.upstream)
  attempts_bounded : (rs.length : Int) ≤
    if config.retry.enabled then max 1 config.retry.maxAttempts else 1
  sent_once : ctx.method ∉ [bytes "GET", bytes "HEAD", bytes "OPTIONS"] →
    config.retry.retryNonIdempotent = false → rs.length ≤ 1
  retried_failures : ∀ r ∈ rs.dropLast, 500 ≤ r.status
  accepted : ∀ r, rs.find? (fun r => r.status < 500) = some r →
    ∃ elapsed, returned = withGovernanceHeaders r rs.length elapsed
  degraded : rs.find? (fun r => r.status < 500) = none → config.fallback.enabled = true →
    ∃ reason, returned = fallbackResponse config ctx reason
  failed : rs.find? (fun r => r.status < 500) = none → config.fallback.enabled = false →
    500 ≤ returned.status
  fallback_hides_failures : config.fallback.enabled = true → returned.status < 500

theorem round_attempt {config : GovernanceConfig} {upstream : Bytes}
    {s t : CircuitBreakerRuntimeState} {response : HttpResponse} {events : List GovernanceEvent}
    (round : Round config upstream s response events t) :
    events.filter isAttemptEvent = attemptEvents upstream response := by
  obtain ⟨pauses, calls, single, rfl⟩ := round.shape
  have recorded : (!isFailureResponse response) = decide (response.status < 500) := by
    cases failure : isFailureResponse response with
    | true =>
      have := (isFailureResponse_iff response).mp failure
      simp only [Bool.not_true]
      exact (decide_eq_false (by omega)).symm
    | false => simpa using (isFailureResponse_false_iff response).mp failure
  have quiet : (pauses.map GovernanceEvent.sleepFor).filter isAttemptEvent = [] := by
    simp [List.filter_eq_nil_iff, isAttemptEvent]
  have called : calls.filter isAttemptEvent = [] := by
    rcases single with rfl | ⟨now, rfl⟩
    · rfl
    · simp [isAttemptEvent]
  rw [List.filter_cons_of_pos (by rfl), List.filter_append, List.filter_append, quiet, called,
    recorded]
  rfl

theorem rounds_attempts {config : GovernanceConfig} {upstream : Bytes}
    {s t : CircuitBreakerRuntimeState} {rs : List HttpResponse} {events : List GovernanceEvent}
    (rounds : Rounds config upstream s rs events t) :
    events.filter isAttemptEvent = rs.flatMap (attemptEvents upstream) := by
  induction rounds with
  | nil s => rfl
  | cons pauses first tail ih =>
    have quiet : (pauses.map GovernanceEvent.sleepFor).filter isAttemptEvent = [] := by
      simp [List.filter_eq_nil_iff, isAttemptEvent]
    rw [List.filter_append, List.filter_append, round_attempt first, quiet, ih]
    simp

theorem attemptLimit_eq (config : GovernanceConfig) :
    attemptLimit config = if config.retry.enabled then max 1 config.retry.maxAttempts else 1 := by
  unfold attemptLimit
  split <;> simp only [] <;> split <;> omega

theorem attemptLimit_pos (config : GovernanceConfig) : 0 < attemptLimit config := by
  rw [attemptLimit_eq]
  split <;> omega

theorem fallbackResponse_status (config : GovernanceConfig) (ctx : ForwardContext)
    (reason : Bytes) : (fallbackResponse config ctx reason).status = 200 := rfl

theorem no_accepted {rs : List HttpResponse} (all : ∀ r ∈ rs, 500 ≤ r.status) :
    rs.find? (fun r => r.status < 500) = none := by
  rw [List.find?_eq_none]
  intro r member
  have := all r member
  simpa using this

theorem refused_laws (config : GovernanceConfig) (ctx : ForwardContext) :
    AttemptLaws config ctx [] [.allowRequest ctx.upstream false]
      (circuitOpenResponse config ctx) where
  recorded_once := rfl
  attempts_bounded := by
    simp only [List.length_nil]
    split <;> omega
  sent_once := by simp
  retried_failures := by simp
  accepted := by simp
  degraded := by
    intro _ fallback
    exact ⟨bytes "circuit breaker open", by simp [circuitOpenResponse, fallback]⟩
  failed := by
    intro _ off
    simp [circuitOpenResponse, off, buildErrorResponse]
  fallback_hides_failures := by
    intro fallback
    simp [circuitOpenResponse, fallback, fallbackResponse_status]

/-- The response of an admitted call, from the way its loop ended. -/
def settle (config : GovernanceConfig) (ctx : ForwardContext) : LoopExit → HttpResponse
  | .returned response => response
  | .left none => buildErrorResponse 500 .internalError
      (bytes "governance call produced no response") ctx.requestId
  | .left (some last) =>
    if isFailureResponse last && config.fallback.enabled then
      fallbackResponse config ctx (bytes "all retry attempts failed")
    else last

theorem settled_laws {config : GovernanceConfig} {ctx : ForwardContext} {left : Nat}
    {env : GovernanceEnv State} {out : LoopExit × GovernanceEnv State} {rs : List HttpResponse}
    {events : List GovernanceEvent} (limit : (left : Int) = attemptLimit config)
    (laws : LoopLaws config ctx left 1 none env out rs events) :
    AttemptLaws config ctx rs (.allowRequest ctx.upstream true :: events)
      (settle config ctx out.1) := by
  have recorded : (GovernanceEvent.allowRequest ctx.upstream true :: events).filter
      isAttemptEvent = rs.flatMap (attemptEvents ctx.upstream) := by
    rw [List.filter_cons_of_neg (by simp [isAttemptEvent])]
    exact rounds_attempts laws.rounds
  have bounded : (rs.length : Int) ≤
      if config.retry.enabled then max 1 config.retry.maxAttempts else 1 := by
    have := laws.bounded
    rw [← attemptLimit_eq]
    omega
  have once : ctx.method ∉ [bytes "GET", bytes "HEAD", bytes "OPTIONS"] →
      config.retry.retryNonIdempotent = false → rs.length ≤ 1 := by
    intro method off
    apply laws.once
    simp only [List.mem_cons, List.not_mem_nil, or_false, not_or] at method
    simp [canRetryMethod, isIdempotentMethod, off, method]
  have exit := laws.exit
  cases shape : out.1 with
  | returned response =>
    rw [shape] at exit
    obtain ⟨failed, accepted, elapsed, split, all, small, same⟩ := exit
    have found : rs.find? (fun r => r.status < 500) = some accepted := by
      rw [split, List.find?_append, no_accepted all]
      simp [small]
    refine ⟨recorded, bounded, once, by simpa [split] using all, ?_, by simp [found],
      by simp [found], ?_⟩
    · intro r isFirst
      obtain rfl : accepted = r := by simpa [found] using isFirst
      refine ⟨elapsed, ?_⟩
      simp only [settle, same, split, List.length_append, List.length_singleton]
      congr 1
      omega
    · intro _
      simpa [settle, same] using small
  | left last =>
    rw [shape] at exit
    obtain ⟨all, ends⟩ := exit
    have missing : left ≠ 0 := by
      have := attemptLimit_pos config
      omega
    have lastFails : ∃ r, last = some r ∧ 500 ≤ r.status := by
      rcases ends with ⟨rfl, _⟩ | found
      · exact absurd shape (laws.some_response missing)
      · exact found
    obtain ⟨r, rfl, large⟩ := lastFails
    have failure := (isFailureResponse_iff r).mpr large
    refine ⟨recorded, bounded, once, fun r member => all r (List.dropLast_subset rs member),
      by simp [no_accepted all], ?_, ?_, ?_⟩
    · intro _ fallback
      exact ⟨bytes "all retry attempts failed", by simp [settle, failure, fallback]⟩
    · intro _ off
      simpa [settle, failure, off] using large
    · intro fallback
      simp [settle, failure, fallback, fallbackResponse_status]

theorem admission_trace (config : GovernanceConfig) (upstream : Bytes) (env : GovernanceEnv State) :
    (admission config upstream env).2.state.trace =
      env.state.trace ++ [.allowRequest upstream (admission config upstream env).1] := by
  unfold admission
  split <;> rfl

theorem forward_eq (inner : UpstreamClient State) (config : GovernanceConfig)
    (ctx : ForwardContext) (env : GovernanceEnv State) (enabled : config.enabled = true) :
    forward inner config ctx env =
      if (admission config ctx.upstream env).1 then
        let exit := forwardLoop inner config ctx (attemptLimit config)
          (attemptLimit config).toNat 1 none (admission config ctx.upstream env).2
        (settle config ctx exit.1, exit.2)
      else (circuitOpenResponse config ctx, (admission config ctx.upstream env).2) := by
  simp only [forward, enabled, ↓reduceIte]
  split
  · generalize forwardLoop inner config ctx (attemptLimit config) (attemptLimit config).toNat 1
      none (admission config ctx.upstream env).2 = exit
    obtain ⟨way, env'⟩ := exit
    cases way with
    | returned response => rfl
    | left last =>
      cases last with
      | none => rfl
      | some last =>
        simp only [settle]
        split <;> rfl
  · rfl

theorem attempts_and_response (inner : UpstreamClient State) (config : GovernanceConfig)
    (ctx : ForwardContext) (env : GovernanceEnv State) (enabled : config.enabled = true) :
    ∃ rs events,
      (forward inner config ctx env).2.state.trace = env.state.trace ++ events ∧
      AttemptLaws config ctx rs events (forward inner config ctx env).1 := by
  have trace := admission_trace config ctx.upstream env
  have limit := attemptLimit_pos config
  rw [forward_eq inner config ctx env enabled]
  cases admitted : (admission config ctx.upstream env).1 with
  | false =>
    rw [admitted] at trace
    exact ⟨[], _, by simpa using trace, by simpa using refused_laws config ctx⟩
  | true =>
    obtain ⟨rs, events, laws⟩ := forwardLoop_laws inner config ctx (attemptLimit config)
      (attemptLimit config).toNat 1 none (admission config ctx.upstream env).2
    refine ⟨rs, .allowRequest ctx.upstream true :: events, ?_, ?_⟩
    · simp [laws.trace, trace, admitted]
    · simpa using settled_laws (by omega) laws

/-- A GET whose two attempts both meet a failing server ends in the fallback. -/
theorem attempts_and_response_failing_get :
    let inner : UpstreamClient Unit := fun _ env => ({ status := 503 }, env)
    let ctx : ForwardContext := { method := bytes "GET", upstream := bytes "user_service" }
    let env := freshClient (ticking 1000) (stopped 0) ()
    ∃ rs events,
      (forward inner {} ctx env).2.state.trace = env.state.trace ++ events ∧
      AttemptLaws {} ctx rs events (forward inner {} ctx env).1 :=
  attempts_and_response _ {} _ _ rfl

end TgwForwardLaws
