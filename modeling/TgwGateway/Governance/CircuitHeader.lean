import TgwGateway.Governance.OpenCalls
import Mathlib.Data.List.Induction

/- When the header X-Circuit-State: open tells the truth. Two builders write it: the one for a
   rejected call, and the fallback that also follows failed attempts, whatever the breaker says. -/
namespace TgwCircuitHeader
open ByteStrings DecimalText TgwClock TgwConfig TgwStatus TgwHttp TgwCircuitBreaker TgwGovernance
open TgwForwardRuns TgwForwardLaws
variable {State : Type}

def CarriesOpen (rsp : HttpResponse) : Prop :=
  rsp.headers[bytes "X-Circuit-State"]? = some (bytes "open")

/-- The responses that the client builds itself, the last two of them for one attempt. -/
inductive LayerBuilt (config : GovernanceConfig) (ctx : ForwardContext) : HttpResponse → Prop where
  | circuitOpen : LayerBuilt config ctx (circuitOpenResponse config ctx)
  | fallback (reason : Bytes) : LayerBuilt config ctx (fallbackResponse config ctx reason)
  | timeout (attempt : Int) : LayerBuilt config ctx (timeoutResponse ctx attempt)
  | noResponse : LayerBuilt config ctx (buildErrorResponse 500 .internalError
      (bytes "governance call produced no response") ctx.requestId)
  | timedOut (named attempt elapsedMs : Int) : LayerBuilt config ctx
      (withGovernanceHeaders (timeoutResponse ctx named) attempt elapsedMs)
  | forced (status attempt elapsedMs : Int) : LayerBuilt config ctx
      (withGovernanceHeaders ((buildErrorResponse status .rpcFailed
        (bytes "debug forced upstream failure") ctx.requestId).setHeader
          (bytes "X-Debug-Forced") (bytes "true")) attempt elapsedMs)

section calls
variable (inner : UpstreamClient State) (config : GovernanceConfig) (ctx : ForwardContext)
  (env : GovernanceEnv State)

def entryAfter : CircuitBreakerRuntimeState :=
  stateOf (forward inner config ctx env).2.state.circuitStates ctx.upstream

/-- A response that the client has built says open only while the breaker is open. -/
def HonestCall : Prop :=
  config.enabled = true → LayerBuilt config ctx (forward inner config ctx env).1 →
    CarriesOpen (forward inner config ctx env).1 → (entryAfter inner config ctx env).state = .opened

def responsesIn (events : List GovernanceEvent) : List HttpResponse :=
  events.filterMap fun
    | .response response => some response
    | _ => none

def attempts : List HttpResponse :=
  responsesIn ((forward inner config ctx env).2.state.trace.drop env.state.trace.length)

/-- Whether failed attempts open a breaker with the entry s before the call. -/
def Trips (config : GovernanceConfig) (s : CircuitBreakerRuntimeState) (failures : Nat) : Prop :=
  config.circuitBreaker.enabled = true ∧ 0 < failures ∧
    (s.state ≠ .closed ∨ config.circuitBreaker.failureThreshold ≤ s.consecutiveFailures + failures)

/-- An admitted call falls back although its failures do not open the breaker. -/
structure FalseAlarm : Prop where
  governed : config.enabled = true
  degrades : config.fallback.enabled = true
  admitted : (admission config ctx.upstream env).1 = true
  all_failed : ∀ r ∈ attempts inner config ctx env, 500 ≤ r.status
  untripped : ¬ Trips config (stateOf env.state.circuitStates ctx.upstream)
    (attempts inner config ctx env).length

def entering (calls : List ForwardContext) : GovernanceEnv State :=
  { runForwards inner config calls env with deadline := ctx.deadline }

def HonestRun (calls : List ForwardContext) : Prop :=
  ∀ earlier ctx later, calls = earlier ++ ctx :: later →
    HonestCall inner config ctx (entering inner config ctx env earlier)

end calls

section headers
variable {config : GovernanceConfig} {ctx : ForwardContext}

theorem stamped_attempt (rsp : HttpResponse) (attempt elapsedMs : Int) :
    (withGovernanceHeaders rsp attempt elapsedMs).headers[bytes "X-Governance-Attempt"]? =
      some (intText attempt) := by
  have other : bytes "X-Governance-Elapsed-Ms" ≠ bytes "X-Governance-Attempt" := by decide
  simp only [withGovernanceHeaders, HttpResponse.setHeader]
  rw [Std.ExtTreeMap.getElem?_insert]
  simp [other]

theorem timeout_attempt (ctx : ForwardContext) (attempt : Int) :
    (timeoutResponse ctx attempt).headers[bytes "X-Governance-Attempt"]? =
      some (intText attempt) := by
  simp [timeoutResponse, HttpResponse.setHeader]

theorem fallback_unstamped (config : GovernanceConfig) (ctx : ForwardContext) (reason : Bytes) :
    (fallbackResponse config ctx reason).headers[bytes "X-Governance-Attempt"]? = none := by
  have first : bytes "X-Request-Id" ≠ bytes "X-Governance-Attempt" := by decide
  have second : bytes "X-Governance-Fallback" ≠ bytes "X-Governance-Attempt" := by decide
  have third : bytes "X-Circuit-State" ≠ bytes "X-Governance-Attempt" := by decide
  simp [fallbackResponse, first, second, third]

/-- Of the responses that the client builds, those with the header carry no attempt. -/
theorem open_unstamped {rsp : HttpResponse} (built : LayerBuilt config ctx rsp)
    (isOpen : CarriesOpen rsp) : rsp.headers[bytes "X-Governance-Attempt"]? = none := by
  have request : bytes "X-Request-Id" ≠ bytes "X-Circuit-State" := by decide
  have timeout : bytes "X-Governance-Timeout" ≠ bytes "X-Circuit-State" := by decide
  have attempt : bytes "X-Governance-Attempt" ≠ bytes "X-Circuit-State" := by decide
  have elapsed : bytes "X-Governance-Elapsed-Ms" ≠ bytes "X-Circuit-State" := by decide
  have forced : bytes "X-Debug-Forced" ≠ bytes "X-Circuit-State" := by decide
  cases built with
  | circuitOpen =>
    unfold circuitOpenResponse
    split
    · exact fallback_unstamped config ctx _
    · have first : bytes "X-Request-Id" ≠ bytes "X-Governance-Attempt" := by decide
      have second : bytes "X-Circuit-State" ≠ bytes "X-Governance-Attempt" := by decide
      simp [buildErrorResponse, HttpResponse.setHeader, first, second]
  | fallback reason => exact fallback_unstamped config ctx reason
  | timeout named =>
    simp [CarriesOpen, timeoutResponse, buildErrorResponse, HttpResponse.setHeader, request,
      timeout, attempt] at isOpen
  | noResponse => simp [CarriesOpen, buildErrorResponse, request] at isOpen
  | timedOut named number ms =>
    simp [CarriesOpen, withGovernanceHeaders, timeoutResponse, buildErrorResponse,
      HttpResponse.setHeader, request, timeout, attempt, elapsed] at isOpen
  | forced status number ms =>
    simp [CarriesOpen, withGovernanceHeaders, buildErrorResponse, HttpResponse.setHeader,
      request, attempt, elapsed, forced] at isOpen

theorem fallback_open (config : GovernanceConfig) (ctx : ForwardContext) (reason : Bytes) :
    CarriesOpen (fallbackResponse config ctx reason) := by
  simp [CarriesOpen, fallbackResponse]

end headers

section loop
variable {config : GovernanceConfig}

theorem round_responses {upstream : Bytes} {s t : CircuitBreakerRuntimeState}
    {response : HttpResponse} {events : List GovernanceEvent}
    (round : Round config upstream s response events t) : responsesIn events = [response] := by
  obtain ⟨pauses, calls, single, rfl⟩ := round.shape
  rcases single with rfl | ⟨now, rfl⟩ <;> simp [responsesIn]

theorem rounds_responses {upstream : Bytes} {s t : CircuitBreakerRuntimeState}
    {rs : List HttpResponse} {events : List GovernanceEvent}
    (rounds : Rounds config upstream s rs events t) : responsesIn events = rs := by
  induction rounds with
  | nil s => rfl
  | cons pauses first tail ih =>
    have quiet : responsesIn (pauses.map GovernanceEvent.sleepFor) = [] := by
      simp [responsesIn]
    have split : ∀ xs ys, responsesIn (xs ++ ys) = responsesIn xs ++ responsesIn ys := by
      intro xs ys
      exact List.filterMap_append
    rw [split, split, round_responses first, quiet, ih]
    rfl

theorem failure_entry (config : CircuitBreakerConfig) (now : Int)
    (s : CircuitBreakerRuntimeState) :
    (recordState config false now s).consecutiveFailures = s.consecutiveFailures + 1 ∧
      ((recordState config false now s).state = .opened ↔ s.state ≠ .closed ∨
        config.failureThreshold ≤ s.consecutiveFailures + 1) ∧
      (recordState config false now s).state ≠ .halfOpen := by
  rcases recordState_cases config false now s with ⟨bad, _⟩ | ⟨bad, _⟩ | ⟨bad, _⟩ |
    ⟨_, trips, run⟩ | ⟨_, notHalf, below, run⟩
  · cases bad
  · cases bad
  · cases bad
  · rw [run]
    refine ⟨rfl, ?_, by simp⟩
    simp only [true_iff]
    rcases trips with half | reached
    · exact Or.inl (by simp [half])
    · exact Or.inr reached
  · rw [run]
    refine ⟨rfl, ?_, notHalf⟩
    cases state : s.state with
    | closed => simp [below]
    | opened => simp
    | halfOpen => exact absurd state notHalf

/-- Failed attempts, by induction on them: the failures add up, and the entry is open once they
    have opened it. -/
theorem rounds_failed {upstream : Bytes} {s t : CircuitBreakerRuntimeState}
    {rs : List HttpResponse} {events : List GovernanceEvent}
    (breaker : config.circuitBreaker.enabled = true)
    (rounds : Rounds config upstream s rs events t) (failed : ∀ r ∈ rs, 500 ≤ r.status)
    (some_attempt : rs ≠ []) :
    t.state = .opened ↔ s.state ≠ .closed ∨
      config.circuitBreaker.failureThreshold ≤ s.consecutiveFailures + rs.length := by
  induction rounds with
  | nil s => exact absurd rfl some_attempt
  | @cons s u t response rest events later pauses first tail ih =>
    obtain ⟨now, entry⟩ := first.entry
    have failure : isFailureResponse response = true :=
      (isFailureResponse_iff response).mpr (failed response List.mem_cons_self)
    rw [if_pos breaker, failure, Bool.not_true] at entry
    obtain ⟨count, opens, notHalf⟩ := failure_entry config.circuitBreaker now s
    rw [← entry] at count opens notHalf
    cases rest with
    | nil =>
      cases tail
      simpa using opens
    | cons next rest =>
      rw [ih (fun r member => failed r (List.mem_cons_of_mem response member)) (by simp), count]
      have reached : u.state ≠ .closed ↔ s.state ≠ .closed ∨
          config.circuitBreaker.failureThreshold ≤ s.consecutiveFailures + 1 := by
        rw [← opens]
        cases state : u.state with
        | closed => simp
        | opened => simp
        | halfOpen => exact absurd state notHalf
      rw [reached]
      simp only [List.length_cons, Int.natCast_add, Int.natCast_one, or_assoc]
      refine or_congr_right ?_
      omega

section disabled
variable (inner : UpstreamClient State) (ctx : ForwardContext)
  (breaker : config.circuitBreaker.enabled = false)
include breaker

theorem runAttempt_disabled (attempt : Int) (env : GovernanceEnv State) :
    (runAttempt inner config ctx attempt env).2.state.circuitStates = env.state.circuitStates := by
  obtain ⟨_, _, _, states, _⟩ := callOnce_trace inner ctx env.tick
  simp only [runAttempt, record, breaker, Bool.false_eq_true, ↓reduceIte, emit_circuitStates]
  split <;> simp [states]

theorem forwardLoop_disabled (maxAttempts : Int) (left : Nat) (attempt : Int)
    (lastResponse : Option HttpResponse) (env : GovernanceEnv State) :
    (forwardLoop inner config ctx maxAttempts left attempt lastResponse env).2.state.circuitStates =
      env.state.circuitStates := by
  induction left generalizing attempt lastResponse env with
  | zero => rfl
  | succ left ih =>
    have tried := runAttempt_disabled inner ctx breaker attempt env.deadlineExceeded.2
    rw [Env.deadlineExceeded_state] at tried
    obtain ⟨pauses, slept⟩ := sleep_paused config.retry.backoffMs
      (runAttempt inner config ctx attempt env.deadlineExceeded.2).2
    simp only [forwardLoop]
    split
    · simp
    · split
      · exact tried
      · split
        · exact tried
        · split
          · split
            · rw [ih, slept]
              exact tried
            · simp only [slept]
              exact tried
          · rw [ih]
            exact tried

theorem forward_disabled (env : GovernanceEnv State) :
    (forward inner config ctx env).2.state.circuitStates = env.state.circuitStates := by
  cases governed : config.enabled with
  | false => simp [forward, governed, innerForward]
  | true =>
    have admitted : (admission config ctx.upstream env).1 = true := by simp [admission, breaker]
    rw [forward_eq inner config ctx env governed, if_pos admitted]
    simp only [forwardLoop_disabled inner ctx breaker]
    simp [admission, breaker]

end disabled

theorem forwardLoop_last (inner : UpstreamClient State) (config : GovernanceConfig)
    (ctx : ForwardContext) (maxAttempts : Int) (left : Nat) (attempt : Int)
    (lastResponse : Option HttpResponse) (env : GovernanceEnv State)
    (held : ∀ r, lastResponse = some r → r.headers[bytes "X-Governance-Attempt"]? ≠ none)
    {last : HttpResponse}
    (ends : (forwardLoop inner config ctx maxAttempts left attempt lastResponse env).1 =
      .left (some last)) : last.headers[bytes "X-Governance-Attempt"]? ≠ none := by
  induction left generalizing attempt lastResponse env with
  | zero =>
    simp only [forwardLoop, LoopExit.left.injEq] at ends
    exact held last ends
  | succ left ih =>
    have stamped : ∀ r, some (runAttempt inner config ctx attempt env.deadlineExceeded.2).1 = some r →
        r.headers[bytes "X-Governance-Attempt"]? ≠ none := by
      rintro _ ⟨⟩
      simp [runAttempt, stamped_attempt]
    have timeout : (timeoutResponse ctx attempt).headers[bytes "X-Governance-Attempt"]? ≠ none := by
      simp [timeout_attempt]
    simp only [forwardLoop] at ends
    split at ends
    · cases ends
      exact timeout
    · split at ends
      · cases ends
      · split at ends
        · cases ends
          exact stamped _ rfl
        · split at ends
          · split at ends
            · exact ih (attempt + 1) _ _ stamped ends
            · cases ends
              exact timeout
          · exact ih (attempt + 1) _ _ stamped ends

end loop

section call
variable {inner : UpstreamClient State} {config : GovernanceConfig} {ctx : ForwardContext}
  {env : GovernanceEnv State}

theorem rejected_open (rejected : (admission config ctx.upstream env).1 = false) :
    (stateOf (admission config ctx.upstream env).2.state.circuitStates ctx.upstream).state =
      .opened := by
  unfold admission at rejected ⊢
  split at rejected
  · rename_i breaker
    simp only [breaker, ↓reduceIte, allowRequest, emit_circuitStates, stateOf_insert_same]
      at rejected ⊢
    rcases allowState_cases env.now (stateOf env.state.circuitStates ctx.upstream) with
      ⟨_, _, run⟩ | ⟨isOpen, _, run⟩ | ⟨_, run⟩
    · simp [run] at rejected
    · rw [run]
      exact isOpen
    · simp [run] at rejected
  · cases rejected

theorem admitted_entry (breaker : config.circuitBreaker.enabled = true)
    (admitted : (admission config ctx.upstream env).1 = true) :
    let before := stateOf env.state.circuitStates ctx.upstream
    let after := stateOf (admission config ctx.upstream env).2.state.circuitStates ctx.upstream
    after.consecutiveFailures = before.consecutiveFailures ∧
      (after.state ≠ .closed ↔ before.state ≠ .closed) := by
  simp only [admission, breaker, ↓reduceIte, allowRequest, emit_circuitStates,
    stateOf_insert_same] at admitted ⊢
  rcases allowState_cases env.now (stateOf env.state.circuitStates ctx.upstream) with
    ⟨isOpen, _, run⟩ | ⟨_, _, run⟩ | ⟨_, run⟩
  · simp [run, isOpen]
  · simp [run] at admitted
  · simp [run]

variable (governed : config.enabled = true)
include governed

theorem admitted_call (admitted : (admission config ctx.upstream env).1 = true) :
    ∃ exit events, LoopLaws config ctx (attemptLimit config).toNat 1 none
        (admission config ctx.upstream env).2 (exit, (forward inner config ctx env).2)
        (attempts inner config ctx env) events ∧
      (forward inner config ctx env).1 = settle config ctx exit ∧
      exit = (forwardLoop inner config ctx (attemptLimit config) (attemptLimit config).toNat 1 none
        (admission config ctx.upstream env).2).1 := by
  obtain ⟨rs, events, laws⟩ := forwardLoop_laws inner config ctx (attemptLimit config)
    (attemptLimit config).toNat 1 none (admission config ctx.upstream env).2
  have whole := forward_eq inner config ctx env governed
  rw [if_pos admitted] at whole
  have asked := admission_trace config ctx.upstream env
  have responses : attempts inner config ctx env = rs := by
    rw [attempts, whole, laws.trace, asked, List.append_assoc, List.drop_left]
    have logged : responsesIn events = rs := rounds_responses laws.rounds
    exact logged
  rw [responses, whole]
  exact ⟨_, events, laws, rfl, rfl⟩

variable (unused : config.circuitBreaker.enabled = false → env.state.circuitStates = ∅)

include unused in
/-- After failed attempts the breaker is open exactly when they trip it. -/
theorem failed_call_open (admitted : (admission config ctx.upstream env).1 = true)
    (failed : ∀ r ∈ attempts inner config ctx env, 500 ≤ r.status) :
    (entryAfter inner config ctx env).state = .opened ↔
      Trips config (stateOf env.state.circuitStates ctx.upstream)
        (attempts inner config ctx env).length := by
  cases breaker : config.circuitBreaker.enabled with
  | false => simp [entryAfter, forward_disabled inner ctx breaker, unused breaker, Trips, breaker]
  | true =>
    obtain ⟨exit, events, laws, _, _⟩ := @admitted_call _ inner config ctx env governed admitted
    have rounds : Rounds config ctx.upstream _ _ events (entryAfter inner config ctx env) :=
      laws.rounds
    obtain ⟨count, closed⟩ := admitted_entry breaker admitted
    have notOpen := TgwOpenCalls.admission_not_open config ctx.upstream env breaker admitted
    cases made : attempts inner config ctx env with
    | nil =>
      rw [made] at rounds
      generalize entryAfter inner config ctx env = after at rounds ⊢
      cases rounds
      simp [notOpen, Trips]
    | cons first rest =>
      have opens := rounds_failed breaker rounds failed (by simp [made])
      rw [closed, count, made] at opens
      rw [opens, Trips]
      simp [breaker]

theorem honest_of_rejected (rejected : (admission config ctx.upstream env).1 = false) :
    HonestCall inner config ctx env := by
  intro _ _ _
  rw [entryAfter, forward_eq inner config ctx env governed, rejected]
  exact rejected_open rejected

omit governed in
theorem honest_of_stamped
    (stamped : (forward inner config ctx env).1.headers[bytes "X-Governance-Attempt"]? ≠ none) :
    HonestCall inner config ctx env := by
  intro _ built isOpen
  exact absurd (open_unstamped built isOpen) stamped

include unused in
/-- A fallback after failed attempts always says open. -/
theorem fallback_honest_iff (degrades : config.fallback.enabled = true)
    (admitted : (admission config ctx.upstream env).1 = true)
    (failed : ∀ r ∈ attempts inner config ctx env, 500 ≤ r.status) {reason : Bytes}
    (answer : (forward inner config ctx env).1 = fallbackResponse config ctx reason) :
    HonestCall inner config ctx env ↔ ¬ FalseAlarm inner config ctx env := by
  have opens := @failed_call_open _ inner config ctx env governed unused admitted failed
  constructor
  · intro honest alarm
    refine alarm.untripped (opens.mp (honest governed ?_ ?_))
    · rw [answer]
      exact .fallback _
    · rw [answer]
      exact fallback_open config ctx _
  · intro quiet _ _ _
    by_contra notOpen
    exact quiet ⟨governed, degrades, admitted, failed, mt opens.mpr notOpen⟩

include unused in
theorem honest_call_iff :
    HonestCall inner config ctx env ↔ ¬ FalseAlarm inner config ctx env := by
  cases admitted : (admission config ctx.upstream env).1 with
  | false =>
    have quiet : ¬ FalseAlarm inner config ctx env := by
      intro alarm
      rw [alarm.admitted] at admitted
      cases admitted
    exact iff_of_true (honest_of_rejected governed admitted) quiet
  | true =>
    obtain ⟨exit, events, laws, response, loop⟩ :=
      @admitted_call _ inner config ctx env governed admitted
    have exits := laws.exit
    cases shape : exit with
    | returned rsp =>
      rw [shape] at exits response
      obtain ⟨failed, accepted, elapsed, split, _, small, same⟩ := exits
      have honest : HonestCall inner config ctx env := by
        refine honest_of_stamped ?_
        rw [response, settle, same, stamped_attempt]
        simp
      have quiet : ¬ FalseAlarm inner config ctx env := by
        intro alarm
        have := alarm.all_failed accepted (by simp [split])
        omega
      exact iff_of_true honest quiet
    | left last =>
      rw [shape] at exits response loop
      obtain ⟨failed, ends⟩ := exits
      have limit := attemptLimit_pos config
      obtain ⟨rsp, rfl, fails⟩ : ∃ r, last = some r ∧ 500 ≤ r.status := by
        rcases ends with ⟨rfl, _⟩ | found
        · exact absurd shape (laws.some_response (by omega))
        · exact found
      have stamped := forwardLoop_last inner config ctx _ _ _ _ _ (by simp) loop.symm
      have failure := (isFailureResponse_iff rsp).mpr fails
      cases degrades : config.fallback.enabled with
      | false =>
        have honest : HonestCall inner config ctx env := by
          refine honest_of_stamped ?_
          rw [response]
          simpa only [settle, degrades, Bool.and_false, Bool.false_eq_true, ↓reduceIte] using stamped
        have quiet : ¬ FalseAlarm inner config ctx env := by
          intro alarm
          rw [alarm.degrades] at degrades
          cases degrades
        exact iff_of_true honest quiet
      | true =>
        have answer : (forward inner config ctx env).1 =
            fallbackResponse config ctx (bytes "all retry attempts failed") := by
          rw [response, settle, failure, degrades]
          rfl
        exact fallback_honest_iff governed unused degrades admitted failed answer

end call

/-- A run from a client as it is built: every response says open truthfully exactly when no call of
    the run falls back after failures that leave the breaker shut. -/
theorem header_honest_iff (inner : UpstreamClient State) (config : GovernanceConfig)
    (calls : List ForwardContext) (steady : SteadyClock) (system : SystemClock) (shared : State) :
    HonestRun inner config (freshClient steady system shared) calls ↔
      ∀ earlier ctx later, calls = earlier ++ ctx :: later →
        ¬ FalseAlarm inner config ctx
          (entering inner config ctx (freshClient steady system shared) earlier) := by
  have unused : ∀ earlier, config.circuitBreaker.enabled = false →
      (runForwards inner config earlier (freshClient steady system shared)).state.circuitStates =
        ∅ := by
    intro earlier breaker
    induction earlier using List.reverseRecOn with
    | nil => rfl
    | append_singleton earlier ctx ih =>
      rw [runForwards, List.foldl_append, List.foldl_cons, List.foldl_nil,
        forward_disabled inner ctx breaker]
      exact ih
  unfold HonestRun
  refine forall_congr' fun earlier => forall_congr' fun ctx => forall_congr' fun later =>
    imp_congr_right fun _ => ?_
  cases governed : config.enabled with
  | true => exact honest_call_iff governed (unused earlier)
  | false =>
    refine iff_of_true (fun on => ?_) (fun alarm => ?_)
    · rw [governed] at on
      cases on
    · have on := alarm.governed
      rw [governed] at on
      cases on

section one_failure

/-- One failing call of a breaker that opens after five. -/
theorem one_failure_says_open :
    let env := freshClient (ticking 1000) (stopped 0) ()
    CarriesOpen (forward TgwOpenCalls.failingServer {} TgwOpenCalls.getUser env).1 ∧
      (entryAfter TgwOpenCalls.failingServer {} TgwOpenCalls.getUser env).state = .closed ∧
      ¬ HonestRun TgwOpenCalls.failingServer {} env [TgwOpenCalls.getUser] := by
  intro env
  have answer : (forward TgwOpenCalls.failingServer {} TgwOpenCalls.getUser env).1 =
      fallbackResponse {} TgwOpenCalls.getUser (bytes "all retry attempts failed") := by decide
  have shut : (entryAfter TgwOpenCalls.failingServer {} TgwOpenCalls.getUser env).state =
      .closed := by decide
  have opened : CarriesOpen (forward TgwOpenCalls.failingServer {} TgwOpenCalls.getUser env).1 := by
    rw [answer]
    exact fallback_open _ _ _
  refine ⟨opened, shut, fun honest => ?_⟩
  have state := honest [] TgwOpenCalls.getUser [] rfl rfl (by
    show LayerBuilt _ _ (forward TgwOpenCalls.failingServer {} TgwOpenCalls.getUser env).1
    rw [answer]
    exact .fallback _) opened
  exact absurd (shut.symm.trans state) (by decide)

end one_failure

end TgwCircuitHeader
