import TgwGateway.Common.WatchedDeadline
import TgwGateway.Governance.ForwardLaws

/- Forward of the governance client with the deadline checks on the path of one request listed. -/
namespace TgwWatchedForward
open ByteStrings WatchedRuns Watched TgwClock TgwWatchedDeadline TgwConfig TgwHttp TgwGovernance
open TgwForwardRuns TgwForwardLaws
variable {State View : Type}

abbrev WatchedClient (State : Type) := ForwardContext → Watched (Env State) HttpResponse

def readyBeforeDeadline : Watched (GovernanceEnv State) Bool := do
  return !(← check Env.deadlineExceeded)

def remainingMs (env : GovernanceEnv State) : Option Int × GovernanceEnv State :=
  match env.deadline with
  | none => (none, env)
  | some d => (some (d.remainingMs env.now), env.tick)

def sleepFor (ms : Int) : Watched (GovernanceEnv State) Unit :=
  step fun env => ((), emit env (.sleepFor ms))

def sleepLoop (sleepMs : Int) : Nat → Int → Watched (GovernanceEnv State) Bool
  | 0, _ => readyBeforeDeadline
  | fuel + 1, sleptMs =>
    if sleepMs ≤ sleptMs then readyBeforeDeadline
    else do
      if ← check Env.deadlineExceeded then
        cancel (bytes "deadline exceeded")
        return false
      else
        let stepMs := min 10 (sleepMs - sleptMs)
        match ← step remainingMs with
        | none =>
          sleepFor stepMs
          sleepLoop sleepMs fuel (sleptMs + stepMs)
        | some remainingMs =>
          if remainingMs ≤ 0 then
            cancel (bytes "deadline exceeded")
            return false
          else
            let stepMs := min stepMs remainingMs
            sleepFor stepMs
            sleepLoop sleepMs fuel (sleptMs + stepMs)

def sleepUntilReadyOrDeadline (sleepMs : Int) : Watched (GovernanceEnv State) Bool :=
  if sleepMs ≤ 0 then readyBeforeDeadline else sleepLoop sleepMs sleepMs.toNat 0

def innerForward (inner : WatchedClient State) (ctx : ForwardContext) :
    Watched (GovernanceEnv State) HttpResponse := do
  step fun env => ((), emit env (.innerForward ctx.upstream
    (TgwCircuitBreaker.stateOf env.state.circuitStates ctx.upstream) env.now))
  onState GovernanceState.inner (fun inner s => { s with inner := inner }) (inner ctx)

def debugSleep (ctx : ForwardContext) : Watched (GovernanceEnv State) Bool :=
  let debugSleepMs := headerToInt ctx.headers (bytes "X-Debug-Sleep-Ms") 0
  if 0 < debugSleepMs then sleepUntilReadyOrDeadline debugSleepMs else return true

def callOnce (inner : WatchedClient State) (ctx : ForwardContext) :
    Watched (GovernanceEnv State) HttpResponse := do
  step fun env => ((), emit env .callOnce)
  if ← debugSleep ctx then
    if ← check Env.deadlineExceeded then
      cancel (bytes "deadline exceeded")
      return timeoutResponse ctx 1
    else
      let debugForceStatus := headerToInt ctx.headers (bytes "X-Debug-Force-Status") 0
      if 500 ≤ debugForceStatus then
        return (buildErrorResponse debugForceStatus .rpcFailed
          (bytes "debug forced upstream failure") ctx.requestId).setHeader
          (bytes "X-Debug-Forced") (bytes "true")
      else innerForward inner ctx
  else return timeoutResponse ctx 1

/-- Everything between the check after the call and the next decision of the loop. -/
def finishAttempt (config : GovernanceConfig) (ctx : ForwardContext) (attempt elapsedMs : Int)
    (timedOut : Bool) (response : HttpResponse) (env : GovernanceEnv State) :
    HttpResponse × GovernanceEnv State :=
  let response := if timedOut then timeoutResponse ctx attempt else response
  let env := if timedOut then env.cancelDeadline (bytes "deadline exceeded") else env
  let stamped := withGovernanceHeaders response attempt elapsedMs
  (stamped, record config ctx.upstream (!isFailureResponse stamped) (emit env (.response response)))

def runAttempt (inner : WatchedClient State) (config : GovernanceConfig) (ctx : ForwardContext)
    (attempt : Int) : Watched (GovernanceEnv State) HttpResponse := do
  let startedAt ← step fun env => (env.now, env.tick)
  let response ← callOnce inner ctx
  let elapsedMs ← step (elapsedMsSince startedAt)
  let done ← check Env.deadlineExceeded
  step (finishAttempt config ctx attempt elapsedMs (done || ctx.timeoutMs < elapsedMs) response)

def forwardLoop (inner : WatchedClient State) (config : GovernanceConfig) (ctx : ForwardContext)
    (maxAttempts : Int) :
    Nat → Int → Option HttpResponse → Watched (GovernanceEnv State) LoopExit
  | 0, _, lastResponse => return .left lastResponse
  | left + 1, attempt, _ => do
    if ← check Env.deadlineExceeded then
      cancel (bytes "deadline exceeded")
      return .left (some (timeoutResponse ctx attempt))
    else
      let response ← runAttempt inner config ctx attempt
      if !isFailureResponse response then return .returned response
      else if !(config.retry.enabled && attempt < maxAttempts && canRetryMethod config ctx) then
        return .left (some response)
      else if 0 < config.retry.backoffMs then
        if ← sleepUntilReadyOrDeadline config.retry.backoffMs then
          forwardLoop inner config ctx maxAttempts left (attempt + 1) (some response)
        else return .left (some (timeoutResponse ctx attempt))
      else forwardLoop inner config ctx maxAttempts left (attempt + 1) (some response)

def forward (inner : WatchedClient State) (config : GovernanceConfig) (ctx : ForwardContext) :
    Watched (GovernanceEnv State) HttpResponse := do
  if config.enabled then
    if ← step (admission config ctx.upstream) then
      let exit ← forwardLoop inner config ctx (attemptLimit config) (attemptLimit config).toNat 1
        none
      return settle config ctx exit
    else return circuitOpenResponse config ctx
  else innerForward inner ctx

section erasure
variable (inner : WatchedClient State) (config : GovernanceConfig) (ctx : ForwardContext)

theorem run_readyBeforeDeadline (env : GovernanceEnv State) :
    readyBeforeDeadline.run env = TgwGovernance.readyBeforeDeadline env := rfl

theorem run_sleepLoop (sleepMs : Int) (fuel : Nat) (sleptMs : Int) (env : GovernanceEnv State) :
    (sleepLoop sleepMs fuel sleptMs).run env = TgwGovernance.sleepLoop sleepMs fuel sleptMs env := by
  induction fuel generalizing sleptMs env with
  | zero => rfl
  | succ fuel ih =>
    unfold sleepLoop TgwGovernance.sleepLoop
    by_cases slept : sleepMs ≤ sleptMs
    · simp only [slept, ↓reduceIte]
      rfl
    · simp only [slept, ↓reduceIte, run_bind, run_check]
      by_cases done : env.deadlineExceeded.1 = true
      · simp only [done, ↓reduceIte]
        rfl
      · simp only [done, Bool.false_eq_true, ↓reduceIte, run_bind, run_step, remainingMs]
        cases own : env.deadlineExceeded.2.deadline with
        | none =>
          simp only [run_bind, ih]
          rfl
        | some d =>
          simp only
          split
          · rfl
          · simp only [run_bind, ih]
            rfl

theorem run_sleepUntilReadyOrDeadline (sleepMs : Int) (env : GovernanceEnv State) :
    (sleepUntilReadyOrDeadline sleepMs).run env =
      TgwGovernance.sleepUntilReadyOrDeadline sleepMs env := by
  unfold sleepUntilReadyOrDeadline TgwGovernance.sleepUntilReadyOrDeadline
  split
  · rfl
  · exact run_sleepLoop sleepMs _ 0 env

theorem run_debugSleep (env : GovernanceEnv State) :
    (debugSleep ctx).run env =
      if 0 < headerToInt ctx.headers (bytes "X-Debug-Sleep-Ms") 0 then
        TgwGovernance.sleepUntilReadyOrDeadline
          (headerToInt ctx.headers (bytes "X-Debug-Sleep-Ms") 0) env
      else (true, env) := by
  unfold debugSleep
  by_cases sleeps : 0 < headerToInt ctx.headers (bytes "X-Debug-Sleep-Ms") 0
  · simp only [sleeps, ↓reduceIte]
    exact run_sleepUntilReadyOrDeadline _ env
  · simp only [sleeps, ↓reduceIte]
    rfl

theorem run_callOnce (env : GovernanceEnv State) :
    (callOnce inner ctx).run env = TgwGovernance.callOnce (fun ctx => (inner ctx).run) ctx env := by
  unfold callOnce TgwGovernance.callOnce
  simp only [run_bind, run_step, run_debugSleep]
  generalize (if 0 < headerToInt ctx.headers (bytes "X-Debug-Sleep-Ms") 0 then
    TgwGovernance.sleepUntilReadyOrDeadline (headerToInt ctx.headers (bytes "X-Debug-Sleep-Ms") 0)
      (emit env .callOnce)
    else (true, emit env .callOnce)) = slept
  by_cases ready : slept.1 = true
  · simp only [ready, ↓reduceIte, run_bind, run_check]
    by_cases done : slept.2.deadlineExceeded.1 = true
    · simp only [done, ↓reduceIte]
      rfl
    · simp only [done, Bool.false_eq_true, ↓reduceIte]
      by_cases forced : 500 ≤ headerToInt ctx.headers (bytes "X-Debug-Force-Status") 0
      · simp only [forced, ↓reduceIte]
        rfl
      · simp only [forced, ↓reduceIte]
        rfl
  · simp only [ready, Bool.false_eq_true, ↓reduceIte]
    rfl

theorem run_runAttempt (attempt : Int) (env : GovernanceEnv State) :
    (runAttempt inner config ctx attempt).run env =
      TgwGovernance.runAttempt (fun ctx => (inner ctx).run) config ctx attempt env := by
  unfold runAttempt
  simp only [run_bind, run_step, run_callOnce, run_check]
  rfl

theorem run_forwardLoop (maxAttempts : Int) (left : Nat) (attempt : Int)
    (lastResponse : Option HttpResponse) (env : GovernanceEnv State) :
    (forwardLoop inner config ctx maxAttempts left attempt lastResponse).run env =
      TgwGovernance.forwardLoop (fun ctx => (inner ctx).run) config ctx maxAttempts left attempt
        lastResponse env := by
  induction left generalizing attempt lastResponse env with
  | zero => rfl
  | succ left ih =>
    unfold forwardLoop TgwGovernance.forwardLoop
    simp only [run_bind, run_check]
    by_cases done : env.deadlineExceeded.1 = true
    · simp only [done, ↓reduceIte]
      rfl
    · simp only [done, Bool.false_eq_true, ↓reduceIte, run_bind, run_runAttempt]
      split
      · rfl
      · split
        · rfl
        · split
          · simp only [run_bind, run_sleepUntilReadyOrDeadline]
            split
            · exact ih _ _ _
            · rfl
          · exact ih _ _ _

theorem run_forward (env : GovernanceEnv State) :
    (forward inner config ctx).run env =
      TgwGovernance.forward (fun ctx => (inner ctx).run) config ctx env := by
  by_cases enabled : config.enabled = true
  · rw [forward_eq _ config ctx env enabled]
    simp only [forward, enabled, ↓reduceIte, run_bind]
    by_cases admitted : (admission config ctx.upstream env).1 = true
    · simp only [run_step, admitted, ↓reduceIte, run_bind, run_forwardLoop]
      rfl
    · simp only [run_step, admitted, Bool.false_eq_true, ↓reduceIte]
      rfl
  · simp only [forward, TgwGovernance.forward, enabled, Bool.false_eq_true, ↓reduceIte]
    rfl

end erasure

section discipline
variable {of : State → View}

/-- What is protected is the part of the inner state that `of` reads. -/
def innerView (of : State → View) (env : GovernanceEnv State) : View := of env.state.inner

theorem forward_probes (of : State → View) :
    Probes Seen (innerView of) Env.deadlineExceeded :=
  deadline_probes fun s : GovernanceState State => of s.inner

theorem disciplined_readyBeforeDeadline :
    Disciplined Seen (innerView of) readyBeforeDeadline :=
  disciplined_bind (disciplined_check (forward_probes of)) fun _ => disciplined_pure _

theorem disciplined_giveUp {Result : Type} (result : Result) :
    Disciplined Seen (innerView of) do
      cancel (bytes "deadline exceeded")
      return result :=
  disciplined_bind (disciplined_cancel (fun s : GovernanceState State => of s.inner) _) fun _ =>
    disciplined_pure _

theorem disciplined_sleepFor (ms : Int) : Disciplined Seen (innerView of) (sleepFor ms) :=
  disciplined_step fun _ => ⟨rfl, id⟩

theorem disciplined_remainingMs : Disciplined Seen (innerView of) (step remainingMs) := by
  apply disciplined_step
  intro env
  unfold remainingMs
  split
  · exact ⟨rfl, id⟩
  · exact ⟨rfl, seen_tick⟩

theorem disciplined_sleepLoop (sleepMs : Int) (fuel : Nat) (sleptMs : Int) :
    Disciplined Seen (innerView of) (sleepLoop sleepMs fuel sleptMs) := by
  induction fuel generalizing sleptMs with
  | zero => exact disciplined_readyBeforeDeadline
  | succ fuel ih =>
    unfold sleepLoop
    apply disciplined_ite disciplined_readyBeforeDeadline
    apply disciplined_guard (forward_probes of) (disciplined_giveUp false).quiet
    apply Disciplined.orderly
    apply disciplined_bind disciplined_remainingMs
    intro remaining
    cases remaining with
    | none => exact disciplined_bind (disciplined_sleepFor _) fun _ => ih _
    | some remaining =>
      apply disciplined_ite (disciplined_giveUp false)
      exact disciplined_bind (disciplined_sleepFor _) fun _ => ih _

theorem disciplined_sleepUntil (sleepMs : Int) :
    Disciplined Seen (innerView of) (sleepUntilReadyOrDeadline sleepMs) := by
  unfold sleepUntilReadyOrDeadline
  exact disciplined_ite disciplined_readyBeforeDeadline (disciplined_sleepLoop sleepMs _ 0)

theorem disciplined_debugSleep (ctx : ForwardContext) :
    Disciplined Seen (innerView of) (debugSleep ctx) := by
  unfold debugSleep
  exact disciplined_ite (disciplined_sleepUntil _) (disciplined_pure true)

section client
variable {inner : WatchedClient State} (config : GovernanceConfig) (ctx : ForwardContext)
  (settles : Disciplined Seen (fun env : Env State => of env.state) (inner ctx))
include settles

theorem disciplined_innerForward : Disciplined Seen (innerView of) (innerForward inner ctx) := by
  apply disciplined_bind
  · exact disciplined_step fun _ => ⟨rfl, id⟩
  · intro _
    exact disciplined_onState (fun s : GovernanceState State => of s.inner) of _ _
      (fun p q s agree => agree) (fun _ => rfl) settles

theorem disciplined_callOnce : Disciplined Seen (innerView of) (callOnce inner ctx) := by
  apply disciplined_bind
  · exact disciplined_step fun _ => ⟨rfl, id⟩
  · intro _
    apply disciplined_bind (disciplined_debugSleep ctx)
    intro ready
    apply disciplined_ite _ (disciplined_pure _)
    apply disciplined_guard (forward_probes of) (disciplined_giveUp _).quiet
    apply Disciplined.orderly
    exact disciplined_ite (disciplined_pure _) (disciplined_innerForward ctx settles)

omit settles in
theorem harmless_elapsedMsSince (startedAt : Int) :
    Harmless Seen (innerView of) (elapsedMsSince startedAt) := by
  intro env
  unfold elapsedMsSince
  split
  · exact ⟨rfl, seen_tick⟩
  · exact ⟨rfl, seen_tick⟩

omit settles in
theorem harmless_record (upstream : Bytes) (success : Bool) (env : GovernanceEnv State) :
    innerView of (record config upstream success env) = innerView of env ∧
      (Seen env → Seen (record config upstream success env)) := by
  unfold record
  by_cases enabled : config.circuitBreaker.enabled = true
  · simp only [enabled, ↓reduceIte]
    exact ⟨rfl, seen_tick⟩
  · simp only [enabled, Bool.false_eq_true, ↓reduceIte]
    exact ⟨rfl, id⟩

omit settles in
theorem harmless_finishAttempt (attempt elapsedMs : Int) (timedOut : Bool)
    (response : HttpResponse) :
    Harmless Seen (innerView of)
      (finishAttempt config ctx attempt elapsedMs timedOut response) := by
  intro env
  cases timedOut with
  | true =>
    obtain ⟨same, after⟩ := harmless_record config ctx.upstream
      (!isFailureResponse (withGovernanceHeaders (timeoutResponse ctx attempt) attempt elapsedMs))
      (emit (env.cancelDeadline (bytes "deadline exceeded"))
        (.response (timeoutResponse ctx attempt)))
    exact ⟨same, fun raised => after (seen_cancelDeadline raised _)⟩
  | false =>
    exact harmless_record config ctx.upstream _ (emit env (.response response))

theorem disciplined_runAttempt (attempt : Int) :
    Disciplined Seen (innerView of) (runAttempt inner config ctx attempt) := by
  apply disciplined_bind
  · exact disciplined_step fun _ => ⟨rfl, seen_tick⟩
  · intro startedAt
    apply disciplined_bind (disciplined_callOnce ctx settles)
    intro response
    apply disciplined_bind (disciplined_step (harmless_elapsedMsSince startedAt))
    intro elapsedMs
    apply disciplined_bind (disciplined_check (forward_probes of))
    intro done
    exact disciplined_step (harmless_finishAttempt config ctx attempt elapsedMs _ response)

theorem disciplined_forwardLoop (maxAttempts : Int) (left : Nat) (attempt : Int)
    (lastResponse : Option HttpResponse) :
    Disciplined Seen (innerView of)
      (forwardLoop inner config ctx maxAttempts left attempt lastResponse) := by
  induction left generalizing attempt lastResponse with
  | zero => exact disciplined_pure _
  | succ left ih =>
    apply disciplined_guard (forward_probes of) (disciplined_giveUp _).quiet
    apply Disciplined.orderly
    apply disciplined_bind (disciplined_runAttempt config ctx settles attempt)
    intro response
    apply disciplined_ite (disciplined_pure _)
    apply disciplined_ite (disciplined_pure _)
    apply disciplined_ite _ (ih _ _)
    apply disciplined_bind (disciplined_sleepUntil _)
    intro ready
    exact disciplined_ite (ih _ _) (disciplined_pure _)

theorem disciplined_forward : Disciplined Seen (innerView of) (forward inner config ctx) := by
  unfold forward
  apply disciplined_ite _ (disciplined_innerForward ctx settles)
  apply disciplined_bind
  · apply disciplined_step
    intro env
    unfold admission
    split
    · exact ⟨rfl, fun raised => seen_tick raised⟩
    · exact ⟨rfl, id⟩
  · intro admitted
    apply disciplined_ite _ (disciplined_pure _)
    exact disciplined_bind (disciplined_forwardLoop config ctx settles _ _ 1 none)
      fun _ => disciplined_pure _

end client
end discipline

/-- The response to a deadline that was found over: the timeout response of some attempt, with the
   headers of the attempt where the call had been made. -/
def TimedOut (ctx : ForwardContext) (response : HttpResponse) : Prop :=
  ∃ attempt, response = timeoutResponse ctx attempt ∨
    ∃ elapsedMs, response = withGovernanceHeaders (timeoutResponse ctx attempt) attempt elapsedMs

theorem timedOut_status {ctx : ForwardContext} {response : HttpResponse}
    (timedOut : TimedOut ctx response) : response.status = 504 := by
  obtain ⟨attempt, rfl | ⟨elapsedMs, rfl⟩⟩ := timedOut <;> rfl

section alarms

theorem ready_alarm {env : GovernanceEnv State} (alarm : Alarm readyBeforeDeadline env) :
    (readyBeforeDeadline.run env).1 = false := by
  rcases (alarm_bind _ _ env).mp alarm with here | later
  · have done := (alarm_check _ env).mp here
    show (!env.deadlineExceeded.1) = false
    rw [done]
    rfl
  · exact absurd later (alarm_pure _ _)

theorem sleepLoop_alarm (sleepMs : Int) (fuel : Nat) (sleptMs : Int) {env : GovernanceEnv State}
    (alarm : Alarm (sleepLoop sleepMs fuel sleptMs) env) :
    ((sleepLoop sleepMs fuel sleptMs).run env).1 = false := by
  induction fuel generalizing sleptMs env with
  | zero => exact ready_alarm alarm
  | succ fuel ih =>
    unfold sleepLoop at alarm ⊢
    by_cases slept : sleepMs ≤ sleptMs
    · simp only [slept, ↓reduceIte] at alarm ⊢
      exact ready_alarm alarm
    · simp only [slept, ↓reduceIte, alarm_bind, alarm_check, run_bind, run_check] at alarm ⊢
      by_cases done : env.deadlineExceeded.1 = true
      · simp only [done, ↓reduceIte]
        rfl
      · simp only [done, Bool.false_eq_true, ↓reduceIte, false_or, alarm_bind, alarm_step,
          run_bind, run_step] at alarm ⊢
        cases left : (remainingMs env.deadlineExceeded.2).1 with
        | none =>
          simp only [left, alarm_bind, sleepFor, alarm_step, false_or, run_bind, run_step]
            at alarm ⊢
          exact ih _ alarm
        | some remaining =>
          simp only [left] at alarm ⊢
          by_cases none : remaining ≤ 0
          · simp only [none, ↓reduceIte]
            rfl
          · simp only [none, ↓reduceIte, alarm_bind, sleepFor, alarm_step, false_or, run_bind,
              run_step] at alarm ⊢
            exact ih _ alarm

theorem sleepUntil_alarm (sleepMs : Int) {env : GovernanceEnv State}
    (alarm : Alarm (sleepUntilReadyOrDeadline sleepMs) env) :
    ((sleepUntilReadyOrDeadline sleepMs).run env).1 = false := by
  unfold sleepUntilReadyOrDeadline at alarm ⊢
  by_cases none : sleepMs ≤ 0
  · simp only [none, ↓reduceIte] at alarm ⊢
    exact ready_alarm alarm
  · simp only [none, ↓reduceIte] at alarm ⊢
    exact sleepLoop_alarm sleepMs _ 0 alarm

theorem check_seen {Result : Type} (next : Bool → Watched (GovernanceEnv State) Result)
    {env : GovernanceEnv State} (raised : Seen env) :
    Alarm (check Env.deadlineExceeded >>= next) env :=
  (alarm_bind _ _ env).mpr (Or.inl ((alarm_check _ env).mpr (deadlineExceeded_confirms raised).1))

theorem sleepUntil_seen (sleepMs : Int) {env : GovernanceEnv State} (raised : Seen env) :
    ((sleepUntilReadyOrDeadline sleepMs).run env).1 = false := by
  apply sleepUntil_alarm
  unfold sleepUntilReadyOrDeadline
  split
  · exact check_seen _ raised
  · cases sleepMs.toNat with
    | zero => exact check_seen _ raised
    | succ fuel =>
      unfold sleepLoop
      split
      · exact check_seen _ raised
      · exact check_seen _ raised

section client
variable {of : State → View} {inner : WatchedClient State} (config : GovernanceConfig)
  (ctx : ForwardContext)
  (settles : Disciplined Seen (fun env : Env State => of env.state) (inner ctx))
include settles

theorem runAttempt_alarm (attempt : Int) {env : GovernanceEnv State}
    (alarm : Alarm (runAttempt inner config ctx attempt) env) :
    TimedOut ctx ((runAttempt inner config ctx attempt).run env).1 := by
  have ends : ∀ response elapsedMs (env : GovernanceEnv State), env.deadlineExceeded.1 = true →
      TimedOut ctx ((do
        let done ← check Env.deadlineExceeded
        step (finishAttempt config ctx attempt elapsedMs (done || ctx.timeoutMs < elapsedMs)
          response) : Watched (GovernanceEnv State) HttpResponse).run env).1 := by
    intro response elapsedMs env done
    simp only [run_bind, run_check, run_step, done, Bool.true_or, finishAttempt, ↓reduceIte]
    exact ⟨attempt, Or.inr ⟨elapsedMs, rfl⟩⟩
  simp only [runAttempt, alarm_bind, alarm_step, false_or, run_step, alarm_check, or_false]
    at alarm
  simp only [runAttempt, run_bind, run_step]
  apply ends
  rcases alarm with called | ended
  · have raised := alarm_seen ((disciplined_callOnce ctx settles).settled env.tick) called
    have harmless : Harmless Seen (innerView of) (elapsedMsSince env.now) :=
      harmless_elapsedMsSince env.now
    exact (deadlineExceeded_confirms ((harmless _).2 raised)).1
  · exact ended

omit settles in
/-- A loop entered under a raised alarm only repeats the timeout. -/
theorem forwardLoop_seen (maxAttempts : Int) (left : Nat) (attempt : Int)
    {response : HttpResponse} (timedOut : TimedOut ctx response) {env : GovernanceEnv State}
    (raised : Seen env) :
    ∃ last, ((forwardLoop inner config ctx maxAttempts left attempt (some response)).run env).1 =
      .left (some last) ∧ TimedOut ctx last := by
  cases left with
  | zero => exact ⟨response, rfl, timedOut⟩
  | succ left =>
    refine ⟨timeoutResponse ctx attempt, ?_, attempt, Or.inl rfl⟩
    have done := (deadlineExceeded_confirms raised).1
    simp only [forwardLoop, run_bind, run_check, done, ↓reduceIte]
    rfl

theorem forwardLoop_alarm (maxAttempts : Int) (left : Nat) (attempt : Int)
    (lastResponse : Option HttpResponse) {env : GovernanceEnv State}
    (alarm : Alarm (forwardLoop inner config ctx maxAttempts left attempt lastResponse) env) :
    ∃ last, ((forwardLoop inner config ctx maxAttempts left attempt lastResponse).run env).1 =
      .left (some last) ∧ TimedOut ctx last := by
  induction left generalizing attempt lastResponse env with
  | zero => exact absurd alarm (alarm_pure _ env)
  | succ left ih =>
    unfold forwardLoop at alarm ⊢
    simp only [alarm_bind, alarm_check, run_bind, run_check] at alarm ⊢
    by_cases done : env.deadlineExceeded.1 = true
    · simp only [done, ↓reduceIte]
      exact ⟨_, rfl, attempt, Or.inl rfl⟩
    simp only [done, Bool.false_eq_true, ↓reduceIte, false_or, alarm_bind, run_bind] at alarm ⊢
    have timedOut : Alarm (runAttempt inner config ctx attempt) env.deadlineExceeded.2 →
        TimedOut ctx _ := runAttempt_alarm config ctx settles attempt
    have raised := fun found => alarm_seen
      ((disciplined_runAttempt config ctx settles attempt).settled env.deadlineExceeded.2) found
    generalize (runAttempt inner config ctx attempt).run env.deadlineExceeded.2 = tried
      at alarm timedOut raised ⊢
    by_cases accepted : (!isFailureResponse tried.1) = true
    · simp only [accepted, ↓reduceIte, alarm_pure, or_false] at alarm
      have status := timedOut_status (timedOut alarm)
      simp [isFailureResponse, status] at accepted
    simp only [accepted, Bool.false_eq_true, ↓reduceIte] at alarm ⊢
    by_cases stops : (!(config.retry.enabled && decide (attempt < maxAttempts) &&
        canRetryMethod config ctx)) = true
    · simp only [stops, ↓reduceIte, alarm_pure, or_false] at alarm ⊢
      exact ⟨_, rfl, timedOut alarm⟩
    simp only [stops, Bool.false_eq_true, ↓reduceIte] at alarm ⊢
    by_cases backs : 0 < config.retry.backoffMs
    · simp only [backs, ↓reduceIte, alarm_bind, run_bind] at alarm ⊢
      by_cases ready : ((sleepUntilReadyOrDeadline config.retry.backoffMs).run tried.2).1 = true
      · simp only [ready, ↓reduceIte] at alarm ⊢
        -- a sleep that ends in time has seen no alarm, nor has anything before it
        rcases alarm with called | slept | later
        · rw [sleepUntil_seen _ (raised called)] at ready
          cases ready
        · rw [sleepUntil_alarm _ slept] at ready
          cases ready
        · exact ih _ _ later
      · simp only [ready, Bool.false_eq_true, ↓reduceIte]
        exact ⟨_, rfl, attempt, Or.inl rfl⟩
    · simp only [backs, ↓reduceIte] at alarm ⊢
      rcases alarm with called | later
      · exact forwardLoop_seen config ctx maxAttempts left _ (timedOut called) (raised called)
      · exact ih _ _ later

/-- Where any check of the request finds the deadline over, Forward reports the timeout or falls
   back. -/
theorem forward_alarm (enabled : config.enabled = true) {env : GovernanceEnv State}
    (alarm : Alarm (forward inner config ctx) env) :
    if config.fallback.enabled then
      ((forward inner config ctx).run env).1 =
        fallbackResponse config ctx (bytes "all retry attempts failed")
    else TimedOut ctx ((forward inner config ctx).run env).1 := by
  simp only [forward, enabled, ↓reduceIte, alarm_bind, alarm_step, false_or, run_bind] at alarm ⊢
  by_cases admitted : (admission config ctx.upstream env).1 = true
  · simp only [run_step, admitted, ↓reduceIte, alarm_bind, alarm_pure, or_false, run_bind,
      run_pure] at alarm ⊢
    obtain ⟨last, exit, timedOut⟩ := forwardLoop_alarm config ctx settles _ _ 1 none alarm
    have failure : isFailureResponse last = true := by
      simp [isFailureResponse, timedOut_status timedOut]
    simp only [exit, settle, failure, Bool.true_and]
    split
    · rfl
    · exact timedOut
  · simp only [run_step, admitted, Bool.false_eq_true, ↓reduceIte, alarm_pure] at alarm
end client

end alarms

end TgwWatchedForward
