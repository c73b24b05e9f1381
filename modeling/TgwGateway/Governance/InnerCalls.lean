import TgwGateway.Governance.ForwardLaws

/- The calls that one Forward makes of its inner client: each finds what the one before it has left,
   and only the last of them can be what a successful answer is made of. -/
namespace TgwInnerCalls
open ByteStrings TgwClock TgwConfig TgwHttp TgwGovernance TgwForwardLaws
variable {State : Type}

section calls

structure Onward (before after : SystemClock) : Prop where
  reading : after.reading = before.reading
  taken : before.taken ≤ after.taken

theorem onward_refl (clock : SystemClock) : Onward clock clock := ⟨rfl, Nat.le_refl _⟩

theorem onward_of_eq {before after : SystemClock} (same : after = before) : Onward before after :=
  same ▸ onward_refl before

theorem Onward.trans {a b c : SystemClock} (first : Onward a b) (second : Onward b c) :
    Onward a c :=
  ⟨second.reading.trans first.reading, Nat.le_trans first.taken second.taken⟩

theorem onward_next (clock : SystemClock) : Onward clock clock.next :=
  ⟨rfl, Nat.le_succ _⟩

def TimelyClient (client : UpstreamClient State) : Prop :=
  ∀ ctx env, Onward env.system (client ctx env).2.system

/-- The calls of a client by what they found, from one state of it to another. -/
def CallsLead (client : UpstreamClient State) (ctx : ForwardContext) :
    State → List (Env State) → State → Prop
  | s, [], t => s = t
  | s, entry :: later, t => entry.state = s ∧ CallsLead client ctx (client ctx entry).2.state later t

theorem callsLead_append {client : UpstreamClient State} {ctx : ForwardContext} {s t u : State}
    {first second : List (Env State)} (before : CallsLead client ctx s first t)
    (after : CallsLead client ctx t second u) : CallsLead client ctx s (first ++ second) u := by
  induction first generalizing s with
  | nil =>
    obtain rfl : s = t := before
    exact after
  | cons entry first ih => exact ⟨before.1, ih before.2⟩

def IsFallback (rsp : HttpResponse) : Prop :=
  rsp.headers[bytes "X-Governance-Fallback"]? ≠ none

/-- A success that is not the fallback is what the last call has returned. -/
def FromLast (client : UpstreamClient State) (ctx : ForwardContext) (calls : List (Env State))
    (rsp : HttpResponse) : Prop :=
  rsp.status = 200 → ¬ IsFallback rsp → ∃ last ∈ calls.getLast?,
    (client ctx last).1.status = 200 ∧ rsp.body = (client ctx last).1.body

def HandsOn (client : UpstreamClient State) (ctx : ForwardContext) (calls : List (Env State)) :
    LoopExit → Prop
  | .returned rsp => FromLast client ctx calls rsp
  | .left last => ∀ rsp ∈ last, isFailureResponse rsp = true

theorem FromLast.behind {client : UpstreamClient State} {ctx : ForwardContext}
    {later : List (Env State)} {rsp : HttpResponse} (served : FromLast client ctx later rsp)
    (calls : List (Env State)) : FromLast client ctx (calls ++ later) rsp := by
  intro success own
  obtain ⟨last, isLast, same⟩ := served success own
  exact ⟨last, by simp [List.getLast?_append, Option.mem_def.mp isLast], same⟩

theorem HandsOn.behind {client : UpstreamClient State} {ctx : ForwardContext}
    {later : List (Env State)} {way : LoopExit} (handsOn : HandsOn client ctx later way)
    (calls : List (Env State)) : HandsOn client ctx (calls ++ later) way := by
  cases way with
  | returned rsp => exact FromLast.behind handsOn calls
  | left last => exact handsOn

/-- The calls behind an answer, no more than so many. -/
structure Makes (client : UpstreamClient State) (ctx : ForwardContext) (most : Nat)
    (env after : GovernanceEnv State) (calls : List (Env State)) : Prop where
  lead : CallsLead client ctx env.state.inner calls after.state.inner
  found : ∀ call ∈ calls, Onward env.system call.system
  onward : Onward env.system after.system
  few : calls.length ≤ most

end calls

section frames
variable (config : GovernanceConfig) (env : GovernanceEnv State)

/-- What a step leaves alone that makes no call. -/
structure Quiet (before after : GovernanceEnv State) : Prop where
  inner : after.state.inner = before.state.inner
  system : after.system = before.system

theorem quiet_refl : Quiet env env := ⟨rfl, rfl⟩

theorem Quiet.trans {a b c : GovernanceEnv State} (first : Quiet a b) (second : Quiet b c) :
    Quiet a c :=
  ⟨second.inner.trans first.inner, second.system.trans first.system⟩

theorem emit_quiet (e : GovernanceEvent) : Quiet env (emit env e) := ⟨rfl, rfl⟩

theorem tick_quiet : Quiet env env.tick := ⟨rfl, rfl⟩

theorem cancel_quiet (reason : Bytes) : Quiet env (env.cancelDeadline reason) := ⟨rfl, rfl⟩

theorem done_quiet : Quiet env env.deadlineExceeded.2 := ⟨by simp, by simp⟩

theorem sleepLoop_quiet (sleepMs : Int) (fuel : Nat) (sleptMs : Int) :
    Quiet env (sleepLoop sleepMs fuel sleptMs env).2 := by
  induction fuel generalizing sleptMs env with
  | zero => exact done_quiet env
  | succ fuel ih =>
    have done := done_quiet env
    unfold sleepLoop
    split
    · exact done
    · extract_lets checked stepMs
      split
      · exact done.trans (cancel_quiet _ _)
      · split
        · exact (done.trans (emit_quiet _ _)).trans (ih _ _)
        · extract_lets remainingMs stepMs
          split
          · exact (done.trans (tick_quiet _)).trans (cancel_quiet _ _)
          · exact ((done.trans (tick_quiet _)).trans (emit_quiet _ _)).trans (ih _ _)

theorem sleep_quiet (sleepMs : Int) : Quiet env (sleepUntilReadyOrDeadline sleepMs env).2 := by
  unfold sleepUntilReadyOrDeadline
  split
  · exact done_quiet env
  · exact sleepLoop_quiet env sleepMs _ 0

theorem elapsedMsSince_quiet (startedAt : Int) : Quiet env (elapsedMsSince startedAt env).2 := by
  unfold elapsedMsSince
  split <;> exact tick_quiet env

theorem admission_quiet (upstream : Bytes) : Quiet env (admission config upstream env).2 := by
  unfold admission
  split <;> exact ⟨rfl, rfl⟩

theorem record_quiet (upstream : Bytes) (success : Bool) :
    Quiet env (record config upstream success env) := by
  unfold record
  extract_lets emitted
  split <;> exact ⟨rfl, rfl⟩

end frames

section attempts
variable {inner : UpstreamClient State} {config : GovernanceConfig} {ctx : ForwardContext}
  {env after : GovernanceEnv State} {calls : List (Env State)} {most : Nat}

theorem makes_none (quiet : Quiet env after) : Makes inner ctx most env after [] where
  lead := quiet.inner.symm
  found := by simp
  onward := onward_of_eq quiet.system
  few := Nat.zero_le _

theorem Makes.behind {before : GovernanceEnv State} (quiet : Quiet before env)
    (makes : Makes inner ctx most env after calls) : Makes inner ctx most before after calls where
  lead := quiet.inner ▸ makes.lead
  found := quiet.system ▸ makes.found
  onward := quiet.system ▸ makes.onward
  few := makes.few

theorem Makes.before {later : GovernanceEnv State}
    (makes : Makes inner ctx most env after calls) (quiet : Quiet after later) :
    Makes inner ctx most env later calls where
  lead := quiet.inner.symm ▸ makes.lead
  found := makes.found
  onward := quiet.system.symm ▸ makes.onward
  few := makes.few

theorem Makes.next {later : GovernanceEnv State} {more : List (Env State)} {fewer : Nat}
    (first : Makes inner ctx most env after calls) (second : Makes inner ctx fewer after later more) :
    Makes inner ctx (most + fewer) env later (calls ++ more) where
  lead := callsLead_append first.lead second.lead
  found := by
    intro call listed
    rcases List.mem_append.mp listed with early | late
    · exact first.found call early
    · exact first.onward.trans (second.found call late)
  onward := first.onward.trans second.onward
  few := by
    rw [List.length_append]
    exact Nat.add_le_add first.few second.few

theorem Makes.weaken {more : Nat} (makes : Makes inner ctx most env after calls)
    (order : most ≤ more) : Makes inner ctx more env after calls :=
  { makes with few := Nat.le_trans makes.few order }

variable (timely : TimelyClient inner)
include timely

theorem innerForward_makes (env : GovernanceEnv State) :
    ∃ call, Makes inner ctx 1 env (innerForward inner ctx env).2 [call] ∧
      (innerForward inner ctx env).1 = (inner ctx call).1 :=
  ⟨⟨env.steady, env.system, env.deadline, env.state.inner⟩,
    { lead := ⟨rfl, rfl⟩
      found := by simpa using onward_refl env.system
      onward := timely ctx ⟨env.steady, env.system, env.deadline, env.state.inner⟩
      few := Nat.le_refl 1 }, rfl⟩

theorem callOnce_makes (env : GovernanceEnv State) :
    ∃ calls, Makes inner ctx 1 env (callOnce inner ctx env).2 calls ∧
      (isFailureResponse (callOnce inner ctx env).1 = false → ∃ last ∈ calls.getLast?,
        (callOnce inner ctx env).1 = (inner ctx last).1) := by
  have failing : isFailureResponse (timeoutResponse ctx 1) = true := by
    simp [timeoutResponse, buildErrorResponse, HttpResponse.setHeader, isFailureResponse]
  unfold callOnce
  extract_lets debugSleepMs slept done debugForceStatus
  have quiet : Quiet env slept.2 := by
    unfold slept
    split
    · exact (emit_quiet env _).trans (sleep_quiet _ _)
    · exact emit_quiet env _
  split
  · have checked := quiet.trans (done_quiet slept.2)
    split
    · exact ⟨[], makes_none (checked.trans (cancel_quiet _ _)), by simp [failing]⟩
    · split
      · rename_i forced
        refine ⟨[], makes_none checked, fun served => ?_⟩
        simp [buildErrorResponse, HttpResponse.setHeader, isFailureResponse, forced] at served
      · obtain ⟨call, makes, same⟩ := innerForward_makes timely done.2
        exact ⟨[call], makes.behind checked, fun _ => ⟨call, rfl, same⟩⟩
  · exact ⟨[], makes_none quiet, by simp [failing]⟩

theorem runAttempt_makes (attempt : Int) (env : GovernanceEnv State) :
    ∃ calls, Makes inner ctx 1 env (runAttempt inner config ctx attempt env).2 calls ∧
      (isFailureResponse (runAttempt inner config ctx attempt env).1 = false →
        FromLast inner ctx calls (runAttempt inner config ctx attempt env).1) := by
  unfold runAttempt
  extract_lets startedAt called elapsed done timedOut response env' stamped
  obtain ⟨calls, makes, served⟩ : ∃ calls, Makes inner ctx 1 env.tick called.2 calls ∧
      (isFailureResponse called.1 = false → ∃ last ∈ calls.getLast?, called.1 = (inner ctx last).1) :=
    callOnce_makes timely env.tick
  have checked : Quiet called.2 done.2 := (elapsedMsSince_quiet called.2 _).trans (done_quiet _)
  have ended : Quiet called.2 env' := by
    unfold env'
    split
    · exact checked.trans (cancel_quiet _ _)
    · exact checked
  refine ⟨calls, ((makes.behind (tick_quiet env)).before ended).before
    ((emit_quiet env' _).trans (record_quiet config _ _ _)), fun kept success _ => ?_⟩
  have inTime : timedOut = false := by
    cases late : timedOut with
    | false => rfl
    | true =>
      simp [stamped, response, late, withGovernanceHeaders, timeoutResponse, buildErrorResponse,
        HttpResponse.setHeader, isFailureResponse] at kept
  have own : response = called.1 := by simp [response, inTime]
  have good : isFailureResponse called.1 = false := by
    simpa [stamped, own, withGovernanceHeaders, HttpResponse.setHeader, isFailureResponse] using kept
  obtain ⟨last, isLast, same⟩ := served good
  refine ⟨last, isLast, ?_, ?_⟩
  · rw [← same, ← own]
    exact success
  · rw [← same, ← own]
    rfl

theorem forwardLoop_makes (maxAttempts : Int) (left : Nat) (attempt : Int)
    (last : Option HttpResponse) (failed : ∀ rsp ∈ last, isFailureResponse rsp = true)
    (env : GovernanceEnv State) :
    ∃ calls, Makes inner ctx left env
        (forwardLoop inner config ctx maxAttempts left attempt last env).2 calls ∧
      (0 < left → (config.retry.enabled && canRetryMethod config ctx) = false → calls.length ≤ 1) ∧
      HandsOn inner ctx calls
        (forwardLoop inner config ctx maxAttempts left attempt last env).1 := by
  have timeout : ∀ attempt, ∀ rsp ∈ some (timeoutResponse ctx attempt),
      isFailureResponse rsp = true := by
    intro attempt rsp same
    obtain rfl := Option.some.inj same
    simp [timeoutResponse, buildErrorResponse, HttpResponse.setHeader, isFailureResponse]
  induction left generalizing attempt last env with
  | zero => exact ⟨[], makes_none (quiet_refl env), by simp, failed⟩
  | succ left ih =>
    unfold forwardLoop
    extract_lets done tried slept
    have checked := done_quiet env
    obtain ⟨calls, makes, served⟩ : ∃ calls, Makes inner ctx 1 done.2 tried.2 calls ∧
        (isFailureResponse tried.1 = false → FromLast inner ctx calls tried.1) :=
      runAttempt_makes timely attempt done.2
    have first : Makes inner ctx 1 env tried.2 calls := makes.behind checked
    have one := first.few
    split
    · exact ⟨[], makes_none (checked.trans (cancel_quiet _ _)), by simp, timeout attempt⟩
    · split
      · rename_i kept
        refine ⟨calls, first.weaken (by omega), fun _ _ => one, ?_⟩
        exact served (by simpa using kept)
      · rename_i fails
        have failing : ∀ rsp ∈ some tried.1, isFailureResponse rsp = true := by
          intro rsp same
          obtain rfl := Option.some.inj same
          simpa using fails
        split
        · exact ⟨calls, first.weaken (by omega), fun _ _ => one, failing⟩
        · rename_i again
          have retried : (config.retry.enabled && canRetryMethod config ctx) = true := by
            simp only [Bool.not_eq_true', Bool.not_eq_false, Bool.and_eq_true] at again ⊢
            exact ⟨again.1.1, again.2⟩
          split
          · have paused : Quiet tried.2 slept.2 := sleep_quiet _ _
            split
            · obtain ⟨more, rest, _, handsOn⟩ := ih (attempt + 1) (some tried.1) failing slept.2
              exact ⟨calls ++ more, Nat.add_comm 1 left ▸ (first.before paused).next rest,
                by simp [retried], handsOn.behind calls⟩
            · exact ⟨calls, (first.before paused).weaken (by omega), fun _ _ => one, timeout attempt⟩
          · obtain ⟨more, rest, _, handsOn⟩ := ih (attempt + 1) (some tried.1) failing tried.2
            exact ⟨calls ++ more, Nat.add_comm 1 left ▸ first.next rest, by simp [retried],
              handsOn.behind calls⟩

def callLimit (config : GovernanceConfig) (ctx : ForwardContext) : Nat :=
  if config.enabled && config.retry.enabled && canRetryMethod config ctx then
    (attemptLimit config).toNat
  else 1

omit timely in
theorem not_success {rsp : HttpResponse} (failed : isFailureResponse rsp = true) :
    rsp.status ≠ 200 := by
  intro success
  simp [isFailureResponse, success] at failed

omit timely in
theorem fallback_fromLast (reason : Bytes) (calls : List (Env State)) :
    FromLast inner ctx calls (fallbackResponse config ctx reason) := by
  intro _ own
  exact absurd (by simp [IsFallback, fallbackResponse]) own

omit timely in
theorem HandsOn.settled {way : LoopExit} (handsOn : HandsOn inner ctx calls way) :
    FromLast inner ctx calls (settle config ctx way) := by
  cases way with
  | returned rsp => exact handsOn
  | left last =>
    cases last with
    | none =>
      intro success
      simp [settle, buildErrorResponse] at success
    | some last =>
      have failed : isFailureResponse last = true := handsOn last rfl
      simp only [settle]
      split
      · exact fallback_fromLast _ _
      · exact fun success => absurd success (not_success failed)

/-- One Forward makes calls of its inner client that follow each other, only as many as its method
    may be retried, and a success comes from the last of them or is marked as a fallback. -/
theorem forward_makes (env : GovernanceEnv State) :
    ∃ calls, Makes inner ctx (callLimit config ctx) env (forward inner config ctx env).2 calls ∧
      FromLast inner ctx calls (forward inner config ctx env).1 := by
  have loop : ∀ start : GovernanceEnv State, ∃ calls,
      Makes inner ctx (attemptLimit config).toNat start
        (forwardLoop inner config ctx (attemptLimit config) (attemptLimit config).toNat 1 none
          start).2 calls ∧
      (0 < (attemptLimit config).toNat →
        (config.retry.enabled && canRetryMethod config ctx) = false → calls.length ≤ 1) ∧
      HandsOn inner ctx calls
        (forwardLoop inner config ctx (attemptLimit config) (attemptLimit config).toNat 1 none
          start).1 := forwardLoop_makes timely _ _ 1 none (by simp)
  cases enabled : config.enabled with
  | false =>
    obtain ⟨call, makes, same⟩ : ∃ call,
        Makes inner ctx 1 env (innerForward inner ctx env).2 [call] ∧
          (innerForward inner ctx env).1 = (inner ctx call).1 := innerForward_makes timely env
    have limit : callLimit config ctx = 1 := by simp [callLimit, enabled]
    rw [forward, enabled, limit]
    exact ⟨[call], makes, fun success _ => ⟨call, rfl, same ▸ success, congrArg HttpResponse.body same⟩⟩
  | true =>
    have admitted := admission_quiet config env ctx.upstream
    rw [forward_eq inner config ctx env enabled]
    split
    · have tries := attemptLimit_pos config
      obtain ⟨calls, makes, once, handsOn⟩ := loop (admission config ctx.upstream env).2
      have few : calls.length ≤ callLimit config ctx := by
        unfold callLimit
        rw [enabled, Bool.true_and]
        split
        · exact makes.few
        · rename_i never
          exact once (by omega) (by simpa using never)
      exact ⟨calls, { makes.behind admitted with few := few }, handsOn.settled⟩
    · refine ⟨[], makes_none admitted, ?_⟩
      unfold circuitOpenResponse
      split
      · exact fallback_fromLast _ _
      · intro success
        simp [buildErrorResponse, HttpResponse.setHeader] at success

end attempts

end TgwInnerCalls
