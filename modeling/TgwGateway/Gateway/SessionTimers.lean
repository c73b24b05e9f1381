import TgwGateway.Gateway.HttpSession

/- When a timeout of a session comes too late: after the operation that its timer guards. -/
namespace TgwSessionTimers
open ByteStrings TgwConfig TgwHttp TgwHttpSession

section definitions

/-- No timeout behind the completion of the operation it guards, and one that closes the
    connection finds that operation started and not ended in any way. -/
def Timely (log : List Event) : Prop :=
  ∀ past op closes future, log = past ++ .timedOut op closes :: future →
    .completed op ∉ past ∧ (closes = true → .started op ∈ past ∧ .failed op ∉ past)

def timeoutOf : Handler → Option Operation
  | .waited wait true => some wait.guarded
  | _ => none

def completionOf : Handler → Option Operation
  | .readDone number (.request _) => some (.read, number)
  | .writeDone number true => some (.write, number)
  | _ => none

/-- The wait for that operation has expired, and its handler has not run yet. -/
def TimeoutQueued (s : HttpSession) (op : Operation) : Prop :=
  op ∈ s.ready.filterMap timeoutOf

/-- The step does not run the handler of a completed operation in front of the handler of the
    expired wait for the same operation. -/
def Prompt (s : HttpSession) : Action → Prop
  | .run handler => ∀ op ∈ completionOf handler, ¬ TimeoutQueued s op
  | _ => True

def PromptRun : HttpSession → List Action → Prop
  | _, [] => True
  | s, action :: actions => Prompt s action ∧ ∀ next ∈ step s action, PromptRun next actions

def endOf : Handler → Option Operation
  | .readDone number _ => some (.read, number)
  | .writeDone number _ => some (.write, number)
  | _ => none

def Pending (s : HttpSession) (op : Operation) : Prop :=
  op ∈ s.underWay ∨ op ∈ s.ready.filterMap endOf

/-- An operation that a timeout may still be for. -/
def Guarded (s : HttpSession) (op : Operation) : Prop :=
  TimeoutQueued s op ∨ ∃ wait ∈ s.waits, wait.guarded = op

structure Sound (s : HttpSession) : Prop where
  started : ∀ op, Guarded s op → .started op ∈ s.log
  incomplete : ∀ op, Guarded s op → .completed op ∉ s.log
  numbered : ∀ op, Pending s op → op.2 ≤ s.operations
  counted : ∀ op, .completed op ∈ s.log ∨ .failed op ∈ s.log → op.2 ≤ s.operations
  closed : ∀ op, .failed op ∈ s.log → s.socketOpen = false
  timely : Timely s.log

end definitions

section sound

theorem timely_nil : Timely [] := by
  intro past op closes future same
  exact absurd same (by simp)

theorem timely_snoc (log : List Event) (event : Event) :
    Timely (log ++ [event]) ↔ Timely log ∧ ∀ op closes, event = .timedOut op closes →
      .completed op ∉ log ∧ (closes = true → .started op ∈ log ∧ .failed op ∉ log) := by
  constructor
  · intro timely
    refine ⟨?_, ?_⟩
    · intro past op closes future same
      exact timely past op closes (future ++ [event]) (by rw [same]; simp)
    · intro op closes last
      exact timely log op closes [] (by rw [last])
  · rintro ⟨before, last⟩ past op closes future same
    rcases List.eq_nil_or_concat future with rfl | ⟨rest, final, rfl⟩
    · obtain ⟨rfl, event⟩ := List.append_inj' same rfl
      exact last op closes (List.cons.inj event).1
    · rw [List.concat_eq_append, ← List.cons_append, ← List.append_assoc] at same
      exact before past op closes rest (List.append_inj' same rfl).1

theorem Sound.of_frame {s t : HttpSession} (sound : Sound s) (log : t.log = s.log)
    (operations : t.operations = s.operations)
    (guarded : ∀ op, Guarded t op → Guarded s op) (pending : ∀ op, Pending t op → Pending s op)
    (socket : s.socketOpen = false → t.socketOpen = false) : Sound t where
  started op held := log ▸ sound.started op (guarded op held)
  incomplete op held := log ▸ sound.incomplete op (guarded op held)
  numbered op held := operations ▸ sound.numbered op (pending op held)
  counted op held := operations ▸ sound.counted op (log ▸ held)
  closed op held := socket (sound.closed op (log ▸ held))
  timely := log ▸ sound.timely

theorem timeoutQueued_cancel (side : Side) (s : HttpSession) (op : Operation) :
    TimeoutQueued (cancel side s) op ↔ TimeoutQueued s op := by
  have aborted : ((s.waits.filter fun wait => wait.guarded.1 = side).map fun wait =>
      Handler.waited wait false).filterMap timeoutOf = [] := by
    simp [List.filterMap_eq_nil_iff, timeoutOf]
  rw [TimeoutQueued, cancel, List.filterMap_append, aborted, List.append_nil, TimeoutQueued]

theorem guarded_cancel {side : Side} {s : HttpSession} {op : Operation}
    (held : Guarded (cancel side s) op) :
    TimeoutQueued s op ∨ op.1 ≠ side ∧ ∃ wait ∈ s.waits, wait.guarded = op := by
  rcases held with queued | ⟨wait, kept, rfl⟩
  · exact Or.inl ((timeoutQueued_cancel side s op).mp queued)
  · obtain ⟨armed, other⟩ := List.mem_filter.mp kept
    exact Or.inr ⟨of_decide_eq_true other, wait, armed, rfl⟩

theorem guarded_of_cancel {side : Side} {s : HttpSession} {op : Operation}
    (held : Guarded (cancel side s) op) : Guarded s op :=
  (guarded_cancel held).imp id And.right

theorem pending_cancel {side : Side} {s : HttpSession} {op : Operation}
    (held : Pending (cancel side s) op) : Pending s op := by
  have aborted : ((s.waits.filter fun wait => wait.guarded.1 = side).map fun wait =>
      Handler.waited wait false).filterMap endOf = [] := by
    simp [List.filterMap_eq_nil_iff, endOf]
  rw [Pending, cancel, List.filterMap_append, aborted, List.append_nil] at held
  exact held

theorem Sound.after_cancel {s : HttpSession} (sound : Sound s) (side : Side) :
    Sound (cancel side s) :=
  sound.of_frame rfl rfl (fun _ => guarded_of_cancel) (fun _ => pending_cancel) id

theorem Sound.after_close {s : HttpSession} (sound : Sound s) : Sound (close s) :=
  ((sound.after_cancel .read).after_cancel .write).of_frame rfl rfl (fun _ held => held)
    (fun _ held => held) fun _ => rfl

theorem Sound.note_completed {s : HttpSession} (sound : Sound s) {op : Operation}
    (free : ¬ Guarded s op) (old : op.2 ≤ s.operations) : Sound (note (.completed op) s) where
  started other held := List.mem_append_left _ (sound.started other held)
  incomplete other held member := by
    rcases List.mem_append.mp member with before | last
    · exact sound.incomplete other held before
    · obtain rfl := Event.completed.inj (List.mem_singleton.mp last)
      exact free held
  numbered other held := sound.numbered other held
  counted other held := by
    simp only [note, List.mem_append, List.mem_singleton, Event.completed.injEq, reduceCtorEq,
      or_false] at held
    rcases held with (before | rfl) | before
    · exact sound.counted other (Or.inl before)
    · exact old
    · exact sound.counted other (Or.inr before)
  closed other held := by
    simp only [note, List.mem_append, List.mem_singleton, reduceCtorEq, or_false] at held
    exact sound.closed other held
  timely := (timely_snoc _ _).mpr ⟨sound.timely, fun _ _ same => nomatch same⟩

theorem Sound.note_failed {s : HttpSession} (sound : Sound s) {op : Operation}
    (closed : s.socketOpen = false) (old : op.2 ≤ s.operations) : Sound (note (.failed op) s) where
  started other held := List.mem_append_left _ (sound.started other held)
  incomplete other held := by
    simp only [note, List.mem_append, List.mem_singleton, reduceCtorEq, or_false]
    exact sound.incomplete other held
  numbered other held := sound.numbered other held
  counted other held := by
    simp only [note, List.mem_append, List.mem_singleton, Event.failed.injEq, reduceCtorEq,
      or_false] at held
    rcases held with before | before | rfl
    · exact sound.counted other (Or.inl before)
    · exact sound.counted other (Or.inr before)
    · exact old
  closed _ _ := closed
  timely := (timely_snoc _ _).mpr ⟨sound.timely, fun _ _ same => nomatch same⟩

theorem Sound.note_timedOut {s : HttpSession} (sound : Sound s) {op : Operation}
    (started : .started op ∈ s.log) (incomplete : .completed op ∉ s.log) :
    Sound (note (.timedOut op s.socketOpen) s) where
  started other held := List.mem_append_left _ (sound.started other held)
  incomplete other held := by
    simp only [note, List.mem_append, List.mem_singleton, reduceCtorEq, or_false]
    exact sound.incomplete other held
  numbered other held := sound.numbered other held
  counted other held := by
    simp only [note, List.mem_append, List.mem_singleton, reduceCtorEq, or_false] at held
    exact sound.counted other held
  closed other held := by
    simp only [note, List.mem_append, List.mem_singleton, reduceCtorEq, or_false] at held
    exact sound.closed other held
  timely := by
    refine (timely_snoc _ _).mpr ⟨sound.timely, ?_⟩
    intro op' closes same
    obtain ⟨rfl, rfl⟩ := Event.timedOut.inj same
    refine ⟨incomplete, fun socket => ⟨started, fun failed => ?_⟩⟩
    rw [sound.closed _ failed] at socket
    cases socket

/-- The number of a new operation is above all numbers that the log holds. -/
theorem Sound.after_startGuarded {s : HttpSession} (sound : Sound s) (side : Side) (afterMs : Int) :
    Sound (startGuarded side afterMs s) := by
  have cancelled := sound.after_cancel side
  have guarded : ∀ op, Guarded (startGuarded side afterMs s) op →
      Guarded (cancel side s) op ∨ op = (side, s.operations + 1) := by
    rintro op (queued | ⟨wait, armed, rfl⟩)
    · exact Or.inl (Or.inl queued)
    · rcases List.mem_append.mp armed with before | new
      · exact Or.inl (Or.inr ⟨wait, before, rfl⟩)
      · rw [List.mem_singleton.mp new]
        exact Or.inr rfl
  have pending : ∀ op, Pending (startGuarded side afterMs s) op →
      Pending (cancel side s) op ∨ op = (side, s.operations + 1) := by
    rintro op (underWay | ended)
    · rcases List.mem_append.mp underWay with before | new
      · exact Or.inl (Or.inl before)
      · exact Or.inr (List.mem_singleton.mp new)
    · exact Or.inl (Or.inr ended)
  constructor
  · intro op held
    rcases guarded op held with before | rfl
    · exact List.mem_append_left _ (cancelled.started op before)
    · exact List.mem_append_right _ List.mem_cons_self
  · intro op held member
    have logged : .completed op ∈ s.log := by
      simpa [startGuarded, note, cancel] using member
    rcases guarded op held with before | rfl
    · exact cancelled.incomplete op before logged
    · exact absurd (sound.counted _ (Or.inl logged)) (Nat.not_succ_le_self _)
  · intro op held
    rcases pending op held with before | rfl
    · exact Nat.le_succ_of_le (cancelled.numbered op before)
    · exact Nat.le_refl _
  · intro op held
    have logged : .completed op ∈ s.log ∨ .failed op ∈ s.log := by
      simpa [startGuarded, note, cancel] using held
    exact Nat.le_succ_of_le (sound.counted op logged)
  · intro op held
    have logged : .failed op ∈ s.log := by
      simpa [startGuarded, note, cancel] using held
    exact sound.closed op logged
  · exact (timely_snoc _ _).mpr ⟨sound.timely, fun _ _ same => nomatch same⟩

theorem Sound.after_readRequest {s : HttpSession} (sound : Sound s) :
    Sound (readRequest s) :=
  let limited : Sound { s with bodyLimit := some s.config.bodyLimitBytes } :=
    sound.of_frame rfl rfl (fun _ held => held) (fun _ held => held) id
  limited.after_startGuarded _ _

theorem Sound.after_writeResponse {s : HttpSession} (sound : Sound s) (rsp : HttpResponse) :
    Sound (writeResponse rsp s) :=
  let built : Sound { s with
      response := some (buildResponse s.config s.request s.requestId rsp) } :=
    sound.of_frame rfl rfl (fun _ held => held) (fun _ held => held) id
  built.after_startGuarded _ _

theorem Sound.after_onWait {s : HttpSession} (sound : Sound s) {wait : Wait} {expired : Bool}
    (guard : expired = true → .started wait.guarded ∈ s.log ∧ .completed wait.guarded ∉ s.log) :
    Sound (onWait wait expired s) := by
  cases expired with
  | false => exact sound
  | true => exact (sound.note_timedOut (guard rfl).1 (guard rfl).2).after_close

/-- After the cancel nothing is left that guards an operation of that side, but for timeouts. -/
theorem cancelled_free {s : HttpSession} {op : Operation} (prompt : ¬ TimeoutQueued s op) :
    ¬ Guarded (cancel op.1 s) op := by
  intro held
  rcases guarded_cancel held with queued | ⟨other, _⟩
  · exact prompt queued
  · exact other rfl

theorem Sound.after_onRead {s : HttpSession} (sound : Sound s) {number : Nat}
    {outcome : ReadOutcome} (old : number ≤ s.operations)
    (prompt : ∀ op ∈ completionOf (.readDone number outcome), ¬ TimeoutQueued s op) :
    Sound (onRead number outcome s) := by
  have cancelled := sound.after_cancel .read
  cases outcome with
  | request req =>
    have free := @cancelled_free s (.read, number) (prompt _ rfl)
    have parsed : Sound { cancel .read s with request := req, bodyLimit := none } :=
      cancelled.of_frame rfl rfl (fun _ held => held) (fun _ held => held) id
    exact (parsed.note_completed free old).of_frame rfl rfl (fun _ held => held)
      (fun _ held => held) id
  | endOfStream => exact cancelled.after_close.note_failed rfl old
  | failed => exact cancelled.after_close.note_failed rfl old

theorem Sound.after_onWrite {s : HttpSession} (sound : Sound s) {number : Nat} {succeeded : Bool}
    (old : number ≤ s.operations)
    (prompt : ∀ op ∈ completionOf (.writeDone number succeeded), ¬ TimeoutQueued s op) :
    Sound (onWrite number succeeded s) := by
  have cancelled := sound.after_cancel .write
  cases succeeded with
  | false => exact cancelled.after_close.note_failed rfl old
  | true =>
    have free := @cancelled_free s (.write, number) (prompt _ rfl)
    have reset : Sound { cancel .write s with
        response := none, request := {}, requestId := [] } :=
      cancelled.of_frame rfl rfl (fun _ held => held) (fun _ held => held) id
    have done := reset.note_completed free old
    unfold onWrite
    simp only [if_true]
    split
    · exact done.after_readRequest
    · exact done.after_close

theorem sound_start (config : ServerConfig) : Sound (start config) := by
  refine Sound.after_readRequest ?_
  constructor
  · rintro op (queued | ⟨wait, armed, _⟩)
    · cases queued
    · cases armed
  · intro op _ member
    cases member
  · rintro op (underWay | ended)
    · cases underWay
    · cases ended
  · rintro op (member | member)
    · cases member
    · cases member
  · intro op member
    cases member
  · exact timely_nil

theorem Sound.after_run {s : HttpSession} (sound : Sound s) {handler : Handler}
    (queued : handler ∈ s.ready) (prompt : ∀ op ∈ completionOf handler, ¬ TimeoutQueued s op) :
    Sound (runHandler handler { s with ready := s.ready.erase handler }) := by
  have fewer : ∀ {reading : Handler → Option Operation} {op},
      op ∈ (s.ready.erase handler).filterMap reading → op ∈ s.ready.filterMap reading :=
    fun held => (List.erase_sublist.filterMap _).subset held
  have taken : Sound { s with ready := s.ready.erase handler } :=
    sound.of_frame rfl rfl (fun _ => Or.imp fewer id) (fun _ => Or.imp id fewer) id
  have still : ∀ op ∈ completionOf handler,
      ¬ TimeoutQueued { s with ready := s.ready.erase handler } op :=
    fun op own held => prompt op own (fewer held)
  have ended : ∀ op, endOf handler = some op → op.2 ≤ s.operations :=
    fun op own => sound.numbered op (Or.inr (List.mem_filterMap.mpr ⟨handler, queued, own⟩))
  cases handler with
  | waited wait expired =>
    refine taken.after_onWait fun success => ?_
    subst success
    have guarded : Guarded s wait.guarded := Or.inl (List.mem_filterMap.mpr ⟨_, queued, rfl⟩)
    exact ⟨sound.started _ guarded, sound.incomplete _ guarded⟩
  | readDone number outcome => exact taken.after_onRead (ended _ rfl) still
  | writeDone number succeeded => exact taken.after_onWrite (ended _ rfl) still
  | writeResponse rsp => exact taken.after_writeResponse rsp

theorem mem_snoc {reading : Handler → Option Operation} {ready : List Handler}
    {handler : Handler} {op : Operation} (member : op ∈ (ready ++ [handler]).filterMap reading) :
    op ∈ ready.filterMap reading ∨ reading handler = some op := by
  rw [List.filterMap_append] at member
  refine (List.mem_append.mp member).imp id fun new => ?_
  obtain ⟨other, own, same⟩ := List.mem_filterMap.mp new
  rwa [List.mem_singleton.mp own] at same

theorem Sound.after_expire {s : HttpSession} (sound : Sound s) {wait : Wait}
    (armed : wait ∈ s.waits) :
    Sound { s with waits := s.waits.erase wait, ready := s.ready ++ [.waited wait true] } := by
  refine sound.of_frame rfl rfl ?_ ?_ id
  · rintro op (queued | ⟨other, kept, rfl⟩)
    · rcases mem_snoc queued with before | new
      · exact Or.inl before
      · exact Or.inr ⟨wait, armed, Option.some.inj new⟩
    · exact Or.inr ⟨other, List.mem_of_mem_erase kept, rfl⟩
  · rintro op (underWay | ended)
    · exact Or.inl underWay
    · rcases mem_snoc ended with before | new
      · exact Or.inr before
      · cases new

theorem Sound.after_end {s : HttpSession} (sound : Sound s) {op : Operation} {handler : Handler}
    (underWay : op ∈ s.underWay) (own : endOf handler = some op)
    (noTimeout : timeoutOf handler = none) :
    Sound { s with underWay := s.underWay.erase op, ready := s.ready ++ [handler] } := by
  refine sound.of_frame rfl rfl ?_ ?_ id
  · rintro other (queued | armed)
    · rcases mem_snoc queued with before | new
      · exact Or.inl before
      · rw [noTimeout] at new
        cases new
    · exact Or.inr armed
  · rintro other (still | ended)
    · exact Or.inl (List.mem_of_mem_erase still)
    · rcases mem_snoc ended with before | new
      · exact Or.inr before
      · obtain rfl := Option.some.inj (own.symm.trans new)
        exact Or.inl underWay

theorem Sound.after_runJob {s : HttpSession} (sound : Sound s) (generatedId : Bytes)
    (endpoint : Option Bytes) (dispatch : HttpRequest → HttpResponse) :
    Sound (runJob generatedId endpoint dispatch s) := by
  refine sound.of_frame rfl rfl ?_ ?_ id
  · rintro op (queued | armed)
    · rcases mem_snoc queued with before | new
      · exact Or.inl before
      · cases new
    · exact Or.inr armed
  · rintro op (underWay | ended)
    · exact Or.inl underWay
    · rcases mem_snoc ended with before | new
      · exact Or.inr before
      · cases new

theorem Sound.after_step {s t : HttpSession} (sound : Sound s) {action : Action}
    (prompt : Prompt s action) (stepped : step s action = some t) : Sound t := by
  cases action with
  | expire wait =>
    obtain ⟨armed, same⟩ := Option.ite_none_right_eq_some.mp stepped
    obtain rfl := Option.some.inj same
    exact sound.after_expire armed
  | readEnds number outcome =>
    obtain ⟨⟨underWay, _⟩, same⟩ := Option.ite_none_right_eq_some.mp stepped
    obtain rfl := Option.some.inj same
    exact sound.after_end underWay rfl rfl
  | writeEnds number succeeded =>
    obtain ⟨underWay, same⟩ := Option.ite_none_right_eq_some.mp stepped
    obtain rfl := Option.some.inj same
    exact sound.after_end underWay rfl rfl
  | work generatedId endpoint dispatch =>
    obtain ⟨_, same⟩ := Option.ite_none_right_eq_some.mp stepped
    obtain rfl := Option.some.inj same
    exact sound.after_runJob generatedId endpoint dispatch
  | run handler =>
    obtain ⟨queued, same⟩ := Option.ite_none_right_eq_some.mp stepped
    obtain rfl := Option.some.inj same
    exact sound.after_run queued prompt

theorem Sound.after_runActions {s t : HttpSession} (sound : Sound s) {actions : List Action}
    (prompt : PromptRun s actions) (ran : runActions s actions = some t) : Sound t := by
  induction actions generalizing s with
  | nil =>
    obtain rfl := Option.some.inj ran
    exact sound
  | cons action actions ih =>
    rw [runActions, List.foldlM_cons] at ran
    obtain ⟨next, stepped, rest⟩ := Option.bind_eq_some_iff.mp ran
    exact ih (sound.after_step prompt.1 stepped) (prompt.2 next stepped) rest

end sound

section late

/-- The later state has noted all that the earlier one had, and no handler was taken back. -/
structure Grows (s t : HttpSession) : Prop where
  log : s.log <+: t.log
  ready : s.ready ⊆ t.ready

theorem Grows.trans {s t u : HttpSession} (first : Grows s t) (second : Grows t u) : Grows s u :=
  ⟨first.log.trans second.log, List.Subset.trans first.ready second.ready⟩

theorem grows_refl (s : HttpSession) : Grows s s := ⟨List.prefix_rfl, List.Subset.refl _⟩

theorem grows_note (event : Event) (s : HttpSession) : Grows s (note event s) :=
  ⟨List.prefix_append _ _, List.Subset.refl _⟩

theorem grows_cancel (side : Side) (s : HttpSession) : Grows s (cancel side s) :=
  ⟨List.prefix_rfl, List.subset_append_left _ _⟩

theorem grows_close (s : HttpSession) : Grows s (close s) :=
  let cancelled := (grows_cancel .read s).trans (grows_cancel .write (cancel .read s))
  ⟨cancelled.log, cancelled.ready⟩

theorem grows_readRequest (s : HttpSession) : Grows s (readRequest s) :=
  ⟨List.prefix_append _ _, List.subset_append_left _ _⟩

theorem grows_writeResponse (rsp : HttpResponse) (s : HttpSession) :
    Grows s (writeResponse rsp s) :=
  ⟨List.prefix_append _ _, List.subset_append_left _ _⟩

theorem grows_onWait (wait : Wait) (expired : Bool) (s : HttpSession) :
    Grows s (onWait wait expired s) := by
  cases expired with
  | false => exact grows_refl s
  | true => exact (grows_note _ s).trans (grows_close _)

theorem grows_onRead (number : Nat) (outcome : ReadOutcome) (s : HttpSession) :
    Grows s (onRead number outcome s) ∧ ∀ op ∈ completionOf (.readDone number outcome),
      .completed op ∈ (onRead number outcome s).log := by
  have cancelled := grows_cancel .read s
  have failing := (cancelled.trans (grows_close _)).trans (grows_note (.failed (.read, number)) _)
  cases outcome with
  | request req =>
    refine ⟨⟨List.prefix_append _ _, cancelled.ready⟩, ?_⟩
    rintro op ⟨⟩
    exact List.mem_append_right _ List.mem_cons_self
  | endOfStream => exact ⟨failing, fun op own => nomatch own⟩
  | failed => exact ⟨failing, fun op own => nomatch own⟩

theorem grows_onWrite (number : Nat) (succeeded : Bool) (s : HttpSession) :
    Grows s (onWrite number succeeded s) ∧ ∀ op ∈ completionOf (.writeDone number succeeded),
      .completed op ∈ (onWrite number succeeded s).log := by
  have cancelled := grows_cancel .write s
  cases succeeded with
  | false =>
    exact ⟨(cancelled.trans (grows_close _)).trans (grows_note _ _), fun op own => nomatch own⟩
  | true =>
    have noted : .completed (.write, number) ∈ (note (.completed (.write, number)) s).log :=
      List.mem_append_right _ List.mem_cons_self
    have reset : Grows s (note (.completed (.write, number))
        { cancel .write s with response := none, request := {}, requestId := [] }) :=
      ⟨List.prefix_append _ _, cancelled.ready⟩
    have next : Grows (note (.completed (.write, number))
        { cancel .write s with response := none, request := {}, requestId := [] })
        (onWrite number true s) := by
      unfold onWrite
      simp only [if_true]
      split
      · exact grows_readRequest _
      · exact grows_close _
    refine ⟨reset.trans next, ?_⟩
    rintro op ⟨⟩
    exact next.log.subset noted

theorem grows_runHandler (handler : Handler) (s : HttpSession) :
    Grows s (runHandler handler s) ∧
      ∀ op ∈ completionOf handler, .completed op ∈ (runHandler handler s).log := by
  cases handler with
  | waited wait expired => exact ⟨grows_onWait wait expired s, fun op own => nomatch own⟩
  | readDone number outcome => exact grows_onRead number outcome s
  | writeDone number succeeded => exact grows_onWrite number succeeded s
  | writeResponse rsp => exact ⟨grows_writeResponse rsp s, fun op own => nomatch own⟩

theorem step_keeps {s t : HttpSession} {action : Action} (stepped : step s action = some t) :
    s.log <+: t.log ∧ ∀ handler ∈ s.ready, action ≠ .run handler → handler ∈ t.ready := by
  cases action with
  | expire wait =>
    obtain ⟨_, same⟩ := Option.ite_none_right_eq_some.mp stepped
    obtain rfl := Option.some.inj same
    exact ⟨List.prefix_rfl, fun _ queued _ => List.mem_append_left _ queued⟩
  | readEnds number outcome =>
    obtain ⟨_, same⟩ := Option.ite_none_right_eq_some.mp stepped
    obtain rfl := Option.some.inj same
    exact ⟨List.prefix_rfl, fun _ queued _ => List.mem_append_left _ queued⟩
  | writeEnds number succeeded =>
    obtain ⟨_, same⟩ := Option.ite_none_right_eq_some.mp stepped
    obtain rfl := Option.some.inj same
    exact ⟨List.prefix_rfl, fun _ queued _ => List.mem_append_left _ queued⟩
  | work generatedId endpoint dispatch =>
    obtain ⟨_, same⟩ := Option.ite_none_right_eq_some.mp stepped
    obtain rfl := Option.some.inj same
    exact ⟨List.prefix_rfl, fun _ queued _ => List.mem_append_left _ queued⟩
  | run ran =>
    obtain ⟨_, same⟩ := Option.ite_none_right_eq_some.mp stepped
    obtain rfl := Option.some.inj same
    have grown := (grows_runHandler ran { s with ready := s.ready.erase ran }).1
    refine ⟨grown.log, fun handler queued other => grown.ready ?_⟩
    exact (List.mem_erase_of_ne fun equal => other (by rw [equal])).mpr queued

def Late (log : List Event) (op : Operation) : Prop :=
  ∃ past closes future, log = past ++ .timedOut op closes :: future ∧ .completed op ∈ past

def Stale (s : HttpSession) (op : Operation) : Prop :=
  TimeoutQueued s op ∧ .completed op ∈ s.log

theorem Late.untimely {log : List Event} {op : Operation} (late : Late log op) : ¬ Timely log := by
  obtain ⟨past, closes, future, log, completed⟩ := late
  exact fun timely => (timely past op closes future log).1 completed

theorem Late.grows {log more : List Event} {op : Operation} (late : Late log op)
    (longer : log <+: more) : Late more op := by
  obtain ⟨past, closes, future, rfl, completed⟩ := late
  obtain ⟨rest, rfl⟩ := longer
  exact ⟨past, closes, future ++ rest, by simp, completed⟩

theorem timeoutOf_some {handler : Handler} {op : Operation} (own : timeoutOf handler = some op) :
    ∃ wait, handler = .waited wait true ∧ wait.guarded = op := by
  unfold timeoutOf at own
  split at own
  · rename_i wait
    exact ⟨wait, rfl, Option.some.inj own⟩
  · cases own

theorem Stale.after_step {s t : HttpSession} {op : Operation} (stale : Stale s op)
    {action : Action} (stepped : step s action = some t) : Stale t op ∨ Late t.log op := by
  obtain ⟨queued, completed⟩ := stale
  obtain ⟨log, kept⟩ := step_keeps stepped
  obtain ⟨handler, waiting, own⟩ := List.mem_filterMap.mp queued
  by_cases now : action = .run handler
  · subst now
    obtain ⟨wait, rfl, rfl⟩ := timeoutOf_some own
    obtain ⟨_, same⟩ := Option.ite_none_right_eq_some.mp stepped
    obtain rfl := Option.some.inj same
    exact Or.inr ⟨s.log, s.socketOpen, [], rfl, completed⟩
  · refine Or.inl ⟨List.mem_filterMap.mpr ⟨handler, kept handler waiting now, own⟩, ?_⟩
    exact log.subset completed

theorem stale_of_overtaking {s t : HttpSession} {action : Action} (overtaking : ¬ Prompt s action)
    (stepped : step s action = some t) : ∃ op, Stale t op := by
  cases action with
  | run handler =>
    obtain ⟨_, kept⟩ := step_keeps stepped
    obtain ⟨_, same⟩ := Option.ite_none_right_eq_some.mp stepped
    obtain rfl := Option.some.inj same
    simp only [Prompt, not_forall, not_not] at overtaking
    obtain ⟨op, completes, queued⟩ := overtaking
    have noted :=
      (grows_runHandler handler { s with ready := s.ready.erase handler }).2 op completes
    obtain ⟨timeout, waiting, own⟩ := List.mem_filterMap.mp queued
    refine ⟨op, List.mem_filterMap.mpr ⟨timeout, kept timeout waiting ?_, own⟩, noted⟩
    intro ran
    obtain ⟨wait, rfl, _⟩ := timeoutOf_some own
    obtain rfl := Action.run.inj ran
    cases completes
  | expire wait => exact absurd trivial overtaking
  | readEnds number outcome => exact absurd trivial overtaking
  | writeEnds number succeeded => exact absurd trivial overtaking
  | work generatedId endpoint dispatch => exact absurd trivial overtaking

theorem late_or_stale_stays {s t : HttpSession} {op : Operation}
    (before : Stale s op ∨ Late s.log op) {actions : List Action}
    (ran : runActions s actions = some t) : Stale t op ∨ Late t.log op := by
  induction actions generalizing s with
  | nil =>
    obtain rfl := Option.some.inj ran
    exact before
  | cons action actions ih =>
    rw [runActions, List.foldlM_cons] at ran
    obtain ⟨next, stepped, rest⟩ := Option.bind_eq_some_iff.mp ran
    refine ih ?_ rest
    rcases before with stale | late
    · exact stale.after_step stepped
    · exact Or.inr (late.grows (step_keeps stepped).1)

/-- A run that is not prompt has a late timeout in its log, or one that will be late. -/
theorem late_or_stale_of_overtaking {s t : HttpSession} {actions : List Action}
    (overtaking : ¬ PromptRun s actions) (ran : runActions s actions = some t) :
    ∃ op, Stale t op ∨ Late t.log op := by
  induction actions generalizing s with
  | nil => exact absurd trivial overtaking
  | cons action actions ih =>
    rw [runActions, List.foldlM_cons] at ran
    obtain ⟨next, stepped, rest⟩ := Option.bind_eq_some_iff.mp ran
    by_cases prompt : Prompt s action
    · refine ih (fun later => overtaking ⟨prompt, fun other reached => ?_⟩) rest
      obtain rfl := Option.some.inj (stepped.symm.trans reached)
      exact later
    · obtain ⟨op, stale⟩ := stale_of_overtaking prompt stepped
      exact ⟨op, late_or_stale_stays (Or.inl stale) rest⟩

theorem prompt_iff {config : ServerConfig} {actions : List Action} {s : HttpSession}
    (ran : runActions (start config) actions = some s) :
    PromptRun (start config) actions ↔ Timely s.log ∧ ∀ op, ¬ Stale s op := by
  constructor
  · intro prompt
    have sound := (sound_start config).after_runActions prompt ran
    exact ⟨sound.timely, fun op stale => sound.incomplete op (Or.inl stale.1) stale.2⟩
  · rintro ⟨timely, fresh⟩
    by_contra overtaking
    obtain ⟨op, stale | late⟩ := late_or_stale_of_overtaking overtaking ran
    · exact fresh op stale
    · exact late.untimely timely

/-- A session whose steps are all prompt has no late timeout. Once all handlers have run, a session
    without late timeouts has been prompt in every step. -/
theorem timeouts_timely (config : ServerConfig) (actions : List Action) (s : HttpSession)
    (ran : runActions (start config) actions = some s) :
    (PromptRun (start config) actions → Timely s.log) ∧
      (s.ready = [] → (Timely s.log ↔ PromptRun (start config) actions)) := by
  have promptly := prompt_iff ran
  refine ⟨fun prompt => (promptly.mp prompt).1, fun drained => ⟨fun timely => ?_, fun prompt => ?_⟩⟩
  · refine promptly.mpr ⟨timely, fun op stale => ?_⟩
    have queued := stale.1
    rw [TimeoutQueued, drained] at queued
    cases queued
  · exact (promptly.mp prompt).1

end late

section runs

instance (s : HttpSession) (op : Operation) : Decidable (TimeoutQueued s op) :=
  inferInstanceAs (Decidable (_ ∈ _))

instance (s : HttpSession) : ∀ action, Decidable (Prompt s action)
  | .run handler => inferInstanceAs (Decidable (∀ op ∈ completionOf handler, ¬ TimeoutQueued s op))
  | .expire _ | .readEnds _ _ | .writeEnds _ _ | .work _ _ _ => isTrue trivial

instance decidablePromptRun : ∀ s actions, Decidable (PromptRun s actions)
  | _, [] => isTrue trivial
  | s, action :: actions =>
    have := fun next => decidablePromptRun next actions
    inferInstanceAs (Decidable (Prompt s action ∧ ∀ next ∈ step s action, PromptRun next actions))

def getRequest : BeastRequest := { method := bytes "GET", target := bytes "/api/user/profile" }

def answerNothing : HttpRequest → HttpResponse := fun _ => {}

def idleRun : List Action :=
  [.readEnds 1 (.request getRequest), .run (.readDone 1 (.request getRequest)),
    .run (.waited ⟨(.read, 1), 3000⟩ false), .work (bytes "tgw-1-1") none answerNothing,
    .run (.writeResponse {}), .writeEnds 2 true, .run (.writeDone 2 true),
    .run (.waited ⟨(.write, 2), 3000⟩ false), .expire ⟨(.read, 3), 3000⟩,
    .run (.waited ⟨(.read, 3), 3000⟩ true), .readEnds 3 .failed, .run (.readDone 3 .failed)]

theorem timeouts_timely_idle :
    ∃ s, runActions (start {}) idleRun = some s ∧ s.ready = [] ∧ Timely s.log := by
  have runs : (runActions (start {}) idleRun).map HttpSession.ready = some [] := by decide +kernel
  obtain ⟨s, ran, drained⟩ := Option.map_eq_some_iff.mp runs
  exact ⟨s, ran, drained, (timeouts_timely {} idleRun s ran).1 (by decide +kernel)⟩

/-- The request has arrived, and the timer expires before the handler of the read cancels it. -/
def overtakenRun : List Action :=
  [.readEnds 1 (.request getRequest), .expire ⟨(.read, 1), 3000⟩,
    .run (.readDone 1 (.request getRequest)), .run (.waited ⟨(.read, 1), 3000⟩ true)]

theorem live_request_dropped :
    ∃ s, runActions (start {}) overtakenRun = some s ∧ Late s.log (.read, 1) ∧ ¬ Timely s.log ∧
      s.posted = 1 ∧ s.socketOpen = false := by
  have runs : (runActions (start {}) overtakenRun).map (fun s => (s.log, s.posted, s.socketOpen)) =
      some ([.started (.read, 1), .completed (.read, 1), .timedOut (.read, 1) true], 1, false) := by
    decide +kernel
  obtain ⟨s, ran, shown⟩ := Option.map_eq_some_iff.mp runs
  obtain ⟨log, rest⟩ := Prod.mk.inj shown
  obtain ⟨posted, socket⟩ := Prod.mk.inj rest
  have late : Late s.log (.read, 1) :=
    ⟨[.started (.read, 1), .completed (.read, 1)], true, [], log, by simp⟩
  exact ⟨s, ran, late, late.untimely, posted, socket⟩

end runs

end TgwSessionTimers
