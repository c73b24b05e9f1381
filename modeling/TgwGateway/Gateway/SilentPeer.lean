import TgwGateway.Gateway.SessionFlow

/- What the timers are for: a session whose peer falls silent does its own work, waits, and closes
   its connection. -/
namespace TgwSilentPeer
open TgwConfig TgwHttp TgwHttpSession TgwSessionTimers TgwSessionFlow

section definitions

/-- What the session brings about by itself. A read or a write is ended by the peer, or aborted once
    the session has closed its socket. -/
def isOwn (s : HttpSession) : Action → Bool
  | .readEnds _ outcome => !s.socketOpen && outcome == .failed
  | .writeEnds _ succeeded => !s.socketOpen && !succeeded
  | _ => true

def ownRun : HttpSession → List Action → Bool
  | _, [] => true
  | s, action :: later => isOwn s action && (step s action).all fun t => ownRun t later

/-- On an open connection a timer runs for every operation, and no timer runs for anything else. -/
structure Watched (s : HttpSession) : Prop where
  guarded : s.socketOpen = true → ∀ op ∈ s.underWay, Guarded s op
  needed : ∀ wait ∈ s.waits, Pending s wait.guarded

/-- How many own steps a handler leads to at most, itself included. -/
def weight : Handler → Nat
  | .waited _ _ => 1
  | .readDone _ (.request _) => 7
  | .readDone _ _ => 1
  | .writeDone _ true => 5
  | .writeDone _ false => 1
  | .writeResponse _ => 5

def ownWork (s : HttpSession) : Nat :=
  2 * s.waits.length + 2 * s.underWay.length + 6 * s.posted + (s.ready.map weight).sum

end definitions

section watched
variable {s t : HttpSession} {phase : RequestLoop.Phase BeastRequest Job BeastResponse}

theorem guarded_started (side : Side) (afterMs : Int) (s : HttpSession) :
    Guarded (startGuarded side afterMs s) (side, s.operations + 1) :=
  Or.inr ⟨⟨(side, s.operations + 1), afterMs⟩, List.mem_append_right _ List.mem_cons_self, rfl⟩

theorem Watched.no_wait (watched : Watched s) (nothing : ∀ op, ¬ Pending s op) : s.waits = [] :=
  List.eq_nil_iff_forall_not_mem.mpr fun wait armed => nothing _ (watched.needed wait armed)

theorem Watched.started (idle : s.underWay = []) (bare : s.waits = []) (side : Side)
    (afterMs : Int) : Watched (startGuarded side afterMs s) where
  guarded _ op underWay := by
    have own : (startGuarded side afterMs s).underWay = [(side, s.operations + 1)] := by
      simp [startGuarded, note, cancel, idle]
    rw [own, List.mem_singleton] at underWay
    rw [underWay]
    exact guarded_started side afterMs s
  needed wait armed := by
    have own : (startGuarded side afterMs s).waits = [⟨(side, s.operations + 1), afterMs⟩] := by
      simp [startGuarded, note, cancel, bare]
    rw [own, List.mem_singleton] at armed
    rw [armed]
    exact Or.inl (List.mem_append_right _ List.mem_cons_self)

theorem Watched.resting (idle : s.underWay = []) (bare : s.waits = []) : Watched s where
  guarded _ op underWay := by
    rw [idle] at underWay
    cases underWay
  needed wait armed := by
    rw [bare] at armed
    cases armed

theorem Watched.closed (bare : s.waits = []) (shut : s.socketOpen = false) : Watched s where
  guarded live := by
    rw [shut] at live
    cases live
  needed wait armed := by
    rw [bare] at armed
    cases armed

theorem waits_close (s : HttpSession) : (close s).waits = [] := by
  simp only [close, cancel, List.filter_filter, List.filter_eq_nil_iff]
  intro wait _
  cases side : wait.guarded.1 <;> simp

theorem watched_close (s : HttpSession) : Watched (close s) :=
  .closed (waits_close s) rfl

theorem pending_of_place {operations : List Operation} {posted : Nat} {handlers : List Handler}
    (at_place : place s = (operations, posted, handlers)) {op : Operation} (pending : Pending s op) :
    op ∈ operations ∨ ∃ handler ∈ handlers, endOf handler = some op := by
  obtain ⟨rfl, rfl, rfl⟩ := place_parts at_place
  refine pending.imp id fun ended => ?_
  obtain ⟨handler, queued, own⟩ := List.mem_filterMap.mp ended
  refine ⟨handler, List.mem_filter.mpr ⟨queued, ?_⟩, own⟩
  cases handler with
  | waited wait expired => cases own
  | readDone number outcome => rfl
  | writeDone number succeeded => rfl
  | writeResponse rsp => rfl

theorem timeoutQueued_kept {handler : Handler} {op : Operation} (other : timeoutOf handler = none)
    (queued : TimeoutQueued s op) :
    TimeoutQueued { s with ready := s.ready.erase handler } op := by
  obtain ⟨timeout, member, own⟩ := List.mem_filterMap.mp queued
  refine List.mem_filterMap.mpr ⟨timeout, (List.mem_erase_of_ne ?_).mpr member, own⟩
  rintro rfl
  rw [other] at own
  cases own

theorem pending_kept {handler : Handler} {op : Operation} (other : endOf handler = none)
    (pending : Pending s op) : Pending { s with ready := s.ready.erase handler } op := by
  refine pending.imp id fun ended => ?_
  obtain ⟨completion, member, own⟩ := List.mem_filterMap.mp ended
  refine List.mem_filterMap.mpr ⟨completion, (List.mem_erase_of_ne ?_).mpr member, own⟩
  rintro rfl
  rw [other] at own
  cases own

theorem Watched.aborted (watched : Watched s) (wait : Wait) :
    Watched { s with ready := s.ready.erase (.waited wait false) } where
  guarded live op underWay :=
    (watched.guarded live op underWay).imp (timeoutQueued_kept rfl) id
  needed other armed := pending_kept rfl (watched.needed other armed)

theorem Watched.queued (watched : Watched s) (handler : Handler) :
    Watched { s with ready := s.ready ++ [handler] } where
  guarded live op underWay := by
    refine (watched.guarded live op underWay).imp (fun queued => ?_) id
    rw [TimeoutQueued, List.filterMap_append]
    exact List.mem_append_left _ queued
  needed wait armed := by
    refine (watched.needed wait armed).imp id fun ended => ?_
    rw [List.filterMap_append]
    exact List.mem_append_left _ ended

theorem Watched.after_expire (watched : Watched s) (wait : Wait) :
    Watched { s with waits := s.waits.erase wait, ready := s.ready ++ [.waited wait true] } where
  guarded live op underWay := by
    rcases (watched.queued (.waited wait true)).guarded live op underWay with queued | ⟨other, held⟩
    · exact Or.inl queued
    · by_cases own : other = wait
      · refine Or.inl (List.mem_filterMap.mpr ⟨.waited wait true, by simp, ?_⟩)
        rw [timeoutOf, ← own, held.2]
      · exact Or.inr ⟨other, (List.mem_erase_of_ne own).mpr held.1, held.2⟩
  needed other kept :=
    (watched.queued (.waited wait true)).needed other (List.mem_of_mem_erase kept)

theorem Watched.after_end (watched : Watched s) {op : Operation} {handler : Handler}
    (own : endOf handler = some op) :
    Watched { s with underWay := s.underWay.erase op, ready := s.ready ++ [handler] } where
  guarded live other underWay :=
    (watched.queued handler).guarded live other (List.mem_of_mem_erase underWay)
  needed wait armed := by
    rcases (watched.queued handler).needed wait armed with underWay | ended
    · by_cases same : wait.guarded = op
      · exact Or.inr (List.mem_filterMap.mpr ⟨handler, by simp, by rw [own, same]⟩)
      · exact Or.inl ((List.mem_erase_of_ne same).mpr underWay)
    · exact Or.inr ended

/-- Behind the handler of an operation's end, the timer of its side is the only one to cancel. -/
theorem bare_after_end (watched : Watched s) {op : Operation} {handler : Handler}
    (own : endOf handler = some op) (at_end : place s = ([], 0, [handler])) :
    (cancel op.1 { s with ready := s.ready.erase handler }).waits = [] := by
  simp only [cancel, List.filter_eq_nil_iff, decide_eq_true_eq, not_not]
  intro wait armed
  rcases pending_of_place at_end (watched.needed wait armed) with underWay | ⟨other, queued, ended⟩
  · cases underWay
  · rw [List.mem_singleton.mp queued, own] at ended
    rw [← Option.some.inj ended]

theorem Watched.after_onRead (watched : Watched s) {number : Nat} {outcome : ReadOutcome}
    (at_end : place s = ([], 0, [.readDone number outcome])) :
    Watched (onRead number outcome
      { s with ready := s.ready.erase (.readDone number outcome) }) := by
  have own : endOf (.readDone number outcome) = some (.read, number) := rfl
  have bare := bare_after_end watched own at_end
  cases outcome with
  | request req => exact .resting (place_parts at_end).1 bare
  | endOfStream => exact .closed (waits_close (cancel .read _)) rfl
  | failed => exact .closed (waits_close (cancel .read _)) rfl

theorem Watched.after_onWrite (watched : Watched s) {number : Nat} {succeeded : Bool}
    (at_end : place s = ([], 0, [.writeDone number succeeded])) :
    Watched (onWrite number succeeded
      { s with ready := s.ready.erase (.writeDone number succeeded) }) := by
  have own : endOf (.writeDone number succeeded) = some (.write, number) := rfl
  have bare := bare_after_end watched own at_end
  cases succeeded with
  | false => exact .closed (waits_close (cancel .write _)) rfl
  | true =>
    unfold onWrite
    simp only [if_true]
    split
    · refine Watched.started ?_ ?_ .read _
      · exact (place_parts at_end).1
      · exact bare
    · exact watched_close _

theorem Watched.bare_between (watched : Watched s) {posted : Nat} {handlers : List Handler}
    (between : place s = ([], posted, handlers))
    (no_end : ∀ handler ∈ handlers, endOf handler = none) : s.waits = [] := by
  refine watched.no_wait fun op pending => ?_
  rcases pending_of_place between pending with underWay | ⟨handler, queued, ended⟩
  · cases underWay
  · rw [no_end handler queued] at ended
    cases ended

theorem Watched.after_writeResponse (watched : Watched s) {rsp : HttpResponse}
    (at_queue : place s = ([], 0, [.writeResponse rsp])) :
    Watched (writeResponse rsp { s with ready := s.ready.erase (.writeResponse rsp) }) := by
  refine Watched.started ?_ ?_ .write _
  · exact (place_parts at_queue).1
  · exact watched.bare_between at_queue (by simp [endOf])

theorem Watched.after_run (watched : Watched s) (stands : Stands s phase) {handler : Handler}
    (queued : handler ∈ s.ready) :
    Watched (runHandler handler { s with ready := s.ready.erase handler }) := by
  have here : carries handler = true → place s = ([], 0, [handler]) := fun carrying =>
    stands.place_of_carried queued carrying
  cases handler with
  | waited wait expired =>
    cases expired with
    | false => exact watched.aborted wait
    | true => exact watched_close _
  | readDone number outcome => exact watched.after_onRead (here rfl)
  | writeDone number succeeded => exact watched.after_onWrite (here rfl)
  | writeResponse rsp => exact watched.after_writeResponse (here rfl)

theorem Watched.after_step (watched : Watched s) (stands : Stands s phase) {action : Action}
    (stepped : step s action = some t) : Watched t := by
  cases action with
  | expire wait =>
    obtain ⟨_, same⟩ := Option.ite_none_right_eq_some.mp stepped
    obtain rfl := Option.some.inj same
    exact watched.after_expire wait
  | readEnds number outcome =>
    obtain ⟨_, same⟩ := Option.ite_none_right_eq_some.mp stepped
    obtain rfl := Option.some.inj same
    exact watched.after_end rfl
  | writeEnds number succeeded =>
    obtain ⟨_, same⟩ := Option.ite_none_right_eq_some.mp stepped
    obtain rfl := Option.some.inj same
    exact watched.after_end rfl
  | work generatedId endpoint dispatch =>
    obtain ⟨_, same⟩ := Option.ite_none_right_eq_some.mp stepped
    obtain rfl := Option.some.inj same
    let rsp := dispatch (convertBeastRequest s.request (endpoint.getD (ByteStrings.bytes "unknown"))
      ((findField s.request.fields (ByteStrings.bytes "X-Request-Id")).getD generatedId))
    exact ⟨(watched.queued (.writeResponse rsp)).guarded, (watched.queued (.writeResponse rsp)).needed⟩
  | run handler =>
    obtain ⟨queued, same⟩ := Option.ite_none_right_eq_some.mp stepped
    obtain rfl := Option.some.inj same
    exact watched.after_run stands queued

theorem watched_start (config : ServerConfig) : Watched (start config) :=
  .started rfl rfl .read config.readTimeoutMs

theorem watched_of_start {config : ServerConfig} {actions : List Action}
    (ran : runActions (start config) actions = some s) : Watched s := by
  suffices kept : ∀ {before : HttpSession} {phase}, Stands before phase → Watched before →
      runActions before actions = some s → Watched s from
    kept (stands_start config) (watched_start config) ran
  clear ran
  induction actions with
  | nil =>
    intro before phase _ watched ran
    obtain rfl := Option.some.inj ran
    exact watched
  | cons action actions ih =>
    intro before phase stands watched ran
    rw [runActions, List.foldlM_cons] at ran
    obtain ⟨next, stepped, rest⟩ := Option.bind_eq_some_iff.mp ran
    obtain ⟨_, _, standing⟩ := stands.after_step stepped
    exact ih standing (watched.after_step stands stepped) rest

end watched

section ownSteps
variable {s t : HttpSession}

theorem weight_aborted (waits : List Wait) :
    ((waits.map fun wait => Handler.waited wait false).map weight).sum = waits.length := by
  induction waits with
  | nil => rfl
  | cons wait waits ih =>
    simp only [List.map_cons, List.sum_cons, List.length_cons, ih, weight]
    omega

theorem ownWork_cancel (side : Side) (s : HttpSession) : ownWork (cancel side s) ≤ ownWork s := by
  have split := List.length_eq_length_filter_add (l := s.waits) fun wait => wait.guarded.1 = side
  have other : (s.waits.filter fun wait => !decide (wait.guarded.1 = side)) =
      s.waits.filter fun wait => wait.guarded.1 ≠ side := by simp
  rw [other] at split
  simp only [ownWork, cancel, List.map_append, List.sum_append, weight_aborted]
  omega

theorem ownWork_close (s : HttpSession) : ownWork (close s) ≤ ownWork s :=
  (ownWork_cancel .write (cancel .read s)).trans (ownWork_cancel .read s)

theorem ownWork_startGuarded (side : Side) (afterMs : Int) (s : HttpSession) :
    ownWork (startGuarded side afterMs s) ≤ ownWork s + 4 := by
  have cancelled := ownWork_cancel side s
  have started : ownWork (startGuarded side afterMs s) = ownWork (cancel side s) + 4 := by
    simp only [ownWork, startGuarded, note, List.length_append, List.length_singleton]
    omega
  omega

theorem ownWork_onWait (wait : Wait) (expired : Bool) (s : HttpSession) :
    ownWork (onWait wait expired s) ≤ ownWork s := by
  cases expired with
  | false => exact Nat.le_refl _
  | true => exact ownWork_close (note (.timedOut wait.guarded s.socketOpen) s)

theorem ownWork_onRead (number : Nat) (outcome : ReadOutcome) (s : HttpSession) :
    ownWork (onRead number outcome s) < ownWork s + weight (.readDone number outcome) := by
  have cancelled := ownWork_cancel .read s
  have closed := ownWork_close (cancel .read s)
  cases outcome with
  | request req =>
    have posted : ownWork (onRead number (.request req) s) = ownWork (cancel .read s) + 6 := by
      simp only [ownWork, onRead, dispatchRequest, note]
      omega
    simp only [weight]
    omega
  | endOfStream => exact Nat.lt_succ_of_le (closed.trans cancelled)
  | failed => exact Nat.lt_succ_of_le (closed.trans cancelled)

theorem ownWork_onWrite (number : Nat) (succeeded : Bool) (s : HttpSession) :
    ownWork (onWrite number succeeded s) < ownWork s + weight (.writeDone number succeeded) := by
  have cancelled := ownWork_cancel .write s
  cases succeeded with
  | false => exact Nat.lt_succ_of_le ((ownWork_close (cancel .write s)).trans cancelled)
  | true =>
    refine Nat.lt_succ_of_le ?_
    unfold onWrite
    simp only [if_true]
    split
    · exact (ownWork_startGuarded .read _ _).trans (Nat.add_le_add_right cancelled 4)
    · exact (ownWork_close _).trans (cancelled.trans (Nat.le_add_right _ 4))

theorem ownWork_taken {handler : Handler} (queued : handler ∈ s.ready) :
    ownWork s = ownWork { s with ready := s.ready.erase handler } + weight handler := by
  have split := (List.perm_cons_erase queued).map weight |>.sum_nat
  simp only [List.map_cons, List.sum_cons] at split
  simp only [ownWork]
  omega

theorem ownWork_abort {op : Operation} (underWay : op ∈ s.underWay) {handler : Handler}
    (light : weight handler = 1) :
    ownWork { s with underWay := s.underWay.erase op, ready := s.ready ++ [handler] } <
      ownWork s := by
  have fewer := List.length_erase_of_mem underWay
  have some_op := List.length_pos_of_mem underWay
  simp only [ownWork, List.map_append, List.sum_append, List.map_singleton, List.sum_singleton,
    light, fewer]
  omega

theorem ownWork_step {action : Action} (own : isOwn s action = true)
    (stepped : step s action = some t) : ownWork t < ownWork s := by
  cases action with
  | expire wait =>
    obtain ⟨armed, same⟩ := Option.ite_none_right_eq_some.mp stepped
    obtain rfl := Option.some.inj same
    have fewer := List.length_erase_of_mem armed
    have some_armed := List.length_pos_of_mem armed
    simp only [ownWork, List.map_append, List.sum_append, List.map_singleton,
      List.sum_singleton, weight, fewer]
    omega
  | readEnds number outcome =>
    obtain ⟨ends, same⟩ := Option.ite_none_right_eq_some.mp stepped
    obtain rfl := Option.some.inj same
    simp only [isOwn, Bool.and_eq_true, beq_iff_eq] at own
    obtain rfl := own.2
    exact ownWork_abort ends.1 rfl
  | writeEnds number succeeded =>
    obtain ⟨underWay, same⟩ := Option.ite_none_right_eq_some.mp stepped
    obtain rfl := Option.some.inj same
    simp only [isOwn, Bool.and_eq_true, Bool.not_eq_true'] at own
    obtain rfl := own.2
    exact ownWork_abort underWay rfl
  | work generatedId endpoint dispatch =>
    obtain ⟨waiting, same⟩ := Option.ite_none_right_eq_some.mp stepped
    obtain rfl := Option.some.inj same
    simp only [ownWork, runJob, List.map_append, List.sum_append, List.map_singleton,
      List.sum_singleton, weight]
    omega
  | run handler =>
    obtain ⟨queued, same⟩ := Option.ite_none_right_eq_some.mp stepped
    obtain rfl := Option.some.inj same
    have taken := ownWork_taken queued
    cases handler with
    | waited wait expired =>
      have after := ownWork_onWait wait expired
        { s with ready := s.ready.erase (.waited wait expired) }
      simp only [weight] at taken
      simp only [runHandler]
      omega
    | readDone number outcome =>
      have after := ownWork_onRead number outcome
        { s with ready := s.ready.erase (.readDone number outcome) }
      simp only [runHandler]
      omega
    | writeDone number succeeded =>
      have after := ownWork_onWrite number succeeded
        { s with ready := s.ready.erase (.writeDone number succeeded) }
      simp only [runHandler]
      omega
    | writeResponse rsp =>
      have after : ownWork (writeResponse rsp
          { s with ready := s.ready.erase (.writeResponse rsp) }) ≤
          ownWork { s with ready := s.ready.erase (.writeResponse rsp) } + 4 :=
        ownWork_startGuarded .write s.config.writeTimeoutMs
          { s with
            ready := s.ready.erase (.writeResponse rsp)
            response := some (buildResponse s.config s.request s.requestId rsp) }
      simp only [weight] at taken
      simp only [runHandler]
      omega

theorem ownWork_run {actions : List Action} (own : ownRun s actions = true)
    (ran : runActions s actions = some t) : actions.length + ownWork t ≤ ownWork s := by
  induction actions generalizing s with
  | nil =>
    obtain rfl := Option.some.inj ran
    simp
  | cons action actions ih =>
    rw [runActions, List.foldlM_cons] at ran
    obtain ⟨next, stepped, rest⟩ := Option.bind_eq_some_iff.mp ran
    simp only [ownRun, stepped, Option.all_some, Bool.and_eq_true] at own
    have less := ownWork_step own.1 stepped
    have tail := ih own.2 rest
    rw [List.length_cons]
    omega

end ownSteps

section results
variable {config : ServerConfig} {actions : List Action} {s t : HttpSession}

/-- On an open connection every read or write has its timer: armed, or expired and queued. No timer
    is armed while a job answers the request or its response waits to be written. -/
theorem timers_watch (ran : runActions (start config) actions = some s) :
    (s.socketOpen = true → ∀ op ∈ s.underWay, Guarded s op) ∧
      (∀ wait ∈ s.waits, Pending s wait.guarded) ∧
      (0 < s.posted ∨ (∃ rsp, .writeResponse rsp ∈ s.ready) → s.waits = []) := by
  have watched := watched_of_start ran
  obtain ⟨final, _, stands⟩ := run_of_start ran
  refine ⟨watched.guarded, watched.needed, ?_⟩
  rintro (waiting | ⟨rsp, queued⟩)
  · exact watched.bare_between (stands.at_pool waiting).2 (by simp)
  · exact watched.bare_between (stands.place_of_carried queued rfl) (by simp [endOf])

def unread : List Action :=
  [.readEnds 1 (.request {}), .run (.readDone 1 (.request {})),
    .work (ByteStrings.bytes "tgw-1-0") none fun _ => {}, .run (.writeResponse {})]

theorem timers_watch_expired : ∃ s,
    runActions (start {}) (unread ++ [.expire ⟨(.write, 2), 3000⟩]) = some s ∧
      s.underWay = [(.write, 2)] ∧ s.waits = [] ∧ Guarded s (.write, 2) := by
  have writes : (runActions (start {}) (unread ++ [.expire ⟨(.write, 2), 3000⟩])).map
      (fun s => (s.underWay, s.waits, s.socketOpen)) = some ([(.write, 2)], [], true) := by decide
  obtain ⟨s, ran, parts⟩ := Option.map_eq_some_iff.mp writes
  obtain ⟨underWay, waits, live⟩ :
      s.underWay = [(.write, 2)] ∧ s.waits = [] ∧ s.socketOpen = true := by simpa using parts
  exact ⟨s, ran, underWay, waits, (timers_watch ran).1 live _ (by simp [underWay])⟩

theorem stuck_iff : (∀ action, isOwn s action = true → step s action = none) ↔
    s.waits = [] ∧ s.ready = [] ∧ s.posted = 0 ∧ (s.socketOpen = false → s.underWay = []) := by
  constructor
  · intro stuck
    refine ⟨List.eq_nil_iff_forall_not_mem.mpr fun wait armed => ?_,
      List.eq_nil_iff_forall_not_mem.mpr fun handler queued => ?_, ?_, fun shut =>
      List.eq_nil_iff_forall_not_mem.mpr fun op underWay => ?_⟩
    · have idle := stuck (.expire wait) rfl
      simp [step, armed] at idle
    · have idle := stuck (.run handler) rfl
      simp [step, queued] at idle
    · by_contra waiting
      have idle := stuck (.work [] none fun _ => {}) rfl
      simp [step, Nat.pos_of_ne_zero waiting] at idle
    · obtain ⟨side, number⟩ := op
      cases side with
      | read =>
        have idle := stuck (.readEnds number .failed) (by simp [isOwn, shut])
        simp [step, underWay, ReadOutcome.fits] at idle
      | write =>
        have idle := stuck (.writeEnds number false) (by simp [isOwn, shut])
        simp [step, underWay] at idle
  · rintro ⟨no_wait, no_handler, no_job, aborted⟩ action own
    cases action with
    | expire wait => simp [step, no_wait]
    | readEnds number outcome =>
      simp only [isOwn, Bool.and_eq_true, Bool.not_eq_true'] at own
      simp [step, aborted own.1]
    | writeEnds number succeeded =>
      simp only [isOwn, Bool.and_eq_true, Bool.not_eq_true'] at own
      simp [step, aborted own.1]
    | work generatedId endpoint dispatch => simp [step, no_job]
    | run handler => simp [step, no_handler]

/-- A session that can do nothing more by itself has no operation that nobody watches. -/
theorem closed_of_stuck (ran : runActions (start config) actions = some s)
    (stuck : ∀ action, isOwn s action = true → step s action = none) :
    s.socketOpen = false ∧ s.underWay = [] := by
  obtain ⟨no_wait, no_handler, no_job, aborted⟩ := stuck_iff.mp stuck
  obtain ⟨final, _, stands⟩ := run_of_start ran
  have shut : s.socketOpen = false := by
    rcases stands.awaits_one with one | ⟨_, closed⟩
    · by_contra live
      rw [awaited, no_job, no_handler] at one
      obtain ⟨op, underWay⟩ := List.exists_mem_of_length_pos (l := s.underWay) (by simp at one; omega)
      have guarded := (watched_of_start ran).guarded (by simpa using live) op underWay
      rw [Guarded, TimeoutQueued, no_handler, no_wait] at guarded
      simp at guarded
    · exact closed
  exact ⟨shut, aborted shut⟩

/-- When the peer falls silent, the session does its own work in a bounded number of steps, in
    whatever order, and at their end the connection is closed and nothing is under way on it. -/
theorem silent_peer_closed {silent : List Action}
    (ran : runActions (start config) actions = some s)
    (own : ownRun s silent = true) (went_on : runActions s silent = some t) :
    silent.length + ownWork t ≤ ownWork s ∧
      ((∀ action, isOwn t action = true → step t action = none) →
        t.socketOpen = false ∧ t.underWay = []) := by
  have whole : runActions (start config) (actions ++ silent) = some t := by
    rw [runActions, List.foldlM_append]
    exact Option.bind_eq_some_iff.mpr ⟨s, ran, went_on⟩
  exact ⟨ownWork_run own went_on, closed_of_stuck whole⟩

/-- The write timer closes the connection, and that aborts the write. -/
def unreadEnd : List Action :=
  [.run (.waited ⟨(.read, 1), 3000⟩ false), .expire ⟨(.write, 2), 3000⟩,
    .run (.waited ⟨(.write, 2), 3000⟩ true), .writeEnds 2 false, .run (.writeDone 2 false)]

theorem silent_peer_closed_unread :
    ∃ s t, runActions (start {}) unread = some s ∧ runActions s unreadEnd = some t ∧
      unreadEnd.length + ownWork t ≤ ownWork s ∧ t.socketOpen = false ∧ t.underWay = [] := by
  have runs : ((runActions (start {}) unread).bind fun s =>
      (runActions s unreadEnd).map fun t => (ownRun s unreadEnd, t.waits.isEmpty && t.ready.isEmpty,
        t.posted, t.underWay)) = some (true, true, 0, []) := by decide
  obtain ⟨s, ran, rest⟩ := Option.bind_eq_some_iff.mp runs
  obtain ⟨t, went_on, idle⟩ := Option.map_eq_some_iff.mp rest
  simp only [Prod.mk.injEq, Bool.and_eq_true, List.isEmpty_iff] at idle
  obtain ⟨own, ⟨no_wait, no_handler⟩, no_job, aborted⟩ := idle
  obtain ⟨bounded, closes⟩ := silent_peer_closed ran own went_on
  exact ⟨s, t, ran, went_on, bounded,
    closes (stuck_iff.mpr ⟨no_wait, no_handler, no_job, fun _ => aborted⟩)⟩

end results

end TgwSilentPeer
