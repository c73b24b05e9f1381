import TgwGateway.Gateway.SessionTimers
import TgwGateway.Lib.RequestLoop

/- The session as a loop over requests: its socket, its queue of handlers and the worker pool hand
   one exchange on to each other, whatever the timers do in between. -/
namespace TgwSessionFlow
open ByteStrings TgwConfig TgwHttp TgwHttpSession TgwSessionTimers

section definitions

/-- What the job of the worker pool adds to a request. -/
structure Job where
  generatedId : Bytes
  endpoint : Option Bytes
  dispatch : HttpRequest → HttpResponse

def Job.requestId (job : Job) (request : BeastRequest) : Bytes :=
  (findField request.fields (bytes "X-Request-Id")).getD job.generatedId

def Job.call (job : Job) (request : BeastRequest) : HttpRequest :=
  convertBeastRequest request (job.endpoint.getD (bytes "unknown")) (job.requestId request)

def respond (config : ServerConfig) (request : BeastRequest) (job : Job) : BeastResponse :=
  buildResponse config request (job.requestId request) (job.dispatch (job.call request))

/-- A handler that hands on an exchange: any but that of a timer. -/
def carries : Handler → Bool
  | .waited _ _ => false
  | _ => true

/-- Where the exchange is: in an operation, at the worker pool or in a queued handler. -/
def place (s : HttpSession) : List Operation × Nat × List Handler :=
  (s.underWay, s.posted, s.ready.filter carries)

def observed (s : HttpSession) : Action → Option (RequestLoop.Event BeastRequest Job BeastResponse)
  | .run (.readDone _ (.request req)) => some (.received req)
  | .work generatedId endpoint dispatch => some (.answered ⟨generatedId, endpoint, dispatch⟩)
  | .run (.writeResponse rsp) => (writeResponse rsp s).response.map .sent
  | _ => none

def observedRun : HttpSession → List Action →
    List (RequestLoop.Event BeastRequest Job BeastResponse)
  | _, [] => []
  | s, action :: actions => (observed s action).toList ++
      match step s action with
      | some next => observedRun next actions
      | none => []

/-- How the session holds an exchange: it is always in one place, and that place has the data
    that the next handler uses. -/
inductive Stands (s : HttpSession) : RequestLoop.Phase BeastRequest Job BeastResponse → Prop where
  | reading (number : Nat) (at_read : place s = ([(.read, number)], 0, []))
    (limited : s.bodyLimit = some s.config.bodyLimitBytes) : Stands s .idle
  | arrived (number : Nat) (outcome : ReadOutcome)
    (at_end : place s = ([], 0, [.readDone number outcome]))
    (limited : s.bodyLimit = some s.config.bodyLimitBytes)
    (fits : outcome.fits s.bodyLimit = true) : Stands s .idle
  | posted (at_pool : place s = ([], 1, [])) : Stands s (.working s.request)
  | answered (job : Job)
    (at_queue : place s = ([], 0, [.writeResponse (job.dispatch (job.call s.request))]))
    (named : s.requestId = job.requestId s.request) : Stands s (.answered s.request job)
  | writing (number : Nat) (response : BeastResponse)
    (at_write : place s = ([(.write, number)], 0, []))
    (held : s.response = some response) : Stands s (.sending response)
  | written (number : Nat) (succeeded : Bool) (response : BeastResponse)
    (at_end : place s = ([], 0, [.writeDone number succeeded]))
    (held : s.response = some response) : Stands s (.sending response)
  | closed (nowhere : place s = ([], 0, [])) (shut : s.socketOpen = false) : Stands s .closed

end definitions

section frames
variable {s : HttpSession}

theorem aborted_carries_nothing (waits : List Wait) :
    (waits.map fun wait => Handler.waited wait false).filter carries = [] := by
  simp [carries]

theorem place_cancel (side : Side) (s : HttpSession) : place (cancel side s) = place s := by
  unfold place cancel
  rw [List.filter_append, aborted_carries_nothing, List.append_nil]

theorem place_startGuarded (side : Side) (afterMs : Int) (s : HttpSession) :
    place (startGuarded side afterMs s) =
      (s.underWay ++ [(side, s.operations + 1)], s.posted, s.ready.filter carries) := by
  have cancelled := place_cancel side s
  simp only [place, Prod.mk.injEq] at cancelled
  simp only [place, startGuarded, note, cancelled]
  rfl

theorem place_close (s : HttpSession) : place (close s) = place s := by
  have cancelled := (place_cancel .write (cancel .read s)).trans (place_cancel .read s)
  exact cancelled

theorem place_onRead (number : Nat) (req : BeastRequest) (s : HttpSession) :
    place (onRead number (.request req) s) =
      (s.underWay, s.posted + 1, s.ready.filter carries) := by
  have cancelled := place_cancel .read s
  simp only [place, Prod.mk.injEq] at cancelled
  simp only [place, onRead, dispatchRequest, note, cancelled]

theorem carried_of_place {underWay : List Operation} {posted : Nat} {handlers : List Handler}
    (at_place : place s = (underWay, posted, handlers)) {handler : Handler}
    (queued : handler ∈ s.ready) (carrying : carries handler = true) : handler ∈ handlers := by
  have same : s.ready.filter carries = handlers := congrArg (fun spot => spot.2.2) at_place
  rw [← same]
  exact List.mem_filter.mpr ⟨queued, carrying⟩

theorem place_taken {underWay : List Operation} {posted : Nat} {handlers : List Handler}
    (at_place : place s = (underWay, posted, handlers)) (handler : Handler) :
    place { s with ready := s.ready.erase handler } =
      (underWay, posted, handlers.erase handler) := by
  obtain ⟨rfl, rfl, rfl⟩ : s.underWay = underWay ∧ s.posted = posted ∧
      s.ready.filter carries = handlers := by simpa [place] using at_place
  simp only [place, List.erase_filter]

theorem place_queued {underWay : List Operation} {posted : Nat} {handlers : List Handler}
    (at_place : place s = (underWay, posted, handlers)) (handler : Handler) :
    (s.ready ++ [handler]).filter carries = handlers ++ [handler].filter carries := by
  have same : s.ready.filter carries = handlers := congrArg (fun spot => spot.2.2) at_place
  rw [List.filter_append, same]

theorem place_parts {underWay : List Operation} {posted : Nat} {handlers : List Handler}
    (at_place : place s = (underWay, posted, handlers)) :
    s.underWay = underWay ∧ s.posted = posted ∧ s.ready.filter carries = handlers := by
  simpa only [place, Prod.mk.injEq] using at_place

theorem place_started (nowhere : place s = ([], 0, [])) (side : Side) (afterMs : Int) :
    place (startGuarded side afterMs s) = ([(side, s.operations + 1)], 0, []) := by
  obtain ⟨operations, posted, handlers⟩ := place_parts nowhere
  rw [place_startGuarded, operations, posted, handlers, List.nil_append]

theorem Stands.of_frame {t : HttpSession} {phase : RequestLoop.Phase BeastRequest Job BeastResponse}
    (stands : Stands s phase) (at_place : place t = place s) (config : t.config = s.config)
    (bodyLimit : t.bodyLimit = s.bodyLimit) (request : t.request = s.request)
    (response : t.response = s.response) (requestId : t.requestId = s.requestId)
    (socket : s.socketOpen = false → t.socketOpen = false) : Stands t phase := by
  cases stands with
  | reading number at_read limited =>
    exact .reading number (at_place.trans at_read) (by rw [bodyLimit, config, limited])
  | arrived number outcome at_end limited fits =>
    exact .arrived number outcome (at_place.trans at_end) (by rw [bodyLimit, config, limited])
      (by rw [bodyLimit, fits])
  | posted at_pool =>
    rw [← request]
    exact .posted (at_place.trans at_pool)
  | answered job at_queue named =>
    rw [← request] at at_queue named ⊢
    exact .answered job (at_place.trans at_queue) (requestId.trans named)
  | writing number response' at_write held =>
    exact .writing number response' (at_place.trans at_write) (response.trans held)
  | written number succeeded response' at_end held =>
    exact .written number succeeded response' (at_place.trans at_end) (response.trans held)
  | closed nowhere shut => exact .closed (at_place.trans nowhere) (socket shut)

end frames

section steps
variable {s t : HttpSession} {phase : RequestLoop.Phase BeastRequest Job BeastResponse}

/-- A step of the session is one step of the loop. -/
def Follows (s t : HttpSession) (action : Action)
    (phase : RequestLoop.Phase BeastRequest Job BeastResponse) : Prop :=
  ∃ next, RequestLoop.Step (respond s.config) BeastResponse.keepAlive phase (observed s action)
    next ∧ Stands t next

theorem stands_start (config : ServerConfig) : Stands (start config) .idle :=
  .reading 1 (place_startGuarded _ _ _) rfl

theorem Stands.reads (nowhere : place s = ([], 0, [])) : Stands (readRequest s) .idle := by
  have limited : place { s with bodyLimit := some s.config.bodyLimitBytes } = ([], 0, []) := nowhere
  exact .reading (s.operations + 1) (place_started limited .read s.config.readTimeoutMs) rfl

theorem Stands.after_close (nowhere : place s = ([], 0, [])) : Stands (close s) .closed :=
  .closed ((place_close s).trans nowhere) rfl

theorem Stands.after_expire (stands : Stands s phase) (wait : Wait) :
    Stands { s with waits := s.waits.erase wait, ready := s.ready ++ [.waited wait true] }
      phase := by
  refine stands.of_frame ?_ rfl rfl rfl rfl rfl id
  simp [place, carries]

theorem Stands.after_onWait (stands : Stands s phase) (wait : Wait) (expired : Bool) :
    Stands (onWait wait expired s) phase := by
  cases expired with
  | false => exact stands
  | true => exact stands.of_frame (place_close _) rfl rfl rfl rfl rfl fun _ => rfl

theorem Stands.after_readEnds (stands : Stands s phase) {number : Nat} {outcome : ReadOutcome}
    (underWay : (.read, number) ∈ s.underWay) (fits : outcome.fits s.bodyLimit = true) :
    phase = .idle ∧ Stands { s with
      underWay := s.underWay.erase (.read, number)
      ready := s.ready ++ [.readDone number outcome] } .idle := by
  cases stands with
  | reading other at_read limited =>
    obtain ⟨operations, posted, handlers⟩ := place_parts at_read
    rw [operations, List.mem_singleton] at underWay
    refine ⟨rfl, .arrived number outcome ?_ limited fits⟩
    simp [place, operations, posted, place_queued at_read, ← underWay, carries]
  | arrived _ _ at_end => rw [(place_parts at_end).1] at underWay; cases underWay
  | posted at_pool => rw [(place_parts at_pool).1] at underWay; cases underWay
  | answered _ at_queue => rw [(place_parts at_queue).1] at underWay; cases underWay
  | writing _ _ at_write =>
    rw [(place_parts at_write).1, List.mem_singleton] at underWay
    cases underWay
  | written _ _ _ at_end => rw [(place_parts at_end).1] at underWay; cases underWay
  | closed nowhere => rw [(place_parts nowhere).1] at underWay; cases underWay

theorem Stands.after_writeEnds (stands : Stands s phase) {number : Nat} {succeeded : Bool}
    (underWay : (.write, number) ∈ s.underWay) :
    Stands { s with
      underWay := s.underWay.erase (.write, number)
      ready := s.ready ++ [.writeDone number succeeded] } phase := by
  cases stands with
  | reading _ at_read =>
    rw [(place_parts at_read).1, List.mem_singleton] at underWay
    cases underWay
  | arrived _ _ at_end => rw [(place_parts at_end).1] at underWay; cases underWay
  | posted at_pool => rw [(place_parts at_pool).1] at underWay; cases underWay
  | answered _ at_queue => rw [(place_parts at_queue).1] at underWay; cases underWay
  | writing other response at_write held =>
    obtain ⟨operations, posted, handlers⟩ := place_parts at_write
    rw [operations, List.mem_singleton] at underWay
    refine .written number succeeded response ?_ held
    simp [place, operations, posted, place_queued at_write, ← underWay, carries]
  | written _ _ _ at_end => rw [(place_parts at_end).1] at underWay; cases underWay
  | closed nowhere => rw [(place_parts nowhere).1] at underWay; cases underWay

theorem Stands.at_pool (stands : Stands s phase) (waiting : 0 < s.posted) :
    phase = .working s.request ∧ place s = ([], 1, []) := by
  cases stands with
  | reading _ at_read => rw [(place_parts at_read).2.1] at waiting; cases waiting
  | arrived _ _ at_end => rw [(place_parts at_end).2.1] at waiting; cases waiting
  | posted at_pool => exact ⟨rfl, at_pool⟩
  | answered _ at_queue => rw [(place_parts at_queue).2.1] at waiting; cases waiting
  | writing _ _ at_write => rw [(place_parts at_write).2.1] at waiting; cases waiting
  | written _ _ _ at_end => rw [(place_parts at_end).2.1] at waiting; cases waiting
  | closed nowhere => rw [(place_parts nowhere).2.1] at waiting; cases waiting

theorem Stands.after_work (stands : Stands s phase) (waiting : 0 < s.posted) (generatedId : Bytes)
    (endpoint : Option Bytes) (dispatch : HttpRequest → HttpResponse) :
    phase = .working s.request ∧ Stands (runJob generatedId endpoint dispatch s)
      (.answered s.request ⟨generatedId, endpoint, dispatch⟩) := by
  obtain ⟨same, at_pool⟩ := stands.at_pool waiting
  obtain ⟨operations, posted, handlers⟩ := place_parts at_pool
  refine ⟨same, @Stands.answered (runJob generatedId endpoint dispatch s)
    ⟨generatedId, endpoint, dispatch⟩ ?_ rfl⟩
  simp [place, runJob, operations, posted, place_queued at_pool, carries, Job.call, Job.requestId]

/-- A queued handler that carries an exchange is where the exchange is. -/
theorem carried_alone {handler : Handler} {operations : List Operation} {posted : Nat}
    {handlers : List Handler} (at_place : place s = (operations, posted, handlers))
    (queued : handler ∈ s.ready) (carrying : carries handler = true) (short : handlers.length ≤ 1) :
    handlers = [handler] := by
  have member := carried_of_place at_place queued carrying
  obtain ⟨only, rfl⟩ := List.length_eq_one_iff.mp
    (Nat.le_antisymm short (List.length_pos_of_mem member))
  rw [List.mem_singleton.mp member]

theorem Stands.place_of_carried (stands : Stands s phase) {handler : Handler}
    (queued : handler ∈ s.ready) (carrying : carries handler = true) :
    place s = ([], 0, [handler]) := by
  have alone := fun {operations posted handlers} at_place =>
    @carried_alone s handler operations posted handlers at_place queued carrying
  cases stands with
  | reading _ at_read => cases alone at_read (Nat.zero_le 1)
  | arrived _ _ at_end => rw [at_end, alone at_end (Nat.le_refl 1)]
  | posted at_pool => cases alone at_pool (Nat.zero_le 1)
  | answered _ at_queue => rw [at_queue, alone at_queue (Nat.le_refl 1)]
  | writing _ _ at_write => cases alone at_write (Nat.zero_le 1)
  | written _ _ _ at_end => rw [at_end, alone at_end (Nat.le_refl 1)]
  | closed nowhere => cases alone nowhere (Nat.zero_le 1)

theorem place_left {handler : Handler} (at_place : place s = ([], 0, [handler])) :
    place { s with ready := s.ready.erase handler } = ([], 0, []) := by
  rw [place_taken at_place, List.erase_cons_head]

theorem Stands.at_readDone (stands : Stands s phase) {number : Nat} {outcome : ReadOutcome}
    (at_end : place s = ([], 0, [.readDone number outcome])) :
    phase = .idle ∧ s.bodyLimit = some s.config.bodyLimitBytes ∧
      outcome.fits s.bodyLimit = true := by
  cases stands with
  | reading _ own => cases own.symm.trans at_end
  | arrived _ _ own limited fits =>
    cases own.symm.trans at_end
    exact ⟨rfl, limited, fits⟩
  | posted own => cases own.symm.trans at_end
  | answered _ own => cases own.symm.trans at_end
  | writing _ _ own => cases own.symm.trans at_end
  | written _ _ _ own => cases own.symm.trans at_end
  | closed own => cases own.symm.trans at_end

theorem Stands.at_writeDone (stands : Stands s phase) {number : Nat} {succeeded : Bool}
    (at_end : place s = ([], 0, [.writeDone number succeeded])) :
    ∃ response, phase = .sending response ∧ s.response = some response := by
  cases stands with
  | reading _ own => cases own.symm.trans at_end
  | arrived _ _ own => cases own.symm.trans at_end
  | posted own => cases own.symm.trans at_end
  | answered _ own => cases own.symm.trans at_end
  | writing _ _ own => cases own.symm.trans at_end
  | written _ _ response own held => exact ⟨response, rfl, held⟩
  | closed own => cases own.symm.trans at_end

theorem Stands.at_writeResponse (stands : Stands s phase) {rsp : HttpResponse}
    (at_queue : place s = ([], 0, [.writeResponse rsp])) :
    ∃ job, phase = .answered s.request job ∧
      buildResponse s.config s.request s.requestId rsp = respond s.config s.request job := by
  cases stands with
  | reading _ own => cases own.symm.trans at_queue
  | arrived _ _ own => cases own.symm.trans at_queue
  | posted own => cases own.symm.trans at_queue
  | answered job own named =>
    have same := own.symm.trans at_queue
    simp only [Prod.mk.injEq, List.cons.injEq, Handler.writeResponse.injEq, true_and,
      and_true] at same
    exact ⟨job, rfl, by rw [respond, named, same]⟩
  | writing _ _ own => cases own.symm.trans at_queue
  | written _ _ _ own => cases own.symm.trans at_queue
  | closed own => cases own.symm.trans at_queue

theorem Stands.after_readDone (stands : Stands s phase) {number : Nat} {outcome : ReadOutcome}
    (queued : .readDone number outcome ∈ s.ready) :
    Follows s (onRead number outcome { s with ready := s.ready.erase (.readDone number outcome) })
      (.run (.readDone number outcome)) phase := by
  have at_end := stands.place_of_carried queued rfl
  obtain ⟨rfl, _, _⟩ := stands.at_readDone at_end
  have left := place_left at_end
  have cancelled := (place_cancel .read _).trans left
  cases outcome with
  | request req =>
    refine ⟨.working req, .receive req, .posted ?_⟩
    obtain ⟨operations, posted, handlers⟩ := place_parts left
    rw [place_onRead, operations, posted, handlers]
  | endOfStream => exact ⟨.closed, .hangUp, .closed ((place_close _).trans cancelled) rfl⟩
  | failed => exact ⟨.closed, .hangUp, .closed ((place_close _).trans cancelled) rfl⟩

theorem Stands.after_writeDone (stands : Stands s phase) {number : Nat} {succeeded : Bool}
    (queued : .writeDone number succeeded ∈ s.ready) :
    Follows s (onWrite number succeeded
      { s with ready := s.ready.erase (.writeDone number succeeded) })
      (.run (.writeDone number succeeded)) phase := by
  have at_end := stands.place_of_carried queued rfl
  obtain ⟨response, rfl, held⟩ := stands.at_writeDone at_end
  have left := (place_cancel .write _).trans (place_left at_end)
  cases succeeded with
  | false => exact ⟨.closed, .last response, .closed ((place_close _).trans left) rfl⟩
  | true =>
    have keeping : (cancel .write
        { s with ready := s.ready.erase (.writeDone number true) }).response = some response := held
    unfold onWrite
    simp only [keeping, Option.any_some, if_true]
    split
    · rename_i kept
      exact ⟨.idle, .next response kept, .reads left⟩
    · exact ⟨.closed, .last response, .after_close left⟩

theorem Stands.after_writeResponse (stands : Stands s phase) {rsp : HttpResponse}
    (queued : .writeResponse rsp ∈ s.ready) :
    Follows s (writeResponse rsp { s with ready := s.ready.erase (.writeResponse rsp) })
      (.run (.writeResponse rsp)) phase := by
  have at_queue := stands.place_of_carried queued rfl
  obtain ⟨job, rfl, built⟩ := stands.at_writeResponse at_queue
  refine ⟨.sending (respond s.config s.request job), ?_, ?_⟩
  · have seen : observed s (.run (.writeResponse rsp)) =
        some (.sent (respond s.config s.request job)) := by
      rw [← built]
      rfl
    rw [seen]
    exact .send s.request job
  · rw [← built]
    exact .writing (s.operations + 1) _
      (place_started (place_left at_queue) .write s.config.writeTimeoutMs) rfl

theorem Stands.after_step (stands : Stands s phase) {action : Action}
    (stepped : step s action = some t) : Follows s t action phase := by
  cases action with
  | expire wait =>
    obtain ⟨_, same⟩ := Option.ite_none_right_eq_some.mp stepped
    obtain rfl := Option.some.inj same
    exact ⟨phase, .stay phase, stands.after_expire wait⟩
  | readEnds number outcome =>
    obtain ⟨⟨underWay, fits⟩, same⟩ := Option.ite_none_right_eq_some.mp stepped
    obtain rfl := Option.some.inj same
    obtain ⟨rfl, after⟩ := stands.after_readEnds underWay fits
    exact ⟨.idle, .stay .idle, after⟩
  | writeEnds number succeeded =>
    obtain ⟨underWay, same⟩ := Option.ite_none_right_eq_some.mp stepped
    obtain rfl := Option.some.inj same
    exact ⟨phase, .stay phase, stands.after_writeEnds underWay⟩
  | work generatedId endpoint dispatch =>
    obtain ⟨waiting, same⟩ := Option.ite_none_right_eq_some.mp stepped
    obtain rfl := Option.some.inj same
    obtain ⟨rfl, after⟩ := stands.after_work waiting generatedId endpoint dispatch
    exact ⟨.answered s.request ⟨generatedId, endpoint, dispatch⟩, .answer s.request _, after⟩
  | run handler =>
    obtain ⟨queued, same⟩ := Option.ite_none_right_eq_some.mp stepped
    obtain rfl := Option.some.inj same
    cases handler with
    | waited wait expired =>
      have taken : Stands { s with ready := s.ready.erase (.waited wait expired) } phase := by
        refine stands.of_frame ?_ rfl rfl rfl rfl rfl id
        rw [place_taken rfl, List.erase_of_not_mem (by simp [carries])]
        rfl
      exact ⟨phase, .stay phase, taken.after_onWait wait expired⟩
    | readDone number outcome => exact stands.after_readDone queued
    | writeDone number succeeded => exact stands.after_writeDone queued
    | writeResponse rsp => exact stands.after_writeResponse queued

end steps

section runs
variable {config : ServerConfig} {actions : List Action} {s t : HttpSession}
  {phase : RequestLoop.Phase BeastRequest Job BeastResponse}

theorem config_runHandler (handler : Handler) (s : HttpSession) :
    (runHandler handler s).config = s.config := by
  cases handler with
  | waited wait expired => cases expired <;> rfl
  | readDone number outcome => cases outcome <;> rfl
  | writeDone number succeeded =>
    cases succeeded with
    | false => rfl
    | true =>
      unfold runHandler onWrite
      simp only [if_true]
      split <;> rfl
  | writeResponse rsp => rfl

theorem config_step {action : Action} (stepped : step s action = some t) :
    t.config = s.config := by
  cases action with
  | run handler =>
    obtain ⟨_, same⟩ := Option.ite_none_right_eq_some.mp stepped
    rw [← Option.some.inj same]
    exact config_runHandler handler _
  | work generatedId endpoint dispatch =>
    obtain ⟨_, same⟩ := Option.ite_none_right_eq_some.mp stepped
    rw [← Option.some.inj same]
    rfl
  | expire wait =>
    obtain ⟨_, same⟩ := Option.ite_none_right_eq_some.mp stepped
    rw [← Option.some.inj same]
  | readEnds number outcome =>
    obtain ⟨_, same⟩ := Option.ite_none_right_eq_some.mp stepped
    rw [← Option.some.inj same]
  | writeEnds number succeeded =>
    obtain ⟨_, same⟩ := Option.ite_none_right_eq_some.mp stepped
    rw [← Option.some.inj same]

/-- The session refines the loop: what it receives, answers and sends is a run of the loop. -/
theorem Stands.after_runActions (stands : Stands s phase)
    {events : List (RequestLoop.Event BeastRequest Job BeastResponse)}
    (run : RequestLoop.Run (respond s.config) BeastResponse.keepAlive events phase)
    (ran : runActions s actions = some t) :
    ∃ final, RequestLoop.Run (respond s.config) BeastResponse.keepAlive
      (events ++ observedRun s actions) final ∧ Stands t final := by
  induction actions generalizing s phase events with
  | nil =>
    obtain rfl := Option.some.inj ran
    refine ⟨phase, ?_, stands⟩
    rw [observedRun, List.append_nil]
    exact run
  | cons action actions ih =>
    rw [runActions, List.foldlM_cons] at ran
    obtain ⟨next, stepped, rest⟩ := Option.bind_eq_some_iff.mp ran
    obtain ⟨after, moved, stands⟩ := stands.after_step stepped
    have config := config_step stepped
    have ahead := run.step moved
    rw [← config] at ahead ⊢
    obtain ⟨final, whole, stands⟩ := ih stands ahead rest
    refine ⟨final, ?_, stands⟩
    rw [observedRun, stepped, ← List.append_assoc]
    exact whole

theorem run_of_start (ran : runActions (start config) actions = some s) :
    ∃ final, RequestLoop.Run (respond config) BeastResponse.keepAlive
      (observedRun (start config) actions) final ∧ Stands s final := by
  have whole := (stands_start config).after_runActions .start ran
  rwa [List.nil_append] at whole

theorem config_of_start (ran : runActions (start config) actions = some s) : s.config = config := by
  suffices kept : ∀ {from_state : HttpSession}, runActions from_state actions = some s →
      s.config = from_state.config from kept ran
  clear ran
  induction actions with
  | nil =>
    intro before ran
    obtain rfl := Option.some.inj ran
    rfl
  | cons action actions ih =>
    intro before ran
    rw [runActions, List.foldlM_cons] at ran
    obtain ⟨next, stepped, rest⟩ := Option.bind_eq_some_iff.mp ran
    exact (ih rest).trans (config_step stepped)

/-- How many things the session waits for, apart from its timers. -/
def awaited (s : HttpSession) : Nat :=
  s.underWay.length + s.posted + (s.ready.filter carries).length

theorem awaited_of_place {operations : List Operation} {posted : Nat} {handlers : List Handler}
    (at_place : place s = (operations, posted, handlers)) :
    awaited s = operations.length + posted + handlers.length := by
  obtain ⟨rfl, rfl, rfl⟩ := place_parts at_place
  rfl

theorem Stands.awaits_one (stands : Stands s phase) :
    awaited s = 1 ∨ awaited s = 0 ∧ s.socketOpen = false := by
  cases stands with
  | reading _ at_read => exact Or.inl (awaited_of_place at_read)
  | arrived _ _ at_end => exact Or.inl (awaited_of_place at_end)
  | posted at_pool => exact Or.inl (awaited_of_place at_pool)
  | answered _ at_queue => exact Or.inl (awaited_of_place at_queue)
  | writing _ _ at_write => exact Or.inl (awaited_of_place at_write)
  | written _ _ _ at_end => exact Or.inl (awaited_of_place at_end)
  | closed nowhere shut => exact Or.inr ⟨awaited_of_place nowhere, shut⟩

def oneAnswer : List Action :=
  [.readEnds 1 (.request {}), .run (.readDone 1 (.request {})),
    .work (bytes "tgw-1-0") none fun _ => {}, .run (.writeResponse {}), .writeEnds 2 true,
    .run (.writeDone 2 true)]

/-- At any time the session waits for one thing only, and a handler finds what it uses: the parser
    with its limit at the end of a read, the response at the end of a write. -/
theorem one_exchange (ran : runActions (start config) actions = some s) :
    awaited s ≤ 1 ∧ (s.socketOpen = true → awaited s = 1) ∧
      (∀ number outcome, .readDone number outcome ∈ s.ready →
        s.bodyLimit = some config.bodyLimitBytes ∧ outcome.fits s.bodyLimit = true) ∧
      ∀ number succeeded, .writeDone number succeeded ∈ s.ready → s.response.isSome = true := by
  obtain ⟨final, _, stands⟩ := run_of_start ran
  refine ⟨?_, ?_, ?_, ?_⟩
  · rcases stands.awaits_one with one | ⟨none, _⟩ <;> omega
  · intro live
    rcases stands.awaits_one with one | ⟨_, closed⟩
    · exact one
    · rw [closed] at live
      cases live
  · intro number outcome queued
    rw [← config_of_start ran]
    exact (stands.at_readDone (stands.place_of_carried queued rfl)).2
  · intro number succeeded queued
    obtain ⟨response, _, held⟩ := stands.at_writeDone (stands.place_of_carried queued rfl)
    exact Option.isSome_of_mem held

theorem one_exchange_kept : ∃ s, runActions (start {}) oneAnswer = some s ∧ awaited s = 1 := by
  have runs : (runActions (start {}) oneAnswer).map HttpSession.socketOpen = some true := by decide
  obtain ⟨s, ran, live⟩ := Option.map_eq_some_iff.mp runs
  exact ⟨s, ran, (one_exchange ran).2.1 live⟩

/-- Responses leave in the order of their requests, each with its own job's answer, and the session
    is never more than one request ahead of them. -/
theorem responses_in_order (ran : runActions (start config) actions = some s) :
    let events := observedRun (start config) actions
    ∃ pairs : List (BeastRequest × Job),
      RequestLoop.responses events = pairs.map (fun pair => respond config pair.1 pair.2) ∧
      pairs.map Prod.fst <+: RequestLoop.requests events ∧
      pairs.map Prod.snd <+: RequestLoop.jobs events ∧
      (RequestLoop.jobs events).length ≤ (RequestLoop.requests events).length ∧
      (RequestLoop.requests events).length ≤ pairs.length + 1 := by
  obtain ⟨final, run, _⟩ := run_of_start ran
  obtain ⟨pairs, exchanges⟩ := RequestLoop.run_exchanges run
  obtain ⟨fewer, short⟩ := RequestLoop.pending_short final
  refine ⟨pairs, exchanges.sent, ⟨_, exchanges.received.symm⟩, ⟨_, exchanges.worked.symm⟩, ?_, ?_⟩
  · rw [exchanges.received, exchanges.worked, List.length_append, List.length_append,
      List.length_map, List.length_map]
    exact Nat.add_le_add_left fewer _
  · rw [exchanges.received, List.length_append, List.length_map]
    exact Nat.add_le_add_left short _

theorem responses_in_order_one : ∃ pairs : List (BeastRequest × Job), pairs.length = 1 ∧
    RequestLoop.responses (observedRun (start {}) oneAnswer) =
      pairs.map fun pair => respond {} pair.1 pair.2 := by
  have runs : (runActions (start {}) oneAnswer).isSome = true := by decide
  have sent : (RequestLoop.responses (observedRun (start {}) oneAnswer)).length = 1 := by decide
  obtain ⟨s, ran⟩ := Option.isSome_iff_exists.mp runs
  obtain ⟨pairs, same, _⟩ := responses_in_order ran
  refine ⟨pairs, ?_, same⟩
  rw [same, List.length_map] at sent
  exact sent

/-- Behind a response that does not keep the connection alive nothing is received or sent, and
    without keep-alive in the configuration the first exchange is the only one. -/
theorem last_response (ran : runActions (start config) actions = some s) :
    let events := observedRun (start config) actions
    (∀ response ∈ RequestLoop.responses events, response.keepAlive = false →
      (RequestLoop.responses events).getLast? = some response ∧
        (RequestLoop.requests events).length = (RequestLoop.responses events).length) ∧
      (config.keepAlive = false → (RequestLoop.requests events).length ≤ 1) := by
  intro events
  obtain ⟨final, run, _⟩ := run_of_start ran
  obtain ⟨pairs, exchanges⟩ := RequestLoop.run_exchanges run
  refine ⟨fun response member unkept => exchanges.unkept_last member unkept, ?_⟩
  intro off
  have unkept : ∀ response ∈ RequestLoop.responses events, response.keepAlive = false := by
    intro response member
    rw [exchanges.sent] at member
    obtain ⟨pair, _, rfl⟩ := List.mem_map.mp member
    simp [respond, buildResponse, off]
  have one : (RequestLoop.responses events).length ≤ 1 := by
    by_contra more
    have first := List.getElem_mem (show 0 < (RequestLoop.responses events).dropLast.length by
      rw [List.length_dropLast]; omega)
    have kept := exchanges.kept _ first
    rw [unkept _ (List.dropLast_subset _ first)] at kept
    cases kept
  rcases List.eq_nil_or_concat (RequestLoop.responses events) with none | ⟨before, last, whole⟩
  · have received := exchanges.received
    rw [exchanges.sent, List.map_eq_nil_iff] at none
    rw [none] at received
    rw [received]
    exact (RequestLoop.pending_short final).2
  · have member : last ∈ RequestLoop.responses events := by simp [whole]
    rw [(exchanges.unkept_last member (unkept last member)).2]
    exact one

theorem last_response_off :
    (RequestLoop.requests (observedRun (start { keepAlive := false }) oneAnswer)).length ≤ 1 := by
  have runs : (runActions (start { keepAlive := false }) oneAnswer).isSome = true := by decide
  obtain ⟨s, ran⟩ := Option.isSome_iff_exists.mp runs
  exact (last_response ran).2 rfl

end runs

end TgwSessionFlow
