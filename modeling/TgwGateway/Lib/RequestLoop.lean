import Mathlib.Data.List.Basic
import Mathlib.Tactic.Common

/- Serving one request at a time: a request is received, a job answers it, the response is sent,
   and only a response that keeps the exchange open is followed by another request. -/
namespace RequestLoop
variable {Request Job Response : Type}

section definitions

inductive Phase (Request Job Response : Type) where
  | idle
  | working (request : Request)
  | answered (request : Request) (job : Job)
  | sending (response : Response)
  | closed

inductive Event (Request Job Response : Type) where
  | received (request : Request)
  | answered (job : Job)
  | sent (response : Response)

/-- One step with what can be seen of it. An exchange may end where something comes from outside
    or goes there: at a request that does not arrive or a response that is not taken. -/
inductive Step (respond : Request → Job → Response) (keeps : Response → Bool) :
    Phase Request Job Response → Option (Event Request Job Response) →
      Phase Request Job Response → Prop where
  | receive (request : Request) :
    Step respond keeps .idle (some (.received request)) (.working request)
  | answer (request : Request) (job : Job) :
    Step respond keeps (.working request) (some (.answered job)) (.answered request job)
  | send (request : Request) (job : Job) :
    Step respond keeps (.answered request job) (some (.sent (respond request job)))
      (.sending (respond request job))
  | next (response : Response) (kept : keeps response = true) :
    Step respond keeps (.sending response) none .idle
  | last (response : Response) : Step respond keeps (.sending response) none .closed
  | hangUp : Step respond keeps .idle none .closed
  | stay (phase : Phase Request Job Response) : Step respond keeps phase none phase

inductive Run (respond : Request → Job → Response) (keeps : Response → Bool) :
    List (Event Request Job Response) → Phase Request Job Response → Prop where
  | start : Run respond keeps [] .idle
  | step {events : List (Event Request Job Response)} {phase next : Phase Request Job Response}
    {event : Option (Event Request Job Response)} (run : Run respond keeps events phase)
    (stepped : Step respond keeps phase event next) : Run respond keeps (events ++ event.toList) next

def requests (events : List (Event Request Job Response)) : List Request :=
  events.filterMap fun event => match event with
    | .received request => some request
    | _ => none

def jobs (events : List (Event Request Job Response)) : List Job :=
  events.filterMap fun event => match event with
    | .answered job => some job
    | _ => none

def responses (events : List (Event Request Job Response)) : List Response :=
  events.filterMap fun event => match event with
    | .sent response => some response
    | _ => none

/-- What has been received and answered, but not sent: nothing, a request, or both. -/
def pendingRequests : Phase Request Job Response → List Request
  | .working request => [request]
  | .answered request _ => [request]
  | _ => []

def pendingJobs : Phase Request Job Response → List Job
  | .answered _ job => [job]
  | _ => []

/-- The exchanges of a run, each a request with the job that answered it. -/
structure Exchanges (respond : Request → Job → Response) (keeps : Response → Bool)
    (events : List (Event Request Job Response)) (phase : Phase Request Job Response)
    (pairs : List (Request × Job)) : Prop where
  received : requests events = pairs.map Prod.fst ++ pendingRequests phase
  worked : jobs events = pairs.map Prod.snd ++ pendingJobs phase
  sent : responses events = pairs.map fun pair => respond pair.1 pair.2
  kept : ∀ response ∈ (responses events).dropLast, keeps response = true
  open_kept : phase ≠ .closed → (∀ response, phase ≠ .sending response) →
    ∀ response ∈ responses events, keeps response = true
  current : ∀ response, phase = .sending response → (responses events).getLast? = some response

end definitions

section runs
variable {respond : Request → Job → Response} {keeps : Response → Bool}
  {events : List (Event Request Job Response)} {phase next : Phase Request Job Response}
  {event : Option (Event Request Job Response)} {pairs : List (Request × Job)}

theorem requests_append (first second : List (Event Request Job Response)) :
    requests (first ++ second) = requests first ++ requests second :=
  List.filterMap_append

theorem jobs_append (first second : List (Event Request Job Response)) :
    jobs (first ++ second) = jobs first ++ jobs second :=
  List.filterMap_append

theorem responses_append (first second : List (Event Request Job Response)) :
    responses (first ++ second) = responses first ++ responses second :=
  List.filterMap_append

theorem Exchanges.unseen (exchanges : Exchanges respond keeps events phase pairs)
    (requests_same : pendingRequests phase = pendingRequests next)
    (jobs_same : pendingJobs phase = pendingJobs next)
    (kept : next ≠ .closed → (∀ response, next ≠ .sending response) →
      ∀ response ∈ responses events, keeps response = true)
    (current : ∀ response, next = .sending response →
      (responses events).getLast? = some response) :
    Exchanges respond keeps (events ++ []) next pairs := by
  rw [List.append_nil]
  exact ⟨requests_same ▸ exchanges.received, jobs_same ▸ exchanges.worked, exchanges.sent,
    exchanges.kept, kept, current⟩

theorem all_kept {sent : List Response} {response : Response} (last : sent.getLast? = some response)
    (before : ∀ other ∈ sent.dropLast, keeps other = true) (kept : keeps response = true) :
    ∀ other ∈ sent, keeps other = true := by
  intro other member
  rw [← List.dropLast_append_getLast? response last] at member
  rcases List.mem_append.mp member with early | own
  · exact before other early
  · rw [List.mem_singleton.mp own]
    exact kept

theorem Exchanges.after_step (exchanges : Exchanges respond keeps events phase pairs)
    (stepped : Step respond keeps phase event next) :
    ∃ pairs, Exchanges respond keeps (events ++ event.toList) next pairs := by
  cases stepped with
  | receive request =>
    have received := exchanges.received
    have worked := exchanges.worked
    simp only [pendingRequests, pendingJobs, List.append_nil] at received worked
    refine ⟨pairs, ?_, ?_, ?_, ?_, ?_, ?_⟩
    · rw [requests_append, received]
      rfl
    · rw [jobs_append, worked]
      rfl
    · rw [responses_append, exchanges.sent]
      exact List.append_nil _
    · rw [responses_append]
      simpa [responses] using exchanges.kept
    · intro _ _ response member
      rw [responses_append] at member
      exact exchanges.open_kept (by simp) (by simp) response (by simpa [responses] using member)
    · intro response same
      cases same
  | answer request job =>
    have received := exchanges.received
    have worked := exchanges.worked
    simp only [pendingRequests, pendingJobs, List.append_nil] at received worked
    refine ⟨pairs, ?_, ?_, ?_, ?_, ?_, ?_⟩
    · rw [requests_append, received]
      exact List.append_nil _
    · rw [jobs_append, worked]
      rfl
    · rw [responses_append, exchanges.sent]
      exact List.append_nil _
    · rw [responses_append]
      simpa [responses] using exchanges.kept
    · intro _ _ response member
      rw [responses_append] at member
      exact exchanges.open_kept (by simp) (by simp) response (by simpa [responses] using member)
    · intro response same
      cases same
  | send request job =>
    have received := exchanges.received
    have worked := exchanges.worked
    simp only [pendingRequests, pendingJobs] at received worked
    have sent : responses (events ++ [.sent (respond request job)]) =
        responses events ++ [respond request job] := by
      rw [responses_append]
      rfl
    refine ⟨pairs ++ [(request, job)], ?_, ?_, ?_, ?_, ?_, ?_⟩
    · rw [requests_append, received]
      simp [requests, pendingRequests]
    · rw [jobs_append, worked]
      simp [jobs, pendingJobs]
    · rw [Option.toList_some, sent, exchanges.sent, List.map_append]
      rfl
    · rw [Option.toList_some, sent, List.dropLast_concat]
      exact exchanges.open_kept (by simp) (by simp)
    · intro _ open_phase
      exact absurd rfl (open_phase (respond request job))
    · rintro response ⟨⟩
      rw [Option.toList_some, sent, List.getLast?_concat]
  | next response kept =>
    exact ⟨pairs, exchanges.unseen rfl rfl
      (fun _ _ => all_kept (exchanges.current response rfl) exchanges.kept kept)
      (fun _ same => nomatch same)⟩
  | last response =>
    exact ⟨pairs, exchanges.unseen rfl rfl (fun live => absurd rfl live) (fun _ same => nomatch same)⟩
  | hangUp =>
    exact ⟨pairs, exchanges.unseen rfl rfl (fun live => absurd rfl live) (fun _ same => nomatch same)⟩
  | stay phase =>
    exact ⟨pairs, exchanges.unseen rfl rfl exchanges.open_kept exchanges.current⟩

theorem exchanges_start : Exchanges respond keeps [] .idle [] where
  received := rfl
  worked := rfl
  sent := rfl
  kept := by simp [responses]
  open_kept := by simp [responses]
  current := fun _ same => nomatch same

/-- Whatever happens, requests are answered in their order, each by its own job. -/
theorem run_exchanges (run : Run respond keeps events phase) :
    ∃ pairs, Exchanges respond keeps events phase pairs := by
  induction run with
  | start => exact ⟨[], exchanges_start⟩
  | step run stepped ih =>
    obtain ⟨pairs, exchanges⟩ := ih
    exact exchanges.after_step stepped

theorem pending_short (phase : Phase Request Job Response) :
    (pendingJobs phase).length ≤ (pendingRequests phase).length ∧
      (pendingRequests phase).length ≤ 1 := by
  cases phase <;> exact ⟨by simp [pendingJobs, pendingRequests], by simp [pendingRequests]⟩

/-- A response that does not keep the exchange open is the last one, and nothing comes behind it. -/
theorem Exchanges.unkept_last (exchanges : Exchanges respond keeps events phase pairs)
    {response : Response} (member : response ∈ responses events) (unkept : keeps response = false) :
    (responses events).getLast? = some response ∧
      (requests events).length = (responses events).length := by
  have last : (responses events).getLast? = some response := by
    obtain ⟨final, own⟩ := List.getLast?_isSome.mpr (List.ne_nil_of_mem member) |>
      Option.isSome_iff_exists.mp
    rw [← List.dropLast_append_getLast? final own] at member
    rcases List.mem_append.mp member with early | same
    · rw [exchanges.kept response early] at unkept
      cases unkept
    · rw [List.mem_singleton.mp same]
      exact own
  have closing : pendingRequests phase = [] := by
    cases phase with
    | idle =>
      rw [exchanges.open_kept (by simp) (by simp) response member] at unkept
      cases unkept
    | working request =>
      rw [exchanges.open_kept (by simp) (by simp) response member] at unkept
      cases unkept
    | answered request job =>
      rw [exchanges.open_kept (by simp) (by simp) response member] at unkept
      cases unkept
    | sending response => rfl
    | closed => rfl
  refine ⟨last, ?_⟩
  rw [exchanges.received, exchanges.sent, closing, List.append_nil, List.length_map,
    List.length_map]

end runs

end RequestLoop
