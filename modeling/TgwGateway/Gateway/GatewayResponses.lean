import TgwGateway.Gateway.GatewayRouter
import TgwGateway.Gateway.HttpServer
import TgwGateway.Gateway.WireResponses

/- What the clients of the whole process read: on each connection the responses of its own requests,
   whatever else the server does in between. -/
namespace TgwGatewayResponses
open ByteStrings DecimalText HttpText TgwConfig TgwHttp TgwHttpSession TgwSessionFlow TgwHttpServer
open TgwResponseHeaders TgwWireResponses TgwGatewayRouter
variable {Redis State : Type}

section definitions

/-- A step of the server in which the parser hands on a parsed request, a job asks the router of the
    process, or anything else happens. -/
def Delivers (process : Process Redis State) : ServerAction → Prop
  | .session _ (.run (.readDone _ (.request request))) => ParsedRequest request
  | .work _ _ _ dispatch => ∃ env, dispatch = fun request =>
      ((buildRouter process).dispatch request env).1
  | _ => True

def seenEvents (config : ServerConfig) (actions : List ServerAction) (index : Nat) :
    List (RequestLoop.Event BeastRequest Job BeastResponse) :=
  observedRun (TgwHttpSession.start config) (sessionActions index (TgwHttpServer.start config) actions)

end definitions

section observations

theorem mem_observedRun {s : HttpSession} {actions : List Action}
    {event : RequestLoop.Event BeastRequest Job BeastResponse}
    (listed : event ∈ observedRun s actions) :
    ∃ action ∈ actions, ∃ t, observed t action = some event := by
  induction actions generalizing s with
  | nil => cases listed
  | cons action actions ih =>
    rw [observedRun] at listed
    rcases List.mem_append.mp listed with now | later
    · exact ⟨action, List.mem_cons_self, s, Option.mem_toList.mp now⟩
    · split at later
      · obtain ⟨other, among, seen⟩ := ih later
        exact ⟨other, List.mem_cons_of_mem action among, seen⟩
      · cases later

theorem mem_sessionActions {s t : HttpServer} {actions : List ServerAction}
    (ran : runServer s actions = some t) {index : Nat} {action : Action}
    (listed : action ∈ sessionActions index s actions) :
    ∃ done ∈ actions, ∃ before after, serverStep before done = some after ∧
      seenBy index before done = some action := by
  induction actions generalizing s with
  | nil => cases listed
  | cons done actions ih =>
    rw [runServer, List.foldlM_cons] at ran
    obtain ⟨next, stepped, rest⟩ := Option.bind_eq_some_iff.mp ran
    rw [sessionActions, stepped] at listed
    rcases List.mem_append.mp listed with now | later
    · exact ⟨done, List.mem_cons_self, s, next, stepped, Option.mem_toList.mp now⟩
    · obtain ⟨other, among, seen⟩ := ih rest later
      exact ⟨other, List.mem_cons_of_mem done among, seen⟩

theorem observed_received {s : HttpSession} {action : Action} {request : BeastRequest}
    (seen : observed s action = some (.received request)) :
    ∃ number, action = .run (.readDone number (.request request)) := by
  unfold observed at seen
  split at seen
  · rename_i number req
    cases seen
    exact ⟨number, rfl⟩
  · cases seen
  · rename_i rsp
    obtain ⟨_, _, wrong⟩ := Option.map_eq_some_iff.mp seen
    cases wrong
  · cases seen

theorem observed_answered {s : HttpSession} {action : Action} {job : Job}
    (seen : observed s action = some (.answered job)) :
    action = .work job.generatedId job.endpoint job.dispatch := by
  unfold observed at seen
  split at seen
  · cases seen
  · cases seen
    rfl
  · rename_i rsp
    obtain ⟨_, _, wrong⟩ := Option.map_eq_some_iff.mp seen
    cases wrong
  · cases seen

theorem requestIdText_line (now : Int) (seq : UInt64) : OneLine (requestIdText now seq) := by
  refine oneLine_append (oneLine_append (oneLine_append ?_ (intText_line now)) ?_) ?_
  · decide
  · decide
  · exact (natText_visible _).oneLine

variable {process : Process Redis State} {config : ServerConfig} {actions : List ServerAction}
  {index : Nat} {t : HttpServer} (ran : runServer (TgwHttpServer.start config) actions = some t)
include ran

theorem received_parsed (delivers : ∀ action ∈ actions, Delivers process action)
    {request : BeastRequest}
    (received : request ∈ RequestLoop.requests (seenEvents config actions index)) :
    ParsedRequest request := by
  obtain ⟨event, listed, own⟩ := List.mem_filterMap.mp received
  obtain ⟨action, among, s, seen⟩ := mem_observedRun listed
  obtain ⟨done, inside, before, after, stepped, source⟩ := mem_sessionActions ran among
  obtain rfl : event = .received request := by
    cases event <;> first | exact congrArg _ (Option.some.inj own) | cases own
  obtain ⟨number, rfl⟩ := observed_received seen
  have delivered := delivers done inside
  unfold seenBy at source
  split at source
  · split at source
    · cases source
    · cases source
  · split at source
    · obtain rfl := Option.some.inj source
      exact delivered
    · cases source
  · cases source

theorem answered_stamping (delivers : ∀ action ∈ actions, Delivers process action) {job : Job}
    (answered : job ∈ RequestLoop.jobs (seenEvents config actions index)) : StampingJob job := by
  obtain ⟨event, listed, own⟩ := List.mem_filterMap.mp answered
  obtain ⟨action, among, s, seen⟩ := mem_observedRun listed
  obtain ⟨done, inside, before, after, stepped, source⟩ := mem_sessionActions ran among
  obtain rfl : event = .answered job := by
    cases event <;> first | exact congrArg _ (Option.some.inj own) | cases own
  have asked := observed_answered seen
  have delivered := delivers done inside
  rw [asked] at source
  unfold seenBy at source
  split at source
  · split at source
    · obtain ⟨generated, _, dispatch⟩ := Action.work.inj (Option.some.inj source)
      obtain ⟨env, routed⟩ := delivered
      rw [dispatch] at routed
      refine ⟨generated ▸ requestIdText_line _ _, fun request lines => ?_⟩
      rw [routed]
      exact dispatch_stamped process lines env
    · cases source
  · split at source
    · obtain rfl := Option.some.inj source
      simp [serverStep, isWork] at stepped
    · cases source
  · cases source

end observations

/-- On every connection of a run of the server, in whatever order sessions, jobs, timers and peers
    take their steps: a client that takes each body by its length reads the responses to its own
    requests, one for each that was answered, unless one of them forces a status of more than three
    digits. No field occurs twice, none but the server's own and the gateway's occurs at all, and the
    id is that of the request. -/
theorem connections_read (process : Process Redis State) (config : ServerConfig)
    (serializer : Serializer) {actions : List ServerAction} {s : HttpServer}
    (ran : runServer (TgwHttpServer.start config) actions = some s)
    (delivers : ∀ action ∈ actions, Delivers process action) {index : Nat} {session : HttpSession}
    (there : s.sessions[index]? = some session) :
    let events := seenEvents config actions index
    ((∀ request ∈ RequestLoop.requests events, ModestRequest request) →
      readMessages (serializer.stream (RequestLoop.responses events)) =
        some ((RequestLoop.responses events).map fun rsp => asRead (serializer.message rsp))) ∧
      ∀ rsp ∈ RequestLoop.responses events, ∃ request job,
        request ∈ RequestLoop.requests events ∧ job ∈ RequestLoop.jobs events ∧
        rsp = respond config request job ∧
        WireFields (job.requestId request) (job.dispatch (job.call request)) rsp.fields := by
  have alone : runActions (TgwHttpSession.start config)
      (sessionActions index (TgwHttpServer.start config) actions) = some session :=
    sessions_start ran rfl there
  exact stream_of_run serializer alone (fun _ received => received_parsed ran delivers received)
    fun _ answered => answered_stamping ran delivers answered

section one_connection

def plainSerializer : Serializer where
  statusLine rsp := bytes "HTTP/1.1 " ++ intText rsp.status ++ bytes " OK"
  written rsp := rsp.fields
  connection _ := []
  status_line rsp _ :=
    oneLine_append (oneLine_append (by decide) (intText_line rsp.status)) (by decide)
  all_written rsp := by simp
  connection_named rsp := by simp

def healthRequest : BeastRequest := { method := bytes "GET", target := bytes "/health" }

def askIdle (request : HttpRequest) : HttpResponse :=
  ((buildRouter idleProcess).dispatch request idleEnv).1

def healthActions : List ServerAction :=
  [.accepted false, .session 0 (.readEnds 1 (.request healthRequest)),
    .session 0 (.run (.readDone 1 (.request healthRequest))), .work 0 5 none askIdle,
    .session 0 (.run (.writeResponse (healthResponse {})))]

theorem healthActions_delivers : ∀ action ∈ healthActions, Delivers idleProcess action := by
  intro action listed
  simp only [healthActions, List.mem_cons, List.not_mem_nil, or_false] at listed
  rcases listed with rfl | rfl | rfl | rfl | rfl
  · trivial
  · trivial
  · exact fun field inside => absurd inside List.not_mem_nil
  · exact ⟨idleEnv, rfl⟩
  · trivial

theorem connections_read_health :
    let responses := RequestLoop.responses (seenEvents {} healthActions 0)
    responses.length = 1 ∧ readMessages (plainSerializer.stream responses) =
      some (responses.map fun rsp => asRead (plainSerializer.message rsp)) := by
  have runs : ((runServer (TgwHttpServer.start {}) healthActions).bind
      fun s => s.sessions[0]?).isSome = true := by decide +kernel
  obtain ⟨session, whole⟩ := Option.isSome_iff_exists.mp runs
  obtain ⟨s, ran, there⟩ := Option.bind_eq_some_iff.mp whole
  refine ⟨by decide +kernel, ?_⟩
  have modest : ∀ request ∈ RequestLoop.requests (seenEvents {} healthActions 0),
      ModestRequest request := by decide +kernel
  exact (connections_read idleProcess {} plainSerializer ran healthActions_delivers there).1 modest

end one_connection

end TgwGatewayResponses
