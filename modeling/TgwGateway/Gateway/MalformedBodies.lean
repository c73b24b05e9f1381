import TgwGateway.Gateway.EncodedFields
import TgwGateway.Gateway.WatchedLocalRpc
import TgwGateway.Lib.JsonScan

/- Bodies that are no JSON objects: the reader refuses them only when its own lax grammar does, and
   a request whose body is refused leaves the services as they were. -/
namespace TgwMalformedBodies
open ByteStrings JsonGrammar JsonScan TgwClock TgwExceptions TgwStatus TgwHttp TgwJsonEscaping
open TgwFlatJson TgwLooseJson TgwEncodedFields TgwRpc TgwLocalRpc TgwLocalRpcErrors TgwUserService
open TgwStoreRuns (Stores)
open TgwWatchedLocalRpc (localServices)

variable {State : Type}

/-- A body with something in it that is no JSON object. -/
def MalformedObject (body : Bytes) : Prop :=
  skipWhitespace body ≠ [] ∧ ¬ ∃ members, JsonText body (.object members)

/-- ParseFlatJsonObject throws, and a request that brings the body changes nothing. -/
structure Refused (body : Bytes) : Prop where
  throws : ∃ e, parseFlatJsonObject body = .error e
  untouched : ∀ (State : Type) (services : LocalRpcServices State) (ctx : ForwardContext)
    (env : LocalRpcEnv State), ctx.body = body → readsBody ctx = true →
      (forward services ctx env).2.state = env.state

/-- No service has been called, and a response, if there is one, tells of an error. -/
def Unserved (state : LocalRpcState State) (handled : Handled State) : Prop :=
  handled.2.state = state ∧ ∀ response, handled.1 = .ok response → 400 ≤ response.status

theorem beforeDeadline_cases (ctx : ForwardContext)
    (next : LocalRpcEnv State → Handled State) (env : LocalRpcEnv State) :
    (env.deadline ≠ none ∧ Unserved env.state (beforeDeadline ctx next env)) ∨
      ∃ entry, entry.state = env.state ∧ entry.deadline = env.deadline ∧
        beforeDeadline ctx next env = next entry := by
  have kept : env.deadlineExceeded.2.state = env.state := by simp
  have deadline : env.deadlineExceeded.2.deadline = env.deadline := by
    unfold Env.deadlineExceeded
    split
    · rfl
    · split <;> rfl
  unfold beforeDeadline
  simp only
  split
  · rename_i passed
    refine Or.inl ⟨?_, kept, fun response answer => ?_⟩
    · intro none
      simp [Env.deadlineExceeded, none] at passed
    · cases answer
      exact (show (400 : Int) ≤ 504 by omega)
  · exact Or.inr ⟨_, kept, deadline, rfl⟩

theorem beforeDeadline_unserved (ctx : ForwardContext) (next : LocalRpcEnv State → Handled State)
    {state : LocalRpcState State} (unserved : ∀ env, env.state = state → Unserved state (next env))
    {env : LocalRpcEnv State} (start : env.state = state) :
    Unserved state (beforeDeadline ctx next env) := by
  rcases beforeDeadline_cases ctx next env with ⟨_, passed⟩ | ⟨entry, kept, _, goesOn⟩
  · exact start ▸ passed
  · rw [goesOn]
    exact unserved entry (kept.trans start)

/-- Whether or not the deadline is met, a request that is not built is not sent. -/
theorem callMethod_unserved {Request : Type} (ctx : ForwardContext)
    {request : Except CppException Request} {e : CppException}
    (thrown : exceptionOf request = some e)
    (call : Request → LocalRpcEnv State → HttpResponse × LocalRpcEnv State)
    (env : LocalRpcEnv State) : Unserved env.state (callMethod ctx request call env) := by
  cases request with
  | ok req => cases thrown
  | error e' =>
    refine beforeDeadline_unserved ctx _ (fun entry same => ⟨same, fun response answer => ?_⟩) rfl
    cases answer

theorem handleEndpoint_unserved (services : LocalRpcServices State) (ctx : ForwardContext)
    (rpcCtx : RpcContext) (env : LocalRpcEnv State) {endpoint : Endpoint} {e : CppException}
    (thrown : requestException ctx rpcCtx endpoint = some e) :
    Unserved env.state (handleEndpoint services ctx rpcCtx env endpoint) := by
  cases endpoint with
  | login => exact callMethod_unserved ctx thrown _ env
  | getProfile => exact callMethod_unserved ctx thrown _ env
  | createFileMeta => exact callMethod_unserved ctx thrown _ env
  | createTask => exact callMethod_unserved ctx thrown _ env
  | submitTaskEvent => exact callMethod_unserved ctx thrown _ env
  | getFileMeta => cases thrown
  | getTask => cases thrown

theorem dispatch_unserved (services : LocalRpcServices State) (ctx : ForwardContext)
    (env : LocalRpcEnv State) {e : CppException} (rejected : rejection ctx = some e) :
    Unserved env.state (dispatch services ctx env) := by
  have dispatched := dispatch_endpoint services ctx env
  cases found : endpointOf ctx with
  | none =>
    rw [found] at dispatched
    obtain ⟨message, env', answer, same⟩ := dispatched
    rw [answer]
    refine ⟨same, fun response own => ?_⟩
    cases own
    exact (show (400 : Int) ≤ 404 by omega)
  | some endpoint =>
    rw [found] at dispatched
    rw [dispatched, ← Env.tick_state env]
    exact handleEndpoint_unserved services ctx _ _ (requestException_eq ctx _ found ▸ rejected)

theorem forward_of_unserved {services : LocalRpcServices State} {ctx : ForwardContext}
    {env : LocalRpcEnv State}
    (unserved : Unserved env.state (beforeDeadline ctx (dispatch services ctx) env)) :
    (forward services ctx env).2.state = env.state ∧ 400 ≤ (forward services ctx env).1.status := by
  obtain ⟨kept, failed⟩ := unserved
  unfold forward
  split <;> rename_i handled <;> rw [handled] at kept failed
  · exact ⟨kept, failed _ rfl⟩
  · exact ⟨kept, (show (400 : Int) ≤ 400 by omega)⟩
  · exact ⟨kept, (show (400 : Int) ≤ 500 by omega)⟩

theorem forward_unserved (services : LocalRpcServices State) (ctx : ForwardContext)
    (env : LocalRpcEnv State) {e : CppException} (rejected : rejection ctx = some e) :
    (forward services ctx env).2.state = env.state ∧ 400 ≤ (forward services ctx env).1.status := by
  refine forward_of_unserved (beforeDeadline_unserved ctx (dispatch services ctx) ?_ rfl)
  intro entry same
  rw [← same]
  exact dispatch_unserved services ctx entry rejected

/-- What a malformed body has to be to get through. -/
theorem malformed_refused_iff (body : Bytes) :
    (MalformedObject body → Refused body) ↔
      ¬ (MalformedObject body ∧ ∃ pairs, LooseObject body pairs) := by
  constructor
  · rintro refused ⟨malformed, pairs, loose⟩
    obtain ⟨e, thrown⟩ := (refused malformed).throws
    have read := (parseFlatJsonObject_iff body _).mpr (Or.inr ⟨pairs, loose, rfl⟩)
    rw [thrown] at read
    cases read
  · intro strict malformed
    cases parsed : parseFlatJsonObject body with
    | ok fields =>
      rcases (parseFlatJsonObject_iff body fields).mp parsed with ⟨blank, _⟩ | ⟨pairs, loose, _⟩
      · exact absurd blank malformed.1
      · exact absurd ⟨malformed, pairs, loose⟩ strict
    | error e =>
      refine ⟨⟨e, parsed⟩, ?_⟩
      intro State services ctx env brings reads
      have rejected : rejection ctx = some e := by
        simp only [rejection, reads, brings, parsed, ↓reduceIte]
      exact (forward_unserved services ctx env rejected).1

/-- Any octets up to a delimiter pass for a value, none at all among them; a comma may stand before
    the closing brace, and anything after it. -/
theorem lax_member_accepted (key : Bytes) {token comma : Bytes} (junk : Bytes)
    (within : ∀ c ∈ token, endsScalar c = false) (noString : token.head? ≠ some 34)
    (ending : comma = [] ∨ comma = [44]) :
    LooseObject (123 :: 34 :: (jsonEscape key ++ 34 :: 58 :: (token ++ (comma ++ 125 :: junk))))
      [(key, token)] := by
  have first : (token ++ (comma ++ 125 :: junk)).head? ≠ some 34 := by
    cases token with
    | nil => rcases ending with rfl | rfl <;> simp
    | cons c token => exact noString
  have unspaced : Trimmed (token ++ (comma ++ 125 :: junk)) := by
    cases token with
    | nil => rcases ending with rfl | rfl <;> exact trimmed_cons (by decide) _
    | cons c token =>
      refine trimmed_cons ?_ _
      have plain := within c List.mem_cons_self
      simp only [endsScalar, Bool.or_eq_false_iff] at plain
      exact plain.2
  have member := LooseMember.pair (jsonEscape_looseTail key _) (Spaces.none _) (Spaces.none _)
    unspaced (LooseValue.scalar first within)
  refine ⟨_, Spaces.none _, ?_⟩
  rcases ending with rfl | rfl
  · exact LooseMembers.last (Spaces.none _) member (Spaces.none _)
  · exact LooseMembers.more (Spaces.none _) member (Spaces.none _)
      (LooseMembers.none (Spaces.none _))

def bracedTask : ForwardContext :=
  { upstream := bytes "TaskService"
    upstreamPath := bytes "/create"
    method := bytes "POST"
    body := bytes "\x7b\"task_type\":a\x7d\x7d" }

def ownServices : LocalRpcServices Stores := localServices inMemoryUserRepository none

def ownEnv : LocalRpcEnv Stores :=
  { steady := ticking 1, system := stopped 0, deadline := none, state := { services := {} } }

theorem braced_task_created :
    MalformedObject bracedTask.body ∧ readsBody bracedTask = true ∧
      (forward ownServices bracedTask ownEnv).1.status = 200 ∧
      (forward ownServices bracedTask ownEnv).2.state.services.tasks.tasks.toList.map
        (fun entry => entry.2.taskType) = [bytes "a"] ∧
      ¬ Refused bracedTask.body := by
  have unbalanced : scan (outside 0) bracedTask.body ≠ outside 0 := by decide
  have created : (forward ownServices bracedTask ownEnv).2.state.services.tasks.tasks.toList.map
      (fun entry => entry.2.taskType) = [bytes "a"] := by decide +kernel
  refine ⟨⟨by decide, fun formed => ?_⟩, by decide, by decide +kernel, created, fun refused => ?_⟩
  · obtain ⟨members, text⟩ := formed
    exact unbalanced (wellFormed_scan ⟨_, text⟩).2
  · have kept := refused.untouched Stores ownServices bracedTask ownEnv rfl (by decide)
    rw [kept] at created
    cases created

end TgwMalformedBodies
