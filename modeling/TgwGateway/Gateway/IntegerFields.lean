import TgwGateway.Gateway.FlatJsonMeaning
import TgwGateway.Gateway.MalformedBodies
import TgwGateway.Lib.JsonNumbers

/- The integer fields of flat bodies, from the literal in the body to the request that a service is
   given. The services are watched through a record of what they are asked. -/
namespace TgwIntegerFields
open ByteStrings DecimalText MachineInt JsonGrammar JsonStrings JsonNumbers
open TgwClock TgwExceptions TgwStatus TgwHttp TgwFlatJson TgwFlatJsonMeaning TgwRpc
open TgwLocalRpc TgwLocalRpcErrors TgwMalformedBodies
open TgwStoreRuns (Stores)

variable {State : Type}

inductive ServiceCall where
  | login (req : LoginRequest)
  | getProfile (req : GetProfileRequest)
  | createFileMeta (req : CreateFileMetaRequest)
  | getFileMeta (req : GetFileMetaRequest)
  | createTask (req : CreateTaskRequest)
  | getTask (req : GetTaskRequest)
  | submitTaskEvent (event : TaskEvent)

def ServiceCall.number (key : Bytes) : ServiceCall → Option Int
  | .createFileMeta req =>
    if key = bytes "size" then some req.size.toInt
    else if key = bytes "owner_user_id" then some req.ownerUserId.toInt
    else none
  | .createTask req => if key = bytes "user_id" then some req.userId.toInt else none
  | .submitTaskEvent event =>
    if key = bytes "status" then some event.status.number
    else if key = bytes "timestamp" then some event.timestamp.toInt
    else none
  | _ => none

abbrev Recorded (State : Type) := State × List ServiceCall

def record {Response : Type} (call : ServiceCall) (run : Env State → Response × Env State)
    (env : Env (Recorded State)) : Response × Env (Recorded State) :=
  let ran := env.onPart Prod.fst (fun inner s => (inner, s.2)) run
  (ran.1, { ran.2 with state := (ran.2.state.1, ran.2.state.2 ++ [call]) })

/-- The same services, which keep what they are asked. -/
def recorded (services : LocalRpcServices State) : LocalRpcServices (Recorded State) where
  userService :=
    { login := fun ctx req => record (.login req) (services.userService.login ctx req)
      getProfile := fun ctx req =>
        record (.getProfile req) (services.userService.getProfile ctx req) }
  fileMetaService :=
    { createFileMeta := fun ctx req =>
        record (.createFileMeta req) (services.fileMetaService.createFileMeta ctx req)
      getFileMeta := fun ctx req =>
        record (.getFileMeta req) (services.fileMetaService.getFileMeta ctx req) }
  taskService :=
    { createTask := fun ctx req =>
        record (.createTask req) (services.taskService.createTask ctx req)
      getTask := fun ctx req => record (.getTask req) (services.taskService.getTask ctx req)
      submitTaskEvent := fun ctx event env =>
        (record (.submitTaskEvent event)
          (fun env => ((), services.taskService.submitTaskEvent ctx event env)) env).2 }
  tokenService := services.tokenService

def integerFields : Endpoint → List Bytes
  | .createFileMeta => [bytes "size", bytes "owner_user_id"]
  | .createTask => [bytes "user_id"]
  | .submitTaskEvent => [bytes "status", bytes "timestamp"]
  | .login | .getProfile | .getFileMeta | .getTask => []

def userIdFields : List Bytes := [bytes "owner_user_id", bytes "user_id"]

def lastMember (members : List (Bytes × JsonTree)) (key : Bytes) : Option JsonTree :=
  (members.reverse.find? fun member => decoded member.1 = some key).map (·.2)

/-- The service is given the number, or the request fails before any service is called. -/
def GivesNumber (services : LocalRpcServices State) (ctx : ForwardContext)
    (env : LocalRpcEnv (Recorded State)) (key : Bytes) (value : ℚ) : Prop :=
  let out := forward (recorded services) ctx env
  (400 ≤ out.1.status ∧ out.2.state = env.state) ∨
    ∃ (call : ServiceCall) (n : Int), out.2.state.services.2 = env.state.services.2 ++ [call] ∧
      call.number key = some n ∧ (n : ℚ) = value

/-- Every request that brings the body to the endpoint gives the number to the service, or fails. -/
def Delivers (endpoint : Endpoint) (body key : Bytes) (value : ℚ) : Prop :=
  ∀ (State : Type) (services : LocalRpcServices State) (ctx : ForwardContext)
    (env : LocalRpcEnv (Recorded State)), endpointOf ctx = some endpoint → ctx.body = body →
      GivesNumber services ctx env key value

def fieldText (members : List (Bytes × JsonTree)) (key : Bytes) : Option Bytes := do
  (← lastValues (members.map spelled))[key]?

/-- A field that is missing, empty or null stands for zero. -/
def textInteger : Option Bytes → Option Int
  | none => some 0
  | some text => if text = [] || text = bytes "null" then some 0 else leadingInteger text

def FitsInt64 (n : Int) : Prop := -9223372036854775808 ≤ n ∧ n < 9223372036854775808

def Reads (members : List (Bytes × JsonTree)) (key : Bytes) (n : Int) : Prop :=
  textInteger (fieldText members key) = some n ∧ FitsInt64 n

def Unconvertible (endpoint : Endpoint) (members : List (Bytes × JsonTree)) : Prop :=
  ∃ key ∈ integerFields endpoint, ∀ n, ¬ Reads members key n

def narrowed (key : Bytes) (n : Int) : Int := if key = bytes "status" then toInt32 n else n

section calls

variable {env : LocalRpcEnv (Recorded State)}

def Ends (call : ServiceCall) (env : LocalRpcEnv (Recorded State))
    (handled : Handled (Recorded State)) : Prop :=
  (env.deadline ≠ none ∧ Unserved env.state handled) ∨
    handled.2.state.services.2 = env.state.services.2 ++ [call]

theorem ends_of_beforeDeadline {ctx : ForwardContext} {call : ServiceCall}
    {next : LocalRpcEnv (Recorded State) → Handled (Recorded State)}
    (ends : ∀ entry, Ends call entry (next entry)) (env : LocalRpcEnv (Recorded State)) :
    Ends call env (beforeDeadline ctx next env) := by
  rcases beforeDeadline_cases ctx next env with passed | ⟨entry, kept, deadline, goesOn⟩
  · exact Or.inl passed
  · have ending := ends entry
    rw [Ends, kept, deadline, ← goesOn] at ending
    exact ending

theorem callMethod_ends {Request : Type} (ctx : ForwardContext) {req : Request}
    {call : Request → LocalRpcEnv (Recorded State) → HttpResponse × LocalRpcEnv (Recorded State)}
    {made : ServiceCall} (appends : ∀ entry,
      (call req entry).2.state.services.2 = entry.state.services.2 ++ [made]) :
    Ends made env (callMethod ctx (.ok req) call env) :=
  ends_of_beforeDeadline (ends_of_beforeDeadline fun entry => Or.inr (appends entry)) env

theorem map_ok {First Second : Type} {change : First → Second} {result : Except CppException First}
    {changed : Second} (done : result.map change = .ok changed) :
    ∃ first, result = .ok first ∧ changed = change first := by
  cases result with
  | error e => cases done
  | ok first =>
    cases done
    exact ⟨first, rfl, rfl⟩

/-- What a context asks of its service; the time of the call does not matter for it. -/
def callOf (ctx : ForwardContext) (rpcCtx : RpcContext) : Endpoint → Except CppException ServiceCall
  | .login => (loginRequest ctx).map .login
  | .getProfile => (getProfileRequest ctx rpcCtx).map .getProfile
  | .createFileMeta => (createFileMetaRequest ctx rpcCtx).map .createFileMeta
  | .getFileMeta => .ok (.getFileMeta (getFileMetaRequest ctx))
  | .createTask => (createTaskRequest ctx rpcCtx).map .createTask
  | .getTask => .ok (.getTask (getTaskRequest ctx))
  | .submitTaskEvent => (taskEvent ctx).map .submitTaskEvent

theorem callOf_now (ctx : ForwardContext) (now : Int) (endpoint : Endpoint) :
    callOf ctx (buildRpcContext ctx now) endpoint = callOf ctx (buildRpcContext ctx 0) endpoint := by
  cases endpoint <;> rfl

theorem callOf_exception (ctx : ForwardContext) {endpoint : Endpoint}
    (found : endpointOf ctx = some endpoint) :
    exceptionOf (callOf ctx (buildRpcContext ctx 0) endpoint) = rejection ctx := by
  rw [← requestException_eq ctx 0 found]
  cases endpoint with
  | getFileMeta => rfl
  | getTask => rfl
  | login => exact exceptionOf_map _ _
  | getProfile => exact exceptionOf_map _ _
  | createFileMeta => exact exceptionOf_map _ _
  | createTask => exact exceptionOf_map _ _
  | submitTaskEvent => exact exceptionOf_map _ _

theorem login_recorded (services : LocalRpcServices State) (ctx : ForwardContext)
    (rpcCtx : RpcContext) (req : LoginRequest) (entry : LocalRpcEnv (Recorded State)) :
    (login (recorded services) ctx rpcCtx req entry).2.state.services.2 =
      entry.state.services.2 ++ [.login req] := by
  unfold login
  cases found : (recorded services).tokenService with
  | none => rfl
  | some config =>
    simp only
    split <;> rfl

theorem handleEndpoint_ends (services : LocalRpcServices State) (ctx : ForwardContext)
    (rpcCtx : RpcContext) {endpoint : Endpoint} {call : ServiceCall}
    (made : callOf ctx rpcCtx endpoint = .ok call) :
    Ends call env (handleEndpoint (recorded services) ctx rpcCtx env endpoint) := by
  cases endpoint with
  | login =>
    obtain ⟨req, built, rfl⟩ := map_ok made
    rw [handleEndpoint, built]
    exact callMethod_ends ctx (login_recorded services ctx rpcCtx req)
  | getProfile =>
    obtain ⟨req, built, rfl⟩ := map_ok made
    rw [handleEndpoint, built]
    exact callMethod_ends ctx fun _ => rfl
  | createFileMeta =>
    obtain ⟨req, built, rfl⟩ := map_ok made
    rw [handleEndpoint, built]
    exact callMethod_ends ctx fun _ => rfl
  | getFileMeta =>
    cases made
    exact callMethod_ends ctx fun _ => rfl
  | createTask =>
    obtain ⟨req, built, rfl⟩ := map_ok made
    rw [handleEndpoint, built]
    exact callMethod_ends ctx fun _ => rfl
  | getTask =>
    cases made
    exact callMethod_ends ctx fun _ => rfl
  | submitTaskEvent =>
    obtain ⟨event, built, rfl⟩ := map_ok made
    rw [handleEndpoint, built]
    exact callMethod_ends ctx fun _ => rfl

theorem forward_ends (services : LocalRpcServices State) (ctx : ForwardContext)
    (env : LocalRpcEnv (Recorded State)) {endpoint : Endpoint}
    (found : endpointOf ctx = some endpoint) {call : ServiceCall}
    (made : callOf ctx (buildRpcContext ctx 0) endpoint = .ok call) :
    (env.deadline ≠ none ∧ (forward (recorded services) ctx env).2.state = env.state ∧
        400 ≤ (forward (recorded services) ctx env).1.status) ∨
      (forward (recorded services) ctx env).2.state.services.2 = env.state.services.2 ++ [call] := by
  have ends : Ends call env (beforeDeadline ctx (dispatch (recorded services) ctx) env) := by
    refine ends_of_beforeDeadline (fun entry => ?_) env
    have dispatched := dispatch_endpoint (recorded services) ctx entry
    rw [found] at dispatched
    rw [dispatched]
    have ending : Ends call entry.tick _ := handleEndpoint_ends services ctx _
      ((callOf_now ctx entry.now endpoint).trans made)
    exact ending
  rcases ends with ⟨timed, unserved⟩ | appended
  · exact Or.inl ⟨timed, forward_of_unserved unserved⟩
  · refine Or.inr ?_
    rw [forward_env]
    exact appended

end calls

section numbers

variable {fields : FieldMap} {ctx : ForwardContext}

theorem stoll_ok {text : Bytes} {n : Int} (converted : stoll text = .ok n) :
    leadingInteger text = some n ∧ FitsInt64 n := by
  unfold stoll convertInteger at converted
  split at converted
  · cases converted
  · rename_i m read
    split at converted
    · rename_i range
      cases converted
      simp only [FitsInt64]
      exact ⟨read, by omega⟩
    · cases converted

theorem getInt64_reads (fields : FieldMap) (key : Bytes) :
    (∃ v : Int64, getInt64 fields key = .ok v ∧ textInteger fields[key]? = some v.toInt) ∨
      ((∃ e, getInt64 fields key = .error e) ∧
        ∀ n, textInteger fields[key]? = some n → ¬ FitsInt64 n) := by
  unfold getInt64 textInteger
  cases fields[key]? with
  | none => exact Or.inl ⟨0, rfl, rfl⟩
  | some text =>
    simp only
    split
    · exact Or.inl ⟨0, rfl, rfl⟩
    · cases converted : stoll text with
      | ok n =>
        obtain ⟨read, low, high⟩ := stoll_ok converted
        refine Or.inl ⟨Int64.ofInt n, rfl, ?_⟩
        rw [read, Int64.toInt_ofInt_of_le (by omega) (by omega)]
      | error e =>
        refine Or.inr ⟨⟨e, rfl⟩, ?_⟩
        rintro n read ⟨low, high⟩
        rw [stoll_some read (by omega) (by omega)] at converted
        cases converted

theorem getInt64_begins {fields : FieldMap} {key : Bytes} {v : Int64}
    (read : getInt64 fields key = .ok v) : textInteger fields[key]? = some v.toInt := by
  rcases getInt64_reads fields key with ⟨w, again, begins⟩ | ⟨⟨e, thrown⟩, _⟩
  · rw [read] at again
    cases again
    exact begins
  · rw [read] at thrown
    cases thrown

theorem int64_fits (v : Int64) : FitsInt64 v.toInt := by
  have low := v.le_toInt
  have high := v.toInt_lt
  simp only [FitsInt64]
  omega

theorem status_number (n : Int) : (TaskStatus.ofNumber n).number = n := by
  unfold TaskStatus.ofNumber
  split_ifs with zero one two three four
  · exact zero.symm
  · exact one.symm
  · exact two.symm
  · exact three.symm
  · exact four.symm
  · rfl

/-- A user id is the field, or the identity of the request when the field is zero. -/
theorem userIdField_cases {key : Bytes} {rpcCtx : RpcContext} {u : Int64}
    (given : userIdField fields key rpcCtx = .ok u) :
    ∃ v, getInt64 fields key = .ok v ∧ (((v ≠ 0 ∨ rpcCtx.userId = []) ∧ u = v) ∨
      (v = 0 ∧ rpcCtx.userId ≠ [] ∧ ∃ m, stoll rpcCtx.userId = .ok m ∧ u.toInt = m)) := by
  unfold userIdField at given
  split at given
  · cases given
  · rename_i v read
    refine ⟨v, read, ?_⟩
    split at given
    · rename_i taken
      simp only [ne_eq, decide_not, Bool.and_eq_true, decide_eq_true_eq, Bool.not_eq_true',
        decide_eq_false_iff_not] at taken
      obtain ⟨m, converted, rfl⟩ := map_ok given
      obtain ⟨_, low, high⟩ := stoll_ok converted
      exact Or.inr ⟨taken.1, taken.2, m, converted, Int64.toInt_ofInt_of_le (by omega) (by omega)⟩
    · rename_i kept
      cases given
      refine Or.inl ⟨?_, rfl⟩
      by_cases absent : u = 0
      · simp only [absent, decide_true, Bool.true_and, decide_eq_true_eq, ne_eq,
          Decidable.not_not] at kept
        exact Or.inr kept
      · exact Or.inl absent

def Carried (identity key : Bytes) (call : ServiceCall) (v : Int64) : Prop :=
  ∃ n, call.number key = some n ∧
    ((n = narrowed key v.toInt ∧ (v ≠ 0 ∨ key ∉ userIdFields ∨ identity = [])) ∨
      (v = 0 ∧ key ∈ userIdFields ∧ stoll identity = .ok n))

theorem carried_userId {identity key : Bytes} {call : ServiceCall} {u : Int64}
    (number : call.number key = some u.toInt) (noStatus : key ≠ bytes "status")
    (userId : key ∈ userIdFields) {rpcCtx : RpcContext} (own : rpcCtx.userId = identity)
    (given : userIdField fields key rpcCtx = .ok u) :
    ∃ v, getInt64 fields key = .ok v ∧ Carried identity key call v := by
  obtain ⟨v, read, cases⟩ := userIdField_cases given
  rw [own] at cases
  refine ⟨v, read, u.toInt, number, ?_⟩
  rcases cases with ⟨kept, rfl⟩ | ⟨absent, _, m, converted, value⟩
  · refine Or.inl ⟨by rw [narrowed, if_neg noStatus], ?_⟩
    rcases kept with present | anonymous
    · exact Or.inl present
    · exact Or.inr (Or.inr anonymous)
  · exact Or.inr ⟨absent, userId, value ▸ converted⟩

theorem call_number {endpoint : Endpoint} {call : ServiceCall}
    (parsed : parseFlatJsonObject ctx.body = .ok fields)
    (made : callOf ctx (buildRpcContext ctx 0) endpoint = .ok call) {key : Bytes}
    (listed : key ∈ integerFields endpoint) :
    ∃ v, getInt64 fields key = .ok v ∧ Carried (buildRpcContext ctx 0).userId key call v := by
  cases endpoint with
  | login => cases listed
  | getProfile => cases listed
  | getFileMeta => cases listed
  | getTask => cases listed
  | createFileMeta =>
    obtain ⟨req, built, rfl⟩ := map_ok made
    unfold createFileMetaRequest at built
    rw [parsed] at built
    simp only at built
    split at built
    · cases built
    · rename_i size sized
      split at built
      · cases built
      · rename_i owner owned
        cases built
        simp only [integerFields, List.mem_cons, List.not_mem_nil, or_false] at listed
        rcases listed with rfl | rfl
        · exact ⟨size, sized, size.toInt, rfl,
            Or.inl ⟨rfl, Or.inr (Or.inl (by decide))⟩⟩
        · exact carried_userId rfl (by decide) (by decide) rfl owned
  | createTask =>
    obtain ⟨req, built, rfl⟩ := map_ok made
    unfold createTaskRequest at built
    rw [parsed] at built
    simp only at built
    split at built
    · cases built
    · rename_i userId owned
      cases built
      rw [List.mem_singleton.mp listed]
      exact carried_userId rfl (by decide) (by decide) rfl owned
  | submitTaskEvent =>
    obtain ⟨event, built, rfl⟩ := map_ok made
    unfold taskEvent at built
    rw [parsed] at built
    simp only at built
    split at built
    · cases built
    · rename_i status first
      split at built
      · cases built
      · rename_i timestamp second
        cases built
        simp only [integerFields, List.mem_cons, List.not_mem_nil, or_false] at listed
        rcases listed with rfl | rfl
        · exact ⟨status, first, toInt32 status.toInt,
            congrArg some (status_number (toInt32 status.toInt)),
            Or.inl ⟨rfl, Or.inr (Or.inl (by decide))⟩⟩
        · exact ⟨timestamp, second, timestamp.toInt, rfl,
            Or.inl ⟨rfl, Or.inr (Or.inl (by decide))⟩⟩

theorem userIdField_ok {key : Bytes} {rpcCtx : RpcContext} {v : Int64}
    (read : getInt64 fields key = .ok v)
    (identity : rpcCtx.userId = [] ∨ ∃ m, stoll rpcCtx.userId = .ok m) :
    ∃ u, userIdField fields key rpcCtx = .ok u := by
  unfold userIdField
  rw [read]
  simp only
  split
  · rename_i taken
    rcases identity with anonymous | ⟨m, converted⟩
    · simp [anonymous] at taken
    · rw [converted]
      exact ⟨_, rfl⟩
  · exact ⟨v, rfl⟩

theorem callOf_ok {endpoint : Endpoint} {key : Bytes} (listed : key ∈ integerFields endpoint)
    (parsed : parseFlatJsonObject ctx.body = .ok fields)
    (read : ∀ key ∈ integerFields endpoint, ∃ v, getInt64 fields key = .ok v)
    (identity : (buildRpcContext ctx 0).userId = [] ∨
      ∃ m, stoll (buildRpcContext ctx 0).userId = .ok m) :
    ∃ call, callOf ctx (buildRpcContext ctx 0) endpoint = .ok call := by
  cases endpoint with
  | login => cases listed
  | getProfile => cases listed
  | getFileMeta => cases listed
  | getTask => cases listed
  | createFileMeta =>
    obtain ⟨size, sized⟩ := read (bytes "size") (by simp [integerFields])
    obtain ⟨v, owned⟩ := read (bytes "owner_user_id") (by simp [integerFields])
    obtain ⟨owner, given⟩ := userIdField_ok owned identity
    simp only [callOf, createFileMetaRequest, parsed, sized, given]
    exact ⟨_, rfl⟩
  | createTask =>
    obtain ⟨v, owned⟩ := read (bytes "user_id") (by simp [integerFields])
    obtain ⟨userId, given⟩ := userIdField_ok owned identity
    simp only [callOf, createTaskRequest, parsed, given]
    exact ⟨_, rfl⟩
  | submitTaskEvent =>
    obtain ⟨status, first⟩ := read (bytes "status") (by simp [integerFields])
    obtain ⟨timestamp, second⟩ := read (bytes "timestamp") (by simp [integerFields])
    simp only [callOf, taskEvent, parsed, first, second]
    exact ⟨_, rfl⟩

end numbers

section requests

variable {endpoint : Endpoint} {body key : Bytes} {value : ℚ}

def requestFor (body identity : Bytes) : Endpoint → ForwardContext
  | .createFileMeta => named (bytes "FileMetaService") (bytes "/meta/create")
  | .createTask => named (bytes "TaskService") (bytes "/create")
  | .submitTaskEvent => named (bytes "TaskService") (bytes "/event")
  | .login | .getProfile | .getFileMeta | .getTask => {}
where
  named (upstream path : Bytes) : ForwardContext :=
    { upstream := upstream
      upstreamPath := path
      method := bytes "POST"
      body := body
      headers := (∅ : ByteMap Bytes).insert (bytes "X-User-Id") identity }

theorem requestFor_named (listed : key ∈ integerFields endpoint) (body identity : Bytes) :
    endpointOf (requestFor body identity endpoint) = some endpoint ∧
      (requestFor body identity endpoint).body = body ∧
      (buildRpcContext (requestFor body identity endpoint) 0).userId = identity := by
  cases endpoint with
  | login => cases listed
  | getProfile => cases listed
  | getFileMeta => cases listed
  | getTask => cases listed
  | createFileMeta => exact ⟨rfl, rfl, by simp [buildRpcContext, requestFor, requestFor.named]⟩
  | createTask => exact ⟨rfl, rfl, by simp [buildRpcContext, requestFor, requestFor.named]⟩
  | submitTaskEvent => exact ⟨rfl, rfl, by simp [buildRpcContext, requestFor, requestFor.named]⟩

def recordingEnv : LocalRpcEnv (Recorded Unit) :=
  { steady := ticking 1, system := stopped 0, deadline := none, state := { services := ((), []) } }

theorem delivered_number (delivers : Delivers endpoint body key value) {ctx : ForwardContext}
    (found : endpointOf ctx = some endpoint) (brings : ctx.body = body) {call : ServiceCall}
    (made : callOf ctx (buildRpcContext ctx 0) endpoint = .ok call) :
    ∃ n : Int, call.number key = some n ∧ (n : ℚ) = value := by
  have appended : (forward (recorded acceptingServices) ctx recordingEnv).2.state.services.2 =
      [call] := by
    rcases forward_ends acceptingServices ctx recordingEnv found made with ⟨timed, _⟩ | appended
    · exact absurd rfl timed
    · exact appended
  rcases delivers Unit acceptingServices ctx recordingEnv found brings with
    ⟨_, kept⟩ | ⟨other, n, recorded, number, same⟩
  · rw [kept] at appended
    cases appended
  · rw [appended] at recorded
    cases recorded
    exact ⟨n, number, same⟩

variable {members : List (Bytes × JsonTree)}

/-- One request for each identity; the fields alone decide whether it is made. -/
theorem delivered_carried (delivers : Delivers endpoint body key value)
    (listed : key ∈ integerFields endpoint) {fields : FieldMap}
    (parsed : parseFlatJsonObject body = .ok fields)
    (read : ∀ key ∈ integerFields endpoint, ∃ v, getInt64 fields key = .ok v) {identity : Bytes}
    (usable : identity = [] ∨ ∃ m, stoll identity = .ok m) {v : Int64}
    (own : getInt64 fields key = .ok v) :
    (narrowed key v.toInt = value ∧ (v ≠ 0 ∨ key ∉ userIdFields ∨ identity = [])) ∨
      ∃ m : Int, stoll identity = .ok m ∧ (m : ℚ) = value := by
  obtain ⟨found, brings, named⟩ := requestFor_named listed body identity
  have parsed' : parseFlatJsonObject (requestFor body identity endpoint).body = .ok fields := by
    rw [brings, parsed]
  obtain ⟨call, made⟩ := callOf_ok listed parsed' read (named.symm ▸ usable)
  obtain ⟨n, number, same⟩ := delivered_number delivers found brings made
  obtain ⟨w, again, m, carries, cases⟩ := call_number parsed' made listed
  rw [own] at again
  cases again
  rw [number] at carries
  cases carries
  rw [named] at cases
  rcases cases with ⟨rfl, kept⟩ | ⟨_, _, converted⟩
  · exact Or.inl ⟨same, kept⟩
  · exact Or.inr ⟨n, converted, same⟩

theorem delivered_reads (delivers : Delivers endpoint body key value)
    (listed : key ∈ integerFields endpoint) {fields : FieldMap}
    (parsed : parseFlatJsonObject body = .ok fields)
    (read : ∀ key ∈ integerFields endpoint, ∃ v, getInt64 fields key = .ok v) :
    ∃ v, getInt64 fields key = .ok v ∧ (narrowed key v.toInt : ℚ) = value ∧
      (key ∈ userIdFields → v.toInt ≠ 0) := by
  obtain ⟨v, own⟩ := read key listed
  refine ⟨v, own, ?_, ?_⟩
  · rcases delivered_carried delivers listed parsed read (Or.inl rfl) own with
      ⟨same, _⟩ | ⟨m, converted, _⟩
    · exact same
    · cases converted
  · intro userId zero
    -- a zero gives way to whatever identity the request has
    have given : ∀ m : Int, -9223372036854775808 ≤ m → m < 9223372036854775808 →
        (m : ℚ) = value := by
      intro m low high
      have converts := stoll_intText (n := m) (by omega) (by omega)
      rcases delivered_carried delivers listed parsed read (Or.inr ⟨m, converts⟩) own with
        ⟨_, present | other | none⟩ | ⟨n, converted, same⟩
      · exact absurd (Int64.toInt_inj.mp zero) present
      · exact absurd userId other
      · exact absurd none (intText_ne_nil m)
      · rw [converts] at converted
        cases converted
        exact same
    have one := given 1 (by omega) (by omega)
    have two := given 2 (by omega) (by omega)
    rw [← one] at two
    norm_num at two

theorem refused_gives {ctx : ForwardContext} (found : endpointOf ctx = some endpoint)
    {e : CppException} (thrown : callOf ctx (buildRpcContext ctx 0) endpoint = .error e)
    (services : LocalRpcServices State) (env : LocalRpcEnv (Recorded State)) :
    GivesNumber services ctx env key value := by
  have rejected : rejection ctx = some e := by
    rw [← callOf_exception ctx found, thrown]
    rfl
  obtain ⟨kept, failed⟩ := forward_unserved (recorded services) ctx env rejected
  exact Or.inl ⟨failed, kept⟩

theorem delivers_iff {fields : FieldMap} (parsed : parseFlatJsonObject body = .ok fields)
    (meant : lastValues (members.map spelled) = some fields)
    (listed : key ∈ integerFields endpoint) :
    Delivers endpoint body key value ↔ Unconvertible endpoint members ∨
      ∃ n, Reads members key n ∧ (narrowed key n : ℚ) = value ∧ (key ∈ userIdFields → n ≠ 0) := by
  have texts : ∀ key, fieldText members key = fields[key]? := by
    intro key
    simp [fieldText, meant]
  constructor
  · intro delivers
    by_cases refused : Unconvertible endpoint members
    · exact Or.inl refused
    · have read : ∀ key ∈ integerFields endpoint, ∃ v, getInt64 fields key = .ok v := by
        intro other among
        rcases getInt64_reads fields other with ⟨v, own, _⟩ | ⟨_, none⟩
        · exact ⟨v, own⟩
        · refine absurd ⟨other, among, fun n reads => ?_⟩ refused
          rw [Reads, texts] at reads
          exact none n reads.1 reads.2
      obtain ⟨v, own, same, present⟩ := delivered_reads delivers listed parsed read
      exact Or.inr ⟨v.toInt, ⟨by rw [texts, getInt64_begins own], int64_fits v⟩, same, present⟩
  · rintro condition State services ctx env found rfl
    cases made : callOf ctx (buildRpcContext ctx 0) endpoint with
    | error e => exact refused_gives found made services env
    | ok call =>
      have reads : ∀ other ∈ integerFields endpoint, ∃ v, Reads members other v.toInt ∧
          Carried (buildRpcContext ctx 0).userId other call v := by
        intro other among
        obtain ⟨v, own, carried⟩ := call_number parsed made among
        exact ⟨v, ⟨by rw [texts, getInt64_begins own], int64_fits v⟩, carried⟩
      rcases condition with ⟨other, among, none⟩ | ⟨n, ⟨begins, _⟩, same, present⟩
      · obtain ⟨v, own, _⟩ := reads other among
        exact absurd own (none _)
      · obtain ⟨v, ⟨again, _⟩, m, number, cases⟩ := reads key listed
        rw [begins] at again
        cases again
        rcases forward_ends services ctx env found made with ⟨_, kept, failed⟩ | appended
        · exact Or.inl ⟨failed, kept⟩
        · refine Or.inr ⟨call, m, appended, number, ?_⟩
          rcases cases with ⟨rfl, _⟩ | ⟨zero, userId, _⟩
          · exact same
          · exact absurd (by rw [zero]; rfl) (present userId)

end requests

section plain

variable {members : List (Bytes × JsonTree)}

theorem foldlM_lastMember (key : Bytes) (tree : JsonTree) {fields : FieldMap}
    (meant : members.foldlM addMember ∅ = some fields)
    (held : lastMember members key = some tree) : fields[key]? = valueText tree := by
  induction members using List.reverseRecOn generalizing fields with
  | nil => cases held
  | append_singleton members member ih =>
    rw [List.foldlM_append] at meant
    obtain ⟨earlier, before, after⟩ := Option.bind_eq_some_iff.mp meant
    simp only [List.foldlM_cons, List.foldlM_nil, Option.bind_eq_bind, addMember] at after
    obtain ⟨inserted, own, done⟩ := Option.bind_eq_some_iff.mp after
    obtain ⟨name, named, rest⟩ := Option.bind_eq_some_iff.mp own
    obtain ⟨value, valued, placed⟩ := Option.bind_eq_some_iff.mp rest
    cases placed
    cases done
    unfold lastMember at held ih
    rw [List.reverse_append, List.reverse_singleton, List.singleton_append, List.find?_cons] at held
    by_cases same : name = key
    · subst same
      simp only [named, decide_true, Option.map_some, Option.some.injEq] at held
      rw [← held, valued]
      simp
    · have other : decoded member.1 ≠ some key := by
        rw [named]
        exact fun eq => same (Option.some.inj eq)
      simp only [other, decide_false] at held
      rw [Std.ExtTreeMap.getElem?_insert, if_neg (by simpa using same)]
      exact ih before held

theorem members_numbers {text rest : Bytes} (listed : Members text members rest)
    {member : Bytes × JsonTree} (among : member ∈ members) {literal : Bytes}
    (number : member.2 = .number literal) : NumberText literal := by
  induction members generalizing text with
  | nil => cases among
  | cons first members ih =>
    have own : ∀ {text rest : Bytes} {tree : JsonTree}, Value text tree rest →
        tree = .number literal → NumberText literal := by
      rintro text rest tree value rfl
      cases value with
      | number form => exact form
    rcases List.mem_cons.mp among with rfl | later
    · cases listed with
      | last before name colon after value close => exact own value number
      | more before name colon after value comma others => exact own value number
    · cases listed with
      | last before name colon after value close => cases later
      | more before name colon after value comma others => exact ih others later

theorem lastMember_numberText {body key literal : Bytes} (text : JsonText body (.object members))
    (held : lastMember members key = some (.number literal)) : NumberText literal := by
  obtain ⟨text₁, text₂, before, value, _⟩ := text
  obtain ⟨member, found, number⟩ := Option.map_eq_some_iff.mp held
  have among := List.mem_reverse.mp (List.mem_of_find?_eq_some found)
  cases value with
  | emptyObject close => cases among
  | object listed => exact members_numbers listed among number

theorem reads_iff {fields : FieldMap} {key literal : Bytes} (plain : ∀ m ∈ members, spelled m = m)
    (meant : lastValues (members.map spelled) = some fields)
    (held : lastMember members key = some (.number literal)) (form : NumberText literal) (n : Int) :
    Reads members key n ↔ n = integerPart literal ∧ FitsInt64 n := by
  have same : members.map spelled = members := by
    simpa using List.map_congr_left (g := id) plain
  have own : fieldText members key = some literal := by
    rw [same] at meant
    simp [fieldText, same, meant, foldlM_lastMember key _ meant held, valueText]
  have begins := leadingInteger_literal form
  have written : literal ≠ [] ∧ literal ≠ bytes "null" := by
    constructor
    · rintro rfl
      cases begins
    · rintro rfl
      cases begins
  simp only [Reads, own, textInteger, written, decide_false, Bool.or_self, Bool.false_eq_true,
    ↓reduceIte, begins, Option.some.injEq]
  exact and_congr_left fun _ => eq_comm

end plain

/-- The number of a literal arrives exactly when its field is read as its value, narrowed for a
    status, and is no zero that gives way to an identity; or the request fails for some field. -/
theorem integer_field_iff {endpoint : Endpoint} {body : Bytes} {members : List (Bytes × JsonTree)}
    (text : JsonText body (.object members)) (flat : ∀ m ∈ members, IsFlat m.2) {key : Bytes}
    (listed : key ∈ integerFields endpoint) {literal : Bytes}
    (held : lastMember members key = some (.number literal)) :
    (Delivers endpoint body key (numberValue literal) ↔ Unconvertible endpoint members ∨
        ∃ n, Reads members key n ∧ (narrowed key n : ℚ) = numberValue literal ∧
          (key ∈ userIdFields → n ≠ 0)) ∧
      ((∀ m ∈ members, spelled m = m) →
        (Delivers endpoint body key (numberValue literal) ↔ Unconvertible endpoint members ∨
          ((integerPart literal : ℚ) = numberValue literal ∧
            (key = bytes "status" → FitsInt32 (integerPart literal)) ∧
            (key ∈ userIdFields → integerPart literal ≠ 0)))) := by
  obtain ⟨fields, parsed, meant⟩ := parse_flatObject text flat
  have exact_when : Delivers endpoint body key (numberValue literal) ↔ _ :=
    delivers_iff parsed meant listed
  refine ⟨exact_when, fun plain => exact_when.trans ?_⟩
  have reads := reads_iff plain meant held (lastMember_numberText text held)
  have narrow : (narrowed key (integerPart literal) : ℚ) = numberValue literal ↔
      (integerPart literal : ℚ) = numberValue literal ∧
        (key = bytes "status" → FitsInt32 (integerPart literal)) := by
    unfold narrowed
    split
    · rename_i status
      simp [status, toInt32_integerPart_iff]
    · rename_i other
      simp [other]
  constructor
  · rintro (refused | ⟨n, own, same, present⟩)
    · exact Or.inl refused
    · obtain ⟨rfl, _⟩ := (reads n).mp own
      obtain ⟨value, fits⟩ := narrow.mp same
      exact Or.inr ⟨value, fits, present⟩
  · rintro (refused | ⟨value, fits, present⟩)
    · exact Or.inl refused
    · by_cases range : FitsInt64 (integerPart literal)
      · exact Or.inr ⟨_, (reads _).mpr ⟨rfl, range⟩, narrow.mpr ⟨value, fits⟩, present⟩
      · refine Or.inl ⟨key, listed, fun n own => ?_⟩
        obtain ⟨rfl, inside⟩ := (reads n).mp own
        exact range inside

section sizes

def sizeMembers (literal : Bytes) : List (Bytes × JsonTree) :=
  [(bytes "filename", .string (bytes "a.txt")), (bytes "size", .number literal)]

def sizeBody (literal : Bytes) : Bytes := JsonPrinter.render (.object (sizeMembers literal))

theorem sizeBody_text {literal : Bytes} (form : NumberText literal) :
    JsonText (sizeBody literal) (.object (sizeMembers literal)) := by
  refine JsonPrinter.render_text ?_
  simp only [sizeMembers, JsonPrinter.Written, JsonPrinter.WrittenMembers, and_true]
  exact ⟨JsonPrinter.unescaped_body (by decide), JsonPrinter.unescaped_body (by decide),
    JsonPrinter.unescaped_body (by decide), form⟩

theorem sizeMembers_flat (literal : Bytes) : ∀ m ∈ sizeMembers literal, IsFlat m.2 := by
  intro m member
  simp only [sizeMembers, List.mem_cons, List.not_mem_nil, or_false] at member
  rcases member with rfl | rfl <;> trivial

theorem sizeMembers_held (literal : Bytes) :
    lastMember (sizeMembers literal) (bytes "size") = some (.number literal) := by
  have named : decoded (bytes "size") = some (bytes "size") := by decide
  simp [lastMember, sizeMembers, named]

theorem integer_field_iff_seven :
    (Delivers .createFileMeta (sizeBody (intText 7)) (bytes "size") (numberValue (intText 7)) ↔
        Unconvertible .createFileMeta (sizeMembers (intText 7)) ∨
          ∃ n, Reads (sizeMembers (intText 7)) (bytes "size") n ∧
            (narrowed (bytes "size") n : ℚ) = numberValue (intText 7) ∧
            (bytes "size" ∈ userIdFields → n ≠ 0)) ∧
      ((∀ m ∈ sizeMembers (intText 7), spelled m = m) →
        (Delivers .createFileMeta (sizeBody (intText 7)) (bytes "size") (numberValue (intText 7)) ↔
          Unconvertible .createFileMeta (sizeMembers (intText 7)) ∨
            ((integerPart (intText 7) : ℚ) = numberValue (intText 7) ∧
              (bytes "size" = bytes "status" → FitsInt32 (integerPart (intText 7))) ∧
              (bytes "size" ∈ userIdFields → integerPart (intText 7) ≠ 0)))) :=
  integer_field_iff (sizeBody_text (JsonPrinter.intText_number 7)) (sizeMembers_flat _)
    (by simp [integerFields]) (sizeMembers_held _)

def ownRecordingEnv : LocalRpcEnv (Recorded Stores) :=
  { steady := ticking 1, system := stopped 0, deadline := none, state := { services := ({}, []) } }

/-- A file of one byte and a half is stored with one byte. -/
theorem fractional_size_cut :
    (JsonText (sizeBody (bytes "1.5")) (.object (sizeMembers (bytes "1.5"))) ∧
        lastMember (sizeMembers (bytes "1.5")) (bytes "size") = some (.number (bytes "1.5"))) ∧
      (forward (recorded ownServices) (requestFor (sizeBody (bytes "1.5")) [] .createFileMeta)
        ownRecordingEnv).2.state.services.2.map (ServiceCall.number (bytes "size")) = [some 1] ∧
      (forward (recorded ownServices) (requestFor (sizeBody (bytes "1.5")) [] .createFileMeta)
        ownRecordingEnv).2.state.services.1.files.files.toList.map (fun entry => entry.2.size) =
          [1] ∧
      ¬ Delivers .createFileMeta (sizeBody (bytes "1.5")) (bytes "size")
        (numberValue (bytes "1.5")) := by
  have form : NumberText (bytes "1.5") := by
    refine ⟨[], [49], [46, 53], [], by decide, Or.inl rfl, Or.inr ⟨⟨by decide, ?_⟩, by decide⟩,
      Or.inr ⟨[53], rfl, by decide, ?_⟩, Or.inl rfl⟩
    · exact List.all_eq_true.mp (by decide)
    · exact List.all_eq_true.mp (by decide)
  have numbers : (forward (recorded ownServices)
      (requestFor (sizeBody (bytes "1.5")) [] .createFileMeta)
        ownRecordingEnv).2.state.services.2.map (ServiceCall.number (bytes "size")) = [some 1] := by
    decide +kernel
  refine ⟨⟨sizeBody_text form, sizeMembers_held _⟩, numbers, by decide +kernel, fun delivers => ?_⟩
  have given := delivers Stores ownServices
    (requestFor (sizeBody (bytes "1.5")) [] .createFileMeta) ownRecordingEnv rfl rfl
  have value : numberValue (bytes "1.5") = 3 / 2 := by
    have parted : parts (bytes "1.5") = ⟨false, [49], [53], 0⟩ := by decide
    have digits : digitsValue ([49] ++ [53]) = 15 := by decide
    rw [numberValue, parted, Parts.value, digits]
    norm_num [withSign]
  rcases given with ⟨_, kept⟩ | ⟨call, n, appended, number, same⟩
  · rw [kept] at numbers
    cases numbers
  · rw [appended] at numbers
    have one : n = 1 := by simpa [ownRecordingEnv, number] using numbers
    rw [one, value] at same
    norm_num at same

end sizes

end TgwIntegerFields
