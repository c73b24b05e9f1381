import TgwGateway.Gateway.LocalRpcUpstreamClient
import TgwGateway.Lib.JsonGrammar

/- Which answers of the local RPC client count as upstream failures: what the client sent decides
   it before any service is called, and the service alone afterwards. -/
namespace TgwLocalRpcErrors
open ByteStrings DecimalText JsonGrammar TgwClock TgwExceptions TgwStatus TgwHttp
open TgwFlatJson TgwRpc TgwLocalRpc
open TgwGovernance (isFailureResponse)
variable {State : Type}

inductive Endpoint where
  | login
  | getProfile
  | createFileMeta
  | getFileMeta
  | createTask
  | getTask
  | submitTaskEvent
  deriving DecidableEq

def endpointOf (ctx : ForwardContext) : Option Endpoint :=
  if ctx.upstream = bytes "UserService" then
    if ctx.method = bytes "POST" ∧ ctx.upstreamPath = bytes "/login" then some .login
    else if ctx.method = bytes "GET" ∧ ctx.upstreamPath = bytes "/profile" then some .getProfile
    else none
  else if ctx.upstream = bytes "FileMetaService" then
    if ctx.method = bytes "POST" ∧ ctx.upstreamPath = bytes "/meta/create" then
      some .createFileMeta
    else if ctx.method = bytes "GET" ∧ ctx.upstreamPath = bytes "/meta" then some .getFileMeta
    else none
  else if ctx.upstream = bytes "TaskService" then
    if ctx.method = bytes "POST" ∧ ctx.upstreamPath = bytes "/create" then some .createTask
    else if ctx.method = bytes "GET" ∧ ctx.upstreamPath = bytes "/get" then some .getTask
    else if ctx.method = bytes "POST" ∧ ctx.upstreamPath = bytes "/event" then
      some .submitTaskEvent
    else none
  else none

def Endpoint.readsBody : Endpoint → Bool
  | .login | .createFileMeta | .createTask | .submitTaskEvent => true
  | .getProfile | .getFileMeta | .getTask => false

def readsBody (ctx : ForwardContext) : Bool :=
  match endpointOf ctx with
  | some endpoint => endpoint.readsBody
  | none => false

def givenFields (ctx : ForwardContext) (endpoint : Endpoint) : FieldMap :=
  if endpoint.readsBody then
    match parseFlatJsonObject ctx.body with
    | .ok fields => fields
    | .error _ => ∅
  else parseQuery ctx.query

def givenInteger (fields : FieldMap) (key : Bytes) : List Bytes :=
  match fields[key]? with
  | none => []
  | some text => if text = [] || text = bytes "null" then [] else [text]

def givenUserId (fields : FieldMap) (key : Bytes) (ctx : ForwardContext) : List Bytes :=
  let identity := (ctx.headers[bytes "X-User-Id"]?).getD []
  givenInteger fields key ++
    if getInt64 fields key = .ok 0 ∧ identity ≠ [] then [identity] else []

def Endpoint.integerTexts (ctx : ForwardContext) (endpoint : Endpoint) : List Bytes :=
  let fields := givenFields ctx endpoint
  match endpoint with
  | .getProfile => givenUserId fields (bytes "user_id") ctx
  | .createFileMeta =>
    givenInteger fields (bytes "size") ++ givenUserId fields (bytes "owner_user_id") ctx
  | .createTask => givenUserId fields (bytes "user_id") ctx
  | .submitTaskEvent =>
    givenInteger fields (bytes "status") ++ givenInteger fields (bytes "timestamp")
  | .login | .getFileMeta | .getTask => []

def integerTexts (ctx : ForwardContext) : List Bytes :=
  match endpointOf ctx with
  | some endpoint => endpoint.integerTexts ctx
  | none => []

/-- A body with something in it that is no JSON text. -/
def MalformedBody (body : Bytes) : Prop := skipWhitespace body ≠ [] ∧ ¬ WellFormed body

def afterSign (text : Bytes) : Bytes :=
  match skipWhitespace text with
  | 45 :: rest => rest
  | 43 :: rest => rest
  | rest => rest

/-- A whole decimal numeral with a value of 64 bits. -/
def Int64Numeral (text : Bytes) : Prop :=
  Digits (afterSign text) ∧ ∃ n, leadingInteger text = some n ∧ -2 ^ 63 ≤ n ∧ n < 2 ^ 63

def BadInput (ctx : ForwardContext) : Prop :=
  (readsBody ctx = true ∧ MalformedBody ctx.body) ∨ ∃ text ∈ integerTexts ctx, ¬ Int64Numeral text

/-- The codes a gateway client can be blamed for, and success. -/
def RegularCode (code : RpcCode) : Prop :=
  code = .ok ∨ code = .invalidArgument ∨ code = .unauthorized ∨ code = .notFound

structure ErrorLaws (services : LocalRpcServices State) (ctx : ForwardContext)
    (env : LocalRpcEnv State) : Prop where
  fault : 500 ≤ (forward services ctx env).1.status →
    ∃ code, (forward services ctx env).2.state.returned = env.state.returned ++ [code] ∧
      ¬ RegularCode code
  refused : BadInput ctx → (forward services ctx env).1.status = 400 ∧
    isFailureResponse (forward services ctx env).1 = false

def FirstBadIsNoNumber (texts : List Bytes) : Prop :=
  ∃ earlier text later, texts = earlier ++ text :: later ∧
    (∀ t ∈ earlier, ∃ n, stoll t = .ok n) ∧ leadingInteger text = none

structure Answerable (ctx : ForwardContext) : Prop where
  body : readsBody ctx = true → ∃ fields, parseFlatJsonObject ctx.body = .ok fields
  input : FirstBadIsNoNumber (integerTexts ctx) ∨ ¬ BadInput ctx

def firstRejected : List Bytes → Option CppException
  | [] => none
  | text :: texts =>
    match stoll text with
    | .error e => some e
    | .ok _ => firstRejected texts

def exceptionOf {Result : Type} : Except CppException Result → Option CppException
  | .ok _ => none
  | .error e => some e

def rejection (ctx : ForwardContext) : Option CppException :=
  match if readsBody ctx then parseFlatJsonObject ctx.body else .ok ∅ with
  | .error e => some e
  | .ok _ => firstRejected (integerTexts ctx)

def handleEndpoint (services : LocalRpcServices State) (ctx : ForwardContext)
    (rpcCtx : RpcContext) (env : LocalRpcEnv State) : Endpoint → Handled State
  | .login => callMethod ctx (loginRequest ctx) (login services ctx rpcCtx) env
  | .getProfile =>
    callMethod ctx (getProfileRequest ctx rpcCtx) (getProfile services ctx rpcCtx) env
  | .createFileMeta =>
    callMethod ctx (createFileMetaRequest ctx rpcCtx) (createFileMeta services ctx rpcCtx) env
  | .getFileMeta =>
    callMethod ctx (.ok (getFileMetaRequest ctx)) (getFileMeta services ctx rpcCtx) env
  | .createTask => callMethod ctx (createTaskRequest ctx rpcCtx) (createTask services ctx rpcCtx) env
  | .getTask => callMethod ctx (.ok (getTaskRequest ctx)) (getTask services ctx rpcCtx) env
  | .submitTaskEvent => callMethod ctx (taskEvent ctx) (submitTaskEvent services ctx rpcCtx) env

theorem dispatch_endpoint (services : LocalRpcServices State) (ctx : ForwardContext)
    (env : LocalRpcEnv State) :
    match endpointOf ctx with
    | some endpoint =>
      dispatch services ctx env =
        handleEndpoint services ctx (buildRpcContext ctx env.now) env.tick endpoint
    | none => ∃ message env', dispatch services ctx env = (.ok (notFound message ctx.requestId), env')
        ∧ env'.state = env.state := by
  unfold endpointOf dispatch forwardUserService forwardFileMetaService forwardTaskService
  split_ifs <;> first | rfl | exact ⟨_, _, rfl, rfl⟩

structure ReturnsOnly (codes : RpcCode → Prop) (services : LocalRpcServices State) : Prop where
  login : ∀ ctx req env, codes (services.userService.login ctx req env).1.rpcMeta.code
  getProfile : ∀ ctx req env, codes (services.userService.getProfile ctx req env).1.rpcMeta.code
  createFileMeta : ∀ ctx req env,
    codes (services.fileMetaService.createFileMeta ctx req env).1.rpcMeta.code
  getFileMeta : ∀ ctx req env,
    codes (services.fileMetaService.getFileMeta ctx req env).1.rpcMeta.code
  createTask : ∀ ctx req env, codes (services.taskService.createTask ctx req env).1.rpcMeta.code
  getTask : ∀ ctx req env, codes (services.taskService.getTask ctx req env).1.rpcMeta.code

/-- The answer of a method: its service has returned one code that fixes the status, or the
   status is fixed and regular. -/
def Settled (codes : RpcCode → Prop) (before : List RpcCode)
    (out : HttpResponse × LocalRpcEnv State) : Prop :=
  (out.2.state.returned = before ∧ (out.1.status = 200 ∨ out.1.status = 404)) ∨
    ∃ code, codes code ∧ out.2.state.returned = before ++ [code] ∧
      out.1.status = mapHttpStatus code

theorem buildRpcResponse_status (rpcMeta : RpcMeta) (dataJson requestId : Bytes) :
    (buildRpcResponse rpcMeta dataJson requestId).status = mapHttpStatus rpcMeta.code := by
  unfold buildRpcResponse
  split
  · rename_i fine
    rw [fine]
    rfl
  · rfl

theorem login_returned (services : LocalRpcServices State) (ctx : ForwardContext)
    (rpcCtx : RpcContext) (req : LoginRequest) (env : LocalRpcEnv State) :
    (login services ctx rpcCtx req env).2.state.returned = env.state.returned ++
      [(onServices (services.userService.login rpcCtx req) env).1.rpcMeta.code] := by
  unfold login
  cases services.tokenService with
  | none => rfl
  | some config =>
    simp only
    split <;> rfl

theorem firstRejected_append (texts others : List Bytes) :
    firstRejected (texts ++ others) = (firstRejected texts).or (firstRejected others) := by
  induction texts with
  | nil => rfl
  | cons text texts ih =>
    simp only [List.cons_append, firstRejected]
    cases stoll text with
    | error e => rfl
    | ok n => exact ih

theorem getInt64_exception (fields : FieldMap) (key : Bytes) :
    exceptionOf (getInt64 fields key) = firstRejected (givenInteger fields key) := by
  unfold getInt64 givenInteger
  cases fields[key]? with
  | none => rfl
  | some text =>
    simp only
    split
    · rfl
    · simp only [firstRejected]
      cases stoll text <;> rfl

theorem userIdField_exception (fields : FieldMap) (key : Bytes) (ctx : ForwardContext)
    (now : Int) :
    exceptionOf (userIdField fields key (buildRpcContext ctx now)) =
      firstRejected (givenUserId fields key ctx) := by
  have field := getInt64_exception fields key
  have header : (buildRpcContext ctx now).userId = (ctx.headers[bytes "X-User-Id"]?).getD [] := rfl
  unfold userIdField givenUserId
  rw [header]
  generalize (ctx.headers[bytes "X-User-Id"]?).getD [] = identity
  simp only [firstRejected_append, ← field]
  cases read : getInt64 fields key with
  | error e => rfl
  | ok userId =>
    by_cases absent : userId = 0
    · by_cases given : identity = []
      · simp [absent, given, exceptionOf, firstRejected]
      · simp only [absent, given, exceptionOf, firstRejected, ne_eq, not_false_eq_true, and_self,
          decide_true, Bool.and_self, ↓reduceIte, Option.none_or]
        cases stoll identity <;> rfl
    · simp [absent, exceptionOf, firstRejected]

def requestException (ctx : ForwardContext) (rpcCtx : RpcContext) : Endpoint → Option CppException
  | .login => exceptionOf (loginRequest ctx)
  | .getProfile => exceptionOf (getProfileRequest ctx rpcCtx)
  | .createFileMeta => exceptionOf (createFileMetaRequest ctx rpcCtx)
  | .createTask => exceptionOf (createTaskRequest ctx rpcCtx)
  | .submitTaskEvent => exceptionOf (taskEvent ctx)
  | .getFileMeta | .getTask => none

theorem exceptionOf_map {First Second : Type} (change : First → Second)
    (result : Except CppException First) :
    exceptionOf (result.map change) = exceptionOf result := by
  cases result <;> rfl

theorem requestException_eq (ctx : ForwardContext) (now : Int) {endpoint : Endpoint}
    (found : endpointOf ctx = some endpoint) :
    requestException ctx (buildRpcContext ctx now) endpoint = rejection ctx := by
  have owner := fun fields key => userIdField_exception fields key ctx now
  simp only [rejection, readsBody, integerTexts, found]
  cases endpoint with
  | login =>
    simp only [requestException, loginRequest, Endpoint.readsBody, Endpoint.integerTexts]
    cases parseFlatJsonObject ctx.body <;> rfl
  | getProfile =>
    simp only [requestException, getProfileRequest, Endpoint.readsBody, Endpoint.integerTexts,
      givenFields, exceptionOf_map, owner]
    rfl
  | createFileMeta =>
    simp only [requestException, createFileMetaRequest, Endpoint.readsBody,
      Endpoint.integerTexts, givenFields, ↓reduceIte]
    cases parseFlatJsonObject ctx.body with
    | error e => rfl
    | ok fields =>
      simp only [firstRejected_append, ← owner, ← getInt64_exception]
      cases getInt64 fields (bytes "size") with
      | error e => rfl
      | ok size =>
        simp only
        cases userIdField fields (bytes "owner_user_id") (buildRpcContext ctx now) <;> rfl
  | createTask =>
    simp only [requestException, createTaskRequest, Endpoint.readsBody, Endpoint.integerTexts,
      givenFields, ↓reduceIte]
    cases parseFlatJsonObject ctx.body with
    | error e => rfl
    | ok fields =>
      simp only [← owner]
      cases userIdField fields (bytes "user_id") (buildRpcContext ctx now) <;> rfl
  | submitTaskEvent =>
    simp only [requestException, taskEvent, Endpoint.readsBody, Endpoint.integerTexts,
      givenFields, ↓reduceIte]
    cases parseFlatJsonObject ctx.body with
    | error e => rfl
    | ok fields =>
      simp only [firstRejected_append, ← getInt64_exception]
      cases getInt64 fields (bytes "status") with
      | error e => rfl
      | ok status =>
        simp only
        cases getInt64 fields (bytes "timestamp") <;> rfl
  | getFileMeta => rfl
  | getTask => rfl

def Answers (codes : RpcCode → Prop) (exception : Option CppException) (env : LocalRpcEnv State)
    (handled : Handled State) : Prop :=
  match exception with
  | some e => ∃ env', env'.state = env.state ∧ handled = (.error e, env')
  | none => ∃ out, Settled codes env.state.returned out ∧ handled = (.ok out.1, out.2)

theorem callMethod_answers {codes : RpcCode → Prop} {Request : Type} (ctx : ForwardContext)
    (request : Except CppException Request)
    (call : Request → LocalRpcEnv State → HttpResponse × LocalRpcEnv State)
    (settled : ∀ req env, Settled codes env.state.returned (call req env))
    {env : LocalRpcEnv State} (isOpen : env.OpenFor 2) :
    Answers codes (exceptionOf request) env (callMethod ctx request call env) := by
  obtain ⟨first, stillOpen⟩ := Env.openFor_deadlineExceeded isOpen
  obtain ⟨second, _⟩ := Env.openFor_deadlineExceeded stillOpen
  unfold callMethod beforeDeadline
  cases request with
  | error e =>
    refine ⟨env.deadlineExceeded.2, by simp, ?_⟩
    simp [first]
  | ok req =>
    have answer := settled req env.deadlineExceeded.2.deadlineExceeded.2
    simp only [Env.deadlineExceeded_state] at answer
    refine ⟨_, answer, ?_⟩
    simp [first, second]

theorem handleEndpoint_answers {codes : RpcCode → Prop} {services : LocalRpcServices State}
    (returns : ReturnsOnly codes services) (ctx : ForwardContext) (rpcCtx : RpcContext)
    {env : LocalRpcEnv State} (isOpen : env.OpenFor 2) (endpoint : Endpoint) :
    Answers codes (requestException ctx rpcCtx endpoint) env
      (handleEndpoint services ctx rpcCtx env endpoint) := by
  have status := buildRpcResponse_status
  cases endpoint with
  | login =>
    exact callMethod_answers ctx _ _ (fun req env => Or.inr
      ⟨_, returns.login _ _ _, login_returned services ctx rpcCtx req env, status _ _ _⟩) isOpen
  | getProfile =>
    exact callMethod_answers ctx _ _ (fun req env => Or.inr
      ⟨_, returns.getProfile _ _ _, rfl, status _ _ _⟩) isOpen
  | createFileMeta =>
    exact callMethod_answers ctx _ _ (fun req env => Or.inr
      ⟨_, returns.createFileMeta _ _ _, rfl, status _ _ _⟩) isOpen
  | getFileMeta =>
    exact callMethod_answers ctx (.ok _) _ (fun req env => Or.inr
      ⟨_, returns.getFileMeta _ _ _, rfl, status _ _ _⟩) isOpen
  | createTask =>
    exact callMethod_answers ctx _ _ (fun req env => Or.inr
      ⟨_, returns.createTask _ _ _, rfl, status _ _ _⟩) isOpen
  | getTask =>
    exact callMethod_answers ctx (.ok _) _ (fun req env => Or.inr
      ⟨_, returns.getTask _ _ _, rfl, status _ _ _⟩) isOpen
  | submitTaskEvent =>
    exact callMethod_answers ctx _ _ (fun req env => Or.inl ⟨rfl, Or.inl rfl⟩) isOpen

def failureResponse (e : CppException) (requestId : Bytes) : HttpResponse :=
  match e with
  | .invalidArgument what => badRequest what requestId
  | e => internalError e.what requestId

theorem forward_answers {codes : RpcCode → Prop} {services : LocalRpcServices State}
    (returns : ReturnsOnly codes services) (ctx : ForwardContext) {env : LocalRpcEnv State}
    (isOpen : env.OpenFor 4) :
    match rejection ctx with
    | some e => (forward services ctx env).1 = failureResponse e ctx.requestId ∧
        (forward services ctx env).2.state = env.state
    | none => Settled codes env.state.returned (forward services ctx env) := by
  obtain ⟨first, stillOpen⟩ := Env.openFor_deadlineExceeded isOpen
  have entered : beforeDeadline ctx (dispatch services ctx) env =
      dispatch services ctx env.deadlineExceeded.2 := by
    simp [beforeDeadline, first]
  have kept : env.deadlineExceeded.2.state = env.state := by simp
  generalize env.deadlineExceeded.2 = entry at *
  have dispatched := dispatch_endpoint services ctx entry
  unfold forward
  rw [entered]
  cases found : endpointOf ctx with
  | none =>
    rw [found] at dispatched
    obtain ⟨message, env', answer, same⟩ := dispatched
    have nothing : rejection ctx = none := by
      simp [rejection, readsBody, integerTexts, found, firstRejected]
    rw [nothing, answer]
    exact Or.inl ⟨by rw [same, kept], Or.inr rfl⟩
  | some endpoint =>
    rw [found] at dispatched
    have answers := handleEndpoint_answers returns ctx (buildRpcContext ctx entry.now)
      (Env.openFor_tick stillOpen) endpoint
    rw [requestException_eq ctx _ found, ← dispatched] at answers
    cases rejected : rejection ctx with
    | some e =>
      rw [rejected] at answers
      obtain ⟨env', same, answer⟩ := answers
      rw [answer]
      cases e <;> exact ⟨rfl, by rw [same, Env.tick_state, kept]⟩
    | none =>
      rw [rejected] at answers
      obtain ⟨out, settled, answer⟩ := answers
      rw [answer]
      rw [Env.tick_state, kept] at settled
      exact settled

theorem firstBadIsNoNumber_cons (text : Bytes) (texts : List Bytes) :
    FirstBadIsNoNumber (text :: texts) ↔
      leadingInteger text = none ∨ (∃ n, stoll text = .ok n) ∧ FirstBadIsNoNumber texts := by
  constructor
  · rintro ⟨earlier, bad, later, whole, fine, noNumber⟩
    cases earlier with
    | nil =>
      obtain ⟨rfl, _⟩ := List.cons.inj whole
      exact Or.inl noNumber
    | cons first earlier =>
      obtain ⟨rfl, rest⟩ := List.cons.inj whole
      refine Or.inr ⟨fine _ List.mem_cons_self, earlier, bad, later, rest, ?_, noNumber⟩
      intro t member
      exact fine t (List.mem_cons_of_mem _ member)
  · rintro (noNumber | ⟨converts, earlier, bad, later, rfl, fine, noNumber⟩)
    · exact ⟨[], text, texts, rfl, by simp, noNumber⟩
    · refine ⟨text :: earlier, bad, later, rfl, ?_, noNumber⟩
      intro t member
      rcases List.mem_cons.mp member with rfl | old
      · exact converts
      · exact fine t old

theorem firstBadIsNoNumber_iff (texts : List Bytes) :
    FirstBadIsNoNumber texts ↔ ∃ what, firstRejected texts = some (.invalidArgument what) := by
  induction texts with
  | nil => simp [FirstBadIsNoNumber, firstRejected]
  | cons text texts ih =>
    rw [firstBadIsNoNumber_cons]
    cases converted : stoll text with
    | ok n =>
      have number : leadingInteger text ≠ none := by
        intro absent
        rw [stoll_none absent] at converted
        cases converted
      simp [firstRejected, converted, number, ih]
    | error e =>
      rcases stoll_error converted with ⟨absent, what, rfl⟩ | ⟨number, what, rfl⟩
      · simp [firstRejected, converted, absent]
      · simp [firstRejected, converted, number]

theorem firstRejected_numerals {texts : List Bytes}
    (numerals : ∀ text ∈ texts, Int64Numeral text) : firstRejected texts = none := by
  induction texts with
  | nil => rfl
  | cons text texts ih =>
    obtain ⟨_, n, read, low, high⟩ := numerals text List.mem_cons_self
    simp only [firstRejected, stoll_some read low high]
    exact ih fun t member => numerals t (List.mem_cons_of_mem text member)

def acceptingServices : LocalRpcServices Unit where
  userService := { login := fun _ _ env => ({}, env), getProfile := fun _ _ env => ({}, env) }
  fileMetaService :=
    { createFileMeta := fun _ _ env => ({}, env), getFileMeta := fun _ _ env => ({}, env) }
  taskService :=
    { createTask := fun _ _ env => ({}, env)
      getTask := fun _ _ env => ({}, env)
      submitTaskEvent := fun _ _ env => env }
  tokenService := none

def timelessEnv : LocalRpcEnv Unit :=
  { steady := ticking 1, system := stopped 0, deadline := none, state := { services := () } }

theorem accepting_returns : ReturnsOnly (· = .ok) acceptingServices := by
  constructor <;> intro ctx req env <;> rfl

theorem failureResponse_status (e : CppException) (requestId : Bytes) :
    ((∃ what, e = .invalidArgument what) ∧ (failureResponse e requestId).status = 400) ∨
      ((∀ what, e ≠ .invalidArgument what) ∧ (failureResponse e requestId).status = 500) := by
  cases e with
  | invalidArgument what => exact Or.inl ⟨⟨what, rfl⟩, rfl⟩
  | outOfRange what => exact Or.inr ⟨by simp, rfl⟩
  | runtimeError what => exact Or.inr ⟨by simp, rfl⟩
  | jsonException what => exact Or.inr ⟨by simp, rfl⟩

theorem mapHttpStatus_fault {code : RpcCode} (fault : 500 ≤ mapHttpStatus code) :
    ¬ RegularCode code := by
  rintro (rfl | rfl | rfl | rfl) <;> exact absurd fault (by decide)

theorem rejection_cases (ctx : ForwardContext) :
    (readsBody ctx = true ∧ ∃ what, parseFlatJsonObject ctx.body = .error (.runtimeError what) ∧
        rejection ctx = some (.runtimeError what)) ∨
      ((readsBody ctx = true → ∃ fields, parseFlatJsonObject ctx.body = .ok fields) ∧
        rejection ctx = firstRejected (integerTexts ctx)) := by
  unfold rejection
  cases reads : readsBody ctx with
  | false => exact Or.inr ⟨by simp, rfl⟩
  | true =>
    cases parsed : parseFlatJsonObject ctx.body with
    | ok fields => exact Or.inr ⟨fun _ => ⟨fields, rfl⟩, by simp⟩
    | error e =>
      obtain ⟨what, rfl⟩ := parseFlatJsonObject_error parsed
      exact Or.inl ⟨rfl, what, rfl, by simp⟩

/-- What an answerable context comes to before any service is called. -/
theorem answerable_iff (ctx : ForwardContext) :
    Answerable ctx ↔ (∃ what, rejection ctx = some (.invalidArgument what)) ∨
      (rejection ctx = none ∧ ¬ BadInput ctx) := by
  rcases rejection_cases ctx with ⟨reads, what, failed, rejected⟩ | ⟨parsed, rejected⟩
  · rw [rejected]
    constructor
    · intro answerable
      obtain ⟨fields, ok⟩ := answerable.body reads
      rw [ok] at failed
      cases failed
    · rintro (⟨_, other⟩ | ⟨other, _⟩) <;> cases other
  · rw [rejected, ← firstBadIsNoNumber_iff]
    constructor
    · intro answerable
      rcases answerable.input with noNumber | fine
      · exact Or.inl noNumber
      · refine Or.inr ⟨firstRejected_numerals fun text member => ?_, fine⟩
        by_contra wrong
        exact fine (Or.inr ⟨text, member, wrong⟩)
    · rintro (noNumber | ⟨_, fine⟩)
      · exact ⟨parsed, Or.inl noNumber⟩
      · exact ⟨parsed, Or.inr fine⟩

/-- The laws hold with all services exactly for the contexts that are answerable. -/
theorem error_laws_iff (ctx : ForwardContext) :
    (∀ (State : Type) (services : LocalRpcServices State) (env : LocalRpcEnv State),
      env.OpenFor 4 → ErrorLaws services ctx env) ↔ Answerable ctx := by
  rw [answerable_iff]
  constructor
  · intro laws
    have isOpen : timelessEnv.OpenFor 4 := fun d own => by cases own
    obtain ⟨fault, refused⟩ := laws Unit acceptingServices timelessEnv isOpen
    have answers := forward_answers accepting_returns ctx isOpen
    cases rejected : rejection ctx with
    | some e =>
      rw [rejected] at answers
      obtain ⟨response, kept⟩ := answers
      rcases failureResponse_status e ctx.requestId with ⟨⟨what, rfl⟩, _⟩ | ⟨_, status⟩
      · exact Or.inl ⟨what, rfl⟩
      · rw [response, kept] at fault
        obtain ⟨code, appended, _⟩ := fault (by omega)
        simp at appended
    | none =>
      rw [rejected] at answers
      refine Or.inr ⟨rfl, fun bad => ?_⟩
      have status := (refused bad).1
      rcases answers with ⟨_, fixed⟩ | ⟨code, rfl, _, mapped⟩
      · omega
      · rw [mapped] at status
        exact absurd status (by decide)
  · intro answerable State services env isOpen
    have answers := @forward_answers _ (fun _ => True) services
      (by constructor <;> intros <;> trivial) ctx env isOpen
    rcases answerable with ⟨what, rejected⟩ | ⟨rejected, fine⟩
    · rw [rejected] at answers
      have status : (forward services ctx env).1.status = 400 := by rw [answers.1]; rfl
      refine ⟨fun fault => by omega, fun _ => ⟨status, ?_⟩⟩
      simp [isFailureResponse, status]
    · rw [rejected] at answers
      refine ⟨fun fault => ?_, fun bad => absurd bad fine⟩
      rcases answers with ⟨_, fixed⟩ | ⟨code, _, appended, mapped⟩
      · omega
      · exact ⟨code, appended, mapHttpStatus_fault (mapped ▸ fault)⟩

def brokenLogin : ForwardContext :=
  { upstream := bytes "UserService"
    upstreamPath := bytes "/login"
    method := bytes "POST"
    body := bytes "x" }

theorem broken_login_fails_upstream :
    MalformedBody brokenLogin.body ∧
      (forward acceptingServices brokenLogin timelessEnv).1.status = 500 ∧
      isFailureResponse (forward acceptingServices brokenLogin timelessEnv).1 = true ∧
      ¬ ErrorLaws acceptingServices brokenLogin timelessEnv := by
  have malformed : MalformedBody brokenLogin.body := by
    refine ⟨by decide, fun formed => ?_⟩
    obtain ⟨c, tail, first, starts⟩ := wellFormed_head formed
    have letter : brokenLogin.body.dropWhile isBlank = [120] := by decide
    rw [letter] at first
    cases first
    exact absurd starts (by decide)
  have status : (forward acceptingServices brokenLogin timelessEnv).1.status = 500 := by decide
  refine ⟨malformed, status, by simp [isFailureResponse, status], fun laws => ?_⟩
  have refused := (laws.refused (Or.inl ⟨by decide, malformed⟩)).1
  omega

end TgwLocalRpcErrors
