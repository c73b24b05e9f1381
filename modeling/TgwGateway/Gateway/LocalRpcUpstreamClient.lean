import TgwGateway.Auth.TokenService
import TgwGateway.Gateway.FlatJson
import TgwGateway.Governance.UpstreamClient
import TgwGateway.Lib.MachineInt
import TgwGateway.Service.RpcMessages

/- LocalRpcUpstreamClient: a forwarded context becomes one call of a service in the same process.
   The services are any methods over one state; the client keeps the codes they have returned, in
   order, for the statements only. -/
namespace TgwLocalRpc
open ByteStrings DecimalText MachineInt TgwClock TgwConfig TgwExceptions TgwStatus TgwHttp
open TgwTokenService TgwGovernance TgwFlatJson TgwRpc

structure LocalRpcServices (State : Type) where
  userService : UserService State
  fileMetaService : FileMetaService State
  taskService : TaskService State
  tokenService : Option AuthConfig

structure LocalRpcState (State : Type) where
  services : State
  returned : List RpcCode := []

variable {State : Type}

abbrev LocalRpcEnv (State : Type) := Env (LocalRpcState State)

def buildRpcContext (ctx : ForwardContext) (now : Int) : RpcContext :=
  { requestId := ctx.requestId
    caller := bytes "tgw-gateway"
    timeoutMs := ctx.timeoutMs
    headers := ctx.headers
    traceId := (ctx.headers[bytes "X-Trace-Id"]?).getD []
    userId := (ctx.headers[bytes "X-User-Id"]?).getD []
    startTime := now }

def mapRpcCode : RpcCode → ErrorCode
  | .ok => .ok
  | .invalidArgument => .badRequest
  | .unauthorized => .unauthorized
  | .notFound => .notFound
  | .timeout => .rpcTimeout
  | _ => .rpcFailed

def mapHttpStatus : RpcCode → Int
  | .ok => 200
  | .invalidArgument => 400
  | .unauthorized => 401
  | .notFound => 404
  | .timeout => 504
  | _ => 502

def buildJsonResponse (status : Int) (apiResponse : ApiResponse) (requestId : Bytes) :
    HttpResponse :=
  { status := status
    contentType := bytes "application/json"
    body := apiResponse.toJson
    headers := (∅ : ByteMap Bytes).insert (bytes "X-Request-Id") requestId }

def buildRpcResponse (rpcMeta : RpcMeta) (dataJson requestId : Bytes) : HttpResponse :=
  if rpcMeta.code = .ok then buildJsonResponse 200 (ApiResponse.success dataJson) requestId
  else
    buildJsonResponse (mapHttpStatus rpcMeta.code)
      { code := (mapRpcCode rpcMeta.code).value, message := rpcMeta.message } requestId

def notFound (message requestId : Bytes) : HttpResponse :=
  buildJsonResponse 404 (ApiResponse.error .notFound message) requestId

def badRequest (message requestId : Bytes) : HttpResponse :=
  buildJsonResponse 400 (ApiResponse.error .badRequest message) requestId

def internalError (message requestId : Bytes) : HttpResponse :=
  buildJsonResponse 500 (ApiResponse.error .internalError message) requestId

def deadlineExceeded (ctx : ForwardContext) : HttpResponse :=
  buildJsonResponse 504 (ApiResponse.error .rpcTimeout (bytes "deadline exceeded")) ctx.requestId

def jsonPair (key value : Bytes) (stringValue : Bool) : Bytes :=
  bytes "\"" ++ jsonEscape key ++ bytes "\":" ++
    if stringValue then bytes "\"" ++ jsonEscape value ++ bytes "\"" else value

def int64Text (n : Int64) : Bytes := intText n.toInt

def jsonObject (pairs : List Bytes) : Bytes :=
  bytes "\x7b" ++ (bytes ",").intercalate pairs ++ bytes "\x7d"

abbrev Handled (State : Type) := Except CppException HttpResponse × LocalRpcEnv State

/-- What follows a check of the deadline. -/
def beforeDeadline (ctx : ForwardContext) (next : LocalRpcEnv State → Handled State)
    (env : LocalRpcEnv State) : Handled State :=
  let done := env.deadlineExceeded
  if done.1 then
    (.ok (deadlineExceeded ctx), done.2.cancelDeadline (bytes "deadline exceeded"))
  else next done.2

def onServices {Result : Type} (run : Env State → Result × Env State) (env : LocalRpcEnv State) :
    Result × LocalRpcEnv State :=
  env.onPart LocalRpcState.services (fun services s => { s with services := services }) run

def returning (code : RpcCode) (env : LocalRpcEnv State) : LocalRpcEnv State :=
  { env with state := { env.state with returned := env.state.returned ++ [code] } }

/-- The body shared by all methods: a check, the request, a check, the call and its response. -/
def callMethod {Request : Type} (ctx : ForwardContext) (request : Except CppException Request)
    (call : Request → LocalRpcEnv State → HttpResponse × LocalRpcEnv State)
    (env : LocalRpcEnv State) : Handled State :=
  beforeDeadline ctx (fun env =>
    match request with
    | .error e => (.error e, env)
    | .ok req =>
      beforeDeadline ctx (fun env => (.ok (call req env).1, (call req env).2)) env) env

/-- The integer field, or else the identity header when the field reads as zero. -/
def userIdField (fields : FieldMap) (key : Bytes) (rpcCtx : RpcContext) :
    Except CppException Int64 :=
  match getInt64 fields key with
  | .error e => .error e
  | .ok userId =>
    if userId = 0 && rpcCtx.userId ≠ [] then (stoll rpcCtx.userId).map Int64.ofInt
    else .ok userId

def loginRequest (ctx : ForwardContext) : Except CppException LoginRequest :=
  match parseFlatJsonObject ctx.body with
  | .error e => .error e
  | .ok body =>
    .ok ⟨getString body (bytes "username"), getString body (bytes "password")⟩

def login (services : LocalRpcServices State) (ctx : ForwardContext) (rpcCtx : RpcContext)
    (req : LoginRequest) (env : LocalRpcEnv State) : HttpResponse × LocalRpcEnv State :=
  let called := onServices (services.userService.login rpcCtx req) env
  let rsp := called.1
  let env := returning rsp.rpcMeta.code called.2
  let issued :=
    match services.tokenService with
    | some config =>
      if rsp.rpcMeta.code = RpcCode.ok then
        issueToken config rsp.userId rsp.username rsp.role ctx.requestId env
      else (rsp.token, env)
    | none => (rsp.token, env)
  let data := jsonObject
    [jsonPair (bytes "user_id") (int64Text rsp.userId) false,
      jsonPair (bytes "username") rsp.username true,
      jsonPair (bytes "role") rsp.role true,
      jsonPair (bytes "token") issued.1 true,
      jsonPair (bytes "token_type") (bytes "Bearer") true]
  (buildRpcResponse rsp.rpcMeta data ctx.requestId, issued.2)

def getProfileRequest (ctx : ForwardContext) (rpcCtx : RpcContext) :
    Except CppException GetProfileRequest :=
  (userIdField (parseQuery ctx.query) (bytes "user_id") rpcCtx).map GetProfileRequest.mk

def getProfile (services : LocalRpcServices State) (ctx : ForwardContext) (rpcCtx : RpcContext)
    (req : GetProfileRequest) (env : LocalRpcEnv State) : HttpResponse × LocalRpcEnv State :=
  let called := onServices (services.userService.getProfile rpcCtx req) env
  let rsp := called.1
  let data := jsonObject
    [jsonPair (bytes "user_id") (int64Text rsp.profile.userId) false,
      jsonPair (bytes "username") rsp.profile.username true,
      jsonPair (bytes "email") rsp.profile.email true,
      jsonPair (bytes "role") rsp.profile.role true]
  (buildRpcResponse rsp.rpcMeta data ctx.requestId, returning rsp.rpcMeta.code called.2)

def createFileMetaRequest (ctx : ForwardContext) (rpcCtx : RpcContext) :
    Except CppException CreateFileMetaRequest :=
  match parseFlatJsonObject ctx.body with
  | .error e => .error e
  | .ok body =>
    match getInt64 body (bytes "size") with
    | .error e => .error e
    | .ok size =>
      match userIdField body (bytes "owner_user_id") rpcCtx with
      | .error e => .error e
      | .ok ownerUserId =>
        .ok
          { filename := getString body (bytes "filename")
            size := size
            contentType := getString body (bytes "content_type")
            ownerUserId := ownerUserId }

def createFileMeta (services : LocalRpcServices State) (ctx : ForwardContext)
    (rpcCtx : RpcContext) (req : CreateFileMetaRequest) (env : LocalRpcEnv State) :
    HttpResponse × LocalRpcEnv State :=
  let called := onServices (services.fileMetaService.createFileMeta rpcCtx req) env
  let rsp := called.1
  let data := jsonObject [jsonPair (bytes "file_id") rsp.fileId true]
  (buildRpcResponse rsp.rpcMeta data ctx.requestId, returning rsp.rpcMeta.code called.2)

def getFileMetaRequest (ctx : ForwardContext) : GetFileMetaRequest :=
  ⟨getString (parseQuery ctx.query) (bytes "file_id")⟩

def getFileMeta (services : LocalRpcServices State) (ctx : ForwardContext) (rpcCtx : RpcContext)
    (req : GetFileMetaRequest) (env : LocalRpcEnv State) : HttpResponse × LocalRpcEnv State :=
  let called := onServices (services.fileMetaService.getFileMeta rpcCtx req) env
  let rsp := called.1
  let data := jsonObject
    [jsonPair (bytes "file_id") rsp.file.fileId true,
      jsonPair (bytes "filename") rsp.file.filename true,
      jsonPair (bytes "size") (int64Text rsp.file.size) false,
      jsonPair (bytes "content_type") rsp.file.contentType true,
      jsonPair (bytes "owner_user_id") (int64Text rsp.file.ownerUserId) false,
      jsonPair (bytes "created_at") (int64Text rsp.file.createdAt) false]
  (buildRpcResponse rsp.rpcMeta data ctx.requestId, returning rsp.rpcMeta.code called.2)

def createTaskRequest (ctx : ForwardContext) (rpcCtx : RpcContext) :
    Except CppException CreateTaskRequest :=
  match parseFlatJsonObject ctx.body with
  | .error e => .error e
  | .ok body =>
    match userIdField body (bytes "user_id") rpcCtx with
    | .error e => .error e
    | .ok userId =>
      .ok
        { taskType := getString body (bytes "task_type")
          payload := getString body (bytes "payload")
          userId := userId }

def createTask (services : LocalRpcServices State) (ctx : ForwardContext) (rpcCtx : RpcContext)
    (req : CreateTaskRequest) (env : LocalRpcEnv State) : HttpResponse × LocalRpcEnv State :=
  let called := onServices (services.taskService.createTask rpcCtx req) env
  let rsp := called.1
  let data := jsonObject [jsonPair (bytes "task_id") rsp.taskId true]
  (buildRpcResponse rsp.rpcMeta data ctx.requestId, returning rsp.rpcMeta.code called.2)

def getTaskRequest (ctx : ForwardContext) : GetTaskRequest :=
  ⟨getString (parseQuery ctx.query) (bytes "task_id")⟩

def getTask (services : LocalRpcServices State) (ctx : ForwardContext) (rpcCtx : RpcContext)
    (req : GetTaskRequest) (env : LocalRpcEnv State) : HttpResponse × LocalRpcEnv State :=
  let called := onServices (services.taskService.getTask rpcCtx req) env
  let rsp := called.1
  let data := jsonObject
    [jsonPair (bytes "task_id") rsp.task.taskId true,
      jsonPair (bytes "task_type") rsp.task.taskType true,
      jsonPair (bytes "status") (intText rsp.task.status.number) false,
      jsonPair (bytes "result") rsp.task.result true,
      jsonPair (bytes "user_id") (int64Text rsp.task.userId) false,
      jsonPair (bytes "created_at") (int64Text rsp.task.createdAt) false,
      jsonPair (bytes "updated_at") (int64Text rsp.task.updatedAt) false]
  (buildRpcResponse rsp.rpcMeta data ctx.requestId, returning rsp.rpcMeta.code called.2)

def taskEvent (ctx : ForwardContext) : Except CppException TaskEvent :=
  match parseFlatJsonObject ctx.body with
  | .error e => .error e
  | .ok body =>
    match getInt64 body (bytes "status") with
    | .error e => .error e
    | .ok status =>
      match getInt64 body (bytes "timestamp") with
      | .error e => .error e
      | .ok timestamp =>
        .ok
          { taskId := getString body (bytes "task_id")
            status := .ofNumber (toInt32 status.toInt)
            message := getString body (bytes "message")
            timestamp := timestamp }

def submitTaskEvent (services : LocalRpcServices State) (ctx : ForwardContext)
    (rpcCtx : RpcContext) (event : TaskEvent) (env : LocalRpcEnv State) :
    HttpResponse × LocalRpcEnv State :=
  let submitted := onServices (fun env =>
    ((), services.taskService.submitTaskEvent rpcCtx event env)) env
  let data := jsonObject
    [jsonPair (bytes "accepted") (bytes "true") false,
      jsonPair (bytes "task_id") event.taskId true]
  (buildJsonResponse 200 (ApiResponse.success data) ctx.requestId, submitted.2)

def forwardUserService (services : LocalRpcServices State) (ctx : ForwardContext)
    (env : LocalRpcEnv State) : Handled State :=
  let rpcCtx := buildRpcContext ctx env.now
  let env := env.tick
  if ctx.method = bytes "POST" ∧ ctx.upstreamPath = bytes "/login" then
    callMethod ctx (loginRequest ctx) (login services ctx rpcCtx) env
  else if ctx.method = bytes "GET" ∧ ctx.upstreamPath = bytes "/profile" then
    callMethod ctx (getProfileRequest ctx rpcCtx) (getProfile services ctx rpcCtx) env
  else
    (.ok (notFound (bytes "UserService method not found: " ++ ctx.upstreamPath) ctx.requestId), env)

def forwardFileMetaService (services : LocalRpcServices State) (ctx : ForwardContext)
    (env : LocalRpcEnv State) : Handled State :=
  let rpcCtx := buildRpcContext ctx env.now
  let env := env.tick
  if ctx.method = bytes "POST" ∧ ctx.upstreamPath = bytes "/meta/create" then
    callMethod ctx (createFileMetaRequest ctx rpcCtx) (createFileMeta services ctx rpcCtx) env
  else if ctx.method = bytes "GET" ∧ ctx.upstreamPath = bytes "/meta" then
    callMethod ctx (.ok (getFileMetaRequest ctx)) (getFileMeta services ctx rpcCtx) env
  else
    (.ok (notFound (bytes "FileMetaService method not found: " ++ ctx.upstreamPath) ctx.requestId),
      env)

def forwardTaskService (services : LocalRpcServices State) (ctx : ForwardContext)
    (env : LocalRpcEnv State) : Handled State :=
  let rpcCtx := buildRpcContext ctx env.now
  let env := env.tick
  if ctx.method = bytes "POST" ∧ ctx.upstreamPath = bytes "/create" then
    callMethod ctx (createTaskRequest ctx rpcCtx) (createTask services ctx rpcCtx) env
  else if ctx.method = bytes "GET" ∧ ctx.upstreamPath = bytes "/get" then
    callMethod ctx (.ok (getTaskRequest ctx)) (getTask services ctx rpcCtx) env
  else if ctx.method = bytes "POST" ∧ ctx.upstreamPath = bytes "/event" then
    callMethod ctx (taskEvent ctx) (submitTaskEvent services ctx rpcCtx) env
  else
    (.ok (notFound (bytes "TaskService method not found: " ++ ctx.upstreamPath) ctx.requestId), env)

def dispatch (services : LocalRpcServices State) (ctx : ForwardContext)
    (env : LocalRpcEnv State) : Handled State :=
  if ctx.upstream = bytes "UserService" then forwardUserService services ctx env
  else if ctx.upstream = bytes "FileMetaService" then forwardFileMetaService services ctx env
  else if ctx.upstream = bytes "TaskService" then forwardTaskService services ctx env
  else (.ok (notFound (bytes "unknown upstream service: " ++ ctx.upstream) ctx.requestId), env)

def forward (services : LocalRpcServices State) : UpstreamClient (LocalRpcState State) :=
  fun ctx env =>
    match beforeDeadline ctx (dispatch services ctx) env with
    | (.ok response, env) => (response, env)
    | (.error (.invalidArgument what), env) => (badRequest what ctx.requestId, env)
    | (.error e, env) => (internalError e.what ctx.requestId, env)

theorem forward_env (services : LocalRpcServices State) (ctx : ForwardContext)
    (start : LocalRpcEnv State) :
    (forward services ctx start).2 = (beforeDeadline ctx (dispatch services ctx) start).2 := by
  unfold forward
  split <;> rename_i handled <;> rw [handled]

end TgwLocalRpc
