import TgwGateway.Common.Exceptions
import TgwGateway.Lib.JsonValues
import TgwGateway.Lib.MachineInt
import TgwGateway.Service.RpcMessages

/- The user service in a process of its own: the server that answers one line of JSON with one
   line of JSON, and the client that stands for the service in the gateway. The server runs on
   its own clock, so its environment is the state of the client. -/
namespace TgwRemoteUserService
open ByteStrings MachineInt JsonValues TgwClock TgwExceptions TgwRpc
variable {State : Type}

inductive JsonAccessError where
  | notObject
  | missingKey (key : Bytes)
  | wrongType
  deriving DecidableEq

/-- The JSON library, and the error of a connection that is closed without an answer. -/
structure RemoteLibraries where
  dump : Json → Except CppException Bytes
  parse : Bytes → Except CppException Json
  accessError : JsonAccessError → Bytes
  connectionClosed : Bytes

def asInt : Json → Option Int
  | .number n => some (toInt32 n)
  | .bool value => some (if value then 1 else 0)
  | _ => none

def asInt64 : Json → Option Int64
  | .number n => some (Int64.ofInt n)
  | .bool value => some (if value then 1 else 0)
  | _ => none

def asString : Json → Option Bytes
  | .string text => some text
  | _ => none

/-- The library's value(key, default), whose result has the type of the default. -/
def valueOr {Result : Type} (lib : RemoteLibraries) (convert : Json → Option Result) (json : Json)
    (key : Bytes) (default : Result) : Except CppException Result :=
  match json with
  | .object members =>
    match members.lookup key with
    | none => .ok default
    | some stored =>
      match convert stored with
      | some result => .ok result
      | none => .error (.jsonException (lib.accessError .wrongType))
  | _ => .error (.jsonException (lib.accessError .notObject))

def atKey (lib : RemoteLibraries) (json : Json) (key : Bytes) : Except CppException Json :=
  match json with
  | .object members =>
    match members.lookup key with
    | none => .error (.jsonException (lib.accessError (.missingKey key)))
    | some stored => .ok stored
  | _ => .error (.jsonException (lib.accessError .notObject))

def contains (json : Json) (key : Bytes) : Bool :=
  match json with
  | .object members => (members.lookup key).isSome
  | _ => false

def lineBreak : UInt8 := 10

def metaToJson (rpcMeta : RpcMeta) : Json :=
  jsonObject
    [(bytes "code", .number rpcMeta.code.number),
      (bytes "message", .string rpcMeta.message),
      (bytes "request_id", .string rpcMeta.requestId),
      (bytes "cost_ms", .number rpcMeta.costMs.toInt)]

def errorResponse (code : RpcCode) (message requestId : Bytes) : Json :=
  jsonObject
    [(bytes "meta", jsonObject
      [(bytes "code", .number code.number),
        (bytes "message", .string message),
        (bytes "request_id", .string requestId),
        (bytes "cost_ms", .number 0)])]

/-- The clock is read for the start time of the context and again for its deadline. -/
def buildRpcContext (lib : RemoteLibraries) (request : Json) (env : Env State) :
    Except CppException RpcContext × Env State :=
  let startTime := env.now
  let env := env.tick
  match valueOr lib asString request (bytes "request_id") [] with
  | .error e => (.error e, env)
  | .ok requestId =>
    match valueOr lib asInt request (bytes "timeout_ms") 1000 with
    | .error e => (.error e, env)
    | .ok timeoutMs =>
      (.ok
        { requestId := requestId
          caller := bytes "tgw-gateway-remote-client"
          timeoutMs := timeoutMs
          startTime := startTime },
        { env.tick with deadline := some (startDeadline timeoutMs env.now) })

def loginReply (response : LoginResponse) : Json :=
  jsonObject
    [(bytes "meta", metaToJson response.rpcMeta),
      (bytes "user_id", .number response.userId.toInt),
      (bytes "username", .string response.username),
      (bytes "token", .string response.token),
      (bytes "role", .string response.role)]

def profileToJson (profile : UserProfile) : Json :=
  jsonObject
    [(bytes "user_id", .number profile.userId.toInt),
      (bytes "username", .string profile.username),
      (bytes "email", .string profile.email),
      (bytes "role", .string profile.role)]

def profileReply (response : GetProfileResponse) : Json :=
  jsonObject
    [(bytes "meta", metaToJson response.rpcMeta),
      (bytes "profile", profileToJson response.profile)]

def handleLogin (lib : RemoteLibraries) (service : UserService State) (ctx : RpcContext)
    (request : Json) (env : Env State) : Except CppException Json × Env State :=
  match valueOr lib asString request (bytes "username") [] with
  | .error e => (.error e, env)
  | .ok username =>
    match valueOr lib asString request (bytes "password") [] with
    | .error e => (.error e, env)
    | .ok password =>
      let called := service.login ctx ⟨username, password⟩ env
      (.ok (loginReply called.1), called.2)

def handleGetProfile (lib : RemoteLibraries) (service : UserService State) (ctx : RpcContext)
    (request : Json) (env : Env State) : Except CppException Json × Env State :=
  match valueOr lib asInt request (bytes "user_id") 0 with
  | .error e => (.error e, env)
  | .ok userId =>
    let called := service.getProfile ctx ⟨Int64.ofInt userId⟩ env
    (.ok (profileReply called.1), called.2)

def handleRequest (lib : RemoteLibraries) (service : UserService State) (request : Json)
    (env : Env State) : Except CppException Json × Env State :=
  match valueOr lib asString request (bytes "method") [] with
  | .error e => (.error e, env)
  | .ok method =>
    match buildRpcContext lib request env with
    | (.error e, env) => (.error e, env)
    | (.ok ctx, env) =>
      if method = bytes "Login" then handleLogin lib service ctx request env
      else if method = bytes "GetProfile" then handleGetProfile lib service ctx request env
      else
        (.ok (errorResponse .notFound (bytes "unknown UserService method: " ++ method)
          ctx.requestId), env)

def firstLine (stream : Bytes) : Bytes := stream.takeWhile (· ≠ lineBreak)

/-- What a session writes to its socket. An exception of the dump in the catch clause leaves the
    detached thread, and that ends the server process. -/
def handleSession (lib : RemoteLibraries) (service : UserService State) (received : Bytes)
    (env : Env State) : Option Bytes × Env State :=
  let handled : Except CppException Json × Env State :=
    match lib.parse (firstLine received) with
    | .error e => (.error e, env)
    | .ok request => handleRequest lib service request env
  let written := handled.1.bind lib.dump
  match written with
  | .ok payload => (some (payload ++ [lineBreak]), handled.2)
  | .error e =>
    match lib.dump (errorResponse .internalError e.what []) with
    | .ok payload => (some (payload ++ [lineBreak]), handled.2)
    | .error _ => (none, handled.2)

/-- One call over a connection that fails only with the server process itself. -/
def call (lib : RemoteLibraries) (service : UserService State) (payload : Bytes)
    (env : Env (Env State)) : Except CppException Bytes × Env (Env State) :=
  let done := env.deadlineExceeded
  if done.1 then
    (.error (.runtimeError (bytes "deadline exceeded before remote call")),
      done.2.cancelDeadline (bytes "deadline exceeded"))
  else
    let session := handleSession lib service (payload ++ [lineBreak]) done.2.state
    let env := { done.2 with state := session.2 }
    match session.1 with
    | none => (.error (.runtimeError lib.connectionClosed), env)
    | some written =>
      let line := firstLine written
      if line = [] then
        (.error (.runtimeError (bytes "remote user service returned empty response")), env)
      else (.ok line, env)

def exchange (lib : RemoteLibraries) (service : UserService State) (payload : Json)
    (env : Env (Env State)) : Except CppException Json × Env (Env State) :=
  match lib.dump payload with
  | .error e => (.error e, env)
  | .ok text =>
    match call lib service text env with
    | (.error e, env) => (.error e, env)
    | (.ok rawResponse, env) => (lib.parse rawResponse, env)

def fillMetaFromJson (lib : RemoteLibraries) (value : Json) (ctx : RpcContext)
    (env : Env State) : Except CppException RpcMeta × Env State :=
  match atKey lib value (bytes "meta") with
  | .error e => (.error e, env)
  | .ok metaJson =>
    match valueOr lib asInt metaJson (bytes "code") 500 with
    | .error e => (.error e, env)
    | .ok code =>
      match valueOr lib asString metaJson (bytes "message")
          (bytes "remote user service error") with
      | .error e => (.error e, env)
      | .ok message =>
        match valueOr lib asString metaJson (bytes "request_id") ctx.requestId with
        | .error e => (.error e, env)
        | .ok requestId =>
          let elapsedMs := Int64.ofInt (ctx.elapsedMs env.now)
          let env := env.tick
          match valueOr lib asInt64 metaJson (bytes "cost_ms") elapsedMs with
          | .error e => (.error e, env)
          | .ok costMs =>
            (.ok
              { code := .ofNumber code
                message := message
                requestId := requestId
                costMs := costMs }, env)

/-- The meta a caught exception leaves; it overwrites whatever was filled before. -/
def failedMeta (ctx : RpcContext) (e : CppException) (env : Env State) : RpcMeta × Env State :=
  let done := env.deadlineExceeded
  fillMeta (if done.1 then .timeout else .internalError) e.what ctx done.2

/-- A field of a response, or the exception with the fields filled so far. -/
def fillField {Response Value : Type} (read : Except CppException Value)
    (set : Response → Value → Response) (filled : Response × Option CppException) :
    Response × Option CppException :=
  match filled with
  | (response, some e) => (response, some e)
  | (response, none) =>
    match read with
    | .error e => (response, some e)
    | .ok value => (set response value, none)

def loginPayload (timeoutMs : Int) (ctx : RpcContext) (request : LoginRequest) : Json :=
  jsonObject
    [(bytes "method", .string (bytes "Login")),
      (bytes "request_id", .string ctx.requestId),
      (bytes "timeout_ms", .number (min ctx.timeoutMs timeoutMs)),
      (bytes "username", .string request.username),
      (bytes "password", .string request.password)]

def fillLogin (lib : RemoteLibraries) (value : Json) (rpcMeta : RpcMeta) :
    LoginResponse × Option CppException :=
  fillField (valueOr lib asString value (bytes "role") (bytes "user"))
    (fun response role => { response with role := role }) <|
  fillField (valueOr lib asString value (bytes "token") [])
    (fun response token => { response with token := token }) <|
  fillField (valueOr lib asString value (bytes "username") [])
    (fun response username => { response with username := username }) <|
  fillField (valueOr lib asInt value (bytes "user_id") 0)
    (fun response userId => { response with userId := Int64.ofInt userId })
    ({ rpcMeta := rpcMeta }, none)

def login (lib : RemoteLibraries) (timeoutMs : Int) (service : UserService State) :
    RpcMethod (Env State) LoginRequest LoginResponse :=
  fun ctx request env =>
    match exchange lib service (loginPayload timeoutMs ctx request) env with
    | (.error e, env) =>
      let failed := failedMeta ctx e env
      ({ rpcMeta := failed.1 }, failed.2)
    | (.ok value, env) =>
      match fillMetaFromJson lib value ctx env with
      | (.error e, env) =>
        let failed := failedMeta ctx e env
        ({ rpcMeta := failed.1 }, failed.2)
      | (.ok rpcMeta, env) =>
        match fillLogin lib value rpcMeta with
        | (response, none) => (response, env)
        | (response, some e) =>
          let failed := failedMeta ctx e env
          ({ response with rpcMeta := failed.1 }, failed.2)

def profilePayload (timeoutMs : Int) (ctx : RpcContext) (request : GetProfileRequest) : Json :=
  jsonObject
    [(bytes "method", .string (bytes "GetProfile")),
      (bytes "request_id", .string ctx.requestId),
      (bytes "timeout_ms", .number (min ctx.timeoutMs timeoutMs)),
      (bytes "user_id", .number request.userId.toInt)]

def fillProfile (lib : RemoteLibraries) (value : Json) (rpcMeta : RpcMeta) :
    GetProfileResponse × Option CppException :=
  if contains value (bytes "profile") then
    match atKey lib value (bytes "profile") with
    | .error e => ({ rpcMeta := rpcMeta }, some e)
    | .ok profile =>
      let filled :=
        fillField (valueOr lib asString profile (bytes "role") [])
          (fun out role => { out with role := role }) <|
        fillField (valueOr lib asString profile (bytes "email") [])
          (fun out email => { out with email := email }) <|
        fillField (valueOr lib asString profile (bytes "username") [])
          (fun out username => { out with username := username }) <|
        fillField (valueOr lib asInt profile (bytes "user_id") 0)
          (fun out userId => { out with userId := Int64.ofInt userId })
          (({} : UserProfile), none)
      ({ rpcMeta := rpcMeta, profile := filled.1 }, filled.2)
  else ({ rpcMeta := rpcMeta }, none)

def getProfile (lib : RemoteLibraries) (timeoutMs : Int) (service : UserService State) :
    RpcMethod (Env State) GetProfileRequest GetProfileResponse :=
  fun ctx request env =>
    match exchange lib service (profilePayload timeoutMs ctx request) env with
    | (.error e, env) =>
      let failed := failedMeta ctx e env
      ({ rpcMeta := failed.1 }, failed.2)
    | (.ok value, env) =>
      match fillMetaFromJson lib value ctx env with
      | (.error e, env) =>
        let failed := failedMeta ctx e env
        ({ rpcMeta := failed.1 }, failed.2)
      | (.ok rpcMeta, env) =>
        match fillProfile lib value rpcMeta with
        | (response, none) => (response, env)
        | (response, some e) =>
          let failed := failedMeta ctx e env
          ({ response with rpcMeta := failed.1 }, failed.2)

def remoteUserServiceClient (lib : RemoteLibraries) (timeoutMs : Int)
    (service : UserService State) : UserService (Env State) where
  login := login lib timeoutMs service
  getProfile := getProfile lib timeoutMs service

theorem valueOr_jsonObject {Result : Type} (lib : RemoteLibraries)
    (convert : Json → Option Result) (pairs : List (Bytes × Json)) (key : Bytes)
    (default : Result) :
    valueOr lib convert (jsonObject pairs) key default =
      valueOr lib convert (.object pairs) key default := by
  simp only [valueOr, jsonObject, lookup_jsonObject]

theorem atKey_jsonObject (lib : RemoteLibraries) (pairs : List (Bytes × Json)) (key : Bytes) :
    atKey lib (jsonObject pairs) key = atKey lib (.object pairs) key := by
  simp only [atKey, jsonObject, lookup_jsonObject]

theorem contains_jsonObject (pairs : List (Bytes × Json)) (key : Bytes) :
    contains (jsonObject pairs) key = contains (.object pairs) key := by
  simp only [contains, jsonObject, lookup_jsonObject]

end TgwRemoteUserService
