import TgwGateway.Common.Status
import TgwGateway.Service.RemoteUserService
import TgwGateway.Service.UserService

/- The user service in its own process against the one in the process of the gateway: they answer
   alike as far as 32 bits carry the user ids. -/
namespace TgwRemoteEquivalence
open ByteStrings DecimalText MachineInt JsonValues TgwClock TgwExceptions TgwStatus TgwRpc
open TgwUserService TgwRemoteUserService
variable {State : Type}

/-- What the two services must agree on; the request id and the cost are left out. -/
structure LoginView where
  code : RpcCode := .ok
  message : Bytes := []
  userId : Int64 := 0
  username : Bytes := []
  token : Bytes := []
  role : Bytes := []
  deriving DecidableEq

def loginView (response : LoginResponse) : LoginView :=
  ⟨response.rpcMeta.code, response.rpcMeta.message, response.userId, response.username,
    response.token, response.role⟩

structure ProfileView where
  code : RpcCode := .ok
  message : Bytes := []
  userId : Int64 := 0
  username : Bytes := []
  email : Bytes := []
  role : Bytes := []
  deriving DecidableEq

def profileView (response : GetProfileResponse) : ProfileView :=
  ⟨response.rpcMeta.code, response.rpcMeta.message, response.profile.userId,
    response.profile.username, response.profile.email, response.profile.role⟩

def grantedUser (repository : UserRepository) (request : LoginRequest) : Option UserRecord :=
  if request.username = [] ∨ request.password = [] then none
  else (repository.findByUsername request.username).filter (·.password = request.password)

def loginResult (repository : UserRepository) (requestId : Bytes) (request : LoginRequest) :
    LoginView :=
  match grantedUser repository request with
  | some user =>
    ⟨.ok, bytes "ok", user.userId, user.username, bytes "mock-token-" ++ requestId, user.role⟩
  | none =>
    if request.username = [] ∨ request.password = [] then
      { code := .invalidArgument, message := bytes "username or password is empty" }
    else { code := .unauthorized, message := bytes "invalid username or password" }

def profileResult (repository : UserRepository) (userId : Int64) : ProfileView :=
  match repository.findById userId with
  | some user => ⟨.ok, bytes "ok", user.userId, user.username, user.email, user.role⟩
  | none => { code := .notFound, message := bytes "user not found" }

theorem login_view (repository : UserRepository) (ctx : RpcContext) (request : LoginRequest)
    {env : Env State} (isOpen : env.OpenFor 1) :
    loginView (TgwUserService.login repository ctx request env).1 =
      loginResult repository ctx.requestId request := by
  unfold TgwUserService.login loginResult grantedUser
  rw [fillTimeoutIfCancelled_open ctx isOpen]
  simp only
  split
  · rfl
  · cases (repository.findByUsername request.username).filter
      (·.password = request.password) <;> rfl

theorem getProfile_view (repository : UserRepository) (ctx : RpcContext)
    (request : GetProfileRequest) {env : Env State} (isOpen : env.OpenFor 1) :
    profileView (TgwUserService.getProfile repository ctx request env).1 =
      profileResult repository request.userId := by
  unfold TgwUserService.getProfile profileResult
  rw [fillTimeoutIfCancelled_open ctx isOpen]
  simp only
  cases repository.findById request.userId <;> rfl

/-- The library carries a value over the wire as one line. -/
def Transmits (lib : RemoteLibraries) (json : Json) : Prop :=
  ∃ text, lib.dump json = .ok text ∧ text ≠ [] ∧ lineBreak ∉ text ∧ lib.parse text = .ok json

theorem firstLine_line {text : Bytes} (whole : lineBreak ∉ text) :
    firstLine (text ++ [lineBreak]) = text := by
  unfold firstLine
  rw [List.takeWhile_append_of_pos]
  · simp
  · intro c member
    simp only [ne_eq, decide_not, Bool.not_eq_eq_eq_not, Bool.not_true, decide_eq_false_iff_not]
    rintro rfl
    exact whole member

/-- The library carries a request over, and what the server answers it with. -/
structure Carried (lib : RemoteLibraries) (service : UserService State) (payload : Json)
    (server : Env State) : Prop where
  request : Transmits lib payload
  reply : ∀ reply, (handleRequest lib service payload server).1 = .ok reply → Transmits lib reply

/-- A call whose two messages are carried over ends with the answer of the server. -/
theorem exchange_answer {lib : RemoteLibraries} {service : UserService State} {payload reply : Json}
    {client : Env (Env State)} (isOpen : client.OpenFor 1)
    (carried : Carried lib service payload client.state)
    (handled : (handleRequest lib service payload client.state).1 = .ok reply) :
    ∃ client', exchange lib service payload client = (.ok reply, client') := by
  obtain ⟨text, dumped, _, whole, parsed⟩ := carried.request
  obtain ⟨answer, dumped', nonempty, whole', parsed'⟩ := carried.reply reply handled
  have running := (Env.openFor_deadlineExceeded isOpen).1
  have session : (handleSession lib service (text ++ [lineBreak]) client.state).1 =
      some (answer ++ [lineBreak]) := by
    unfold handleSession
    rw [firstLine_line whole, parsed]
    simp [handled, Except.bind, dumped']
  unfold exchange call
  simp [dumped, running, session, firstLine_line whole', nonempty, parsed']

def serverContext (ctx : RpcContext) (timeoutMs : Int) (server : Env State) : RpcContext :=
  { requestId := ctx.requestId
    caller := bytes "tgw-gateway-remote-client"
    timeoutMs := toInt32 (min ctx.timeoutMs timeoutMs)
    startTime := server.now }

def serverEnv (ctx : RpcContext) (timeoutMs : Int) (server : Env State) : Env State :=
  { server.tick.tick with
    deadline := some (startDeadline (toInt32 (min ctx.timeoutMs timeoutMs)) server.tick.now) }

theorem handleRequest_login (lib : RemoteLibraries) (service : UserService State) (timeoutMs : Int)
    (ctx : RpcContext) (request : LoginRequest) (server : Env State) :
    (handleRequest lib service (loginPayload timeoutMs ctx request) server).1 =
      .ok (loginReply (service.login (serverContext ctx timeoutMs server) request
        (serverEnv ctx timeoutMs server)).1) := by
  simp only [handleRequest, buildRpcContext, handleLogin, loginPayload, valueOr_jsonObject]
  rfl

theorem handleRequest_getProfile (lib : RemoteLibraries) (service : UserService State)
    (timeoutMs : Int) (ctx : RpcContext) (request : GetProfileRequest) (server : Env State) :
    (handleRequest lib service (profilePayload timeoutMs ctx request) server).1 =
      .ok (profileReply (service.getProfile (serverContext ctx timeoutMs server)
        ⟨wrapInt64 request.userId⟩ (serverEnv ctx timeoutMs server)).1) := by
  simp only [handleRequest, buildRpcContext, handleGetProfile, profilePayload, valueOr_jsonObject]
  rfl

def receivedMeta (rpcMeta : RpcMeta) : RpcMeta :=
  { rpcMeta with code := .ofNumber (toInt32 rpcMeta.code.number) }

theorem fillMetaFromJson_reply (lib : RemoteLibraries) (rpcMeta : RpcMeta)
    (others : List (Bytes × Json)) (ctx : RpcContext) (env : Env State) :
    fillMetaFromJson lib (jsonObject ((bytes "meta", metaToJson rpcMeta) :: others)) ctx env =
      (.ok (receivedMeta rpcMeta), env.tick) := by
  have found : atKey lib (jsonObject ((bytes "meta", metaToJson rpcMeta) :: others))
      (bytes "meta") = .ok (metaToJson rpcMeta) := by
    rw [atKey_jsonObject]
    rfl
  have cost : Int64.ofInt rpcMeta.costMs.toInt = rpcMeta.costMs := Int64.ofInt_toInt _
  rw [fillMetaFromJson, found]
  simp only [metaToJson, valueOr_jsonObject]
  rw [receivedMeta]
  conv => rhs; rw [← cost]
  rfl

theorem login_reply (lib : RemoteLibraries) (response : LoginResponse) (ctx : RpcContext)
    (env : Env State) :
    fillMetaFromJson lib (loginReply response) ctx env =
        (.ok (receivedMeta response.rpcMeta), env.tick) ∧
      fillLogin lib (loginReply response) (receivedMeta response.rpcMeta) =
        ({ response with
           rpcMeta := receivedMeta response.rpcMeta
           userId := wrapInt64 response.userId }, none) := by
  refine ⟨fillMetaFromJson_reply lib _ _ ctx env, ?_⟩
  simp only [fillLogin, loginReply, valueOr_jsonObject]
  rfl

theorem profile_reply (lib : RemoteLibraries) (response : GetProfileResponse) (ctx : RpcContext)
    (env : Env State) :
    fillMetaFromJson lib (profileReply response) ctx env =
        (.ok (receivedMeta response.rpcMeta), env.tick) ∧
      fillProfile lib (profileReply response) (receivedMeta response.rpcMeta) =
        ({ rpcMeta := receivedMeta response.rpcMeta
           profile := { response.profile with userId := wrapInt64 response.profile.userId } },
          none) := by
  refine ⟨fillMetaFromJson_reply lib _ _ ctx env, ?_⟩
  have present : contains (profileReply response) (bytes "profile") = true := by
    rw [profileReply, contains_jsonObject]
    rfl
  have found : atKey lib (profileReply response) (bytes "profile") =
      .ok (profileToJson response.profile) := by
    rw [profileReply, atKey_jsonObject]
    rfl
  rw [fillProfile, present, found]
  simp only [profileToJson, ↓reduceIte, valueOr_jsonObject]
  rfl

theorem receivedMeta_declared {rpcMeta : RpcMeta}
    (declared : ∀ number, rpcMeta.code ≠ .undeclared number) :
    receivedMeta rpcMeta = rpcMeta := by
  have kept : RpcCode.ofNumber (toInt32 rpcMeta.code.number) = rpcMeta.code := by
    cases code : rpcMeta.code with
    | undeclared number => exact absurd code (declared number)
    | _ => decide
  rw [receivedMeta, kept]

section calls
variable {lib : RemoteLibraries} {timeoutMs : Int} {repository : UserRepository}
  {ctx : RpcContext} {client : Env (Env State)}

theorem loginResult_declared (repository : UserRepository) (requestId : Bytes)
    (request : LoginRequest) (number : Int) :
    (loginResult repository requestId request).code ≠ .undeclared number := by
  unfold loginResult
  split
  · simp
  · split <;> simp

theorem profileResult_declared (repository : UserRepository) (userId : Int64) (number : Int) :
    (profileResult repository userId).code ≠ .undeclared number := by
  unfold profileResult
  split <;> simp

/-- The remote login is the local one with its user id cut to 32 bits. -/
theorem remote_login_view (clientOpen : client.OpenFor 1)
    (serverOpen : (serverEnv ctx timeoutMs client.state).OpenFor 1) {request : LoginRequest}
    (carried : Carried lib (userServiceImpl repository) (loginPayload timeoutMs ctx request)
      client.state) :
    loginView ((remoteUserServiceClient lib timeoutMs (userServiceImpl repository)).login ctx
        request client).1 =
      { loginResult repository ctx.requestId request with
        userId := wrapInt64 (loginResult repository ctx.requestId request).userId } := by
  have handled := handleRequest_login lib (userServiceImpl repository) timeoutMs ctx request
    client.state
  have served := login_view repository (serverContext ctx timeoutMs client.state) request serverOpen
  obtain ⟨client', exchanged⟩ := exchange_answer clientOpen carried handled
  simp only [userServiceImpl] at exchanged
  generalize (TgwUserService.login repository (serverContext ctx timeoutMs client.state) request
    (serverEnv ctx timeoutMs client.state)).1 = response at exchanged served
  have declared : ∀ number, response.rpcMeta.code ≠ .undeclared number := by
    intro number same
    refine loginResult_declared repository ctx.requestId request number ?_
    rw [← same]
    exact (congrArg LoginView.code served).symm
  obtain ⟨filled, fields⟩ := login_reply lib response ctx client'
  rw [receivedMeta_declared declared] at filled fields
  have answered : ((remoteUserServiceClient lib timeoutMs (userServiceImpl repository)).login ctx
      request client).1 = { response with userId := wrapInt64 response.userId } := by
    simp only [remoteUserServiceClient, TgwRemoteUserService.login, userServiceImpl, exchanged,
      filled, fields]
  rw [answered]
  change loginView response = loginResult repository ctx.requestId request at served
  rw [← served]
  rfl

theorem remote_profile_view (clientOpen : client.OpenFor 1)
    (serverOpen : (serverEnv ctx timeoutMs client.state).OpenFor 1) {request : GetProfileRequest}
    (carried : Carried lib (userServiceImpl repository) (profilePayload timeoutMs ctx request)
      client.state) :
    profileView ((remoteUserServiceClient lib timeoutMs (userServiceImpl repository)).getProfile
        ctx request client).1 =
      { profileResult repository (wrapInt64 request.userId) with
        userId := wrapInt64 (profileResult repository (wrapInt64 request.userId)).userId } := by
  have handled := handleRequest_getProfile lib (userServiceImpl repository) timeoutMs ctx request
    client.state
  have served := getProfile_view repository (serverContext ctx timeoutMs client.state)
    ⟨wrapInt64 request.userId⟩ serverOpen
  obtain ⟨client', exchanged⟩ := exchange_answer clientOpen carried handled
  simp only [userServiceImpl] at exchanged
  generalize (TgwUserService.getProfile repository (serverContext ctx timeoutMs client.state)
    ⟨wrapInt64 request.userId⟩ (serverEnv ctx timeoutMs client.state)).1 = response
    at exchanged served
  have declared : ∀ number, response.rpcMeta.code ≠ .undeclared number := by
    intro number same
    refine profileResult_declared repository (wrapInt64 request.userId) number ?_
    rw [← same]
    exact (congrArg ProfileView.code served).symm
  obtain ⟨filled, fields⟩ := profile_reply lib response ctx client'
  rw [receivedMeta_declared declared] at filled fields
  have answered : ((remoteUserServiceClient lib timeoutMs (userServiceImpl repository)).getProfile
      ctx request client).1 =
        { rpcMeta := response.rpcMeta
          profile := { response.profile with userId := wrapInt64 response.profile.userId } } := by
    simp only [remoteUserServiceClient, TgwRemoteUserService.getProfile, userServiceImpl,
      exchanged, filled, fields]
  rw [answered, ← served]
  rfl

end calls

theorem profileResult_found {repository : UserRepository} {userId : Int64} {user : UserRecord}
    (found : repository.findById userId = some user) :
    profileResult repository userId = ⟨.ok, bytes "ok", userId, user.username, user.email,
      user.role⟩ := by
  simp only [profileResult, found, repository.findById_userId userId user found]

theorem profileResult_missing {repository : UserRepository} {userId : Int64}
    (missing : repository.findById userId = none) :
    profileResult repository userId =
      { code := .notFound, message := bytes "user not found" } := by
  simp only [profileResult, missing]

theorem login_cut_iff (repository : UserRepository) (requestId : Bytes) (request : LoginRequest) :
    ({ loginResult repository requestId request with
        userId := wrapInt64 (loginResult repository requestId request).userId } : LoginView) =
        loginResult repository requestId request ↔
      ∀ user, grantedUser repository request = some user → FitsInt32 user.userId.toInt := by
  have cut : ∀ view : LoginView, { view with userId := wrapInt64 view.userId } = view ↔
      FitsInt32 view.userId.toInt := by
    intro view
    rw [← wrapInt64_eq_iff]
    exact ⟨fun same => congrArg LoginView.userId same, fun same => by rw [same]⟩
  rw [cut]
  unfold loginResult
  cases grantedUser repository request with
  | some user => simp
  | none =>
    simp only [reduceCtorEq, false_implies, implies_true, iff_true]
    split <;> decide

theorem profile_cut_iff (repository : UserRepository) (userId : Int64) :
    ({ profileResult repository (wrapInt64 userId) with
        userId := wrapInt64 (profileResult repository (wrapInt64 userId)).userId } : ProfileView) =
        profileResult repository userId ↔
      FitsInt32 userId.toInt ∨
        (repository.findById userId = none ∧ repository.findById (wrapInt64 userId) = none) := by
  rw [← wrapInt64_eq_iff]
  cases found : repository.findById userId with
  | some user =>
    cases found' : repository.findById (wrapInt64 userId) with
    | some other =>
      rw [profileResult_found found, profileResult_found found']
      simp only [wrapInt64_idem, reduceCtorEq, and_self, or_false]
      refine ⟨fun same => congrArg ProfileView.userId same, fun same => ?_⟩
      rw [same, found] at found'
      cases found'
      rw [same]
    | none =>
      rw [profileResult_found found, profileResult_missing found']
      simp only [reduceCtorEq, false_and, or_false]
      refine ⟨fun same => absurd (congrArg ProfileView.code same) (by simp), fun same => ?_⟩
      rw [same, found] at found'
      cases found'
  | none =>
    cases found' : repository.findById (wrapInt64 userId) with
    | some other =>
      rw [profileResult_missing found, profileResult_found found']
      simp only [reduceCtorEq, and_false, or_false]
      refine ⟨fun same => absurd (congrArg ProfileView.code same) (by simp), fun same => ?_⟩
      rw [same, found] at found'
      cases found'
    | none =>
      rw [profileResult_missing found, profileResult_missing found']
      simp only [and_self, or_true, iff_true]
      decide

/-- The remote service answers like the local one exactly for ids of 32 bits: a login whose
   record has one, a profile that is asked for by one or found in neither form. -/
theorem remote_agrees_iff {Local : Type} (lib : RemoteLibraries) (timeoutMs : Int)
    (repository : UserRepository) (ctx : RpcContext) (client : Env (Env State))
    (gateway : Env Local) (clientOpen : client.OpenFor 1) (gatewayOpen : gateway.OpenFor 1)
    (serverOpen : (serverEnv ctx timeoutMs client.state).OpenFor 1) :
    (∀ request,
      Carried lib (userServiceImpl repository) (loginPayload timeoutMs ctx request)
        client.state →
      (loginView ((remoteUserServiceClient lib timeoutMs (userServiceImpl repository)).login ctx
          request client).1 =
        loginView ((userServiceImpl repository).login ctx request gateway).1 ↔
      ∀ user, grantedUser repository request = some user → FitsInt32 user.userId.toInt)) ∧
    (∀ request,
      Carried lib (userServiceImpl repository) (profilePayload timeoutMs ctx request)
        client.state →
      (profileView ((remoteUserServiceClient lib timeoutMs
          (userServiceImpl repository)).getProfile ctx request client).1 =
        profileView ((userServiceImpl repository).getProfile ctx request gateway).1 ↔
      FitsInt32 request.userId.toInt ∨
        (repository.findById request.userId = none ∧
          repository.findById (wrapInt64 request.userId) = none))) := by
  constructor
  · intro request carried
    rw [remote_login_view clientOpen serverOpen carried, ← login_cut_iff]
    exact Iff.of_eq (congrArg _ (login_view repository ctx request gatewayOpen))
  · intro request carried
    rw [remote_profile_view clientOpen serverOpen carried, ← profile_cut_iff]
    exact Iff.of_eq (congrArg _ (getProfile_view repository ctx request gatewayOpen))

mutual

def compactText : Json → Bytes
  | .null => bytes "null"
  | .bool value => if value then bytes "true" else bytes "false"
  | .number n => intText n
  | .string text => bytes "\"" ++ jsonEscape text ++ bytes "\""
  | .array items => bytes "[" ++ itemsText items ++ bytes "]"
  | .object members => bytes "\x7b" ++ membersText members ++ bytes "\x7d"

def itemsText : List Json → Bytes
  | [] => []
  | [item] => compactText item
  | item :: items => compactText item ++ bytes "," ++ itemsText items

def membersText : List (Bytes × Json) → Bytes
  | [] => []
  | [(key, value)] => bytes "\"" ++ jsonEscape key ++ bytes "\":" ++ compactText value
  | (key, value) :: members =>
    bytes "\"" ++ jsonEscape key ++ bytes "\":" ++ compactText value ++ bytes "," ++
      membersText members

end

/-- A library as far as it is used on these messages. -/
def messageLibrary (messages : List Json) : RemoteLibraries where
  dump json := .ok (compactText json)
  parse text :=
    match messages.find? fun message => compactText message = text with
    | some message => .ok message
    | none => .error (.jsonException (bytes "parse error"))
  accessError _ := bytes "type error"
  connectionClosed := bytes "End of file"

def callerContext : RpcContext := { requestId := bytes "r1", caller := bytes "tgw-gateway" }

def stillEnv {Part : Type} (state : Part) : Env Part :=
  { steady := ticking 0, system := stopped 0, deadline := none, state := state }

def adminLogin : LoginRequest := ⟨bytes "admin", bytes "123456"⟩

/-- The id of the admin and 2^32 more. -/
def wideProfile : GetProfileRequest := ⟨4294977297⟩

def grantedMeta : RpcMeta := { code := .ok, message := bytes "ok", requestId := bytes "r1" }

def exampleLibrary : RemoteLibraries :=
  messageLibrary
    [loginPayload 1000 callerContext adminLogin,
      loginReply
        { rpcMeta := grantedMeta
          userId := 10001
          username := bytes "admin"
          token := bytes "mock-token-r1"
          role := bytes "admin" },
      profilePayload 1000 callerContext wideProfile,
      profileReply
        { rpcMeta := grantedMeta
          profile := ⟨10001, bytes "admin", bytes "admin@example.com", bytes "admin"⟩ }]

theorem login_carried : Carried exampleLibrary (userServiceImpl inMemoryUserRepository)
    (loginPayload 1000 callerContext adminLogin) (stillEnv ()) := by
  refine ⟨⟨_, rfl, by decide, by decide, rfl⟩, fun reply handled => ?_⟩
  rw [handleRequest_login] at handled
  cases handled
  exact ⟨_, rfl, by decide, by decide, rfl⟩

theorem profile_carried : Carried exampleLibrary (userServiceImpl inMemoryUserRepository)
    (profilePayload 1000 callerContext wideProfile) (stillEnv ()) := by
  refine ⟨⟨_, rfl, by decide, by decide, rfl⟩, fun reply handled => ?_⟩
  rw [handleRequest_getProfile] at handled
  cases handled
  exact ⟨_, rfl, by decide, by decide, rfl⟩

/-- Both messages are carried, and the answer is the profile of another user. -/
theorem wide_id_reads_admin :
    Carried exampleLibrary (userServiceImpl inMemoryUserRepository)
      (profilePayload 1000 callerContext wideProfile) (stillEnv ()) ∧
    profileView ((remoteUserServiceClient exampleLibrary 1000
        (userServiceImpl inMemoryUserRepository)).getProfile callerContext wideProfile
        (stillEnv (stillEnv ()))).1 =
      ⟨.ok, bytes "ok", 10001, bytes "admin", bytes "admin@example.com", bytes "admin"⟩ ∧
    profileView ((userServiceImpl inMemoryUserRepository).getProfile callerContext wideProfile
        (stillEnv ())).1 =
      { code := .notFound, message := bytes "user not found" } :=
  ⟨profile_carried, by decide, by decide⟩

theorem still_open {Part : Type} (state : Part) : (stillEnv state).OpenFor 1 := by
  intro d own
  cases own

theorem remote_agrees_iff_admin :
    loginView ((remoteUserServiceClient exampleLibrary 1000
        (userServiceImpl inMemoryUserRepository)).login callerContext adminLogin
        (stillEnv (stillEnv ()))).1 =
      loginView ((userServiceImpl inMemoryUserRepository).login callerContext adminLogin
        (stillEnv ())).1 ∧
    profileView ((remoteUserServiceClient exampleLibrary 1000
        (userServiceImpl inMemoryUserRepository)).getProfile callerContext wideProfile
        (stillEnv (stillEnv ()))).1 ≠
      profileView ((userServiceImpl inMemoryUserRepository).getProfile callerContext wideProfile
        (stillEnv ())).1 := by
  have serverOpen : (serverEnv callerContext 1000 (stillEnv ())).OpenFor 1 := by
    intro d own
    cases own
    refine ⟨rfl, fun n small => ?_⟩
    obtain rfl : n = 0 := by omega
    decide
  obtain ⟨login, profile⟩ := remote_agrees_iff exampleLibrary 1000 inMemoryUserRepository
    callerContext (stillEnv (stillEnv ())) (stillEnv ()) (still_open _) (still_open _) serverOpen
  refine ⟨(login adminLogin login_carried).mpr fun user granted => ?_, fun same => ?_⟩
  · have admin : grantedUser inMemoryUserRepository adminLogin = some adminUser := by decide
    rw [admin] at granted
    cases granted
    decide
  · exact absurd ((profile wideProfile profile_carried).mp same) (by decide)

end TgwRemoteEquivalence
