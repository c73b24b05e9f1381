import TgwGateway.Service.RpcMessages

/- UserServiceImpl over a repository of users. -/
namespace TgwUserService
open ByteStrings TgwClock TgwRpc
variable {State : Type}

structure UserRecord where
  userId : Int64 := 0
  username : Bytes := []
  password : Bytes := []
  email : Bytes := []
  role : Bytes := []
  deriving DecidableEq

/-- The contents of a repository, as its two queries show them: an id finds its own record. -/
structure UserRepository where
  findByUsername : Bytes → Option UserRecord
  findById : Int64 → Option UserRecord
  findById_userId : ∀ id user, findById id = some user → user.userId = id

def adminUser : UserRecord where
  userId := 10001
  username := bytes "admin"
  password := bytes "123456"
  email := bytes "admin@example.com"
  role := bytes "admin"

def inMemoryUserRepository : UserRepository where
  findByUsername username := if username = adminUser.username then some adminUser else none
  findById userId := if userId = adminUser.userId then some adminUser else none
  findById_userId := by
    intro id user found
    split at found
    · rename_i own
      cases found
      exact own.symm
    · cases found

def login (repository : UserRepository) : RpcMethod State LoginRequest LoginResponse :=
  fun ctx request env =>
    match fillTimeoutIfCancelled ctx env with
    | (some rpcMeta, env) => ({ rpcMeta := rpcMeta }, env)
    | (none, env) =>
      if request.username = [] ∨ request.password = [] then
        let filled := fillMeta .invalidArgument (bytes "username or password is empty") ctx env
        ({ rpcMeta := filled.1 }, filled.2)
      else
        match (repository.findByUsername request.username).filter
            (·.password = request.password) with
        | none =>
          let filled := fillMeta .unauthorized (bytes "invalid username or password") ctx env
          ({ rpcMeta := filled.1 }, filled.2)
        | some user =>
          let filled := fillMeta .ok (bytes "ok") ctx env
          ({ rpcMeta := filled.1
             userId := user.userId
             username := user.username
             token := bytes "mock-token-" ++ ctx.requestId
             role := user.role }, filled.2)

def getProfile (repository : UserRepository) :
    RpcMethod State GetProfileRequest GetProfileResponse :=
  fun ctx request env =>
    match fillTimeoutIfCancelled ctx env with
    | (some rpcMeta, env) => ({ rpcMeta := rpcMeta }, env)
    | (none, env) =>
      match repository.findById request.userId with
      | none =>
        let filled := fillMeta .notFound (bytes "user not found") ctx env
        ({ rpcMeta := filled.1 }, filled.2)
      | some user =>
        let filled := fillMeta .ok (bytes "ok") ctx env
        ({ rpcMeta := filled.1
           profile := ⟨user.userId, user.username, user.email, user.role⟩ }, filled.2)

def userServiceImpl (repository : UserRepository) : UserService State where
  login := login repository
  getProfile := getProfile repository

section methods
variable (repository : UserRepository) (ctx : RpcContext) (env : Env State)

theorem login_state (request : LoginRequest) :
    (login repository ctx request env).2.state = env.state := by
  unfold login
  rcases fillTimeoutIfCancelled_cases ctx env with ⟨_, rpcMeta, later, run, _, state⟩ | ⟨_, run⟩
  · simp [run, state]
  · simp only [run]
    split
    · simp
    · split <;> simp

theorem getProfile_state (request : GetProfileRequest) :
    (getProfile repository ctx request env).2.state = env.state := by
  unfold getProfile
  rcases fillTimeoutIfCancelled_cases ctx env with ⟨_, rpcMeta, later, run, _, state⟩ | ⟨_, run⟩
  · simp [run, state]
  · simp only [run]
    split <;> simp

end methods

end TgwUserService
