import TgwGateway.Gateway.Http

/- The RPC messages, the context of one call and the interfaces of the services. Enumerations of
   proto3 are open: a field may hold a number that no declared value has. -/
namespace TgwRpc
open ByteStrings TgwClock

inductive RpcCode where
  | ok
  | invalidArgument
  | unauthorized
  | notFound
  | timeout
  | internalError
  | undeclared (number : Int)
  deriving DecidableEq, Repr

def RpcCode.number : RpcCode → Int
  | .ok => 0
  | .invalidArgument => 1
  | .unauthorized => 2
  | .notFound => 3
  | .timeout => 4
  | .internalError => 5
  | .undeclared number => number

def RpcCode.ofNumber (number : Int) : RpcCode :=
  if number = 0 then .ok
  else if number = 1 then .invalidArgument
  else if number = 2 then .unauthorized
  else if number = 3 then .notFound
  else if number = 4 then .timeout
  else if number = 5 then .internalError
  else .undeclared number

inductive TaskStatus where
  | unknown
  | pending
  | running
  | success
  | failed
  | undeclared (number : Int)
  deriving DecidableEq, Repr

def TaskStatus.number : TaskStatus → Int
  | .unknown => 0
  | .pending => 1
  | .running => 2
  | .success => 3
  | .failed => 4
  | .undeclared number => number

def TaskStatus.ofNumber (number : Int) : TaskStatus :=
  if number = 0 then .unknown
  else if number = 1 then .pending
  else if number = 2 then .running
  else if number = 3 then .success
  else if number = 4 then .failed
  else .undeclared number

structure RpcMeta where
  code : RpcCode := .ok
  message : Bytes := []
  requestId : Bytes := []
  costMs : Int64 := 0
  deriving DecidableEq

structure LoginRequest where
  username : Bytes := []
  password : Bytes := []
  deriving DecidableEq

structure LoginResponse where
  rpcMeta : RpcMeta := {}
  userId : Int64 := 0
  username : Bytes := []
  token : Bytes := []
  role : Bytes := []
  deriving DecidableEq

structure GetProfileRequest where
  userId : Int64 := 0
  deriving DecidableEq

structure UserProfile where
  userId : Int64 := 0
  username : Bytes := []
  email : Bytes := []
  role : Bytes := []
  deriving DecidableEq

structure GetProfileResponse where
  rpcMeta : RpcMeta := {}
  profile : UserProfile := {}
  deriving DecidableEq

structure CreateFileMetaRequest where
  filename : Bytes := []
  size : Int64 := 0
  contentType : Bytes := []
  ownerUserId : Int64 := 0
  deriving DecidableEq

structure CreateFileMetaResponse where
  rpcMeta : RpcMeta := {}
  fileId : Bytes := []
  deriving DecidableEq

structure GetFileMetaRequest where
  fileId : Bytes := []
  deriving DecidableEq

structure FileMeta where
  fileId : Bytes := []
  filename : Bytes := []
  size : Int64 := 0
  contentType : Bytes := []
  ownerUserId : Int64 := 0
  createdAt : Int64 := 0
  deriving DecidableEq

structure GetFileMetaResponse where
  rpcMeta : RpcMeta := {}
  file : FileMeta := {}
  deriving DecidableEq

structure CreateTaskRequest where
  taskType : Bytes := []
  payload : Bytes := []
  userId : Int64 := 0
  deriving DecidableEq

structure CreateTaskResponse where
  rpcMeta : RpcMeta := {}
  taskId : Bytes := []
  deriving DecidableEq

structure GetTaskRequest where
  taskId : Bytes := []
  deriving DecidableEq

structure TaskInfo where
  taskId : Bytes := []
  taskType : Bytes := []
  status : TaskStatus := .unknown
  result : Bytes := []
  userId : Int64 := 0
  createdAt : Int64 := 0
  updatedAt : Int64 := 0
  deriving DecidableEq

structure GetTaskResponse where
  rpcMeta : RpcMeta := {}
  task : TaskInfo := {}
  deriving DecidableEq

structure TaskEvent where
  taskId : Bytes := []
  status : TaskStatus := .unknown
  message : Bytes := []
  timestamp : Int64 := 0
  deriving DecidableEq

/-- The deadline pointer of the context is the one of the environment. -/
structure RpcContext where
  requestId : Bytes := []
  traceId : Bytes := []
  caller : Bytes := []
  userId : Bytes := []
  timeoutMs : Int := 1000
  headers : ByteMap Bytes := ∅
  startTime : Int := 0

def RpcContext.elapsedMs (ctx : RpcContext) (now : Int) : Int :=
  (now - ctx.startTime).tdiv nanosPerMilli

abbrev RpcMethod (State Request Response : Type) :=
  RpcContext → Request → Env State → Response × Env State

structure UserService (State : Type) where
  login : RpcMethod State LoginRequest LoginResponse
  getProfile : RpcMethod State GetProfileRequest GetProfileResponse

structure FileMetaService (State : Type) where
  createFileMeta : RpcMethod State CreateFileMetaRequest CreateFileMetaResponse
  getFileMeta : RpcMethod State GetFileMetaRequest GetFileMetaResponse

structure TaskService (State : Type) where
  createTask : RpcMethod State CreateTaskRequest CreateTaskResponse
  getTask : RpcMethod State GetTaskRequest GetTaskResponse
  submitTaskEvent : RpcContext → TaskEvent → Env State → Env State

variable {State : Type}

/-- FillMeta, which every service has a copy of. -/
def fillMeta (code : RpcCode) (message : Bytes) (ctx : RpcContext) (env : Env State) :
    RpcMeta × Env State :=
  ({ code := code
     message := message
     requestId := ctx.requestId
     costMs := Int64.ofInt (ctx.elapsedMs env.now) }, env.tick)

def fillTimeoutIfCancelled (ctx : RpcContext) (env : Env State) : Option RpcMeta × Env State :=
  let done := env.deadlineExceeded
  if done.1 then
    let filled := fillMeta .timeout (bytes "deadline exceeded") ctx
      (done.2.cancelDeadline (bytes "deadline exceeded"))
    (some filled.1, filled.2)
  else (none, done.2)

@[simp] theorem fillMeta_code (code : RpcCode) (message : Bytes) (ctx : RpcContext)
    (env : Env State) : (fillMeta code message ctx env).1.code = code := rfl

@[simp] theorem fillMeta_state (code : RpcCode) (message : Bytes) (ctx : RpcContext)
    (env : Env State) : (fillMeta code message ctx env).2.state = env.state := rfl

theorem fillTimeoutIfCancelled_cases (ctx : RpcContext) (env : Env State) :
    (env.deadlineExceeded.1 = true ∧ ∃ rpcMeta later,
      fillTimeoutIfCancelled ctx env = (some rpcMeta, later) ∧ rpcMeta.code = .timeout ∧
        later.state = env.state) ∨
    (env.deadlineExceeded.1 = false ∧
      fillTimeoutIfCancelled ctx env = (none, env.deadlineExceeded.2)) := by
  cases done : env.deadlineExceeded.1 with
  | true =>
    refine Or.inl ⟨rfl, ?_⟩
    simp only [fillTimeoutIfCancelled, done, ↓reduceIte]
    exact ⟨_, _, rfl, rfl, by simp⟩
  | false => exact Or.inr ⟨rfl, by simp [fillTimeoutIfCancelled, done]⟩

theorem fillTimeoutIfCancelled_open (ctx : RpcContext) {env : Env State}
    (isOpen : env.OpenFor 1) :
    fillTimeoutIfCancelled ctx env = (none, env.deadlineExceeded.2) := by
  simp [fillTimeoutIfCancelled, (Env.openFor_deadlineExceeded isOpen).1]

end TgwRpc
