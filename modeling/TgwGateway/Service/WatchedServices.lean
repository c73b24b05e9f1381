import TgwGateway.Common.WatchedDeadline
import TgwGateway.Service.FileMetaService
import TgwGateway.Service.TaskService
import TgwGateway.Service.UserService

/- The service methods with their deadline checks listed. Each is the method of the same name once
   the list is dropped. -/
namespace TgwWatchedServices
open ByteStrings WatchedRuns Watched TgwClock TgwWatchedDeadline TgwRpc TgwTaskService
open TgwFileMetaService TgwUserService
variable {State Response View : Type}

theorem disciplined_fillMeta (of : State → View) (code : RpcCode) (message : Bytes)
    (ctx : RpcContext) :
    Disciplined Seen (fun env : Env State => of env.state) (step (fillMeta code message ctx)) :=
  disciplined_step fun _ => ⟨rfl, seen_tick⟩

/-- FillTimeoutIfCancelled at the start of a method, and the method after it. -/
def unlessTimeout (ctx : RpcContext) (timedOut : RpcMeta → Response)
    (body : Watched (Env State) Response) : Watched (Env State) Response := do
  if ← check Env.deadlineExceeded then
    cancel (bytes "deadline exceeded")
    return timedOut (← step (fillMeta .timeout (bytes "deadline exceeded") ctx))
  else body

theorem run_unlessTimeout (ctx : RpcContext) (timedOut : RpcMeta → Response)
    (body : Watched (Env State) Response) (env : Env State) :
    (unlessTimeout ctx timedOut body).run env =
      match fillTimeoutIfCancelled ctx env with
      | (some rpcMeta, env) => (timedOut rpcMeta, env)
      | (none, env) => body.run env := by
  cases done : env.deadlineExceeded.1 with
  | true => simp [unlessTimeout, fillTimeoutIfCancelled, done, cancel]
  | false => simp [unlessTimeout, fillTimeoutIfCancelled, done]

theorem disciplined_unlessTimeout (of : State → View) (ctx : RpcContext)
    (timedOut : RpcMeta → Response) {body : Watched (Env State) Response}
    (orderly : Orderly Seen (fun env : Env State => of env.state) body) :
    Disciplined Seen (fun env : Env State => of env.state) (unlessTimeout ctx timedOut body) := by
  apply disciplined_guard (deadline_probes of) _ orderly
  apply quiet_bind (disciplined_cancel of _).quiet
  intro _
  exact quiet_bind (disciplined_fillMeta of _ _ ctx).quiet fun _ => (disciplined_pure _).quiet

def answering (code : RpcCode) (message : Bytes) (ctx : RpcContext)
    (response : RpcMeta → Response) : Watched (Env State) Response := do
  return response (← step (fillMeta code message ctx))

theorem disciplined_answering (of : State → View) (code : RpcCode) (message : Bytes)
    (ctx : RpcContext) (response : RpcMeta → Response) :
    Disciplined Seen (fun env : Env State => of env.state)
      (answering code message ctx response) :=
  disciplined_bind (disciplined_fillMeta of code message ctx) fun _ => disciplined_pure _

section tasks

def storeTask (request : CreateTaskRequest) (env : Env TaskStore) : Bytes × Env TaskStore :=
  let taskSeq := env.state.taskSeq + 1
  let taskId := taskName taskSeq
  let task := newTask request taskId (TgwTaskService.nowUnixSeconds env.system)
  (taskId, { env.tickSystem with state := ⟨env.state.tasks.insert taskId task, taskSeq⟩ })

def createTask (ctx : RpcContext) (request : CreateTaskRequest) :
    Watched (Env TaskStore) CreateTaskResponse :=
  unlessTimeout ctx (fun rpcMeta => { rpcMeta := rpcMeta }) <|
    if request.taskType = [] then
      answering .invalidArgument (bytes "task_type is empty") ctx
        fun rpcMeta => { rpcMeta := rpcMeta }
    else do
      let taskId ← step (storeTask request)
      answering .ok (bytes "ok") ctx fun rpcMeta => { rpcMeta := rpcMeta, taskId := taskId }

def getTask (ctx : RpcContext) (request : GetTaskRequest) :
    Watched (Env TaskStore) GetTaskResponse :=
  unlessTimeout ctx (fun rpcMeta => { rpcMeta := rpcMeta }) do
    match ← step fun env => (env.state.tasks[request.taskId]?, env) with
    | none =>
      answering .notFound (bytes "task not found") ctx fun rpcMeta => { rpcMeta := rpcMeta }
    | some task =>
      answering .ok (bytes "ok") ctx fun rpcMeta => { rpcMeta := rpcMeta, task := task }

def applyEvent (event : TaskEvent) (env : Env TaskStore) : Env TaskStore :=
  match env.state.tasks[event.taskId]? with
  | none => env
  | some task =>
    { env with
      state :=
        { env.state with tasks := env.state.tasks.insert event.taskId (withEvent event task) } }

def submitTaskEvent (event : TaskEvent) : Watched (Env TaskStore) Unit := do
  if ← check Env.deadlineExceeded then
    step fun env => ((), (env.cancelDeadline (bytes "deadline exceeded")).tick)
  else step fun env => ((), applyEvent event env)

theorem run_createTask (ctx : RpcContext) (request : CreateTaskRequest) :
    (createTask ctx request).run = TgwTaskService.createTask ctx request := by
  funext env
  unfold createTask TgwTaskService.createTask
  rw [run_unlessTimeout]
  rcases fillTimeoutIfCancelled ctx env with ⟨_ | rpcMeta, env⟩
  · simp only
    split <;> rfl
  · rfl

theorem run_getTask (ctx : RpcContext) (request : GetTaskRequest) :
    (getTask ctx request).run = TgwTaskService.getTask ctx request := by
  funext env
  unfold getTask TgwTaskService.getTask
  rw [run_unlessTimeout]
  rcases fillTimeoutIfCancelled ctx env with ⟨_ | rpcMeta, env⟩
  · simp only [run_bind, run_step]
    cases env.state.tasks[request.taskId]? <;> rfl
  · rfl

theorem run_submitTaskEvent (ctx : RpcContext) (event : TaskEvent) (env : Env TaskStore) :
    (submitTaskEvent event).run env = ((), TgwTaskService.submitTaskEvent ctx event env) := by
  cases done : env.deadlineExceeded.1 with
  | true => simp [submitTaskEvent, TgwTaskService.submitTaskEvent, done]
  | false =>
    have applied : TgwTaskService.submitTaskEvent ctx event env =
        applyEvent event env.deadlineExceeded.2 := by
      have running : ¬ env.deadlineExceeded.1 = true := by simp [done]
      exact if_neg running
    rw [applied]
    simp [submitTaskEvent, done]

theorem disciplined_createTask (ctx : RpcContext) (request : CreateTaskRequest) :
    Disciplined Seen Env.state (createTask ctx request) := by
  apply disciplined_unlessTimeout id
  split
  · exact (disciplined_answering id _ _ ctx _).orderly
  · exact orderly_bind (orderly_step _) fun _ => disciplined_answering id _ _ ctx _

theorem disciplined_getTask (ctx : RpcContext) (request : GetTaskRequest) :
    Disciplined Seen Env.state (getTask ctx request) := by
  apply disciplined_unlessTimeout id
  apply orderly_bind (orderly_step _)
  intro found
  cases found with
  | none => exact disciplined_answering id _ _ ctx _
  | some task => exact disciplined_answering id _ _ ctx _

theorem disciplined_submitTaskEvent (event : TaskEvent) :
    Disciplined Seen Env.state (submitTaskEvent event) := by
  apply disciplined_guard (deadline_probes id) _ (orderly_step _)
  apply (disciplined_step _).quiet
  exact fun env => ⟨rfl, fun raised => seen_tick (seen_cancelDeadline raised _)⟩

end tasks

section files

def storeFile (request : CreateFileMetaRequest) (env : Env FileStore) : Bytes × Env FileStore :=
  let fileSeq := env.state.fileSeq + 1
  let fileId := fileName fileSeq
  let file := newFile request fileId (TgwFileMetaService.nowUnixSeconds env.system)
  (fileId, { env.tickSystem with state := ⟨env.state.files.insert fileId file, fileSeq⟩ })

def createFileMeta (ctx : RpcContext) (request : CreateFileMetaRequest) :
    Watched (Env FileStore) CreateFileMetaResponse :=
  unlessTimeout ctx (fun rpcMeta => { rpcMeta := rpcMeta }) <|
    if request.filename = [] ∨ request.size < 0 then
      answering .invalidArgument (bytes "invalid file meta") ctx
        fun rpcMeta => { rpcMeta := rpcMeta }
    else do
      let fileId ← step (storeFile request)
      answering .ok (bytes "ok") ctx fun rpcMeta => { rpcMeta := rpcMeta, fileId := fileId }

def getFileMeta (ctx : RpcContext) (request : GetFileMetaRequest) :
    Watched (Env FileStore) GetFileMetaResponse :=
  unlessTimeout ctx (fun rpcMeta => { rpcMeta := rpcMeta }) do
    match ← step fun env => (env.state.files[request.fileId]?, env) with
    | none =>
      answering .notFound (bytes "file not found") ctx fun rpcMeta => { rpcMeta := rpcMeta }
    | some file =>
      answering .ok (bytes "ok") ctx fun rpcMeta => { rpcMeta := rpcMeta, file := file }

theorem run_createFileMeta (ctx : RpcContext) (request : CreateFileMetaRequest) :
    (createFileMeta ctx request).run = TgwFileMetaService.createFileMeta ctx request := by
  funext env
  unfold createFileMeta TgwFileMetaService.createFileMeta
  rw [run_unlessTimeout]
  rcases fillTimeoutIfCancelled ctx env with ⟨_ | rpcMeta, env⟩
  · simp only
    split <;> rfl
  · rfl

theorem run_getFileMeta (ctx : RpcContext) (request : GetFileMetaRequest) :
    (getFileMeta ctx request).run = TgwFileMetaService.getFileMeta ctx request := by
  funext env
  unfold getFileMeta TgwFileMetaService.getFileMeta
  rw [run_unlessTimeout]
  rcases fillTimeoutIfCancelled ctx env with ⟨_ | rpcMeta, env⟩
  · simp only [run_bind, run_step]
    cases env.state.files[request.fileId]? <;> rfl
  · rfl

theorem disciplined_createFileMeta (ctx : RpcContext) (request : CreateFileMetaRequest) :
    Disciplined Seen Env.state (createFileMeta ctx request) := by
  apply disciplined_unlessTimeout id
  split
  · exact (disciplined_answering id _ _ ctx _).orderly
  · exact orderly_bind (orderly_step _) fun _ => disciplined_answering id _ _ ctx _

theorem disciplined_getFileMeta (ctx : RpcContext) (request : GetFileMetaRequest) :
    Disciplined Seen Env.state (getFileMeta ctx request) := by
  apply disciplined_unlessTimeout id
  apply orderly_bind (orderly_step _)
  intro found
  cases found with
  | none => exact disciplined_answering id _ _ ctx _
  | some file => exact disciplined_answering id _ _ ctx _

end files

section users
variable (repository : UserRepository)

def login (ctx : RpcContext) (request : LoginRequest) : Watched (Env State) LoginResponse :=
  unlessTimeout ctx (fun rpcMeta => { rpcMeta := rpcMeta }) <|
    if request.username = [] ∨ request.password = [] then
      answering .invalidArgument (bytes "username or password is empty") ctx
        fun rpcMeta => { rpcMeta := rpcMeta }
    else
      match (repository.findByUsername request.username).filter
          (·.password = request.password) with
      | none =>
        answering .unauthorized (bytes "invalid username or password") ctx
          fun rpcMeta => { rpcMeta := rpcMeta }
      | some user =>
        answering .ok (bytes "ok") ctx fun rpcMeta =>
          { rpcMeta := rpcMeta
            userId := user.userId
            username := user.username
            token := bytes "mock-token-" ++ ctx.requestId
            role := user.role }

def getProfile (ctx : RpcContext) (request : GetProfileRequest) :
    Watched (Env State) GetProfileResponse :=
  unlessTimeout ctx (fun rpcMeta => { rpcMeta := rpcMeta }) <|
    match repository.findById request.userId with
    | none =>
      answering .notFound (bytes "user not found") ctx fun rpcMeta => { rpcMeta := rpcMeta }
    | some user =>
      answering .ok (bytes "ok") ctx fun rpcMeta =>
        { rpcMeta := rpcMeta
          profile := ⟨user.userId, user.username, user.email, user.role⟩ }

theorem run_login (ctx : RpcContext) (request : LoginRequest) :
    (login repository ctx request : Watched (Env State) LoginResponse).run =
      TgwUserService.login repository ctx request := by
  funext env
  unfold login TgwUserService.login
  rw [run_unlessTimeout]
  rcases fillTimeoutIfCancelled ctx env with ⟨_ | rpcMeta, env⟩
  · simp only
    split
    · rfl
    · cases (repository.findByUsername request.username).filter
        (·.password = request.password) <;> rfl
  · rfl

theorem run_getProfile (ctx : RpcContext) (request : GetProfileRequest) :
    (getProfile repository ctx request : Watched (Env State) GetProfileResponse).run =
      TgwUserService.getProfile repository ctx request := by
  funext env
  unfold getProfile TgwUserService.getProfile
  rw [run_unlessTimeout]
  rcases fillTimeoutIfCancelled ctx env with ⟨_ | rpcMeta, env⟩
  · simp only
    cases repository.findById request.userId <;> rfl
  · rfl

theorem disciplined_login (ctx : RpcContext) (request : LoginRequest) :
    Disciplined Seen (fun env : Env State => env.state) (login repository ctx request) := by
  apply disciplined_unlessTimeout id
  split
  · exact (disciplined_answering id _ _ ctx _).orderly
  · split
    · exact (disciplined_answering id _ _ ctx _).orderly
    · exact (disciplined_answering id _ _ ctx _).orderly

theorem disciplined_getProfile (ctx : RpcContext) (request : GetProfileRequest) :
    Disciplined Seen (fun env : Env State => env.state) (getProfile repository ctx request) := by
  apply disciplined_unlessTimeout id
  split
  · exact (disciplined_answering id _ _ ctx _).orderly
  · exact (disciplined_answering id _ _ ctx _).orderly

end users

end TgwWatchedServices
