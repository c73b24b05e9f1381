import TgwGateway.Gateway.RenderedBodies
import TgwGateway.Gateway.WatchedLocalRpc
import TgwGateway.Governance.InnerCalls

/- A context that the local RPC client forwards is at most one call of a store, and a successful
   answer shows what the store has returned. -/
namespace TgwStoreForwarding
open ByteStrings TgwClock TgwConfig TgwExceptions TgwStatus TgwHttp TgwRpc TgwUserService
open TgwTaskService TgwFileMetaService TgwStoreRuns TgwLocalRpc TgwLocalRpcErrors TgwRenderedBodies
open TgwInnerCalls
open TgwWatchedLocalRpc (localServices)
variable {State : Type}

section calls

def settingOf (rpcCtx : RpcContext) (env : LocalRpcEnv Stores) : Setting :=
  ⟨rpcCtx, env.steady, env.system, env.deadline⟩

/-- The call that a context stands for at one of the store endpoints. -/
inductive Asks (ctx : ForwardContext) : StoreCall → Prop where
  | createTask {now : Int} {setting : Setting} {request : CreateTaskRequest}
      (endpoint : endpointOf ctx = some .createTask)
      (sent : createTaskRequest ctx (buildRpcContext ctx now) = .ok request) :
      Asks ctx (.createTask setting request)
  | getTask {setting : Setting} (endpoint : endpointOf ctx = some .getTask) :
      Asks ctx (.getTask setting (getTaskRequest ctx))
  | submitTaskEvent {setting : Setting} {event : TaskEvent}
      (endpoint : endpointOf ctx = some .submitTaskEvent) (sent : taskEvent ctx = .ok event) :
      Asks ctx (.submitTaskEvent setting event)
  | createFileMeta {now : Int} {setting : Setting} {request : CreateFileMetaRequest}
      (endpoint : endpointOf ctx = some .createFileMeta)
      (sent : createFileMetaRequest ctx (buildRpcContext ctx now) = .ok request) :
      Asks ctx (.createFileMeta setting request)
  | getFileMeta {setting : Setting} (endpoint : endpointOf ctx = some .getFileMeta) :
      Asks ctx (.getFileMeta setting (getFileMetaRequest ctx))

def UsesStore (ctx : ForwardContext) : Prop :=
  ∃ endpoint, endpointOf ctx = some endpoint ∧ endpoint ≠ .login ∧ endpoint ≠ .getProfile

def taskFields (task : TaskInfo) : Fields :=
  [(bytes "task_id", .text task.taskId), (bytes "task_type", .text task.taskType),
    (bytes "status", .integer task.status.number), (bytes "result", .text task.result),
    (bytes "user_id", .integer task.userId.toInt),
    (bytes "created_at", .integer task.createdAt.toInt),
    (bytes "updated_at", .integer task.updatedAt.toInt)]

def fileFields (file : FileMeta) : Fields :=
  [(bytes "file_id", .text file.fileId), (bytes "filename", .text file.filename),
    (bytes "size", .integer file.size.toInt), (bytes "content_type", .text file.contentType),
    (bytes "owner_user_id", .integer file.ownerUserId.toInt),
    (bytes "created_at", .integer file.createdAt.toInt)]

def shownFields : Answered → Fields
  | .createTask _ _ response => [(bytes "task_id", .text response.taskId)]
  | .getTask _ _ response => taskFields response.task
  | .submitTaskEvent _ event =>
    [(bytes "accepted", .truth), (bytes "task_id", .text event.taskId)]
  | .createFileMeta _ _ response => [(bytes "file_id", .text response.fileId)]
  | .getFileMeta _ _ response => fileFields response.file

/-- An event is answered without a code. -/
def Succeeded (answered : Answered) : Prop := ∀ code ∈ answered.code, code = .ok

/-- The answer is a success and its body shows what the store has returned. -/
structure ShowsAnswer (answered : Answered) (body : Bytes) : Prop where
  succeeded : Succeeded answered
  rendered : body = rendered 0 (bytes "ok") (some (shownFields answered))

def storesAfter (stores : Stores) (calls : List StoreCall) : Stores :=
  calls.foldl (fun stores call => (answer stores call).2) stores

/-- What one forwarded context does to the stores and what its answer says of them. -/
structure Stored (ctx : ForwardContext) (env : LocalRpcEnv Stores) (out : Handled Stores)
    (call : Option StoreCall) : Prop where
  stores : out.2.state.services = storesAfter env.state.services call.toList
  asks : ∀ own ∈ call, Asks ctx own
  onward : Onward env.system out.2.system
  shows : ∀ rsp, out.1 = .ok rsp → rsp.status = 200 → UsesStore ctx →
    ∃ own ∈ call, ShowsAnswer (answer env.state.services own).1 rsp.body

end calls

section time

theorem fillTimeout_system (ctx : RpcContext) (env : Env State) :
    (fillTimeoutIfCancelled ctx env).2.system = env.system := by
  unfold fillTimeoutIfCancelled
  extract_lets done filled
  split
  · exact Env.deadlineExceeded_system env
  · exact Env.deadlineExceeded_system env

def TimelyMethod {Request Response : Type} (method : RpcMethod State Request Response) : Prop :=
  ∀ ctx request env, Onward env.system (method ctx request env).2.system

theorem createTask_timely : TimelyMethod TgwTaskService.createTask := by
  intro ctx request env
  have early := onward_of_eq (fillTimeout_system ctx env)
  unfold TgwTaskService.createTask
  generalize fillTimeoutIfCancelled ctx env = start at early
  obtain ⟨timedOut, entry⟩ := start
  cases timedOut with
  | some rpcMeta => exact early
  | none =>
    simp only
    split
    · exact early
    · exact early.trans (onward_next _)

theorem getTask_timely : TimelyMethod TgwTaskService.getTask := by
  intro ctx request env
  have early := onward_of_eq (fillTimeout_system ctx env)
  unfold TgwTaskService.getTask
  generalize fillTimeoutIfCancelled ctx env = start at early
  obtain ⟨timedOut, entry⟩ := start
  cases timedOut with
  | some rpcMeta => exact early
  | none =>
    simp only
    split <;> exact early

theorem submitTaskEvent_timely (ctx : RpcContext) (event : TaskEvent) (env : Env TaskStore) :
    Onward env.system (TgwTaskService.submitTaskEvent ctx event env).system := by
  have early := onward_of_eq (Env.deadlineExceeded_system env)
  unfold TgwTaskService.submitTaskEvent
  extract_lets done
  split
  · exact early
  · split <;> exact early

theorem createFileMeta_timely : TimelyMethod TgwFileMetaService.createFileMeta := by
  intro ctx request env
  have early := onward_of_eq (fillTimeout_system ctx env)
  unfold TgwFileMetaService.createFileMeta
  generalize fillTimeoutIfCancelled ctx env = start at early
  obtain ⟨timedOut, entry⟩ := start
  cases timedOut with
  | some rpcMeta => exact early
  | none =>
    simp only
    split
    · exact early
    · exact early.trans (onward_next _)

theorem getFileMeta_timely : TimelyMethod TgwFileMetaService.getFileMeta := by
  intro ctx request env
  have early := onward_of_eq (fillTimeout_system ctx env)
  unfold TgwFileMetaService.getFileMeta
  generalize fillTimeoutIfCancelled ctx env = start at early
  obtain ⟨timedOut, entry⟩ := start
  cases timedOut with
  | some rpcMeta => exact early
  | none =>
    simp only
    split <;> exact early

theorem login_timely (repository : UserRepository) :
    TimelyMethod (TgwUserService.login repository : RpcMethod State _ _) := by
  intro ctx request env
  have early := onward_of_eq (fillTimeout_system ctx env)
  unfold TgwUserService.login
  generalize fillTimeoutIfCancelled ctx env = start at early
  obtain ⟨timedOut, entry⟩ := start
  cases timedOut with
  | some rpcMeta => exact early
  | none =>
    simp only
    split
    · exact early
    · split <;> exact early

theorem getProfile_timely (repository : UserRepository) :
    TimelyMethod (TgwUserService.getProfile repository : RpcMethod State _ _) := by
  intro ctx request env
  have early := onward_of_eq (fillTimeout_system ctx env)
  unfold TgwUserService.getProfile
  generalize fillTimeoutIfCancelled ctx env = start at early
  obtain ⟨timedOut, entry⟩ := start
  cases timedOut with
  | some rpcMeta => exact early
  | none =>
    simp only
    split <;> exact early

end time

section method
variable {Request : Type} {ctx : ForwardContext} {request : Except CppException Request}
  {call : Request → LocalRpcEnv State → HttpResponse × LocalRpcEnv State} {env : LocalRpcEnv State}

theorem callMethod_way :
    ((callMethod ctx request call env).2.state = env.state ∧
      (callMethod ctx request call env).2.system = env.system ∧
      ∀ rsp, (callMethod ctx request call env).1 = .ok rsp → rsp.status ≠ 200) ∨
    ∃ req entry, request = .ok req ∧ entry.state = env.state ∧ entry.system = env.system ∧
      callMethod ctx request call env = (.ok (call req entry).1, (call req entry).2) := by
  have late : ∀ rsp, (.ok (deadlineExceeded ctx) : Except CppException HttpResponse) = .ok rsp →
      rsp.status ≠ 200 := by
    intro rsp same
    cases same
    simp [deadlineExceeded, buildJsonResponse]
  unfold callMethod beforeDeadline
  cases first : env.deadlineExceeded.1 with
  | true =>
    exact Or.inl ⟨by simp [first], by simp [first, Env.cancelDeadline], by simpa [first] using late⟩
  | false =>
    cases request with
    | error e => exact Or.inl ⟨by simp [first], by simp [first], by simp [first]⟩
    | ok req =>
      cases second : env.deadlineExceeded.2.deadlineExceeded.1 with
      | true =>
        exact Or.inl ⟨by simp [first, second], by simp [first, second, Env.cancelDeadline],
          by simpa [first, second] using late⟩
      | false =>
        exact Or.inr ⟨req, env.deadlineExceeded.2.deadlineExceeded.2, rfl, by simp, by simp,
          by simp [first, second]⟩

end method

section endpoints
variable {ctx : ForwardContext} {env : LocalRpcEnv Stores}

theorem success_body (fields : Fields) :
    (ApiResponse.success (jsonObject (fields.map fun f => f.2.pair f.1))).toJson =
      rendered 0 (bytes "ok") (some fields) := by
  have nonempty : jsonObject (fields.map fun f => f.2.pair f.1) ≠ [] := by
    simp [jsonObject, keyFragments]
  simp only [ApiResponse.success, nonempty, ↓reduceIte]
  rfl

theorem rpc_success {rpcMeta : RpcMeta} (fields : Fields) {requestId : Bytes}
    (success : (buildRpcResponse rpcMeta (jsonObject (fields.map fun f => f.2.pair f.1))
      requestId).status = 200) :
    rpcMeta.code = .ok ∧
      (buildRpcResponse rpcMeta (jsonObject (fields.map fun f => f.2.pair f.1)) requestId).body =
        rendered 0 (bytes "ok") (some fields) := by
  unfold buildRpcResponse at success ⊢
  split
  · rename_i ok
    exact ⟨ok, success_body fields⟩
  · rename_i failed
    rw [if_neg failed] at success
    cases code : rpcMeta.code with
    | ok => exact absurd code failed
    | _ => simp [buildJsonResponse, code, mapHttpStatus] at success

theorem callMethod_stored {Request : Type} {request : Except CppException Request}
    {call : Request → LocalRpcEnv Stores → HttpResponse × LocalRpcEnv Stores}
    (made : Request → LocalRpcEnv Stores → StoreCall)
    (asks : ∀ req entry, request = .ok req → Asks ctx (made req entry))
    (stores : ∀ req entry, (call req entry).2.state.services =
      (answer entry.state.services (made req entry)).2)
    (onward : ∀ req entry, Onward entry.system (call req entry).2.system)
    (shows : ∀ req entry, (call req entry).1.status = 200 →
      ShowsAnswer (answer entry.state.services (made req entry)).1 (call req entry).1.body) :
    ∃ made, Stored ctx env (callMethod ctx request call env) made := by
  rcases callMethod_way with ⟨same, still, failed⟩ | ⟨req, entry, sent, same, still, ran⟩
  · exact ⟨none, by rw [same]; rfl, by simp, onward_of_eq still,
      fun rsp done success => absurd success (failed rsp done)⟩
  · refine ⟨some (made req entry), ?_, by simpa using asks req entry sent, ?_, ?_⟩
    · rw [ran]
      exact same ▸ stores req entry
    · rw [ran]
      exact still ▸ onward req entry
    · intro rsp done success _
      rw [ran] at done
      cases done
      exact ⟨_, rfl, same ▸ shows req entry success⟩

theorem callMethod_storeless {Request : Type} {request : Except CppException Request}
    {call : Request → LocalRpcEnv Stores → HttpResponse × LocalRpcEnv Stores}
    (unused : ¬ UsesStore ctx)
    (kept : ∀ req entry, (call req entry).2.state.services = entry.state.services ∧
      Onward entry.system (call req entry).2.system) :
    ∃ made, Stored ctx env (callMethod ctx request call env) made := by
  refine ⟨none, ?_, by simp, ?_, fun _ _ _ uses => absurd uses unused⟩
  · rcases callMethod_way with ⟨same, _⟩ | ⟨req, entry, _, same, _, ran⟩
    · rw [same]
      rfl
    · rw [ran, (kept req entry).1, same]
      rfl
  · rcases callMethod_way with ⟨_, still, _⟩ | ⟨req, entry, _, _, still, ran⟩
    · exact onward_of_eq still
    · rw [ran]
      exact still ▸ (kept req entry).2

section users
variable (repository : UserRepository) (tokenService : Option AuthConfig) (ctx : ForwardContext)
  (rpcCtx : RpcContext)

theorem login_kept (req : LoginRequest) (entry : LocalRpcEnv Stores) :
    (TgwLocalRpc.login (localServices repository tokenService) ctx rpcCtx req
      entry).2.state.services = entry.state.services ∧
    Onward entry.system (TgwLocalRpc.login (localServices repository tokenService) ctx rpcCtx req
      entry).2.system := by
  let part : Env Stores := ⟨entry.steady, entry.system, entry.deadline, entry.state.services⟩
  have kept := login_state repository rpcCtx part req
  have onward := login_timely repository rpcCtx req part
  unfold TgwLocalRpc.login
  extract_lets called rsp returned issued data
  unfold issued
  split
  · split
    · exact ⟨kept, onward.trans (onward_next _)⟩
    · exact ⟨kept, onward⟩
  · exact ⟨kept, onward⟩

theorem getProfile_kept (req : GetProfileRequest) (entry : LocalRpcEnv Stores) :
    (TgwLocalRpc.getProfile (localServices repository tokenService) ctx rpcCtx req
      entry).2.state.services = entry.state.services ∧
    Onward entry.system (TgwLocalRpc.getProfile (localServices repository tokenService) ctx rpcCtx
      req entry).2.system := by
  let part : Env Stores := ⟨entry.steady, entry.system, entry.deadline, entry.state.services⟩
  exact ⟨getProfile_state repository rpcCtx part req, getProfile_timely repository rpcCtx req part⟩

end users

theorem handleEndpoint_stored (repository : UserRepository) (tokenService : Option AuthConfig)
    (now : Int) {endpoint : Endpoint} (found : endpointOf ctx = some endpoint) :
    ∃ call, Stored ctx env (handleEndpoint (localServices repository tokenService) ctx
      (buildRpcContext ctx now) env endpoint) call := by
  let rpcCtx := buildRpcContext ctx now
  have ok : ∀ {code : RpcCode}, code = .ok → ∀ own ∈ some code, own = .ok :=
    fun same _ listed => Option.some.inj listed ▸ same
  cases endpoint with
  | createTask =>
    rw [handleEndpoint]
    refine callMethod_stored (fun req entry => .createTask (settingOf rpcCtx entry) req)
      (fun req entry sent => .createTask found sent) (fun _ _ => rfl)
      (fun req entry => createTask_timely rpcCtx req
        ((settingOf rpcCtx entry).env entry.state.services.tasks))
      fun req entry success => ?_
    obtain ⟨code, body⟩ := rpc_success [(bytes "task_id", .text _)] success
    exact ⟨ok code, body⟩
  | getTask =>
    rw [handleEndpoint]
    refine callMethod_stored (fun req entry => .getTask (settingOf rpcCtx entry) req)
      (fun req entry sent => by cases sent; exact .getTask found) (fun _ _ => rfl)
      (fun req entry => getTask_timely rpcCtx req
        ((settingOf rpcCtx entry).env entry.state.services.tasks))
      fun req entry success => ?_
    obtain ⟨code, body⟩ := rpc_success (taskFields (TgwTaskService.getTask rpcCtx req
      ((settingOf rpcCtx entry).env entry.state.services.tasks)).1.task) success
    exact ⟨ok code, body⟩
  | submitTaskEvent =>
    rw [handleEndpoint]
    refine callMethod_stored (fun event entry => .submitTaskEvent (settingOf rpcCtx entry) event)
      (fun event entry sent => .submitTaskEvent found sent) (fun _ _ => rfl)
      (fun event entry => submitTaskEvent_timely rpcCtx event
        ((settingOf rpcCtx entry).env entry.state.services.tasks))
      fun event entry _ => ?_
    exact ⟨fun _ none => absurd none (by simp [Answered.code, answer]),
      success_body [(bytes "accepted", .truth), (bytes "task_id", .text event.taskId)]⟩
  | createFileMeta =>
    rw [handleEndpoint]
    refine callMethod_stored (fun req entry => .createFileMeta (settingOf rpcCtx entry) req)
      (fun req entry sent => .createFileMeta found sent) (fun _ _ => rfl)
      (fun req entry => createFileMeta_timely rpcCtx req
        ((settingOf rpcCtx entry).env entry.state.services.files))
      fun req entry success => ?_
    obtain ⟨code, body⟩ := rpc_success [(bytes "file_id", .text _)] success
    exact ⟨ok code, body⟩
  | getFileMeta =>
    rw [handleEndpoint]
    refine callMethod_stored (fun req entry => .getFileMeta (settingOf rpcCtx entry) req)
      (fun req entry sent => by cases sent; exact .getFileMeta found) (fun _ _ => rfl)
      (fun req entry => getFileMeta_timely rpcCtx req
        ((settingOf rpcCtx entry).env entry.state.services.files))
      fun req entry success => ?_
    obtain ⟨code, body⟩ := rpc_success (fileFields (TgwFileMetaService.getFileMeta rpcCtx req
      ((settingOf rpcCtx entry).env entry.state.services.files)).1.file) success
    exact ⟨ok code, body⟩
  | login =>
    have unused : ¬ UsesStore ctx := by simp [UsesStore, found]
    exact callMethod_storeless unused
      fun req entry => login_kept repository tokenService ctx rpcCtx req entry
  | getProfile =>
    have unused : ¬ UsesStore ctx := by simp [UsesStore, found]
    exact callMethod_storeless unused
      fun req entry => getProfile_kept repository tokenService ctx rpcCtx req entry

theorem Stored.behind {entry : LocalRpcEnv Stores} {out : Handled Stores}
    {call : Option StoreCall} (stored : Stored ctx entry out call)
    (same : entry.state = env.state) (still : entry.system = env.system) :
    Stored ctx env out call :=
  ⟨same ▸ stored.stores, stored.asks, still ▸ stored.onward, same ▸ stored.shows⟩

theorem stored_none {out : Handled Stores} (same : out.2.state = env.state)
    (still : out.2.system = env.system) (failed : ∀ rsp, out.1 = .ok rsp → rsp.status ≠ 200) :
    Stored ctx env out none :=
  ⟨congrArg LocalRpcState.services same, by simp, onward_of_eq still,
    fun rsp done success => absurd success (failed rsp done)⟩

theorem dispatch_unnamed_system {services : LocalRpcServices State} {env : LocalRpcEnv State}
    (unnamed : endpointOf ctx = none) : (dispatch services ctx env).2.system = env.system := by
  unfold endpointOf at unnamed
  unfold dispatch forwardUserService forwardFileMetaService forwardTaskService
  split_ifs at unnamed ⊢ <;> rfl

theorem dispatch_stored (repository : UserRepository) (tokenService : Option AuthConfig) :
    ∃ call, Stored ctx env (dispatch (localServices repository tokenService) ctx env) call := by
  have entered := dispatch_endpoint (localServices repository tokenService) ctx env
  cases found : endpointOf ctx with
  | none =>
    have still : (dispatch (localServices repository tokenService) ctx env).2.system = env.system :=
      dispatch_unnamed_system found
    rw [found] at entered
    obtain ⟨message, after, answered, same⟩ := entered
    rw [answered] at still ⊢
    refine ⟨none, stored_none same still fun rsp done => ?_⟩
    cases done
    simp [notFound, buildJsonResponse]
  | some endpoint =>
    simp only [found] at entered
    rw [entered]
    obtain ⟨call, stored⟩ : ∃ call, Stored ctx env.tick (handleEndpoint
        (localServices repository tokenService) ctx (buildRpcContext ctx env.now) env.tick endpoint)
        call := handleEndpoint_stored repository tokenService env.now found
    exact ⟨call, stored.behind rfl rfl⟩

/-- Whatever a context asks for, the local client makes one call of a store at most. -/
theorem forward_stored (repository : UserRepository) (tokenService : Option AuthConfig)
    (ctx : ForwardContext) (env : LocalRpcEnv Stores) :
    ∃ call, Stored ctx env (.ok (forward (localServices repository tokenService) ctx env).1,
      (forward (localServices repository tokenService) ctx env).2) call := by
  have handled : ∃ call, Stored ctx env (beforeDeadline ctx
      (dispatch (localServices repository tokenService) ctx) env) call := by
    unfold beforeDeadline
    simp only
    split
    · refine ⟨none, stored_none (by simp) (by simp [Env.cancelDeadline]) fun rsp done => ?_⟩
      cases done
      simp [deadlineExceeded, buildJsonResponse]
    · obtain ⟨call, stored⟩ := dispatch_stored repository tokenService
      exact ⟨call, stored.behind (by simp) (by simp)⟩
  obtain ⟨call, stored⟩ := handled
  unfold forward
  generalize beforeDeadline ctx (dispatch (localServices repository tokenService) ctx) env = out
    at stored
  have failing : ∀ status code message, status ≠ 200 →
      Stored ctx env (.ok (buildJsonResponse status (ApiResponse.error code message) ctx.requestId),
        out.2) call := fun status code message failed =>
    ⟨stored.stores, stored.asks, stored.onward, fun rsp done success => by
      cases done
      exact absurd success failed⟩
  split
  · exact ⟨call, stored⟩
  · exact ⟨call, failing 400 _ _ (by decide)⟩
  · exact ⟨call, failing 500 _ _ (by decide)⟩

end endpoints

end TgwStoreForwarding
