import TgwGateway.Gateway.LocalRpcErrors
import TgwGateway.Service.StoreRuns
import TgwGateway.Service.WatchedServices

/- The local RPC client ended the services of the process, with the deadline checks on the path of
   a request listed. -/
namespace TgwWatchedLocalRpc
open ByteStrings WatchedRuns Watched TgwClock TgwWatchedDeadline TgwConfig TgwExceptions
open TgwHttp TgwRpc
open TgwTaskService TgwFileMetaService TgwUserService TgwStoreRuns TgwLocalRpc
open TgwLocalRpcErrors TgwWatchedServices
variable {State Request Response : Type}

def localServices (repository : UserRepository) (tokenService : Option AuthConfig) :
    LocalRpcServices Stores where
  userService := userServiceImpl repository
  fileMetaService :=
    { createFileMeta := fun ctx request env =>
        env.onPart Stores.files (fun files s => { s with files := files })
          (fileMetaServiceImpl.createFileMeta ctx request)
      getFileMeta := fun ctx request env =>
        env.onPart Stores.files (fun files s => { s with files := files })
          (fileMetaServiceImpl.getFileMeta ctx request) }
  taskService :=
    { createTask := fun ctx request env =>
        env.onPart Stores.tasks (fun tasks s => { s with tasks := tasks })
          (taskServiceImpl.createTask ctx request)
      getTask := fun ctx request env =>
        env.onPart Stores.tasks (fun tasks s => { s with tasks := tasks })
          (taskServiceImpl.getTask ctx request)
      submitTaskEvent := fun ctx event env =>
        (env.onPart Stores.tasks (fun tasks s => { s with tasks := tasks })
          fun env => ((), taskServiceImpl.submitTaskEvent ctx event env)).2 }
  tokenService := tokenService

def onTasks (m : Watched (Env TaskStore) Response) : Watched (Env Stores) Response :=
  onState Stores.tasks (fun tasks s => { s with tasks := tasks }) m

def onFiles (m : Watched (Env FileStore) Response) : Watched (Env Stores) Response :=
  onState Stores.files (fun files s => { s with files := files }) m

theorem run_onTasks (m : Watched (Env TaskStore) Response) :
    (onTasks m).run =
      fun env => env.onPart Stores.tasks (fun tasks s => { s with tasks := tasks }) m.run := rfl

theorem run_onFiles (m : Watched (Env FileStore) Response) :
    (onFiles m).run =
      fun env => env.onPart Stores.files (fun files s => { s with files := files }) m.run := rfl

theorem disciplined_onTasks {m : Watched (Env TaskStore) Response}
    (inner : Disciplined Seen Env.state m) : Disciplined Seen Env.state (onTasks m) :=
  disciplined_onState id id _ _
    (fun p q s agree => by rw [show p = q from agree]) (fun _ => rfl) inner

theorem disciplined_onFiles {m : Watched (Env FileStore) Response}
    (inner : Disciplined Seen Env.state m) : Disciplined Seen Env.state (onFiles m) :=
  disciplined_onState id id _ _
    (fun p q s agree => by rw [show p = q from agree]) (fun _ => rfl) inner

/-- What the requests of one process must not change once their deadline is ended. -/
def stores (env : LocalRpcEnv Stores) : Stores := env.state.services

/-- A service method and the response that is built once it has answered; the rest of the call
   makes no check. -/
def throughService (method : Watched (Env Stores) Response)
    (build : (Env Stores → Response × Env Stores) → LocalRpcEnv Stores →
      HttpResponse × LocalRpcEnv Stores) : Watched (LocalRpcEnv Stores) HttpResponse := do
  let response ← onState LocalRpcState.services (fun services s => { s with services := services })
    method
  step (build fun env => (response, env))

def beforeDeadline (ctx : ForwardContext)
    (next : Watched (LocalRpcEnv Stores) (Except CppException HttpResponse)) :
    Watched (LocalRpcEnv Stores) (Except CppException HttpResponse) := do
  if ← check Env.deadlineExceeded then
    cancel (bytes "deadline exceeded")
    return .ok (TgwLocalRpc.deadlineExceeded ctx)
  else next

def callMethod (ctx : ForwardContext) (request : Except CppException Request)
    (call : Request → Watched (LocalRpcEnv Stores) HttpResponse) :
    Watched (LocalRpcEnv Stores) (Except CppException HttpResponse) :=
  beforeDeadline ctx <|
    match request with
    | .error e => return .error e
    | .ok req => beforeDeadline ctx do return .ok (← call req)

section endpoints
variable (repository : UserRepository) (tokenService : Option AuthConfig)

def handleEndpoint (ctx : ForwardContext) (rpcCtx : RpcContext) :
    Endpoint → Watched (LocalRpcEnv Stores) (Except CppException HttpResponse)
  | .login =>
    callMethod ctx (loginRequest ctx) fun req =>
      throughService (login repository rpcCtx req) fun answer =>
        let services := localServices repository tokenService
        TgwLocalRpc.login
          { services with userService := { services.userService with login := fun _ _ => answer } }
          ctx rpcCtx req
  | .getProfile =>
    callMethod ctx (getProfileRequest ctx rpcCtx) fun req =>
      throughService (getProfile repository rpcCtx req) fun answer =>
        let services := localServices repository tokenService
        TgwLocalRpc.getProfile
          { services with
            userService := { services.userService with getProfile := fun _ _ => answer } }
          ctx rpcCtx req
  | .createFileMeta =>
    callMethod ctx (createFileMetaRequest ctx rpcCtx) fun req =>
      throughService (onFiles (createFileMeta rpcCtx req)) fun answer =>
        let services := localServices repository tokenService
        TgwLocalRpc.createFileMeta
          { services with
            fileMetaService :=
              { services.fileMetaService with createFileMeta := fun _ _ => answer } }
          ctx rpcCtx req
  | .getFileMeta =>
    callMethod ctx (.ok (getFileMetaRequest ctx)) fun req =>
      throughService (onFiles (getFileMeta rpcCtx req)) fun answer =>
        let services := localServices repository tokenService
        TgwLocalRpc.getFileMeta
          { services with
            fileMetaService := { services.fileMetaService with getFileMeta := fun _ _ => answer } }
          ctx rpcCtx req
  | .createTask =>
    callMethod ctx (createTaskRequest ctx rpcCtx) fun req =>
      throughService (onTasks (createTask rpcCtx req)) fun answer =>
        let services := localServices repository tokenService
        TgwLocalRpc.createTask
          { services with
            taskService := { services.taskService with createTask := fun _ _ => answer } }
          ctx rpcCtx req
  | .getTask =>
    callMethod ctx (.ok (getTaskRequest ctx)) fun req =>
      throughService (onTasks (getTask rpcCtx req)) fun answer =>
        let services := localServices repository tokenService
        TgwLocalRpc.getTask
          { services with taskService := { services.taskService with getTask := fun _ _ => answer } }
          ctx rpcCtx req
  | .submitTaskEvent =>
    callMethod ctx (taskEvent ctx) fun event =>
      throughService (onTasks (submitTaskEvent event)) fun answer =>
        let services := localServices repository tokenService
        TgwLocalRpc.submitTaskEvent
          { services with
            taskService :=
              { services.taskService with submitTaskEvent := fun _ _ env => (answer env).2 } }
          ctx rpcCtx event

/-- A context that names no method is answered without a further check. -/
def dispatch (ctx : ForwardContext) :
    Watched (LocalRpcEnv Stores) (Except CppException HttpResponse) :=
  match endpointOf ctx with
  | some endpoint => do
    let rpcCtx ← step fun env => (buildRpcContext ctx env.now, env.tick)
    handleEndpoint repository tokenService ctx rpcCtx endpoint
  | none => step (TgwLocalRpc.dispatch (localServices repository tokenService) ctx)

def forward (ctx : ForwardContext) : Watched (LocalRpcEnv Stores) HttpResponse := do
  match ← beforeDeadline ctx (dispatch repository tokenService ctx) with
  | .ok response => return response
  | .error (.invalidArgument what) => return badRequest what ctx.requestId
  | .error e => return internalError e.what ctx.requestId

theorem run_beforeDeadline (ctx : ForwardContext)
    (next : Watched (LocalRpcEnv Stores) (Except CppException HttpResponse)) :
    (beforeDeadline ctx next).run = TgwLocalRpc.beforeDeadline ctx next.run := by
  funext env
  cases done : env.deadlineExceeded.1 with
  | true => simp [beforeDeadline, TgwLocalRpc.beforeDeadline, done, cancel]
  | false => simp [beforeDeadline, TgwLocalRpc.beforeDeadline, done]

theorem run_callMethod (ctx : ForwardContext) (request : Except CppException Request)
    (call : Request → Watched (LocalRpcEnv Stores) HttpResponse) :
    (callMethod ctx request call).run =
      TgwLocalRpc.callMethod ctx request fun req => (call req).run := by
  unfold callMethod TgwLocalRpc.callMethod
  rw [run_beforeDeadline]
  cases request with
  | error e => rfl
  | ok req =>
    simp only [run_beforeDeadline]
    rfl

theorem run_method (ctx : ForwardContext) (request : Except CppException Request)
    {method : Request → Watched (Env Stores) Response}
    {build : Request → (Env Stores → Response × Env Stores) → LocalRpcEnv Stores →
      HttpResponse × LocalRpcEnv Stores}
    {call : Request → LocalRpcEnv Stores → HttpResponse × LocalRpcEnv Stores}
    (reads : ∀ req answer (env : LocalRpcEnv Stores), build req answer env =
      build req (fun inner => ((onServices answer env).1, inner)) (onServices answer env).2)
    (own : ∀ req, build req (method req).run = call req) :
    (callMethod ctx request fun req => throughService (method req) (build req)).run =
      TgwLocalRpc.callMethod ctx request call := by
  have through : ∀ req, (throughService (method req) (build req)).run = call req := by
    intro req
    funext env
    rw [← own req, reads req (method req).run env]
    rfl
  rw [run_callMethod]
  simp only [through]

theorem run_handleEndpoint (ctx : ForwardContext) (rpcCtx : RpcContext) (env : LocalRpcEnv Stores)
    (endpoint : Endpoint) :
    (handleEndpoint repository tokenService ctx rpcCtx endpoint).run env =
      TgwLocalRpcErrors.handleEndpoint (localServices repository tokenService) ctx rpcCtx env
        endpoint := by
  cases endpoint with
  | login =>
    refine congrFun (run_method ctx _ ?_ ?_) env
    · exact fun _ _ _ => rfl
    · intro req
      rw [run_login]
      unfold TgwLocalRpc.login
      rfl
  | getProfile =>
    refine congrFun (run_method ctx _ ?_ ?_) env
    · exact fun _ _ _ => rfl
    · intro req
      rw [run_getProfile]
      unfold TgwLocalRpc.getProfile
      rfl
  | createFileMeta =>
    refine congrFun (run_method ctx _ ?_ ?_) env
    · exact fun _ _ _ => rfl
    · intro req
      rw [run_onFiles, run_createFileMeta]
      unfold TgwLocalRpc.createFileMeta
      rfl
  | getFileMeta =>
    refine congrFun (run_method ctx _ ?_ ?_) env
    · exact fun _ _ _ => rfl
    · intro req
      rw [run_onFiles, run_getFileMeta]
      unfold TgwLocalRpc.getFileMeta
      rfl
  | createTask =>
    refine congrFun (run_method ctx _ ?_ ?_) env
    · exact fun _ _ _ => rfl
    · intro req
      rw [run_onTasks, run_createTask]
      unfold TgwLocalRpc.createTask
      rfl
  | getTask =>
    refine congrFun (run_method ctx _ ?_ ?_) env
    · exact fun _ _ _ => rfl
    · intro req
      rw [run_onTasks, run_getTask]
      unfold TgwLocalRpc.getTask
      rfl
  | submitTaskEvent =>
    refine congrFun (run_method ctx _ ?_ ?_) env
    · exact fun _ _ _ => rfl
    · intro event
      have run := funext (run_submitTaskEvent rpcCtx event)
      rw [run_onTasks, run]
      unfold TgwLocalRpc.submitTaskEvent
      rfl

theorem run_dispatch (ctx : ForwardContext) :
    (dispatch repository tokenService ctx).run =
      TgwLocalRpc.dispatch (localServices repository tokenService) ctx := by
  funext env
  have named := dispatch_endpoint (localServices repository tokenService) ctx env
  unfold dispatch
  cases found : endpointOf ctx with
  | none => rfl
  | some endpoint =>
    simp only [found] at named
    rw [run_bind]
    exact (run_handleEndpoint repository tokenService ctx (buildRpcContext ctx env.now) env.tick
      endpoint).trans named.symm

/-- Without its checks listed the client is the local RPC client. -/
theorem run_forward (ctx : ForwardContext) :
    (forward repository tokenService ctx).run =
      TgwLocalRpc.forward (localServices repository tokenService) ctx := by
  funext env
  unfold forward TgwLocalRpc.forward
  rw [run_bind, run_beforeDeadline, run_dispatch]
  rcases TgwLocalRpc.beforeDeadline ctx
    (TgwLocalRpc.dispatch (localServices repository tokenService) ctx) env with ⟨answer, env⟩
  rcases answer with (what | what | what | what) | response <;> rfl

theorem disciplined_throughService {method : Watched (Env Stores) Response}
    {build : (Env Stores → Response × Env Stores) → LocalRpcEnv Stores →
      HttpResponse × LocalRpcEnv Stores}
    (inner : Disciplined Seen Env.state method)
    (builds : ∀ response (env : LocalRpcEnv Stores),
      (build (fun inner => (response, inner)) env).2.steady = env.steady ∧
      (build (fun inner => (response, inner)) env).2.deadline = env.deadline ∧
      stores (build (fun inner => (response, inner)) env).2 = stores env) :
    Disciplined Seen stores (throughService method build) := by
  apply disciplined_bind
  · exact disciplined_onState LocalRpcState.services id _ _
      (fun p q s agree => agree) (fun _ => rfl) inner
  · intro response
    apply disciplined_step
    intro env
    obtain ⟨steady, deadline, same⟩ := builds response env
    refine ⟨same, fun raised => ?_⟩
    obtain ⟨d, own, ended⟩ := raised
    exact ⟨d, deadline.trans own, by rwa [steady]⟩

theorem disciplined_beforeDeadline (ctx : ForwardContext)
    {next : Watched (LocalRpcEnv Stores) (Except CppException HttpResponse)}
    (orderly : Orderly Seen stores next) :
    Disciplined Seen stores (beforeDeadline ctx next) := by
  apply disciplined_guard (deadline_probes LocalRpcState.services) _ orderly
  exact quiet_bind (disciplined_cancel LocalRpcState.services _).quiet
    fun _ => (disciplined_pure _).quiet

theorem disciplined_callMethod (ctx : ForwardContext) (request : Except CppException Request)
    {call : Request → Watched (LocalRpcEnv Stores) HttpResponse}
    (inner : ∀ req, Disciplined Seen stores (call req)) :
    Disciplined Seen stores (callMethod ctx request call) := by
  apply disciplined_beforeDeadline
  cases request with
  | error e => exact (disciplined_pure _).orderly
  | ok req =>
    apply Disciplined.orderly
    apply disciplined_beforeDeadline
    exact (disciplined_bind (inner req) fun _ => disciplined_pure _).orderly

theorem disciplined_handleEndpoint (ctx : ForwardContext) (rpcCtx : RpcContext)
    (endpoint : Endpoint) :
    Disciplined Seen stores (handleEndpoint repository tokenService ctx rpcCtx endpoint) := by
  cases endpoint with
  | login =>
    apply disciplined_callMethod
    intro req
    apply disciplined_throughService (disciplined_login repository rpcCtx req)
    intro response env
    unfold TgwLocalRpc.login
    cases tokenService with
    | none => exact ⟨rfl, rfl, rfl⟩
    | some config =>
      simp only [localServices]
      split <;> exact ⟨rfl, rfl, rfl⟩
  | getProfile =>
    apply disciplined_callMethod
    intro req
    exact disciplined_throughService (disciplined_getProfile repository rpcCtx req)
      fun _ _ => ⟨rfl, rfl, rfl⟩
  | createFileMeta =>
    apply disciplined_callMethod
    intro req
    exact disciplined_throughService (disciplined_onFiles (disciplined_createFileMeta rpcCtx req))
      fun _ _ => ⟨rfl, rfl, rfl⟩
  | getFileMeta =>
    unfold handleEndpoint
    apply disciplined_callMethod
    intro req
    exact disciplined_throughService (disciplined_onFiles (disciplined_getFileMeta rpcCtx req))
      fun _ _ => ⟨rfl, rfl, rfl⟩
  | createTask =>
    apply disciplined_callMethod
    intro req
    exact disciplined_throughService (disciplined_onTasks (disciplined_createTask rpcCtx req))
      fun _ _ => ⟨rfl, rfl, rfl⟩
  | getTask =>
    unfold handleEndpoint
    apply disciplined_callMethod
    intro req
    exact disciplined_throughService (disciplined_onTasks (disciplined_getTask rpcCtx req))
      fun _ _ => ⟨rfl, rfl, rfl⟩
  | submitTaskEvent =>
    apply disciplined_callMethod
    intro event
    exact disciplined_throughService (disciplined_onTasks (disciplined_submitTaskEvent event))
      fun _ _ => ⟨rfl, rfl, rfl⟩

theorem disciplined_dispatch (ctx : ForwardContext) :
    Disciplined Seen stores (dispatch repository tokenService ctx) := by
  unfold dispatch
  cases found : endpointOf ctx with
  | some endpoint =>
    apply disciplined_bind
    · exact disciplined_step fun _ => ⟨rfl, seen_tick⟩
    · exact fun rpcCtx => disciplined_handleEndpoint repository tokenService ctx rpcCtx endpoint
  | none =>
    apply disciplined_step
    intro env
    unfold endpointOf at found
    unfold TgwLocalRpc.dispatch forwardUserService forwardFileMetaService forwardTaskService
    split_ifs at found ⊢ <;> first | exact ⟨rfl, seen_tick⟩ | exact ⟨rfl, id⟩

theorem disciplined_forward (ctx : ForwardContext) :
    Disciplined Seen stores (forward repository tokenService ctx) := by
  apply disciplined_bind
  · exact disciplined_beforeDeadline ctx (disciplined_dispatch repository tokenService ctx).orderly
  · intro answer
    split <;> exact disciplined_pure _

end endpoints

end TgwWatchedLocalRpc
