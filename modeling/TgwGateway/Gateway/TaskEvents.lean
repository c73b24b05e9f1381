import TgwGateway.Gateway.WatchedLocalRpc

/- The task store over any requests to the local RPC client. An event is stored with the status and
   the time its body claims. -/
namespace TgwTaskEvents
open ByteStrings MachineInt TgwClock TgwConfig TgwExceptions TgwHttp TgwRpc TgwTaskService
open TgwUserService TgwFileMetaService TgwStoreRuns TgwLocalRpc TgwLocalRpcErrors
open TgwWatchedLocalRpc (localServices)
variable {State : Type}

/-- One of the values that task.proto declares. -/
def Declared (status : TaskStatus) : Prop := ∀ number, status ≠ .undeclared number

/-- The event of a request gets to a stored task before the deadline of the request ends. -/
structure Reaches (ctx : ForwardContext) (env : LocalRpcEnv Stores) (event : TaskEvent)
    (task : TaskInfo) : Prop where
  endpoint : endpointOf ctx = some .submitTaskEvent
  sent : taskEvent ctx = .ok event
  live : env.OpenFor 5
  known : env.state.services.tasks.tasks[event.taskId]? = some task

/-- What one request does to the task store. -/
inductive TaskEffect (ctx : ForwardContext) (env : LocalRpcEnv Stores) (after : TaskStore) :
    Prop where
  | kept (same : after = env.state.services.tasks)
      (unreached : ∀ event task, ¬ Reaches ctx env event task)
  | created (endpoint : endpointOf ctx = some .createTask) (request : CreateTaskRequest)
      (taskId : Bytes) (now : Int64) (stored : after.tasks =
        env.state.services.tasks.tasks.insert taskId (newTask request taskId now))
  | changed (event : TaskEvent) (task : TaskInfo) (reaches : Reaches ctx env event task)
      (stored : after.tasks =
        env.state.services.tasks.tasks.insert event.taskId (withEvent event task))

section method
variable {Request : Type} {ctx : ForwardContext} {request : Except CppException Request}
  {call : Request → LocalRpcEnv State → HttpResponse × LocalRpcEnv State} {env : LocalRpcEnv State}

theorem callMethod_cases :
    ((callMethod ctx request call env).2.state = env.state ∧
      ∀ req, request = .ok req → ¬ env.OpenFor 2) ∨
    ∃ req entry, request = .ok req ∧ entry.state = env.state ∧
      (∀ readings, entry.OpenFor readings ↔ env.OpenFor (readings + 2)) ∧
      (callMethod ctx request call env).2 = (call req entry).2 := by
  unfold callMethod beforeDeadline
  cases first : env.deadlineExceeded.1 with
  | true =>
    refine Or.inl ⟨by simp [first], fun req _ isOpen => ?_⟩
    rw [(Env.openFor_deadlineExceeded isOpen).1] at first
    cases first
  | false =>
    cases request with
    | error e => exact Or.inl ⟨by simp [first], by simp⟩
    | ok req =>
      cases second : env.deadlineExceeded.2.deadlineExceeded.1 with
      | true =>
        refine Or.inl ⟨by simp [first, second], fun _ _ isOpen => ?_⟩
        rw [(Env.openFor_deadlineExceeded (Env.openFor_deadlineExceeded isOpen).2).1] at second
        cases second
      | false =>
        refine Or.inr ⟨req, env.deadlineExceeded.2.deadlineExceeded.2, rfl, by simp, ?_, ?_⟩
        · exact fun readings => (Env.openFor_passed second).trans (Env.openFor_passed first)
        · simp [first, second]

end method

section endpoints
variable (repository : UserRepository) (tokenService : Option AuthConfig) (ctx : ForwardContext)
  (rpcCtx : RpcContext) (env : LocalRpcEnv Stores)

theorem callMethod_tasks {Request : Type} {request : Except CppException Request}
    {call : Request → LocalRpcEnv Stores → HttpResponse × LocalRpcEnv Stores}
    (keeps : ∀ req entry, (call req entry).2.state.services.tasks = entry.state.services.tasks) :
    (callMethod ctx request call env).2.state.services.tasks = env.state.services.tasks := by
  rcases callMethod_cases with ⟨same, _⟩ | ⟨req, entry, _, same, _, ran⟩
  · rw [same]
  · rw [ran, keeps, same]

theorem login_tasks (req : LoginRequest) (entry : LocalRpcEnv Stores) :
    (TgwLocalRpc.login (localServices repository tokenService) ctx rpcCtx req
      entry).2.state.services.tasks = entry.state.services.tasks := by
  have kept := login_state repository rpcCtx
    ⟨entry.steady, entry.system, entry.deadline, entry.state.services⟩ req
  unfold TgwLocalRpc.login
  cases (localServices repository tokenService).tokenService with
  | none => exact congrArg Stores.tasks kept
  | some config =>
    simp only
    split <;> exact congrArg Stores.tasks kept

theorem handleEndpoint_tasks {endpoint : Endpoint} (create : endpoint ≠ .createTask)
    (submit : endpoint ≠ .submitTaskEvent) :
    (handleEndpoint (localServices repository tokenService) ctx rpcCtx env
      endpoint).2.state.services.tasks = env.state.services.tasks := by
  cases endpoint with
  | createTask => exact absurd rfl create
  | submitTaskEvent => exact absurd rfl submit
  | login => exact callMethod_tasks ctx env (login_tasks repository tokenService ctx rpcCtx)
  | getProfile =>
    refine callMethod_tasks ctx env fun req entry => ?_
    exact congrArg Stores.tasks (getProfile_state repository rpcCtx _ req)
  | createFileMeta => exact callMethod_tasks ctx env fun _ _ => rfl
  | getFileMeta => exact callMethod_tasks ctx env fun _ _ => rfl
  | getTask =>
    refine callMethod_tasks ctx env fun req entry => ?_
    exact (getTask_cases rpcCtx _ req).1

theorem createTask_effect :
    (handleEndpoint (localServices repository tokenService) ctx rpcCtx env
        .createTask).2.state.services.tasks = env.state.services.tasks ∨
      ∃ request taskId now,
        (handleEndpoint (localServices repository tokenService) ctx rpcCtx env
          .createTask).2.state.services.tasks.tasks =
            env.state.services.tasks.tasks.insert taskId (newTask request taskId now) := by
  rw [handleEndpoint]
  rcases callMethod_cases with ⟨same, _⟩ | ⟨req, entry, _, same, _, ran⟩
  · exact Or.inl (congrArg (fun s : LocalRpcState Stores => s.services.tasks) same)
  · rw [ran, ← same]
    have cases := TgwTaskService.createTask_cases rpcCtx
      ⟨entry.steady, entry.system, entry.deadline, entry.state.services.tasks⟩ req
    rcases cases with ⟨_, _, kept⟩ | ⟨_, _, _, kept⟩ | ⟨_, _, _, _, stored⟩
    · exact Or.inl kept
    · exact Or.inl kept
    · exact Or.inr ⟨req, _, _, congrArg TaskStore.tasks stored⟩

theorem submitTaskEvent_effect :
    ((handleEndpoint (localServices repository tokenService) ctx rpcCtx env
        .submitTaskEvent).2.state.services.tasks = env.state.services.tasks ∧
      ∀ event task, taskEvent ctx = .ok event →
        env.state.services.tasks.tasks[event.taskId]? = some task → ¬ env.OpenFor 3) ∨
      ∃ event task, taskEvent ctx = .ok event ∧ env.OpenFor 3 ∧
        env.state.services.tasks.tasks[event.taskId]? = some task ∧
        (handleEndpoint (localServices repository tokenService) ctx rpcCtx env
          .submitTaskEvent).2.state.services.tasks.tasks =
            env.state.services.tasks.tasks.insert event.taskId (withEvent event task) := by
  rw [handleEndpoint]
  rcases callMethod_cases with ⟨same, stopped⟩ | ⟨event, entry, sent, same, later, ran⟩
  · refine Or.inl ⟨congrArg (fun s : LocalRpcState Stores => s.services.tasks) same, ?_⟩
    intro event task sent _ isOpen
    exact stopped event sent (Env.openFor_fewer (by omega) isOpen)
  · rw [ran, ← same]
    let part : Env TaskStore :=
      ⟨entry.steady, entry.system, entry.deadline, entry.state.services.tasks⟩
    have live : part.deadlineExceeded.1 = false ↔ env.OpenFor 3 :=
      Env.openFor_one_iff.symm.trans (later 1)
    have cases := TgwTaskService.submitTaskEvent_cases rpcCtx part event
    rcases cases with ⟨ended, kept⟩ | ⟨_, unknown, kept⟩ | ⟨task, stands, known, stored⟩
    · refine Or.inl ⟨kept, fun _ _ _ _ isOpen => ?_⟩
      rw [live.mpr isOpen] at ended
      cases ended
    · refine Or.inl ⟨kept, fun other task sent' known _ => ?_⟩
      obtain rfl : event = other := Except.ok.inj (sent.symm.trans sent')
      rw [unknown] at known
      cases known
    · exact Or.inr ⟨event, task, sent, live.mp stands, known, congrArg TaskStore.tasks stored⟩

theorem handleEndpoint_effect {endpoint : Endpoint} (found : endpointOf ctx = some endpoint)
    {entry : LocalRpcEnv Stores} (same : entry.state = env.state)
    (live : entry.OpenFor 3 ↔ env.OpenFor 5) :
    TaskEffect ctx env (handleEndpoint (localServices repository tokenService) ctx rpcCtx entry
      endpoint).2.state.services.tasks := by
  by_cases create : endpoint = .createTask
  · subst create
    rcases createTask_effect repository tokenService ctx rpcCtx entry with
      kept | ⟨request, taskId, now, stored⟩
    · refine .kept (by rw [kept, same]) fun event task reaches => ?_
      rw [reaches.endpoint] at found
      cases found
    · exact .created found request taskId now (by rw [stored, same])
  · by_cases submit : endpoint = .submitTaskEvent
    · subst submit
      rcases submitTaskEvent_effect repository tokenService ctx rpcCtx entry with
        ⟨kept, ended⟩ | ⟨event, task, sent, isOpen, known, stored⟩
      · refine .kept (by rw [kept, same]) fun event task reaches => ?_
        exact ended event task reaches.sent (by rw [same]; exact reaches.known)
          (live.mpr reaches.live)
      · rw [same] at known stored
        exact .changed event task ⟨found, sent, live.mp isOpen, known⟩ stored
    · refine .kept ?_ fun event task reaches => ?_
      · rw [handleEndpoint_tasks repository tokenService ctx rpcCtx entry create submit, same]
      · rw [reaches.endpoint] at found
        exact submit (Option.some.inj found).symm

theorem forward_effect : TaskEffect ctx env
    (forward (localServices repository tokenService) ctx env).2.state.services.tasks := by
  rw [forward_env]
  cases first : env.deadlineExceeded.1 with
  | true =>
    refine .kept (by simp [beforeDeadline, first]) fun event task reaches => ?_
    rw [(Env.openFor_deadlineExceeded reaches.live).1] at first
    cases first
  | false =>
    have live : env.deadlineExceeded.2.tick.OpenFor 3 ↔ env.OpenFor 5 :=
      Env.openFor_tick_iff.trans (Env.openFor_passed first)
    have same : env.deadlineExceeded.2.tick.state = env.state := by simp
    have entered : beforeDeadline ctx (dispatch (localServices repository tokenService) ctx) env =
        dispatch (localServices repository tokenService) ctx env.deadlineExceeded.2 := by
      simp [beforeDeadline, first]
    have dispatched := dispatch_endpoint (localServices repository tokenService) ctx
      env.deadlineExceeded.2
    rw [entered]
    cases found : endpointOf ctx with
    | none =>
      rw [found] at dispatched
      obtain ⟨message, after, answer, kept⟩ := dispatched
      rw [answer]
      refine .kept (by simp [kept]) fun event task reaches => ?_
      rw [reaches.endpoint] at found
      cases found
    | some endpoint =>
      simp only [found] at dispatched
      rw [dispatched]
      exact handleEndpoint_effect repository tokenService ctx _ env found same live

end endpoints

/-- A stored task is in a declared status and was last updated when it was created or later. -/
structure LawfulTask (task : TaskInfo) : Prop where
  declared : Declared task.status
  ordered : task.createdAt ≤ task.updatedAt

section runs
variable (repository : UserRepository) (tokenService : Option AuthConfig)

/-- One request; its deadline comes with its context. -/
def serve (env : LocalRpcEnv Stores) (ctx : ForwardContext) : LocalRpcEnv Stores :=
  (forward (localServices repository tokenService) ctx { env with deadline := ctx.deadline }).2

def serveAll (env : LocalRpcEnv Stores) (calls : List ForwardContext) : LocalRpcEnv Stores :=
  calls.foldl (serve repository tokenService) env

def freshClient (steady : SteadyClock) (system : SystemClock) : LocalRpcEnv Stores where
  steady := steady
  system := system
  deadline := none
  state := { services := {} }

def tasksOf (env : LocalRpcEnv Stores) : ByteMap TaskInfo := env.state.services.tasks.tasks

/-- All states of the run hold lawful tasks only, and no event sets a task back. -/
structure TaskLaws (env : LocalRpcEnv Stores) (calls : List ForwardContext) : Prop where
  stored : ∀ earlier later, calls = earlier ++ later → ∀ (taskId : Bytes) (task : TaskInfo),
    (tasksOf (serveAll repository tokenService env earlier))[taskId]? = some task → LawfulTask task
  onward : ∀ earlier ctx later, calls = earlier ++ ctx :: later →
    endpointOf ctx = some .submitTaskEvent → ∀ (taskId : Bytes) (before after : TaskInfo),
      (tasksOf (serveAll repository tokenService env earlier))[taskId]? = some before →
      (tasksOf (serveAll repository tokenService env (earlier ++ [ctx])))[taskId]? = some after →
        before.updatedAt ≤ after.updatedAt

/-- An event that reaches its task has a declared status and no earlier time than the task. -/
def EventsOnward (env : LocalRpcEnv Stores) (calls : List ForwardContext) : Prop :=
  ∀ earlier ctx later, calls = earlier ++ ctx :: later → ∀ event task,
    Reaches ctx { serveAll repository tokenService env earlier with deadline := ctx.deadline }
      event task →
    Declared event.status ∧ task.updatedAt ≤ event.timestamp

variable {repository tokenService} {env : LocalRpcEnv Stores}

theorem serve_effect (ctx : ForwardContext) : TaskEffect ctx { env with deadline := ctx.deadline }
    (serve repository tokenService env ctx).state.services.tasks :=
  forward_effect repository tokenService ctx _

theorem newTask_lawful (request : CreateTaskRequest) (taskId : Bytes) (now : Int64) :
    LawfulTask (newTask request taskId now) := by
  refine ⟨fun number undeclared => ?_, Int64.le_refl now⟩
  cases undeclared

theorem serve_lawful (ctx : ForwardContext)
    (before : ∀ (taskId : Bytes) (task : TaskInfo), (tasksOf env)[taskId]? = some task →
      LawfulTask task)
    (onward : ∀ event task, Reaches ctx { env with deadline := ctx.deadline } event task →
      Declared event.status ∧ task.updatedAt ≤ event.timestamp) :
    ∀ (taskId : Bytes) (task : TaskInfo),
      (tasksOf (serve repository tokenService env ctx))[taskId]? = some task → LawfulTask task := by
  intro taskId task found
  rcases @serve_effect repository tokenService env ctx with ⟨same, _⟩ |
    ⟨_, request, newId, now, stored⟩ | ⟨event, old, reaches, stored⟩
  · rw [tasksOf, same] at found
    exact before taskId task found
  · rw [tasksOf, stored, Std.ExtTreeMap.getElem?_insert] at found
    split at found
    · cases found
      exact newTask_lawful request newId now
    · exact before taskId task found
  · rw [tasksOf, stored, Std.ExtTreeMap.getElem?_insert] at found
    split at found
    · cases found
      obtain ⟨declared, later⟩ := onward event old reaches
      have ordered := (before event.taskId old reaches.known).ordered
      exact ⟨declared, Int64.le_trans ordered later⟩
    · exact before taskId task found

theorem serveAll_snoc (calls : List ForwardContext) (last : ForwardContext) :
    serveAll repository tokenService env (calls ++ [last]) =
      serve repository tokenService (serveAll repository tokenService env calls) last := by
  simp [serveAll]

theorem reached_stored {ctx : ForwardContext} {event : TaskEvent} {task : TaskInfo}
    (reaches : Reaches ctx { env with deadline := ctx.deadline } event task) :
    (tasksOf (serve repository tokenService env ctx))[event.taskId]? =
      some (withEvent event task) := by
  rcases @serve_effect repository tokenService env ctx with ⟨_, unreached⟩ | ⟨endpoint, _, _, _, _⟩ |
    ⟨other, old, reached, stored⟩
  · exact absurd reaches (unreached event task)
  · rw [reaches.endpoint] at endpoint
    cases endpoint
  · obtain rfl : event = other := Except.ok.inj (reaches.sent.symm.trans reached.sent)
    obtain rfl : task = old := Option.some.inj (reaches.known.symm.trans reached.known)
    rw [tasksOf, stored, Std.ExtTreeMap.getElem?_insert_self]

theorem serve_onward {ctx : ForwardContext} (submit : endpointOf ctx = some .submitTaskEvent)
    (later : ∀ event task, Reaches ctx { env with deadline := ctx.deadline } event task →
      Declared event.status ∧ task.updatedAt ≤ event.timestamp)
    {taskId : Bytes} {before after : TaskInfo} (known : (tasksOf env)[taskId]? = some before)
    (found : (tasksOf (serve repository tokenService env ctx))[taskId]? = some after) :
    before.updatedAt ≤ after.updatedAt := by
  rcases @serve_effect repository tokenService env ctx with ⟨same, _⟩ | ⟨endpoint, _, _, _, _⟩ |
    ⟨event, old, reached, stored⟩
  · rw [tasksOf, same] at found
    obtain rfl : before = after := Option.some.inj (known.symm.trans found)
    exact Int64.le_refl _
  · rw [submit] at endpoint
    cases endpoint
  · rw [tasksOf, stored, Std.ExtTreeMap.getElem?_insert] at found
    split at found
    · rename_i own
      have own : event.taskId = taskId := by simpa using own
      cases found
      obtain rfl : before = old := by
        have both := reached.known
        rw [own] at both
        exact Option.some.inj (known.symm.trans both)
      exact (later event before reached).2
    · obtain rfl : before = after := Option.some.inj (known.symm.trans found)
      exact Int64.le_refl _

/-- By induction on the requests. -/
theorem serveAll_lawful (fresh : tasksOf env = ∅) (calls : List ForwardContext)
    (onward : EventsOnward repository tokenService env calls) :
    ∀ (taskId : Bytes) (task : TaskInfo),
      (tasksOf (serveAll repository tokenService env calls))[taskId]? = some task →
        LawfulTask task := by
  induction calls using List.reverseRecOn with
  | nil =>
    intro taskId task found
    simp [serveAll, fresh] at found
  | append_singleton calls last ih =>
    have before := ih fun earlier ctx later split =>
      onward earlier ctx (later ++ [last]) (by simp [split])
    rw [serveAll_snoc]
    exact serve_lawful last before (onward calls last [] rfl)

end runs

/-- From the start of the process the tasks stay lawful exactly when every event that reaches a task
    has a declared status and a time no earlier than the task's. -/
theorem task_laws_iff (repository : UserRepository) (tokenService : Option AuthConfig)
    (steady : SteadyClock) (system : SystemClock) (calls : List ForwardContext) :
    TaskLaws repository tokenService (freshClient steady system) calls ↔
      EventsOnward repository tokenService (freshClient steady system) calls := by
  constructor
  · intro laws earlier ctx later split event task reaches
    have stored := @reached_stored repository tokenService _ _ _ _ reaches
    rw [← serveAll_snoc] at stored
    have lawful := laws.stored (earlier ++ [ctx]) later (by simp [split]) _ _ stored
    exact ⟨lawful.declared,
      laws.onward earlier ctx later split reaches.endpoint _ _ _ reaches.known stored⟩
  · intro onward
    refine ⟨fun earlier later split => ?_, fun earlier ctx later split submit taskId before after => ?_⟩
    · refine serveAll_lawful rfl earlier fun first ctx rest own => ?_
      exact onward first ctx (rest ++ later) (by simp [split, own])
    · rw [serveAll_snoc]
      exact serve_onward submit (onward earlier ctx later split)

section no_timestamp

def createReport : ForwardContext where
  upstream := bytes "TaskService"
  upstreamPath := bytes "/create"
  method := bytes "POST"
  body := bytes "\x7b\"task_type\":\"report\"\x7d"

def reportDone : ForwardContext where
  upstream := bytes "TaskService"
  upstreamPath := bytes "/event"
  method := bytes "POST"
  body := bytes "\x7b\"task_id\":\"task-1\",\"status\":3\x7d"

def reportRun : LocalRpcEnv Stores :=
  serveAll inMemoryUserRepository none (freshClient (ticking 1) (stopped 7000000000))
    [createReport, reportDone]

theorem event_sets_task_back :
    (tasksOf reportRun)[bytes "task-1"]?.map (fun task => (task.createdAt, task.updatedAt)) =
        some (7, 0) ∧
      ¬ TaskLaws inMemoryUserRepository none (freshClient (ticking 1) (stopped 7000000000))
        [createReport, reportDone] := by
  have times : (tasksOf reportRun)[bytes "task-1"]?.map
      (fun task => (task.createdAt, task.updatedAt)) = some (7, 0) := by decide
  refine ⟨times, fun laws => ?_⟩
  cases found : (tasksOf reportRun)[bytes "task-1"]? with
  | none =>
    rw [found] at times
    cases times
  | some task =>
    rw [found] at times
    have ordered := (laws.stored [createReport, reportDone] [] rfl _ task found).ordered
    simp only [Option.map_some, Option.some.injEq, Prod.mk.injEq] at times
    rw [times.1, times.2] at ordered
    exact absurd ordered (by decide)

end no_timestamp

end TgwTaskEvents
