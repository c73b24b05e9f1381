import TgwGateway.Lib.DecimalText
import TgwGateway.Service.RpcMessages

/- TaskServiceImpl: tasks under numbered ids, changed by events. -/
namespace TgwTaskService
open ByteStrings DecimalText TgwClock TgwRpc

structure TaskStore where
  tasks : ByteMap TaskInfo := ∅
  taskSeq : UInt64 := 0

def nowUnixSeconds (system : SystemClock) : Int64 :=
  Int64.ofInt (system.now.toInt.tdiv nanosPerSecond)

def taskName (number : UInt64) : Bytes := bytes "task-" ++ natText number.toNat

def createTask : RpcMethod TaskStore CreateTaskRequest CreateTaskResponse :=
  fun ctx request env =>
    match fillTimeoutIfCancelled ctx env with
    | (some rpcMeta, env) => ({ rpcMeta := rpcMeta }, env)
    | (none, env) =>
      if request.taskType = [] then
        let filled := fillMeta .invalidArgument (bytes "task_type is empty") ctx env
        ({ rpcMeta := filled.1 }, filled.2)
      else
        let taskSeq := env.state.taskSeq + 1
        let taskId := taskName taskSeq
        let now := nowUnixSeconds env.system
        let task : TaskInfo :=
          { taskId := taskId
            taskType := request.taskType
            status := .pending
            result := []
            userId := request.userId
            createdAt := now
            updatedAt := now }
        let env := { env.tickSystem with state := ⟨env.state.tasks.insert taskId task, taskSeq⟩ }
        let filled := fillMeta .ok (bytes "ok") ctx env
        ({ rpcMeta := filled.1, taskId := taskId }, filled.2)

def getTask : RpcMethod TaskStore GetTaskRequest GetTaskResponse :=
  fun ctx request env =>
    match fillTimeoutIfCancelled ctx env with
    | (some rpcMeta, env) => ({ rpcMeta := rpcMeta }, env)
    | (none, env) =>
      match env.state.tasks[request.taskId]? with
      | none =>
        let filled := fillMeta .notFound (bytes "task not found") ctx env
        ({ rpcMeta := filled.1 }, filled.2)
      | some task =>
        let filled := fillMeta .ok (bytes "ok") ctx env
        ({ rpcMeta := filled.1, task := task }, filled.2)

def withEvent (event : TaskEvent) (task : TaskInfo) : TaskInfo :=
  { task with status := event.status, result := event.message, updatedAt := event.timestamp }

/-- The warning about a late event reads the clock once more for the reason it names. -/
def submitTaskEvent (_ctx : RpcContext) (event : TaskEvent) (env : Env TaskStore) :
    Env TaskStore :=
  let done := env.deadlineExceeded
  if done.1 then (done.2.cancelDeadline (bytes "deadline exceeded")).tick
  else
    match done.2.state.tasks[event.taskId]? with
    | none => done.2
    | some task =>
      { done.2 with
        state :=
          { done.2.state with tasks := done.2.state.tasks.insert event.taskId (withEvent event task) } }

def taskServiceImpl : TaskService TaskStore where
  createTask := createTask
  getTask := getTask
  submitTaskEvent := submitTaskEvent

def newTask (request : CreateTaskRequest) (taskId : Bytes) (now : Int64) : TaskInfo :=
  { taskId := taskId
    taskType := request.taskType
    status := .pending
    userId := request.userId
    createdAt := now
    updatedAt := now }

section methods
variable (ctx : RpcContext) (env : Env TaskStore)

theorem createTask_cases (request : CreateTaskRequest) :
    (env.deadlineExceeded.1 = true ∧ (createTask ctx request env).1.rpcMeta.code = .timeout ∧
      (createTask ctx request env).2.state = env.state) ∨
    (env.deadlineExceeded.1 = false ∧ request.taskType = [] ∧
      (createTask ctx request env).1.rpcMeta.code = .invalidArgument ∧
      (createTask ctx request env).2.state = env.state) ∨
    (env.deadlineExceeded.1 = false ∧ request.taskType ≠ [] ∧
      (createTask ctx request env).1.rpcMeta.code = .ok ∧
      (createTask ctx request env).1.taskId = taskName (env.state.taskSeq + 1) ∧
      (createTask ctx request env).2.state =
        ⟨env.state.tasks.insert (taskName (env.state.taskSeq + 1))
          (newTask request (taskName (env.state.taskSeq + 1)) (nowUnixSeconds env.system)),
          env.state.taskSeq + 1⟩) := by
  unfold createTask
  rcases fillTimeoutIfCancelled_cases ctx env with ⟨done, rpcMeta, later, run, code, state⟩ |
    ⟨done, run⟩
  · exact Or.inl ⟨done, by simp [run, code], by simp [run, state]⟩
  · by_cases empty : request.taskType = []
    · exact Or.inr (Or.inl ⟨done, empty, by simp [run, empty], by simp [run, empty]⟩)
    · exact Or.inr (Or.inr ⟨done, empty, by simp [run, empty], by simp [run, empty],
        by simp [run, empty, newTask]⟩)

theorem getTask_cases (request : GetTaskRequest) :
    (getTask ctx request env).2.state = env.state ∧
    ((env.deadlineExceeded.1 = true ∧ (getTask ctx request env).1.rpcMeta.code = .timeout) ∨
    (env.deadlineExceeded.1 = false ∧ env.state.tasks[request.taskId]? = none ∧
      (getTask ctx request env).1.rpcMeta.code = .notFound) ∨
    (env.deadlineExceeded.1 = false ∧
      env.state.tasks[request.taskId]? = some (getTask ctx request env).1.task ∧
      (getTask ctx request env).1.rpcMeta.code = .ok)) := by
  unfold getTask
  rcases fillTimeoutIfCancelled_cases ctx env with ⟨done, rpcMeta, later, run, code, state⟩ |
    ⟨done, run⟩
  · exact ⟨by simp [run, state], Or.inl ⟨done, by simp [run, code]⟩⟩
  · cases found : env.state.tasks[request.taskId]? with
    | none => exact ⟨by simp [run, found], Or.inr (Or.inl ⟨done, rfl, by simp [run, found]⟩)⟩
    | some task =>
      exact ⟨by simp [run, found],
        Or.inr (Or.inr ⟨done, by simp [run, found], by simp [run, found]⟩)⟩

theorem submitTaskEvent_cases (event : TaskEvent) :
    (env.deadlineExceeded.1 = true ∧ (submitTaskEvent ctx event env).state = env.state) ∨
    (env.deadlineExceeded.1 = false ∧ env.state.tasks[event.taskId]? = none ∧
      (submitTaskEvent ctx event env).state = env.state) ∨
    ∃ task, env.deadlineExceeded.1 = false ∧ env.state.tasks[event.taskId]? = some task ∧
      (submitTaskEvent ctx event env).state =
        { env.state with tasks := env.state.tasks.insert event.taskId (withEvent event task) } := by
  unfold submitTaskEvent
  cases done : env.deadlineExceeded.1 with
  | true => exact Or.inl ⟨rfl, by simp [done]⟩
  | false =>
    cases found : env.state.tasks[event.taskId]? with
    | none => exact Or.inr (Or.inl ⟨rfl, rfl, by simp [done, found]⟩)
    | some task => exact Or.inr (Or.inr ⟨task, rfl, rfl, by simp [done, found]⟩)

end methods

end TgwTaskService
