import TgwGateway.Lib.FixedWindow
import TgwGateway.Lib.KeyedHistory
import TgwGateway.Service.FileMetaService
import TgwGateway.Service.TaskService

/- The two stores over any sequence of calls: what a read returns is determined by the calls before
   it, as in a map from the returned ids to what was created under them. -/
namespace TgwStoreRuns
open ByteStrings DecimalText FixedWindow KeyedHistory TgwClock TgwRpc TgwTaskService
open TgwFileMetaService

structure Stores where
  tasks : TaskStore := {}
  files : FileStore := {}

/-- What a call brings along: its context, the clocks as it finds them and its deadline. -/
structure Setting where
  ctx : RpcContext
  steady : SteadyClock
  system : SystemClock
  deadline : Option DeadlineContext

def Setting.env {State : Type} (setting : Setting) (state : State) : Env State :=
  ⟨setting.steady, setting.system, setting.deadline, state⟩

/-- The check that a method starts with finds the deadline open. -/
def Setting.live (setting : Setting) : Bool := !(setting.env ()).deadlineExceeded.1

inductive StoreCall where
  | createTask (setting : Setting) (request : CreateTaskRequest)
  | getTask (setting : Setting) (request : GetTaskRequest)
  | submitTaskEvent (setting : Setting) (event : TaskEvent)
  | createFileMeta (setting : Setting) (request : CreateFileMetaRequest)
  | getFileMeta (setting : Setting) (request : GetFileMetaRequest)

/-- A call with what it returned. -/
inductive Answered where
  | createTask (setting : Setting) (request : CreateTaskRequest) (response : CreateTaskResponse)
  | getTask (setting : Setting) (request : GetTaskRequest) (response : GetTaskResponse)
  | submitTaskEvent (setting : Setting) (event : TaskEvent)
  | createFileMeta (setting : Setting) (request : CreateFileMetaRequest)
      (response : CreateFileMetaResponse)
  | getFileMeta (setting : Setting) (request : GetFileMetaRequest) (response : GetFileMetaResponse)

def Answered.code : Answered → Option RpcCode
  | .createTask _ _ response => some response.rpcMeta.code
  | .getTask _ _ response => some response.rpcMeta.code
  | .submitTaskEvent _ _ => none
  | .createFileMeta _ _ response => some response.rpcMeta.code
  | .getFileMeta _ _ response => some response.rpcMeta.code

def answer (stores : Stores) : StoreCall → Answered × Stores
  | .createTask s request =>
    let out := taskServiceImpl.createTask s.ctx request (s.env stores.tasks)
    (.createTask s request out.1, { stores with tasks := out.2.state })
  | .getTask s request =>
    let out := taskServiceImpl.getTask s.ctx request (s.env stores.tasks)
    (.getTask s request out.1, { stores with tasks := out.2.state })
  | .submitTaskEvent s event =>
    let after := taskServiceImpl.submitTaskEvent s.ctx event (s.env stores.tasks)
    (.submitTaskEvent s event, { stores with tasks := after.state })
  | .createFileMeta s request =>
    let out := fileMetaServiceImpl.createFileMeta s.ctx request (s.env stores.files)
    (.createFileMeta s request out.1, { stores with files := out.2.state })
  | .getFileMeta s request =>
    let out := fileMetaServiceImpl.getFileMeta s.ctx request (s.env stores.files)
    (.getFileMeta s request out.1, { stores with files := out.2.state })

structure StoreRun where
  stores : Stores := {}
  history : List Answered := []

def serve (run : StoreRun) (call : StoreCall) : StoreRun :=
  let out := answer run.stores call
  ⟨out.2, run.history ++ [out.1]⟩

def runCalls (calls : List StoreCall) : StoreRun := calls.foldl serve {}

def createsTask : StoreCall → Bool
  | .createTask _ _ => true
  | _ => false

def createsFile : StoreCall → Bool
  | .createFileMeta _ _ => true
  | _ => false

def createdTasks (history : List Answered) : List Bytes :=
  history.filterMap fun
    | .createTask _ _ response => if response.rpcMeta.code = .ok then some response.taskId else none
    | _ => none

def createdFiles (history : List Answered) : List Bytes :=
  history.filterMap fun
    | .createFileMeta _ _ response =>
      if response.rpcMeta.code = .ok then some response.fileId else none
    | _ => none

/-- The events submitted for an id with a live deadline, oldest first. -/
def liveEvents (taskId : Bytes) (history : List Answered) : List TaskEvent :=
  history.filterMap fun
    | .submitTaskEvent s event => if s.live ∧ event.taskId = taskId then some event else none
    | _ => none

/-- The task is the one created under the id, with the last event submitted for it since. -/
def TaskUnder (history : List Answered) (taskId : Bytes) (task : TaskInfo) : Prop :=
  ∃ before s request response since, history = before ++ .createTask s request response :: since ∧
    response.rpcMeta.code = .ok ∧ response.taskId = taskId ∧
    task = match (liveEvents taskId since).getLast? with
      | some event => withEvent event (newTask request taskId (TgwTaskService.nowUnixSeconds s.system))
      | none => newTask request taskId (TgwTaskService.nowUnixSeconds s.system)

def FileUnder (history : List Answered) (fileId : Bytes) (file : FileMeta) : Prop :=
  ∃ before s request response since,
    history = before ++ .createFileMeta s request response :: since ∧
    response.rpcMeta.code = .ok ∧ response.fileId = fileId ∧
    file = newFile request fileId (TgwFileMetaService.nowUnixSeconds s.system)

/-- A read with a live deadline, after the calls before it. -/
def ReadLaw (earlier : List Answered) : Answered → Prop
  | .getTask s request response => s.live = true →
    (response.rpcMeta.code = .notFound ↔ request.taskId ∉ createdTasks earlier) ∧
    (request.taskId ∈ createdTasks earlier →
      response.rpcMeta.code = .ok ∧ TaskUnder earlier request.taskId response.task)
  | .getFileMeta s request response => s.live = true →
    (response.rpcMeta.code = .notFound ↔ request.fileId ∉ createdFiles earlier) ∧
    (request.fileId ∈ createdFiles earlier →
      response.rpcMeta.code = .ok ∧ FileUnder earlier request.fileId response.file)
  | _ => True

structure StoreLaws (calls : List StoreCall) : Prop where
  task_ids_distinct : (createdTasks (runCalls calls).history).Nodup
  file_ids_distinct : (createdFiles (runCalls calls).history).Nodup
  reads : EachEvent ReadLaw (runCalls calls).history
  failures_change_nothing : ∀ earlier call later, calls = earlier ++ call :: later →
    ∀ code, (answer (runCalls earlier).stores call).1.code = some code → code ≠ .ok →
      (answer (runCalls earlier).stores call).2 = (runCalls earlier).stores

@[simp] theorem env_state {State : Type} (s : Setting) (state : State) :
    (s.env state).state = state := rfl

@[simp] theorem env_system {State : Type} (s : Setting) (state : State) :
    (s.env state).system = s.system := rfl

theorem env_deadlineExceeded {State : Type} (s : Setting) (state : State) :
    (s.env state).deadlineExceeded.1 = !s.live := by
  simp only [Setting.live, Bool.not_not, Env.deadlineExceeded, Setting.env]
  cases s.deadline with
  | none => rfl
  | some d =>
    simp only
    split <;> rfl

def taskWrite : Answered → Option (Write TaskInfo TaskEvent)
  | .createTask s request response =>
    if response.rpcMeta.code = .ok then
      some (.put response.taskId (newTask request response.taskId
        (TgwTaskService.nowUnixSeconds s.system)))
    else none
  | .submitTaskEvent s event => if s.live then some (.change event.taskId event) else none
  | _ => none

/-- Metadata is never changed. -/
def fileWrite : Answered → Option (Write FileMeta Empty)
  | .createFileMeta s request response =>
    if response.rpcMeta.code = .ok then
      some (.put response.fileId (newFile request response.fileId
        (TgwFileMetaService.nowUnixSeconds s.system)))
    else none
  | _ => none

def unchangeable (change : Empty) (file : FileMeta) : FileMeta := nomatch change, file

section effects
variable (stores : Stores)

/-- What one call does to the task store, as its answer tells. -/
theorem answer_tasks (call : StoreCall) :
    (createdTasks [(answer stores call).1] = [] ∧
      (answer stores call).2.tasks.taskSeq = stores.tasks.taskSeq ∨
     createsTask call = true ∧
      createdTasks [(answer stores call).1] = [taskName (stores.tasks.taskSeq + 1)] ∧
      (answer stores call).2.tasks.taskSeq = stores.tasks.taskSeq + 1) ∧
    (answer stores call).2.tasks.tasks =
      ([(answer stores call).1].filterMap taskWrite).foldl (apply withEvent) stores.tasks.tasks := by
  cases call with
  | createTask s request =>
    rcases createTask_cases s.ctx (s.env stores.tasks) request with ⟨_, code, state⟩ |
      ⟨_, _, code, state⟩ | ⟨_, _, code, own, state⟩
    · exact ⟨Or.inl (by simp [answer, taskServiceImpl, createdTasks, code, state]),
        by simp [answer, taskServiceImpl, taskWrite, code, state]⟩
    · exact ⟨Or.inl (by simp [answer, taskServiceImpl, createdTasks, code, state]),
        by simp [answer, taskServiceImpl, taskWrite, code, state]⟩
    · refine ⟨Or.inr ?_, ?_⟩
      · simp [answer, taskServiceImpl, createdTasks, createsTask, code, own, state]
      · simp [answer, taskServiceImpl, taskWrite, code, own, state, apply]
  | getTask s request =>
    obtain ⟨state, _⟩ := getTask_cases s.ctx (s.env stores.tasks) request
    exact ⟨Or.inl ⟨rfl, congrArg TaskStore.taskSeq state⟩, congrArg TaskStore.tasks state⟩
  | submitTaskEvent s event =>
    have live := env_deadlineExceeded s stores.tasks
    rcases submitTaskEvent_cases s.ctx (s.env stores.tasks) event with ⟨done, state⟩ |
      ⟨done, absent, state⟩ | ⟨task, done, found, state⟩
    · rw [done] at live
      have late : s.live = false := by simpa using live.symm
      simp [answer, taskServiceImpl, createdTasks, taskWrite, late, state]
    · rw [done] at live
      have inTime : s.live = true := by simpa using live.symm
      have missing : stores.tasks.tasks[event.taskId]? = none := absent
      simp [answer, taskServiceImpl, createdTasks, taskWrite, inTime, state, apply,
        missing]
    · rw [done] at live
      have inTime : s.live = true := by simpa using live.symm
      have present : stores.tasks.tasks[event.taskId]? = some task := found
      simp [answer, taskServiceImpl, createdTasks, taskWrite, inTime, state, apply,
        present]
  | createFileMeta s request => exact ⟨Or.inl ⟨rfl, rfl⟩, rfl⟩
  | getFileMeta s request => exact ⟨Or.inl ⟨rfl, rfl⟩, rfl⟩

theorem answer_files (call : StoreCall) :
    (createdFiles [(answer stores call).1] = [] ∧
      (answer stores call).2.files.fileSeq = stores.files.fileSeq ∨
     createsFile call = true ∧
      createdFiles [(answer stores call).1] = [fileName (stores.files.fileSeq + 1)] ∧
      (answer stores call).2.files.fileSeq = stores.files.fileSeq + 1) ∧
    (answer stores call).2.files.files =
      ([(answer stores call).1].filterMap fileWrite).foldl (apply unchangeable)
        stores.files.files := by
  cases call with
  | createFileMeta s request =>
    rcases createFileMeta_cases s.ctx (s.env stores.files) request with ⟨_, code, state⟩ |
      ⟨_, _, code, state⟩ | ⟨_, _, code, own, state⟩
    · exact ⟨Or.inl (by simp [answer, fileMetaServiceImpl, createdFiles, code, state]),
        by simp [answer, fileMetaServiceImpl, fileWrite, code, state]⟩
    · exact ⟨Or.inl (by simp [answer, fileMetaServiceImpl, createdFiles, code, state]),
        by simp [answer, fileMetaServiceImpl, fileWrite, code, state]⟩
    · refine ⟨Or.inr ?_, ?_⟩
      · simp [answer, fileMetaServiceImpl, createdFiles, createsFile, code, own, state]
      · simp [answer, fileMetaServiceImpl, fileWrite, code, own, state, apply]
  | getFileMeta s request =>
    obtain ⟨state, _⟩ := getFileMeta_cases s.ctx (s.env stores.files) request
    exact ⟨Or.inl ⟨rfl, congrArg FileStore.fileSeq state⟩, congrArg FileStore.files state⟩
  | createTask s request => exact ⟨Or.inl ⟨rfl, rfl⟩, rfl⟩
  | getTask s request => exact ⟨Or.inl ⟨rfl, rfl⟩, rfl⟩
  | submitTaskEvent s event => exact ⟨Or.inl ⟨rfl, rfl⟩, rfl⟩

theorem answer_failed (call : StoreCall) {code : RpcCode}
    (returned : (answer stores call).1.code = some code) (failed : code ≠ .ok) :
    (answer stores call).2 = stores := by
  cases call with
  | createTask s request =>
    obtain rfl : (createTask s.ctx request (s.env stores.tasks)).1.rpcMeta.code = code :=
      Option.some.inj returned
    rcases createTask_cases s.ctx (s.env stores.tasks) request with ⟨_, _, state⟩ |
      ⟨_, _, _, state⟩ | ⟨_, _, success, _⟩
    · exact congrArg (fun tasks => { stores with tasks := tasks }) state
    · exact congrArg (fun tasks => { stores with tasks := tasks }) state
    · exact absurd success failed
  | getTask s request =>
    obtain ⟨state, _⟩ := getTask_cases s.ctx (s.env stores.tasks) request
    exact congrArg (fun tasks => { stores with tasks := tasks }) state
  | submitTaskEvent s event => cases returned
  | createFileMeta s request =>
    obtain rfl : (createFileMeta s.ctx request (s.env stores.files)).1.rpcMeta.code = code :=
      Option.some.inj returned
    rcases createFileMeta_cases s.ctx (s.env stores.files) request with ⟨_, _, state⟩ |
      ⟨_, _, _, state⟩ | ⟨_, _, success, _⟩
    · exact congrArg (fun files => { stores with files := files }) state
    · exact congrArg (fun files => { stores with files := files }) state
    · exact absurd success failed
  | getFileMeta s request =>
    obtain ⟨state, _⟩ := getFileMeta_cases s.ctx (s.env stores.files) request
    exact congrArg (fun files => { stores with files := files }) state

end effects

section lookups
variable (history : List Answered)

theorem putKeys_taskWrite :
    putKeys (history.filterMap taskWrite) = createdTasks history := by
  rw [putKeys, createdTasks, List.filterMap_filterMap]
  congr 1
  funext answered
  cases answered with
  | createTask s request response =>
    simp only [taskWrite]
    split <;> rfl
  | submitTaskEvent s event =>
    simp only [taskWrite]
    split <;> rfl
  | _ => rfl

theorem changesOf_taskWrite (taskId : Bytes) :
    changesOf taskId (history.filterMap taskWrite) = liveEvents taskId history := by
  rw [changesOf, liveEvents, List.filterMap_filterMap]
  congr 1
  funext answered
  cases answered with
  | createTask s request response =>
    simp only [taskWrite]
    split <;> rfl
  | submitTaskEvent s event =>
    simp only [taskWrite]
    cases s.live <;> simp
  | _ => rfl

theorem putKeys_fileWrite :
    putKeys (history.filterMap fileWrite) = createdFiles history := by
  rw [putKeys, createdFiles, List.filterMap_filterMap]
  congr 1
  funext answered
  cases answered with
  | createFileMeta s request response =>
    simp only [fileWrite]
    split <;> rfl
  | _ => rfl

variable {history}

theorem task_under {taskId : Bytes} {task : TaskInfo}
    (found : (applyAll withEvent (history.filterMap taskWrite))[taskId]? = some task) :
    TaskUnder history taskId task := by
  obtain ⟨writesBefore, start, writesSince, split, value⟩ := lookup_some found
  obtain ⟨before, rest, rfl, _, tail⟩ := List.filterMap_eq_append_iff.mp split
  obtain ⟨skipped, created, since, rfl, quiet, put, rfl⟩ := List.filterMap_eq_cons_iff.mp tail
  rw [changesOf_taskWrite, foldl_last (by intro c d v; rfl)] at value
  cases created with
  | createTask s request response =>
    simp only [taskWrite] at put
    by_cases success : response.rpcMeta.code = .ok
    · rw [if_pos success, Option.some.injEq, Write.put.injEq] at put
      obtain ⟨rfl, rfl⟩ := put
      refine ⟨before ++ skipped, s, request, response, since, by simp, success, rfl, ?_⟩
      rw [value]
      cases (liveEvents response.taskId since).getLast? <;> rfl
    · rw [if_neg success] at put
      cases put
  | submitTaskEvent s event =>
    simp only [taskWrite] at put
    split at put <;> cases put
  | _ => cases put

theorem file_under {fileId : Bytes} {file : FileMeta}
    (found : (applyAll unchangeable (history.filterMap fileWrite))[fileId]? = some file) :
    FileUnder history fileId file := by
  obtain ⟨writesBefore, start, writesSince, split, value⟩ := lookup_some found
  obtain ⟨before, rest, rfl, _, tail⟩ := List.filterMap_eq_append_iff.mp split
  obtain ⟨skipped, created, since, rfl, quiet, put, rfl⟩ := List.filterMap_eq_cons_iff.mp tail
  have same : file = start := by
    rw [value]
    generalize changesOf fileId (since.filterMap fileWrite) = changes
    cases changes with
    | nil => rfl
    | cons change _ => exact change.elim
  cases created with
  | createFileMeta s request response =>
    simp only [fileWrite] at put
    by_cases success : response.rpcMeta.code = .ok
    · rw [if_pos success, Option.some.injEq, Write.put.injEq] at put
      obtain ⟨rfl, rfl⟩ := put
      exact ⟨before ++ skipped, s, request, response, since, by simp, success, rfl, same⟩
    · rw [if_neg success] at put
      cases put
  | _ => cases put

end lookups

theorem taskName_injective : Function.Injective taskName := by
  intro m n same
  have digits := List.append_cancel_left same
  have values := congrArg digitsValue digits
  rw [digitsValue_natText, digitsValue_natText] at values
  exact UInt64.toNat_inj.mp values

theorem fileName_injective : Function.Injective fileName := by
  intro m n same
  have digits := List.append_cancel_left same
  have values := congrArg digitsValue digits
  rw [digitsValue_natText, digitsValue_natText] at values
  exact UInt64.toNat_inj.mp values

/-- What ties the stores to the calls they have answered. -/
structure RunInvariant (run : StoreRun) : Prop where
  tasks : run.stores.tasks.tasks = applyAll withEvent (run.history.filterMap taskWrite)
  files : run.stores.files.files = applyAll unchangeable (run.history.filterMap fileWrite)
  taskIds : Numbered taskName run.stores.tasks.taskSeq (createdTasks run.history)
  fileIds : Numbered fileName run.stores.files.fileSeq (createdFiles run.history)
  reads : EachEvent ReadLaw run.history

theorem run_invariant_nil : RunInvariant {} where
  tasks := rfl
  files := rfl
  taskIds := numbered_nil taskName
  fileIds := numbered_nil fileName
  reads := each_event_nil

section serve
variable {run : StoreRun} (before : RunInvariant run)
include before

theorem task_absent_iff (taskId : Bytes) :
    run.stores.tasks.tasks[taskId]? = none ↔ taskId ∉ createdTasks run.history := by
  rw [before.tasks, lookup_none_iff, putKeys_taskWrite]

theorem file_absent_iff (fileId : Bytes) :
    run.stores.files.files[fileId]? = none ↔ fileId ∉ createdFiles run.history := by
  rw [before.files, lookup_none_iff, putKeys_fileWrite]

/-- The next call, if it is a read, reads what the calls before it have left. -/
theorem answer_reads (call : StoreCall) :
    ReadLaw run.history (answer run.stores call).1 := by
  cases call with
  | getTask s request =>
    intro live
    have absent := task_absent_iff before request.taskId
    have open_ := env_deadlineExceeded s run.stores.tasks
    rw [live] at open_
    rcases (getTask_cases s.ctx (s.env run.stores.tasks) request).2 with ⟨done, _⟩ |
      ⟨_, missing, code⟩ | ⟨_, found, code⟩
    · rw [open_] at done
      cases done
    · have unknown := absent.mp missing
      exact ⟨by simp [taskServiceImpl, code, unknown], fun known => absurd known unknown⟩
    · have known : request.taskId ∈ createdTasks run.history := by
        by_contra unknown
        rw [env_state, absent.mpr unknown] at found
        cases found
      refine ⟨by simp [taskServiceImpl, code, known], fun _ => ⟨code, ?_⟩⟩
      rw [env_state, before.tasks] at found
      exact task_under found
  | getFileMeta s request =>
    intro live
    have absent := file_absent_iff before request.fileId
    have open_ := env_deadlineExceeded s run.stores.files
    rw [live] at open_
    rcases (getFileMeta_cases s.ctx (s.env run.stores.files) request).2 with ⟨done, _⟩ |
      ⟨_, missing, code⟩ | ⟨_, found, code⟩
    · rw [open_] at done
      cases done
    · have unknown := absent.mp missing
      exact ⟨by simp [fileMetaServiceImpl, code, unknown], fun known => absurd known unknown⟩
    · have known : request.fileId ∈ createdFiles run.history := by
        by_contra unknown
        rw [env_state, absent.mpr unknown] at found
        cases found
      refine ⟨by simp [fileMetaServiceImpl, code, known], fun _ => ⟨code, ?_⟩⟩
      rw [env_state, before.files] at found
      exact file_under found
  | createTask s request => trivial
  | submitTaskEvent s event => trivial
  | createFileMeta s request => trivial

theorem serve_invariant (call : StoreCall) : RunInvariant (serve run call) := by
  obtain ⟨taskStep, tasks⟩ := answer_tasks run.stores call
  obtain ⟨fileStep, files⟩ := answer_files run.stores call
  refine ⟨?_, ?_, ?_, ?_, each_event_snoc.mpr ⟨before.reads, answer_reads before call⟩⟩
  · simp only [serve, List.filterMap_append, applyAll, List.foldl_append]
    rw [tasks, before.tasks]
    rfl
  · simp only [serve, List.filterMap_append, applyAll, List.foldl_append]
    rw [files, before.files]
    rfl
  · have split : createdTasks (serve run call).history =
        createdTasks run.history ++ createdTasks [(answer run.stores call).1] := by
      simp only [serve, createdTasks, List.filterMap_append]
    rw [split]
    rcases taskStep with ⟨none, seq⟩ | ⟨_, one, seq⟩
    · rw [none, List.append_nil]
      exact seq ▸ before.taskIds
    · rw [one]
      exact seq ▸ numbered_next before.taskIds
  · have split : createdFiles (serve run call).history =
        createdFiles run.history ++ createdFiles [(answer run.stores call).1] := by
      simp only [serve, createdFiles, List.filterMap_append]
    rw [split]
    rcases fileStep with ⟨none, seq⟩ | ⟨_, one, seq⟩
    · rw [none, List.append_nil]
      exact seq ▸ before.fileIds
    · rw [one]
      exact seq ▸ numbered_next before.fileIds

end serve

theorem runCalls_snoc (calls : List StoreCall) (last : StoreCall) :
    runCalls (calls ++ [last]) = serve (runCalls calls) last := by
  simp [runCalls]

theorem runCalls_invariant (calls : List StoreCall) : RunInvariant (runCalls calls) := by
  induction calls using List.reverseRecOn with
  | nil => exact run_invariant_nil
  | append_singleton calls last ih =>
    rw [runCalls_snoc]
    exact serve_invariant ih last

theorem created_le (calls : List StoreCall) :
    (createdTasks (runCalls calls).history).length ≤ calls.countP createsTask ∧
      (createdFiles (runCalls calls).history).length ≤ calls.countP createsFile := by
  induction calls using List.reverseRecOn with
  | nil => exact ⟨Nat.le_refl 0, Nat.le_refl 0⟩
  | append_singleton calls last ih =>
    obtain ⟨taskStep, _⟩ := answer_tasks (runCalls calls).stores last
    obtain ⟨fileStep, _⟩ := answer_files (runCalls calls).stores last
    have tasks : createdTasks (runCalls (calls ++ [last])).history =
        createdTasks (runCalls calls).history ++
          createdTasks [(answer (runCalls calls).stores last).1] := by
      rw [runCalls_snoc]
      simp only [serve, createdTasks, List.filterMap_append]
    have files : createdFiles (runCalls (calls ++ [last])).history =
        createdFiles (runCalls calls).history ++
          createdFiles [(answer (runCalls calls).stores last).1] := by
      rw [runCalls_snoc]
      simp only [serve, createdFiles, List.filterMap_append]
    rw [tasks, files]
    simp only [List.length_append, List.countP_append, List.countP_singleton]
    constructor
    · rcases taskStep with ⟨none, _⟩ | ⟨creates, one, _⟩
      · simp only [none, List.length_nil]
        omega
      · simp only [one, creates, List.length_singleton, ↓reduceIte]
        omega
    · rcases fileStep with ⟨none, _⟩ | ⟨creates, one, _⟩
      · simp only [none, List.length_nil]
        omega
      · simp only [one, creates, List.length_singleton, ↓reduceIte]
        omega

theorem store_laws (calls : List StoreCall) (fewTasks : calls.countP createsTask < 2 ^ 64)
    (fewFiles : calls.countP createsFile < 2 ^ 64) : StoreLaws calls := by
  have invariant := runCalls_invariant calls
  obtain ⟨tasks, files⟩ := created_le calls
  exact ⟨numbered_nodup invariant.taskIds taskName_injective (by omega),
    numbered_nodup invariant.fileIds fileName_injective (by omega), invariant.reads,
    fun earlier call _ _ _ returned failed => answer_failed _ call returned failed⟩

/-- A task that is created, changed and read. -/
theorem store_laws_task_run :
    let setting : Setting := ⟨{}, ticking 1, stopped 0, none⟩
    let calls : List StoreCall := [.createTask setting { taskType := bytes "resize" },
      .submitTaskEvent setting { taskId := bytes "task-1", status := .running },
      .getTask setting { taskId := bytes "task-1" }]
    StoreLaws calls :=
  store_laws _ (by decide) (by decide)

end TgwStoreRuns
