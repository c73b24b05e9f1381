import TgwGateway.Gateway.ForwardedCalls
import TgwGateway.Gateway.GatewayRouter
import TgwGateway.Gateway.StoreForwarding

/- The stores behind the whole gateway: over any run of requests they are as the calls have left
   them that the requests made, and what a client is told of them is what they hold. -/
namespace TgwStoresOverHttp
open ByteStrings TgwClock TgwConfig TgwHttp TgwRouteRule TgwRpc TgwUserService TgwTaskService
open TgwFileMetaService TgwStoreRuns TgwLocalRpcErrors TgwRenderedBodies TgwGatewayHandler
open TgwHandlerExits TgwStoreForwarding TgwInnerCalls TgwForwardedCalls TgwGatewayRouter TgwRouter
open TgwLocalRpc (LocalRpcState LocalRpcEnv LocalRpcServices)
open TgwGovernance (UpstreamClient)
open TgwWatchedLocalRpc (localServices)
variable {Redis State : Type}

section contexts

def endpointFor (manager : RouteRuleManager) (request : HttpRequest) : Option Endpoint :=
  (manager.matchPath request.path).bind fun matched => endpointOf
    { upstream := matched.route.upstream
      method := request.method
      upstreamPath := matched.upstreamPath }

def requestLimit (config : GovernanceConfig) (request : HttpRequest) : Nat :=
  callLimit config { method := request.method }

theorem forwardedRequest_kept (handler : GatewayHandler Redis State) (request : HttpRequest)
    (env : GatewayEnv Redis State) :
    (forwardedRequest handler request env).method = request.method ∧
      (forwardedRequest handler request env).query = request.query ∧
      (forwardedRequest handler request env).body = request.body := by
  unfold forwardedRequest withIdentity withTrace putNonempty putHeader
  split_ifs <;> exact ⟨rfl, rfl, rfl⟩

/-- What the services read of a request is in its context as the client has sent it. -/
theorem context_kept {handler : GatewayHandler Redis State} {request : HttpRequest}
    {env : GatewayEnv Redis State} {ctx : ForwardContext}
    (context : ContextOf handler request env ctx) :
    ctx.method = request.method ∧ ctx.query = request.query ∧ ctx.body = request.body ∧
      endpointOf ctx = endpointFor handler.routeManager request := by
  obtain ⟨matched, now, span, routed, rfl⟩ := context
  obtain ⟨method, query, body⟩ := forwardedRequest_kept handler request env
  refine ⟨method, query, body, ?_⟩
  rw [endpointFor, routed]
  simp only [withClientSpan, buildForwardContext, endpointOf, method, Option.bind_some]

end contexts

section calls
variable (repository : UserRepository) (tokenService : Option AuthConfig)

theorem local_timely :
    TimelyClient (TgwLocalRpc.forward (localServices repository tokenService)) := by
  intro ctx env
  obtain ⟨call, stored⟩ := forward_stored repository tokenService ctx env
  exact stored.onward

theorem storesAfter_append (stores : Stores) (first second : List StoreCall) :
    storesAfter stores (first ++ second) = storesAfter (storesAfter stores first) second := by
  simp [storesAfter]

def ShowsLast (stores : Stores) (calls : List StoreCall) (body : Bytes) : Prop :=
  ∃ before last, calls = before ++ [last] ∧
    ShowsAnswer (answer (storesAfter stores before) last).1 body

theorem ShowsLast.behind {stores : Stores} {calls : List StoreCall} {body : Bytes}
    (earlier : List StoreCall) (shows : ShowsLast (storesAfter stores earlier) calls body) :
    ShowsLast stores (earlier ++ calls) body := by
  obtain ⟨before, last, rfl, shown⟩ := shows
  refine ⟨earlier ++ before, last, by simp, ?_⟩
  rw [storesAfter_append]
  exact shown

/-- By induction on the contexts forwarded, each of which is one call of a store at most. -/
theorem callsLead_stored {ctx : ForwardContext} {s t : LocalRpcState Stores}
    {entries : List (LocalRpcEnv Stores)}
    (lead : CallsLead (TgwLocalRpc.forward (localServices repository tokenService)) ctx s entries
      t) :
    ∃ calls, t.services = storesAfter s.services calls ∧ calls.length ≤ entries.length ∧
      (∀ call ∈ calls, Asks ctx call) ∧
      (UsesStore ctx → ∀ last ∈ entries.getLast?,
        (TgwLocalRpc.forward (localServices repository tokenService) ctx last).1.status = 200 →
        ShowsLast s.services calls
          (TgwLocalRpc.forward (localServices repository tokenService) ctx last).1.body) := by
  induction entries generalizing s with
  | nil =>
    obtain rfl : s = t := lead
    exact ⟨[], rfl, Nat.le_refl 0, by simp, by simp⟩
  | cons entry later ih =>
    obtain ⟨rfl, rest⟩ := lead
    obtain ⟨call, stored⟩ := forward_stored repository tokenService ctx entry
    obtain ⟨more, after, few, asks, shows⟩ := ih rest
    refine ⟨call.toList ++ more, ?_, ?_, ?_, ?_⟩
    · rw [storesAfter_append, ← stored.stores]
      exact after
    · rw [List.length_append, List.length_cons]
      have one : call.toList.length ≤ 1 := by cases call <;> simp
      omega
    · intro own listed
      rcases List.mem_append.mp listed with here | there
      · exact stored.asks own (by simpa using here)
      · exact asks own there
    · intro uses last isLast success
      cases later with
      | nil =>
        obtain rfl : entry = last := by simpa using isLast
        obtain rfl : more = [] := List.eq_nil_of_length_eq_zero (Nat.le_zero.mp few)
        obtain ⟨own, made, shown⟩ := stored.shows _ rfl success uses
        exact ⟨[], own, by simp [Option.mem_def.mp made], shown⟩
      | cons next later =>
        refine ShowsLast.behind _ ?_
        rw [← stored.stores]
        exact shows uses last (by simpa using isLast) success

end calls

section requests

theorem serveRoute_state (process : Process Redis State) (route : OwnRoute)
    (request : HttpRequest) (env : ProcessEnv Redis State) :
    (serveRoute process route request env).2.state = env.state := by
  unfold serveRoute
  split
  · unfold TgwMediation.requireAuth
    simp only
    split <;> exact TgwHandlerTrace.check_state _ _ _
  · rfl

variable (process : Process Redis Stores)

def storesOf (env : ProcessEnv Redis Stores) : Stores := env.state.upstream.inner.services

/-- A request that has a store endpoint behind its route, and none of the gateway's own. -/
def ForStore (request : HttpRequest) : Prop :=
  ownRoute request = none ∧ ∃ endpoint, endpointFor process.routeManager request = some endpoint ∧
    endpoint ≠ .login ∧ endpoint ≠ .getProfile

def AskedBy (request : HttpRequest) (env : ProcessEnv Redis Stores) (call : StoreCall) : Prop :=
  ∃ ctx, ContextOf process.gatewayHandler request env ctx ∧ ctx.query = request.query ∧
    ctx.body = request.body ∧ endpointOf ctx = endpointFor process.routeManager request ∧
    Asks ctx call

/-- What one request does to the stores and what its answer tells of them. -/
structure ServesStore (request : HttpRequest) (env : ProcessEnv Redis Stores)
    (out : HttpResponse × ProcessEnv Redis Stores) (calls : List StoreCall) : Prop where
  stores : storesOf out.2 = storesAfter (storesOf env) calls
  asked : ∀ call ∈ calls, AskedBy process request env call
  few : calls.length ≤ requestLimit process.config.governance request
  own : ownRoute request ≠ none → calls = []
  shows : ForStore process request → out.1.status = 200 → ¬ IsFallback out.1 →
    ShowsLast (storesOf env) calls out.1.body

variable {process} {repository : UserRepository} {tokenService : Option AuthConfig}
  (built : process.services = localServices repository tokenService)
include built

theorem handle_serves (request : HttpRequest) (env : ProcessEnv Redis Stores)
    (unowned : ownRoute request = none) :
    ∃ calls, ServesStore process request env (handle process.gatewayHandler request env) calls := by
  have timely := local_timely repository tokenService
  rw [← built] at timely
  have forwards := @handle_forwards _ _ process.gatewayHandler
  rcases forwards rfl timely request env with
    ⟨same, _, failed⟩ | ⟨ctx, entries, context, _, made⟩
  · refine ⟨[], congrArg LocalRpcState.services same, by simp, Nat.zero_le _, fun _ => rfl, ?_⟩
    exact fun _ success => absurd success failed
  · have lead := made.lead
    have answered := made.answered
    rw [built] at lead answered
    obtain ⟨calls, after, few, asks, shows⟩ := callsLead_stored repository tokenService lead
    obtain ⟨method, query, body, endpoint⟩ := context_kept context
    refine ⟨calls, after,
      fun call listed => ⟨ctx, context, query, body, endpoint, asks call listed⟩, ?_,
      fun own => absurd unowned own, fun ⟨_, found⟩ success unmarked => ?_⟩
    · have limit : callLimit process.config.governance ctx =
          requestLimit process.config.governance request := by
        simp only [requestLimit, callLimit, TgwGovernance.canRetryMethod, method]
        rfl
      exact limit ▸ Nat.le_trans few made.few
    · obtain ⟨last, isLast, status, same⟩ := answered success unmarked
      rw [same]
      exact shows (by rw [UsesStore, endpoint]; exact found) last isLast status

theorem dispatch_serves (request : HttpRequest) (plainMethod : 32 ∉ request.method)
    (env : ProcessEnv Redis Stores) :
    ∃ calls, ServesStore process request env ((buildRouter process).dispatch request env) calls := by
  rw [dispatch_eq process request plainMethod env]
  cases own : ownRoute request with
  | none => exact handle_serves built request env own
  | some route =>
    have same := serveRoute_state process route request env
    refine ⟨[], congrArg (fun s => s.upstream.inner.services) same, by simp, Nat.zero_le _,
      fun _ => rfl, fun forStore => ?_⟩
    rw [forStore.1] at own
    cases own

end requests

section runs
variable {process : Process Redis Stores} {repository : UserRepository}
  {tokenService : Option AuthConfig}
  (built : process.services = localServices repository tokenService)

/-- The store calls that the requests of a run have made, each request with its own. -/
structure RunServes (process : Process Redis Stores) (requests : List HttpRequest)
    (env : ProcessEnv Redis Stores) (calls : List (List StoreCall)) : Prop where
  length : calls.length = requests.length
  few : calls.flatten.length ≤ (requests.map (requestLimit process.config.governance)).sum
  stores : storesOf (TgwGatewayRouter.serve process requests env) =
    storesAfter (storesOf env) calls.flatten
  each : ∀ i request own, requests[i]? = some request → calls[i]? = some own →
    storesOf (meeting process (requests.take i) env) =
        storesAfter (storesOf env) (calls.take i).flatten ∧
      ServesStore process request (meeting process (requests.take i) env)
        ((buildRouter process).dispatch request (meeting process (requests.take i) env)) own

include built

theorem run_serves (requests : List HttpRequest) (plain : ∀ r ∈ requests, 32 ∉ r.method)
    (env : ProcessEnv Redis Stores) : ∃ calls, RunServes process requests env calls := by
  induction requests using List.reverseRecOn with
  | nil => exact ⟨[], rfl, Nat.le_refl 0, rfl, by simp⟩
  | append_singleton requests last ih =>
    obtain ⟨calls, before⟩ := ih fun r listed => plain r (List.mem_append_left _ listed)
    obtain ⟨own, served⟩ := dispatch_serves built last (plain last (by simp))
      (meeting process requests env)
    have whole : TgwGatewayRouter.serve process (requests ++ [last]) env =
        ((buildRouter process).dispatch last (meeting process requests env)).2 := by
      simp [TgwGatewayRouter.serve, meeting]
    have reached : storesOf (meeting process requests env) =
        storesAfter (storesOf env) calls.flatten := before.stores
    refine ⟨calls ++ [own], by simp [before.length], ?_, ?_, ?_⟩
    · have most := before.few
      have more := served.few
      simp only [List.flatten_append, List.flatten_singleton, List.length_append, List.map_append,
        List.map_singleton, List.sum_append, List.sum_singleton]
      omega
    · rw [whole, served.stores, reached, ← storesAfter_append]
      simp
    · intro i request made at_request at_calls
      have short : i < (requests ++ [last]).length := (List.getElem?_eq_some_iff.mp at_request).1
      rw [List.length_append, List.length_singleton] at short
      have sizes := before.length
      rcases Nat.lt_or_ge i requests.length with inside | outside
      · rw [List.getElem?_append_left inside] at at_request
        rw [List.getElem?_append_left (by omega)] at at_calls
        rw [List.take_append_of_le_length (by omega), List.take_append_of_le_length (by omega)]
        exact before.each i request made at_request at_calls
      · obtain rfl : i = requests.length := by omega
        obtain rfl : last = request := by simpa using at_request
        obtain rfl : own = made := by simpa [sizes] using at_calls
        rw [List.take_left, ← sizes, List.take_left]
        exact ⟨reached, served⟩

end runs

section told

theorem flatten_split {Item : Type} {lists : List (List Item)} {i : Nat} {own : List Item}
    (there : lists[i]? = some own) :
    lists.flatten = (lists.take i).flatten ++ own ++ (lists.drop (i + 1)).flatten := by
  obtain ⟨inside, here⟩ := List.getElem?_eq_some_iff.mp there
  calc lists.flatten
      = (lists.take i ++ lists.drop i).flatten := by rw [List.take_append_drop]
    _ = (lists.take i).flatten ++ own ++ (lists.drop (i + 1)).flatten := by
      rw [List.drop_eq_getElem_cons inside, here, List.flatten_append, List.flatten_cons,
        List.append_assoc]

/-- What a successful answer tells of the stores: an id that is new, a record under its id, or an
    event that was taken. -/
def Told (run : StoreRun) (body : Bytes) : StoreCall → Prop
  | .createTask setting request => ∃ taskId, taskId ∉ createdTasks run.history ∧
      body = rendered 0 (bytes "ok") (some [(bytes "task_id", .text taskId)]) ∧
      (answer run.stores (.createTask setting request)).2.tasks.tasks =
        run.stores.tasks.tasks.insert taskId (newTask request taskId
          (TgwTaskService.nowUnixSeconds setting.system))
  | .getTask _ request => ∃ task, TaskUnder run.history request.taskId task ∧
      body = rendered 0 (bytes "ok") (some (taskFields task))
  | .submitTaskEvent _ event =>
      body = rendered 0 (bytes "ok") (some [(bytes "accepted", .truth),
        (bytes "task_id", .text event.taskId)])
  | .createFileMeta setting request => ∃ fileId, fileId ∉ createdFiles run.history ∧
      body = rendered 0 (bytes "ok") (some [(bytes "file_id", .text fileId)]) ∧
      (answer run.stores (.createFileMeta setting request)).2.files.files =
        run.stores.files.files.insert fileId (newFile request fileId
          (TgwFileMetaService.nowUnixSeconds setting.system))
  | .getFileMeta _ request => ∃ file, FileUnder run.history request.fileId file ∧
      body = rendered 0 (bytes "ok") (some (fileFields file))

theorem runCalls_stores (calls : List StoreCall) :
    (runCalls calls).stores = storesAfter {} calls := by
  induction calls using List.reverseRecOn with
  | nil => rfl
  | append_singleton calls last ih =>
    rw [runCalls_snoc, storesAfter_append, ← ih]
    rfl

theorem next_unused {name : UInt64 → Bytes} {counter : UInt64} {keys : List Bytes}
    (numbered : KeyedHistory.Numbered name counter keys) (apart : Function.Injective name)
    (few : keys.length + 1 < 2 ^ 64) : name (counter + 1) ∉ keys := by
  have distinct := KeyedHistory.numbered_nodup (KeyedHistory.numbered_next numbered) apart
    (by simpa using few)
  rw [List.nodup_append] at distinct
  exact fun listed => distinct.2.2 _ listed _ (by simp) rfl

theorem told_of_shows {calls : List StoreCall} {call : StoreCall} {body : Bytes}
    (few : calls.length + 1 < 2 ^ 64)
    (shows : ShowsAnswer (answer (runCalls calls).stores call).1 body) :
    Told (runCalls calls) body call := by
  have invariant := runCalls_invariant calls
  obtain ⟨tasks, files⟩ := created_le calls
  have most : ∀ p : StoreCall → Bool, calls.countP p ≤ calls.length := fun _ =>
    List.countP_le_length
  have fewTasks := most createsTask
  have fewFiles := most createsFile
  obtain ⟨succeeded, rendered⟩ := shows
  cases call with
  | createTask setting request =>
    have ok : (TgwTaskService.createTask setting.ctx request
      (setting.env (runCalls calls).stores.tasks)).1.rpcMeta.code = .ok := succeeded _ rfl
    rcases TgwTaskService.createTask_cases setting.ctx (setting.env (runCalls calls).stores.tasks)
      request with ⟨_, code, _⟩ | ⟨_, _, code, _⟩ | ⟨_, _, _, own, stored⟩
    · rw [ok] at code
      cases code
    · rw [ok] at code
      cases code
    · refine ⟨_, next_unused invariant.taskIds taskName_injective (by omega), ?_,
        congrArg TaskStore.tasks stored⟩
      rw [rendered]
      simp only [answer, taskServiceImpl, shownFields, own, env_state]
  | getTask setting request =>
    have ok : (TgwTaskService.getTask setting.ctx request
      (setting.env (runCalls calls).stores.tasks)).1.rpcMeta.code = .ok := succeeded _ rfl
    rcases (TgwTaskService.getTask_cases setting.ctx (setting.env (runCalls calls).stores.tasks)
      request).2 with ⟨_, code⟩ | ⟨_, _, code⟩ | ⟨_, found, _⟩
    · rw [ok] at code
      cases code
    · rw [ok] at code
      cases code
    · rw [env_state, invariant.tasks] at found
      exact ⟨_, task_under found, rendered⟩
  | submitTaskEvent setting event => exact rendered
  | createFileMeta setting request =>
    have ok : (TgwFileMetaService.createFileMeta setting.ctx request
      (setting.env (runCalls calls).stores.files)).1.rpcMeta.code = .ok := succeeded _ rfl
    rcases TgwFileMetaService.createFileMeta_cases setting.ctx
      (setting.env (runCalls calls).stores.files) request with
      ⟨_, code, _⟩ | ⟨_, _, code, _⟩ | ⟨_, _, _, own, stored⟩
    · rw [ok] at code
      cases code
    · rw [ok] at code
      cases code
    · refine ⟨_, next_unused invariant.fileIds fileName_injective (by omega), ?_,
        congrArg FileStore.files stored⟩
      rw [rendered]
      simp only [answer, fileMetaServiceImpl, shownFields, own, env_state]
  | getFileMeta setting request =>
    have ok : (TgwFileMetaService.getFileMeta setting.ctx request
      (setting.env (runCalls calls).stores.files)).1.rpcMeta.code = .ok := succeeded _ rfl
    rcases (TgwFileMetaService.getFileMeta_cases setting.ctx
      (setting.env (runCalls calls).stores.files) request).2 with
      ⟨_, code⟩ | ⟨_, _, code⟩ | ⟨_, found, _⟩
    · rw [ok] at code
      cases code
    · rw [ok] at code
      cases code
    · rw [env_state, invariant.files] at found
      exact ⟨_, file_under found, rendered⟩

variable {process : Process Redis Stores} {repository : UserRepository}
  {tokenService : Option AuthConfig}

def taskRoute : RouteConfig where
  path := bytes "/api/v1/task"
  upstream := bytes "TaskService"

def taskProcess : Process Unit Stores :=
  let services := localServices inMemoryUserRepository none
  { config := { auth := { enabled := false }, routes := [taskRoute] }
    userService := services.userService
    fileMetaService := services.fileMetaService
    taskService := services.taskService
    redisLink := idleProcess.redisLink
    routeManager := ⟨[taskRoute], List.pairwise_singleton _ _⟩
    sorted := List.Perm.refl _
    exactRoutes := routeNames
    listed := List.Perm.refl _ }

def emptyStores : ProcessEnv Unit Stores where
  steady := ticking 1000
  system := stopped 0
  deadline := none
  state := {
    rateLimit := { redis := () }
    tracer := { hexDraws := fun _ => 0, sampleDraws := fun _ => 0 }
    upstream := { inner := { services := {} } } }

def createTaskPost : HttpRequest where
  method := bytes "POST"
  path := bytes "/api/v1/task/create"
  body := bytes "\x7b\"task_type\":\"resize\"\x7d"

def readTask : HttpRequest where
  method := bytes "GET"
  path := bytes "/api/v1/task/get"
  query := bytes "task_id=task-1"

end told

end TgwStoresOverHttp
