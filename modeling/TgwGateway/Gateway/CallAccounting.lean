import TgwGateway.Gateway.CallRuns
import TgwGateway.Gateway.IdentityHeaders
import TgwGateway.Observability.MetricsLaws

/- Every completed call is counted once and traced by one server span, whichever way it ended and
   however the calls overtake one another. -/
namespace TgwCallAccounting
open ByteStrings CountedMaps TgwClock TgwConfig TgwHttp TgwRouteRule TgwAuthFilter
open TgwRateLimitFilter TgwTracing TgwMetrics TgwMetricsLaws TgwGatewayHandler TgwHandlerTrace
open TgwHandlerExits TgwCallRuns TgwIdentityHeaders
variable {Redis State : Type}

section books

def books (env : GatewayEnv Redis State) : MetricsRegistry × List FinishedSpan :=
  (env.state.metrics, env.state.tracer.finishedSpans)

variable (handler : GatewayHandler Redis State) (request : HttpRequest)
  (env : GatewayEnv Redis State)

theorem books_startGatewaySpan : books (startGatewaySpan handler request env).2 = books env := by
  unfold startGatewaySpan
  split
  · exact congrArg (Prod.mk env.state.metrics) (startServerSpan_kept _ _ _ _).2
  · rfl

theorem books_startUpstreamSpan (span : TraceSpan) (ctx : ForwardContext) :
    books (startUpstreamSpan handler span ctx env).2 = books env := by
  unfold startUpstreamSpan
  split
  · exact congrArg (Prod.mk env.state.metrics) (startClientSpan_kept _ _ _).2
  · rfl

theorem books_authenticate : books (authenticate handler request env).2 = books env := by
  rw [books, authenticate_state, books]

theorem books_checkRateLimit (matched : RouteMatchResult) :
    books (checkRateLimit handler request matched env).2 = books env := by
  unfold checkRateLimit
  split
  · simp only
    split <;> rfl
  · rfl

end books

section spans

/-- A sampled span has the ids without which FinishSpan drops it. -/
structure Named (span : TraceSpan) : Prop where
  traceId : span.sampled = true → span.traceId ≠ []
  spanId : span.sampled = true → span.spanId ≠ []

structure ChildOf (server client : TraceSpan) : Prop where
  sampled : client.sampled = server.sampled
  traceId : client.sampled = true → client.traceId = server.traceId
  parentSpanId : client.sampled = true → client.parentSpanId = server.spanId
  spanId : client.sampled = true → client.spanId ≠ []

theorem generateId_nonempty (randomDigits size : Nat) (s : TracerState) :
    (generateId randomDigits (size + 1) s).1 ≠ [] := by
  intro none
  have length := generateId_length randomDigits (size + 1) s
  rw [none] at length
  simp at length

theorem startServerSpan_named (config : TracingConfig) (request : HttpRequest) (name : Bytes)
    (env : TracerEnv) : Named (startServerSpan config request name env).1 := by
  unfold startServerSpan
  extract_lets startedAt startUnixMs ticked sample span extracted trace own
  split
  · rename_i unsampled
    have none : span.sampled = false := by simpa using unsampled
    constructor <;> exact fun sampled => absurd sampled (by simp [none])
  · refine ⟨fun _ => ?_, fun _ => generateId_nonempty 8 15 trace.2⟩
    show trace.1 ≠ []
    unfold trace
    split
    · exact generateId_nonempty 24 31 sample.2
    · assumption

theorem startClientSpan_child (server : TraceSpan) (name : Bytes) (env : TracerEnv) :
    ChildOf server (startClientSpan server name env).1 := by
  unfold startClientSpan
  extract_lets span ticked own
  split
  · rename_i unsampled
    have none : span.sampled = false := by simpa using unsampled
    refine ⟨rfl, ?_, ?_, ?_⟩ <;> exact fun sampled => absurd sampled (by simp [none])
  · exact ⟨rfl, fun _ => rfl, fun _ => rfl, fun _ => generateId_nonempty 8 15 ticked.state⟩

structure FinishedAs (span : TraceSpan) (kind : Bytes) (finished : FinishedSpan) : Prop where
  kind : finished.kind = kind
  traceId : finished.traceId = span.traceId
  spanId : finished.spanId = span.spanId
  parentSpanId : finished.parentSpanId = span.parentSpanId

theorem finishedOf_unsampled {span : TraceSpan} (unsampled : span.sampled = false)
    (tracing : TracingConfig) (kind path upstream : Bytes) (status : Int)
    (attributes : ByteMap Bytes) (now : Int) :
    finishedOf tracing span kind path upstream status attributes now = none := by
  simp [finishedOf, unsampled]

theorem finishedOf_named {span : TraceSpan} (sampled : span.sampled = true)
    (traceId : span.traceId ≠ []) (spanId : span.spanId ≠ []) (tracing : TracingConfig)
    (kind path upstream : Bytes) (status : Int) (attributes : ByteMap Bytes) (now : Int) :
    ∃ finished, finishedOf tracing span kind path upstream status attributes now = some finished ∧
      FinishedAs span kind finished := by
  have kept : (!span.sampled || span.traceId.isEmpty || span.spanId.isEmpty) = false := by
    simp [sampled, traceId, spanId]
  unfold finishedOf
  rw [kept]
  exact ⟨_, rfl, rfl, rfl, rfl, rfl⟩

end spans

section calls
variable (handler : GatewayHandler Redis State)

def upstreamLabel (request : HttpRequest) : Bytes :=
  match handler.routeManager.matchPath request.path with
  | none => bytes "none"
  | some matched => matched.route.upstream

/-- The loader of the routes refuses one without an upstream. -/
def UpstreamsNamed : Prop := ∀ route ∈ handler.routeManager.routes, route.upstream ≠ []

def Routed (request : HttpRequest) (upstream : Bytes) : Prop :=
  ∃ matched, handler.routeManager.matchPath request.path = some matched ∧
    upstream = matched.route.upstream

theorem label_unrouted {request : HttpRequest}
    (unrouted : handler.routeManager.matchPath request.path = none) :
    orNone (bytes "none") = upstreamLabel handler request := by
  rw [upstreamLabel, unrouted]
  rfl

theorem label_routed (named : UpstreamsNamed handler) {request : HttpRequest} {upstream : Bytes}
    (routed : Routed handler request upstream) :
    orNone upstream = upstreamLabel handler request := by
  obtain ⟨matched, found, rfl⟩ := routed
  have listed : matched.route ∈ handler.routeManager.routes := by
    rw [RouteRuleManager.matchPath] at found
    obtain ⟨route, selected, rfl⟩ := Option.map_eq_some_iff.mp found
    exact List.mem_of_find?_eq_some selected
  rw [upstreamLabel, found, orNone, if_neg (named _ listed)]

/-- The spans a call has appended by the time its finish closure starts. -/
def ClientSpans (server : TraceSpan) (called : Bool) (spans : List FinishedSpan) : Prop :=
  if server.sampled && called then
    ∃ client, spans = [client] ∧ client.kind = bytes "client" ∧
      client.traceId = server.traceId ∧ client.parentSpanId = server.spanId
  else spans = []

structure Traced (server : TraceSpan) (called : Bool) (spans : List FinishedSpan) : Prop where
  unsampled : server.sampled = false → spans = []
  answered : server.sampled = true → called = false →
    ∃ own, spans = [own] ∧ FinishedAs server (bytes "server") own
  forwarded : server.sampled = true → called = true →
    ∃ client own, spans = [client, own] ∧ FinishedAs server (bytes "server") own ∧
      client.kind = bytes "client" ∧ client.traceId = own.traceId ∧
      client.parentSpanId = own.spanId

/-- What holds of a call and the spans it has appended, at each of its steps. -/
def CallInv (request : HttpRequest) : Progress → List FinishedSpan → Prop
  | .arrived, spans => spans = []
  | .opened call, spans => spans = [] ∧ Named call.span
  | .authenticated call matched _, spans =>
    spans = [] ∧ Named call.span ∧ handler.routeManager.matchPath request.path = some matched
  | .limited call matched _ _, spans =>
    spans = [] ∧ Named call.span ∧ handler.routeManager.matchPath request.path = some matched
  | .calling call _ client ctx, spans =>
    spans = [] ∧ Named call.span ∧ ChildOf call.span client ∧ Routed handler request ctx.upstream
  | .answered call _ client ctx _, spans =>
    spans = [] ∧ Named call.span ∧ ChildOf call.span client ∧ Routed handler request ctx.upstream
  | .finishing call called _ upstream, spans =>
    ClientSpans call.span called spans ∧ Named call.span ∧
      orNone upstream = upstreamLabel handler request
  | .recorded call called _ upstream _, spans =>
    ClientSpans call.span called spans ∧ Named call.span ∧
      orNone upstream = upstreamLabel handler request
  | .completed call called _ upstream _, spans =>
    Traced call.span called spans ∧ orNone upstream = upstreamLabel handler request

theorem clientSpans_uncalled (server : TraceSpan) : ClientSpans server false [] := by
  simp [ClientSpans]

variable {handler}

theorem client_finished {call : Opened} {client : TraceSpan} (named : Named call.span)
    (child : ChildOf call.span client) (tracing : TracingConfig) (path upstream : Bytes)
    (status : Int) (attributes : ByteMap Bytes) (now : Int) :
    ClientSpans call.span true (finishedOf tracing client (bytes "client") path upstream status
      attributes now).toList := by
  cases sampled : call.span.sampled with
  | false =>
    have unsampled : client.sampled = false := child.sampled.trans sampled
    rw [finishedOf_unsampled unsampled]
    simp [ClientSpans, sampled]
  | true =>
    have kept : client.sampled = true := child.sampled.trans sampled
    have traceId : client.traceId ≠ [] := child.traceId kept ▸ named.traceId sampled
    obtain ⟨finished, out, as_client⟩ := finishedOf_named kept traceId (child.spanId kept) tracing
      (bytes "client") path upstream status attributes now
    rw [out, ClientSpans, sampled]
    exact ⟨finished, rfl, as_client.kind, as_client.traceId.trans (child.traceId kept),
      as_client.parentSpanId.trans (child.parentSpanId kept)⟩

theorem server_finished {server : TraceSpan} {called : Bool} {spans : List FinishedSpan}
    (named : Named server) (before : ClientSpans server called spans) (tracing : TracingConfig)
    (path upstream : Bytes) (status : Int) (attributes : ByteMap Bytes) (now : Int) :
    Traced server called (spans ++ (finishedOf tracing server (bytes "server") path upstream status
      attributes now).toList) := by
  cases sampled : server.sampled with
  | false =>
    rw [ClientSpans, sampled] at before
    have none : spans = [] := by simpa using before
    rw [finishedOf_unsampled sampled, none]
    refine ⟨fun _ => rfl, ?_, ?_⟩ <;> exact fun kept => absurd kept (by simp [sampled])
  | true =>
    obtain ⟨own, out, as_server⟩ := finishedOf_named sampled (named.traceId sampled)
      (named.spanId sampled) tracing (bytes "server") path upstream status attributes now
    rw [out]
    refine ⟨fun dropped => absurd dropped (by simp [sampled]), ?_, ?_⟩
    · rintro - rfl
      rw [ClientSpans, sampled] at before
      have none : spans = [] := by simpa using before
      exact ⟨own, by rw [none]; rfl, as_server⟩
    · rintro - rfl
      rw [ClientSpans, sampled] at before
      obtain ⟨client, only, kind, traceId, parent⟩ := before
      refine ⟨client, own, by rw [only]; rfl, as_server, kind, ?_, ?_⟩
      · exact traceId.trans as_server.traceId.symm
      · exact parent.trans as_server.spanId.symm

end calls

section steps
variable (handler : GatewayHandler Redis State) (tracing : TracingConfig)

def recordOf : HttpRequest × Progress → Option MetricRecord
  | (request, .recorded _ _ rsp upstream durationMs) =>
    some (⟨request.path, orNone upstream, rsp.status⟩, durationMs)
  | (request, .completed _ _ rsp upstream durationMs) =>
    some (⟨request.path, orNone upstream, rsp.status⟩, durationMs)
  | _ => none

/-- What one step does to the registries. -/
structure Booked (request : HttpRequest) (env : GatewayEnv Redis State) (progress : Progress) :
    Prop where
  metrics : (recordOf (request, (advance handler request env progress).1) =
        recordOf (request, progress) ∧
      (books (advance handler request env progress).2).1 = (books env).1) ∨
    ∃ entry, recordOf (request, progress) = none ∧
      recordOf (request, (advance handler request env progress).1) = some entry ∧
      (books (advance handler request env progress).2).1 = recordOne (books env).1 entry
  spans : (books (advance handler request env progress).2).2 =
    match appendedBy tracing request env progress with
    | none => (books env).2
    | some finished => keepLast tracing.maxFinishedSpans ((books env).2 ++ [finished])

theorem booked_unchanged {request : HttpRequest} {env : GatewayEnv Redis State}
    {progress : Progress} (quiet : appendedBy tracing request env progress = none)
    (unentered : recordOf (request, (advance handler request env progress).1) =
      recordOf (request, progress))
    (same : books (advance handler request env progress).2 = books env) :
    Booked handler tracing request env progress := by
  refine ⟨Or.inl ⟨unentered, congrArg Prod.fst same⟩, ?_⟩
  rw [quiet]
  exact congrArg Prod.snd same

variable (request : HttpRequest) (env : GatewayEnv Redis State)

@[simp] theorem finishServerSpan_status (span : TraceSpan) (rsp : HttpResponse)
    (upstream : Bytes) :
    (finishServerSpan handler request span rsp upstream env).1.status = rsp.status := by
  unfold finishServerSpan
  cases handler.tracer with
  | none => rfl
  | some tracing =>
    simp only
    split <;> split <;> rfl

theorem advance_books (metered : handler.hasMetrics = true)
    (traced : handler.tracer = some tracing) (progress : Progress) :
    Booked handler tracing request env progress := by
  cases progress with
  | arrived =>
    exact booked_unchanged handler tracing rfl rfl (books_startGatewaySpan handler request env.tick)
  | opened call =>
    cases routed : handler.routeManager.matchPath request.path with
    | none =>
      refine booked_unchanged handler tracing rfl ?_ ?_ <;> simp only [advance, routed, recordOf]
    | some matched =>
      have same := books_authenticate handler request env
      refine booked_unchanged handler tracing rfl ?_ ?_ <;> simp only [advance, routed]
      · split <;> rfl
      · split <;> exact same
  | authenticated call matched forwardRequest =>
    have same := books_checkRateLimit handler forwardRequest env matched
    refine booked_unchanged handler tracing rfl ?_ ?_ <;> simp only [advance]
    · split <;> rfl
    · split <;> exact same
  | limited call matched forwardRequest decision =>
    exact booked_unchanged handler tracing rfl rfl
      (books_startUpstreamSpan handler env.tick call.span _)
  | calling call decision client ctx => exact booked_unchanged handler tracing rfl rfl rfl
  | answered call decision client ctx rsp =>
    refine ⟨Or.inl ⟨rfl, ?_⟩, ?_⟩
    · simp only [advance, finishUpstreamSpan, traced]
      rfl
    · simp only [advance, finishUpstreamSpan, traced]
      exact finishSpan_finished _ _ _ _ _ _ _ _
  | finishing call called rsp upstream =>
    refine ⟨Or.inr ⟨_, rfl, rfl, ?_⟩, ?_⟩
    · simp only [advance, recordCall, metered, if_true]
      rfl
    · simp only [advance, recordCall, metered, if_true]
      rfl
  | recorded call called rsp upstream durationMs =>
    refine ⟨Or.inl ⟨?_, ?_⟩, ?_⟩
    · simp [advance, recordOf]
    · simp only [advance, finishServerSpan, traced]
      rfl
    · simp only [advance, finishServerSpan, traced]
      exact finishSpan_finished _ _ _ _ _ _ _ _
  | completed call called rsp upstream durationMs =>
    exact booked_unchanged handler tracing rfl rfl rfl

theorem advance_inv (named : UpstreamsNamed handler) (traced : handler.tracer = some tracing)
    {progress : Progress} {spans : List FinishedSpan}
    (inv : CallInv handler request progress spans) :
    CallInv handler request (advance handler request env progress).1
      (spans ++ (appendedBy tracing request env progress).toList) := by
  cases progress with
  | arrived =>
    refine ⟨by rw [show spans = [] from inv]; rfl, ?_⟩
    simp only [startGatewaySpan, traced]
    exact startServerSpan_named _ _ _ _
  | opened call =>
    obtain ⟨rfl, ids⟩ := inv
    cases routed : handler.routeManager.matchPath request.path with
    | none =>
      simp only [advance, routed]
      exact ⟨clientSpans_uncalled call.span, ids, label_unrouted handler routed⟩
    | some matched =>
      simp only [advance, routed]
      split
      · exact ⟨clientSpans_uncalled call.span, ids,
          label_routed handler named ⟨matched, routed, rfl⟩⟩
      · exact ⟨rfl, ids, routed⟩
  | authenticated call matched forwardRequest =>
    obtain ⟨rfl, ids, routed⟩ := inv
    simp only [advance]
    split
    · exact ⟨clientSpans_uncalled call.span, ids,
        label_routed handler named ⟨matched, routed, rfl⟩⟩
    · exact ⟨rfl, ids, routed⟩
  | limited call matched forwardRequest decision =>
    obtain ⟨rfl, ids, routed⟩ := inv
    refine ⟨rfl, ids, ?_, matched, routed, rfl⟩
    simp only [startUpstreamSpan, traced]
    exact startClientSpan_child _ _ _
  | calling call decision client ctx =>
    obtain ⟨rfl, ids, child, routed⟩ := inv
    exact ⟨rfl, ids, child, routed⟩
  | answered call decision client ctx rsp =>
    obtain ⟨rfl, ids, child, routed⟩ := inv
    exact ⟨client_finished ids child _ _ _ _ _ _, ids, label_routed handler named routed⟩
  | finishing call called rsp upstream =>
    obtain ⟨before, ids, label⟩ := inv
    rw [show appendedBy tracing request env (.finishing call called rsp upstream) = none from rfl,
      Option.toList_none, List.append_nil]
    exact ⟨before, ids, label⟩
  | recorded call called rsp upstream durationMs =>
    obtain ⟨before, ids, label⟩ := inv
    exact ⟨server_finished ids before _ _ _ _ _ _, label⟩
  | completed call called rsp upstream durationMs =>
    obtain ⟨finished, label⟩ := inv
    rw [show appendedBy tracing request env (.completed call called rsp upstream durationMs) = none
      from rfl, Option.toList_none, List.append_nil]
    exact ⟨finished, label⟩

end steps

section runs
variable (handler : GatewayHandler Redis State) (tracing : TracingConfig)

def records (calls : List (HttpRequest × Progress)) : List MetricRecord := calls.filterMap recordOf

theorem records_cons (call : HttpRequest × Progress) (rest : List (HttpRequest × Progress)) :
    records (call :: rest) = (recordOf call).toList ++ records rest := by
  cases entry : recordOf call <;> simp [records, entry]

def spansOf (run : Run Redis State) (caller : Nat) : List FinishedSpan :=
  (run.appended.filter fun item => item.1 = caller).map Prod.snd

theorem spansOf_append (env : GatewayEnv Redis State) (calls : List (HttpRequest × Progress))
    (appended : List (Nat × FinishedSpan)) (caller other : Nat) (spans : List FinishedSpan) :
    spansOf ⟨env, calls, appended ++ spans.map (Prod.mk caller)⟩ other =
      spansOf ⟨env, calls, appended⟩ other ++ if other = caller then spans else [] := by
  have mine : ((spans.map (Prod.mk caller)).filter fun item => item.1 = other).map Prod.snd =
      if other = caller then spans else [] := by
    by_cases own : other = caller
    · subst own
      rw [List.filter_eq_self.mpr (by simp), List.map_map]
      simp [Function.comp_def]
    · rw [List.filter_eq_nil_iff.mpr (by simp [Ne.symm own]), if_neg own]
      rfl
  rw [spansOf, List.filter_append, List.map_append, mine]
  rfl

structure RunInv (requests : List HttpRequest) (run : Run Redis State) : Prop where
  requests : run.calls.map Prod.fst = requests
  metrics : (books run.env).1 = registryOf (records run.calls)
  spans : (books run.env).2 = keepLast tracing.maxFinishedSpans (run.appended.map Prod.snd)
  calls : ∀ caller request progress, run.calls[caller]? = some (request, progress) →
    CallInv handler request progress (spansOf run caller)

theorem start_inv (env : GatewayEnv Redis State) (requests : List HttpRequest) :
    RunInv handler tracing requests (start env requests) where
  requests := by simp [start, Function.comp_def]
  metrics := by
    have none : records (start env requests).calls = [] := by simp [records, start, recordOf]
    rw [none]
    rfl
  spans := by
    show [] = keepLast tracing.maxFinishedSpans []
    rw [keepLast_nil]
  calls := by
    intro caller request progress found
    obtain ⟨-, rfl⟩ : requests[caller]? = some request ∧ Progress.arrived = progress := by
      simpa [start] using found
    rfl

theorem records_set {calls : List (HttpRequest × Progress)} {caller : Nat}
    {call : HttpRequest × Progress} (found : calls[caller]? = some call)
    (next : HttpRequest × Progress) :
    ∃ others, (records calls).Perm ((recordOf call).toList ++ others) ∧
      (records (calls.set caller next)).Perm ((recordOf next).toList ++ others) := by
  obtain ⟨inside, at_caller⟩ := List.getElem?_eq_some_iff.mp found
  refine ⟨records (calls.eraseIdx caller), ?_, ?_⟩
  · have split := List.getElem_cons_eraseIdx_perm inside
    rw [at_caller] at split
    exact (split.symm.filterMap recordOf).trans (.of_eq (records_cons _ _))
  · have split := List.set_perm_cons_eraseIdx inside next
    exact (split.filterMap recordOf).trans (.of_eq (records_cons _ _))

theorem turn_inv (metered : handler.hasMetrics = true) (traced : handler.tracer = some tracing)
    (named : UpstreamsNamed handler) {requests : List HttpRequest} {run : Run Redis State}
    (inv : RunInv handler tracing requests run) (caller : Nat) :
    RunInv handler tracing requests (turn handler tracing run caller) := by
  unfold turn
  split
  · exact inv
  · rename_i request progress found
    obtain ⟨metrics, spans⟩ := advance_books handler tracing request run.env metered traced progress
    refine ⟨?_, ?_, ?_, ?_⟩
    · rw [← inv.requests]
      refine List.ext_getElem? fun i => ?_
      rw [List.getElem?_map, List.getElem?_map, List.getElem?_set]
      split
      · rename_i same
        rw [← same, found]
        split <;> simp_all
      · rfl
    · obtain ⟨others, before, after⟩ := records_set found
        (request, (advance handler request run.env progress).1)
      rcases metrics with ⟨kept, same⟩ | ⟨entry, unentered, entered, added⟩
      · rw [same, inv.metrics]
        rw [kept] at after
        exact registryOf_perm (before.trans after.symm)
      · rw [unentered] at before
        rw [entered] at after
        have moved : (records run.calls ++ [entry]).Perm
            (records (run.calls.set caller (request, (advance handler request run.env progress).1)))
            := ((before.append_right [entry]).trans List.perm_append_comm).trans after.symm
        rw [added, inv.metrics, ← registryOf_snoc]
        exact registryOf_perm moved
    · rw [spans, inv.spans]
      cases appended : appendedBy tracing request run.env progress with
      | none => simp
      | some finished => simp [keepLast_snoc]
    · intro other request' progress' found'
      rw [spansOf_append]
      by_cases own : other = caller
      · subst own
        obtain ⟨inside, -⟩ := List.getElem?_eq_some_iff.mp found
        rw [List.getElem?_set_self inside] at found'
        cases found'
        rw [if_pos rfl]
        exact advance_inv handler tracing request run.env named traced
          (inv.calls other request progress found)
      · rw [List.getElem?_set_ne (Ne.symm own)] at found'
        rw [if_neg own, List.append_nil]
        exact inv.calls other request' progress' found'

theorem runCalls_inv (metered : handler.hasMetrics = true)
    (traced : handler.tracer = some tracing) (named : UpstreamsNamed handler)
    (env : GatewayEnv Redis State) (requests : List HttpRequest) (schedule : List Nat) :
    RunInv handler tracing requests (runCalls handler tracing env requests schedule) := by
  refine List.foldlRecOn schedule (turn handler tracing) (start_inv handler tracing env requests) ?_
  intro run inv caller _
  exact turn_inv handler tracing metered traced named inv caller

end runs

section accounts
variable (handler : GatewayHandler Redis State) (tracing : TracingConfig)

def answersAt (key : RequestMetricKey) (request : HttpRequest) (rsp : HttpResponse) : Bool :=
  request.path == key.path && upstreamLabel handler request == key.upstream &&
    rsp.status == key.status

def isCompleted : HttpRequest × Progress → Bool
  | (_, .completed ..) => true
  | _ => false

/-- A call that has left the metrics registry and not yet entered the tracer. -/
def isBetween : HttpRequest × Progress → Bool
  | (_, .recorded ..) => true
  | _ => false

def completedAt (key : RequestMetricKey) : HttpRequest × Progress → Bool
  | (request, .completed _ _ rsp _ _) => answersAt handler key request rsp
  | _ => false

def betweenAt (key : RequestMetricKey) : HttpRequest × Progress → Bool
  | (request, .recorded _ _ rsp _ _) => answersAt handler key request rsp
  | _ => false

structure Accounted (run : Run Redis State) : Prop where
  counters : ∀ key, counter run.env.state.metrics key =
    run.calls.countP (completedAt handler key) + run.calls.countP (betweenAt handler key)
  sum : counterSum run.env.state.metrics =
    run.calls.countP isCompleted + run.calls.countP isBetween
  settled : (∀ call ∈ run.calls, isBetween call = false) →
    (∀ key, counter run.env.state.metrics key = run.calls.countP (completedAt handler key)) ∧
    counterSum run.env.state.metrics = run.calls.countP isCompleted
  anyOrder : ∀ order, order.Perm (records run.calls) → run.env.state.metrics = registryOf order
  spans : ∀ caller request call called rsp upstream durationMs,
    run.calls[caller]? = some (request, .completed call called rsp upstream durationMs) →
    Traced call.span called (spansOf run caller)
  evicted : run.env.state.tracer.finishedSpans =
    keepLast tracing.maxFinishedSpans (run.appended.map Prod.snd)

variable {handler}

theorem recordOf_key {request : HttpRequest} {progress : Progress} {spans : List FinishedSpan}
    (inv : CallInv handler request progress spans) (key : RequestMetricKey) :
    ((recordOf (request, progress)).toList.countP fun entry => entry.1 = key) =
      (completedAt handler key (request, progress)).toNat +
        (betweenAt handler key (request, progress)).toNat := by
  have matching : ∀ (rsp : HttpResponse) upstream,
      orNone upstream = upstreamLabel handler request →
      decide ((⟨request.path, orNone upstream, rsp.status⟩ : RequestMetricKey) = key) =
        answersAt handler key request rsp := by
    intro rsp upstream label
    rw [label]
    cases key
    simp [answersAt, Bool.and_assoc, Bool.beq_eq_decide_eq]
  cases progress with
  | recorded call called rsp upstream durationMs =>
    have same := matching rsp upstream inv.2.2
    simp only [recordOf, completedAt, betweenAt, Option.toList_some, List.countP_singleton, same]
    cases answersAt handler key request rsp <;> rfl
  | completed call called rsp upstream durationMs =>
    have same := matching rsp upstream inv.2
    simp only [recordOf, completedAt, betweenAt, Option.toList_some, List.countP_singleton, same]
    cases answersAt handler key request rsp <;> rfl
  | _ => rfl

theorem records_countP (calls : List (HttpRequest × Progress)) (key : RequestMetricKey)
    (held : ∀ call ∈ calls, ∃ spans, CallInv handler call.1 call.2 spans) :
    ((records calls).countP fun entry => entry.1 = key) =
      calls.countP (completedAt handler key) + calls.countP (betweenAt handler key) := by
  induction calls with
  | nil => rfl
  | cons call rest ih =>
    obtain ⟨spans, inv⟩ := held call (by simp)
    have own := recordOf_key inv key
    have others := ih fun other inside => held other (by simp [inside])
    rw [records_cons, List.countP_append, own, others, List.countP_cons, List.countP_cons]
    cases completedAt handler key call <;> cases betweenAt handler key call <;> simp <;> omega

theorem records_length (calls : List (HttpRequest × Progress)) :
    (records calls).length = calls.countP isCompleted + calls.countP isBetween := by
  induction calls with
  | nil => rfl
  | cons call rest ih =>
    have own : (recordOf call).toList.length =
        (isCompleted call).toNat + (isBetween call).toNat := by
      obtain ⟨request, progress⟩ := call
      cases progress <;> rfl
    rw [records_cons, List.length_append, own, ih, List.countP_cons, List.countP_cons]
    cases isCompleted call <;> cases isBetween call <;> simp <;> omega

variable (handler)

theorem accounted_of_inv {requests : List HttpRequest} {run : Run Redis State}
    (few : requests.length < 2 ^ 64) (inv : RunInv handler tracing requests run) :
    Accounted handler tracing run := by
  have metrics : run.env.state.metrics = registryOf (records run.calls) := inv.metrics
  have sizes : run.calls.length = requests.length := by rw [← inv.requests, List.length_map]
  have shorter : (records run.calls).length ≤ run.calls.length := List.length_filterMap_le _ _
  have bound : (records run.calls).length < 2 ^ 64 := by omega
  have held : ∀ call ∈ run.calls, ∃ spans, CallInv handler call.1 call.2 spans := by
    intro call inside
    obtain ⟨caller, found⟩ := List.mem_iff_getElem?.mp inside
    exact ⟨_, inv.calls caller call.1 call.2 found⟩
  have counters : ∀ key, counter run.env.state.metrics key =
      run.calls.countP (completedAt handler key) + run.calls.countP (betweenAt handler key) := by
    intro key
    rw [metrics, counter_registryOf _ bound, records_countP _ _ held]
  have sum : counterSum run.env.state.metrics =
      run.calls.countP isCompleted + run.calls.countP isBetween := by
    rw [metrics, counterSum_registryOf _ bound, records_length]
  refine ⟨counters, sum, ?_, ?_, ?_, inv.spans⟩
  · intro settled
    have noneBetween : run.calls.countP isBetween = 0 := by
      rw [List.countP_eq_zero]
      intro call inside
      simp [settled call inside]
    have noneBetweenAt : ∀ key, run.calls.countP (betweenAt handler key) = 0 := by
      intro key
      rw [List.countP_eq_zero]
      rintro ⟨request, progress⟩ inside at_key
      have between := settled _ inside
      cases progress <;> simp [isBetween, betweenAt] at between at_key
    refine ⟨fun key => ?_, ?_⟩
    · rw [counters, noneBetweenAt, Nat.add_zero]
    · rw [sum, noneBetween, Nat.add_zero]
  · intro order same
    rw [metrics]
    exact registryOf_perm same.symm
  · intro caller request call called rsp upstream durationMs found
    exact (inv.calls caller request _ found).1

/-- Whatever the calls and however they overtake one another, the registries account for each. -/
theorem call_accounting (metered : handler.hasMetrics = true)
    (traced : handler.tracer = some tracing) (named : UpstreamsNamed handler)
    (env : GatewayEnv Redis State) (requests : List HttpRequest)
    (few : requests.length < 2 ^ 64) (schedule : List Nat) :
    Accounted handler tracing (runCalls handler tracing env requests schedule) :=
  accounted_of_inv handler tracing few
    (runCalls_inv handler tracing metered traced named env requests schedule)

/-- Two calls in turns, one of them on a path without a route. -/
theorem call_accounting_two_calls :
    let handler := { loginHandler with hasMetrics := true, tracer := some {} }
    Accounted handler {} (runCalls handler {} loginEnv
      [spoofedLogin, { path := bytes "/nowhere" }] [0, 1, 0, 1, 1, 0, 0, 1, 0, 0, 0, 0]) :=
  call_accounting _ _ rfl rfl (by unfold UpstreamsNamed; decide) _ _ (by decide) _

end accounts

end TgwCallAccounting
