import TgwGateway.Gateway.CallRuns
import TgwGateway.Lib.DecimalText
import Mathlib.Data.List.Induction

/- The ids of the spans a tracer keeps. An id is generated, taken from a header of the request at the
   root of the span's chain, or handed down from the parent span. -/
namespace TgwSpanIds
open ByteStrings CountedMaps DecimalText TgwClock TgwConfig TgwHttp TgwTracing
open TgwCallRuns (finishedOf finishSpan_finished)

def isLowerHex (c : UInt8) : Bool := isDigit c || (97 ≤ c && c ≤ 102)

def HexId (size : Nat) (id : Bytes) : Prop := id.length = size ∧ ∀ c ∈ id, isLowerHex c = true

instance (size : Nat) (id : Bytes) : Decidable (HexId size id) :=
  inferInstanceAs (Decidable (_ ∧ _))

/-- A value of the W3C header: version, trace id, span id and flags. -/
structure TraceParent where
  version : Bytes
  traceId : Bytes
  spanId : Bytes
  flags : Bytes
  version_hex : HexId 2 version
  version_known : version ≠ bytes "ff"
  trace_hex : HexId 32 traceId
  trace_nonzero : traceId ≠ List.replicate 32 48
  span_hex : HexId 16 spanId
  span_nonzero : spanId ≠ List.replicate 16 48
  flags_hex : HexId 2 flags

def TraceParent.text (value : TraceParent) : Bytes :=
  value.version ++ 45 :: value.traceId ++ 45 :: value.spanId ++ 45 :: value.flags

section generated

theorem hexDigit_lower : ∀ n < 16, isLowerHex (hexDigit n) = true := by
  decide

theorem hexDigits_lower (count : Nat) (value : UInt64) :
    ∀ c ∈ hexDigits count value, isLowerHex c = true := by
  induction count generalizing value with
  | zero => simp [hexDigits]
  | succ count ih =>
    intro c member
    rcases List.mem_cons.mp member with rfl | rest
    · refine hexDigit_lower _ ?_
      rw [UInt64.toNat_and]
      exact Nat.and_lt_two_pow _ (by decide : (0xF : UInt64).toNat < 2 ^ 4)
    · exact ih _ c rest

theorem hexRandomLoop_lower (length fuel : Nat) (out : Bytes) (s : TracerState)
    (before : ∀ c ∈ out, isLowerHex c = true) :
    ∀ c ∈ (hexRandomLoop length fuel out s).1, isLowerHex c = true := by
  induction fuel generalizing out s with
  | zero => exact before
  | succ fuel ih =>
    unfold hexRandomLoop
    split
    · exact before
    · refine ih _ _ fun c member => ?_
      rcases List.mem_append.mp member with old | new
      · exact before c old
      · exact hexDigits_lower _ _ c new

theorem zeros_lower (count : Nat) : ∀ c ∈ List.replicate count (48 : UInt8), isLowerHex c = true := by
  intro c member
  rw [List.eq_of_mem_replicate member]
  decide

theorem hexText_lower (n : Nat) : ∀ c ∈ hexText n, isLowerHex c = true := by
  intro c member
  rcases List.mem_append.mp member with filled | digits
  · exact zeros_lower _ c filled
  · split at digits
    · rw [List.mem_singleton.mp digits]
      exact hexDigit_lower 0 (by decide)
    · obtain ⟨d, digit, rfl⟩ := List.mem_map.mp digits
      exact hexDigit_lower d (Nat.digits_lt_base (by decide) (List.mem_reverse.mp digit))

theorem generateId_hex (randomDigits size : Nat) (s : TracerState) :
    HexId size (generateId randomDigits size s).1 := by
  refine ⟨generateId_length randomDigits size s, fun c member => ?_⟩
  rcases List.mem_append.mp (List.mem_of_mem_take member) with drawn | filled
  · rcases List.mem_append.mp drawn with random | counted
    · exact hexRandomLoop_lower _ _ [] _ (by simp) c random
    · exact hexText_lower _ c counted
  · exact zeros_lower _ c filled

end generated

section headers
variable (config : TracingConfig) (request : HttpRequest)

def customParent : Option Bytes :=
  (nonemptyHeader request (bytes "X-Span-Id")).or
    (nonemptyHeader request (bytes "X-Parent-Span-Id"))

/-- If the tracer takes ids from the traceparent header, the header holds a W3C value. -/
def TraceParentValid : Prop :=
  config.acceptTraceparent = true →
    ∀ text, request.headers[bytes "traceparent"]? = some text → isTraceParent text = true →
      ∃ value : TraceParent, text = value.text

/-- The ids of a span whose chain starts at the request. -/
structure RequestIds (traceId spanId parentSpanId : Bytes) : Prop where
  span_hex : HexId 16 spanId
  custom_trace : ∀ value, nonemptyHeader request (bytes "X-Trace-Id") = some value →
    traceId = value
  trace_hex : nonemptyHeader request (bytes "X-Trace-Id") = none →
    TraceParentValid config request → HexId 32 traceId
  custom_parent : ∀ value, customParent request = some value →
    parentSpanId = value ∨ HexId 16 parentSpanId
  parent_hex : customParent request = none → TraceParentValid config request →
    parentSpanId = [] ∨ HexId 16 parentSpanId

end headers

theorem traceParent_ids (value : TraceParent) :
    isTraceParent value.text = true ∧
      extractTraceIdFromTraceParent value.text = value.traceId ∧
      extractSpanIdFromTraceParent value.text = value.spanId := by
  have version := value.version_hex.1
  have trace := value.trace_hex.1
  have span := value.span_hex.1
  have flags := value.flags_hex.1
  have shaped : isTraceParent value.text = true := by
    simp [isTraceParent, TraceParent.text, version, trace, span, flags]
  have afterVersion : value.text.drop 3 =
      value.traceId ++ (45 :: value.spanId ++ 45 :: value.flags) := by
    have front : (value.version ++ [45]).length = 3 := by simp [version]
    have text : value.text =
        (value.version ++ [45]) ++ (value.traceId ++ (45 :: value.spanId ++ 45 :: value.flags)) := by
      simp [TraceParent.text]
    rw [text, List.drop_left' front]
  have afterTrace : value.text.drop 36 = value.spanId ++ 45 :: value.flags := by
    have front : (value.version ++ 45 :: value.traceId ++ [45]).length = 36 := by
      simp [version, trace]
    have text : value.text = (value.version ++ 45 :: value.traceId ++ [45]) ++
        (value.spanId ++ 45 :: value.flags) := by
      simp [TraceParent.text]
    rw [text, List.drop_left' front]
  refine ⟨shaped, ?_, ?_⟩
  · rw [extractTraceIdFromTraceParent, if_pos shaped, afterVersion, List.take_left' trace]
  · rw [extractSpanIdFromTraceParent, if_pos shaped, afterTrace, List.take_left' span]

theorem nonemptyHeader_ne_nil {request : HttpRequest} {key value : Bytes}
    (found : nonemptyHeader request key = some value) : value ≠ [] := by
  unfold nonemptyHeader at found
  split at found
  · split at found
    · cases found
    · rename_i filled
      cases found
      exact filled
  · cases found

theorem hexId_ne_nil {size : Nat} {id : Bytes} (hex : HexId (size + 1) id) : id ≠ [] := by
  rintro rfl
  cases hex.1

section spans
variable (config : TracingConfig)

/-- A span with the ids that its chain allows, if the tracer keeps it at all. -/
def SpanIdsFrom (request : HttpRequest) (span : TraceSpan) : Prop :=
  span.sampled = true → RequestIds config request span.traceId span.spanId span.parentSpanId

theorem fromTraceParent_cases {request : HttpRequest} (valid : TraceParentValid config request) :
    (fromTraceParent config request extractTraceIdFromTraceParent = [] ∧
      fromTraceParent config request extractSpanIdFromTraceParent = []) ∨
    ∃ value : TraceParent,
      fromTraceParent config request extractTraceIdFromTraceParent = value.traceId ∧
      fromTraceParent config request extractSpanIdFromTraceParent = value.spanId := by
  unfold fromTraceParent
  cases accepts : config.acceptTraceparent with
  | false => exact Or.inl ⟨rfl, rfl⟩
  | true =>
    cases header : request.headers[bytes "traceparent"]? with
    | none => exact Or.inl ⟨rfl, rfl⟩
    | some text =>
      by_cases shaped : isTraceParent text = true
      · obtain ⟨value, rfl⟩ := valid accepts text header shaped
        exact Or.inr ⟨value, (traceParent_ids value).2⟩
      · refine Or.inl ⟨?_, ?_⟩
        · simp [extractTraceIdFromTraceParent, shaped]
        · simp [extractSpanIdFromTraceParent, shaped]

structure ServerIds (request : HttpRequest) (span : TraceSpan) : Prop where
  span_hex : HexId 16 span.spanId
  parent : span.parentSpanId = extractParentSpanIdFromRequest config request
  extracted : extractTraceIdFromRequest config request ≠ [] →
    span.traceId = extractTraceIdFromRequest config request
  generated : extractTraceIdFromRequest config request = [] → HexId 32 span.traceId

theorem startServerSpan_cases (request : HttpRequest) (name : Bytes) (env : TracerEnv) :
    let sampled := if config.enabled then (shouldSample config env.state).1 else false
    let span := (startServerSpan config request name env).1
    span.sampled = sampled ∧ (sampled = false → span.parentSpanId = []) ∧
      (sampled = true → ServerIds config request span) := by
  intro sampled
  unfold startServerSpan
  extract_lets startedAt startUnixMs ticked sample span extracted trace own out
  have same : span.sampled = sampled := by
    unfold span sample sampled ticked
    cases config.enabled <;> rfl
  cases verdict : sampled with
  | false =>
    rw [verdict] at same
    have unkept : out = span := by simp [out, same]
    rw [unkept]
    exact ⟨same, fun _ => rfl, by simp⟩
  | true =>
    rw [verdict] at same
    have kept : out = { span with
        traceId := trace.1
        parentSpanId := extractParentSpanIdFromRequest config request
        spanId := own.1 } := by simp [out, same]
    rw [kept]
    refine ⟨same, by simp, fun _ => ⟨generateId_hex 8 16 trace.2, rfl, ?_, ?_⟩⟩
    · intro present
      simp only [trace]
      rw [if_neg present]
    · intro absent
      simp only [trace]
      rw [if_pos absent]
      exact generateId_hex 24 32 sample.2

theorem server_ids (request : HttpRequest) (span : TraceSpan)
    (ids : ServerIds config request span) :
    RequestIds config request span.traceId span.spanId span.parentSpanId := by
  obtain ⟨own, parent, extracted, generated⟩ := ids
  unfold extractTraceIdFromRequest at extracted generated
  unfold extractParentSpanIdFromRequest at parent
  refine ⟨own, ?_, ?_, ?_, ?_⟩
  · intro value header
    have filled : value ≠ [] := nonemptyHeader_ne_nil header
    rw [header] at extracted
    exact extracted filled
  · intro absent valid
    rw [absent] at extracted generated
    rcases fromTraceParent_cases config valid with ⟨untaken, _⟩ | ⟨value, taken, _⟩
    · exact generated untaken
    · simp only [taken] at extracted
      rw [extracted (hexId_ne_nil value.trace_hex)]
      exact value.trace_hex
  · intro value header
    refine Or.inl ?_
    unfold customParent at header
    cases first : nonemptyHeader request (bytes "X-Span-Id") with
    | some value' => simpa [first, parent] using header
    | none =>
      rw [first, Option.none_or] at header
      simp [first, header, parent]
  · intro absent valid
    obtain ⟨first, second⟩ := Option.or_eq_none_iff.mp absent
    rw [first, second] at parent
    rw [parent]
    rcases fromTraceParent_cases config valid with ⟨_, untaken⟩ | ⟨value, _, taken⟩
    · exact Or.inl untaken
    · exact Or.inr (by simpa [taken] using value.span_hex)

/-- A client span keeps the trace of its parent and has the parent's own id for parent. -/
theorem client_ids (request : HttpRequest) (parent : TraceSpan) (name : Bytes) (env : TracerEnv)
    (before : SpanIdsFrom config request parent) :
    SpanIdsFrom config request (startClientSpan parent name env).1 := by
  unfold startClientSpan
  intro sampled
  cases kept : parent.sampled with
  | false => simp [kept] at sampled
  | true =>
    obtain ⟨own, custom, hex, _, _⟩ := before kept
    simp only [Bool.not_true, Bool.false_eq_true, ↓reduceIte]
    exact ⟨generateId_hex 8 16 _, custom, hex, fun _ _ => Or.inr own, fun _ _ => Or.inr own⟩

end spans

/-- The spans are named by the order in which they were started; a span may be finished again. -/
inductive TracerAction where
  | startServer (request : HttpRequest) (name : Bytes)
  | startClient (parent : Nat) (name : Bytes)
  | finish (span : Nat) (kind path upstream : Bytes) (status : Int) (attributes : ByteMap Bytes)

/-- The tracer with the spans it has started, each beside the request of its chain. -/
structure TracerRun where
  env : TracerEnv
  started : List (HttpRequest × TraceSpan) := []

section runs
variable (config : TracingConfig)

def step (run : TracerRun) : TracerAction → TracerRun
  | .startServer request name =>
    let span := startServerSpan config request name run.env
    ⟨span.2, run.started ++ [(request, span.1)]⟩
  | .startClient parent name =>
    match run.started[parent]? with
    | none => run
    | some (request, parent) =>
      let span := startClientSpan parent name run.env
      ⟨span.2, run.started ++ [(request, span.1)]⟩
  | .finish span kind path upstream status attributes =>
    match run.started[span]? with
    | none => run
    | some (_, span) =>
      { run with env := finishSpan config span kind path upstream status attributes run.env }

def freshTracer (steady : SteadyClock) (system : SystemClock) (hexDraws : Nat → UInt64)
    (sampleDraws : Nat → Rat) : TracerEnv where
  steady := steady
  system := system
  deadline := none
  state := { hexDraws := hexDraws, sampleDraws := sampleDraws }

def runTracer (env : TracerEnv) (actions : List TracerAction) : TracerRun :=
  actions.foldl (step config) ⟨env, []⟩

/-- The record that an action adds to the finished spans, beside the request of its span's chain. -/
def recordOf (run : TracerRun) : TracerAction → Option (HttpRequest × FinishedSpan)
  | .finish span kind path upstream status attributes =>
    match run.started[span]? with
    | none => none
    | some (request, span) =>
      (finishedOf config span kind path upstream status attributes run.env.now).map
        (Prod.mk request)
  | _ => none

def recordsFrom : TracerRun → List TracerAction → List (HttpRequest × FinishedSpan)
  | _, [] => []
  | run, action :: later =>
    (recordOf config run action).toList ++ recordsFrom (step config run action) later

/-- What a run from an idle tracer leaves in the deque: the last of its records, each with ids that
    the request at the root of its own chain allows. -/
structure FinishedIds (env : TracerEnv) (actions : List TracerAction) : Prop where
  kept : (runTracer config env actions).env.state.finishedSpans =
    keepLast config.maxFinishedSpans ((recordsFrom config ⟨env, []⟩ actions).map Prod.snd)
  ids : ∀ request record, (request, record) ∈ recordsFrom config ⟨env, []⟩ actions →
    RequestIds config request record.traceId record.spanId record.parentSpanId

def StartedIds (run : TracerRun) : Prop :=
  ∀ entry ∈ run.started, SpanIdsFrom config entry.1 entry.2

theorem step_started {run : TracerRun} (action : TracerAction) (before : StartedIds config run) :
    StartedIds config (step config run action) := by
  cases action with
  | startServer request name =>
    intro entry member
    rcases List.mem_append.mp member with old | new
    · exact before entry old
    · rw [List.mem_singleton.mp new]
      intro sampled
      obtain ⟨same, _, ids⟩ := startServerSpan_cases config request name run.env
      exact server_ids config request _ (ids (same.symm.trans sampled))
  | startClient parent name =>
    simp only [step]
    cases found : run.started[parent]? with
    | none => exact before
    | some entry =>
      intro other member
      rcases List.mem_append.mp member with old | new
      · exact before other old
      · rw [List.mem_singleton.mp new]
        exact client_ids config entry.1 entry.2 name run.env
          (before entry (List.mem_of_getElem? found))
  | finish span kind path upstream status attributes =>
    simp only [step]
    cases run.started[span]? <;> exact before

theorem finishedOf_ids {span : TraceSpan} {kind path upstream : Bytes} {status now : Int}
    {attributes : ByteMap Bytes} {record : FinishedSpan}
    (recorded : finishedOf config span kind path upstream status attributes now = some record) :
    span.sampled = true ∧ record.traceId = span.traceId ∧ record.spanId = span.spanId ∧
      record.parentSpanId = span.parentSpanId := by
  unfold finishedOf at recorded
  split at recorded
  · cases recorded
  · rename_i kept
    cases recorded
    refine ⟨?_, rfl, rfl, rfl⟩
    cases sampled : span.sampled with
    | true => rfl
    | false => simp [sampled] at kept

theorem recordOf_ids {run : TracerRun} {action : TracerAction} {request : HttpRequest}
    {record : FinishedSpan} (before : StartedIds config run)
    (recorded : recordOf config run action = some (request, record)) :
    RequestIds config request record.traceId record.spanId record.parentSpanId := by
  cases action with
  | startServer request name => cases recorded
  | startClient parent name => cases recorded
  | finish span kind path upstream status attributes =>
    simp only [recordOf] at recorded
    cases found : run.started[span]? with
    | none => simp [found] at recorded
    | some entry =>
      simp only [found, Option.map_eq_some_iff, Prod.mk.injEq] at recorded
      obtain ⟨_, own, rfl, rfl⟩ := recorded
      obtain ⟨sampled, trace, id, parent⟩ := finishedOf_ids config own
      rw [trace, id, parent]
      exact before entry (List.mem_of_getElem? found) sampled

theorem step_finished (run : TracerRun) (action : TracerAction) :
    (step config run action).env.state.finishedSpans =
      match recordOf config run action with
      | none => run.env.state.finishedSpans
      | some (_, record) =>
        keepLast config.maxFinishedSpans (run.env.state.finishedSpans ++ [record]) := by
  cases action with
  | startServer request name => exact (startServerSpan_kept config request name run.env).2
  | startClient parent name =>
    simp only [step, recordOf]
    cases found : run.started[parent]? with
    | none => rfl
    | some entry => exact (startClientSpan_kept entry.2 name run.env).2
  | finish span kind path upstream status attributes =>
    simp only [step, recordOf]
    cases found : run.started[span]? with
    | none => rfl
    | some entry =>
      simp only [finishSpan_finished]
      cases finishedOf config entry.2 kind path upstream status attributes run.env.now <;> rfl

/-- By induction on the actions, for the records of a run behind any others. -/
theorem recordsFrom_kept (actions : List TracerAction) (run : TracerRun)
    (earlier : List FinishedSpan)
    (before : run.env.state.finishedSpans = keepLast config.maxFinishedSpans earlier) :
    (actions.foldl (step config) run).env.state.finishedSpans =
      keepLast config.maxFinishedSpans
        (earlier ++ (recordsFrom config run actions).map Prod.snd) := by
  induction actions generalizing run earlier with
  | nil => simpa [recordsFrom] using before
  | cons action later ih =>
    have sink := step_finished config run action
    rw [List.foldl_cons, recordsFrom]
    cases recorded : recordOf config run action with
    | none =>
      rw [recorded] at sink
      exact ih (step config run action) earlier (sink.trans before)
    | some entry =>
      simp only [recorded, before, keepLast_snoc] at sink
      rw [ih (step config run action) (earlier ++ [entry.2]) sink]
      simp

theorem recordsFrom_ids (actions : List TracerAction) {run : TracerRun}
    (before : StartedIds config run) {request : HttpRequest} {record : FinishedSpan}
    (member : (request, record) ∈ recordsFrom config run actions) :
    RequestIds config request record.traceId record.spanId record.parentSpanId := by
  induction actions generalizing run with
  | nil => cases member
  | cons action later ih =>
    rcases List.mem_append.mp member with own | behind
    · exact recordOf_ids config before (Option.mem_toList.mp own)
    · exact ih (step_started config action before) behind

/-- Every span the tracer keeps has well-formed ids, as far as the request at the root of its own
    chain did not bring them in a custom header or in a traceparent that is no W3C value. -/
theorem finished_ids (steady : SteadyClock) (system : SystemClock) (hexDraws : Nat → UInt64)
    (sampleDraws : Nat → Rat) (actions : List TracerAction) :
    FinishedIds config (freshTracer steady system hexDraws sampleDraws) actions := by
  refine ⟨?_, fun request record member => ?_⟩
  · have kept := recordsFrom_kept config actions
      ⟨freshTracer steady system hexDraws sampleDraws, []⟩ [] (by simp [freshTracer])
    simpa [runTracer] using kept
  · exact recordsFrom_ids config actions (by simp [StartedIds]) member

end runs

section kept_as_sent

def keptSpans (header value : Bytes) : List FinishedSpan :=
  (runTracer {} (freshTracer (ticking 1) (stopped 0) (fun _ => 0) (fun _ => 0))
    [.startServer { headers := (∅ : ByteMap Bytes).insert header value } (bytes "gateway.handle"),
      .finish 0 (bytes "server") (bytes "/api/user/login") (bytes "UserService") 200
        ∅]).env.state.finishedSpans

theorem exists_kept {header value traceId : Bytes}
    (kept : (keptSpans header value).map (·.traceId) = [traceId]) :
    ∃ span ∈ keptSpans header value, span.traceId = traceId := by
  have named : traceId ∈ (keptSpans header value).map (·.traceId) := by simp [kept]
  obtain ⟨span, member, same⟩ := List.mem_map.mp named
  exact ⟨span, member, same⟩

def w3cValue : TraceParent where
  version := bytes "00"
  traceId := bytes "4bf92f3577b34da6a3ce929d0e0e4736"
  spanId := bytes "00f067aa0ba902b7"
  flags := bytes "01"
  version_hex := by decide +kernel
  version_known := by decide
  trace_hex := by decide +kernel
  trace_nonzero := by decide
  span_hex := by decide +kernel
  span_nonzero := by decide
  flags_hex := by decide +kernel

def withTraceparent (value : Bytes) : HttpRequest :=
  { headers := (∅ : ByteMap Bytes).insert (bytes "traceparent") value }

/-- A request with a traceparent that is no W3C value, and the forwarded call of another one. -/
def mixedRequests : List TracerAction :=
  [.startServer (withTraceparent (bytes "00-THE TRACE ID OF ANOTHER REQUEST.-a span id of it.-01"))
      (bytes "gateway.handle"),
    .startServer (withTraceparent w3cValue.text) (bytes "gateway.handle"),
    .startClient 1 (bytes "gateway.upstream"),
    .finish 2 (bytes "client") (bytes "/login") (bytes "UserService") 200 ∅]

theorem finished_ids_traceparent : ∃ record,
    (withTraceparent w3cValue.text, record) ∈ recordsFrom {}
      ⟨freshTracer (ticking 1) (stopped 0) (fun _ => 0) (fun _ => 0), []⟩ mixedRequests ∧
    HexId 32 record.traceId := by
  have own : (recordsFrom {} ⟨freshTracer (ticking 1) (stopped 0) (fun _ => 0) (fun _ => 0), []⟩
      mixedRequests).map Prod.fst = [withTraceparent w3cValue.text] := rfl
  obtain ⟨record, member⟩ : ∃ record, (withTraceparent w3cValue.text, record) ∈ recordsFrom {}
      ⟨freshTracer (ticking 1) (stopped 0) (fun _ => 0) (fun _ => 0), []⟩ mixedRequests := by
    have first : withTraceparent w3cValue.text ∈ (recordsFrom {}
        ⟨freshTracer (ticking 1) (stopped 0) (fun _ => 0) (fun _ => 0), []⟩
        mixedRequests).map Prod.fst := by rw [own]; exact List.mem_singleton_self _
    obtain ⟨entry, member, same⟩ := List.mem_map.mp first
    exact ⟨entry.2, same ▸ member⟩
  have ids := (finished_ids {} (ticking 1) (stopped 0) (fun _ => 0) (fun _ => 0)
    mixedRequests).ids _ record member
  refine ⟨record, member, ids.trace_hex (by decide) fun _ text sent _ => ⟨w3cValue, ?_⟩⟩
  simpa [withTraceparent] using sent.symm

theorem malformed_of_kept {header value traceId : Bytes}
    (kept : (keptSpans header value).map (·.traceId) = [traceId]) (malformed : ¬ HexId 32 traceId) :
    ¬ ∀ span ∈ keptSpans header value, HexId 32 span.traceId := by
  intro hex
  obtain ⟨span, member, same⟩ := exists_kept kept
  exact malformed (same ▸ hex span member)

/-- The smoke test names the trace of its login itself; a traceparent of the right shape is sliced
    whatever it holds. -/
theorem script_trace_id_kept :
    (keptSpans (bytes "X-Trace-Id") (bytes "smoke-login-trace")).map (·.traceId) =
        [bytes "smoke-login-trace"] ∧
      (¬ ∀ span ∈ keptSpans (bytes "X-Trace-Id") (bytes "smoke-login-trace"),
        HexId 32 span.traceId) ∧
      ¬ ∀ span ∈ keptSpans (bytes "traceparent")
          (bytes "00-THE TRACE ID OF ANOTHER REQUEST.-a span id of it.-01"),
        HexId 32 span.traceId := by
  have kept : (keptSpans (bytes "X-Trace-Id") (bytes "smoke-login-trace")).map (·.traceId) =
      [bytes "smoke-login-trace"] := by decide
  have sliced : (keptSpans (bytes "traceparent")
      (bytes "00-THE TRACE ID OF ANOTHER REQUEST.-a span id of it.-01")).map (·.traceId) =
        [bytes "THE TRACE ID OF ANOTHER REQUEST."] := by decide
  exact ⟨kept, malformed_of_kept kept (by decide), malformed_of_kept sliced (by decide)⟩

end kept_as_sent

end TgwSpanIds
