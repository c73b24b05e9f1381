import TgwGateway.Observability.SpanIds

/- Which trace the parent of a server span belongs to. Trace id and parent id come from different
   headers by two precedence rules of their own. -/
namespace TgwTraceLinks
open ByteStrings TgwClock TgwConfig TgwHttp TgwTracing TgwSpanIds

section links
variable (config : TracingConfig) (request : HttpRequest)

def traceParentHeader : Option Bytes :=
  if config.acceptTraceparent then
    request.headers[bytes "traceparent"]?.filter isTraceParent
  else none

/-- The request says that the span belongs to the trace: in its custom headers, or in its
    traceparent. -/
def Carries (traceId spanId : Bytes) : Prop :=
  (nonemptyHeader request (bytes "X-Trace-Id") = some traceId ∧ customParent request = some spanId) ∨
    ∃ text ∈ traceParentHeader config request,
      extractTraceIdFromTraceParent text = traceId ∧ extractSpanIdFromTraceParent text = spanId

/-- The parent of the span, if there is one, belongs to the trace of the span. -/
structure OneTrace (span : TraceSpan) : Prop where
  fresh : extractTraceIdFromRequest config request = [] → span.parentSpanId = []
  linked : span.parentSpanId ≠ [] → Carries config request span.traceId span.parentSpanId

/-- The headers give the trace and the parent from two different sources. -/
inductive MixedHeaders : Prop where
  | parent_alone (parent : Bytes) (untraced : nonemptyHeader request (bytes "X-Trace-Id") = none)
      (named : customParent request = some parent)
      (other : ∀ text ∈ traceParentHeader config request,
        extractSpanIdFromTraceParent text ≠ parent)
  | trace_alone (traceId text : Bytes)
      (traced : nonemptyHeader request (bytes "X-Trace-Id") = some traceId)
      (unnamed : customParent request = none)
      (taken : traceParentHeader config request = some text)
      (other : extractTraceIdFromTraceParent text ≠ traceId)

theorem fromTraceParent_eq (extract : Bytes → Bytes)
    (refuses : ∀ text, isTraceParent text = false → extract text = []) :
    fromTraceParent config request extract =
      ((traceParentHeader config request).map extract).getD [] := by
  unfold fromTraceParent traceParentHeader
  split
  · cases header : request.headers[bytes "traceparent"]? with
    | none => rfl
    | some text =>
      cases shaped : isTraceParent text with
      | true => simp [Option.filter, shaped]
      | false => simp [Option.filter, shaped, refuses text shaped]
  · rfl

theorem extractTraceId_eq : extractTraceIdFromRequest config request =
    (nonemptyHeader request (bytes "X-Trace-Id")).getD
      (((traceParentHeader config request).map extractTraceIdFromTraceParent).getD []) := by
  rw [← fromTraceParent_eq config request _ fun text shaped => by
    simp [extractTraceIdFromTraceParent, shaped]]
  unfold extractTraceIdFromRequest
  split <;> simp [*]

theorem extractParent_eq : extractParentSpanIdFromRequest config request =
    (customParent request).getD
      (((traceParentHeader config request).map extractSpanIdFromTraceParent).getD []) := by
  rw [← fromTraceParent_eq config request _ fun text shaped => by
    simp [extractSpanIdFromTraceParent, shaped]]
  unfold extractParentSpanIdFromRequest customParent
  split
  · simp [*]
  · split <;> simp [*]

theorem traceParentHeader_nonempty {text : Bytes}
    (taken : traceParentHeader config request = some text) :
    extractTraceIdFromTraceParent text ≠ [] ∧ extractSpanIdFromTraceParent text ≠ [] := by
  have shaped : isTraceParent text = true := by
    unfold traceParentHeader at taken
    split at taken
    · exact (Option.filter_eq_some_iff.mp taken).2
    · cases taken
  have long : 55 ≤ text.length := by
    simp only [isTraceParent, Bool.and_eq_true, decide_eq_true_eq] at shaped
    exact shaped.1.1.1
  constructor
  · rw [extractTraceIdFromTraceParent, if_pos shaped, ← List.length_pos_iff]
    simp
    omega
  · rw [extractSpanIdFromTraceParent, if_pos shaped, ← List.length_pos_iff]
    simp
    omega

theorem customParent_ne_nil {value : Bytes} (named : customParent request = some value) :
    value ≠ [] := by
  rcases Option.or_eq_some_iff.mp named with first | ⟨_, second⟩
  · exact nonemptyHeader_ne_nil first
  · exact nonemptyHeader_ne_nil second

section sampled
variable {config request} {span : TraceSpan} (ids : ServerIds config request span)
include ids

theorem custom_trace {traceId : Bytes}
    (traced : nonemptyHeader request (bytes "X-Trace-Id") = some traceId) :
    span.traceId = traceId := by
  have extracted := ids.extracted
  rw [extractTraceId_eq, traced, Option.getD_some] at extracted
  exact extracted (nonemptyHeader_ne_nil traced)

theorem header_trace {text : Bytes}
    (untraced : nonemptyHeader request (bytes "X-Trace-Id") = none)
    (taken : traceParentHeader config request = some text) :
    span.traceId = extractTraceIdFromTraceParent text := by
  have extracted := ids.extracted
  rw [extractTraceId_eq, untraced, taken] at extracted
  exact extracted (traceParentHeader_nonempty config request taken).1

theorem mixed_not_linked (mixed : MixedHeaders config request) : ¬ OneTrace config request span := by
  intro one
  have named := ids.parent
  rw [extractParent_eq] at named
  cases mixed with
  | parent_alone parent untraced own other =>
    rw [own, Option.getD_some] at named
    have some_ : span.parentSpanId ≠ [] := named ▸ customParent_ne_nil request own
    rcases one.linked some_ with ⟨traced, _⟩ | ⟨text, taken, _, same⟩
    · rw [untraced] at traced
      cases traced
    · exact other text taken (same.trans named)
  | trace_alone traceId text traced unnamed taken other =>
    rw [unnamed, taken] at named
    have some_ : span.parentSpanId ≠ [] :=
      named ▸ (traceParentHeader_nonempty config request taken).2
    rcases one.linked some_ with ⟨_, custom⟩ | ⟨text', taken', same, _⟩
    · rw [unnamed] at custom
      cases custom
    · obtain rfl : text = text' := Option.some.inj (taken.symm.trans taken')
      exact other (same.trans (custom_trace ids traced))

theorem unmixed_fresh (pure_ : ¬ MixedHeaders config request)
    (untaken : extractTraceIdFromRequest config request = []) : span.parentSpanId = [] := by
  have named := ids.parent
  rw [extractParent_eq] at named
  rw [extractTraceId_eq] at untaken
  cases traced : nonemptyHeader request (bytes "X-Trace-Id") with
  | some traceId =>
    rw [traced] at untaken
    exact absurd untaken (nonemptyHeader_ne_nil traced)
  | none =>
    cases taken : traceParentHeader config request with
    | some text =>
      rw [traced, taken] at untaken
      exact absurd untaken (traceParentHeader_nonempty config request taken).1
    | none =>
      cases custom : customParent request with
      | some parent =>
        refine absurd (MixedHeaders.parent_alone parent traced custom ?_) pure_
        simp [taken]
      | none => simpa [custom, taken] using named

theorem unmixed_linked (pure_ : ¬ MixedHeaders config request) (some_ : span.parentSpanId ≠ []) :
    Carries config request span.traceId span.parentSpanId := by
  have named := ids.parent
  rw [extractParent_eq] at named
  cases custom : customParent request with
  | some parent =>
    rw [custom, Option.getD_some] at named
    cases traced : nonemptyHeader request (bytes "X-Trace-Id") with
    | some traceId =>
      rw [custom_trace ids traced, named]
      exact Or.inl ⟨traced, custom⟩
    | none =>
      by_contra unlinked
      refine pure_ (.parent_alone parent traced custom fun text taken same => unlinked ?_)
      exact Or.inr ⟨text, taken, (header_trace ids traced taken).symm, same.trans named.symm⟩
  | none =>
    cases taken : traceParentHeader config request with
    | none =>
      rw [custom, taken] at named
      exact absurd named some_
    | some text =>
      rw [custom, taken] at named
      refine Or.inr ⟨text, taken, ?_, named.symm⟩
      cases traced : nonemptyHeader request (bytes "X-Trace-Id") with
      | none => exact (header_trace ids traced taken).symm
      | some traceId =>
        rw [custom_trace ids traced]
        by_contra other
        exact pure_ (.trace_alone traceId text traced custom taken other)

end sampled

/-- The parent of a server span belongs to its own trace exactly if the span is not sampled or the
    headers do not give the two from different sources. -/
theorem one_trace_iff (name : Bytes) (env : TracerEnv) :
    OneTrace config request (startServerSpan config request name env).1 ↔
      ((if config.enabled then (shouldSample config env.state).1 else false) = true →
        ¬ MixedHeaders config request) := by
  obtain ⟨_, unsampled, sampled⟩ := startServerSpan_cases config request name env
  cases verdict : (if config.enabled then (shouldSample config env.state).1 else false) with
  | false =>
    have none_ := unsampled verdict
    exact iff_of_true ⟨fun _ => none_, fun some_ => absurd none_ some_⟩ (by simp)
  | true =>
    have ids := sampled verdict
    exact ⟨fun one _ mixed => mixed_not_linked ids mixed one,
      fun unmixed => ⟨unmixed_fresh ids (unmixed rfl), unmixed_linked ids (unmixed rfl)⟩⟩

end links

/-- A script names its trace, the client it runs in has a trace of its own. -/
theorem script_span_has_foreign_parent :
    let request : HttpRequest :=
      { headers := ((∅ : ByteMap Bytes).insert (bytes "X-Trace-Id")
          (bytes "smoke-login-trace")).insert (bytes "traceparent")
          (bytes "00-4bf92f3577b34da6a3ce929d0e0e4736-00f067aa0ba902b7-01") }
    let span := (startServerSpan {} request (bytes "gateway.handle")
      (freshTracer (ticking 1) (stopped 0) (fun _ => 0) (fun _ => 0))).1
    span.traceId = bytes "smoke-login-trace" ∧ span.parentSpanId = bytes "00f067aa0ba902b7" ∧
      ¬ OneTrace {} request span := by
  intro request span
  have trace : span.traceId = bytes "smoke-login-trace" := by decide
  have parent : span.parentSpanId = bytes "00f067aa0ba902b7" := by decide
  refine ⟨trace, parent, fun one => ?_⟩
  have linked := one.linked (by rw [parent]; decide)
  rw [trace, parent] at linked
  rcases linked with ⟨_, custom⟩ | ⟨text, taken, other, _⟩
  · exact absurd custom (by decide)
  · have own : traceParentHeader {} request =
        some (bytes "00-4bf92f3577b34da6a3ce929d0e0e4736-00f067aa0ba902b7-01") := by decide
    obtain rfl := Option.some.inj (own.symm.trans taken)
    exact absurd other (by decide)

end TgwTraceLinks
