import TgwGateway.Common.JsonEscaping
import TgwGateway.Observability.Tracing

/- The document that the tracer posts for a finished span: assembled by hand, with one closing
   brace more than was opened. -/
namespace TgwOtlpExport
open ByteStrings DecimalText JsonGrammar JsonStrings JsonScan JsonPrinter
open TgwStatus TgwJsonEscaping TgwTracing

def attributesOf (span : FinishedSpan) : List (Bytes × Bytes) :=
  [(bytes "http.route", span.path), (bytes "upstream", span.upstream),
    (bytes "http.status_code", intText span.status),
    (bytes "duration_ms", natText span.durationMs.toNat)] ++ span.attributes.toList

/-- One call of append_attr; the comma before it is left to the caller. -/
def appendAttr (attr : Bytes × Bytes) : Bytes :=
  List.flatten [bytes "\x7b\"key\":\"", jsonEscape attr.1,
    bytes "\",\"value\":\x7b\"stringValue\":\"", jsonEscape attr.2, bytes "\"\x7d\x7d"]

def appendAttrs : List (Bytes × Bytes) → Bytes
  | [] => []
  | [attr] => appendAttr attr
  | attr :: attrs => appendAttr attr ++ bytes "," ++ appendAttrs attrs

def kindNumber (span : FinishedSpan) : Int := if span.kind = bytes "server" then 2 else 3

def statusCode (span : FinishedSpan) : Int := if 500 ≤ span.status then 2 else 1

def buildOtlpJson (span : FinishedSpan) : Bytes :=
  let startNs := span.startUnixMs * 1000000
  let endNs := (span.startUnixMs + span.durationMs) * 1000000
  List.flatten [
    bytes "\x7b",
    bytes "\"resourceSpans\":[\x7b",
    bytes "\"resource\":\x7b\"attributes\":[",
    bytes "\x7b\"key\":\"service.name\",\"value\":\x7b\"stringValue\":\"",
    jsonEscape span.serviceName, bytes "\"\x7d\x7d",
    bytes "]\x7d,",
    bytes "\"scopeSpans\":[\x7b",
    bytes "\"scope\":\x7b\"name\":\"tgw-gateway-platform\",\"version\":\"0.1.0\"\x7d,",
    bytes "\"spans\":[\x7b",
    bytes "\"traceId\":\"", jsonEscape span.traceId, bytes "\",",
    bytes "\"spanId\":\"", jsonEscape span.spanId, bytes "\",",
    if span.parentSpanId = [] then []
    else List.flatten [bytes "\"parentSpanId\":\"", jsonEscape span.parentSpanId, bytes "\","],
    bytes "\"name\":\"", jsonEscape span.name, bytes "\",",
    bytes "\"kind\":", intText (kindNumber span), bytes ",",
    bytes "\"startTimeUnixNano\":\"", natText startNs.toNat, bytes "\",",
    bytes "\"endTimeUnixNano\":\"", natText endNs.toNat, bytes "\",",
    bytes "\"attributes\":[",
    appendAttrs (attributesOf span),
    bytes "],",
    bytes "\"status\":\x7b\"code\":", intText (statusCode span), bytes "\x7d",
    bytes "\x7d]\x7d]\x7d]\x7d",
    bytes "\x7d"]

section tree

def attributeTree (attr : Bytes × Bytes) : JsonTree :=
  .object [(bytes "key", textTree attr.1),
    (bytes "value", .object [(bytes "stringValue", textTree attr.2)])]

def namedMembers (span : FinishedSpan) : List (Bytes × JsonTree) :=
  [(bytes "name", textTree span.name),
    (bytes "kind", .number (intText (kindNumber span))),
    (bytes "startTimeUnixNano", .string (natText (span.startUnixMs * 1000000).toNat)),
    (bytes "endTimeUnixNano",
      .string (natText ((span.startUnixMs + span.durationMs) * 1000000).toNat)),
    (bytes "attributes", .array ((attributesOf span).map attributeTree)),
    (bytes "status", .object [(bytes "code", .number (intText (statusCode span)))])]

def spanTree (span : FinishedSpan) : JsonTree :=
  .object <|
    (bytes "traceId", textTree span.traceId) :: (bytes "spanId", textTree span.spanId) ::
      if span.parentSpanId = [] then namedMembers span
      else (bytes "parentSpanId", textTree span.parentSpanId) :: namedMembers span

def otlpTree (span : FinishedSpan) : JsonTree :=
  .object [(bytes "resourceSpans", .array [.object [
    (bytes "resource", .object [(bytes "attributes", .array [
      .object [(bytes "key", .string (bytes "service.name")),
        (bytes "value", .object [(bytes "stringValue", textTree span.serviceName)])]])]),
    (bytes "scopeSpans", .array [.object [
      (bytes "scope", .object [(bytes "name", .string (bytes "tgw-gateway-platform")),
        (bytes "version", .string (bytes "0.1.0"))]),
      (bytes "spans", .array [spanTree span])]])]])]

end tree

/-- The fragments of the source, cut where the grammar cuts. -/
theorem fragments :
    bytes "\"resourceSpans\":[\x7b" = 34 :: (bytes "resourceSpans" ++ [34, 58, 91, 123]) ∧
    bytes "\"resource\":\x7b\"attributes\":[" =
      34 :: (bytes "resource" ++ 34 :: 58 :: 123 :: 34 :: (bytes "attributes" ++ [34, 58, 91])) ∧
    bytes "\x7b\"key\":\"service.name\",\"value\":\x7b\"stringValue\":\"" =
      123 :: 34 :: (bytes "key" ++ 34 :: 58 :: 34 :: (bytes "service.name" ++ 34 :: 44 :: 34 ::
        (bytes "value" ++ 34 :: 58 :: 123 :: 34 :: (bytes "stringValue" ++ [34, 58, 34])))) ∧
    bytes "\"scopeSpans\":[\x7b" = 34 :: (bytes "scopeSpans" ++ [34, 58, 91, 123]) ∧
    bytes "\"scope\":\x7b\"name\":\"tgw-gateway-platform\",\"version\":\"0.1.0\"\x7d," =
      34 :: (bytes "scope" ++ 34 :: 58 :: 123 :: 34 :: (bytes "name" ++ 34 :: 58 :: 34 ::
        (bytes "tgw-gateway-platform" ++ 34 :: 44 :: 34 :: (bytes "version" ++ 34 :: 58 :: 34 ::
          (bytes "0.1.0" ++ [34, 125, 44]))))) ∧
    bytes "\"spans\":[\x7b" = 34 :: (bytes "spans" ++ [34, 58, 91, 123]) ∧
    bytes "\"traceId\":\"" = 34 :: (bytes "traceId" ++ [34, 58, 34]) ∧
    bytes "\"spanId\":\"" = 34 :: (bytes "spanId" ++ [34, 58, 34]) ∧
    bytes "\"parentSpanId\":\"" = 34 :: (bytes "parentSpanId" ++ [34, 58, 34]) ∧
    bytes "\"name\":\"" = 34 :: (bytes "name" ++ [34, 58, 34]) ∧
    bytes "\"kind\":" = 34 :: (bytes "kind" ++ [34, 58]) ∧
    bytes "\"startTimeUnixNano\":\"" = 34 :: (bytes "startTimeUnixNano" ++ [34, 58, 34]) ∧
    bytes "\"endTimeUnixNano\":\"" = 34 :: (bytes "endTimeUnixNano" ++ [34, 58, 34]) ∧
    bytes "\"attributes\":[" = 34 :: (bytes "attributes" ++ [34, 58, 91]) ∧
    bytes "\"status\":\x7b\"code\":" =
      34 :: (bytes "status" ++ 34 :: 58 :: 123 :: 34 :: (bytes "code" ++ [34, 58])) := by
  decide +kernel

theorem attributeFragments :
    bytes "\x7b\"key\":\"" = 123 :: 34 :: (bytes "key" ++ [34, 58, 34]) ∧
    bytes "\",\"value\":\x7b\"stringValue\":\"" =
      34 :: 44 :: 34 :: (bytes "value" ++ 34 :: 58 :: 123 :: 34 ::
        (bytes "stringValue" ++ [34, 58, 34])) := by
  decide +kernel

theorem marks :
    bytes "\x7b" = [123] ∧ bytes "\"\x7d\x7d" = [34, 125, 125] ∧ bytes "]\x7d," = [93, 125, 44] ∧
      bytes "\"," = [34, 44] ∧ bytes "," = [44] ∧ bytes "]," = [93, 44] ∧ bytes "\x7d" = [125] ∧
      bytes "\x7d]\x7d]\x7d]\x7d" = [125, 93, 125, 93, 125, 93, 125] := by
  decide +kernel

theorem appendAttrs_render (attrs : List (Bytes × Bytes)) :
    appendAttrs attrs = renderItems (attrs.map attributeTree) := by
  obtain ⟨f1, f2⟩ := attributeFragments
  obtain ⟨_, m2, _, _, m5, _⟩ := marks
  have one : ∀ attr, appendAttr attr = render (attributeTree attr) := by
    intro attr
    simp [appendAttr, attributeTree, textTree, f1, f2, m2, render, renderMembers]
  induction attrs with
  | nil => rfl
  | cons attr attrs ih =>
    cases attrs with
    | nil => simp [appendAttrs, renderItems, one]
    | cons next attrs => simp [appendAttrs, renderItems, one, m5, ih]

theorem buildOtlpJson_render (span : FinishedSpan) :
    buildOtlpJson span = render (otlpTree span) ++ [125] := by
  obtain ⟨f1, f2, f3, f4, f5, f6, f7, f8, f9, f10, f11, f12, f13, f14, f15⟩ := fragments
  obtain ⟨m1, m2, m3, m4, m5, m6, m7, m8⟩ := marks
  unfold buildOtlpJson otlpTree spanTree namedMembers textTree
  simp only [appendAttrs_render, f1, f2, f3, f4, f5, f6, f7, f8, f9, f10, f11, f12, f13, f14, f15,
    m1, m2, m3, m4, m5, m6, m7, m8]
  -- the texts are long, so no step is left to the unfolding of an append
  by_cases root : span.parentSpanId = [] <;>
    simp only [root, ↓reduceIte, render_object_append, render_array_append, render_string_append,
      render_number_append, renderItems_one_append, renderMembers_one_append,
      renderMembers_more_append] <;>
    simp -implicitDefEqProofs only [List.flatten_cons, List.flatten_nil, List.append_assoc,
      List.cons_append, List.nil_append, List.append_nil]

def textsOf (span : FinishedSpan) : List Bytes :=
  [span.serviceName, span.traceId, span.spanId, span.parentSpanId, span.name] ++
    (attributesOf span).flatMap fun attr => [attr.1, attr.2]

section written
variable {body : Bytes → Prop} (plain : ∀ name : Bytes, name.all isUnescaped = true → body name)
variable (span : FinishedSpan) (texts : ∀ s ∈ textsOf span, body (jsonEscape s))
include plain texts

theorem attributes_written :
    WrittenItems body ((attributesOf span).map attributeTree) := by
  rw [writtenItems_iff]
  intro item member
  obtain ⟨⟨key, value⟩, inside, rfl⟩ := List.mem_map.mp member
  have given : ∀ s ∈ [key, value], body (jsonEscape s) := by
    intro s own
    refine texts s (List.mem_append_right _ (List.mem_flatMap.mpr ⟨(key, value), inside, own⟩))
  simp only [attributeTree, textTree, Written, WrittenMembers, and_true]
  exact ⟨plain _ (by decide), given key (by simp), plain _ (by decide), plain _ (by decide),
    given value (by simp)⟩

theorem namedMembers_written : WrittenMembers body (namedMembers span) := by
  simp only [namedMembers, textTree, Written, WrittenMembers, and_true]
  refine ⟨plain _ (by decide), texts _ (by simp [textsOf]), plain _ (by decide), intText_number _,
    plain _ (by decide), plain _ (natText_unescaped _), plain _ (by decide),
    plain _ (natText_unescaped _), plain _ (by decide), attributes_written plain span texts,
    plain _ (by decide), plain _ (by decide), intText_number _⟩

theorem spanTree_written : Written body (spanTree span) := by
  have named := namedMembers_written plain span texts
  unfold spanTree
  rw [Written, WrittenMembers, WrittenMembers]
  refine ⟨plain _ (by decide), texts _ (by simp [textsOf]), plain _ (by decide),
    texts _ (by simp [textsOf]), ?_⟩
  split
  · exact named
  · exact ⟨plain _ (by decide), texts _ (by simp [textsOf]), named⟩

theorem otlpTree_written : Written body (otlpTree span) := by
  have exported := spanTree_written plain span texts
  simp only [otlpTree, textTree, Written, WrittenItems, WrittenMembers, and_true]
  have service : body (jsonEscape span.serviceName) := texts _ (by simp [textsOf])
  refine ⟨plain _ (by decide), plain _ (by decide), ⟨?_, ?_, ?_, ?_, ?_, service⟩,
    plain _ (by decide), plain _ (by decide), ⟨?_, ?_, ?_, ?_⟩, plain _ (by decide), exported⟩ <;>
    exact plain _ (by decide)

end written

/-- The tree at resourceSpans[0].scopeSpans[0].spans[0]. -/
def exportedSpan (tree : JsonTree) : Option JsonTree := do
  let resource ← memberOf (bytes "resourceSpans") tree >>= itemAt 0
  let scope ← memberOf (bytes "scopeSpans") resource >>= itemAt 0
  memberOf (bytes "spans") scope >>= itemAt 0

def attributeOf : JsonTree → Option (Bytes × Bytes)
  | .object [(key, name), (value, .object [(stringKey, text)])] =>
    if decoded key = some (bytes "key") ∧ decoded value = some (bytes "value") ∧
        decoded stringKey = some (bytes "stringValue") then do
      return (← stringValue name, ← stringValue text)
    else none
  | _ => none

structure DescribesSpan (tree : JsonTree) (span : FinishedSpan) : Prop where
  traceId : textAt (bytes "traceId") tree = some span.traceId
  spanId : textAt (bytes "spanId") tree = some span.spanId
  parentSpanId : textAt (bytes "parentSpanId") tree =
    if span.parentSpanId = [] then none else some span.parentSpanId
  name : textAt (bytes "name") tree = some span.name
  kind : memberOf (bytes "kind") tree >>= numberLiteral = some (intText (kindNumber span))
  start : textAt (bytes "startTimeUnixNano") tree =
    some (natText (span.startUnixMs.toNat * 1000000))
  finish : textAt (bytes "endTimeUnixNano") tree =
    some (natText ((span.startUnixMs.toNat + span.durationMs.toNat) * 1000000))
  attributes : ∃ items, memberOf (bytes "attributes") tree = some (.array items) ∧
    items.map attributeOf = (attributesOf span).map some

/-- The document of a span is well formed and tells what the span is. -/
def ExportsSpan (span : FinishedSpan) : Prop :=
  ∃ tree item, JsonText (buildOtlpJson span) tree ∧ exportedSpan tree = some item ∧
    DescribesSpan item span

/-- The document is closed before its last brace, so its brackets do not match. -/
theorem buildOtlpJson_unbalanced (span : FinishedSpan) : ¬ WellFormed (buildOtlpJson span) := by
  intro formed
  have closed := render_scan
    (otlpTree_written (fun _ => unescaped_closed) span fun s _ => jsonEscape_closed s) 0
  have balanced := (wellFormed_scan formed).2
  rw [buildOtlpJson_render, scan_append, closed] at balanced
  exact absurd balanced (by decide)

theorem attributeOf_attributeTree (attr : Bytes × Bytes) :
    attributeOf (attributeTree attr) = some attr := by
  have names : decoded (bytes "key") = some (bytes "key") ∧
      decoded (bytes "value") = some (bytes "value") ∧
      decoded (bytes "stringValue") = some (bytes "stringValue") := by
    decide +kernel
  simp [attributeOf, attributeTree, names, stringValue_textTree]

theorem exportedSpan_otlpTree (span : FinishedSpan) :
    exportedSpan (otlpTree span) = some (spanTree span) := by
  unfold exportedSpan otlpTree
  rw [memberOf_own (by decide)]
  simp only [Option.bind_eq_bind, Option.bind_some, itemAt, List.getElem?_cons_zero]
  rw [memberOf_other (by decide) (by decide), memberOf_own (by decide)]
  simp only [Option.bind_some, itemAt, List.getElem?_cons_zero]
  rw [memberOf_other (by decide) (by decide), memberOf_own (by decide)]
  rfl

theorem nanoseconds_fit {ms : UInt64} {n : Nat} (value : ms.toNat = n)
    (fits : n * 1000000 < UInt64.size) :
    (ms * 1000000).toNat = n * 1000000 := by
  rw [UInt64.toNat_mul, value]
  exact Nat.mod_eq_of_lt fits

section lookups
variable (span : FinishedSpan)

theorem memberOf_span {name : Bytes} (noTrace : bytes "traceId" ≠ name)
    (noSpan : bytes "spanId" ≠ name) (noParent : bytes "parentSpanId" ≠ name) :
    memberOf name (spanTree span) = memberOf name (.object (namedMembers span)) := by
  unfold spanTree
  rw [memberOf_other (by decide) noTrace, memberOf_other (by decide) noSpan]
  split
  · rfl
  · rw [memberOf_other (by decide) noParent]

theorem textAt_span {name : Bytes} {s : Bytes} (found : memberOf name (spanTree span) =
    some (textTree s)) : textAt name (spanTree span) = some s := by
  rw [textAt, found]
  exact stringValue_textTree s

theorem parent_span : textAt (bytes "parentSpanId") (spanTree span) =
    if span.parentSpanId = [] then none else some span.parentSpanId := by
  unfold textAt spanTree
  rw [memberOf_other (by decide) (by decide), memberOf_other (by decide) (by decide)]
  split
  · unfold namedMembers
    rw [memberOf_other (by decide) (by decide), memberOf_other (by decide) (by decide),
      memberOf_other (by decide) (by decide), memberOf_other (by decide) (by decide),
      memberOf_other (by decide) (by decide), memberOf_other (by decide) (by decide)]
    rfl
  · rw [memberOf_own (by decide)]
    exact stringValue_textTree span.parentSpanId

/-- The times are those of the span as far as their nanoseconds have 64 bits. -/
theorem spanTree_describes
    (fits : (span.startUnixMs.toNat + span.durationMs.toNat) * 1000000 < UInt64.size) :
    DescribesSpan (spanTree span) span := by
  have smaller : ∀ a b size : Nat, (a + b) * 1000000 < size → a * 1000000 < size ∧ a + b < size := by
    intro a b size below
    omega
  obtain ⟨early, below⟩ := smaller _ _ _ fits
  have started := nanoseconds_fit rfl early
  have total : (span.startUnixMs + span.durationMs).toNat =
      span.startUnixMs.toNat + span.durationMs.toNat := by
    rw [UInt64.toNat_add]
    exact Nat.mod_eq_of_lt below
  have ended := nanoseconds_fit total fits
  have digits : ∀ n : Nat, (some (JsonTree.string (natText n)) >>= stringValue) = some (natText n) := by
    intro n
    rw [Option.bind_eq_bind, Option.bind_some, stringValue]
    exact decoded_unescaped (natText_unescaped n)
  constructor
  · refine textAt_span span ?_
    rw [spanTree, memberOf_own (by decide)]
  · refine textAt_span span ?_
    rw [spanTree, memberOf_other (by decide) (by decide), memberOf_own (by decide)]
  · exact parent_span span
  · refine textAt_span span ?_
    rw [memberOf_span span (by decide) (by decide) (by decide), namedMembers,
      memberOf_own (by decide)]
  · rw [memberOf_span span (by decide) (by decide) (by decide), namedMembers,
      memberOf_other (by decide) (by decide), memberOf_own (by decide)]
    rfl
  · rw [textAt, memberOf_span span (by decide) (by decide) (by decide), namedMembers,
      memberOf_other (by decide) (by decide), memberOf_other (by decide) (by decide),
      memberOf_own (by decide), started, digits]
  · rw [textAt, memberOf_span span (by decide) (by decide) (by decide), namedMembers,
      memberOf_other (by decide) (by decide), memberOf_other (by decide) (by decide),
      memberOf_other (by decide) (by decide), memberOf_own (by decide), ended, digits]
  · refine ⟨(attributesOf span).map attributeTree, ?_, ?_⟩
    · rw [memberOf_span span (by decide) (by decide) (by decide), namedMembers,
        memberOf_other (by decide) (by decide), memberOf_other (by decide) (by decide),
        memberOf_other (by decide) (by decide), memberOf_other (by decide) (by decide),
        memberOf_own (by decide)]
    · rw [List.map_map]
      exact List.map_congr_left fun attr _ => attributeOf_attributeTree attr

end lookups

/-- Without that brace it would be the document of the span. -/
theorem document_before_last_brace (span : FinishedSpan)
    (regular : ∀ s ∈ textsOf span, Regular s)
    (fits : (span.startUnixMs.toNat + span.durationMs.toNat) * 1000000 < UInt64.size) :
    ∃ tree item, JsonText (buildOtlpJson span).dropLast tree ∧ exportedSpan tree = some item ∧
      DescribesSpan item span := by
  have text := render_text
    (otlpTree_written (fun _ => unescaped_body) span fun s own => jsonEscape_body (regular s own))
  rw [buildOtlpJson_render, List.dropLast_concat]
  exact ⟨otlpTree span, spanTree span, text, exportedSpan_otlpTree span,
    spanTree_describes span fits⟩

theorem no_span_exported (span : FinishedSpan) : ¬ ExportsSpan span := by
  rintro ⟨tree, item, text, _⟩
  exact buildOtlpJson_unbalanced span ⟨tree, text⟩

def loginSpan : FinishedSpan :=
  { traceId := bytes "4bf92f3577b34da6a3ce929d0e0e4736"
    spanId := bytes "00f067aa0ba902b7"
    name := bytes "gateway.request"
    serviceName := bytes "gateway"
    kind := bytes "server"
    path := bytes "/login"
    upstream := bytes "UserService"
    status := 200
    startUnixMs := 1
    durationMs := 2 }

theorem login_span_has_extra_brace :
    (∃ text, buildOtlpJson loginSpan = text ++ bytes "\x7d" ∧ WellFormed text) ∧
      ¬ ExportsSpan loginSpan := by
  constructor
  · have regular : ∀ s ∈ textsOf loginSpan, Regular s := by
      unfold Regular
      decide +kernel
    have written := otlpTree_written (fun _ => unescaped_body) loginSpan fun s own =>
      jsonEscape_body (regular s own)
    exact ⟨_, buildOtlpJson_render loginSpan, otlpTree loginSpan, render_text written⟩
  · rintro ⟨tree, item, text, _⟩
    exact buildOtlpJson_unbalanced loginSpan ⟨tree, text⟩

end TgwOtlpExport
