import TgwGateway.Gateway.ResponseHeaders
import TgwGateway.Gateway.SessionFlow

/- Responses as they leave on a connection: the fields that the session sets, and what a client
   reads that takes each body by its length. -/
namespace TgwWireResponses
open ByteStrings DecimalText HttpText TgwConfig TgwHttp TgwAuthFilter TgwHttpSession TgwSessionFlow
open TgwResponseHeaders

section definitions

def sessionFields : List Bytes := [bytes "Server", bytes "Content-Type", bytes "Content-Length"]

def DistinctFields (fields : List (Bytes × Bytes)) : Prop :=
  fields.Pairwise fun a b => toLower a.1 ≠ toLower b.1

/-- What every response has: the fields of the session as the session sets them, and beside them
    only those that the gateway knows. -/
structure WireFields (requestId : Bytes) (rsp : HttpResponse) (fields : List (Bytes × Bytes)) :
    Prop where
  distinct : DistinctFields fields
  server : findField fields (bytes "Server") = some (bytes "tgw-gateway")
  contentType : findField fields (bytes "Content-Type") = some rsp.contentType
  requestId : findField fields (bytes "X-Request-Id") = some requestId
  length : findField fields (bytes "Content-Length") = some (natText rsp.body.length)
  known : ∀ field ∈ fields, field.1 ∈ sessionFields ++ gatewayHeaders
  lines : ∀ field ∈ fields, OneLine field.2

/-- How the library writes a response: a status line, then the fields with one that may speak of the
    connection, in some order, then the body. -/
structure Serializer where
  statusLine : BeastResponse → Bytes
  written : BeastResponse → List (Bytes × Bytes)
  connection : BeastResponse → List (Bytes × Bytes)
  status_line : ∀ rsp, HasThreeDigits rsp.status → OneLine (statusLine rsp)
  all_written : ∀ rsp, (written rsp).Perm (rsp.fields ++ connection rsp)
  connection_named : ∀ rsp, ∀ field ∈ connection rsp,
    field.1 = bytes "Connection" ∧ OneLine field.2

def Serializer.message (serializer : Serializer) (rsp : BeastResponse) : Message :=
  ⟨serializer.statusLine rsp, serializer.written rsp, rsp.body⟩

def Serializer.stream (serializer : Serializer) (responses : List BeastResponse) : Bytes :=
  responses.flatMap fun rsp => writeMessage (serializer.message rsp)

def StampingHandler (dispatch : HttpRequest → HttpResponse) : Prop :=
  ∀ request, SingleLines request → Stamped request.requestId request.headers (dispatch request)

def ParsedRequest (request : BeastRequest) : Prop := ∀ field ∈ request.fields, OneLine field.2

/-- No field of the request forces a status that its status line has no room for. -/
def ModestRequest (request : BeastRequest) : Prop :=
  ForcesThreeDigits (convertBeastRequest request [] []).headers

instance (request : BeastRequest) : Decidable (ModestRequest request) :=
  inferInstanceAs (Decidable (ForcesThreeDigits _))

structure StampingJob (job : Job) : Prop where
  generated : OneLine job.generatedId
  dispatch : StampingHandler job.dispatch

end definitions

section fields
variable {fields : List (Bytes × Bytes)}

theorem mem_setField {name value : Bytes} {field : Bytes × Bytes}
    (listed : field ∈ setField fields name value) : field ∈ fields ∨ field = (name, value) := by
  rcases List.mem_append.mp listed with old | new
  · exact .inl (List.mem_of_mem_filter old)
  · exact .inr (List.mem_singleton.mp new)

theorem setField_distinct (distinct : DistinctFields fields) (name value : Bytes) :
    DistinctFields (setField fields name value) := by
  refine List.pairwise_append.mpr ⟨distinct.filter _, List.pairwise_singleton _ _, ?_⟩
  intro old listed new same
  rw [List.mem_singleton.mp same]
  simpa using (List.mem_filter.mp listed).2

theorem findField_setField_same (fields : List (Bytes × Bytes)) {name other : Bytes}
    (same : toLower name = toLower other) (value : Bytes) :
    findField (setField fields name value) other = some value := by
  have gone : (fields.filter fun field => toLower field.1 ≠ toLower name).find?
      (fun field => toLower field.1 = toLower other) = none := by
    rw [List.find?_eq_none]
    intro field listed
    have differs := (List.mem_filter.mp listed).2
    rw [← same]
    simpa using differs
  rw [findField, setField, List.find?_append, gone]
  simp [same]

theorem findField_setField_other (fields : List (Bytes × Bytes)) {name other : Bytes}
    (differs : toLower name ≠ toLower other) (value : Bytes) :
    findField (setField fields name value) other = findField fields other := by
  have kept : (fields.filter fun field => toLower field.1 ≠ toLower name).find?
      (fun field => toLower field.1 = toLower other) =
      fields.find? fun field => toLower field.1 = toLower other := by
    induction fields with
    | nil => rfl
    | cons field fields ih =>
      by_cases dropped : toLower field.1 = toLower name
      · have passed : toLower field.1 ≠ toLower other := dropped ▸ differs
        rw [List.filter_cons_of_neg (by simp [dropped]), ih]
        simp [passed]
      · rw [List.filter_cons_of_pos (by simp [dropped]), List.find?_cons, List.find?_cons, ih]
  rw [findField, setField, List.find?_append, kept]
  simp [findField, differs]

theorem findField_mem {name value : Bytes} (found : findField fields name = some value) :
    ∃ field ∈ fields, toLower field.1 = toLower name ∧ field.2 = value := by
  obtain ⟨field, first, rfl⟩ := Option.map_eq_some_iff.mp found
  exact ⟨field, List.mem_of_find?_eq_some first, by simpa using List.find?_some first, rfl⟩

theorem distinct_only {name value : Bytes} (distinct : DistinctFields fields)
    (found : findField fields name = some value) :
    (fields.filter fun field => toLower field.1 = toLower name).map Prod.snd = [value] := by
  induction fields with
  | nil => cases found
  | cons field fields ih =>
    obtain ⟨first, rest⟩ := List.pairwise_cons.mp distinct
    by_cases own : toLower field.1 = toLower name
    · have same : field.2 = value := by simpa [findField, own] using found
      have others : fields.filter (fun field => toLower field.1 = toLower name) = [] := by
        rw [List.filter_eq_nil_iff]
        intro other listed
        have differs := first other listed
        rw [own] at differs
        simpa using Ne.symm differs
      simp [own, same, others]
    · have later : findField fields name = some value := by simpa [findField, own] using found
      simpa [own] using ih rest later

/-- The loop of WriteResponse over the headers of the answer. -/
def setFields (fields headers : List (Bytes × Bytes)) : List (Bytes × Bytes) :=
  headers.foldl (fun fields header => setField fields header.1 header.2) fields

theorem mem_setFields {headers : List (Bytes × Bytes)} {field : Bytes × Bytes}
    (listed : field ∈ setFields fields headers) : field ∈ fields ∨ field ∈ headers := by
  induction headers generalizing fields with
  | nil => exact .inl listed
  | cons header headers ih =>
    rcases ih listed with before | later
    · rcases mem_setField before with old | new
      · exact .inl old
      · exact .inr (new ▸ List.mem_cons_self)
    · exact .inr (List.mem_cons_of_mem header later)

theorem setFields_distinct (distinct : DistinctFields fields) (headers : List (Bytes × Bytes)) :
    DistinctFields (setFields fields headers) := by
  induction headers generalizing fields with
  | nil => exact distinct
  | cons header headers ih => exact ih (setField_distinct distinct header.1 header.2)

theorem findField_setFields {name value : Bytes} (found : findField fields name = some value)
    {headers : List (Bytes × Bytes)}
    (agree : ∀ header ∈ headers, toLower header.1 = toLower name → header.2 = value) :
    findField (setFields fields headers) name = some value := by
  induction headers generalizing fields with
  | nil => exact found
  | cons header headers ih =>
    refine ih ?_ fun other listed => agree other (List.mem_cons_of_mem header listed)
    by_cases own : toLower header.1 = toLower name
    · rw [findField_setField_same fields own, agree header List.mem_cons_self own]
    · rw [findField_setField_other fields own, found]

end fields

section building
variable {requestId : Bytes} {asked : ByteMap Bytes} {rsp : HttpResponse}

/-- No header of the gateway is a field of the session, in whatever case. -/
theorem gatewayHeaders_apart : gatewayHeaders.all (fun name =>
    sessionFields.all (fun other => toLower name != toLower other) &&
      (toLower name != toLower (bytes "X-Request-Id") || name == bytes "X-Request-Id")) = true := by
  decide +kernel

theorem gateway_header_apart {name : Bytes} (known : name ∈ gatewayHeaders) :
    (∀ other ∈ sessionFields, toLower name ≠ toLower other) ∧
      (toLower name = toLower (bytes "X-Request-Id") → name = bytes "X-Request-Id") := by
  have apart := List.all_eq_true.mp gatewayHeaders_apart name known
  rw [Bool.and_eq_true] at apart
  refine ⟨fun other listed => ?_, fun same => ?_⟩
  · simpa using List.all_eq_true.mp apart.1 other listed
  · simpa [same] using apart.2

theorem contentType_line {contentType : Bytes} (listed : contentType ∈ contentTypes) :
    OneLine contentType := by
  have lines : contentTypes.all (fun text => text.all fun c => c != 13 && c != 10) = true := by
    decide +kernel
  exact (oneLine_iff contentType).mp (List.all_eq_true.mp lines contentType listed)

/-- The fields that WriteResponse sets before it copies those of the answer. -/
def ownFields (requestId contentType : Bytes) : List (Bytes × Bytes) :=
  setField (setField (setField [] (bytes "Server") (bytes "tgw-gateway"))
    (bytes "Content-Type") contentType) (bytes "X-Request-Id") requestId

theorem buildResponse_eq (config : ServerConfig) (request : BeastRequest) (requestId : Bytes)
    (rsp : HttpResponse) : (buildResponse config request requestId rsp).fields =
      setField (setFields (ownFields requestId rsp.contentType) rsp.headers.toList)
        (bytes "Content-Length") (natText rsp.body.length) := rfl

theorem ownField_kept (stamped : Stamped requestId asked rsp) {own : List (Bytes × Bytes)}
    {name value : Bytes} (session : name ∈ sessionFields) (found : findField own name = some value) :
    findField (setFields own rsp.headers.toList) name = some value := by
  refine findField_setFields found fun header listed same => ?_
  have known := (stamped.fits header listed).known
  exact absurd same ((gateway_header_apart known).1 name session)

theorem field_origin (stamped : Stamped requestId asked rsp) (line : OneLine requestId)
    (length : Bytes) : ∀ field ∈ setField (setFields (ownFields requestId rsp.contentType)
      rsp.headers.toList) (bytes "Content-Length") length,
    field = (bytes "Server", bytes "tgw-gateway") ∨
      field = (bytes "Content-Type", rsp.contentType) ∨ HeaderFits requestId field.1 field.2 ∨
      field = (bytes "Content-Length", length) := by
  intro field listed
  rcases mem_setField listed with before | rfl
  · rcases mem_setFields before with set | header
    · rcases mem_setField set with set | rfl
      · rcases mem_setField set with set | rfl
        · rcases mem_setField set with none | rfl
          · cases none
          · exact .inl rfl
        · exact .inr (.inl rfl)
      · exact .inr (.inr (.inl (fits_own line)))
    · exact .inr (.inr (.inl (stamped.fits field header)))
  · exact .inr (.inr (.inr rfl))

/-- What WriteResponse puts on the wire for a stamped answer. -/
theorem buildResponse_fields (stamped : Stamped requestId asked rsp) (line : OneLine requestId)
    (config : ServerConfig) (request : BeastRequest) :
    WireFields requestId rsp (buildResponse config request requestId rsp).fields := by
  have origin := field_origin stamped line (natText rsp.body.length)
  rw [buildResponse_eq]
  refine ⟨setField_distinct (setFields_distinct ?_ _) _ _, ?_, ?_, ?_, ?_, ?_, ?_⟩
  · exact setField_distinct (setField_distinct (setField_distinct List.Pairwise.nil _ _) _ _) _ _
  · rw [findField_setField_other _ (by decide)]
    refine ownField_kept stamped (by simp [sessionFields]) ?_
    rw [ownFields, findField_setField_other _ (by decide), findField_setField_other _ (by decide),
      findField_setField_same _ rfl]
  · rw [findField_setField_other _ (by decide)]
    refine ownField_kept stamped (by simp [sessionFields]) ?_
    rw [ownFields, findField_setField_other _ (by decide), findField_setField_same _ rfl]
  · rw [findField_setField_other _ (by decide)]
    refine findField_setFields (findField_setField_same _ rfl _) fun header listed same => ?_
    have fit := stamped.fits header listed
    exact fit.own ((gateway_header_apart fit.known).2 same)
  · exact findField_setField_same _ rfl _
  · intro field listed
    rcases origin field listed with rfl | rfl | fit | rfl
    · simp [sessionFields]
    · simp [sessionFields]
    · exact List.mem_append_right _ fit.known
    · simp [sessionFields]
  · intro field listed
    rcases origin field listed with rfl | rfl | fit | rfl
    · exact (by decide : OneLine (bytes "tgw-gateway"))
    · exact contentType_line stamped.contentType
    · exact fit.line
    · exact (natText_visible _).oneLine

theorem names_sendable : (bytes "Connection" :: (sessionFields ++ gatewayHeaders)).all (fun name =>
    decide (Visible name) && !name.contains 58) = true := by
  decide +kernel

theorem name_sendable {name : Bytes}
    (listed : name ∈ bytes "Connection" :: (sessionFields ++ gatewayHeaders)) :
    Visible name ∧ 58 ∉ name := by
  have fine := List.all_eq_true.mp names_sendable name listed
  simpa using fine

theorem contentLength_written (serializer : Serializer) {wire : BeastResponse} {n : Nat}
    (distinct : DistinctFields wire.fields)
    (found : findField wire.fields (bytes "Content-Length") = some (natText n)) :
    contentLength ((serializer.written wire).map trimField) = some n := by
  have own := distinct_only distinct found
  have others : (serializer.connection wire).filter
      (fun field => toLower field.1 = toLower (bytes "Content-Length")) = [] := by
    rw [List.filter_eq_nil_iff]
    intro field listed
    rw [(serializer.connection_named wire field listed).1]
    decide
  have lengths : ((serializer.written wire).filter
      fun field => toLower field.1 = toLower (bytes "Content-Length")).map Prod.snd =
        [natText n] := by
    refine List.perm_singleton.mp ?_
    have order := ((serializer.all_written wire).filter
      fun field => toLower field.1 = toLower (bytes "Content-Length")).map Prod.snd
    rwa [List.filter_append, others, List.append_nil, own] at order
  have values : valuesOf (bytes "Content-Length") ((serializer.written wire).map trimField) =
      [natText n] := by
    have trims : ∀ field : Bytes × Bytes, (trimField field).2 = trimmed field.2 := fun _ => rfl
    calc valuesOf (bytes "Content-Length") ((serializer.written wire).map trimField)
        = (((serializer.written wire).filter
            fun field => toLower field.1 = toLower (bytes "Content-Length")).map Prod.snd).map
              trimmed := by
          rw [valuesOf, List.filter_map, List.map_map, List.map_map]
          rfl
      _ = [natText n] := by rw [lengths, List.map_singleton, (natText_visible n).trimmed]
  exact contentLength_natText values

theorem message_sendable (serializer : Serializer) {wire : BeastResponse}
    (digits : HasThreeDigits wire.status) (fields : WireFields requestId rsp wire.fields)
    (body : wire.body = rsp.body) : Sendable (serializer.message wire) := by
  have written := serializer.all_written wire
  have named := serializer.connection_named wire
  refine ⟨serializer.status_line wire digits, ?_, ?_, ?_⟩
  · intro field listed
    rcases List.mem_append.mp (written.mem_iff.mp listed) with own | connection
    · exact name_sendable (List.mem_cons_of_mem _ (fields.known field own))
    · rw [(named field connection).1]
      exact name_sendable List.mem_cons_self
  · intro field listed
    rcases List.mem_append.mp (written.mem_iff.mp listed) with own | connection
    · exact fields.lines field own
    · exact (named field connection).2
  · have length := contentLength_written serializer fields.distinct fields.length
    rw [← body] at length
    exact length

end building

section sessions
variable {request : BeastRequest} {job : Job}

theorem requestId_line (parsed : ParsedRequest request) (generated : OneLine job.generatedId) :
    OneLine (job.requestId request) := by
  unfold Job.requestId
  cases named : findField request.fields (bytes "X-Request-Id") with
  | none => exact generated
  | some value =>
    obtain ⟨field, listed, _, rfl⟩ := findField_mem named
    exact parsed field listed

theorem converted_headers {fields : List (Bytes × Bytes)} {start : ByteMap Bytes}
    {holds : Bytes → Prop}
    (before : ∀ (name value : Bytes), start[name]? = some value → holds value)
    (each : ∀ field ∈ fields, holds field.2) (name value : Bytes)
    (found : (fields.foldl (fun headers field => headers.insert field.1 field.2) start)[name]? =
      some value) : holds value := by
  induction fields generalizing start with
  | nil => exact before name value found
  | cons field fields ih =>
    refine ih (fun other text inserted => ?_)
      (fun later listed => each later (List.mem_cons_of_mem field listed)) found
    rw [Std.ExtTreeMap.getElem?_insert] at inserted
    split at inserted
    · obtain rfl := Option.some.inj inserted
      exact each field List.mem_cons_self
    · exact before other text inserted

theorem call_lines (parsed : ParsedRequest request) (generated : OneLine job.generatedId) :
    SingleLines (job.call request) :=
  ⟨requestId_line parsed generated, converted_headers (by simp) parsed⟩

theorem respond_fields (config : ServerConfig) (parsed : ParsedRequest request)
    (stamping : StampingJob job) :
    WireFields (job.requestId request) (job.dispatch (job.call request))
      (respond config request job).fields :=
  buildResponse_fields (stamping.dispatch _ (call_lines parsed stamping.generated))
    (requestId_line parsed stamping.generated) config request

theorem respond_digits (config : ServerConfig) (parsed : ParsedRequest request)
    (stamping : StampingJob job) (modest : ModestRequest request) :
    HasThreeDigits (respond config request job).status :=
  (stamping.dispatch _ (call_lines parsed stamping.generated)).status modest

variable {config : ServerConfig} {actions : List Action} {s : HttpSession}

/-- Each response of a run is that of one of its exchanges, and has the fields of that exchange. -/
theorem responses_of_run (ran : runActions (start config) actions = some s)
    (parsed : ∀ request ∈ RequestLoop.requests (observedRun (start config) actions),
      ParsedRequest request)
    (stamping : ∀ job ∈ RequestLoop.jobs (observedRun (start config) actions), StampingJob job) :
    ∀ rsp ∈ RequestLoop.responses (observedRun (start config) actions), ∃ request job,
      request ∈ RequestLoop.requests (observedRun (start config) actions) ∧
      job ∈ RequestLoop.jobs (observedRun (start config) actions) ∧
      rsp = respond config request job ∧
      WireFields (job.requestId request) (job.dispatch (job.call request)) rsp.fields := by
  obtain ⟨final, run, _⟩ := run_of_start ran
  obtain ⟨pairs, exchanges⟩ := RequestLoop.run_exchanges run
  intro rsp listed
  have paired : rsp ∈ pairs.map fun pair => respond config pair.1 pair.2 := exchanges.sent ▸ listed
  obtain ⟨pair, inside, rfl⟩ := List.mem_map.mp paired
  have received : pair.1 ∈ RequestLoop.requests (observedRun (start config) actions) := by
    rw [exchanges.received]
    exact List.mem_append_left _ (List.mem_map_of_mem inside)
  have worked : pair.2 ∈ RequestLoop.jobs (observedRun (start config) actions) := by
    rw [exchanges.worked]
    exact List.mem_append_left _ (List.mem_map_of_mem inside)
  exact ⟨pair.1, pair.2, received, worked, rfl,
    respond_fields config (parsed _ received) (stamping _ worked)⟩

/-- Over a run of a session each response has the fields of its own exchange, and a client that takes
    each body by its length reads the responses that were sent, as long as no request forces a status
    that no status line has room for. -/
theorem stream_of_run (serializer : Serializer) (ran : runActions (start config) actions = some s)
    (parsed : ∀ request ∈ RequestLoop.requests (observedRun (start config) actions),
      ParsedRequest request)
    (stamping : ∀ job ∈ RequestLoop.jobs (observedRun (start config) actions), StampingJob job) :
    let responses := RequestLoop.responses (observedRun (start config) actions)
    ((∀ request ∈ RequestLoop.requests (observedRun (start config) actions),
        ModestRequest request) → readMessages (serializer.stream responses) =
        some (responses.map fun rsp => asRead (serializer.message rsp))) ∧
      ∀ rsp ∈ responses, ∃ request job,
        request ∈ RequestLoop.requests (observedRun (start config) actions) ∧
        job ∈ RequestLoop.jobs (observedRun (start config) actions) ∧
        rsp = respond config request job ∧
        WireFields (job.requestId request) (job.dispatch (job.call request)) rsp.fields := by
  intro responses
  have each := responses_of_run ran parsed stamping
  refine ⟨fun modest => ?_, each⟩
  have sendable : ∀ m ∈ responses.map serializer.message, Sendable m := by
    intro m listed
    obtain ⟨rsp, sent, rfl⟩ := List.mem_map.mp listed
    obtain ⟨request, job, received, worked, rfl, fields⟩ := each rsp sent
    have digits := respond_digits config (parsed _ received) (stamping _ worked) (modest _ received)
    exact message_sendable serializer digits fields rfl
  have whole : serializer.stream responses =
      (responses.map serializer.message).flatMap writeMessage := by
    rw [List.flatMap_map]
    rfl
  rw [whole, readMessages_flatMap sendable, List.map_map]
  rfl

end sessions

end TgwWireResponses
