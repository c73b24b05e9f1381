import TgwGateway.Gateway.GatewayRouter
import TgwGateway.Lib.HttpText
import TgwGateway.Observability.OtlpExport
import TgwGateway.Observability.SpanExport

/- PostOtlpJson: the request that carries a document to the collector. Each span is sent by a detached
   thread of its own, on a connection of its own, and a thread that fails is not heard of again. -/
namespace TgwOtlpPost
open ByteStrings DecimalText HttpText TgwAppConfig TgwClock TgwTracing TgwOtlpExport TgwSpanExport
open TgwGatewayRouter

section post
variable (settings : TracingSettings)

def postOtlpJson (payload : Bytes) : Bytes := List.flatten [
  bytes "POST ", settings.otlpPath, bytes " HTTP/1.1\r\n",
  bytes "Host: ", settings.otlpHost, bytes ":", natText settings.otlpHttpPort.toNat, bytes "\r\n",
  bytes "Content-Type: application/json\r\n",
  bytes "Content-Length: ", natText payload.length, bytes "\r\n",
  bytes "Connection: close\r\n",
  bytes "\r\n",
  payload]

/-- How far ExportSpan has come: resolving and connecting, with so many octets written, through, or in
    its catch clause, perhaps with a connection on which it had written some. -/
inductive ExportPhase where
  | started
  | writing (sent : Nat)
  | closed
  | caught (sent : Option Nat)

structure Exporter where
  span : FinishedSpan
  phase : ExportPhase := .started

structure ExportState where
  tracer : TracerEnv
  exporters : List Exporter := []

inductive ExportAction where
  | call (call : TracerCall)
  | connect (exporter : Nat)
  | write (exporter size : Nat)
  | close (exporter : Nat)
  | fail (exporter : Nat)

def payloadOf (exporter : Exporter) : Bytes := postOtlpJson settings (buildOtlpJson exporter.span)

/-- asio::write has sent the next octets, or all that were left. -/
def writeSome (size : Nat) (exporter : Exporter) : Exporter :=
  match exporter.phase with
  | .writing sent =>
    { exporter with phase := .writing (min (sent + size) (payloadOf settings exporter).length) }
  | _ => exporter

/-- The socket is closed once asio::write has returned. -/
def closeWritten (exporter : Exporter) : Exporter :=
  match exporter.phase with
  | .writing sent =>
    if sent = (payloadOf settings exporter).length then { exporter with phase := .closed }
    else exporter
  | _ => exporter

def connectOne (exporter : Exporter) : Exporter :=
  match exporter.phase with
  | .started => { exporter with phase := .writing 0 }
  | _ => exporter

/-- Whatever resolve, connect or write throws is caught, and the thread ends. -/
def failOne (exporter : Exporter) : Exporter :=
  match exporter.phase with
  | .started => { exporter with phase := .caught none }
  | .writing sent => { exporter with phase := .caught (some sent) }
  | _ => exporter

def exportStep (s : ExportState) : ExportAction → ExportState
  | .call call =>
    let tracer := call.after (tracingConfig settings) s.tracer
    let spawned := tracer.state.exported.drop s.tracer.state.exported.length
    { tracer := tracer, exporters := s.exporters ++ spawned.map fun span => { span := span } }
  | .connect i => { s with exporters := s.exporters.modify i connectOne }
  | .write i size => { s with exporters := s.exporters.modify i (writeSome settings size) }
  | .close i => { s with exporters := s.exporters.modify i (closeWritten settings) }
  | .fail i => { s with exporters := s.exporters.modify i failOne }

def runExports (s : ExportState) (actions : List ExportAction) : ExportState :=
  actions.foldl (exportStep settings) s

/-- What has reached the collector on the connection of a thread, if there is one. -/
def received (exporter : Exporter) : Option Bytes :=
  match exporter.phase with
  | .started => none
  | .writing sent => some ((payloadOf settings exporter).take sent)
  | .closed => some (payloadOf settings exporter)
  | .caught sent => sent.map (payloadOf settings exporter).take

def collected (s : ExportState) : List (Message × Bytes) :=
  s.exporters.filterMap fun exporter => (received settings exporter).bind readMessage

def callsOf (actions : List ExportAction) : List TracerCall :=
  actions.filterMap fun
    | .call call => some call
    | _ => none

end post

section request
variable (settings : TracingSettings)

def hostAndPort : Bytes := settings.otlpHost ++ 58 :: natText settings.otlpHttpPort.toNat

def otlpRequest (payload : Bytes) : Message where
  start := startLine (bytes "POST") settings.otlpPath (bytes "HTTP/1.1")
  fields := [(bytes "Host", hostAndPort settings), (bytes "Content-Type", bytes "application/json"),
    (bytes "Content-Length", natText payload.length), (bytes "Connection", bytes "close")]
  body := payload

theorem postFragments :
    bytes "POST " = bytes "POST" ++ [32] ∧
      bytes " HTTP/1.1\r\n" = 32 :: (bytes "HTTP/1.1" ++ [13, 10]) ∧
    bytes "Host: " = bytes "Host" ++ [58, 32] ∧ bytes ":" = [58] ∧ bytes "\r\n" = [13, 10] ∧
    bytes "Content-Type: application/json\r\n" =
      bytes "Content-Type" ++ 58 :: 32 :: (bytes "application/json" ++ [13, 10]) ∧
    bytes "Content-Length: " = bytes "Content-Length" ++ [58, 32] ∧
    bytes "Connection: close\r\n" = bytes "Connection" ++ 58 :: 32 :: (bytes "close" ++ [13, 10]) := by
  decide +kernel

theorem postOtlpJson_eq (payload : Bytes) :
    postOtlpJson settings payload = writeMessage (otlpRequest settings payload) := by
  obtain ⟨f1, f2, f3, f4, f5, f6, f7, f8⟩ := postFragments
  simp [postOtlpJson, writeMessage, writeFields, fieldLine, endLine, otlpRequest, startLine,
    hostAndPort, f1, f2, f3, f4, f5, f6, f7, f8]

variable {settings} (host : Visible settings.otlpHost)
include host

theorem hostAndPort_visible : Visible (hostAndPort settings) := by
  refine visible_append host fun c inside => ?_
  rcases List.mem_cons.mp inside with rfl | digit
  · decide
  · exact (natText_visible _).2 c digit

theorem otlpRequest_asRead (payload : Bytes) :
    asRead (otlpRequest settings payload) = otlpRequest settings payload := by
  refine asRead_eq fun field listed => ?_
  simp only [otlpRequest, List.mem_cons, List.not_mem_nil, or_false] at listed
  rcases listed with rfl | rfl | rfl | rfl
  · exact (hostAndPort_visible host).trimmed
  · decide
  · exact (natText_visible _).trimmed
  · decide

variable (path : Visible settings.otlpPath)
include path

theorem otlpRequest_sendable (payload : Bytes) : Sendable (otlpRequest settings payload) := by
  refine ⟨?_, ?_, ?_, ?_⟩
  · refine oneLine_append (by decide) (oneLine_cons (by decide) ?_)
    exact oneLine_append path.oneLine (by decide)
  · intro field listed
    simp only [otlpRequest, List.mem_cons, List.not_mem_nil, or_false] at listed
    rcases listed with rfl | rfl | rfl | rfl <;> (dsimp only; decide)
  · intro field listed
    simp only [otlpRequest, List.mem_cons, List.not_mem_nil, or_false] at listed
    rcases listed with rfl | rfl | rfl | rfl
    · exact (hostAndPort_visible host).oneLine
    · decide
    · exact (natText_visible _).oneLine
    · decide
  · rw [otlpRequest_asRead host]
    exact contentLength_natText rfl

/-- A collector reads one request for the configured path, with the document as its body whatever
    octets that holds, and nothing behind it. -/
theorem postOtlpJson_read (payload : Bytes) :
    readMessage (postOtlpJson settings payload) = some (otlpRequest settings payload, []) ∧
      readStart (otlpRequest settings payload).start =
        some (bytes "POST", settings.otlpPath, bytes "HTTP/1.1") := by
  have read := readMessage_writeMessage (otlpRequest_sendable host path payload) []
  rw [List.append_nil, otlpRequest_asRead host, ← postOtlpJson_eq] at read
  have method : ∀ c ∈ bytes "POST", isVisible c = true := List.all_eq_true.mp (by decide)
  exact ⟨read, readStart_startLine method path.2 _⟩

theorem received_read (exporter : Exporter) :
    (received settings exporter).bind readMessage =
      if received settings exporter = some (payloadOf settings exporter) then
        some (otlpRequest settings (buildOtlpJson exporter.span), [])
      else none := by
  have whole : readMessage (payloadOf settings exporter) =
      some (otlpRequest settings (buildOtlpJson exporter.span), []) :=
    (postOtlpJson_read host path (buildOtlpJson exporter.span)).1
  have cut : ∀ sent, readMessage ((payloadOf settings exporter).take sent) =
      if (payloadOf settings exporter).take sent = payloadOf settings exporter then
        some (otlpRequest settings (buildOtlpJson exporter.span), [])
      else none := by
    intro sent
    by_cases enough : (payloadOf settings exporter).length ≤ sent
    · rw [List.take_of_length_le enough, if_pos rfl, whole]
    · have missing : (payloadOf settings exporter).take sent ≠ payloadOf settings exporter := by
        intro same
        have sizes := congrArg List.length same
        rw [List.length_take] at sizes
        omega
      rw [if_neg missing]
      have short : sent < (writeMessage (otlpRequest settings
          (buildOtlpJson exporter.span))).length := by
        rw [← postOtlpJson_eq]
        exact Nat.lt_of_not_le enough
      have broken := readMessage_take
        (otlpRequest_sendable host path (buildOtlpJson exporter.span)) short
      rw [← postOtlpJson_eq] at broken
      exact broken
  unfold received
  cases exporter.phase with
  | started => rfl
  | writing sent => simpa using cut sent
  | closed => simpa using whole
  | caught sent =>
    cases sent with
    | none => rfl
    | some sent => simpa using cut sent

end request

section runs
variable {settings : TracingSettings}

/-- A thread for each span that has been handed to the exporter, in the order of the calls. -/
structure Spawned (settings : TracingSettings) (calls : List TracerCall) (env : TracerEnv)
    (s : ExportState) : Prop where
  tracer : s.tracer = runCalls (tracingConfig settings) calls env
  spans : s.exporters.map Exporter.span =
    (records (tracingConfig settings) calls env).map movedFrom

theorem connectOne_span (exporter : Exporter) : (connectOne exporter).span = exporter.span := by
  unfold connectOne
  split <;> rfl

theorem failOne_span (exporter : Exporter) : (failOne exporter).span = exporter.span := by
  unfold failOne
  split <;> rfl

theorem writeSome_span (size : Nat) (exporter : Exporter) :
    (writeSome settings size exporter).span = exporter.span := by
  unfold writeSome
  split <;> rfl

theorem closeWritten_span (exporter : Exporter) :
    (closeWritten settings exporter).span = exporter.span := by
  unfold closeWritten
  split
  · split <;> rfl
  · rfl

theorem modify_spans (exporters : List Exporter) (i : Nat) {change : Exporter → Exporter}
    (kept : ∀ exporter, (change exporter).span = exporter.span) :
    (exporters.modify i change).map Exporter.span = exporters.map Exporter.span := by
  refine List.ext_getElem? fun j => ?_
  rw [List.getElem?_map, List.getElem?_map, List.getElem?_modify]
  cases exporters[j]? with
  | none => rfl
  | some exporter =>
    simp only [Option.map_eq_map, Option.map_some]
    split
    · exact congrArg some (kept exporter)
    · rfl

theorem modified_spawned {calls : List TracerCall} {env : TracerEnv} {s : ExportState} (i : Nat)
    {change : Exporter → Exporter} (kept : ∀ exporter, (change exporter).span = exporter.span)
    (before : Spawned settings calls env s) :
    Spawned settings calls env { s with exporters := s.exporters.modify i change } :=
  ⟨before.tracer, (modify_spans s.exporters i kept).trans before.spans⟩

theorem runCalls_snoc (calls : List TracerCall) (last : TracerCall) (env : TracerEnv) :
    runCalls (tracingConfig settings) (calls ++ [last]) env =
      last.after (tracingConfig settings) (runCalls (tracingConfig settings) calls env) := by
  simp [runCalls]

theorem records_snoc (calls : List TracerCall) (last : TracerCall) (env : TracerEnv) :
    records (tracingConfig settings) (calls ++ [last]) env =
      records (tracingConfig settings) calls env ++
        (last.record (tracingConfig settings)
          (runCalls (tracingConfig settings) calls env)).toList := by
  induction calls generalizing env with
  | nil => simp [records, runCalls]
  | cons call calls ih =>
    have rest := ih (call.after (tracingConfig settings) env)
    simp only [List.cons_append, records, rest, List.append_assoc]
    rfl

theorem exportStep_spawned (enabled : settings.otlpExporterEnabled = true) {calls : List TracerCall}
    {env : TracerEnv} {s : ExportState} (action : ExportAction)
    (before : Spawned settings calls env s) :
    Spawned settings (calls ++ callsOf [action]) env (exportStep settings s action) := by
  cases action with
  | call call =>
    obtain ⟨tracer, spans⟩ := before
    have same : callsOf [.call call] = [call] := rfl
    obtain ⟨exported, _⟩ := after_sinks (tracingConfig settings) enabled s.tracer call
    rw [same]
    refine ⟨by rw [runCalls_snoc, ← tracer]; rfl, ?_⟩
    rw [records_snoc, ← tracer, List.map_append, ← spans]
    simp only [exportStep, List.map_append, List.map_map, exported, List.drop_left]
    congr 1
    cases call.record (tracingConfig settings) s.tracer <;> rfl
  | connect i =>
    rw [show callsOf [.connect i] = [] from rfl, List.append_nil]
    exact modified_spawned i connectOne_span before
  | write i size =>
    rw [show callsOf [.write i size] = [] from rfl, List.append_nil]
    exact modified_spawned i (writeSome_span size) before
  | close i =>
    rw [show callsOf [.close i] = [] from rfl, List.append_nil]
    exact modified_spawned i closeWritten_span before
  | fail i =>
    rw [show callsOf [.fail i] = [] from rfl, List.append_nil]
    exact modified_spawned i failOne_span before

theorem runExports_spawned (enabled : settings.otlpExporterEnabled = true) (env : TracerEnv)
    (actions : List ExportAction) :
    Spawned settings (callsOf actions) env (runExports settings ⟨env, []⟩ actions) := by
  induction actions using List.reverseRecOn with
  | nil => exact ⟨rfl, rfl⟩
  | append_singleton actions action ih =>
    have next := exportStep_spawned enabled action ih
    rw [callsOf, List.filterMap_append]
    rw [runExports, List.foldl_append]
    exact next

theorem filterMap_sublist_map {Item Read : Type} {read : Item → Option Read} {all : Item → Read}
    (own : ∀ item, read item = some (all item) ∨ read item = none) (items : List Item) :
    (items.filterMap read).Sublist (items.map all) := by
  induction items with
  | nil => exact List.Sublist.refl _
  | cons item items ih =>
    rcases own item with found | missing
    · rw [List.filterMap_cons_some found]
      exact ih.cons_cons (all item)
    · rw [List.filterMap_cons_none missing]
      exact ih.cons (all item)

/-- What the collector reads over a run: nothing or the whole request on each connection, no span
    twice, and every one of them once all threads are through. -/
structure PostsRead (settings : TracingSettings) (env : TracerEnv) (actions : List ExportAction) :
    Prop where
  each : ∀ exporter ∈ (runExports settings ⟨env, []⟩ actions).exporters,
    (received settings exporter).bind readMessage =
      if received settings exporter = some (payloadOf settings exporter) then
        some (otlpRequest settings (buildOtlpJson exporter.span), [])
      else none
  once : (collected settings (runExports settings ⟨env, []⟩ actions)).Sublist
    ((records (tracingConfig settings) (callsOf actions) env).map fun span =>
      (otlpRequest settings (buildOtlpJson (movedFrom span)), []))
  all : (∀ exporter ∈ (runExports settings ⟨env, []⟩ actions).exporters,
      exporter.phase = .closed) →
    collected settings (runExports settings ⟨env, []⟩ actions) =
      (records (tracingConfig settings) (callsOf actions) env).map fun span =>
        (otlpRequest settings (buildOtlpJson (movedFrom span)), [])

/-- Whatever the order of the threads and wherever each of them fails, the collector reads at most
    one request for each finished span that was sampled, with the document of what the move has left
    of the span, and exactly those of the threads that have written all of it. -/
theorem posts_read (host : Visible settings.otlpHost) (path : Visible settings.otlpPath)
    (enabled : settings.otlpExporterEnabled = true) (env : TracerEnv)
    (actions : List ExportAction) : PostsRead settings env actions := by
  have spawned := (runExports_spawned enabled env actions).spans
  have every : (runExports settings ⟨env, []⟩ actions).exporters.map (fun exporter =>
      (otlpRequest settings (buildOtlpJson exporter.span), ([] : Bytes))) =
      (records (tracingConfig settings) (callsOf actions) env).map fun span =>
        (otlpRequest settings (buildOtlpJson (movedFrom span)), []) := by
    have documents := congrArg (List.map fun span =>
      (otlpRequest settings (buildOtlpJson span), ([] : Bytes))) spawned
    rw [List.map_map, List.map_map] at documents
    exact documents
  refine ⟨fun exporter _ => received_read host path exporter, ?_, fun closed => ?_⟩
  · rw [← every]
    refine filterMap_sublist_map (fun exporter => ?_) _
    rw [received_read host path]
    split
    · exact Or.inl rfl
    · exact Or.inr rfl
  · rw [← every, collected, ← List.filterMap_eq_map]
    refine List.filterMap_congr fun exporter listed => ?_
    have whole : received settings exporter = some (payloadOf settings exporter) := by
      rw [received, closed exporter listed]
    rw [received_read host path, if_pos whole]
    rfl

def collectorSettings : TracingSettings := { otlpExporterEnabled := true }

def twoExports : List ExportAction :=
  [.call finishLogin, .call finishLogin, .connect 0, .write 0 100, .connect 1, .write 1 2000,
    .close 1, .fail 0]

theorem posts_read_overtaken :
    PostsRead collectorSettings idleTracer twoExports ∧
      (collected collectorSettings
        (runExports collectorSettings ⟨idleTracer, []⟩ twoExports)).length = 1 :=
  ⟨posts_read (by decide) (by decide) rfl idleTracer twoExports, by decide +kernel⟩

end runs

end TgwOtlpPost
