import TgwGateway.Gateway.CallRuns
import Mathlib.Data.List.Perm.Basic

/- What reaches the exporter over a run of the tracer. FinishSpan moves the finished span into the
   deque and gives the exporter what is left of it. -/
namespace TgwSpanExport
open ByteStrings CountedMaps TgwClock TgwConfig TgwHttp TgwTracing TgwCallRuns

inductive TracerCall where
  | startServerSpan (request : HttpRequest) (name : Bytes)
  | startClientSpan (parent : TraceSpan) (name : Bytes)
  | finishSpan (span : TraceSpan) (kind path upstream : Bytes) (status : Int)
      (attributes : ByteMap Bytes)

section run
variable (config : TracingConfig)

def TracerCall.after (env : TracerEnv) : TracerCall → TracerEnv
  | .startServerSpan request name => (TgwTracing.startServerSpan config request name env).2
  | .startClientSpan parent name => (TgwTracing.startClientSpan parent name env).2
  | .finishSpan span kind path upstream status attributes =>
    TgwTracing.finishSpan config span kind path upstream status attributes env

def TracerCall.record (env : TracerEnv) : TracerCall → Option FinishedSpan
  | .finishSpan span kind path upstream status attributes =>
    finishedOf config span kind path upstream status attributes env.now
  | _ => none

def runCalls (calls : List TracerCall) (env : TracerEnv) : TracerEnv :=
  calls.foldl (TracerCall.after config) env

/-- All records that a run appends, whether the deque still has them or not. -/
def records : List TracerCall → TracerEnv → List FinishedSpan
  | [], _ => []
  | call :: calls, env => (call.record config env).toList ++ records calls (call.after config env)

/-- Every record of the run is handed to the exporter once and as it was appended. -/
def ExportsRecords (calls : List TracerCall) (env : TracerEnv) : Prop :=
  List.Perm (runCalls config calls env).state.exported
    (env.state.exported ++ records config calls env)

def TracerCall.FinishesSampled : TracerCall → Prop
  | .finishSpan span _ _ _ _ _ => span.sampled = true ∧ span.traceId ≠ [] ∧ span.spanId ≠ []
  | _ => False

/-- What one call does to the two sinks: the deque gets the record, the exporter what the move
    has left of it. -/
theorem after_sinks (enabled : config.otlpExporterEnabled = true) (env : TracerEnv)
    (call : TracerCall) :
    (call.after config env).state.exported =
        env.state.exported ++ ((call.record config env).map movedFrom).toList ∧
      (call.after config env).state.finishedSpans =
        match call.record config env with
        | none => env.state.finishedSpans
        | some finished =>
          keepLast config.maxFinishedSpans (env.state.finishedSpans ++ [finished]) := by
  cases call with
  | startServerSpan request name =>
    obtain ⟨exported, finished⟩ := startServerSpan_kept config request name env
    exact ⟨by simpa [TracerCall.record, TracerCall.after] using exported, finished⟩
  | startClientSpan parent name =>
    obtain ⟨exported, finished⟩ := startClientSpan_kept parent name env
    exact ⟨by simpa [TracerCall.record, TracerCall.after] using exported, finished⟩
  | finishSpan span kind path upstream status attributes =>
    refine ⟨?_, finishSpan_finished config span kind path upstream status attributes env⟩
    simp only [TracerCall.after, TracerCall.record, TgwTracing.finishSpan, finishedOf]
    split
    · simp
    · simp

theorem runCalls_exported (enabled : config.otlpExporterEnabled = true)
    (calls : List TracerCall) (env : TracerEnv) :
    (runCalls config calls env).state.exported =
      env.state.exported ++ (records config calls env).map movedFrom := by
  induction calls generalizing env with
  | nil => simp [runCalls, records]
  | cons call calls ih =>
    have rest := ih (call.after config env)
    rw [(after_sinks config enabled env call).1] at rest
    simp only [runCalls, List.foldl_cons] at rest ⊢
    rw [rest, records, List.map_append, List.append_assoc]
    cases call.record config env <;> rfl

theorem record_some_iff (env : TracerEnv) (call : TracerCall) :
    (∃ finished, call.record config env = some finished) ↔ call.FinishesSampled := by
  cases call with
  | startServerSpan request name => simp [TracerCall.record, TracerCall.FinishesSampled]
  | startClientSpan parent name => simp [TracerCall.record, TracerCall.FinishesSampled]
  | finishSpan span kind path upstream status attributes =>
    simp only [TracerCall.record, TracerCall.FinishesSampled, finishedOf]
    cases span.sampled <;> simp [and_comm]

theorem record_traceId {env : TracerEnv} {call : TracerCall} {finished : FinishedSpan}
    (recorded : call.record config env = some finished) : finished.traceId ≠ [] := by
  cases call with
  | startServerSpan request name => cases recorded
  | startClientSpan parent name => cases recorded
  | finishSpan span kind path upstream status attributes =>
    simp only [TracerCall.record, finishedOf] at recorded
    split at recorded
    · cases recorded
    · rename_i named
      cases recorded
      simp only [Bool.or_eq_true, List.isEmpty_iff, not_or] at named
      exact named.1.2

theorem records_nil_iff (calls : List TracerCall) (env : TracerEnv) :
    records config calls env = [] ↔ ∀ call ∈ calls, ¬ call.FinishesSampled := by
  induction calls generalizing env with
  | nil => simp [records]
  | cons call calls ih =>
    rw [records, List.append_eq_nil_iff, ih, List.forall_mem_cons, ← record_some_iff config env]
    cases call.record config env <;> simp

theorem records_traceId (calls : List TracerCall) (env : TracerEnv) :
    ∀ finished ∈ records config calls env, finished.traceId ≠ [] := by
  induction calls generalizing env with
  | nil => simp [records]
  | cons call calls ih =>
    intro finished member
    rcases List.mem_append.mp member with own | later
    · exact record_traceId config (Option.mem_toList.mp own)
    · exact ih _ finished later

/-- No record has the empty trace id that every moved record has. -/
theorem exports_records_iff (enabled : config.otlpExporterEnabled = true)
    (calls : List TracerCall) (env : TracerEnv) :
    ExportsRecords config calls env ↔ ∀ call ∈ calls, ¬ call.FinishesSampled := by
  rw [← records_nil_iff config calls env, ExportsRecords,
    runCalls_exported config enabled, List.perm_append_left_iff]
  constructor
  · intro same
    by_contra some
    obtain ⟨finished, rest, whole⟩ := List.exists_cons_of_ne_nil some
    have member : finished ∈ records config calls env := by simp [whole]
    obtain ⟨moved, _, rfl⟩ := List.mem_map.mp (same.mem_iff.mpr member)
    exact records_traceId config calls env _ member rfl
  · intro none
    rw [none]
    exact List.Perm.nil

end run

section sampled

def exportingConfig : TracingConfig := { otlpExporterEnabled := true }

def idleTracer : TracerEnv :=
  { steady := ticking 1
    system := stopped 0
    deadline := none
    state := { hexDraws := fun _ => 0, sampleDraws := fun _ => 0 } }

def finishLogin : TracerCall :=
  .finishSpan { traceId := bytes "a1", spanId := bytes "b2", name := bytes "gateway.request" }
    (bytes "server") (bytes "/login") (bytes "UserService") 200 ∅

theorem exports_records_iff_unsampled :
    ExportsRecords exportingConfig [.finishSpan { sampled := false } [] [] [] 200 ∅] idleTracer ↔
      ∀ call ∈ [TracerCall.finishSpan { sampled := false } [] [] [] 200 ∅],
        ¬ call.FinishesSampled :=
  exports_records_iff exportingConfig rfl _ idleTracer

theorem login_span_exported_blank :
    (runCalls exportingConfig [finishLogin] idleTracer).state.exported.map (·.traceId) = [[]] ∧
      (runCalls exportingConfig [finishLogin] idleTracer).state.finishedSpans.map (·.traceId) =
        [bytes "a1"] ∧
      ¬ ExportsRecords exportingConfig [finishLogin] idleTracer := by
  have exported : (runCalls exportingConfig [finishLogin] idleTracer).state.exported.map
      (·.traceId) = [[]] := by decide
  refine ⟨exported, by decide, fun same => ?_⟩
  have ids := same.map (·.traceId)
  rw [exported] at ids
  have other : bytes "a1" ∈ [([] : Bytes)] := ids.mem_iff.mpr (by decide)
  exact absurd other (by decide)

end sampled

end TgwSpanExport
