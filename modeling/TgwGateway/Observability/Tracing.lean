import TgwGateway.Common.Config
import TgwGateway.Gateway.Http
import Mathlib.Data.Nat.Digits.Defs

/- Tracer: spans and their ids. The random engines are the sequences of values drawn from them. -/
namespace TgwTracing
open ByteStrings TgwClock TgwConfig TgwHttp

structure TraceSpan where
  traceId : Bytes := []
  spanId : Bytes := []
  parentSpanId : Bytes := []
  name : Bytes := []
  sampled : Bool := true
  startedAt : Int := 0
  startUnixMs : UInt64 := 0
  deriving DecidableEq

structure FinishedSpan where
  traceId : Bytes := []
  spanId : Bytes := []
  parentSpanId : Bytes := []
  name : Bytes := []
  serviceName : Bytes := []
  kind : Bytes := []
  path : Bytes := []
  upstream : Bytes := []
  status : Int := 0
  startUnixMs : UInt64 := 0
  durationMs : UInt64 := 0
  attributes : ByteMap Bytes := ∅

structure TracerState where
  finishedSpans : List FinishedSpan := []
  exported : List FinishedSpan := []
  idCounter : UInt64 := 0
  hexDraws : Nat → UInt64
  hexDrawn : Nat := 0
  sampleDraws : Nat → Rat
  sampleDrawn : Nat := 0

abbrev TracerEnv := Env TracerState

def kHex : Bytes := bytes "0123456789abcdef"

def hexDigit (n : Nat) : UInt8 := kHex.getD n 0

/-- The inner loop of HexRandom: the digits of one drawn value, lowest first. -/
def hexDigits : Nat → UInt64 → Bytes
  | 0, _ => []
  | count + 1, value => hexDigit (value &&& 0xF).toNat :: hexDigits count (value >>> 4)

def hexRandomLoop (length : Nat) : Nat → Bytes → TracerState → Bytes × TracerState
  | 0, out, s => (out, s)
  | fuel + 1, out, s =>
    if length ≤ out.length then (out, s)
    else
      hexRandomLoop length fuel
        (out ++ hexDigits (min 16 (length - out.length)) (s.hexDraws s.hexDrawn))
        { s with hexDrawn := s.hexDrawn + 1 }

/-- Every turn adds a digit, so length turns are enough. -/
def hexRandom (length : Nat) (s : TracerState) : Bytes × TracerState :=
  hexRandomLoop length length [] s

/-- std::hex with setw(8) and setfill('0'). -/
def hexText (n : Nat) : Bytes :=
  let digits := if n = 0 then [hexDigit 0] else (Nat.digits 16 n).reverse.map hexDigit
  List.replicate (8 - digits.length) 48 ++ digits

/-- Both resizes of an id: padded with zeros, then cut. -/
def fitTo (size : Nat) (result : Bytes) : Bytes :=
  (result ++ List.replicate (size - result.length) 48).take size

def generateId (randomDigits size : Nat) (s : TracerState) : Bytes × TracerState :=
  let s := { s with idCounter := s.idCounter + 1 }
  let drawn := hexRandom randomDigits s
  (fitTo size (drawn.1 ++ hexText (s.idCounter &&& 0xffffffff).toNat), drawn.2)

def generateTraceId (s : TracerState) : Bytes × TracerState := generateId 24 32 s

def generateSpanId (s : TracerState) : Bytes × TracerState := generateId 8 16 s

def isTraceParent (traceparent : Bytes) : Bool :=
  55 ≤ traceparent.length && traceparent[2]? == some 45 && traceparent[35]? == some 45 &&
    traceparent[52]? == some 45

def extractTraceIdFromTraceParent (traceparent : Bytes) : Bytes :=
  if isTraceParent traceparent then (traceparent.drop 3).take 32 else []

def extractSpanIdFromTraceParent (traceparent : Bytes) : Bytes :=
  if isTraceParent traceparent then (traceparent.drop 36).take 16 else []

def nonemptyHeader (request : HttpRequest) (key : Bytes) : Option Bytes :=
  match request.headers[key]? with
  | some value => if value = [] then none else some value
  | none => none

def fromTraceParent (config : TracingConfig) (request : HttpRequest) (extract : Bytes → Bytes) :
    Bytes :=
  if config.acceptTraceparent then
    match request.headers[bytes "traceparent"]? with
    | some traceparent => extract traceparent
    | none => []
  else []

def extractTraceIdFromRequest (config : TracingConfig) (request : HttpRequest) : Bytes :=
  match nonemptyHeader request (bytes "X-Trace-Id") with
  | some value => value
  | none => fromTraceParent config request extractTraceIdFromTraceParent

def extractParentSpanIdFromRequest (config : TracingConfig) (request : HttpRequest) : Bytes :=
  match nonemptyHeader request (bytes "X-Span-Id") with
  | some value => value
  | none =>
    match nonemptyHeader request (bytes "X-Parent-Span-Id") with
    | some value => value
    | none => fromTraceParent config request extractSpanIdFromTraceParent

def shouldSample (config : TracingConfig) (s : TracerState) : Bool × TracerState :=
  if 1 ≤ config.sampleRatio then (true, s)
  else if config.sampleRatio ≤ 0 then (false, s)
  else
    (s.sampleDraws s.sampleDrawn ≤ config.sampleRatio, { s with sampleDrawn := s.sampleDrawn + 1 })

def nowUnixMs (system : SystemClock) : UInt64 :=
  UInt64.ofInt (system.now.toInt.tdiv nanosPerMilli)

def startServerSpan (config : TracingConfig) (request : HttpRequest) (name : Bytes)
    (env : TracerEnv) : TraceSpan × TracerEnv :=
  let startedAt := env.now
  let startUnixMs := nowUnixMs env.system
  let env := env.tick.tickSystem
  let sample := if config.enabled then shouldSample config env.state else (false, env.state)
  let span : TraceSpan :=
    { name := name, startedAt := startedAt, startUnixMs := startUnixMs, sampled := sample.1 }
  if !span.sampled then (span, { env with state := sample.2 })
  else
    let extracted := extractTraceIdFromRequest config request
    let trace := if extracted = [] then generateTraceId sample.2 else (extracted, sample.2)
    let own := generateSpanId trace.2
    ({ span with
       traceId := trace.1
       parentSpanId := extractParentSpanIdFromRequest config request
       spanId := own.1 }, { env with state := own.2 })

def startClientSpan (parent : TraceSpan) (name : Bytes) (env : TracerEnv) :
    TraceSpan × TracerEnv :=
  let span : TraceSpan :=
    { name := name
      startedAt := env.now
      startUnixMs := nowUnixMs env.system
      sampled := parent.sampled }
  let env := env.tick.tickSystem
  if !span.sampled then (span, env)
  else
    let own := generateSpanId env.state
    ({ span with traceId := parent.traceId, parentSpanId := parent.spanId, spanId := own.1 },
      { env with state := own.2 })

/-- A span after its contents were moved away: the strings and the map are empty. -/
def movedFrom (span : FinishedSpan) : FinishedSpan :=
  { status := span.status, startUnixMs := span.startUnixMs, durationMs := span.durationMs }

def finishSpan (config : TracingConfig) (span : TraceSpan) (kind path upstream : Bytes)
    (status : Int) (attributes : ByteMap Bytes) (env : TracerEnv) : TracerEnv :=
  if !span.sampled || span.traceId.isEmpty || span.spanId.isEmpty then env
  else
    let finished : FinishedSpan :=
      { traceId := span.traceId
        spanId := span.spanId
        parentSpanId := span.parentSpanId
        name := span.name
        serviceName := config.serviceName
        kind := kind
        path := path
        upstream := upstream
        status := status
        startUnixMs := span.startUnixMs
        durationMs := UInt64.ofInt ((env.now - span.startedAt).tdiv nanosPerMilli)
        attributes := attributes }
    let spans := env.state.finishedSpans ++ [finished]
    let exported :=
      if config.otlpExporterEnabled then env.state.exported ++ [movedFrom finished]
      else env.state.exported
    { env.tick with
      state :=
        { env.state with
          finishedSpans := spans.drop (spans.length - config.maxFinishedSpans)
          exported := exported } }

theorem hexRandomLoop_kept (length fuel : Nat) (out : Bytes) (s : TracerState) :
    (hexRandomLoop length fuel out s).2.exported = s.exported ∧
      (hexRandomLoop length fuel out s).2.finishedSpans = s.finishedSpans := by
  induction fuel generalizing out s with
  | zero => exact ⟨rfl, rfl⟩
  | succ fuel ih =>
    unfold hexRandomLoop
    split
    · exact ⟨rfl, rfl⟩
    · exact ih _ _

theorem generateId_kept (randomDigits size : Nat) (s : TracerState) :
    (generateId randomDigits size s).2.exported = s.exported ∧
      (generateId randomDigits size s).2.finishedSpans = s.finishedSpans :=
  hexRandomLoop_kept randomDigits randomDigits [] _

theorem shouldSample_kept (config : TracingConfig) (s : TracerState) :
    (shouldSample config s).2.exported = s.exported ∧
      (shouldSample config s).2.finishedSpans = s.finishedSpans := by
  unfold shouldSample
  split
  · exact ⟨rfl, rfl⟩
  · split <;> exact ⟨rfl, rfl⟩

theorem startServerSpan_kept (config : TracingConfig) (request : HttpRequest) (name : Bytes)
    (env : TracerEnv) :
    (startServerSpan config request name env).2.state.exported = env.state.exported ∧
      (startServerSpan config request name env).2.state.finishedSpans =
        env.state.finishedSpans := by
  have sampled := shouldSample_kept config env.state
  unfold startServerSpan
  cases config.enabled with
  | false => exact ⟨rfl, rfl⟩
  | true =>
    simp only [↓reduceIte]
    split
    · exact sampled
    · split
      · have trace := generateId_kept 24 32 (shouldSample config env.state).2
        have own := generateId_kept 8 16 (generateTraceId (shouldSample config env.state).2).2
        exact ⟨own.1.trans (trace.1.trans sampled.1), own.2.trans (trace.2.trans sampled.2)⟩
      · have own := generateId_kept 8 16 (shouldSample config env.state).2
        exact ⟨own.1.trans sampled.1, own.2.trans sampled.2⟩

theorem startClientSpan_kept (parent : TraceSpan) (name : Bytes) (env : TracerEnv) :
    (startClientSpan parent name env).2.state.exported = env.state.exported ∧
      (startClientSpan parent name env).2.state.finishedSpans = env.state.finishedSpans := by
  unfold startClientSpan
  cases parent.sampled with
  | false => exact ⟨rfl, rfl⟩
  | true => exact generateId_kept 8 16 env.state

theorem generateId_length (randomDigits size : Nat) (s : TracerState) :
    (generateId randomDigits size s).1.length = size := by
  simp only [generateId, fitTo, List.length_take, List.length_append, List.length_replicate]
  omega

end TgwTracing
