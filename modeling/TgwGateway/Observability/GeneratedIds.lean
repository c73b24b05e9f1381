import TgwGateway.Observability.SpanIds
import Mathlib.Data.Nat.Digits.Lemmas

/- All ids that one tracer generates, in the order in which its mutex is taken. An id ends in the
   masked counter, so two ids differ whatever was drawn for them. -/
namespace TgwGeneratedIds
open ByteStrings TgwClock TgwConfig TgwHttp TgwTracing TgwSpanIds

inductive IdKind where
  | trace
  | span
  deriving DecidableEq

def IdKind.size : IdKind → Nat
  | .trace => 32
  | .span => 16

/-- GenerateTraceId and GenerateSpanId. -/
def generate : IdKind → TracerState → Bytes × TracerState
  | .trace, s => generateTraceId s
  | .span, s => generateSpanId s

/-- A run with the ids it has generated, oldest first. Between two of them the tracer may do
    anything else, and each thread draws from an engine of its own. -/
inductive Generates : TracerState → List (IdKind × Bytes) → TracerState → Prop
  | start (s : TracerState) : Generates s [] s
  | generate {s t : TracerState} {ids : List (IdKind × Bytes)} (before : Generates s ids t)
      (kind : IdKind) : Generates s (ids ++ [(kind, (generate kind t).1)]) (generate kind t).2
  | other {s t u : TracerState} {ids : List (IdKind × Bytes)} (before : Generates s ids t)
      (kept : u.idCounter = t.idCounter) : Generates s ids u

section texts

theorem hexText_eq (n : Nat) : hexText n = (Nat.digitsAppend 16 8 n).reverse.map hexDigit := by
  have zero : hexDigit 0 = 48 := by decide
  unfold hexText Nat.digitsAppend
  by_cases none : n = 0
  · subst none
    decide
  · simp [none, zero]

theorem hexText_length {n : Nat} (small : n < 2 ^ 32) : (hexText n).length = 8 := by
  rw [hexText_eq, List.length_map, List.length_reverse]
  exact Nat.length_digitsAppend (by decide) 8 (by omega)

theorem idxOf_hexDigit : ∀ d < 16, kHex.idxOf (hexDigit d) = d := by
  decide

theorem hexText_injective {a b : Nat} (same : hexText a = hexText b) : a = b := by
  have value : ∀ n, Nat.ofDigits 16 (((hexText n).map kHex.idxOf).reverse) = n := by
    intro n
    have read : ((Nat.digitsAppend 16 8 n).reverse.map hexDigit).map kHex.idxOf =
        (Nat.digitsAppend 16 8 n).reverse := by
      rw [List.map_map]
      refine (List.map_congr_left fun d member => ?_).trans (List.map_id _)
      exact idxOf_hexDigit d
        (Nat.lt_of_mem_digitsAppend (by decide) 8 d (List.mem_reverse.mp member))
    rw [hexText_eq, read, List.reverse_reverse, Nat.digitsAppend,
      Nat.ofDigits_append_replicate_zero, Nat.ofDigits_digits]
  rw [← value a, ← value b, same]

theorem hexDigits_length (count : Nat) (value : UInt64) : (hexDigits count value).length = count := by
  induction count generalizing value with
  | zero => rfl
  | succ count ih => simp [hexDigits, ih]

theorem hexRandomLoop_length {length fuel : Nat} {out : Bytes} {s : TracerState}
    (room : out.length ≤ length) (turns : length ≤ out.length + fuel) :
    (hexRandomLoop length fuel out s).1.length = length := by
  induction fuel generalizing out s with
  | zero =>
    simp only [hexRandomLoop]
    omega
  | succ fuel ih =>
    unfold hexRandomLoop
    split
    · simp only
      omega
    · refine ih ?_ ?_
      · rw [List.length_append, hexDigits_length]
        omega
      · rw [List.length_append, hexDigits_length]
        omega

theorem hexRandomLoop_counter (length fuel : Nat) (out : Bytes) (s : TracerState) :
    (hexRandomLoop length fuel out s).2.idCounter = s.idCounter := by
  induction fuel generalizing out s with
  | zero => rfl
  | succ fuel ih =>
    unfold hexRandomLoop
    split
    · rfl
    · exact ih _ _

end texts

def counterText (counter : UInt64) : Bytes := hexText (counter &&& 0xffffffff).toNat

theorem masked (counter : UInt64) : (counter &&& 0xffffffff).toNat = counter.toNat % 2 ^ 32 := by
  rw [UInt64.toNat_and]
  exact Nat.and_two_pow_sub_one_eq_mod _ 32

theorem counterText_length (counter : UInt64) : (counterText counter).length = 8 := by
  refine hexText_length ?_
  rw [masked]
  exact Nat.mod_lt _ (by decide)

theorem generateId_ends {randomDigits size : Nat} (whole : randomDigits + 8 = size)
    (s : TracerState) :
    ∃ random, (generateId randomDigits size s).1 = random ++ counterText (s.idCounter + 1) ∧
      (generateId randomDigits size s).2.idCounter = s.idCounter + 1 := by
  let next : TracerState := { s with idCounter := s.idCounter + 1 }
  have drawn : (hexRandom randomDigits next).1.length = randomDigits :=
    hexRandomLoop_length (by simp) (by simp)
  have length : (counterText next.idCounter).length = 8 := counterText_length _
  have fits : ((hexRandom randomDigits next).1 ++ counterText next.idCounter).length = size := by
    rw [List.length_append, drawn, length, whole]
  refine ⟨(hexRandom randomDigits next).1, ?_, ?_⟩
  · have id : (generateId randomDigits size s).1 =
        fitTo size ((hexRandom randomDigits next).1 ++ counterText next.idCounter) := rfl
    rw [id, fitTo, fits, Nat.sub_self, List.replicate_zero, List.append_nil, List.take_of_length_le]
    exact Nat.le_of_eq fits
  · exact hexRandomLoop_counter randomDigits randomDigits [] next

theorem generate_ends (kind : IdKind) (s : TracerState) :
    ∃ random, (generate kind s).1 = random ++ counterText (s.idCounter + 1) ∧
      (generate kind s).2.idCounter = s.idCounter + 1 := by
  cases kind with
  | trace => exact generateId_ends rfl s
  | span => exact generateId_ends rfl s

theorem generate_hex (kind : IdKind) (s : TracerState) : HexId kind.size (generate kind s).1 := by
  cases kind with
  | trace => exact generateId_hex 24 32 s
  | span => exact generateId_hex 8 16 s

section runs
variable {s t : TracerState} {ids : List (IdKind × Bytes)}

theorem ids_hex (run : Generates s ids t) : ∀ id ∈ ids, HexId id.1.size id.2 := by
  induction run with
  | start => simp
  | generate _ kind ih =>
    intro id member
    rcases List.mem_append.mp member with old | new
    · exact ih id old
    · rw [List.mem_singleton.mp new]
      exact generate_hex kind _
  | other _ _ ih => exact ih

theorem ids_counted (run : Generates s ids t) :
    t.idCounter = s.idCounter + UInt64.ofNat ids.length ∧
      ∀ (i : Nat) (inside : i < ids.length),
        ∃ random, ids[i].2 = random ++ counterText (s.idCounter + UInt64.ofNat (i + 1)) := by
  induction run with
  | start => simp
  | @generate t ids _ kind ih =>
    obtain ⟨counted, each⟩ := ih
    obtain ⟨random, text, next⟩ := generate_ends kind t
    refine ⟨?_, fun i inside => ?_⟩
    · rw [next, counted, List.length_append, List.length_singleton, UInt64.ofNat_add,
        UInt64.add_assoc]
      rfl
    · rw [List.length_append, List.length_singleton] at inside
      by_cases old : i < ids.length
      · rw [List.getElem_append_left old]
        exact each i old
      · obtain rfl : i = ids.length := by omega
        refine ⟨random, ?_⟩
        rw [List.getElem_append_right (Nat.le_refl _)]
        simp only [Nat.sub_self, List.getElem_cons_zero]
        rw [text, counted, UInt64.ofNat_add, UInt64.add_assoc]
        rfl
  | other _ kept ih => exact ⟨kept.trans ih.1, ih.2⟩

theorem ids_distinct (run : Generates s ids t) (few : ids.length < 2 ^ 32) :
    (ids.map Prod.snd).Nodup := by
  obtain ⟨_, each⟩ := ids_counted run
  rw [List.Nodup, List.pairwise_map, List.pairwise_iff_getElem]
  intro i j first second order same
  obtain ⟨random, text⟩ := each i first
  obtain ⟨random', text'⟩ := each j second
  rw [text, text'] at same
  have counters := List.append_inj_right' same
    ((counterText_length _).trans (counterText_length _).symm)
  have numbers := hexText_injective counters
  rw [masked, masked, UInt64.toNat_add, UInt64.toNat_add, UInt64.toNat_ofNat', UInt64.toNat_ofNat']
    at numbers
  omega

/-- The ids of a run are pairwise different texts, and each is of its length in lower-case hex. -/
theorem generated_ids (run : Generates s ids t) (few : ids.length < 2 ^ 32) :
    (∀ id ∈ ids, HexId id.1.size id.2) ∧ (ids.map Prod.snd).Nodup :=
  ⟨ids_hex run, ids_distinct run few⟩

end runs

/-- Two requests for which every drawn value is zero. -/
theorem generated_ids_same_draws :
    let s : TracerState := { hexDraws := fun _ => 0, sampleDraws := fun _ => 0 }
    let trace := generate .trace s
    let first := generate .span trace.2
    let second := generate .span { first.2 with hexDrawn := 0 }
    trace.1 = bytes "00000000000000000000000000000001" ∧
      first.1 = bytes "0000000000000002" ∧ second.1 = bytes "0000000000000003" ∧
      [trace.1, first.1, second.1].Nodup := by
  intro s trace first second
  have both : Generates s [(.trace, trace.1), (.span, first.1)] first.2 :=
    .generate (.generate (.start s) .trace) .span
  have rewound : Generates s [(.trace, trace.1), (.span, first.1)] { first.2 with hexDrawn := 0 } :=
    .other both rfl
  have run : Generates s [(.trace, trace.1), (.span, first.1), (.span, second.1)] second.2 :=
    .generate rewound .span
  exact ⟨by decide, by decide, by decide, (generated_ids run (by decide)).2⟩

section spans
variable {s : TracerState} {ids : List (IdKind × Bytes)}

def spanIds (ids : List (IdKind × Bytes)) : List Bytes :=
  (ids.filter fun id => id.1 = .span).map Prod.snd

theorem spanIds_append (ids later : List (IdKind × Bytes)) :
    spanIds (ids ++ later) = spanIds ids ++ spanIds later := by
  simp [spanIds]

theorem shouldSample_counter (config : TracingConfig) (s : TracerState) :
    (shouldSample config s).2.idCounter = s.idCounter := by
  unfold shouldSample
  split
  · rfl
  · split <;> rfl

def SpanGenerates (s : TracerState) (ids : List (IdKind × Bytes)) (span : TraceSpan)
    (t : TracerState) : Prop :=
  ∃ own, Generates s (ids ++ own) t ∧ own.length ≤ 2 ∧
    spanIds own = if span.sampled then [span.spanId] else []

theorem startServerSpan_generates (config : TracingConfig) (request : HttpRequest) (name : Bytes)
    {env : TracerEnv} (before : Generates s ids env.state) :
    SpanGenerates s ids (startServerSpan config request name env).1
      (startServerSpan config request name env).2.state := by
  have sampling : Generates s ids
      (if config.enabled then shouldSample config env.state else (false, env.state)).2 := by
    refine .other before ?_
    split
    · exact shouldSample_counter config env.state
    · rfl
  generalize started : startServerSpan config request name env = out
  unfold startServerSpan at started
  extract_lets startedAt startUnixMs ticked sample span extracted trace own at started
  have drawn : Generates s ids sample.2 := sampling
  cases verdict : span.sampled with
  | false =>
    rw [verdict, Bool.not_false, if_pos rfl] at started
    subst started
    exact ⟨[], by simpa using drawn, by simp, by simp [spanIds, verdict]⟩
  | true =>
    rw [verdict, Bool.not_true, if_neg Bool.false_ne_true] at started
    subst started
    by_cases absent : extracted = []
    · have both := Generates.generate (.generate drawn .trace) .span
      refine ⟨[(.trace, trace.1), (.span, own.1)], ?_, by simp, by simp [spanIds]⟩
      simp only [own, trace, if_pos absent]
      rw [List.append_assoc] at both
      exact both
    · refine ⟨[(.span, own.1)], ?_, by simp, by simp [spanIds]⟩
      simp only [own, trace, if_neg absent]
      exact .generate drawn .span

theorem startClientSpan_generates (parent : TraceSpan) (name : Bytes) {env : TracerEnv}
    (before : Generates s ids env.state) :
    SpanGenerates s ids (startClientSpan parent name env).1
      (startClientSpan parent name env).2.state := by
  unfold startClientSpan
  cases parent.sampled with
  | false => exact ⟨[], by simpa using before, by simp, by simp [spanIds]⟩
  | true => exact ⟨[(.span, _)], .generate before .span, by simp, by simp [spanIds]; rfl⟩

theorem finishSpan_counter (config : TracingConfig) (span : TraceSpan)
    (kind path upstream : Bytes) (status : Int) (attributes : ByteMap Bytes) (env : TracerEnv) :
    (finishSpan config span kind path upstream status attributes env).state.idCounter =
      env.state.idCounter := by
  unfold finishSpan
  split <;> rfl

end spans

section tracer
variable (config : TracingConfig)

def startedSpanIds (run : TracerRun) : List Bytes :=
  ((run.started.map Prod.snd).filter (·.sampled)).map (·.spanId)

theorem startedSpanIds_snoc (env : TracerEnv) (started : List (HttpRequest × TraceSpan))
    (request : HttpRequest) (span : TraceSpan) :
    startedSpanIds ⟨env, started ++ [(request, span)]⟩ =
      startedSpanIds ⟨env, started⟩ ++ if span.sampled then [span.spanId] else [] := by
  cases kept : span.sampled <;> simp [startedSpanIds, kept]

def RunGenerates (s : TracerState) (limit : Nat) (run : TracerRun) : Prop :=
  ∃ ids, Generates s ids run.env.state ∧ ids.length ≤ limit ∧ spanIds ids = startedSpanIds run

theorem step_generates {s : TracerState} {limit : Nat} {run : TracerRun} (action : TracerAction)
    (before : RunGenerates s limit run) : RunGenerates s (limit + 2) (step config run action) := by
  obtain ⟨ids, generated, few, named⟩ := before
  have unchanged : RunGenerates s (limit + 2) run := ⟨ids, generated, by omega, named⟩
  cases action with
  | startServer request name =>
    obtain ⟨own, after, two, ownNamed⟩ := startServerSpan_generates config request name generated
    refine ⟨ids ++ own, after, ?_, ?_⟩
    · rw [List.length_append]
      omega
    · rw [spanIds_append, named, ownNamed, step, startedSpanIds_snoc]
      rfl
  | startClient parent name =>
    simp only [step]
    cases run.started[parent]? with
    | none => exact unchanged
    | some entry =>
      obtain ⟨own, after, two, ownNamed⟩ := startClientSpan_generates entry.2 name generated
      refine ⟨ids ++ own, after, ?_, ?_⟩
      · rw [List.length_append]
        omega
      · rw [spanIds_append, named, ownNamed, startedSpanIds_snoc]
        rfl
  | finish span kind path upstream status attributes =>
    simp only [step]
    cases run.started[span]? with
    | none => exact unchanged
    | some entry =>
      exact ⟨ids, .other generated (finishSpan_counter ..), by omega, named⟩

theorem runTracer_generates (env : TracerEnv) (actions : List TracerAction) :
    RunGenerates env.state (2 * actions.length) (runTracer config env actions) := by
  induction actions using List.reverseRecOn with
  | nil => exact ⟨[], .start _, by simp, rfl⟩
  | append_singleton actions action ih =>
    have next := step_generates config action ih
    rw [runTracer, List.foldl_append, List.length_append]
    exact next

/-- No two spans of a run share an id. -/
theorem started_spans_distinct (env : TracerEnv) (actions : List TracerAction)
    (few : actions.length < 2 ^ 31) : (startedSpanIds (runTracer config env actions)).Nodup := by
  obtain ⟨ids, generated, limit, named⟩ := runTracer_generates config env actions
  rw [← named]
  exact (ids_distinct generated (by omega)).sublist (List.filter_sublist.map Prod.snd)

end tracer

end TgwGeneratedIds
