import TgwGateway.Lib.PrometheusText
import TgwGateway.Observability.MetricsLaws
import TgwGateway.Gateway.Http
import Mathlib.Data.UInt

/- The text that the registry is scraped as, and what a reader of that format finds in it. -/
namespace TgwMetricsText
open ByteStrings DecimalText CountedMaps PrometheusText TgwMetrics TgwMetricsLaws TgwHttp

section render

def escapeLabelValue (input : Bytes) : Bytes :=
  input.flatMap fun c =>
    if c = 92 then bytes "\\\\"
    else if c = 34 then bytes "\\\""
    else if c = 10 then bytes "\\n"
    else [c]

def renderSeries (name : Bytes) (key : RequestMetricKey) : Bytes :=
  name ++ bytes "\x7bpath=\"" ++ escapeLabelValue key.path ++
    bytes "\",upstream=\"" ++ escapeLabelValue key.upstream ++
    bytes "\",status=\"" ++ intText key.status ++ bytes "\"\x7d"

/-- One turn of a loop over the map; the loops differ in the name and in the field they show. -/
def renderSample (name : Bytes) (shown : RequestMetricValue → UInt64)
    (item : RequestMetricKey × RequestMetricValue) : Bytes :=
  renderSeries name item.1 ++ bytes " " ++ natText (shown item.2).toNat ++ bytes "\n"

def renderFamily (name help : Bytes) (shown : RequestMetricValue → UInt64)
    (requests : MetricsRegistry) : Bytes :=
  bytes "# HELP " ++ name ++ bytes " " ++ help ++ bytes "\n" ++
    bytes "# TYPE " ++ name ++ bytes " counter\n" ++
    requests.toList.flatMap (renderSample name shown)

def renderPrometheus (requests : MetricsRegistry) : Bytes :=
  renderFamily (bytes "tgw_gateway_requests_total") (bytes "Total gateway HTTP requests.")
      RequestMetricValue.count requests ++
    renderFamily (bytes "tgw_gateway_request_duration_ms_sum")
      (bytes "Gateway request duration sum in milliseconds.")
      RequestMetricValue.durationMsSum requests ++
    renderFamily (bytes "tgw_gateway_request_duration_ms_count")
      (bytes "Gateway request duration sample count.") RequestMetricValue.count requests

def buildPrometheusResponse (metrics : Option MetricsRegistry) : HttpResponse :=
  { status := 200
    contentType := bytes "text/plain; version=0.0.4; charset=utf-8"
    body := metrics.elim [] renderPrometheus }

end render

section writer

def labelSet (key : RequestMetricKey) : List (Bytes × Bytes) :=
  [(bytes "path", key.path), (bytes "upstream", key.upstream), (bytes "status", intText key.status)]

/-- A counter that the registry shows: its name, its help and the field of a value. -/
structure Exposed where
  name : Bytes
  help : Bytes
  shown : RequestMetricValue → UInt64
  name_valid : IsName isMetricByte name
  help_plain : ∀ c ∈ help, c ≠ 10 ∧ c ≠ 92
  help_visible : help.head?.all isVisible = true

def requestsTotal : Exposed where
  name := bytes "tgw_gateway_requests_total"
  help := bytes "Total gateway HTTP requests."
  shown := RequestMetricValue.count
  name_valid := isName_of_check (by decide)
  help_plain := plain_of_check (by decide)
  help_visible := by decide

def durationMsSum : Exposed where
  name := bytes "tgw_gateway_request_duration_ms_sum"
  help := bytes "Gateway request duration sum in milliseconds."
  shown := RequestMetricValue.durationMsSum
  name_valid := isName_of_check (by decide)
  help_plain := plain_of_check (by decide)
  help_visible := by decide

def durationMsCount : Exposed where
  name := bytes "tgw_gateway_request_duration_ms_count"
  help := bytes "Gateway request duration sample count."
  shown := RequestMetricValue.count
  name_valid := isName_of_check (by decide)
  help_plain := plain_of_check (by decide)
  help_visible := by decide

def exposed : List Exposed := [requestsTotal, durationMsSum, durationMsCount]

theorem labelSet_valid (key : RequestMetricKey) :
    ∀ label ∈ labelSet key, IsName isLabelByte label.1 := by
  have path : IsName isLabelByte (bytes "path") := isName_of_check (by decide)
  have upstream : IsName isLabelByte (bytes "upstream") := isName_of_check (by decide)
  have status : IsName isLabelByte (bytes "status") := isName_of_check (by decide)
  simp [labelSet, path, upstream, status]

theorem labelSet_injective : Function.Injective labelSet := by
  intro a b same
  simp only [labelSet, List.cons.injEq, Prod.mk.injEq, true_and, and_true] at same
  obtain ⟨path, upstream, status⟩ := same
  cases a
  cases b
  simp_all [intText_injective.eq_iff]

def Exposed.sample (counter : Exposed) (item : RequestMetricKey × RequestMetricValue) :
    List (Bytes × Bytes) × Nat :=
  (labelSet item.1, (counter.shown item.2).toNat)

def Exposed.metric (counter : Exposed) (requests : MetricsRegistry) : Metric where
  name := counter.name
  help := counter.help
  kind := bytes "counter"
  samples := requests.toList.map counter.sample
  name_valid := counter.name_valid
  help_plain := counter.help_plain
  help_visible := counter.help_visible
  kind_known := by decide
  labels_valid := by
    intro sample member
    obtain ⟨item, _, rfl⟩ := List.mem_map.mp member
    exact labelSet_valid item.1

theorem escapeLabelValue_eq (input : Bytes) : escapeLabelValue input = escapeValue input := by
  have backslash : bytes "\\\\" = [92, 92] := by decide
  have quote : bytes "\\\"" = [92, 34] := by decide
  have feed : bytes "\\n" = [92, 110] := by decide
  rw [escapeLabelValue, escapeValue, backslash, quote, feed]
  rfl

theorem escapeValue_intText (n : Int) : escapeValue (intText n) = intText n := by
  refine escapeValue_plain fun c member => ?_
  rcases intText_bytes n c member with rfl | digit
  · decide
  · have bounds := (isDigit_iff c).mp digit
    refine ⟨?_, ?_, ?_⟩
    all_goals
      rintro rfl
      revert bounds
      decide

theorem renderSeries_eq (name : Bytes) (key : RequestMetricKey) :
    renderSeries name key = name ++ labelsText (labelSet key) := by
  have path : bytes "\x7bpath=\"" = 123 :: (bytes "path" ++ [61, 34]) := by decide
  have upstream : bytes "\",upstream=\"" = 34 :: 44 :: (bytes "upstream" ++ [61, 34]) := by
    decide
  have status : bytes "\",status=\"" = 34 :: 44 :: (bytes "status" ++ [61, 34]) := by
    decide
  have closing : bytes "\"\x7d" = [34, 125] := by decide
  simp [renderSeries, labelsText, labelSet, labelText, path, upstream, status, closing,
    escapeLabelValue_eq, escapeValue_intText]

theorem renderSeries_injective (name : Bytes) : Function.Injective (renderSeries name) := by
  intro a b same
  rw [renderSeries_eq, renderSeries_eq] at same
  exact labelSet_injective (labelsText_injective (labelSet_valid a) (labelSet_valid b)
    (List.append_cancel_left same))

theorem renderSample_eq (counter : Exposed) (item : RequestMetricKey × RequestMetricValue) :
    renderSample counter.name counter.shown item =
      sampleLine counter.name (counter.sample item) ++ [10] := by
  have space : bytes " " = [32] := by decide
  have feed : bytes "\n" = [10] := by decide
  simp [renderSample, renderSeries_eq, sampleLine, Exposed.sample, space, feed]

theorem renderFamily_eq (counter : Exposed) (requests : MetricsRegistry) :
    renderFamily counter.name counter.help counter.shown requests =
      writeLines (counter.metric requests).lines := by
  have space : bytes " " = [32] := by decide
  have feed : bytes "\n" = [10] := by decide
  have kind : bytes " counter\n" = 32 :: (bytes "counter" ++ [10]) := by decide
  have samples : requests.toList.flatMap (renderSample counter.name counter.shown) =
      writeLines ((requests.toList.map counter.sample).map (sampleLine counter.name)) := by
    rw [writeLines, List.map_map, List.flatMap_map]
    exact congrArg requests.toList.flatMap (funext (renderSample_eq counter))
  rw [renderFamily, samples]
  simp [Metric.lines, Exposed.metric, writeLines, space, feed, kind]

theorem renderPrometheus_eq (requests : MetricsRegistry) :
    renderPrometheus requests =
      writeLines ((exposed.map fun counter => counter.metric requests).flatMap Metric.lines) := by
  have total := renderFamily_eq requestsTotal requests
  have sum := renderFamily_eq durationMsSum requests
  have count := renderFamily_eq durationMsCount requests
  simp only [requestsTotal, durationMsSum, durationMsCount] at total sum count
  rw [renderPrometheus, total, sum, count]
  simp [exposed, writeLines, requestsTotal, durationMsSum, durationMsCount]

theorem readFamilies_renderPrometheus (requests : MetricsRegistry) :
    readFamilies (renderPrometheus requests) =
      some (exposed.map fun counter => (counter.metric requests).family) := by
  have distinct : ((exposed.map fun counter => counter.metric requests).map Metric.name).Nodup := by
    have names : (exposed.map Exposed.name).Nodup := by decide
    rw [List.map_map]
    exact names
  rw [renderPrometheus_eq, readFamilies_writeLines distinct, List.map_map]
  rfl

theorem readFamilies_response (metrics : Option MetricsRegistry) :
    readFamilies (buildPrometheusResponse metrics).body =
      some (metrics.elim [] fun requests =>
        exposed.map fun counter => (counter.metric requests).family) := by
  cases metrics with
  | none => rfl
  | some requests => exact readFamilies_renderPrometheus requests

end writer

section readings

/-- What a registry should hold of a key, once the key is recorded at all. -/
def recordedValue (entries : List MetricRecord) (key : RequestMetricKey) : RequestMetricValue :=
  let own := entries.filter fun entry => entry.1 = key
  ⟨UInt64.ofNat own.length, (own.map Prod.snd).sum⟩

theorem registryOf_getElem? (entries : List MetricRecord) (key : RequestMetricKey) :
    (registryOf entries)[key]? =
      if ∃ entry ∈ entries, entry.1 = key then some (recordedValue entries key) else none := by
  induction entries using List.reverseRecOn with
  | nil => simp [registryOf]
  | append_singleton entries entry ih =>
    have held : (registryOf entries).getD key {} = recordedValue entries key := by
      rw [Std.ExtTreeMap.getD_eq_getD_getElem?, ih]
      split
      · rfl
      · rename_i absent
        have none : entries.filter (fun entry => entry.1 = key) = [] := by
          refine List.filter_eq_nil_iff.mpr fun other member same => absent ?_
          exact ⟨other, member, of_decide_eq_true same⟩
        simp [recordedValue, none]
    rw [registryOf_snoc, recordOne_getElem?]
    by_cases own : entry.1 = key
    · have recorded : ∃ other ∈ entries ++ [entry], other.1 = key := ⟨entry, by simp, own⟩
      rw [if_pos own, if_pos recorded, held]
      simp [recordedValue, own]
    · have others : (∃ other ∈ entries ++ [entry], other.1 = key) ↔
          ∃ other ∈ entries, other.1 = key := by
        simp [own]
      have value : recordedValue (entries ++ [entry]) key = recordedValue entries key := by
        simp [recordedValue, own]
      rw [if_neg own, ih, value]
      exact if_congr others.symm rfl rfl

/-- A family that shows one field of every recorded key, once each, and nothing else. -/
structure Shows (family : Family) (entries : List MetricRecord)
    (shown : RequestMetricValue → UInt64) : Prop where
  each : ∀ key, family.samples.filter (fun sample => sample.labels = labelSet key) =
    if ∃ entry ∈ entries, entry.1 = key then
      [{ name := family.name, labels := labelSet key,
         value := (shown (recordedValue entries key)).toNat }]
    else []
  known : ∀ sample ∈ family.samples, ∃ entry ∈ entries, sample.labels = labelSet entry.1

theorem family_shows (counter : Exposed) (entries : List MetricRecord) :
    Shows (counter.metric (registryOf entries)).family entries counter.shown := by
  have samples : (counter.metric (registryOf entries)).family.samples =
      (registryOf entries).toList.map fun item =>
        (counter.metric (registryOf entries)).sampleOf (counter.sample item) := by
    simp only [Metric.family, Exposed.metric, List.map_map]
    rfl
  constructor
  · intro key
    have own : (fun item : RequestMetricKey × RequestMetricValue =>
        decide (((counter.metric (registryOf entries)).sampleOf (counter.sample item)).labels =
          labelSet key)) = fun item => decide (item.1 = key) :=
      funext fun item => decide_eq_decide.mpr labelSet_injective.eq_iff
    rw [samples, List.filter_map, Function.comp_def, own, toList_own, registryOf_getElem?]
    split <;> rfl
  · intro sample member
    rw [samples] at member
    obtain ⟨item, listed, rfl⟩ := List.mem_map.mp member
    have held := Std.ExtTreeMap.mem_toList_iff_getElem?_eq_some.mp listed
    rw [registryOf_getElem?] at held
    split at held
    · rename_i recorded
      obtain ⟨entry, inside, same⟩ := recorded
      exact ⟨entry, inside, congrArg labelSet same.symm⟩
    · cases held

/-- A scrape of a registry is read as three families. Each of them holds one sample for every key
    recorded, with the number or the sum of all its records, and no text of a path or an upstream
    makes it another; different keys are different series. -/
theorem scrape_reads_back (entries : List MetricRecord) :
    (∃ total sum count : Family,
      readFamilies (renderPrometheus (registryOf entries)) = some [total, sum, count] ∧
      (total.name = bytes "tgw_gateway_requests_total" ∧
        total.help = some (bytes "Total gateway HTTP requests.") ∧
        total.kind = some (bytes "counter") ∧ Shows total entries RequestMetricValue.count) ∧
      (sum.name = bytes "tgw_gateway_request_duration_ms_sum" ∧
        sum.help = some (bytes "Gateway request duration sum in milliseconds.") ∧
        sum.kind = some (bytes "counter") ∧ Shows sum entries RequestMetricValue.durationMsSum) ∧
      (count.name = bytes "tgw_gateway_request_duration_ms_count" ∧
        count.help = some (bytes "Gateway request duration sample count.") ∧
        count.kind = some (bytes "counter") ∧ Shows count entries RequestMetricValue.count)) ∧
    ∀ name, Function.Injective (renderSeries name) := by
  refine ⟨⟨(requestsTotal.metric (registryOf entries)).family,
    (durationMsSum.metric (registryOf entries)).family,
    (durationMsCount.metric (registryOf entries)).family,
    readFamilies_renderPrometheus _,
    ⟨rfl, rfl, rfl, family_shows requestsTotal entries⟩,
    ⟨rfl, rfl, rfl, family_shows durationMsSum entries⟩,
    ⟨rfl, rfl, rfl, family_shows durationMsCount entries⟩⟩, renderSeries_injective⟩

end readings

end TgwMetricsText
