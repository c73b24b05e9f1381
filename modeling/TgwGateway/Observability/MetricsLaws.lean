import TgwGateway.Lib.CountedMaps
import TgwGateway.Observability.Metrics
import Mathlib.Algebra.Ring.Nat
import Mathlib.Data.List.Induction

/- What a registry holds is determined by the requests recorded in it, in any order. -/
namespace TgwMetricsLaws
open ByteStrings CountedMaps TgwMetrics

abbrev MetricRecord := RequestMetricKey × UInt64

def recordOne (requests : MetricsRegistry) (entry : MetricRecord) : MetricsRegistry :=
  recordRequest requests entry.1.path entry.1.upstream entry.1.status entry.2

def registryOf (entries : List MetricRecord) : MetricsRegistry := entries.foldl recordOne ∅

def counter (requests : MetricsRegistry) (key : RequestMetricKey) : Nat :=
  (requests.getD key {}).count.toNat

def counterSum (requests : MetricsRegistry) : Nat :=
  total (fun value => value.count.toNat) requests

theorem recordOne_getElem? (requests : MetricsRegistry) (entry : MetricRecord)
    (key : RequestMetricKey) :
    (recordOne requests entry)[key]? =
      if entry.1 = key then
        some ⟨(requests.getD key {}).count + 1, (requests.getD key {}).durationMsSum + entry.2⟩
      else requests[key]? := by
  rw [recordOne, recordRequest, Std.ExtTreeMap.getElem?_insert]
  simp only [Std.LawfulEqCmp.compare_eq_iff_eq]
  by_cases own : entry.1 = key
  · subst own
    rfl
  · rw [if_neg own, if_neg own]

theorem recordOne_getD (requests : MetricsRegistry) (entry : MetricRecord)
    (key : RequestMetricKey) :
    (recordOne requests entry).getD key {} =
      if entry.1 = key then
        ⟨(requests.getD key {}).count + 1, (requests.getD key {}).durationMsSum + entry.2⟩
      else requests.getD key {} := by
  simp only [Std.ExtTreeMap.getD_eq_getD_getElem?, recordOne_getElem?]
  split <;> rfl

/-- The sums are modular, so two records may change places even where they wrap around. -/
theorem recordOne_comm (requests : MetricsRegistry) (a b : MetricRecord) :
    recordOne (recordOne requests a) b = recordOne (recordOne requests b) a := by
  refine Std.ExtTreeMap.ext_getElem? fun key => ?_
  simp only [recordOne_getElem?, recordOne_getD]
  by_cases first : a.1 = key
  · by_cases second : b.1 = key
    · simp only [first, second, if_true, UInt64.add_assoc, UInt64.add_comm a.2]
    · simp [first, second]
  · by_cases second : b.1 = key <;> simp [first, second]

theorem registryOf_perm {entries order : List MetricRecord} (same : entries.Perm order) :
    registryOf entries = registryOf order :=
  same.foldl_eq' (fun a _ b _ requests => recordOne_comm requests a b) ∅

theorem registryOf_snoc (entries : List MetricRecord) (entry : MetricRecord) :
    registryOf (entries ++ [entry]) = recordOne (registryOf entries) entry := by
  rw [registryOf, List.foldl_append]
  rfl

/-- No counter can wrap around before there are 2^64 records. -/
theorem counter_registryOf (entries : List MetricRecord) (few : entries.length < 2 ^ 64)
    (key : RequestMetricKey) :
    counter (registryOf entries) key = entries.countP fun entry => entry.1 = key := by
  induction entries using List.reverseRecOn with
  | nil => rfl
  | append_singleton entries entry ih =>
    rw [List.length_append, List.length_singleton] at few
    have before := ih (by omega)
    have bound : (entries.countP fun entry => entry.1 = key) ≤ entries.length :=
      List.countP_le_length
    rw [registryOf_snoc, counter, recordOne_getD, List.countP_append]
    rw [counter] at before
    by_cases own : entry.1 = key
    · rw [if_pos own, UInt64.toNat_add, before]
      simp [own]
      omega
    · rw [if_neg own, before]
      simp [own]

theorem counterSum_registryOf (entries : List MetricRecord) (few : entries.length < 2 ^ 64) :
    counterSum (registryOf entries) = entries.length := by
  induction entries using List.reverseRecOn with
  | nil => exact total_empty _
  | append_singleton entries entry ih =>
    rw [List.length_append, List.length_singleton] at few
    have before := ih (by omega)
    have bound : counter (registryOf entries) entry.1 ≤ entries.length := by
      rw [counter_registryOf entries (by omega)]
      exact List.countP_le_length
    have swapped := total_insert (fun value : RequestMetricValue => value.count.toNat)
      (registryOf entries) entry.1
      ⟨((registryOf entries).getD entry.1 {}).count + 1,
        ((registryOf entries).getD entry.1 {}).durationMsSum + entry.2⟩
    have present : ((registryOf entries)[entry.1]?).elim 0 (fun value => value.count.toNat) =
        counter (registryOf entries) entry.1 := by
      rw [counter, Std.ExtTreeMap.getD_eq_getD_getElem?]
      cases (registryOf entries)[entry.1]? <;> rfl
    have grown : (((registryOf entries).getD entry.1 {}).count + 1).toNat =
        counter (registryOf entries) entry.1 + 1 := by
      rw [counter] at bound ⊢
      rw [UInt64.toNat_add]
      simp
      omega
    rw [present, grown] at swapped
    rw [counterSum] at before
    rw [registryOf_snoc, counterSum, List.length_append, List.length_singleton]
    exact Nat.add_right_cancel (swapped.trans (by omega))

end TgwMetricsLaws
