import TgwGateway.Lib.ByteStrings

/- MetricsRegistry: counters keyed by path, upstream and status. -/
namespace TgwMetrics
open ByteStrings

structure RequestMetricKey where
  path : Bytes := []
  upstream : Bytes := []
  status : Int := 0
  deriving DecidableEq

structure RequestMetricValue where
  count : UInt64 := 0
  durationMsSum : UInt64 := 0
  deriving DecidableEq

/-- The operator of the map: path first, then upstream, then status. -/
def keyOrder : RequestMetricKey → RequestMetricKey → Ordering :=
  compareLex (compareOn RequestMetricKey.path)
    (compareLex (compareOn RequestMetricKey.upstream) (compareOn RequestMetricKey.status))

instance : Std.TransCmp keyOrder := inferInstanceAs (Std.TransCmp (compareLex _ _))

instance : Std.LawfulEqCmp keyOrder where
  eq_of_compare := by
    intro a b same
    simp only [keyOrder, compareLex_eq_eq, compareOn, Std.compare_eq_iff_eq] at same
    obtain ⟨path, upstream, status⟩ := same
    cases a
    cases b
    simp_all

abbrev MetricsRegistry := Std.ExtTreeMap RequestMetricKey RequestMetricValue keyOrder

def recordRequest (requests : MetricsRegistry) (path upstream : Bytes) (status : Int)
    (durationMs : UInt64) : MetricsRegistry :=
  let key : RequestMetricKey := ⟨path, upstream, status⟩
  let value := requests.getD key {}
  requests.insert key ⟨value.count + 1, value.durationMsSum + durationMs⟩

end TgwMetrics
