import TgwGateway.Lib.ByteStrings
import Mathlib.Data.List.Sort

/- A search over an ordered map depends only on the entries whose keys it accepts. -/
namespace ByteMaps
open ByteStrings
variable {Value : Type}

def Before (a b : Bytes × Value) : Prop := compare a.1 b.1 = .lt

theorem before_asymm {a b : Bytes × Value} (left : Before a b) : ¬ Before b a := by
  intro right
  have after := Std.OrientedCmp.gt_of_lt left
  rw [right] at after
  simp at after

instance : Std.Antisymm (@Before Value) where
  antisymm _ _ left right := absurd right (before_asymm left)

instance : Std.Irrefl (@Before Value) where
  irrefl _ before := before_asymm before before

theorem find_toList_congr {m n : ByteMap Value} {accepts : Bytes → Bool}
    (agree : ∀ key, accepts key = true → m[key]? = n[key]?) :
    m.toList.find? (fun item => accepts item.1) = n.toList.find? (fun item => accepts item.1) := by
  have same : m.toList.filter (fun item => accepts item.1) =
      n.toList.filter (fun item => accepts item.1) := by
    refine @List.Pairwise.eq_of_mem_iff _ Before _ _ _ _ ?_ ?_ ?_
    · exact m.ordered_keys_toList.filter _
    · exact n.ordered_keys_toList.filter _
    · rintro ⟨key, value⟩
      simp only [List.mem_filter, Std.ExtTreeMap.mem_toList_iff_getElem?_eq_some]
      refine and_congr_left fun accepted => ?_
      rw [agree key accepted]
  rw [← List.head?_filter, ← List.head?_filter, same]

theorem foldl_insert_toList {m : ByteMap Value} {items : List (Bytes × Value)}
    (order : items.Perm m.toList) :
    items.foldl (fun built item => built.insert item.1 item.2) ∅ = m := by
  rw [← Std.ExtTreeMap.ofList_eq_foldl]
  refine Std.ExtTreeMap.ext_getElem? fun key => ?_
  cases found : m[key]? with
  | some value =>
    have listed : (key, value) ∈ items :=
      order.mem_iff.mpr (Std.ExtTreeMap.mem_toList_iff_getElem?_eq_some.mpr found)
    have distinct : items.Pairwise fun a b => ¬ compare a.1 b.1 = .eq :=
      order.symm.pairwise m.distinct_keys_toList fun differ same =>
        differ (Std.OrientedCmp.eq_symm same)
    exact Std.ExtTreeMap.getElem?_ofList_of_mem Std.ReflCmp.compare_self distinct listed
  | none =>
    refine Std.ExtTreeMap.getElem?_ofList_of_contains_eq_false ?_
    by_contra present
    simp only [Bool.not_eq_false, List.contains_iff_mem, List.mem_map] at present
    obtain ⟨⟨name, value⟩, listed, rfl⟩ := present
    have stored := Std.ExtTreeMap.mem_toList_iff_getElem?_eq_some.mp (order.mem_iff.mp listed)
    rw [found] at stored
    cases stored

end ByteMaps
