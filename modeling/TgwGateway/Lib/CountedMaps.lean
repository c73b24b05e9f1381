import Mathlib.Algebra.Ring.Nat
import Mathlib.Data.List.Perm.Basic
import Mathlib.Data.List.Perm.Subperm
import Mathlib.Tactic.Common
import Std.Data.ExtTreeMap

/- Sums over the values of an ordered map, and lists of which only the last items are kept. -/
namespace CountedMaps

section totals
variable {Key Value : Type} {cmp : Key → Key → Ordering} [Std.TransCmp cmp] [Std.LawfulEqCmp cmp]

def total (weight : Value → Nat) (m : Std.ExtTreeMap Key Value cmp) : Nat :=
  (m.toList.map fun item => weight item.2).sum

theorem nodup_toList (m : Std.ExtTreeMap Key Value cmp) : m.toList.Nodup := by
  refine List.Pairwise.imp ?_ m.distinct_keys_toList
  rintro a _ differ rfl
  exact differ Std.ReflCmp.compare_self

omit [Std.LawfulEqCmp cmp] in
@[simp] theorem total_empty (weight : Value → Nat) :
    total weight (∅ : Std.ExtTreeMap Key Value cmp) = 0 := by
  have none : (∅ : Std.ExtTreeMap Key Value cmp).toList = [] :=
    Std.ExtTreeMap.toList_eq_nil_iff.mpr rfl
  simp [total, none]

variable [DecidableEq Key]

theorem toList_split (m : Std.ExtTreeMap Key Value cmp) (key : Key) :
    m.toList.Perm ((m[key]?).toList.map (Prod.mk key) ++
      m.toList.filter fun item => item.1 ≠ key) := by
  rw [List.perm_ext_iff_of_nodup (nodup_toList m)]
  · rintro ⟨k, v⟩
    simp only [Std.ExtTreeMap.mem_toList_iff_getElem?_eq_some, List.mem_append, List.mem_map,
      Option.mem_toList, List.mem_filter, Prod.mk.injEq, decide_not, Bool.not_eq_eq_eq_not,
      Bool.not_true, decide_eq_false_iff_not]
    by_cases own : k = key
    · subst own
      simp
    · simp [own, Ne.symm own]
  · refine List.nodup_append.mpr ⟨?_, (nodup_toList m).filter _, ?_⟩
    · cases m[key]? <;> simp
    · rintro item left _ right rfl
      simp only [List.mem_map, Option.mem_toList] at left
      obtain ⟨v, _, rfl⟩ := left
      simp at right

theorem toList_own (m : Std.ExtTreeMap Key Value cmp) (key : Key) :
    (m.toList.filter fun item => item.1 = key) = (m[key]?).toList.map (Prod.mk key) := by
  have own : (m.toList.filter fun item => item.1 = key).Perm
      ((m[key]?).toList.map (Prod.mk key)) := by
    refine ((toList_split m key).filter _).trans (List.Perm.of_eq ?_)
    have others : ((m.toList.filter fun item => item.1 ≠ key).filter
        fun item => item.1 = key) = [] := by
      simp [List.filter_filter]
    rw [List.filter_append, others, List.append_nil]
    cases m[key]? <;> simp
  cases held : m[key]? with
  | none =>
    rw [held] at own
    exact own.eq_nil
  | some value =>
    rw [held] at own
    exact List.perm_singleton.mp own

theorem total_split (weight : Value → Nat) (m : Std.ExtTreeMap Key Value cmp) (key : Key) :
    total weight m = (m[key]?).elim 0 weight +
      ((m.toList.filter fun item => item.1 ≠ key).map fun item => weight item.2).sum := by
  rw [total, ((toList_split m key).map _).sum_nat, List.map_append, List.sum_append]
  cases m[key]? <;> simp

/-- Replacing the value under a key replaces its weight in the sum. -/
theorem total_insert (weight : Value → Nat) (m : Std.ExtTreeMap Key Value cmp) (key : Key)
    (value : Value) :
    total weight (m.insert key value) + (m[key]?).elim 0 weight = total weight m + weight value := by
  have others : ((m.insert key value).toList.filter fun item => item.1 ≠ key).Perm
      (m.toList.filter fun item => item.1 ≠ key) := by
    rw [List.perm_ext_iff_of_nodup ((nodup_toList _).filter _) ((nodup_toList _).filter _)]
    rintro ⟨k, v⟩
    simp only [List.mem_filter, Std.ExtTreeMap.mem_toList_iff_getElem?_eq_some,
      Std.ExtTreeMap.getElem?_insert, Std.LawfulEqCmp.compare_eq_iff_eq, decide_eq_true_eq]
    refine and_congr_left fun differ => ?_
    rw [if_neg (Ne.symm differ)]
  have own : (m.insert key value)[key]? = some value := Std.ExtTreeMap.getElem?_insert_self
  rw [total_split weight (m.insert key value) key, total_split weight m key, own,
    (others.map _).sum_nat]
  simp only [Option.elim_some]
  omega

end totals

section last
variable {Item : Type}

def keepLast (size : Nat) (items : List Item) : List Item := items.drop (items.length - size)

@[simp] theorem keepLast_nil (size : Nat) : keepLast size ([] : List Item) = [] := by
  simp [keepLast]

/-- Dropping the oldest items at every turn keeps the same ones as dropping them at the end. -/
theorem keepLast_snoc (size : Nat) (items : List Item) (item : Item) :
    keepLast size (keepLast size items ++ [item]) = keepLast size (items ++ [item]) := by
  simp only [keepLast, List.length_append, List.length_drop, List.length_singleton]
  by_cases small : items.length ≤ size
  · have none : items.length - size = 0 := by omega
    simp [none]
  · rw [← List.drop_append_of_le_length (by omega), List.drop_drop]
    congr 1
    omega

end last

end CountedMaps
