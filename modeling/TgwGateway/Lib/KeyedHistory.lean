import TgwGateway.Lib.ByteStrings
import Mathlib.Algebra.Ring.Nat
import Mathlib.Data.List.Induction
import Mathlib.Data.List.Nodup

/- A map that operations write to: a value is put under a key and changed later on. The entry of a
   key is the value put there last, with the changes made to it since. -/
namespace KeyedHistory
open ByteStrings
variable {Value Change : Type}

inductive Write (Value Change : Type) where
  | put (key : Bytes) (value : Value)
  | change (key : Bytes) (change : Change)

def putKeys (writes : List (Write Value Change)) : List Bytes :=
  writes.filterMap fun
    | .put key _ => some key
    | .change _ _ => none

def changesOf (key : Bytes) (writes : List (Write Value Change)) : List Change :=
  writes.filterMap fun
    | .put _ _ => none
    | .change own change => if own = key then some change else none

section act
variable (act : Change → Value → Value)

/-- A change to a key that is not there is lost. -/
def apply (entries : ByteMap Value) : Write Value Change → ByteMap Value
  | .put key value => entries.insert key value
  | .change key change =>
    match entries[key]? with
    | some value => entries.insert key (act change value)
    | none => entries

def applyAll (writes : List (Write Value Change)) : ByteMap Value := writes.foldl (apply act) ∅

theorem applyAll_snoc (writes : List (Write Value Change)) (last : Write Value Change) :
    applyAll act (writes ++ [last]) = apply act (applyAll act writes) last := by
  simp [applyAll]

theorem apply_put_lookup (entries : ByteMap Value) (own key : Bytes) (value : Value) :
    (apply act entries (.put own value))[key]? = if own = key then some value else entries[key]? := by
  simp [apply, Std.ExtTreeMap.getElem?_insert]

theorem apply_change_lookup (entries : ByteMap Value) (own key : Bytes) (change : Change) :
    (apply act entries (.change own change))[key]? =
      if own = key then entries[key]?.map (act change) else entries[key]? := by
  cases found : entries[own]? with
  | none =>
    simp only [apply, found]
    split
    · rename_i same
      simp [← same, found]
    · rfl
  | some value =>
    simp only [apply, found]
    by_cases same : own = key
    · subst same
      simp [found]
    · simp [Std.ExtTreeMap.getElem?_insert, same]

variable {act}

/-- By induction on the writes, the last one first. -/
theorem lookup_none_iff (writes : List (Write Value Change)) (key : Bytes) :
    (applyAll act writes)[key]? = none ↔ key ∉ putKeys writes := by
  induction writes using List.reverseRecOn with
  | nil => simp [applyAll, putKeys]
  | append_singleton writes last ih =>
    rw [applyAll_snoc]
    cases last with
    | put own value =>
      rw [apply_put_lookup]
      by_cases same : own = key
      · simp [same, putKeys]
      · rw [if_neg same, ih]
        simp [putKeys, Ne.symm same]
    | change own change =>
      rw [apply_change_lookup]
      have keys : putKeys (writes ++ [.change own change]) = putKeys writes := by simp [putKeys]
      rw [keys, ← ih]
      split
      · exact Option.map_eq_none_iff
      · rfl

theorem lookup_some {writes : List (Write Value Change)} {key : Bytes} {value : Value}
    (found : (applyAll act writes)[key]? = some value) :
    ∃ before start since, writes = before ++ .put key start :: since ∧
      value = (changesOf key since).foldl (fun held change => act change held) start := by
  induction writes using List.reverseRecOn generalizing value with
  | nil => simp [applyAll] at found
  | append_singleton writes last ih =>
    rw [applyAll_snoc] at found
    cases last with
    | put own start =>
      rw [apply_put_lookup] at found
      by_cases same : own = key
      · rw [if_pos same, Option.some.injEq] at found
        exact ⟨writes, start, [], by simp [same], by simp [changesOf, found]⟩
      · rw [if_neg same] at found
        obtain ⟨before, first, since, rfl, rest⟩ := ih found
        exact ⟨before, first, since ++ [.put own start], by simp, by simpa [changesOf] using rest⟩
    | change own change =>
      rw [apply_change_lookup] at found
      by_cases same : own = key
      · rw [if_pos same, Option.map_eq_some_iff] at found
        obtain ⟨held, earlier, rfl⟩ := found
        obtain ⟨before, first, since, rfl, rest⟩ := ih earlier
        refine ⟨before, first, since ++ [.change own change], by simp, ?_⟩
        simp [changesOf, same, rest]
      · rw [if_neg same] at found
        obtain ⟨before, first, since, rfl, rest⟩ := ih found
        refine ⟨before, first, since ++ [.change own change], by simp, ?_⟩
        simpa [changesOf, same] using rest

/-- Of changes that overwrite each other only the last one shows. -/
theorem foldl_last {changes : List Change} {start : Value}
    (overwrites : ∀ c d v, act d (act c v) = act d v) :
    changes.foldl (fun held change => act change held) start =
      match changes.getLast? with
      | some last => act last start
      | none => start := by
  induction changes using List.reverseRecOn with
  | nil => rfl
  | append_singleton changes last ih =>
    rw [List.foldl_append, ih, List.getLast?_append]
    cases changes.getLast? with
    | none => rfl
    | some previous => exact overwrites previous last start

end act

section numbered

/-- The keys drawn so far from a counter that is raised before each use. -/
structure Numbered (name : UInt64 → Bytes) (counter : UInt64) (keys : List Bytes) : Prop where
  counter_eq : counter = UInt64.ofNat keys.length
  keys_eq : keys = (List.range keys.length).map fun n => name (UInt64.ofNat (n + 1))

variable {name : UInt64 → Bytes} {counter : UInt64} {keys : List Bytes}

theorem numbered_nil (name : UInt64 → Bytes) : Numbered name 0 [] := ⟨rfl, rfl⟩

theorem numbered_next (numbered : Numbered name counter keys) :
    Numbered name (counter + 1) (keys ++ [name (counter + 1)]) := by
  have counter_eq : counter + 1 = UInt64.ofNat (keys.length + 1) := by
    rw [numbered.counter_eq, UInt64.ofNat_add]
    rfl
  refine ⟨by simpa using counter_eq, ?_⟩
  rw [List.length_append, List.length_singleton, List.range_succ, List.map_append,
    ← numbered.keys_eq, List.map_singleton, ← counter_eq]

/-- A name for every number keeps the keys apart as long as the counter does not wrap. -/
theorem numbered_nodup (numbered : Numbered name counter keys) (apart : Function.Injective name)
    (small : keys.length < 2 ^ 64) : keys.Nodup := by
  rw [numbered.keys_eq]
  refine List.Nodup.map_on ?_ List.nodup_range
  intro m inside n inside' same
  rw [List.mem_range] at inside inside'
  have equal := congrArg UInt64.toNat (apart same)
  rw [UInt64.toNat_ofNat', UInt64.toNat_ofNat'] at equal
  omega

end numbered

end KeyedHistory
