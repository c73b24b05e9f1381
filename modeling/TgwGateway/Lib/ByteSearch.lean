import TgwGateway.Lib.ByteStrings

/- The position of the first occurrence of a pattern, and what a search passes over. -/
namespace ByteSearch
open ByteStrings

def find (pattern : Bytes) : Bytes → Option Nat
  | [] => if pattern = [] then some 0 else none
  | c :: rest =>
    if pattern.isPrefixOf (c :: rest) then some 0 else (find pattern rest).map (· + 1)

def findFrom (pattern text : Bytes) (position : Nat) : Option Nat :=
  (find pattern (text.drop position)).map (· + position)

def afterFirst (pattern text : Bytes) : Option Bytes :=
  (find pattern text).map fun start => text.drop (start + pattern.length)

theorem find_here (pattern rest : Bytes) : find pattern (pattern ++ rest) = some 0 := by
  cases pattern with
  | nil => cases rest <;> simp [find]
  | cons c pattern => simp [find]

theorem afterFirst_here (pattern rest : Bytes) :
    afterFirst pattern (pattern ++ rest) = some rest := by
  simp [afterFirst, find_here]

theorem afterFirst_step {pattern rest : Bytes} {c : UInt8} (miss : ¬ pattern <+: c :: rest) :
    afterFirst pattern (c :: rest) = afterFirst pattern rest := by
  have no : pattern.isPrefixOf (c :: rest) = false := by
    rw [← Bool.not_eq_true, List.isPrefixOf_iff_prefix]
    exact miss
  simp only [afterFirst, find, no, Bool.false_eq_true, ↓reduceIte, Option.map_map]
  congr 1
  funext start
  simp only [Function.comp, Nat.add_right_comm, List.drop_succ_cons]

theorem afterFirst_skip {pattern : Bytes} {first : UInt8} (skipped : Bytes) (rest : Bytes)
    (absent : first ∉ skipped) :
    afterFirst (first :: pattern) (skipped ++ rest) = afterFirst (first :: pattern) rest := by
  induction skipped with
  | nil => rfl
  | cons c skipped ih =>
    obtain ⟨other, later⟩ := not_or.mp (mt List.mem_cons.mpr absent)
    rw [List.cons_append, afterFirst_step, ih later]
    intro found
    exact other (List.cons_prefix_cons.mp found).1

theorem find_single_absent {c : UInt8} {skipped : Bytes} (absent : c ∉ skipped) (rest : Bytes) :
    find [c] (skipped ++ c :: rest) = some skipped.length := by
  induction skipped with
  | nil => simp [find]
  | cons d skipped ih =>
    obtain ⟨other, later⟩ := not_or.mp (mt List.mem_cons.mpr absent)
    simp [find, ih later, other]

theorem find_single_none {c : UInt8} {text : Bytes} (absent : c ∉ text) : find [c] text = none := by
  induction text with
  | nil => rfl
  | cons d text ih =>
    obtain ⟨other, later⟩ := not_or.mp (mt List.mem_cons.mpr absent)
    simp [find, ih later, other]

/-- Where the search for one octet stops, from a position inside the text: it passes over one
    piece, and what is left begins behind the octet. -/
theorem findFrom_piece {c : UInt8} {text : Bytes} {start : Nat} (more : c ∈ text.drop start) :
    ∃ piece rest, text.drop start = piece ++ c :: rest ∧ c ∉ piece ∧
      findFrom [c] text start = some (start + piece.length) ∧
      start + piece.length < text.length ∧ text.drop (start + piece.length + 1) = rest := by
  obtain ⟨piece, rest, split, plain⟩ := List.eq_append_cons_of_mem more
  refine ⟨piece, rest, split, plain, ?_, ?_, ?_⟩
  · rw [findFrom, split, find_single_absent plain, Option.map_some, Nat.add_comm]
  · have lengths := congrArg List.length split
    simp only [List.length_drop, List.length_append, List.length_cons] at lengths
    omega
  · rw [Nat.add_assoc, ← List.drop_drop, split]
    simp

theorem findFrom_none {c : UInt8} {text : Bytes} {start : Nat} (absent : c ∉ text.drop start) :
    findFrom [c] text start = none := by
  rw [findFrom, find_single_none absent, Option.map_none]

end ByteSearch
