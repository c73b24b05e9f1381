import TgwGateway.Lib.ByteStrings
import Mathlib.Data.Nat.Digits.Defs

/- Decimal integers as text, and the reading of a leading integer in the manner of the C
   library: white space, one optional sign, then the longest run of digits. -/
namespace DecimalText
open ByteStrings

def isSpace (c : UInt8) : Bool := c == 32 || (9 ≤ c && c ≤ 13)

def isDigit (c : UInt8) : Bool := 48 ≤ c && c ≤ 57

def digitByte (d : Nat) : UInt8 := UInt8.ofNat (48 + d)

def natText (n : Nat) : Bytes :=
  if n = 0 then [digitByte 0] else (Nat.digits 10 n).reverse.map digitByte

def intText (n : Int) : Bytes :=
  if n < 0 then 45 :: natText n.natAbs else natText n.natAbs

def digitsValue (digits : Bytes) : Nat :=
  digits.foldl (fun value c => value * 10 + (c.toNat - 48)) 0

def unsignedInteger (text : Bytes) : Option Nat :=
  let digits := text.takeWhile isDigit
  if digits = [] then none else some (digitsValue digits)

def leadingInteger (text : Bytes) : Option Int :=
  match text.dropWhile isSpace with
  | 45 :: rest => (unsignedInteger rest).map fun (n : Nat) => -(n : Int)
  | 43 :: rest => (unsignedInteger rest).map fun (n : Nat) => (n : Int)
  | rest => (unsignedInteger rest).map fun (n : Nat) => (n : Int)

theorem isDigit_iff (c : UInt8) : isDigit c = true ↔ 48 ≤ c.toNat ∧ c.toNat ≤ 57 := by
  simp only [isDigit, Bool.and_eq_true, decide_eq_true_eq, UInt8.le_iff_toNat_le,
    UInt8.reduceToNat]

theorem isDigit_visible {c : UInt8} (digit : isDigit c = true) :
    isSpace c = false ∧ c ≠ 45 ∧ c ≠ 43 := by
  have bounds := (isDigit_iff c).mp digit
  simp only [isSpace, Bool.or_eq_false_iff, beq_eq_false_iff_ne, Bool.and_eq_false_iff,
    decide_eq_false_iff_not, UInt8.le_iff_toNat_le, ne_eq, ← UInt8.toNat_inj, UInt8.reduceToNat]
  omega

theorem digitByte_toNat {d : Nat} (small : d < 10) : (digitByte d).toNat = 48 + d := by
  simp only [digitByte, UInt8.toNat_ofNat']
  omega

theorem digitByte_isDigit {d : Nat} (small : d < 10) : isDigit (digitByte d) = true := by
  have value := digitByte_toNat small
  rw [isDigit_iff]
  omega

theorem natText_isDigit (n : Nat) : ∀ c ∈ natText n, isDigit c = true := by
  intro c member
  unfold natText at member
  split at member
  · rw [List.mem_singleton.mp member]
    decide
  · obtain ⟨d, inside, rfl⟩ := List.mem_map.mp member
    exact digitByte_isDigit (Nat.digits_lt_base (by decide) (List.mem_reverse.mp inside))

theorem natText_ne_nil (n : Nat) : natText n ≠ [] := by
  unfold natText
  split
  · simp
  · rename_i positive
    simpa [Nat.digits_eq_nil_iff_eq_zero] using positive

theorem intText_ne_nil (n : Int) : intText n ≠ [] := by
  unfold intText
  split
  · simp
  · exact natText_ne_nil _

theorem intText_bytes (n : Int) : ∀ c ∈ intText n, c = 45 ∨ isDigit c = true := by
  intro c member
  unfold intText at member
  split at member
  · rcases List.mem_cons.mp member with minus | digit
    · exact Or.inl minus
    · exact Or.inr (natText_isDigit _ c digit)
  · exact Or.inr (natText_isDigit _ c member)

theorem digitsValue_reversed (digits : List Nat) (small : ∀ d ∈ digits, d < 10) :
    digitsValue (digits.reverse.map digitByte) = Nat.ofDigits 10 digits := by
  induction digits with
  | nil => rfl
  | cons d digits ih =>
    have tail := ih fun x hx => small x (List.mem_cons_of_mem d hx)
    have head := digitByte_toNat (small d List.mem_cons_self)
    simp only [digitsValue] at tail
    simp only [digitsValue, List.reverse_cons, List.map_append, List.map_cons, List.map_nil,
      List.foldl_append, List.foldl_cons, List.foldl_nil, tail, head, Nat.ofDigits_cons]
    omega

theorem digitsValue_natText (n : Nat) : digitsValue (natText n) = n := by
  unfold natText
  split
  · rename_i zero
    simp [zero, digitsValue, digitByte]
  · rw [digitsValue_reversed _ fun d hd => Nat.digits_lt_base (by decide) hd,
      Nat.ofDigits_digits]

/-- A printed number is read back whole when no digit follows it. -/
theorem unsignedInteger_natText (n : Nat) (rest : Bytes)
    (stop : ∀ c ∈ rest.head?, isDigit c = false) :
    unsignedInteger (natText n ++ rest) = some n := by
  have split : (natText n ++ rest).takeWhile isDigit = natText n := by
    rw [List.takeWhile_append_of_pos (natText_isDigit n)]
    cases rest with
    | nil => simp
    | cons c rest => simp [stop c (by simp)]
  simp [unsignedInteger, split, natText_ne_nil, digitsValue_natText]

theorem natText_not_space_or_sign (n : Nat) :
    ∃ c rest, natText n = c :: rest ∧ isSpace c = false ∧ c ≠ 45 ∧ c ≠ 43 := by
  cases form : natText n with
  | nil => exact False.elim (natText_ne_nil n form)
  | cons c rest =>
    exact ⟨c, rest, rfl, isDigit_visible (natText_isDigit n c (by simp [form]))⟩

theorem leadingInteger_intText (n : Int) (rest : Bytes)
    (stop : ∀ c ∈ rest.head?, isDigit c = false) :
    leadingInteger (intText n ++ rest) = some n := by
  have reads := unsignedInteger_natText n.natAbs rest stop
  unfold intText
  split
  · rename_i negative
    have skip : ((45 : UInt8) :: natText n.natAbs ++ rest).dropWhile isSpace =
        45 :: (natText n.natAbs ++ rest) := by
      simp [isSpace]
    have value : -((n.natAbs : Nat) : Int) = n := by omega
    unfold leadingInteger
    rw [skip]
    simp only [reads, Option.map_some, value]
  · obtain ⟨c, tail, form, space, minus, plus⟩ := natText_not_space_or_sign n.natAbs
    have skip : (natText n.natAbs ++ rest).dropWhile isSpace = natText n.natAbs ++ rest := by
      simp [form, space]
    have value : ((n.natAbs : Nat) : Int) = n := by omega
    rw [form, List.cons_append] at skip reads
    rw [form, List.cons_append]
    unfold leadingInteger
    rw [skip]
    split
    · rename_i eq
      exact False.elim (minus (List.cons.inj eq).1)
    · rename_i eq
      exact False.elim (plus (List.cons.inj eq).1)
    · simp [reads, value]

theorem intText_injective : Function.Injective intText := by
  intro a b same
  have left := leadingInteger_intText a [] (by simp)
  have right := leadingInteger_intText b [] (by simp)
  rw [same] at left
  exact Option.some.inj (left.symm.trans right)

example : leadingInteger (bytes " -42x") = some (-42) := by decide

end DecimalText
