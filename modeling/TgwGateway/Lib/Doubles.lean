import TgwGateway.Lib.JsonPrinter
import Mathlib.Algebra.Order.Field.Rat
import Mathlib.Data.List.DropRight
import Mathlib.Data.Nat.Log

/- Doubles of 64 bits by their values, and the text that a stream writes for one: six significant
   digits without the zeros at their end, with an exponent where the number is small or large. -/
namespace Doubles
open ByteStrings DecimalText JsonGrammar JsonPrinter

section values

/-- 53 significant bits at one of the exponents of the format. -/
def Binary64 (value : Rat) : Prop :=
  ∃ m e : Int, m.natAbs < 2 ^ 53 ∧ -1074 ≤ e ∧ e ≤ 971 ∧ value = m * (2 : Rat) ^ e

/-- Of the values that are no number there is one here. -/
inductive Double where
  | finite (value : Rat) (exact : Binary64 value)
  | negativeZero
  | infinite (negative : Bool)
  | notANumber
  deriving DecidableEq

theorem binary64_int {n : Int} (small : n.natAbs < 2 ^ 53) : Binary64 n :=
  ⟨n, 0, small, by omega, by omega, by simp⟩

def Double.zero : Double := .finite 0 (binary64_int (n := 0) (by decide))

def Double.one : Double := .finite 1 (by simpa using binary64_int (n := 1) (by decide))

/-- The value of a number; the two zeros have the same. -/
def Double.value : Double → Option Rat
  | .finite value _ => some value
  | .negativeZero => some 0
  | _ => none

def Double.lessThan : Double → Double → Bool
  | .notANumber, _ => false
  | _, .notANumber => false
  | .infinite negative, .infinite negative' => negative && !negative'
  | .infinite negative, _ => negative
  | _, .infinite negative => !negative
  | .finite a _, .finite b _ => a < b
  | .finite a _, .negativeZero => a < 0
  | .negativeZero, .finite b _ => 0 < b
  | .negativeZero, .negativeZero => false

end values

section text

/-- A quotient rounded to the nearest integer, from the middle to the even one. -/
def nearest (n d : Nat) : Nat :=
  let below := n / d
  let twice := 2 * (n % d)
  if twice < d ∨ twice = d ∧ below % 2 = 0 then below else below + 1

def leadingExponent (n d : Nat) : Int :=
  let e : Int := Nat.log 10 n - Nat.log 10 d
  if n * 10 ^ (-e).toNat < d * 10 ^ e.toNat then e - 1 else e

/-- Six digits, the first of them no zero, and its exponent. -/
def sixDigits (n d : Nat) : Nat × Int :=
  let e := leadingExponent n d
  let digits := nearest (n * 10 ^ (5 - e).toNat) (d * 10 ^ (e - 5).toNat)
  if digits = 10 ^ 6 then (10 ^ 5, e + 1) else (digits, e)

def fractionText (digits : Bytes) : Bytes :=
  let kept := digits.rdropWhile (· = 48)
  if kept = [] then [] else 46 :: kept

def exponentText (e : Int) : Bytes :=
  101 :: (if e < 0 then 45 else 43) :: ((if e.natAbs < 10 then [48] else []) ++ natText e.natAbs)

def positiveText (n d : Nat) : Bytes :=
  let (digits, e) := sixDigits n d
  let text := natText digits
  if e < -4 ∨ 6 ≤ e then text.take 1 ++ fractionText (text.drop 1) ++ exponentText e
  else if 0 ≤ e then text.take (e.toNat + 1) ++ fractionText (text.drop (e.toNat + 1))
  else 48 :: fractionText (List.replicate (-e - 1).toNat 48 ++ text)

def writeDouble : Double → Bytes
  | .finite value _ =>
    if value = 0 then [48]
    else (if value < 0 then [45] else []) ++ positiveText value.num.natAbs value.den
  | .negativeZero => [45, 48]
  | .infinite negative => (if negative then [45] else []) ++ bytes "inf"
  | .notANumber => bytes "nan"

example : positiveText 3602879701896397 36028797018963968 = bytes "0.1" := by decide +kernel
example : positiveText 1 3 = bytes "0.333333" := by decide +kernel
example : positiveText 1999999 2 = bytes "1e+06" := by decide +kernel

end text

section grammar

theorem fractionText_part {digits : Bytes} (all : ∀ c ∈ digits, isDigit c = true) :
    FractionPart (fractionText digits) := by
  unfold fractionText
  simp only
  split
  · exact Or.inl rfl
  · rename_i filled
    exact Or.inr ⟨_, rfl, filled, fun c inside =>
      all c ((List.rdropWhile_prefix _ digits).subset inside)⟩

theorem wholePart_take {text : Bytes} (whole : WholePart text) (k : Nat) :
    WholePart (text.take (k + 1)) := by
  rcases whole with rfl | ⟨⟨filled, digits⟩, lead⟩
  · exact Or.inl (by simp)
  · obtain ⟨c, rest, rfl⟩ := List.exists_cons_of_ne_nil filled
    refine Or.inr ⟨⟨by simp, fun d inside => digits d (List.mem_of_mem_take inside)⟩, ?_⟩
    simpa using lead

theorem exponentText_part (e : Int) : ExponentPart (exponentText e) := by
  refine Or.inr ⟨101, [if e < 0 then 45 else 43],
    (if e.natAbs < 10 then [48] else []) ++ natText e.natAbs, rfl, Or.inl rfl, ?_, ?_, ?_⟩
  · split
    · exact Or.inr (Or.inr rfl)
    · exact Or.inr (Or.inl rfl)
  · simp [natText_ne_nil]
  · intro c inside
    rcases List.mem_append.mp inside with pad | own
    · split at pad
      · rw [List.mem_singleton.mp pad]
        decide
      · cases pad
    · exact natText_isDigit _ c own

theorem positiveText_parts (n d : Nat) : ∃ whole fraction exponent,
    positiveText n d = whole ++ fraction ++ exponent ∧ WholePart whole ∧ FractionPart fraction ∧
      ExponentPart exponent := by
  unfold positiveText
  generalize sixDigits n d = out
  obtain ⟨digits, e⟩ := out
  have whole := natText_whole digits
  have part : ∀ k, FractionPart (fractionText ((natText digits).drop k)) := fun k =>
    fractionText_part fun c inside => natText_isDigit digits c (List.mem_of_mem_drop inside)
  simp only
  split
  · exact ⟨_, _, _, rfl, wholePart_take whole 0, part 1, exponentText_part e⟩
  · split
    · exact ⟨_, _, [], (List.append_nil _).symm, wholePart_take whole e.toNat, part _, Or.inl rfl⟩
    · refine ⟨[48], fractionText (List.replicate (-e - 1).toNat 48 ++ natText digits), [], by simp,
        Or.inl rfl, fractionText_part fun c inside => ?_, Or.inl rfl⟩
      rcases List.mem_append.mp inside with zeros | own
      · rw [List.eq_of_mem_replicate zeros]
        decide
      · exact natText_isDigit digits c own

/-- Every number is written as a number of JSON. -/
theorem writeDouble_number {x : Double} (number : x.value ≠ none) : NumberText (writeDouble x) := by
  cases x with
  | finite value exact =>
    obtain ⟨whole, fraction, exponent, text, wholePart, fractionPart, exponentPart⟩ :=
      positiveText_parts value.num.natAbs value.den
    simp only [writeDouble, text]
    split
    · exact ⟨[], [48], [], [], rfl, Or.inl rfl, Or.inl rfl, Or.inl rfl, Or.inl rfl⟩
    · split
      · exact ⟨[45], whole, fraction, exponent, by simp, Or.inr rfl, wholePart, fractionPart,
          exponentPart⟩
      · exact ⟨[], whole, fraction, exponent, by simp, Or.inl rfl, wholePart, fractionPart,
          exponentPart⟩
  | negativeZero => exact ⟨[45], [48], [], [], rfl, Or.inr rfl, Or.inl rfl, Or.inl rfl, Or.inl rfl⟩
  | infinite negative => exact absurd rfl number
  | notANumber => exact absurd rfl number

end grammar

end Doubles
