import TgwGateway.Lib.JsonScan
import TgwGateway.Lib.MachineInt
import Mathlib.Algebra.Order.Field.Power
import Mathlib.Algebra.Order.Field.Rat
import Mathlib.RingTheory.Coprime.Lemmas
import Mathlib.Tactic.Linarith
import Mathlib.Tactic.LinearCombination

/- The number that a literal of the JSON grammar stands for, and the integer that is written before
   its fraction and its exponent. -/
namespace JsonNumbers
open ByteStrings DecimalText JsonGrammar MachineInt

structure Parts where
  negative : Bool
  whole : Bytes
  fraction : Bytes
  exponent : Int
  deriving DecidableEq

def fractionOf : Bytes → Bytes × Bytes
  | 46 :: rest => (rest.takeWhile isDigit, rest.dropWhile isDigit)
  | rest => ([], rest)

def unsignedOf (literal : Bytes) : Bytes :=
  if literal.head? = some 45 then literal.tail else literal

def parts (literal : Bytes) : Parts :=
  let fraction := fractionOf ((unsignedOf literal).dropWhile isDigit)
  { negative := literal.head? = some 45
    whole := (unsignedOf literal).takeWhile isDigit
    fraction := fraction.1
    exponent := (leadingInteger fraction.2.tail).getD 0 }

def withSign (negative : Bool) (n : Nat) : Int := if negative then -n else n

def Parts.value (p : Parts) : ℚ :=
  withSign p.negative (digitsValue (p.whole ++ p.fraction)) *
    10 ^ (p.exponent - p.fraction.length)

def numberValue (literal : Bytes) : ℚ := (parts literal).value

def integerPart (literal : Bytes) : Int :=
  withSign (parts literal).negative (digitsValue (parts literal).whole)

example : parts (bytes "-12.50e+3") = ⟨true, bytes "12", bytes "50", 3⟩ := by decide

theorem digitsValue_append (digits more : Bytes) :
    digitsValue (digits ++ more) = digitsValue digits * 10 ^ more.length + digitsValue more := by
  induction more using List.reverseRecOn with
  | nil => simp [digitsValue]
  | append_singleton more c ih =>
    have step : ∀ text : Bytes,
        digitsValue (text ++ [c]) = digitsValue text * 10 + (c.toNat - 48) := by
      intro text
      simp [digitsValue]
    rw [← List.append_assoc, step, step, ih, List.length_append, List.length_singleton, pow_succ]
    ring

theorem digitsValue_lt {digits : Bytes} (all : ∀ c ∈ digits, isDigit c = true) :
    digitsValue digits < 10 ^ digits.length := by
  induction digits using List.reverseRecOn with
  | nil => simp [digitsValue]
  | append_singleton digits c ih =>
    have below := ih fun x member => all x (by simp [member])
    have digit := (isDigit_iff c).mp (all c (by simp))
    rw [digitsValue_append, List.length_append, List.length_singleton, pow_succ]
    have last : digitsValue [c] = c.toNat - 48 := by simp [digitsValue]
    omega

theorem fractionOf_digits (text : Bytes) : ∀ c ∈ (fractionOf text).1, isDigit c = true := by
  unfold fractionOf
  split
  · exact List.all_eq_true.mp List.all_takeWhile
  · simp

theorem leadingInteger_whole {text : Bytes} (whole : WholePart (text.takeWhile isDigit)) :
    leadingInteger text = some (digitsValue (text.takeWhile isDigit) : Int) ∧
      leadingInteger (45 :: text) = some (-(digitsValue (text.takeWhile isDigit) : Int)) := by
  obtain ⟨c, rest, first, digit⟩ := wholePart_head whole
  have read : unsignedInteger text = some (digitsValue (text.takeWhile isDigit)) := by
    simp [unsignedInteger, first]
  cases text with
  | nil => cases first
  | cons x text =>
    have head : isDigit x = true := by
      by_contra other
      simp [other] at first
    obtain ⟨visible, noMinus, noPlus⟩ := isDigit_visible head
    constructor
    · simp [leadingInteger, visible, noMinus, noPlus, read]
    · have skip : ((45 : UInt8) :: x :: text).dropWhile isSpace = 45 :: x :: text := by
        simp [isSpace]
      rw [leadingInteger, skip]
      simp [read]

theorem integerPart_plain {text : Bytes} (unsigned : text.head? ≠ some 45) :
    integerPart text = digitsValue (text.takeWhile isDigit) := by
  simp [integerPart, parts, unsignedOf, unsigned, withSign]

theorem integerPart_minus (text : Bytes) :
    integerPart (45 :: text) = -(digitsValue (text.takeWhile isDigit) : Int) := by
  simp [integerPart, parts, unsignedOf, withSign]

/-- Before its fraction and its exponent a literal is read as an integer. -/
theorem leadingInteger_literal {literal : Bytes} (form : NumberText literal) :
    leadingInteger literal = some (integerPart literal) := by
  obtain ⟨sign, whole, fraction, exponent, rfl, signed, natural, fractional, scaled⟩ := form
  have digits : ∀ c ∈ whole, isDigit c = true := by
    intro c member
    rcases natural with rfl | ⟨⟨_, all⟩, _⟩
    · rw [List.mem_singleton.mp member]
      rfl
    · exact all c member
  have stops : ∀ c ∈ (fraction ++ exponent).head?, isDigit c = false := by
    intro c first
    rcases fractional with rfl | ⟨after, rfl, _⟩
    · rcases scaled with rfl | ⟨mark, sign', digits', rfl, rfl | rfl, _, _⟩
      · cases first
      · cases first
        rfl
      · cases first
        rfl
    · cases first
      rfl
  have taken : (whole ++ (fraction ++ exponent)).takeWhile isDigit = whole := by
    rw [List.takeWhile_append_of_pos digits]
    cases rest : fraction ++ exponent with
    | nil => simp
    | cons c more => simp [stops c (by simp [rest])]
  obtain ⟨c, more, first, digit⟩ := wholePart_head natural
  have unsigned : (whole ++ (fraction ++ exponent)).head? ≠ some 45 := by
    rw [first, List.cons_append, List.head?_cons]
    intro minus
    rw [Option.some.inj minus] at digit
    cases digit
  obtain ⟨plain, negated⟩ := leadingInteger_whole (taken.symm ▸ natural)
  rw [taken] at plain negated
  rcases signed with rfl | rfl
  · rw [List.nil_append, List.append_assoc, plain, integerPart_plain unsigned, taken]
  · rw [List.append_assoc, List.append_assoc, List.singleton_append, negated, integerPart_minus,
      taken]

theorem withSign_eq (negative : Bool) :
    ∃ sign : Int, (sign = 1 ∨ sign = -1) ∧ ∀ n, withSign negative n = sign * n := by
  cases negative with
  | false => exact ⟨1, Or.inl rfl, fun n => by simp [withSign]⟩
  | true => exact ⟨-1, Or.inr rfl, fun n => by simp [withSign]⟩

theorem isCoprime_wrap (m : Nat) : IsCoprime (4294967296 : Int) (10 ^ (m + 1) - 1) := by
  have two : IsCoprime (2 : Int) (10 ^ (m + 1) - 1) := ⟨5 * 10 ^ m, -1, by ring⟩
  exact (show (4294967296 : Int) = 2 ^ 32 by norm_num) ▸ two.pow_left

theorem wrap_scaled_down {whole fraction k m : Nat} (small : fraction < 10 ^ k) {n high : Int}
    (low : 0 ≤ n) (bound : n < 4294967296) (wrapped : n = whole - 4294967296 * high)
    (scaled : n * 10 ^ (k + m + 1) = whole * 10 ^ k + fraction) : n = whole := by
  have spread : (fraction : Int) = 10 ^ k * (n * 10 ^ (m + 1) - whole) := by
    linear_combination -scaled
  have none : n * 10 ^ (m + 1) - whole = 0 := by
    have positive : (0 : Int) < 10 ^ k := by positivity
    have below : (fraction : Int) < 10 ^ k := by exact_mod_cast small
    by_contra other
    rcases Int.lt_or_gt_of_ne other with negative | positive'
    · have := Int.mul_neg_of_pos_of_neg positive negative
      omega
    · have := Int.mul_le_mul_of_nonneg_left (show 1 ≤ n * 10 ^ (m + 1) - whole by omega)
        positive.le
      omega
  have factor : n * (10 ^ (m + 1) - 1) = 4294967296 * high := by linear_combination none - wrapped
  have divides : (4294967296 : Int) ∣ n :=
    (isCoprime_wrap m).dvd_of_dvd_mul_right ⟨high, factor⟩
  have zero : n = 0 := Int.eq_zero_of_dvd_of_nonneg_of_lt low bound divides
  rw [zero] at none ⊢
  omega

/-- A scaled number in the range of an int that comes from its whole part by wrapping is that
    whole part. -/
theorem wrap_scaled {whole fraction k : Nat} (small : fraction < 10 ^ k) {n exponent : Int}
    (high : Int) (bound : n < 4294967296) (wrapped : n = whole - 4294967296 * high)
    (scaled : (n : ℚ) = ((whole * 10 ^ k + fraction : Nat) : ℚ) * 10 ^ (exponent - k)) :
    n = whole := by
  have nonneg : 0 ≤ n := by
    have : (0 : ℚ) ≤ n := by rw [scaled]; positivity
    exact_mod_cast this
  have ten : (10 : ℚ) ≠ 0 := by norm_num
  have shifted : (n : ℚ) * 10 ^ k = ((whole * 10 ^ k + fraction : Nat) : ℚ) * 10 ^ exponent := by
    rw [scaled, mul_assoc, ← zpow_natCast (10 : ℚ) k, ← zpow_add₀ ten, Int.sub_add_cancel]
  rcases lt_or_ge exponent 0 with down | up
  · obtain ⟨m, rfl⟩ : ∃ m : Nat, exponent = -(m + 1 : Nat) := ⟨(-exponent - 1).toNat, by omega⟩
    refine wrap_scaled_down (m := m) small nonneg bound wrapped ?_
    rw [zpow_neg, zpow_natCast] at shifted
    have whole_digits : (n : ℚ) * 10 ^ k * 10 ^ (m + 1) = whole * 10 ^ k + fraction := by
      rw [shifted, inv_mul_cancel_right₀ (pow_ne_zero _ ten)]
      push_cast
      rfl
    have integral : n * 10 ^ k * 10 ^ (m + 1) = whole * 10 ^ k + fraction := by
      exact_mod_cast whole_digits
    rw [← integral]
    ring
  · obtain ⟨e, rfl⟩ := Int.eq_ofNat_of_zero_le up
    have above : (whole : Int) ≤ n := by
      have positive : (0 : ℚ) < 10 ^ k := by positivity
      have grown : (1 : ℚ) ≤ 10 ^ (e : Int) := by
        rw [zpow_natCast]
        exact one_le_pow₀ (by norm_num)
      have least : (whole : ℚ) * 10 ^ k ≤ n * 10 ^ k := by
        rw [shifted]
        push_cast
        have rest : (0 : ℚ) ≤ fraction := by positivity
        have scaledUp : (whole * 10 ^ k + fraction : ℚ) ≤
            (whole * 10 ^ k + fraction) * 10 ^ (e : Int) := le_mul_of_one_le_right (by positivity) grown
        linarith
      exact_mod_cast le_of_mul_le_mul_right least positive
    omega

/-- A literal whose integer part only wraps to its value has that value unwrapped. -/
theorem toInt32_integerPart_iff (literal : Bytes) :
    (toInt32 (integerPart literal) : ℚ) = numberValue literal ↔
      (integerPart literal : ℚ) = numberValue literal ∧ FitsInt32 (integerPart literal) := by
  constructor
  · intro wraps
    suffices same : toInt32 (integerPart literal) = integerPart literal by
      exact ⟨same ▸ wraps, (toInt32_eq_iff _).mp same⟩
    have fits := toInt32_fits (integerPart literal)
    obtain ⟨high, low_bits⟩ := toInt32_low_bits (integerPart literal)
    generalize toInt32 (integerPart literal) = n at *
    have small := digitsValue_lt (fractionOf_digits ((unsignedOf literal).dropWhile isDigit))
    simp only [integerPart, numberValue, Parts.value] at *
    obtain ⟨sign, unit, signed⟩ := withSign_eq (parts literal).negative
    rw [signed] at wraps low_bits ⊢
    rw [digitsValue_append] at wraps
    obtain ⟨low, bound⟩ := fits
    have scaled : ((sign * n : Int) : ℚ) = ((digitsValue (parts literal).whole *
        10 ^ (parts literal).fraction.length + digitsValue (parts literal).fraction : Nat) : ℚ) *
          10 ^ ((parts literal).exponent - (parts literal).fraction.length) := by
      push_cast at wraps ⊢
      rcases unit with rfl | rfl
      · linear_combination wraps
      · linear_combination -wraps
    have unsigned : sign * n = digitsValue (parts literal).whole := by
      refine wrap_scaled small (sign * high) ?_ ?_ scaled
      · rcases unit with rfl | rfl <;> omega
      · rcases unit with rfl | rfl <;> omega
    rcases unit with rfl | rfl <;> omega
  · rintro ⟨value, fits⟩
    rw [toInt32_of_fits fits]
    exact value

end JsonNumbers
