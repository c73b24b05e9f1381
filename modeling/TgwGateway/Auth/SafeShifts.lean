import TgwGateway.Auth.TokenService
import TgwGateway.Lib.CheckedInt
import Mathlib.Data.List.TakeWhile

/- The coding loops over an int that may not overflow. Nothing is ever cleared from the accumulator:
   it is the number that all octets or letters read so far write. -/
namespace TgwSafeShifts
open ByteStrings MachineInt CheckedInt TgwBase64Url

def drainChecked (value : Int) : Nat → Int → Bytes → Option (Int × Bytes)
  | 0, bits, output => some (bits, output)
  | fuel + 1, bits, output =>
    if 0 ≤ bits then do
      let shifted ← shiftRight value bits.toNat
      drainChecked value fuel (bits - 6) (output ++ [base64UrlByte (shifted % 64)])
    else some (bits, output)

def encodeLoopChecked : Bytes → Int → Int → Bytes → Option Bytes
  | [], value, bits, output =>
    if -6 < bits then do
      let shifted ← shiftRight (← shiftLeft value 8) (bits + 8).toNat
      return output ++ [base64UrlByte (shifted % 64)]
    else some output
  | c :: data, value, bits, output => do
    let value ← push 8 value c.toNat
    let drained ← drainChecked value 2 (bits + 8) output
    encodeLoopChecked data value drained.1 drained.2

/-- Base64UrlEncodeBytes, without a result where it overflows. -/
def encodeChecked (input : Bytes) : Option Bytes := encodeLoopChecked input 0 (-6) []

def decodeLoopChecked : Bytes → Int → Int → Bytes → Option (Option Bytes)
  | [], _, _, output => some (some output)
  | c :: input, value, bits, output =>
    let decoded := base64UrlValue c
    if decoded < 0 then some none
    else do
      let value ← push 6 value decoded
      let bits := bits + 6
      if 0 ≤ bits then do
        let shifted ← shiftRight value bits.toNat
        decodeLoopChecked input value (bits - 8) (output ++ [UInt8.ofNat (shifted % 256).toNat])
      else decodeLoopChecked input value bits output

def decodeChecked (input : Bytes) : Option (Option Bytes) := decodeLoopChecked input 0 (-8) []

def octetNumber (value : Int) (data : Bytes) : Int :=
  data.foldl (fun value c => value * 256 + c.toNat) value

def letterNumber (value : Int) (letters : Bytes) : Int :=
  letters.foldl (fun value c => value * 64 + base64UrlValue c) value

/-- An input whose last octets fill no group of three is shifted once more. -/
def encodeLimit (size : Nat) : Int := if size % 3 = 0 then 2 ^ 31 else 2 ^ 23

def leadingLetters (input : Bytes) : Bytes := input.takeWhile fun c => 0 ≤ base64UrlValue c

section numbers

theorem octetNumber_ge {value : Int} (natural : 0 ≤ value) (data : Bytes) :
    value ≤ octetNumber value data := by
  induction data generalizing value with
  | nil => exact Int.le_refl value
  | cons c data ih =>
    have next := ih (show 0 ≤ value * 256 + c.toNat by omega)
    simp only [octetNumber, List.foldl_cons] at next ⊢
    omega

theorem letterNumber_ge {value : Int} (natural : 0 ≤ value) {letters : Bytes}
    (each : ∀ c ∈ letters, 0 ≤ base64UrlValue c) : value ≤ letterNumber value letters := by
  induction letters generalizing value with
  | nil => exact Int.le_refl value
  | cons c letters ih =>
    have first := each c List.mem_cons_self
    have next := ih (show 0 ≤ value * 64 + base64UrlValue c by omega)
      fun d member => each d (List.mem_cons_of_mem c member)
    simp only [letterNumber, List.foldl_cons] at next ⊢
    omega

theorem leadingLetters_natural (input : Bytes) : ∀ c ∈ leadingLetters input, 0 ≤ base64UrlValue c := by
  intro c member
  simpa using List.mem_takeWhile_imp member

theorem base64UrlValue_small (c : UInt8) : base64UrlValue c < 64 := by
  unfold base64UrlValue
  simp only [UInt8.le_iff_toNat_le, UInt8.reduceToNat]
  split
  · omega
  · split
    · omega
    · split
      · omega
      · split
        · omega
        · split <;> omega

theorem encodeLimit_le (size : Nat) : encodeLimit size ≤ 2 ^ 31 := by
  unfold encodeLimit
  split <;> omega

end numbers

theorem pushOctet_fits {value : Int} (natural : 0 ≤ value) (small : value * 256 < 2 ^ 31)
    (c : UInt8) : pushOctet value c = value * 256 + c.toNat := by
  have octet := c.toNat_lt
  have inner : toInt32 (value * 256) = value * 256 := toInt32_of_fits ⟨by omega, by omega⟩
  rw [pushOctet, inner, toInt32_of_fits ⟨by omega, by omega⟩]

theorem pushSextet_fits {value decoded : Int} (natural : 0 ≤ value) (small : value * 64 < 2 ^ 31)
    (low : 0 ≤ decoded) (high : decoded < 64) : pushSextet value decoded = value * 64 + decoded := by
  have inner : toInt32 (value * 64) = value * 64 := toInt32_of_fits ⟨by omega, by omega⟩
  rw [pushSextet, inner, toInt32_of_fits ⟨by omega, by omega⟩]

theorem drainChecked_natural {value : Int} (natural : 0 ≤ value) (fuel : Nat) (bits : Int)
    (output : Bytes) : drainChecked value fuel bits output = some (drain value fuel bits output) := by
  induction fuel generalizing bits output with
  | zero => rfl
  | succ fuel ih =>
    unfold drainChecked drain
    split
    · rw [shiftRight_natural natural]
      exact ih _ _
    · rfl

section encoder

def bitsAfter (size : Nat) : Int :=
  if size % 3 = 0 then -6 else if size % 3 = 1 then -4 else -2

theorem drain_bits (value : Int) (size : Nat) (output : Bytes) :
    (drain value 2 (bitsAfter size + 8) output).1 = bitsAfter (size + 1) := by
  have cases : size % 3 = 0 ∨ size % 3 = 1 ∨ size % 3 = 2 := by omega
  rcases cases with zero | one | two
  · have next : (size + 1) % 3 = 1 := by omega
    simp [bitsAfter, zero, next, drain]
  · have next : (size + 1) % 3 = 2 := by omega
    simp [bitsAfter, one, next, drain]
  · have next : (size + 1) % 3 = 0 := by omega
    simp [bitsAfter, two, next, drain]

theorem encodeLoopChecked_nil {value : Int} (natural : 0 ≤ value) (inside : value < 2 ^ 31)
    (size : Nat) (output : Bytes) :
    encodeLoopChecked [] value (bitsAfter size) output =
      if value < encodeLimit size then some (encodeLoop [] value (bitsAfter size) output)
      else none := by
  unfold encodeLoopChecked encodeLoop
  by_cases whole : size % 3 = 0
  · have limit : encodeLimit size = 2 ^ 31 := if_pos whole
    rw [limit, if_pos inside]
    simp [bitsAfter, whole]
  · have left : -6 < bitsAfter size := by
      unfold bitsAfter
      split
      · omega
      · split <;> omega
    simp only [if_pos left, encodeLimit, if_neg whole]
    by_cases small : value < 2 ^ 23
    · have shifted := @shiftLeft_fits value 8 natural (by omega)
      have wrapped : toInt32 (value * 256) = value * 2 ^ 8 := toInt32_of_fits ⟨by omega, by omega⟩
      rw [if_pos small, shifted, wrapped]
      simp only [Option.bind_eq_bind, Option.bind_some]
      rw [shiftRight_natural (by omega)]
      rfl
    · have shifted := @shiftLeft_none value 8 (by omega)
      rw [if_neg small, shifted]
      rfl

theorem encodeLoopChecked_eq (data : Bytes) {value : Int} (natural : 0 ≤ value)
    (inside : value < 2 ^ 31) (size : Nat) (output : Bytes) :
    encodeLoopChecked data value (bitsAfter size) output =
      if octetNumber value data < encodeLimit (size + data.length) then
        some (encodeLoop data value (bitsAfter size) output)
      else none := by
  induction data generalizing value size output with
  | nil => exact encodeLoopChecked_nil natural inside size output
  | cons c data ih =>
    have octet := c.toNat_lt
    have number : octetNumber value (c :: data) = octetNumber (value * 256 + c.toNat) data := rfl
    unfold encodeLoopChecked encodeLoop
    by_cases small : value * 256 < 2 ^ 31
    · have pushed : push 8 value c.toNat = some (value * 256 + c.toNat) :=
        push_fits (by omega) natural (by omega) (by omega) (by omega)
      have next := @ih (value * 256 + c.toNat) (by omega) (by omega) (size + 1)
      rw [pushed, pushOctet_fits natural small, number, List.length_cons]
      simp only [Option.bind_eq_bind, Option.bind_some]
      rw [drainChecked_natural (by omega)]
      simp only [Option.bind_some]
      rw [drain_bits, next, Nat.add_right_comm, Nat.add_assoc]
    · have failed : push 8 value c.toNat = none := push_none (by omega)
      have above := octetNumber_ge (show 0 ≤ value * 256 + c.toNat by omega) data
      have limit := encodeLimit_le (size + (c :: data).length)
      rw [failed, number, if_neg (by omega)]
      rfl

end encoder

theorem decodeLoopChecked_eq (input : Bytes) {value : Int} (natural : 0 ≤ value)
    (inside : value < 2 ^ 31) (bits : Int) (output : Bytes) :
    decodeLoopChecked input value bits output =
      if letterNumber value (leadingLetters input) < 2 ^ 31 then
        some (decodeLoop input value bits output)
      else none := by
  induction input generalizing value bits output with
  | nil =>
    have small : letterNumber value (leadingLetters []) < 2 ^ 31 := inside
    rw [if_pos small]
    rfl
  | cons c input ih =>
    have high := base64UrlValue_small c
    unfold decodeLoopChecked decodeLoop
    by_cases other : base64UrlValue c < 0
    · have letters : leadingLetters (c :: input) = [] := by simp [leadingLetters, other]
      have small : letterNumber value [] < 2 ^ 31 := inside
      rw [letters, if_pos small]
      simp only [if_pos other]
    · have letters : leadingLetters (c :: input) = c :: leadingLetters input := by
        simp [leadingLetters, Int.not_lt.mp other]
      have number : letterNumber value (c :: leadingLetters input) =
          letterNumber (value * 64 + base64UrlValue c) (leadingLetters input) := rfl
      rw [letters, number]
      simp only [if_neg other]
      by_cases small : value * 64 < 2 ^ 31
      · have pushed : push 6 value (base64UrlValue c) = some (value * 64 + base64UrlValue c) :=
          push_fits (by omega) natural (by omega) (by omega) (by omega)
        rw [pushed, pushSextet_fits natural small (by omega) high]
        simp only [Option.bind_eq_bind, Option.bind_some]
        split
        · rw [shiftRight_natural (by omega)]
          exact ih (by omega) (by omega) _ _
        · exact ih (by omega) (by omega) _ _
      · have failed : push 6 value (base64UrlValue c) = none := push_none (by omega)
        have above := letterNumber_ge (show 0 ≤ value * 64 + base64UrlValue c by omega)
          (leadingLetters_natural input)
        rw [failed, if_neg (by omega)]
        rfl

theorem encodeChecked_eq (input : Bytes) :
    encodeChecked input =
      if octetNumber 0 input < encodeLimit input.length then some (base64UrlEncode input)
      else none := by
  have loop := encodeLoopChecked_eq input (Int.le_refl 0) (by decide) 0 []
  rw [Nat.zero_add] at loop
  exact loop

theorem decodeChecked_eq (input : Bytes) :
    decodeChecked input =
      if letterNumber 0 (leadingLetters input) < 2 ^ 31 then some (base64UrlDecode input)
      else none :=
  decodeLoopChecked_eq input (Int.le_refl 0) (by decide) (-8) []

/-- Nothing overflows exactly while the whole number that is read stays below the limit. -/
theorem coding_safe_iff (input : Bytes) :
    ((encodeChecked input).isSome = true ↔ octetNumber 0 input < encodeLimit input.length) ∧
      ((decodeChecked input).isSome = true ↔ letterNumber 0 (leadingLetters input) < 2 ^ 31) := by
  rw [encodeChecked_eq, decodeChecked_eq]
  constructor
  · split <;> simp_all
  · split <;> simp_all

/-- The header of every token overflows on its way in and on its way out. -/
theorem header_overflows :
    encodeChecked TgwTokenService.headerJson = none ∧
      decodeChecked (base64UrlEncode TgwTokenService.headerJson) = none ∧
      ¬ ∀ input, (encodeChecked input).isSome = true ∧ (decodeChecked input).isSome = true := by
  have encoding : encodeChecked TgwTokenService.headerJson = none := by decide
  have decoding : decodeChecked (base64UrlEncode TgwTokenService.headerJson) = none := by
    decide +kernel
  refine ⟨encoding, decoding, fun safe => ?_⟩
  have some_result := (safe TgwTokenService.headerJson).1
  rw [encoding] at some_result
  cases some_result

end TgwSafeShifts
