import TgwGateway.Lib.ByteStrings
import Mathlib.Algebra.Ring.Nat

/- Strings of bits, the highest bit first, and the octets they are made of. -/
namespace BitTexts
open ByteStrings

def bits : Nat → Nat → List Bool
  | 0, _ => []
  | width + 1, n => n.testBit width :: bits width n

def extendBits (n : Nat) (text : List Bool) : Nat :=
  text.foldl (fun n bit => 2 * n + bit.toNat) n

def ofBits (text : List Bool) : Nat := extendBits 0 text

def bitsOf (octets : Bytes) : List Bool := octets.flatMap fun c => bits 8 c.toNat

/-- The octets of bits that come in groups of eight. -/
def octetsOf : List Bool → Bytes
  | a :: b :: c :: d :: e :: f :: g :: h :: rest =>
    UInt8.ofNat (ofBits [a, b, c, d, e, f, g, h]) :: octetsOf rest
  | _ => []

theorem bits_length (width n : Nat) : (bits width n).length = width := by
  induction width with
  | zero => rfl
  | succ width ih => simp [bits, ih]

theorem extendBits_append (n : Nat) (text more : List Bool) :
    extendBits n (text ++ more) = extendBits (extendBits n text) more := by
  simp [extendBits]

theorem extendBits_bits (m width n : Nat) :
    extendBits m (bits width n) = m * 2 ^ width + n % 2 ^ width := by
  induction width generalizing m with
  | zero => simp [bits, extendBits, Nat.mod_one]
  | succ width ih =>
    have tail := ih (2 * m + (n.testBit width).toNat)
    simp only [bits, extendBits, List.foldl_cons] at tail ⊢
    rw [tail, Nat.mod_pow_succ, ← Nat.toNat_testBit, Nat.pow_succ, Nat.add_mul, Nat.mul_assoc,
      Nat.mul_left_comm, Nat.mul_comm 2 (2 ^ width), Nat.mul_comm (n.testBit width).toNat]
    omega

theorem ofBits_bits (width n : Nat) : ofBits (bits width n) = n % 2 ^ width := by
  rw [ofBits, extendBits_bits]
  omega

theorem bits_append (upper lower n : Nat) :
    bits (upper + lower) n = bits upper (n >>> lower) ++ bits lower n := by
  induction upper with
  | zero => rw [Nat.zero_add]; rfl
  | succ upper ih =>
    rw [Nat.add_right_comm, bits, ih, bits, Nat.testBit_shiftRight, Nat.add_comm lower upper]
    rfl

theorem bits_mod (width n : Nat) : bits width (n % 2 ^ width) = bits width n := by
  have general : ∀ k ≤ width, bits k (n % 2 ^ width) = bits k n := by
    intro k within
    induction k with
    | zero => rfl
    | succ k ih =>
      rw [bits, bits, ih (by omega), Nat.testBit_mod_two_pow]
      simp [show k < width by omega]
  exact general width (Nat.le_refl width)

theorem bitsOf_cons (c : UInt8) (octets : Bytes) :
    bitsOf (c :: octets) = bits 8 c.toNat ++ bitsOf octets := rfl

theorem bitsOf_append (octets more : Bytes) :
    bitsOf (octets ++ more) = bitsOf octets ++ bitsOf more := List.flatMap_append

theorem bitsOf_length (octets : Bytes) : (bitsOf octets).length = 8 * octets.length := by
  induction octets with
  | nil => rfl
  | cons c octets ih =>
    rw [bitsOf_cons, List.length_append, bits_length, ih, List.length_cons]
    omega

theorem bitsOf_drop (octets : Bytes) (n : Nat) :
    (bitsOf octets).drop (8 * n) = bitsOf (octets.drop n) := by
  induction octets generalizing n with
  | nil => simp [bitsOf]
  | cons c octets ih =>
    cases n with
    | zero => rfl
    | succ n =>
      rw [bitsOf_cons, List.drop_succ_cons, ← ih n, List.drop_append, bits_length,
        List.drop_of_length_le (by rw [bits_length]; omega), List.nil_append]
      congr 1

theorem bitsOf_take (octets : Bytes) (n : Nat) :
    (bitsOf octets).take (8 * n) = bitsOf (octets.take n) := by
  induction octets generalizing n with
  | nil => simp [bitsOf]
  | cons c octets ih =>
    cases n with
    | zero => rfl
    | succ n =>
      rw [bitsOf_cons, List.take_succ_cons, bitsOf_cons, ← ih n, List.take_append, bits_length,
        List.take_of_length_le (by rw [bits_length]; omega)]
      congr 2

theorem bitsOf_zeros (n : Nat) : bitsOf (List.replicate n 0) = List.replicate (8 * n) false := by
  induction n with
  | zero => rfl
  | succ n ih =>
    rw [List.replicate_succ, bitsOf_cons, ih, Nat.mul_succ, Nat.add_comm,
      ← List.replicate_append_replicate]
    rfl

theorem extendBits_bitsOf (n : Nat) (octets : Bytes) :
    extendBits n (bitsOf octets) = octets.foldl (fun n c => n * 256 + c.toNat) n := by
  induction octets generalizing n with
  | nil => rfl
  | cons c octets ih =>
    have small := c.toNat_lt
    rw [bitsOf_cons, extendBits_append, extendBits_bits, Nat.mod_eq_of_lt small, ih]
    rfl

theorem octetsOf_bits (c : UInt8) (rest : List Bool) :
    octetsOf (bits 8 c.toNat ++ rest) = c :: octetsOf rest := by
  have value := ofBits_bits 8 c.toNat
  have small := c.toNat_lt
  simp only [bits, List.cons_append, List.nil_append] at value ⊢
  rw [octetsOf, value, Nat.mod_eq_of_lt (by omega), UInt8.ofNat_toNat]

theorem octetsOf_bitsOf (octets : Bytes) : octetsOf (bitsOf octets) = octets := by
  induction octets with
  | nil => rfl
  | cons c octets ih => rw [bitsOf_cons, octetsOf_bits, ih]

end BitTexts
