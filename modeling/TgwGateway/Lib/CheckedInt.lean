import TgwGateway.Lib.MachineInt
import Mathlib.Tactic.Common

/- Operations on an int that has no result where it overflows, and no shift of a negative one. -/
namespace CheckedInt
open MachineInt

def checked (n : Int) : Option Int := if FitsInt32 n then some n else none

def plus (a b : Int) : Option Int := checked (a + b)

def minus (a b : Int) : Option Int := checked (a - b)

def shiftLeft (value : Int) (bits : Nat) : Option Int :=
  if 0 ≤ value then checked (value * 2 ^ bits) else none

def shiftRight (value : Int) (bits : Nat) : Option Int :=
  if 0 ≤ value then some (value / 2 ^ bits) else none

def push (width : Nat) (value item : Int) : Option Int := do
  plus (← shiftLeft value width) item

theorem checked_fits {n : Int} (fits : FitsInt32 n) : checked n = some n := if_pos fits

theorem shiftRight_natural {value : Int} (natural : 0 ≤ value) (bits : Nat) :
    shiftRight value bits = some (value / 2 ^ bits) := if_pos natural

theorem shiftLeft_fits {value : Int} {bits : Nat} (natural : 0 ≤ value)
    (small : value * 2 ^ bits < 2 ^ 31) : shiftLeft value bits = some (value * 2 ^ bits) := by
  have above : 0 ≤ value * 2 ^ bits := Int.mul_nonneg natural (Int.pow_nonneg (by decide))
  rw [shiftLeft, if_pos natural]
  exact checked_fits ⟨by omega, small⟩

theorem shiftLeft_none {value : Int} {bits : Nat} (big : 2 ^ 31 ≤ value * 2 ^ bits) :
    shiftLeft value bits = none := by
  unfold shiftLeft
  split
  · exact if_neg fun fits => by
      have := fits.2
      omega
  · rfl

theorem push_fits {width : Nat} {value item : Int} (narrow : width ≤ 31) (natural : 0 ≤ value)
    (small : value * 2 ^ width < 2 ^ 31) (low : 0 ≤ item) (high : item < 2 ^ width) :
    push width value item = some (value * 2 ^ width + item) := by
  have above : 0 ≤ value * 2 ^ width := Int.mul_nonneg natural (Int.pow_nonneg (by decide))
  have whole : (2 : Int) ^ 31 = 2 ^ (31 - width) * 2 ^ width := by
    rw [← Int.pow_add]
    congr 1
    omega
  have room : value * 2 ^ width + 2 ^ width ≤ 2 ^ 31 := by
    rw [whole] at small ⊢
    have positive : (0 : Int) < 2 ^ width := Int.pow_pos (by decide)
    have fewer := Int.lt_of_mul_lt_mul_right small (Int.le_of_lt positive)
    calc value * 2 ^ width + 2 ^ width = (value + 1) * 2 ^ width := by rw [Int.add_mul, Int.one_mul]
      _ ≤ 2 ^ (31 - width) * 2 ^ width := Int.mul_le_mul_of_nonneg_right fewer (Int.le_of_lt positive)
  rw [push, shiftLeft_fits natural small]
  exact checked_fits ⟨by omega, by omega⟩

theorem push_none {width : Nat} {value item : Int} (big : 2 ^ 31 ≤ value * 2 ^ width) :
    push width value item = none := by
  rw [push, shiftLeft_none big]
  rfl

end CheckedInt
