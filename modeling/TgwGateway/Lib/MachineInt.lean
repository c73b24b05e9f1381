import Mathlib.Algebra.Ring.Int.Defs
import Mathlib.Algebra.Ring.Nat

/- Conversion to a 32-bit int: the value modulo 2^32 in two's complement. -/
namespace MachineInt

def toInt32 (n : Int) : Int := n.bmod (2 ^ 32)

def FitsInt32 (n : Int) : Prop := -2 ^ 31 ≤ n ∧ n < 2 ^ 31

instance (n : Int) : Decidable (FitsInt32 n) := inferInstanceAs (Decidable (_ ∧ _))

theorem toInt32_fits (n : Int) : FitsInt32 (toInt32 n) := by
  have low := Int.le_bmod (x := n) (m := 2 ^ 32) (by decide)
  have high := Int.bmod_lt (x := n) (m := 2 ^ 32) (by decide)
  simp only [FitsInt32, toInt32]
  omega

theorem toInt32_of_fits {n : Int} (fits : FitsInt32 n) : toInt32 n = n := by
  obtain ⟨low, high⟩ := fits
  exact Int.bmod_eq_of_le (by omega) (by omega)

theorem toInt32_eq_iff (n : Int) : toInt32 n = n ↔ FitsInt32 n :=
  ⟨fun same => same ▸ toInt32_fits n, toInt32_of_fits⟩

theorem toInt32_low_bits (n : Int) : ∃ high : Int, toInt32 n = n - 4294967296 * high := by
  refine ⟨(n - toInt32 n) / 4294967296, ?_⟩
  have multiple := Int.dvd_self_sub_bmod (x := n) (m := 2 ^ 32)
  simp only [toInt32]
  omega

def wrapInt64 (n : Int64) : Int64 := Int64.ofInt (toInt32 n.toInt)

theorem wrapInt64_toInt (n : Int64) : (wrapInt64 n).toInt = toInt32 n.toInt := by
  obtain ⟨low, high⟩ := toInt32_fits n.toInt
  exact Int64.toInt_ofInt_of_le (by omega) (by omega)

theorem wrapInt64_eq_iff (n : Int64) : wrapInt64 n = n ↔ FitsInt32 n.toInt := by
  rw [← toInt32_eq_iff, ← wrapInt64_toInt]
  exact Int64.toInt_inj.symm

theorem wrapInt64_idem (n : Int64) : wrapInt64 (wrapInt64 n) = wrapInt64 n := by
  rw [wrapInt64_eq_iff, wrapInt64_toInt]
  exact toInt32_fits _

end MachineInt
