import Mathlib.Tactic.Ring

/-! The widths of a 32-bit target: `size_t` has 32 bits, `off_t` has 64 and a sign. -/
namespace DriversAdapter.Base

def toOffT (n : UInt32) : Int64 := Int64.ofInt n.toNat

def toSizeT (x : Int64) : UInt32 := UInt32.ofBitVec (x.toBitVec.setWidth 32)

@[simp] theorem toOffT_toInt (n : UInt32) : (toOffT n).toInt = n.toNat := by
  have bound := n.toNat_lt
  exact Int64.toInt_ofInt_of_le (by omega) (by omega)

theorem bmod_cases (x : Int) : x.bmod (2^64) = x % 2^64 ∧ x % 2^64 < 2^63 ∨
    x.bmod (2^64) = x % 2^64 - 2^64 ∧ 2^63 ≤ x % 2^64 := by
  rw [Int.bmod_def]
  split <;> omega

theorem toSizeT_toNat (x : Int64) : ((toSizeT x).toNat : Int) = x.toInt % 2^32 := by
  have signed : x.toInt = (x.toBitVec.toNat : Int).bmod (2^64) := BitVec.toInt_eq_toNat_bmod _
  have bound := x.toBitVec.isLt
  unfold toSizeT
  rw [UInt32.toNat_ofBitVec,BitVec.toNat_setWidth,signed]
  rcases bmod_cases (x.toBitVec.toNat : Int) with ⟨same,_⟩ | ⟨same,_⟩
  · rw [same]
    omega
  · rw [same]
    omega

theorem toInt_add_of_range (x y : Int64) (low : -2^63 ≤ x.toInt + y.toInt)
    (high : x.toInt + y.toInt < 2^63) : (x + y).toInt = x.toInt + y.toInt := by
  rw [Int64.toInt_add]
  rcases bmod_cases (x.toInt + y.toInt) with ⟨same,_⟩ | ⟨same,_⟩
  · rw [same]
    omega
  · rw [same]
    omega

theorem toInt_add_toOffT (x : Int64) (n : UInt32) (high : x.toInt + n.toNat < 2^63) :
    (x + toOffT n).toInt = x.toInt + n.toNat := by
  have low := x.le_toInt
  have forward := toOffT_toInt n
  rw [toInt_add_of_range x (toOffT n) (by omega) (by omega),forward]

end DriversAdapter.Base
