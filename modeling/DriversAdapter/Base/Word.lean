import Mathlib.Data.Nat.Bits
import Mathlib.Tactic.Ring

/-! Unsigned 64-bit arithmetic as the C code computes it on `size_t` and `uint64_t`,
and the status codes the adapter returns. -/
namespace DriversAdapter.Base

/-- A `size_t` or `uint64_t` result. -/
def u64 (n : Nat) : Nat := n % 2^64

def sub64 (a b : Nat) : Nat := u64 (a + 2^64 - b)

theorem u64_of_lt (n : Nat) (small : n < 2^64) : u64 n = n := Nat.mod_eq_of_lt small

theorem sub64_of_le (a b : Nat) (le : b ≤ a) (small : a < 2^64) : sub64 a b = a - b := by
  unfold sub64 u64
  omega

/-- A product with a factor just below the word size wraps to just below the word size. -/
theorem u64_mul_wrapped (count k size : Nat) (whole : count + k = 2^64) (pos : 0 < k * size)
    (small : k * size < 2^63) : 2^63 < u64 (count * size) := by
  have sum : count * size + k * size = 2^64 * size := by rw [← Nat.add_mul,whole]
  have some : 0 < size := Nat.pos_of_mul_pos_left pos
  unfold u64
  omega

/-- Some of `bits` are set in a sync word. -/
def bitSet (word bits : UInt32) : Prop := word &&& bits ≠ 0

instance (word bits : UInt32) : Decidable (bitSet word bits) :=
  inferInstanceAs (Decidable (_ ≠ _))

theorem not_bitSet_clear (word bits : UInt32) : ¬ bitSet (word &&& ~~~bits) bits := by
  unfold bitSet
  rw [UInt32.and_assoc,UInt32.not_and_self,UInt32.and_zero]
  exact not_not.mpr rfl

theorem bitSet_clear_other (word bits other : UInt32) (apart : ~~~bits &&& other = other) :
    bitSet (word &&& ~~~bits) other ↔ bitSet word other := by
  unfold bitSet
  rw [UInt32.and_assoc,apart]

theorem bitSet_set (word bits : UInt32) (some_bit : bits ≠ 0) : bitSet (word ||| bits) bits := by
  have absorbed : (word ||| bits) &&& bits = bits := by
    apply UInt32.toBitVec_inj.1
    ext i
    simp only [UInt32.toBitVec_and,UInt32.toBitVec_or,BitVec.getElem_and,BitVec.getElem_or]
    cases bits.toBitVec[i] <;> simp
  unfold bitSet
  rwa [absorbed]

/-- An unsigned word read as one with a sign. -/
theorem toInt32_cases (n : UInt32) :
    n.toInt32.toInt = n.toNat ∧ n.toNat < 2^31 ∨ n.toInt32.toInt < 0 ∧ 2^31 ≤ n.toNat := by
  have bound := n.toNat_lt
  rw [Int32.toInt,UInt32.toBitVec_toInt32,BitVec.toInt_eq_toNat_cond]
  have same : n.toBitVec.toNat = n.toNat := rfl
  rw [same]
  split <;> omega

def hdfSuccess : Int := 0
def hdfFailure : Int := -1
def hdfErrNotSupport : Int := -2
def hdfErrInvalidParam : Int := -3
def hdfErrInvalidObject : Int := -4
def hdfErrMallocFail : Int := -6
def hdfErrIo : Int := -17
def hdfErrNoPerm : Int := -19
def hdfDevErrNoMemory : Int := -201
def hdfDevErrNoDevice : Int := -202
def hdfDevErrNoDeviceService : Int := -203

def eintr : Int := 4
def eagain : Int := 11
def enomem : Int := 12
def ebusy : Int := 16
def e2big : Int := 7
def einval : Int := 22
def etimedout : Int := 110
def enodata : Int := 61

end DriversAdapter.Base
