import DriversAdapter.Base.Memory

/-! What the kernel gives a driver: zeroed memory, and copies between a caller's memory and
its own, which a fault can stop. -/
namespace DriversAdapter.Base

def zeroed : Bytes := fun _ => 0

/-- `OsalMemCalloc` refuses zero bytes; of what it has it gives as the allocator does. -/
def osalMemCalloc (given : Bool) (size : UInt32) : Bool := size != 0 && given

theorem osalMemCalloc_iff (given : Bool) (size : UInt32) :
    osalMemCalloc given size = true ↔ size.toNat ≠ 0 ∧ given = true := by
  have zero : size.toNat = 0 ↔ size = 0 := UInt32.toNat_inj (b := 0)
  unfold osalMemCalloc
  rw [Bool.and_eq_true,bne_iff_ne,ne_eq,ne_eq,zero]

def losOk : Int := 0

/-- A copy that stopped behind its first bytes. -/
structure CopyFault where
  ret : Int
  copied : Nat
  failed : ret ≠ losOk

/-- `LOS_CopyToKernel` and `LOS_CopyFromKernel` of `n` bytes into a buffer of `n` bytes. -/
def losCopy (fault : Option CopyFault) (memory : Bytes) (dst : Nat) (data : Bytes) (src n : Nat) :
    Int × Bytes :=
  match fault with
  | none => (losOk,copyBytes memory dst data src n)
  | some fault => (fault.ret,copyBytes memory dst data src (min fault.copied n))

theorem losCopy_ok_iff (fault : Option CopyFault) (memory : Bytes) (dst : Nat) (data : Bytes)
    (src n : Nat) : (losCopy fault memory dst data src n).1 = losOk ↔ fault = none := by
  cases fault with
  | none => exact iff_of_true rfl rfl
  | some fault => exact iff_of_false fault.failed (Option.some_ne_none fault)

/-- Whether or not it was stopped, a copy changes only the bytes it is for. -/
theorem losCopy_outside (fault : Option CopyFault) (memory : Bytes) (dst : Nat) (data : Bytes)
    (src n a : Nat) (outside : a < dst ∨ dst + n ≤ a) :
    (losCopy fault memory dst data src n).2 a = memory a := by
  cases fault with
  | none =>
    simp only [losCopy,copyBytes]
    rw [if_neg (by omega)]
  | some fault =>
    simp only [losCopy,copyBytes]
    rw [if_neg (by omega)]

end DriversAdapter.Base
