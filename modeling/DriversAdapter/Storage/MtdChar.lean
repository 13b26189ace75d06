import DriversAdapter.Base.Offset
import DriversAdapter.Base.Word
import DriversAdapter.Semantics.Machine
import DriversAdapter.Semantics.Pages

/-! The character device of an MTD partition: where a file on it stands, what its reads, writes
and seeks make of that, and what they ask of the flash device. -/
namespace DriversAdapter.Storage
open DriversAdapter.Base DriversAdapter.Semantics

/-- Pages are a power of two, of which the device keeps the exponent, and fill a block. -/
structure MtdDevice where
  eraseSize : UInt32
  writeSize : UInt32
  writeSizeShift : UInt32
  oobSize : UInt32
  page : writeSize.toNat = 2^writeSizeShift.toNat
  whole : writeSize.toNat ∣ eraseSize.toNat

structure MtdPartition where
  startBlock : UInt32
  endBlock : UInt32
  mtdDevice : MtdDevice
  ordered : startBlock.toNat ≤ endBlock.toNat

/-- The modes of `mtd_user.h` that the code names. -/
structure MtdFileModes where
  oob : UInt32
  max : UInt32

/-- A call that the device answered with success. -/
structure MtdAccess where
  withOob : Bool
  addr : Int64
  len : UInt32
  deriving DecidableEq

structure MtdFile where
  pos : Int64
  mode : UInt32
  accesses : List MtdAccess

/-- What the device answers to one call of the file. -/
structure MtdAnswers where
  read : Int64 → UInt32 → Int
  write : Int64 → UInt32 → Int
  readWithOob : Int64 → UInt32 → Int
  writeWithOob : Int64 → UInt32 → Int

inductive Whence
  | seekSet
  | seekCur
  | seekEnd
  | other (whence : Int32)

namespace MtdPartition
variable (modes : MtdFileModes) (partition : MtdPartition)

/-- The first byte of the partition on the device, and how many it has. -/
def firstByte : Nat := partition.startBlock.toNat * partition.mtdDevice.eraseSize.toNat

def byteSize : Nat :=
  (partition.endBlock.toNat + 1 - partition.startBlock.toNat) * partition.mtdDevice.eraseSize.toNat

/-! The same as the code has them, in a `size_t`. -/

def partStart : UInt32 := partition.startBlock * partition.mtdDevice.eraseSize

def partSize : UInt32 :=
  (partition.endBlock + 1 - partition.startBlock) * partition.mtdDevice.eraseSize

def partOobSize : UInt32 :=
  (partition.partSize >>> partition.mtdDevice.writeSizeShift) * partition.mtdDevice.oobSize

def endAddr : UInt32 := (partition.endBlock + 1) * partition.mtdDevice.eraseSize

/-- The checks of a read or a write on the position and the length. -/
def Refuses (buflen : UInt32) (filep : MtdFile) : Prop :=
  (filep.pos < 0 ∨ toOffT partition.partSize < filep.pos) ∨
    (filep.mode = modes.oob ∧
      toOffT (partition.partSize + partition.partOobSize) < filep.pos + toOffT buflen) ∨
    (filep.mode ≠ modes.oob ∧ toOffT partition.partSize < filep.pos + toOffT buflen)

instance (buflen : UInt32) (filep : MtdFile) : Decidable (partition.Refuses modes buflen filep) :=
  inferInstanceAs (Decidable (_ ∨ _))

def advance (withOob : Bool) (buflen : UInt32) : UInt32 :=
  if withOob then
    buflen - (buflen >>> partition.mtdDevice.writeSizeShift) * partition.mtdDevice.oobSize
  else buflen

def transfer (oobCall plainCall : Int64 → UInt32 → Int) (buffer : Bool) (buflen : UInt32)
    (filep : MtdFile) : Int × MtdFile :=
  if buffer = false then (-einval,filep)
  else if partition.Refuses modes buflen filep then (-einval,filep)
  else if buflen = 0 then (hdfSuccess,filep)
  else
    let withOob := filep.mode == modes.oob
    let addr := toOffT partition.partStart + filep.pos
    let ret := if withOob then oobCall addr buflen else plainCall addr buflen
    if ret ≠ hdfSuccess then (ret,filep)
    else (ret,{filep with
      pos := filep.pos + toOffT (partition.advance withOob buflen)
      accesses := filep.accesses ++ [⟨withOob,addr,buflen⟩]})

/-- The transfer gets to the device, which answers with success. -/
def Served (oobCall plainCall : Int64 → UInt32 → Int) (buffer : Bool) (buflen : UInt32)
    (filep : MtdFile) : Prop :=
  buffer = true ∧ ¬ partition.Refuses modes buflen filep ∧ buflen ≠ 0 ∧
    (if filep.mode == modes.oob then oobCall (toOffT partition.partStart + filep.pos) buflen
      else plainCall (toOffT partition.partStart + filep.pos) buflen) = hdfSuccess

def mtdCharRead (answers : MtdAnswers) : Bool → UInt32 → MtdFile → Int × MtdFile :=
  partition.transfer modes answers.readWithOob answers.read

def mtdCharWrite (answers : MtdAnswers) : Bool → UInt32 → MtdFile → Int × MtdFile :=
  partition.transfer modes answers.writeWithOob answers.write

def setAllowed (offset : Int64) : Prop :=
  0 ≤ offset ∧ toSizeT offset < partition.endAddr - partition.partStart

def curAllowed (offset : Int64) (filep : MtdFile) : Prop :=
  0 ≤ offset + toOffT (toSizeT filep.pos) ∧
    toSizeT (offset + filep.pos) < partition.endAddr - partition.partStart

def endAllowed (offset : Int64) : Prop :=
  offset < 0 ∧ toOffT partition.partStart ≤ offset + toOffT partition.endAddr

instance (offset : Int64) : Decidable (partition.setAllowed offset) :=
  inferInstanceAs (Decidable (_ ∧ _))

instance (offset : Int64) (filep : MtdFile) : Decidable (partition.curAllowed offset filep) :=
  inferInstanceAs (Decidable (_ ∧ _))

instance (offset : Int64) : Decidable (partition.endAllowed offset) :=
  inferInstanceAs (Decidable (_ ∧ _))

def mtdCharLseek (offset : Int64) (whence : Whence) (filep : MtdFile) : Int64 × MtdFile :=
  let out1 : Int64 → Int64 × MtdFile := fun pos => (pos,{filep with pos := pos})
  let err1 : Int64 × MtdFile := (Int64.ofInt (-einval),filep)
  match whence with
  | .seekSet => if partition.setAllowed offset then out1 (toOffT (toSizeT offset)) else err1
  | .seekCur => if partition.curAllowed offset filep then out1 (filep.pos + offset) else err1
  | .seekEnd => if partition.endAllowed offset then
      out1 (offset + toOffT partition.endAddr - toOffT partition.partStart) else err1
  | .other _ => err1

/-! What the `size_t` values are worth, and what a transfer comes to. -/

section Sizes
variable (partition : MtdPartition)

theorem partStart_toNat : partition.partStart.toNat = partition.firstByte % 2^32 :=
  UInt32.toNat_mul _ _

theorem firstByte_add_byteSize : partition.firstByte + partition.byteSize =
    (partition.endBlock.toNat + 1) * partition.mtdDevice.eraseSize.toNat := by
  have ordered := partition.ordered
  unfold firstByte byteSize
  rw [← Nat.add_mul,Nat.add_sub_cancel' (by omega)]

theorem partSize_toNat : partition.partSize.toNat = partition.byteSize % 2^32 := by
  have ordered := partition.ordered
  have below := partition.endBlock.toNat_lt
  have blocks : (partition.endBlock + 1 - partition.startBlock).toNat =
      (partition.endBlock.toNat + 1 - partition.startBlock.toNat) % 2^32 := by
    rw [UInt32.toNat_sub,UInt32.toNat_add,UInt32.toNat_one]
    omega
  unfold partSize byteSize
  rw [UInt32.toNat_mul,blocks,Nat.mod_mul_mod]

theorem endAddr_toNat :
    partition.endAddr.toNat = (partition.firstByte + partition.byteSize) % 2^32 := by
  unfold endAddr
  rw [firstByte_add_byteSize,UInt32.toNat_mul,UInt32.toNat_add,UInt32.toNat_one,Nat.mod_mul_mod]

theorem endAddr_sub_partStart_toNat :
    (partition.endAddr - partition.partStart).toNat = partition.byteSize % 2^32 := by
  rw [UInt32.toNat_sub,endAddr_toNat,partStart_toNat]
  omega

theorem writeSize_pos : 0 < partition.mtdDevice.writeSize.toNat := by
  rw [partition.mtdDevice.page]
  exact Nat.two_pow_pos _

theorem shift_writeSize (n : UInt32) : (n >>> partition.mtdDevice.writeSizeShift).toNat =
    n.toNat / partition.mtdDevice.writeSize.toNat := by
  have bound := partition.mtdDevice.writeSize.toNat_lt
  have page := partition.mtdDevice.page
  have small : partition.mtdDevice.writeSizeShift.toNat < 32 := by
    rw [page] at bound
    exact (Nat.pow_lt_pow_iff_right (by omega)).mp bound
  rw [UInt32.toNat_shiftRight,Nat.mod_eq_of_lt small,Nat.shiftRight_eq_div_pow,page]

end Sizes

section Transfer
variable {modes : MtdFileModes} {partition : MtdPartition} {buflen : UInt32} {filep : MtdFile}

/-- A position that the checks let through lies in the partition as the code sees it. -/
theorem pos_of_not_refuses (allowed : ¬ partition.Refuses modes buflen filep) :
    0 ≤ filep.pos.toInt ∧ filep.pos.toInt ≤ partition.partSize.toNat := by
  have placed := (not_or.mp allowed).1
  rw [not_or,Int64.not_lt,Int64.not_lt,Int64.le_iff_toInt_le,Int64.le_iff_toInt_le,
    Int64.toInt_zero,toOffT_toInt] at placed
  exact placed

theorem end_of_not_refuses (allowed : ¬ partition.Refuses modes buflen filep)
    (plain : filep.mode ≠ modes.oob) :
    filep.pos.toInt + buflen.toNat ≤ partition.partSize.toNat := by
  obtain ⟨low,high⟩ := pos_of_not_refuses allowed
  have bound := buflen.toNat_lt
  have size := partition.partSize.toNat_lt
  have fits := (not_or.mp (not_or.mp allowed).2).2
  rw [not_and,Int64.not_lt,Int64.le_iff_toInt_le,toOffT_toInt,
    toInt_add_toOffT _ _ (by omega)] at fits
  exact fits plain

variable {oobCall plainCall : Int64 → UInt32 → Int} {buffer : Bool}

theorem transfer_served (served : partition.Served modes oobCall plainCall buffer buflen filep) :
    partition.transfer modes oobCall plainCall buffer buflen filep = (hdfSuccess,{filep with
      pos := filep.pos + toOffT (partition.advance (filep.mode == modes.oob) buflen)
      accesses := filep.accesses ++ [⟨filep.mode == modes.oob,
        toOffT partition.partStart + filep.pos,buflen⟩]}) := by
  obtain ⟨given,allowed,some_byte,answer⟩ := served
  unfold transfer
  rw [given,if_neg (by simp),if_neg allowed,if_neg some_byte]
  dsimp only
  rw [answer,if_neg (not_not.mpr rfl)]

theorem transfer_unserved
    (unserved : ¬ partition.Served modes oobCall plainCall buffer buflen filep) :
    (partition.transfer modes oobCall plainCall buffer buflen filep).2 = filep ∧
      ((partition.transfer modes oobCall plainCall buffer buflen filep).1 = hdfSuccess →
        buflen = 0) := by
  have failing : -einval ≠ hdfSuccess := by decide
  unfold transfer
  by_cases absent : buffer = false
  · rw [if_pos absent]
    exact ⟨rfl,fun succeeded => absurd succeeded failing⟩
  · rw [if_neg absent]
    by_cases refused : partition.Refuses modes buflen filep
    · rw [if_pos refused]
      exact ⟨rfl,fun succeeded => absurd succeeded failing⟩
    · rw [if_neg refused]
      by_cases nothing : buflen = 0
      · rw [if_pos nothing]
        exact ⟨rfl,fun _ => nothing⟩
      · rw [if_neg nothing]
        dsimp only
        rw [if_pos fun answer => unserved ⟨Bool.not_eq_false _ ▸ absent,refused,nothing,answer⟩]
        exact ⟨rfl,fun answer => absurd ⟨Bool.not_eq_false _ ▸ absent,refused,nothing,answer⟩ unserved⟩

end Transfer

end MtdPartition

/-- `MTD_IOC_SETFILEMODE`; an argument of zero does not get this far. -/
def mtdCharSetFileMode (modes : MtdFileModes) (arg : UInt32) (filep : MtdFile) : Int × MtdFile :=
  if arg = 0 then (-einval,filep)
  else if modes.max ≤ arg then (-einval,{filep with mode := 0})
  else (0,{filep with mode := arg})

/-- The calls that move a file or change its mode. An open finds in the mode what the memory of
its record held before. -/
inductive MtdCall
  | opened (stale : UInt32)
  | read (answers : MtdAnswers) (buffer : Bool) (buflen : UInt32)
  | write (answers : MtdAnswers) (buffer : Bool) (buflen : UInt32)
  | lseek (offset : Int64) (whence : Whence)
  | setFileMode (arg : UInt32)

def MtdPartition.step (modes : MtdFileModes) (partition : MtdPartition) (call : MtdCall)
    (filep : MtdFile) : Int × MtdFile :=
  match call with
  | .opened stale => (0,{filep with pos := 0,mode := stale})
  | .read answers buffer buflen => partition.mtdCharRead modes answers buffer buflen filep
  | .write answers buffer buflen => partition.mtdCharWrite modes answers buffer buflen filep
  | .lseek offset whence =>
    let done := partition.mtdCharLseek offset whence filep
    (done.1.toInt,done.2)
  | .setFileMode arg => mtdCharSetFileMode modes arg filep

def MtdFile.unopened : MtdFile := ⟨0,0,[]⟩

end DriversAdapter.Storage
