import DriversAdapter.Storage.MtdTransfer
import Mathlib.Data.Int.ConditionallyCompleteOrder
import Mathlib.Order.Interval.Set.LinearOrder

/-! The ioctls of a partition that ask the flash device for something: an erase takes a range that
counts from the partition's first byte, the two on bad blocks an offset from there. -/
namespace DriversAdapter.Storage
open DriversAdapter.Base

/-- A range to erase; `mtd_user.h` gives its fields their width. -/
structure EraseInfo (w : Nat) where
  start : BitVec w
  length : BitVec w

inductive MtdRequest
  | erase (addr : Int64) (len : UInt32)
  | isBadBlock (addr : Int64)
  | markBadBlock (addr : Int64)
  deriving DecidableEq

structure MtdBlockAnswers where
  erase : Int64 → UInt32 → Int
  isBadBlock : Int64 → Int
  markBadBlock : Int64 → Int

/-- An ioctl with what a copy of its argument out of user space yields. -/
inductive MtdIoctl (w : Nat)
  | erase (given : Option (EraseInfo w))
  | erase64 (given : Option (EraseInfo w))
  | getBadBlock (given : Option Int64)
  | setBadBlock (given : Option Int64)

/-- A `size_t` and an unsigned number of `w` bits add up in the wider of the two. -/
def addUnsigned {w : Nat} (n : UInt32) (x : BitVec w) : Nat := (n.toNat + x.toNat) % 2^max 32 w

namespace MtdPartition
variable {w : Nat} (partition : MtdPartition)

def eraseAddr (erase : EraseInfo w) : Int64 :=
  Int64.ofInt (addUnsigned partition.partStart erase.start)

def eraseLen (erase : EraseInfo w) : UInt32 :=
  UInt32.ofNat (addUnsigned partition.partStart erase.length)

def mtdCharIoctlErase (answers : MtdBlockAnswers) (given : Option (EraseInfo w)) :
    Int × List MtdRequest :=
  match given with
  | none => (-einval,[])
  | some erase => (answers.erase (partition.eraseAddr erase) (partition.eraseLen erase),
      [.erase (partition.eraseAddr erase) (partition.eraseLen erase)])

def mtdCharIoctlBadBlock (answer : Int64 → Int) (request : Int64 → MtdRequest)
    (given : Option Int64) : Int × List MtdRequest :=
  match given with
  | none => (-einval,[])
  | some offs => (answer (toOffT partition.partStart + offs),
      [request (toOffT partition.partStart + offs)])

def mtdCharIoctlGetBadBlock (answers : MtdBlockAnswers) : Option Int64 → Int × List MtdRequest :=
  partition.mtdCharIoctlBadBlock answers.isBadBlock .isBadBlock

def mtdCharIoctlSetBadBlock (answers : MtdBlockAnswers) : Option Int64 → Int × List MtdRequest :=
  partition.mtdCharIoctlBadBlock answers.markBadBlock .markBadBlock

def mtdCharIoctl (answers : MtdBlockAnswers) : MtdIoctl w → Int × List MtdRequest
  | .erase given | .erase64 given => partition.mtdCharIoctlErase answers given
  | .getBadBlock given => partition.mtdCharIoctlGetBadBlock answers given
  | .setBadBlock given => partition.mtdCharIoctlSetBadBlock answers given

/-- The bytes of the partition on the device. -/
def region : Set Int := Set.Ico partition.firstByte (partition.firstByte + partition.byteSize)

def meantBytes (erase : EraseInfo w) : Set Int :=
  Set.Ico (partition.firstByte + erase.start.toNat)
    (partition.firstByte + erase.start.toNat + erase.length.toNat)

/-- An address on one of the partition's blocks. -/
def OnBlock (addr : Int) : Prop :=
  ∃ block, partition.startBlock.toNat ≤ block ∧ block ≤ partition.endBlock.toNat ∧
    addr ∈ Set.Ico ((block * partition.mtdDevice.eraseSize.toNat : Nat) : Int)
      ((block + 1) * partition.mtdDevice.eraseSize.toNat : Nat)

/-- An erase that succeeds has erased the bytes it was meant for, all in the partition. -/
def EraseMeant (given : Option (EraseInfo w)) (done : Int × List MtdRequest) : Prop :=
  done.1 = hdfSuccess → ∃ erase addr len, given = some erase ∧ done.2 = [.erase addr len] ∧
    Set.Ico addr.toInt (addr.toInt + len.toNat) = partition.meantBytes erase ∧
    partition.meantBytes erase ⊆ partition.region

/-- What an ioctl asks of the device is about the partition. -/
def IoctlMeant (done : Int × List MtdRequest) : MtdIoctl w → Prop
  | .erase given | .erase64 given => partition.EraseMeant given done
  | .getBadBlock _ => ∀ request ∈ done.2, ∃ addr, request = .isBadBlock addr ∧
      partition.OnBlock addr.toInt
  | .setBadBlock _ => ∀ request ∈ done.2, ∃ addr, request = .markBadBlock addr ∧
      partition.OnBlock addr.toInt

/-- The partition begins with the device and has the range; or the range is empty and the
partition begins at a multiple of 4 GiB. -/
def EraseFits (erase : EraseInfo w) : Prop :=
  (erase.length.toNat = 0 ∧ partition.firstByte % 2^32 = 0) ∨
    (0 < erase.length.toNat ∧ erase.length.toNat < 2^32 ∧ partition.firstByte = 0 ∧
      erase.start.toNat + erase.length.toNat ≤ partition.byteSize ∧ erase.start.toNat < 2^63)

/-- The offset, counted from the partition's first byte as a `size_t` has it, is in the partition. -/
def OffsFits (offs : Int64) : Prop :=
  (partition.firstByte : Int) ≤ (partition.firstByte % 2^32 : Nat) + offs.toInt ∧
    (partition.firstByte % 2^32 : Nat) + offs.toInt <
      min (partition.firstByte + partition.byteSize : Int) (2^63)

def IoctlFits (answers : MtdBlockAnswers) : MtdIoctl w → Prop
  | .erase given | .erase64 given => ∀ erase, given = some erase →
      answers.erase (partition.eraseAddr erase) (partition.eraseLen erase) = hdfSuccess →
        partition.EraseFits erase
  | .getBadBlock given | .setBadBlock given => ∀ offs, given = some offs → partition.OffsFits offs

section Erase
variable {partition} (erase : EraseInfo w)

theorem eraseLen_toNat : (partition.eraseLen erase).toNat =
    (partition.firstByte % 2^32 + erase.length.toNat) % 2^32 := by
  have narrow : 2^32 ∣ 2^max 32 w := pow_dvd_pow 2 (le_max_left 32 w)
  unfold eraseLen addUnsigned
  rw [UInt32.toNat_ofNat',Nat.mod_mod_of_dvd _ narrow,partStart_toNat]

theorem eraseAddr_toInt : (partition.eraseAddr erase).toInt =
    (((partition.firstByte % 2^32 + erase.start.toNat) % 2^max 32 w : Nat) : Int).bmod (2^64) := by
  rw [← partStart_toNat]
  exact Int64.toInt_ofInt

/-- From a partition that begins with the device the address is the start of the range, if an
`off_t` has it. -/
theorem eraseAddr_of_first (first : partition.firstByte % 2^32 = 0) :
    (partition.eraseAddr erase).toInt = (erase.start.toNat : Int).bmod (2^64) := by
  have wide : 2^w ≤ 2^max 32 w := Nat.pow_le_pow_right (by omega) (le_max_right 32 w)
  have bound := erase.start.isLt
  rw [eraseAddr_toInt,first,Nat.zero_add,Nat.mod_eq_of_lt (by omega)]

theorem erased_empty_iff (none : erase.length.toNat = 0) :
    Set.Ico (partition.eraseAddr erase).toInt
        ((partition.eraseAddr erase).toInt + (partition.eraseLen erase).toNat) =
      partition.meantBytes erase ↔ partition.firstByte % 2^32 = 0 := by
  have empty : partition.meantBytes erase = ∅ := by
    unfold meantBytes
    rw [none,Set.Ico_eq_empty_iff]
    omega
  have len : (partition.eraseLen erase).toNat = _ := eraseLen_toNat erase
  rw [empty,Set.Ico_eq_empty_iff,len,none]
  omega

theorem erased_some_iff (some_byte : 0 < erase.length.toNat) :
    Set.Ico (partition.eraseAddr erase).toInt
        ((partition.eraseAddr erase).toInt + (partition.eraseLen erase).toNat) =
      partition.meantBytes erase ↔
    erase.length.toNat < 2^32 ∧ partition.firstByte = 0 ∧ erase.start.toNat < 2^63 := by
  have len : (partition.eraseLen erase).toNat = _ := eraseLen_toNat erase
  unfold meantBytes
  rw [Set.Ico_eq_Ico_iff (.inr (by omega))]
  constructor
  · rintro ⟨addr,last⟩
    have near : partition.firstByte % 2^32 = 0 := by omega
    have moved := eraseAddr_of_first erase near
    rcases bmod_cases (erase.start.toNat : Int) with ⟨same,_⟩ | ⟨same,_⟩
    · rw [same] at moved
      omega
    · rw [same] at moved
      omega
  · rintro ⟨short,first,low⟩
    have near : partition.firstByte % 2^32 = 0 := by omega
    have moved := eraseAddr_of_first erase near
    rcases bmod_cases (erase.start.toNat : Int) with ⟨same,_⟩ | ⟨same,_⟩
    · rw [same] at moved
      omega
    · omega

theorem meantBytes_inside_iff (some_byte : 0 < erase.length.toNat) :
    partition.meantBytes erase ⊆ partition.region ↔
      erase.start.toNat + erase.length.toNat ≤ partition.byteSize := by
  unfold meantBytes region
  rw [Set.Ico_subset_Ico_iff (by omega)]
  omega

theorem erased_inside_iff :
    (Set.Ico (partition.eraseAddr erase).toInt
        ((partition.eraseAddr erase).toInt + (partition.eraseLen erase).toNat) =
      partition.meantBytes erase ∧ partition.meantBytes erase ⊆ partition.region) ↔
    partition.EraseFits erase := by
  unfold EraseFits
  by_cases none : erase.length.toNat = 0
  · have empty : partition.meantBytes erase ⊆ partition.region := by
      unfold meantBytes
      rw [none,Set.Ico_eq_empty (by omega)]
      exact Set.empty_subset _
    rw [erased_empty_iff erase none]
    constructor
    · rintro ⟨first,_⟩
      exact .inl ⟨none,first⟩
    · rintro (⟨_,first⟩ | ⟨some_byte,_⟩)
      · exact ⟨first,empty⟩
      · omega
  · rw [erased_some_iff erase (by omega),meantBytes_inside_iff erase (by omega)]
    constructor
    · rintro ⟨⟨short,first,low⟩,inside⟩
      exact .inr ⟨by omega,short,first,inside,low⟩
    · rintro (⟨empty,_⟩ | ⟨_,short,first,inside,low⟩)
      · exact absurd empty none
      · exact ⟨⟨short,first,low⟩,inside⟩

theorem eraseMeant_iff (answers : MtdBlockAnswers) (given : Option (EraseInfo w)) :
    partition.EraseMeant given (partition.mtdCharIoctlErase answers given) ↔
      ∀ erase, given = some erase →
        answers.erase (partition.eraseAddr erase) (partition.eraseLen erase) = hdfSuccess →
          partition.EraseFits erase := by
  cases given with
  | none =>
    have failing : -einval ≠ hdfSuccess := by decide
    exact ⟨fun _ _ absent => (nomatch absent),fun _ succeeded => absurd succeeded failing⟩
  | some erase =>
    constructor
    · intro meant _ same succeeded
      obtain rfl := Option.some.inj same
      obtain ⟨_,addr,len,same,asked,exactly⟩ := meant succeeded
      obtain rfl := Option.some.inj same
      obtain ⟨rfl,rfl⟩ := MtdRequest.erase.inj (List.cons.inj asked).1
      exact (erased_inside_iff erase).mp exactly
    · intro fits succeeded
      exact ⟨erase,_,_,rfl,rfl,(erased_inside_iff erase).mpr (fits erase rfl succeeded)⟩

end Erase

section BadBlock
variable {partition}

theorem onBlock_iff (addr : Int) : partition.OnBlock addr ↔ addr ∈ partition.region := by
  have ends := partition.firstByte_add_byteSize
  unfold OnBlock region
  rw [Set.mem_Ico]
  constructor
  · rintro ⟨block,first,last,low,high⟩
    have after : partition.firstByte ≤ block * partition.mtdDevice.eraseSize.toNat :=
      Nat.mul_le_mul_right _ first
    have before : (block + 1) * partition.mtdDevice.eraseSize.toNat ≤
        (partition.endBlock.toNat + 1) * partition.mtdDevice.eraseSize.toNat :=
      Nat.mul_le_mul_right _ (by omega)
    omega
  · rintro ⟨low,high⟩
    obtain ⟨byte,rfl⟩ := Int.eq_ofNat_of_zero_le (show 0 ≤ addr by omega)
    have below : byte < (partition.endBlock.toNat + 1) * partition.mtdDevice.eraseSize.toNat := by
      omega
    have size : 0 < partition.mtdDevice.eraseSize.toNat := by
      apply Nat.pos_of_ne_zero
      intro none
      rw [none,Nat.mul_zero] at below
      omega
    refine ⟨byte / partition.mtdDevice.eraseSize.toNat,?_,?_,?_,?_⟩
    · rw [Nat.le_div_iff_mul_le size]
      exact Int.ofNat_le.mp low
    · exact Nat.le_of_lt_succ ((Nat.div_lt_iff_lt_mul size).mpr below)
    · exact Int.ofNat_le.mpr (Nat.div_mul_le_self _ _)
    · exact Int.ofNat_lt.mpr (Nat.lt_mul_of_div_lt (Nat.lt_succ_self _) size)

theorem offs_onBlock_iff (offs : Int64) :
    partition.OnBlock (toOffT partition.partStart + offs).toInt ↔ partition.OffsFits offs := by
  have low := offs.le_toInt
  have high := offs.toInt_lt
  have start := partition.partStart_toNat
  rw [onBlock_iff]
  unfold region OffsFits
  rw [Set.mem_Ico,Int64.toInt_add,toOffT_toInt,start]
  rcases bmod_cases (((partition.firstByte % 2^32 : Nat) : Int) + offs.toInt) with
    ⟨same,_⟩ | ⟨same,_⟩
  · rw [same]
    omega
  · rw [same]
    omega

theorem badBlock_onBlock_iff (answer : Int64 → Int) {request : Int64 → MtdRequest}
    (apart : ∀ x y, request x = request y → x = y) (given : Option Int64) :
    (∀ asked ∈ (partition.mtdCharIoctlBadBlock answer request given).2,
        ∃ addr, asked = request addr ∧ partition.OnBlock addr.toInt) ↔
      ∀ offs, given = some offs → partition.OffsFits offs := by
  cases given with
  | none => exact ⟨fun _ _ absent => (nomatch absent),fun _ _ asked => (nomatch asked)⟩
  | some offs =>
    constructor
    · intro all _ given
      obtain rfl := Option.some.inj given
      obtain ⟨addr,same,on_block⟩ := all _ List.mem_cons_self
      rw [← apart _ _ same] at on_block
      exact (offs_onBlock_iff offs).mp on_block
    · intro fits asked made
      obtain rfl := List.mem_singleton.mp made
      exact ⟨_,rfl,(offs_onBlock_iff offs).mpr (fits offs rfl)⟩

end BadBlock

/-- The ioctls that stay in the partition and do there what they are meant for. -/
theorem ioctl_meant_iff (answers : MtdBlockAnswers) (ioctl : MtdIoctl w) :
    partition.IoctlMeant (partition.mtdCharIoctl answers ioctl) ioctl ↔
      partition.IoctlFits answers ioctl := by
  cases ioctl with
  | erase given => exact eraseMeant_iff answers given
  | erase64 given => exact eraseMeant_iff answers given
  | getBadBlock given =>
    exact badBlock_onBlock_iff answers.isBadBlock (fun _ _ => MtdRequest.isBadBlock.inj) given
  | setBadBlock given =>
    exact badBlock_onBlock_iff answers.markBadBlock (fun _ _ => MtdRequest.markBadBlock.inj) given

/-- Asked to erase the one block of the partition, the code erases the block behind it too. -/
theorem erases_foreign_block :
    secondBlock.mtdCharIoctl ⟨fun _ _ => 0,fun _ => 0,fun _ => 0⟩
        (.erase (some (⟨0,131072⟩ : EraseInfo 64))) = (0,[.erase 131072 262144]) ∧
      ¬ secondBlock.IoctlMeant (0,[.erase 131072 262144])
        (.erase (some (⟨0,131072⟩ : EraseInfo 64))) := by
  refine ⟨by decide,fun meant => ?_⟩
  obtain ⟨_,addr,len,given,asked,same,_⟩ := meant rfl
  obtain rfl := Option.some.inj given
  obtain ⟨rfl,rfl⟩ := MtdRequest.erase.inj (List.cons.inj asked).1
  have behind : (262144 : Int) ∈ Set.Ico ((131072 : Int64).toInt)
      ((131072 : Int64).toInt + (262144 : UInt32).toNat) := by decide
  rw [same] at behind
  exact absurd behind.2 (by decide)

end MtdPartition
end DriversAdapter.Storage
