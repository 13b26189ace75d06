import DriversAdapter.Base.Memory
import DriversAdapter.Storage.MtdIoctl
import DriversAdapter.Storage.MtdReturns
import DriversAdapter.Storage.MtdSeek

/-! Files on the partitions of one flash device, with its bytes. A partition whose file is not in the
OOB mode is a block of bytes that one file at a time has open, with a position in it, whatever is done
with the files of other partitions. -/
namespace DriversAdapter.Storage
open DriversAdapter.Base DriversAdapter.Semantics

/-- The calls of an open file. What a write or an erase that fails leaves in its range comes with it,
and a buffer that is `NULL` is none. -/
inductive StoreCall (w : Nat)
  | lseek (offset : Int64) (whence : Whence)
  | setFileMode (arg : UInt32)
  | read (outcome : MtdOutcome) (buffer : Bool) (buflen : UInt32)
  | write (outcome : MtdOutcome) (torn : Bytes) (buffer : Option Bytes) (buflen : UInt32)
  | erase (outcome : MtdOutcome) (torn : Bytes) (given : Option (EraseInfo w))

/-- The calls of a file; an open finds what was in the memory of its record before. -/
inductive FileCall (w : Nat)
  | mtdCharOpen (valid given : Bool) (stale : UInt32)
  | mtdCharClose
  | call (call : StoreCall w)

structure StoreReply where
  ret : Int
  data : Option Block

def erased : Bytes := fun _ => 0xff

namespace MtdOutcome

/-- The bytes in the range of a call that changes them. -/
def leaves (meant torn : Bytes) : MtdOutcome → Bytes
  | .done => meant
  | .failed _ _ => torn

def finds (data : Block) : MtdOutcome → Option Block
  | .done => some data
  | .failed _ _ => none

/-- An erase has no bytes to count. -/
def eraseAnswers (outcome : MtdOutcome) : MtdBlockAnswers where
  erase _ len := outcome.answer .status len
  isBadBlock _ := hdfSuccess
  markBadBlock _ := hdfSuccess

end MtdOutcome

/-- The device with its partitions, and the files on them. -/
structure MtdFlash (φ π : Type) where
  content : Bytes
  userNum : π → UInt32
  files : φ → MtdFile
  fPriv : φ → Bool

namespace MtdPartition
variable {w : Nat} (modes : MtdFileModes) (convention : SuccessConvention) (partition : MtdPartition)

/-- Where a transfer asks the device to begin. -/
def transferAddr (filep : MtdFile) : Nat :=
  (toOffT partition.partStart + filep.pos).toInt.toNat

def found (outcome : MtdOutcome) (buffer : Bool) (buflen : UInt32) (filep : MtdFile)
    (content : Bytes) : Option Block :=
  if partition.Reaches modes buffer buflen filep then
    outcome.finds (chunk content (partition.transferAddr filep) buflen.toNat)
  else none

def written (outcome : MtdOutcome) (torn : Bytes) (buffer : Option Bytes) (buflen : UInt32)
    (filep : MtdFile) (content : Bytes) : Bytes :=
  match buffer with
  | none => content
  | some data =>
    if partition.Reaches modes true buflen filep then
      copyBytes content (partition.transferAddr filep) (outcome.leaves data torn) 0 buflen.toNat
    else content

def erasedContent (outcome : MtdOutcome) (torn : Bytes) (given : Option (EraseInfo w))
    (content : Bytes) : Bytes :=
  match given with
  | none => content
  | some erase => copyBytes content (partition.eraseAddr erase).toInt.toNat
      (outcome.leaves erased torn) 0 (partition.eraseLen erase).toNat

def serve (call : StoreCall w) (filep : MtdFile) (content : Bytes) :
    StoreReply × MtdFile × Bytes :=
  match call with
  | .lseek offset whence =>
    let done := partition.mtdCharLseek offset whence filep
    (⟨done.1.toInt,none⟩,done.2,content)
  | .setFileMode arg =>
    let done := mtdCharSetFileMode modes arg filep
    (⟨done.1,none⟩,done.2,content)
  | .read outcome buffer buflen =>
    let done := partition.mtdCharRead modes (outcome.answers convention) buffer buflen filep
    (⟨done.1,partition.found modes outcome buffer buflen filep content⟩,done.2,content)
  | .write outcome torn buffer buflen =>
    let done := partition.mtdCharWrite modes (outcome.answers convention) buffer.isSome buflen filep
    (⟨done.1,none⟩,done.2,partition.written modes outcome torn buffer buflen filep content)
  | .erase outcome torn given =>
    let done := partition.mtdCharIoctlErase outcome.eraseAnswers given
    (⟨done.1,none⟩,filep,partition.erasedContent outcome torn given content)

end MtdPartition

namespace MtdFlash
variable {φ π : Type} [DecidableEq φ] [DecidableEq π] {w : Nat} (modes : MtdFileModes)
  (convention : SuccessConvention) (partitions : π → MtdPartition) (place : φ → π)

def mtdCharOpen (valid given : Bool) (stale : UInt32) (f : φ) (s : MtdFlash φ π) :
    StoreReply × MtdFlash φ π :=
  if valid = false then (⟨-einval,none⟩,s)
  else if s.userNum (place f) ≠ 0 then (⟨-ebusy,none⟩,s)
  else if given = false then (⟨-enomem,none⟩,s)
  else (⟨0,none⟩,{s with
    userNum := Function.update s.userNum (place f) 1
    files := Function.update s.files f {s.files f with pos := 0,mode := stale}
    fPriv := Function.update s.fPriv f true})

def mtdCharClose (f : φ) (s : MtdFlash φ π) : StoreReply × MtdFlash φ π :=
  (⟨0,none⟩,{s with
    userNum := Function.update s.userNum (place f) 0
    fPriv := Function.update s.fPriv f false})

def step (call : φ × FileCall w) (s : MtdFlash φ π) : StoreReply × MtdFlash φ π :=
  match call.2 with
  | .mtdCharOpen valid given stale => s.mtdCharOpen place valid given stale call.1
  | .mtdCharClose => s.mtdCharClose place call.1
  | .call c =>
    let done := (partitions (place call.1)).serve modes convention c (s.files call.1) s.content
    (done.1,{s with content := done.2.2,files := Function.update s.files call.1 done.2.1})

/-- Nothing is open. -/
def closed (content : Bytes) (files : φ → MtdFile) : MtdFlash φ π :=
  ⟨content,fun _ => 0,files,fun _ => false⟩

end MtdFlash

/-- What a file is meant to be. -/
structure PartFile where
  pos : Int64
  bytes : Block

namespace PartFile
variable {w : Nat} (modes : MtdFileModes) (convention : SuccessConvention)

/-- The request has a buffer and lies in the bytes. -/
def Fits (buffer : Bool) (buflen : UInt32) (v : PartFile) : Prop :=
  buffer = true ∧ v.pos.toInt.toNat + buflen.toNat ≤ v.bytes.length

instance (buffer : Bool) (buflen : UInt32) (v : PartFile) : Decidable (v.Fits buffer buflen) :=
  inferInstanceAs (Decidable (_ ∧ _))

/-- A device that answers with a number of bytes leaves the file where it was. -/
def moved (outcome : MtdOutcome) (buflen : UInt32) (v : PartFile) : Int64 :=
  match convention, outcome with
  | .status, .done => v.pos + toOffT buflen
  | _, _ => v.pos

def read (outcome : MtdOutcome) (buffer : Bool) (buflen : UInt32) (v : PartFile) :
    StoreReply × PartFile :=
  if ¬ v.Fits buffer buflen then (⟨-einval,none⟩,v)
  else if buflen = 0 then (⟨hdfSuccess,none⟩,v)
  else (⟨outcome.answer convention buflen,
      outcome.finds ((v.bytes.drop v.pos.toInt.toNat).take buflen.toNat)⟩,
    {v with pos := v.moved convention outcome buflen})

def write (outcome : MtdOutcome) (torn : Bytes) (buffer : Option Bytes) (buflen : UInt32)
    (v : PartFile) : StoreReply × PartFile :=
  match buffer with
  | none => (⟨-einval,none⟩,v)
  | some data =>
    if ¬ v.Fits true buflen then (⟨-einval,none⟩,v)
    else if buflen = 0 then (⟨hdfSuccess,none⟩,v)
    else (⟨outcome.answer convention buflen,none⟩,⟨v.moved convention outcome buflen,
      patch v.bytes v.pos.toInt.toNat (chunk (outcome.leaves data torn) 0 buflen.toNat)⟩)

/-- A position from the first byte up to the last. -/
def seek (offset : Int64) (whence : Whence) (v : PartFile) : StoreReply × PartFile :=
  match whence.base v.bytes.length v.pos with
  | none => (⟨-einval,none⟩,v)
  | some base =>
    if 0 ≤ base + offset.toInt ∧ base + offset.toInt < v.bytes.length then
      (⟨base + offset.toInt,none⟩,{v with pos := Int64.ofInt (base + offset.toInt)})
    else (⟨-einval,none⟩,v)

def erase (outcome : MtdOutcome) (torn : Bytes) (given : Option (EraseInfo w)) (v : PartFile) :
    StoreReply × PartFile :=
  match given with
  | none => (⟨-einval,none⟩,v)
  | some erase => (⟨outcome.answer .status 0,none⟩,{v with
      bytes := patch v.bytes erase.start.toNat
        (chunk (outcome.leaves erased torn) 0 erase.length.toNat)})

def serve (call : StoreCall w) (v : PartFile) : StoreReply × PartFile :=
  match call with
  | .lseek offset whence => v.seek offset whence
  | .setFileMode arg => (⟨if arg = 0 ∨ modes.max ≤ arg then -einval else 0,none⟩,v)
  | .read outcome buffer buflen => v.read convention outcome buffer buflen
  | .write outcome torn buffer buflen => v.write convention outcome torn buffer buflen
  | .erase outcome torn given => v.erase outcome torn given

end PartFile

/-- What a partition is meant to be: a file that one user at a time has. -/
structure PartStore (φ : Type) where
  file : PartFile
  user : Option φ

namespace PartStore
variable {φ π : Type} [DecidableEq π] {w : Nat} (modes : MtdFileModes)
  (convention : SuccessConvention) (place : φ → π)

def serve (f : φ) (call : FileCall w) (v : PartStore φ) : StoreReply × PartStore φ :=
  match call with
  | .mtdCharOpen valid given _ =>
    if valid = false then (⟨-einval,none⟩,v)
    else if v.user ≠ none then (⟨-ebusy,none⟩,v)
    else if given = false then (⟨-enomem,none⟩,v)
    else (⟨0,none⟩,⟨{v.file with pos := 0},some f⟩)
  | .mtdCharClose => (⟨0,none⟩,{v with user := none})
  | .call c =>
    let done := v.file.serve modes convention c
    (done.1,{v with file := done.2})

/-- The partitions next to each other, each served by itself. -/
def step (call : φ × FileCall w) (s : π → PartStore φ) : StoreReply × (π → PartStore φ) :=
  let done := (s (place call.1)).serve modes convention call.1 call.2
  (done.1,Function.update s (place call.1) done.2)

end PartStore

/-- The call keeps out of the OOB mode, and its offsets are ones that the code gets right. -/
def StoreCall.Plain {w : Nat} (modes : MtdFileModes) (partition : MtdPartition) (v : PartFile) :
    StoreCall w → Prop
  | .lseek offset whence => partition.SeekFits offset whence ⟨v.pos,0,[]⟩
  | .setFileMode arg => arg ≠ 0 → (if modes.max ≤ arg then 0 else arg) ≠ modes.oob
  | .read _ _ _ | .write _ _ _ _ => True
  | .erase _ _ given => ∀ erase, given = some erase → partition.EraseFits erase

/-- Only a file that is open is used. -/
def FileCall.Plain {φ : Type} {w : Nat} (modes : MtdFileModes) (partition : MtdPartition) (f : φ)
    (v : PartStore φ) : FileCall w → Prop
  | .mtdCharOpen _ _ stale => stale ≠ modes.oob
  | .mtdCharClose => v.user = some f
  | .call c => v.user = some f ∧ c.Plain modes partition v.file

/-- The partition ends below 4 GiB. -/
def MtdPartition.Placed (partition : MtdPartition) : Prop :=
  partition.firstByte + partition.byteSize < 2^32

def MtdPartition.Apart (p q : MtdPartition) : Prop :=
  p.firstByte + p.byteSize ≤ q.firstByte ∨ q.firstByte + q.byteSize ≤ p.firstByte

/-- A file that is not in the OOB mode and stands in its partition. -/
structure MtdFile.Stands (modes : MtdFileModes) (partition : MtdPartition) (filep : MtdFile) :
    Prop where
  plain : filep.mode ≠ modes.oob
  low : 0 ≤ filep.pos.toInt
  high : filep.pos.toInt ≤ partition.byteSize

/-- The file that a position and the bytes of the partition are. -/
def MtdPartition.partFile (partition : MtdPartition) (content : Bytes) (filep : MtdFile) :
    PartFile :=
  ⟨filep.pos,chunk content partition.firstByte partition.byteSize⟩

namespace MtdPartition
variable {w : Nat} {modes : MtdFileModes} {partition : MtdPartition} {filep : MtdFile}

/-- The partition's bytes are changed and no others. -/
def Keeps (partition : MtdPartition) (before after : Bytes) : Prop :=
  ∀ a, a < partition.firstByte ∨ partition.firstByte + partition.byteSize ≤ a → after a = before a

@[simp] theorem keeps_refl (content : Bytes) : partition.Keeps content content := fun _ _ => rfl

theorem keeps_copy (content data : Bytes) (pos n : Nat) (fits : pos + n ≤ partition.byteSize) :
    partition.Keeps content (copyBytes content (partition.firstByte + pos) data 0 n) := by
  intro a outside
  unfold copyBytes
  rw [if_neg (by omega)]

@[simp] theorem partFile_length (content : Bytes) (filep : MtdFile) :
    (partition.partFile content filep).bytes.length = partition.byteSize := chunk_length _ _ _

theorem fits_iff (content : Bytes) (buffer : Bool) (buflen : UInt32) :
    (partition.partFile content filep).Fits buffer buflen ↔
      buffer = true ∧ filep.pos.toInt.toNat + buflen.toNat ≤ partition.byteSize := by
  unfold PartFile.Fits
  rw [partFile_length]
  rfl

section Transfer
variable (placed : partition.Placed) (stands : filep.Stands modes partition)

include placed in
theorem partSize_of_placed : partition.partSize.toNat = partition.byteSize := by
  unfold Placed at placed
  rw [partSize_toNat,Nat.mod_eq_of_lt (by omega)]

include placed stands in
theorem refuses_iff (buflen : UInt32) : partition.Refuses modes buflen filep ↔
    partition.byteSize < filep.pos.toInt.toNat + buflen.toNat := by
  have size := partSize_of_placed placed
  have bound := buflen.toNat_lt
  have low := stands.low
  have high := stands.high
  have plain := stands.plain
  unfold Placed at placed
  have length := toInt_add_toOffT filep.pos buflen (by omega)
  unfold Refuses
  simp only [plain,false_and,false_or,not_false_eq_true,true_and,Int64.lt_iff_toInt_lt,
    Int64.toInt_zero,toOffT_toInt,size,length,ne_eq]
  omega

include placed stands in
theorem reaches_iff (content : Bytes) (buffer : Bool) (buflen : UInt32) :
    partition.Reaches modes buffer buflen filep ↔
      (partition.partFile content filep).Fits buffer buflen ∧ buflen ≠ 0 := by
  have refuses := refuses_iff placed stands buflen
  unfold Reaches
  rw [refuses,fits_iff,and_assoc,Nat.not_lt]

include placed stands in
theorem transferAddr_eq :
    partition.transferAddr filep = partition.firstByte + filep.pos.toInt.toNat := by
  have low := stands.low
  have high := stands.high
  have first := partition.partStart_toNat
  unfold Placed at placed
  unfold transferAddr
  rw [Int64.add_comm,toInt_add_toOffT _ _ (by omega),first,Nat.mod_eq_of_lt (by omega)]
  omega

include placed stands in
/-- What a transfer returns and where it leaves the file. -/
theorem transfer_plain (convention : SuccessConvention) (outcome : MtdOutcome) (content : Bytes)
    (buffer : Bool) (buflen : UInt32) :
    let call := fun (_ : Int64) len => outcome.answer convention len
    let done := partition.transfer modes call call buffer buflen filep
    let v := partition.partFile content filep
    (¬ v.Fits buffer buflen → done = (-einval,filep)) ∧
      (v.Fits buffer buflen → buflen = 0 → done = (hdfSuccess,filep)) ∧
      (v.Fits buffer buflen → buflen ≠ 0 → done.1 = outcome.answer convention buflen ∧
        done.2.pos = v.moved convention outcome buflen ∧ done.2.Stands modes partition) := by
  have refuses := refuses_iff placed stands buflen
  have low := stands.low
  have high := stands.high
  have plain : (filep.mode == modes.oob) = false := beq_eq_false_iff_ne.mpr stands.plain
  have fit := @fits_iff partition filep content buffer buflen
  intro call done v
  refine ⟨fun unfit => ?_,fun fits none => ?_,fun fits some_byte => ?_⟩
  · dsimp only [done,v,transfer] at unfit ⊢
    rw [fit] at unfit
    by_cases absent : buffer = false
    · rw [if_pos absent]
    · have outside : ¬ filep.pos.toInt.toNat + buflen.toNat ≤ partition.byteSize :=
        fun inside => unfit ⟨Bool.eq_true_of_not_eq_false absent,inside⟩
      rw [if_neg absent,if_pos (refuses.mpr (not_le.mp outside))]
  · obtain ⟨rfl,inside⟩ := fit.mp fits
    dsimp only [done,transfer]
    rw [if_neg (by simp),if_neg fun refused => absurd (refuses.mp refused) (not_lt.mpr inside),
      if_pos none]
  · obtain ⟨rfl,inside⟩ := fit.mp fits
    have allowed : ¬ partition.Refuses modes buflen filep :=
      fun refused => absurd (refuses.mp refused) (not_lt.mpr inside)
    have reaches : partition.Reaches modes true buflen filep := ⟨rfl,allowed,some_byte⟩
    cases outcome with
    | failed error negative =>
      have failed : error.toInt ≠ hdfSuccess := negative.ne
      have answered := transfer_answered reaches call error.toInt (fun _ => rfl) failed
      dsimp only [done]
      rw [answered]
      exact ⟨rfl,by cases convention <;> rfl,stands⟩
    | done =>
      cases convention with
      | byteCount =>
        have some_len := reaches_pos reaches
        have counted := toInt32_cases buflen
        have failed : buflen.toInt32.toInt ≠ hdfSuccess := by
          unfold hdfSuccess
          omega
        have answered := transfer_answered reaches call buflen.toInt32.toInt (fun _ => rfl) failed
        dsimp only [done]
        rw [answered]
        exact ⟨rfl,rfl,stands⟩
      | status =>
        have served : partition.Served modes call call true buflen filep := by
          refine ⟨rfl,allowed,some_byte,?_⟩
          rw [plain]
          rfl
        have bound := buflen.toNat_lt
        unfold Placed at placed
        dsimp only [done]
        rw [transfer_served served,plain]
        refine ⟨rfl,rfl,stands.plain,?_,?_⟩
        · dsimp only [advance]
          rw [if_neg (by simp),toInt_add_toOffT _ _ (by omega)]
          omega
        · dsimp only [advance]
          rw [if_neg (by simp),toInt_add_toOffT _ _ (by omega)]
          omega

end Transfer

/-- A call is answered as by the file that the position and the bytes are, and leaves such a file;
the other bytes of the device stay. -/
structure Refines (modes : MtdFileModes) (convention : SuccessConvention) (partition : MtdPartition)
    (call : StoreCall w) (filep : MtdFile) (content : Bytes)
    (done : StoreReply × MtdFile × Bytes) : Prop where
  answer : done.1 = ((partition.partFile content filep).serve modes convention call).1
  file : partition.partFile done.2.2 done.2.1 =
    ((partition.partFile content filep).serve modes convention call).2
  stands : done.2.1.Stands modes partition
  keeps : partition.Keeps content done.2.2

section Serve
variable (placed : partition.Placed) (stands : filep.Stands modes partition)
  (convention : SuccessConvention) (content : Bytes)

include placed stands in
theorem read_refines (outcome : MtdOutcome) (buffer : Bool) (buflen : UInt32) :
    let call : StoreCall w := .read outcome buffer buflen
    partition.Refines modes convention call filep content
      (partition.serve modes convention call filep content) := by
  have reaches := reaches_iff placed stands content buffer buflen
  have addr := transferAddr_eq placed stands
  obtain ⟨unfit,none,some_byte⟩ := transfer_plain placed stands convention outcome content buffer
    buflen
  intro call
  dsimp only [call]
  by_cases fits : (partition.partFile content filep).Fits buffer buflen
  · by_cases zero : buflen = 0
    · have unreached : ¬ partition.Reaches modes buffer buflen filep :=
        fun reached => (reaches.mp reached).2 zero
      have done := none fits zero
      refine ⟨?_,?_,?_,keeps_refl content⟩
      · dsimp only [serve,PartFile.serve,PartFile.read,mtdCharRead,MtdOutcome.answers,found]
        rw [done,if_neg unreached,if_neg (not_not.mpr fits),if_pos zero]
      · dsimp only [serve,PartFile.serve,PartFile.read,mtdCharRead,MtdOutcome.answers]
        rw [done,if_neg (not_not.mpr fits),if_pos zero]
      · dsimp only [serve,mtdCharRead,MtdOutcome.answers]
        rw [done]
        exact stands
    · obtain ⟨ret,pos,next⟩ := some_byte fits zero
      have inside := ((fits_iff content buffer buflen).mp fits).2
      refine ⟨?_,?_,next,keeps_refl content⟩
      · have data : ((partition.partFile content filep).bytes.drop filep.pos.toInt.toNat).take
            buflen.toNat = chunk content (partition.transferAddr filep) buflen.toNat := by
          unfold partFile
          dsimp only
          rw [drop_chunk _ _ _ _ (by omega),take_chunk _ _ _ _ (by omega),addr]
        dsimp only [serve,PartFile.serve,PartFile.read,mtdCharRead,MtdOutcome.answers,found]
        rw [ret,if_pos (reaches.mpr ⟨fits,zero⟩),if_neg (not_not.mpr fits),if_neg zero]
        exact congrArg (StoreReply.mk _) (congrArg outcome.finds data.symm)
      · dsimp only [serve,PartFile.serve,PartFile.read,mtdCharRead,MtdOutcome.answers]
        rw [if_neg (not_not.mpr fits),if_neg zero]
        exact congrArg (PartFile.mk · _) pos
  · have unreached : ¬ partition.Reaches modes buffer buflen filep :=
      fun reached => fits (reaches.mp reached).1
    have done := unfit fits
    refine ⟨?_,?_,?_,keeps_refl content⟩
    · dsimp only [serve,PartFile.serve,PartFile.read,mtdCharRead,MtdOutcome.answers,found]
      rw [done,if_neg unreached,if_pos fits]
    · dsimp only [serve,PartFile.serve,PartFile.read,mtdCharRead,MtdOutcome.answers]
      rw [done,if_pos fits]
    · dsimp only [serve,mtdCharRead,MtdOutcome.answers]
      rw [done]
      exact stands

include placed stands in
theorem write_refines (outcome : MtdOutcome) (torn : Bytes) (buffer : Option Bytes)
    (buflen : UInt32) :
    let call : StoreCall w := .write outcome torn buffer buflen
    partition.Refines modes convention call filep content
      (partition.serve modes convention call filep content) := by
  intro call
  dsimp only [call]
  cases buffer with
  | none =>
    have unfit : ¬ (partition.partFile content filep).Fits false buflen := by
      rw [fits_iff]
      simp
    have done := (transfer_plain placed stands convention outcome content false buflen).1 unfit
    refine ⟨?_,?_,?_,keeps_refl content⟩
    · dsimp only [serve,PartFile.serve,PartFile.write,mtdCharWrite,MtdOutcome.answers]
      rw [Option.isSome_none,done]
    · dsimp only [serve,PartFile.serve,PartFile.write,mtdCharWrite,MtdOutcome.answers,written]
      rw [Option.isSome_none,done]
    · dsimp only [serve,mtdCharWrite,MtdOutcome.answers]
      rw [Option.isSome_none,done]
      exact stands
  | some data =>
    have reaches := reaches_iff placed stands content true buflen
    have addr := transferAddr_eq placed stands
    obtain ⟨unfit,none,some_byte⟩ := transfer_plain placed stands convention outcome content true
      buflen
    by_cases fits : (partition.partFile content filep).Fits true buflen
    · by_cases zero : buflen = 0
      · have unreached : ¬ partition.Reaches modes true buflen filep :=
          fun reached => (reaches.mp reached).2 zero
        have done := none fits zero
        have same : partition.written modes outcome torn (some data) buflen filep content =
            content := if_neg unreached
        refine ⟨?_,?_,?_,?_⟩
        · dsimp only [serve,PartFile.serve,PartFile.write,mtdCharWrite,MtdOutcome.answers]
          rw [Option.isSome_some,done,if_neg (not_not.mpr fits),if_pos zero]
        · dsimp only [serve,PartFile.serve,PartFile.write,mtdCharWrite,MtdOutcome.answers]
          rw [Option.isSome_some,done,same,if_neg (not_not.mpr fits),if_pos zero]
        · dsimp only [serve,mtdCharWrite,MtdOutcome.answers]
          rw [Option.isSome_some,done]
          exact stands
        · dsimp only [serve]
          rw [same]
          exact keeps_refl content
      · obtain ⟨ret,pos,next⟩ := some_byte fits zero
        have inside := ((fits_iff content true buflen).mp fits).2
        have copied : partition.written modes outcome torn (some data) buflen filep content =
            copyBytes content (partition.firstByte + filep.pos.toInt.toNat)
              (outcome.leaves data torn) 0 buflen.toNat := by
          dsimp only [written]
          rw [if_pos (reaches.mpr ⟨fits,zero⟩),addr]
        refine ⟨?_,?_,next,?_⟩
        · dsimp only [serve,PartFile.serve,PartFile.write,mtdCharWrite,MtdOutcome.answers]
          rw [Option.isSome_some,ret,if_neg (not_not.mpr fits),if_neg zero]
        · dsimp only [serve,PartFile.serve,PartFile.write,mtdCharWrite,MtdOutcome.answers]
          rw [Option.isSome_some,copied,if_neg (not_not.mpr fits),if_neg zero]
          unfold partFile at pos ⊢
          rw [pos,chunk_copyBytes_within _ _ _ _ _ _ _ inside]
        · dsimp only [serve]
          rw [copied]
          exact keeps_copy content _ _ _ inside
    · have unreached : ¬ partition.Reaches modes true buflen filep :=
        fun reached => fits (reaches.mp reached).1
      have done := unfit fits
      have same : partition.written modes outcome torn (some data) buflen filep content =
          content := if_neg unreached
      refine ⟨?_,?_,?_,?_⟩
      · dsimp only [serve,PartFile.serve,PartFile.write,mtdCharWrite,MtdOutcome.answers]
        rw [Option.isSome_some,done,if_pos fits]
      · dsimp only [serve,PartFile.serve,PartFile.write,mtdCharWrite,MtdOutcome.answers]
        rw [Option.isSome_some,done,same,if_pos fits]
      · dsimp only [serve,mtdCharWrite,MtdOutcome.answers]
        rw [Option.isSome_some,done]
        exact stands
      · dsimp only [serve]
        rw [same]
        exact keeps_refl content

omit placed stands in
/-- A seek that checks for just the positions in the partition. -/
theorem seek_checked (offset : Int64) (whence : Whence) (base : Int) (pos : Int64)
    (from_base : whence.base partition.byteSize filep.pos = some base) (allowed : Prop)
    [Decidable allowed] (checks : allowed ↔ 0 ≤ base + offset.toInt ∧
      base + offset.toInt < partition.byteSize)
    (reached : allowed → pos.toInt = base + offset.toInt) (done : Int64 × MtdFile)
    (same : done = if allowed then (pos,{filep with pos := pos})
      else (Int64.ofInt (-einval),filep)) :
    (⟨done.1.toInt,none⟩,partition.partFile content done.2) =
      (partition.partFile content filep).seek offset whence ∧
      (done.2 = filep ∨ done.2.mode = filep.mode ∧ 0 ≤ done.2.pos.toInt ∧
        done.2.pos.toInt ≤ partition.byteSize) := by
  have refused : (Int64.ofInt (-einval)).toInt = -einval := by decide
  unfold PartFile.seek
  rw [partFile_length]
  have start : whence.base partition.byteSize (partition.partFile content filep).pos = some base :=
    from_base
  rw [start]
  dsimp only
  by_cases here : allowed
  · have inside := checks.mp here
    have value := reached here
    have exactly : Int64.ofInt (base + offset.toInt) = pos := by
      rw [← value,Int64.ofInt_toInt]
    rw [if_pos here] at same
    rw [if_pos inside,same,exactly,value]
    refine ⟨rfl,.inr ⟨rfl,?_,?_⟩⟩
    · omega
    · omega
  · rw [if_neg here] at same
    rw [if_neg (fun inside => here (checks.mpr inside)),same,refused]
    exact ⟨rfl,.inl rfl⟩

include placed stands in
theorem lseek_refines (offset : Int64) (whence : Whence)
    (fits : partition.SeekFits offset whence filep) :
    (⟨(partition.mtdCharLseek offset whence filep).1.toInt,none⟩,
        partition.partFile content (partition.mtdCharLseek offset whence filep).2) =
      (partition.partFile content filep).seek offset whence ∧
      ((partition.mtdCharLseek offset whence filep).2 = filep ∨
        (partition.mtdCharLseek offset whence filep).2.mode = filep.mode ∧
          0 ≤ (partition.mtdCharLseek offset whence filep).2.pos.toInt ∧
          (partition.mtdCharLseek offset whence filep).2.pos.toInt ≤ partition.byteSize) := by
  have low := stands.low
  have high := stands.high
  have first := partition.partStart_toNat
  have last := partition.endAddr_toNat
  unfold Placed at placed
  rw [Nat.mod_eq_of_lt (by omega)] at first last
  cases whence with
  | seekSet =>
    have checks := @setAllowed_iff partition offset
    apply seek_checked content offset .seekSet 0 (toOffT (toSizeT offset)) rfl
      (partition.setAllowed offset) _ _ _ rfl
    · rw [checks]
      constructor
      · intro allowed
        have short := fits (checks.mpr allowed)
        omega
      · omega
    · intro allowed
      have short := fits allowed
      have nonneg := (checks.mp allowed).1
      rw [toOffT_toInt,toSizeT_toNat]
      omega
  | seekCur =>
    have checks := @curAllowed_iff partition offset filep
    have least := offset.le_toInt
    apply seek_checked content offset .seekCur filep.pos.toInt (filep.pos + offset) rfl
      (partition.curAllowed offset filep) _ _ _ rfl
    · constructor
      · intro allowed
        have short := fits allowed
        have checked := checks.mp allowed
        omega
      · intro inside
        apply checks.mpr
        omega
    · intro allowed
      have short := fits allowed
      have checked := checks.mp allowed
      exact toInt_add_of_range filep.pos offset (by omega) (by omega)
  | seekEnd =>
    have checks := @endAllowed_iff partition offset
    have least := offset.le_toInt
    apply seek_checked content offset .seekEnd partition.byteSize
      (offset + toOffT partition.endAddr - toOffT partition.partStart) rfl
      (partition.endAllowed offset) _ _ _ rfl
    · rw [checks]
      omega
    · intro allowed
      have checked := checks.mp allowed
      have reached : (offset + toOffT partition.endAddr).toInt =
          offset.toInt + partition.endAddr.toNat := toInt_add_toOffT _ _ (by omega)
      rw [Int64.toInt_sub,reached,toOffT_toInt]
      rcases bmod_cases (offset.toInt + partition.endAddr.toNat - partition.partStart.toNat) with
        ⟨same,_⟩ | ⟨same,_⟩
      · rw [same]
        omega
      · omega
  | other whence =>
    have refused : (Int64.ofInt (-einval)).toInt = -einval := by decide
    refine ⟨?_,.inl rfl⟩
    unfold mtdCharLseek
    dsimp only
    rw [refused]
    rfl

include placed stands in
/-- Only the first partition has ranges that it erases as they are meant. -/
theorem erase_refines (outcome : MtdOutcome) (torn : Bytes) (given : Option (EraseInfo w))
    (fits : ∀ erase, given = some erase → partition.EraseFits erase) :
    let call : StoreCall w := .erase outcome torn given
    partition.Refines modes convention call filep content
      (partition.serve modes convention call filep content) := by
  intro call
  dsimp only [call]
  unfold Placed at placed
  cases given with
  | none => exact ⟨rfl,rfl,stands,keeps_refl content⟩
  | some erase =>
    have ranged : (partition.eraseLen erase).toNat = erase.length.toNat ∧
        (0 < erase.length.toNat → partition.firstByte = 0 ∧
          (partition.eraseAddr erase).toInt.toNat = erase.start.toNat ∧
          erase.start.toNat + erase.length.toNat ≤ partition.byteSize) := by
      have len := @eraseLen_toNat w partition erase
      rcases fits erase rfl with ⟨none,first⟩ | ⟨some_byte,short,first,inside,_⟩
      · rw [none,first] at len
        exact ⟨len.trans none.symm,fun some_byte => absurd none some_byte.ne'⟩
      · rw [first] at len
        have addr := eraseAddr_of_first erase (by omega : partition.firstByte % 2^32 = 0)
        refine ⟨by omega,fun _ => ⟨first,?_,inside⟩⟩
        rcases bmod_cases (erase.start.toNat : Int) with ⟨same,_⟩ | ⟨same,_⟩
        · rw [addr,same]
          omega
        · omega
    obtain ⟨len,range⟩ := ranged
    have ret (n : UInt32) : outcome.answer .status n = outcome.answer .status 0 := by
      cases outcome <;> rfl
    have copied : partition.erasedContent outcome torn (some erase) content =
        copyBytes content (partition.firstByte + erase.start.toNat)
          (outcome.leaves erased torn) 0 erase.length.toNat := by
      dsimp only [erasedContent]
      rw [len]
      rcases Nat.eq_zero_or_pos erase.length.toNat with none | some_byte
      · rw [none,copyBytes_zero,copyBytes_zero]
      · obtain ⟨first,addr,_⟩ := range some_byte
        rw [addr,first,Nat.zero_add]
    have patched : chunk (copyBytes content (partition.firstByte + erase.start.toNat)
          (outcome.leaves erased torn) 0 erase.length.toNat) partition.firstByte
          partition.byteSize =
        patch (chunk content partition.firstByte partition.byteSize) erase.start.toNat
          (chunk (outcome.leaves erased torn) 0 erase.length.toNat) := by
      rcases Nat.eq_zero_or_pos erase.length.toNat with none | some_byte
      · rw [none,copyBytes_zero]
        simp [patch,chunk]
      · exact chunk_copyBytes_within _ _ _ _ _ _ _ (range some_byte).2.2
    refine ⟨?_,?_,stands,?_⟩
    · dsimp only [serve,PartFile.serve,PartFile.erase,mtdCharIoctlErase,MtdOutcome.eraseAnswers]
      rw [ret]
    · dsimp only [serve,PartFile.serve,PartFile.erase,partFile]
      rw [copied,patched]
    · dsimp only [serve]
      rw [copied]
      rcases Nat.eq_zero_or_pos erase.length.toNat with none | some_byte
      · rw [none,copyBytes_zero]
        exact keeps_refl content
      · exact keeps_copy content _ _ _ (range some_byte).2.2

include placed stands in
theorem serve_refines (call : StoreCall w)
    (plain : call.Plain modes partition (partition.partFile content filep)) :
    partition.Refines modes convention call filep content
      (partition.serve modes convention call filep content) := by
  cases call with
  | lseek offset whence =>
    obtain ⟨same,next⟩ := lseek_refines placed stands content offset whence plain
    refine ⟨congrArg Prod.fst same,congrArg Prod.snd same,?_,keeps_refl content⟩
    dsimp only [serve]
    rcases next with unmoved | ⟨mode,low,high⟩
    · rw [unmoved]
      exact stands
    · exact ⟨mode ▸ stands.plain,low,high⟩
  | setFileMode arg =>
    dsimp only [StoreCall.Plain] at plain
    dsimp only [serve,mtdCharSetFileMode]
    by_cases zero : arg = 0
    · rw [if_pos zero]
      exact ⟨by simp [PartFile.serve,zero],rfl,stands,keeps_refl content⟩
    · have mode := plain zero
      rw [if_neg zero]
      by_cases past : modes.max ≤ arg
      · rw [if_pos past] at mode ⊢
        exact ⟨by simp [PartFile.serve,past],rfl,⟨mode,stands.low,stands.high⟩,keeps_refl content⟩
      · rw [if_neg past] at mode ⊢
        exact ⟨by simp [PartFile.serve,zero,past],rfl,⟨mode,stands.low,stands.high⟩,
          keeps_refl content⟩
  | read outcome buffer buflen => exact read_refines placed stands convention content outcome buffer buflen
  | write outcome torn buffer buflen =>
    exact write_refines placed stands convention content outcome torn buffer buflen
  | erase outcome torn given =>
    exact erase_refines placed stands convention content outcome torn given plain

end Serve

theorem Keeps.bytes {before after : Bytes} (keeps : partition.Keeps before after)
    (other : MtdPartition) (apart : partition.Apart other) :
    chunk after other.firstByte other.byteSize = chunk before other.firstByte other.byteSize := by
  apply chunk_congr
  intro i bound
  apply keeps
  unfold Apart at apart
  omega

end MtdPartition

namespace MtdFlash
variable {φ π : Type} {w : Nat} {modes : MtdFileModes} {convention : SuccessConvention}
  {partitions : π → MtdPartition} {place : φ → π}

/-- The partitions are these stores, and who has one open stands in it. -/
structure Related (modes : MtdFileModes) (partitions : π → MtdPartition) (place : φ → π)
    (s : MtdFlash φ π) (v : π → PartStore φ) : Prop where
  bytes : ∀ i, (v i).file.bytes = chunk s.content (partitions i).firstByte (partitions i).byteSize
  used : ∀ i, s.userNum i = if (v i).user = none then 0 else 1
  opened : ∀ f, s.fPriv f = true ↔ (v (place f)).user = some f
  own : ∀ i f, (v i).user = some f → place f = i
  pos : ∀ f, (v (place f)).user = some f → (v (place f)).file.pos = (s.files f).pos
  stands : ∀ f, (v (place f)).user = some f → (s.files f).Stands modes (partitions (place f))

/-- The stores of a device on which nothing is open. -/
def stores (partitions : π → MtdPartition) (content : Bytes) (i : π) : PartStore φ :=
  ⟨⟨0,chunk content (partitions i).firstByte (partitions i).byteSize⟩,none⟩

theorem related_closed (content : Bytes) (files : φ → MtdFile) :
    Related modes partitions place (closed content files) (stores partitions content) := by
  have nobody (i : π) (f : φ) : (stores partitions content i).user ≠ some f :=
    (Option.some_ne_none f).symm
  exact ⟨fun _ => rfl,fun _ => rfl,fun f => iff_of_false Bool.false_ne_true (nobody _ f),
    fun i f here => absurd here (nobody i f),fun f here => absurd here (nobody _ f),
    fun f here => absurd here (nobody _ f)⟩

variable [DecidableEq φ] [DecidableEq π]

def Plain (modes : MtdFileModes) (partitions : π → MtdPartition) (place : φ → π)
    (call : φ × FileCall w) (v : π → PartStore φ) : Prop :=
  call.2.Plain modes (partitions (place call.1)) call.1 (v (place call.1))

section Step
variable {s : MtdFlash φ π} {v : π → PartStore φ} {f : φ}

theorem open_related (related : Related modes partitions place s v) (stale : UInt32)
    (plain : stale ≠ modes.oob) (free : (v (place f)).user = none) :
    Related modes partitions place
      {s with
        userNum := Function.update s.userNum (place f) 1
        files := Function.update s.files f {s.files f with pos := 0,mode := stale}
        fPriv := Function.update s.fPriv f true}
      (Function.update v (place f) ⟨{(v (place f)).file with pos := 0},some f⟩) := by
  refine ⟨fun i => ?_,fun i => ?_,fun g => ?_,fun i g mine => ?_,fun g mine => ?_,fun g mine => ?_⟩
  · by_cases here : i = place f
    · subst here
      rw [Function.update_self]
      exact related.bytes _
    · rw [Function.update_of_ne here]
      exact related.bytes i
  · dsimp only
    by_cases here : i = place f
    · subst here
      rw [Function.update_self,Function.update_self]
      simp
    · rw [Function.update_of_ne here,Function.update_of_ne here]
      exact related.used i
  · dsimp only
    by_cases same : g = f
    · subst same
      rw [Function.update_self,Function.update_self]
      exact iff_of_true rfl rfl
    · rw [Function.update_of_ne same,related.opened g]
      by_cases here : place g = place f
      · rw [here,Function.update_self,free]
        exact iff_of_false (fun none => nomatch none) fun mine =>
          same (Option.some.inj mine).symm
      · rw [Function.update_of_ne here]
  · by_cases here : i = place f
    · subst here
      rw [Function.update_self] at mine
      rw [Option.some.inj mine]
    · rw [Function.update_of_ne here] at mine
      exact related.own i g mine
  · dsimp only
    by_cases same : g = f
    · subst same
      rw [Function.update_self,Function.update_self]
    · have here : place g ≠ place f := by
        intro here
        rw [here,Function.update_self] at mine
        exact same (Option.some.inj mine).symm
      rw [Function.update_of_ne here] at mine ⊢
      rw [Function.update_of_ne same]
      exact related.pos g mine
  · dsimp only
    by_cases same : g = f
    · subst same
      rw [Function.update_self]
      exact ⟨plain,le_refl (0 : Int),Int.natCast_nonneg _⟩
    · have here : place g ≠ place f := by
        intro here
        rw [here,Function.update_self] at mine
        exact same (Option.some.inj mine).symm
      rw [Function.update_of_ne here] at mine
      rw [Function.update_of_ne same]
      exact related.stands g mine

theorem close_related (related : Related modes partitions place s v)
    (mine : (v (place f)).user = some f) :
    Related modes partitions place (s.mtdCharClose place f).2
      (Function.update v (place f) {v (place f) with user := none}) := by
  -- a file that is still open afterwards is on another partition
  have elsewhere (g : φ) (open_ : (Function.update v (place f)
      {v (place f) with user := none} (place g)).user = some g) :
      place g ≠ place f ∧ (v (place g)).user = some g := by
    by_cases here : place g = place f
    · rw [here,Function.update_self] at open_
      contradiction
    · rw [Function.update_of_ne here] at open_
      exact ⟨here,open_⟩
  refine ⟨fun i => ?_,fun i => ?_,fun g => ?_,fun i g open_ => ?_,fun g open_ => ?_,
    fun g open_ => ?_⟩
  · by_cases here : i = place f
    · subst here
      rw [Function.update_self]
      exact related.bytes _
    · rw [Function.update_of_ne here]
      exact related.bytes i
  · dsimp only [mtdCharClose]
    by_cases here : i = place f
    · subst here
      rw [Function.update_self,Function.update_self]
      rfl
    · rw [Function.update_of_ne here,Function.update_of_ne here]
      exact related.used i
  · dsimp only [mtdCharClose]
    by_cases here : place g = place f
    · rw [here,Function.update_self]
      refine iff_of_false ?_ fun none => nomatch none
      by_cases same : g = f
      · rw [same,Function.update_self]
        exact Bool.false_ne_true
      · rw [Function.update_of_ne same,related.opened g,here,mine]
        exact fun other => same (Option.some.inj other).symm
    · have other : g ≠ f := fun same => here (congrArg place same)
      rw [Function.update_of_ne other,Function.update_of_ne here]
      exact related.opened g
  · by_cases here : i = place f
    · rw [here,Function.update_self] at open_
      contradiction
    · rw [Function.update_of_ne here] at open_
      exact related.own i g open_
  · obtain ⟨here,before⟩ := elsewhere g open_
    rw [Function.update_of_ne here]
    exact related.pos g before
  · exact related.stands g (elsewhere g open_).2

theorem call_related (placed : ∀ i, (partitions i).Placed)
    (apart : ∀ i j, i ≠ j → (partitions i).Apart (partitions j))
    (related : Related modes partitions place s v) (call : StoreCall w)
    (mine : (v (place f)).user = some f)
    (plain : call.Plain modes (partitions (place f)) (v (place f)).file) :
    let done := (partitions (place f)).serve modes convention call (s.files f) s.content
    let meant := (v (place f)).file.serve modes convention call
    done.1 = meant.1 ∧ Related modes partitions place
      {s with content := done.2.2,files := Function.update s.files f done.2.1}
      (Function.update v (place f) {v (place f) with file := meant.2}) := by
  intro done meant
  have file : (partitions (place f)).partFile s.content (s.files f) = (v (place f)).file := by
    unfold MtdPartition.partFile
    rw [← related.pos f mine,← related.bytes]
  rw [← file] at plain
  have served := MtdPartition.serve_refines (placed (place f)) (related.stands f mine) convention
    s.content call plain
  have next : (partitions (place f)).partFile done.2.2 done.2.1 = meant.2 := by
    rw [served.file,file]
  have users (i : π) : (Function.update v (place f) {v (place f) with file := meant.2} i).user =
      (v i).user := by
    by_cases here : i = place f
    · rw [here,Function.update_self]
    · rw [Function.update_of_ne here]
  refine ⟨?_,fun i => ?_,fun i => ?_,fun g => ?_,fun i g => ?_,fun g open_ => ?_,fun g open_ => ?_⟩
  · rw [served.answer,file]
  · dsimp only
    by_cases here : i = place f
    · subst here
      rw [Function.update_self]
      exact congrArg PartFile.bytes next.symm
    · rw [Function.update_of_ne here,
        served.keeps.bytes (partitions i) (apart (place f) i (Ne.symm here))]
      exact related.bytes i
  · rw [users]
    exact related.used i
  · rw [users]
    exact related.opened g
  · rw [users]
    exact related.own i g
  · rw [users] at open_
    dsimp only
    by_cases same : g = f
    · rw [same,Function.update_self,Function.update_self]
      exact congrArg PartFile.pos next.symm
    · have here : place g ≠ place f := by
        intro here
        rw [here,mine] at open_
        exact same (Option.some.inj open_).symm
      rw [Function.update_of_ne same,Function.update_of_ne here]
      exact related.pos g open_
  · rw [users] at open_
    dsimp only
    by_cases same : g = f
    · rw [same,Function.update_self]
      exact served.stands
    · rw [Function.update_of_ne same]
      exact related.stands g open_

/-- A call on a file is one on its partition's store; the other partitions do not notice. -/
theorem step_refines (placed : ∀ i, (partitions i).Placed)
    (apart : ∀ i j, i ≠ j → (partitions i).Apart (partitions j)) (call : φ × FileCall w)
    (related : Related modes partitions place s v) (plain : Plain modes partitions place call v) :
    (step modes convention partitions place call s).1 =
        (PartStore.step modes convention place call v).1 ∧
      Related modes partitions place (step modes convention partitions place call s).2
        (PartStore.step modes convention place call v).2 := by
  obtain ⟨f,call⟩ := call
  have same : Function.update v (place f) (v (place f)) = v := Function.update_eq_self _ _
  have busy : s.userNum (place f) ≠ 0 ↔ (v (place f)).user ≠ none := by
    rw [related.used]
    split_ifs with free
    · exact iff_of_false (fun used => used rfl) fun user => user free
    · exact iff_of_true (by decide) free
  cases call with
  | mtdCharOpen valid given stale =>
    dsimp only [step,mtdCharOpen,PartStore.step,PartStore.serve]
    by_cases invalid : valid = false
    · rw [if_pos invalid,if_pos invalid,same]
      exact ⟨rfl,related⟩
    rw [if_neg invalid,if_neg invalid]
    by_cases user : (v (place f)).user ≠ none
    · rw [if_pos (busy.mpr user),if_pos user,same]
      exact ⟨rfl,related⟩
    rw [if_neg (user ∘ busy.mp),if_neg user]
    by_cases refused : given = false
    · rw [if_pos refused,if_pos refused,same]
      exact ⟨rfl,related⟩
    rw [if_neg refused,if_neg refused]
    exact ⟨rfl,open_related related stale plain (not_not.mp user)⟩
  | mtdCharClose => exact ⟨rfl,close_related related plain⟩
  | call c => exact call_related placed apart related c plain.1 plain.2

end Step

/-- Partitions apart from each other are as many stores, in every order of calls of any files. -/
theorem partitions_isolated (placed : ∀ i, (partitions i).Placed)
    (apart : ∀ i j, i ≠ j → (partitions i).Apart (partitions j)) (calls : List (φ × FileCall w))
    (content : Bytes) (files : φ → MtdFile)
    (plain : Machine.MeetsAll (PartStore.step modes convention place)
      (Plain modes partitions place) calls (stores partitions content)) :
    (Machine.run (step modes convention partitions place) calls (closed content files)).1 =
        (Machine.run (PartStore.step modes convention place) calls (stores partitions content)).1 ∧
      Related modes partitions place
        (Machine.run (step modes convention partitions place) calls (closed content files)).2
        (Machine.run (PartStore.step modes convention place) calls
          (stores partitions content)).2 := by
  obtain ⟨answers,last⟩ := Machine.run_simulates (step modes convention partitions place)
    (PartStore.step modes convention place) (Plain modes partitions place) id
    (Related modes partitions place)
    (fun call s v related plain => step_refines placed apart call related plain) calls
    (closed content files) _ (related_closed content files) plain
  rw [List.map_id] at answers
  exact ⟨answers,last⟩

open MtdPartition (nand secondBlock)

theorem zero_ordered : (0 : UInt32).toNat ≤ (0 : UInt32).toNat := Nat.le_refl _

/-- The first two blocks. -/
def twoBlocks (second : Bool) : MtdPartition :=
  if second then secondBlock else ⟨0,0,nand,zero_ordered⟩

/-- Three files, of which the last two are on the second block. -/
def onBlocks (f : Fin 3) : Bool := decide (f ≠ 0)

/-- Two files are written from the start, a third is refused until its partition is closed, and reads
what the other wrote there. -/
def writeBoth : List (Fin 3 × FileCall 32) :=
  [(0,.mtdCharOpen true true 0),(1,.mtdCharOpen true true 0),
    (0,.call (.write .done erased (some fun _ => 1) 2048)),
    (1,.call (.write .done erased (some fun _ => 2) 2048)),
    (2,.mtdCharOpen true true 0),(1,.mtdCharClose),(2,.mtdCharOpen true true 0),
    (2,.call (.read .done true 2048))]

theorem partitions_isolated_two :
    (Machine.run (step ⟨1,4⟩ .status twoBlocks onBlocks) writeBoth
        (closed erased fun _ => .unopened)).1 =
      (Machine.run (PartStore.step ⟨1,4⟩ .status onBlocks) writeBoth
        (stores twoBlocks erased)).1 := by
  have placed : ∀ i, (twoBlocks i).Placed := by
    intro i
    cases i <;> simp [twoBlocks,secondBlock,nand,MtdPartition.Placed,MtdPartition.firstByte,
      MtdPartition.byteSize]
  have apart : ∀ i j, i ≠ j → (twoBlocks i).Apart (twoBlocks j) := by
    intro i j different
    cases i <;> cases j
    · exact absurd rfl different
    · exact .inl (by decide)
    · exact .inr (by decide)
    · exact absurd rfl different
  have plain : (0 : UInt32) ≠ 1 := by decide
  have met : Machine.MeetsAll (PartStore.step ⟨1,4⟩ .status onBlocks)
      (Plain ⟨1,4⟩ twoBlocks onBlocks) writeBoth (stores twoBlocks erased) :=
    ⟨plain,plain,⟨rfl,trivial⟩,⟨rfl,trivial⟩,plain,rfl,plain,⟨rfl,trivial⟩,trivial⟩
  exact (partitions_isolated placed apart writeBoth erased (fun _ => .unopened) met).1

end MtdFlash

end DriversAdapter.Storage
