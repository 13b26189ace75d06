import DriversAdapter.Storage.MtdChar
import Mathlib.Data.Nat.ModEq

/-! The pages that the reads and writes of a partition touch, and how far they move the file. -/
namespace DriversAdapter.Storage
open DriversAdapter.Base DriversAdapter.Semantics

/-- A transfer with OOB has so many bytes for every page. -/
def MtdDevice.pages (mtdDevice : MtdDevice) (len : UInt32) : Nat :=
  len.toNat / (mtdDevice.writeSize.toNat + mtdDevice.oobSize.toNat)

namespace MtdPartition
variable (modes : MtdFileModes) (partition : MtdPartition)

/-- The pages that the device handles in a call: so many from the address on, or those that
have one of the bytes. -/
def Touches (access : MtdAccess) (page : Nat) : Prop :=
  if access.withOob then
    access.addr.toInt.toNat / partition.mtdDevice.writeSize.toNat ≤ page ∧
      page < access.addr.toInt.toNat / partition.mtdDevice.writeSize.toNat +
        partition.mtdDevice.pages access.len
  else Pages.Meets partition.mtdDevice.writeSize.toNat access.addr.toInt.toNat access.len.toNat page

def Inside (access : MtdAccess) : Prop := ∀ page, partition.Touches access page →
  Pages.Within partition.mtdDevice.writeSize.toNat partition.firstByte partition.byteSize page

/-- The partition begins below 4 GiB, and with OOB the pages from the position on are left. -/
def PagesFit (buflen : UInt32) (filep : MtdFile) : Prop :=
  if filep.mode == modes.oob then partition.mtdDevice.pages buflen = 0 ∨
    (partition.firstByte < 2^32 ∧
      filep.pos.toInt.toNat / partition.mtdDevice.writeSize.toNat +
        partition.mtdDevice.pages buflen ≤
          partition.byteSize / partition.mtdDevice.writeSize.toNat)
  else partition.firstByte < 2^32

section Inside
variable {modes partition} {buflen : UInt32} {filep : MtdFile}
variable (allowed : ¬ partition.Refuses modes buflen filep)

include allowed in
theorem addr_toInt : (toOffT partition.partStart + filep.pos).toInt.toNat =
    partition.firstByte % 2^32 + filep.pos.toInt.toNat := by
  obtain ⟨low,high⟩ := pos_of_not_refuses allowed
  have start := partition.partStart.toNat_lt
  have size := partition.partSize.toNat_lt
  rw [Int64.add_comm,toInt_add_toOffT _ _ (by omega),partStart_toNat]
  omega

include allowed in
/-- The address is the one meant exactly for a partition that begins below 4 GiB. -/
theorem firstByte_le_addr_iff :
    partition.firstByte ≤ (toOffT partition.partStart + filep.pos).toInt.toNat ↔
      partition.firstByte < 2^32 := by
  obtain ⟨low,high⟩ := pos_of_not_refuses allowed
  have size := partition.partSize.toNat_lt
  rw [addr_toInt allowed]
  omega

theorem firstByte_whole : partition.mtdDevice.writeSize.toNat ∣ partition.firstByte :=
  partition.mtdDevice.whole.mul_left _

theorem byteSize_whole : partition.mtdDevice.writeSize.toNat ∣ partition.byteSize :=
  partition.mtdDevice.whole.mul_left _

include allowed in
theorem inside_oob_iff (oob : filep.mode = modes.oob) :
    partition.Inside ⟨filep.mode == modes.oob,toOffT partition.partStart + filep.pos,buflen⟩ ↔
      partition.PagesFit modes buflen filep := by
  have same : (filep.mode == modes.oob) = true := beq_iff_eq.mpr oob
  unfold Inside Touches PagesFit
  simp only [same,if_true,and_imp]
  rw [Pages.run_within_iff partition.writeSize_pos firstByte_whole byteSize_whole,
    firstByte_le_addr_iff allowed]
  apply or_congr_right
  apply and_congr_right
  intro near
  rw [addr_toInt allowed,Nat.mod_eq_of_lt near,Nat.add_div_of_dvd_right firstByte_whole]
  omega

include allowed in
theorem inside_plain_iff (plain : filep.mode ≠ modes.oob) (some_byte : buflen ≠ 0) :
    partition.Inside ⟨filep.mode == modes.oob,toOffT partition.partStart + filep.pos,buflen⟩ ↔
      partition.PagesFit modes buflen filep := by
  have other : (filep.mode == modes.oob) = false := beq_eq_false_iff_ne.mpr plain
  have some_len : buflen.toNat ≠ 0 := fun none => some_byte (UInt32.toNat_inj.mp none)
  have fits := end_of_not_refuses allowed plain
  have low := (pos_of_not_refuses allowed).1
  have size := partition.partSize_toNat
  unfold Inside Touches PagesFit
  simp only [other,Bool.false_eq_true,if_false]
  rw [Pages.bytes_within_iff partition.writeSize_pos firstByte_whole byteSize_whole,
    firstByte_le_addr_iff allowed,addr_toInt allowed]
  constructor
  · rintro (none | ⟨near,_⟩)
    · exact absurd none some_len
    · exact near
  · intro near
    exact .inr ⟨near,by omega⟩

include allowed in
theorem inside_iff (some_byte : buflen ≠ 0) :
    partition.Inside ⟨filep.mode == modes.oob,toOffT partition.partStart + filep.pos,buflen⟩ ↔
      partition.PagesFit modes buflen filep := by
  by_cases oob : filep.mode = modes.oob
  · exact inside_oob_iff allowed oob
  · exact inside_plain_iff allowed oob some_byte

end Inside

def ServedFits (oobCall plainCall : Int64 → UInt32 → Int) (buffer : Bool) (buflen : UInt32)
    (filep : MtdFile) : Prop :=
  partition.Served modes oobCall plainCall buffer buflen filep → partition.PagesFit modes buflen filep

def InBounds (call : MtdCall) (filep : MtdFile) : Prop :=
  match call with
  | .read answers buffer buflen =>
    partition.ServedFits modes answers.readWithOob answers.read buffer buflen filep
  | .write answers buffer buflen =>
    partition.ServedFits modes answers.writeWithOob answers.write buffer buflen filep
  | .opened _ | .lseek _ _ | .setFileMode _ => True

section Step
variable {modes partition} {filep : MtdFile}
variable (inside : ∀ access ∈ filep.accesses, partition.Inside access)

include inside in
theorem transfer_inside_iff (oobCall plainCall : Int64 → UInt32 → Int) (buffer : Bool)
    (buflen : UInt32) :
    (∀ access ∈ (partition.transfer modes oobCall plainCall buffer buflen filep).2.accesses,
        partition.Inside access) ↔
      partition.ServedFits modes oobCall plainCall buffer buflen filep := by
  by_cases served : partition.Served modes oobCall plainCall buffer buflen filep
  · obtain ⟨_,allowed,some_byte,_⟩ := id served
    have fits := inside_iff allowed some_byte
    rw [transfer_served served]
    constructor
    · intro all _
      exact fits.mp (all _ (List.mem_append_right _ List.mem_cons_self))
    · intro enough access member
      rcases List.mem_append.mp member with old | new
      · exact inside access old
      · rw [List.mem_singleton.mp new]
        exact fits.mpr (enough served)
  · rw [(transfer_unserved served).1]
    exact ⟨fun _ now => absurd now served,fun _ => inside⟩

theorem mtdCharLseek_accesses (offset : Int64) (whence : Whence) :
    (partition.mtdCharLseek offset whence filep).2.accesses = filep.accesses := by
  cases whence with
  | seekSet =>
    simp only [mtdCharLseek]
    split_ifs <;> rfl
  | seekCur =>
    simp only [mtdCharLseek]
    split_ifs <;> rfl
  | seekEnd =>
    simp only [mtdCharLseek]
    split_ifs <;> rfl
  | other whence => rfl

include inside in
theorem step_inside_iff (call : MtdCall) :
    (∀ access ∈ (partition.step modes call filep).2.accesses, partition.Inside access) ↔
      partition.InBounds modes call filep := by
  cases call with
  | opened stale => exact ⟨fun _ => trivial,fun _ => inside⟩
  | read answers buffer buflen => exact transfer_inside_iff inside _ _ buffer buflen
  | write answers buffer buflen => exact transfer_inside_iff inside _ _ buffer buflen
  | lseek offset whence =>
    refine ⟨fun _ => trivial,fun _ => ?_⟩
    have same : (partition.mtdCharLseek offset whence filep).2.accesses = _ :=
      mtdCharLseek_accesses offset whence
    simp only [step,same]
    exact inside
  | setFileMode arg =>
    refine ⟨fun _ => trivial,fun _ => ?_⟩
    simp only [step,mtdCharSetFileMode]
    split_ifs <;> exact inside

end Step

/-- In a run whose transfers are in bounds every page touched lies in the partition; one more call
keeps it so exactly when it is in bounds as well. -/
theorem touched_inside_iff (filep : MtdFile)
    (reached : Machine.Reach (partition.step modes) (partition.InBounds modes) .unopened filep) :
    (∀ access ∈ filep.accesses, partition.Inside access) ∧
      ∀ call, (∀ access ∈ (partition.step modes call filep).2.accesses, partition.Inside access) ↔
        partition.InBounds modes call filep := by
  have inside : ∀ access ∈ filep.accesses, partition.Inside access := by
    apply Machine.reach_invariant _ _ _ (fun filep => ∀ access ∈ filep.accesses,
      partition.Inside access) _ _ filep reached
    · intro access member
      cases member
    · exact fun call s before met => (step_inside_iff before call).mpr met
  exact ⟨inside,fun call => step_inside_iff inside call⟩

/-- Blocks of 64 pages of 2048 bytes, with 64 bytes of OOB for each page. -/
def nand : MtdDevice := ⟨131072,2048,11,64,by decide,by decide⟩

/-- The block of that device behind the first one. -/
def secondBlock : MtdPartition := ⟨1,1,nand,by decide⟩

def granting : MtdAnswers :=
  ⟨fun _ _ => hdfSuccess,fun _ _ => hdfSuccess,fun _ _ => hdfSuccess,fun _ _ => hdfSuccess⟩

/-- The last two pages are read with their OOB, and further OOB bytes that make no page. -/
private def lastPages : List MtdCall :=
  [.opened 1,.lseek 126976 .seekSet,.read granting true 4224,.read granting true 64]

theorem touched_inside_lastPages :
    (Machine.run (secondBlock.step ⟨1,4⟩) lastPages .unopened).2.accesses =
        [⟨true,258048,4224⟩,⟨true,262144,64⟩] ∧
      ∀ access ∈ (Machine.run (secondBlock.step ⟨1,4⟩) lastPages .unopened).2.accesses,
        secondBlock.Inside access := by
  refine ⟨by decide,(touched_inside_iff ⟨1,4⟩ secondBlock _
    (Machine.reach_run _ _ _ lastPages _ .start ⟨trivial,trivial,fun _ => ?_,fun _ => ?_,
      trivial⟩)).1⟩
  · exact .inr ⟨by decide,by decide⟩
  · exact .inl (by decide)

/-- Two pages with their OOB are read from the last page on. -/
private def pastTheEnd : List MtdCall :=
  [.opened 1,.lseek 129024 .seekSet,.read granting true 4224]

theorem touched_outside_end :
    ¬ ∀ filep, Machine.Reach (secondBlock.step ⟨1,4⟩) (fun _ _ => True) .unopened filep →
      ∀ access ∈ filep.accesses, secondBlock.Inside access := by
  intro all
  have inside := all _ (Machine.reach_run _ (fun _ _ => True) _ pastTheEnd _ .start
    ⟨trivial,trivial,trivial,trivial⟩) ⟨true,260096,4224⟩ (by decide)
  have beyond := inside 128 ⟨by decide,by decide⟩
  exact absurd beyond.2 (by decide)

/-! The position. -/

/-- After whole pages with OOB the position is as many pages on, and otherwise so many bytes. -/
def Advances (buflen : UInt32) (before after : MtdFile) : Prop :=
  (before.mode = modes.oob → ∀ n, buflen.toNat =
      n * (partition.mtdDevice.writeSize.toNat + partition.mtdDevice.oobSize.toNat) →
    after.pos.toInt = before.pos.toInt + (n * partition.mtdDevice.writeSize.toNat : Nat)) ∧
  (before.mode ≠ modes.oob → after.pos.toInt = before.pos.toInt + buflen.toNat)

/-- The OOB bytes of the pages do not make a page themselves, or what is then taken off once more
vanishes in 32 bits. -/
def OobWithinPage (buflen : UInt32) (filep : MtdFile) : Prop :=
  filep.mode = modes.oob → ∀ n, buflen.toNat =
      n * (partition.mtdDevice.writeSize.toNat + partition.mtdDevice.oobSize.toNat) →
    n * partition.mtdDevice.oobSize.toNat < partition.mtdDevice.writeSize.toNat ∨
      (n * partition.mtdDevice.oobSize.toNat / partition.mtdDevice.writeSize.toNat *
        partition.mtdDevice.oobSize.toNat) % 2^32 = 0

section Advance
variable {modes partition} {buflen : UInt32} {filep : MtdFile}

theorem moved_toInt (allowed : ¬ partition.Refuses modes buflen filep) (distance : UInt32) :
    (filep.pos + toOffT distance).toInt = filep.pos.toInt + distance.toNat := by
  obtain ⟨low,high⟩ := pos_of_not_refuses allowed
  have size := partition.partSize.toNat_lt
  have bound := distance.toNat_lt
  exact toInt_add_toOffT _ _ (by omega)

/-- The shift also counts the pages that the OOB bytes make, and takes their OOB off. -/
theorem advance_oob_iff (n : Nat) (whole : buflen.toNat =
      n * (partition.mtdDevice.writeSize.toNat + partition.mtdDevice.oobSize.toNat)) :
    (partition.advance true buflen).toNat = n * partition.mtdDevice.writeSize.toNat ↔
      (n * partition.mtdDevice.oobSize.toNat / partition.mtdDevice.writeSize.toNat *
        partition.mtdDevice.oobSize.toNat) % 2^32 = 0 := by
  have bound := buflen.toNat_lt
  have shifted : buflen.toNat / partition.mtdDevice.writeSize.toNat =
      n + n * partition.mtdDevice.oobSize.toNat / partition.mtdDevice.writeSize.toNat := by
    rw [whole,Nat.mul_add,Nat.add_comm,Nat.add_mul_div_right _ _ partition.writeSize_pos,Nat.add_comm]
  unfold advance
  rw [if_pos rfl,UInt32.toNat_sub,UInt32.toNat_mul,shift_writeSize,shifted,Nat.add_mul]
  rw [whole,Nat.mul_add] at bound ⊢
  omega

theorem oobWithinPage_iff (n : Nat) :
    (n * partition.mtdDevice.oobSize.toNat < partition.mtdDevice.writeSize.toNat ∨
      (n * partition.mtdDevice.oobSize.toNat / partition.mtdDevice.writeSize.toNat *
        partition.mtdDevice.oobSize.toNat) % 2^32 = 0) ↔
      (n * partition.mtdDevice.oobSize.toNat / partition.mtdDevice.writeSize.toNat *
        partition.mtdDevice.oobSize.toNat) % 2^32 = 0 := by
  apply or_iff_right_of_imp
  intro small
  rw [Nat.div_eq_of_lt small,Nat.zero_mul,Nat.zero_mod]

theorem advances_of_moved (allowed : ¬ partition.Refuses modes buflen filep) (after : MtdFile)
    (moved : after.pos = filep.pos + toOffT (partition.advance (filep.mode == modes.oob) buflen)) :
    partition.Advances modes buflen filep after ↔ partition.OobWithinPage modes buflen filep := by
  have distance := moved_toInt allowed (partition.advance (filep.mode == modes.oob) buflen)
  rw [← moved] at distance
  unfold Advances OobWithinPage
  by_cases oob : filep.mode = modes.oob
  · rw [beq_iff_eq.mpr oob] at distance
    simp only [oob,true_implies,ne_eq,not_true_eq_false,false_implies,and_true,distance]
    apply forall_congr'
    intro n
    apply imp_congr_right
    intro whole
    rw [oobWithinPage_iff,← advance_oob_iff n whole]
    omega
  · rw [beq_eq_false_iff_ne.mpr oob] at distance
    simp only [oob,false_implies,true_and,ne_eq,not_false_eq_true,true_implies,iff_true]
    exact distance

theorem transfer_advances_iff (oobCall plainCall : Int64 → UInt32 → Int) (buffer : Bool)
    (succeeded : (partition.transfer modes oobCall plainCall buffer buflen filep).1 = hdfSuccess) :
    partition.Advances modes buflen filep
        (partition.transfer modes oobCall plainCall buffer buflen filep).2 ↔
      partition.OobWithinPage modes buflen filep := by
  by_cases served : partition.Served modes oobCall plainCall buffer buflen filep
  · rw [transfer_served served]
    exact advances_of_moved served.2.1 _ rfl
  · obtain ⟨same,nothing⟩ := transfer_unserved served
    have some_page := partition.writeSize_pos
    have none : ∀ n, (0 : UInt32).toNat =
        n * (partition.mtdDevice.writeSize.toNat + partition.mtdDevice.oobSize.toNat) → n = 0 := by
      intro n whole
      rcases Nat.mul_eq_zero.mp whole.symm with zero | zero
      · exact zero
      · omega
    rw [same,nothing succeeded]
    constructor
    · intro _ _ n whole
      rw [none n whole,Nat.zero_mul]
      exact .inl some_page
    · intro _
      refine ⟨fun _ n whole => ?_,fun _ => by simp⟩
      rw [none n whole,Nat.zero_mul]
      omega

end Advance

/-- A successful read or write leaves the position where it should exactly when the OOB bytes do
not fill a page. -/
theorem position_advances_iff (answers : MtdAnswers) (buffer : Bool) (buflen : UInt32)
    (filep : MtdFile) :
    ((partition.mtdCharRead modes answers buffer buflen filep).1 = hdfSuccess →
      (partition.Advances modes buflen filep
          (partition.mtdCharRead modes answers buffer buflen filep).2 ↔
        partition.OobWithinPage modes buflen filep)) ∧
    ((partition.mtdCharWrite modes answers buffer buflen filep).1 = hdfSuccess →
      (partition.Advances modes buflen filep
          (partition.mtdCharWrite modes answers buffer buflen filep).2 ↔
        partition.OobWithinPage modes buflen filep)) :=
  ⟨transfer_advances_iff answers.readWithOob answers.read buffer,
    transfer_advances_iff answers.writeWithOob answers.write buffer⟩

theorem position_advances_firstPage :
    secondBlock.Advances ⟨1,4⟩ 2112 ⟨0,1,[]⟩
      (secondBlock.mtdCharRead ⟨1,4⟩ granting true 2112 ⟨0,1,[]⟩).2 := by
  rw [(position_advances_iff ⟨1,4⟩ secondBlock granting true 2112 ⟨0,1,[]⟩).1 (by decide)]
  intro _ n whole
  have one : n * 2112 = 2112 := whole.symm
  obtain rfl : n = 1 := by omega
  exact .inl (by decide)

/-- Thirty-two pages, whose OOB bytes are one page more, leave the file 64 bytes short. -/
theorem position_short_of_pages :
    (secondBlock.mtdCharRead ⟨1,4⟩ granting true 67584 ⟨0,1,[]⟩).1 = hdfSuccess ∧
      (secondBlock.mtdCharRead ⟨1,4⟩ granting true 67584 ⟨0,1,[]⟩).2.pos = 65472 ∧
      ¬ secondBlock.Advances ⟨1,4⟩ 67584 ⟨0,1,[]⟩
        (secondBlock.mtdCharRead ⟨1,4⟩ granting true 67584 ⟨0,1,[]⟩).2 := by
  refine ⟨by decide,by decide,fun advances => ?_⟩
  have pages := advances.1 rfl 32 (by decide)
  exact absurd pages (by decide)

end MtdPartition
end DriversAdapter.Storage
