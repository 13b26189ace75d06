import DriversAdapter.Storage.MtdChar

/-! What the value that a read or a write of the character device returns tells its caller, whether
the device answers a success with a status or with a number of bytes. -/
namespace DriversAdapter.Storage
open DriversAdapter.Base DriversAdapter.Semantics

inductive SuccessConvention
  | status
  | byteCount
  deriving DecidableEq

/-- How the one call ends that a transfer makes of the device. -/
inductive MtdOutcome
  | done
  | failed (error : Int32) (negative : error.toInt < 0)

namespace MtdOutcome

def answer (convention : SuccessConvention) (len : UInt32) : MtdOutcome → Int
  | .done => match convention with
    | .status => hdfSuccess
    | .byteCount => len.toInt32.toInt
  | .failed error _ => error.toInt

def answers (convention : SuccessConvention) (outcome : MtdOutcome) : MtdAnswers :=
  let call := fun (_ : Int64) len => outcome.answer convention len
  ⟨call,call,call,call⟩

end MtdOutcome

namespace MtdPartition
variable (modes : MtdFileModes) (partition : MtdPartition)

/-- The request gets as far as the device. -/
def Reaches (buffer : Bool) (buflen : UInt32) (filep : MtdFile) : Prop :=
  buffer = true ∧ ¬ partition.Refuses modes buflen filep ∧ buflen ≠ 0

instance (buffer : Bool) (buflen : UInt32) (filep : MtdFile) :
    Decidable (partition.Reaches modes buffer buflen filep) :=
  inferInstanceAs (Decidable (_ ∧ _))

/-- The bytes that go to the device or come from it. -/
def transferred (outcome : MtdOutcome) (buffer : Bool) (buflen : UInt32) (filep : MtdFile) : Nat :=
  match outcome with
  | .done => if partition.Reaches modes buffer buflen filep then buflen.toNat else 0
  | .failed _ _ => 0

/-- What a caller may take from the value returned. -/
structure Tells (bytes : Nat) (buflen : UInt32) (filep : MtdFile) (done : Int × MtdFile) : Prop where
  positive : 0 < done.1 → (bytes : Int) = done.1 ∧ filep.pos.toInt < done.2.pos.toInt ∧
    done.2.pos = filep.pos + toOffT (partition.advance (filep.mode == modes.oob) buflen)
  zero : done.1 = 0 → bytes = 0 ∧ done.2.pos = filep.pos
  negative : done.1 < 0 → done.2.pos = filep.pos

section Tells
variable {modes partition} {convention : SuccessConvention} {outcome : MtdOutcome}
variable {buffer : Bool} {buflen : UInt32} {filep : MtdFile}

theorem transfer_unreached (oobCall plainCall : Int64 → UInt32 → Int)
    (unreached : ¬ partition.Reaches modes buffer buflen filep) :
    let done := partition.transfer modes oobCall plainCall buffer buflen filep
    (done.1 = -einval ∨ done.1 = hdfSuccess) ∧ done.2 = filep := by
  dsimp only [transfer]
  split
  · exact ⟨.inl rfl,rfl⟩
  next given =>
    split
    · exact ⟨.inl rfl,rfl⟩
    next allowed =>
      split
      · exact ⟨.inr rfl,rfl⟩
      next some_byte => exact absurd ⟨Bool.eq_true_of_not_eq_false given,allowed,some_byte⟩ unreached

/-- What is not a success is passed on, and nothing else is done. -/
theorem transfer_answered (reaches : partition.Reaches modes buffer buflen filep)
    (call : Int64 → UInt32 → Int) (answer : Int) (answers : ∀ addr, call addr buflen = answer)
    (failed : answer ≠ hdfSuccess) :
    partition.transfer modes call call buffer buflen filep = (answer,filep) := by
  obtain ⟨given,allowed,some_byte⟩ := reaches
  unfold transfer
  rw [given,if_neg (by simp),if_neg allowed,if_neg some_byte]
  simp [answers,failed]

theorem tells_unmoved (done : Int × MtdFile) (same : done.2 = filep) (nonpositive : done.1 ≤ 0) :
    partition.Tells modes 0 buflen filep done := by
  refine ⟨fun positive => ?_,fun _ => ?_,fun _ => ?_⟩
  · omega
  · exact ⟨rfl,by rw [same]⟩
  · rw [same]

theorem reaches_pos (reaches : partition.Reaches modes buffer buflen filep) :
    0 < buflen.toNat := by
  refine Nat.pos_of_ne_zero fun zero => reaches.2.2 ?_
  exact UInt32.toNat_inj.mp zero

/-- A status says of a request that was served that there was nothing to it. -/
theorem status_not_tells (reaches : partition.Reaches modes buffer buflen filep) :
    let call := fun (_ : Int64) len => MtdOutcome.done.answer .status len
    ¬ partition.Tells modes buflen.toNat buflen filep
      (partition.transfer modes call call buffer buflen filep) := by
  have served : hdfSuccess = MtdOutcome.done.answer .status buflen := rfl
  intro call tells
  rw [transfer_served ⟨reaches.1,reaches.2.1,reaches.2.2,by simp [call,← served]⟩] at tells
  have nothing := (tells.zero rfl).1
  exact absurd nothing (Nat.ne_of_gt (reaches_pos reaches))

/-- A count of bytes is taken for an error, which it looks like only with a sign. -/
theorem byteCount_tells_iff (reaches : partition.Reaches modes buffer buflen filep) :
    let call := fun (_ : Int64) len => MtdOutcome.done.answer .byteCount len
    partition.Tells modes buflen.toNat buflen filep
        (partition.transfer modes call call buffer buflen filep) ↔ 2^31 ≤ buflen.toNat := by
  have some_byte := reaches_pos reaches
  have counted := toInt32_cases buflen
  have failed : buflen.toInt32.toInt ≠ hdfSuccess := by
    unfold hdfSuccess
    omega
  intro call
  rw [transfer_answered reaches call buflen.toInt32.toInt (fun _ => rfl) failed]
  rcases counted with ⟨count,small⟩ | ⟨negative,large⟩
  · refine iff_of_false (fun tells => ?_) (by omega)
    have positive : 0 < buflen.toInt32.toInt := by omega
    have moved : filep.pos.toInt < filep.pos.toInt := (tells.positive positive).2.1
    exact absurd moved (Int.lt_irrefl _)
  · refine iff_of_true ⟨fun positive => ?_,fun zero => ?_,fun _ => rfl⟩ large
    · exact absurd negative (Int.not_lt.mpr (Int.le_of_lt positive))
    · exact absurd zero (Int.ne_of_lt negative)

theorem transfer_tells_iff (convention : SuccessConvention) (outcome : MtdOutcome)
    (buffer : Bool) (buflen : UInt32) (filep : MtdFile) :
    let call := fun (_ : Int64) len => outcome.answer convention len
    partition.Tells modes (partition.transferred modes outcome buffer buflen filep) buflen filep
        (partition.transfer modes call call buffer buflen filep) ↔
      (partition.Reaches modes buffer buflen filep → outcome = .done →
        convention = .byteCount ∧ 2^31 ≤ buflen.toNat) := by
  dsimp only
  by_cases reaches : partition.Reaches modes buffer buflen filep
  · simp only [reaches,forall_const]
    cases outcome with
    | failed error negative =>
      have failed : error.toInt ≠ hdfSuccess := by
        unfold hdfSuccess
        omega
      rw [transfer_answered reaches _ error.toInt (fun _ => rfl) failed]
      exact iff_of_true (tells_unmoved _ rfl (Int.le_of_lt negative)) nofun
    | done =>
      simp only [transferred,reaches,if_true,forall_const]
      cases convention with
      | status => exact iff_of_false (status_not_tells reaches) (by simp)
      | byteCount => simpa using byteCount_tells_iff reaches
  · obtain ⟨status,same⟩ := transfer_unreached (fun _ len => outcome.answer convention len)
      (fun _ len => outcome.answer convention len) reaches
    have nothing : partition.transferred modes outcome buffer buflen filep = 0 := by
      cases outcome with
      | done => exact if_neg reaches
      | failed error negative => rfl
    rw [nothing]
    refine iff_of_true (tells_unmoved _ same ?_) fun reached => absurd reached reaches
    rcases status with refused | empty
    · rw [refused]
      decide
    · rw [empty]
      decide

end Tells

/-- What a read and a write return tells the caller what happened exactly where the device is not
reached, or fails, or its count has no positive sign. -/
theorem mtdChar_tells_iff (modes : MtdFileModes) (partition : MtdPartition)
    (convention : SuccessConvention) (outcome : MtdOutcome) (buffer : Bool) (buflen : UInt32)
    (filep : MtdFile) :
    let answers := outcome.answers convention
    let bytes := partition.transferred modes outcome buffer buflen filep
    let told := partition.Reaches modes buffer buflen filep → outcome = .done →
      convention = .byteCount ∧ 2^31 ≤ buflen.toNat
    (partition.Tells modes bytes buflen filep
        (partition.mtdCharRead modes answers buffer buflen filep) ↔ told) ∧
      (partition.Tells modes bytes buflen filep
        (partition.mtdCharWrite modes answers buffer buflen filep) ↔ told) :=
  ⟨transfer_tells_iff convention outcome buffer buflen filep,
    transfer_tells_iff convention outcome buffer buflen filep⟩

private def block : MtdPartition where
  startBlock := 0
  endBlock := 1
  mtdDevice := ⟨4096,1024,10,32,by decide,by decide⟩
  ordered := by decide

/-- A read of half a page from the start of the partition: a status says that nothing was read, and a
count does not move the position. -/
theorem mtdChar_not_tells :
    let filep : MtdFile := ⟨0,0,[]⟩
    let read := fun convention =>
      block.mtdCharRead ⟨3,4⟩ (MtdOutcome.done.answers convention) true 512 filep
    let bytes := block.transferred ⟨3,4⟩ .done true 512 filep
    bytes = 512 ∧ (read .status).1 = 0 ∧ (read .status).2.pos = 512 ∧
      (read .byteCount).1 = 512 ∧ (read .byteCount).2.pos = 0 ∧
      ¬ block.Tells ⟨3,4⟩ bytes 512 filep (read .status) ∧
      ¬ block.Tells ⟨3,4⟩ bytes 512 filep (read .byteCount) := by
  refine ⟨rfl,rfl,rfl,rfl,rfl,fun tells => ?_,fun tells => ?_⟩
  · have nothing := (tells.zero rfl).1
    contradiction
  · have moved := (tells.positive (by decide)).2.1
    contradiction

end MtdPartition

end DriversAdapter.Storage
