import DriversAdapter.Storage.MtdTransfer

/-! Seeking in a partition: offsets of 64 bits with a sign against sizes of 32 bits without. -/
namespace DriversAdapter.Storage
open DriversAdapter.Base DriversAdapter.Semantics

def Whence.base (size : Nat) (pos : Int64) : Whence → Option Int
  | .seekSet => some 0
  | .seekCur => some pos.toInt
  | .seekEnd => some size
  | .other _ => none

namespace MtdPartition
variable (modes : MtdFileModes) (partition : MtdPartition)

/-- A success leads to the exact position inside the partition, an error leaves the position. -/
structure SeekExact (offset : Int64) (whence : Whence) (filep : MtdFile)
    (done : Int64 × MtdFile) : Prop where
  answer : 0 ≤ done.1.toInt → done.1 = done.2.pos
  inside : 0 ≤ done.1.toInt → done.2.pos.toInt < partition.byteSize
  exactly : 0 ≤ done.1.toInt → ∃ base, whence.base partition.byteSize filep.pos = some base ∧
    done.2.pos.toInt = base + offset.toInt
  unmoved : done.1.toInt < 0 → done.2 = filep

/-- An offset or a position that the checks let through fits 32 bits, and so does the size that an
offset from the end counts from. -/
def SeekFits (offset : Int64) (whence : Whence) (filep : MtdFile) : Prop :=
  match whence with
  | .seekSet => partition.setAllowed offset → offset.toInt < 2^32
  | .seekCur => partition.curAllowed offset filep → filep.pos.toInt + offset.toInt < 2^32 ∨
      (filep.pos.toInt + offset.toInt < partition.byteSize ∧
        filep.pos.toInt + offset.toInt < 2^63)
  | .seekEnd => partition.endAllowed offset → partition.byteSize < 2^32
  | .other _ => True

section Seek
variable {partition} {offset : Int64} {filep : MtdFile}

theorem lt_size_iff (x : Int64) : toSizeT x < partition.endAddr - partition.partStart ↔
    x.toInt % 2^32 < partition.byteSize % 2^32 := by
  have size := partition.endAddr_sub_partStart_toNat
  have low := toSizeT_toNat x
  rw [UInt32.lt_iff_toNat_lt,size]
  omega

theorem setAllowed_iff : partition.setAllowed offset ↔
    0 ≤ offset.toInt ∧ offset.toInt % 2^32 < partition.byteSize % 2^32 := by
  unfold setAllowed
  rw [lt_size_iff,Int64.le_iff_toInt_le,Int64.toInt_zero]

theorem curAllowed_iff : partition.curAllowed offset filep ↔
    0 ≤ offset.toInt + filep.pos.toInt % 2^32 ∧ offset.toInt + filep.pos.toInt % 2^32 < 2^63 ∧
      (filep.pos.toInt + offset.toInt) % 2^32 < partition.byteSize % 2^32 := by
  have low := toSizeT_toNat filep.pos
  have least := offset.le_toInt
  have most := offset.toInt_lt
  unfold curAllowed
  rw [lt_size_iff,Int64.le_iff_toInt_le,Int64.toInt_zero,Int64.toInt_add,Int64.toInt_add,
    toOffT_toInt,low]
  rcases bmod_cases (offset.toInt + filep.pos.toInt % 2^32) with ⟨first,_⟩ | ⟨first,_⟩
  all_goals
    rw [first]
    rcases bmod_cases (offset.toInt + filep.pos.toInt) with ⟨second,_⟩ | ⟨second,_⟩
    all_goals
      rw [second]
      omega

theorem endAllowed_iff : partition.endAllowed offset ↔
    offset.toInt < 0 ∧ partition.partStart.toNat ≤ offset.toInt + partition.endAddr.toNat := by
  have least := offset.le_toInt
  have bound := partition.endAddr.toNat_lt
  unfold endAllowed
  rw [Int64.lt_iff_toInt_lt,Int64.le_iff_toInt_le,Int64.toInt_zero,toOffT_toInt]
  apply and_congr_right
  intro back
  rw [toInt_add_toOffT _ _ (by omega)]

theorem err1_exact (whence : Whence) :
    partition.SeekExact offset whence filep (Int64.ofInt (-einval),filep) := by
  have negative : (Int64.ofInt (-einval)).toInt < 0 := by decide
  refine ⟨fun succeeded => ?_,fun succeeded => ?_,fun succeeded => ?_,fun _ => rfl⟩
  all_goals
    dsimp only at succeeded
    omega

theorem out1_exact_iff (whence : Whence) (pos : Int64) (nonneg : 0 ≤ pos.toInt) :
    partition.SeekExact offset whence filep (pos,{filep with pos := pos}) ↔
      pos.toInt < partition.byteSize ∧
        ∃ base, whence.base partition.byteSize filep.pos = some base ∧
          pos.toInt = base + offset.toInt := by
  constructor
  · intro exactly
    exact ⟨exactly.inside nonneg,exactly.exactly nonneg⟩
  · rintro ⟨inside,exactly⟩
    refine ⟨fun _ => rfl,fun _ => inside,fun _ => exactly,fun negative => ?_⟩
    dsimp only at negative
    omega

theorem seekSet_exact_iff : partition.SeekExact offset .seekSet filep
    (partition.mtdCharLseek offset .seekSet filep) ↔ partition.SeekFits offset .seekSet filep := by
  unfold mtdCharLseek SeekFits
  by_cases allowed : partition.setAllowed offset
  · have low := toSizeT_toNat offset
    have checks := setAllowed_iff.mp allowed
    have pos : (toOffT (toSizeT offset)).toInt = offset.toInt % 2^32 := by
      rw [toOffT_toInt]
      exact low
    simp only [allowed,if_true,true_implies]
    rw [out1_exact_iff _ _ (by omega),pos]
    simp only [Whence.base,Option.some.injEq,exists_eq_left',Int.zero_add]
    omega
  · simp only [allowed,if_false,false_implies,iff_true]
    exact err1_exact _

theorem seekCur_exact_iff (nonneg : 0 ≤ filep.pos.toInt) :
    partition.SeekExact offset .seekCur filep (partition.mtdCharLseek offset .seekCur filep) ↔
      partition.SeekFits offset .seekCur filep := by
  have least := offset.le_toInt
  have most := filep.pos.toInt_lt
  unfold mtdCharLseek SeekFits
  by_cases allowed : partition.curAllowed offset filep
  · have checks := curAllowed_iff.mp allowed
    simp only [allowed,if_true,true_implies]
    by_cases inRange : filep.pos.toInt + offset.toInt < 2^63
    · have pos := toInt_add_of_range filep.pos offset (by omega) inRange
      rw [out1_exact_iff _ _ (by omega),pos]
      simp only [Whence.base,Option.some.injEq,exists_eq_left',and_true]
      omega
    · have wrapped : (filep.pos + offset).toInt < 0 := by
        rw [Int64.toInt_add]
        rcases bmod_cases (filep.pos.toInt + offset.toInt) with ⟨same,_⟩ | ⟨same,_⟩
        · have upper := offset.toInt_lt
          omega
        · have upper := offset.toInt_lt
          omega
      constructor
      · intro exactly
        have same := congrArg (fun f => f.pos.toInt) (exactly.unmoved wrapped)
        dsimp only at same
        omega
      · omega
  · simp only [allowed,if_false,false_implies,iff_true]
    exact err1_exact _

theorem seekEnd_exact_iff : partition.SeekExact offset .seekEnd filep
    (partition.mtdCharLseek offset .seekEnd filep) ↔ partition.SeekFits offset .seekEnd filep := by
  have least := offset.le_toInt
  unfold mtdCharLseek SeekFits
  by_cases allowed : partition.endAllowed offset
  · have checks := endAllowed_iff.mp allowed
    have first := partition.partStart_toNat
    have last := partition.endAddr_toNat
    have bound := partition.endAddr.toNat_lt
    have reached : (offset + toOffT partition.endAddr).toInt =
        offset.toInt + partition.endAddr.toNat := toInt_add_toOffT _ _ (by omega)
    have pos : (offset + toOffT partition.endAddr - toOffT partition.partStart).toInt =
        offset.toInt + partition.endAddr.toNat - partition.partStart.toNat := by
      rw [Int64.toInt_sub,reached,toOffT_toInt]
      rcases bmod_cases (offset.toInt + partition.endAddr.toNat - partition.partStart.toNat) with
        ⟨same,_⟩ | ⟨same,_⟩
      · rw [same]
        omega
      · rw [same]
        omega
    simp only [allowed,if_true,true_implies]
    rw [out1_exact_iff _ _ (by omega),pos]
    simp only [Whence.base,Option.some.injEq,exists_eq_left']
    omega
  · simp only [allowed,if_false,false_implies,iff_true]
    exact err1_exact _

theorem seekExact_iff (whence : Whence) (nonneg : 0 ≤ filep.pos.toInt) :
    partition.SeekExact offset whence filep (partition.mtdCharLseek offset whence filep) ↔
      partition.SeekFits offset whence filep := by
  cases whence with
  | seekSet => exact seekSet_exact_iff
  | seekCur => exact seekCur_exact_iff nonneg
  | seekEnd => exact seekEnd_exact_iff
  | other whence => exact ⟨fun _ => trivial,fun _ => err1_exact _⟩

end Seek

/-- The seeks of a run fit; the other calls are free. -/
def SeeksFit (call : MtdCall) (filep : MtdFile) : Prop :=
  match call with
  | .lseek offset whence => partition.SeekFits offset whence filep
  | .opened _ | .read _ _ _ | .write _ _ _ | .setFileMode _ => True

section Position
variable {modes partition} {filep : MtdFile} (nonneg : 0 ≤ filep.pos.toInt)

include nonneg in
theorem transfer_pos_nonneg (oobCall plainCall : Int64 → UInt32 → Int) (buffer : Bool)
    (buflen : UInt32) :
    0 ≤ (partition.transfer modes oobCall plainCall buffer buflen filep).2.pos.toInt := by
  by_cases served : partition.Served modes oobCall plainCall buffer buflen filep
  · rw [transfer_served served]
    dsimp only
    rw [moved_toInt served.2.1]
    omega
  · rw [(transfer_unserved served).1]
    exact nonneg

include nonneg in
theorem lseek_pos_nonneg (offset : Int64) (whence : Whence)
    (fits : partition.SeekFits offset whence filep) :
    0 ≤ (partition.mtdCharLseek offset whence filep).2.pos.toInt := by
  have exactly := (seekExact_iff whence nonneg).mpr fits
  by_cases succeeded : 0 ≤ (partition.mtdCharLseek offset whence filep).1.toInt
  · rw [← exactly.answer succeeded]
    exact succeeded
  · rw [exactly.unmoved (by omega)]
    exact nonneg

include nonneg in
theorem step_pos_nonneg (call : MtdCall) (fits : partition.SeeksFit call filep) :
    0 ≤ (partition.step modes call filep).2.pos.toInt := by
  cases call with
  | opened stale => exact le_refl (0 : Int)
  | read answers buffer buflen => exact transfer_pos_nonneg nonneg _ _ buffer buflen
  | write answers buffer buflen => exact transfer_pos_nonneg nonneg _ _ buffer buflen
  | lseek offset whence => exact lseek_pos_nonneg nonneg offset whence fits
  | setFileMode arg =>
    simp only [step,mtdCharSetFileMode]
    split_ifs <;> exact nonneg

end Position

/-- In a run whose seeks fit, each further seek is exact where and only where it fits. -/
theorem seeks_exact_iff (filep : MtdFile)
    (reached : Machine.Reach (partition.step modes) partition.SeeksFit .unopened filep) :
    ∀ offset whence, partition.SeekExact offset whence filep
        (partition.mtdCharLseek offset whence filep) ↔ partition.SeekFits offset whence filep := by
  have nonneg : 0 ≤ filep.pos.toInt := by
    apply Machine.reach_invariant _ _ _ (fun filep => 0 ≤ filep.pos.toInt) _ _ filep reached
    · exact le_refl (0 : Int)
    · exact fun call s before met => step_pos_nonneg before call met
  exact fun offset whence => seekExact_iff whence nonneg

theorem seeks_exact_back :
    (secondBlock.mtdCharLseek (-2048) .seekEnd ⟨0,0,[]⟩).1 = 129024 ∧
      secondBlock.SeekExact (-2048) .seekEnd ⟨0,0,[]⟩
        (secondBlock.mtdCharLseek (-2048) .seekEnd ⟨0,0,[]⟩) := by
  refine ⟨by decide,?_⟩
  rw [seeks_exact_iff ⟨1,4⟩ secondBlock ⟨0,0,[]⟩ 
    (Machine.Reach.step (MtdCall.opened 0) .start trivial)]
  exact fun _ => by decide

/-- Four gigabytes are taken for no offset at all. -/
theorem seek_truncates :
    (Machine.run (secondBlock.step ⟨1,4⟩) [.opened 0,.lseek 5 .seekSet] .unopened).2 = ⟨5,0,[]⟩ ∧
      secondBlock.mtdCharLseek 4294967296 .seekSet ⟨5,0,[]⟩ = (0,⟨0,0,[]⟩) ∧
      ¬ secondBlock.SeekExact 4294967296 .seekSet ⟨5,0,[]⟩
        (secondBlock.mtdCharLseek 4294967296 .seekSet ⟨5,0,[]⟩) := by
  have done : secondBlock.mtdCharLseek 4294967296 .seekSet ⟨5,0,[]⟩ = (0,⟨0,0,[]⟩) := rfl
  rw [done]
  refine ⟨rfl,rfl,fun exactly => ?_⟩
  obtain ⟨base,from_start,sum⟩ := exactly.exactly (by decide)
  obtain rfl : 0 = base := Option.some.inj from_start
  exact absurd sum (by decide)

end MtdPartition
end DriversAdapter.Storage
