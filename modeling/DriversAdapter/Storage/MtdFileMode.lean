import DriversAdapter.Storage.MtdChar

/-! The mode of the files on an MTD partition, which decides whether a transfer takes the spare
bytes of the pages along: what an open finds in it, what an ioctl makes of it, and how the transfers
use it. -/
namespace DriversAdapter.Storage
open DriversAdapter.Base DriversAdapter.Semantics

/-- The calls on the files of a partition. An open gets a record with what its memory held before,
or none. -/
inductive MtdFileCall (φ : Type)
  | mtdCharOpen (filep : φ) (malloc : Option UInt32)
  | mtdCharClose (filep : φ)
  | mtdCharRead (filep : φ) (answers : MtdAnswers) (buffer : Bool) (buflen : UInt32)
  | mtdCharWrite (filep : φ) (answers : MtdAnswers) (buffer : Bool) (buflen : UInt32)
  | setFileMode (filep : φ) (arg : UInt32)

/-- A file that is open has its record. Besides, the mode that was last selected with success since
the open. -/
structure MtdFiles (φ : Type) where
  userNum : UInt32
  fPriv : φ → Option MtdFile
  selected : φ → Option UInt32

namespace MtdFiles

def unopened {φ : Type} : MtdFiles φ := ⟨0,fun _ => none,fun _ => none⟩

section Calls
variable {φ : Type} [DecidableEq φ] (modes : MtdFileModes) (partition : MtdPartition)

def mtdCharOpen (filep : φ) (malloc : Option UInt32) (s : MtdFiles φ) : Int × MtdFiles φ :=
  if s.userNum ≠ 0 then (-ebusy,s)
  else
    match malloc with
    | none => (-enomem,s)
    | some stale => (0,{
        userNum := 1
        fPriv := Function.update s.fPriv filep (some ⟨0,stale,[]⟩)
        selected := Function.update s.selected filep none})

def mtdCharClose (filep : φ) (s : MtdFiles φ) : Int × MtdFiles φ :=
  (0,{s with userNum := 0,fPriv := Function.update s.fPriv filep none})

def put (filep : φ) (done : Int × MtdFile) (s : MtdFiles φ) : Int × MtdFiles φ :=
  (done.1,{s with fPriv := Function.update s.fPriv filep (some done.2)})

def setFileMode (filep : φ) (arg : UInt32) (mfi : MtdFile) (s : MtdFiles φ) : Int × MtdFiles φ :=
  let done := mtdCharSetFileMode modes arg mfi
  let next := s.put filep done
  if done.1 = 0 then
    (next.1,{next.2 with selected := Function.update s.selected filep (some arg)})
  else next

/-- The system lets no call through to a file that is not open. -/
def step (call : MtdFileCall φ) (s : MtdFiles φ) : Int × MtdFiles φ :=
  match call with
  | .mtdCharOpen filep malloc => s.mtdCharOpen filep malloc
  | .mtdCharClose filep => match s.fPriv filep with
    | none => (-einval,s)
    | some _ => s.mtdCharClose filep
  | .mtdCharRead filep answers buffer buflen => match s.fPriv filep with
    | none => (-einval,s)
    | some mfi => s.put filep (partition.mtdCharRead modes answers buffer buflen mfi)
  | .mtdCharWrite filep answers buffer buflen => match s.fPriv filep with
    | none => (-einval,s)
    | some mfi => s.put filep (partition.mtdCharWrite modes answers buffer buflen mfi)
  | .setFileMode filep arg => match s.fPriv filep with
    | none => (-einval,s)
    | some mfi => s.setFileMode modes filep arg mfi

end Calls

section Claims
variable {φ : Type} (modes : MtdFileModes)

/-- A transfer now takes the spare bytes along just if that was selected. -/
def AsSelected (s : MtdFiles φ) : Prop :=
  ∀ filep mfi, s.fPriv filep = some mfi →
    (mfi.mode = modes.oob ↔ s.selected filep = some modes.oob)

/-- Each access that a file makes is as selected before, and a mode that is not set stays. -/
def StepAsSelected [DecidableEq φ] (partition : MtdPartition) (call : MtdFileCall φ)
    (s : MtdFiles φ) : Prop :=
  let done := step modes partition call s
  ∀ filep before after, s.fPriv filep = some before → done.2.fPriv filep = some after →
    match call with
    | .mtdCharRead _ _ _ _ | .mtdCharWrite _ _ _ _ => ∀ access,
      after.accesses = before.accesses ++ [access] →
        (access.withOob = true ↔ s.selected filep = some modes.oob)
    | .setFileMode _ _ => done.1 ≠ 0 → after.mode = before.mode
    | _ => True

/-- The memory of an opened file does not happen to hold the mode with the spare bytes, and where
an ioctl asks for a mode that there is not, the file has the mode zero. -/
def Meets (call : MtdFileCall φ) (s : MtdFiles φ) : Prop :=
  match call with
  | .mtdCharOpen _ malloc => s.userNum = 0 → malloc ≠ some modes.oob
  | .setFileMode filep arg => ∀ mfi, s.fPriv filep = some mfi → modes.max ≤ arg → arg ≠ 0 →
    mfi.mode = 0
  | _ => True

end Claims

theorem no_access {φ : Type} {modes : MtdFileModes} {s : MtdFiles φ} (g : φ)
    (before after : MtdFile) (was : s.fPriv g = some before) (becomes : s.fPriv g = some after)
    (access : MtdAccess)
    (made : after.accesses = before.accesses ++ [access]) :
    access.withOob = true ↔ s.selected g = some modes.oob := by
  obtain rfl : before = after := Option.some.inj (was.symm.trans becomes)
  simp at made

section Step
variable {φ : Type} [DecidableEq φ] {modes : MtdFileModes} {partition : MtdPartition}
variable {s : MtdFiles φ}

theorem open_asSelected_iff (asSelected : s.AsSelected modes) (filep : φ)
    (malloc : Option UInt32) :
    (s.mtdCharOpen filep malloc).2.AsSelected modes ↔
      (s.userNum = 0 → malloc ≠ some modes.oob) := by
  unfold mtdCharOpen
  split
  next busy => exact iff_of_true asSelected fun free => absurd free busy
  next free =>
    cases malloc with
    | none => simp [asSelected]
    | some stale =>
      have idle : s.userNum = 0 := not_not.mp free
      simp only [idle,forall_const,ne_eq,Option.some.injEq]
      constructor
      · intro after same
        have selected := (after filep ⟨0,stale,[]⟩ (by simp)).mp same
        simp at selected
      · intro other g mfi opened
        by_cases same : g = filep
        · have record : ⟨0,stale,[]⟩ = mfi := by simpa [same] using opened
          simp [same,← record,other]
        · simp only [ne_eq,same,not_false_eq_true,Function.update_of_ne] at opened ⊢
          exact asSelected g mfi opened

theorem put_asSelected (asSelected : s.AsSelected modes) (filep : φ) {mfi : MtdFile}
    (done : Int × MtdFile) (opened : s.fPriv filep = some mfi) (same : done.2.mode = mfi.mode) :
    (s.put filep done).2.AsSelected modes := by
  intro g other here
  by_cases own : g = filep
  · have record : done.2 = other := by simpa [put,own] using here
    rw [← record,same,own]
    exact asSelected filep mfi opened
  · have old : s.fPriv g = some other := by simpa [put,own] using here
    exact asSelected g other old

variable {oobCall plainCall : Int64 → UInt32 → Int} {buffer : Bool} {buflen : UInt32}

theorem transfer_mode (mfi : MtdFile) :
    (partition.transfer modes oobCall plainCall buffer buflen mfi).2.mode = mfi.mode := by
  by_cases served : partition.Served modes oobCall plainCall buffer buflen mfi
  · rw [MtdPartition.transfer_served served]
  · rw [(MtdPartition.transfer_unserved served).1]

/-- The access that a transfer makes follows the mode. -/
theorem transfer_withOob (mfi : MtdFile) (access : MtdAccess)
    (made : (partition.transfer modes oobCall plainCall buffer buflen mfi).2.accesses =
      mfi.accesses ++ [access]) :
    access.withOob = true ↔ mfi.mode = modes.oob := by
  by_cases served : partition.Served modes oobCall plainCall buffer buflen mfi
  · rw [MtdPartition.transfer_served served] at made
    have same := List.append_cancel_left made
    rw [← List.singleton_inj.mp same]
    exact beq_iff_eq
  · rw [(MtdPartition.transfer_unserved served).1] at made
    simp at made

/-- A transfer changes no mode, and where the mode is as selected so is its access. -/
theorem put_transfer (asSelected : s.AsSelected modes) (filep : φ) {mfi : MtdFile}
    (opened : s.fPriv filep = some mfi) :
    let done := s.put filep (partition.transfer modes oobCall plainCall buffer buflen mfi)
    done.2.AsSelected modes ∧
      ∀ g before after, s.fPriv g = some before → done.2.fPriv g = some after → ∀ access,
        after.accesses = before.accesses ++ [access] →
          (access.withOob = true ↔ s.selected g = some modes.oob) := by
  refine ⟨put_asSelected asSelected filep _ opened (transfer_mode mfi),?_⟩
  intro g before after was becomes access made
  by_cases own : g = filep
  · subst own
    obtain rfl : mfi = before := Option.some.inj (opened.symm.trans was)
    have record : (partition.transfer modes oobCall plainCall buffer buflen mfi).2 = after := by
      simpa [put] using becomes
    rw [← record] at made
    exact (transfer_withOob mfi access made).trans (asSelected g mfi was)
  · have old : s.fPriv g = some after := by simpa [put,own] using becomes
    obtain rfl : before = after := Option.some.inj (was.symm.trans old)
    simp at made

theorem put_mode (filep : φ) {mfi : MtdFile} (done : Int × MtdFile)
    (opened : s.fPriv filep = some mfi) (same : done.2.mode = mfi.mode) (g : φ)
    (before after : MtdFile) (was : s.fPriv g = some before)
    (becomes : (s.put filep done).2.fPriv g = some after) : after.mode = before.mode := by
  by_cases own : g = filep
  · subst own
    have record : done.2 = after := by simpa [put] using becomes
    rw [← record,same,Option.some.inj (opened.symm.trans was)]
  · have old : s.fPriv g = some after := by simpa [put,own] using becomes
    rw [Option.some.inj (was.symm.trans old)]

/-- An ioctl that is refused for its mode sets the file's to zero. -/
theorem setFileMode_asSelected_iff (asSelected : s.AsSelected modes) (filep : φ) {mfi : MtdFile}
    (opened : s.fPriv filep = some mfi) (arg : UInt32) :
    let done := s.setFileMode modes filep arg mfi
    (done.2.AsSelected modes ∧ ∀ g before after, s.fPriv g = some before →
      done.2.fPriv g = some after → done.1 ≠ 0 → after.mode = before.mode) ↔
        (modes.max ≤ arg → arg ≠ 0 → mfi.mode = 0) := by
  have failing : -einval ≠ (0 : Int) := by decide
  dsimp only
  by_cases none : arg = 0
  · have unread : s.setFileMode modes filep arg mfi = s.put filep (-einval,mfi) := by
      simp [setFileMode,mtdCharSetFileMode,none,failing]
    rw [unread]
    refine iff_of_true ⟨put_asSelected asSelected filep _ opened rfl,?_⟩
      fun _ given => absurd none given
    exact fun g before after was becomes _ => put_mode filep _ opened rfl g before after was becomes
  · by_cases invalid : modes.max ≤ arg
    · have refused : s.setFileMode modes filep arg mfi =
          s.put filep (-einval,{mfi with mode := 0}) := by
        simp [setFileMode,mtdCharSetFileMode,none,invalid,failing]
      rw [refused]
      simp only [invalid,forall_const,none,ne_eq,not_false_eq_true]
      constructor
      · rintro ⟨_,kept⟩
        have cleared := kept filep mfi {mfi with mode := 0} opened (by simp [put]) failing
        exact cleared.symm
      · intro zero
        refine ⟨put_asSelected asSelected filep _ opened zero.symm,?_⟩
        exact fun g before after was becomes _ =>
          put_mode filep _ opened zero.symm g before after was becomes
    · refine iff_of_true ⟨fun g other here => ?_,?_⟩ fun reached => absurd reached invalid
      · by_cases own : g = filep
        · have record : {mfi with mode := arg} = other := by
            simpa [setFileMode,mtdCharSetFileMode,put,none,invalid,own] using here
          simp [setFileMode,mtdCharSetFileMode,none,invalid,own,← record]
        · have old : s.fPriv g = some other := by
            simpa [setFileMode,mtdCharSetFileMode,put,none,invalid,own] using here
          simpa [setFileMode,mtdCharSetFileMode,put,none,invalid,own] using asSelected g other old
      · intro g before after was becomes failed
        simp [setFileMode,mtdCharSetFileMode,put,none,invalid] at failed

theorem step_asSelected_iff (asSelected : s.AsSelected modes) (call : MtdFileCall φ) :
    (step modes partition call s).2.AsSelected modes ∧ StepAsSelected modes partition call s ↔
      Meets modes call s := by
  cases call with
  | mtdCharOpen filep malloc =>
    have checked : StepAsSelected modes partition (.mtdCharOpen filep malloc) s :=
      fun g before after was becomes => trivial
    simp only [checked,and_true]
    exact open_asSelected_iff asSelected filep malloc
  | mtdCharClose filep =>
    refine iff_of_true ⟨?_,fun g before after was becomes => trivial⟩ trivial
    dsimp only [step]
    split
    · exact asSelected
    · intro g mfi here
      by_cases own : g = filep
      · simp [mtdCharClose,own] at here
      · have old : s.fPriv g = some mfi := by simpa [mtdCharClose,own] using here
        exact asSelected g mfi old
  | mtdCharRead filep answers buffer buflen =>
    refine iff_of_true ?_ trivial
    dsimp only [step,StepAsSelected]
    cases opened : s.fPriv filep with
    | none => exact ⟨asSelected,no_access⟩
    | some mfi => exact put_transfer asSelected filep opened
  | mtdCharWrite filep answers buffer buflen =>
    refine iff_of_true ?_ trivial
    dsimp only [step,StepAsSelected]
    cases opened : s.fPriv filep with
    | none => exact ⟨asSelected,no_access⟩
    | some mfi => exact put_transfer asSelected filep opened
  | setFileMode filep arg =>
    dsimp only [step,StepAsSelected,Meets]
    cases opened : s.fPriv filep with
    | none =>
      refine iff_of_true ⟨asSelected,fun g before after was becomes _ => ?_⟩ fun _ => nofun
      rw [Option.some.inj (was.symm.trans becomes)]
    | some mfi =>
      refine (setFileMode_asSelected_iff asSelected filep opened arg).trans ?_
      simp

end Step

/-- In a run of calls on the files of one partition every transfer takes the path that was last
selected, and a refused selection changes nothing, exactly where every call meets the condition. -/
theorem fileMode_asSelected_iff {φ : Type} [DecidableEq φ] (modes : MtdFileModes)
    (partition : MtdPartition) (calls : List (MtdFileCall φ)) :
    (∀ k, (Machine.run (step modes partition) (calls.take k) unopened).2.AsSelected modes ∧
        ∀ call, calls[k]? = some call → StepAsSelected modes partition call
          (Machine.run (step modes partition) (calls.take k) unopened).2) ↔
      Machine.MeetsAll (step modes partition) (Meets modes) calls unopened := by
  apply Machine.run_checked_iff _ _ _ fun _ => True
  · exact fun _ _ sound _ _ _ => sound
  · exact fun call s _ asSelected => step_asSelected_iff asSelected call
  · trivial
  · exact fun filep mfi => nofun

private def flash : MtdPartition where
  startBlock := 0
  endBlock := 0
  mtdDevice := ⟨2048,512,9,16,by decide,by decide⟩
  ordered := by decide

private def serving : MtdAnswers := ⟨fun _ _ => 0,fun _ _ => 0,fun _ _ => 0,fun _ _ => 0⟩

/-- A file takes the spare bytes along because its memory said so; another does no more after a
selection that was refused. -/
theorem fileMode_not_asSelected :
    let step := step ⟨3,4⟩ flash
    let read : MtdFileCall Unit := .mtdCharRead () serving true 512
    let stale := (Machine.run step [.mtdCharOpen () (some 3)] unopened).2
    let refused := (Machine.run step [.mtdCharOpen () (some 0),.setFileMode () 3,
      .setFileMode () 9] unopened).2
    (step read stale).2.fPriv () = some ⟨512 - 16,3,[⟨true,0,512⟩]⟩ ∧ stale.selected () = none ∧
      ¬ StepAsSelected ⟨3,4⟩ flash read stale ∧
      (step read refused).2.fPriv () = some ⟨512,0,[⟨false,0,512⟩]⟩ ∧
      refused.selected () = some 3 := by
  refine ⟨rfl,rfl,fun asSelected => ?_,rfl,rfl⟩
  have selected := (asSelected () _ _ rfl rfl ⟨true,0,512⟩ rfl).mp rfl
  contradiction

end MtdFiles

end DriversAdapter.Storage
