import DriversAdapter.Smq.Refinement

/-! The endpoints of one queue: objects attached at any time by the queue's description,
and the calls made through them. A late attach of a synchronized queue rewinds the read
offset all endpoints share. -/
namespace DriversAdapter.Smq
open DriversAdapter.Base DriversAdapter.Semantics DriversAdapter.Semantics.Program

variable {ι : Type} [DecidableEq ι]

namespace SharedMemQueue

def withFd (q : SharedMemQueue) (fd : Int) : SharedMemQueue :=
  ⟨q.sizeofT,q.sizeof_pos,{q.metaData with ashmemFd := fd}⟩

@[simp] theorem withFd_respond (q : SharedMemQueue) (fd : Int) (c : ι × Call) (s : Shared ι) :
    (q.withFd fd).respond c s = q.respond c s := rfl

end SharedMemQueue

/-- What the endpoints share, and the object each of them has made. -/
structure Peers (ι : Type) where
  shared : Shared ι
  handle : ι → Option SharedMemQueue

inductive Event (ι : Type)
  | attach (i : ι)
  | call (i : ι) (c : Call)

namespace Peers

/-- An attach runs the constructor on the description of `q`; a call goes through the
object that its endpoint has. -/
def step (env : Platform) (q : SharedMemQueue) : Event ι → Peers ι → Option Reply × Peers ι
  | .attach i, s =>
    let made := (SharedMemQueue.attach env q.sizeofT q.sizeof_pos q.metaData).run
      (serve q.metaData.getType i) s.shared
    (none,⟨made.2,Function.update s.handle i made.1⟩)
  | .call i c, s =>
    match s.handle i with
    | none => (none,s)
    | some mine => (some (mine.respond (i,c) s.shared).1,⟨(mine.respond (i,c) s.shared).2,s.handle⟩)

def attached (s : Peers ι) (i : ι) : Prop := s.handle i ≠ none

/-- The queue right after its creation by endpoint `i`. -/
def opening (q : SharedMemQueue) (i : ι) (start : Shared ι) : Peers ι :=
  ⟨start,Function.update (fun _ => none) i (some q)⟩

/-- Every object in use is the queue over some descriptor. -/
def Opened (q : SharedMemQueue) (s : Peers ι) : Prop :=
  ∀ i mine, s.handle i = some mine → ∃ fd, mine = q.withFd fd

theorem opening_handle (q : SharedMemQueue) (i j : ι) (start : Shared ι) (mine : SharedMemQueue)
    (made : (opening q i start).handle j = some mine) : j = i ∧ mine = q := by
  simp only [opening,Function.update_apply] at made
  split at made
  next same => exact ⟨same,(Option.some.inj made).symm⟩
  next => contradiction

theorem opening_opened (q : SharedMemQueue) (i : ι) (start : Shared ι) :
    Opened q (opening q i start) := by
  intro j mine made
  obtain ⟨_,rfl⟩ := opening_handle q i j start mine made
  exact ⟨mine.metaData.ashmemFd,rfl⟩

section Step
variable (env : Platform) (q : SharedMemQueue) (sized : q.metaData.getElementSize = q.sizeofT)

include sized in
/-- An attach that maps its zones stores a read offset of zero; one that fails leaves the
endpoint without an object. -/
theorem step_attach (i : ι) (s : Peers ι) :
    step env q (.attach i) s =
      if (q.withFd (env.dup q.metaData.ashmemFd)).mapsZones env = true then
        (none,⟨s.shared.setReadOffset q.metaData.getType i 0,
          Function.update s.handle i (some (q.withFd (env.dup q.metaData.ashmemFd)))⟩)
      else (none,⟨s.shared,Function.update s.handle i none⟩) := by
  generalize mine : q.withFd (env.dup q.metaData.ashmemFd) = again
  have ran : (again.init env false).run (serve q.metaData.getType i) s.shared =
      if again.mapsZones env = false then (hdfFailure,s.shared)
      else (hdfSuccess,s.shared.setReadOffset q.metaData.getType i 0) := by
    subst mine
    exact ((q.withFd (env.dup q.metaData.ashmemFd)).run_init env false i s.shared).trans
      (if_neg (not_not.mpr sized))
  have built : SharedMemQueue.attach env q.sizeofT q.sizeof_pos q.metaData = (do
      if (← again.init env false) = hdfSuccess then return some again else return none) := by
    subst mine
    rfl
  unfold step
  dsimp only
  rw [built,run_bind,ran]
  by_cases maps : again.mapsZones env = true
  · simp [maps]
  · simp [maps,hdfFailure,hdfSuccess]

include sized in
theorem readOffset_attach (i j : ι) (s : Peers ι)
    (present : (step env q (.attach i) s).2.attached j) :
    (step env q (.attach i) s).2.shared.readOffsetOf q.metaData.getType j = 0 ∨
      s.attached j ∧ (step env q (.attach i) s).2.shared.readOffsetOf q.metaData.getType j =
        s.shared.readOffsetOf q.metaData.getType j := by
  unfold attached at *
  rw [step_attach env q sized i s] at present ⊢
  rcases eq_or_ne j i with rfl | other
  · split at present
    next maps =>
      rw [if_pos maps]
      exact .inl (Shared.readOffsetOf_set _ _ _ _)
    next => simp at present
  · split at present <;> dsimp only at present <;> rw [Function.update_of_ne other] at present
    next maps =>
      rw [if_pos maps]
      dsimp only
      rw [Shared.readOffsetOf_setReadOffset]
      split
      next => exact .inl rfl
      next => exact .inr ⟨present,rfl⟩
    next fails =>
      rw [if_neg fails]
      exact .inr ⟨present,rfl⟩

theorem step_call (i : ι) (c : Call) (s : Peers ι) (opened : Opened q s)
    (attached : s.handle i ≠ none) :
    step env q (.call i c) s = (some (q.respond (i,c) s.shared).1,
      ⟨(q.respond (i,c) s.shared).2,s.handle⟩) := by
  obtain ⟨mine,made⟩ := Option.ne_none_iff_exists'.mp attached
  obtain ⟨fd,rfl⟩ := opened i mine made
  simp only [step,made,SharedMemQueue.withFd_respond]

theorem step_call_detached (i : ι) (c : Call) (s : Peers ι) (detached : s.handle i = none) :
    step env q (.call i c) s = (none,s) := by
  simp only [step,detached]

theorem step_opened (e : Event ι) (s : Peers ι) (opened : Opened q s) :
    Opened q (step env q e s).2 := by
  rcases e with i | ⟨i,c⟩
  · intro j mine made
    rcases eq_or_ne j i with rfl | other
    · simp only [step,SharedMemQueue.attach,run_bind,run_ite,Function.update_self] at made
      split at made
      next =>
        simp only [pure_eq,run_done,Option.some.injEq] at made
        exact ⟨_,made.symm⟩
      next => contradiction
    · simp only [step,Function.update_of_ne other] at made
      exact opened j mine made
  · by_cases attached : s.handle i = none
    · rwa [step_call_detached env q i c s attached]
    · rwa [step_call env q i c s opened attached]

end Step

section Attach
variable (env : Platform) (sizeofT : Nat) (sizeof_pos : 0 < sizeofT)
variable (stale : MemZoneType → MemZone) (elementCount : UInt32) (i : ι) (fresh start : Shared ι)
variable (q : SharedMemQueue)

/-- In a synchronized queue an attach that gets its mappings preserves what is still to
be read exactly when nothing has moved the read offset, or has moved it back to zero. -/
theorem attach_preserves_iff
    (made : (SharedMemQueue.create env sizeofT sizeof_pos stale elementCount syncedSmq).run
      (serve syncedSmq i) fresh = (some q,start))
    (events : List (Event ι)) (j : ι) :
    let s := (Machine.run (step env q) events (opening q i start)).2
    let after := (step env q (.attach j) s).2.shared
    (after.readOffset = s.shared.readOffset ∧ after.writeOffset = s.shared.writeOffset ∧
        after.queueBuffer = s.shared.queueBuffer ∧
        ∀ k, q.readable k after = q.readable k s.shared) ↔
      s.shared.readOffset = 0 ∨ (q.withFd (env.dup q.metaData.ashmemFd)).mapsZones env = false := by
  obtain ⟨_,_,_,synced,sized,_,_⟩ := SharedMemQueue.create_usable env sizeofT sizeof_pos stale
    elementCount syncedSmq i fresh start q made
  intro s
  rw [step_attach env q sized j s]
  dsimp only
  by_cases maps : (q.withFd (env.dup q.metaData.ashmemFd)).mapsZones env = true
  · rw [if_pos maps,maps,synced]
    simp only [Shared.setReadOffset,if_true,Bool.true_eq_false,or_false]
    constructor
    · intro kept
      exact kept.1.symm
    · intro rewound
      have same : ({s.shared with readOffset := 0} : Shared ι) = s.shared := by
        rw [← rewound]
      rw [same]
      exact ⟨rewound.symm,trivial,trivial,fun _ => rfl⟩
  · rw [if_neg maps]
    exact ⟨fun _ => .inr (by simpa using maps),fun _ => ⟨rfl,rfl,rfl,fun _ => rfl⟩⟩

/-- Reads that bring the read offset back to where it was, and two elements after them. -/
def oneRound : List (Event Bool) :=
  let write (count : UInt64) : Event Bool := .call true (.write (fun a => UInt8.ofNat (a / 8)) count)
  [write 2,.call true (.read 2),write 1,.call true (.read 1),write 2]

theorem attach_preserves_iff_round : ∃ (q : SharedMemQueue) (start : Shared Bool),
    (SharedMemQueue.create .granting 8 (by decide) (fun _ => ⟨0,0⟩) 3 syncedSmq).run
        (serve syncedSmq true) ⟨7,9,fun _ => 0,fun _ => 0⟩ = (some q,start) ∧
      let s := (Machine.run (step .granting q) oneRound (opening q true start)).2
      q.readable true s.shared = [[0,0,0,0,0,0,0,0],[1,1,1,1,1,1,1,1]] ∧
        ∀ k, q.readable k (step .granting q (.attach false) s).2.shared =
          q.readable k s.shared := by
  refine ⟨_,_,rfl,rfl,?_⟩
  refine ((attach_preserves_iff .granting 8 (by decide) (fun _ => ⟨0,0⟩) 3 true
    ⟨7,9,fun _ => 0,fun _ => 0⟩ _ _ rfl oneRound false).mpr (.inl ?_)).2.2.2
  decide +kernel

/-- One of two elements has been read; after the attach both are there to be read. -/
theorem attach_rewinds : ∃ (q : SharedMemQueue) (start : Shared Bool),
    (SharedMemQueue.create .granting 8 (by decide) (fun _ => ⟨0,0⟩) 3 syncedSmq).run
        (serve syncedSmq true) ⟨7,9,fun _ => 0,fun _ => 0⟩ = (some q,start) ∧
      let s := (Machine.run (step .granting q)
        [.call true (.write (fun a => UInt8.ofNat (a / 8)) 2),.call true (.read 1)]
        (opening q true start)).2
      q.readable true s.shared = [[1,1,1,1,1,1,1,1]] ∧
        q.readable true (step .granting q (.attach false) s).2.shared =
          [[0,0,0,0,0,0,0,0],[1,1,1,1,1,1,1,1]] := by
  refine ⟨_,_,rfl,?_⟩
  dsimp only
  exact ⟨rfl,rfl⟩

end Attach

end Peers

end DriversAdapter.Smq
