import DriversAdapter.Smq.Blocking
import DriversAdapter.Smq.Outcome

/-! What one writer and one reader rely on: the invariant of the shared board, what each
side leaves unchanged for the other, and the operations on the sync word. -/
namespace DriversAdapter.Smq
open DriversAdapter.Base DriversAdapter.Semantics DriversAdapter.Semantics.Program

namespace Side

@[simp] theorem other_other (i : Side) : i.other.other = i := by cases i <;> rfl

theorem eq_or_other (i j : Side) : j = i ∨ j = i.other := by
  cases i <;> cases j <;> simp [other]

theorem other_ne (i : Side) : i.other ≠ i := by cases i <;> decide

theorem waitBit_ne (i : Side) : i.waitBit ≠ 0 := by cases i <;> decide

theorem waitBit_clear (i : Side) : ~~~i.waitBit &&& i.other.waitBit = i.other.waitBit := by
  cases i <;> decide

end Side

namespace Board

def occupancy (q : SharedMemQueue) (s : Board) : Nat :=
  Ring.ahead q.metaData.getElementCount s.shared.readOffset s.shared.writeOffset

def slots (q : SharedMemQueue) (s : Board) : Nat → Block := slot q.sizeofT s.shared.queueBuffer

/-- The elements published and not released. -/
def content (q : SharedMemQueue) (s : Board) : List Block :=
  s.between q s.shared.readOffset s.shared.writeOffset

/-- A call of side `i` for that many elements cannot be served. -/
def Lacks (q : SharedMemQueue) (s : Board) : Side → Nat → Prop
  | .writer, count => q.metaData.getElementCount ≤ s.occupancy q + count
  | .reader, count => s.occupancy q < count

/-- Side `i` may go to sleep: it will be woken once its call can be served. -/
def Ready (q : SharedMemQueue) (s : Board) (i : Side) (count : Nat) : Prop :=
  s.Lacks q i count ∨ bitSet s.word i.waitBit ∨ s.phase i.other = .stored

/-- The calls that fail only for lack of elements or places. -/
def Served (q : SharedMemQueue) : Side → Nat → Prop
  | .writer, _ => q.metaData.getElementCount * q.sizeofT ≤ secureMemMaxLen
  | .reader, count => 1 ≤ count ∧ q.metaData.getElementCount * q.sizeofT ≤ secureMemMaxLen

structure Inv (q : SharedMemQueue) (s : Board) : Prop where
  write_le : s.shared.writeOffset ≤ q.metaData.getElementCount - 1
  read_le : s.shared.readOffset ≤ q.metaData.getElementCount - 1
  published_eq : s.published = s.released ++ s.content q
  window_le : s.window ≤ s.occupancy q
  asleep : ∀ i bits count, s.waiting i = some (bits,count) → bits = i.waitBit ∧
    (Served q i count → s.Ready q i count) ∧
    (¬ bitSet s.word i.waitBit ∨ s.phase i.other = .signalled)

theorem Inv.write_lt {q : SharedMemQueue} {s : Board} (inv : Inv q s)
    (some : 0 < q.metaData.getElementCount) : s.shared.writeOffset < q.metaData.getElementCount := by
  have le := inv.write_le
  omega

theorem Inv.read_lt {q : SharedMemQueue} {s : Board} (inv : Inv q s)
    (some : 0 < q.metaData.getElementCount) : s.shared.readOffset < q.metaData.getElementCount := by
  have le := inv.read_le
  omega

theorem Inv.occupancy_le {q : SharedMemQueue} {s : Board} (inv : Inv q s) :
    s.occupancy q ≤ q.metaData.getElementCount - 1 := by
  have hw := inv.write_le
  have hr := inv.read_le
  unfold occupancy Ring.ahead
  split <;> omega

/-- What the writer finds after steps of the reader. -/
structure Drained (q : SharedMemQueue) (s t : Board) : Prop where
  write_eq : t.shared.writeOffset = s.shared.writeOffset
  buffer_eq : t.shared.queueBuffer = s.shared.queueBuffer
  published_eq : t.published = s.published
  occupancy_le : t.occupancy q ≤ s.occupancy q

/-- What the reader finds after steps of the writer. -/
structure Filled (q : SharedMemQueue) (s t : Board) : Prop where
  read_eq : t.shared.readOffset = s.shared.readOffset
  released_eq : t.released = s.released
  window_eq : t.window = s.window
  occupancy_le : s.occupancy q ≤ t.occupancy q
  slots_eq : ∀ k < s.occupancy q,
    t.slots q ((s.shared.readOffset + k) % q.metaData.getElementCount) =
      s.slots q ((s.shared.readOffset + k) % q.metaData.getElementCount)

def Moved (q : SharedMemQueue) : Side → Board → Board → Prop
  | .writer => Drained q
  | .reader => Filled q

/-- What side `i` finds after steps of the other side. -/
structure Sees (q : SharedMemQueue) (i : Side) (s t : Board) : Prop where
  inv : Inv q t
  moved : Moved q i s t
  phase_eq : t.phase i = s.phase i
  woken : t.waiting i = s.waiting i ∨ t.waiting i = none
  ready : ∀ count, s.Ready q i count → t.Ready q i count

def rely (q : SharedMemQueue) (i : Side) (s t : Board) : Prop := Inv q s → Sees q i s t

/-- The writer copies nothing over elements that the reader has checked. -/
def Harmless (q : SharedMemQueue) (s : Board) : Side → SyncOp → Prop
  | .writer, .queue (.copyIn dst block) => ∀ k < s.window, Apart dst block.length
      ((s.shared.readOffset + k) % q.metaData.getElementCount * q.sizeofT) q.sizeofT
  | .writer, .queue (.clearIn _ _) => False
  | _, _ => True

def guar (q : SharedMemQueue) (i : Side) (op : SyncOp) (s t : Board) : Prop :=
  Inv q s → Sees q i.other s t ∧ s.Harmless q i op

theorem moved_refl (q : SharedMemQueue) (i : Side) (s : Board) : Moved q i s s := by
  cases i
  · exact ⟨rfl,rfl,rfl,Nat.le_refl _⟩
  · exact ⟨rfl,rfl,rfl,Nat.le_refl _,fun _ _ => rfl⟩

theorem moved_trans (q : SharedMemQueue) (i : Side) (s t u : Board) (first : Moved q i s t)
    (second : Moved q i t u) : Moved q i s u := by
  cases i
  · exact ⟨second.write_eq.trans first.write_eq,second.buffer_eq.trans first.buffer_eq,
      second.published_eq.trans first.published_eq,
      Nat.le_trans second.occupancy_le first.occupancy_le⟩
  · refine ⟨second.read_eq.trans first.read_eq,second.released_eq.trans first.released_eq,
      second.window_eq.trans first.window_eq,
      Nat.le_trans first.occupancy_le second.occupancy_le,fun k bound => ?_⟩
    have later := second.slots_eq k (Nat.lt_of_lt_of_le bound first.occupancy_le)
    rw [first.read_eq] at later
    exact later.trans (first.slots_eq k bound)

theorem rely_refl (q : SharedMemQueue) (i : Side) (s : Board) : rely q i s s :=
  fun inv => ⟨inv,moved_refl q i s,rfl,.inl rfl,fun _ ready => ready⟩

theorem rely_trans (q : SharedMemQueue) (i : Side) (s t u : Board) (first : rely q i s t)
    (second : rely q i t u) : rely q i s u := by
  intro inv
  have near := first inv
  have far := second near.inv
  refine ⟨far.inv,moved_trans q i s t u near.moved far.moved,far.phase_eq.trans near.phase_eq,?_,
    fun count ready => far.ready count (near.ready count ready)⟩
  rcases far.woken with same | woken
  · rw [same]
    exact near.woken
  · exact .inr woken

/-- The record a side keeps of its own doing. -/
def log (s : Board) : Side → List Block
  | .writer => s.published
  | .reader => s.released

/-- Side `i` has a record and is in a phase that only its own steps change. -/
structure Rests (q : SharedMemQueue) (i : Side) (done : List Block) (phases : Phase → Prop)
    (s : Board) : Prop where
  inv : Inv q s
  log_eq : s.log i = done
  phase_ok : phases (s.phase i)

structure At (q : SharedMemQueue) (i : Side) (done : List Block) (phases : Phase → Prop)
    (s : Board) : Prop extends Rests q i done phases s where
  awake : s.waiting i = none

/-- What holds throughout a call: the record stays within what the call may add. -/
def Tracks (q : SharedMemQueue) (i : Side) (ok : List Block → Prop) (s : Board) : Prop :=
  Inv q s ∧ ok (s.log i)

def duty (q : SharedMemQueue) (i : Side) (calm : Phase → Prop) (ok : List Block → Prop)
    (op : SyncOp) (s t : Board) : Prop :=
  guar q i op s t ∧ Tracks q i ok t ∧ (op.Wakes ∨ calm (s.phase i))

theorem Rests.tracks {q : SharedMemQueue} {i : Side} {done : List Block} {phases : Phase → Prop}
    {s : Board} (here : Rests q i done phases s) {ok : List Block → Prop} (fine : ok done) :
    Tracks q i ok s := by
  refine ⟨here.inv,?_⟩
  rw [here.log_eq]
  exact fine

theorem duty_refl {q : SharedMemQueue} {i : Side} {done : List Block} {calm : Phase → Prop}
    {s : Board} (here : Rests q i done calm s) {ok : List Block → Prop} (fine : ok done)
    (op : SyncOp) (harmless : s.Harmless q i op) : duty q i calm ok op s s :=
  ⟨fun inv => ⟨rely_refl q i.other s inv,harmless⟩,here.tracks fine,.inr here.phase_ok⟩

theorem log_moved (q : SharedMemQueue) (i : Side) (s t : Board) (moved : Moved q i s t) :
    t.log i = s.log i := by
  cases i
  · exact moved.published_eq
  · exact moved.released_eq

theorem rests_stable (q : SharedMemQueue) (i : Side) (done : List Block) (phases : Phase → Prop)
    (s t : Board) (moved : rely q i s t) (here : Rests q i done phases s) :
    Rests q i done phases t := by
  have sees := moved here.inv
  refine ⟨sees.inv,(log_moved q i s t sees.moved).trans here.log_eq,?_⟩
  rw [sees.phase_eq]
  exact here.phase_ok

theorem at_stable (q : SharedMemQueue) (i : Side) (done : List Block) (phases : Phase → Prop)
    (s t : Board) (moved : rely q i s t) (here : At q i done phases s) : At q i done phases t := by
  refine ⟨rests_stable q i done phases s t moved here.toRests,?_⟩
  rcases (moved here.inv).woken with same | woken
  · exact same.trans here.awake
  · exact woken

section Sync
variable (q : SharedMemQueue) (i : Side) (s : Board) (word : UInt32)
variable (waiting : Side → Option (UInt32 × Nat)) (phase : Side → Phase)

/-- A step that leaves the ring alone keeps the invariant when it keeps the sleepers'. -/
theorem inv_sync (inv : Inv q s)
    (asleep : ∀ j bits count, waiting j = some (bits,count) → bits = j.waitBit ∧
      (Served q j count →
        ({s with word := word, waiting := waiting, phase := phase} : Board).Ready q j count) ∧
      (¬ bitSet word j.waitBit ∨ phase j.other = .signalled)) :
    Inv q {s with word := word, waiting := waiting, phase := phase} :=
  ⟨inv.write_le,inv.read_le,inv.published_eq,inv.window_le,asleep⟩

theorem sees_sync (inv : Inv q {s with word := word, waiting := waiting, phase := phase})
    (phase_eq : phase i.other = s.phase i.other)
    (woken : waiting i.other = s.waiting i.other ∨ waiting i.other = none)
    (ready : ∀ count, s.Ready q i.other count →
      ({s with word := word, waiting := waiting, phase := phase} : Board).Ready q i.other count) :
    Sees q i.other s {s with word := word, waiting := waiting, phase := phase} := by
  refine ⟨inv,?_,phase_eq,woken,ready⟩
  cases i
  · exact ⟨rfl,rfl,rfl,Nat.le_refl _,fun _ _ => rfl⟩
  · exact ⟨rfl,rfl,rfl,Nat.le_refl _⟩

end Sync

section Steps
variable (q : SharedMemQueue) (i : Side) (done : List Block) (s : Board)

theorem fetchAnd_step (phases : Phase → Prop) (here : At q i done phases s) :
    guar q i (.fetchAnd (~~~i.waitBit)) s {s with word := s.word &&& ~~~i.waitBit} ∧
      At q i done phases {s with word := s.word &&& ~~~i.waitBit} ∧
      ∀ count, ¬ bitSet s.word i.waitBit → s.Ready q i count →
        ({s with word := s.word &&& ~~~i.waitBit} : Board).Ready q i count := by
  have kept := bitSet_clear_other s.word i.waitBit i.other.waitBit i.waitBit_clear
  have ready : ∀ count, s.Ready q i.other count →
      ({s with word := s.word &&& ~~~i.waitBit} : Board).Ready q i.other count := by
    intro count before
    unfold Ready at *
    dsimp only
    rw [kept]
    exact before
  have inv : Inv q {s with word := s.word &&& ~~~i.waitBit} := by
    refine inv_sync q s _ s.waiting s.phase here.inv (fun j bits count asleep => ?_)
    rcases Side.eq_or_other i j with rfl | rfl
    · rw [here.awake] at asleep
      contradiction
    · obtain ⟨same,served,clear⟩ := here.inv.asleep _ bits count asleep
      rw [kept]
      exact ⟨same,fun serves => ready count (served serves),clear⟩
  refine ⟨fun _ => ⟨sees_sync q i s _ s.waiting s.phase inv rfl (.inl rfl) ready,?_⟩,
    ⟨⟨inv,here.log_eq,here.phase_ok⟩,here.awake⟩,fun count unset before => ?_⟩
  · cases i <;> trivial
  · rcases before with lacks | set | stored
    · exact .inl lacks
    · contradiction
    · exact .inr (.inr stored)

/-- After its store, side `i` sets the bit of the other side, which is asleep only if the
bit was clear. -/
theorem fetchOr_step (here : At q i done (· = .stored) s) :
    let phase := if bitSet s.word i.other.waitBit then Phase.none else .signalled
    let t : Board := {s with
      word := s.word ||| i.other.waitBit
      phase := Function.update s.phase i phase}
    guar q i (.fetchOr i.other.waitBit) s t ∧ At q i done (· = phase) t := by
  intro phase t
  have set : bitSet t.word i.other.waitBit := bitSet_set s.word _ (Side.waitBit_ne _)
  have ready : ∀ count, t.Ready q i.other count := fun count => .inr (.inl set)
  have own : t.phase i = phase := Function.update_self _ _ _
  have inv : Inv q t := by
    refine inv_sync q s _ s.waiting _ here.inv (fun j bits count asleep => ?_)
    rcases Side.eq_or_other i j with rfl | rfl
    · rw [here.awake] at asleep
      contradiction
    · obtain ⟨same,_,clear⟩ := here.inv.asleep _ bits count asleep
      refine ⟨same,fun _ => ready count,.inr ?_⟩
      rw [Side.other_other] at clear ⊢
      rcases clear with unset | signalled
      · exact own.trans (if_neg unset)
      · exact absurd (signalled.symm.trans here.phase_ok) (by decide)
  refine ⟨fun _ => ⟨sees_sync q i s _ s.waiting _ inv ?_ (.inl rfl) fun count _ => ready count,?_⟩,
    ⟨⟨inv,here.log_eq,own⟩,here.awake⟩⟩
  · exact Function.update_of_ne i.other_ne _ _
  · cases i <;> trivial

theorem futexWait_step (phases : Phase → Prop) (here : At q i done phases s) (count : Nat)
    (unset : ¬ bitSet s.word i.waitBit) (ready : Served q i count → s.Ready q i count) :
    let t : Board := {s with waiting := Function.update s.waiting i (some (i.waitBit,count))}
    guar q i (.futexWait i.waitBit s.word count) s t ∧ Rests q i done phases t := by
  intro t
  have inv : Inv q t := by
    refine inv_sync q s s.word _ s.phase here.inv (fun j bits asked asleep => ?_)
    rcases Side.eq_or_other i j with rfl | rfl
    · rw [Function.update_self,Option.some.injEq,Prod.mk.injEq] at asleep
      obtain ⟨rfl,rfl⟩ := asleep
      exact ⟨rfl,ready,.inl unset⟩
    · rw [Function.update_of_ne i.other_ne] at asleep
      exact here.inv.asleep _ bits asked asleep
  refine ⟨fun _ => ⟨sees_sync q i s s.word _ s.phase inv rfl (.inl ?_) fun _ before => before,?_⟩,
    ⟨inv,here.log_eq,here.phase_ok⟩⟩
  · exact Function.update_of_ne i.other_ne _ _
  · cases i <;> trivial

theorem futexResume_step (phases : Phase → Prop) (here : Rests q i done phases s) :
    let t : Board := {s with waiting := Function.update s.waiting i none}
    guar q i .futexResume s t ∧ At q i done phases t := by
  intro t
  have inv : Inv q t := by
    refine inv_sync q s s.word _ s.phase here.inv (fun j bits asked asleep => ?_)
    rcases Side.eq_or_other i j with rfl | rfl
    · rw [Function.update_self] at asleep
      contradiction
    · rw [Function.update_of_ne i.other_ne] at asleep
      exact here.inv.asleep _ bits asked asleep
  refine ⟨fun _ => ⟨sees_sync q i s s.word _ s.phase inv rfl (.inl ?_) fun _ before => before,?_⟩,
    ⟨⟨inv,here.log_eq,here.phase_ok⟩,Function.update_self _ _ _⟩⟩
  · exact Function.update_of_ne i.other_ne _ _
  · cases i <;> trivial

/-- Side `i` wakes the other side, which sleeps on no bit but its own. -/
theorem futexWake_step (here : At q i done (· = .signalled) s) :
    let t : Board := {s with
      waiting := fun j => (s.waiting j).filter (fun sleeper => ¬ bitSet sleeper.1 i.other.waitBit)
      phase := Function.update s.phase i .none}
    guar q i (.futexWake i.other.waitBit) s t ∧ At q i done (· = .none) t := by
  intro t
  have own : t.phase i = .none := Function.update_self _ _ _
  have other_awake : t.waiting i.other = none := by
    rcases asleep : s.waiting i.other with _ | ⟨bits,count⟩
    · simp [t,asleep]
    · obtain ⟨rfl,_⟩ := here.inv.asleep _ bits count asleep
      have meets : bitSet i.other.waitBit i.other.waitBit := by
        cases i <;> decide
      simp [t,asleep,meets]
  have awake : t.waiting i = none := by simp [t,here.awake]
  have inv : Inv q t := by
    refine inv_sync q s s.word _ _ here.inv (fun j bits count asleep => ?_)
    rcases Side.eq_or_other i j with rfl | rfl
    · exact absurd (awake.symm.trans asleep) (by simp)
    · exact absurd (other_awake.symm.trans asleep) (by simp)
  refine ⟨fun _ => ⟨sees_sync q i s s.word _ _ inv ?_ (.inr other_awake) fun count before => ?_,?_⟩,
    ⟨⟨inv,here.log_eq,own⟩,awake⟩⟩
  · exact Function.update_of_ne i.other_ne _ _
  · rcases before with lacks | set | stored
    · exact .inl lacks
    · exact .inr (.inl set)
    · rw [Side.other_other,here.phase_ok] at stored
      contradiction
  · cases i <;> trivial

end Steps

section Programs
variable (q : SharedMemQueue) (permitted : Request → Prop) (i : Side) (calm : Phase → Prop)
variable (ok : List Block → Prop)

abbrev Triple {α : Type} (post : α → Board → Prop) (p : SyncM α) (s : Board) : Prop :=
  Safe (rely q i) ((handshake q permitted).step i) (duty q i calm ok) post p s

variable (done : List Block) (fine : ok done)

include fine in
theorem triple_wake (s : Board) (here : At q i done (· = .stored) s) :
    Triple q permitted i calm ok (fun ret t => ret = 0 ∧ At q i done (· = .none) t)
      (SharedMemQueueSyncer.wake i.other.waitBit) s := by
  refine safe_call (At q i done (· = .stored)) (SyncOp.fetchOr i.other.waitBit) _ s
    (at_stable q i done _) here ?_
  rintro t stored r u ⟨_,_,ran⟩
  obtain ⟨kept,after⟩ := fetchOr_step q i done t stored
  cases ran
  refine ⟨⟨kept,after.tracks fine,.inl trivial⟩,?_⟩
  have returns : ∀ t, At q i done (· = .none) t →
      Triple q permitted i calm ok (fun ret t => ret = 0 ∧ At q i done (· = .none) t)
        (.done hdfSuccess) t :=
    fun t after => safe_done hdfSuccess t
      (fun s t moved post => ⟨post.1,at_stable q i done _ s t moved post.2⟩) ⟨rfl,after⟩
  split_ifs at after ⊢ with set
  · exact returns _ after
  · refine safe_call (At q i done (· = .signalled)) (SyncOp.futexWake i.other.waitBit) _ _
      (at_stable q i done _) after ?_
    rintro v signalled ret w ⟨_,_,ran⟩
    obtain ⟨kept,after⟩ := futexWake_step q i done v signalled
    cases ran
    refine ⟨⟨kept,after.tracks fine,.inl trivial⟩,?_⟩
    rw [if_neg (Int.lt_irrefl 0)]
    exact returns _ after

/-- What a wait leaves: a side that is awake, and that may sleep again if told to try. -/
def Waited (q : SharedMemQueue) (i : Side) (calm : Phase → Prop) (done : List Block)
    (count : Nat) (ret : Int) (t : Board) : Prop :=
  (ret = 0 ∨ ret = -eintr ∨ ret = -eagain) ∧ At q i done calm t ∧
    (ret ≠ 0 → Served q i count → t.Ready q i count)

theorem waited_stable (count : Nat) (ret : Int) (s t : Board) (moved : rely q i s t)
    (waited : Waited q i calm done count ret s) : Waited q i calm done count ret t :=
  ⟨waited.1,at_stable q i done _ s t moved waited.2.1,fun again serves =>
    (moved waited.2.1.inv).ready count (waited.2.2 again serves)⟩

include fine in
theorem triple_futexWait (count : Nat) (s : Board) (here : At q i done calm s)
    (ready : Served q i count → s.Ready q i count) :
    Triple q permitted i calm ok (Waited q i calm done count)
      (SharedMemQueueSyncer.futexWait i.waitBit count) s := by
  have returns : ∀ ret t, Waited q i calm done count ret t →
      Triple q permitted i calm ok (Waited q i calm done count) (.done ret) t :=
    fun ret t waited => safe_done ret t (waited_stable q i calm done count ret) waited
  have stable : ∀ s t, rely q i s t →
      At q i done calm s ∧ (Served q i count → s.Ready q i count) →
        At q i done calm t ∧ (Served q i count → t.Ready q i count) :=
    fun s t moved before => ⟨at_stable q i done _ s t moved before.1,fun serves =>
      (moved before.1.inv).ready count (before.2 serves)⟩
  refine safe_call _ (SyncOp.fetchAnd (~~~i.waitBit)) _ s stable ⟨here,ready⟩ ?_
  rintro t ⟨here,ready⟩ old u ⟨_,_,ran⟩
  obtain ⟨kept,after,still⟩ := fetchAnd_step q i done t _ here
  cases ran
  refine ⟨⟨kept,after.tracks fine,.inr here.phase_ok⟩,?_⟩
  split_ifs with set
  · exact returns _ _ ⟨.inl rfl,after,fun again => absurd rfl again⟩
  refine safe_call _ (SyncOp.futexWait i.waitBit _ count) _ _ stable
    ⟨after,fun serves => still count set (ready serves)⟩ ?_
  rintro v ⟨here,ready⟩ slept w ⟨_,_,ran⟩
  simp only [handshake,exec] at ran
  split at ran
  next same =>
    have unset : ¬ bitSet v.word i.waitBit := by
      rw [same]
      exact not_bitSet_clear _ _
    obtain ⟨kept,asleep⟩ := futexWait_step q i done v _ here count unset ready
    cases ran
    rw [← same]
    refine ⟨⟨kept,asleep.tracks fine,.inr here.phase_ok⟩,?_⟩
    rw [if_neg (by decide)]
    refine safe_call (fun t => Rests q i done calm t ∧
      (Served q i count → t.Ready q i count)) SyncOp.futexResume _ _ ?_ ⟨asleep,ready⟩ ?_
    · exact fun s t moved before => ⟨rests_stable q i done _ s t moved before.1,fun serves =>
        (moved before.1.inv).ready count (before.2 serves)⟩
    rintro x ⟨resting,ready⟩ status y ⟨_,interrupted,ran⟩
    simp only [handshake,exec] at ran
    split_ifs at ran with awake
    · -- woken: the bit tells whether it was by the other side
      cases ran
      refine ⟨duty_refl resting fine _ (by cases i <;> trivial),?_⟩
      rw [if_pos rfl]
      refine safe_call _ (SyncOp.fetchAnd (~~~i.waitBit)) _ _ stable ⟨⟨resting,awake⟩,ready⟩ ?_
      rintro y ⟨here,ready⟩ old z ⟨_,_,ran⟩
      obtain ⟨kept,after,still⟩ := fetchAnd_step q i done y _ here
      cases ran
      refine ⟨⟨kept,after.tracks fine,.inr here.phase_ok⟩,?_⟩
      split_ifs with set
      · exact returns _ _ ⟨.inl rfl,after,fun again => absurd rfl again⟩
      · exact returns _ _ ⟨.inr (.inl rfl),after,fun _ serves => still count set (ready serves)⟩
    · -- interrupted by a signal
      obtain ⟨kept,after⟩ := futexResume_step q i done x _ resting
      cases ran
      refine ⟨⟨kept,after.tracks fine,.inr resting.phase_ok⟩,?_⟩
      rw [if_neg (by decide)]
      exact returns _ _ ⟨.inr (.inl rfl),after,fun _ => ready⟩
  next changed =>
    cases ran
    refine ⟨duty_refl here.toRests fine _ (by cases i <;> trivial),?_⟩
    rw [if_pos rfl]
    exact returns _ _ ⟨.inr (.inr rfl),here,fun _ => ready⟩

end Programs

end Board

end DriversAdapter.Smq
