import DriversAdapter.Semantics.Keyed
import DriversAdapter.Semantics.Machine
import DriversAdapter.Smq.Meta
import Mathlib.Logic.Function.Basic

/-! The descriptors that queue descriptions hold: what a copy, a new descriptor, a message
and the end of an object do to the descriptors of the process. -/
namespace DriversAdapter.Smq
open DriversAdapter.Base DriversAdapter.Semantics

/-- A process with its open descriptors and its `SharedMemQueueMeta` objects, both numbered
as they come. Besides, what the objects have obtained and closed: `strayCloses` are the
descriptors closed and `peerDups` those duplicated for a peer while no object owned them. -/
structure Process where
  table : Int → Option Nat
  next : Nat
  objects : Nat → Option SharedMemQueueMeta
  built : Nat
  obtained : List (Nat × Nat)
  closes : Nat → Nat
  strayCloses : List Nat
  peerDups : List Nat

namespace Process

def Owned (n : Int) (s : Process) : Prop :=
  ∃ o < s.built, ∃ m ∈ s.objects o, m.ashmemFd = n

instance (n : Int) (s : Process) : Decidable (s.Owned n) :=
  inferInstanceAs (Decidable (∃ o < s.built, ∃ m ∈ s.objects o, m.ashmemFd = n))

/-- The kernel opens a descriptor under a number that is free. -/
def openFd (chosen : Option Int) (s : Process) : Int × Process :=
  match chosen with
  | none => (-1,s)
  | some n =>
    if n < 0 ∨ (s.table n).isSome then (-1,s)
    else (n,{s with table := Function.update s.table n (some s.next),next := s.next + 1})

def close (n : Int) (s : Process) : Process :=
  match s.table n with
  | none => s
  | some d => {s with
      table := Function.update s.table n none
      closes := Function.update s.closes d (s.closes d + 1)
      strayCloses := if s.Owned n then s.strayCloses else d :: s.strayCloses}

/-- The copy is made for a `peer` when the number comes from its message. -/
def dup (peer : Bool) (n : Int) (chosen : Option Int) (s : Process) : Int × Process :=
  match s.table n with
  | none => (-1,s)
  | some d =>
    let fd := s.openFd chosen
    if peer ∧ 0 ≤ fd.1 ∧ ¬ s.Owned n then (fd.1,{fd.2 with peerDups := d :: fd.2.peerDups}) else fd

def obtain (o : Nat) (fd : Int) (s : Process) : Process :=
  match s.table fd with
  | none => s
  | some d => {s with obtained := s.obtained ++ [(o,d)]}

def place (m : SharedMemQueueMeta) (s : Process) : Process :=
  {s with objects := Function.update s.objects s.built (some m),built := s.built + 1}

/-- The constructor from an element count and a type, and a descriptor. -/
def construct (sizeofT : Nat) (zones : MemZoneType → MemZone) (fd : Int) (elementCount : UInt64)
    (type : UInt32) (s : Process) : Process :=
  s.place (.make sizeofT zones fd elementCount type)

/-- The copy constructor, in storage whose bytes read `stale` where the descriptor will be. -/
def copy (peer : Bool) (other : SharedMemQueueMeta) (stale : Int) (chosen : Option Int)
    (s : Process) : Process :=
  let s := if 0 ≤ stale then s.close stale else s
  let fd := s.dup peer other.ashmemFd chosen
  (fd.2.place {other with ashmemFd := fd.1}).obtain s.built fd.1

def setFd (o : Nat) (fd : Int) (s : Process) : Process :=
  match s.objects o with
  | none => s
  | some m =>
    let s := if 0 ≤ m.ashmemFd then s.close m.ashmemFd else s
    {s with objects := Function.update s.objects o (some {m with ashmemFd := fd})}.obtain o fd

def unMarshalling (readBuffer : Option SharedMemQueueMeta) (readFd : Option Int) (stale : Int)
    (chosen : Option Int) (s : Process) : Process :=
  match readBuffer with
  | none => s
  | some readMeta =>
    let fd := s.openFd readFd
    if fd.1 < 0 then fd.2
    else (fd.2.copy true readMeta stale chosen).setFd s.built fd.1

def destroy (o : Nat) (s : Process) : Process :=
  {s with objects := Function.update s.objects o none}

end Process

inductive MetaCall
  | construct (fd : Int) (elementCount : UInt64) (type : UInt32) (zones : MemZoneType → MemZone)
  | copy (other : Nat) (stale : Int) (chosen : Option Int)
  | setFd (o : Nat) (fd : Int)
  | unMarshalling (readBuffer : Option SharedMemQueueMeta) (readFd : Option Int) (stale : Int)
      (chosen : Option Int)
  | destroy (o : Nat)
  -- what the rest of the process does with its own descriptors
  | openOther (chosen : Option Int)
  | closeOther (n : Int)

namespace Process
variable (sizeofT : Nat)

def step (call : MetaCall) (s : Process) : Unit × Process :=
  match call with
  | .construct fd elementCount type zones => ((),s.construct sizeofT zones fd elementCount type)
  | .copy other stale chosen => match s.objects other with
    | none => ((),s)
    | some m => ((),s.copy false m stale chosen)
  | .setFd o fd => ((),s.setFd o fd)
  | .unMarshalling readBuffer readFd stale chosen =>
    ((),s.unMarshalling readBuffer readFd stale chosen)
  | .destroy o => ((),s.destroy o)
  | .openOther chosen => ((),(s.openFd chosen).2)
  | .closeOther n => ((),if s.Owned n then s else {s with table := Function.update s.table n none})

/-- What an object obtained is closed once when it is gone, and nothing is closed or
duplicated for a peer that no object owned. -/
structure Accounted (s : Process) : Prop where
  released : ∀ o d, (o,d) ∈ s.obtained → s.objects o = none → s.closes d = 1
  strayCloses : s.strayCloses = []
  peerDups : s.peerDups = []

/-- No descriptor, or one that is open and no object owns. -/
def Spare (fd : Int) (s : Process) : Prop := fd < 0 ∨ ((s.table fd).isSome = true ∧ ¬ s.Owned fd)

/-- Objects are given spare descriptors, their storage names no open one, peers name none
but owned ones, and what an object has when it ends it did not obtain. -/
def Careful (call : MetaCall) (s : Process) : Prop :=
  match call with
  | .construct fd _ _ _ => s.Spare fd
  | .copy _ stale _ => s.table stale = none
  | .setFd _ fd => s.Spare fd
  | .unMarshalling readBuffer readFd stale chosen => ∀ readMeta, readBuffer = some readMeta →
      0 ≤ (s.openFd readFd).1 → (s.openFd readFd).2.table stale = none ∧
        (chosen = none ∨ (s.openFd readFd).2.table readMeta.ashmemFd = none ∨
          (s.openFd readFd).2.Owned readMeta.ashmemFd)
  | .destroy o => ∀ m d, s.objects o = some m → s.table m.ashmemFd = some d → (o,d) ∉ s.obtained
  | .openOther _ | .closeOther _ => True

def boot : Process := ⟨fun _ => none,0,fun _ => none,0,[],fun _ => 0,[],[]⟩

/-- Descriptors are numbered apart, every object has one of its own or none, and what an
object obtained it still has or has closed. -/
structure Sound (s : Process) : Prop where
  positive : ∀ n, (s.table n).isSome = true → 0 ≤ n
  fresh : ∀ n d, s.table n = some d → d < s.next ∧ s.closes d = 0
  later : ∀ d, s.next ≤ d → s.closes d = 0
  apart : ∀ n n' d, s.table n = some d → s.table n' = some d → n = n'
  built : ∀ o m, s.objects o = some m → o < s.built
  held : ∀ o m, s.objects o = some m → m.ashmemFd < 0 ∨ (s.table m.ashmemFd).isSome = true
  sole : ∀ o o' m m', s.objects o = some m → s.objects o' = some m' → 0 ≤ m.ashmemFd →
    m.ashmemFd = m'.ashmemFd → o = o'
  known : ∀ o d, (o,d) ∈ s.obtained →
    (∃ m, s.objects o = some m ∧ s.table m.ashmemFd = some d) ∨ s.closes d = 1
  strayCloses : s.strayCloses = []
  peerDups : s.peerDups = []

section Sound
variable {s : Process} (sound : s.Sound)

include sound in
theorem owned_iff (n : Int) : s.Owned n ↔ ∃ o m, s.objects o = some m ∧ m.ashmemFd = n := by
  constructor
  · rintro ⟨o,_,m,here,same⟩
    exact ⟨o,m,here,same⟩
  · rintro ⟨o,m,here,same⟩
    exact ⟨o,sound.built o m here,m,here,same⟩

theorem close_absent (n : Int) (absent : s.table n = none) :
    (if 0 ≤ n then s.close n else s) = s := by
  unfold close
  rw [absent]
  split <;> rfl

theorem openFd_cases (chosen : Option Int) (s : Process) : s.openFd chosen = (-1,s) ∨
    ∃ n, 0 ≤ n ∧ s.table n = none ∧ s.openFd chosen =
      (n,{s with table := Function.update s.table n (some s.next),next := s.next + 1}) := by
  cases chosen with
  | none => exact .inl rfl
  | some n =>
    by_cases taken : n < 0 ∨ (s.table n).isSome = true
    · exact .inl (by simp only [openFd,taken,if_true])
    · refine .inr ⟨n,?_,?_,by simp only [openFd,taken,if_false]⟩
      · omega
      · simpa using fun some => taken (.inr some)

include sound in
theorem sound_opened (n : Int) (positive : 0 ≤ n) (absent : s.table n = none) :
    Sound {s with table := Function.update s.table n (some s.next),next := s.next + 1} := by
  have elsewhere : ∀ k d, Function.update s.table n (some s.next) k = some d →
      (k = n ∧ d = s.next) ∨ (k ≠ n ∧ s.table k = some d) := by
    intro k d here
    exact (Keyed.update_cases here).imp (And.imp_right fun now => (Option.some.inj now).symm) id
  have stays : ∀ k d, s.table k = some d →
      Function.update s.table n (some s.next) k = some d := by
    intro k d here
    rwa [Function.update_of_ne]
    rintro rfl
    rw [absent] at here
    contradiction
  refine ⟨?_,?_,?_,?_,sound.built,?_,sound.sole,?_,sound.strayCloses,sound.peerDups⟩
  · intro k some
    obtain ⟨d,here⟩ := Option.isSome_iff_exists.mp some
    rcases elsewhere k d here with ⟨rfl,_⟩ | ⟨_,was⟩
    · exact positive
    · exact sound.positive k (by simp [was])
  · intro k d here
    rcases elsewhere k d here with ⟨_,rfl⟩ | ⟨_,was⟩
    · exact ⟨Nat.lt_succ_self _,sound.later _ (Nat.le_refl _)⟩
    · exact ⟨Nat.lt_succ_of_lt (sound.fresh k d was).1,(sound.fresh k d was).2⟩
  · exact fun d after => sound.later d (Nat.le_of_succ_le after)
  · intro k k' d here there
    rcases elsewhere k d here with ⟨rfl,rfl⟩ | ⟨_,was⟩
    · rcases elsewhere k' _ there with ⟨rfl,_⟩ | ⟨_,was'⟩
      · rfl
      · exact absurd (sound.fresh k' _ was').1 (Nat.lt_irrefl _)
    · rcases elsewhere k' d there with ⟨rfl,rfl⟩ | ⟨_,was'⟩
      · exact absurd (sound.fresh k _ was).1 (Nat.lt_irrefl _)
      · exact sound.apart k k' d was was'
  · intro o m here
    rcases sound.held o m here with none | some
    · exact .inl none
    · obtain ⟨d,was⟩ := Option.isSome_iff_exists.mp some
      exact .inr (by simp [stays _ d was])
  · intro o d member
    rcases sound.known o d member with ⟨m,here,has⟩ | closed
    · exact .inl ⟨m,here,stays _ d has⟩
    · exact .inr closed

include sound in
theorem sound_openFd (chosen : Option Int) : (s.openFd chosen).2.Sound := by
  rcases openFd_cases chosen s with failed | ⟨n,positive,absent,opened⟩
  · rw [failed]
    exact sound
  · rw [opened]
    exact sound_opened sound n positive absent

include sound in
theorem spare_openFd (chosen : Option Int) (valid : 0 ≤ (s.openFd chosen).1) :
    (s.openFd chosen).2.Spare (s.openFd chosen).1 := by
  rcases openFd_cases chosen s with failed | ⟨n,positive,absent,opened⟩
  · rw [failed] at valid
    contradiction
  · rw [opened]
    refine .inr ⟨by simp,?_⟩
    rintro ⟨o,_,m,here,same⟩
    have held := sound.held o m here
    simp only at same
    rw [same,absent] at held
    rcases held with negative | some
    · omega
    · contradiction

include sound in
theorem sound_place (m : SharedMemQueueMeta) (spare : s.Spare m.ashmemFd) : (s.place m).Sound := by
  have elsewhere : ∀ o m', Function.update s.objects s.built (some m) o = some m' →
      (o = s.built ∧ m' = m) ∨ (o ≠ s.built ∧ s.objects o = some m') := by
    intro o m' here
    exact (Keyed.update_cases here).imp (And.imp_right fun now => (Option.some.inj now).symm) id
  have unowned : ∀ o m', s.objects o = some m' → 0 ≤ m.ashmemFd → m'.ashmemFd ≠ m.ashmemFd := by
    intro o m' here positive same
    rcases spare with negative | ⟨_,free⟩
    · omega
    · exact free ((owned_iff sound _).mpr ⟨o,m',here,same⟩)
  refine ⟨sound.positive,sound.fresh,sound.later,sound.apart,?_,?_,?_,?_,sound.strayCloses,
    sound.peerDups⟩
  · intro o m' here
    rcases elsewhere o m' here with ⟨rfl,_⟩ | ⟨_,was⟩
    · exact Nat.lt_succ_self _
    · exact Nat.lt_succ_of_lt (sound.built o m' was)
  · intro o m' here
    rcases elsewhere o m' here with ⟨_,rfl⟩ | ⟨_,was⟩
    · exact spare.imp id And.left
    · exact sound.held o m' was
  · intro o o' m1 m2 here there positive same
    rcases elsewhere o m1 here with ⟨rfl,rfl⟩ | ⟨_,was⟩
    · rcases elsewhere o' m2 there with ⟨rfl,_⟩ | ⟨_,was'⟩
      · rfl
      · exact absurd same.symm (unowned o' m2 was' positive)
    · rcases elsewhere o' m2 there with ⟨rfl,rfl⟩ | ⟨_,was'⟩
      · exact absurd same (unowned o m1 was (same ▸ positive))
      · exact sound.sole o o' m1 m2 was was' positive same
  · intro o d member
    rcases sound.known o d member with ⟨m',here,has⟩ | closed
    · have older : o ≠ s.built := Nat.ne_of_lt (sound.built o m' here)
      exact .inl ⟨m',by simp [place,Function.update_of_ne older,here],has⟩
    · exact .inr closed

include sound in
theorem sound_obtain (o : Nat) (m : SharedMemQueueMeta) (here : s.objects o = some m) :
    (s.obtain o m.ashmemFd).Sound := by
  unfold obtain
  split
  · exact sound
  next d has =>
    refine ⟨sound.positive,sound.fresh,sound.later,sound.apart,sound.built,sound.held,sound.sole,?_,
      sound.strayCloses,sound.peerDups⟩
    intro o' d' member
    rcases List.mem_append.mp member with before | new
    · exact sound.known o' d' before
    · obtain ⟨rfl,rfl⟩ := Prod.mk.inj (List.mem_singleton.mp new)
      exact .inl ⟨m,here,has⟩

include sound in
/-- An object without a descriptor has obtained nothing that is still open. -/
theorem known_replaced (o : Nat) (m : SharedMemQueueMeta) (here : s.objects o = some m)
    (none : m.ashmemFd < 0) (new : Option SharedMemQueueMeta) (o' d : Nat)
    (member : (o',d) ∈ s.obtained) :
    (∃ m', Function.update s.objects o new o' = some m' ∧ s.table m'.ashmemFd = some d) ∨
      s.closes d = 1 := by
  rcases sound.known o' d member with ⟨m',was,has⟩ | closed
  · have other : o' ≠ o := by
      rintro rfl
      cases here.symm.trans was
      have positive := sound.positive m.ashmemFd (by simp [has])
      omega
    exact .inl ⟨m',by simp [Function.update_of_ne other,was],has⟩
  · exact .inr closed

include sound in
theorem sound_give (o : Nat) (m : SharedMemQueueMeta) (here : s.objects o = some m) (fd : Int)
    (none : m.ashmemFd < 0) (spare : s.Spare fd) :
    Sound {s with objects := Function.update s.objects o (some {m with ashmemFd := fd})} := by
  have elsewhere : ∀ o' m', Function.update s.objects o (some {m with ashmemFd := fd}) o' = some m' →
      (o' = o ∧ m'.ashmemFd = fd) ∨ (o' ≠ o ∧ s.objects o' = some m') := by
    intro o' m' now
    rcases Keyed.update_cases now with ⟨same,⟨⟩⟩ | other
    · exact .inl ⟨same,rfl⟩
    · exact .inr other
  have unowned : ∀ o' m', s.objects o' = some m' → 0 ≤ fd → m'.ashmemFd ≠ fd := by
    intro o' m' was positive same
    rcases spare with negative | ⟨_,free⟩
    · omega
    · exact free ((owned_iff sound _).mpr ⟨o',m',was,same⟩)
  refine ⟨sound.positive,sound.fresh,sound.later,sound.apart,?_,?_,?_,?_,sound.strayCloses,
    sound.peerDups⟩
  · intro o' m' now
    rcases elsewhere o' m' now with ⟨rfl,_⟩ | ⟨_,was⟩
    · exact sound.built o' m here
    · exact sound.built o' m' was
  · intro o' m' now
    rcases elsewhere o' m' now with ⟨rfl,given⟩ | ⟨_,was⟩
    · rw [given]
      exact spare.imp id And.left
    · exact sound.held o' m' was
  · intro o1 o2 m1 m2 now then_ positive same
    rcases elsewhere o1 m1 now with ⟨rfl,given⟩ | ⟨_,was⟩
    · rcases elsewhere o2 m2 then_ with ⟨rfl,_⟩ | ⟨_,was'⟩
      · rfl
      · exact absurd (same.symm.trans given) (unowned o2 m2 was' (given ▸ positive))
    · rcases elsewhere o2 m2 then_ with ⟨rfl,given⟩ | ⟨_,was'⟩
      · exact absurd (same.trans given) (unowned o1 m1 was (by omega))
      · exact sound.sole o1 o2 m1 m2 was was' positive same
  · exact known_replaced sound o m here none _

/-- The object closes its descriptor and has none. -/
def release (o : Nat) (m : SharedMemQueueMeta) (s : Process) : Process :=
  let s := if 0 ≤ m.ashmemFd then s.close m.ashmemFd else s
  {s with objects := Function.update s.objects o (some {m with ashmemFd := -1})}

include sound in
theorem close_owned (o : Nat) (m : SharedMemQueueMeta) (here : s.objects o = some m) (d : Nat)
    (has : s.table m.ashmemFd = some d) : s.close m.ashmemFd = {s with
      table := Function.update s.table m.ashmemFd none
      closes := Function.update s.closes d 1} := by
  have owned : s.Owned m.ashmemFd := (owned_iff sound _).mpr ⟨o,m,here,rfl⟩
  have first := (sound.fresh _ d has).2
  simp [close,has,owned,first]

section Release
variable {o : Nat} {m : SharedMemQueueMeta} (here : s.objects o = some m)

/-- The other objects are as they were, and the one that closes has no descriptor. -/
theorem released_object {o' : Nat} {m' : SharedMemQueueMeta}
    (now : Function.update s.objects o (some {m with ashmemFd := -1}) o' = some m') :
    (o' = o ∧ m'.ashmemFd = -1) ∨ (o' ≠ o ∧ s.objects o' = some m') := by
  rcases Keyed.update_cases now with ⟨same,⟨⟩⟩ | other
  · exact .inl ⟨same,rfl⟩
  · exact .inr other

include sound here in
theorem released_built (o' : Nat) (m' : SharedMemQueueMeta)
    (now : Function.update s.objects o (some {m with ashmemFd := -1}) o' = some m') :
    o' < s.built := by
  rcases released_object now with ⟨rfl,_⟩ | ⟨_,was⟩
  · exact sound.built o' m here
  · exact sound.built o' m' was

include sound in
theorem released_sole (o1 o2 : Nat) (m1 m2 : SharedMemQueueMeta)
    (now : Function.update s.objects o (some {m with ashmemFd := -1}) o1 = some m1)
    (too : Function.update s.objects o (some {m with ashmemFd := -1}) o2 = some m2)
    (positive : 0 ≤ m1.ashmemFd) (same : m1.ashmemFd = m2.ashmemFd) : o1 = o2 := by
  rcases released_object now with ⟨_,gone⟩ | ⟨_,was⟩
  · omega
  · rcases released_object too with ⟨_,gone⟩ | ⟨_,was'⟩
    · omega
    · exact sound.sole o1 o2 m1 m2 was was' positive same

include sound here in
theorem sound_release_idle (negative : m.ashmemFd < 0) : (s.release o m).Sound := by
  have idle : s.release o m =
      {s with objects := Function.update s.objects o (some {m with ashmemFd := -1})} := by
    simp [release,Int.not_le.mpr negative]
  rw [idle]
  refine ⟨sound.positive,sound.fresh,sound.later,sound.apart,released_built sound here,?_,
    released_sole sound,?_,sound.strayCloses,sound.peerDups⟩
  · intro o' m' now
    rcases released_object now with ⟨_,gone⟩ | ⟨_,was⟩
    · exact .inl (by omega)
    · exact sound.held o' m' was
  · exact known_replaced sound o m here negative _

include sound here in
theorem sound_release_closed (d : Nat) (has : s.table m.ashmemFd = some d) :
    (s.release o m).Sound := by
  have positive := sound.positive m.ashmemFd (by simp [has])
  have closed : s.release o m = {s with
      table := Function.update s.table m.ashmemFd none
      closes := Function.update s.closes d 1
      objects := Function.update s.objects o (some {m with ashmemFd := -1})} := by
    simp [release,positive,close_owned sound o m here d has]
  have remains : ∀ n d', Function.update s.table m.ashmemFd none n = some d' →
      n ≠ m.ashmemFd ∧ s.table n = some d' := fun n d' now => Keyed.erase_cases now
  have still : ∀ d', d' ≠ d → Function.update s.closes d 1 d' = s.closes d' := fun d' other =>
    Function.update_of_ne other _ _
  rw [closed]
  refine ⟨?_,?_,?_,?_,released_built sound here,?_,released_sole sound,?_,sound.strayCloses,
    sound.peerDups⟩
  · intro n open_
    obtain ⟨d',now⟩ := Option.isSome_iff_exists.mp open_
    exact sound.positive n (by simp [(remains n d' now).2])
  · intro n d' now
    obtain ⟨other,was⟩ := remains n d' now
    have apart : d' ≠ d := by
      rintro rfl
      exact other (sound.apart _ _ _ was has)
    exact ⟨(sound.fresh n d' was).1,(still d' apart).trans (sound.fresh n d' was).2⟩
  · intro d' after
    have apart : d' ≠ d := by
      rintro rfl
      exact Nat.not_lt.mpr after (sound.fresh _ _ has).1
    exact (still d' apart).trans (sound.later d' after)
  · intro n n' d' now now'
    exact sound.apart n n' d' (remains n d' now).2 (remains n' d' now').2
  · intro o' m' now
    rcases released_object now with ⟨_,gone⟩ | ⟨other,was⟩
    · exact .inl (by omega)
    · rcases sound.held o' m' was with negative | open_
      · exact .inl negative
      · have distinct : m'.ashmemFd ≠ m.ashmemFd := fun same =>
          other (sound.sole o' o m' m was here (same ▸ positive) same)
        exact .inr (by simpa [Function.update_of_ne distinct] using open_)
  · intro o' d' member
    by_cases apart : d' = d
    · subst apart
      exact .inr (Function.update_self _ _ _)
    · rcases sound.known o' d' member with ⟨m',was,has'⟩ | already
      · have other : o' ≠ o := by
          rintro rfl
          cases here.symm.trans was
          exact apart (Option.some.inj (has'.symm.trans has))
        have distinct : m'.ashmemFd ≠ m.ashmemFd := by
          intro same
          rw [same,has] at has'
          exact apart (Option.some.inj has'.symm)
        exact .inl ⟨m',by simp [Function.update_of_ne other,was],
          by simpa [Function.update_of_ne distinct] using has'⟩
      · exact .inr ((still d' apart).trans already)

end Release

include sound in
theorem sound_release (o : Nat) (m : SharedMemQueueMeta) (here : s.objects o = some m) :
    (s.release o m).Sound := by
  rcases sound.held o m here with negative | there
  · exact sound_release_idle sound here negative
  · obtain ⟨d,has⟩ := Option.isSome_iff_exists.mp there
    exact sound_release_closed sound here d has

include sound in
theorem spare_release (o : Nat) (m : SharedMemQueueMeta) (here : s.objects o = some m) (fd : Int)
    (spare : s.Spare fd) : (s.release o m).Spare fd := by
  rcases spare with negative | ⟨open_,free⟩
  · exact .inl negative
  · have positive := sound.positive fd open_
    have distinct : fd ≠ m.ashmemFd := fun same =>
      free ((owned_iff sound _).mpr ⟨o,m,here,same.symm⟩)
    refine .inr ⟨?_,?_⟩
    · rcases sound.held o m here with negative | some
      · simpa [release,Int.not_le.mpr negative] using open_
      · obtain ⟨d,has⟩ := Option.isSome_iff_exists.mp some
        simpa [release,close_owned sound o m here d has,sound.positive _ some,
          Function.update_of_ne distinct] using open_
    · intro owned
      obtain ⟨o',m',now,same⟩ := (owned_iff (sound_release sound o m here) fd).mp owned
      have objects : (s.release o m).objects = Function.update s.objects o
          (some {m with ashmemFd := -1}) := by
        unfold release close
        dsimp only
        split
        · split <;> rfl
        · rfl
      rw [objects,Function.update_apply] at now
      split at now
      · obtain rfl := Option.some.inj now
        dsimp only at same
        omega
      · exact free ((owned_iff sound _).mpr ⟨o',m',now,same⟩)

include sound in
theorem sound_setFd (o : Nat) (fd : Int) (spare : s.Spare fd) : (s.setFd o fd).Sound := by
  cases here : s.objects o with
  | none => simpa [setFd,here] using sound
  | some m =>
    have released := sound_release sound o m here
    have given := spare_release sound o m here fd spare
    have emptied : (s.release o m).objects o = some {m with ashmemFd := -1} := by
      simp [release]
    have negative : (-1 : Int) < 0 := by decide
    have sound' := sound_give released o _ emptied fd negative given
    have same : s.setFd o fd = Process.obtain o fd {s.release o m with
        objects := Function.update (s.release o m).objects o (some {m with ashmemFd := fd})} := by
      simp [setFd,here,release]
    rw [same]
    exact sound_obtain sound' o {m with ashmemFd := fd} (by simp)

theorem dup_careful (peer : Bool) (n : Int) (chosen : Option Int)
    (careful : peer = true → chosen = none ∨ s.table n = none ∨ s.Owned n) :
    s.dup peer n chosen = (-1,s) ∨ s.dup peer n chosen = s.openFd chosen := by
  unfold dup
  split
  · exact .inl rfl
  next d has =>
    refine .inr (if_neg ?_)
    rintro ⟨isPeer,valid,free⟩
    rcases careful isPeer with rfl | absent | owned
    · contradiction
    · rw [has] at absent
      contradiction
    · exact free owned

include sound in
theorem openFd_spec (chosen : Option Int) : (s.openFd chosen).2.Sound ∧
    (s.openFd chosen).2.Spare (s.openFd chosen).1 ∧
    (s.openFd chosen).2.objects = s.objects ∧ (s.openFd chosen).2.built = s.built ∧
    ∀ n, (s.table n).isSome = true →
      ((s.openFd chosen).2.table n).isSome = true ∧ n ≠ (s.openFd chosen).1 := by
  have opened := sound_openFd sound chosen
  have spare := spare_openFd sound chosen
  rcases openFd_cases chosen s with failed | ⟨k,positive,absent,done⟩
  · rw [failed] at opened ⊢
    have negative : (-1 : Int) < 0 := by decide
    refine ⟨opened,.inl negative,rfl,rfl,fun n here => ⟨here,?_⟩⟩
    have positive := sound.positive n here
    dsimp only
    omega
  · rw [done] at opened spare ⊢
    refine ⟨opened,spare positive,rfl,rfl,fun n here => ?_⟩
    have other : n ≠ k := by
      rintro rfl
      rw [absent] at here
      contradiction
    exact ⟨by simpa [Function.update_of_ne other] using here,other⟩

include sound in
/-- A copy is an object with a descriptor that was spare, or none where `dup` failed. -/
theorem copy_cases (peer : Bool) (other : SharedMemQueueMeta) (stale : Int) (chosen : Option Int)
    (absent : s.table stale = none)
    (careful : peer = true → chosen = none ∨ s.table other.ashmemFd = none ∨ s.Owned other.ashmemFd) :
    ∃ fd u, s.copy peer other stale chosen =
        (place {other with ashmemFd := fd} u).obtain u.built fd ∧
      u.Sound ∧ u.Spare fd ∧ u.objects = s.objects ∧ u.built = s.built ∧
      ∀ n, (s.table n).isSome = true → (u.table n).isSome = true ∧ n ≠ fd := by
  have unfolded : s.copy peer other stale chosen =
      (place {other with ashmemFd := (s.dup peer other.ashmemFd chosen).1}
        (s.dup peer other.ashmemFd chosen).2).obtain s.built
          (s.dup peer other.ashmemFd chosen).1 := by
    rw [copy,close_absent stale absent]
  rw [unfolded]
  rcases dup_careful peer other.ashmemFd chosen careful with failed | opened
  · rw [failed]
    refine ⟨-1,s,rfl,sound,.inl (by decide),rfl,rfl,fun n here => ⟨here,?_⟩⟩
    have positive := sound.positive n here
    omega
  · obtain ⟨after,spare,objects,built,kept⟩ := openFd_spec sound chosen
    rw [opened]
    exact ⟨_,_,by rw [built],after,spare,objects,built,kept⟩

theorem obtain_same (o : Nat) (fd : Int) (s : Process) : (s.obtain o fd).table = s.table ∧
    (s.obtain o fd).objects = s.objects ∧ (s.obtain o fd).built = s.built := by
  unfold obtain
  split <;> exact ⟨rfl,rfl,rfl⟩

include sound in
theorem sound_copy (peer : Bool) (other : SharedMemQueueMeta) (stale : Int) (chosen : Option Int)
    (absent : s.table stale = none)
    (careful : peer = true → chosen = none ∨ s.table other.ashmemFd = none ∨ s.Owned other.ashmemFd) :
    (s.copy peer other stale chosen).Sound ∧
      ∀ fd, 0 ≤ fd → s.Spare fd → (s.copy peer other stale chosen).Spare fd := by
  obtain ⟨fd,u,same,after,spare,objects,built,kept⟩ :=
    copy_cases sound peer other stale chosen absent careful
  have placed := sound_place after {other with ashmemFd := fd} spare
  have whole := sound_obtain placed u.built {other with ashmemFd := fd} (by simp [place])
  obtain ⟨table,objects',_⟩ := obtain_same u.built fd (u.place {other with ashmemFd := fd})
  rw [same]
  refine ⟨whole,?_⟩
  rintro k positive (negative | ⟨open_,free⟩)
  · omega
  · obtain ⟨stays,distinct⟩ := kept k open_
    refine .inr ⟨?_,?_⟩
    · rw [table]
      exact stays
    · intro owned
      obtain ⟨o,m,now,named⟩ := (owned_iff whole k).mp owned
      have here := (congrFun objects' o).symm.trans now
      simp only [place,Function.update_apply] at here
      split at here
      · obtain rfl := Option.some.inj here
        exact distinct named.symm
      · rw [objects] at here
        exact free ((owned_iff sound k).mpr ⟨o,m,here,named⟩)

include sound in
theorem sound_unMarshalling (readBuffer : Option SharedMemQueueMeta) (readFd : Option Int)
    (stale : Int) (chosen : Option Int)
    (careful : Careful (.unMarshalling readBuffer readFd stale chosen) s) :
    (s.unMarshalling readBuffer readFd stale chosen).Sound := by
  unfold unMarshalling
  cases readBuffer with
  | none => exact sound
  | some readMeta =>
    obtain ⟨opened,spare,_,built,_⟩ := openFd_spec sound readFd
    dsimp only
    split
    · exact opened
    next valid =>
      obtain ⟨absent,peer⟩ := careful readMeta rfl (Int.not_lt.mp valid)
      obtain ⟨copied,kept⟩ := sound_copy opened true readMeta stale chosen absent fun _ => peer
      exact sound_setFd copied s.built _ (kept _ (Int.not_lt.mp valid) spare)

include sound in
theorem sound_destroy (o : Nat) (careful : Careful (.destroy o) s) : (s.destroy o).Sound := by
  have before : ∀ o' m, Function.update s.objects o none o' = some m →
      o' ≠ o ∧ s.objects o' = some m := fun o' m now => Keyed.erase_cases now
  refine ⟨sound.positive,sound.fresh,sound.later,sound.apart,?_,?_,?_,?_,sound.strayCloses,
    sound.peerDups⟩
  · exact fun o' m now => sound.built o' m (before o' m now).2
  · exact fun o' m now => sound.held o' m (before o' m now).2
  · exact fun o1 o2 m1 m2 now then_ =>
      sound.sole o1 o2 m1 m2 (before o1 m1 now).2 (before o2 m2 then_).2
  · intro o' d member
    rcases sound.known o' d member with ⟨m,here,has⟩ | closed
    · by_cases same : o' = o
      · subst same
        exact absurd member (careful m d here has)
      · exact .inl ⟨m,by simpa [destroy,Function.update_of_ne same] using here,has⟩
    · exact .inr closed

include sound in
/-- What no object owns may be closed by its owner. -/
theorem sound_closeOther (n : Int) (free : ¬ s.Owned n) :
    Sound {s with table := Function.update s.table n none} := by
  have before : ∀ k d, Function.update s.table n none k = some d → s.table k = some d :=
    fun k d now => (Keyed.erase_cases now).2
  have owned : ∀ o m, s.objects o = some m → m.ashmemFd ≠ n := fun o m here same =>
    free ((owned_iff sound n).mpr ⟨o,m,here,same⟩)
  refine ⟨?_,?_,sound.later,?_,sound.built,?_,sound.sole,?_,sound.strayCloses,sound.peerDups⟩
  · intro k open_
    obtain ⟨d,now⟩ := Option.isSome_iff_exists.mp open_
    exact sound.positive k (by simp [before k d now])
  · exact fun k d now => sound.fresh k d (before k d now)
  · exact fun k k' d now then_ => sound.apart k k' d (before k d now) (before k' d then_)
  · intro o m here
    have held := sound.held o m here
    simpa [Function.update_of_ne (owned o m here)] using held
  · intro o d member
    rcases sound.known o d member with ⟨m,here,has⟩ | closed
    · exact .inl ⟨m,here,by simpa [Function.update_of_ne (owned o m here)] using has⟩
    · exact .inr closed

include sound in
theorem sound_step (sizeofT : Nat) (call : MetaCall) (careful : Careful call s) :
    (step sizeofT call s).2.Sound := by
  cases call with
  | construct fd elementCount type zones =>
    have given : (SharedMemQueueMeta.make sizeofT zones fd elementCount type).ashmemFd = fd := by
      unfold SharedMemQueueMeta.make
      dsimp only
      split <;> rfl
    have spare : s.Spare (SharedMemQueueMeta.make sizeofT zones fd elementCount type).ashmemFd := by
      rw [given]
      exact careful
    exact sound_place sound _ spare
  | copy other stale chosen =>
    cases here : s.objects other with
    | none => simpa [step,here] using sound
    | some m =>
      have copied := (sound_copy sound false m stale chosen careful (by simp)).1
      simpa [step,here] using copied
  | setFd o fd => exact sound_setFd sound o fd careful
  | unMarshalling readBuffer readFd stale chosen =>
    exact sound_unMarshalling sound readBuffer readFd stale chosen careful
  | destroy o => exact sound_destroy sound o careful
  | openOther chosen => exact sound_openFd sound chosen
  | closeOther n =>
    simp only [step]
    split
    · exact sound
    next free => exact sound_closeOther sound n free

include sound in
theorem accounted_of_sound : s.Accounted := by
  refine ⟨?_,sound.strayCloses,sound.peerDups⟩
  intro o d member gone
  rcases sound.known o d member with ⟨m,here,_⟩ | closed
  · rw [gone] at here
    contradiction
  · exact closed

end Sound

section Objects
variable (s : Process)

theorem close_same (n : Int) : (s.close n).objects = s.objects ∧ (s.close n).built = s.built := by
  unfold close
  split <;> exact ⟨rfl,rfl⟩

theorem openFd_same (chosen : Option Int) :
    (s.openFd chosen).2.objects = s.objects ∧ (s.openFd chosen).2.built = s.built := by
  rcases openFd_cases chosen s with failed | ⟨n,_,_,opened⟩
  · rw [failed]
    exact ⟨rfl,rfl⟩
  · rw [opened]
    exact ⟨rfl,rfl⟩

theorem dup_same (peer : Bool) (n : Int) (chosen : Option Int) :
    (s.dup peer n chosen).2.objects = s.objects ∧ (s.dup peer n chosen).2.built = s.built := by
  have opened := s.openFd_same chosen
  unfold dup
  split
  · exact ⟨rfl,rfl⟩
  · dsimp only
    split <;> exact opened

/-- A copy has all the fields of the other object but the descriptor. -/
theorem copy_object (peer : Bool) (other : SharedMemQueueMeta) (stale : Int) (chosen : Option Int) :
    ∃ fd, (s.copy peer other stale chosen).objects s.built = some {other with ashmemFd := fd} := by
  have built : (if 0 ≤ stale then s.close stale else s).built = s.built := by
    split
    · exact (s.close_same stale).2
    · rfl
  unfold copy
  generalize (if 0 ≤ stale then s.close stale else s) = u at built ⊢
  refine ⟨(u.dup peer other.ashmemFd chosen).1,?_⟩
  rw [(obtain_same _ _ _).2.1,place,(u.dup_same peer other.ashmemFd chosen).2,built]
  exact Function.update_self _ _ _

/-- The object that a message becomes is the one the queue is built from. -/
theorem unMarshalling_object (sound : s.Sound) (readBuffer : Option SharedMemQueueMeta)
    (readFd : Option Int) (stale : Int) (chosen : Option Int) :
    (s.unMarshalling readBuffer readFd stale chosen).objects s.built =
      SharedMemQueueMeta.unMarshalling ⟨readBuffer,(s.openFd readFd).1⟩ := by
  have unbuilt : s.objects s.built = none := by
    cases here : s.objects s.built with
    | none => rfl
    | some m => exact absurd (sound.built _ m here) (Nat.lt_irrefl _)
  obtain ⟨objects,built⟩ := s.openFd_same readFd
  cases readBuffer with
  | none => exact unbuilt
  | some readMeta =>
    simp only [unMarshalling,SharedMemQueueMeta.unMarshalling]
    split
    · rw [objects,unbuilt]
    · obtain ⟨fd,copied⟩ := (s.openFd readFd).2.copy_object true readMeta stale chosen
      rw [built] at copied
      simp [setFd,copied,(obtain_same _ _ _).2.1]

end Objects

theorem sound_boot : boot.Sound := by
  constructor <;> simp [boot]

end Process

/-- In a run of careful calls every descriptor that an object obtained is closed once when
the object is gone, and no other is closed or duplicated for a peer. -/
theorem smqDescriptors_accounted (sizeofT : Nat) (s : Process)
    (reached : Machine.Reach (Process.step sizeofT) Process.Careful Process.boot s) :
    s.Accounted := by
  have sound := Machine.reach_invariant (Process.step sizeofT) Process.Careful Process.boot
    Process.Sound Process.sound_boot (fun call s sound careful =>
      Process.sound_step sound sizeofT call careful) s reached
  exact Process.accounted_of_sound sound

private def plain (fd : Int) : SharedMemQueueMeta := ⟨fd,0,0,8,1,fun _ => ⟨0,0⟩⟩

/-- A queue is given its memory, copied and received from a peer, and every object gives
its descriptor up before it ends. -/
private def tidy : List MetaCall :=
  [.openOther (some 3),.construct (-1) 0 1 (fun _ => ⟨0,0⟩),.setFd 0 3,.copy 0 (-7) (some 4),
    .setFd 1 (-1),.destroy 1,.unMarshalling (some (plain (-1))) (some 5) 9 (some 6),
    .setFd 2 (-1),.destroy 2]

theorem smqDescriptors_accounted_tidy :
    (Machine.run (Process.step 8) tidy Process.boot).2.obtained = [(0,0),(1,1),(2,2)] ∧
      (Machine.run (Process.step 8) tidy Process.boot).2.Accounted := by
  refine ⟨by decide,smqDescriptors_accounted 8 _
    (Machine.reach_run _ Process.Careful Process.boot tidy _ .start ?_)⟩
  refine ⟨trivial,.inl (by decide),.inr ⟨by decide,by decide⟩,rfl,.inl (by decide),?_,?_,
    .inl (by decide),?_,trivial⟩
  · rintro m d ⟨⟩ has
    cases has
  · rintro _ ⟨⟩ _
    exact ⟨rfl,.inr (.inl rfl)⟩
  · rintro m d ⟨⟩ has
    cases has

/-- A queue is received from a peer, and its description ends. -/
private def received : List MetaCall :=
  [.unMarshalling (some (plain (-1))) (some 5) (-1) none,.destroy 0]

theorem smqDescriptors_leaked_received :
    ¬ ∀ s, Machine.Reach (Process.step 8) (fun _ _ => True) Process.boot s → s.Accounted := by
  intro accounted
  have account := accounted _ (Machine.reach_run _ (fun _ _ => True) Process.boot received _ .start
    ⟨trivial,trivial,trivial⟩)
  have once := account.released 0 0 (by decide) (by rfl)
  exact absurd once (by decide)

end DriversAdapter.Smq
