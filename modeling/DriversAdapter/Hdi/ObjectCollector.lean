import DriversAdapter.Semantics.Keyed
import DriversAdapter.Semantics.Machine
import DriversAdapter.Semantics.Ownership
import Mathlib.Logic.Function.Basic

/-! The collector of the stub objects of interfaces, shared by threads: each critical section is
one step, and the read of a found entry, which comes after the lock is given back, is another. -/
namespace DriversAdapter.Hdi
open DriversAdapter.Semantics
open DriversAdapter.Semantics.Ownership (concat_eq_split)

abbrev U16String := List UInt16

/-- An interface, a stub and a constructor are known by their addresses; `none` is null. -/
abbrev InterfacePtr := Option Nat
abbrev StubPtr := Option Nat

/-- An entry of the map: a removed entry and a later one of the same key are different nodes. -/
structure Node where
  id : Nat
  second : StubPtr
  deriving DecidableEq

/-- An entry that a thread has found, and not read yet. -/
structure Hit where
  interface : InterfacePtr
  node : Node

/-- What `GetOrNewObject` returned, and what `RemoveObject` removed. -/
inductive CollectorEvent
  | returned (interface : InterfacePtr) (stub : StubPtr)
  | removed (interface : InterfacePtr) (stub : StubPtr)
  deriving DecidableEq

structure ObjectCollector where
  constructorMapper : U16String → Option Nat
  interfaceObjectCollector : InterfacePtr → Option Node
  nodes : Nat
  found : Nat → Option Hit
  sptrRefCount : Nat → Nat
  crashed : Bool
  log : List CollectorEvent

namespace ObjectCollector

def opening : ObjectCollector :=
  ⟨fun _ => none,fun _ => none,0,fun _ => none,fun _ => 0,false,[]⟩

/-- `insert` keeps what is there. -/
def constructorRegister (interfaceName : U16String) (constructor : Nat) (s : ObjectCollector) :
    ObjectCollector :=
  if interfaceName = [] then s
  else
    match s.constructorMapper interfaceName with
    | some _ => s
    | none => {s with
        constructorMapper := Function.update s.constructorMapper interfaceName (some constructor)}

def constructorUnRegister (interfaceName : U16String) (s : ObjectCollector) : ObjectCollector :=
  {s with constructorMapper := Function.update s.constructorMapper interfaceName none}

/-- `constructed` is what the constructor, when it is called, returns. -/
def newObjectLocked (interface : InterfacePtr) (interfaceName : U16String) (constructed : StubPtr)
    (s : ObjectCollector) : StubPtr :=
  if interface = none then none
  else
    match s.constructorMapper interfaceName with
    | some _ => constructed
    | none => none

/-- One pass of `GetOrNewObject` through its critical section: it ends in front of the read of
the entry that was found, or with a sleep before the next pass, or with the return of a new
object. -/
def getOrNewObject (thread : Nat) (interface : InterfacePtr) (interfaceName : U16String)
    (constructed : StubPtr) (s : ObjectCollector) : ObjectCollector :=
  match s.interfaceObjectCollector interface with
  | some node =>
    match node.second with
    -- the reference count of null is asked for
    | none => {s with crashed := true}
    | some stub =>
      if s.sptrRefCount stub = 0 then s
      else {s with found := Function.update s.found thread (some ⟨interface,node⟩)}
  | none =>
    let object := s.newObjectLocked interface interfaceName constructed
    {s with
      interfaceObjectCollector :=
        Function.update s.interfaceObjectCollector interface (some ⟨s.nodes,object⟩)
      nodes := s.nodes + 1
      log := s.log ++ [.returned interface object]}

/-- `return it->second`, which reads freed memory when the entry is gone. -/
def returnFound (thread : Nat) (freed : StubPtr) (s : ObjectCollector) : ObjectCollector :=
  match s.found thread with
  | none => s
  | some hit =>
    let stub := if s.interfaceObjectCollector hit.interface = some hit.node then hit.node.second
      else freed
    {s with
      found := Function.update s.found thread none
      log := s.log ++ [.returned hit.interface stub]}

def removeObject (interface : InterfacePtr) (s : ObjectCollector) : Bool × ObjectCollector :=
  match s.interfaceObjectCollector interface with
  | none => (false,s)
  | some node => (true,{s with
      interfaceObjectCollector := Function.update s.interfaceObjectCollector interface none
      log := s.log ++ [.removed interface node.second]})

inductive CollectorStep
  | constructorRegister (interfaceName : U16String) (constructor : Nat)
  | constructorUnRegister (interfaceName : U16String)
  | getOrNewObject (thread : Nat) (interface : InterfacePtr) (interfaceName : U16String)
      (constructed : StubPtr)
  | returnFound (thread : Nat) (freed : StubPtr)
  | removeObject (interface : InterfacePtr)
  | sptrRefCount (stub count : Nat)

/-- A thread that has found an entry goes on to its read, and nothing goes on after a crash. -/
def step (c : CollectorStep) (s : ObjectCollector) : Unit × ObjectCollector :=
  if s.crashed = true then ((),s)
  else
    match c with
    | .constructorRegister interfaceName constructor =>
      ((),s.constructorRegister interfaceName constructor)
    | .constructorUnRegister interfaceName => ((),s.constructorUnRegister interfaceName)
    | .getOrNewObject thread interface interfaceName constructed =>
      match s.found thread with
      | some _ => ((),s)
      | none => ((),s.getOrNewObject thread interface interfaceName constructed)
    | .returnFound thread freed => ((),s.returnFound thread freed)
    | .removeObject interface => ((),(s.removeObject interface).2)
    | .sptrRefCount stub count =>
      ((),{s with sptrRefCount := Function.update s.sptrRefCount stub count})

/-- A miss creates a new object, and no entry is removed between being found and being read. -/
def Orderly (c : CollectorStep) (s : ObjectCollector) : Prop :=
  match c with
  | .getOrNewObject _ interface interfaceName constructed =>
    s.interfaceObjectCollector interface = none →
      interface ≠ none ∧ s.constructorMapper interfaceName ≠ none ∧ constructed ≠ none ∧
        ∀ other, .returned other constructed ∉ s.log
  | .removeObject interface => ∀ thread hit, s.found thread = some hit → hit.interface ≠ interface
  | _ => True

/-- Between two returns for an interface that differ, an object of it is removed. -/
def SameStub (log : List CollectorEvent) : Prop :=
  ∀ interface a b first middle last,
    log = first ++ .returned interface a :: (middle ++ .returned interface b :: last) →
      (∀ stub, .removed interface stub ∉ middle) → a = b

/-- An object that was removed is not returned from then on. -/
def NeverAgain (log : List CollectorEvent) : Prop :=
  ∀ interface stub first last, log = first ++ .removed interface stub :: last →
    ∀ other, .returned other stub ∉ last

/-- What the entries and the returns are to each other. -/
structure Sound (s : ObjectCollector) : Prop where
  created : ∀ interface node, s.interfaceObjectCollector interface = some node →
    node.second ≠ none ∧ .returned interface node.second ∈ s.log ∧
      ∀ other, .removed other node.second ∉ s.log
  alone : ∀ a b m n, s.interfaceObjectCollector a = some m → s.interfaceObjectCollector b = some n →
    m.second = n.second → a = b
  kept : ∀ interface stub first last, s.log = first ++ .returned interface stub :: last →
    (∀ other, .removed interface other ∉ last) →
      ∃ node, s.interfaceObjectCollector interface = some node ∧ node.second = stub
  gone : ∀ interface stub, .removed interface stub ∈ s.log → ∃ other, .returned other stub ∈ s.log
  found : ∀ thread hit, s.found thread = some hit →
    s.interfaceObjectCollector hit.interface = some hit.node
  same : SameStub s.log
  never : NeverAgain s.log

theorem sameStub_concat (log : List CollectorEvent) (e : CollectorEvent) (same : SameStub log)
    (last : ∀ interface a b first middle, e = .returned interface b →
      log = first ++ .returned interface a :: middle →
        (∀ stub, .removed interface stub ∉ middle) → a = b) : SameStub (log ++ [e]) := by
  intro interface a b first middle after split untouched
  rw [← List.cons_append,← List.append_assoc,concat_eq_split] at split
  rcases split with ⟨earlier,now,_⟩ | ⟨later,_,earlier⟩
  · exact last interface a b first middle now earlier untouched
  · rw [List.append_assoc,List.cons_append] at earlier
    exact same interface a b first middle later earlier untouched

theorem neverAgain_concat (log : List CollectorEvent) (e : CollectorEvent) (never : NeverAgain log)
    (last : ∀ interface stub other, e = .returned other stub → .removed interface stub ∉ log) :
    NeverAgain (log ++ [e]) := by
  intro interface stub first after split other again
  rcases (concat_eq_split _ _ _ _ _).mp split with ⟨_,_,rfl⟩ | ⟨later,rfl,earlier⟩
  · cases again
  · rcases List.mem_append.mp again with before | now
    · exact never interface stub first later earlier other before
    · refine last interface stub other (List.mem_singleton.mp now).symm ?_
      rw [earlier]
      simp

section Steps
variable (s : ObjectCollector) (sound : s.Sound)
include sound

theorem sound_create (interface : InterfacePtr) (object : StubPtr)
    (free : s.interfaceObjectCollector interface = none) (made : object ≠ none)
    (fresh : ∀ other, .returned other object ∉ s.log) :
    Sound {s with
      interfaceObjectCollector :=
        Function.update s.interfaceObjectCollector interface (some ⟨s.nodes,object⟩)
      nodes := s.nodes + 1
      log := s.log ++ [.returned interface object]} := by
  have unremoved (other : InterfacePtr) : .removed other object ∉ s.log := by
    intro removed
    obtain ⟨i,returned⟩ := sound.gone other object removed
    exact fresh i returned
  have elsewhere (i : InterfacePtr) (node : Node)
      (there : s.interfaceObjectCollector i = some node) : i ≠ interface := by
    rintro rfl
    rw [free] at there
    cases there
  refine ⟨?_,?_,?_,?_,?_,?_,?_⟩
  all_goals dsimp only
  · intro i node there
    rcases Keyed.update_cases there with ⟨rfl,now⟩ | ⟨_,before⟩
    · cases now
      refine ⟨made,by simp,fun other => ?_⟩
      simpa using unremoved other
    · obtain ⟨some_stub,returned,stays⟩ := sound.created i node before
      refine ⟨some_stub,List.mem_append_left _ returned,fun other => ?_⟩
      simpa using stays other
  · have differ (i : InterfacePtr) (n : Node) (there : s.interfaceObjectCollector i = some n) :
        n.second ≠ object := by
      rintro rfl
      exact fresh i (sound.created i n there).2.1
    intro a b m n atA atB same
    rcases Keyed.update_cases atA with ⟨hereA,newA⟩ | ⟨_,oldA⟩
    · rcases Keyed.update_cases atB with ⟨hereB,_⟩ | ⟨_,oldB⟩
      · exact hereA.trans hereB.symm
      · cases newA
        exact absurd same.symm (differ b n oldB)
    · rcases Keyed.update_cases atB with ⟨_,newB⟩ | ⟨_,oldB⟩
      · cases newB
        exact absurd same (differ a m oldA)
      · exact sound.alone a b m n oldA oldB same
  · intro i stub first last split untouched
    rcases (concat_eq_split _ _ _ _ _).mp split with ⟨_,now,rfl⟩ | ⟨later,rfl,earlier⟩
    · cases now
      exact ⟨_,Function.update_self _ _ _,rfl⟩
    · obtain ⟨node,there,same⟩ := sound.kept i stub first later earlier
        (fun other member => untouched other (List.mem_append_left _ member))
      exact ⟨node,by rw [Function.update_of_ne (elsewhere i node there)]; exact there,same⟩
  · intro i stub removed
    obtain ⟨other,returned⟩ := sound.gone i stub (by simpa using removed)
    exact ⟨other,List.mem_append_left _ returned⟩
  · intro thread hit held
    have there := sound.found thread hit held
    rw [Function.update_of_ne (elsewhere _ _ there)]
    exact there
  · apply sameStub_concat _ _ sound.same
    intro i a b first middle now earlier untouched
    cases now
    obtain ⟨node,there,_⟩ := sound.kept interface a first middle earlier untouched
    exact absurd rfl (elsewhere interface node there)
  · apply neverAgain_concat _ _ sound.never
    intro i stub other now
    cases now
    exact unremoved i

theorem sound_returnFound (thread : Nat) (freed : StubPtr) : (s.returnFound thread freed).Sound := by
  unfold returnFound
  split
  next => exact sound
  next hit held =>
    have there := sound.found thread hit held
    obtain ⟨some_stub,before,stays⟩ := sound.created _ _ there
    rw [if_pos there]
    refine ⟨?_,sound.alone,?_,?_,?_,?_,?_⟩
    all_goals dsimp only
    · intro i node present
      obtain ⟨some_stub,returned,unremoved⟩ := sound.created i node present
      refine ⟨some_stub,List.mem_append_left _ returned,fun other => ?_⟩
      simpa using unremoved other
    · intro i stub first last split untouched
      rcases (concat_eq_split _ _ _ _ _).mp split with ⟨_,now,rfl⟩ | ⟨later,rfl,earlier⟩
      · cases now
        exact ⟨_,there,rfl⟩
      · exact sound.kept i stub first later earlier
          (fun other member => untouched other (List.mem_append_left _ member))
    · intro i stub removed
      obtain ⟨other,returned⟩ := sound.gone i stub (by simpa using removed)
      exact ⟨other,List.mem_append_left _ returned⟩
    · intro t h holds
      exact sound.found t h (Keyed.erase_cases holds).2
    · apply sameStub_concat _ _ sound.same
      intro i a b first middle now earlier untouched
      cases now
      obtain ⟨node,present,rfl⟩ := sound.kept _ a first middle earlier untouched
      rw [there,Option.some.injEq] at present
      rw [present]
    · apply neverAgain_concat _ _ sound.never
      intro i stub other now
      cases now
      exact stays i

theorem sound_removeObject (interface : InterfacePtr)
    (unread : ∀ thread hit, s.found thread = some hit → hit.interface ≠ interface) :
    (s.removeObject interface).2.Sound := by
  unfold removeObject
  split
  next => exact sound
  next node there =>
    refine ⟨?_,?_,?_,?_,?_,?_,?_⟩
    all_goals dsimp only
    · intro i n present
      obtain ⟨other_key,old⟩ := Keyed.erase_cases present
      obtain ⟨some_stub,returned,stays⟩ := sound.created i n old
      refine ⟨some_stub,List.mem_append_left _ returned,fun other removed => ?_⟩
      rcases List.mem_append.mp removed with before | now
      · exact stays other before
      · obtain ⟨rfl,same⟩ := CollectorEvent.removed.inj (List.mem_singleton.mp now)
        exact other_key (sound.alone i _ n node old there same)
    · intro a b m n atA atB same
      exact sound.alone a b m n (Keyed.erase_cases atA).2 (Keyed.erase_cases atB).2 same
    · intro i stub first last split untouched
      rcases (concat_eq_split _ _ _ _ _).mp split with ⟨_,now,_⟩ | ⟨later,rfl,earlier⟩
      · cases now
      · obtain ⟨n,present,same⟩ := sound.kept i stub first later earlier
          (fun other member => untouched other (List.mem_append_left _ member))
        have other_key : i ≠ interface := by
          rintro rfl
          exact untouched node.second (by simp)
        exact ⟨n,by rw [Function.update_of_ne other_key]; exact present,same⟩
    · intro i stub removed
      rcases List.mem_append.mp removed with before | now
      · obtain ⟨other,returned⟩ := sound.gone i stub before
        exact ⟨other,List.mem_append_left _ returned⟩
      · obtain ⟨rfl,rfl⟩ := CollectorEvent.removed.inj (List.mem_singleton.mp now)
        exact ⟨i,List.mem_append_left _ (sound.created i node there).2.1⟩
    · intro thread hit held
      rw [Function.update_of_ne (unread thread hit held)]
      exact sound.found thread hit held
    · exact sameStub_concat _ _ sound.same (by simp)
    · exact neverAgain_concat _ _ sound.never (by simp)

theorem sound_same (t : ObjectCollector)
    (entries : t.interfaceObjectCollector = s.interfaceObjectCollector) (log : t.log = s.log)
    (found : ∀ thread hit, t.found thread = some hit →
      s.interfaceObjectCollector hit.interface = some hit.node) : t.Sound := by
  refine ⟨?_,?_,?_,?_,?_,?_,?_⟩
  · rw [entries,log]
    exact sound.created
  · rw [entries]
    exact sound.alone
  · rw [entries,log]
    exact sound.kept
  · rw [log]
    exact sound.gone
  · rw [entries]
    exact found
  · rw [log]
    exact sound.same
  · rw [log]
    exact sound.never

theorem sound_getOrNewObject (thread : Nat) (interface : InterfacePtr) (interfaceName : U16String)
    (constructed : StubPtr)
    (orderly : Orderly (.getOrNewObject thread interface interfaceName constructed) s) :
    (s.getOrNewObject thread interface interfaceName constructed).Sound := by
  unfold getOrNewObject
  split
  next node there =>
    split
    next => exact sound_same s sound _ rfl rfl sound.found
    next stub _ =>
      split_ifs
      · exact sound
      · refine sound_same s sound _ rfl rfl fun t hit held => ?_
        dsimp only at held
        rcases Keyed.update_cases held with ⟨_,now⟩ | ⟨_,before⟩
        · cases now
          exact there
        · exact sound.found t hit before
  next free =>
    obtain ⟨pointer,registered,made,fresh⟩ := orderly free
    obtain ⟨constructor,found⟩ := Option.ne_none_iff_exists'.mp registered
    have object : s.newObjectLocked interface interfaceName constructed = constructed := by
      unfold newObjectLocked
      rw [if_neg pointer,found]
    rw [object]
    exact sound_create s sound interface constructed free made fresh

theorem sound_step (c : CollectorStep) (orderly : Orderly c s) : (step c s).2.Sound := by
  unfold step
  split_ifs
  · exact sound
  cases c with
  | constructorRegister interfaceName constructor =>
    dsimp only
    unfold constructorRegister
    split_ifs
    · exact sound
    · split
      next => exact sound
      next => exact sound_same s sound _ rfl rfl sound.found
  | constructorUnRegister interfaceName => exact sound_same s sound _ rfl rfl sound.found
  | getOrNewObject thread interface interfaceName constructed =>
    dsimp only
    split
    next => exact sound
    next =>
      exact sound_getOrNewObject s sound thread interface interfaceName constructed orderly
  | returnFound thread freed => exact sound_returnFound s sound thread freed
  | removeObject interface => exact sound_removeObject s sound interface orderly
  | sptrRefCount stub count => exact sound_same s sound _ rfl rfl sound.found

end Steps

theorem sound_opening : opening.Sound := by
  refine ⟨?_,?_,?_,?_,?_,?_,?_⟩
  · intro _ _ there
    cases there
  · intro _ _ _ _ there
    cases there
  · intro _ _ first _ split
    simp [opening] at split
  · intro _ _ removed
    cases removed
  · intro _ _ held
    cases held
  · intro _ _ _ first _ _ split
    simp [opening] at split
  · intro _ _ first _ split
    simp [opening] at split

/-- No entry is null, a stub is the same for all returns until its removal, and it is not
returned after that. -/
def Identity (s : ObjectCollector) : Prop :=
  (∀ interface node, s.interfaceObjectCollector interface = some node → node.second ≠ none) ∧
    SameStub s.log ∧ NeverAgain s.log

/-- In every run of orderly steps of any threads the stubs keep their identity. -/
theorem orderly_identity (s : ObjectCollector)
    (reached : Machine.Reach step Orderly opening s) : s.Identity := by
  have sound := Machine.reach_invariant step Orderly opening Sound sound_opening
    (fun c s sound orderly => sound_step s sound c orderly) s reached
  exact ⟨fun interface node there => (sound.created interface node there).1,sound.same,sound.never⟩

def twoGets : List CollectorStep :=
  [.constructorRegister [73] 1,.getOrNewObject 1 (some 7) [73] (some 100),.sptrRefCount 100 1,
    .getOrNewObject 2 (some 7) [73] none,.returnFound 2 none,.removeObject (some 7),
    .getOrNewObject 1 (some 7) [73] (some 101)]

theorem orderly_identity_twoGets :
    (Machine.run step twoGets opening).2.log = [.returned (some 7) (some 100),
      .returned (some 7) (some 100),.removed (some 7) (some 100),.returned (some 7) (some 101)] ∧
      (Machine.run step twoGets opening).2.Identity := by
  refine ⟨by decide,?_⟩
  apply orderly_identity
  apply Machine.reach_run step Orderly opening twoGets opening .start
  refine ⟨trivial,?_,trivial,?_,trivial,?_,?_,trivial⟩
  · exact fun _ => ⟨by decide,by decide,by decide,fun other => List.not_mem_nil⟩
  · intro free
    cases free
  · intro thread hit held
    by_cases reader : thread = 2
    · subst thread
      cases held
    · simp [step,constructorRegister,getOrNewObject,newObjectLocked,returnFound,opening] at held
  · refine fun _ => ⟨by decide,by decide,by decide,fun other => ?_⟩
    simp [step,constructorRegister,getOrNewObject,newObjectLocked,returnFound,removeObject,opening]

/-- Without a constructor a null stub is entered; with a removal between the lookup and its read,
the removed stub is returned. -/
theorem identity_lost :
    (∃ node, (Machine.run step [.getOrNewObject 1 (some 7) [73] none] opening).2.interfaceObjectCollector
      (some 7) = some node ∧ node.second = none) ∧
    (Machine.run step [.constructorRegister [73] 1,.getOrNewObject 1 (some 7) [73] (some 100),
      .sptrRefCount 100 1,.getOrNewObject 2 (some 7) [73] none,.removeObject (some 7),
      .returnFound 2 (some 100)] opening).2.log = [.returned (some 7) (some 100),
        .removed (some 7) (some 100),.returned (some 7) (some 100)] ∧
    ¬ (∀ steps, (Machine.run step steps opening).2.Identity) := by
  refine ⟨⟨⟨0,none⟩,by decide,rfl⟩,by decide,fun always => ?_⟩
  have entry : (Machine.run step [.getOrNewObject 1 (some 7) [73] none]
    opening).2.interfaceObjectCollector (some 7) = some ⟨0,none⟩ := by decide
  exact (always _).1 _ _ entry rfl

end ObjectCollector

end DriversAdapter.Hdi
