import DriversAdapter.Svc.Remotes
import DriversAdapter.Semantics.Interleaving
import DriversAdapter.Semantics.Keyed

/-! Several clients at once: which client holds an object that is not registered, and what
keeps every object from being released twice. Between the steps of a handler, those of
other requests and of the death callback may come. -/
namespace DriversAdapter.Svc
open DriversAdapter.Base DriversAdapter.Semantics DriversAdapter.Semantics.Program

/-- What a client asks for, and the notification that the remote of a service has died. -/
inductive Client
  | add (data : Parcel)
  | update (data : Parcel)
  | remove (data : Parcel)
  | died (remote : RemoteId)

/-- The stub, with a record of what each client has looked up, of the object it has made
and not registered, and of the one it has taken from the registry and not released. -/
structure Census (ι κ : Type) where
  stub : StubState κ
  seen : ι → Option ObjectId
  made : ι → Option ObjectId
  replaced : ι → Option ObjectId

variable {ι κ : Type} [DecidableEq ι]

namespace Census

def opening (start : StubState κ) : Census ι κ :=
  ⟨start,fun _ => none,fun _ => none,fun _ => none⟩

/-- Client `i` has changed the entry of what it has looked up. -/
def replace (i : ι) (s : Census ι κ) : Census ι κ :=
  {s with
    made := Function.update s.made i none
    replaced := Function.update s.replaced i (s.seen i)}

/-- What the record gains by an operation of client `i`. -/
def note (core : IDevSvcManager κ) (i : ι) (s : Census ι κ) : (op : StubOp) → op.Res → Census ι κ
  | .getObject _, found => {s with seen := Function.update s.seen i found}
  | .readTarget _, found => {s with seen := Function.update s.seen i found}
  | .obtainServiceObject _ _, obtained => {s with made := Function.update s.made i obtained}
  | .addService _ _ _ _, ret => if ret = hdfSuccess then s.replace i else s
  | .updateService _ _ _ _, ret => if ret = hdfSuccess then s.replace i else s
  | .removeService _, _ => s.replace i
  | .getService name, _ =>
    if core.getObject name s.stub.core = s.seen i then s
    else {s with replaced := Function.update s.replaced i (s.seen i)}
  | .freeServiceObject o, _ =>
    {s with
      made := Function.update s.made i ((s.made i).filter (· ≠ o))
      replaced := Function.update s.replaced i ((s.replaced i).filter (· ≠ o))}
  | _, _ => s

end Census

def exec (core : IDevSvcManager κ) (i : ι) (op : StubOp) (out : Outcomes) (s : Census ι κ) :
    Option (op.Res × Census ι κ) :=
  let served := serve core out op s.stub
  some (served.1,{s.note core i op served.1 with stub := served.2})

def Client.body : Client → StubM (Unit ⊕ Int)
  | .add data => do return .inr (← DevSvcManagerStub.addService data)
  | .update data => do return .inr (← DevSvcManagerStub.updateService data)
  | .remove data => do return .inr (← DevSvcManagerStub.removeService data)
  | .died remote => do
    DevSvcManagerStub.onServiceDied remote
    return .inr hdfSuccess

def traffic (core : IDevSvcManager κ) (permitted : ι → StubOp → Census ι κ → Prop) :
    System ι StubOp StubOp.Res Client Unit Int Outcomes (Census ι κ) where
  exec := exec core
  entry _ := ()
  body client _ := client.body
  allowed _ _ := True
  permitted := permitted

/-- The registry still has under the name what client `i` has looked up there. -/
def Current (core : IDevSvcManager κ) (base : Nat) (i : ι) (name : String) (s : Census ι κ) : Prop :=
  ∀ o, base ≤ o → s.seen i = some o → core.getObject name s.stub.core = some o

/-- Nobody changes an entry behind the back of a request that has looked it up, and the
death callback finds its object registered, or in nobody's hands. The objects from `base`
on are those of the stub. -/
def Undisturbed (core : IDevSvcManager κ) (base : Nat) (i : ι) (op : StubOp) (s : Census ι κ) : Prop :=
  match op with
  | .addService name devClass o info =>
    (core.addService name devClass o info s.stub.core).1 = hdfSuccess → Current core base i name s
  | .updateService name devClass o info =>
    (core.updateService name devClass o info s.stub.core).1 = hdfSuccess →
      Current core base i name s
  | .removeService name => Current core base i name s
  | .getService name => ∀ o, base ≤ o → s.seen i = some o →
      core.getObject name s.stub.core = some o ∨
        s.stub.released o = 0 ∧ ∀ j, s.made j ≠ some o ∧ s.replaced j ≠ some o
  | _ => True

namespace Census

section Invariant
variable (core : IDevSvcManager κ) (base : Nat)

structure Sound (s : Census ι κ) : Prop where
  base_le : base ≤ s.stub.objectCount
  mapped : ∀ name o, base ≤ o → core.getObject name s.stub.core = some o →
    o < s.stub.objectCount ∧ s.stub.released o = 0 ∧ (s.stub.object o).priv = some name ∧
      ∀ i, s.made i ≠ some o ∧ s.replaced i ≠ some o
  made : ∀ i o, s.made i = some o → base ≤ o ∧ o < s.stub.objectCount ∧ s.stub.released o = 0 ∧
    ∀ j, (j ≠ i → s.made j ≠ some o) ∧ s.replaced j ≠ some o
  replaced : ∀ i o, base ≤ o → s.replaced i = some o →
    o < s.stub.objectCount ∧ s.stub.released o = 0 ∧ ∀ j, j ≠ i → s.replaced j ≠ some o
  linked : ∀ r o, base ≤ o → (s.stub.remote r).target = some o → o < s.stub.objectCount ∧
    (s.stub.released o = 0 → (s.stub.object o).service = some r)
  fresh : ∀ o, s.stub.objectCount ≤ o → s.stub.released o = 0
  once : ∀ o, base ≤ o → s.stub.released o ≤ 1

/-- What no step does to the objects of others. -/
structure Kept (s t : Census ι κ) : Prop where
  count_le : s.stub.objectCount ≤ t.stub.objectCount
  object_eq : ∀ o < s.stub.objectCount, t.stub.released o = 0 →
    s.stub.released o = 0 ∧ t.stub.object o = s.stub.object o

/-- What client `i` finds after steps of the others. -/
structure Sees (i : ι) (s t : Census ι κ) : Prop extends Kept s t where
  sound : Sound core base t
  seen_eq : t.seen i = s.seen i
  made_eq : t.made i = s.made i
  replaced_eq : t.replaced i = s.replaced i

def rely (i : ι) (s t : Census ι κ) : Prop := Sound core base s → Sees core base i s t

/-- No object of the stub is released while it is registered. -/
def Harmless (op : StubOp) (s : Census ι κ) : Prop :=
  match op with
  | .freeServiceObject o => base ≤ o → ∀ name, core.getObject name s.stub.core ≠ some o
  | _ => True

def guar (i : ι) (op : StubOp) (s t : Census ι κ) : Prop :=
  Sound core base s → Sound core base t ∧ Kept s t ∧ Harmless core base op s ∧
    ∀ j, j ≠ i → t.seen j = s.seen j ∧ t.made j = s.made j ∧ t.replaced j = s.replaced j

omit [DecidableEq ι] in
theorem kept_refl (s : Census ι κ) : Kept s s := ⟨Nat.le_refl _,fun _ _ alive => ⟨alive,rfl⟩⟩

omit [DecidableEq ι] in
theorem kept_trans (s t u : Census ι κ) (first : Kept s t) (second : Kept t u) : Kept s u := by
  refine ⟨Nat.le_trans first.count_le second.count_le,fun o old alive => ?_⟩
  obtain ⟨before,same⟩ := second.object_eq o (Nat.lt_of_lt_of_le old first.count_le) alive
  obtain ⟨earlier,still⟩ := first.object_eq o old before
  exact ⟨earlier,same.trans still⟩

omit [DecidableEq ι] in
theorem rely_refl (i : ι) (s : Census ι κ) : rely core base i s s :=
  fun sound => ⟨kept_refl s,sound,rfl,rfl,rfl⟩

omit [DecidableEq ι] in
theorem rely_trans (i : ι) (s t u : Census ι κ) (first : rely core base i s t)
    (second : rely core base i t u) : rely core base i s u := by
  intro sound
  have near := first sound
  have far := second near.sound
  exact ⟨kept_trans s t u near.toKept far.toKept,far.sound,far.seen_eq.trans near.seen_eq,
    far.made_eq.trans near.made_eq,far.replaced_eq.trans near.replaced_eq⟩

end Invariant

section Steps
variable (core : IDevSvcManager κ) (base : Nat) (i : ι) (s : Census ι κ)

theorem guar_same (op : StubOp) (harmless : Harmless core base op s) (stub : StubState κ)
    (seen : Option ObjectId)
    (lookup : ∀ name, core.getObject name stub.core = core.getObject name s.stub.core)
    (object_eq : stub.object = s.stub.object) (count_eq : stub.objectCount = s.stub.objectCount)
    (released_eq : stub.released = s.stub.released)
    (linked : ∀ r o, (stub.remote r).target = some o → (s.stub.remote r).target = some o) :
    guar core base i op s {s with stub := stub, seen := Function.update s.seen i seen} := by
  intro sound
  refine ⟨⟨?_,?_,?_,?_,?_,?_,?_⟩,⟨?_,?_⟩,harmless,fun j other => ⟨?_,rfl,rfl⟩⟩
  all_goals dsimp only
  · rw [count_eq]
    exact sound.base_le
  · rw [count_eq,released_eq,object_eq]
    intro name o ours found
    exact sound.mapped name o ours ((lookup name).symm.trans found)
  · rw [count_eq,released_eq]
    exact sound.made
  · rw [count_eq,released_eq]
    exact sound.replaced
  · rw [count_eq,released_eq,object_eq]
    exact fun r o made here => sound.linked r o made (linked r o here)
  · rw [count_eq,released_eq]
    exact sound.fresh
  · rw [released_eq]
    exact sound.once
  · rw [count_eq]
  · rw [released_eq,object_eq]
    exact fun o _ alive => ⟨alive,rfl⟩
  · exact Function.update_of_ne other _ _

theorem guar_readRemoteService (binder : Option UInt64) :
    guar core base i (.readRemoteService binder) s
      {s with stub := (s.stub.readRemoteService binder).2} := by
  have same := guar_same core base i s (.readRemoteService binder) trivial
    (s.stub.readRemoteService binder).2 (s.seen i)
  rw [Function.update_eq_self] at same
  cases binder with
  | none => exact same (fun _ => rfl) rfl rfl rfl (fun _ _ target => target)
  | some index =>
    refine same (fun _ => rfl) rfl rfl rfl (fun r o target => ?_)
    dsimp only [StubState.readRemoteService] at target
    by_cases new : r = s.stub.remoteCount
    · subst r
      rw [Function.update_self] at target
      contradiction
    · rwa [Function.update_of_ne new] at target

/-- What client `i` has looked up is in nobody's hands, so it may take it. -/
theorem taken_alone (sound : Sound core base s)
    (nobody : ∀ o, base ≤ o → s.seen i = some o → o < s.stub.objectCount ∧
      s.stub.released o = 0 ∧ ∀ j, s.made j ≠ some o ∧ s.replaced j ≠ some o) (j : ι)
    (o : ObjectId) (ours : base ≤ o)
    (takes : Function.update s.replaced i (s.seen i) j = some o) :
    o < s.stub.objectCount ∧ s.stub.released o = 0 ∧
      ∀ l, l ≠ j → Function.update s.replaced i (s.seen i) l ≠ some o := by
  rcases Keyed.update_cases takes with ⟨rfl,saw⟩ | ⟨own,before⟩
  · obtain ⟨within,alive,alone⟩ := nobody o ours saw
    refine ⟨within,alive,fun l differs also => ?_⟩
    rcases Keyed.update_cases also with ⟨same,_⟩ | ⟨_,earlier⟩
    · exact differs same
    · exact (alone l).2 earlier
  · obtain ⟨within,alive,alone⟩ := sound.replaced j o ours before
    refine ⟨within,alive,fun l differs also => ?_⟩
    rcases Keyed.update_cases also with ⟨_,saw⟩ | ⟨_,earlier⟩
    · exact ((nobody o ours saw).2.2 j).2 before
    · exact alone l differs earlier

/-- The entry of a name changes, and client `i` takes what it has looked up there. -/
theorem guar_replace (op : StubOp) (harmless : Harmless core base op s) (name : String) (k : κ)
    (entry : Option ObjectId)
    (lookup : ∀ other, core.getObject other k =
      if other = name then entry else core.getObject other s.stub.core)
    (mine : ∀ o, base ≤ o → entry = some o →
      s.made i = some o ∧ (s.stub.object o).priv = some name)
    (current : Current core base i name s) :
    guar core base i op s {s.replace i with stub := {s.stub with core := k}} := by
  intro sound
  have registered : ∀ o, base ≤ o → s.seen i = some o → o < s.stub.objectCount ∧
      s.stub.released o = 0 ∧ (s.stub.object o).priv = some name ∧
        ∀ j, s.made j ≠ some o ∧ s.replaced j ≠ some o :=
    fun o ours saw => sound.mapped name o ours (current o ours saw)
  refine ⟨⟨sound.base_le,?_,?_,?_,sound.linked,sound.fresh,sound.once⟩,
    ⟨Nat.le_refl _,fun _ _ alive => ⟨alive,rfl⟩⟩,harmless,
    fun j other => ⟨rfl,Function.update_of_ne other _ _,Function.update_of_ne other _ _⟩⟩
  · intro other o ours found
    have found : core.getObject other k = some o := found
    rw [lookup] at found
    split_ifs at found with same
    · subst same
      obtain ⟨makes,named⟩ := mine o ours found
      obtain ⟨_,within,alive,alone⟩ := sound.made i o makes
      refine ⟨within,alive,named,fun j => ⟨fun also => ?_,fun takes => ?_⟩⟩
      · obtain ⟨own,before⟩ := Keyed.erase_cases also
        exact (alone j).1 own before
      · rcases Keyed.update_cases takes with ⟨_,saw⟩ | ⟨_,before⟩
        · exact ((registered o ours saw).2.2.2 i).1 makes
        · exact (alone j).2 before
    · obtain ⟨within,alive,named,alone⟩ := sound.mapped other o ours found
      refine ⟨within,alive,named,fun j => ⟨fun also => ?_,fun takes => ?_⟩⟩
      · exact (alone j).1 (Keyed.erase_cases also).2
      · rcases Keyed.update_cases takes with ⟨_,saw⟩ | ⟨_,before⟩
        · have named_too := (registered o ours saw).2.2.1
          exact same (Option.some.inj (named.symm.trans named_too))
        · exact (alone j).2 before
  · intro j o makes
    obtain ⟨ours,within,alive,alone⟩ := sound.made j o (Keyed.erase_cases makes).2
    refine ⟨ours,within,alive,fun l => ⟨fun differs also => ?_,fun takes => ?_⟩⟩
    · exact (alone l).1 differs (Keyed.erase_cases also).2
    · rcases Keyed.update_cases takes with ⟨_,saw⟩ | ⟨_,before⟩
      · exact ((registered o ours saw).2.2.2 j).1 (Keyed.erase_cases makes).2
      · exact (alone l).2 before
  · refine taken_alone core base i s sound (fun o ours saw => ?_)
    obtain ⟨within,alive,_,alone⟩ := registered o ours saw
    exact ⟨within,alive,alone⟩

/-- Client `i` holds the object alone, or it is none of the stub's. -/
def Holds (base : Nat) (i : ι) (o : ObjectId) (s : Census ι κ) : Prop :=
  s.made i = some o ∨ s.replaced i = some o ∨ o < base

theorem filter_ne (found : Option ObjectId) (o other : ObjectId) :
    found.filter (· ≠ o) = some other ↔ found = some other ∧ other ≠ o := by
  rw [Option.filter_eq_some_iff]
  simp

/-- What a client still holds after it has let go of one object. -/
theorem freed_field (field : ι → Option ObjectId) (o : ObjectId) (j : ι) (other : ObjectId)
    (now : Function.update field i ((field i).filter (· ≠ o)) j = some other) :
    field j = some other ∧ (j = i → other ≠ o) := by
  rcases Keyed.update_cases now with ⟨rfl,kept⟩ | ⟨own,before⟩
  · rw [filter_ne] at kept
    exact ⟨kept.1,fun _ => kept.2⟩
  · exact ⟨before,fun same => absurd same own⟩

section Free
variable {core base i s} {o : ObjectId} (sound : Sound core base s) (holds : Holds base i o s)

include sound holds

omit [DecidableEq ι] in
theorem holds_alive (ours : base ≤ o) : o < s.stub.objectCount ∧ s.stub.released o = 0 := by
  rcases holds with makes | takes | foreign
  · exact ⟨(sound.made i o makes).2.1,(sound.made i o makes).2.2.1⟩
  · exact ⟨(sound.replaced i o ours takes).1,(sound.replaced i o ours takes).2.1⟩
  · exact absurd ours (Nat.not_le.mpr foreign)

omit [DecidableEq ι] in
theorem holds_unmapped (ours : base ≤ o) (name : String) :
    core.getObject name s.stub.core ≠ some o := by
  intro found
  have alone := (sound.mapped name o ours found).2.2.2 i
  rcases holds with makes | takes | foreign
  · exact alone.1 makes
  · exact alone.2 takes
  · exact absurd ours (Nat.not_le.mpr foreign)

theorem freed_made_ne (j : ι) (other : ObjectId)
    (now : Function.update s.made i ((s.made i).filter (· ≠ o)) j = some other) : other ≠ o := by
  rintro rfl
  obtain ⟨makes,own⟩ := freed_field i s.made other j other now
  obtain ⟨ours,_,_,alone⟩ := sound.made j other makes
  by_cases mine : j = i
  · exact own mine rfl
  · rcases holds with also | takes | foreign
    · exact (alone i).1 (Ne.symm mine) also
    · exact (alone i).2 takes
    · exact absurd ours (Nat.not_le.mpr foreign)

theorem freed_replaced_ne (j : ι) (other : ObjectId) (ours : base ≤ other)
    (now : Function.update s.replaced i ((s.replaced i).filter (· ≠ o)) j = some other) :
    other ≠ o := by
  rintro rfl
  obtain ⟨takes,own⟩ := freed_field i s.replaced other j other now
  by_cases mine : j = i
  · exact own mine rfl
  · rcases holds with makes | also | foreign
    · exact ((sound.made i other makes).2.2.2 j).2 takes
    · exact (sound.replaced j other ours takes).2.2 i (Ne.symm mine) also
    · exact absurd ours (Nat.not_le.mpr foreign)

omit sound holds [DecidableEq ι] in
theorem freed_others (other : ObjectId) (differs : other ≠ o) :
    (s.stub.freeServiceObject o).released other = s.stub.released other ∧
      (s.stub.freeServiceObject o).object other = s.stub.object other := by
  rw [s.stub.freeServiceObject_released o,s.stub.freeServiceObject_objects o,
    Function.update_of_ne differs,Function.update_of_ne differs]
  exact ⟨rfl,rfl⟩

theorem sound_free : Sound core base
    {s.note core i (.freeServiceObject o) () with stub := s.stub.freeServiceObject o} := by
  have count_eq := s.stub.freeServiceObject_objectCount o
  have released_eq := s.stub.freeServiceObject_released o
  have others := freed_others (s := s) (o := o)
  have alive := holds_alive sound holds
  have fewer_made := freed_field i s.made o
  have fewer_replaced := freed_field i s.replaced o
  refine ⟨?_,?_,?_,?_,?_,?_,?_⟩
  all_goals dsimp only [note]
  · rw [count_eq]
    exact sound.base_le
  · rw [s.stub.freeServiceObject_core o,count_eq]
    intro name other ours found
    obtain ⟨within,unreleased,named,alone⟩ := sound.mapped name other ours found
    have differs : other ≠ o := fun same =>
      holds_unmapped sound holds (same ▸ ours) name (same ▸ found)
    rw [(others other differs).1,(others other differs).2]
    exact ⟨within,unreleased,named,fun j => ⟨fun makes => (alone j).1 (fewer_made j other makes).1,
      fun takes => (alone j).2 (fewer_replaced j other takes).1⟩⟩
  · intro j other makes
    rw [count_eq,(others other (freed_made_ne sound holds j other makes)).1]
    obtain ⟨ours,within,unreleased,alone⟩ := sound.made j other (fewer_made j other makes).1
    exact ⟨ours,within,unreleased,fun l =>
      ⟨fun differs also => (alone l).1 differs (fewer_made l other also).1,
        fun takes => (alone l).2 (fewer_replaced l other takes).1⟩⟩
  · intro j other ours takes
    rw [count_eq,(others other (freed_replaced_ne sound holds j other ours takes)).1]
    obtain ⟨within,unreleased,alone⟩ :=
      sound.replaced j other ours (fewer_replaced j other takes).1
    exact ⟨within,unreleased,fun l differs also =>
      alone l differs (fewer_replaced l other also).1⟩
  · intro r other ours target
    rw [s.stub.freeServiceObject_target o] at target
    obtain ⟨within,serves⟩ := sound.linked r other ours target
    rw [count_eq]
    refine ⟨within,fun unreleased => ?_⟩
    by_cases same : other = o
    · subst other
      rw [released_eq,Function.update_self] at unreleased
      omega
    · rw [(others other same).1] at unreleased
      rw [(others other same).2]
      exact serves unreleased
  · intro other beyond
    rw [count_eq] at beyond
    have differs : other ≠ o := by
      intro same
      subst other
      have within := sound.base_le
      by_cases ours : base ≤ o
      · exact absurd (alive ours).1 (Nat.not_lt.mpr beyond)
      · omega
    rw [(others other differs).1]
    exact sound.fresh other beyond
  · intro other ours
    by_cases same : other = o
    · subst other
      rw [released_eq,Function.update_self,(alive ours).2]
    · rw [(others other same).1]
      exact sound.once other ours

end Free

theorem kept_free (o : ObjectId) : Kept s
    {s.note core i (.freeServiceObject o) () with stub := s.stub.freeServiceObject o} := by
  refine ⟨?_,?_⟩
  all_goals dsimp only
  · rw [s.stub.freeServiceObject_objectCount o]
  · intro other within unreleased
    have differs : other ≠ o := by
      intro same
      subst other
      rw [s.stub.freeServiceObject_released,Function.update_self] at unreleased
      omega
    have same := freed_others (s := s) other differs
    rw [same.1] at unreleased
    exact ⟨unreleased,same.2⟩

theorem guar_free (o : ObjectId) (holds : Holds base i o s) :
    guar core base i (.freeServiceObject o) s
      {s.note core i (.freeServiceObject o) () with stub := s.stub.freeServiceObject o} :=
  fun sound => ⟨sound_free sound holds,kept_free core i s o,holds_unmapped sound holds,
    fun _ other => ⟨rfl,Function.update_of_ne other _ _,Function.update_of_ne other _ _⟩⟩

theorem guar_unmade (op : StubOp) (harmless : Harmless core base op s) :
    guar core base i op s {s with made := Function.update s.made i none} := by
  intro sound
  refine ⟨⟨sound.base_le,?_,?_,sound.replaced,sound.linked,sound.fresh,sound.once⟩,
    ⟨Nat.le_refl _,fun _ _ alive => ⟨alive,rfl⟩⟩,harmless,
    fun j other => ⟨rfl,Function.update_of_ne other _ _,rfl⟩⟩
  · intro name o ours found
    obtain ⟨within,alive,named,alone⟩ := sound.mapped name o ours found
    exact ⟨within,alive,named,fun j => ⟨fun makes => (alone j).1 (Keyed.erase_cases makes).2,(alone j).2⟩⟩
  · intro j o makes
    obtain ⟨ours,within,alive,alone⟩ := sound.made j o (Keyed.erase_cases makes).2
    exact ⟨ours,within,alive,fun l =>
      ⟨fun differs also => (alone l).1 differs (Keyed.erase_cases also).2,(alone l).2⟩⟩

theorem guar_made (op : StubOp) (harmless : Harmless core base op s) (name : String)
    (service : RemoteId) (stub : StubState κ) (core_eq : stub.core = s.stub.core)
    (object_eq : stub.object =
      Function.update s.stub.object s.stub.objectCount ⟨some name,some service⟩)
    (count_eq : stub.objectCount = s.stub.objectCount + 1)
    (released_eq : stub.released = s.stub.released)
    (target_eq : ∀ r, (stub.remote r).target =
      if r = service then some s.stub.objectCount else (s.stub.remote r).target) :
    guar core base i op s
      {s with stub := stub, made := Function.update s.made i (some s.stub.objectCount)} := by
  intro sound
  have old : ∀ o < s.stub.objectCount, stub.object o = s.stub.object o := by
    intro o within
    rw [object_eq,Function.update_of_ne (Nat.ne_of_lt within)]
  refine ⟨⟨?_,?_,?_,?_,?_,?_,?_⟩,⟨?_,?_⟩,harmless,
    fun j other => ⟨rfl,Function.update_of_ne other _ _,rfl⟩⟩
  all_goals dsimp only
  · rw [count_eq]
    exact Nat.le_succ_of_le sound.base_le
  · rw [core_eq,count_eq,released_eq]
    intro other o ours found
    obtain ⟨within,alive,named,alone⟩ := sound.mapped other o ours found
    rw [old o within]
    refine ⟨Nat.lt_succ_of_lt within,alive,named,fun j => ⟨fun makes => ?_,(alone j).2⟩⟩
    rcases Keyed.update_cases makes with ⟨_,made⟩ | ⟨_,before⟩
    · cases made
      exact Nat.lt_irrefl _ within
    · exact (alone j).1 before
  · rw [count_eq,released_eq]
    intro j o makes
    rcases Keyed.update_cases makes with ⟨rfl,made⟩ | ⟨own,before⟩
    · cases made
      refine ⟨sound.base_le,Nat.lt_succ_self _,sound.fresh _ (Nat.le_refl _),fun l => ⟨?_,?_⟩⟩
      · intro differs also
        rcases Keyed.update_cases also with ⟨same,_⟩ | ⟨_,earlier⟩
        · exact differs same
        · exact Nat.lt_irrefl _ (sound.made l _ earlier).2.1
      · exact fun takes => Nat.lt_irrefl _ (sound.replaced l _ sound.base_le takes).1
    · obtain ⟨ours,within,alive,alone⟩ := sound.made j o before
      refine ⟨ours,Nat.lt_succ_of_lt within,alive,fun l => ⟨fun differs also => ?_,(alone l).2⟩⟩
      rcases Keyed.update_cases also with ⟨_,made⟩ | ⟨_,earlier⟩
      · cases made
        exact Nat.lt_irrefl _ within
      · exact (alone l).1 differs earlier
  · rw [count_eq,released_eq]
    intro j o ours takes
    obtain ⟨within,alive,alone⟩ := sound.replaced j o ours takes
    exact ⟨Nat.lt_succ_of_lt within,alive,alone⟩
  · rw [count_eq,released_eq]
    intro r o ours target
    rw [target_eq] at target
    split_ifs at target with same
    · cases target
      rw [object_eq,Function.update_self,same]
      exact ⟨Nat.lt_succ_self _,fun _ => rfl⟩
    · obtain ⟨within,serves⟩ := sound.linked r o ours target
      rw [old o within]
      exact ⟨Nat.lt_succ_of_lt within,serves⟩
  · rw [count_eq,released_eq]
    exact fun o beyond => sound.fresh o (Nat.le_of_succ_le beyond)
  · rw [released_eq]
    exact sound.once
  · rw [count_eq]
    exact Nat.le_succ _
  · rw [released_eq]
    exact fun o within alive => ⟨alive,old o within⟩

/-- The death callback takes an object that it finds in nobody's hands. -/
theorem guar_take (op : StubOp) (harmless : Harmless core base op s)
    (nobody : ∀ o, base ≤ o → s.seen i = some o → o < s.stub.objectCount ∧
      s.stub.released o = 0 ∧ (∀ name, core.getObject name s.stub.core ≠ some o) ∧
        ∀ j, s.made j ≠ some o ∧ s.replaced j ≠ some o) :
    guar core base i op s {s with replaced := Function.update s.replaced i (s.seen i)} := by
  intro sound
  refine ⟨⟨sound.base_le,?_,?_,?_,sound.linked,sound.fresh,sound.once⟩,
    ⟨Nat.le_refl _,fun _ _ alive => ⟨alive,rfl⟩⟩,harmless,
    fun j other => ⟨rfl,rfl,Function.update_of_ne other _ _⟩⟩
  · intro name o ours found
    obtain ⟨within,alive,named,alone⟩ := sound.mapped name o ours found
    refine ⟨within,alive,named,fun j => ⟨(alone j).1,fun takes => ?_⟩⟩
    rcases Keyed.update_cases takes with ⟨_,saw⟩ | ⟨_,before⟩
    · exact (nobody o ours saw).2.2.1 name found
    · exact (alone j).2 before
  · intro j o makes
    obtain ⟨ours,within,alive,alone⟩ := sound.made j o makes
    refine ⟨ours,within,alive,fun l => ⟨(alone l).1,fun takes => ?_⟩⟩
    rcases Keyed.update_cases takes with ⟨_,saw⟩ | ⟨_,before⟩
    · exact ((nobody o ours saw).2.2.2 j).1 makes
    · exact (alone l).2 before
  · refine taken_alone core base i s sound (fun o ours saw => ?_)
    obtain ⟨within,alive,_,alone⟩ := nobody o ours saw
    exact ⟨within,alive,alone⟩

end Steps

end Census

end DriversAdapter.Svc
