import DriversAdapter.Svc.Stub

/-! What becomes of a remote that a handler reads from its parcel: on every exit but those
of a failed allocation and of an update without a service, it belongs to one registered
object or one listener holder, or it has been recycled once. -/
namespace DriversAdapter.Svc
open DriversAdapter.Base DriversAdapter.Semantics DriversAdapter.Semantics.Program

variable {κ : Type}

namespace StubState

/-- What the allocators promise: an identity that is in use has been given out. -/
structure WellFormed (core : IDevSvcManager κ) (s : StubState κ) : Prop where
  mapped_lt : ∀ name o, core.getObject name s.core = some o → o < s.objectCount
  target_lt : ∀ r o, (s.remote r).target = some o → o < s.objectCount
  released_zero : ∀ o, s.objectCount ≤ o → s.released o = 0
  service_lt : ∀ o r, (s.object o).service = some r → r < s.remoteCount
  holder_lt : ∀ h ∈ s.holoderList, h.id < s.holderCount
  listener_lt : ∀ h ∈ s.holoderList, h.listenerRemote < s.remoteCount
  recycled_zero : ∀ r, s.remoteCount ≤ r → s.recycled r = 0

theorem starting_wellFormed :
    (StubState.starting Registry.empty).WellFormed Registry.manager where
  mapped_lt _ _ found := by cases found
  target_lt _ _ target := by cases target
  released_zero _ _ := rfl
  service_lt _ _ owned := by cases owned
  holder_lt _ member := by cases member
  listener_lt _ member := by cases member
  recycled_zero _ _ := rfl

/-- A registered object that owns the remote. -/
def Installed (core : IDevSvcManager κ) (s : StubState κ) (r : RemoteId) (o : ObjectId) : Prop :=
  (∃ name, core.getObject name s.core = some o) ∧ (s.object o).service = some r

def holdersOf (s : StubState κ) (r : RemoteId) : List UServStatListenerHolder :=
  s.holoderList.filter (fun it => it.listenerRemote = r)

/-- One owner and not recycled, or recycled once and no owner. -/
def Accounted (core : IDevSvcManager κ) (s : StubState κ) (r : RemoteId) : Prop :=
  (∃! o, s.Installed core r o) ∧ s.holdersOf r = [] ∧ s.recycled r = 0 ∨
    (∀ o, ¬ s.Installed core r o) ∧ (s.holdersOf r).length = 1 ∧ s.recycled r = 0 ∨
      (∀ o, ¬ s.Installed core r o) ∧ s.holdersOf r = [] ∧ s.recycled r = 1

/-- The stub keeps nothing that refers to the remote. -/
structure Unowned (s : StubState κ) (r : RemoteId) (times : Nat) : Prop where
  no_object : ∀ o, (s.object o).service ≠ some r
  no_holder : ∀ h ∈ s.holoderList, h.listenerRemote ≠ r
  recycled_eq : s.recycled r = times

/-- One object refers to the remote, and it has a name. -/
structure Carried (s : StubState κ) (r : RemoteId) (o : ObjectId) : Prop where
  carries : (s.object o).service = some r
  named : (s.object o).priv ≠ none
  alone : ∀ other, (s.object other).service = some r → other = o
  no_holder : ∀ h ∈ s.holoderList, h.listenerRemote ≠ r
  recycled_eq : s.recycled r = 0

section Owners
variable (core : IDevSvcManager κ) (s : StubState κ) (r : RemoteId)

theorem holdersOf_nil (no_holder : ∀ h ∈ s.holoderList, h.listenerRemote ≠ r) :
    s.holdersOf r = [] := by
  unfold holdersOf
  rw [List.filter_eq_nil_iff]
  intro h member
  simpa using no_holder h member

theorem accounted_iff_of_unowned (times : Nat) (unowned : s.Unowned r times) :
    s.Accounted core r ↔ times = 1 := by
  have none_installed : ∀ o, ¬ s.Installed core r o := fun o here => unowned.no_object o here.2
  have nil := s.holdersOf_nil r unowned.no_holder
  unfold Accounted
  rw [nil,unowned.recycled_eq]
  constructor
  · rintro (⟨⟨o,here,_⟩,_⟩ | ⟨_,one,_⟩ | ⟨_,_,once⟩)
    · exact absurd here (none_installed o)
    · contradiction
    · exact once
  · exact fun once => .inr (.inr ⟨none_installed,rfl,once⟩)

theorem accounted_of_carried (o : ObjectId) (carried : s.Carried r o)
    (mapped : ∃ name, core.getObject name s.core = some o) : s.Accounted core r := by
  refine .inl ⟨⟨o,⟨mapped,carried.carries⟩,?_⟩,s.holdersOf_nil r carried.no_holder,
    carried.recycled_eq⟩
  exact fun other here => carried.alone other here.2

end Owners

/-- `ReleaseServiceObject` without interference. -/
def releaseServiceObject (o : Option ObjectId) (s : StubState κ) : StubState κ :=
  match o with
  | none => s
  | some o => match (s.object o).priv with
    | none => s
    | some _ => s.freeServiceObject o

section Steps
variable (core : IDevSvcManager κ) (s : StubState κ) (r : RemoteId)

theorem unowned_fresh (ready : s.WellFormed core) (index : UInt64) :
    (s.readRemoteService (some index)).2.Unowned s.remoteCount 0 := by
  refine ⟨fun o owns => ?_,fun h member owns => ?_,ready.recycled_zero _ (Nat.le_refl _)⟩
  · exact Nat.lt_irrefl _ (ready.service_lt o _ owns)
  · exact Nat.lt_irrefl _ (owns ▸ ready.listener_lt h member)

theorem obtainServiceObject_ok (out : Outcomes) (obtains : out.obtains = true) (name : String) :
    s.obtainServiceObject out name r = (some s.objectCount,{s with
      object := Function.update s.object s.objectCount ⟨some name,some r⟩
      objectCount := s.objectCount + 1
      remote := Function.update s.remote r
        {s.remote r with target := some s.objectCount, watched := true}}) := by
  obtain ⟨calloc,copy⟩ := Bool.and_eq_true_iff.mp obtains
  unfold obtainServiceObject
  rw [if_neg (by simp [calloc]),if_neg (by simp [copy])]

theorem carried_obtained (out : Outcomes) (obtains : out.obtains = true) (name : String)
    (unowned : s.Unowned r 0) :
    (s.obtainServiceObject out name r).1 = some s.objectCount ∧
      (s.obtainServiceObject out name r).2.Carried r s.objectCount := by
  rw [obtainServiceObject_ok s r out obtains name]
  refine ⟨rfl,?_,?_,fun other owns => ?_,unowned.no_holder,unowned.recycled_eq⟩
  · simp
  · simp
  · by_contra differs
    dsimp only at owns
    rw [Function.update_of_ne differs] at owns
    exact unowned.no_object other owns

theorem freeServiceObject_objects (o : ObjectId) :
    (s.freeServiceObject o).object = Function.update s.object o ⟨none,none⟩ := by
  unfold freeServiceObject
  split <;> rfl

theorem freeServiceObject_holoderList (o : ObjectId) :
    (s.freeServiceObject o).holoderList = s.holoderList := by
  unfold freeServiceObject
  split <;> rfl

theorem freeServiceObject_core (o : ObjectId) : (s.freeServiceObject o).core = s.core := by
  unfold freeServiceObject
  split <;> rfl

theorem freeServiceObject_objectCount (o : ObjectId) :
    (s.freeServiceObject o).objectCount = s.objectCount := by
  unfold freeServiceObject
  split <;> rfl

theorem freeServiceObject_remoteCount (o : ObjectId) :
    (s.freeServiceObject o).remoteCount = s.remoteCount := by
  unfold freeServiceObject
  split <;> rfl

theorem freeServiceObject_released (o : ObjectId) :
    (s.freeServiceObject o).released = Function.update s.released o (s.released o + 1) := by
  unfold freeServiceObject
  split <;> rfl

/-- Of a remote only its watch is touched. -/
theorem freeServiceObject_remote {β : Type} (read : HdfRemoteService → β)
    (unwatched : ∀ remote, read {remote with watched := false} = read remote) (o : ObjectId)
    (r : RemoteId) : read ((s.freeServiceObject o).remote r) = read (s.remote r) := by
  unfold freeServiceObject
  split
  next => rfl
  next other owned =>
    by_cases same : r = other
    · subst other
      simp [recycle,unwatched]
    · simp [recycle,Function.update_of_ne same]

theorem freeServiceObject_target (o : ObjectId) (r : RemoteId) :
    ((s.freeServiceObject o).remote r).target = (s.remote r).target :=
  freeServiceObject_remote s HdfRemoteService.target (fun _ => rfl) o r

theorem freeServiceObject_recycled (o : ObjectId) :
    (s.freeServiceObject o).recycled r =
      if (s.object o).service = some r then s.recycled r + 1 else s.recycled r := by
  unfold freeServiceObject
  split
  next none_owned => simp [none_owned]
  next other owned =>
    by_cases same : other = r
    · subst other
      simp [recycle,owned]
    · simp [recycle,owned,same,Function.update_of_ne (Ne.symm same)]

theorem unowned_released (o : ObjectId) (carried : s.Carried r o) :
    (s.releaseServiceObject (some o)).Unowned r 1 := by
  obtain ⟨name,named⟩ := Option.ne_none_iff_exists'.mp carried.named
  have released : s.releaseServiceObject (some o) = s.freeServiceObject o := by
    unfold releaseServiceObject
    dsimp only
    rw [named]
  rw [released]
  refine ⟨fun other owns => ?_,?_,?_⟩
  · rw [freeServiceObject_objects] at owns
    by_cases same : other = o
    · subst other
      simp at owns
    · rw [Function.update_of_ne same] at owns
      exact same (carried.alone other owns)
  · rw [freeServiceObject_holoderList]
    exact carried.no_holder
  · rw [freeServiceObject_recycled,if_pos carried.carries,carried.recycled_eq]

theorem carried_releaseOther (o : ObjectId) (old : Option ObjectId) (other : old ≠ some o)
    (carried : s.Carried r o) : (s.releaseServiceObject old).Carried r o := by
  cases old with
  | none => exact carried
  | some old =>
    have apart : o ≠ old := fun same => other (by rw [same])
    unfold releaseServiceObject
    dsimp only
    split
    next => exact carried
    next =>
      have objects := s.freeServiceObject_objects old
      have same : (s.freeServiceObject old).object o = s.object o := by
        rw [objects,Function.update_of_ne apart]
      refine ⟨?_,?_,fun third owns => ?_,?_,?_⟩
      · rw [same]
        exact carried.carries
      · rw [same]
        exact carried.named
      · rw [objects] at owns
        by_cases freed : third = old
        · subst third
          simp at owns
        · rw [Function.update_of_ne freed] at owns
          exact carried.alone third owns
      · rw [freeServiceObject_holoderList]
        exact carried.no_holder
      · rw [freeServiceObject_recycled,if_neg,carried.recycled_eq]
        exact fun owns => apart (carried.alone old owns).symm

theorem releaseServiceObject_core (old : Option ObjectId) :
    (s.releaseServiceObject old).core = s.core := by
  unfold releaseServiceObject
  split
  next => rfl
  next =>
    split
    next => rfl
    next => exact s.freeServiceObject_core _

theorem releaseServiceObject_remoteCount (old : Option ObjectId) :
    (s.releaseServiceObject old).remoteCount = s.remoteCount := by
  unfold releaseServiceObject
  split
  next => rfl
  next =>
    split
    next => rfl
    next => exact s.freeServiceObject_remoteCount _

theorem obtainServiceObject_kept (out : Outcomes) (name : String) :
    (s.obtainServiceObject out name r).2.core = s.core ∧
      (s.obtainServiceObject out name r).2.remoteCount = s.remoteCount := by
  unfold obtainServiceObject
  split_ifs <;> exact ⟨rfl,rfl⟩

theorem obtainServiceObject_failed (out : Outcomes) (fails : out.obtains = false) (name : String) :
    s.obtainServiceObject out name r = (none,s) := by
  unfold obtainServiceObject
  rcases Bool.and_eq_false_iff.mp fails with calloc | copy
  · rw [if_pos calloc]
  · rw [if_pos copy,ite_self]

/-- The core service manager has taken the object, or it is released. -/
theorem accounted_registered (o : ObjectId) (carried : s.Carried r o) (k : κ) (ret : Int)
    (old : Option ObjectId) (other : old ≠ some o)
    (registered : ret = hdfSuccess → ∃ name, core.getObject name k = some o) :
    (({s with core := k} : StubState κ).releaseServiceObject
      (if ret ≠ hdfSuccess then some o else old)).Accounted core r := by
  have kept : ({s with core := k} : StubState κ).Carried r o :=
    ⟨carried.carries,carried.named,carried.alone,carried.no_holder,carried.recycled_eq⟩
  split_ifs with failed
  · rw [accounted_iff_of_unowned core _ r 1 (unowned_released _ r o kept)]
  · refine accounted_of_carried core _ r o (carried_releaseOther _ r o old other kept) ?_
    rw [releaseServiceObject_core]
    exact registered (not_not.mp failed)

theorem unowned_recycle (times : Nat) (unowned : s.Unowned r times) :
    (s.recycle r).Unowned r (times + 1) := by
  refine ⟨unowned.no_object,unowned.no_holder,?_⟩
  simp [recycle,unowned.recycled_eq]

theorem servStatListenerHolderRelease_some (h : HolderId) (holder : UServStatListenerHolder)
    (found : s.holoderList.find? (fun it => it.id = h) = some holder) :
    s.servStatListenerHolderRelease h =
      ({s with holoderList := s.holoderList.filter (fun it => it.id ≠ h)} : StubState κ).recycle
        holder.listenerRemote := by
  unfold servStatListenerHolderRelease
  rw [found]

theorem unowned_holderRelease (h : HolderId) (times : Nat) (unowned : s.Unowned r times) :
    (s.servStatListenerHolderRelease h).Unowned r times := by
  unfold servStatListenerHolderRelease
  split
  next => exact unowned
  next holder found =>
    have other := unowned.no_holder holder (List.mem_of_find?_eq_some found)
    refine ⟨unowned.no_object,fun it member => ?_,?_⟩
    · exact unowned.no_holder it (List.mem_filter.mp member).1
    · simp only [recycle,Function.update_of_ne (Ne.symm other)]
      exact unowned.recycled_eq

def withHolder (s : StubState κ) (holder : UServStatListenerHolder) : StubState κ :=
  {s with
    holoderList := s.holoderList ++ [holder]
    holderCount := s.holderCount + 1}

theorem servStatListenerHolderCreate_failed (out : Outcomes) (fails : out.creates = false)
    (listenClass : UInt16) : s.servStatListenerHolderCreate out r listenClass = (none,s) := by
  unfold servStatListenerHolderCreate
  rcases Bool.and_eq_false_iff.mp fails with calloc | descriptor
  · rw [if_pos calloc]
  · rw [if_pos descriptor,ite_self]

theorem servStatListenerHolderCreate_ok (out : Outcomes) (creates : out.creates = true)
    (listenClass : UInt16) : s.servStatListenerHolderCreate out r listenClass =
      (some s.holderCount,s.withHolder ⟨s.holderCount,listenClass,(s.remote r).index,r⟩) := by
  obtain ⟨calloc,descriptor⟩ := Bool.and_eq_true_iff.mp creates
  unfold servStatListenerHolderCreate
  rw [if_neg (by simp [calloc]),if_neg (by simp [descriptor])]
  rfl

section Holder
variable (holder : UServStatListenerHolder) (mine : holder.listenerRemote = r)
variable (unowned : s.Unowned r 0)

include mine unowned in
theorem accounted_withHolder (k : κ) :
    ({s.withHolder holder with core := k} : StubState κ).Accounted core r := by
  refine .inr (.inl ⟨fun o here => unowned.no_object o here.2,?_,unowned.recycled_eq⟩)
  have others := s.holdersOf_nil r unowned.no_holder
  unfold holdersOf at others
  simp [holdersOf,withHolder,List.filter_append,others,mine]

include mine unowned in
theorem unowned_withHolder_released (k : κ) (new : ∀ it ∈ s.holoderList, it.id ≠ holder.id) :
    (({s.withHolder holder with core := k} : StubState κ).servStatListenerHolderRelease
      holder.id).Unowned r 1 := by
  have skipped : s.holoderList.find? (fun it => it.id = holder.id) = none := by
    rw [List.find?_eq_none]
    intro it member
    simpa using new it member
  have found : (s.holoderList ++ [holder]).find? (fun it => it.id = holder.id) = some holder := by
    rw [List.find?_append,skipped]
    simp
  rw [servStatListenerHolderRelease_some _ holder.id holder found]
  refine ⟨unowned.no_object,fun it member => ?_,?_⟩
  · have kept := List.mem_filter.mp member
    rcases List.mem_append.mp kept.1 with old | last
    · exact unowned.no_holder it old
    · rw [List.mem_singleton] at last
      simp [last] at kept
  · subst r
    simpa [recycle,withHolder] using unowned.recycled_eq

end Holder

theorem holderRelease_remoteCount (h : HolderId) :
    (s.servStatListenerHolderRelease h).remoteCount = s.remoteCount := by
  unfold servStatListenerHolderRelease
  split <;> rfl

end Steps

/-- Every remote that a handler has read since. -/
def AllAccounted (core : IDevSvcManager κ) (s t : StubState κ) : Prop :=
  ∀ r, s.remoteCount ≤ r → r < t.remoteCount → t.Accounted core r

theorem allAccounted_none (core : IDevSvcManager κ) (s t : StubState κ)
    (same : t.remoteCount = s.remoteCount) : AllAccounted core s t := by
  intro r low high
  omega

theorem allAccounted_one (core : IDevSvcManager κ) (s t : StubState κ)
    (one : t.remoteCount = s.remoteCount + 1) :
    AllAccounted core s t ↔ t.Accounted core s.remoteCount := by
  constructor
  · intro all
    exact all _ (Nat.le_refl _) (by omega)
  · intro accounted r low high
    have same : r = s.remoteCount := by omega
    rw [same]
    exact accounted

section Read
variable (core : IDevSvcManager κ) (s : StubState κ) (ready : s.WellFormed core) (index : UInt64)

include ready in
omit index in
theorem mapped_ne (name : String) : core.getObject name s.core ≠ some s.objectCount :=
  fun same => Nat.lt_irrefl _ (ready.mapped_lt name _ same)

include ready in
theorem not_allAccounted_read : ¬ AllAccounted core s (s.readRemoteService (some index)).2 := by
  rw [allAccounted_one core s _ rfl,
    accounted_iff_of_unowned core _ _ 0 (s.unowned_fresh core ready index)]
  decide

include ready in
/-- A remote that has been read and put into an object offered to the core. -/
theorem allAccounted_offered (out : Outcomes) (obtains : out.obtains = true) (name : String)
    (k : κ) (ret : Int) (old : Option ObjectId) (other : old ≠ some s.objectCount)
    (registered : ret = hdfSuccess → ∃ name, core.getObject name k = some s.objectCount) :
    let obtained := ((s.readRemoteService (some index)).2.obtainServiceObject out name
      s.remoteCount).2
    AllAccounted core s (({obtained with core := k} : StubState κ).releaseServiceObject
      (if ret ≠ hdfSuccess then some s.objectCount else old)) := by
  intro obtained
  have fresh := s.unowned_fresh core ready index
  obtain ⟨_,carried⟩ := carried_obtained _ _ out obtains name fresh
  rw [allAccounted_one]
  · exact accounted_registered core obtained _ _ carried k ret old other registered
  · rw [releaseServiceObject_remoteCount]
    exact (obtainServiceObject_kept _ _ out name).2

end Read

end StubState

/-- The request gets as far as the remote of its service. -/
def Parcel.readsService (data : Parcel) (out : Outcomes) : Bool :=
  data.interfaceToken && data.name.isSome && out.permitted && data.devClass.isSome &&
    data.remote.isSome

/-- The request gets as far as the remote of its listener. -/
def Parcel.readsListener (data : Parcel) : Bool :=
  data.interfaceToken && data.devClass.isSome && data.remote.isSome

/-- What a request is answered that gets no further. -/
def Parcel.rejection (data : Parcel) (out : Outcomes) : Int :=
  if data.interfaceToken = false then hdfErrInvalidParam
  else if data.name = none then hdfFailure
  else if out.permitted = false then hdfErrNoPerm
  else hdfSuccess

namespace DevSvcManagerStub

section Runs
variable (core : IDevSvcManager κ) (out : Outcomes) (data : Parcel) (s : StubState κ)

@[simp] theorem run_perform {α : Type} (op : StubOp) (f : op.Res → StubM α) :
    (perform op >>= f).run (serve core out) s =
      (f (serve core out op s).1).run (serve core out) (serve core out op s).2 := rfl

@[simp] theorem run_releaseServiceObject (o : Option ObjectId) :
    (releaseServiceObject o).run (serve core out) s = ((),s.releaseServiceObject o) := by
  unfold releaseServiceObject StubState.releaseServiceObject
  cases o with
  | none => rfl
  | some o =>
    dsimp only
    have read : serve core out (.readPriv o) s = ((s.object o).priv,s) := rfl
    rw [run_perform,read]
    cases (s.object o).priv <;> rfl

theorem run_releaseOther (ret : Int) (o : ObjectId) (old : Option ObjectId) :
    (releaseOther ret o old).run (serve core out) s =
      (ret,s.releaseServiceObject (if ret ≠ hdfSuccess then some o else old)) := by
  unfold releaseOther
  rw [run_ite,run_bind,run_bind,run_releaseServiceObject,run_releaseServiceObject]
  split <;> rfl

theorem run_permCheck {α : Type} (refused accepted : Int → StubM α) :
    (perform .permCheck >>= fun ret => if ret ≠ hdfSuccess then refused ret else
      accepted ret).run (serve core out) s =
        if out.permitted then (accepted hdfSuccess).run (serve core out) s
        else (refused hdfErrNoPerm).run (serve core out) s := by
  have served : serve core out .permCheck s =
    (if out.permitted then hdfSuccess else hdfErrNoPerm,s) := rfl
  rw [run_perform,served]
  cases out.permitted <;> rfl

theorem run_obtain_failed {α : Type} (fails : out.obtains = false) (name : String) (r : RemoteId)
    (f : Option ObjectId → StubM α) :
    (perform (.obtainServiceObject name r) >>= f).run (serve core out) s =
      (f none).run (serve core out) s := by
  have served : serve core out (.obtainServiceObject name r) s = (none,s) :=
    s.obtainServiceObject_failed r out fails name
  rw [run_perform,served]

theorem run_obtain {α : Type} (obtains : out.obtains = true) (name : String) (r : RemoteId)
    (unowned : s.Unowned r 0) (f : Option ObjectId → StubM α) :
    (perform (.obtainServiceObject name r) >>= f).run (serve core out) s =
      (f (some s.objectCount)).run (serve core out) (s.obtainServiceObject out name r).2 := by
  have obtained : (serve core out (.obtainServiceObject name r) s).1 = some s.objectCount :=
    (s.carried_obtained r out obtains name unowned).1
  rw [run_perform,obtained]
  rfl

theorem run_readService_rejected (next : String → UInt16 → RemoteId → StubM Int)
    (rejected : data.readsService out = false) :
    (readService data next).run (serve core out) s = (data.rejection out,s) := by
  obtain ⟨token,name,devClass,remote,info⟩ := data
  unfold readService Parcel.rejection
  unfold Parcel.readsService at rejected
  dsimp only at rejected ⊢
  cases token with
  | false => rfl
  | true =>
    cases name with
    | none => rfl
    | some name =>
      rw [if_neg (by decide),if_neg (by decide),if_neg (by simp),run_permCheck]
      cases permitted : out.permitted with
      | false => rfl
      | true =>
        rw [if_pos rfl]
        cases devClass with
        | none => rfl
        | some devClass =>
          cases remote with
          | none => rfl
          | some index => simp [permitted] at rejected

theorem run_readService_admitted (next : String → UInt16 → RemoteId → StubM Int)
    (admitted : data.readsService out = true) :
    ∃ name devClass index, data.name = some name ∧ data.devClass = some devClass ∧
      data.remote = some index ∧ (readService data next).run (serve core out) s =
        (next name devClass s.remoteCount).run (serve core out)
          (s.readRemoteService (some index)).2 := by
  obtain ⟨token,name,devClass,remote,info⟩ := data
  unfold Parcel.readsService at admitted
  simp only [Bool.and_eq_true,Option.isSome_iff_exists] at admitted
  obtain ⟨⟨⟨⟨rfl,name,rfl⟩,permitted⟩,devClass,rfl⟩,index,rfl⟩ := admitted
  refine ⟨name,devClass,index,rfl,rfl,rfl,?_⟩
  unfold readService
  rw [if_neg (by simp)]
  dsimp only
  rw [run_permCheck,if_pos permitted]
  rfl

theorem run_registerServListener_rejected (rejected : data.readsListener = false) :
    (registerServListener data).run (serve core out) s = (hdfErrInvalidParam,s) := by
  obtain ⟨token,name,devClass,remote,info⟩ := data
  unfold registerServListener
  cases token with
  | false => rfl
  | true =>
    cases devClass with
    | none => rfl
    | some listenClass =>
      cases remote with
      | none => rfl
      | some index => simp [Parcel.readsListener] at rejected

/-- A registration that is read leaves the remote, a holder of it, or neither. -/
theorem run_registerServListener (admitted : data.readsListener = true) :
    ∃ listenClass index, data.remote = some index ∧
      let bound := (s.readRemoteService (some index)).2
      let taken : StubState κ :=
        {bound.withHolder ⟨s.holderCount,listenClass,index,s.remoteCount⟩ with
          core := (core.regsterServListener s.holderCount s.core).2}
      (registerServListener data).run (serve core out) s =
        if out.creates = false then (hdfErrMallocFail,bound)
        else if (core.regsterServListener s.holderCount s.core).1 ≠ hdfSuccess then
          (hdfSuccess,taken.servStatListenerHolderRelease s.holderCount)
        else (hdfSuccess,taken) := by
  obtain ⟨token,name,devClass,remote,info⟩ := data
  unfold Parcel.readsListener at admitted
  simp only [Bool.and_eq_true,Option.isSome_iff_exists] at admitted
  obtain ⟨⟨rfl,listenClass,rfl⟩,index,rfl⟩ := admitted
  refine ⟨listenClass,index,rfl,?_⟩
  intro bound taken
  have read : serve core out (.readRemoteService (some index)) s = (some s.remoteCount,bound) := rfl
  unfold registerServListener
  rw [if_neg (by simp)]
  dsimp only
  rw [run_perform,read]
  dsimp only
  rw [run_perform]
  cases creates : out.creates with
  | false =>
    have served : serve core out (.holderCreate s.remoteCount listenClass) bound = (none,bound) :=
      StubState.servStatListenerHolderCreate_failed _ _ out creates listenClass
    rw [served]
    rfl
  | true =>
    have indexed : (bound.remote s.remoteCount).index = index := by
      simp [bound,StubState.readRemoteService]
    have served : serve core out (.holderCreate s.remoteCount listenClass) bound =
        (some s.holderCount,bound.withHolder ⟨s.holderCount,listenClass,
          (bound.remote s.remoteCount).index,s.remoteCount⟩) :=
      StubState.servStatListenerHolderCreate_ok _ _ out creates listenClass
    rw [served,indexed,if_neg (by decide)]
    dsimp only
    rw [run_perform,run_ite]
    rfl

theorem run_unregisterServListener_rejected
    (rejected : data.interfaceToken = false ∨ data.remote = none) :
    (unregisterServListener data).run (serve core out) s = (hdfErrInvalidParam,s) := by
  obtain ⟨token,name,devClass,remote,info⟩ := data
  unfold unregisterServListener
  cases token with
  | false => rfl
  | true =>
    rcases rejected with impossible | missing
    · contradiction
    · dsimp only at missing
      subst remote
      rfl

/-- A request that is read ends the registration of the first holder of its remote. -/
theorem run_unregisterServListener (token : data.interfaceToken = true) (index : UInt64)
    (carries : data.remote = some index) :
    let bound := (s.readRemoteService (some index)).2
    (unregisterServListener data).run (serve core out) s =
      match s.holoderList.find? (fun it => it.index = index) with
      | none => (hdfErrInvalidObject,bound.recycle s.remoteCount)
      | some holder =>
        (hdfSuccess,(({bound with core := core.unregsterServListener holder.id s.core} :
          StubState κ).servStatListenerHolderRelease holder.id).recycle s.remoteCount) := by
  obtain ⟨_,name,devClass,_,info⟩ := data
  obtain rfl : _ = true := token
  obtain rfl : _ = some index := carries
  intro bound
  have read : serve core out (.readRemoteService (some index)) s = (some s.remoteCount,bound) := rfl
  have indexed : (bound.remote s.remoteCount).index = index := by
    simp [bound,StubState.readRemoteService]
  have looked : serve core out (.holderGet s.remoteCount) bound =
      ((s.holoderList.find? (fun it => it.index = index)).map (·.id),bound) := by
    change (bound.servStatListenerHolderGet (bound.remote s.remoteCount).index,bound) = _
    rw [indexed]
    rfl
  unfold unregisterServListener
  dsimp only
  rw [if_neg (by simp),run_perform,read]
  dsimp only
  rw [run_perform,looked]
  cases s.holoderList.find? (fun it => it.index = index) <;> rfl

end Runs

/-- The exits that forget the remote. -/
def Leaks (core : IDevSvcManager κ) (out : Outcomes) (code : RequestCode) (data : Parcel)
    (s : StubState κ) : Prop :=
  match code with
  | .addService => data.readsService out = true ∧ out.obtains = false
  | .updateService => data.readsService out = true ∧ (out.obtains = false ∨
      ∀ name ∈ data.name, core.getObject name s.core = none)
  | .registerServListener => data.readsListener = true ∧ out.creates = false
  | _ => False

section Accounts
variable (core : IDevSvcManager κ) (lawful : core.Lawful) (out : Outcomes) (data : Parcel)
variable (s : StubState κ) (ready : s.WellFormed core)

include lawful ready in
theorem addService_accounts :
    StubState.AllAccounted core s ((addService data).run (serve core out) s).2 ↔
      ¬ Leaks core out .addService data s := by
  cases admitted : data.readsService out with
  | false =>
    unfold addService
    rw [run_readService_rejected core out data s _ admitted]
    simp only [Leaks,admitted,Bool.false_eq_true,false_and,not_false_eq_true,iff_true]
    exact StubState.allAccounted_none core s s rfl
  | true =>
    obtain ⟨name,devClass,index,_,_,_,ran⟩ := run_readService_admitted core out data s _ admitted
    unfold addService
    rw [ran]
    have fresh := s.unowned_fresh core ready index
    cases obtains : out.obtains with
    | false =>
      rw [run_obtain_failed core out _ obtains,pure_eq,run_done]
      simp only [Leaks,admitted,obtains,true_and,not_true_eq_false,iff_false]
      exact s.not_allAccounted_read core ready index
    | true =>
      rw [run_obtain core out _ obtains _ _ fresh,run_perform,run_perform,run_releaseOther]
      simp only [Leaks,obtains,Bool.true_eq_false,and_false,not_false_eq_true,iff_true]
      refine s.allAccounted_offered core ready index out obtains name _ _ _ ?_ ?_
      · change core.getObject name _ ≠ _
        rw [(StubState.obtainServiceObject_kept _ _ out name).1]
        exact s.mapped_ne core ready name
      · intro ok
        refine ⟨name,?_⟩
        have registered := lawful.added name devClass _ data.servInfo _ ok name
        rwa [if_pos rfl] at registered

include lawful ready in
theorem updateService_accounts :
    StubState.AllAccounted core s ((updateService data).run (serve core out) s).2 ↔
      ¬ Leaks core out .updateService data s := by
  cases admitted : data.readsService out with
  | false =>
    unfold updateService
    rw [run_readService_rejected core out data s _ admitted]
    simp only [Leaks,admitted,Bool.false_eq_true,false_and,not_false_eq_true,iff_true]
    exact StubState.allAccounted_none core s s rfl
  | true =>
    obtain ⟨name,devClass,index,named,_,_,ran⟩ :=
      run_readService_admitted core out data s _ admitted
    have missing : (∀ other ∈ data.name, core.getObject other s.core = none) ↔
        core.getObject name s.core = none := by simp [named]
    unfold updateService Leaks
    dsimp only
    rw [ran,admitted,missing]
    have fresh := s.unowned_fresh core ready index
    have looked : serve core out (.getObject name) (s.readRemoteService (some index)).2 =
        (core.getObject name s.core,(s.readRemoteService (some index)).2) := rfl
    rw [run_perform,looked]
    cases found : core.getObject name s.core with
    | none =>
      simp only [or_true,true_and,not_true_eq_false,iff_false]
      exact s.not_allAccounted_read core ready index
    | some old =>
      dsimp only
      cases obtains : out.obtains with
      | false =>
        rw [run_obtain_failed core out _ obtains,pure_eq,run_done]
        simp only [true_or,true_and,not_true_eq_false,iff_false]
        exact s.not_allAccounted_read core ready index
      | true =>
        rw [run_obtain core out _ obtains _ _ fresh,run_perform,run_releaseOther]
        simp only [Bool.true_eq_false,reduceCtorEq,or_self,and_false,not_false_eq_true,iff_true]
        refine s.allAccounted_offered core ready index out obtains name _ _ _ ?_ ?_
        · rw [← found]
          exact s.mapped_ne core ready name
        · intro ok
          refine ⟨name,?_⟩
          have registered := lawful.updated name devClass _ data.servInfo _ ok name
          rwa [if_pos rfl] at registered

include ready in
theorem registerServListener_accounts :
    StubState.AllAccounted core s ((registerServListener data).run (serve core out) s).2 ↔
      ¬ Leaks core out .registerServListener data s := by
  unfold Leaks
  cases admitted : data.readsListener with
  | false =>
    rw [run_registerServListener_rejected core out data s admitted]
    simpa using StubState.allAccounted_none core s s rfl
  | true =>
    obtain ⟨listenClass,index,_,ran⟩ := run_registerServListener core out data s admitted
    have fresh := s.unowned_fresh core ready index
    rw [ran]
    split_ifs with fails refused
    · simpa [fails] using s.not_allAccounted_read core ready index
    · refine iff_of_true ?_ (fun leaks => fails leaks.2)
      have new : ∀ it ∈ s.holoderList, it.id ≠ s.holderCount :=
        fun it member => Nat.ne_of_lt (ready.holder_lt it member)
      have released := StubState.unowned_withHolder_released _ _
        ⟨s.holderCount,listenClass,index,s.remoteCount⟩ rfl fresh
          (core.regsterServListener s.holderCount s.core).2 new
      refine (StubState.allAccounted_one core s _ ?_).mpr
        ((StubState.accounted_iff_of_unowned core _ _ 1 released).mpr rfl)
      exact StubState.holderRelease_remoteCount _ _
    · refine iff_of_true ?_ (fun leaks => fails leaks.2)
      refine (StubState.allAccounted_one core s _ rfl).mpr ?_
      exact StubState.accounted_withHolder core _ _ _ rfl fresh _

include ready in
theorem unregisterServListener_accounts :
    StubState.AllAccounted core s ((unregisterServListener data).run (serve core out) s).2 := by
  by_cases rejected : data.interfaceToken = false ∨ data.remote = none
  · rw [run_unregisterServListener_rejected core out data s rejected]
    exact StubState.allAccounted_none core s s rfl
  obtain ⟨token,carries⟩ := not_or.mp rejected
  obtain ⟨index,carries⟩ := Option.ne_none_iff_exists'.mp carries
  rw [run_unregisterServListener core out data s (Bool.not_eq_false _ ▸ token) index carries]
  have fresh := s.unowned_fresh core ready index
  cases s.holoderList.find? (fun it => it.index = index) with
  | none =>
    have recycled := StubState.unowned_recycle _ _ 0 fresh
    exact (StubState.allAccounted_one core s _ rfl).mpr
      ((StubState.accounted_iff_of_unowned core _ _ 1 recycled).mpr rfl)
  | some holder =>
    have removed : ({(s.readRemoteService (some index)).2 with
        core := core.unregsterServListener holder.id s.core} :
          StubState κ).Unowned s.remoteCount 0 :=
      ⟨fresh.no_object,fresh.no_holder,fresh.recycled_eq⟩
    have recycled := StubState.unowned_recycle _ _ 0
      (StubState.unowned_holderRelease _ _ holder.id 0 removed)
    refine (StubState.allAccounted_one core s _ ?_).mpr
      ((StubState.accounted_iff_of_unowned core _ _ 1 recycled).mpr rfl)
    exact StubState.holderRelease_remoteCount _ _

omit ready in
theorem getService_remoteCount :
    ((getService data).run (serve core out) s).2.remoteCount = s.remoteCount := by
  unfold getService
  rw [run_ite]
  split_ifs with token
  · rfl
  cases data.name with
  | none => rfl
  | some name =>
    dsimp only
    rw [run_permCheck]
    split_ifs with permitted
    swap
    · rfl
    have looked : serve core out (.getService name) s =
      (core.getService name (fun o => (s.object o).service) s.core,s) := rfl
    rw [run_perform,looked]
    cases core.getService name (fun o => (s.object o).service) s.core with
    | none => rfl
    | some remoteService =>
      dsimp only
      rw [run_perform]
      change (if out.writeRemote then _ else s : StubState κ).remoteCount = _
      split <;> rfl

omit ready in
theorem removeService_remoteCount :
    ((removeService data).run (serve core out) s).2.remoteCount = s.remoteCount := by
  unfold removeService
  rw [run_ite]
  split_ifs with token
  · rfl
  cases data.name with
  | none => rfl
  | some name =>
    dsimp only
    rw [run_permCheck]
    split_ifs with permitted
    swap
    · rfl
    have looked : serve core out (.getObject name) s = (core.getObject name s.core,s) := rfl
    rw [run_perform,looked]
    cases core.getObject name s.core with
    | none => rfl
    | some serviceObject =>
      have read : serve core out (.readPriv serviceObject) s =
        ((s.object serviceObject).priv,s) := rfl
      dsimp only
      rw [run_perform,read]
      cases (s.object serviceObject).priv with
      | none => rfl
      | some servName =>
        dsimp only
        rw [run_ite]
        split_ifs with differs
        · rfl
        rw [run_perform,run_bind,run_releaseServiceObject]
        exact StubState.releaseServiceObject_remoteCount _ _

include lawful ready in
/-- Every remote read from the parcel has one registered owner or has been recycled once,
unless an allocation fails or an update finds no service. -/
theorem remotes_accounted_iff (code : RequestCode) :
    StubState.AllAccounted core s (respond core out code data s).2 ↔
      ¬ Leaks core out code data s := by
  unfold respond
  cases code with
  | addService => exact addService_accounts core lawful out data s ready
  | updateService => exact updateService_accounts core lawful out data s ready
  | registerServListener => exact registerServListener_accounts core out data s ready
  | unregisterServListener =>
    exact iff_of_true (unregisterServListener_accounts core out data s ready) not_false
  | getService =>
    exact iff_of_true (StubState.allAccounted_none core s _
      (getService_remoteCount core out data s)) not_false
  | removeService =>
    exact iff_of_true (StubState.allAccounted_none core s _
      (removeService_remoteCount core out data s)) not_false

end Accounts

theorem remotes_accounted_sample :
    StubState.AllAccounted Registry.manager (StubState.starting Registry.empty)
      (respond Registry.manager .granting .addService .sample
        (StubState.starting Registry.empty)).2 :=
  (remotes_accounted_iff Registry.manager Registry.manager_lawful .granting .sample
    (StubState.starting Registry.empty) StubState.starting_wellFormed .addService).mpr
    fun leaks => absurd leaks.2 (by decide)

/-- The remote of an update for a name that is not registered is forgotten. -/
theorem update_unknown_unaccounted :
    ¬ StubState.AllAccounted Registry.manager (StubState.starting Registry.empty)
      (respond Registry.manager .granting .updateService .sample
        (StubState.starting Registry.empty)).2 := by
  unfold respond dispatch
  rw [updateService_accounts Registry.manager Registry.manager_lawful .granting .sample
    (StubState.starting Registry.empty) StubState.starting_wellFormed,not_not]
  exact ⟨rfl,.inr fun _ _ => rfl⟩

end DevSvcManagerStub

end DriversAdapter.Svc
