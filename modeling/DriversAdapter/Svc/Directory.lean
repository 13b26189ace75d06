import DriversAdapter.Svc.Identities
import DriversAdapter.Svc.Replies

/-! The registry of the device service manager as its clients see it: under each name the remote
object of the service that was last published there and has neither been removed nor died. -/
namespace DriversAdapter.Svc
open DriversAdapter.Base DriversAdapter.Semantics DriversAdapter.Semantics.Program

variable {κ : Type}

/-- The identity of the remote object that is published under a name. -/
abbrev Directory := String → Option UInt64

namespace Directory

def publish (name : String) (index : UInt64) (d : Directory) : Directory :=
  Function.update d name (some index)

def withdraw (name : String) (d : Directory) : Directory := Function.update d name none

def bury (index : UInt64) (d : Directory) : Directory := fun name =>
  if d name = some index then none else d name

end Directory

namespace StubState

def directory (core : IDevSvcManager κ) (s : StubState κ) : Directory := fun name =>
  (core.getObject name s.core).bind fun o => (s.object o).service.map fun r => (s.remote r).index

/-- Every object is registered under its own name, but for one that is on its way out; each has
a remote of its own, which leads back to it and is watched. -/
structure Serving (core : IDevSvcManager κ) (leaving : Option ObjectId) (s : StubState κ) :
    Prop where
  found : ∀ name o, core.getObject name s.core = some o →
    leaving ≠ some o ∧ ∃ r, s.object o = ⟨some name,some r⟩
  owned : ∀ o r, (s.object o).service = some r → s.Carried r o ∧
    (s.remote r).target = some o ∧ (s.remote r).watched = true ∧
      (leaving = some o ∨ ∃ name, core.getObject name s.core = some o)
  watched : ∀ r, (s.remote r).watched = true → ∃ o, (s.object o).service = some r

section Steps
variable {core : IDevSvcManager κ} {s t : StubState κ} {leaving : Option ObjectId}

theorem directory_found (serving : s.Serving core leaving) (name : String) (o : ObjectId)
    (found : core.getObject name s.core = some o) :
    ∃ r, s.object o = ⟨some name,some r⟩ ∧ s.directory core name = some (s.remote r).index := by
  obtain ⟨_,r,object⟩ := serving.found name o found
  refine ⟨r,object,?_⟩
  simp [directory,found,object]

theorem directory_missing (name : String) (missing : core.getObject name s.core = none) :
    s.directory core name = none := by
  simp [directory,missing]

/-- What a step may do besides that touches no object and no remote of an object. -/
theorem serving_kept (serving : s.Serving core leaving)
    (same : ∀ name, core.getObject name t.core = core.getObject name s.core)
    (objects : t.object = s.object)
    (remotes : ∀ o r, (s.object o).service = some r → t.remote r = s.remote r ∧
      t.recycled r = s.recycled r ∧ ∀ h ∈ t.holoderList, h.listenerRemote ≠ r)
    (unwatched : ∀ r, (t.remote r).watched = true → (s.remote r).watched = true) :
    t.Serving core leaving ∧ t.directory core = s.directory core := by
  refine ⟨⟨fun name o found => ?_,fun o r owns => ?_,fun r watched => ?_⟩,?_⟩
  · rw [same] at found
    rw [objects]
    exact serving.found name o found
  · rw [objects] at owns
    obtain ⟨carried,target,watched,registered⟩ := serving.owned o r owns
    obtain ⟨remote,recycled,no_holder⟩ := remotes o r owns
    refine ⟨⟨?_,?_,?_,no_holder,?_⟩,?_,?_,?_⟩
    · rw [objects]
      exact owns
    · rw [objects]
      exact carried.named
    · rw [objects]
      exact carried.alone
    · rw [recycled]
      exact carried.recycled_eq
    · rw [remote]
      exact target
    · rw [remote]
      exact watched
    · simpa only [same] using registered
  · rw [objects]
    exact serving.watched r (unwatched r watched)
  · funext name
    unfold directory
    rw [same,objects]
    cases found : core.getObject name s.core with
    | none => rfl
    | some o =>
      obtain ⟨_,r,object⟩ := serving.found name o found
      have owns : (s.object o).service = some r := by rw [object]
      simp [owns,(remotes o r owns).1]

/-- A remote that is read belongs to nobody yet. -/
theorem serving_read (ready : s.WellFormed core) (serving : s.Serving core leaving)
    (index : UInt64) : (s.readRemoteService (some index)).2.Serving core leaving ∧
      (s.readRemoteService (some index)).2.directory core = s.directory core := by
  refine serving_kept serving (fun _ => rfl) rfl (fun o r owns => ?_) (fun r watched => ?_)
  · have other : r ≠ s.remoteCount := Nat.ne_of_lt (ready.service_lt o r owns)
    refine ⟨?_,rfl,(serving.owned o r owns).1.no_holder⟩
    simp [readRemoteService,Function.update_of_ne other]
  · by_cases new : r = s.remoteCount
    · subst r
      simp [readRemoteService] at watched
    · simpa [readRemoteService,Function.update_of_ne new] using watched

theorem serving_release (serving : s.Serving core leaving) :
    (s.releaseServiceObject leaving).Serving core none ∧
      (s.releaseServiceObject leaving).directory core = s.directory core := by
  cases leaving with
  | none => exact ⟨serving,rfl⟩
  | some x =>
    unfold releaseServiceObject
    dsimp only
    cases named : (s.object x).priv with
    | none =>
      have unowned : ∀ r, (s.object x).service ≠ some r :=
        fun r owns => (serving.owned x r owns).1.named named
      refine ⟨⟨fun name o found => ⟨nofun,(serving.found name o found).2⟩,fun o r owns => ?_,
        serving.watched⟩,rfl⟩
      obtain ⟨carried,target,watched,out | registered⟩ := serving.owned o r owns
      · cases out
        exact absurd owns (unowned r)
      · exact ⟨carried,target,watched,.inr registered⟩
    | some priv =>
      dsimp only
      have remote_of (r : RemoteId) (others : (s.object x).service ≠ some r) :
          (s.freeServiceObject x).remote r = s.remote r := by
        unfold freeServiceObject
        split
        next => rfl
        next mine carries =>
          have other : r ≠ mine := fun same => others (same ▸ carries)
          simp [recycle,Function.update_of_ne other]
      have object_of (o : ObjectId) (other : o ≠ x) :
          (s.freeServiceObject x).object o = s.object o := by
        rw [freeServiceObject_objects,Function.update_of_ne other]
      have freed : (s.freeServiceObject x).object x = ⟨none,none⟩ := by
        rw [freeServiceObject_objects,Function.update_self]
      have stays (name : String) (o : ObjectId) (found : core.getObject name s.core = some o) :
          o ≠ x := fun same => (serving.found name o found).1 (by rw [same])
      refine ⟨⟨fun name o found => ⟨nofun,?_⟩,fun o r owns => ?_,fun r watched => ?_⟩,?_⟩
      · rw [freeServiceObject_core] at found
        rw [object_of o (stays name o found)]
        exact (serving.found name o found).2
      · have other : o ≠ x := by
          rintro rfl
          simp [freed] at owns
        rw [object_of o other] at owns
        obtain ⟨carried,target,watched,registered⟩ := serving.owned o r owns
        have apart : (s.object x).service ≠ some r :=
          fun both => other (carried.alone x both).symm
        refine ⟨⟨?_,?_,fun third holds => ?_,?_,?_⟩,?_,?_,?_⟩
        · rw [object_of o other]
          exact owns
        · rw [object_of o other]
          exact carried.named
        · by_cases same : third = x
          · subst third
            simp [freed] at holds
          · rw [object_of third same] at holds
            exact carried.alone third holds
        · rw [freeServiceObject_holoderList]
          exact carried.no_holder
        · rw [freeServiceObject_recycled,if_neg apart]
          exact carried.recycled_eq
        · rw [remote_of r apart]
          exact target
        · rw [remote_of r apart]
          exact watched
        · rw [freeServiceObject_core]
          exact registered.imp_left (fun out => absurd (Option.some.inj out).symm other)
      · have others : (s.object x).service ≠ some r := by
          intro carries
          simp [freeServiceObject,carries,recycle] at watched
        rw [remote_of r others] at watched
        obtain ⟨o,owns⟩ := serving.watched r watched
        refine ⟨o,?_⟩
        rw [object_of o fun same => others (same ▸ owns)]
        exact owns
      · funext name
        unfold directory
        rw [freeServiceObject_core]
        cases found : core.getObject name s.core with
        | none => rfl
        | some o =>
          obtain ⟨_,r,object⟩ := serving.found name o found
          have owns : (s.object o).service = some r := by rw [object]
          have apart : (s.object x).service ≠ some r :=
            fun both => stays name o found ((serving.owned o r owns).1.alone x both).symm
          simp [object_of o (stays name o found),owns,remote_of r apart]

/-- The object for a new remote is made; it is not registered yet. -/
theorem serving_obtained (ready : s.WellFormed core) (serving : s.Serving core none)
    (index : UInt64) (out : Outcomes) (obtains : out.obtains = true) (name : String) :
    let obtained := ((s.readRemoteService (some index)).2.obtainServiceObject out name
      s.remoteCount).2
    obtained.Serving core (some s.objectCount) ∧ obtained.directory core = s.directory core ∧
      obtained.object s.objectCount = ⟨some name,some s.remoteCount⟩ ∧
        (obtained.remote s.remoteCount).index = index := by
  intro obtained
  obtain ⟨read,same⟩ := serving_read ready serving index
  have fresh := s.unowned_fresh core ready index
  obtain ⟨_,carried⟩ := carried_obtained _ _ out obtains name fresh
  have made := obtainServiceObject_ok (s.readRemoteService (some index)).2 s.remoteCount out
    obtains name
  have is : obtained = (((s.readRemoteService (some index)).2.obtainServiceObject out name
    s.remoteCount).2) := rfl
  rw [made] at is
  have object : obtained.object = Function.update s.object s.objectCount
      ⟨some name,some s.remoteCount⟩ := by rw [is]; rfl
  have remote (r : RemoteId) (old : r ≠ s.remoteCount) : obtained.remote r = s.remote r := by
    rw [is]
    simp [readRemoteService,Function.update_of_ne old]
  have new : obtained.remote s.remoteCount = ⟨index,some s.objectCount,true⟩ := by
    rw [is]
    simp [readRemoteService]
  have core_same : obtained.core = s.core := by rw [is]; rfl
  have recycled : obtained.recycled = s.recycled := by rw [is]; rfl
  have holders : obtained.holoderList = s.holoderList := by rw [is]; rfl
  have below (o : ObjectId) (r : RemoteId) (owns : (s.object o).service = some r) :
      o ≠ s.objectCount := by
    obtain ⟨_,_,_,none_leaves | ⟨other,registered⟩⟩ := serving.owned o r owns
    · contradiction
    · exact Nat.ne_of_lt (ready.mapped_lt other o registered)
  have known (other : String) (o : ObjectId) (found : core.getObject other s.core = some o) :
      o ≠ s.objectCount := Nat.ne_of_lt (ready.mapped_lt other o found)
  refine ⟨⟨fun other o found => ?_,fun o r owns => ?_,fun r watched => ?_⟩,?_,?_,?_⟩
  · rw [core_same] at found
    refine ⟨fun newest => known other o found (Option.some.inj newest).symm,?_⟩
    rw [object,Function.update_of_ne (known other o found)]
    exact (serving.found other o found).2
  · by_cases newest : o = s.objectCount
    · subst o
      rw [object,Function.update_self] at owns
      obtain rfl : s.remoteCount = r := Option.some.inj owns
      rw [new]
      exact ⟨carried,rfl,rfl,.inl rfl⟩
    · have before := owns
      rw [object,Function.update_of_ne newest] at before
      have old : r ≠ s.remoteCount := Nat.ne_of_lt (ready.service_lt o r before)
      obtain ⟨held,target,watched,none_leaves | registered⟩ := serving.owned o r before
      · contradiction
      · refine ⟨⟨owns,?_,fun third holds => ?_,?_,?_⟩,?_,?_,.inr ?_⟩
        · rw [object,Function.update_of_ne newest]
          exact held.named
        · by_cases last : third = s.objectCount
          · subst third
            rw [object,Function.update_self] at holds
            exact absurd (Option.some.inj holds).symm old
          · rw [object,Function.update_of_ne last] at holds
            exact held.alone third holds
        · rw [holders]
          exact held.no_holder
        · rw [recycled]
          exact held.recycled_eq
        · rw [remote r old]
          exact target
        · rw [remote r old]
          exact watched
        · rw [core_same]
          exact registered
  · by_cases last : r = s.remoteCount
    · exact ⟨s.objectCount,by rw [object,Function.update_self,last]⟩
    · rw [remote r last] at watched
      obtain ⟨o,owns⟩ := serving.watched r watched
      refine ⟨o,?_⟩
      rw [object,Function.update_of_ne (below o r owns)]
      exact owns
  · funext other
    unfold directory
    rw [core_same]
    cases found : core.getObject other s.core with
    | none => rfl
    | some o =>
      obtain ⟨_,r,held⟩ := serving.found other o found
      have owns : (s.object o).service = some r := by rw [held]
      have old : r ≠ s.remoteCount := Nat.ne_of_lt (ready.service_lt o r owns)
      simp [object,Function.update_of_ne (known other o found),owns,remote r old]
  · rw [object,Function.update_self]
  · rw [new]

/-- The core service manager takes the object that waits; the one it replaces has to leave. -/
theorem serving_registered (serving : s.Serving core (some x)) (name : String) (r : RemoteId)
    (waits : s.object x = ⟨some name,some r⟩) (k : κ)
    (taken : ∀ other, core.getObject other k =
      if other = name then some x else core.getObject other s.core) :
    ({s with core := k} : StubState κ).Serving core (core.getObject name s.core) ∧
      ({s with core := k} : StubState κ).directory core =
        (s.directory core).publish name (s.remote r).index := by
  refine ⟨⟨fun other o found => ?_,fun o r owns => ?_,serving.watched⟩,?_⟩
  · rw [taken] at found
    split_ifs at found with same
    · obtain rfl : x = o := Option.some.inj found
      refine ⟨fun before => (serving.found name x before).1 rfl,r,?_⟩
      rw [same]
      exact waits
    · obtain ⟨_,mine,object⟩ := serving.found other o found
      refine ⟨fun before => same ?_,mine,object⟩
      obtain ⟨_,_,twice⟩ := serving.found name o before
      have named := congrArg HdfDeviceObject.priv (object.symm.trans twice)
      exact Option.some.inj named
  · obtain ⟨carried,target,watched,waiting | ⟨other,registered⟩⟩ := serving.owned o r owns
    · obtain rfl : x = o := Option.some.inj waiting
      exact ⟨⟨carried.carries,carried.named,carried.alone,carried.no_holder,carried.recycled_eq⟩,
        target,watched,.inr ⟨name,by rw [taken,if_pos rfl]⟩⟩
    · refine ⟨⟨carried.carries,carried.named,carried.alone,carried.no_holder,carried.recycled_eq⟩,
        target,watched,?_⟩
      by_cases same : other = name
      · subst other
        exact .inl registered
      · exact .inr ⟨other,by rw [taken,if_neg same]; exact registered⟩
  · funext other
    unfold directory Directory.publish
    dsimp only
    rw [taken]
    by_cases same : other = name
    · subst other
      simp [waits]
    · simp [same]

/-- The core service manager gives an object up. -/
theorem serving_removed (serving : s.Serving core none) (name : String) (k : κ)
    (gone : ∀ other, core.getObject other k =
      if other = name then none else core.getObject other s.core) :
    ({s with core := k} : StubState κ).Serving core (core.getObject name s.core) ∧
      ({s with core := k} : StubState κ).directory core = (s.directory core).withdraw name := by
  refine ⟨⟨fun other o found => ?_,fun o r owns => ?_,serving.watched⟩,?_⟩
  · rw [gone] at found
    split_ifs at found with same
    obtain ⟨_,mine,object⟩ := serving.found other o found
    refine ⟨fun before => same ?_,mine,object⟩
    obtain ⟨_,_,twice⟩ := serving.found name o before
    have named := congrArg HdfDeviceObject.priv (object.symm.trans twice)
    exact Option.some.inj named
  · obtain ⟨carried,target,watched,none_leaves | ⟨other,registered⟩⟩ := serving.owned o r owns
    · contradiction
    · refine ⟨⟨carried.carries,carried.named,carried.alone,carried.no_holder,carried.recycled_eq⟩,
        target,watched,?_⟩
      by_cases same : other = name
      · subst other
        exact .inl registered
      · exact .inr ⟨other,by rw [gone,if_neg same]; exact registered⟩
  · funext other
    unfold directory Directory.withdraw
    dsimp only
    rw [gone]
    by_cases same : other = name
    · subst other
      simp
    · simp [same]

/-- The same with another holder list, in which no remote of an object occurs. -/
theorem serving_listening (serving : s.Serving core leaving) (k : κ)
    (same : ∀ name, core.getObject name k = core.getObject name s.core)
    (holders : List UServStatListenerHolder) (count : Nat)
    (apart : ∀ o r, (s.object o).service = some r → ∀ h ∈ holders, h.listenerRemote ≠ r) :
    let t : StubState κ := {s with core := k, holoderList := holders, holderCount := count}
    t.Serving core leaving ∧ t.directory core = s.directory core :=
  serving_kept serving same rfl (fun o r owns => ⟨rfl,rfl,apart o r owns⟩) fun _ => id

theorem serving_recycle (serving : s.Serving core leaving) (r : RemoteId)
    (unowned : ∀ o, (s.object o).service ≠ some r) :
    (s.recycle r).Serving core leaving ∧ (s.recycle r).directory core = s.directory core := by
  refine serving_kept serving (fun _ => rfl) rfl (fun o mine owns => ⟨rfl,?_,?_⟩) fun _ => id
  · have other : mine ≠ r := fun both => unowned o (both ▸ owns)
    simp [recycle,Function.update_of_ne other]
  · exact (serving.owned o mine owns).1.no_holder

theorem serving_holderRelease (serving : s.Serving core leaving) (h : HolderId) :
    (s.servStatListenerHolderRelease h).Serving core leaving ∧
      (s.servStatListenerHolderRelease h).directory core = s.directory core := by
  unfold servStatListenerHolderRelease
  split
  next => exact ⟨serving,rfl⟩
  next holder listed =>
    have here := List.mem_of_find?_eq_some listed
    obtain ⟨served,same⟩ := serving_listening serving s.core (fun _ => rfl)
      (s.holoderList.filter (fun it => it.id ≠ h)) s.holderCount
      fun o r owns it member => (serving.owned o r owns).1.no_holder it (List.mem_filter.mp member).1
    obtain ⟨recycled,still⟩ := serving_recycle served holder.listenerRemote
      fun o owns => (serving.owned o _ owns).1.no_holder holder here rfl
    exact ⟨recycled,still.trans same⟩

end Steps

end StubState

/-- The request of a proxy that adds or updates a service. -/
structure Parcel.Offers (data : Parcel) (name : String) (index : UInt64) : Prop where
  named : data.name = some name
  classed : data.devClass.isSome = true
  carries : data.remote = some index

namespace DevSvcManagerStub

/-- What a handler has done to the directory when it ends: with success this, and otherwise
nothing. -/
def Effect (core : IDevSvcManager κ) (change : Directory → Directory) (s : StubState κ)
    (done : Int × StubState κ) : Prop :=
  done.2.Serving core none ∧ done.2.directory core =
    if done.1 = hdfSuccess then change (s.directory core) else s.directory core

section Handlers
variable (core : IDevSvcManager κ) (lawful : core.Lawful) (out : Outcomes) (data : Parcel)
variable (s : StubState κ) (ready : s.WellFormed core) (serving : s.Serving core none)

theorem effect_same (change : Directory → Directory) (ret : Int) (t : StubState κ)
    (served : t.Serving core none) (same : t.directory core = s.directory core)
    (none_done : ret = hdfSuccess → change (s.directory core) = s.directory core) :
    Effect core change s (ret,t) := by
  refine ⟨served,same.trans ?_⟩
  split_ifs with done
  · exact (none_done done).symm
  · rfl

include ready serving in
/-- A new object that the core service manager takes or refuses, with what is released then. -/
theorem effect_offered (index : UInt64) (obtains : out.obtains = true) (name : String)
    (ret : Int) (k : κ)
    (taken : ret = hdfSuccess → ∀ other, core.getObject other k =
      if other = name then some s.objectCount else core.getObject other s.core)
    (refused : ret ≠ hdfSuccess → ∀ other, core.getObject other k = core.getObject other s.core)
    (old : Option ObjectId) (replaced : old = core.getObject name s.core) :
    let obtained := ((s.readRemoteService (some index)).2.obtainServiceObject out name
      s.remoteCount).2
    Effect core (Directory.publish name index) s (ret,
      ({obtained with core := k} : StubState κ).releaseServiceObject
        (if ret ≠ hdfSuccess then some s.objectCount else old)) := by
  intro obtained
  obtain ⟨waiting,same,object,indexed⟩ :=
    StubState.serving_obtained ready serving index out obtains name
  have core_same : obtained.core = s.core :=
    (StubState.obtainServiceObject_kept _ _ out name).1
  by_cases done : ret = hdfSuccess
  · obtain ⟨leaving,published⟩ := StubState.serving_registered waiting name s.remoteCount object k
      (fun other => by rw [taken done other,core_same])
    obtain ⟨served,kept⟩ := StubState.serving_release leaving
    rw [if_neg (not_not.mpr done),replaced,← core_same]
    refine ⟨served,kept.trans (published.trans ?_)⟩
    rw [same,indexed,if_pos done]
  · obtain ⟨leaving,before⟩ := @StubState.serving_kept κ core obtained {obtained with core := k}
      (some s.objectCount) waiting (fun other => by rw [refused done other,core_same]) rfl
      (fun o r owns => ⟨rfl,rfl,(waiting.owned o r owns).1.no_holder⟩) (fun _ => id)
    obtain ⟨served,kept⟩ := StubState.serving_release leaving
    rw [if_pos done]
    exact effect_same core s _ ret _ served (kept.trans (before.trans same))
      fun success => absurd success done

theorem rejected_offer (name : String) (index : UInt64) (offers : Parcel.Offers data name index)
    (rejected : data.readsService out = false) : data.rejection out ≠ hdfSuccess := by
  obtain ⟨token,_,devClass,_,info⟩ := data
  obtain ⟨rfl,classed,rfl⟩ := offers
  simp only [Parcel.readsService,Option.isSome_some,Bool.and_true] at rejected classed
  simp only [classed,Bool.and_true] at rejected
  have refused : hdfErrInvalidParam ≠ hdfSuccess := by decide
  have forbidden : hdfErrNoPerm ≠ hdfSuccess := by decide
  unfold Parcel.rejection
  cases token with
  | false => simpa using refused
  | true =>
    have denied : out.permitted = false := by simpa using rejected
    simpa [denied] using forbidden

include lawful ready serving in
theorem addService_effect (name : String) (index : UInt64)
    (offers : Parcel.Offers data name index) :
    Effect core (Directory.publish name index) s (respond core out .addService data s) := by
  have no_memory : hdfErrMallocFail ≠ hdfSuccess := by decide
  change Effect core _ s ((addService data).run (serve core out) s)
  unfold addService
  cases admitted : data.readsService out with
  | false =>
    rw [run_readService_rejected core out data s _ admitted]
    exact effect_same core s _ _ s serving rfl
      fun done => absurd done (rejected_offer out data name index offers admitted)
  | true =>
    obtain ⟨name',devClass,index',named,_,carries,ran⟩ :=
      run_readService_admitted core out data s _ admitted
    obtain rfl : name = name' := Option.some.inj (offers.named.symm.trans named)
    obtain rfl : index = index' := Option.some.inj (offers.carries.symm.trans carries)
    have fresh := s.unowned_fresh core ready index
    rw [ran]
    cases obtains : out.obtains with
    | false =>
      rw [run_obtain_failed core out _ obtains,pure_eq,run_done]
      obtain ⟨served,same⟩ := StubState.serving_read ready serving index
      exact effect_same core s _ _ _ served same fun done => absurd done no_memory
    | true =>
      rw [run_obtain core out _ obtains _ _ fresh,run_perform,run_perform,run_releaseOther]
      have kept := (StubState.obtainServiceObject_kept (s.readRemoteService (some index)).2
        s.remoteCount out name).1
      refine effect_offered core out s ready serving index obtains name _ _ ?_ ?_ _
        (congrArg (core.getObject name) kept)
      · intro ok other
        rw [lawful.added name devClass _ data.servInfo _ ok other]
        exact congrArg (fun k => if other = name then _ else core.getObject other k) kept
      · intro failed other
        rw [lawful.not_added name devClass _ data.servInfo _ failed other]
        exact congrArg (core.getObject other) kept

include lawful ready serving in
theorem updateService_effect (name : String) (index : UInt64)
    (offers : Parcel.Offers data name index) :
    Effect core (Directory.publish name index) s (respond core out .updateService data s) ∧
      ((respond core out .updateService data s).1 = hdfSuccess →
        s.directory core name ≠ none) := by
  have no_memory : hdfErrMallocFail ≠ hdfSuccess := by decide
  have no_service : hdfDevErrNoDeviceService ≠ hdfSuccess := by decide
  change Effect core _ s ((updateService data).run (serve core out) s) ∧
    (((updateService data).run (serve core out) s).1 = _ → _)
  unfold updateService
  cases admitted : data.readsService out with
  | false =>
    have failed := rejected_offer out data name index offers admitted
    rw [run_readService_rejected core out data s _ admitted]
    exact ⟨effect_same core s _ _ s serving rfl fun done => absurd done failed,
      fun done => absurd done failed⟩
  | true =>
    obtain ⟨name',devClass,index',named,_,carries,ran⟩ :=
      run_readService_admitted core out data s _ admitted
    obtain rfl : name = name' := Option.some.inj (offers.named.symm.trans named)
    obtain rfl : index = index' := Option.some.inj (offers.carries.symm.trans carries)
    have fresh := s.unowned_fresh core ready index
    have looked : serve core out (.getObject name) (s.readRemoteService (some index)).2 =
        (core.getObject name s.core,(s.readRemoteService (some index)).2) := rfl
    obtain ⟨served,same⟩ := StubState.serving_read ready serving index
    rw [ran,run_perform,looked]
    cases found : core.getObject name s.core with
    | none =>
      exact ⟨effect_same core s _ _ _ served same fun done => absurd done no_service,
        fun done => absurd done no_service⟩
    | some old =>
      obtain ⟨r,_,there⟩ := StubState.directory_found serving name old found
      dsimp only
      refine ⟨?_,fun _ => by simp [there]⟩
      cases obtains : out.obtains with
      | false =>
        rw [run_obtain_failed core out _ obtains,pure_eq,run_done]
        exact effect_same core s _ _ _ served same fun done => absurd done no_memory
      | true =>
        rw [run_obtain core out _ obtains _ _ fresh,run_perform,run_releaseOther]
        have kept := (StubState.obtainServiceObject_kept (s.readRemoteService (some index)).2
          s.remoteCount out name).1
        refine effect_offered core out s ready serving index obtains name _ _ ?_ ?_ _ found.symm
        · intro ok other
          rw [lawful.updated name devClass _ data.servInfo _ ok other]
          exact congrArg (fun k => if other = name then _ else core.getObject other k) kept
        · intro failed other
          rw [lawful.not_updated name devClass _ data.servInfo _ failed other]
          exact congrArg (core.getObject other) kept

include lawful serving in
theorem removeService_effect (name : String) (named : data.name = some name) :
    Effect core (Directory.withdraw name) s (respond core out .removeService data s) := by
  obtain ⟨token,_,devClass,remote,info⟩ := data
  obtain rfl : _ = some name := named
  have refused : hdfErrInvalidParam ≠ hdfSuccess := by decide
  have forbidden : hdfErrNoPerm ≠ hdfSuccess := by decide
  have no_service : hdfDevErrNoDeviceService ≠ hdfSuccess := by decide
  change Effect core _ s ((removeService ⟨token,some name,devClass,remote,info⟩).run
    (serve core out) s)
  unfold removeService
  cases token with
  | false => exact effect_same core s _ _ s serving rfl fun done => absurd done refused
  | true =>
    rw [if_neg (by simp)]
    dsimp only
    rw [run_permCheck]
    cases out.permitted with
    | false => exact effect_same core s _ _ s serving rfl fun done => absurd done forbidden
    | true =>
      have looked : serve core out (.getObject name) s = (core.getObject name s.core,s) := rfl
      rw [if_pos rfl,run_perform,looked]
      cases found : core.getObject name s.core with
      | none => exact effect_same core s _ _ s serving rfl fun done => absurd done no_service
      | some o =>
        obtain ⟨_,r,object⟩ := serving.found name o found
        have read : serve core out (.readPriv o) s = (some name,s) := by
          change ((s.object o).priv,s) = _
          rw [object]
        obtain ⟨leaving,withdrawn⟩ := StubState.serving_removed serving name
          (core.removeService name s.core) (lawful.removed name s.core)
        rw [found] at leaving
        obtain ⟨served,kept⟩ := StubState.serving_release leaving
        dsimp only
        rw [run_perform,read]
        dsimp only
        rw [if_neg (by simp),run_perform,run_bind,run_releaseServiceObject]
        exact ⟨served,kept.trans withdrawn⟩

include lawful serving in
/-- A lookup changes nothing, and what it writes to the reply is what the directory has. -/
theorem getService_effect (name : String) (named : data.name = some name) :
    let done := respond core out .getService data s
    Effect core id s done ∧ done.2.remote = s.remote ∧
      (done.1 = hdfSuccess → out.writeRemote = true →
        (done.2.reply.drop s.reply.length).map (fun r => (s.remote r).index) =
          (s.directory core name).toList) ∧
      (done.2.reply.drop s.reply.length = [] ∨
        (done.2.reply.drop s.reply.length).map (fun r => (s.remote r).index) =
          (s.directory core name).toList) := by
  intro done
  have is : done = _ := run_getService core out data s
  have found : s.serviceFound core data =
      (core.getObject name s.core).bind fun o => (s.object o).service := by
    unfold StubState.serviceFound
    rw [named,Option.bind_some,lawful.found]
  have entry : s.directory core name =
      (s.serviceFound core data).map fun r => (s.remote r).index := by
    rw [found,Option.map_bind]
    rfl
  rw [is]
  by_cases accepted : data.rejection out = hdfSuccess
  · rw [if_pos accepted]
    cases service : s.serviceFound core data with
    | none =>
      refine ⟨effect_same core s id _ _ serving rfl fun _ => rfl,rfl,fun _ _ => ?_,.inl ?_⟩
      · simp [entry,service]
      · simp
    | some r =>
      cases written : out.writeRemote with
      | false =>
        refine ⟨effect_same core s id _ _ serving rfl fun _ => rfl,rfl,fun _ => nofun,.inl ?_⟩
        simp
      | true =>
        obtain ⟨served,same⟩ := @StubState.serving_kept κ core s {s with reply := s.reply ++ [r]}
          none serving (fun _ => rfl) rfl
          (fun o r owns => ⟨rfl,rfl,(serving.owned o r owns).1.no_holder⟩) (fun _ => id)
        refine ⟨effect_same core s id _ _ served same fun _ => rfl,rfl,fun _ _ => ?_,.inr ?_⟩
        · simp [entry,service]
        · simp [entry,service]
  · rw [if_neg accepted]
    refine ⟨effect_same core s id _ _ serving rfl fun _ => rfl,rfl,fun done => absurd done accepted,
      .inl ?_⟩
    simp

include lawful ready serving in
/-- The listener's remote that a request brings is held by a holder of its own. -/
theorem serving_withHolder (index : UInt64) (listenClass : UInt16) :
    let t : StubState κ := {(s.readRemoteService (some index)).2.withHolder
      ⟨s.holderCount,listenClass,index,s.remoteCount⟩ with
        core := (core.regsterServListener s.holderCount s.core).2}
    t.Serving core none ∧ t.directory core = s.directory core := by
  intro t
  obtain ⟨read,same⟩ := StubState.serving_read ready serving index
  have fresh := s.unowned_fresh core ready index
  obtain ⟨served,kept⟩ := StubState.serving_listening read
    (core.regsterServListener s.holderCount s.core).2 (lawful.regster_object s.holderCount s.core)
    (s.holoderList ++ [⟨s.holderCount,listenClass,index,s.remoteCount⟩]) (s.holderCount + 1)
    (fun o r owns h member => by
      rcases List.mem_append.mp member with old | new
      · exact (read.owned o r owns).1.no_holder h old
      · obtain rfl := List.mem_singleton.mp new
        rintro rfl
        exact fresh.no_object o owns)
  exact ⟨served,kept.trans same⟩

include lawful ready serving in
theorem registerServListener_effect :
    Effect core id s (respond core out .registerServListener data s) := by
  change Effect core id s ((registerServListener data).run (serve core out) s)
  cases admitted : data.readsListener with
  | false =>
    rw [run_registerServListener_rejected core out data s admitted]
    exact effect_same core s id _ s serving rfl fun _ => rfl
  | true =>
    obtain ⟨listenClass,index,_,ran⟩ := run_registerServListener core out data s admitted
    obtain ⟨read,same⟩ := StubState.serving_read ready serving index
    obtain ⟨held,kept⟩ := serving_withHolder core lawful s ready serving index listenClass
    rw [ran]
    split_ifs with fails refused
    · exact effect_same core s id _ _ read same fun _ => rfl
    · obtain ⟨released,still⟩ := StubState.serving_holderRelease held s.holderCount
      exact effect_same core s id _ _ released (still.trans kept) fun _ => rfl
    · exact effect_same core s id _ _ held kept fun _ => rfl

include lawful ready serving in
theorem unregisterServListener_effect :
    Effect core id s (respond core out .unregisterServListener data s) := by
  change Effect core id s ((unregisterServListener data).run (serve core out) s)
  by_cases rejected : data.interfaceToken = false ∨ data.remote = none
  · rw [run_unregisterServListener_rejected core out data s rejected]
    exact effect_same core s id _ s serving rfl fun _ => rfl
  obtain ⟨token,carries⟩ := not_or.mp rejected
  obtain ⟨index,carries⟩ := Option.ne_none_iff_exists'.mp carries
  obtain ⟨read,same⟩ := StubState.serving_read ready serving index
  have fresh := s.unowned_fresh core ready index
  rw [run_unregisterServListener core out data s (Bool.not_eq_false _ ▸ token) index carries]
  cases s.holoderList.find? (fun it => it.index = index) with
  | none =>
    obtain ⟨recycled,kept⟩ := StubState.serving_recycle read s.remoteCount fresh.no_object
    exact effect_same core s id _ _ recycled (kept.trans same) fun _ => rfl
  | some holder =>
    obtain ⟨heard,first⟩ := StubState.serving_listening read
      (core.unregsterServListener holder.id s.core) (lawful.unregster_object holder.id s.core)
      s.holoderList s.holderCount fun o r owns => (read.owned o r owns).1.no_holder
    obtain ⟨released,second⟩ := StubState.serving_holderRelease heard holder.id
    have unowned : ({(s.readRemoteService (some index)).2 with
        core := core.unregsterServListener holder.id s.core} :
          StubState κ).Unowned s.remoteCount 0 :=
      ⟨fresh.no_object,fresh.no_holder,fresh.recycled_eq⟩
    obtain ⟨recycled,third⟩ := StubState.serving_recycle released s.remoteCount
      (StubState.unowned_holderRelease _ _ holder.id 0 unowned).no_object
    exact effect_same core s id _ _ recycled (third.trans (second.trans (first.trans same)))
      fun _ => rfl

end Handlers

/-- The death recipient of one remote is told that this object has died. -/
def notice (core : IDevSvcManager κ) (out : Outcomes) (index : UInt64) (s : StubState κ)
    (remote : RemoteId) : StubState κ :=
  if (s.remote remote).watched = true ∧ (s.remote remote).index = index then
    ((onServiceDied remote).run (serve core out) s).2
  else s

/-- Every death recipient is told, in some order, some of them again. -/
def serviceDied (core : IDevSvcManager κ) (out : Outcomes) (index : UInt64)
    (order : List RemoteId) (s : StubState κ) : StubState κ :=
  (order ++ List.range s.remoteCount).foldl (notice core out index) s

/-- How far notices of one object's death may change the stub. -/
structure Mourns (core : IDevSvcManager κ) (index : UInt64) (s t : StubState κ) : Prop where
  wellFormed : t.WellFormed core
  serving : t.Serving core none
  counted : t.remoteCount = s.remoteCount
  indexed : ∀ r, (t.remote r).index = (s.remote r).index
  watched : ∀ r, (t.remote r).watched = true → (s.remote r).watched = true
  entry : ∀ name, t.directory core name = s.directory core name ∨
    t.directory core name = none ∧ s.directory core name = some index

section Deaths
variable (core : IDevSvcManager κ) (lawful : core.Lawful) (out : Outcomes) (index : UInt64)
variable (s : StubState κ) (ready : s.WellFormed core) (serving : s.Serving core none)

include ready serving in
theorem mourns_refl : Mourns core index s s :=
  ⟨ready,serving,rfl,fun _ => rfl,fun _ => id,fun _ => .inl rfl⟩

theorem mourns_trans (t u : StubState κ) (first : Mourns core index s t)
    (second : Mourns core index t u) : Mourns core index s u := by
  refine ⟨second.wellFormed,second.serving,second.counted.trans first.counted,
    fun r => (second.indexed r).trans (first.indexed r),
    fun r watched => first.watched r (second.watched r watched),fun name => ?_⟩
  rcases second.entry name with same | ⟨gone,had⟩
  · rw [same]
    exact first.entry name
  · rcases first.entry name with same | ⟨missing,_⟩
    · exact .inr ⟨gone,same ▸ had⟩
    · rw [missing] at had
      contradiction

include lawful serving in
/-- The object of the remote that has died is found, taken out of the registry and freed. -/
theorem onServiceDied_run (r : RemoteId) (watched : (s.remote r).watched = true) :
    let t := ((onServiceDied r).run (serve core out) s).2
    ∃ name o, s.object o = ⟨some name,some r⟩ ∧ core.getObject name s.core = some o ∧
      t = ({s with core := core.removeService name s.core} : StubState κ).freeServiceObject o := by
  obtain ⟨o,owns⟩ := serving.watched r watched
  obtain ⟨_,target,_,none_leaves | ⟨name,registered⟩⟩ := serving.owned o r owns
  · contradiction
  obtain ⟨_,mine,object⟩ := serving.found name o registered
  obtain rfl : mine = r := by
    rw [object] at owns
    exact Option.some.inj owns
  have read : serve core out (.readTarget mine) s = (some o,s) := by
    change ((s.remote mine).target,s) = _
    rw [target]
  have named : serve core out (.readPriv o) s = (some name,s) := by
    change ((s.object o).priv,s) = _
    rw [object]
  have looked : serve core out (.getService name) s = (some mine,s) := by
    change (core.getService name _ s.core,s) = _
    rw [lawful.found,registered,Option.bind_some,object]
  refine ⟨name,o,object,registered,?_⟩
  unfold onServiceDied
  rw [run_perform,read]
  dsimp only
  rw [run_perform,named]
  dsimp only
  rw [run_perform,looked]
  dsimp only
  rw [if_pos rfl,run_perform,run_releaseServiceObject]
  change ({s with core := core.removeService name s.core} : StubState κ).releaseServiceObject
    (some o) = _
  simp [StubState.releaseServiceObject,object]

include lawful ready serving in
theorem notice_mourns (r : RemoteId) : Mourns core index s (notice core out index s r) ∧
    ¬ (((notice core out index s r).remote r).watched = true ∧
      ((notice core out index s r).remote r).index = index) := by
  unfold notice
  split_ifs with told
  · obtain ⟨watched,indexed⟩ := told
    obtain ⟨name,o,object,registered,ran⟩ :=
      onServiceDied_run core lawful out s serving r watched
    have after : ((onServiceDied r).run (serve core out) s).2.WellFormed core :=
      run_of_safe _ s (safe_alone (StubState.advances_refl core) (fun _ _ _ _ served =>
        ⟨trivial,out,congrArg some served⟩) _ s
          (StubState.stays_onServiceDied core lawful () r s ready))
    obtain ⟨leaving,withdrawn⟩ := StubState.serving_removed serving name
      (core.removeService name s.core) (lawful.removed name s.core)
    rw [registered] at leaving
    obtain ⟨served,kept⟩ := StubState.serving_release leaving
    have released : StubState.releaseServiceObject (some o)
        ({s with core := core.removeService name s.core} : StubState κ) =
          ((onServiceDied r).run (serve core out) s).2 := by
      rw [ran]
      simp [StubState.releaseServiceObject,object]
    rw [released] at served kept
    have remote : ((onServiceDied r).run (serve core out) s).2.remote =
        Function.update s.remote r {s.remote r with watched := false} := by
      rw [ran]
      simp [StubState.freeServiceObject,object,StubState.recycle]
    refine ⟨⟨after,served,?_,fun other => ?_,fun other => ?_,fun other => ?_⟩,?_⟩
    · rw [ran,StubState.freeServiceObject_remoteCount]
    · rw [remote]
      by_cases same : other = r
      · subst other
        simp
      · rw [Function.update_of_ne same]
    · rw [remote]
      by_cases same : other = r
      · subst other
        simp
      · rw [Function.update_of_ne same]
        exact id
    · rw [kept,withdrawn]
      unfold Directory.withdraw
      by_cases same : other = name
      · subst other
        refine .inr ⟨Function.update_self _ _ _,?_⟩
        simp [StubState.directory,registered,object,indexed]
      · exact .inl (Function.update_of_ne same _ _)
    · rw [remote]
      simp
  · exact ⟨mourns_refl core index s ready serving,told⟩

include lawful in
theorem foldl_notice (order : List RemoteId) (s : StubState κ) (ready : s.WellFormed core)
    (serving : s.Serving core none) :
    Mourns core index s (order.foldl (notice core out index) s) ∧
      ∀ r ∈ order, ¬ (((order.foldl (notice core out index) s).remote r).watched = true ∧
        ((order.foldl (notice core out index) s).remote r).index = index) := by
  induction order generalizing s with
  | nil => exact ⟨mourns_refl core index s ready serving,fun r none => nomatch none⟩
  | cons first rest ih =>
    obtain ⟨now,told⟩ := notice_mourns core lawful out index s ready serving first
    obtain ⟨later,others⟩ := ih _ now.wellFormed now.serving
    refine ⟨mourns_trans core index s _ _ now later,fun r member => ?_⟩
    rcases List.mem_cons.mp member with rfl | member
    · rintro ⟨watched,indexed⟩
      exact told ⟨later.watched r watched,(later.indexed r).symm.trans indexed⟩
    · exact others r member

include lawful ready serving in
/-- The directory loses just the entries of the object that died. -/
theorem serviceDied_directory (order : List RemoteId) :
    let t := serviceDied core out index order s
    t.WellFormed core ∧ t.Serving core none ∧
      t.directory core = (s.directory core).bury index := by
  intro t
  obtain ⟨mourns,told⟩ := foldl_notice core lawful out index
    (order ++ List.range s.remoteCount) s ready serving
  refine ⟨mourns.wellFormed,mourns.serving,?_⟩
  have unlisted (name : String) : t.directory core name ≠ some index := by
    intro entry
    cases found : core.getObject name t.core with
    | none =>
      rw [StubState.directory_missing name found] at entry
      contradiction
    | some o =>
      obtain ⟨r,object,there⟩ :=
        @StubState.directory_found κ core t none mourns.serving name o found
      have owns : (t.object o).service = some r := by rw [object]
      have known : r ∈ order ++ List.range s.remoteCount := by
        refine List.mem_append.mpr (.inr (List.mem_range.mpr ?_))
        exact mourns.counted ▸ mourns.wellFormed.service_lt o r owns
      refine told r known ⟨(mourns.serving.owned o r owns).2.2.1,?_⟩
      exact Option.some.inj (there.symm.trans entry)
  funext name
  unfold Directory.bury
  rcases mourns.entry name with same | ⟨gone,had⟩
  · rw [if_neg]
    · exact same
    · rw [← same]
      exact unlisted name
  · rw [if_pos had]
    exact gone

end Deaths

end DevSvcManagerStub

end DriversAdapter.Svc
