import DriversAdapter.Svc.Remotes
import DriversAdapter.Semantics.Machine
import Mathlib.Data.List.Nodup

/-! Service status listeners: the list of holders in the stub and the list of listeners in
the core service manager stay in step as long as no remote registers twice. -/
namespace DriversAdapter.Svc
open DriversAdapter.Base DriversAdapter.Semantics DriversAdapter.Semantics.Program

variable {κ : Type}

/-- The core service manager notifies the holders registered with it and not unregistered,
once each. -/
structure IDevSvcManager.Notifies (core : IDevSvcManager κ) : Prop where
  registered : ∀ h k, (core.regsterServListener h k).1 = hdfSuccess →
    (core.listeners (core.regsterServListener h k).2).Perm (h :: core.listeners k)
  unregistered : ∀ h k,
    (core.listeners (core.unregsterServListener h k)).Perm ((core.listeners k).filter (· ≠ h))

theorem Registry.manager_notifies : manager.Notifies where
  registered _ _ _ := List.Perm.refl _
  unregistered _ _ := List.Perm.refl _

/-- How the calls of `UServStatListenerHolderNotifyStatus` end. -/
structure Delivery where
  sbufObtain : Bool
  writeInterfaceToken : Bool
  marshalling : Bool
  dispatch : Bool

def Delivery.delivers (sent : Delivery) : Bool :=
  sent.sbufObtain && sent.writeInterfaceToken && sent.marshalling && sent.dispatch

namespace StubState

/-- The status of the call, and the remote that is sent the notification. -/
def notifyStatus (sent : Delivery) (holder : UServStatListenerHolder) (s : StubState κ) :
    Int × Option UInt64 :=
  if sent.sbufObtain = false then (hdfErrMallocFail,none)
  else if sent.writeInterfaceToken = false then (hdfFailure,none)
  else if sent.marshalling = false then (hdfErrInvalidParam,none)
  else if sent.dispatch = false then (hdfFailure,none)
  else (hdfSuccess,some (s.remote holder.listenerRemote).index)

def holderOf (h : HolderId) (s : StubState κ) : Option UServStatListenerHolder :=
  s.holoderList.find? (fun it => it.id = h)

/-- The remotes that are sent a status when a service changes it. -/
def notified (core : IDevSvcManager κ) (sent : HolderId → Delivery) (s : StubState κ) :
    List UInt64 :=
  (core.listeners s.core).filterMap fun h =>
    (s.holderOf h).bind fun holder => (s.notifyStatus (sent h) holder).2

end StubState

inductive ListenerEvent
  | registerServListener (data : Parcel) (out : Outcomes)
  | unregisterServListener (data : Parcel) (out : Outcomes)
  | serviceStatus (sent : HolderId → Delivery)

/-- The stub, and which remotes its replies have left registered. -/
structure Audience (κ : Type) where
  stub : StubState κ
  subscribed : UInt64 → Bool

namespace Audience

def opening (k : κ) : Audience κ := ⟨StubState.starting k,fun _ => false⟩

/-- A reply of success changes what the remote of the request has been told. -/
def replied (data : Parcel) (now : Bool) (ret : Int) (subscribed : UInt64 → Bool) : UInt64 → Bool :=
  match data.remote with
  | none => subscribed
  | some index => if ret = hdfSuccess then Function.update subscribed index now else subscribed

def step (core : IDevSvcManager κ) (event : ListenerEvent) (s : Audience κ) :
    List UInt64 × Audience κ :=
  match event with
  | .registerServListener data out =>
    let answer := DevSvcManagerStub.respond core out .registerServListener data s.stub
    ([],⟨answer.2,replied data true answer.1 s.subscribed⟩)
  | .unregisterServListener data out =>
    let answer := DevSvcManagerStub.respond core out .unregisterServListener data s.stub
    ([],⟨answer.2,replied data false answer.1 s.subscribed⟩)
  | .serviceStatus sent => (s.stub.notified core sent,s)

/-- A remote registers only while no holder has it, and the core service manager accepts
the holder that has been created. -/
def Orderly (core : IDevSvcManager κ) (event : ListenerEvent) (s : Audience κ) : Prop :=
  match event with
  | .registerServListener data out => data.readsListener = true → out.creates = true →
      (∀ h ∈ s.stub.holoderList, ∀ index ∈ data.remote, h.index ≠ index) ∧
        (core.regsterServListener s.stub.holderCount s.stub.core).1 = hdfSuccess
  | _ => True

/-- The holders, the listeners of the core service manager and the replies in step. -/
structure InStep (core : IDevSvcManager κ) (s : Audience κ) : Prop where
  listeners_perm : (core.listeners s.stub.core).Perm (s.stub.holoderList.map (·.id))
  id_lt : ∀ h ∈ s.stub.holoderList, h.id < s.stub.holderCount
  id_nodup : (s.stub.holoderList.map (·.id)).Nodup
  index_nodup : (s.stub.holoderList.map (·.index)).Nodup
  remote_lt : ∀ h ∈ s.stub.holoderList, h.listenerRemote < s.stub.remoteCount
  remote_index : ∀ h ∈ s.stub.holoderList, (s.stub.remote h.listenerRemote).index = h.index
  subscribed_iff : ∀ i, s.subscribed i = true ↔ ∃ h ∈ s.stub.holoderList, h.index = i

section Steps
variable (core : IDevSvcManager κ) (s : Audience κ)

theorem inStep_kept (inStep : InStep core s) (stub : StubState κ)
    (core_eq : stub.core = s.stub.core) (list_eq : stub.holoderList = s.stub.holoderList)
    (count_eq : stub.holderCount = s.stub.holderCount)
    (remote_le : s.stub.remoteCount ≤ stub.remoteCount)
    (remote_eq : ∀ r < s.stub.remoteCount, (stub.remote r).index = (s.stub.remote r).index) :
    InStep core {s with stub := stub} := by
  obtain ⟨perm,id_lt,id_nodup,index_nodup,remote_lt,remote_index,subscribed_iff⟩ := inStep
  refine ⟨?_,?_,?_,?_,?_,?_,?_⟩
  all_goals dsimp only
  · rwa [core_eq,list_eq]
  · rwa [list_eq,count_eq]
  · rwa [list_eq]
  · rwa [list_eq]
  · rw [list_eq]
    exact fun h member => Nat.lt_of_lt_of_le (remote_lt h member) remote_le
  · rw [list_eq]
    intro h member
    rw [remote_eq h.listenerRemote (remote_lt h member)]
    exact remote_index h member
  · rwa [list_eq]

theorem inStep_read (inStep : InStep core s) (index : UInt64) :
    InStep core {s with stub := (s.stub.readRemoteService (some index)).2} := by
  refine inStep_kept core s inStep _ rfl rfl rfl (Nat.le_succ _) fun r old => ?_
  simp [StubState.readRemoteService,Function.update_of_ne (Nat.ne_of_lt old)]

/-- The core service manager takes the holder of a remote that none had. -/
theorem inStep_withHolder (notifies : core.Notifies) (inStep : InStep core s)
    (holder : UServStatListenerHolder) (id_eq : holder.id = s.stub.holderCount)
    (bound : holder.listenerRemote < s.stub.remoteCount)
    (index_eq : (s.stub.remote holder.listenerRemote).index = holder.index)
    (new : ∀ h ∈ s.stub.holoderList, h.index ≠ holder.index)
    (accepted : (core.regsterServListener holder.id s.stub.core).1 = hdfSuccess) :
    InStep core ⟨{s.stub.withHolder holder with
        core := (core.regsterServListener holder.id s.stub.core).2},
      Function.update s.subscribed holder.index true⟩ := by
  have split : ∀ h, h ∈ s.stub.holoderList ++ [holder] ↔ h ∈ s.stub.holoderList ∨ h = holder := by
    intro h
    rw [List.mem_append,List.mem_singleton]
  refine ⟨?_,?_,?_,?_,?_,?_,?_⟩
  all_goals dsimp only [StubState.withHolder]
  · have taken := notifies.registered holder.id s.stub.core accepted
    refine taken.trans ((inStep.listeners_perm.cons holder.id).trans ?_)
    rw [List.map_append,List.map_singleton]
    exact (List.perm_append_singleton _ _).symm
  · intro h member
    rcases (split h).mp member with old | rfl
    · exact Nat.lt_succ_of_lt (inStep.id_lt h old)
    · rw [id_eq]
      exact Nat.lt_succ_self _
  · rw [List.map_append,List.map_singleton,List.nodup_append]
    refine ⟨inStep.id_nodup,List.nodup_singleton _,?_⟩
    rintro id old _ last rfl
    obtain ⟨h,member,rfl⟩ := List.mem_map.mp old
    rw [List.mem_singleton,id_eq] at last
    exact absurd last (Nat.ne_of_lt (inStep.id_lt h member))
  · rw [List.map_append,List.map_singleton,List.nodup_append]
    refine ⟨inStep.index_nodup,List.nodup_singleton _,?_⟩
    rintro index old _ last rfl
    obtain ⟨h,member,rfl⟩ := List.mem_map.mp old
    exact new h member (List.mem_singleton.mp last)
  · intro h member
    rcases (split h).mp member with old | rfl
    · exact inStep.remote_lt h old
    · exact bound
  · intro h member
    rcases (split h).mp member with old | rfl
    · exact inStep.remote_index h old
    · exact index_eq
  · intro i
    by_cases same : i = holder.index
    · subst i
      rw [Function.update_self]
      exact iff_of_true rfl ⟨holder,(split holder).mpr (.inr rfl),rfl⟩
    · rw [Function.update_of_ne same,inStep.subscribed_iff]
      constructor
      · rintro ⟨h,member,found⟩
        exact ⟨h,(split h).mpr (.inl member),found⟩
      · rintro ⟨h,member,found⟩
        rcases (split h).mp member with old | rfl
        · exact ⟨h,old,found⟩
        · exact absurd found.symm same

/-- The only holder of a remote goes, and with it the remote's registration. -/
theorem inStep_release (notifies : core.Notifies) (inStep : InStep core s)
    (holder : UServStatListenerHolder) (member : holder ∈ s.stub.holoderList) (stub : StubState κ)
    (core_eq : stub.core = core.unregsterServListener holder.id s.stub.core)
    (list_eq : stub.holoderList = s.stub.holoderList.filter (fun it => it.id ≠ holder.id))
    (count_eq : stub.holderCount = s.stub.holderCount)
    (remoteCount_eq : stub.remoteCount = s.stub.remoteCount)
    (remote_eq : stub.remote = s.stub.remote) :
    InStep core ⟨stub,Function.update s.subscribed holder.index false⟩ := by
  have kept : ∀ h, h ∈ stub.holoderList ↔ h ∈ s.stub.holoderList ∧ h.id ≠ holder.id := by
    intro h
    rw [list_eq,List.mem_filter]
    simp
  have sublist : List.Sublist stub.holoderList s.stub.holoderList := by
    rw [list_eq]
    exact List.filter_sublist
  refine ⟨?_,?_,?_,?_,?_,?_,?_⟩
  all_goals dsimp only
  · rw [core_eq,list_eq]
    refine (notifies.unregistered holder.id s.stub.core).trans ?_
    refine (inStep.listeners_perm.filter _).trans ?_
    rw [List.filter_map]
    exact List.Perm.refl _
  · intro h here
    rw [count_eq]
    exact inStep.id_lt h ((kept h).mp here).1
  · exact inStep.id_nodup.sublist (sublist.map _)
  · exact inStep.index_nodup.sublist (sublist.map _)
  · intro h here
    rw [remoteCount_eq]
    exact inStep.remote_lt h ((kept h).mp here).1
  · intro h here
    rw [remote_eq]
    exact inStep.remote_index h ((kept h).mp here).1
  · intro i
    by_cases same : i = holder.index
    · subst i
      rw [Function.update_self]
      refine iff_of_false (by decide) ?_
      rintro ⟨h,here,found⟩
      obtain ⟨old,other⟩ := (kept h).mp here
      have only := List.inj_on_of_nodup_map inStep.index_nodup old member found
      exact other (by rw [only])
    · rw [Function.update_of_ne same,inStep.subscribed_iff]
      constructor
      · rintro ⟨h,here,found⟩
        refine ⟨h,(kept h).mpr ⟨here,fun twin => same ?_⟩,found⟩
        have only := List.inj_on_of_nodup_map inStep.id_nodup here member twin
        rw [← found,only]
      · rintro ⟨h,here,found⟩
        exact ⟨h,((kept h).mp here).1,found⟩

theorem inStep_step (notifies : core.Notifies) (inStep : InStep core s) (event : ListenerEvent)
    (orderly : Orderly core event s) : InStep core (step core event s).2 := by
  cases event with
  | serviceStatus sent => exact inStep
  | registerServListener data out =>
    unfold step DevSvcManagerStub.respond DevSvcManagerStub.dispatch
    dsimp only
    have refused : ∀ ret, ret ≠ hdfSuccess → replied data true ret s.subscribed = s.subscribed := by
      intro ret failed
      unfold replied
      split
      next => rfl
      next => exact if_neg failed
    cases admitted : data.readsListener with
    | false =>
      rw [DevSvcManagerStub.run_registerServListener_rejected core out data s.stub admitted,
        refused hdfErrInvalidParam (by decide)]
      exact inStep
    | true =>
      obtain ⟨listenClass,index,carries,ran⟩ :=
        DevSvcManagerStub.run_registerServListener core out data s.stub admitted
      have bound := inStep_read core s inStep index
      rw [ran]
      cases creates : out.creates with
      | false =>
        rw [if_pos rfl,refused hdfErrMallocFail (by decide)]
        exact bound
      | true =>
        obtain ⟨new,accepted⟩ := orderly admitted creates
        rw [if_neg (by decide),if_neg (not_not.mpr accepted)]
        unfold replied
        rw [carries]
        dsimp only
        rw [if_pos rfl]
        refine inStep_withHolder core _ notifies bound
          ⟨s.stub.holderCount,listenClass,index,s.stub.remoteCount⟩ rfl ?_ ?_ ?_ accepted
        · exact Nat.lt_succ_self _
        · simp [StubState.readRemoteService]
        · exact fun h member => new h member index carries
  | unregisterServListener data out =>
    unfold step DevSvcManagerStub.respond DevSvcManagerStub.dispatch
    dsimp only
    by_cases rejected : data.interfaceToken = false ∨ data.remote = none
    · rw [DevSvcManagerStub.run_unregisterServListener_rejected core out data s.stub rejected]
      unfold replied
      split <;> exact inStep
    · obtain ⟨token,carries⟩ := not_or.mp rejected
      obtain ⟨index,carries⟩ := Option.ne_none_iff_exists'.mp carries
      have bound := inStep_read core s inStep index
      rw [DevSvcManagerStub.run_unregisterServListener core out data s.stub
        (Bool.not_eq_false _ ▸ token) index carries]
      unfold replied
      rw [carries]
      dsimp only
      cases found : s.stub.holoderList.find? (fun it => it.index = index) with
      | none =>
        dsimp only
        rw [if_neg (by decide)]
        exact inStep_kept core _ bound _ rfl rfl rfl (Nat.le_refl _) fun _ _ => rfl
      | some holder =>
        have member := List.mem_of_find?_eq_some found
        have indexed : holder.index = index := by simpa using List.find?_some found
        obtain ⟨twin,again⟩ : ∃ twin, s.stub.holoderList.find? (fun it => it.id = holder.id) =
            some twin := by
          rw [← Option.isSome_iff_exists,List.find?_isSome]
          exact ⟨holder,member,by simp⟩
        subst index
        dsimp only
        rw [if_pos rfl]
        rw [StubState.servStatListenerHolderRelease_some _ holder.id twin]
        · exact inStep_release core _ notifies bound holder member _ rfl rfl rfl rfl rfl
        · exact again

theorem notified_perm (inStep : InStep core s) (sent : HolderId → Delivery) :
    (s.stub.notified core sent).Perm
      (s.stub.holoderList.filterMap fun holder => (s.stub.notifyStatus (sent holder.id) holder).2) := by
  refine (inStep.listeners_perm.filterMap _).trans ?_
  rw [List.filterMap_map]
  refine List.Perm.of_eq (List.filterMap_congr fun holder member => ?_)
  obtain ⟨twin,found⟩ : ∃ twin, s.stub.holderOf holder.id = some twin := by
    rw [← Option.isSome_iff_exists]
    exact List.find?_isSome.mpr ⟨holder,member,by simp⟩
  have same : twin.id = holder.id := by simpa using List.find?_some found
  have only := List.inj_on_of_nodup_map inStep.id_nodup (List.mem_of_find?_eq_some found) member same
  subst twin
  rw [Function.comp_apply,found,Option.bind_some]

theorem notifyStatus_index (inStep : InStep core s) (sent : Delivery)
    (holder : UServStatListenerHolder) (member : holder ∈ s.stub.holoderList) :
    (s.stub.notifyStatus sent holder).2 = if sent.delivers = true then some holder.index else none := by
  obtain ⟨obtained,written,marshalled,dispatched⟩ := sent
  unfold StubState.notifyStatus Delivery.delivers
  dsimp only
  rw [inStep.remote_index holder member]
  cases obtained <;> cases written <;> cases marshalled <;> cases dispatched <;> rfl

end Steps

/-- In a run in which no remote registers twice, a status is sent to no remote that has not
been told that it is registered, and once to each that has. -/
theorem registered_notified_once (core : IDevSvcManager κ) (notifies : core.Notifies) (k : κ)
    (silent : core.listeners k = []) (s : Audience κ)
    (reached : Machine.Reach (step core) (Orderly core) (opening k) s)
    (sent : HolderId → Delivery) (i : UInt64) :
    (s.subscribed i = false → i ∉ (step core (.serviceStatus sent) s).1) ∧
      (s.subscribed i = true → (∀ h, (sent h).delivers = true) →
        (step core (.serviceStatus sent) s).1.count i = 1) := by
  have inStep : InStep core s := by
    refine Machine.reach_invariant (step core) (Orderly core) (opening k) (InStep core) ?_
      (fun event s here orderly => inStep_step core s notifies here event orderly) s reached
    refine ⟨?_,?_,List.nodup_nil,List.nodup_nil,?_,?_,?_⟩
    · exact List.Perm.of_eq silent
    · intro h member
      cases member
    · intro h member
      cases member
    · intro h member
      cases member
    · intro i
      refine iff_of_false (by simp [opening]) ?_
      rintro ⟨h,member,_⟩
      cases member
  have perm := notified_perm core s inStep sent
  refine ⟨fun silent told => ?_,fun subscribed delivers => ?_⟩
  · obtain ⟨holder,member,reaches⟩ := List.mem_filterMap.mp (perm.mem_iff.mp told)
    rw [notifyStatus_index core s inStep _ holder member] at reaches
    have index_eq : holder.index = i := by
      split_ifs at reaches
      exact Option.some.inj reaches
    have subscribed := (inStep.subscribed_iff i).mpr ⟨holder,member,index_eq⟩
    rw [silent] at subscribed
    contradiction
  · have all : (s.stub.holoderList.filterMap fun holder =>
        (s.stub.notifyStatus (sent holder.id) holder).2) = s.stub.holoderList.map (·.index) := by
      rw [← List.filterMap_eq_map]
      refine List.filterMap_congr fun holder member => ?_
      rw [notifyStatus_index core s inStep _ holder member,if_pos (delivers holder.id)]
      rfl
    obtain ⟨holder,member,index_eq⟩ := (inStep.subscribed_iff i).mp subscribed
    change (s.stub.notified core sent).count i = 1
    rw [perm.count_eq,all]
    refine List.count_eq_one_of_mem inStep.index_nodup ?_
    exact List.mem_map.mpr ⟨holder,member,index_eq⟩

def visitors : List ListenerEvent :=
  let other : Parcel := {Parcel.sample with remote := some 78}
  [.registerServListener .sample .granting,.registerServListener other .granting,
    .unregisterServListener .sample .granting,.registerServListener .sample .granting]

theorem registered_notified_once_visitors :
    let s := (Machine.run (step Registry.manager) visitors (opening Registry.empty)).2
    s.subscribed 77 = true ∧
      (step Registry.manager (.serviceStatus fun _ => ⟨true,true,true,true⟩) s).1.count 77 = 1 := by
  intro s
  have once := registered_notified_once Registry.manager Registry.manager_notifies Registry.empty rfl s
  refine ⟨rfl,(once ?_ (fun _ => ⟨true,true,true,true⟩) 77).2 rfl fun _ => rfl⟩
  refine .step _ (.step _ (.step _ (.step _ .start ?_) ?_) trivial) ?_
  all_goals refine fun _ _ => ⟨fun h member index carries => ?_,rfl⟩
  · have nobody : h ∈ ([] : List UServStatListenerHolder) := member
    contradiction
  · have first : h ∈ [(⟨0,1,77,0⟩ : UServStatListenerHolder)] := member
    obtain rfl : 78 = index := Option.some.inj carries
    rw [List.mem_singleton.mp first]
    decide
  · have second : h ∈ [(⟨1,1,78,1⟩ : UServStatListenerHolder)] := member
    obtain rfl : 77 = index := Option.some.inj carries
    rw [List.mem_singleton.mp second]
    decide

/-- A remote that registers twice is told twice, and is told once more after it has left. -/
theorem twice_registered_notified :
    let s := (Machine.run (step Registry.manager) [.registerServListener .sample .granting,
      .registerServListener .sample .granting,.unregisterServListener .sample .granting]
      (opening Registry.empty)).2
    s.subscribed 77 = false ∧
      (step Registry.manager (.serviceStatus fun _ => ⟨true,true,true,true⟩) s).1 = [77] :=
  ⟨rfl,rfl⟩

end Audience

end DriversAdapter.Svc
