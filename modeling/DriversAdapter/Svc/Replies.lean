import DriversAdapter.Svc.Remotes

/-! What a reply of success says: for each handler the requests on which it is true. -/
namespace DriversAdapter.Svc
open DriversAdapter.Base DriversAdapter.Semantics DriversAdapter.Semantics.Program

variable {κ : Type}

namespace StubState

/-- The registry maps the name of the request to an object for its remote. -/
def Registered (core : IDevSvcManager κ) (data : Parcel) (s : StubState κ) : Prop :=
  ∃ name ∈ data.name, ∃ index ∈ data.remote, ∃ o r, core.getObject name s.core = some o ∧
    (s.object o).service = some r ∧ (s.remote r).index = index

/-- The service that the core service manager finds for the request. -/
def serviceFound (core : IDevSvcManager κ) (data : Parcel) (s : StubState κ) : Option RemoteId :=
  data.name.bind (fun name => core.getService name (fun o => (s.object o).service) s.core)

theorem releaseServiceObject_index (s : StubState κ) (old : Option ObjectId) (r : RemoteId) :
    ((s.releaseServiceObject old).remote r).index = (s.remote r).index := by
  unfold releaseServiceObject
  split
  next => rfl
  next o =>
    split
    next => rfl
    next => exact freeServiceObject_remote s HdfRemoteService.index (fun _ => rfl) o r

end StubState

namespace DevSvcManagerStub

/-- What a reply of success claims. -/
def Truthful (core : IDevSvcManager κ) (code : RequestCode) (data : Parcel) (s t : StubState κ) :
    Prop :=
  match code with
  | .addService => t.Registered core data
  | .updateService => t.Registered core data
  | .getService => ∃ r, s.serviceFound core data = some r ∧ t.reply = s.reply ++ [r]
  | .registerServListener => ∃ holder ∈ t.holoderList, holder.listenerRemote = s.remoteCount ∧
      holder.id ∈ core.listeners t.core
  | _ => True

/-- The requests whose reply is true. -/
def Honest (core : IDevSvcManager κ) (out : Outcomes) (code : RequestCode) (data : Parcel)
    (s : StubState κ) : Prop :=
  match code with
  | .addService => data.rejection out ≠ hdfSuccess ∨ data.readsService out = true ∨
      s.Registered core data
  | .updateService => data.rejection out ≠ hdfSuccess ∨ data.readsService out = true ∨
      s.Registered core data
  | .getService => data.rejection out ≠ hdfSuccess ∨
      (s.serviceFound core data).isSome = true ∧ out.writeRemote = true
  | .registerServListener => data.readsListener = false ∨ out.creates = false ∨
      (core.regsterServListener s.holderCount s.core).1 = hdfSuccess
  | _ => True

section Replies
variable (core : IDevSvcManager κ) (lawful : core.Lawful) (out : Outcomes) (data : Parcel)
variable (s : StubState κ) (ready : s.WellFormed core)

theorem registered_offered (name : String) (index : UInt64) (named : data.name = some name)
    (carries : data.remote = some index) (ready : s.WellFormed core)
    (obtains : out.obtains = true) (k : κ) (old : Option ObjectId)
    (other : old ≠ some s.objectCount)
    (registered : core.getObject name k = some s.objectCount) :
    let obtained := ((s.readRemoteService (some index)).2.obtainServiceObject out name
      s.remoteCount).2
    (({obtained with core := k} : StubState κ).releaseServiceObject old).Registered core data := by
  intro obtained
  have fresh := s.unowned_fresh core ready index
  obtain ⟨_,carried⟩ := StubState.carried_obtained _ _ out obtains name fresh
  have kept : ({obtained with core := k} : StubState κ).Carried s.remoteCount s.objectCount :=
    ⟨carried.carries,carried.named,carried.alone,carried.no_holder,carried.recycled_eq⟩
  refine ⟨name,named,index,carries,s.objectCount,s.remoteCount,?_,?_,?_⟩
  · rw [StubState.releaseServiceObject_core]
    exact registered
  · exact (StubState.carried_releaseOther _ _ _ old other kept).carries
  · rw [StubState.releaseServiceObject_index]
    obtain ⟨calloc,copy⟩ := Bool.and_eq_true_iff.mp obtains
    simp [obtained,StubState.obtainServiceObject,StubState.readRemoteService,calloc,copy]

include lawful ready in
theorem addService_truthful :
    (((addService data).run (serve core out) s).1 = hdfSuccess →
        ((addService data).run (serve core out) s).2.Registered core data) ↔
      data.rejection out ≠ hdfSuccess ∨ data.readsService out = true ∨ s.Registered core data := by
  cases admitted : data.readsService out with
  | false =>
    unfold addService
    rw [run_readService_rejected core out data s _ admitted]
    simp only [Bool.false_eq_true,false_or]
    exact Decidable.imp_iff_not_or
  | true =>
    refine iff_of_true ?_ (.inr (.inl rfl))
    obtain ⟨name,devClass,index,named,_,carries,ran⟩ :=
      run_readService_admitted core out data s _ admitted
    have fresh := s.unowned_fresh core ready index
    unfold addService
    rw [ran]
    cases obtains : out.obtains with
    | false =>
      rw [run_obtain_failed core out _ obtains,pure_eq,run_done]
      intro (impossible : hdfErrMallocFail = hdfSuccess)
      exact absurd impossible (by decide)
    | true =>
      rw [run_obtain core out _ obtains _ _ fresh,run_perform,run_perform,run_releaseOther]
      intro ok
      rw [if_neg (not_not.mpr ok)]
      refine registered_offered core out data s name index named carries ready obtains _ _ ?_ ?_
      · change core.getObject name _ ≠ _
        rw [(StubState.obtainServiceObject_kept _ _ out name).1]
        exact s.mapped_ne core ready name
      · have registered := lawful.added name devClass _ data.servInfo _ ok name
        rwa [if_pos rfl] at registered

include lawful ready in
theorem updateService_truthful :
    (((updateService data).run (serve core out) s).1 = hdfSuccess →
        ((updateService data).run (serve core out) s).2.Registered core data) ↔
      data.rejection out ≠ hdfSuccess ∨ data.readsService out = true ∨ s.Registered core data := by
  cases admitted : data.readsService out with
  | false =>
    unfold updateService
    rw [run_readService_rejected core out data s _ admitted]
    simp only [Bool.false_eq_true,false_or]
    exact Decidable.imp_iff_not_or
  | true =>
    refine iff_of_true ?_ (.inr (.inl rfl))
    obtain ⟨name,devClass,index,named,_,carries,ran⟩ :=
      run_readService_admitted core out data s _ admitted
    have fresh := s.unowned_fresh core ready index
    have looked : serve core out (.getObject name) (s.readRemoteService (some index)).2 =
        (core.getObject name s.core,(s.readRemoteService (some index)).2) := rfl
    unfold updateService
    rw [ran,run_perform,looked]
    cases found : core.getObject name s.core with
    | none =>
      intro (impossible : hdfDevErrNoDeviceService = hdfSuccess)
      exact absurd impossible (by decide)
    | some old =>
      dsimp only
      cases obtains : out.obtains with
      | false =>
        rw [run_obtain_failed core out _ obtains,pure_eq,run_done]
        intro (impossible : hdfErrMallocFail = hdfSuccess)
        exact absurd impossible (by decide)
      | true =>
        rw [run_obtain core out _ obtains _ _ fresh,run_perform,run_releaseOther]
        intro ok
        rw [if_neg (not_not.mpr ok)]
        refine registered_offered core out data s name index named carries ready obtains _ _ ?_ ?_
        · rw [← found]
          exact s.mapped_ne core ready name
        · have registered := lawful.updated name devClass _ data.servInfo _ ok name
          rwa [if_pos rfl] at registered

/-- A reply of success needs neither a service nor a remote that could be written. -/
theorem run_getService :
    (getService data).run (serve core out) s = (data.rejection out,
      if data.rejection out = hdfSuccess then
        match s.serviceFound core data with
        | none => s
        | some r => if out.writeRemote then {s with reply := s.reply ++ [r]} else s
      else s) := by
  obtain ⟨token,name,devClass,remote,info⟩ := data
  unfold getService Parcel.rejection StubState.serviceFound
  dsimp only
  cases token with
  | false => rfl
  | true =>
    cases name with
    | none => rfl
    | some name =>
      rw [if_neg (by decide),if_neg (by decide),if_neg (by simp),run_permCheck]
      cases out.permitted with
      | false => rfl
      | true =>
        have looked : serve core out (.getService name) s =
          (core.getService name (fun o => (s.object o).service) s.core,s) := rfl
        rw [if_pos rfl,if_neg (by decide),if_pos rfl,run_perform,looked]
        dsimp only [Option.bind_some]
        cases core.getService name (fun o => (s.object o).service) s.core <;> rfl

theorem getService_truthful :
    (((getService data).run (serve core out) s).1 = hdfSuccess →
        Truthful core .getService data s ((getService data).run (serve core out) s).2) ↔
      Honest core out .getService data s := by
  rw [run_getService]
  unfold Truthful Honest
  dsimp only
  by_cases accepted : data.rejection out = hdfSuccess
  · rw [if_pos accepted]
    simp only [accepted,true_imp_iff,ne_eq,not_true_eq_false,false_or]
    cases s.serviceFound core data with
    | none => simp
    | some r => cases out.writeRemote <;> simp
  · simp [accepted]

include lawful ready in
theorem registerServListener_truthful :
    (((registerServListener data).run (serve core out) s).1 = hdfSuccess →
        Truthful core .registerServListener data s
          ((registerServListener data).run (serve core out) s).2) ↔
      Honest core out .registerServListener data s := by
  unfold Truthful Honest
  dsimp only
  cases admitted : data.readsListener with
  | false =>
    rw [run_registerServListener_rejected core out data s admitted]
    refine iff_of_true ?_ (.inl rfl)
    intro (impossible : hdfErrInvalidParam = hdfSuccess)
    exact absurd impossible (by decide)
  | true =>
    obtain ⟨listenClass,index,_,ran⟩ := run_registerServListener core out data s admitted
    have fresh := s.unowned_fresh core ready index
    rw [ran]
    split_ifs with fails refused
    · refine iff_of_true ?_ (.inr (.inl fails))
      intro (impossible : hdfErrMallocFail = hdfSuccess)
      exact absurd impossible (by decide)
    · -- the holder is gone, and the reply is success all the same
      have new : ∀ it ∈ s.holoderList, it.id ≠ s.holderCount :=
        fun it member => Nat.ne_of_lt (ready.holder_lt it member)
      have released := StubState.unowned_withHolder_released _ _
        ⟨s.holderCount,listenClass,index,s.remoteCount⟩ rfl fresh
          (core.regsterServListener s.holderCount s.core).2 new
      refine iff_of_false ?_ (by simp [fails,refused])
      intro claims
      obtain ⟨holder,member,mine,_⟩ := claims rfl
      exact released.no_holder holder member mine
    · have ok := not_not.mp refused
      refine iff_of_true (fun _ => ?_) (.inr (.inr ok))
      refine ⟨⟨s.holderCount,listenClass,index,s.remoteCount⟩,?_,rfl,?_⟩
      · exact List.mem_append_right _ (List.mem_singleton_self _)
      · exact lawful.registered _ _ ok

include lawful ready in
/-- Every handler's reply of success is true exactly on the requests named. -/
theorem replies_truthful_iff (code : RequestCode) :
    ((respond core out code data s).1 = hdfSuccess →
        Truthful core code data s (respond core out code data s).2) ↔
      Honest core out code data s := by
  unfold respond
  cases code with
  | addService => exact addService_truthful core lawful out data s ready
  | updateService => exact updateService_truthful core lawful out data s ready
  | getService => exact getService_truthful core out data s
  | removeService => exact iff_of_true (fun _ => trivial) trivial
  | registerServListener => exact registerServListener_truthful core lawful out data s ready
  | unregisterServListener => exact iff_of_true (fun _ => trivial) trivial

end Replies

theorem replies_truthful_sample :
    (respond Registry.manager .granting .addService .sample (StubState.starting Registry.empty)).1 =
        hdfSuccess ∧
      (respond Registry.manager .granting .addService .sample
        (StubState.starting Registry.empty)).2.Registered Registry.manager .sample :=
  ⟨rfl,(replies_truthful_iff Registry.manager Registry.manager_lawful .granting .sample
    (StubState.starting Registry.empty) StubState.starting_wellFormed .addService).mpr
      (.inr (.inl rfl)) rfl⟩

/-- A service that does not exist is reported with success, and with nothing in the reply. -/
theorem get_unknown_untruthful :
    (respond Registry.manager .granting .getService .sample (StubState.starting Registry.empty)).1 =
        hdfSuccess ∧
      ¬ Truthful Registry.manager .getService .sample (StubState.starting Registry.empty)
        (respond Registry.manager .granting .getService .sample
          (StubState.starting Registry.empty)).2 := by
  refine ⟨rfl,?_⟩
  rintro ⟨r,found,_⟩
  have missing : (none : Option RemoteId) = some r := found
  contradiction

end DevSvcManagerStub

end DriversAdapter.Svc
