import DriversAdapter.Svc.Remotes
import DriversAdapter.Semantics.Interleaving

/-! Where the identities of the stub come from: no handler uses one that has not been given
out, however the operations of several requests and death callbacks fall between each
other. So every state of the stub is well formed, whatever has been asked of it. -/
namespace DriversAdapter.Svc
open DriversAdapter.Base DriversAdapter.Semantics DriversAdapter.Semantics.Program

variable {κ : Type}

namespace StubState

/-- Identities are not taken back. -/
structure Before (s t : StubState κ) : Prop where
  objects : s.objectCount ≤ t.objectCount
  remotes : s.remoteCount ≤ t.remoteCount

theorem before_refl (s : StubState κ) : s.Before s := ⟨Nat.le_refl _,Nat.le_refl _⟩

theorem before_trans (s t u : StubState κ) (first : s.Before t) (second : t.Before u) :
    s.Before u :=
  ⟨Nat.le_trans first.objects second.objects,Nat.le_trans first.remotes second.remotes⟩

end StubState

namespace StubOp

/-- What an operation is given exists. -/
def InUse (s : StubState κ) : StubOp → Prop
  | .obtainServiceObject _ service => service < s.remoteCount
  | .freeServiceObject o => o < s.objectCount
  | .recycle r => r < s.remoteCount
  | .addService _ _ o _ => o < s.objectCount
  | .updateService _ _ o _ => o < s.objectCount
  | .holderCreate listener _ => listener < s.remoteCount
  | _ => True

/-- What an operation returns exists. -/
def Known (t : StubState κ) : (op : StubOp) → op.Res → Prop
  | .readRemoteService _, read => ∀ r, read = some r → r < t.remoteCount
  | .obtainServiceObject _ _, obtained => ∀ o, obtained = some o → o < t.objectCount
  | .readTarget _, target => ∀ o, target = some o → o < t.objectCount
  | .getObject _, found => ∀ o, found = some o → o < t.objectCount
  | _, _ => True

theorem inUse_before (op : StubOp) (s t : StubState κ) (later : s.Before t) (inUse : op.InUse s) :
    op.InUse t := by
  cases op with
  | obtainServiceObject name service => exact Nat.lt_of_lt_of_le inUse later.remotes
  | freeServiceObject o => exact Nat.lt_of_lt_of_le inUse later.objects
  | recycle r => exact Nat.lt_of_lt_of_le inUse later.remotes
  | addService name devClass o info => exact Nat.lt_of_lt_of_le inUse later.objects
  | updateService name devClass o info => exact Nat.lt_of_lt_of_le inUse later.objects
  | holderCreate listener listenClass => exact Nat.lt_of_lt_of_le inUse later.remotes
  | _ => trivial

end StubOp

namespace StubState

section Steps
variable (core : IDevSvcManager κ) (s : StubState κ) (ready : s.WellFormed core)

include ready in
theorem wellFormed_core (k : κ)
    (lookup : ∀ name o, core.getObject name k = some o → o < s.objectCount) :
    ({s with core := k} : StubState κ).WellFormed core :=
  {ready with mapped_lt := lookup}

include ready in
theorem wellFormed_read (index : UInt64) :
    (s.readRemoteService (some index)).2.WellFormed core where
  mapped_lt := ready.mapped_lt
  target_lt r o target := by
    dsimp only [readRemoteService] at target
    by_cases new : r = s.remoteCount
    · subst r
      rw [Function.update_self] at target
      contradiction
    · rw [Function.update_of_ne new] at target
      exact ready.target_lt r o target
  released_zero := ready.released_zero
  service_lt o r owned := Nat.lt_succ_of_lt (ready.service_lt o r owned)
  holder_lt := ready.holder_lt
  listener_lt h member := Nat.lt_succ_of_lt (ready.listener_lt h member)
  recycled_zero r beyond := ready.recycled_zero r (Nat.le_of_succ_le beyond)

include ready in
theorem wellFormed_obtain (out : Outcomes) (name : String) (service : RemoteId)
    (inUse : service < s.remoteCount) :
    (s.obtainServiceObject out name service).2.WellFormed core := by
  cases obtains : out.obtains with
  | false =>
    rw [obtainServiceObject_failed s service out obtains]
    exact ready
  | true =>
    rw [obtainServiceObject_ok s service out obtains]
    refine ⟨fun other o found => ?_,fun r o target => ?_,fun o beyond => ?_,fun o r owned => ?_,
      ready.holder_lt,ready.listener_lt,ready.recycled_zero⟩
    · exact Nat.lt_succ_of_lt (ready.mapped_lt other o found)
    · dsimp only at target
      by_cases same : r = service
      · subst r
        rw [Function.update_self] at target
        cases target
        exact Nat.lt_succ_self _
      · rw [Function.update_of_ne same] at target
        exact Nat.lt_succ_of_lt (ready.target_lt r o target)
    · exact ready.released_zero o (Nat.le_of_succ_le beyond)
    · dsimp only at owned
      by_cases new : o = s.objectCount
      · subst o
        rw [Function.update_self] at owned
        cases owned
        exact inUse
      · rw [Function.update_of_ne new] at owned
        exact ready.service_lt o r owned

include ready in
theorem wellFormed_recycle (r : RemoteId) (inUse : r < s.remoteCount) :
    (s.recycle r).WellFormed core := by
  refine {ready with recycled_zero := fun other beyond => ?_}
  have differs : other ≠ r := Nat.ne_of_gt (Nat.lt_of_lt_of_le inUse beyond)
  dsimp only [recycle]
  rw [Function.update_of_ne differs]
  exact ready.recycled_zero other beyond

theorem freeServiceObject_holderCount (o : ObjectId) :
    (s.freeServiceObject o).holderCount = s.holderCount := by
  unfold freeServiceObject
  split <;> rfl

include ready in
theorem wellFormed_free (o : ObjectId) (inUse : o < s.objectCount) :
    (s.freeServiceObject o).WellFormed core := by
  refine ⟨fun name other found => ?_,fun r other target => ?_,fun other beyond => ?_,
    fun other r owned => ?_,fun h member => ?_,fun h member => ?_,fun r beyond => ?_⟩
  · rw [freeServiceObject_core] at found
    rw [freeServiceObject_objectCount]
    exact ready.mapped_lt name other found
  · rw [freeServiceObject_target] at target
    rw [freeServiceObject_objectCount]
    exact ready.target_lt r other target
  · rw [freeServiceObject_objectCount] at beyond
    have differs : other ≠ o := Nat.ne_of_gt (Nat.lt_of_lt_of_le inUse beyond)
    rw [freeServiceObject_released,Function.update_of_ne differs]
    exact ready.released_zero other beyond
  · rw [freeServiceObject_objects] at owned
    rw [freeServiceObject_remoteCount]
    by_cases same : other = o
    · subst other
      rw [Function.update_self] at owned
      contradiction
    · rw [Function.update_of_ne same] at owned
      exact ready.service_lt other r owned
  · rw [freeServiceObject_holoderList] at member
    rw [freeServiceObject_holderCount]
    exact ready.holder_lt h member
  · rw [freeServiceObject_holoderList] at member
    rw [freeServiceObject_remoteCount]
    exact ready.listener_lt h member
  · rw [freeServiceObject_remoteCount] at beyond
    have apart : (s.object o).service ≠ some r :=
      fun owned => Nat.lt_irrefl _ (Nat.lt_of_lt_of_le (ready.service_lt o r owned) beyond)
    rw [freeServiceObject_recycled,if_neg apart]
    exact ready.recycled_zero r beyond

include ready in
theorem wellFormed_holderCreate (out : Outcomes) (listener : RemoteId) (listenClass : UInt16)
    (inUse : listener < s.remoteCount) :
    (s.servStatListenerHolderCreate out listener listenClass).2.WellFormed core := by
  cases creates : out.creates with
  | false =>
    rw [servStatListenerHolderCreate_failed s listener out creates]
    exact ready
  | true =>
    rw [servStatListenerHolderCreate_ok s listener out creates]
    refine {ready with holder_lt := fun h member => ?_, listener_lt := fun h member => ?_}
    · rcases List.mem_append.mp member with old | new
      · exact Nat.lt_succ_of_lt (ready.holder_lt h old)
      · rw [List.mem_singleton.mp new]
        exact Nat.lt_succ_self _
    · rcases List.mem_append.mp member with old | new
      · exact ready.listener_lt h old
      · rw [List.mem_singleton.mp new]
        exact inUse

include ready in
theorem wellFormed_holderRelease (h : HolderId) :
    (s.servStatListenerHolderRelease h).WellFormed core := by
  unfold servStatListenerHolderRelease
  split
  next => exact ready
  next holder found =>
    have listed := ready.listener_lt holder (List.mem_of_find?_eq_some found)
    have fewer : ({s with holoderList := s.holoderList.filter (fun it => it.id ≠ h)} :
        StubState κ).WellFormed core :=
      {ready with
        holder_lt := fun it member => ready.holder_lt it (List.mem_filter.mp member).1
        listener_lt := fun it member => ready.listener_lt it (List.mem_filter.mp member).1}
    exact wellFormed_recycle core _ fewer holder.listenerRemote listed

end Steps

section Serves
variable (core : IDevSvcManager κ) (lawful : core.Lawful) (out : Outcomes) (s : StubState κ)
variable (ready : s.WellFormed core)

/-- An accepted object is in use, and a refused one changes nothing. -/
theorem registered_lt (name : String) (o : ObjectId) (inUse : o < s.objectCount) (ret : Int) (k : κ)
    (mapped : ∀ other x, core.getObject other s.core = some x → x < s.objectCount)
    (taken : ret = hdfSuccess → ∀ other, core.getObject other k =
      if other = name then some o else core.getObject other s.core)
    (refused : ret ≠ hdfSuccess → ∀ other, core.getObject other k = core.getObject other s.core)
    (other : String) (x : ObjectId) (found : core.getObject other k = some x) :
    x < s.objectCount := by
  by_cases ok : ret = hdfSuccess
  · rw [taken ok] at found
    split_ifs at found with same
    · cases found
      exact inUse
    · exact mapped other x found
  · rw [refused ok] at found
    exact mapped other x found

include lawful ready in
theorem wellFormed_serve (op : StubOp) (inUse : op.InUse s) :
    (serve core out op s).2.WellFormed core := by
  cases op with
  | permCheck => exact ready
  | readRemoteService binder =>
    cases binder with
    | none => exact ready
    | some index => exact s.wellFormed_read core ready index
  | writeRemoteService service =>
    dsimp only [serve]
    split
    · exact ⟨ready.mapped_lt,ready.target_lt,ready.released_zero,ready.service_lt,ready.holder_lt,
        ready.listener_lt,ready.recycled_zero⟩
    · exact ready
  | obtainServiceObject name service => exact s.wellFormed_obtain core ready out name service inUse
  | readPriv o => exact ready
  | readTarget r => exact ready
  | freeServiceObject o => exact s.wellFormed_free core ready o inUse
  | recycle r => exact s.wellFormed_recycle core ready r inUse
  | getObject name => exact ready
  | getService name => exact ready
  | addService name devClass o info =>
    exact s.wellFormed_core core ready _ (s.registered_lt core name o inUse _ _ ready.mapped_lt
      (lawful.added name devClass o info s.core) (lawful.not_added name devClass o info s.core))
  | updateService name devClass o info =>
    exact s.wellFormed_core core ready _ (s.registered_lt core name o inUse _ _ ready.mapped_lt
      (lawful.updated name devClass o info s.core) (lawful.not_updated name devClass o info s.core))
  | removeService name =>
    refine s.wellFormed_core core ready _ fun other o found => ?_
    rw [lawful.removed] at found
    split_ifs at found with same
    exact ready.mapped_lt other o found
  | holderCreate listener listenClass =>
    exact s.wellFormed_holderCreate core ready out listener listenClass inUse
  | holderGet listener => exact ready
  | holderRelease h => exact s.wellFormed_holderRelease core ready h
  | regsterServListener h =>
    refine s.wellFormed_core core ready _ fun other o found => ?_
    rw [lawful.regster_object] at found
    exact ready.mapped_lt other o found
  | unregsterServListener h =>
    refine s.wellFormed_core core ready _ fun other o found => ?_
    rw [lawful.unregster_object] at found
    exact ready.mapped_lt other o found

theorem before_serve (op : StubOp) : s.Before (serve core out op s).2 := by
  cases op with
  | readRemoteService binder =>
    cases binder with
    | none => exact s.before_refl
    | some index => exact ⟨Nat.le_refl _,Nat.le_succ _⟩
  | writeRemoteService service =>
    dsimp only [serve]
    split
    · exact ⟨Nat.le_refl _,Nat.le_refl _⟩
    · exact s.before_refl
  | obtainServiceObject name service =>
    dsimp only [serve]
    unfold obtainServiceObject
    split_ifs
    · exact s.before_refl
    · exact s.before_refl
    · exact ⟨Nat.le_succ _,Nat.le_refl _⟩
  | freeServiceObject o =>
    exact ⟨Nat.le_of_eq (s.freeServiceObject_objectCount o).symm,
      Nat.le_of_eq (s.freeServiceObject_remoteCount o).symm⟩
  | holderCreate listener listenClass =>
    dsimp only [serve]
    unfold servStatListenerHolderCreate
    split_ifs <;> exact ⟨Nat.le_refl _,Nat.le_refl _⟩
  | holderRelease h =>
    dsimp only [serve]
    unfold servStatListenerHolderRelease
    split <;> exact ⟨Nat.le_refl _,Nat.le_refl _⟩
  | _ => exact ⟨Nat.le_refl _,Nat.le_refl _⟩

include ready in
theorem known_serve (op : StubOp) : op.Known (serve core out op s).2 (serve core out op s).1 := by
  cases op with
  | readRemoteService binder =>
    cases binder with
    | none => exact fun _ read => by cases read
    | some index =>
      rintro r ⟨⟩
      exact Nat.lt_succ_self _
  | obtainServiceObject name service =>
    dsimp only [serve]
    cases obtains : out.obtains with
    | false =>
      rw [s.obtainServiceObject_failed service out obtains]
      exact fun _ obtained => by cases obtained
    | true =>
      rw [s.obtainServiceObject_ok service out obtains]
      rintro o ⟨⟩
      exact Nat.lt_succ_self _
  | readTarget r => exact fun o target => ready.target_lt r o target
  | getObject name => exact fun o found => ready.mapped_lt name o found
  | _ => trivial

end Serves

end StubState

/-- Any request, or the notification that the remote of a service has died. -/
inductive Visit
  | request (code : RequestCode) (data : Parcel)
  | died (remote : RemoteId)

def Visit.body : Visit → StubM (Unit ⊕ Int)
  | .request code data => do return .inr (← DevSvcManagerStub.dispatch code data)
  | .died remote => do
    DevSvcManagerStub.onServiceDied remote
    return .inr hdfSuccess

/-- The stub with any number of visitors at once. -/
def reception {ι : Type} (core : IDevSvcManager κ) :
    System ι StubOp StubOp.Res Visit Unit Int Outcomes (StubState κ) where
  exec _ op out s := some (serve core out op s)
  entry _ := ()
  body visit _ := visit.body
  allowed _ _ := True
  permitted _ _ _ := True

namespace StubState

section Programs
variable {ι : Type} (core : IDevSvcManager κ) (lawful : core.Lawful) (i : ι)

theorem some_lt (o n : Nat) (within : o < n) (x : Nat) (same : some o = some x) : x < n := by
  cases same
  exact within

/-- What any step may do to a well-formed stub. -/
def Advances (s t : StubState κ) : Prop := s.WellFormed core → t.WellFormed core ∧ s.Before t

theorem advances_refl (s : StubState κ) : Advances core s s := fun ready => ⟨ready,s.before_refl⟩

theorem advances_trans (s t u : StubState κ) (first : Advances core s t)
    (second : Advances core t u) : Advances core s u := by
  intro ready
  obtain ⟨near,sooner⟩ := first ready
  obtain ⟨far,later⟩ := second near
  exact ⟨far,before_trans s t u sooner later⟩

/-- A program of visitor `i` that stays within the identities given out. -/
abbrev Stays {α : Type} (p : StubM α) (s : StubState κ) : Prop :=
  Safe (Advances core) ((reception core).step i)
    (fun _ t u => Advances core t u ∧ u.WellFormed core) (fun _ t => t.WellFormed core) p s

theorem stays_done {α : Type} (value : α) (s : StubState κ) (ready : s.WellFormed core) :
    Stays core i (.done value : StubM α) s :=
  safe_done value s (fun _ _ moved before => (moved before).1) ready

include lawful in
theorem stays_perform {α : Type} (op : StubOp) (f : op.Res → StubM α) (s : StubState κ)
    (ready : s.WellFormed core) (inUse : op.InUse s)
    (rest : ∀ r t, t.WellFormed core → s.Before t → op.Known t r → Stays core i (f r) t) :
    Stays core i (DevSvcManagerStub.perform op >>= f) s := by
  refine safe_call (fun t => t.WellFormed core ∧ s.Before t) op f s ?_ ⟨ready,s.before_refl⟩ ?_
  · rintro t u moved ⟨ready,later⟩
    obtain ⟨after,further⟩ := moved ready
    exact ⟨after,before_trans s t u later further⟩
  · rintro t ⟨ready,later⟩ r u ⟨_,out,served⟩
    have after := t.wellFormed_serve core lawful out ready op (op.inUse_before s t later inUse)
    have further := t.before_serve core out op
    have known := t.known_serve core out ready op
    have same : serve core out op t = (r,u) := Option.some.inj served
    rw [same] at after further known
    exact ⟨⟨fun _ => ⟨after,further⟩,after⟩,
      rest _ _ after (before_trans s t _ later further) known⟩

include lawful in
theorem stays_releaseServiceObject (o : Option ObjectId) (s : StubState κ)
    (ready : s.WellFormed core) (inUse : ∀ x, o = some x → x < s.objectCount) :
    Stays core i (DevSvcManagerStub.releaseServiceObject o) s := by
  cases o with
  | none => exact stays_done core i () s ready
  | some o =>
    refine stays_perform core lawful i (.readPriv o) _ s ready trivial ?_
    intro priv t ready later _
    cases priv with
    | none => exact stays_done core i () t ready
    | some name =>
      refine stays_perform core lawful i (.freeServiceObject o) .done t ready ?_
        fun _ u ready _ _ => stays_done core i () u ready
      exact Nat.lt_of_lt_of_le (inUse o rfl) later.objects

include lawful in
theorem stays_release {α : Type} (value : α) (o : Option ObjectId) (s : StubState κ)
    (ready : s.WellFormed core) (inUse : ∀ x, o = some x → x < s.objectCount) :
    Stays core i (do DevSvcManagerStub.releaseServiceObject o; return value : StubM α) s :=
  safe_bind (advances_refl core) _ _ s
    (stays_releaseServiceObject core lawful i o s ready inUse)
    fun _ t after => stays_done core i value t after

include lawful in
theorem stays_permCheck (accepted : Int → StubM Int) (s : StubState κ) (ready : s.WellFormed core)
    (accept : ∀ ret t, t.WellFormed core → Stays core i (accepted ret) t) :
    Stays core i (DevSvcManagerStub.perform .permCheck >>= fun ret =>
      if ret ≠ hdfSuccess then return ret else accepted ret) s := by
  refine stays_perform core lawful i .permCheck _ s ready trivial ?_
  intro ret t ready _ _
  split_ifs with refused
  · exact stays_done core i ret t ready
  · exact accept ret t ready

include lawful in
theorem stays_readService (data : Parcel) (next : String → UInt16 → RemoteId → StubM Int)
    (s : StubState κ) (ready : s.WellFormed core)
    (rest : ∀ name devClass service t, t.WellFormed core → service < t.remoteCount →
      Stays core i (next name devClass service) t) :
    Stays core i (DevSvcManagerStub.readService data next) s := by
  unfold DevSvcManagerStub.readService
  split_ifs with token
  · exact stays_done core i _ s ready
  cases data.name with
  | none => exact stays_done core i _ s ready
  | some name =>
    refine stays_permCheck core lawful i _ s ready ?_
    intro ret t ready
    cases data.devClass with
    | none => exact stays_done core i _ t ready
    | some devClass =>
      refine stays_perform core lawful i (.readRemoteService data.remote) _ t ready trivial ?_
      intro read u ready _ known
      cases read with
      | none => exact stays_done core i _ u ready
      | some service => exact rest name devClass service u ready (known service rfl)

include lawful in
theorem stays_releaseOther (ret : Int) (o : ObjectId) (old : Option ObjectId) (s : StubState κ)
    (ready : s.WellFormed core) (inUse : o < s.objectCount)
    (oldInUse : ∀ x, old = some x → x < s.objectCount) :
    Stays core i (DevSvcManagerStub.releaseOther ret o old) s := by
  unfold DevSvcManagerStub.releaseOther
  split_ifs with failed
  · exact stays_release core lawful i ret (some o) s ready (some_lt o _ inUse)
  · exact stays_release core lawful i ret old s ready oldInUse

include lawful in
theorem stays_addService (data : Parcel) (s : StubState κ) (ready : s.WellFormed core) :
    Stays core i (DevSvcManagerStub.addService data) s := by
  refine stays_readService core lawful i data _ s ready ?_
  intro name devClass service t ready inUse
  refine stays_perform core lawful i (.obtainServiceObject name service) _ t ready inUse ?_
  intro obtained u ready _ known
  cases obtained with
  | none => exact stays_done core i _ u ready
  | some o =>
    have made : o < u.objectCount := known o rfl
    refine stays_perform core lawful i (.getObject name) _ u ready trivial ?_
    intro old v ready later looked
    have made := Nat.lt_of_lt_of_le made later.objects
    refine stays_perform core lawful i (.addService name devClass o data.servInfo) _ v ready made ?_
    intro ret w ready later _
    refine stays_releaseOther core lawful i ret o old w ready
      (Nat.lt_of_lt_of_le made later.objects) fun x same => ?_
    exact Nat.lt_of_lt_of_le (looked x same) later.objects

include lawful in
theorem stays_updateService (data : Parcel) (s : StubState κ) (ready : s.WellFormed core) :
    Stays core i (DevSvcManagerStub.updateService data) s := by
  refine stays_readService core lawful i data _ s ready ?_
  intro name devClass service t ready inUse
  refine stays_perform core lawful i (.getObject name) _ t ready trivial ?_
  intro found u ready later looked
  cases found with
  | none => exact stays_done core i _ u ready
  | some old =>
    have old_lt : old < u.objectCount := looked old rfl
    have inUse := Nat.lt_of_lt_of_le inUse later.remotes
    refine stays_perform core lawful i (.obtainServiceObject name service) _ u ready inUse ?_
    intro obtained v ready later known
    have old_lt := Nat.lt_of_lt_of_le old_lt later.objects
    cases obtained with
    | none => exact stays_done core i _ v ready
    | some o =>
      have made : o < v.objectCount := known o rfl
      refine stays_perform core lawful i (.updateService name devClass o data.servInfo) _ v ready
        made ?_
      intro ret w ready later _
      have old_lt := Nat.lt_of_lt_of_le old_lt later.objects
      exact stays_releaseOther core lawful i ret o (some old) w ready
        (Nat.lt_of_lt_of_le made later.objects) (some_lt old _ old_lt)

include lawful in
theorem stays_getService (data : Parcel) (s : StubState κ) (ready : s.WellFormed core) :
    Stays core i (DevSvcManagerStub.getService data) s := by
  unfold DevSvcManagerStub.getService
  split_ifs with token
  · exact stays_done core i _ s ready
  cases data.name with
  | none => exact stays_done core i _ s ready
  | some name =>
    refine stays_permCheck core lawful i _ s ready ?_
    intro ret t ready
    refine stays_perform core lawful i (.getService name) _ t ready trivial ?_
    intro found u ready _ _
    cases found with
    | none => exact stays_done core i _ u ready
    | some service =>
      refine stays_perform core lawful i (.writeRemoteService service) _ u ready trivial ?_
      exact fun _ v ready _ _ => stays_done core i _ v ready

include lawful in
theorem stays_removeService (data : Parcel) (s : StubState κ) (ready : s.WellFormed core) :
    Stays core i (DevSvcManagerStub.removeService data) s := by
  unfold DevSvcManagerStub.removeService
  split_ifs with token
  · exact stays_done core i _ s ready
  cases data.name with
  | none => exact stays_done core i _ s ready
  | some name =>
    refine stays_permCheck core lawful i _ s ready ?_
    intro ret t ready
    refine stays_perform core lawful i (.getObject name) _ t ready trivial ?_
    intro found u ready _ looked
    cases found with
    | none => exact stays_done core i _ u ready
    | some o =>
      have found_lt : o < u.objectCount := looked o rfl
      refine stays_perform core lawful i (.readPriv o) _ u ready trivial ?_
      intro priv v ready later _
      have found_lt := Nat.lt_of_lt_of_le found_lt later.objects
      cases priv with
      | none => exact stays_done core i _ v ready
      | some servName =>
        dsimp only
        split_ifs with differs
        · exact stays_done core i _ v ready
        · refine stays_perform core lawful i (.removeService name) _ v ready trivial ?_
          intro _ w ready later _
          have found_lt := Nat.lt_of_lt_of_le found_lt later.objects
          exact stays_release core lawful i hdfSuccess (some o) w ready (some_lt o _ found_lt)

include lawful in
theorem stays_registerServListener (data : Parcel) (s : StubState κ) (ready : s.WellFormed core) :
    Stays core i (DevSvcManagerStub.registerServListener data) s := by
  unfold DevSvcManagerStub.registerServListener
  split_ifs with token
  · exact stays_done core i _ s ready
  cases data.devClass with
  | none => exact stays_done core i _ s ready
  | some listenClass =>
    refine stays_perform core lawful i (.readRemoteService data.remote) _ s ready trivial ?_
    intro read t ready _ known
    cases read with
    | none => exact stays_done core i _ t ready
    | some listener =>
      refine stays_perform core lawful i (.holderCreate listener listenClass) _ t ready
        (known listener rfl) ?_
      intro created u ready _ _
      cases created with
      | none => exact stays_done core i _ u ready
      | some holder =>
        refine stays_perform core lawful i (.regsterServListener holder) _ u ready trivial ?_
        intro ret v ready _ _
        split_ifs with refused
        · refine stays_perform core lawful i (.holderRelease holder) _ v ready trivial ?_
          exact fun _ w ready _ _ => stays_done core i _ w ready
        · exact stays_done core i _ v ready

include lawful in
theorem stays_unregisterServListener (data : Parcel) (s : StubState κ)
    (ready : s.WellFormed core) :
    Stays core i (DevSvcManagerStub.unregisterServListener data) s := by
  unfold DevSvcManagerStub.unregisterServListener
  split_ifs with token
  · exact stays_done core i _ s ready
  refine stays_perform core lawful i (.readRemoteService data.remote) _ s ready trivial ?_
  intro read t ready _ known
  cases read with
  | none => exact stays_done core i _ t ready
  | some listener =>
    have read_lt : listener < t.remoteCount := known listener rfl
    have recycles : ∀ ret u, u.WellFormed core → t.Before u →
        Stays core i (do DevSvcManagerStub.perform (.recycle listener); return ret : StubM Int) u := by
      intro ret u ready later
      refine stays_perform core lawful i (.recycle listener) _ u ready
        (Nat.lt_of_lt_of_le read_lt later.remotes) ?_
      exact fun _ v ready _ _ => stays_done core i _ v ready
    refine stays_perform core lawful i (.holderGet listener) _ t ready trivial ?_
    intro found u ready later _
    cases found with
    | none => exact recycles _ u ready later
    | some holder =>
      refine stays_perform core lawful i (.unregsterServListener holder) _ u ready trivial ?_
      intro _ v ready further _
      refine stays_perform core lawful i (.holderRelease holder) _ v ready trivial ?_
      intro _ w ready furthest _
      exact recycles _ w ready
        (before_trans t v w (before_trans t u v later further) furthest)

include lawful in
theorem stays_dispatch (code : RequestCode) (data : Parcel) (s : StubState κ)
    (ready : s.WellFormed core) : Stays core i (DevSvcManagerStub.dispatch code data) s := by
  cases code with
  | addService => exact stays_addService core lawful i data s ready
  | updateService => exact stays_updateService core lawful i data s ready
  | getService => exact stays_getService core lawful i data s ready
  | removeService => exact stays_removeService core lawful i data s ready
  | registerServListener => exact stays_registerServListener core lawful i data s ready
  | unregisterServListener => exact stays_unregisterServListener core lawful i data s ready

include lawful in
theorem stays_onServiceDied (remote : RemoteId) (s : StubState κ) (ready : s.WellFormed core) :
    Stays core i (DevSvcManagerStub.onServiceDied remote) s := by
  unfold DevSvcManagerStub.onServiceDied
  refine stays_perform core lawful i (.readTarget remote) _ s ready trivial ?_
  intro target t ready _ known
  cases target with
  | none => exact stays_done core i () t ready
  | some o =>
    have target_lt : o < t.objectCount := known o rfl
    have releases : ∀ u : StubState κ, u.WellFormed core → t.Before u →
        Stays core i (DevSvcManagerStub.releaseServiceObject (some o)) u := by
      intro u ready later
      have target_lt := Nat.lt_of_lt_of_le target_lt later.objects
      exact stays_releaseServiceObject core lawful i (some o) u ready (some_lt o _ target_lt)
    refine stays_perform core lawful i (.readPriv o) _ t ready trivial ?_
    intro priv u ready later _
    cases priv with
    | none => exact stays_done core i () u ready
    | some name =>
      refine stays_perform core lawful i (.getService name) _ u ready trivial ?_
      intro service v ready further _
      have later := before_trans t u v later further
      split_ifs with same
      · refine stays_perform core lawful i (.removeService name) _ v ready trivial ?_
        exact fun _ w ready further _ => releases w ready (before_trans t v w later further)
      · exact releases v ready later

end Programs

/-- The proof outline of every traffic: the stub is well formed at every point of every call. -/
def visits {ι : Type} (core : IDevSvcManager κ) (lawful : core.Lawful) :
    Outline (reception (ι := ι) core) where
  rely _ := Advances core
  guar _ _ := Advances core
  idle _ _ s := s.WellFormed core
  during _ _ _ s := s.WellFormed core
  label _ _ _ _ s := s.WellFormed core
  rely_refl _ := advances_refl core
  rely_trans _ := advances_trans core
  idle_stable _ _ _ _ moved ready := (moved ready).1
  during_stable _ _ _ _ _ moved ready := (moved ready).1
  invoke _ _ _ _ _ ready := ⟨ready,ready⟩
  body i _ visit _ s ready := by
    have kept : Stays core i visit.body s := by
      cases visit with
      | request code data =>
        exact safe_bind (advances_refl core) _ _ s (stays_dispatch core lawful i code data s ready)
          fun ret t after => stays_done core i _ t after
      | died remote =>
        exact safe_bind (advances_refl core) _ _ s (stays_onServiceDied core lawful i remote s ready)
          fun _ t after => stays_done core i _ t after
    refine safe_mono _ s (fun _ _ _ kept => kept) (fun next t after => ?_) kept
    cases next <;> exact after
  compatible _ _ _ _ _ _ kept := kept

/-- In every interleaving of any requests and death notifications the stub uses only what
its allocators have given out. -/
theorem visited_wellFormed {ι : Type} [DecidableEq ι] (core : IDevSvcManager κ)
    (lawful : core.Lawful) (start : StubState κ) (ready : start.WellFormed core)
    (cfg : Config ι StubOp StubOp.Res Visit Unit Int (StubState κ))
    (reached : (reception core).Reachable start cfg) : cfg.shared.WellFormed core :=
  (visits core lawful).sound_always start (fun _ => ready) (fun s => s.WellFormed core) ready
    (fun _ _ _ here => here) (fun _ _ _ _ here => here) cfg reached

/-- So it is after one request that nothing else comes between. -/
theorem respond_wellFormed (core : IDevSvcManager κ) (lawful : core.Lawful) (out : Outcomes)
    (code : RequestCode) (data : Parcel) (s : StubState κ) (ready : s.WellFormed core) :
    (DevSvcManagerStub.respond core out code data s).2.WellFormed core :=
  run_of_safe _ s (safe_alone (advances_refl core) (fun _ _ _ _ served =>
    ⟨trivial,out,congrArg some served⟩) _ s (stays_dispatch core lawful () code data s ready))

end StubState

end DriversAdapter.Svc
