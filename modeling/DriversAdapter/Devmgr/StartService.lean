import DriversAdapter.Semantics.Blocks
import DriversAdapter.Svc.Manager

/-! The start of the device manager's service: a remote and a device object are made, registered
with the service manager and published in the stub, and what a step that fails takes back. -/
namespace DriversAdapter.Devmgr
open DriversAdapter.Base DriversAdapter.Semantics DriversAdapter.Svc

structure StartOutcomes where
  devSvcManagerGetInstance : Bool
  hdfRemoteServiceObtain : Bool
  setInterfaceDesc : Bool
  osalMemCalloc : Bool
  devmgrServiceStartService : Int
  devSvcManagerStartService : Int

/-- The stub with the service manager's registry; remotes and objects are blocks of memory. -/
structure DevmgrServiceStub (κ : Type) where
  core : κ
  remote : Option RemoteId
  remotes : Blocks
  objects : Blocks
  service : ObjectId → Option RemoteId

namespace DevmgrServiceStub
variable {κ : Type} (core : IDevSvcManager κ) (deviceManagerService : String)
  (deviceClassDefault : UInt16)

/-- As `DevmgrServiceStubCreate` leaves it. -/
def created (registry : κ) : DevmgrServiceStub κ := ⟨registry,none,.empty,.empty,fun _ => none⟩

def hdfRemoteServiceRecycle (r : RemoteId) (s : DevmgrServiceStub κ) : DevmgrServiceStub κ :=
  {s with remotes := s.remotes.free r}

def osalMemFree (o : ObjectId) (s : DevmgrServiceStub κ) : DevmgrServiceStub κ :=
  {s with objects := s.objects.free o}

def devmgrServiceStubStartService (inst : Bool) (out : StartOutcomes) (s : DevmgrServiceStub κ) :
    Int × DevmgrServiceStub κ :=
  if inst = false then (hdfErrInvalidParam,s)
  else if out.devSvcManagerGetInstance = false then (hdfErrInvalidObject,s)
  else if out.hdfRemoteServiceObtain = false then (hdfErrMallocFail,s)
  else
    let remoteService := s.remotes.count
    let s := {s with remotes := s.remotes.alloc}
    if out.setInterfaceDesc = false then (hdfFailure,s.hdfRemoteServiceRecycle remoteService)
    else if out.osalMemCalloc = false then
      (hdfErrMallocFail,s.hdfRemoteServiceRecycle remoteService)
    else
      let deviceObject := s.objects.count
      let s := {s with
        objects := s.objects.alloc
        service := Function.update s.service deviceObject (some remoteService)}
      let added := core.addService deviceManagerService deviceClassDefault deviceObject none s.core
      let s := {s with core := added.2}
      if added.1 ≠ hdfSuccess then
        (added.1,(s.hdfRemoteServiceRecycle remoteService).osalMemFree deviceObject)
      else
        let s := {s with remote := some remoteService}
        -- the listener for module events is registered here, with its result dropped
        if out.devmgrServiceStartService ≠ hdfSuccess then
          (out.devmgrServiceStartService,
            (s.hdfRemoteServiceRecycle remoteService).osalMemFree deviceObject)
        else (out.devSvcManagerStartService,s)

/-- The stub itself is freed at the end, so that nothing but the remotes is left of it. -/
def devmgrServiceStubRelease (s : DevmgrServiceStub κ) : Blocks :=
  match s.remote with
  | none => s.remotes
  | some r => s.remotes.free r

structure Clean (s : DevmgrServiceStub κ) : Prop where
  entries : ∀ name o, core.getObject name s.core = some o →
    s.objects.Live o ∧ ∀ r, s.service o = some r → s.remotes.Live r
  remote : ∀ r, s.remote = some r → s.remotes.Live r
  once : ∀ r, s.devmgrServiceStubRelease.freed r ≤ 1

/-- The call gets as far as the registration, which succeeds. -/
def Registers (inst : Bool) (out : StartOutcomes) (s : DevmgrServiceStub κ) : Prop :=
  inst = true ∧ out.devSvcManagerGetInstance = true ∧ out.hdfRemoteServiceObtain = true ∧
    out.setInterfaceDesc = true ∧ out.osalMemCalloc = true ∧
      (core.addService deviceManagerService deviceClassDefault s.objects.count none s.core).1 =
        hdfSuccess

def registered (s : DevmgrServiceStub κ) : DevmgrServiceStub κ where
  core := (core.addService deviceManagerService deviceClassDefault s.objects.count none s.core).2
  remote := some s.remotes.count
  remotes := s.remotes.alloc
  objects := s.objects.alloc
  service := Function.update s.service s.objects.count (some s.remotes.count)

/-- What is live or registered in the first state is so in the second, and nothing else is. -/
structure Keeps (s t : DevmgrServiceStub κ) : Prop where
  entries : ∀ name, core.getObject name t.core = core.getObject name s.core
  remote : t.remote = s.remote
  service : ∀ o, s.objects.Live o → t.service o = s.service o
  objects : ∀ o, s.objects.Live o → t.objects.Live o
  remotes : ∀ r, s.remotes.Live r → t.remotes.Live r
  once : (∀ r, s.remotes.freed r ≤ 1) → ∀ r, t.remotes.freed r ≤ 1

section Start
variable {core deviceManagerService deviceClassDefault} {s t : DevmgrServiceStub κ}

theorem created_clean (registry : κ) (empty : ∀ name, core.getObject name registry = none) :
    (created registry).Clean core := by
  refine ⟨fun name o found => ?_,fun r => nofun,fun _ => Nat.zero_le 1⟩
  have absent : core.getObject name registry = some o := found
  simp [empty] at absent

/-- A live remote in the stub may be recycled once more, if each has been at most once. -/
theorem release_once_iff (remote : ∀ r, s.remote = some r → s.remotes.Live r) :
    (∀ r, s.devmgrServiceStubRelease.freed r ≤ 1) ↔ ∀ r, s.remotes.freed r ≤ 1 := by
  unfold devmgrServiceStubRelease
  cases pointed : s.remote with
  | none => rfl
  | some r =>
    obtain ⟨given,unfreed⟩ := remote r pointed
    apply forall_congr'
    intro m
    rw [Blocks.freed_free given]
    by_cases same : m = r
    · simp [same,unfreed]
    · rw [if_neg same]

theorem clean_keeps (clean : s.Clean core) (keeps : s.Keeps core t) : t.Clean core := by
  have pointed : ∀ r, t.remote = some r → t.remotes.Live r := by
    intro r here
    rw [keeps.remote] at here
    exact keeps.remotes r (clean.remote r here)
  refine ⟨fun name o found => ?_,pointed,?_⟩
  · rw [keeps.entries] at found
    obtain ⟨live,served⟩ := clean.entries name o found
    refine ⟨keeps.objects o live,fun r serves => ?_⟩
    rw [keeps.service o live] at serves
    exact keeps.remotes r (served r serves)
  · rw [release_once_iff pointed]
    exact keeps.once ((release_once_iff clean.remote).mp clean.once)

theorem freed_once_alloc_free {b : Blocks} (once : ∀ n, b.freed n ≤ 1) (n : Nat) :
    (b.alloc.free b.count).freed n ≤ 1 := by
  rw [Blocks.freed_free (Nat.lt_succ_self _),Blocks.freed_alloc]
  split
  next same => simp [same,b.ahead]
  next => exact once n

theorem live_alloc_free {b : Blocks} {n : Nat} (live : b.Live n) :
    (b.alloc.free b.count).Live n :=
  Blocks.live_free.mpr ⟨Blocks.live_alloc.mpr (.inl live),Nat.ne_of_lt live.1⟩

theorem keeps_recycled : s.Keeps core
    ({s with remotes := s.remotes.alloc}.hdfRemoteServiceRecycle s.remotes.count) :=
  ⟨fun _ => rfl,rfl,fun _ _ => rfl,fun _ => id,fun _ => live_alloc_free,freed_once_alloc_free⟩

theorem keeps_unregistered (registry : κ)
    (entries : ∀ name, core.getObject name registry = core.getObject name s.core) :
    s.Keeps core ({s with
      core := registry
      remotes := s.remotes.alloc
      objects := s.objects.alloc
      service := Function.update s.service s.objects.count (some s.remotes.count)
        }.hdfRemoteServiceRecycle s.remotes.count |>.osalMemFree s.objects.count) := by
  refine ⟨entries,rfl,fun o live => ?_,fun _ => live_alloc_free,fun _ => live_alloc_free,
    freed_once_alloc_free⟩
  have old : o ≠ s.objects.count := Nat.ne_of_lt live.1
  simp [hdfRemoteServiceRecycle,osalMemFree,old]

variable (inst : Bool) (out : StartOutcomes)

/-- Up to the registration a step that fails takes everything back. -/
theorem start_unregistered (lawful : core.Lawful)
    (fails : ¬ Registers core deviceManagerService deviceClassDefault inst out s) :
    s.Keeps core (devmgrServiceStubStartService core deviceManagerService deviceClassDefault
      inst out s).2 := by
  have same : s.Keeps core s := ⟨fun _ => rfl,rfl,fun _ _ => rfl,fun _ => id,fun _ => id,id⟩
  unfold devmgrServiceStubStartService
  unfold Registers at fails
  dsimp only
  split_ifs with absent unmanaged unobtained undescribed unallocated refused unstarted
  · exact same
  · exact same
  · exact same
  · exact keeps_recycled
  · exact keeps_recycled
  · exact keeps_unregistered _ (lawful.not_added _ _ _ _ _ refused)
  · simp_all
  · simp_all

theorem start_registered
    (registers : Registers core deviceManagerService deviceClassDefault inst out s) :
    devmgrServiceStubStartService core deviceManagerService deviceClassDefault inst out s =
      let t := s.registered core deviceManagerService deviceClassDefault
      if out.devmgrServiceStartService ≠ hdfSuccess then
        (out.devmgrServiceStartService,
          (t.hdfRemoteServiceRecycle s.remotes.count).osalMemFree s.objects.count)
      else (out.devSvcManagerStartService,t) := by
  obtain ⟨given,managed,obtained,described,allocated,added⟩ := registers
  simp [devmgrServiceStubStartService,given,managed,obtained,described,allocated,added,registered]

theorem registered_clean (lawful : core.Lawful) (clean : s.Clean core)
    (added : (core.addService deviceManagerService deviceClassDefault s.objects.count none
      s.core).1 = hdfSuccess) :
    (s.registered core deviceManagerService deviceClassDefault).Clean core := by
  have fresh : s.remotes.alloc.Live s.remotes.count := Blocks.live_alloc.mpr (.inr rfl)
  have pointed : ∀ r, some s.remotes.count = some r → s.remotes.alloc.Live r := by
    intro r same
    rwa [← Option.some.inj same]
  refine ⟨fun name o found => ?_,pointed,(release_once_iff pointed).mpr ?_⟩
  · simp only [registered,lawful.added _ _ _ _ _ added] at found ⊢
    split at found
    · obtain rfl := Option.some.inj found
      simp [Blocks.live_alloc]
    · obtain ⟨live,served⟩ := clean.entries name o found
      have old : o ≠ s.objects.count := Nat.ne_of_lt live.1
      refine ⟨Blocks.live_alloc.mpr (.inl live),fun r serves => ?_⟩
      rw [Function.update_of_ne old] at serves
      exact Blocks.live_alloc.mpr (.inl (served r serves))
  · exact (release_once_iff clean.remote).mp clean.once

end Start

/-- A failing start is clean exactly where the manager's service does not refuse to start after the
registration. -/
theorem startService_clean_iff (lawful : core.Lawful) (inst : Bool) (out : StartOutcomes)
    (s : DevmgrServiceStub κ) (clean : s.Clean core) :
    ((devmgrServiceStubStartService core deviceManagerService deviceClassDefault inst out s).1 ≠
        hdfSuccess →
      (devmgrServiceStubStartService core deviceManagerService deviceClassDefault inst out
        s).2.Clean core) ↔
      (Registers core deviceManagerService deviceClassDefault inst out s →
        out.devmgrServiceStartService = hdfSuccess) := by
  by_cases registers : Registers core deviceManagerService deviceClassDefault inst out s
  · rw [start_registered inst out registers]
    by_cases started : out.devmgrServiceStartService = hdfSuccess
    · simp [started,registered_clean lawful clean registers.2.2.2.2.2]
    · simp only [ne_eq,started,not_false_eq_true,if_true,forall_const,registers,iff_false]
      intro dangling
      -- the stub still points to the remote that has just been recycled
      have live := dangling.remote s.remotes.count rfl
      exact (Blocks.live_free.mp live).2 rfl
  · have keeps := start_unregistered inst out lawful registers
    exact iff_of_true (fun _ => clean_keeps clean keeps) fun now => absurd now registers

private def granted (devmgrServiceStartService : Int) : StartOutcomes :=
  ⟨true,true,true,true,devmgrServiceStartService,hdfSuccess⟩

theorem startService_clean_unallocated :
    (devmgrServiceStubStartService Registry.manager "hdf_device_manager" 0 true
        {granted hdfSuccess with osalMemCalloc := false} (created Registry.empty)).1 =
      hdfErrMallocFail ∧
    (devmgrServiceStubStartService Registry.manager "hdf_device_manager" 0 true
        {granted hdfSuccess with osalMemCalloc := false} (created Registry.empty)).2.Clean
      Registry.manager :=
  ⟨rfl,(startService_clean_iff Registry.manager "hdf_device_manager" 0 Registry.manager_lawful true
    {granted hdfSuccess with osalMemCalloc := false} (created Registry.empty)
    (created_clean _ fun _ => rfl)).mpr (fun _ => rfl) (by decide)⟩

/-- The manager's service does not start: its registered object is freed, and the remote that the
stub keeps is recycled now and by the release. -/
theorem startService_not_clean :
    let done := devmgrServiceStubStartService Registry.manager "hdf_device_manager" 0 true
      (granted hdfFailure) (created Registry.empty)
    done.1 = hdfFailure ∧ Registry.manager.getObject "hdf_device_manager" done.2.core = some 0 ∧
      done.2.objects.freed 0 = 1 ∧ done.2.devmgrServiceStubRelease.freed 0 = 2 ∧
      ¬ done.2.Clean Registry.manager := by
  refine ⟨rfl,rfl,rfl,rfl,fun clean => ?_⟩
  have twice := clean.once 0
  contradiction

end DevmgrServiceStub

end DriversAdapter.Devmgr
