import DriversAdapter.Ipc.Requests
import DriversAdapter.Semantics.Blocks
import DriversAdapter.Semantics.Machine

/-! The services that device nodes publish: the flag and the remote that a node's stub keeps, and
the entry that the service manager has under the node's name. -/
namespace DriversAdapter.Host
open DriversAdapter.Base DriversAdapter.Semantics DriversAdapter.Ipc

abbrev StubRemote := Nat

structure DeviceServiceStubs.HdfDeviceNode where
  servName : Option String
  policy : UInt16
  deviceClass : UInt16
  interfaceDesc : Option String
  servInfo : Option String

/-- The manager's entries with the nodes that asked for them, and whether a node's service has been
added and not removed since. -/
structure Services (ν : Type) where
  registry : String → Option ν
  added : ν → Bool

/-- A request on its way to the manager, with the name that was written first. -/
structure Channel (ν : Type) where
  calls : Nat
  svcName : Option String
  services : Services ν

section Wire
variable {ν : Type} [DecidableEq ν]

def Services.add (name : String) (service : ν) (s : Services ν) : Services ν where
  registry := Function.update s.registry name (some service)
  added := Function.update s.added service true

/-- The manager goes by the name, whoever asks. -/
def Services.remove (name : String) (service : ν) (s : Services ν) : Services ν where
  registry := Function.update s.registry name none
  added m := s.added m && m ≠ service && s.registry name ≠ some m

def Services.handle (code : RequestCode) (svcName : Option String) (service : ν)
    (s : Services ν) : Services ν :=
  match code, svcName with
  | .devSvcManagerAddService, some name => s.add name service
  | .devSvcManagerRemoveService, some name => s.remove name service
  | _, _ => s

/-- Each call ends as `answers` has it for the calls made before it; what the manager answers with
success it has done. -/
def Channel.serve (answers : Nat → (op : RequestOp) → op.Res) (service : ν) (op : RequestOp)
    (s : Channel ν) : op.Res × Channel ν :=
  let next := {s with calls := s.calls + 1}
  match op with
  | .hdfSbufWriteString sbuf value =>
    let written := answers s.calls (.hdfSbufWriteString sbuf value)
    (written,if written = true then {next with svcName := s.svcName.or (some value)} else next)
  | .dispatch remote code data reply =>
    let status := answers s.calls (.dispatch remote code data reply)
    (status,if status = hdfSuccess then
      {next with services := s.services.handle code s.svcName service} else next)
  | op => (answers s.calls op,next)

end Wire

section Served
variable {ν : Type} [DecidableEq ν] {answers : Nat → (op : RequestOp) → op.Res} {service : ν}

theorem recycle_services (sbuf : Option Nat) (s : Channel ν) :
    (Program.run (Channel.serve answers service) (recycleObtained sbuf) s).2.services =
      s.services := by
  cases sbuf <;> rfl

/-- A request with its buffers ends as the part between them does. -/
theorem withSbufs_served {α : Type} (body : Option Nat → Option Nat → RequestM α)
    (post : α → Services ν → Prop) (s : Channel ν)
    (inner : ∀ data reply, data = answers s.calls .hdfSbufTypedObtain →
      reply = answers (s.calls + 1) .hdfSbufTypedObtain →
      let done := Program.run (Channel.serve answers service) (body data reply)
        {s with calls := s.calls + 2}
      post done.1 done.2.services) :
    let done := Program.run (Channel.serve answers service) (withSbufs body) s
    post done.1 done.2.services := by
  dsimp only
  unfold withSbufs
  simp only [Program.run_bind,Program.pure_eq,Program.run_done,recycle_services]
  exact inner _ _ rfl rfl

def buffered : RequestOp → Bool
  | .dispatch _ _ _ _ => false
  | _ => true

/-- Nothing is dispatched, and a name that is written stays. -/
def Kept (answers : Nat → (op : RequestOp) → op.Res) (service : ν) {α : Type} (p : RequestM α) :
    Prop :=
  ∀ s : Channel ν, (Program.run (Channel.serve answers service) p s).2.services = s.services ∧
    ∀ name, s.svcName = some name →
      (Program.run (Channel.serve answers service) p s).2.svcName = some name

theorem kept_pure {α : Type} (value : α) : Kept answers service (pure value : RequestM α) :=
  fun _ => ⟨rfl,fun _ => id⟩

theorem kept_perform (op : RequestOp) (here : buffered op = true) :
    Kept answers service (perform op) := by
  intro s
  cases op with
  | dispatch remote code data reply => contradiction
  | hdfSbufWriteString sbuf value =>
    simp only [perform,Program.call,Program.run_perform,Program.run_done,Channel.serve]
    split
    · refine ⟨rfl,fun name named => ?_⟩
      simp [named]
    · exact ⟨rfl,fun _ => id⟩
  | _ => exact ⟨rfl,fun _ => id⟩

theorem kept_bind {α β : Type} (p : RequestM α) (f : α → RequestM β)
    (first : Kept answers service p) (rest : ∀ value, Kept answers service (f value)) :
    Kept answers service (p >>= f) := by
  intro s
  rw [Program.run_bind]
  obtain ⟨same,named⟩ := first s
  obtain ⟨later,still⟩ := rest (Program.run (Channel.serve answers service) p s).1
    (Program.run (Channel.serve answers service) p s).2
  exact ⟨later.trans same,fun name here => still name (named name here)⟩

theorem kept_ite {α : Type} (c : Prop) [Decidable c] (p q : RequestM α)
    (first : Kept answers service p) (second : Kept answers service q) :
    Kept answers service (if c then p else q) := by
  split
  · exact first
  · exact second

/-- A name is written first, and what comes after it leaves it alone. -/
theorem named_served (data : Nat) (name : String) (after : RequestM Int)
    (kept : Kept answers service after) (s : Channel ν) (unnamed : s.svcName = none) :
    let done := Program.run (Channel.serve answers service) (do
      if !(← perform (.hdfSbufWriteString data name)) then return hdfFailure else after) s
    done.2.services = s.services ∧ (done.1 = hdfSuccess → done.2.svcName = some name) := by
  have failed : hdfFailure ≠ hdfSuccess := by decide
  dsimp only
  rw [Program.run_bind,Program.run_ite]
  simp only [perform,Program.call,Program.run_perform,Program.run_done,Channel.serve,unnamed,
    Option.none_or]
  cases answers s.calls (.hdfSbufWriteString data name) with
  | false => exact ⟨rfl,fun done => absurd done failed⟩
  | true =>
    obtain ⟨same,named⟩ := kept ⟨s.calls + 1,some name,s.services⟩
    exact ⟨same,fun _ => named name rfl⟩

theorem writeServiceInfo_served (data : Nat) (name : String) (devClass : UInt16)
    (object : Ipc.HdfDeviceObject) (servInfo : Option String) (s : Channel ν)
    (unnamed : s.svcName = none) :
    let done := Program.run (Channel.serve answers service)
      (Ipc.writeServiceInfo data name devClass object servInfo) s
    done.2.services = s.services ∧ (done.1 = hdfSuccess → done.2.svcName = some name) := by
  unfold Ipc.writeServiceInfo
  refine named_served data name _ ?_ s unnamed
  apply kept_bind _ _ (kept_perform _ rfl)
  intro classed
  apply kept_ite _ _ _ (kept_pure _)
  cases object.remote with
  | none => exact kept_pure _
  | some remote =>
    apply kept_bind _ _ (kept_perform _ rfl)
    intro written
    apply kept_ite _ _ _ (kept_pure _)
    apply kept_bind _ _ (kept_perform _ rfl)
    exact fun described => kept_ite _ _ _ (kept_pure _) (kept_pure _)

theorem addService_served (deviceClassMax : UInt16) (inst : Option Client) (name : String)
    (devClass : UInt16) (object : Ipc.HdfDeviceObject) (servInfo : Option String)
    (s : Services ν) :
    let done := Program.run (Channel.serve answers service) (Ipc.devSvcManagerProxyAddService
      deviceClassMax inst (some name) devClass (some object) servInfo) ⟨0,none,s⟩
    done.2.services = if done.1 = hdfSuccess then s.add name service else s := by
  have refused : hdfErrInvalidParam ≠ hdfSuccess := by decide
  have failed : hdfFailure ≠ hdfSuccess := by decide
  dsimp only
  unfold Ipc.devSvcManagerProxyAddService sendServiceInfo
  dsimp only
  split
  · exact (if_neg refused).symm
  next _ remote given =>
    split
    · exact (if_neg refused).symm
    · refine withSbufs_served _ (fun status services =>
        services = if status = hdfSuccess then s.add name service else s) _ fun data reply _ _ => ?_
      cases data with
      | none => exact (if_neg failed).symm
      | some data =>
        cases reply with
        | none => exact (if_neg failed).symm
        | some reply =>
          dsimp only
          rw [Program.run_bind,Program.run_ite]
          simp only [perform,Program.call,Program.run_perform,Program.run_done,Channel.serve,zero_add]
          cases answers 2 (.hdfRemoteServiceWriteInterfaceToken (some remote) data) with
          | false => exact (if_neg failed).symm
          | true =>
            have written := @writeServiceInfo_served ν _ answers service
              data name devClass object servInfo ⟨3,none,s⟩ rfl
            simp only [Bool.not_true,Bool.false_eq_true,if_false,Program.run_bind,Program.run_ite]
            generalize Program.run (Channel.serve answers service)
              (Ipc.writeServiceInfo data name devClass object servInfo) ⟨3,none,s⟩ = info at written ⊢
            obtain ⟨same,named⟩ := written
            by_cases done : info.1 = hdfSuccess
            · simp only [done,ne_eq,not_true_eq_false,if_false,Program.run_perform,
                Program.run_done,Channel.serve,named done,same]
              split
              · rfl
              · rfl
            · simp [done,same,failed]

/-- The request gets to the manager, who takes the name out. -/
def removeAnswered (answers : Nat → (op : RequestOp) → op.Res) (inst : Option Client)
    (name : String) : Bool :=
  match inst.bind Client.remote, answers 0 .hdfSbufTypedObtain, answers 1 .hdfSbufTypedObtain with
  | some remote, some data, some reply =>
    answers 2 (.hdfRemoteServiceWriteInterfaceToken (some remote) data) &&
      answers 3 (.hdfSbufWriteString data name) &&
        answers 4 (.dispatch remote .devSvcManagerRemoveService data (some reply)) = hdfSuccess
  | _, _, _ => false

theorem removeService_served (inst : Option Client) (name : String) (s : Services ν) :
    (Program.run (Channel.serve answers service)
      (Ipc.devSvcManagerProxyRemoveService inst (some name)) ⟨0,none,s⟩).2.services =
        if removeAnswered answers inst name = true then s.remove name service else s := by
  unfold Ipc.devSvcManagerProxyRemoveService removeAnswered
  cases inst with
  | none => rfl
  | some inst =>
    refine withSbufs_served _ (fun _ services => services = if _ = true then s.remove name service
      else s) _ fun data reply first second => ?_
    simp only [zero_add] at first second
    rw [← first,← second,Option.bind_some]
    cases inst.remote with
    | none => rfl
    | some remote =>
      cases data with
      | none => rfl
      | some data =>
        cases reply with
        | none => rfl
        | some reply =>
          simp only [perform,Program.call_bind,Program.run_perform,Channel.serve,zero_add]
          by_cases token :
              answers 2 (.hdfRemoteServiceWriteInterfaceToken (some remote) data) = true
          · by_cases named : answers 3 (.hdfSbufWriteString data name) = true
            · simp only [token,named,Bool.not_true,Bool.false_eq_true,if_false,if_true,
                Program.run_perform,Channel.serve,Bool.true_and,decide_eq_true_eq]
              split
              · rfl
              · rfl
            · simp [token,named,Channel.serve]
          · simp [token]

end Served

structure PublishOutcomes where
  hdfRemoteServiceObtain : Bool
  setInterfaceDesc : Bool
  devSvcManagerClntGetInstance : Bool
  answers : Nat → (op : RequestOp) → op.Res

structure RemoveOutcomes where
  devSvcManagerClntGetInstance : Bool
  answers : Nat → (op : RequestOp) → op.Res

inductive ServiceCall (ν : Type)
  | publishService (service : ν) (out : PublishOutcomes)
  | removeService (deviceNode : ν) (out : RemoveOutcomes)

/-- The stubs of the nodes, with the services that the manager has. -/
structure DeviceServiceStubs (ν : Type) where
  remotes : Blocks
  remote : ν → Option StubRemote
  servStatus : ν → Bool
  services : Services ν

namespace DeviceServiceStubs

def created {ν : Type} : DeviceServiceStubs ν where
  remotes := .empty
  remote _ := none
  servStatus _ := false
  services := ⟨fun _ => none,fun _ => false⟩

/-- The flag, the remote and what has become of the service say the same of each node. -/
def Consistent {ν : Type} (s : DeviceServiceStubs ν) : Prop :=
  ∀ n, (s.servStatus n = true ↔ (s.remote n).isSome) ∧
    ((s.remote n).isSome ↔ s.services.added n = true)

/-- An entry is of a service that was added, under the name of its node. -/
def Named {ν : Type} (node : ν → HdfDeviceNode) (s : DeviceServiceStubs ν) :
    Prop :=
  ∀ name n, s.services.registry name = some n →
    s.services.added n = true ∧ (node n).servName = some name

/-- Each remote is that of one node or has been recycled, once. -/
structure Owned {ν : Type} (s : DeviceServiceStubs ν) : Prop where
  sole : ∀ n m r, s.remote n = some r → s.remote m = some r → n = m
  settled : s.remotes.Settled fun r => ∃ n, s.remote n = some r

theorem created_owned {ν : Type} : (created : DeviceServiceStubs ν).Owned := by
  refine ⟨fun n m r => nofun,?_⟩
  have nobody : ∀ r, False ↔ ∃ n, (created : DeviceServiceStubs ν).remote n = some r := by
    simp [created]
  exact (Blocks.settled_congr nobody).mp Blocks.settled_empty

section Stub
variable {ν : Type} [DecidableEq ν] (servicePolicyPublic servicePolicyCapacity : UInt16)
  (deviceClassMax : UInt16) (proxy : Option Client) (node : ν → HdfDeviceNode)

def hdfRemoteServiceObtain (service : ν) (s : DeviceServiceStubs ν) : DeviceServiceStubs ν :=
  {s with
    remotes := s.remotes.alloc
    remote := Function.update s.remote service (some s.remotes.count)}

/-- The remote is recycled, if there is one, and forgotten. -/
def hdfRemoteServiceRecycle (service : ν) (s : DeviceServiceStubs ν) : DeviceServiceStubs ν :=
  {s with
    remotes := match s.remote service with
      | none => s.remotes
      | some r => s.remotes.free r
    remote := Function.update s.remote service none}

def devSvcManagerClntAddService (servName : String) (service : ν)
    (answers : Nat → (op : RequestOp) → op.Res) (s : DeviceServiceStubs ν) :
    Int × DeviceServiceStubs ν :=
  let remote := (s.remote service).map fun r => (⟨UInt64.ofNat r,true⟩ : HdfRemoteService)
  let done := Program.run (Channel.serve answers service) (Ipc.devSvcManagerProxyAddService
    deviceClassMax proxy (some servName) (node service).deviceClass (some ⟨remote⟩)
      (node service).servInfo) ⟨0,none,s.services⟩
  (done.1,{s with services := done.2.services})

def deviceServiceStubPublishService (service : ν) (out : PublishOutcomes)
    (s : DeviceServiceStubs ν) : Int × DeviceServiceStubs ν :=
  match (node service).servName with
  | none => (hdfErrInvalidObject,s)
  | some servName =>
    if (s.remote service).isSome then (hdfErrInvalidObject,s)
    else if (node service).policy ≠ servicePolicyPublic ∧
        (node service).policy ≠ servicePolicyCapacity then
      (hdfErrNotSupport,s)
    else if out.hdfRemoteServiceObtain = false then (hdfErrMallocFail,s)
    else
      let s := s.hdfRemoteServiceObtain service
      if (node service).interfaceDesc.isSome ∧ out.setInterfaceDesc = false then
        (hdfFailure,s.hdfRemoteServiceRecycle service)
      else if out.devSvcManagerClntGetInstance = false then
        (hdfDevErrNoDevice,s.hdfRemoteServiceRecycle service)
      else
        let added := s.devSvcManagerClntAddService deviceClassMax proxy node servName service
          out.answers
        if added.1 ≠ hdfSuccess then (added.1,added.2.hdfRemoteServiceRecycle service)
        else
          (hdfSuccess,{added.2 with servStatus := Function.update added.2.servStatus service true})

def devSvcManagerClntRemoveService (service : ν) (answers : Nat → (op : RequestOp) → op.Res)
    (s : DeviceServiceStubs ν) : DeviceServiceStubs ν :=
  {s with services := (Program.run (Channel.serve answers service)
    (Ipc.devSvcManagerProxyRemoveService proxy (node service).servName)
      ⟨0,none,s.services⟩).2.services}

def deviceServiceStubRemoveService (deviceNode : ν) (out : RemoveOutcomes)
    (s : DeviceServiceStubs ν) : Int × DeviceServiceStubs ν :=
  if out.devSvcManagerClntGetInstance = false then (hdfFailure,s)
  else
    (hdfSuccess,(s.devSvcManagerClntRemoveService proxy node deviceNode
      out.answers).hdfRemoteServiceRecycle deviceNode)

def step : ServiceCall ν → DeviceServiceStubs ν → Int × DeviceServiceStubs ν
  | .publishService service out, s => deviceServiceStubPublishService servicePolicyPublic
      servicePolicyCapacity deviceClassMax proxy node service out s
  | .removeService deviceNode out, s => deviceServiceStubRemoveService proxy node deviceNode out s

/-- A publication that fails leaves the node as it was, and a removal the entries of others. -/
def Harmless (c : ServiceCall ν) (s : DeviceServiceStubs ν) : Prop :=
  let done := step servicePolicyPublic servicePolicyCapacity deviceClassMax proxy node c s
  match c with
  | .publishService service _ => done.1 ≠ hdfSuccess →
    done.2.remote service = s.remote service ∧ done.2.servStatus service = s.servStatus service
  | .removeService deviceNode _ => ∀ other, other ≠ deviceNode → ∀ name,
    s.services.registry name = some other → done.2.services.registry name = some other

/-- A removal that gets to its client is of a node that is not published, and where the manager
takes the name out there is no service under it. -/
def Meets : ServiceCall ν → DeviceServiceStubs ν → Prop
  | .publishService _ _, _ => True
  | .removeService deviceNode out, s => out.devSvcManagerClntGetInstance = true →
    s.servStatus deviceNode = false ∧
      ∀ name, (node deviceNode).servName = some name →
        removeAnswered out.answers proxy name = true → s.services.registry name = none

theorem clntAddService_served (s : DeviceServiceStubs ν) (service : ν) (name : String)
    (answers : Nat → (op : RequestOp) → op.Res) :
    let done := s.devSvcManagerClntAddService deviceClassMax proxy node name service answers
    done.2 = {s with services :=
      if done.1 = hdfSuccess then s.services.add name service else s.services} := by
  dsimp only [devSvcManagerClntAddService]
  rw [addService_served]

theorem clntRemoveService_served (s : DeviceServiceStubs ν) (service : ν)
    (answers : Nat → (op : RequestOp) → op.Res) :
    (s.devSvcManagerClntRemoveService proxy node service answers).services =
      match (node service).servName with
      | none => s.services
      | some name =>
        if removeAnswered answers proxy name = true then s.services.remove name service
        else s.services := by
  unfold devSvcManagerClntRemoveService
  cases (node service).servName with
  | none => cases proxy <;> rfl
  | some name => exact removeService_served proxy name s.services

/-- What a stub without a remote obtains and gives back leaves it without one. -/
theorem remote_recycled (s : DeviceServiceStubs ν) (service : ν) (plain : s.remote service = none) :
    (hdfRemoteServiceRecycle service (s.hdfRemoteServiceObtain service)).remote = s.remote := by
  ext m
  by_cases same : m = service
  · simp [hdfRemoteServiceRecycle,same,plain]
  · simp [hdfRemoteServiceRecycle,hdfRemoteServiceObtain,same]

/-- A publication fails and leaves the stubs with the remotes they have, or it makes all three
entries. -/
theorem publishService_cases (s : DeviceServiceStubs ν) (service : ν) (out : PublishOutcomes) :
    let done := deviceServiceStubPublishService servicePolicyPublic servicePolicyCapacity
      deviceClassMax proxy node service out s
    (done.1 ≠ hdfSuccess ∧ done.2.remote = s.remote ∧ done.2.servStatus = s.servStatus ∧
      done.2.services = s.services) ∨
    ∃ name, (node service).servName = some name ∧ s.remote service = none ∧
      done.1 = hdfSuccess ∧
      done.2.remote = Function.update s.remote service (some s.remotes.count) ∧
      done.2.servStatus = Function.update s.servStatus service true ∧
      done.2.services = s.services.add name service := by
  have unchanged (status : Int) (failed : status ≠ hdfSuccess) :
      (status,s).1 ≠ hdfSuccess ∧ (status,s).2.remote = s.remote ∧
        (status,s).2.servStatus = s.servStatus ∧ (status,s).2.services = s.services :=
    ⟨failed,rfl,rfl,rfl⟩
  dsimp only
  unfold deviceServiceStubPublishService
  split
  · exact .inl (unchanged _ (by decide))
  next name named =>
    split
    · exact .inl (unchanged _ (by decide))
    next fresh =>
      have plain : s.remote service = none := by simpa using fresh
      have undone (status : Int) (failed : status ≠ hdfSuccess) :
          let t := hdfRemoteServiceRecycle service (s.hdfRemoteServiceObtain service)
          (status,t).1 ≠ hdfSuccess ∧ (status,t).2.remote = s.remote ∧
            (status,t).2.servStatus = s.servStatus ∧ (status,t).2.services = s.services :=
        ⟨failed,remote_recycled s service plain,rfl,rfl⟩
      split
      · exact .inl (unchanged _ (by decide))
      · split
        · exact .inl (unchanged _ (by decide))
        · dsimp only
          split
          · exact .inl (undone _ (by decide))
          · split
            · exact .inl (undone _ (by decide))
            · have served := clntAddService_served deviceClassMax proxy node
                (s.hdfRemoteServiceObtain service) service name out.answers
              generalize (s.hdfRemoteServiceObtain service).devSvcManagerClntAddService
                deviceClassMax proxy node name service out.answers = added at served ⊢
              rw [served]
              split
              next failed =>
                exact .inl (undone _ failed)
              next done =>
                rw [if_pos (not_not.mp done)]
                exact .inr ⟨name,named,plain,rfl,rfl,rfl,rfl⟩

theorem remove_absent (s : Services ν) (name : String) (service : ν)
    (absent : s.registry name = none) (unadded : s.added service = false) :
    s.remove name service = s := by
  have registry : Function.update s.registry name none = s.registry := by
    rw [← absent,Function.update_eq_self]
  have added : (fun m => s.added m && m ≠ service && s.registry name ≠ some m) = s.added := by
    ext m
    by_cases same : m = service
    · simp [same,unadded]
    · simp [same,absent]
  rw [Services.remove,registry,added]

section Step
variable {servicePolicyPublic servicePolicyCapacity deviceClassMax proxy node}
variable {s : DeviceServiceStubs ν}

theorem publishService_consistent (consistent : s.Consistent) (service : ν)
    (out : PublishOutcomes) :
    (step servicePolicyPublic servicePolicyCapacity deviceClassMax proxy node
        (.publishService service out) s).2.Consistent ∧
      Harmless servicePolicyPublic servicePolicyCapacity deviceClassMax proxy node
        (.publishService service out) s := by
  rcases publishService_cases servicePolicyPublic servicePolicyCapacity deviceClassMax proxy node
    s service out with
    ⟨_,remote,servStatus,services⟩ | ⟨name,_,_,done,remote,servStatus,services⟩
  · refine ⟨fun n => ?_,fun _ => ?_⟩
    · rw [step,remote,servStatus,services]
      exact consistent n
    · rw [step,remote,servStatus]
      exact ⟨rfl,rfl⟩
  · refine ⟨fun n => ?_,fun failed => ?_⟩
    · rw [step,remote,servStatus,services]
      by_cases same : n = service
      · simp [same,Services.add]
      · simpa [same,Services.add] using consistent n
    · exact absurd done failed

/-- A removal on a node that is not published takes nothing away, exactly where there is nothing
under its name that the manager could take out. -/
theorem unpublished_removal_iff (named : s.Named node) (consistent : s.Consistent)
    (deviceNode : ν) (status : s.servStatus deviceNode = false)
    (answers : Nat → (op : RequestOp) → op.Res) :
    let after := hdfRemoteServiceRecycle deviceNode
      (s.devSvcManagerClntRemoveService proxy node deviceNode answers)
    after.Consistent ∧ (∀ other, other ≠ deviceNode → ∀ name,
        s.services.registry name = some other → after.services.registry name = some other) ↔
      ∀ name, (node deviceNode).servName = some name →
        removeAnswered answers proxy name = true → s.services.registry name = none := by
  have served := clntRemoveService_served proxy node s deviceNode answers
  obtain ⟨flag,service⟩ := consistent deviceNode
  have plain : s.remote deviceNode = none := by simpa [status] using flag
  have unadded : s.services.added deviceNode = false := by simpa [plain] using service
  constructor
  · rintro ⟨_,others⟩ name titled answered
    cases entry : s.services.registry name with
    | none => rfl
    | some other =>
      -- the entry cannot be the node's own, whose service is not there
      have foreign : other ≠ deviceNode := by
        rintro rfl
        simp [(named name other entry).1] at unadded
      have kept := others other foreign name entry
      simp only [titled,answered,if_true] at served
      simp [hdfRemoteServiceRecycle,served,Services.remove] at kept
  · intro absent
    have remote : (hdfRemoteServiceRecycle deviceNode
        (s.devSvcManagerClntRemoveService proxy node deviceNode answers)).remote = s.remote := by
      simp [hdfRemoteServiceRecycle,devSvcManagerClntRemoveService,← plain]
    have services : (hdfRemoteServiceRecycle deviceNode
        (s.devSvcManagerClntRemoveService proxy node deviceNode answers)).services =
          s.services := by
      refine served.trans ?_
      cases titled : (node deviceNode).servName with
      | none => rfl
      | some name =>
        by_cases answered : removeAnswered answers proxy name = true
        · simp only [answered,if_true]
          exact remove_absent _ _ _ (absent name titled answered) unadded
        · simp [answered]
    refine ⟨fun n => ?_,fun other _ name entry => ?_⟩
    · rw [remote,services]
      exact consistent n
    · rw [services]
      exact entry

/-- One call keeps the three in accord, and does no harm, exactly where the condition holds. -/
theorem step_consistent_iff (named : s.Named node) (consistent : s.Consistent)
    (c : ServiceCall ν) :
    (step servicePolicyPublic servicePolicyCapacity deviceClassMax proxy node c s).2.Consistent ∧
      Harmless servicePolicyPublic servicePolicyCapacity deviceClassMax proxy node c s ↔
        Meets proxy node c s := by
  cases c with
  | publishService service out =>
    exact iff_of_true (publishService_consistent consistent service out) trivial
  | removeService deviceNode out =>
    dsimp only [step,Harmless,Meets]
    unfold deviceServiceStubRemoveService
    by_cases clnt : out.devSvcManagerClntGetInstance = false
    · simp [clnt,consistent]
    rw [if_neg clnt]
    have granted : out.devSvcManagerClntGetInstance = true := Bool.eq_true_of_not_eq_false clnt
    cases status : s.servStatus deviceNode with
    | true =>
      refine iff_of_false (fun after => ?_) (by simp [granted])
      -- the flag stays and the remote goes
      have published := (after.1 deviceNode).1.mp status
      simp [hdfRemoteServiceRecycle] at published
    | false =>
      refine (unpublished_removal_iff named consistent deviceNode status out.answers).trans ?_
      simp [granted]

theorem add_named (named : s.Named node) (service : ν) (title : String)
    (titled : (node service).servName = some title) (name : String) (n : ν)
    (here : (s.services.add title service).registry name = some n) :
    (s.services.add title service).added n = true ∧ (node n).servName = some name := by
  by_cases same : name = title
  · have owner : service = n := by simpa [Services.add,same] using here
    simp [Services.add,same,← owner,titled]
  · have old : s.services.registry name = some n := by simpa [Services.add,same] using here
    obtain ⟨added,known⟩ := named name n old
    refine ⟨?_,known⟩
    by_cases owner : n = service
    · simp [Services.add,owner]
    · simp [Services.add,owner,added]

theorem remove_named (named : s.Named node) (service : ν) (title : String)
    (titled : (node service).servName = some title) (name : String) (n : ν)
    (here : (s.services.remove title service).registry name = some n) :
    (s.services.remove title service).added n = true ∧ (node n).servName = some name := by
  have other : name ≠ title := by
    rintro rfl
    simp [Services.remove] at here
  have old : s.services.registry name = some n := by simpa [Services.remove,other] using here
  obtain ⟨added,known⟩ := named name n old
  have own : n ≠ service := by
    rintro rfl
    exact other (Option.some.inj (known.symm.trans titled))
  have entry : s.services.registry title ≠ some n := by
    intro its
    exact other (Option.some.inj (known.symm.trans (named title n its).2))
  simp [Services.remove,added,own,entry,known]

theorem step_named (c : ServiceCall ν) (named : s.Named node) :
    (step servicePolicyPublic servicePolicyCapacity deviceClassMax proxy node c s).2.Named node := by
  intro name n here
  cases c with
  | publishService service out =>
    rcases publishService_cases servicePolicyPublic servicePolicyCapacity deviceClassMax proxy node
      s service out with
      ⟨_,_,_,services⟩ | ⟨title,titled,_,_,_,_,services⟩
    · rw [step,services] at here ⊢
      exact named name n here
    · rw [step,services] at here ⊢
      exact add_named named service title titled name n here
  | removeService deviceNode out =>
    rw [step,deviceServiceStubRemoveService] at here ⊢
    split at here
    next refused =>
      rw [if_pos refused]
      exact named name n here
    next granted =>
      rw [if_neg granted]
      dsimp only [hdfRemoteServiceRecycle] at here ⊢
      rw [clntRemoveService_served] at here ⊢
      split at here
      next untitled =>
        exact named name n here
      next title titled =>
        split at here
        next answered =>
          rw [if_pos answered]
          exact remove_named named deviceNode title titled name n here
        next unanswered =>
          rw [if_neg unanswered]
          exact named name n here

theorem owned_obtain (service : ν) (plain : s.remote service = none) (owned : s.Owned) :
    (s.hdfRemoteServiceObtain service).Owned := by
  have fresh : ∀ n, s.remote n ≠ some s.remotes.count := by
    intro n held
    exact absurd (owned.settled.live _ ⟨n,held⟩).1 (Nat.lt_irrefl _)
  have held : ∀ r, ((∃ n, s.remote n = some r) ∨ r = s.remotes.count) ↔
      ∃ n, (s.hdfRemoteServiceObtain service).remote n = some r := by
    intro r
    constructor
    · rintro (⟨n,here⟩ | rfl)
      · have other : n ≠ service := by
          rintro rfl
          simp [plain] at here
        exact ⟨n,by simp [hdfRemoteServiceObtain,other,here]⟩
      · exact ⟨service,by simp [hdfRemoteServiceObtain]⟩
    · rintro ⟨n,here⟩
      by_cases same : n = service
      · exact .inr (by simpa [hdfRemoteServiceObtain,same,eq_comm] using here)
      · exact .inl ⟨n,by simpa [hdfRemoteServiceObtain,same] using here⟩
  refine ⟨fun n m r first second => ?_,(Blocks.settled_congr held).mp owned.settled.alloc⟩
  simp only [hdfRemoteServiceObtain,Function.update_apply] at first second
  split_ifs at first second with one two two
  · exact one.trans two.symm
  · exact absurd (second.trans first.symm) (fresh m)
  · exact absurd (first.trans second.symm) (fresh n)
  · exact owned.sole n m r first second

theorem owned_recycle (service : ν) (owned : s.Owned) :
    (s.hdfRemoteServiceRecycle service).Owned := by
  have others : ∀ n r, (s.hdfRemoteServiceRecycle service).remote n = some r ↔
      s.remote n = some r ∧ n ≠ service := by
    intro n r
    by_cases same : n = service
    · simp [hdfRemoteServiceRecycle,same]
    · simp [hdfRemoteServiceRecycle,same]
  refine ⟨fun n m r first second => ?_,?_⟩
  · exact owned.sole n m r ((others n r).mp first).1 ((others m r).mp second).1
  · cases mine : s.remote service with
    | none =>
      have held : ∀ r, (∃ n, s.remote n = some r) ↔
          ∃ n, (s.hdfRemoteServiceRecycle service).remote n = some r := by
        intro r
        apply exists_congr
        intro n
        rw [others]
        refine (and_iff_left_of_imp ?_).symm
        rintro here rfl
        simp [mine] at here
      simpa [hdfRemoteServiceRecycle,mine] using (Blocks.settled_congr held).mp owned.settled
    | some given =>
      have held : ∀ r, (∃ n, s.remote n = some r) ∧ r ≠ given ↔
          ∃ n, (s.hdfRemoteServiceRecycle service).remote n = some r := by
        intro r
        simp only [others]
        constructor
        · rintro ⟨⟨n,here⟩,other⟩
          refine ⟨n,here,?_⟩
          rintro rfl
          exact other (Option.some.inj (here.symm.trans mine))
        · rintro ⟨n,here,other⟩
          refine ⟨⟨n,here⟩,?_⟩
          rintro rfl
          exact other (owned.sole n service r here mine)
      have freed := (Blocks.settled_congr held).mp (owned.settled.free ⟨service,mine⟩)
      simpa [hdfRemoteServiceRecycle,mine] using freed

/-- Whatever the calls are, no remote is lost and none recycled twice. -/
theorem step_owned (c : ServiceCall ν) (owned : s.Owned) :
    (step servicePolicyPublic servicePolicyCapacity deviceClassMax proxy node c s).2.Owned := by
  cases c with
  | publishService service out =>
    rw [step,deviceServiceStubPublishService]
    split
    · exact owned
    next name _ =>
      split
      · exact owned
      next fresh =>
        have obtained := owned_obtain service (by simpa using fresh) owned
        have added : (devSvcManagerClntAddService deviceClassMax proxy node name service
            out.answers (s.hdfRemoteServiceObtain service)).2.Owned :=
          ⟨obtained.sole,obtained.settled⟩
        dsimp only
        split_ifs
        · exact owned
        · exact owned
        · exact owned_recycle service obtained
        · exact owned_recycle service obtained
        · exact owned_recycle service added
        · exact ⟨added.sole,added.settled⟩
  | removeService deviceNode out =>
    rw [step,deviceServiceStubRemoveService]
    split
    · exact owned
    · exact owned_recycle deviceNode ⟨owned.sole,owned.settled⟩

end Step

end Stub

theorem published_owned {ν : Type} [DecidableEq ν]
    (servicePolicyPublic servicePolicyCapacity deviceClassMax : UInt16) (proxy : Option Client)
    (node : ν → HdfDeviceNode) (calls : List (ServiceCall ν)) :
    (Machine.run (step servicePolicyPublic servicePolicyCapacity deviceClassMax proxy node) calls
      created).2.Owned :=
  Machine.run_invariant _ _ (fun c _ => step_owned c) calls _ created_owned

/-- In a run of publications and removals each node's flag, remote and service are in accord, and
no call does harm, exactly where every call meets the condition. -/
theorem published_consistent_iff {ν : Type} [DecidableEq ν]
    (servicePolicyPublic servicePolicyCapacity deviceClassMax : UInt16) (proxy : Option Client)
    (node : ν → HdfDeviceNode) (calls : List (ServiceCall ν)) :
    let step := step servicePolicyPublic servicePolicyCapacity deviceClassMax proxy node
    let harmless := Harmless servicePolicyPublic servicePolicyCapacity deviceClassMax proxy node
    (∀ k, (Machine.run step (calls.take k) created).2.Consistent ∧
        ∀ c, calls[k]? = some c → harmless c (Machine.run step (calls.take k) created).2) ↔
      Machine.MeetsAll step (Meets proxy node) calls created := by
  apply Machine.run_checked_iff _ _ _ (Named node)
  · exact fun c s named _ _ _ => step_named c named
  · exact fun c s named consistent => step_consistent_iff named consistent c
  · exact fun name n => nofun
  · exact fun n => ⟨by simp [created],by simp [created]⟩

private def granted (_ : Nat) : (op : RequestOp) → op.Res
  | .hdfSbufTypedObtain => some 0
  | .hdfSbufRecycle _ => ()
  | .hdfRemoteServiceWriteInterfaceToken _ _ | .hdfSbufWriteString _ _ | .hdfSbufWriteUint16 _ _
  | .hdfSbufWriteInt32 _ _ => true
  | .hdfSbufReadRemoteService _ => none
  | .hdfSbufWriteRemoteService _ _ | .serviceStatusMarshalling _ | .dispatch _ _ _ _
  | .dispatchAsync _ _ _ | .hdfObtainDeviceInfo _ => hdfSuccess

/-- Two nodes with one name: the removal on the second takes the first one's service away, and a
removal on the first leaves its flag without a remote. -/
theorem published_not_consistent :
    let published := step 1 2 16 (some ⟨some ⟨0,true⟩⟩)
      (fun _ : Bool => ⟨some "sample",1,0,none,none⟩)
    let one := (published (.publishService true ⟨true,true,true,granted⟩) created).2
    let other := (published (.removeService false ⟨true,granted⟩) one).2
    let own := (published (.removeService true ⟨true,granted⟩) one).2
    one.services.registry "sample" = some true ∧ other.services.registry "sample" = none ∧
      own.servStatus true = true ∧ own.remote true = none ∧ ¬ own.Consistent := by
  refine ⟨rfl,rfl,rfl,rfl,fun consistent => ?_⟩
  have published := (consistent true).1.mp rfl
  contradiction

end DeviceServiceStubs

end DriversAdapter.Host
