import DriversAdapter.Base.Word
import DriversAdapter.Devmgr.Registry
import DriversAdapter.Semantics.Blocks
import DriversAdapter.Semantics.Machine
import Mathlib.Logic.Function.Basic

/-! The requests of the hosts to the stub of the device manager. For an attach request the stub
makes objects of what it reads, and hands them to the manager. -/
namespace DriversAdapter.Devmgr
open DriversAdapter.Base DriversAdapter.Semantics

abbrev AttachedRemote := Nat
abbrev TokenId := Nat

/-- The codes of the dispatcher with what can be read of each request. -/
inductive DevmgrRequest
  | attachDeviceHost (hostId : Option UInt32) (remote : Bool)
  | attachDevice (deviceId : Option UInt32)
  | detachDevice (deviceId : Option UInt32)
  | loadDevice (serviceName : Option String)
  | unloadDevice (serviceName : Option String)
  | queryDevice
  | listAllDevice (reply : Bool)
  | other

/-- How the allocations end, and what the manager answers to the one call that it gets. -/
structure AttachOutcomes where
  proxyCalloc : Bool
  tokenCalloc : Bool
  answer : Int

structure DevmgrCall where
  stub : Bool
  interfaceToken : Bool
  request : DevmgrRequest
  out : AttachOutcomes

/-- The objects of attach requests: remotes, proxies, each with its remote, and tokens. `hosts` and
`devices` are the proxies and the tokens that the manager has taken. -/
structure AttachedObjects where
  remotes : Blocks
  proxies : Blocks
  remote : ProxyId → Option AttachedRemote
  tokens : Blocks
  hosts : List ProxyId
  devices : List TokenId
  nullHosts : Nat
  reply : List Int

namespace AttachedObjects

def none : AttachedObjects := ⟨.empty,.empty,fun _ => .none,.empty,[],[],0,[]⟩

def hdfSbufReadRemoteService (there : Bool) (s : AttachedObjects) :
    Option AttachedRemote × AttachedObjects :=
  if there then (some s.remotes.count,{s with remotes := s.remotes.alloc}) else (.none,s)

def devHostServiceProxyObtain (calloc : Bool) (remote : Option AttachedRemote)
    (s : AttachedObjects) : Option ProxyId × AttachedObjects :=
  if calloc then
    (some s.proxies.count,{s with
      proxies := s.proxies.alloc
      remote := Function.update s.remote s.proxies.count remote})
  else (.none,s)

def hdfDevTokenProxyObtain (calloc : Bool) (s : AttachedObjects) :
    Option TokenId × AttachedObjects :=
  if calloc then (some s.tokens.count,{s with tokens := s.tokens.alloc}) else (.none,s)

/-- The manager takes what it is given exactly when it answers success. -/
def attachDeviceHost (hostIf : Option ProxyId) (answer : Int) (s : AttachedObjects) :
    AttachedObjects :=
  let s := if hostIf = .none then {s with nullHosts := s.nullHosts + 1} else s
  if answer = hdfSuccess then {s with hosts := hostIf.toList ++ s.hosts} else s

def attachDevice (token : TokenId) (answer : Int) (s : AttachedObjects) : AttachedObjects :=
  if answer = hdfSuccess then {s with devices := token :: s.devices} else s

def devmgrServiceStubDispatchAttachDevice (deviceId : Option UInt32) (out : AttachOutcomes)
    (s : AttachedObjects) : Int × AttachedObjects :=
  match deviceId with
  | .none => (hdfErrInvalidParam,s)
  | some _ =>
    match s.hdfDevTokenProxyObtain out.tokenCalloc with
    | (.none,s) => (hdfFailure,s)
    | (some tokenClnt,s) => (out.answer,s.attachDevice tokenClnt out.answer)

/-- The other requests: one whose argument cannot be read is refused. -/
def dispatchPlain {α : Type} (argument : Option α) (out : AttachOutcomes) (s : AttachedObjects) :
    Int × AttachedObjects :=
  if argument.isNone then (hdfErrInvalidParam,s) else (out.answer,s)

/-- The end of the dispatcher, where an error is written to the reply. -/
def dispatched (done : Int × AttachedObjects) : Int × AttachedObjects :=
  if done.1 ≠ hdfSuccess then (done.1,{done.2 with reply := done.2.reply ++ [done.1]}) else done

def devmgrServiceStubDispatch (call : DevmgrCall) (s : AttachedObjects) : Int × AttachedObjects :=
  if call.stub = false then (hdfErrInvalidParam,s)
  else if call.interfaceToken = false then (hdfErrInvalidParam,s)
  else
    match call.request with
    | .attachDeviceHost .none _ => (hdfFailure,s)
    | .attachDeviceHost (some _) remote =>
      let read := s.hdfSbufReadRemoteService remote
      let obtained := read.2.devHostServiceProxyObtain call.out.proxyCalloc read.1
      dispatched (call.out.answer,obtained.2.attachDeviceHost obtained.1 call.out.answer)
    | .attachDevice deviceId =>
      dispatched (s.devmgrServiceStubDispatchAttachDevice deviceId call.out)
    | .detachDevice deviceId => dispatched (s.dispatchPlain deviceId call.out)
    | .loadDevice serviceName => dispatched (s.dispatchPlain serviceName call.out)
    | .unloadDevice serviceName => dispatched (s.dispatchPlain serviceName call.out)
    | .queryDevice => dispatched (call.out.answer,s)
    | .listAllDevice reply => dispatched (s.dispatchPlain (if reply then some () else .none) call.out)
    | .other => dispatched (hdfFailure,s)

/-- The remote is that of a proxy that the manager has taken. -/
def HeldRemote (s : AttachedObjects) (r : AttachedRemote) : Prop :=
  ∃ p ∈ s.hosts, s.remote p = some r

/-- What the manager has taken is live, all else that was made has been released exactly once, and
no host was attached without its service. -/
structure Settled (s : AttachedObjects) : Prop where
  remotes : s.remotes.Settled s.HeldRemote
  proxies : s.proxies.Settled (· ∈ s.hosts)
  tokens : s.tokens.Settled (· ∈ s.devices)
  served : s.nullHosts = 0

end AttachedObjects

open AttachedObjects

/-- A host's proxy is allocated and accepted; a device's token is accepted if it is allocated. -/
def DevmgrCall.Accepted (call : DevmgrCall) : Prop :=
  call.stub = true → call.interfaceToken = true →
    match call.request with
    | .attachDeviceHost (some _) _ => call.out.proxyCalloc = true ∧ call.out.answer = hdfSuccess
    | .attachDevice (some _) => call.out.tokenCalloc = true → call.out.answer = hdfSuccess
    | _ => True

section Dispatch
variable {s : AttachedObjects}

theorem settled_none : AttachedObjects.none.Settled := by
  have nobody : ∀ n, False ↔ AttachedObjects.none.HeldRemote n := by
    simp [HeldRemote,AttachedObjects.none]
  refine ⟨(Blocks.settled_congr nobody).mp Blocks.settled_empty,?_,?_,rfl⟩
  · exact (Blocks.settled_congr (by simp [AttachedObjects.none])).mp Blocks.settled_empty
  · exact (Blocks.settled_congr (by simp [AttachedObjects.none])).mp Blocks.settled_empty

theorem settled_dispatched (done : Int × AttachedObjects) :
    (dispatched done).2.Settled ↔ done.2.Settled := by
  unfold dispatched
  split
  next =>
    constructor
    · intro settled
      exact ⟨settled.remotes,settled.proxies,settled.tokens,settled.served⟩
    · intro settled
      exact ⟨settled.remotes,settled.proxies,settled.tokens,settled.served⟩
  next => rfl

theorem dispatchPlain_same {α : Type} (argument : Option α) (out : AttachOutcomes) :
    (s.dispatchPlain argument out).2 = s := by
  unfold dispatchPlain
  split <;> rfl

/-- The proxy of a new host is behind all that the manager has. -/
theorem new_proxy (settled : s.Settled) (p : ProxyId) (taken : p ∈ s.hosts) :
    p ≠ s.proxies.count :=
  Nat.ne_of_lt (settled.proxies.live p taken).1

theorem heldRemote_attached (settled : s.Settled) (remote : Option AttachedRemote)
    (r : AttachedRemote) :
    (∃ p ∈ s.proxies.count :: s.hosts,
        Function.update s.remote s.proxies.count remote p = some r) ↔
      s.HeldRemote r ∨ remote = some r := by
  have old : ∀ p ∈ s.hosts, Function.update s.remote s.proxies.count remote p = s.remote p :=
    fun p taken => Function.update_of_ne (new_proxy settled p taken) _ _
  have others : (∃ p ∈ s.hosts, Function.update s.remote s.proxies.count remote p = some r) ↔
      s.HeldRemote r := by
    apply exists_congr
    intro p
    apply and_congr_right
    intro taken
    rw [old p taken]
  simp only [List.exists_mem_cons_iff,Function.update_self,others]
  exact or_comm

/-- A remote that was read belongs to the proxy that it was made for. -/
theorem settled_read (settled : s.Settled) (remote : Bool) :
    (s.hdfSbufReadRemoteService remote).2.remotes.Settled fun r =>
      s.HeldRemote r ∨ (s.hdfSbufReadRemoteService remote).1 = some r := by
  cases remote with
  | false => simpa [hdfSbufReadRemoteService] using settled.remotes
  | true =>
    have all := settled.remotes.alloc
    simpa [hdfSbufReadRemoteService,eq_comm (b := s.remotes.count)] using all

theorem settled_attachHost_iff (settled : s.Settled) (remote : Bool) (out : AttachOutcomes) :
    let read := s.hdfSbufReadRemoteService remote
    let obtained := read.2.devHostServiceProxyObtain out.proxyCalloc read.1
    (obtained.2.attachDeviceHost obtained.1 out.answer).Settled ↔
      out.proxyCalloc = true ∧ out.answer = hdfSuccess := by
  have same : (s.hdfSbufReadRemoteService remote).2 =
      {s with remotes := (s.hdfSbufReadRemoteService remote).2.remotes} := by
    cases remote <;> rfl
  have remotes := settled_read settled remote
  generalize s.hdfSbufReadRemoteService remote = read at remotes same
  dsimp only
  rw [same]
  cases out.proxyCalloc with
  | false =>
    refine iff_of_false (fun after => ?_) (by simp)
    have served := after.served
    simp only [devHostServiceProxyObtain,attachDeviceHost] at served
    split at served <;> simp at served
  | true =>
    simp only [devHostServiceProxyObtain,attachDeviceHost,if_true,reduceCtorEq,if_false,true_and,
      Option.toList_some,List.singleton_append]
    have new : s.proxies.alloc.Live s.proxies.count := Blocks.live_alloc.mpr (.inr rfl)
    by_cases accepted : out.answer = hdfSuccess
    · refine iff_of_true ?_ accepted
      rw [if_pos accepted]
      refine ⟨?_,?_,settled.tokens,settled.served⟩
      · exact (Blocks.settled_congr fun r => heldRemote_attached settled read.1 r).mpr remotes
      · have all := settled.proxies.alloc
        simpa [or_comm] using all
    · refine iff_of_false (fun after => ?_) accepted
      rw [if_neg accepted] at after
      -- nobody has the new proxy
      exact Blocks.not_settled new (fun taken => new_proxy settled _ taken rfl) after.proxies

theorem settled_attachDevice_iff (settled : s.Settled) (deviceId : UInt32)
    (out : AttachOutcomes) :
    (s.devmgrServiceStubDispatchAttachDevice (some deviceId) out).2.Settled ↔
      (out.tokenCalloc = true → out.answer = hdfSuccess) := by
  simp only [devmgrServiceStubDispatchAttachDevice,hdfDevTokenProxyObtain]
  cases out.tokenCalloc with
  | false => simp [settled]
  | true =>
    simp only [if_true,attachDevice,forall_const]
    have new : s.tokens.alloc.Live s.tokens.count := Blocks.live_alloc.mpr (.inr rfl)
    by_cases accepted : out.answer = hdfSuccess
    · refine iff_of_true ?_ accepted
      rw [if_pos accepted]
      refine ⟨settled.remotes,settled.proxies,?_,settled.served⟩
      have all := settled.tokens.alloc
      simpa [or_comm] using all
    · refine iff_of_false (fun after => ?_) accepted
      rw [if_neg accepted] at after
      have unknown : s.tokens.count ∉ s.devices := by
        intro taken
        exact absurd (settled.tokens.live _ taken).1 (Nat.lt_irrefl _)
      exact Blocks.not_settled new unknown after.tokens

theorem settled_dispatch_iff (settled : s.Settled) (call : DevmgrCall) :
    (devmgrServiceStubDispatch call s).2.Settled ↔ call.Accepted := by
  obtain ⟨stub,interfaceToken,request,out⟩ := call
  unfold devmgrServiceStubDispatch DevmgrCall.Accepted
  cases stub with
  | false => simp [settled]
  | true =>
    cases interfaceToken with
    | false => simp [settled]
    | true =>
      simp only [Bool.true_eq_false,if_false,forall_const]
      cases request with
      | attachDeviceHost hostId remote =>
        cases hostId with
        | none => simp [settled]
        | some hostId =>
          rw [settled_dispatched]
          exact settled_attachHost_iff settled remote out
      | attachDevice deviceId =>
        rw [settled_dispatched]
        cases deviceId with
        | none => simp [devmgrServiceStubDispatchAttachDevice,settled]
        | some deviceId => exact settled_attachDevice_iff settled deviceId out
      | detachDevice deviceId => simp [settled_dispatched,dispatchPlain_same,settled]
      | loadDevice serviceName => simp [settled_dispatched,dispatchPlain_same,settled]
      | unloadDevice serviceName => simp [settled_dispatched,dispatchPlain_same,settled]
      | queryDevice => simp [settled_dispatched,settled]
      | listAllDevice reply => simp [settled_dispatched,dispatchPlain_same,settled]
      | other => simp [settled_dispatched,settled]

end Dispatch

/-- After every request of a run all objects are settled exactly where each attach request is
accepted. -/
theorem attachRequests_settled_iff (calls : List DevmgrCall) :
    (∀ k, (Machine.run devmgrServiceStubDispatch (calls.take k) .none).2.Settled) ↔
      ∀ call ∈ calls, call.Accepted :=
  Machine.run_always_mem_iff _ _ AttachedObjects.Settled
    (fun call _ settled => settled_dispatch_iff settled call) calls _ settled_none

/-- The manager refuses a host: its proxy and its remote are lost. -/
theorem attachRequests_not_settled :
    let done := devmgrServiceStubDispatch
      ⟨true,true,.attachDeviceHost (some 1) true,⟨true,true,hdfFailure⟩⟩ .none
    done.1 = hdfFailure ∧ done.2.proxies.count = 1 ∧ done.2.proxies.freed 0 = 0 ∧
      done.2.remotes.count = 1 ∧ done.2.remotes.freed 0 = 0 ∧ done.2.hosts = [] ∧
      ¬ done.2.Settled := by
  refine ⟨rfl,rfl,rfl,rfl,rfl,rfl,fun settled => ?_⟩
  have lost := settled.proxies.freed 0 (by decide) (List.not_mem_nil)
  contradiction

end DriversAdapter.Devmgr
