import DriversAdapter.Base.Word
import DriversAdapter.Semantics.Program
import Mathlib.Logic.Function.Basic

/-! The requests that clients and proxies send: what each of them writes and dispatches, and
the buffers it obtains and recycles on its way. -/
namespace DriversAdapter.Ipc
open DriversAdapter.Base DriversAdapter.Semantics DriversAdapter.Semantics.Program

/-- A remote object, and whether its dispatcher and `Dispatch` are set. -/
structure HdfRemoteService where
  id : UInt64
  dispatches : Bool

inductive RequestCode
  | devSvcManagerAddService
  | devSvcManagerUpdateService
  | devSvcManagerGetService
  | devSvcManagerRemoveService
  | devSvcManagerRegisterSvcListener
  | devSvcManagerUnregisterSvcListener
  | devmgrServiceQueryDevice
  | servieStatusListenerNotify

/-- The calls of a request. A buffer is known by when it was obtained. -/
inductive RequestOp
  | hdfSbufTypedObtain
  | hdfSbufRecycle (sbuf : Nat)
  | hdfRemoteServiceWriteInterfaceToken (remote : Option HdfRemoteService) (sbuf : Nat)
  | hdfSbufWriteString (sbuf : Nat) (value : String)
  | hdfSbufWriteUint16 (sbuf : Nat) (value : UInt16)
  | hdfSbufWriteInt32 (sbuf : Nat) (value : Int32)
  | hdfSbufWriteRemoteService (sbuf : Nat) (remote : HdfRemoteService)
  | serviceStatusMarshalling (sbuf : Nat)
  | dispatch (remote : HdfRemoteService) (code : RequestCode) (data : Nat) (reply : Option Nat)
  | dispatchAsync (remote : HdfRemoteService) (code : RequestCode) (data : Nat)
  | hdfSbufReadRemoteService (reply : Nat)
  | hdfObtainDeviceInfo (reply : Nat)

abbrev RequestOp.Res : RequestOp → Type
  | hdfSbufTypedObtain => Option Nat
  | hdfSbufRecycle _ => Unit
  | hdfRemoteServiceWriteInterfaceToken _ _ | hdfSbufWriteString _ _ | hdfSbufWriteUint16 _ _
  | hdfSbufWriteInt32 _ _ => Bool
  | hdfSbufReadRemoteService _ => Option UInt64
  | hdfSbufWriteRemoteService _ _ | serviceStatusMarshalling _ | dispatch _ _ _ _
  | dispatchAsync _ _ _ | hdfObtainDeviceInfo _ => Int

abbrev RequestM := Program RequestOp RequestOp.Res

def perform (op : RequestOp) : RequestM op.Res := Program.call op

def recycleObtained : Option Nat → RequestM Unit
  | none => return ()
  | some sbuf => perform (.hdfSbufRecycle sbuf)

/-- Two buffers, a body that may be left early, and the buffers given back. -/
def withSbufs {α : Type} (body : Option Nat → Option Nat → RequestM α) : RequestM α := do
  let data ← perform .hdfSbufTypedObtain
  let reply ← perform .hdfSbufTypedObtain
  let result ← body data reply
  recycleObtained reply
  recycleObtained data
  return result

/-- The service manager's client, and the proxy of the device service manager. -/
structure Client where
  remote : Option HdfRemoteService

def serviceManagerHdiCall (servMgrClient : Client) (code : RequestCode) (data : Nat)
    (reply : Option Nat) : RequestM Int :=
  match servMgrClient.remote with
  | none => return hdfErrInvalidObject
  | some remote =>
    if remote.dispatches = false then return hdfErrInvalidObject
    else perform (.dispatch remote code data reply)

def deviceManagerHdiCall (iDevMgr : Client) (code : RequestCode) (data : Nat)
    (reply : Option Nat) : RequestM Int :=
  match iDevMgr.remote with
  | none => return hdfErrInvalidObject
  | some remote =>
    if remote.dispatches = false then return hdfErrInvalidObject
    else perform (.dispatch remote code data reply)

def hdiServMgrGetService (iServMgr : Option Client) (serviceName : Option String) :
    RequestM (Option UInt64) :=
  match iServMgr, serviceName with
  | some servMgrClient, some serviceName => withSbufs fun data reply => match data, reply with
    | some data, some reply => do
      if !(← perform (.hdfRemoteServiceWriteInterfaceToken servMgrClient.remote data)) then
        return none
      else if !(← perform (.hdfSbufWriteString data serviceName)) then
        return none
      else
        let status ← serviceManagerHdiCall servMgrClient .devSvcManagerGetService data (some reply)
        if status = hdfSuccess then
          perform (.hdfSbufReadRemoteService reply)
        else
          return none
    | _, _ => return none
  | _, _ => return none

structure ServiceStatusListener where
  remote : Option HdfRemoteService

def serviceStatusListenerMarshalling (listener : ServiceStatusListener) (buf : Nat) : RequestM Int :=
  match listener.remote with
  | none => return hdfErrInvalidObject
  | some remote => perform (.hdfSbufWriteRemoteService buf remote)

def hdiServMgrRegisterServiceStatusListener (self : Option Client)
    (listener : Option ServiceStatusListener) (deviceClass : UInt16) : RequestM Int :=
  match self, listener with
  | some servMgrClient, some listener => do
    match ← perform .hdfSbufTypedObtain with
    | none => return hdfErrMallocFail
    | some data =>
      if !(← perform (.hdfRemoteServiceWriteInterfaceToken servMgrClient.remote data)) then
        return hdfFailure
      else if !(← perform (.hdfSbufWriteUint16 data deviceClass)) then
        return hdfFailure
      else if (← serviceStatusListenerMarshalling listener data) ≠ hdfSuccess then
        return hdfFailure
      else
        let ret ← serviceManagerHdiCall servMgrClient .devSvcManagerRegisterSvcListener data none
        perform (.hdfSbufRecycle data)
        return ret
  | _, _ => return hdfErrInvalidParam

def hdiServMgrUnregisterServiceStatusListener (self : Option Client)
    (listener : Option ServiceStatusListener) : RequestM Int :=
  match self, listener with
  | some servMgrClient, some listener => do
    match ← perform .hdfSbufTypedObtain with
    | none => return hdfErrMallocFail
    | some data =>
      if !(← perform (.hdfRemoteServiceWriteInterfaceToken servMgrClient.remote data)) then
        return hdfFailure
      else if (← serviceStatusListenerMarshalling listener data) ≠ hdfSuccess then
        return hdfFailure
      else
        let ret ← serviceManagerHdiCall servMgrClient .devSvcManagerUnregisterSvcListener data none
        perform (.hdfSbufRecycle data)
        return ret
  | _, _ => return hdfErrInvalidParam

def devmgrQueryDeviceInfo (iDevMgr : Client) (type : Int32) : RequestM Int := do
  match ← perform .hdfSbufTypedObtain with
  | none => return hdfErrMallocFail
  | some reply =>
    match ← perform .hdfSbufTypedObtain with
    | none =>
      perform (.hdfSbufRecycle reply)
      return hdfErrMallocFail
    | some data =>
      let ret ← devmgrQueryBody iDevMgr type reply data
      perform (.hdfSbufRecycle reply)
      perform (.hdfSbufRecycle data)
      return ret
where
  devmgrQueryBody (iDevMgr : Client) (type : Int32) (reply data : Nat) : RequestM Int := do
    if !(← perform (.hdfRemoteServiceWriteInterfaceToken iDevMgr.remote data)) then
      return hdfFailure
    else
      let _ ← perform (.hdfSbufWriteInt32 data type)
      let ret ← deviceManagerHdiCall iDevMgr .devmgrServiceQueryDevice data (some reply)
      if ret ≠ hdfSuccess then
        return ret
      else
        perform (.hdfObtainDeviceInfo reply)

/-- The device object of a service, in the node whose stub is remote or broken. -/
structure HdfDeviceObject where
  remote : Option HdfRemoteService

def writeServiceInfo (data : Nat) (svcName : String) (devClass : UInt16)
    (service : HdfDeviceObject) (servInfo : Option String) : RequestM Int := do
  if !(← perform (.hdfSbufWriteString data svcName)) then
    return hdfFailure
  else if !(← perform (.hdfSbufWriteUint16 data devClass)) then
    return hdfFailure
  else match service.remote with
  | none => return hdfFailure
  | some remote =>
    if (← perform (.hdfSbufWriteRemoteService data remote)) ≠ hdfSuccess then
      return hdfFailure
    else if !(← perform (.hdfSbufWriteString data (servInfo.getD ""))) then
      return hdfFailure
    else
      return hdfSuccess

/-- `AddService` and `UpdateService`, which differ in their code. -/
def sendServiceInfo (code : RequestCode) (deviceClassMax : UInt16) (inst : Option Client)
    (svcName : Option String) (devClass : UInt16) (service : Option HdfDeviceObject)
    (servInfo : Option String) : RequestM Int :=
  match service, svcName with
  | some service, some svcName => match inst.bind Client.remote with
    | none => return hdfErrInvalidParam
    | some remote =>
      if deviceClassMax ≤ devClass then return hdfErrInvalidParam
      else withSbufs fun data reply => match data, reply with
        | some data, some reply => do
          if !(← perform (.hdfRemoteServiceWriteInterfaceToken (some remote) data)) then
            return hdfFailure
          else if (← writeServiceInfo data svcName devClass service servInfo) ≠ hdfSuccess then
            return hdfFailure
          else
            perform (.dispatch remote code data (some reply))
        | _, _ => return hdfFailure
  | _, _ => return hdfErrInvalidParam

def devSvcManagerProxyAddService : UInt16 → Option Client → Option String → UInt16 →
    Option HdfDeviceObject → Option String → RequestM Int :=
  sendServiceInfo .devSvcManagerAddService

def devSvcManagerProxyUpdateService : UInt16 → Option Client → Option String → UInt16 →
    Option HdfDeviceObject → Option String → RequestM Int :=
  sendServiceInfo .devSvcManagerUpdateService

def devSvcManagerProxyGetService (inst : Client) (svcName : String) : RequestM (Option UInt64) :=
  withSbufs fun data reply => match inst.remote, data, reply with
    | some remote, some data, some reply => do
      if !(← perform (.hdfRemoteServiceWriteInterfaceToken (some remote) data)) then
        return none
      else if !(← perform (.hdfSbufWriteString data svcName)) then
        return none
      else
        let status ← perform (.dispatch remote .devSvcManagerGetService data (some reply))
        if status = hdfSuccess then
          perform (.hdfSbufReadRemoteService reply)
        else
          return none
    | _, _, _ => return none

def devSvcManagerProxyRemoveService (inst : Option Client) (svcName : Option String) :
    RequestM Unit :=
  match inst, svcName with
  | some inst, some svcName => withSbufs fun data reply => match inst.remote, data, reply with
    | some remote, some data, some reply => do
      if !(← perform (.hdfRemoteServiceWriteInterfaceToken (some remote) data)) then
        return ()
      else if !(← perform (.hdfSbufWriteString data svcName)) then
        return ()
      else
        let _ ← perform (.dispatch remote .devSvcManagerRemoveService data (some reply))
        return ()
    | _, _, _ => return ()
  | _, _ => return ()

/-- A holder with the remote of its listener. The status is there or not. -/
def uServStatListenerHolderNotifyStatus (holder : Option Client) (status : Bool) : RequestM Int :=
  match holder, status with
  | some holderInst, true => match holderInst.remote with
    | none => return hdfErrInvalidParam
    | some listenerRemote => do
      match ← perform .hdfSbufTypedObtain with
      | none => return hdfErrMallocFail
      | some data =>
        if !(← perform (.hdfRemoteServiceWriteInterfaceToken (some listenerRemote) data)) then
          perform (.hdfSbufRecycle data)
          return hdfFailure
        else if (← perform (.serviceStatusMarshalling data)) ≠ hdfSuccess then
          perform (.hdfSbufRecycle data)
          return hdfErrInvalidParam
        else
          let ret ← perform (.dispatchAsync listenerRemote .servieStatusListenerNotify data)
          -- both branches return before the recycle that ends the function
          if ret ≠ hdfSuccess then
            return hdfFailure
          else
            return hdfSuccess
  | _, _ => return hdfErrInvalidParam

/-- The calls a request has made, the buffers it has obtained, and how often each was recycled. -/
structure Buffers where
  calls : Nat
  obtained : Nat
  recycled : Nat → Nat

namespace Buffers

def fresh : Buffers := ⟨0,0,fun _ => 0⟩

/-- Each call ends as `answers` has it for the calls made before it. -/
def serve (answers : Nat → (op : RequestOp) → op.Res) (op : RequestOp) (s : Buffers) :
    op.Res × Buffers :=
  let next := {s with calls := s.calls + 1}
  match op with
  | .hdfSbufTypedObtain => match answers s.calls .hdfSbufTypedObtain with
    | none => (none,next)
    | some _ => (some s.obtained,{next with obtained := s.obtained + 1})
  | .hdfSbufRecycle sbuf =>
    ((),{next with recycled := Function.update s.recycled sbuf (s.recycled sbuf + 1)})
  | op => (answers s.calls op,next)

/-- Every buffer obtained has been recycled exactly once. -/
def Returned (s : Buffers) : Prop := ∀ sbuf < s.obtained, s.recycled sbuf = 1

end Buffers

inductive Request
  | hdiServMgrGetService (iServMgr : Option Client) (serviceName : Option String)
  | hdiServMgrRegisterServiceStatusListener (self : Option Client)
      (listener : Option ServiceStatusListener) (deviceClass : UInt16)
  | hdiServMgrUnregisterServiceStatusListener (self : Option Client)
      (listener : Option ServiceStatusListener)
  | devmgrQueryDeviceInfo (iDevMgr : Client) (type : Int32)
  | devSvcManagerProxyAddService (inst : Option Client) (svcName : Option String)
      (devClass : UInt16) (service : Option HdfDeviceObject) (servInfo : Option String)
  | devSvcManagerProxyUpdateService (inst : Option Client) (svcName : Option String)
      (devClass : UInt16) (service : Option HdfDeviceObject) (servInfo : Option String)
  | devSvcManagerProxyGetService (inst : Client) (svcName : String)
  | devSvcManagerProxyRemoveService (inst : Option Client) (svcName : Option String)
  | uServStatListenerHolderNotifyStatus (holder : Option Client) (status : Bool)

section Run
variable (answers : Nat → (op : RequestOp) → op.Res)

abbrev final {α : Type} (p : RequestM α) (s : Buffers) : Buffers :=
  (run (Buffers.serve answers) p s).2

def Request.buffers (deviceClassMax : UInt16) : Request → Buffers
  | hdiServMgrGetService iServMgr serviceName =>
    final answers (Ipc.hdiServMgrGetService iServMgr serviceName) .fresh
  | hdiServMgrRegisterServiceStatusListener self listener deviceClass =>
    final answers (Ipc.hdiServMgrRegisterServiceStatusListener self listener deviceClass) .fresh
  | hdiServMgrUnregisterServiceStatusListener self listener =>
    final answers (Ipc.hdiServMgrUnregisterServiceStatusListener self listener) .fresh
  | devmgrQueryDeviceInfo iDevMgr type =>
    final answers (Ipc.devmgrQueryDeviceInfo iDevMgr type) .fresh
  | devSvcManagerProxyAddService inst svcName devClass service servInfo =>
    final answers (Ipc.devSvcManagerProxyAddService deviceClassMax inst svcName devClass service
      servInfo) .fresh
  | devSvcManagerProxyUpdateService inst svcName devClass service servInfo =>
    final answers (Ipc.devSvcManagerProxyUpdateService deviceClassMax inst svcName devClass service
      servInfo) .fresh
  | devSvcManagerProxyGetService inst svcName =>
    final answers (Ipc.devSvcManagerProxyGetService inst svcName) .fresh
  | devSvcManagerProxyRemoveService inst svcName =>
    final answers (Ipc.devSvcManagerProxyRemoveService inst svcName) .fresh
  | uServStatListenerHolderNotifyStatus holder status =>
    final answers (Ipc.uServStatListenerHolderNotifyStatus holder status) .fresh

/-- No write of a listener's request fails once its buffer is obtained, and one of a
notification does. -/
def Request.Recycles : Request → Prop
  | hdiServMgrRegisterServiceStatusListener (some servMgrClient) (some listener) deviceClass =>
    answers 0 .hdfSbufTypedObtain = none ∨
      (answers 1 (.hdfRemoteServiceWriteInterfaceToken servMgrClient.remote 0) = true ∧
        answers 2 (.hdfSbufWriteUint16 0 deviceClass) = true ∧ ∃ remote,
          listener.remote = some remote ∧
            answers 3 (.hdfSbufWriteRemoteService 0 remote) = hdfSuccess)
  | hdiServMgrUnregisterServiceStatusListener (some servMgrClient) (some listener) =>
    answers 0 .hdfSbufTypedObtain = none ∨
      (answers 1 (.hdfRemoteServiceWriteInterfaceToken servMgrClient.remote 0) = true ∧ ∃ remote,
        listener.remote = some remote ∧
          answers 2 (.hdfSbufWriteRemoteService 0 remote) = hdfSuccess)
  | uServStatListenerHolderNotifyStatus (some ⟨some listenerRemote⟩) true =>
    answers 0 .hdfSbufTypedObtain = none ∨
      answers 1 (.hdfRemoteServiceWriteInterfaceToken (some listenerRemote) 0) = false ∨
        answers 2 (.serviceStatusMarshalling 0) ≠ hdfSuccess
  | _ => True

def RequestOp.plain : RequestOp → Bool
  | hdfSbufTypedObtain | hdfSbufRecycle _ => false
  | _ => true

/-- A program that neither obtains nor recycles a buffer. -/
def Quiet {α : Type} : RequestM α → Prop
  | .done _ => True
  | .perform op next => op.plain = true ∧ ∀ r, Quiet (next r)

theorem serve_plain (op : RequestOp) (plain : op.plain = true) (s : Buffers) :
    Buffers.serve answers op s = (answers s.calls op,{s with calls := s.calls + 1}) := by
  cases op <;> first | rfl | cases plain

theorem quiet_final {α : Type} (p : RequestM α) (quiet : Quiet p) (s : Buffers) :
    (final answers p s).obtained = s.obtained ∧ (final answers p s).recycled = s.recycled := by
  induction p generalizing s with
  | done value => exact ⟨rfl,rfl⟩
  | perform op next ih =>
    obtain ⟨plain,rest⟩ := quiet
    have later := ih _ (rest (Buffers.serve answers op s).1) (Buffers.serve answers op s).2
    rw [serve_plain answers op plain s] at later
    rwa [final,run_perform,serve_plain answers op plain s]

theorem quiet_bind {α β : Type} (p : RequestM α) (f : α → RequestM β) (first : Quiet p)
    (rest : ∀ r, Quiet (f r)) : Quiet (p >>= f) := by
  induction p with
  | done value => exact rest value
  | perform op next ih => exact ⟨first.1,fun r => ih r (first.2 r)⟩

theorem quiet_perform (op : RequestOp) (plain : op.plain = true) : Quiet (perform op) :=
  ⟨plain,fun _ => trivial⟩

theorem quiet_pure {α : Type} (value : α) : Quiet (pure value : RequestM α) := trivial

theorem quiet_ite {α : Type} (c : Prop) [Decidable c] (p q : RequestM α) (first : Quiet p)
    (second : Quiet q) : Quiet (if c then p else q) := by
  split
  · exact first
  · exact second

theorem final_obtain (s : Buffers) :
    (answers s.calls .hdfSbufTypedObtain = none ∧
      run (Buffers.serve answers) (perform .hdfSbufTypedObtain) s =
        (none,{s with calls := s.calls + 1})) ∨
    (answers s.calls .hdfSbufTypedObtain ≠ none ∧
      run (Buffers.serve answers) (perform .hdfSbufTypedObtain) s =
        (some s.obtained,{s with calls := s.calls + 1,obtained := s.obtained + 1})) := by
  cases granted : answers s.calls .hdfSbufTypedObtain with
  | none => simp [perform,Program.call,Buffers.serve,granted]
  | some _ => simp [perform,Program.call,Buffers.serve,granted]

theorem final_recycle (sbuf : Option Nat) (s : Buffers) :
    (final answers (recycleObtained sbuf) s).obtained = s.obtained ∧
      ∀ b, (final answers (recycleObtained sbuf) s).recycled b =
        s.recycled b + if sbuf = some b then 1 else 0 := by
  cases sbuf with
  | none => exact ⟨rfl,fun _ => rfl⟩
  | some sbuf =>
    refine ⟨rfl,fun b => ?_⟩
    simp only [final,recycleObtained,perform,Program.call,run_perform,run_done,Buffers.serve,
      Function.update_apply,Option.some.injEq]
    split
    next same => simp [same]
    next other => simp [Ne.symm other]

/-- After a body that leaves buffers alone, two are given back. -/
theorem final_given {α : Type} (body : RequestM α) (quiet : Quiet body) (one two : Option Nat)
    (s : Buffers) :
    (final answers (do
      let result ← body
      recycleObtained one
      recycleObtained two
      return result) s).obtained = s.obtained ∧
    ∀ b, (final answers (do
      let result ← body
      recycleObtained one
      recycleObtained two
      return result) s).recycled b =
        s.recycled b + (if one = some b then 1 else 0) + if two = some b then 1 else 0 := by
  obtain ⟨obtained,recycled⟩ := quiet_final answers body quiet s
  have first := final_recycle answers one (final answers body s)
  have second := final_recycle answers two
    (final answers (recycleObtained one) (final answers body s))
  have same : final answers (do
      let result ← body
      recycleObtained one
      recycleObtained two
      return result) s = final answers (recycleObtained two)
        (final answers (recycleObtained one) (final answers body s)) := by
    unfold final
    rw [run_bind,run_bind,run_bind]
    rfl
  rw [same]
  refine ⟨second.1.trans (first.1.trans obtained),fun b => ?_⟩
  rw [second.2,first.2,recycled]

theorem withSbufs_returned {α : Type} (body : Option Nat → Option Nat → RequestM α)
    (quiet : ∀ data reply, Quiet (body data reply)) :
    (final answers (withSbufs body) .fresh).Returned := by
  have unfolded : ∀ data reply s₀ s₁,
      run (Buffers.serve answers) (perform .hdfSbufTypedObtain) .fresh = (data,s₀) →
      run (Buffers.serve answers) (perform .hdfSbufTypedObtain) s₀ = (reply,s₁) →
      (final answers (withSbufs body) .fresh).obtained = s₁.obtained ∧
        ∀ b, (final answers (withSbufs body) .fresh).recycled b = s₁.recycled b +
          (if reply = some b then 1 else 0) + if data = some b then 1 else 0 := by
    intro data reply s₀ s₁ first second
    have given := final_given answers (body data reply) (quiet data reply) reply data s₁
    unfold withSbufs final
    rw [run_bind,first,run_bind,second]
    exact given
  rcases final_obtain answers .fresh with ⟨_,first⟩ | ⟨_,first⟩
  · rcases final_obtain answers ⟨1,0,fun _ => 0⟩ with ⟨_,second⟩ | ⟨_,second⟩
    · obtain ⟨obtained,_⟩ := unfolded _ _ _ _ first second
      intro b inside
      rw [obtained] at inside
      cases inside
    · obtain ⟨obtained,recycled⟩ := unfolded _ _ _ _ first second
      intro b inside
      rw [obtained] at inside
      obtain rfl : b = 0 := Nat.lt_one_iff.mp inside
      rw [recycled]
      rfl
  · rcases final_obtain answers ⟨1,1,fun _ => 0⟩ with ⟨_,second⟩ | ⟨_,second⟩
    · obtain ⟨obtained,recycled⟩ := unfolded _ _ _ _ first second
      intro b inside
      rw [obtained] at inside
      obtain rfl : b = 0 := Nat.lt_one_iff.mp inside
      rw [recycled]
      rfl
    · obtain ⟨obtained,recycled⟩ := unfolded _ _ _ _ first second
      intro b inside
      rw [obtained] at inside
      rw [recycled]
      rcases Nat.lt_succ_iff_lt_or_eq.mp inside with below | rfl
      · obtain rfl : b = 0 := Nat.lt_one_iff.mp below
        rfl
      · rfl

theorem quiet_serviceManagerHdiCall (client : Client) (code : RequestCode) (data : Nat)
    (reply : Option Nat) : Quiet (serviceManagerHdiCall client code data reply) := by
  unfold serviceManagerHdiCall
  split
  · exact quiet_pure _
  · exact quiet_ite _ _ _ (quiet_pure _) (quiet_perform _ rfl)

theorem quiet_deviceManagerHdiCall (client : Client) (code : RequestCode) (data : Nat)
    (reply : Option Nat) : Quiet (deviceManagerHdiCall client code data reply) := by
  unfold deviceManagerHdiCall
  split
  · exact quiet_pure _
  · exact quiet_ite _ _ _ (quiet_pure _) (quiet_perform _ rfl)

theorem quiet_writeServiceInfo (data : Nat) (svcName : String) (devClass : UInt16)
    (service : HdfDeviceObject) (servInfo : Option String) :
    Quiet (writeServiceInfo data svcName devClass service servInfo) := by
  apply quiet_bind _ _ (quiet_perform _ rfl)
  intro named
  apply quiet_ite _ _ _ (quiet_pure _)
  apply quiet_bind _ _ (quiet_perform _ rfl)
  intro classed
  apply quiet_ite _ _ _ (quiet_pure _)
  split
  · exact quiet_pure _
  · apply quiet_bind _ _ (quiet_perform _ rfl)
    intro written
    apply quiet_ite _ _ _ (quiet_pure _)
    apply quiet_bind _ _ (quiet_perform _ rfl)
    exact fun described => quiet_ite _ _ _ (quiet_pure _) (quiet_pure _)

theorem quiet_token {α : Type} (remote : Option HdfRemoteService) (data : Nat) (refused : α)
    (rest : RequestM α) (quiet : Quiet rest) :
    Quiet (do
      if !(← perform (.hdfRemoteServiceWriteInterfaceToken remote data)) then return refused
      else rest) := by
  apply quiet_bind _ _ (quiet_perform _ rfl)
  exact fun written => quiet_ite _ _ _ (quiet_pure _) quiet

theorem getService_returned (iServMgr : Option Client) (serviceName : Option String) :
    (final answers (hdiServMgrGetService iServMgr serviceName) .fresh).Returned := by
  unfold hdiServMgrGetService
  split
  · apply withSbufs_returned
    intro data reply
    split
    · apply quiet_token
      apply quiet_bind _ _ (quiet_perform _ rfl)
      intro named
      apply quiet_ite _ _ _ (quiet_pure _)
      apply quiet_bind _ _ (quiet_serviceManagerHdiCall _ _ _ _)
      exact fun status => quiet_ite _ _ _ (quiet_perform _ rfl) (quiet_pure _)
    · exact quiet_pure _
  · exact fun _ inside => absurd inside (Nat.not_lt_zero _)

theorem sendServiceInfo_returned (code : RequestCode) (deviceClassMax : UInt16)
    (inst : Option Client) (svcName : Option String) (devClass : UInt16)
    (service : Option HdfDeviceObject) (servInfo : Option String) :
    (final answers (sendServiceInfo code deviceClassMax inst svcName devClass service servInfo)
      .fresh).Returned := by
  have untouched : Buffers.fresh.Returned := fun _ inside => absurd inside (Nat.not_lt_zero _)
  unfold sendServiceInfo
  split
  · split
    · exact untouched
    · split
      · exact untouched
      · apply withSbufs_returned
        intro data reply
        split
        · apply quiet_token
          apply quiet_bind _ _ (quiet_writeServiceInfo _ _ _ _ _)
          exact fun written => quiet_ite _ _ _ (quiet_pure _) (quiet_perform _ rfl)
        · exact quiet_pure _
  · exact untouched

theorem proxyGetService_returned (inst : Client) (svcName : String) :
    (final answers (devSvcManagerProxyGetService inst svcName) .fresh).Returned := by
  apply withSbufs_returned
  intro data reply
  split
  · apply quiet_token
    apply quiet_bind _ _ (quiet_perform _ rfl)
    intro named
    apply quiet_ite _ _ _ (quiet_pure _)
    apply quiet_bind _ _ (quiet_perform _ rfl)
    exact fun status => quiet_ite _ _ _ (quiet_perform _ rfl) (quiet_pure _)
  · exact quiet_pure _

theorem removeService_returned (inst : Option Client) (svcName : Option String) :
    (final answers (devSvcManagerProxyRemoveService inst svcName) .fresh).Returned := by
  unfold devSvcManagerProxyRemoveService
  split
  · apply withSbufs_returned
    intro data reply
    split
    · apply quiet_token
      apply quiet_bind _ _ (quiet_perform _ rfl)
      intro named
      apply quiet_ite _ _ _ (quiet_pure _)
      exact quiet_bind _ _ (quiet_perform _ rfl) fun _ => quiet_pure _
    · exact quiet_pure _
  · exact fun _ inside => absurd inside (Nat.not_lt_zero _)

theorem quiet_queryBody (iDevMgr : Client) (type : Int32) (reply data : Nat) :
    Quiet (devmgrQueryDeviceInfo.devmgrQueryBody iDevMgr type reply data) := by
  apply quiet_token
  apply quiet_bind _ _ (quiet_perform _ rfl)
  intro _
  apply quiet_bind _ _ (quiet_deviceManagerHdiCall _ _ _ _)
  exact fun ret => quiet_ite _ _ _ (quiet_pure _) (quiet_perform _ rfl)

theorem query_returned (iDevMgr : Client) (type : Int32) :
    (final answers (devmgrQueryDeviceInfo iDevMgr type) .fresh).Returned := by
  unfold devmgrQueryDeviceInfo final
  rw [run_bind]
  rcases final_obtain answers .fresh with ⟨_,first⟩ | ⟨_,first⟩
  · rw [first]
    exact fun _ inside => absurd inside (Nat.not_lt_zero _)
  · rw [first]
    dsimp only
    rw [run_bind]
    rcases final_obtain answers ⟨Buffers.fresh.calls + 1,Buffers.fresh.obtained + 1,
      Buffers.fresh.recycled⟩ with ⟨_,second⟩ | ⟨_,second⟩
    · rw [second]
      intro b inside
      obtain rfl : b = 0 := Nat.lt_one_iff.mp inside
      rfl
    · rw [second]
      obtain ⟨obtained,recycled⟩ := final_given answers _ (quiet_queryBody iDevMgr type 0 1)
        (some 0) (some 1) ⟨2,2,fun _ => 0⟩
      intro b inside
      have two : b < 2 := lt_of_lt_of_eq inside obtained
      refine (recycled b).trans ?_
      rcases Nat.lt_succ_iff_lt_or_eq.mp two with below | rfl
      · obtain rfl : b = 0 := Nat.lt_one_iff.mp below
        rfl
      · rfl

theorem kept_unreturned (calls : Nat) : ¬ Buffers.Returned ⟨calls,1,fun _ => 0⟩ := by
  intro returned
  have once := returned 0 Nat.zero_lt_one
  contradiction

/-- A request that holds a buffer and gives up keeps it. -/
theorem refused_returned_iff {α β : Type} (p : RequestM β) (refuses : β → Prop)
    [DecidablePred refuses] (refused : α) (rest : RequestM α) (calls later : Nat) (value : β)
    (ran : run (Buffers.serve answers) p ⟨calls,1,fun _ => 0⟩ = (value,⟨later,1,fun _ => 0⟩)) :
    (final answers (p >>= fun r => if refuses r then return refused else rest)
      ⟨calls,1,fun _ => 0⟩).Returned ↔
    ¬ refuses value ∧ (final answers rest ⟨later,1,fun _ => 0⟩).Returned := by
  unfold final
  rw [run_bind,ran,run_ite]
  split
  next gone => exact iff_of_false (kept_unreturned later) fun both => both.1 gone
  next going => exact (and_iff_right going).symm

theorem call_returned (servMgrClient : Client) (code : RequestCode) (calls : Nat) :
    (final answers (do
      let ret ← serviceManagerHdiCall servMgrClient code 0 none
      perform (.hdfSbufRecycle 0)
      return ret) ⟨calls,1,fun _ => 0⟩).Returned := by
  obtain ⟨obtained,recycled⟩ := final_given answers _
    (quiet_serviceManagerHdiCall servMgrClient code 0 none) (some 0) none ⟨calls,1,fun _ => 0⟩
  intro b inside
  obtain rfl : b = 0 := Nat.lt_one_iff.mp (lt_of_lt_of_eq inside obtained)
  exact recycled 0

theorem marshalling_returned_iff (listener : ServiceStatusListener) (servMgrClient : Client)
    (code : RequestCode) (calls : Nat) :
    (final answers (do
      if (← serviceStatusListenerMarshalling listener 0) ≠ hdfSuccess then return hdfFailure
      else
        let ret ← serviceManagerHdiCall servMgrClient code 0 none
        perform (.hdfSbufRecycle 0)
        return ret) ⟨calls,1,fun _ => 0⟩).Returned ↔
    ∃ remote, listener.remote = some remote ∧
      answers calls (.hdfSbufWriteRemoteService 0 remote) = hdfSuccess := by
  cases present : listener.remote with
  | none =>
    have ran : run (Buffers.serve answers) (serviceStatusListenerMarshalling listener 0)
        ⟨calls,1,fun _ => 0⟩ = (hdfErrInvalidObject,⟨calls,1,fun _ => 0⟩) := by
      simp [serviceStatusListenerMarshalling,present]
    rw [refused_returned_iff answers _ _ _ _ _ _ _ ran]
    simp [hdfErrInvalidObject,hdfSuccess]
  | some remote =>
    have ran : run (Buffers.serve answers) (serviceStatusListenerMarshalling listener 0)
        ⟨calls,1,fun _ => 0⟩ =
          (answers calls (.hdfSbufWriteRemoteService 0 remote),⟨calls + 1,1,fun _ => 0⟩) := by
      simp [serviceStatusListenerMarshalling,present,perform,Program.call,Buffers.serve]
    rw [refused_returned_iff answers _ _ _ _ _ _ _ ran,
      and_iff_left (call_returned answers servMgrClient code _)]
    simp

theorem holding_returned_iff {α : Type} (failed : α) (rest : Nat → RequestM α) :
    (final answers (do
      match ← perform .hdfSbufTypedObtain with
      | none => return failed
      | some data => rest data) .fresh).Returned ↔
    answers 0 .hdfSbufTypedObtain = none ∨
      (final answers (rest 0) ⟨1,1,fun _ => 0⟩).Returned := by
  unfold final
  rw [run_bind]
  rcases final_obtain answers .fresh with ⟨none,obtained⟩ | ⟨some,obtained⟩
  · rw [obtained]
    exact iff_of_true (fun _ inside => absurd inside (Nat.not_lt_zero _)) (.inl none)
  · rw [obtained]
    exact (or_iff_right some).symm

theorem token_returned_iff {α : Type} (remote : Option HdfRemoteService) (refused : α)
    (rest : RequestM α) : (final answers (do
      if !(← perform (.hdfRemoteServiceWriteInterfaceToken remote 0)) then return refused
      else rest) ⟨1,1,fun _ => 0⟩).Returned ↔
    answers 1 (.hdfRemoteServiceWriteInterfaceToken remote 0) = true ∧
      (final answers rest ⟨2,1,fun _ => 0⟩).Returned := by
  refine (refused_returned_iff answers (perform (.hdfRemoteServiceWriteInterfaceToken remote 0))
    (fun ok => (!ok) = true) refused rest 1 2 _ rfl).trans (and_congr_left fun _ => ?_)
  simp [Buffers.serve]

theorem register_returned_iff (servMgrClient : Client) (listener : ServiceStatusListener)
    (deviceClass : UInt16) :
    (final answers (hdiServMgrRegisterServiceStatusListener (some servMgrClient) (some listener)
      deviceClass) .fresh).Returned ↔
    (Request.hdiServMgrRegisterServiceStatusListener (some servMgrClient) (some listener)
      deviceClass).Recycles answers := by
  refine (holding_returned_iff answers _ _).trans (or_congr Iff.rfl ?_)
  refine (token_returned_iff answers servMgrClient.remote _ _).trans (and_congr Iff.rfl ?_)
  refine (refused_returned_iff answers (perform (.hdfSbufWriteUint16 0 deviceClass))
    (fun ok => (!ok) = true) _ _ 2 3 _ rfl).trans ?_
  refine and_congr ?_ (marshalling_returned_iff answers listener servMgrClient _ 3)
  simp [Buffers.serve]

theorem unregister_returned_iff (servMgrClient : Client) (listener : ServiceStatusListener) :
    (final answers (hdiServMgrUnregisterServiceStatusListener (some servMgrClient) (some listener))
      .fresh).Returned ↔
    (Request.hdiServMgrUnregisterServiceStatusListener (some servMgrClient)
      (some listener)).Recycles answers := by
  refine (holding_returned_iff answers _ _).trans (or_congr Iff.rfl ?_)
  refine (token_returned_iff answers servMgrClient.remote _ _).trans (and_congr Iff.rfl ?_)
  exact marshalling_returned_iff answers listener servMgrClient _ 2

/-- A notification returns its buffer only when it gives up before it is dispatched. -/
theorem notify_returned_iff (listenerRemote : HdfRemoteService) :
    (final answers (uServStatListenerHolderNotifyStatus (some ⟨some listenerRemote⟩) true)
      .fresh).Returned ↔
    (Request.uServStatListenerHolderNotifyStatus (some ⟨some listenerRemote⟩) true).Recycles
      answers := by
  refine (holding_returned_iff answers _ _).trans (or_congr Iff.rfl ?_)
  have recycled : ∀ calls, Buffers.Returned ⟨calls,1,Function.update (fun _ => 0) 0 1⟩ := by
    intro calls b inside
    obtain rfl : b = 0 := Nat.lt_one_iff.mp inside
    rfl
  cases token : answers 1 (.hdfRemoteServiceWriteInterfaceToken (some listenerRemote) 0) with
  | false =>
    refine iff_of_true ?_ (.inl rfl)
    simpa [final,perform,Program.call,Buffers.serve,token] using recycled 3
  | true =>
    by_cases marshalled : answers 2 (.serviceStatusMarshalling 0) = hdfSuccess
    · refine iff_of_false ?_ (by simp [marshalled])
      by_cases sent : answers 3 (.dispatchAsync listenerRemote .servieStatusListenerNotify 0) = hdfSuccess
      · simpa [final,perform,Program.call,Buffers.serve,token,marshalled,sent] using kept_unreturned 4
      · simpa [final,perform,Program.call,Buffers.serve,token,marshalled,sent] using kept_unreturned 4
    · refine iff_of_true ?_ (.inr marshalled)
      simpa [final,perform,Program.call,Buffers.serve,token,marshalled] using recycled 4

/-- Every buffer that a request obtains has been recycled once when it returns, but for the
listeners' requests that fail to write and the notifications that are dispatched. -/
theorem requests_recycle_iff (deviceClassMax : UInt16) (request : Request) :
    (request.buffers answers deviceClassMax).Returned ↔ request.Recycles answers := by
  have untouched : Buffers.fresh.Returned := fun _ inside => absurd inside (Nat.not_lt_zero _)
  cases request with
  | hdiServMgrGetService iServMgr serviceName =>
    exact iff_of_true (getService_returned answers iServMgr serviceName) trivial
  | hdiServMgrRegisterServiceStatusListener self listener deviceClass =>
    cases self with
    | none => exact iff_of_true untouched trivial
    | some servMgrClient =>
      cases listener with
      | none => exact iff_of_true untouched trivial
      | some listener => exact register_returned_iff answers servMgrClient listener deviceClass
  | hdiServMgrUnregisterServiceStatusListener self listener =>
    cases self with
    | none => exact iff_of_true untouched trivial
    | some servMgrClient =>
      cases listener with
      | none => exact iff_of_true untouched trivial
      | some listener => exact unregister_returned_iff answers servMgrClient listener
  | devmgrQueryDeviceInfo iDevMgr type =>
    exact iff_of_true (query_returned answers iDevMgr type) trivial
  | devSvcManagerProxyAddService inst svcName devClass service servInfo =>
    exact iff_of_true (sendServiceInfo_returned answers _ deviceClassMax inst svcName devClass
      service servInfo) trivial
  | devSvcManagerProxyUpdateService inst svcName devClass service servInfo =>
    exact iff_of_true (sendServiceInfo_returned answers _ deviceClassMax inst svcName devClass
      service servInfo) trivial
  | devSvcManagerProxyGetService inst svcName =>
    exact iff_of_true (proxyGetService_returned answers inst svcName) trivial
  | devSvcManagerProxyRemoveService inst svcName =>
    exact iff_of_true (removeService_returned answers inst svcName) trivial
  | uServStatListenerHolderNotifyStatus holder status =>
    cases holder with
    | none => exact iff_of_true untouched trivial
    | some holderInst =>
      obtain ⟨remote⟩ := holderInst
      cases remote with
      | none => cases status <;> exact iff_of_true untouched trivial
      | some listenerRemote =>
        cases status with
        | false => exact iff_of_true untouched trivial
        | true => exact notify_returned_iff answers listenerRemote

end Run

private def granted (_ : Nat) : (op : RequestOp) → op.Res
  | .hdfSbufTypedObtain => some 0
  | .hdfSbufRecycle _ => ()
  | .hdfRemoteServiceWriteInterfaceToken _ _ | .hdfSbufWriteString _ _ | .hdfSbufWriteUint16 _ _
  | .hdfSbufWriteInt32 _ _ => true
  | .hdfSbufReadRemoteService _ => none
  | .hdfSbufWriteRemoteService _ _ | .serviceStatusMarshalling _ | .dispatch _ _ _ _
  | .dispatchAsync _ _ _ | .hdfObtainDeviceInfo _ => hdfSuccess

theorem requests_leak_notified :
    ¬ ∀ answers deviceClassMax, ∀ request : Request,
      (request.buffers answers deviceClassMax).Returned := by
  intro returned
  exact kept_unreturned 4
    (returned granted 0 (.uServStatListenerHolderNotifyStatus (some ⟨some ⟨7,true⟩⟩) true))

end DriversAdapter.Ipc
