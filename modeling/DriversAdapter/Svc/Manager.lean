import DriversAdapter.Base.Word
import DriversAdapter.Semantics.Program
import Mathlib.Logic.Function.Basic

/-! What the device service manager stub works on: the core service manager behind its
table of functions, the objects, remotes and listener holders that the stub allocates,
and the operations its handlers are made of. -/
namespace DriversAdapter.Svc
open DriversAdapter.Base DriversAdapter.Semantics

abbrev ObjectId := Nat
abbrev RemoteId := Nat
abbrev HolderId := Nat

/-- The functions of the core service manager, which is no part of this repository, over
a state of its own. `GetService` reads the object it finds. -/
structure IDevSvcManager (κ : Type) where
  getObject : String → κ → Option ObjectId
  getService : String → (ObjectId → Option RemoteId) → κ → Option RemoteId
  addService : String → UInt16 → ObjectId → Option String → κ → Int × κ
  updateService : String → UInt16 → ObjectId → Option String → κ → Int × κ
  removeService : String → κ → κ
  regsterServListener : HolderId → κ → Int × κ
  unregsterServListener : HolderId → κ → κ
  listeners : κ → List HolderId

namespace IDevSvcManager

/-- What the stub relies on: a success replaces the entry of that name and a failure
leaves the registry as it is. -/
structure Lawful {κ : Type} (core : IDevSvcManager κ) : Prop where
  added : ∀ name devClass o info k, (core.addService name devClass o info k).1 = hdfSuccess →
    ∀ other, core.getObject other (core.addService name devClass o info k).2 =
      if other = name then some o else core.getObject other k
  not_added : ∀ name devClass o info k, (core.addService name devClass o info k).1 ≠ hdfSuccess →
    ∀ other, core.getObject other (core.addService name devClass o info k).2 =
      core.getObject other k
  updated : ∀ name devClass o info k,
    (core.updateService name devClass o info k).1 = hdfSuccess →
      ∀ other, core.getObject other (core.updateService name devClass o info k).2 =
        if other = name then some o else core.getObject other k
  not_updated : ∀ name devClass o info k,
    (core.updateService name devClass o info k).1 ≠ hdfSuccess →
      ∀ other, core.getObject other (core.updateService name devClass o info k).2 =
        core.getObject other k
  removed : ∀ name k other, core.getObject other (core.removeService name k) =
    if other = name then none else core.getObject other k
  found : ∀ name service k, core.getService name service k = (core.getObject name k).bind service
  registered : ∀ h k, (core.regsterServListener h k).1 = hdfSuccess →
    h ∈ core.listeners (core.regsterServListener h k).2
  not_registered : ∀ h k, (core.regsterServListener h k).1 ≠ hdfSuccess →
    core.listeners (core.regsterServListener h k).2 = core.listeners k
  regster_object : ∀ h k other,
    core.getObject other (core.regsterServListener h k).2 = core.getObject other k
  unregster_object : ∀ h k other,
    core.getObject other (core.unregsterServListener h k) = core.getObject other k

end IDevSvcManager

/-- A registry that keeps what it is given. -/
structure Registry where
  entry : String → Option ObjectId
  listening : List HolderId

namespace Registry

def empty : Registry := ⟨fun _ => none,[]⟩

def manager : IDevSvcManager Registry where
  getObject name k := k.entry name
  getService name service k := (k.entry name).bind service
  addService name _ o _ k := (hdfSuccess,{k with entry := Function.update k.entry name (some o)})
  updateService name _ o _ k := match k.entry name with
    | none => (hdfDevErrNoDeviceService,k)
    | some _ => (hdfSuccess,{k with entry := Function.update k.entry name (some o)})
  removeService name k := {k with entry := Function.update k.entry name none}
  regsterServListener h k := (hdfSuccess,{k with listening := h :: k.listening})
  unregsterServListener h k := {k with listening := k.listening.filter (· ≠ h)}
  listeners := listening

theorem manager_lawful : manager.Lawful where
  added name devClass o info k _ other := Function.update_apply _ _ _ _
  not_added name devClass o info k failed := absurd rfl failed
  updated name devClass o info k ok other := by
    unfold manager at *
    dsimp only at *
    split at ok
    next =>
      have refused : hdfDevErrNoDeviceService = hdfSuccess := ok
      exact absurd refused (by decide)
    next => exact Function.update_apply _ _ _ _
  not_updated name devClass o info k failed other := by
    unfold manager at *
    dsimp only at *
    split at failed
    next => rfl
    next => exact absurd rfl failed
  removed name k other := Function.update_apply _ _ _ _
  found _ _ _ := rfl
  registered _ _ _ := List.mem_cons_self
  not_registered _ _ failed := absurd rfl failed
  regster_object _ _ _ := rfl
  unregster_object _ _ _ := rfl

end Registry

structure HdfDeviceObject where
  priv : Option String
  service : Option RemoteId
  deriving DecidableEq

structure HdfRemoteService where
  index : UInt64
  target : Option ObjectId
  watched : Bool
  deriving DecidableEq

structure UServStatListenerHolder where
  id : HolderId
  listenClass : UInt16
  index : UInt64
  listenerRemote : RemoteId
  deriving DecidableEq

/-- The memory of the stub. Identities are given out in order; `released` and `recycled`
count how often an object or a remote has been freed. -/
structure StubState (κ : Type) where
  core : κ
  object : ObjectId → HdfDeviceObject
  objectCount : Nat
  released : ObjectId → Nat
  remote : RemoteId → HdfRemoteService
  remoteCount : Nat
  recycled : RemoteId → Nat
  holoderList : List UServStatListenerHolder
  holderCount : Nat
  reply : List RemoteId

/-- How the calls end that can fail. -/
structure Outcomes where
  permitted : Bool
  objectCalloc : Bool
  nameCopy : Bool
  holderCalloc : Bool
  setInterfaceDesc : Bool
  writeRemote : Bool

namespace Outcomes

def granting : Outcomes := ⟨true,true,true,true,true,true⟩

def obtains (out : Outcomes) : Bool := out.objectCalloc && out.nameCopy

def creates (out : Outcomes) : Bool := out.holderCalloc && out.setInterfaceDesc

end Outcomes

namespace StubState

variable {κ : Type}

def starting (core : κ) : StubState κ :=
  ⟨core,fun _ => ⟨none,none⟩,0,fun _ => 0,fun _ => ⟨0,none,false⟩,0,fun _ => 0,[],0,[]⟩

/-- `HdfRemoteAdapterBind` makes a new remote for every object read from a parcel. -/
def readRemoteService (binder : Option UInt64) (s : StubState κ) : Option RemoteId × StubState κ :=
  match binder with
  | none => (none,s)
  | some index =>
    (some s.remoteCount,{s with
      remote := Function.update s.remote s.remoteCount ⟨index,none,false⟩
      remoteCount := s.remoteCount + 1})

def obtainServiceObject (out : Outcomes) (name : String) (service : RemoteId) (s : StubState κ) :
    Option ObjectId × StubState κ :=
  if out.objectCalloc = false then (none,s)
  -- the object that has no name is freed again
  else if out.nameCopy = false then (none,s)
  else
    (some s.objectCount,{s with
      object := Function.update s.object s.objectCount ⟨some name,some service⟩
      objectCount := s.objectCount + 1
      remote := Function.update s.remote service
        {s.remote service with target := some s.objectCount, watched := true}})

def recycle (r : RemoteId) (s : StubState κ) : StubState κ :=
  {s with recycled := Function.update s.recycled r (s.recycled r + 1)}

/-- The end of `ReleaseServiceObject`, once the object is known to have a name. -/
def freeServiceObject (o : ObjectId) (s : StubState κ) : StubState κ :=
  let freed : StubState κ := {s with
    object := Function.update s.object o ⟨none,none⟩
    released := Function.update s.released o (s.released o + 1)}
  match (s.object o).service with
  | none => freed
  | some r =>
    {freed with remote := Function.update s.remote r {s.remote r with watched := false}}.recycle r

def servStatListenerHolderCreate (out : Outcomes) (listener : RemoteId) (listenClass : UInt16)
    (s : StubState κ) : Option HolderId × StubState κ :=
  if out.holderCalloc = false then (none,s)
  -- the holder is freed again
  else if out.setInterfaceDesc = false then (none,s)
  else
    (some s.holderCount,{s with
      holoderList := s.holoderList ++
        [⟨s.holderCount,listenClass,(s.remote listener).index,listener⟩]
      holderCount := s.holderCount + 1})

def servStatListenerHolderGet (index : UInt64) (s : StubState κ) : Option HolderId :=
  (s.holoderList.find? (fun it => it.index = index)).map UServStatListenerHolder.id

def servStatListenerHolderRelease (h : HolderId) (s : StubState κ) : StubState κ :=
  match s.holoderList.find? (fun it => it.id = h) with
  | none => s
  | some holder =>
    {s with holoderList := s.holoderList.filter (fun it => it.id ≠ h)}.recycle holder.listenerRemote

end StubState

/-- The operations of a handler. Each call into the core service manager is one step. -/
inductive StubOp
  | permCheck
  | readRemoteService (binder : Option UInt64)
  | writeRemoteService (service : RemoteId)
  | obtainServiceObject (name : String) (service : RemoteId)
  | readPriv (o : ObjectId)
  | readTarget (r : RemoteId)
  | freeServiceObject (o : ObjectId)
  | recycle (r : RemoteId)
  | getObject (name : String)
  | getService (name : String)
  | addService (name : String) (devClass : UInt16) (o : ObjectId) (info : Option String)
  | updateService (name : String) (devClass : UInt16) (o : ObjectId) (info : Option String)
  | removeService (name : String)
  | holderCreate (listener : RemoteId) (listenClass : UInt16)
  | holderGet (listener : RemoteId)
  | holderRelease (h : HolderId)
  | regsterServListener (h : HolderId)
  | unregsterServListener (h : HolderId)

@[reducible] def StubOp.Res : StubOp → Type
  | .permCheck => Int
  | .readRemoteService _ => Option RemoteId
  | .writeRemoteService _ => Bool
  | .obtainServiceObject _ _ => Option ObjectId
  | .readPriv _ => Option String
  | .readTarget _ => Option ObjectId
  | .freeServiceObject _ => Unit
  | .recycle _ => Unit
  | .getObject _ => Option ObjectId
  | .getService _ => Option RemoteId
  | .addService _ _ _ _ => Int
  | .updateService _ _ _ _ => Int
  | .removeService _ => Unit
  | .holderCreate _ _ => Option HolderId
  | .holderGet _ => Option HolderId
  | .holderRelease _ => Unit
  | .regsterServListener _ => Int
  | .unregsterServListener _ => Unit

abbrev StubM := Program StubOp StubOp.Res

variable {κ : Type}

def serve (core : IDevSvcManager κ) (out : Outcomes) :
    (op : StubOp) → StubState κ → op.Res × StubState κ
  | .permCheck, s => (if out.permitted then hdfSuccess else hdfErrNoPerm,s)
  | .readRemoteService binder, s => s.readRemoteService binder
  | .writeRemoteService service, s =>
    (out.writeRemote,if out.writeRemote then {s with reply := s.reply ++ [service]} else s)
  | .obtainServiceObject name service, s => s.obtainServiceObject out name service
  | .readPriv o, s => ((s.object o).priv,s)
  | .readTarget r, s => ((s.remote r).target,s)
  | .freeServiceObject o, s => ((),s.freeServiceObject o)
  | .recycle r, s => ((),s.recycle r)
  | .getObject name, s => (core.getObject name s.core,s)
  | .getService name, s => (core.getService name (fun o => (s.object o).service) s.core,s)
  | .addService name devClass o info, s =>
    ((core.addService name devClass o info s.core).1,
      {s with core := (core.addService name devClass o info s.core).2})
  | .updateService name devClass o info, s =>
    ((core.updateService name devClass o info s.core).1,
      {s with core := (core.updateService name devClass o info s.core).2})
  | .removeService name, s => ((),{s with core := core.removeService name s.core})
  | .holderCreate listener listenClass, s => s.servStatListenerHolderCreate out listener listenClass
  | .holderGet listener, s => (s.servStatListenerHolderGet (s.remote listener).index,s)
  | .holderRelease h, s => ((),s.servStatListenerHolderRelease h)
  | .regsterServListener h, s =>
    ((core.regsterServListener h s.core).1,{s with core := (core.regsterServListener h s.core).2})
  | .unregsterServListener h, s => ((),{s with core := core.unregsterServListener h s.core})

end DriversAdapter.Svc
