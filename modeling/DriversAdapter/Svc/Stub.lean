import DriversAdapter.Svc.Manager

/-! The handlers of the device service manager stub, and its death callback. -/
namespace DriversAdapter.Svc
open DriversAdapter.Base DriversAdapter.Semantics

/-- What the reads of a request find in its parcel, in the order they are made. -/
structure Parcel where
  interfaceToken : Bool
  name : Option String
  devClass : Option UInt16
  remote : Option UInt64
  servInfo : Option String

def Parcel.sample : Parcel := ⟨true,some "sample",some 1,some 77,none⟩

inductive RequestCode
  | addService
  | updateService
  | getService
  | removeService
  | registerServListener
  | unregisterServListener
  deriving DecidableEq

namespace DevSvcManagerStub

/-- `super->…` and the other operations as programs. -/
def perform (op : StubOp) : StubM op.Res := Program.call op

def releaseServiceObject : Option ObjectId → StubM Unit
  | none => return ()
  | some serviceObject => do
    match ← perform (.readPriv serviceObject) with
    | none => return ()
    | some _ => perform (.freeServiceObject serviceObject)

/-- The head of `AddService` and `UpdateService`, up to the remote of the service. -/
def readService (data : Parcel) (next : String → UInt16 → RemoteId → StubM Int) : StubM Int :=
  if data.interfaceToken = false then
    return hdfErrInvalidParam
  else match data.name with
  | none => return hdfFailure
  | some name => do
    let ret ← perform .permCheck
    if ret ≠ hdfSuccess then
      return ret
    else match data.devClass with
    | none => return ret
    | some devClass => do
      match ← perform (.readRemoteService data.remote) with
      | none => return ret
      | some service => next name devClass service

/-- The end of both: the object that is no longer registered is released. -/
def releaseOther (ret : Int) (serviceObject : ObjectId) (oldServiceObject : Option ObjectId) :
    StubM Int := do
  if ret ≠ hdfSuccess then
    releaseServiceObject (some serviceObject)
    return ret
  else
    releaseServiceObject oldServiceObject
    return ret

def addService (data : Parcel) : StubM Int :=
  readService data fun name devClass service => do
    match ← perform (.obtainServiceObject name service) with
    | none => return hdfErrMallocFail
    | some serviceObject =>
      let oldServiceObject ← perform (.getObject name)
      let ret ← perform (.addService name devClass serviceObject data.servInfo)
      releaseOther ret serviceObject oldServiceObject

def updateService (data : Parcel) : StubM Int :=
  readService data fun name devClass service => do
    match ← perform (.getObject name) with
    | none => return hdfDevErrNoDeviceService
    | some oldServiceObject =>
      match ← perform (.obtainServiceObject name service) with
      | none => return hdfErrMallocFail
      | some serviceObject =>
        let ret ← perform (.updateService name devClass serviceObject data.servInfo)
        releaseOther ret serviceObject (some oldServiceObject)

def getService (data : Parcel) : StubM Int :=
  if data.interfaceToken = false then
    return hdfErrInvalidParam
  else match data.name with
  | none => return hdfFailure
  | some name => do
    let ret ← perform .permCheck
    if ret ≠ hdfSuccess then
      return ret
    else
      match ← perform (.getService name) with
      | none => return ret
      | some remoteService =>
        let _ ← perform (.writeRemoteService remoteService)
        return hdfSuccess

def removeService (data : Parcel) : StubM Int :=
  if data.interfaceToken = false then
    return hdfErrInvalidParam
  else match data.name with
  | none => return hdfFailure
  | some name => do
    let ret ← perform .permCheck
    if ret ≠ hdfSuccess then
      return ret
    else
      match ← perform (.getObject name) with
      | none => return hdfDevErrNoDeviceService
      | some serviceObject =>
        match ← perform (.readPriv serviceObject) with
        | none => return hdfErrInvalidObject
        | some servName =>
          if name ≠ servName then
            return hdfErrInvalidObject
          else
            perform (.removeService name)
            releaseServiceObject (some serviceObject)
            return hdfSuccess

def registerServListener (data : Parcel) : StubM Int :=
  if data.interfaceToken = false then
    return hdfErrInvalidParam
  else match data.devClass with
  | none => return hdfErrInvalidParam
  | some listenClass => do
    match ← perform (.readRemoteService data.remote) with
    | none => return hdfErrInvalidParam
    | some listenerRemote =>
      match ← perform (.holderCreate listenerRemote listenClass) with
      | none => return hdfErrMallocFail
      | some listenerHolder =>
        let ret ← perform (.regsterServListener listenerHolder)
        if ret ≠ hdfSuccess then
          perform (.holderRelease listenerHolder)
          return hdfSuccess
        else
          return hdfSuccess

def unregisterServListener (data : Parcel) : StubM Int :=
  if data.interfaceToken = false then
    return hdfErrInvalidParam
  else do
    match ← perform (.readRemoteService data.remote) with
    | none => return hdfErrInvalidParam
    | some listenerRemote =>
      match ← perform (.holderGet listenerRemote) with
      | none =>
        perform (.recycle listenerRemote)
        return hdfErrInvalidObject
      | some listenerHolder =>
        perform (.unregsterServListener listenerHolder)
        perform (.holderRelease listenerHolder)
        perform (.recycle listenerRemote)
        return hdfSuccess

def dispatch (code : RequestCode) (data : Parcel) : StubM Int :=
  match code with
  | .addService => addService data
  | .updateService => updateService data
  | .getService => getService data
  | .removeService => removeService data
  | .registerServListener => registerServListener data
  | .unregisterServListener => unregisterServListener data

/-- `DevSvcManagerOnServiceDied`. -/
def onServiceDied (remote : RemoteId) : StubM Unit := do
  match ← perform (.readTarget remote) with
  | none => return ()
  | some serviceObject =>
    match ← perform (.readPriv serviceObject) with
    | none => return ()
    | some serviceName =>
      let service ← perform (.getService serviceName)
      if service = some remote then
        perform (.removeService serviceName)
        releaseServiceObject (some serviceObject)
      else
        releaseServiceObject (some serviceObject)

def respond {κ : Type} (core : IDevSvcManager κ) (out : Outcomes) (code : RequestCode)
    (data : Parcel) (s : StubState κ) : Int × StubState κ :=
  (dispatch code data).run (serve core out) s

end DevSvcManagerStub

end DriversAdapter.Svc
