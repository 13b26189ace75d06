import DriversAdapter.Ipc.Parcel

/-! The registry of the device manager: hosts, the devices they run and the devices that
are configured for them and not loaded. -/
namespace DriversAdapter.Devmgr
open DriversAdapter.Ipc

inductive HdfDeviceType
  | localService
  | remoteService
  deriving DecidableEq

/-- `none` is a service name that is the null pointer. -/
structure HdfDeviceInfo where
  svcName : Option CString
  policy : UInt16
  status : UInt16
  deviceType : HdfDeviceType
  deriving DecidableEq

structure DeviceTokenClnt where
  deviceInfo : HdfDeviceInfo
  deriving DecidableEq

/-- The proxy of a host's process is known by its number. -/
abbrev ProxyId := Nat

structure DevHostServiceClnt where
  hostId : UInt32
  hostName : String
  hostPid : Int
  hostService : Option ProxyId
  devices : List DeviceTokenClnt
  unloadDevInfos : List HdfDeviceInfo
  stopFlag : Bool
  deriving DecidableEq

end DriversAdapter.Devmgr
