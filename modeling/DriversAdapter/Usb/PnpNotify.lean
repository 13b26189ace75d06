import DriversAdapter.Base.Word
import DriversAdapter.Semantics.Machine

/-! The USB plug and play notifier: its device and information lists, the slot an event
waits in, the handlers that post events, and the report thread that sends them. -/
namespace DriversAdapter.Usb
open DriversAdapter.Base DriversAdapter.Semantics

inductive UsbPnpNotifyServiceCmd
  | addInterface
  | removeInterface
  | reportInterface
  | driverRegisterDevice
  | driverUnregisterDevice
  | addDevice
  | removeDevice
  | other (cmd : Int32)
  deriving DecidableEq

def UsbPnpNotifyServiceCmd.isInterface : UsbPnpNotifyServiceCmd → Bool
  | addInterface | removeInterface => true
  | _ => false

inductive UsbPnpNotifyRemoveType
  | busDevNum
  | interfaceNum

inductive UsbPnpDeviceStatus
  | init
  | add
  | remove
  | interface
  deriving DecidableEq

structure InterfaceInfo where
  interfaceClass : UInt8
  interfaceSubClass : UInt8
  interfaceProtocol : UInt8
  interfaceNumber : UInt8
  deriving DecidableEq

structure DeviceInfo where
  vendorId : UInt16
  productId : UInt16
  bcdDevice : UInt16
  deviceClass : UInt8
  deviceSubClass : UInt8
  deviceProtocol : UInt8

/-- A `usb_device`: its configuration descriptor gives the number of interfaces, each of
which has a descriptor or not. -/
structure UsbDevice where
  address : Int32
  portNo : Int32
  isHub : Bool
  ddesc : DeviceInfo
  cdesc : Option UInt8
  ifaces : Nat → Option InterfaceInfo

structure UsbPnpAddRemoveInfo where
  devNum : Int32
  busNum : Int32
  info : InterfaceInfo

/-- What `g_usbDevice` may point to, a device or `g_usbPnpInfo`. -/
inductive EventData (δ : Type)
  | device (udev : δ)
  | pnpInfo
  deriving DecidableEq

variable {δ : Type} [DecidableEq δ]

structure UsbPnpNotifyMatchInfoTable (δ : Type) where
  usbDevAddr : Option (EventData δ)
  devNum : Int32
  busNum : Int32
  deviceInfo : DeviceInfo
  removeType : UsbPnpNotifyRemoveType
  numInfos : UInt8
  interfaceInfo : Nat → InterfaceInfo

structure UsbPnpDeviceInfo (δ : Type) where
  id : Int32
  status : UsbPnpDeviceStatus
  interfaceRemoveStatus : Nat → Bool
  info : UsbPnpNotifyMatchInfoTable δ

/-- The bytes of a record that `OsalMemCalloc` has just cleared. -/
def UsbPnpNotifyMatchInfoTable.zero : UsbPnpNotifyMatchInfoTable δ :=
  ⟨none,0,0,⟨0,0,0,0,0,0⟩,.busDevNum,0,fun _ => ⟨0,0,0,0⟩⟩

inductive UsbInfoQueryPara (δ : Type)
  | normal (devNum busNum : Int32)
  | id (id : Int32)
  | deviceAddress (usbDevAddr : EventData δ)

/-- The notifier's globals, what the loader has been sent, how often the report thread was
woken up, and whether it has come out of its wait. -/
structure UsbPnp (δ : Type) where
  idNum : Int32
  infoList : List (UsbPnpDeviceInfo δ)
  deviceList : List δ
  listLockInit : Bool
  usbDevice : Option (EventData δ)
  cmdType : UsbPnpNotifyServiceCmd
  removeType : UsbPnpNotifyRemoveType
  pnpInfo : UsbPnpAddRemoveInfo
  wakeUps : Nat
  woken : Bool
  sent : List (UsbPnpNotifyServiceCmd × UsbPnpNotifyMatchInfoTable δ)

structure SendOutcomes where
  sbufObtain : Bool
  osalMemCalloc : Bool
  sbufWriteBuffer : Bool
  ioServiceBind : Bool

structure AttachOutcomes where
  osalMutexInit : Bool
  usbCreateUsbDevice : Bool
  listCalloc : Bool
  infoCalloc : Bool

namespace UsbInfoQueryPara

def finds (queryPara : UsbInfoQueryPara δ) (infoPos : UsbPnpDeviceInfo δ) : Bool :=
  match queryPara with
  | .normal devNum busNum => infoPos.info.devNum == devNum && infoPos.info.busNum == busNum
  | .id wanted => infoPos.id == wanted
  | .deviceAddress usbDevAddr => infoPos.info.usbDevAddr == some usbDevAddr

end UsbInfoQueryPara

namespace UsbPnpDeviceInfo

def fillInterfaces (ifaces : Nat → Option InterfaceInfo) :
    Nat → Nat → (Nat → InterfaceInfo) → Int × (Nat → InterfaceInfo)
  | 0, _, interfaceInfo => (hdfSuccess,interfaceInfo)
  | left + 1, i, interfaceInfo => match ifaces i with
    | none => (hdfErrInvalidParam,interfaceInfo)
    | some idesc =>
      fillInterfaces ifaces left (i + 1) fun k => if k = i then idesc else interfaceInfo k

def addInitInfo (usb : EventData δ → UsbDevice) (infoData : EventData δ)
    (deviceInfo : UsbPnpDeviceInfo δ) : Int × UsbPnpDeviceInfo δ :=
  let info := {deviceInfo.info with
    usbDevAddr := some infoData
    devNum := (usb infoData).address
    busNum := (usb infoData).portNo
    deviceInfo := (usb infoData).ddesc}
  match (usb infoData).cdesc with
  | none => (hdfErrInvalidParam,{deviceInfo with info := info})
  | some bNumInterface =>
    let filled := fillInterfaces (usb infoData).ifaces bNumInterface.toNat 0 info.interfaceInfo
    (filled.1,{deviceInfo with info := {info with
      numInfos := bNumInterface,interfaceInfo := filled.2}})

def markInterfaces (cmdType : UsbPnpNotifyServiceCmd) (infoData : InterfaceInfo)
    (deviceInfo : UsbPnpDeviceInfo δ) : Nat → Bool := fun i =>
  if i < deviceInfo.info.numInfos.toNat ∧ infoData = deviceInfo.info.interfaceInfo i then
    match cmdType with
    | .removeInterface => true
    | .addInterface => false
    | _ => deviceInfo.interfaceRemoveStatus i
  else deviceInfo.interfaceRemoveStatus i

/-- Those not removed move up. What the static table holds behind them is left out. -/
def presentInterfaces (deviceInfo : UsbPnpDeviceInfo δ) : List InterfaceInfo :=
  ((List.range deviceInfo.info.numInfos.toNat).filter
    (fun i => !deviceInfo.interfaceRemoveStatus i)).map deviceInfo.info.interfaceInfo

def addInterfaceInitInfo (cmdType : UsbPnpNotifyServiceCmd) (infoData : InterfaceInfo)
    (removeType : UsbPnpNotifyRemoveType) (deviceInfo : UsbPnpDeviceInfo δ) :
    UsbPnpNotifyMatchInfoTable δ × UsbPnpDeviceInfo δ :=
  let marked := {deviceInfo with
    interfaceRemoveStatus := deviceInfo.markInterfaces cmdType infoData}
  let present := match cmdType with
    | .removeInterface => [infoData]
    | _ => marked.presentInterfaces
  ({deviceInfo.info with
    removeType := removeType
    numInfos := UInt8.ofNat present.length
    interfaceInfo := fun i => present.getD i ⟨0,0,0,0⟩},marked)

end UsbPnpDeviceInfo

namespace UsbPnp

def findInfo (queryPara : UsbInfoQueryPara δ) (s : UsbPnp δ) : Option Nat :=
  s.infoList.findIdx? queryPara.finds

def createInfo (osalMemCalloc : Bool) (s : UsbPnp δ) : Option Nat × UsbPnp δ :=
  if osalMemCalloc = false then (none,s)
  else
    let idNum := if s.idNum = Int32.maxValue then 1 else s.idNum
    (some s.infoList.length,{s with
      idNum := idNum + 1
      infoList := s.infoList ++ [⟨idNum,.init,fun _ => false,.zero⟩]})

def destroyInfo (deviceInfo : UsbPnpDeviceInfo δ) (s : UsbPnp δ) : UsbPnp δ :=
  {s with infoList := s.infoList.eraseP fun infoPos => infoPos.id == deviceInfo.id}

def setInfo (i : Nat) (deviceInfo : UsbPnpDeviceInfo δ) (s : UsbPnp δ) : UsbPnp δ :=
  {s with infoList := s.infoList.set i deviceInfo}

variable (usb : EventData δ → UsbDevice)

/-- The table that is sent, if it can be made up, and the record as it is then. -/
def initInfo (sbufWriteBuffer : Bool) (infoData : EventData δ) (deviceInfo : UsbPnpDeviceInfo δ)
    (s : UsbPnp δ) : Int × UsbPnpNotifyMatchInfoTable δ × UsbPnpDeviceInfo δ :=
  let done := if s.cmdType.isInterface then
      let made := deviceInfo.addInterfaceInitInfo s.cmdType s.pnpInfo.info s.removeType
      (hdfSuccess,made.1,made.2)
    else if s.cmdType = .reportInterface then
      let made := deviceInfo.addInitInfo usb infoData
      (made.1,made.2.info,made.2)
    else (hdfSuccess,deviceInfo.info,deviceInfo)
  if done.1 ≠ hdfSuccess then done
  else if sbufWriteBuffer = false then (hdfFailure,done.2)
  else done

def getDeviceInfo (osalMemCalloc : Bool) (eventData : EventData δ) (s : UsbPnp δ) :
    Option Nat × UsbPnp δ :=
  if s.cmdType.isInterface then (s.findInfo (.normal s.pnpInfo.devNum s.pnpInfo.busNum),s)
  else match s.cmdType with
  | .addDevice | .removeDevice => (s.findInfo (.deviceAddress eventData),s)
  | _ => s.createInfo osalMemCalloc

/-- A record in its initial status is sent to the loader, whose answer is not looked at. -/
def sendInit (ioServiceBind : Bool) (table : UsbPnpNotifyMatchInfoTable δ)
    (deviceInfo : UsbPnpDeviceInfo δ) (s : UsbPnp δ) : Int × UsbPnpDeviceInfo δ × UsbPnp δ :=
  if deviceInfo.status ≠ .init then (hdfErrInvalidObject,deviceInfo,s)
  else if ioServiceBind = false then (hdfFailure,deviceInfo,s)
  else (hdfSuccess,{deviceInfo with status := .add},{s with sent := s.sent ++ [(s.cmdType,table)]})

def initAndSend (out : SendOutcomes) (eventData : EventData δ) (deviceInfo : UsbPnpDeviceInfo δ)
    (s : UsbPnp δ) : Int × UsbPnpDeviceInfo δ × UsbPnp δ :=
  let made := s.initInfo usb out.sbufWriteBuffer eventData deviceInfo
  if made.1 ≠ hdfSuccess then (made.1,made.2.2,s)
  else s.sendInit out.ioServiceBind made.2.1 made.2.2

/-- The end of a report gives up a record that was not sent, or whose device is removed. -/
def endReport (i : Nat) (sending : Int × UsbPnpDeviceInfo δ × UsbPnp δ) : Int × UsbPnp δ :=
  let after := sending.2.2.setInfo i sending.2.1
  if sending.1 ≠ hdfSuccess ∨ after.cmdType = .removeDevice then
    (sending.1,after.destroyInfo sending.2.1)
  else (sending.1,after)

def hdfSendEvent (out : SendOutcomes) (eventData : Option (EventData δ)) (s : UsbPnp δ) :
    Int × UsbPnp δ :=
  match eventData with
  | none => (hdfErrInvalidParam,s)
  | some eventData =>
    if out.sbufObtain = false then (hdfFailure,s)
    else match s.getDeviceInfo out.osalMemCalloc eventData with
    | (none,s) => (hdfFailure,s)
    | (some i,s) => match s.infoList[i]? with
      | none => (hdfFailure,s)
      | some deviceInfo =>
        let deviceInfo := {deviceInfo with info := {deviceInfo.info with removeType := s.removeType}}
        endReport i (s.initAndSend usb out eventData deviceInfo)

def reportEach : List δ → (Nat → SendOutcomes) → Nat → UsbPnp δ → UsbPnp δ
  | [], _, _, s => s
  | udev :: rest, out, i, s =>
    reportEach rest out (i + 1) (s.hdfSendEvent usb (out i) (some (.device udev))).2

def firstReportDevice (out : Nat → SendOutcomes) (s : UsbPnp δ) : UsbPnp δ :=
  s.reportEach usb s.deviceList out 0

/-- The wait ends because there is an event or because it is interrupted. -/
def wake (interrupted : Bool) (s : UsbPnp δ) : UsbPnp δ :=
  if s.usbDevice.isSome ∨ interrupted then {s with woken := true} else s

def reportThread (out : SendOutcomes) (s : UsbPnp δ) : UsbPnp δ :=
  if s.woken = false then s
  else
    let eventData := if s.cmdType.isInterface then some .pnpInfo else s.usbDevice
    {(s.hdfSendEvent usb out eventData).2 with usbDevice := none,woken := false}

def post (eventData : EventData δ) (cmdType : UsbPnpNotifyServiceCmd) (s : UsbPnp δ) : UsbPnp δ :=
  {s with usbDevice := some eventData,cmdType := cmdType,wakeUps := s.wakeUps + 1}

def addDevice (infoCalloc : Bool) (udev : δ) (s : UsbPnp δ) : UsbPnp δ :=
  match s.createInfo infoCalloc with
  | (none,s) => s
  | (some i,s) => match s.infoList[i]? with
    | none => s
    | some deviceInfo =>
      let made := deviceInfo.addInitInfo usb (.device udev)
      let s := s.setInfo i made.2
      if made.1 ≠ hdfSuccess then s else s.post (.device udev) .addDevice

def createDeviceList (listCalloc : Bool) (udev : δ) (s : UsbPnp δ) : UsbPnp δ :=
  if listCalloc = false then s else {s with deviceList := s.deviceList ++ [udev]}

def attachDevice (out : AttachOutcomes) (udev : δ) (s : UsbPnp δ) : UsbPnp δ :=
  if (usb (.device udev)).isHub ∨ udev ∈ s.deviceList then s
  else if s.listLockInit = false ∧ out.osalMutexInit = false then s
  else
    let s := {s with listLockInit := true}
    if out.usbCreateUsbDevice = false then s
    else (s.createDeviceList out.listCalloc udev).addDevice usb out.infoCalloc udev

/-- A status moves to the initial one, from which the record is sent once more. -/
def restart (instead : UsbPnpDeviceStatus) (deviceInfo : UsbPnpDeviceInfo δ) : UsbPnpDeviceInfo δ :=
  {deviceInfo with status := if deviceInfo.status ≠ .init then .init else instead}

/-- The entry leaves the list; what is given back is the address of the loop's variable. -/
def detachDevice (udev : δ) (s : UsbPnp δ) : UsbPnp δ :=
  if udev ∉ s.deviceList then s
  else
    let s := {s with deviceList := s.deviceList.erase udev}
    match s.findInfo (.deviceAddress (.device udev)) with
    | none => s
    | some i => match s.infoList[i]? with
      | none => s
      | some deviceInfo => {(s.setInfo i (restart .remove deviceInfo)).post (.device udev)
          .removeDevice with removeType := .busDevNum}

def readPnpInfo (data : Option UsbPnpAddRemoveInfo) (s : UsbPnp δ) : UsbPnp δ :=
  match data with
  | none => s
  | some usbPnpInfo =>
    let s := {s with pnpInfo := usbPnpInfo,usbDevice := some .pnpInfo}
    match s.findInfo (.normal usbPnpInfo.devNum usbPnpInfo.busNum) with
    | none => s
    | some i => match s.infoList[i]? with
      | none => s
      | some deviceInfo => s.setInfo i (restart .interface deviceInfo)

/-- `registered` is what registering or unregistering a device answers. -/
def dispatch (parties : Bool) (cmd : UsbPnpNotifyServiceCmd) (data : Option UsbPnpAddRemoveInfo)
    (out : Nat → SendOutcomes) (registered : Int) (s : UsbPnp δ) : Int × UsbPnp δ :=
  if parties = false then (hdfFailure,s)
  else
    let s := {s with cmdType := cmd}
    match cmd with
    | .addInterface => (hdfSuccess,{s.readPnpInfo data with wakeUps := s.wakeUps + 1})
    | .removeInterface => (hdfSuccess,{s.readPnpInfo data with
        removeType := .interfaceNum,wakeUps := s.wakeUps + 1})
    | .reportInterface => (hdfSuccess,s.firstReportDevice usb out)
    | .driverRegisterDevice | .driverUnregisterDevice => (registered,s)
    | _ => (hdfErrNotSupport,s)

def boot : UsbPnp δ :=
  ⟨1,[],[],false,none,.addInterface,.busDevNum,⟨0,0,⟨0,0,0,0⟩⟩,0,false,[]⟩

end UsbPnp

/-- The handlers and the two halves of a turn of the report thread. -/
inductive UsbPnpEvent (δ : Type)
  | attach (udev : δ) (out : AttachOutcomes)
  | detach (udev : δ)
  | dispatch (parties : Bool) (cmd : UsbPnpNotifyServiceCmd) (data : Option UsbPnpAddRemoveInfo)
      (out : Nat → SendOutcomes) (registered : Int)
  | wake (interrupted : Bool)
  | report (out : SendOutcomes)

def UsbPnp.step (usb : EventData δ → UsbDevice) (event : UsbPnpEvent δ) (s : UsbPnp δ) :
    Int × UsbPnp δ :=
  match event with
  | .attach udev out => (hdfSuccess,s.attachDevice usb out udev)
  | .detach udev => (hdfSuccess,s.detachDevice udev)
  | .dispatch parties cmd data out registered => s.dispatch usb parties cmd data out registered
  | .wake interrupted => (hdfSuccess,s.wake interrupted)
  | .report out => (hdfSuccess,s.reportThread usb out)

namespace UsbPnp

/-- A state but for the records and what was sent. -/
structure Framed (s t : UsbPnp δ) : Prop where
  deviceList : t.deviceList = s.deviceList
  usbDevice : t.usbDevice = s.usbDevice
  cmdType : t.cmdType = s.cmdType
  removeType : t.removeType = s.removeType
  pnpInfo : t.pnpInfo = s.pnpInfo
  wakeUps : t.wakeUps = s.wakeUps
  woken : t.woken = s.woken

section Frame
variable {s t u : UsbPnp δ}

omit [DecidableEq δ] in
theorem Framed.refl (s : UsbPnp δ) : s.Framed s := ⟨rfl,rfl,rfl,rfl,rfl,rfl,rfl⟩

omit [DecidableEq δ] in
theorem Framed.trans (first : s.Framed t) (second : t.Framed u) : s.Framed u where
  deviceList := second.deviceList.trans first.deviceList
  usbDevice := second.usbDevice.trans first.usbDevice
  cmdType := second.cmdType.trans first.cmdType
  removeType := second.removeType.trans first.removeType
  pnpInfo := second.pnpInfo.trans first.pnpInfo
  wakeUps := second.wakeUps.trans first.wakeUps
  woken := second.woken.trans first.woken

omit [DecidableEq δ] in
theorem createInfo_framed (osalMemCalloc : Bool) (s : UsbPnp δ) :
    s.Framed (s.createInfo osalMemCalloc).2 := by
  unfold createInfo
  split <;> exact ⟨rfl,rfl,rfl,rfl,rfl,rfl,rfl⟩

theorem getDeviceInfo_framed (osalMemCalloc : Bool) (eventData : EventData δ) (s : UsbPnp δ) :
    s.Framed (s.getDeviceInfo osalMemCalloc eventData).2 := by
  unfold getDeviceInfo
  split
  · exact .refl s
  · split
    · exact .refl s
    · exact .refl s
    · exact createInfo_framed osalMemCalloc s

variable (usb : EventData δ → UsbDevice)

omit [DecidableEq δ] in
theorem initAndSend_framed (out : SendOutcomes) (eventData : EventData δ)
    (deviceInfo : UsbPnpDeviceInfo δ) (s : UsbPnp δ) :
    s.Framed (s.initAndSend usb out eventData deviceInfo).2.2 := by
  unfold initAndSend sendInit
  dsimp only
  split
  · exact .refl s
  · split
    · exact .refl s
    · split <;> exact ⟨rfl,rfl,rfl,rfl,rfl,rfl,rfl⟩

omit [DecidableEq δ] in
theorem endReport_framed (i : Nat) (sending : Int × UsbPnpDeviceInfo δ × UsbPnp δ) :
    sending.2.2.Framed (endReport i sending).2 := by
  unfold endReport
  dsimp only
  split <;> exact ⟨rfl,rfl,rfl,rfl,rfl,rfl,rfl⟩

/-- A report touches neither the slot nor the devices. -/
theorem hdfSendEvent_framed (out : SendOutcomes) (eventData : Option (EventData δ))
    (s : UsbPnp δ) : s.Framed (s.hdfSendEvent usb out eventData).2 := by
  unfold hdfSendEvent
  cases eventData with
  | none => exact .refl s
  | some eventData =>
    dsimp only
    split
    · exact .refl s
    · have got := getDeviceInfo_framed out.osalMemCalloc eventData s
      split
      next t found =>
        rw [found] at got
        exact got
      next i t found =>
        rw [found] at got
        split
        · exact got
        · exact got.trans ((initAndSend_framed usb out eventData _ t).trans (endReport_framed i _))

theorem reportEach_framed (out : Nat → SendOutcomes) (devices : List δ) (i : Nat) (s : UsbPnp δ) :
    s.Framed (s.reportEach usb devices out i) := by
  induction devices generalizing i s with
  | nil => exact .refl s
  | cons udev rest ih => exact (hdfSendEvent_framed usb (out i) _ s).trans (ih (i + 1) _)

def Posts (e : EventData δ) (cmd : UsbPnpNotifyServiceCmd) (s t : UsbPnp δ) : Prop :=
  (t.wakeUps = s.wakeUps ∧ t.usbDevice = s.usbDevice ∧ t.cmdType = s.cmdType) ∨
    (t.wakeUps = s.wakeUps + 1 ∧ t.usbDevice = some e ∧ t.cmdType = cmd)

theorem attachDevice_posts (out : AttachOutcomes) (udev : δ) (s : UsbPnp δ) :
    Posts (.device udev) .addDevice s (s.attachDevice usb out udev) := by
  have added : ∀ t : UsbPnp δ, t.wakeUps = s.wakeUps → t.usbDevice = s.usbDevice →
      t.cmdType = s.cmdType → Posts (.device udev) .addDevice s (t.addDevice usb out.infoCalloc udev) := by
    intro t wakeUps usbDevice cmdType
    have made := createInfo_framed out.infoCalloc t
    unfold addDevice
    split
    next u found =>
      rw [found] at made
      exact .inl ⟨made.wakeUps.trans wakeUps,made.usbDevice.trans usbDevice,
        made.cmdType.trans cmdType⟩
    next i u found =>
      rw [found] at made
      have same : u.wakeUps = s.wakeUps ∧ u.usbDevice = s.usbDevice ∧ u.cmdType = s.cmdType :=
        ⟨made.wakeUps.trans wakeUps,made.usbDevice.trans usbDevice,made.cmdType.trans cmdType⟩
      split
      · exact .inl same
      · dsimp only
        split
        · exact .inl same
        · exact .inr ⟨congrArg (· + 1) same.1,rfl,rfl⟩
  have unchanged : Posts (.device udev) .addDevice s s := .inl ⟨rfl,rfl,rfl⟩
  unfold attachDevice
  split
  · exact unchanged
  · split
    · exact unchanged
    · dsimp only
      split
      · exact .inl ⟨rfl,rfl,rfl⟩
      · unfold createDeviceList
        split
        · exact added _ rfl rfl rfl
        · exact added _ rfl rfl rfl

theorem detachDevice_posts (udev : δ) (s : UsbPnp δ) :
    Posts (.device udev) .removeDevice s (s.detachDevice udev) := by
  unfold detachDevice
  split
  · exact .inl ⟨rfl,rfl,rfl⟩
  · dsimp only
    split
    · exact .inl ⟨rfl,rfl,rfl⟩
    · split
      · exact .inl ⟨rfl,rfl,rfl⟩
      · exact .inr ⟨rfl,rfl,rfl⟩

theorem readPnpInfo_slot (data : Option UsbPnpAddRemoveInfo) (s : UsbPnp δ) :
    (s.readPnpInfo data).cmdType = s.cmdType ∧ (s.readPnpInfo data).usbDevice =
      if data.isSome then some .pnpInfo else s.usbDevice := by
  unfold readPnpInfo
  cases data with
  | none => exact ⟨rfl,rfl⟩
  | some usbPnpInfo =>
    dsimp only
    split
    · exact ⟨rfl,rfl⟩
    · split <;> exact ⟨rfl,rfl⟩

end Frame
end UsbPnp

end DriversAdapter.Usb
