import DriversAdapter.Semantics.Keyed
import DriversAdapter.Usb.PnpNotify

/-! What each handler and each report do to the records of the notifier. -/
namespace DriversAdapter.Usb
open DriversAdapter.Base DriversAdapter.Semantics

variable {δ : Type} [DecidableEq δ]

/-- Every interface that the configuration counts has a descriptor. -/
def UsbDevice.described (udev : UsbDevice) : Bool :=
  match udev.cdesc with
  | none => false
  | some bNumInterface => (List.range bNumInterface.toNat).all fun i => (udev.ifaces i).isSome

/-- All that a report of a record calls, but for making the record. -/
def SendOutcomes.sends (out : SendOutcomes) : Bool :=
  out.sbufObtain && out.sbufWriteBuffer && out.ioServiceBind

/-- The ids that the next `n` records get. -/
def drawnIds : Nat → Int32 → List Int32
  | 0, _ => []
  | n + 1, idNum =>
    let id := if idNum = Int32.maxValue then 1 else idNum
    id :: drawnIds n (id + 1)
namespace UsbPnp

/-- The device of the event that waits; that of an interface command is the one whose record
has the address and the port. -/
def subject (s : UsbPnp δ) : Option (EventData δ) :=
  match s.usbDevice with
  | some .pnpInfo => match s.findInfo (.normal s.pnpInfo.devNum s.pnpInfo.busNum) with
    | none => none
    | some i => s.infoList[i]?.bind fun infoPos => infoPos.info.usbDevAddr
  | usbDevice => usbDevice

def recordsOf (udev : δ) (s : UsbPnp δ) : List (UsbPnpDeviceInfo δ) :=
  s.infoList.filter fun infoPos => infoPos.info.usbDevAddr == some (.device udev)

/-- The removal of a device waits for the report thread. -/
def Removing (udev : δ) (s : UsbPnp δ) : Prop :=
  s.usbDevice = some (.device udev) ∧ s.cmdType = .removeDevice

/-- The ids of the next `n` records differ from one another and from those there are. -/
def Fresh (n : Nat) (s : UsbPnp δ) : Prop :=
  (s.infoList.map UsbPnpDeviceInfo.id ++ drawnIds n s.idNum).Nodup

/-- The attach handler goes past its first check. -/
def isNew (usb : EventData δ → UsbDevice) (udev : δ) (s : UsbPnp δ) : Bool :=
  !(usb (.device udev)).isHub && udev ∉ s.deviceList

end UsbPnp

namespace UsbPnpDeviceInfo
variable (usb : EventData δ → UsbDevice)

theorem fillInterfaces_succeeds (ifaces : Nat → Option InterfaceInfo) (left i : Nat)
    (interfaceInfo : Nat → InterfaceInfo) :
    (fillInterfaces ifaces left i interfaceInfo).1 = hdfSuccess ↔
      ∀ k < left, (ifaces (i + k)).isSome = true := by
  induction left generalizing i interfaceInfo with
  | zero => simp [fillInterfaces]
  | succ left ih =>
    have later : (∀ k < left + 1, (ifaces (i + k)).isSome = true) ↔
        (ifaces i).isSome = true ∧ ∀ k < left, (ifaces (i + 1 + k)).isSome = true := by
      constructor
      · intro all
        refine ⟨all 0 (by omega),fun k bound => ?_⟩
        rw [show i + 1 + k = i + (k + 1) by omega]
        exact all (k + 1) (by omega)
      · rintro ⟨first,rest⟩ k bound
        cases k with
        | zero => exact first
        | succ k =>
          rw [show i + (k + 1) = i + 1 + k by omega]
          exact rest k (by omega)
    rw [later]
    cases there : ifaces i with
    | none => simp [fillInterfaces,there,hdfErrInvalidParam,hdfSuccess]
    | some idesc => simp [fillInterfaces,there,ih]

omit [DecidableEq δ] in
theorem addInitInfo_succeeds (infoData : EventData δ) (deviceInfo : UsbPnpDeviceInfo δ) :
    (deviceInfo.addInitInfo usb infoData).1 = hdfSuccess ↔ (usb infoData).described = true := by
  unfold addInitInfo UsbDevice.described
  cases (usb infoData).cdesc with
  | none => simp [hdfErrInvalidParam,hdfSuccess]
  | some bNumInterface => simp [fillInterfaces_succeeds]

omit [DecidableEq δ] in
theorem addInitInfo_keeps (infoData : EventData δ) (deviceInfo : UsbPnpDeviceInfo δ) :
    (deviceInfo.addInitInfo usb infoData).2.id = deviceInfo.id ∧
      (deviceInfo.addInitInfo usb infoData).2.status = deviceInfo.status ∧
      (deviceInfo.addInitInfo usb infoData).2.info.usbDevAddr = some infoData := by
  unfold addInitInfo
  cases (usb infoData).cdesc <;> exact ⟨rfl,rfl,rfl⟩

end UsbPnpDeviceInfo

namespace UsbPnp
variable (usb : EventData δ → UsbDevice)

/-- A report gets through, with the status that its record has at the start. -/
def Sends (out : SendOutcomes) (eventData : EventData δ) (deviceInfo : UsbPnpDeviceInfo δ)
    (s : UsbPnp δ) : Prop :=
  (s.cmdType = .reportInterface → (usb eventData).described = true) ∧
    out.sbufWriteBuffer = true ∧ deviceInfo.status = .init ∧ out.ioServiceBind = true

omit [DecidableEq δ] in
theorem initInfo_made (sbufWriteBuffer : Bool) (infoData : EventData δ)
    (deviceInfo : UsbPnpDeviceInfo δ) (s : UsbPnp δ) :
    (((s.initInfo usb sbufWriteBuffer infoData deviceInfo).1 = hdfSuccess ↔
        (s.cmdType = .reportInterface → (usb infoData).described = true) ∧
          sbufWriteBuffer = true) ∧
      (s.initInfo usb sbufWriteBuffer infoData deviceInfo).2.2.id = deviceInfo.id ∧
      (s.initInfo usb sbufWriteBuffer infoData deviceInfo).2.2.status = deviceInfo.status ∧
      (s.initInfo usb sbufWriteBuffer infoData deviceInfo).2.2.info.usbDevAddr =
        if s.cmdType = .reportInterface then some infoData else deviceInfo.info.usbDevAddr) := by
  have failure : hdfFailure ≠ hdfSuccess := by decide
  have succeeds := UsbPnpDeviceInfo.addInitInfo_succeeds usb infoData deviceInfo
  obtain ⟨id,status,usbDevAddr⟩ := UsbPnpDeviceInfo.addInitInfo_keeps usb infoData deviceInfo
  unfold initInfo
  cases interface : s.cmdType.isInterface with
  | true =>
    have other : s.cmdType ≠ .reportInterface := by
      intro same
      simp [same,UsbPnpNotifyServiceCmd.isInterface] at interface
    cases sbufWriteBuffer <;>
      simp [other,failure,UsbPnpDeviceInfo.addInterfaceInitInfo]
  | false =>
    by_cases report : s.cmdType = .reportInterface
    · by_cases made : (deviceInfo.addInitInfo usb infoData).1 = hdfSuccess
      · cases sbufWriteBuffer <;> simp [report,made,failure,id,status,usbDevAddr,succeeds.mp made]
      · have bare : (usb infoData).described = false := by simpa [succeeds] using made
        simp [report,made,id,status,usbDevAddr,bare]
    · cases sbufWriteBuffer <;> simp [report,failure]

omit [DecidableEq δ] in
theorem initAndSend_done (out : SendOutcomes) (eventData : EventData δ)
    (deviceInfo : UsbPnpDeviceInfo δ) (s : UsbPnp δ) :
    ((s.initAndSend usb out eventData deviceInfo).1 = hdfSuccess ↔
        s.Sends usb out eventData deviceInfo) ∧
      (s.Sends usb out eventData deviceInfo →
        (s.initAndSend usb out eventData deviceInfo).2.1.status = .add) ∧
      (s.initAndSend usb out eventData deviceInfo).2.1.id = deviceInfo.id ∧
      ((s.initAndSend usb out eventData deviceInfo).2.1.info.usbDevAddr =
        if s.cmdType = .reportInterface then some eventData else deviceInfo.info.usbDevAddr) ∧
      (s.initAndSend usb out eventData deviceInfo).2.2.infoList = s.infoList ∧
      (s.initAndSend usb out eventData deviceInfo).2.2.idNum = s.idNum := by
  have failure : hdfFailure ≠ hdfSuccess := by decide
  have invalid : hdfErrInvalidObject ≠ hdfSuccess := by decide
  obtain ⟨made,id,status,usbDevAddr⟩ := initInfo_made usb out.sbufWriteBuffer eventData deviceInfo s
  unfold initAndSend Sends
  generalize s.initInfo usb out.sbufWriteBuffer eventData deviceInfo = info at made id status usbDevAddr
  by_cases ready : info.1 = hdfSuccess
  · have could := made.mp ready
    by_cases fresh : deviceInfo.status = .init
    · have described : (s.cmdType = .reportInterface → (usb eventData).described = true) := could.1
      cases bound : out.ioServiceBind <;>
        simp [ready,sendInit,status,fresh,failure,id,usbDevAddr,could.2]
      exact described
    · simp [ready,sendInit,status,fresh,invalid,id,usbDevAddr]
  · have could := mt made.mpr ready
    simp [ready,id,usbDevAddr]
    tauto

/-- What a report does with the record that it found or made, `t` being the state then. -/
theorem hdfSendEvent_record (out : SendOutcomes) (eventData : EventData δ) (s t : UsbPnp δ) (i : Nat)
    (deviceInfo : UsbPnpDeviceInfo δ) (obtained : out.sbufObtain = true)
    (got : s.getDeviceInfo out.osalMemCalloc eventData = (some i,t))
    (there : t.infoList[i]? = some deviceInfo) :
    ∃ after : UsbPnpDeviceInfo δ, after.id = deviceInfo.id ∧
      after.info.usbDevAddr = (if t.cmdType = .reportInterface then some eventData
        else deviceInfo.info.usbDevAddr) ∧
      (s.hdfSendEvent usb out (some eventData)).2.idNum = t.idNum ∧
      (t.Sends usb out eventData deviceInfo → t.cmdType ≠ .removeDevice →
        after.status = .add ∧
          (s.hdfSendEvent usb out (some eventData)).2.infoList = t.infoList.set i after) ∧
      (¬ t.Sends usb out eventData deviceInfo ∨ t.cmdType = .removeDevice →
        (s.hdfSendEvent usb out (some eventData)).2.infoList =
          (t.infoList.set i after).eraseP fun infoPos => infoPos.id == after.id) := by
  let removed := {deviceInfo with info := {deviceInfo.info with removeType := t.removeType}}
  obtain ⟨sends,sent,id,usbDevAddr,infoList,idNum⟩ := initAndSend_done usb out eventData removed t
  have framed := initAndSend_framed usb out eventData removed t
  have done : s.hdfSendEvent usb out (some eventData) =
      endReport i (t.initAndSend usb out eventData removed) := by
    simp [hdfSendEvent,obtained,got,there,removed]
  rw [done]
  generalize t.initAndSend usb out eventData removed = sending at *
  have cmdType : (sending.2.2.setInfo i sending.2.1).cmdType = t.cmdType := framed.cmdType
  refine ⟨sending.2.1,id,usbDevAddr,?_,?_,?_⟩
  · unfold endReport
    dsimp only
    split <;> exact idNum
  · intro could other
    have keeps : ¬ (sending.1 ≠ hdfSuccess ∨ (sending.2.2.setInfo i sending.2.1).cmdType =
        .removeDevice) := by
      rw [cmdType]
      simpa [sends.mpr could] using other
    simp only [endReport,if_neg keeps]
    exact ⟨sent could,by simp [setInfo,infoList]⟩
  · intro ends
    have gives : sending.1 ≠ hdfSuccess ∨ (sending.2.2.setInfo i sending.2.1).cmdType =
        .removeDevice := by
      rw [cmdType]
      exact ends.imp (fun cannot reached => cannot (sends.mp reached)) fun same => same
    simp only [endReport,if_pos gives]
    simp [destroyInfo,setInfo,infoList]

omit [DecidableEq δ] in
theorem createInfo_made (s : UsbPnp δ) : ∃ deviceInfo : UsbPnpDeviceInfo δ,
    drawnIds 1 s.idNum = [deviceInfo.id] ∧ deviceInfo.status = .init ∧
      s.createInfo true = (some s.infoList.length,{s with
        idNum := deviceInfo.id + 1,infoList := s.infoList ++ [deviceInfo]}) := by
  refine ⟨⟨if s.idNum = Int32.maxValue then 1 else s.idNum,.init,fun _ => false,.zero⟩,rfl,rfl,?_⟩
  simp [createInfo]

omit [DecidableEq δ] in
theorem addDevice_made (udev : δ) (s : UsbPnp δ) : ∃ deviceInfo : UsbPnpDeviceInfo δ,
    drawnIds 1 s.idNum = [deviceInfo.id] ∧ deviceInfo.status = .init ∧
      deviceInfo.info.usbDevAddr = some (.device udev) ∧
      s.addDevice usb true udev =
        let made := {s with idNum := deviceInfo.id + 1,infoList := s.infoList ++ [deviceInfo]}
        if (usb (.device udev)).described = true then made.post (.device udev) .addDevice
        else made := by
  obtain ⟨cleared,drawn,init,created⟩ := createInfo_made s
  obtain ⟨id,status,usbDevAddr⟩ := UsbPnpDeviceInfo.addInitInfo_keeps usb (.device udev) cleared
  have succeeds := UsbPnpDeviceInfo.addInitInfo_succeeds usb (.device udev) cleared
  refine ⟨(cleared.addInitInfo usb (.device udev)).2,drawn.trans (by rw [id]),status.trans init,
    usbDevAddr,?_⟩
  unfold addDevice
  rw [created]
  by_cases described : (usb (.device udev)).described = true
  · simp [setInfo,succeeds.mpr described,described,id]
  · simp [setInfo,mt succeeds.mp described,described,id]

theorem drawnIds_sublist (n : Nat) (idNum : Int32) :
    (drawnIds n idNum).Sublist (drawnIds (n + 1) idNum) := by
  induction n generalizing idNum with
  | zero => exact List.nil_sublist _
  | succ n ih => exact (ih _).cons_cons _

omit [DecidableEq δ] in
theorem sends_report (out : SendOutcomes) (eventData : EventData δ) (deviceInfo : UsbPnpDeviceInfo δ)
    (s : UsbPnp δ) (obtained : out.sbufObtain = true) (report : s.cmdType = .reportInterface)
    (init : deviceInfo.status = .init) : s.Sends usb out eventData deviceInfo ↔
      (out.sends && (usb eventData).described) = true := by
  simp [Sends,SendOutcomes.sends,obtained,report,init]
  tauto

theorem hdfSendEvent_created (out : SendOutcomes) (udev : δ) (s : UsbPnp δ)
    (report : s.cmdType = .reportInterface) (fresh : s.Fresh 1) (obtained : out.sbufObtain = true)
    (calloc : out.osalMemCalloc = true) : ∃ after : UsbPnpDeviceInfo δ,
      after.info.usbDevAddr = some (.device udev) ∧ drawnIds 1 s.idNum = [after.id] ∧
      (s.hdfSendEvent usb out (some (.device udev))).2.idNum = after.id + 1 ∧
      if (out.sends && (usb (.device udev)).described) = true then after.status = .add ∧
        (s.hdfSendEvent usb out (some (.device udev))).2.infoList = s.infoList ++ [after]
      else (s.hdfSendEvent usb out (some (.device udev))).2.infoList = s.infoList := by
  obtain ⟨cleared,drawn,init,created⟩ := createInfo_made s
  obtain ⟨t,state⟩ : ∃ t, t = {s with
      idNum := cleared.id + 1,infoList := s.infoList ++ [cleared]} := ⟨_,rfl⟩
  rw [← state] at created
  have kind : t.cmdType = .reportInterface := by rw [state,report]
  have list : t.infoList = s.infoList ++ [cleared] := by rw [state]
  have got : s.getDeviceInfo out.osalMemCalloc (.device udev) = (some s.infoList.length,t) := by
    simp [getDeviceInfo,report,calloc,created,UsbPnpNotifyServiceCmd.isInterface]
  obtain ⟨after,id,address,idNum,goes,stops⟩ := hdfSendEvent_record usb out (.device udev) s t _
    cleared obtained got (by simp [list])
  have put : t.infoList.set s.infoList.length after = s.infoList ++ [after] := by simp [list]
  have other : t.cmdType ≠ .removeDevice := by simp [kind]
  have through := sends_report usb out (.device udev) cleared t obtained kind init
  rw [put] at goes stops
  refine ⟨after,by simpa [kind] using address,by rw [drawn,id],by rw [idNum,state,id],?_⟩
  split
  next could => exact goes (through.mpr could) other
  next cannot =>
    have absent : after.id ∉ s.infoList.map UsbPnpDeviceInfo.id := by
      rw [Fresh,drawn,← id] at fresh
      exact fun member => (List.nodup_append.mp fresh).2.2 _ member _ (by simp) rfl
    rw [stops (.inl (mt through.mp cannot)),Keyed.eraseP_append UsbPnpDeviceInfo.id absent]

theorem hdfSendEvent_reported (out : SendOutcomes) (udev : δ) (s : UsbPnp δ)
    (report : s.cmdType = .reportInterface) (fresh : s.Fresh 1) :
    ∃ made : List (UsbPnpDeviceInfo δ),
      (s.hdfSendEvent usb out (some (.device udev))).2.infoList = s.infoList ++ made ∧
      (made.map fun infoPos => infoPos.info.usbDevAddr) =
        (if (out.sends && out.osalMemCalloc && (usb (.device udev)).described) = true then
          [some (.device udev)] else []) ∧
      (∀ infoPos ∈ made, infoPos.status = .add) ∧
      ∀ n, s.Fresh (n + 1) → (s.hdfSendEvent usb out (some (.device udev))).2.Fresh n := by
  have fewer : ∀ n, s.Fresh (n + 1) → s.Fresh n := fun n more =>
    List.Nodup.sublist ((List.Sublist.refl _).append (drawnIds_sublist n s.idNum)) more
  cases obtained : out.sbufObtain with
  | false =>
    have same : (s.hdfSendEvent usb out (some (.device udev))).2 = s := by
      simp [hdfSendEvent,obtained]
    refine ⟨[],by simp [same],by simp [SendOutcomes.sends,obtained],by simp,?_⟩
    rwa [same]
  | true =>
    cases calloc : out.osalMemCalloc with
    | false =>
      have same : (s.hdfSendEvent usb out (some (.device udev))).2 = s := by
        simp [hdfSendEvent,obtained,getDeviceInfo,report,createInfo,calloc,
          UsbPnpNotifyServiceCmd.isInterface]
      refine ⟨[],by simp [same],by simp,by simp,?_⟩
      rwa [same]
    | true =>
      obtain ⟨after,address,drawn,idNum,list⟩ := hdfSendEvent_created usb out udev s report fresh
        obtained calloc
      have next : ∀ n, drawnIds (n + 1) s.idNum = after.id :: drawnIds n (after.id + 1) := by
        intro n
        have first : (if s.idNum = Int32.maxValue then 1 else s.idNum) = after.id := by
          simpa [drawnIds] using drawn
        simp [drawnIds,first]
      rw [Bool.and_true]
      split at list
      next could =>
        refine ⟨[after],list.2,by simp [address,could],by simpa using list.1,fun n more => ?_⟩
        rw [Fresh,next] at more
        rw [Fresh,list.2,idNum]
        simpa using more
      next cannot =>
        refine ⟨[],by simpa using list,by simp [cannot],by simp,fun n more => ?_⟩
        rw [Fresh,next] at more
        rw [Fresh,list,idNum]
        exact more.sublist ((List.Sublist.refl _).append (List.sublist_cons_self _ _))

theorem reportEach_made (devices : List δ) (out : Nat → SendOutcomes) (i : Nat) (s : UsbPnp δ)
    (report : s.cmdType = .reportInterface) (fresh : s.Fresh devices.length) :
    ∃ made : List (UsbPnpDeviceInfo δ),
      (s.reportEach usb devices out i).infoList = s.infoList ++ made ∧
      (s.reportEach usb devices out i).Fresh 0 ∧
      (made.map fun infoPos => infoPos.info.usbDevAddr).Sublist
        (devices.map fun udev => some (.device udev)) ∧
      (∀ infoPos ∈ made, infoPos.status = .add) ∧
      ∀ k (bound : k < devices.length), ((out (i + k)).sends && (out (i + k)).osalMemCalloc &&
        (usb (.device devices[k])).described) = true →
        ∃ infoPos ∈ made, infoPos.info.usbDevAddr = some (.device devices[k]) := by
  induction devices generalizing i s with
  | nil => exact ⟨[],by simp [reportEach],fresh,by simp,by simp,by simp⟩
  | cons udev rest ih =>
    have one : s.Fresh 1 := by
      refine List.Nodup.sublist ((List.Sublist.refl _).append ?_) fresh
      simp only [List.length_cons,drawnIds]
      simp
    obtain ⟨first,infoList,addresses,added,later⟩ := hdfSendEvent_reported usb (out i) udev s report one
    have framed := hdfSendEvent_framed usb (out i) (some (.device udev)) s
    obtain ⟨made,all,unique,sublist,status,reported⟩ := ih (i + 1) _ (framed.cmdType.trans report)
      (later _ fresh)
    refine ⟨first ++ made,by simp [reportEach,all,infoList],unique,?_,?_,?_⟩
    · rw [List.map_append,addresses,List.map_cons]
      split
      · exact sublist.cons_cons _
      · exact sublist.cons _
    · intro infoPos member
      exact (List.mem_append.mp member).elim (added infoPos) (status infoPos)
    · intro k bound could
      cases k with
      | zero =>
        have through : ((out i).sends && (out i).osalMemCalloc &&
            (usb (.device udev)).described) = true := could
        have address : some (.device udev) ∈ first.map fun infoPos => infoPos.info.usbDevAddr := by
          rw [addresses,if_pos through]
          simp
        obtain ⟨infoPos,member,own⟩ := List.mem_map.mp address
        exact ⟨infoPos,List.mem_append_left _ member,own⟩
      | succ k =>
        obtain ⟨infoPos,member,own⟩ := reported k (by simpa using bound) (by
          simpa [show i + 1 + k = i + (k + 1) by omega] using could)
        exact ⟨infoPos,List.mem_append_right _ member,own⟩

omit [DecidableEq δ] in
theorem removing_slot {udev : δ} {t : UsbPnp δ} (empty : t.usbDevice = none) : ¬ t.Removing udev := by
  rintro ⟨slot,-⟩
  rw [empty] at slot
  contradiction

theorem subject_empty {t : UsbPnp δ} (empty : t.usbDevice = none) : t.subject = none := by
  simp [subject,empty]

omit [DecidableEq δ] in
theorem address_unique {t : UsbPnp δ} {x y : UsbPnpDeviceInfo δ}
    (addresses : (t.infoList.map fun infoPos => infoPos.info.usbDevAddr).Nodup)
    (there : x ∈ t.infoList) (other : y ∈ t.infoList)
    (same : x.info.usbDevAddr = y.info.usbDevAddr) : x = y :=
  Keyed.unique (fun infoPos : UsbPnpDeviceInfo δ => infoPos.info.usbDevAddr) addresses there other same

omit [DecidableEq δ] in
theorem map_set_record {t : UsbPnp δ} {i : Nat} {found : UsbPnpDeviceInfo δ}
    (after : UsbPnpDeviceInfo δ) (place : t.infoList[i]? = some found) (id : after.id = found.id)
    (address : after.info.usbDevAddr = found.info.usbDevAddr) :
    ((t.infoList.set i after).map fun infoPos => infoPos.info.usbDevAddr) =
        (t.infoList.map fun infoPos => infoPos.info.usbDevAddr) ∧
      (t.infoList.set i after).map UsbPnpDeviceInfo.id = t.infoList.map UsbPnpDeviceInfo.id :=
  ⟨Keyed.map_set (fun infoPos : UsbPnpDeviceInfo δ => infoPos.info.usbDevAddr) place address,
    Keyed.map_set UsbPnpDeviceInfo.id place id⟩

/-- The handler of a new device that gets its entry in the list: it is given up before the
record, or the record is made, which waits to be reported if the descriptors are there. -/
theorem attachDevice_new (out : AttachOutcomes) (udev : δ) (t : UsbPnp δ)
    (new : isNew usb udev t = true) (entry : out.listCalloc = true) :
    ((t.listLockInit || out.osalMutexInit) && out.usbCreateUsbDevice && out.infoCalloc) = false ∧
        (t.attachDevice usb out udev).infoList = t.infoList ∧
        (t.attachDevice usb out udev).usbDevice = t.usbDevice ∧
        ((t.attachDevice usb out udev).deviceList = t.deviceList ∨
          (t.attachDevice usb out udev).deviceList = t.deviceList ++ [udev]) ∨
      (t.attachDevice usb out udev).deviceList = t.deviceList ++ [udev] ∧
        ((t.listLockInit || out.osalMutexInit) && out.usbCreateUsbDevice && out.infoCalloc) = true ∧
        ∃ deviceInfo : UsbPnpDeviceInfo δ, drawnIds 1 t.idNum = [deviceInfo.id] ∧
          deviceInfo.status = .init ∧ deviceInfo.info.usbDevAddr = some (.device udev) ∧
          (t.attachDevice usb out udev).infoList = t.infoList ++ [deviceInfo] ∧
          if (usb (.device udev)).described = true then
            (t.attachDevice usb out udev).usbDevice = some (.device udev) ∧
              (t.attachDevice usb out udev).cmdType = .addDevice
          else (t.attachDevice usb out udev).usbDevice = t.usbDevice := by
  obtain ⟨plain,unlisted⟩ : (usb (.device udev)).isHub = false ∧ udev ∉ t.deviceList := by
    simpa [isNew] using new
  by_cases locked : t.listLockInit = false ∧ out.osalMutexInit = false
  · exact .inl ⟨by simp [locked],by simp [attachDevice,plain,unlisted,locked]⟩
  · have lock : (t.listLockInit || out.osalMutexInit) = true := by
      cases first : t.listLockInit <;> simp [first] at locked ⊢
      exact locked
    cases create : out.usbCreateUsbDevice with
    | false =>
      exact .inl ⟨by simp,by simp [attachDevice,plain,unlisted,locked,create]⟩
    | true =>
      have goes : t.attachDevice usb out udev = addDevice usb out.infoCalloc udev {t with
          listLockInit := true,deviceList := t.deviceList ++ [udev]} := by
        simp [attachDevice,plain,unlisted,locked,create,createDeviceList,entry]
      cases calloc : out.infoCalloc with
      | false =>
        exact .inl ⟨by simp,by simp [goes,calloc,addDevice,createInfo]⟩
      | true =>
        obtain ⟨deviceInfo,drawn,init,address,made⟩ := addDevice_made usb udev {t with
          listLockInit := true,deviceList := t.deviceList ++ [udev]}
        rw [calloc,made] at goes
        refine .inr ⟨?_,by simp [lock],deviceInfo,drawn,init,address,?_,?_⟩
        · rw [goes]
          dsimp only
          split <;> rfl
        · rw [goes]
          dsimp only
          split <;> rfl
        · rw [goes]
          split
          next => simp [post]
          next => simp

theorem detachDevice_listed (udev : δ) (t : UsbPnp δ) (member : udev ∈ t.deviceList) :
    (t.detachDevice udev).deviceList = t.deviceList.erase udev ∧
      (((∀ infoPos ∈ t.infoList, infoPos.info.usbDevAddr ≠ some (.device udev)) ∧
          (t.detachDevice udev).infoList = t.infoList ∧
          (t.detachDevice udev).usbDevice = t.usbDevice) ∨
        ∃ (i : Nat) (found : UsbPnpDeviceInfo δ), t.infoList[i]? = some found ∧
          found ∈ t.infoList ∧ found.info.usbDevAddr = some (.device udev) ∧
          (t.detachDevice udev).infoList = t.infoList.set i (restart .remove found) ∧
          (t.detachDevice udev).usbDevice = some (.device udev) ∧
          (t.detachDevice udev).cmdType = .removeDevice) := by
  unfold detachDevice
  simp only [findInfo]
  cases search : t.infoList.findIdx? (UsbInfoQueryPara.deviceAddress (.device udev)).finds with
  | none =>
    refine ⟨by simp [member],.inl ⟨?_,by simp [member],by simp [member]⟩⟩
    intro infoPos there
    simpa [UsbInfoQueryPara.finds] using List.findIdx?_eq_none_iff.mp search infoPos there
  | some i =>
    obtain ⟨found,place,there,own⟩ := Keyed.findIdx?_found search
    refine ⟨by simp [member,place,post,setInfo],.inr ⟨i,found,place,there,?_,?_⟩⟩
    · simpa [UsbInfoQueryPara.finds] using own
    · simp [member,place,post,setInfo]

/-- An interface command restarts the record that it is about and no other. -/
theorem readPnpInfo_taken (usbPnpInfo : UsbPnpAddRemoveInfo) (t : UsbPnp δ)
    (addresses : (t.infoList.map fun infoPos => infoPos.info.usbDevAddr).Nodup)
    (ids : (t.infoList.map UsbPnpDeviceInfo.id).Nodup) :
    (t.readPnpInfo (some usbPnpInfo)).deviceList = t.deviceList ∧
      ((t.readPnpInfo (some usbPnpInfo)).infoList.map fun infoPos => infoPos.info.usbDevAddr) =
        (t.infoList.map fun infoPos => infoPos.info.usbDevAddr) ∧
      (t.readPnpInfo (some usbPnpInfo)).infoList.map UsbPnpDeviceInfo.id =
        t.infoList.map UsbPnpDeviceInfo.id ∧
      ∀ udev, ∀ infoPos ∈ t.infoList, infoPos.info.usbDevAddr = some (.device udev) →
        infoPos.status = .add → ∃ after ∈ (t.readPnpInfo (some usbPnpInfo)).infoList,
          after.info.usbDevAddr = some (.device udev) ∧ after.status =
            if (t.readPnpInfo (some usbPnpInfo)).subject = some (.device udev) then .init
            else .add := by
  obtain ⟨query,normal⟩ : ∃ query : UsbInfoQueryPara δ,
      query = .normal usbPnpInfo.devNum usbPnpInfo.busNum := ⟨_,rfl⟩
  unfold readPnpInfo
  simp only [findInfo,← normal]
  cases search : t.infoList.findIdx? query.finds with
  | none =>
    refine ⟨rfl,rfl,rfl,fun udev infoPos there address added => ⟨infoPos,there,address,?_⟩⟩
    simpa [subject,findInfo,← normal,search] using added
  | some i =>
    obtain ⟨found,place,there,-⟩ := Keyed.findIdx?_found search
    obtain ⟨after,restarted⟩ : ∃ after, after = restart .interface found := ⟨_,rfl⟩
    have info : after.info = found.info := by rw [restarted]; rfl
    have id : after.id = found.id := by rw [restarted]; rfl
    have same := map_set_record after place id (by rw [info])
    have mem := Keyed.mem_set UsbPnpDeviceInfo.id ids place id
    have again : (t.infoList.set i after).findIdx? query.finds = some i := by
      rw [Keyed.findIdx?_set place (by simp only [normal,UsbInfoQueryPara.finds,info]),search]
    have bound := (List.getElem?_eq_some_iff.mp place).1
    simp only [place,setInfo,← restarted]
    refine ⟨trivial,same.1,same.2,fun udev infoPos former address added => ?_⟩
    simp only [subject,findInfo,← normal,again,List.getElem?_set_self bound,
      Option.bind_some,info]
    by_cases own : infoPos.id = found.id
    · obtain rfl := Keyed.unique UsbPnpDeviceInfo.id ids former there own
      refine ⟨after,(mem after).mpr (.inl rfl),by rw [info,address],?_⟩
      simp [restarted,restart,address,added]
    · have apart : found.info.usbDevAddr ≠ some (.device udev) := fun both =>
        own (congrArg UsbPnpDeviceInfo.id
          (address_unique addresses former there (address.trans both.symm)))
      exact ⟨infoPos,(mem infoPos).mpr (.inr ⟨former,own⟩),address,by simpa [apart] using added⟩

end UsbPnp

end DriversAdapter.Usb
