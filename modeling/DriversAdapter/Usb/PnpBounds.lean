import DriversAdapter.Usb.PnpEvents
import DriversAdapter.Usb.PnpTable
import DriversAdapter.Usb.PnpReport

/-! How many interfaces the records count: in every run of the notifier no more than the largest
count that a device announces. -/
namespace DriversAdapter.Usb
open DriversAdapter.Base DriversAdapter.Semantics

variable {δ : Type}

namespace UsbPnp
variable [DecidableEq δ] {max : Nat} {s : UsbPnp δ} {record : UsbPnpDeviceInfo δ}

/-- No record counts more interfaces than the tables have entries. -/
def Bounded (max : Nat) (s : UsbPnp δ) : Prop :=
  ∀ record ∈ s.infoList, record.info.numInfos.toNat ≤ max

section Bounds
variable (usb : EventData δ → UsbDevice)
variable (fits : ∀ infoData num, (usb infoData).cdesc = some num → num.toNat ≤ max)

omit [DecidableEq δ] in
theorem bounded_set {i : Nat} {t : UsbPnp δ} (bounded : s.Bounded max)
    (list : t.infoList = s.infoList.set i record) (small : record.info.numInfos.toNat ≤ max) :
    t.Bounded max := by
  intro other member
  rw [list] at member
  rcases List.mem_or_eq_of_mem_set member with before | same
  · exact bounded other before
  · rw [same]
    exact small

omit [DecidableEq δ] in
theorem bounded_createInfo (osalMemCalloc : Bool) (bounded : s.Bounded max) :
    (s.createInfo osalMemCalloc).2.Bounded max := by
  unfold createInfo
  split
  · exact bounded
  · intro record member
    rcases List.mem_append.mp member with before | fresh
    · exact bounded record before
    · rw [List.mem_singleton.mp fresh]
      exact Nat.zero_le max

theorem bounded_getDeviceInfo (osalMemCalloc : Bool) (eventData : EventData δ)
    (bounded : s.Bounded max) : (s.getDeviceInfo osalMemCalloc eventData).2.Bounded max := by
  unfold getDeviceInfo
  split
  · exact bounded
  · split
    · exact bounded
    · exact bounded
    · exact bounded_createInfo osalMemCalloc bounded

include fits in
omit [DecidableEq δ] in
theorem addInitInfo_small (infoData : EventData δ) (small : record.info.numInfos.toNat ≤ max) :
    (record.addInitInfo usb infoData).2.info.numInfos.toNat ≤ max := by
  unfold UsbPnpDeviceInfo.addInitInfo
  cases count : (usb infoData).cdesc with
  | none => exact small
  | some num => exact fits infoData num count

include fits in
omit [DecidableEq δ] in
theorem initAndSend_small (out : SendOutcomes) (eventData : EventData δ)
    (small : record.info.numInfos.toNat ≤ max) :
    (s.initAndSend usb out eventData record).2.1.info.numInfos.toNat ≤ max := by
  have made :
      (s.initInfo usb out.sbufWriteBuffer eventData record).2.2.info.numInfos.toNat ≤ max := by
    unfold initInfo
    dsimp only
    split
    next interface =>
      split
      · exact small
      · split <;> exact small
    next other =>
      split
      next report =>
        have filled := addInitInfo_small usb fits eventData small
        split
        · exact filled
        · split <;> exact filled
      next plain =>
        split
        · exact small
        · split <;> exact small
  unfold initAndSend sendInit
  dsimp only
  split
  · exact made
  · split
    · exact made
    · split <;> exact made

include fits in
theorem bounded_hdfSendEvent (out : SendOutcomes) (eventData : Option (EventData δ))
    (bounded : s.Bounded max) : (s.hdfSendEvent usb out eventData).2.Bounded max := by
  unfold hdfSendEvent
  cases eventData with
  | none => exact bounded
  | some eventData =>
    dsimp only
    split
    · exact bounded
    · have got := bounded_getDeviceInfo out.osalMemCalloc eventData bounded
      split
      next t found =>
        rw [found] at got
        exact got
      next i t found =>
        rw [found] at got
        split
        · exact got
        next deviceInfo here =>
          let removed := {deviceInfo with info := {deviceInfo.info with removeType := t.removeType}}
          have small : removed.info.numInfos.toNat ≤ max :=
            got deviceInfo (List.mem_of_getElem? here)
          have sent := initAndSend_small usb fits (s := t) out eventData small
          have list : (t.initAndSend usb out eventData removed).2.2.infoList = t.infoList :=
            (initAndSend_done usb out eventData removed t).2.2.2.2.1
          have after : ((t.initAndSend usb out eventData removed).2.2.setInfo i
              (t.initAndSend usb out eventData removed).2.1).Bounded max :=
            bounded_set (i := i) got (by rw [setInfo,list]) sent
          unfold endReport
          dsimp only
          split
          · intro other member
            exact after other (List.mem_of_mem_eraseP member)
          · exact after

include fits in
theorem bounded_reportEach (out : Nat → SendOutcomes) (devices : List δ) (i : Nat)
    (bounded : s.Bounded max) : (s.reportEach usb devices out i).Bounded max := by
  induction devices generalizing i s with
  | nil => exact bounded
  | cons udev rest ih => exact ih (i + 1) (bounded_hdfSendEvent usb fits (out i) _ bounded)

include fits in
theorem bounded_attachDevice (out : AttachOutcomes) (udev : δ) (bounded : s.Bounded max) :
    (s.attachDevice usb out udev).Bounded max := by
  have added (t : UsbPnp δ) (before : t.Bounded max) :
      (t.addDevice usb out.infoCalloc udev).Bounded max := by
    have made := bounded_createInfo out.infoCalloc before
    unfold addDevice
    split
    next u found =>
      rw [found] at made
      exact made
    next i u found =>
      rw [found] at made
      split
      · exact made
      next deviceInfo here =>
        have small := addInitInfo_small usb fits (.device udev)
          (made deviceInfo (List.mem_of_getElem? here))
        have filled := bounded_set (i := i) (t := u.setInfo i
          (deviceInfo.addInitInfo usb (.device udev)).2) made rfl small
        dsimp only
        split <;> exact filled
  unfold attachDevice
  split
  · exact bounded
  · split
    · exact bounded
    · dsimp only
      split
      · exact bounded
      · apply added
        unfold createDeviceList
        split <;> exact bounded

omit [DecidableEq δ] in
theorem bounded_restart {i : Nat} (instead : UsbPnpDeviceStatus) (bounded : s.Bounded max)
    (here : s.infoList[i]? = some record) : (s.setInfo i (restart instead record)).Bounded max :=
  bounded_set bounded rfl (bounded record (List.mem_of_getElem? here))

theorem bounded_detachDevice (udev : δ) (bounded : s.Bounded max) :
    (s.detachDevice udev).Bounded max := by
  unfold detachDevice
  split
  · exact bounded
  · dsimp only
    split
    · exact bounded
    · split
      · exact bounded
      next deviceInfo here => exact bounded_restart .remove bounded here

theorem bounded_readPnpInfo (data : Option UsbPnpAddRemoveInfo) (bounded : s.Bounded max) :
    (s.readPnpInfo data).Bounded max := by
  unfold readPnpInfo
  cases data with
  | none => exact bounded
  | some usbPnpInfo =>
    dsimp only
    split
    · exact bounded
    · split
      · exact bounded
      next deviceInfo here => exact bounded_restart .interface bounded here

include fits in
theorem bounded_step (event : UsbPnpEvent δ) (bounded : s.Bounded max) :
    (step usb event s).2.Bounded max := by
  cases event with
  | attach udev out => exact bounded_attachDevice usb fits out udev bounded
  | detach udev => exact bounded_detachDevice udev bounded
  | dispatch parties cmd data out registered =>
    simp only [step,dispatch]
    split
    · exact bounded
    · cases cmd with
      | addInterface | removeInterface => exact bounded_readPnpInfo data bounded
      | reportInterface => exact bounded_reportEach usb fits out _ 0 bounded
      | _ => exact bounded
  | wake interrupted =>
    simp only [step,wake]
    split <;> exact bounded
  | report out =>
    simp only [step,reportThread]
    split
    · exact bounded
    · exact bounded_hdfSendEvent usb fits out _ bounded

include fits in
/-- In every run the records are as small as the devices. -/
theorem run_bounded (events : List (UsbPnpEvent δ)) (bounded : s.Bounded max) :
    (Machine.run (step usb) events s).2.Bounded max := by
  induction events generalizing s with
  | nil => exact bounded
  | cons event rest ih => exact ih (bounded_step usb fits event bounded)

include fits in
/-- Whatever has happened to the notifier, what its next tables are made of is in them, both those of
a record and those of an interface event. -/
theorem notifier_tables_within (some_entry : 0 < max) (events : List (UsbPnpEvent δ)) :
    (∀ record ∈ (Machine.run (step usb) events boot).2.infoList,
        record.info.numInfos.toNat ≤ max ∧
          ∀ (cmdType : UsbPnpNotifyServiceCmd) (infoData : InterfaceInfo)
            (infoTable : Nat → InterfaceInfo),
            (record.interfaceTable cmdType infoData infoTable).Within max) ∧
      ∀ (infoData : EventData δ) (record : UsbPnpDeviceInfo δ),
        (record.initTable usb infoData).Within max := by
  have bounded : (boot : UsbPnp δ).Bounded max := fun record none => nomatch none
  have small := run_bounded usb fits events bounded
  refine ⟨fun record member => ⟨small record member,fun cmdType infoData infoTable => ?_⟩,?_⟩
  · rw [UsbPnpDeviceInfo.interfaceTable_within_iff some_entry]
    exact small record member
  · intro infoData record
    exact UsbPnpDeviceInfo.initTable_within usb infoData (fits infoData)

end Bounds

/-- One camera loses its interface before a second one comes. -/
private def twoCameras : List (UsbPnpEvent Nat) :=
  [plugged 0,.wake false,.report ⟨true,true,true,true⟩,
    .dispatch true .removeInterface (some ⟨1,2,⟨14,1,0,0⟩⟩) (fun _ => ⟨true,true,true,true⟩) 0,
    .wake false,.report ⟨true,true,true,true⟩,plugged 1]

theorem notifier_tables_within_cameras :
    (Machine.run (step camera) twoCameras boot).2.infoList.map (·.info.numInfos) = [1,1] ∧
      ∀ record ∈ (Machine.run (step camera) twoCameras boot).2.infoList,
        ∀ cmdType infoData infoTable,
          (record.interfaceTable cmdType infoData infoTable).Within 32 := by
  have small : ∀ infoData num, (camera infoData).cdesc = some num → num.toNat ≤ 32 := by
    intro infoData num count
    cases count
    decide
  refine ⟨by decide,fun record member => ?_⟩
  exact ((notifier_tables_within camera small (by decide) twoCameras).1 record member).2

end UsbPnp

end DriversAdapter.Usb
