import DriversAdapter.Usb.PnpEvents
import DriversAdapter.Usb.PnpReport

/-! What becomes of a record that an interface command is about: the handler restarts it, the
report thread sends it, and an end that a new device shares with it gives it up. -/
namespace DriversAdapter.Usb
open DriversAdapter.Base DriversAdapter.Semantics

variable {δ : Type} [DecidableEq δ]

namespace UsbPnp
variable (usb : EventData δ → UsbDevice)

/-- The loader's answer leads to the same end as its acceptance. -/
def sendEventLoader (ioServiceBind : Bool) (dispatched : Int)
    (table : UsbPnpNotifyMatchInfoTable δ) (s : UsbPnp δ) : Int × UsbPnp δ :=
  if ioServiceBind = false then (hdfFailure,s)
  else
    let s := {s with sent := s.sent ++ [(s.cmdType,table)]}
    if dispatched ≠ hdfSuccess then (hdfSuccess,s) else (hdfSuccess,s)

/-- A command is dispatched and taken up by the report thread; what its report returns, and the
state then. -/
def handleInterface (cmd : UsbPnpNotifyServiceCmd) (info : UsbPnpAddRemoveInfo) (out : SendOutcomes)
    (s : UsbPnp δ) : Int × UsbPnp δ :=
  let taken := ((s.dispatch usb true cmd (some info) (fun _ => out) hdfSuccess).2).wake false
  ((taken.hdfSendEvent usb out (some .pnpInfo)).1,taken.reportThread usb out)

def Attached (deviceInfo : UsbPnpDeviceInfo δ) (s : UsbPnp δ) : Prop :=
  ∃ udev ∈ s.deviceList, deviceInfo.info.usbDevAddr = some (.device udev)

end UsbPnp

/-- The interface table and the status of a record, and which one it is. -/
def UsbPnpDeviceInfo.snapshot (deviceInfo : UsbPnpDeviceInfo δ) :
    Int32 × UsbPnpDeviceStatus × (Nat → Bool) × UInt8 × (Nat → InterfaceInfo) :=
  (deviceInfo.id,deviceInfo.status,deviceInfo.interfaceRemoveStatus,deviceInfo.info.numInfos,
    deviceInfo.info.interfaceInfo)

/-- The record of an attached device stays in its place, a failure changes no table and no status,
and the record counts as added only where the loader has accepted. -/
structure Spared (dispatched : Int) (s : UsbPnp δ) (i : Nat) (record : UsbPnpDeviceInfo δ)
    (done : Int × UsbPnp δ) : Prop where
  kept : s.Attached record → ∃ after, done.2.infoList[i]? = some after ∧ after.id = record.id
  unchanged : done.1 ≠ hdfSuccess →
    done.2.infoList.map UsbPnpDeviceInfo.snapshot = s.infoList.map UsbPnpDeviceInfo.snapshot
  marked : ∀ after, done.2.infoList[i]? = some after → after.status = .add →
    dispatched = hdfSuccess

namespace UsbPnp
variable (usb : EventData δ → UsbDevice)

omit [DecidableEq δ] in
/-- A record is sent as the loader's answer has it, whatever that is. -/
theorem sendInit_loader (ioServiceBind : Bool) (dispatched : Int)
    (table : UsbPnpNotifyMatchInfoTable δ) (deviceInfo : UsbPnpDeviceInfo δ) (s : UsbPnp δ) :
    s.sendInit ioServiceBind table deviceInfo =
      if deviceInfo.status ≠ .init then (hdfErrInvalidObject,deviceInfo,s)
      else
        let sent := s.sendEventLoader ioServiceBind dispatched table
        if sent.1 ≠ hdfSuccess then (sent.1,deviceInfo,sent.2)
        else (hdfSuccess,{deviceInfo with status := .add},sent.2) := by
  have failing : hdfFailure ≠ hdfSuccess := by decide
  unfold sendInit sendEventLoader
  cases ioServiceBind with
  | false => simp [failing]
  | true => simp

theorem handleInterface_run (cmd : UsbPnpNotifyServiceCmd) (info : UsbPnpAddRemoveInfo)
    (out : SendOutcomes) (s : UsbPnp δ) : (s.handleInterface usb cmd info out).2 =
      (Machine.run (step usb) [.dispatch true cmd (some info) (fun _ => out) hdfSuccess,
        .wake false,.report out] s).2 := rfl

section Found
variable {s : UsbPnp δ} {cmd : UsbPnpNotifyServiceCmd} {info : UsbPnpAddRemoveInfo} {i : Nat}
variable {record : UsbPnpDeviceInfo δ} (interface : cmd.isInterface = true)
variable (found : s.findInfo (.normal info.devNum info.busNum) = some i)
variable (here : s.infoList[i]? = some record)

include found here in
theorem readPnpInfo_found : s.readPnpInfo (some info) = {s with
    pnpInfo := info,usbDevice := some .pnpInfo
    infoList := s.infoList.set i (restart .interface record)} := by
  have again : ({s with pnpInfo := info,usbDevice := some .pnpInfo} : UsbPnp δ).findInfo
      (.normal info.devNum info.busNum) = some i := found
  unfold readPnpInfo
  dsimp only
  rw [again]
  dsimp only
  rw [here]
  rfl

include interface found here in
/-- The state in which the report thread takes the command up. -/
theorem taken_spec (out : SendOutcomes) : ∃ taken : UsbPnp δ,
    ((s.dispatch usb true cmd (some info) (fun _ => out) hdfSuccess).2).wake false = taken ∧
      taken.infoList = s.infoList.set i (restart .interface record) ∧ taken.cmdType = cmd ∧
      taken.pnpInfo = info ∧ taken.woken = true := by
  have taken : ({s with cmdType := cmd} : UsbPnp δ).readPnpInfo (some info) = {s with
      cmdType := cmd,pnpInfo := info,usbDevice := some .pnpInfo
      infoList := s.infoList.set i (restart .interface record)} := readPnpInfo_found found here
  cases cmd with
  | addInterface =>
    simp only [dispatch,taken,wake]
    exact ⟨_,rfl,rfl,rfl,rfl,rfl⟩
  | removeInterface =>
    simp only [dispatch,taken,wake]
    exact ⟨_,rfl,rfl,rfl,rfl,rfl⟩
  | reportInterface | driverRegisterDevice | driverUnregisterDevice | addDevice | removeDevice =>
    exact absurd interface Bool.false_ne_true
  | other cmd => exact absurd interface Bool.false_ne_true

include here in
omit [DecidableEq δ] in
theorem index_lt : i < s.infoList.length := (List.getElem?_eq_some_iff.mp here).1

omit [DecidableEq δ] in
theorem restart_status : (restart .interface record).status = .init ↔ record.status ≠ .init := by
  unfold restart
  dsimp only
  split <;> simp_all

omit [DecidableEq δ] in
theorem restart_status_ne : (restart .interface record).status ≠ record.status := by
  unfold restart
  dsimp only
  split
  next other => exact Ne.symm other
  next same =>
    rw [not_not.mp same]
    decide

theorem hdfSendEvent_ret (out : SendOutcomes) (eventData : EventData δ) (s t : UsbPnp δ) (i : Nat)
    (deviceInfo : UsbPnpDeviceInfo δ) (obtained : out.sbufObtain = true)
    (got : s.getDeviceInfo out.osalMemCalloc eventData = (some i,t))
    (there : t.infoList[i]? = some deviceInfo) :
    (s.hdfSendEvent usb out (some eventData)).1 = hdfSuccess ↔
      t.Sends usb out eventData deviceInfo := by
  let removed := {deviceInfo with info := {deviceInfo.info with removeType := t.removeType}}
  have sends := (initAndSend_done usb out eventData removed t).1
  have done : s.hdfSendEvent usb out (some eventData) =
      endReport i (t.initAndSend usb out eventData removed) := by
    simp [hdfSendEvent,obtained,got,there,removed]
  have ret : (s.hdfSendEvent usb out (some eventData)).1 =
      (t.initAndSend usb out eventData removed).1 := by
    rw [done]
    unfold endReport
    dsimp only
    split <;> rfl
  rw [ret]
  exact sends

omit [DecidableEq δ] in
include interface in
theorem sends_interface (taken : UsbPnp δ) (cmdType : taken.cmdType = cmd) (out : SendOutcomes)
    (eventData : EventData δ) (obtained : out.sbufObtain = true) :
    taken.Sends usb out eventData (restart .interface record) ↔
      record.status ≠ .init ∧ out.sends = true := by
  have other : taken.cmdType ≠ .reportInterface := by
    rw [cmdType]
    rintro rfl
    exact absurd interface Bool.false_ne_true
  unfold Sends SendOutcomes.sends
  rw [restart_status,obtained,Bool.true_and,Bool.and_eq_true]
  constructor
  · rintro ⟨_,written,ready,bound⟩
    exact ⟨ready,written,bound⟩
  · rintro ⟨ready,written,bound⟩
    exact ⟨fun report => absurd report other,written,ready,bound⟩

include found here in
/-- The report finds the record that the handler has restarted. -/
theorem getDeviceInfo_taken {taken : UsbPnp δ}
    (infoList : taken.infoList = s.infoList.set i (restart .interface record))
    (isInterface : taken.cmdType.isInterface = true) (pnpInfo : taken.pnpInfo = info)
    (osalMemCalloc : Bool) : taken.getDeviceInfo osalMemCalloc .pnpInfo = (some i,taken) := by
  have searched : (UsbInfoQueryPara.normal info.devNum info.busNum).finds
      (restart .interface record) =
      (UsbInfoQueryPara.normal info.devNum info.busNum).finds record := rfl
  have finds : taken.findInfo (.normal info.devNum info.busNum) = some i := by
    unfold findInfo
    rw [infoList,Keyed.findIdx?_set here searched]
    exact found
  simp [getDeviceInfo,isInterface,pnpInfo,finds]

include interface found here in
/-- What the report makes of the record: nothing, or it is sent, or it is given up. -/
theorem handleInterface_cases (out : SendOutcomes) :
    (out.sbufObtain = false ∧ (s.handleInterface usb cmd info out).1 = hdfFailure ∧
        (s.handleInterface usb cmd info out).2.infoList =
          s.infoList.set i (restart .interface record)) ∨
      ∃ after : UsbPnpDeviceInfo δ, after.id = record.id ∧
        (record.status ≠ .init ∧ out.sends = true ∧
            (s.handleInterface usb cmd info out).1 = hdfSuccess ∧ after.status = .add ∧
            (s.handleInterface usb cmd info out).2.infoList = s.infoList.set i after ∨
          ¬ (record.status ≠ .init ∧ out.sends = true) ∧
            (s.handleInterface usb cmd info out).1 ≠ hdfSuccess ∧
            (s.handleInterface usb cmd info out).2.infoList =
              (s.infoList.set i after).eraseP fun infoPos => infoPos.id == after.id) := by
  obtain ⟨taken,same,infoList,cmdType,pnpInfo,woken⟩ := taken_spec usb interface found here out
  have isInterface : taken.cmdType.isInterface = true := by rw [cmdType,interface]
  have report : (s.handleInterface usb cmd info out).2.infoList =
      (taken.hdfSendEvent usb out (some .pnpInfo)).2.infoList := by
    simp [handleInterface,same,reportThread,woken,isInterface]
  have ret : (s.handleInterface usb cmd info out).1 =
      (taken.hdfSendEvent usb out (some .pnpInfo)).1 := by
    simp [handleInterface,same]
  rw [report,ret]
  cases obtained : out.sbufObtain with
  | false =>
    refine .inl ⟨rfl,?_,?_⟩
    · simp [hdfSendEvent,obtained]
    · simp [hdfSendEvent,obtained,infoList]
  | true =>
    have again : taken.getDeviceInfo out.osalMemCalloc .pnpInfo = (some i,taken) :=
      getDeviceInfo_taken found here infoList isInterface pnpInfo out.osalMemCalloc
    have there : taken.infoList[i]? = some (restart .interface record) := by
      rw [infoList,List.getElem?_set_self (index_lt here)]
    have other : taken.cmdType ≠ .removeDevice := by
      rw [cmdType]
      rintro rfl
      exact absurd interface Bool.false_ne_true
    have through : taken.Sends usb out .pnpInfo (restart .interface record) ↔
        record.status ≠ .init ∧ out.sends = true :=
      sends_interface usb interface taken cmdType out .pnpInfo obtained
    have succeeds := hdfSendEvent_ret usb out .pnpInfo taken taken i _ obtained again there
    obtain ⟨after,id,_,_,goes,stops⟩ :=
      hdfSendEvent_record usb out .pnpInfo taken taken i _ obtained again there
    rw [infoList,List.set_set] at goes stops
    refine .inr ⟨after,id,?_⟩
    by_cases sends : taken.Sends usb out .pnpInfo (restart .interface record)
    · obtain ⟨ready,all⟩ := through.mp sends
      obtain ⟨added,list⟩ := goes sends other
      exact .inl ⟨ready,all,succeeds.mpr sends,added,list⟩
    · exact .inr ⟨mt through.mpr sends,mt succeeds.mp sends,stops (.inl sends)⟩

omit [DecidableEq δ] in
theorem given_up_length (after : UsbPnpDeviceInfo δ) (bound : i < s.infoList.length) :
    ((s.infoList.set i after).eraseP fun infoPos => infoPos.id == after.id).length <
      s.infoList.length := by
  have some_record : 0 < s.infoList.length := Nat.lt_of_le_of_lt (Nat.zero_le i) bound
  have there : after ∈ s.infoList.set i after := List.mem_set bound after
  rw [List.length_eraseP_of_mem there (by simp),List.length_set]
  omega

include interface found here in
/-- The record of an interface command is spared where it has left its initial status and
everything after succeeds, the loader's answer included. -/
theorem interface_spared_iff (out : SendOutcomes) (dispatched : Int) :
    Spared dispatched s i record (s.handleInterface usb cmd info out) ↔
      record.status ≠ .init ∧ out.sends = true ∧ dispatched = hdfSuccess := by
  have bound := index_lt here
  have failing : hdfFailure ≠ hdfSuccess := by decide
  rcases handleInterface_cases usb interface found here out with ⟨none,ret,list⟩ |
    ⟨after,id,⟨ready,all,ret,added,list⟩ | ⟨refused,ret,list⟩⟩
  · -- Without a buffer the restart stays.
    constructor
    · intro spared
      have same := spared.unchanged (by rw [ret]; exact failing)
      have mine := congrArg (fun l => l[i]?.map fun snapshot => snapshot.2.1) same
      rw [list] at mine
      simp only [List.getElem?_map,List.getElem?_set_self bound,here,Option.map_some,
        Option.some.injEq] at mine
      exact absurd mine restart_status_ne
    · rintro ⟨_,all,_⟩
      simp [SendOutcomes.sends,none] at all
  · constructor
    · intro spared
      refine ⟨ready,all,spared.marked after ?_ added⟩
      rw [list,List.getElem?_set_self bound]
    · rintro ⟨_,_,accepted⟩
      refine ⟨fun _ => ⟨after,?_,id⟩,fun failed => absurd ret failed,fun _ _ _ => accepted⟩
      rw [list,List.getElem?_set_self bound]
  · constructor
    · intro spared
      have same := congrArg List.length (spared.unchanged ret)
      have fewer := given_up_length after bound
      rw [List.length_map,List.length_map,list] at same
      omega
    · rintro ⟨ready,all,_⟩
      exact absurd ⟨ready,all⟩ refused

end Found

private def reportedCamera : UsbPnp Nat :=
  (Machine.run (step camera) [plugged 0,.wake false,.report ⟨true,true,true,true⟩] boot).2

theorem interface_spared_accepted : ∃ record, reportedCamera.infoList[0]? = some record ∧
    Spared 0 reportedCamera 0 record (reportedCamera.handleInterface camera .removeInterface
      ⟨1,2,⟨14,1,0,0⟩⟩ ⟨true,true,true,true⟩) :=
  ⟨_,rfl,(interface_spared_iff camera rfl rfl rfl ⟨true,true,true,true⟩ 0).mpr
    ⟨by decide,rfl,rfl⟩⟩

/-- With no loader service the record of the attached camera goes. -/
theorem interface_gives_up_record : reportedCamera.deviceList = [0] ∧
    ∃ record, reportedCamera.infoList[0]? = some record ∧ reportedCamera.Attached record ∧
      (reportedCamera.handleInterface camera .removeInterface ⟨1,2,⟨14,1,0,0⟩⟩
        ⟨true,true,true,false⟩).2.infoList.length = 0 ∧
      ¬ Spared 0 reportedCamera 0 record (reportedCamera.handleInterface camera .removeInterface
        ⟨1,2,⟨14,1,0,0⟩⟩ ⟨true,true,true,false⟩) := by
  refine ⟨rfl,_,rfl,⟨0,List.mem_cons_self,rfl⟩,rfl,fun spared => ?_⟩
  obtain ⟨after,there,_⟩ := spared.kept ⟨0,List.mem_cons_self,rfl⟩
  have gone : (reportedCamera.handleInterface camera .removeInterface ⟨1,2,⟨14,1,0,0⟩⟩
      ⟨true,true,true,false⟩).2.infoList = [] := List.length_eq_zero_iff.mp rfl
  rw [gone] at there
  exact nomatch there

end UsbPnp
end DriversAdapter.Usb
