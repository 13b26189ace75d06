import DriversAdapter.Usb.PnpTable
import DriversAdapter.Usb.PnpInterface

/-! What the interface commands on a device report, one after the other: a removal the interface
that it names, an addition the device's interfaces that are there. -/
namespace DriversAdapter.Usb
open DriversAdapter.Base DriversAdapter.Semantics DriversAdapter.Semantics.Touching

variable {δ : Type}

/-- A command that adds or removes an interface. -/
structure InterfaceCommand where
  cmdType : UsbPnpNotifyServiceCmd
  interface : cmdType.isInterface = true
  infoData : InterfaceInfo

/-- The last command that names the interface is its removal. -/
def removedBy (history : List InterfaceCommand) (x : InterfaceInfo) : Bool :=
  history.foldl (fun removed c => if c.infoData = x then c.cmdType == .removeInterface else removed)
    false

/-- What a command on a device with these interfaces should report. -/
def wantedEntries (descs : List InterfaceInfo) (history : List InterfaceCommand)
    (c : InterfaceCommand) : List InterfaceInfo :=
  if c.cmdType = .removeInterface then [c.infoData]
  else descs.filter fun x => !removedBy (history ++ [c]) x

/-- A device's record, and the static table that events are built in. -/
structure PnpTables (δ : Type) where
  record : UsbPnpDeviceInfo δ
  infoTable : Nat → InterfaceInfo

namespace PnpTables

def command (c : InterfaceCommand) (s : PnpTables δ) : Touching InterfaceTable × PnpTables δ :=
  let done := s.record.interfaceTable c.cmdType c.infoData s.infoTable
  (⟨done.value.1,done.touched⟩,⟨done.value.2,done.value.1.interfaceInfo⟩)

/-- A record as it is made for a device, and then filled in from its descriptors. -/
def build (usb : EventData δ → UsbDevice) (infoData : EventData δ) (id : Int32) :
    Touching (Int × UsbPnpDeviceInfo δ) :=
  (⟨id,.init,fun _ => false,.zero⟩ : UsbPnpDeviceInfo δ).initTable usb infoData

/-- The tables when a device has been attached and commands have been handled. -/
def after (usb : EventData δ → UsbDevice) (infoData : EventData δ) (id : Int32)
    (infoTable : Nat → InterfaceInfo) (commands : List InterfaceCommand) : PnpTables δ :=
  (Machine.run command commands ⟨(build usb infoData id).value.2,infoTable⟩).2

section Runs
variable {s : PnpTables δ} {c : InterfaceCommand} {descs : List InterfaceInfo}
variable {history : List InterfaceCommand} {max : Nat}

theorem command_record : (command c s).2.record = {s.record with
    interfaceRemoveStatus := s.record.markInterfaces c.cmdType c.infoData} :=
  UsbPnpDeviceInfo.marked_value

theorem command_info : (command c s).2.record.info = s.record.info := by
  rw [command_record]

theorem run_info (commands : List InterfaceCommand) :
    (Machine.run command commands s).2.record.info = s.record.info := by
  induction commands generalizing s with
  | nil => rfl
  | cons c rest ih => exact ih.trans command_info

theorem command_within_iff (some_entry : 0 < max) :
    (command c s).1.Within max ↔ s.record.info.numInfos.toNat ≤ max :=
  UsbPnpDeviceInfo.interfaceTable_within_iff some_entry

variable (usb : EventData δ → UsbDevice) (infoData : EventData δ) (id : Int32)
  (infoTable : Nat → InterfaceInfo)

theorem after_numInfos (commands : List InterfaceCommand) :
    (after usb infoData id infoTable commands).record.info.numInfos =
      ((usb infoData).cdesc).getD 0 := by
  unfold after
  rw [run_info]
  dsimp only
  rw [build,UsbPnpDeviceInfo.initTable_value]
  unfold UsbPnpDeviceInfo.addInitInfo
  cases (usb infoData).cdesc <;> rfl

/-- The record has the device's interfaces, and the flags of those that were removed. -/
structure Knows (descs : List InterfaceInfo) (history : List InterfaceCommand) (s : PnpTables δ) :
    Prop where
  numInfos : s.record.info.numInfos.toNat = descs.length
  interfaceInfo : ∀ i x, descs[i]? = some x → s.record.info.interfaceInfo i = x
  flags : ∀ i x, descs[i]? = some x → s.record.interfaceRemoveStatus i = removedBy history x

theorem flagAfter_interface (c : InterfaceCommand) (before : Bool) :
    UsbPnpDeviceInfo.flagAfter c.cmdType before = (c.cmdType == .removeInterface) := by
  obtain ⟨cmdType,interface,_⟩ := c
  cases cmdType with
  | addInterface | removeInterface => rfl
  | _ => exact absurd interface Bool.false_ne_true

theorem removedBy_append (x : InterfaceInfo) : removedBy (history ++ [c]) x =
    if c.infoData = x then c.cmdType == .removeInterface else removedBy history x := by
  unfold removedBy
  rw [List.foldl_append]
  rfl

variable (c) in
theorem command_knows (knows : s.Knows descs history) :
    (command c s).2.Knows descs (history ++ [c]) := by
  refine ⟨?_,?_,?_⟩
  · rw [command_info]
    exact knows.numInfos
  · rw [command_info]
    exact knows.interfaceInfo
  · intro i x found
    have bound := (List.getElem?_eq_some_iff.mp found).1
    have inside : i < s.record.info.numInfos.toNat := by
      rw [knows.numInfos]
      exact bound
    have marked : s.record.markInterfaces c.cmdType c.infoData i =
        if i < s.record.info.numInfos.toNat ∧ c.infoData = s.record.info.interfaceInfo i then
          UsbPnpDeviceInfo.flagAfter c.cmdType (s.record.interfaceRemoveStatus i)
        else s.record.interfaceRemoveStatus i := rfl
    rw [command_record]
    dsimp only
    rw [marked,flagAfter_interface,knows.interfaceInfo i x found,knows.flags i x found,
      removedBy_append]
    simp only [inside,true_and]

theorem run_knows (commands : List InterfaceCommand) (knows : s.Knows descs history) :
    (Machine.run command commands s).2.Knows descs (history ++ commands) := by
  induction commands generalizing s history with
  | nil =>
    rw [List.append_nil]
    exact knows
  | cons c rest ih =>
    have later := ih (command_knows c knows)
    rw [List.append_assoc,List.singleton_append] at later
    exact later

theorem presentInterfaces_knows (knows : s.Knows descs history) :
    s.record.presentInterfaces = descs.filter fun x => !removedBy history x := by
  have place (i : Nat) (bound : i < descs.length) :
      descs[i]? = some (s.record.info.interfaceInfo i) := by
    have found := List.getElem?_eq_getElem bound
    rw [knows.interfaceInfo i _ found]
    exact found
  have all : descs = (List.range descs.length).map s.record.info.interfaceInfo := by
    apply List.ext_getElem?
    intro i
    rw [List.getElem?_map]
    rcases Nat.lt_or_ge i descs.length with bound | behind
    · rw [place i bound,List.getElem?_range bound]
      rfl
    · rw [List.getElem?_eq_none behind,List.getElem?_eq_none (by rwa [List.length_range])]
      rfl
  unfold UsbPnpDeviceInfo.presentInterfaces
  rw [knows.numInfos]
  conv_rhs => rw [all,List.filter_map]
  congr 1
  apply List.filter_congr
  intro i member
  have found := place i (List.mem_range.mp member)
  rw [knows.flags i _ found]
  rfl

/-- What the command reports is what it should. -/
theorem command_entries (knows : s.Knows descs history) :
    (command c s).1.value.entries = wantedEntries descs history c := by
  have present := presentInterfaces_knows (command_knows c knows)
  have made : (command c s).1.value.entries = (command c s).2.record.reportedInterfaces c.cmdType
      c.infoData := UsbPnpDeviceInfo.interfaceTable_entries
  rw [made]
  unfold wantedEntries UsbPnpDeviceInfo.reportedInterfaces
  rw [present]
  cases c.cmdType <;> rfl

theorem fillInterfaces_before (ifaces : Nat → Option InterfaceInfo) (left i k : Nat)
    (interfaceInfo : Nat → InterfaceInfo) (before : k < i) :
    (UsbPnpDeviceInfo.fillInterfaces ifaces left i interfaceInfo).2 k = interfaceInfo k := by
  induction left generalizing i interfaceInfo with
  | zero => rfl
  | succ left ih =>
    simp only [UsbPnpDeviceInfo.fillInterfaces]
    cases ifaces i with
    | none => rfl
    | some idesc => exact (ih (i + 1) _ (by omega)).trans (if_neg (Nat.ne_of_lt before))

/-- Every descriptor goes to the entry of its place. -/
theorem fillInterfaces_entry (ifaces : Nat → Option InterfaceInfo) (left i : Nat)
    (interfaceInfo : Nat → InterfaceInfo) (all : ∀ k, i ≤ k → k < i + left → ifaces k ≠ none)
    (k : Nat) (x : InterfaceInfo) (low : i ≤ k) (high : k < i + left) (found : ifaces k = some x) :
    (UsbPnpDeviceInfo.fillInterfaces ifaces left i interfaceInfo).2 k = x := by
  induction left generalizing i interfaceInfo with
  | zero => omega
  | succ left ih =>
    obtain ⟨idesc,first⟩ := Option.ne_none_iff_exists'.mp (all i (Nat.le_refl i) (by omega))
    simp only [UsbPnpDeviceInfo.fillInterfaces,first]
    by_cases here : k = i
    · rw [fillInterfaces_before ifaces left (i + 1) k _ (by omega),if_pos here]
      rw [here,first] at found
      exact Option.some.inj found
    · apply ih (i + 1) _ (fun m low high => all m (by omega) (by omega)) (by omega) (by omega)

/-- The record of a device, all of whose interfaces have descriptors. -/
theorem build_knows {num : UInt8} (count : (usb infoData).cdesc = some num)
    (length : descs.length = num.toNat)
    (described : ∀ i x, descs[i]? = some x → (usb infoData).ifaces i = some x) :
    (PnpTables.mk (build usb infoData id).value.2 infoTable).Knows descs [] := by
  have made : (build usb infoData id).value.2 =
      (UsbPnpDeviceInfo.addInitInfo usb infoData ⟨id,.init,fun _ => false,.zero⟩).2 := by
    rw [build,UsbPnpDeviceInfo.initTable_value]
  have all : ∀ k, 0 ≤ k → k < 0 + num.toNat → (usb infoData).ifaces k ≠ none := by
    intro k _ bound
    rw [Nat.zero_add,← length] at bound
    rw [described k _ (List.getElem?_eq_getElem bound)]
    exact Option.some_ne_none _
  rw [made]
  unfold UsbPnpDeviceInfo.addInitInfo
  simp only [count]
  refine ⟨length.symm,fun i x found => ?_,fun i x found => rfl⟩
  have bound := (List.getElem?_eq_some_iff.mp found).1
  exact fillInterfaces_entry _ _ 0 _ all i x (Nat.zero_le i) (by omega) (described i x found)

end Runs

end PnpTables

section Sent
variable [DecidableEq δ]

def UsbPnpNotifyMatchInfoTable.interfaces (table : UsbPnpNotifyMatchInfoTable δ) :
    List InterfaceInfo :=
  (InterfaceTable.mk table.numInfos table.interfaceInfo).entries

omit [DecidableEq δ] in
theorem presentInterfaces_length (record : UsbPnpDeviceInfo δ) :
    record.presentInterfaces.length < 2^8 := by
  have filtered := List.length_filter_le (fun i => !record.interfaceRemoveStatus i)
    (List.range record.info.numInfos.toNat)
  have bound := record.info.numInfos.toNat_lt
  rw [List.length_range] at filtered
  rw [UsbPnpDeviceInfo.presentInterfaces,List.length_map]
  omega

theorem entries_ofList (present : List InterfaceInfo) (few : present.length < 2^8) :
    (InterfaceTable.mk (UInt8.ofNat present.length) fun i => present.getD i ⟨0,0,0,0⟩).entries =
      present := by
  have count : (UInt8.ofNat present.length).toNat = present.length := by
    rw [UInt8.toNat_ofNat']
    exact Nat.mod_eq_of_lt few
  unfold InterfaceTable.entries
  rw [count]
  apply List.ext_getElem
  · rw [List.length_map,List.length_range]
  · intro i _ bound
    rw [List.getElem_map,List.getElem_range]
    dsimp only
    rw [List.getD_eq_getElem?_getD,List.getElem?_eq_getElem bound]
    rfl

omit [DecidableEq δ] in
/-- The table that the notifier sends, and the record that it keeps, are those of the command. -/
theorem addInterfaceInitInfo_command (c : InterfaceCommand)
    (removeType : UsbPnpNotifyRemoveType) (s : PnpTables δ) :
    (s.record.addInterfaceInitInfo c.cmdType c.infoData removeType).1.interfaces =
        (PnpTables.command c s).1.value.entries ∧
      (s.record.addInterfaceInitInfo c.cmdType c.infoData removeType).2 =
        (PnpTables.command c s).2.record := by
  have made : (PnpTables.command c s).1.value.entries =
      (PnpTables.command c s).2.record.reportedInterfaces c.cmdType c.infoData :=
    UsbPnpDeviceInfo.interfaceTable_entries
  rw [made,PnpTables.command_record]
  refine ⟨?_,rfl⟩
  unfold UsbPnpDeviceInfo.reportedInterfaces
  unfold UsbPnpDeviceInfo.addInterfaceInitInfo UsbPnpNotifyMatchInfoTable.interfaces
  cases c.cmdType with
  | removeInterface =>
    have one : 1 < 2^8 := by decide
    exact entries_ofList [c.infoData] one
  | _ => exact entries_ofList _ (presentInterfaces_length _)

theorem dispatch_sent (usb : EventData δ → UsbDevice) (s : UsbPnp δ) {cmd : UsbPnpNotifyServiceCmd}
    (interface : cmd.isInterface = true) (info : UsbPnpAddRemoveInfo) (out : Nat → SendOutcomes) :
    (((s.dispatch usb true cmd (some info) out hdfSuccess).2).wake false).sent = s.sent := by
  have read (t : UsbPnp δ) : (t.readPnpInfo (some info)).sent = t.sent := by
    unfold UsbPnp.readPnpInfo
    dsimp only
    split
    · rfl
    · split <;> rfl
  have woken (t : UsbPnp δ) : (t.wake false).sent = t.sent := by
    unfold UsbPnp.wake
    split <;> rfl
  rw [woken]
  cases cmd with
  | addInterface | removeInterface => exact read _
  | _ => exact absurd interface Bool.false_ne_true

/-- A report of an interface command that nothing stops. -/
theorem hdfSendEvent_interface (usb : EventData δ → UsbDevice) {taken : UsbPnp δ} {i : Nat}
    {record : UsbPnpDeviceInfo δ} (interface : taken.cmdType.isInterface = true)
    (out : SendOutcomes) (all : out.sends = true)
    (got : taken.getDeviceInfo out.osalMemCalloc .pnpInfo = (some i,taken))
    (here : taken.infoList[i]? = some record) (ready : record.status = .init) :
    (taken.hdfSendEvent usb out (some .pnpInfo)).2 =
      let removed := {record with info := {record.info with removeType := taken.removeType}}
      let made := removed.addInterfaceInitInfo taken.cmdType taken.pnpInfo.info taken.removeType
      {taken with
        sent := taken.sent ++ [(taken.cmdType,made.1)]
        infoList := taken.infoList.set i {made.2 with status := .add}} := by
  have through : (out.sbufObtain && out.sbufWriteBuffer && out.ioServiceBind) = true := all
  rw [Bool.and_eq_true,Bool.and_eq_true] at through
  obtain ⟨⟨obtained,written⟩,bound⟩ := through
  have other : taken.cmdType ≠ .removeDevice := by
    intro same
    rw [same] at interface
    exact absurd interface Bool.false_ne_true
  simp [UsbPnp.hdfSendEvent,obtained,got,here,UsbPnp.initAndSend,UsbPnp.initInfo,interface,written,
    UsbPnp.sendInit,UsbPnpDeviceInfo.addInterfaceInitInfo,ready,bound,UsbPnp.endReport,
    UsbPnp.setInfo,other]

/-- A command that the notifier handles and that nothing stops: one event with the command's
table, and the command's record in its place. -/
theorem handleInterface_sent (usb : EventData δ → UsbDevice) {s : UsbPnp δ} {i : Nat}
    {record : UsbPnpDeviceInfo δ} {cmd : UsbPnpNotifyServiceCmd}
    (interface : cmd.isInterface = true) (info : UsbPnpAddRemoveInfo)
    (found : s.findInfo (.normal info.devNum info.busNum) = some i)
    (here : s.infoList[i]? = some record) (ready : record.status ≠ .init) (out : SendOutcomes)
    (all : out.sends = true) (infoTable : Nat → InterfaceInfo) :
    let done := PnpTables.command ⟨cmd,interface,info.info⟩ ⟨record,infoTable⟩
    ∃ table after, (s.handleInterface usb cmd info out).2.sent = s.sent ++ [(cmd,table)] ∧
      (s.handleInterface usb cmd info out).2.infoList = s.infoList.set i after ∧
      after.status = .add ∧ table.interfaces = done.1.value.entries ∧
      after.interfaceRemoveStatus = done.2.record.interfaceRemoveStatus ∧
      after.info.numInfos = record.info.numInfos ∧
      after.info.interfaceInfo = record.info.interfaceInfo := by
  obtain ⟨taken,same,infoList,cmdType,pnpInfo,woken⟩ :=
    UsbPnp.taken_spec usb interface found here out
  have sent : taken.sent = s.sent := by
    rw [← same]
    exact dispatch_sent usb s interface _ _
  have isInterface : taken.cmdType.isInterface = true := by rw [cmdType,interface]
  have got := UsbPnp.getDeviceInfo_taken found here infoList isInterface pnpInfo out.osalMemCalloc
  have there : taken.infoList[i]? = some (UsbPnp.restart .interface record) := by
    rw [infoList,List.getElem?_set_self (UsbPnp.index_lt here)]
  have event := hdfSendEvent_interface usb isInterface out all got there
    (UsbPnp.restart_status.mpr ready)
  have report : (s.handleInterface usb cmd info out).2 =
      {(taken.hdfSendEvent usb out (some .pnpInfo)).2 with usbDevice := none,woken := false} := by
    simp [UsbPnp.handleInterface,same,UsbPnp.reportThread,woken,isInterface]
  rw [report,event]
  dsimp only
  rw [sent,infoList,List.set_set,cmdType,pnpInfo]
  refine ⟨_,_,rfl,rfl,rfl,?_,?_,rfl,rfl⟩
  · let restarted := UsbPnp.restart .interface record
    let removed := {restarted with info := {restarted.info with removeType := taken.removeType}}
    have made := (addInterfaceInitInfo_command ⟨cmd,interface,info.info⟩ taken.removeType
      ⟨removed,infoTable⟩).1
    refine made.trans ?_
    simp only [PnpTables.command,UsbPnpDeviceInfo.interfaceTable,value_bind]
    cases cmd <;> rfl
  · rw [PnpTables.command_record]
    rfl

end Sent

/-- All that is touched while a device's tables are built, first from its descriptors and then by
interface commands, is inside the tables exactly where it has no more interfaces than these have
entries. -/
theorem pnpTables_within_iff (usb : EventData δ → UsbDevice) (infoData : EventData δ) (id : Int32)
    (infoTable : Nat → InterfaceInfo) (maxInterfaces : Nat) (some_entry : 0 < maxInterfaces) :
    ((PnpTables.build usb infoData id).Within maxInterfaces ∧
        ∀ commands c, (PnpTables.command c
          (PnpTables.after usb infoData id infoTable commands)).1.Within maxInterfaces) ↔
      ∀ num, (usb infoData).cdesc = some num → num.toNat ≤ maxInterfaces := by
  simp only [PnpTables.command_within_iff some_entry,PnpTables.after_numInfos]
  constructor
  · rintro ⟨_,bounded⟩ num count
    have fits := bounded [] ⟨.addInterface,rfl,⟨0,0,0,0⟩⟩
    rwa [count] at fits
  · intro fits
    refine ⟨UsbPnpDeviceInfo.initTable_within usb infoData fits,fun _ _ => ?_⟩
    cases count : (usb infoData).cdesc with
    | none => exact Nat.zero_le _
    | some num => exact fits num count

private def noEntries : Nat → InterfaceInfo := fun _ => ⟨0,0,0,0⟩

theorem pnpTables_within_camera : (PnpTables.build camera (.device 0) 1).Within 32 ∧
    ∀ commands c, (PnpTables.command c
      (PnpTables.after camera (.device 0) 1 noEntries commands)).1.Within 32 := by
  refine (pnpTables_within_iff camera (.device 0) 1 noEntries 32 (by decide)).mpr ?_
  intro num count
  cases count
  decide

/-- A device that announces 33 interfaces, and has a descriptor for each. -/
private def wide : EventData Nat → UsbDevice := fun _ =>
  ⟨1,2,false,⟨0x12d1,0x4321,1,0xef,2,1⟩,some 33,fun _ => some ⟨14,1,0,0⟩⟩

/-- The last one goes behind a table of 32 entries. -/
theorem pnpTables_overrun : ¬ (PnpTables.build wide (.device 0) 1).Within 32 := by
  intro within
  have last : 32 ∈ (PnpTables.build wide (.device 0) 1).touched := by decide
  exact absurd (within 32 last) (Nat.lt_irrefl 32)

/-- Whatever commands came before, a command on a device reports what it should, and in tables
that have room for it, exactly where the device has no more interfaces than the tables entries. -/
theorem pnpTables_report_iff (usb : EventData δ → UsbDevice) (infoData : EventData δ) (id : Int32)
    (infoTable : Nat → InterfaceInfo) (maxInterfaces : Nat) (some_entry : 0 < maxInterfaces)
    (num : UInt8) (count : (usb infoData).cdesc = some num) (descs : List InterfaceInfo)
    (length : descs.length = num.toNat)
    (described : ∀ i x, descs[i]? = some x → (usb infoData).ifaces i = some x) :
    (∀ commands c,
      let done := PnpTables.command c (PnpTables.after usb infoData id infoTable commands)
      done.1.Within maxInterfaces ∧ done.1.value.entries = wantedEntries descs commands c) ↔
      num.toNat ≤ maxInterfaces := by
  have numInfos := PnpTables.after_numInfos usb infoData id infoTable
  simp only [PnpTables.command_within_iff some_entry,numInfos,count,Option.getD_some]
  constructor
  · intro reports
    exact (reports [] ⟨.addInterface,rfl,⟨0,0,0,0⟩⟩).1
  · intro fits commands c
    refine ⟨fits,PnpTables.command_entries ?_⟩
    have built := PnpTables.build_knows usb infoData id infoTable count length described
    exact PnpTables.run_knows commands built

theorem pnpTables_report_camera : (1 : UInt8).toNat ≤ 32 ∧ ∀ commands c,
    let done := PnpTables.command c (PnpTables.after camera (.device 0) 1 noEntries commands)
    done.1.Within 32 ∧ done.1.value.entries = wantedEntries [⟨14,1,0,0⟩] commands c := by
  have one : (1 : UInt8).toNat ≤ 32 := by decide
  refine ⟨one,(pnpTables_report_iff camera (.device 0) 1 noEntries 32 (by decide) 1 rfl
    [⟨14,1,0,0⟩] rfl fun i x found => ?_).mpr one⟩
  obtain ⟨_,same⟩ := List.getElem?_eq_some_iff.mp found
  rw [List.getElem_singleton] at same
  exact congrArg some same

/-- The first command on a device of 33 interfaces looks behind the table of its record. -/
theorem pnpTables_report_overrun : ¬ ∀ commands c,
    let done := PnpTables.command c (PnpTables.after wide (.device 0) 1 noEntries commands)
    done.1.Within 32 ∧
      done.1.value.entries = wantedEntries (List.replicate 33 ⟨14,1,0,0⟩) commands c := by
  intro reports
  have first := (reports [] ⟨.addInterface,rfl,⟨14,1,0,0⟩⟩).1
  rw [PnpTables.command_within_iff (by decide),PnpTables.after_numInfos] at first
  revert first
  decide

end DriversAdapter.Usb
