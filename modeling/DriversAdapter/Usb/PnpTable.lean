import DriversAdapter.Semantics.Touches
import DriversAdapter.Usb.PnpNotify

/-! The loops over the interface tables of the notifier: from a device's descriptors to its record,
and from the record to the table of an event. The arrays have `USB_PNP_INFO_MAX_INTERFACES` entries,
the loops have as many turns as the device says it has interfaces. -/
namespace DriversAdapter.Usb
open DriversAdapter.Base DriversAdapter.Semantics DriversAdapter.Semantics.Touching

variable {δ : Type}

/-- The count of an event's table and its entries, with what an earlier event left behind them. -/
structure InterfaceTable where
  numInfos : UInt8
  interfaceInfo : Nat → InterfaceInfo

def InterfaceTable.entries (table : InterfaceTable) : List InterfaceInfo :=
  (List.range table.numInfos.toNat).map table.interfaceInfo

namespace UsbPnpDeviceInfo

section Code

/-- The loop of `UsbPnpNotifyAddInitInfo`, with so many turns left. -/
def copyInterfaces (ifaces : Nat → Option InterfaceInfo) :
    Nat → Nat → (Nat → InterfaceInfo) → Touching (Int × (Nat → InterfaceInfo))
  | 0, _, interfaceInfo => pure (hdfSuccess,interfaceInfo)
  | left + 1, i, interfaceInfo => match ifaces i with
    | none => pure (hdfErrInvalidParam,interfaceInfo)
    | some idesc => do
      let interfaceInfo ← write interfaceInfo i idesc
      copyInterfaces ifaces left (i + 1) interfaceInfo

def initTable (usb : EventData δ → UsbDevice) (infoData : EventData δ)
    (deviceInfo : UsbPnpDeviceInfo δ) : Touching (Int × UsbPnpDeviceInfo δ) :=
  let info := {deviceInfo.info with
    usbDevAddr := some infoData
    devNum := (usb infoData).address
    busNum := (usb infoData).portNo
    deviceInfo := (usb infoData).ddesc}
  match (usb infoData).cdesc with
  | none => pure (hdfErrInvalidParam,{deviceInfo with info := info})
  | some bNumInterface => do
    let filled ← copyInterfaces (usb infoData).ifaces bNumInterface.toNat 0 info.interfaceInfo
    pure (filled.1,{deviceInfo with info := {info with
      numInfos := bNumInterface,interfaceInfo := filled.2}})

/-- A turn of the first loop of `UsbPnpNotifyAddInterfaceInitInfo`. -/
def markEntry (cmdType : UsbPnpNotifyServiceCmd) (infoData entry : InterfaceInfo) (i : Nat)
    (status : Nat → Bool) : Touching (Nat → Bool) :=
  if infoData = entry then
    match cmdType with
    | .removeInterface => write status i true
    | .addInterface => write status i false
    | _ => pure status
  else pure status

def markTable (cmdType : UsbPnpNotifyServiceCmd) (infoData : InterfaceInfo)
    (interfaceInfo : Nat → InterfaceInfo) : Nat → Nat → (Nat → Bool) → Touching (Nat → Bool)
  | 0, _, status => pure status
  | left + 1, i, status => do
    let entry ← read interfaceInfo i
    let status ← markEntry cmdType infoData entry i status
    markTable cmdType infoData interfaceInfo left (i + 1) status

/-- Its second loop, which moves up the interfaces that are not removed. -/
def presentTable (status : Nat → Bool) (interfaceInfo : Nat → InterfaceInfo) :
    Nat → Nat → UInt8 → (Nat → InterfaceInfo) → Touching InterfaceTable
  | 0, _, j, table => pure ⟨j,table⟩
  | left + 1, i, j, table => do
    let removed ← read status i
    match removed with
    | true => presentTable status interfaceInfo left (i + 1) j table
    | false =>
      let entry ← read interfaceInfo i
      let table ← write table j.toNat entry
      presentTable status interfaceInfo left (i + 1) (j + 1) table

/-- The table goes into a static variable. -/
def interfaceTable (cmdType : UsbPnpNotifyServiceCmd) (infoData : InterfaceInfo)
    (infoTable : Nat → InterfaceInfo) (deviceInfo : UsbPnpDeviceInfo δ) :
    Touching (InterfaceTable × UsbPnpDeviceInfo δ) := do
  let status ← markTable cmdType infoData deviceInfo.info.interfaceInfo
    deviceInfo.info.numInfos.toNat 0 deviceInfo.interfaceRemoveStatus
  let marked := {deviceInfo with interfaceRemoveStatus := status}
  match cmdType with
  | .removeInterface =>
    let table ← write infoTable 0 infoData
    pure (⟨1,table⟩,marked)
  | _ =>
    let table ← presentTable status deviceInfo.info.interfaceInfo
      deviceInfo.info.numInfos.toNat 0 0 infoTable
    pure (table,marked)

end Code

section Loops
variable {max left i : Nat} {ifaces : Nat → Option InterfaceInfo} {infoData : InterfaceInfo}
variable {interfaceInfo table : Nat → InterfaceInfo} {status : Nat → Bool} {j : UInt8}
variable {cmdType : UsbPnpNotifyServiceCmd}

theorem copyInterfaces_value : (copyInterfaces ifaces left i interfaceInfo).value =
    fillInterfaces ifaces left i interfaceInfo := by
  induction left generalizing i interfaceInfo with
  | zero => rfl
  | succ left ih =>
    simp only [copyInterfaces,fillInterfaces]
    cases ifaces i with
    | none => rfl
    | some idesc => exact ih

theorem copyInterfaces_within (room : i + left ≤ max) :
    (copyInterfaces ifaces left i interfaceInfo).Within max := by
  induction left generalizing i interfaceInfo with
  | zero => exact within_pure _
  | succ left ih =>
    simp only [copyInterfaces]
    cases ifaces i with
    | none => exact within_pure _
    | some idesc =>
      rw [within_bind,within_write]
      exact ⟨by omega,ih (by omega)⟩

theorem markEntry_within (entry : InterfaceInfo) (inside : i < max) :
    (markEntry cmdType infoData entry i status).Within max := by
  unfold markEntry
  split_ifs
  · cases cmdType with
    | removeInterface | addInterface => exact (within_write _ _ _).mpr inside
    | _ => exact within_pure _
  · exact within_pure _

/-- Every entry is looked at. -/
theorem markTable_within_iff :
    (markTable cmdType infoData interfaceInfo left i status).Within max ↔
      left = 0 ∨ i + left ≤ max := by
  induction left generalizing i status with
  | zero => exact iff_of_true (within_pure _) (.inl rfl)
  | succ left ih =>
    simp only [markTable]
    rw [within_bind,within_read,within_bind,ih]
    constructor
    · rintro ⟨inside,_,later⟩
      omega
    · intro room
      exact ⟨by omega,markEntry_within _ (by omega),by omega⟩

/-- What a command makes of the flag of an interface that it names. -/
def flagAfter (cmdType : UsbPnpNotifyServiceCmd) (before : Bool) : Bool :=
  match cmdType with
  | .removeInterface => true
  | .addInterface => false
  | _ => before

theorem markEntry_value (entry : InterfaceInfo) (k : Nat) :
    (markEntry cmdType infoData entry i status).value k =
      if k = i ∧ infoData = entry then flagAfter cmdType (status k) else status k := by
  unfold markEntry
  by_cases same : infoData = entry
  · rw [if_pos same]
    by_cases here : k = i
    · rw [if_pos ⟨here,same⟩]
      cases cmdType <;> simp [here,flagAfter]
    · rw [if_neg (fun both => here both.1)]
      cases cmdType <;> simp [here]
  · rw [if_neg same,if_neg (fun both => same both.2)]
    rfl

/-- The flags that match are set or cleared. -/
theorem markTable_value (k : Nat) :
    (markTable cmdType infoData interfaceInfo left i status).value k =
      if (i ≤ k ∧ k < i + left) ∧ infoData = interfaceInfo k then flagAfter cmdType (status k)
      else status k := by
  induction left generalizing i status with
  | zero =>
    rw [if_neg (by omega)]
    rfl
  | succ left ih =>
    simp only [markTable,value_bind,value_read]
    rw [ih,markEntry_value]
    by_cases here : k = i
    · subst here
      have before : ¬ (k + 1 ≤ k ∧ k < k + 1 + left) := by omega
      have inside : k ≤ k ∧ k < k + (left + 1) := by omega
      rw [if_neg (fun both => before both.1)]
      simp only [inside,true_and,and_self]
    · have same : (i + 1 ≤ k ∧ k < i + 1 + left) ↔ (i ≤ k ∧ k < i + (left + 1)) := by omega
      have other : ¬ (k = i ∧ infoData = interfaceInfo i) := fun both => here both.1
      rw [if_neg other]
      simp only [same]

theorem next_toNat (few : j.toNat < 255) : (j + 1).toNat = j.toNat + 1 := by
  have one : (1 : UInt8).toNat = 1 := rfl
  rw [UInt8.toNat_add,one]
  omega

theorem entries_push (few : j.toNat < 255) (entry : InterfaceInfo) :
    (InterfaceTable.mk (j + 1) fun k => if k = j.toNat then entry else table k).entries =
      (InterfaceTable.mk j table).entries ++ [entry] := by
  unfold InterfaceTable.entries
  dsimp only
  rw [next_toNat few,List.range_succ,List.map_append,List.map_singleton,if_pos rfl]
  congr 1
  apply List.map_congr_left
  intro k member
  rw [if_neg (Nat.ne_of_lt (List.mem_range.mp member))]

/-- The entries not removed go behind those that are there. -/
theorem presentTable_value (behind : j.toNat ≤ i) (few : i + left < 2^8) :
    (presentTable status interfaceInfo left i j table).value.entries =
      (InterfaceTable.mk j table).entries ++
        ((List.range' i left).filter fun k => !status k).map interfaceInfo := by
  induction left generalizing i j table with
  | zero => exact (List.append_nil _).symm
  | succ left ih =>
    simp only [presentTable,value_bind,value_read,List.range'_succ,List.filter_cons]
    cases removed : status i with
    | true =>
      rw [Bool.not_true,if_neg Bool.false_ne_true]
      exact ih (by omega) (by omega)
    | false =>
      have next : (j + 1).toNat ≤ i + 1 := by
        rw [next_toNat (by omega)]
        omega
      rw [Bool.not_false,if_pos rfl,List.map_cons]
      simp only [value_bind,value_read,value_write]
      rw [ih next (by omega),entries_push (by omega),List.append_assoc,List.singleton_append]

theorem presentTable_within (behind : j.toNat ≤ i) (few : i + left < 2^8) (room : i + left ≤ max) :
    (presentTable status interfaceInfo left i j table).Within max := by
  induction left generalizing i j table with
  | zero => exact within_pure _
  | succ left ih =>
    have inside : i < max := by omega
    simp only [presentTable]
    rw [within_bind,within_read,value_read]
    cases status i with
    | true => exact ⟨inside,ih (by omega) (by omega) (by omega)⟩
    | false =>
      have next : (j + 1).toNat ≤ i + 1 := by
        rw [next_toNat (by omega)]
        omega
      dsimp only
      rw [within_bind,within_read,within_bind,within_write]
      exact ⟨inside,inside,by omega,ih next (by omega) (by omega)⟩

end Loops
section Tables
variable {max : Nat} {cmdType : UsbPnpNotifyServiceCmd} {infoData : InterfaceInfo}
variable {infoTable : Nat → InterfaceInfo} {deviceInfo : UsbPnpDeviceInfo δ}

/-- The loops make of a record what the notifier takes them to make of it. -/
theorem initTable_value (usb : EventData δ → UsbDevice) (infoData : EventData δ)
    (deviceInfo : UsbPnpDeviceInfo δ) :
    (initTable usb infoData deviceInfo).value = deviceInfo.addInitInfo usb infoData := by
  unfold initTable addInitInfo
  cases (usb infoData).cdesc with
  | none => rfl
  | some bNumInterface =>
    simp only [value_bind,value_pure,copyInterfaces_value]

theorem marked_value : (interfaceTable cmdType infoData infoTable deviceInfo).value.2 =
    {deviceInfo with interfaceRemoveStatus := deviceInfo.markInterfaces cmdType infoData} := by
  have marked : (markTable cmdType infoData deviceInfo.info.interfaceInfo
      deviceInfo.info.numInfos.toNat 0 deviceInfo.interfaceRemoveStatus).value =
        deviceInfo.markInterfaces cmdType infoData := by
    funext k
    rw [markTable_value]
    simp only [Nat.zero_le,true_and,Nat.zero_add]
    rfl
  simp only [interfaceTable,value_bind,marked]
  cases cmdType <;> rfl

theorem numInfos_few (deviceInfo : UsbPnpDeviceInfo δ) :
    0 + deviceInfo.info.numInfos.toNat < 2^8 := by
  have bound := deviceInfo.info.numInfos.toNat_lt
  omega

/-- The command's own interface, or those of the record that are not removed. -/
def reportedInterfaces (cmdType : UsbPnpNotifyServiceCmd) (infoData : InterfaceInfo)
    (marked : UsbPnpDeviceInfo δ) : List InterfaceInfo :=
  match cmdType with
  | .removeInterface => [infoData]
  | _ => marked.presentInterfaces

theorem interfaceTable_entries :
    (interfaceTable cmdType infoData infoTable deviceInfo).value.1.entries =
      reportedInterfaces cmdType infoData
        (interfaceTable cmdType infoData infoTable deviceInfo).value.2 := by
  have few := numInfos_few deviceInfo
  have present (status : Nat → Bool) : (presentTable status deviceInfo.info.interfaceInfo
      deviceInfo.info.numInfos.toNat 0 0 infoTable).value.entries =
        ((List.range deviceInfo.info.numInfos.toNat).filter fun k => !status k).map
          deviceInfo.info.interfaceInfo := by
    rw [presentTable_value (Nat.le_refl 0) few,List.range_eq_range']
    rfl
  cases cmdType with
  | removeInterface => rfl
  | _ => exact present _

/-- The first loop goes over all that the record counts. -/
theorem interfaceTable_within_iff (some_entry : 0 < max) :
    (interfaceTable cmdType infoData infoTable deviceInfo).Within max ↔
      deviceInfo.info.numInfos.toNat ≤ max := by
  have few := numInfos_few deviceInfo
  have marks (status : Nat → Bool) : (markTable cmdType infoData deviceInfo.info.interfaceInfo
      deviceInfo.info.numInfos.toNat 0 status).Within max ↔
        deviceInfo.info.numInfos.toNat ≤ max := by
    rw [markTable_within_iff]
    omega
  have presents (room : deviceInfo.info.numInfos.toNat ≤ max) (status : Nat → Bool) :
      (presentTable status deviceInfo.info.interfaceInfo deviceInfo.info.numInfos.toNat 0 0
        infoTable).Within max := presentTable_within (Nat.le_refl 0) few (by omega)
  simp only [interfaceTable]
  rw [within_bind,marks]
  refine and_iff_left_of_imp fun room => ?_
  cases cmdType with
  | removeInterface =>
    rw [within_bind,within_write]
    exact ⟨some_entry,within_pure _⟩
  | _ =>
    rw [within_bind]
    exact ⟨presents room _,within_pure _⟩

/-- Where there is an entry for each interface announced, the copy stays in the table. -/
theorem initTable_within (usb : EventData δ → UsbDevice) (infoData : EventData δ)
    (fits : ∀ num, (usb infoData).cdesc = some num → num.toNat ≤ max) :
    (initTable usb infoData deviceInfo).Within max := by
  unfold initTable
  cases count : (usb infoData).cdesc with
  | none => exact within_pure _
  | some bNumInterface =>
    have room := fits bNumInterface count
    dsimp only
    rw [within_bind]
    exact ⟨copyInterfaces_within (by omega),within_pure _⟩

end Tables
end UsbPnpDeviceInfo
end DriversAdapter.Usb
