import DriversAdapter.Usb.PnpEvents
import DriversAdapter.Usb.PnpReport

/-! The records of the notifier against the devices that are plugged in: which device has a
record after any run of the handlers and the report thread. -/
namespace DriversAdapter.Usb
open DriversAdapter.Base DriversAdapter.Semantics

variable {δ : Type} [DecidableEq δ]

/-- The notifier with the devices that were attached and not detached since, hubs left out,
and those for which a record could not be made or sent when that was last tried. -/
structure Census (δ : Type) where
  pnp : UsbPnp δ
  attached : δ → Bool
  failed : δ → Bool

namespace Census
variable (usb : EventData δ → UsbDevice)

def attaches : UsbPnpEvent δ → (δ → Bool) → δ → Bool
  | .attach udev _, attached => fun d =>
    if d = udev then attached d || !(usb (.device udev)).isHub else attached d
  | .detach udev, attached => fun d => if d = udev then false else attached d
  | _, attached => attached

def fails (s : UsbPnp δ) : UsbPnpEvent δ → (δ → Bool) → δ → Bool
  | .attach udev out, failed => fun d =>
    if d = udev ∧ s.isNew usb udev = true then
      !((s.listLockInit || out.osalMutexInit) && out.usbCreateUsbDevice && out.infoCalloc &&
        (usb (.device udev)).described)
    else failed d
  | .dispatch parties .reportInterface _ out _, failed => fun d =>
    if parties = true ∧ d ∈ s.deviceList then
      !((out (s.deviceList.idxOf d)).sends && (out (s.deviceList.idxOf d)).osalMemCalloc &&
        (usb (.device d)).described)
    else failed d
  | .report out, failed => fun d =>
    failed d || (s.woken && !out.sends && s.subject == some (.device d))
  | _, failed => failed

/-- What a descriptor holds is read anew at every event. -/
def step (event : (EventData δ → UsbDevice) × UsbPnpEvent δ) (s : Census δ) : Int × Census δ :=
  let done := s.pnp.step event.1 event.2
  (done.1,⟨done.2,attaches event.1 event.2 s.attached,fails event.1 s.pnp event.2 s.failed⟩)

def boot : Census δ := ⟨.boot,fun _ => false,fun _ => false⟩

/-- Beside the order of the events: an attached device gets its entry in the device list,
ids are not drawn again while a record has them, all devices are reported only when none of
them has a record, and the report of a removal gets its buffer. -/
def Tidy (event : (EventData δ → UsbDevice) × UsbPnpEvent δ) (s : UsbPnp δ) : Prop :=
  Mail.Orderly event.1 event.2 s ∧ match event.2 with
  | .attach udev out => s.isNew event.1 udev = true → out.listCalloc = true ∧ s.Fresh 1
  | .dispatch parties .reportInterface _ _ _ => parties = true →
      (∀ udev ∈ s.deviceList, s.recordsOf udev = []) ∧ s.Fresh s.deviceList.length
  | .report out => s.cmdType = .removeDevice → out.sbufObtain = true
  | _ => True

/-- A record for every device that is there and did not fail, and for no other, but for the
one whose removal is still to be reported. -/
structure Counted (s : Census δ) : Prop where
  once : ∀ udev, (s.pnp.recordsOf udev).length ≤ 1
  attached : ∀ udev, s.attached udev = true → s.failed udev = false →
    (s.pnp.recordsOf udev).length = 1
  detached : ∀ udev, s.attached udev = false → s.pnp.recordsOf udev ≠ [] → s.pnp.Removing udev
  named : ∀ infoPos ∈ s.pnp.infoList, ∃ udev, infoPos.info.usbDevAddr = some (.device udev)

/-- What the run keeps: keys of their own for the records, of which each is that of a listed
device or of one whose removal waits, and a status that says whether it waits to be sent. -/
structure Kept (s : Census δ) : Prop where
  addresses : (s.pnp.infoList.map fun infoPos => infoPos.info.usbDevAddr).Nodup
  ids : (s.pnp.infoList.map UsbPnpDeviceInfo.id).Nodup
  devices : s.pnp.deviceList.Nodup
  listed : ∀ udev ∈ s.pnp.deviceList, s.attached udev = true
  owned : ∀ infoPos ∈ s.pnp.infoList, ∃ udev, infoPos.info.usbDevAddr = some (.device udev) ∧
    (udev ∈ s.pnp.deviceList ∨ s.pnp.Removing udev)
  gone : ∀ udev, s.pnp.Removing udev → s.attached udev = false
  slot : ∀ eventData, s.pnp.usbDevice = some eventData →
    if eventData = .pnpInfo then s.pnp.cmdType.isInterface = true
    else s.pnp.cmdType = .addDevice ∨ s.pnp.cmdType = .removeDevice
  recorded : ∀ udev, s.attached udev = true → s.failed udev = false →
    udev ∈ s.pnp.deviceList ∧ ∃ infoPos ∈ s.pnp.infoList,
      infoPos.info.usbDevAddr = some (.device udev) ∧
        infoPos.status = if s.pnp.subject = some (.device udev) then .init else .add

section Kept
variable {usb : EventData δ → UsbDevice} {s : Census δ} (kept : s.Kept)

include kept in
theorem counted_of_kept : s.Counted := by
  have once : ∀ udev, (s.pnp.recordsOf udev).length ≤ 1 := by
    intro udev
    have apart : ((s.pnp.recordsOf udev).map fun infoPos => infoPos.info.usbDevAddr).Nodup :=
      kept.addresses.sublist (List.filter_sublist.map _)
    have alike : (s.pnp.recordsOf udev).map (fun infoPos => infoPos.info.usbDevAddr) =
        List.replicate (s.pnp.recordsOf udev).length (some (.device udev)) := by
      refine List.eq_replicate_iff.mpr ⟨by simp,fun address member => ?_⟩
      obtain ⟨infoPos,own,rfl⟩ := List.mem_map.mp member
      simpa using (List.mem_filter.mp own).2
    rw [alike] at apart
    exact List.nodup_replicate.mp apart
  refine ⟨once,?_,?_,?_⟩
  · intro udev attached succeeded
    obtain ⟨-,infoPos,there,address,-⟩ := kept.recorded udev attached succeeded
    have some' : infoPos ∈ s.pnp.recordsOf udev := by simp [UsbPnp.recordsOf,there,address]
    have nonempty := List.length_pos_of_mem some'
    have most := once udev
    omega
  · intro udev detached records
    obtain ⟨infoPos,member⟩ := List.exists_mem_of_ne_nil _ records
    obtain ⟨there,address⟩ : infoPos ∈ s.pnp.infoList ∧
        infoPos.info.usbDevAddr = some (.device udev) := by
      simpa [UsbPnp.recordsOf] using member
    obtain ⟨other,address',owner⟩ := kept.owned infoPos there
    obtain rfl : udev = other := by simpa [address] using address'
    rcases owner with listed | removing
    · rw [kept.listed udev listed] at detached
      contradiction
    · exact removing
  · intro infoPos there
    obtain ⟨udev,address,-⟩ := kept.owned infoPos there
    exact ⟨udev,address⟩

include kept in
theorem owned_empty (empty : s.pnp.usbDevice = none) (infoPos : UsbPnpDeviceInfo δ)
    (there : infoPos ∈ s.pnp.infoList) :
    ∃ udev ∈ s.pnp.deviceList, infoPos.info.usbDevAddr = some (.device udev) := by
  obtain ⟨udev,address,owner⟩ := kept.owned infoPos there
  exact ⟨udev,owner.resolve_right (UsbPnp.removing_slot empty),address⟩

include kept in
theorem recorded_added (udev : δ) (attached : s.attached udev = true)
    (succeeded : s.failed udev = false) (other : s.pnp.subject ≠ some (.device udev)) :
    udev ∈ s.pnp.deviceList ∧ ∃ infoPos ∈ s.pnp.infoList,
      infoPos.info.usbDevAddr = some (.device udev) ∧ infoPos.status = .add := by
  obtain ⟨member,infoPos,there,address,status⟩ := kept.recorded udev attached succeeded
  exact ⟨member,infoPos,there,address,by simpa [other] using status⟩

include kept in
theorem recorded_empty (empty : s.pnp.usbDevice = none) (udev : δ)
    (attached : s.attached udev = true) (succeeded : s.failed udev = false) :
    udev ∈ s.pnp.deviceList ∧ ∃ infoPos ∈ s.pnp.infoList,
      infoPos.info.usbDevAddr = some (.device udev) ∧ infoPos.status = .add :=
  recorded_added kept udev attached succeeded (by simp [UsbPnp.subject_empty empty])

/-- With nothing in the slot, all the records are those of listed devices and were sent. -/
theorem kept_of_empty {t : UsbPnp δ} {attached failed : δ → Bool} (empty : t.usbDevice = none)
    (addresses : (t.infoList.map fun infoPos => infoPos.info.usbDevAddr).Nodup)
    (ids : (t.infoList.map UsbPnpDeviceInfo.id).Nodup) (devices : t.deviceList.Nodup)
    (listed : ∀ udev ∈ t.deviceList, attached udev = true)
    (owned : ∀ infoPos ∈ t.infoList, ∃ udev ∈ t.deviceList,
      infoPos.info.usbDevAddr = some (.device udev))
    (recorded : ∀ udev, attached udev = true → failed udev = false → udev ∈ t.deviceList ∧
      ∃ infoPos ∈ t.infoList, infoPos.info.usbDevAddr = some (.device udev) ∧
        infoPos.status = .add) : Kept ⟨t,attached,failed⟩ where
  addresses := addresses
  ids := ids
  devices := devices
  listed := listed
  owned := by
    intro infoPos there
    obtain ⟨udev,member,address⟩ := owned infoPos there
    exact ⟨udev,address,.inl member⟩
  gone := fun udev removing => absurd removing (UsbPnp.removing_slot empty)
  slot := by
    intro eventData taken
    rw [empty] at taken
    contradiction
  recorded := by
    intro udev here succeeded
    obtain ⟨member,infoPos,there,address,status⟩ := recorded udev here succeeded
    exact ⟨member,infoPos,there,address,by simpa [UsbPnp.subject_empty empty] using status⟩

variable (usb) in
theorem attach_stays (s : Census δ) (out : AttachOutcomes) (udev d : δ) (other : d ≠ udev) :
    attaches usb (.attach udev out) s.attached d = s.attached d ∧
      fails usb s.pnp (.attach udev out) s.failed d = s.failed d := by
  simp [attaches,fails,other]

include kept in
theorem attach_listed (out : AttachOutcomes) (udev : δ) (new : s.pnp.isNew usb udev = true) :
    ∀ d ∈ s.pnp.deviceList ++ [udev], attaches usb (.attach udev out) s.attached d = true := by
  obtain ⟨plain,unlisted⟩ : (usb (.device udev)).isHub = false ∧ udev ∉ s.pnp.deviceList := by
    simpa [UsbPnp.isNew] using new
  intro d member
  rcases List.mem_append.mp member with old | last
  · have other : d ≠ udev := fun same => unlisted (same ▸ old)
    rw [(attach_stays usb s out udev d other).1]
    exact kept.listed d old
  · obtain rfl : d = udev := by simpa using last
    simp [attaches,plain]

include kept in
theorem attach_devices (udev : δ) (new : s.pnp.isNew usb udev = true) :
    (s.pnp.deviceList ++ [udev]).Nodup := by
  have unlisted : udev ∉ s.pnp.deviceList := by
    have both : (usb (.device udev)).isHub = false ∧ udev ∉ s.pnp.deviceList := by
      simpa [UsbPnp.isNew] using new
    exact both.2
  rw [List.nodup_append]
  refine ⟨kept.devices,by simp,?_⟩
  rintro d member _ last rfl
  obtain rfl : d = udev := by simpa using last
  exact unlisted member

include kept in
/-- A device that comes to fail leaves the claims of the others as they are. -/
theorem attach_others (out : AttachOutcomes) (udev : δ) (empty : s.pnp.usbDevice = none)
    (dropped : fails usb s.pnp (.attach udev out) s.failed udev = true) (d : δ)
    (here : attaches usb (.attach udev out) s.attached d = true)
    (succeeded : fails usb s.pnp (.attach udev out) s.failed d = false) :
    d ∈ s.pnp.deviceList ∧ ∃ infoPos ∈ s.pnp.infoList,
      infoPos.info.usbDevAddr = some (.device d) ∧ infoPos.status = .add := by
  have other : d ≠ udev := by
    rintro rfl
    rw [dropped] at succeeded
    contradiction
  rw [(attach_stays usb s out udev d other).1] at here
  rw [(attach_stays usb s out udev d other).2] at succeeded
  exact recorded_empty kept empty d here succeeded

include kept in
theorem kept_attach_given (out : AttachOutcomes) (udev : δ) (new : s.pnp.isNew usb udev = true)
    (empty : s.pnp.usbDevice = none) (t : UsbPnp δ)
    (dropped : fails usb s.pnp (.attach udev out) s.failed udev = true)
    (infoList : t.infoList = s.pnp.infoList) (usbDevice : t.usbDevice = none)
    (deviceList : t.deviceList = s.pnp.deviceList ∨ t.deviceList = s.pnp.deviceList ++ [udev]) :
    Kept ⟨t,attaches usb (.attach udev out) s.attached,
      fails usb s.pnp (.attach udev out) s.failed⟩ := by
  have within : ∀ d ∈ s.pnp.deviceList, d ∈ t.deviceList := by
    intro d member
    rcases deviceList with same | more
    · rwa [same]
    · rw [more]
      exact List.mem_append_left _ member
  have beyond : ∀ d ∈ t.deviceList, d ∈ s.pnp.deviceList ++ [udev] := by
    intro d member
    rcases deviceList with same | more
    · rw [same] at member
      exact List.mem_append_left _ member
    · rwa [more] at member
  apply kept_of_empty usbDevice
  · rw [infoList]
    exact kept.addresses
  · rw [infoList]
    exact kept.ids
  · rcases deviceList with same | more
    · rw [same]
      exact kept.devices
    · rw [more]
      exact attach_devices kept udev new
  · exact fun d member => attach_listed kept out udev new d (beyond d member)
  · intro infoPos there
    rw [infoList] at there
    obtain ⟨d,member,own⟩ := owned_empty kept empty infoPos there
    exact ⟨d,within d member,own⟩
  · intro d here succeeded
    obtain ⟨member,record⟩ := attach_others kept out udev empty dropped d here succeeded
    rw [infoList]
    exact ⟨within d member,record⟩

include kept in
theorem kept_attach_made (out : AttachOutcomes) (udev : δ) (new : s.pnp.isNew usb udev = true)
    (empty : s.pnp.usbDevice = none) (fresh : s.pnp.Fresh 1) (t : UsbPnp δ)
    (deviceInfo : UsbPnpDeviceInfo δ) (drawn : drawnIds 1 s.pnp.idNum = [deviceInfo.id])
    (init : deviceInfo.status = .init) (address : deviceInfo.info.usbDevAddr = some (.device udev))
    (infoList : t.infoList = s.pnp.infoList ++ [deviceInfo])
    (deviceList : t.deviceList = s.pnp.deviceList ++ [udev])
    (slot : t.usbDevice = some (.device udev) ∧ t.cmdType = .addDevice ∨ t.usbDevice = none ∧
      fails usb s.pnp (.attach udev out) s.failed udev = true) :
    Kept ⟨t,attaches usb (.attach udev out) s.attached,
      fails usb s.pnp (.attach udev out) s.failed⟩ := by
  have listed := attach_listed kept out udev new
  have devices := attach_devices kept udev new
  have addresses : ((s.pnp.infoList ++ [deviceInfo]).map
      fun infoPos => infoPos.info.usbDevAddr).Nodup := by
    simp only [List.map_append,List.map_cons,List.map_nil]
    rw [List.nodup_append]
    refine ⟨kept.addresses,by simp,?_⟩
    rintro a member _ last rfl
    obtain ⟨infoPos,there,rfl⟩ := List.mem_map.mp member
    obtain ⟨d,old,own⟩ := owned_empty kept empty infoPos there
    have same : some (EventData.device d) = some (.device udev) := by
      rw [← own,← address]
      simpa using last
    obtain rfl : d = udev := by simpa using same
    exact (List.nodup_append.mp devices).2.2 d old d (by simp) rfl
  have ids : ((s.pnp.infoList ++ [deviceInfo]).map UsbPnpDeviceInfo.id).Nodup := by
    rw [UsbPnp.Fresh,drawn] at fresh
    simpa using fresh
  have owned : ∀ infoPos ∈ s.pnp.infoList ++ [deviceInfo], ∃ d ∈ s.pnp.deviceList ++ [udev],
      infoPos.info.usbDevAddr = some (.device d) := by
    intro infoPos there
    rcases List.mem_append.mp there with former | last
    · obtain ⟨d,member,own⟩ := owned_empty kept empty infoPos former
      exact ⟨d,List.mem_append_left _ member,own⟩
    · obtain rfl : infoPos = deviceInfo := by simpa using last
      exact ⟨udev,by simp,address⟩
  have grown : ∀ d, (d ∈ s.pnp.deviceList ∧ ∃ infoPos ∈ s.pnp.infoList,
      infoPos.info.usbDevAddr = some (.device d) ∧ infoPos.status = .add) →
      d ∈ s.pnp.deviceList ++ [udev] ∧ ∃ infoPos ∈ s.pnp.infoList ++ [deviceInfo],
        infoPos.info.usbDevAddr = some (.device d) ∧ infoPos.status = .add := by
    rintro d ⟨member,infoPos,there,own⟩
    exact ⟨List.mem_append_left _ member,infoPos,List.mem_append_left _ there,own⟩
  rw [← infoList] at addresses ids owned grown
  rw [← deviceList] at listed devices owned grown
  rcases slot with ⟨taken,kind⟩ | ⟨free,dropped⟩
  · have subject : t.subject = some (.device udev) := by simp [UsbPnp.subject,taken]
    exact {
      addresses := addresses
      ids := ids
      devices := devices
      listed := listed
      owned := by
        intro infoPos there
        obtain ⟨d,member,own⟩ := owned infoPos there
        exact ⟨d,own,.inl member⟩
      gone := by
        rintro d ⟨-,remove⟩
        rw [kind] at remove
        contradiction
      slot := by
        intro eventData posted
        obtain rfl : EventData.device udev = eventData := by simpa [taken] using posted
        simp [kind]
      recorded := by
        intro d here succeeded
        rw [subject]
        by_cases same : d = udev
        · subst same
          exact ⟨by simp [deviceList],deviceInfo,by simp [infoList],address,by simpa using init⟩
        · obtain ⟨attached,failed⟩ := attach_stays usb s out udev d same
          obtain ⟨member,infoPos,there,own,status⟩ := grown d (recorded_empty kept empty d
            (attached.symm.trans here) (failed.symm.trans succeeded))
          have apart : udev ≠ d := fun swapped => same swapped.symm
          exact ⟨member,infoPos,there,own,by simpa [apart] using status⟩}
  · exact kept_of_empty free addresses ids devices listed owned fun d here succeeded =>
      grown d (attach_others kept out udev empty dropped d here succeeded)

include kept in
theorem kept_attach (out : AttachOutcomes) (udev : δ) (tidy : Tidy (usb,.attach udev out) s.pnp) :
    (step (usb,.attach udev out) s).2.Kept := by
  cases new : s.pnp.isNew usb udev with
  | false =>
    have known : (usb (.device udev)).isHub = true ∨ udev ∈ s.pnp.deviceList := by
      cases hub : (usb (.device udev)).isHub with
      | false => simpa [UsbPnp.isNew,hub] using new
      | true => exact .inl rfl
    have attached : attaches usb (.attach udev out) s.attached = s.attached := by
      funext d
      by_cases same : d = udev
      · rcases known with hub | member
        · simp [attaches,hub]
        · simp [attaches,same,kept.listed udev member]
      · simp [attaches,same]
    have unchanged : (step (usb,.attach udev out) s).2 = s := by
      simp [step,attached,fails,new,UsbPnp.step,UsbPnp.attachDevice,known]
    rw [unchanged]
    exact kept
  | true =>
    obtain ⟨orderly,room⟩ := tidy
    obtain ⟨entry,fresh⟩ := room new
    obtain ⟨plain,unlisted⟩ : (usb (.device udev)).isHub = false ∧ udev ∉ s.pnp.deviceList := by
      simpa [UsbPnp.isNew] using new
    have empty : s.pnp.usbDevice = none := by
      simpa [Mail.Orderly,plain,unlisted] using orderly
    rcases UsbPnp.attachDevice_new usb out udev s.pnp new entry with
      ⟨given,infoList,usbDevice,deviceList⟩ |
        ⟨deviceList,made,deviceInfo,drawn,init,address,infoList,slot⟩
    · exact kept_attach_given kept out udev new empty _ (by simp [fails,new,given]) infoList
        (usbDevice.trans empty) deviceList
    · refine kept_attach_made kept out udev new empty fresh _ deviceInfo drawn init address infoList
        deviceList ?_
      split at slot
      next described => exact .inl slot
      next bare => exact .inr ⟨slot.trans empty,by simp [fails,new,bare]⟩

variable (usb) in
theorem detach_here (s : Census δ) (udev d : δ) :
    attaches usb (.detach udev) s.attached d = true ↔ d ≠ udev ∧ s.attached d = true := by
  by_cases same : d = udev <;> simp [attaches,same]

include kept in
theorem detach_listed (udev : δ) :
    ∀ d ∈ s.pnp.deviceList.erase udev, attaches usb (.detach udev) s.attached d = true := by
  intro d left
  obtain ⟨other,former⟩ := kept.devices.mem_erase_iff.mp left
  exact (detach_here usb s udev d).mpr ⟨other,kept.listed d former⟩

include kept in
/-- The device has no record. -/
theorem kept_detach_missing (udev : δ) (empty : s.pnp.usbDevice = none) (t : UsbPnp δ)
    (deviceList : t.deviceList = s.pnp.deviceList.erase udev)
    (absent : ∀ infoPos ∈ s.pnp.infoList, infoPos.info.usbDevAddr ≠ some (.device udev))
    (infoList : t.infoList = s.pnp.infoList) (usbDevice : t.usbDevice = none) :
    Kept ⟨t,attaches usb (.detach udev) s.attached,s.failed⟩ := by
  apply kept_of_empty usbDevice
  · rw [infoList]
    exact kept.addresses
  · rw [infoList]
    exact kept.ids
  · rw [deviceList]
    exact kept.devices.erase udev
  · rw [deviceList]
    exact detach_listed kept udev
  · intro infoPos there
    rw [infoList] at there
    obtain ⟨d,former,own⟩ := owned_empty kept empty infoPos there
    have other : d ≠ udev := fun same => absent infoPos there (same ▸ own)
    rw [deviceList]
    exact ⟨d,kept.devices.mem_erase_iff.mpr ⟨other,former⟩,own⟩
  · intro d present succeeded
    obtain ⟨other,attached⟩ := (detach_here usb s udev d).mp present
    obtain ⟨former,record⟩ := recorded_empty kept empty d attached succeeded
    rw [deviceList,infoList]
    exact ⟨kept.devices.mem_erase_iff.mpr ⟨other,former⟩,record⟩

include kept in
/-- The record of the device is restarted and its removal posted. -/
theorem kept_detach_found (udev : δ) (empty : s.pnp.usbDevice = none) (t : UsbPnp δ)
    (deviceList : t.deviceList = s.pnp.deviceList.erase udev) (i : Nat)
    (found after : UsbPnpDeviceInfo δ) (place : s.pnp.infoList[i]? = some found)
    (own : found.info.usbDevAddr = some (.device udev)) (id : after.id = found.id)
    (address : after.info.usbDevAddr = found.info.usbDevAddr)
    (infoList : t.infoList = s.pnp.infoList.set i after) (removing : t.Removing udev) :
    Kept ⟨t,attaches usb (.detach udev) s.attached,s.failed⟩ := by
  have there := List.mem_of_getElem? place
  have present : ∀ d ∈ s.pnp.deviceList.erase udev,
      attaches usb (.detach udev) s.attached d = true := detach_listed kept udev
  have subject : t.subject = some (.device udev) := by simp [UsbPnp.subject,removing.1]
  have mem := Keyed.mem_set UsbPnpDeviceInfo.id kept.ids place id
  have same := UsbPnp.map_set_record after place id address
  have apart : ∀ infoPos ∈ s.pnp.infoList, infoPos.id ≠ found.id ↔
      infoPos.info.usbDevAddr ≠ some (.device udev) := by
    intro infoPos old
    rw [← own]
    refine not_congr ⟨fun alike => ?_,fun alike => ?_⟩
    · rw [Keyed.unique UsbPnpDeviceInfo.id kept.ids old there alike]
    · rw [UsbPnp.address_unique kept.addresses old there alike]
  exact {
    addresses := by
      rw [infoList,same.1]
      exact kept.addresses
    ids := by
      rw [infoList,same.2]
      exact kept.ids
    devices := by
      rw [deviceList]
      exact kept.devices.erase udev
    listed := by rwa [deviceList]
    owned := by
      intro infoPos member
      rw [infoList,mem] at member
      rcases member with rfl | ⟨former,other⟩
      · exact ⟨udev,address.trans own,.inr removing⟩
      · obtain ⟨d,listed,holder⟩ := owned_empty kept empty infoPos former
        have elsewhere := (apart infoPos former).mp other
        rw [holder] at elsewhere
        refine ⟨d,holder,.inl ?_⟩
        rw [deviceList]
        exact kept.devices.mem_erase_iff.mpr ⟨by simpa using elsewhere,listed⟩
    gone := by
      rintro d ⟨taken,-⟩
      obtain rfl : udev = d := by simpa [removing.1] using taken
      simp [attaches]
    slot := by
      intro eventData taken
      obtain rfl : EventData.device udev = eventData := by simpa [removing.1] using taken
      simp [removing.2]
    recorded := by
      intro d present succeeded
      obtain ⟨other,attached⟩ := (detach_here usb s udev d).mp present
      obtain ⟨former,infoPos,old,holder,status⟩ := recorded_empty kept empty d attached succeeded
      have away : udev ≠ d := fun same => other same.symm
      have elsewhere := (apart infoPos old).mpr (by simpa [holder] using other)
      rw [deviceList,infoList,subject]
      exact ⟨kept.devices.mem_erase_iff.mpr ⟨other,former⟩,infoPos,
        (mem infoPos).mpr (.inr ⟨old,elsewhere⟩),holder,by simpa [away] using status⟩}

include kept in
theorem kept_detach (udev : δ) (tidy : Tidy (usb,.detach udev) s.pnp) :
    (step (usb,.detach udev) s).2.Kept := by
  have shape : (step (usb,.detach udev) s).2 =
      ⟨s.pnp.detachDevice udev,attaches usb (.detach udev) s.attached,s.failed⟩ := rfl
  rw [shape]
  by_cases member : udev ∈ s.pnp.deviceList
  · have empty : s.pnp.usbDevice = none := by
      simpa [Tidy,Mail.Orderly,member] using tidy
    obtain ⟨deviceList,⟨absent,infoList,usbDevice⟩ |
      ⟨i,found,place,-,own,infoList,slot,kind⟩⟩ := UsbPnp.detachDevice_listed udev s.pnp member
    · exact kept_detach_missing kept udev empty _ deviceList absent infoList (usbDevice.trans empty)
    · exact kept_detach_found kept udev empty _ deviceList i found (UsbPnp.restart .remove found)
        place own rfl rfl infoList ⟨slot,kind⟩
  · have same : s.pnp.detachDevice udev = s.pnp := by simp [UsbPnp.detachDevice,member]
    rw [same]
    exact {
      addresses := kept.addresses
      ids := kept.ids
      devices := kept.devices
      listed := by
        intro d listed
        have other : d ≠ udev := fun same => member (same ▸ listed)
        exact (detach_here usb s udev d).mpr ⟨other,kept.listed d listed⟩
      owned := kept.owned
      gone := by
        intro d removing
        simp [attaches,kept.gone d removing]
      slot := kept.slot
      recorded := fun d present succeeded =>
        kept.recorded d ((detach_here usb s udev d).mp present).2 succeeded}

include kept in
theorem kept_command (cmd : UsbPnpNotifyServiceCmd) (empty : s.pnp.usbDevice = none) :
    Kept ⟨{s.pnp with cmdType := cmd},s.attached,s.failed⟩ :=
  kept_of_empty empty kept.addresses kept.ids kept.devices kept.listed (owned_empty kept empty)
    (recorded_empty kept empty)

include kept in
theorem kept_reportInterface (data : Option UsbPnpAddRemoveInfo) (out : Nat → SendOutcomes)
    (registered : Int) (empty : s.pnp.usbDevice = none)
    (absent : ∀ udev ∈ s.pnp.deviceList, s.pnp.recordsOf udev = [])
    (fresh : s.pnp.Fresh s.pnp.deviceList.length) :
    (step (usb,.dispatch true .reportInterface data out registered) s).2.Kept := by
  have bare : s.pnp.infoList = [] := by
    refine List.eq_nil_iff_forall_not_mem.mpr fun infoPos there => ?_
    obtain ⟨udev,member,address⟩ := owned_empty kept empty infoPos there
    have record : infoPos ∈ s.pnp.recordsOf udev := by simp [UsbPnp.recordsOf,there,address]
    rw [absent udev member] at record
    contradiction
  obtain ⟨t,state⟩ : ∃ t, t = {s.pnp with cmdType := UsbPnpNotifyServiceCmd.reportInterface} :=
    ⟨_,rfl⟩
  have devices : t.deviceList = s.pnp.deviceList := by rw [state]
  have shape : (step (usb,.dispatch true .reportInterface data out registered) s).2 =
      ⟨t.reportEach usb s.pnp.deviceList out 0,s.attached,
        fails usb s.pnp (.dispatch true .reportInterface data out registered) s.failed⟩ := by
    rw [state]
    rfl
  obtain ⟨made,infoList,unique,sublist,added,reported⟩ := UsbPnp.reportEach_made usb
    s.pnp.deviceList out 0 t (by rw [state]) (by rw [state]; exact fresh)
  have framed := UsbPnp.reportEach_framed usb out s.pnp.deviceList 0 t
  have records : (t.reportEach usb s.pnp.deviceList out 0).infoList = made := by
    rw [infoList,state,bare,List.nil_append]
  have slot : (t.reportEach usb s.pnp.deviceList out 0).usbDevice = none := by
    rw [framed.usbDevice,state,empty]
  have list : (t.reportEach usb s.pnp.deviceList out 0).deviceList = s.pnp.deviceList := by
    rw [framed.deviceList,devices]
  rw [shape]
  apply kept_of_empty slot
  · rw [records]
    exact (kept.devices.map fun _ _ same => by simpa using same).sublist sublist
  · simpa [UsbPnp.Fresh,drawnIds] using unique
  · rw [list]
    exact kept.devices
  · rw [list]
    exact kept.listed
  · intro infoPos there
    rw [records] at there
    obtain ⟨udev,member,address⟩ := List.mem_map.mp (sublist.subset
      (List.mem_map_of_mem (f := fun infoPos : UsbPnpDeviceInfo δ => infoPos.info.usbDevAddr) there))
    exact ⟨udev,by rwa [list],address.symm⟩
  · intro udev attached succeeded
    rw [list,records]
    have member : udev ∈ s.pnp.deviceList := by
      by_contra unlisted
      have before : s.failed udev = false := by simpa [fails,unlisted] using succeeded
      exact unlisted (kept.recorded udev attached before).1
    have bound := List.idxOf_lt_length_iff.mpr member
    have place : s.pnp.deviceList[s.pnp.deviceList.idxOf udev] = udev := List.getElem_idxOf bound
    obtain ⟨infoPos,there,address⟩ := reported _ bound (by
      rw [place]
      simpa [fails,member] using succeeded)
    rw [place] at address
    exact ⟨member,infoPos,there,address,added infoPos there⟩

include kept in
theorem kept_interface (usbPnpInfo : UsbPnpAddRemoveInfo) (cmd : UsbPnpNotifyServiceCmd)
    (removeType : UsbPnpNotifyRemoveType) (wakeUps : Nat) (interface : cmd.isInterface = true)
    (empty : s.pnp.usbDevice = none) :
    Kept ⟨{UsbPnp.readPnpInfo (some usbPnpInfo) {s.pnp with cmdType := cmd} with
      removeType := removeType,wakeUps := wakeUps},s.attached,s.failed⟩ := by
  obtain ⟨t,state⟩ : ∃ t, t = {s.pnp with cmdType := cmd} := ⟨_,rfl⟩
  have list : t.infoList = s.pnp.infoList := by rw [state]
  rw [← state]
  obtain ⟨deviceList,addresses,ids,restarts⟩ := UsbPnp.readPnpInfo_taken usbPnpInfo t
    (by rw [list]; exact kept.addresses) (by rw [list]; exact kept.ids)
  obtain ⟨cmdType,usbDevice⟩ := UsbPnp.readPnpInfo_slot (some usbPnpInfo) t
  rw [list] at addresses ids restarts
  obtain ⟨read,taken⟩ : ∃ read, read = {t.readPnpInfo (some usbPnpInfo) with
      removeType := removeType,wakeUps := wakeUps} := ⟨_,rfl⟩
  have devices : read.deviceList = s.pnp.deviceList := by rw [taken,deviceList,state]
  have slot : read.usbDevice = some .pnpInfo := by
    rw [taken]
    exact usbDevice
  have kind : read.cmdType = cmd := by rw [taken,cmdType,state]
  have same : read.infoList = (t.readPnpInfo (some usbPnpInfo)).infoList := by rw [taken]
  have about : read.subject = (t.readPnpInfo (some usbPnpInfo)).subject := by
    rw [taken]
    rfl
  rw [← same] at addresses ids restarts
  rw [← taken]
  exact {
    addresses := by
      rw [addresses]
      exact kept.addresses
    ids := by
      rw [ids]
      exact kept.ids
    devices := by
      rw [devices]
      exact kept.devices
    listed := by
      rw [devices]
      exact kept.listed
    owned := by
      intro infoPos there
      have member := List.mem_map_of_mem
        (f := fun infoPos : UsbPnpDeviceInfo δ => infoPos.info.usbDevAddr) there
      rw [addresses] at member
      obtain ⟨former,old,alike⟩ := List.mem_map.mp member
      obtain ⟨udev,listed,address⟩ := owned_empty kept empty former old
      exact ⟨udev,alike.symm.trans address,.inl (by rwa [devices])⟩
    gone := by
      rintro udev ⟨posted,-⟩
      simp [slot] at posted
    slot := by
      intro eventData posted
      obtain rfl : EventData.pnpInfo = eventData := by simpa [slot] using posted
      simpa [kind] using interface
    recorded := by
      intro udev attached succeeded
      obtain ⟨listed,infoPos,former,address,added⟩ :=
        recorded_empty kept empty udev attached succeeded
      rw [devices,about]
      exact ⟨listed,restarts udev infoPos former address added⟩}

include kept in
theorem kept_dispatch (parties : Bool) (cmd : UsbPnpNotifyServiceCmd)
    (data : Option UsbPnpAddRemoveInfo) (out : Nat → SendOutcomes) (registered : Int)
    (tidy : Tidy (usb,.dispatch parties cmd data out registered) s.pnp) :
    (step (usb,.dispatch parties cmd data out registered) s).2.Kept := by
  cases parties with
  | false =>
    have same : (step (usb,.dispatch false cmd data out registered) s).2 = s := by
      cases cmd <;> simp [step,UsbPnp.step,UsbPnp.dispatch,attaches,fails]
    rw [same]
    exact kept
  | true =>
    obtain ⟨empty,readable⟩ := tidy.1.resolve_left (by simp)
    cases cmd with
    | addInterface =>
      obtain ⟨usbPnpInfo,rfl⟩ := Option.isSome_iff_exists.mp (readable rfl)
      exact kept_interface kept usbPnpInfo .addInterface _ _ rfl empty
    | removeInterface =>
      obtain ⟨usbPnpInfo,rfl⟩ := Option.isSome_iff_exists.mp (readable rfl)
      exact kept_interface kept usbPnpInfo .removeInterface _ _ rfl empty
    | reportInterface =>
      obtain ⟨absent,fresh⟩ := tidy.2 rfl
      exact kept_reportInterface kept data out registered empty absent fresh
    | driverRegisterDevice | driverUnregisterDevice | addDevice | removeDevice | other =>
      exact kept_command kept _ empty

include kept in
/-- The record that the thread looks up is the one that the event is about. -/
theorem getDeviceInfo_waiting (osalMemCalloc : Bool) (eventData : EventData δ)
    (waits : s.pnp.usbDevice = some eventData) : ∃ found : Option Nat,
      s.pnp.getDeviceInfo osalMemCalloc eventData = (found,s.pnp) ∧
      (found = none → ∀ infoPos ∈ s.pnp.infoList, s.pnp.subject ≠ infoPos.info.usbDevAddr) ∧
      ∀ i, found = some i → ∃ infoPos, s.pnp.infoList[i]? = some infoPos ∧
        infoPos ∈ s.pnp.infoList ∧ s.pnp.subject = infoPos.info.usbDevAddr := by
  have kind := kept.slot eventData waits
  cases eventData with
  | device udev =>
    have subject : s.pnp.subject = some (.device udev) := by simp [UsbPnp.subject,waits]
    refine ⟨s.pnp.findInfo (.deviceAddress (.device udev)),?_,fun missing infoPos there => ?_,
      fun i search => ?_⟩
    · rcases kind with add | remove
      · simp [UsbPnp.getDeviceInfo,add,UsbPnpNotifyServiceCmd.isInterface]
      · simp [UsbPnp.getDeviceInfo,remove,UsbPnpNotifyServiceCmd.isInterface]
    · have other := List.findIdx?_eq_none_iff.mp missing infoPos there
      rw [subject]
      exact fun own => by simp [UsbInfoQueryPara.finds,← own] at other
    · obtain ⟨infoPos,place,there,own⟩ := Keyed.findIdx?_found search
      have address : infoPos.info.usbDevAddr = some (.device udev) := by
        simpa [UsbInfoQueryPara.finds] using own
      exact ⟨infoPos,place,there,subject.trans address.symm⟩
  | pnpInfo =>
    have interface : s.pnp.cmdType.isInterface = true := kind
    refine ⟨s.pnp.findInfo (.normal s.pnp.pnpInfo.devNum s.pnp.pnpInfo.busNum),
      by simp [UsbPnp.getDeviceInfo,interface],fun missing infoPos there => ?_,fun i search => ?_⟩
    · obtain ⟨udev,address,-⟩ := kept.owned infoPos there
      simp [UsbPnp.subject,waits,missing,address]
    · obtain ⟨infoPos,place,there,-⟩ := Keyed.findIdx?_found search
      exact ⟨infoPos,place,there,by simp [UsbPnp.subject,waits,search,place]⟩

include kept in
theorem event_not_report (eventData : EventData δ) (waits : s.pnp.usbDevice = some eventData) :
    s.pnp.cmdType ≠ .reportInterface := by
  intro report
  have kind := kept.slot eventData waits
  simp [report,UsbPnpNotifyServiceCmd.isInterface] at kind

include kept in
theorem subject_removed (udev : δ) (remove : s.pnp.cmdType = .removeDevice)
    (about : s.pnp.subject = some (.device udev)) : s.attached udev = false := by
  cases waits : s.pnp.usbDevice with
  | none => simp [UsbPnp.subject,waits] at about
  | some eventData =>
    have kind := kept.slot eventData waits
    cases eventData with
    | device other =>
      obtain rfl : other = udev := by simpa [UsbPnp.subject,waits] using about
      exact kept.gone other ⟨waits,remove⟩
    | pnpInfo => simp [remove,UsbPnpNotifyServiceCmd.isInterface] at kind

/-- What a report leaves of the records: all, all with the one that it sent, or all but the
one that was not sent or whose device is removed. -/
inductive Left (s : Census δ) (out : SendOutcomes) (l : List (UsbPnpDeviceInfo δ)) : Prop
  | same (records : l = s.pnp.infoList)
      (unsent : out.sends = false ∧ s.pnp.cmdType ≠ .removeDevice ∨
        ∀ infoPos ∈ s.pnp.infoList, s.pnp.subject ≠ infoPos.info.usbDevAddr)
  | sent (i : Nat) (found after : UsbPnpDeviceInfo δ) (place : s.pnp.infoList[i]? = some found)
      (about : s.pnp.subject = found.info.usbDevAddr) (records : l = s.pnp.infoList.set i after)
      (id : after.id = found.id) (address : after.info.usbDevAddr = found.info.usbDevAddr)
      (added : after.status = .add) (other : s.pnp.cmdType ≠ .removeDevice)
  | ended (i : Nat) (found after : UsbPnpDeviceInfo δ) (place : s.pnp.infoList[i]? = some found)
      (about : s.pnp.subject = found.info.usbDevAddr)
      (records : l = (s.pnp.infoList.set i after).eraseP fun infoPos => infoPos.id == after.id)
      (id : after.id = found.id) (address : after.info.usbDevAddr = found.info.usbDevAddr)
      (why : out.sends = false ∨ found.status ≠ .init ∨ s.pnp.cmdType = .removeDevice)

include kept in
theorem reportThread_left (out : SendOutcomes) (eventData : EventData δ)
    (waits : s.pnp.usbDevice = some eventData)
    (buffer : s.pnp.cmdType = .removeDevice → out.sbufObtain = true) :
    s.Left out (s.pnp.hdfSendEvent usb out (some eventData)).2.infoList := by
  cases obtained : out.sbufObtain with
  | false =>
    have other : s.pnp.cmdType ≠ .removeDevice := by
      intro remove
      rw [buffer remove] at obtained
      contradiction
    exact .same (by simp [UsbPnp.hdfSendEvent,obtained])
      (.inl ⟨by simp [SendOutcomes.sends,obtained],other⟩)
  | true =>
    obtain ⟨found,got,missing,there⟩ := getDeviceInfo_waiting kept out.osalMemCalloc eventData waits
    cases search : found with
    | none =>
      rw [search] at got
      exact .same (by simp [UsbPnp.hdfSendEvent,obtained,got]) (.inr (missing search))
    | some i =>
      rw [search] at got
      obtain ⟨deviceInfo,place,-,about⟩ := there i search
      have plain := event_not_report kept eventData waits
      obtain ⟨after,id,address,-,goes,stops⟩ := UsbPnp.hdfSendEvent_record usb out eventData s.pnp
        s.pnp i deviceInfo obtained got place
      rw [if_neg plain] at address
      by_cases through : s.pnp.Sends usb out eventData deviceInfo ∧ s.pnp.cmdType ≠ .removeDevice
      · obtain ⟨added,records⟩ := goes through.1 through.2
        exact .sent i deviceInfo after place about records id address added through.2
      · have records := stops (by tauto)
        refine .ended i deviceInfo after place about records id address ?_
        by_contra all
        simp only [not_or,Bool.not_eq_false,not_not] at all
        have through' : out.sbufWriteBuffer = true ∧ out.ioServiceBind = true := by
          have sends := all.1
          simp only [SendOutcomes.sends,obtained,Bool.true_and,Bool.and_eq_true] at sends
          exact sends
        exact through ⟨⟨fun report => absurd report plain,through'.1,all.2.1,through'.2⟩,all.2.2⟩

include kept in
theorem owned_listed (infoPos : UsbPnpDeviceInfo δ) (there : infoPos ∈ s.pnp.infoList)
    (stays : s.pnp.subject = infoPos.info.usbDevAddr → s.pnp.cmdType ≠ .removeDevice) :
    ∃ udev ∈ s.pnp.deviceList, infoPos.info.usbDevAddr = some (.device udev) := by
  obtain ⟨udev,address,listed | removing⟩ := kept.owned infoPos there
  · exact ⟨udev,listed,address⟩
  · have about : s.pnp.subject = some (.device udev) := by simp [UsbPnp.subject,removing.1]
    exact absurd removing.2 (stays (about.trans address.symm))

section Report
variable {out : SendOutcomes} {t : UsbPnp δ} (empty : t.usbDevice = none)
  (devices : t.deviceList = s.pnp.deviceList) {failed : δ → Bool}
  (fails : ∀ udev, failed udev = false → s.failed udev = false ∧
    (out.sends = true ∨ s.pnp.subject ≠ some (.device udev)))

include kept empty devices fails in
/-- The report sent nothing, or found no record. -/
theorem kept_same (records : t.infoList = s.pnp.infoList)
    (unsent : out.sends = false ∧ s.pnp.cmdType ≠ .removeDevice ∨
      ∀ infoPos ∈ s.pnp.infoList, s.pnp.subject ≠ infoPos.info.usbDevAddr) :
    Kept ⟨t,s.attached,failed⟩ := by
  apply kept_of_empty empty
  · rw [records]
    exact kept.addresses
  · rw [records]
    exact kept.ids
  · rw [devices]
    exact kept.devices
  · rw [devices]
    exact kept.listed
  · intro infoPos there
    rw [records] at there
    rw [devices]
    refine owned_listed kept infoPos there fun about => ?_
    rcases unsent with ⟨-,other⟩ | missing
    · exact other
    · exact absurd about (missing infoPos there)
  · intro udev attached succeeded
    obtain ⟨before,through⟩ := fails udev succeeded
    rw [devices,records]
    apply recorded_added kept udev attached before
    rcases unsent with ⟨unsent,-⟩ | missing
    · exact through.resolve_left (by simp [unsent])
    · obtain ⟨-,infoPos,there,address,-⟩ := kept.recorded udev attached before
      exact fun about => missing infoPos there (about.trans address.symm)

include kept empty devices fails in
/-- The record was sent. -/
theorem kept_sent (i : Nat) (found after : UsbPnpDeviceInfo δ)
    (place : s.pnp.infoList[i]? = some found) (about : s.pnp.subject = found.info.usbDevAddr)
    (records : t.infoList = s.pnp.infoList.set i after) (id : after.id = found.id)
    (address : after.info.usbDevAddr = found.info.usbDevAddr) (added : after.status = .add)
    (other : s.pnp.cmdType ≠ .removeDevice) : Kept ⟨t,s.attached,failed⟩ := by
  have there := List.mem_of_getElem? place
  have same := UsbPnp.map_set_record after place id address
  have mem := Keyed.mem_set UsbPnpDeviceInfo.id kept.ids place id
  apply kept_of_empty empty
  · rw [records,same.1]
    exact kept.addresses
  · rw [records,same.2]
    exact kept.ids
  · rw [devices]
    exact kept.devices
  · rw [devices]
    exact kept.listed
  · intro infoPos left
    rw [records,mem] at left
    rw [devices]
    rcases left with rfl | ⟨former,-⟩
    · rw [address]
      exact owned_listed kept found there fun _ => other
    · exact owned_listed kept infoPos former fun _ => other
  · intro udev attached succeeded
    have before := (fails udev succeeded).1
    rw [devices,records]
    by_cases subject : s.pnp.subject = some (.device udev)
    · exact ⟨(kept.recorded udev attached before).1,after,(mem after).mpr (.inl rfl),
        by rw [address,← about,subject],added⟩
    · obtain ⟨listed,infoPos,old,own,status⟩ := recorded_added kept udev attached before subject
      refine ⟨listed,infoPos,(mem infoPos).mpr (.inr ⟨old,fun alike => subject ?_⟩),own,status⟩
      rw [about,← Keyed.unique UsbPnpDeviceInfo.id kept.ids old there alike,own]

include kept empty devices fails in
/-- The record was given up. -/
theorem kept_ended (i : Nat) (found after : UsbPnpDeviceInfo δ)
    (place : s.pnp.infoList[i]? = some found) (about : s.pnp.subject = found.info.usbDevAddr)
    (records : t.infoList =
      (s.pnp.infoList.set i after).eraseP fun infoPos => infoPos.id == after.id)
    (id : after.id = found.id) (address : after.info.usbDevAddr = found.info.usbDevAddr)
    (why : out.sends = false ∨ found.status ≠ .init ∨ s.pnp.cmdType = .removeDevice) :
    Kept ⟨t,s.attached,failed⟩ := by
  have there := List.mem_of_getElem? place
  have same := UsbPnp.map_set_record after place id address
  have mem := Keyed.mem_eraseP_set UsbPnpDeviceInfo.id kept.ids place id
  apply kept_of_empty empty
  · have addresses := kept.addresses
    rw [← same.1] at addresses
    rw [records]
    exact addresses.sublist (List.eraseP_sublist.map _)
  · have ids := kept.ids
    rw [← same.2] at ids
    rw [records]
    exact ids.sublist (List.eraseP_sublist.map _)
  · rw [devices]
    exact kept.devices
  · rw [devices]
    exact kept.listed
  · intro infoPos left
    rw [records,mem] at left
    rw [devices]
    refine owned_listed kept infoPos left.1 fun own => absurd ?_ left.2
    rw [UsbPnp.address_unique kept.addresses left.1 there (own.symm.trans about)]
  · intro udev attached succeeded
    obtain ⟨before,through⟩ := fails udev succeeded
    have subject : s.pnp.subject ≠ some (.device udev) := by
      intro own
      obtain ⟨-,infoPos,old,holder,status⟩ := kept.recorded udev attached before
      obtain rfl : infoPos = found := UsbPnp.address_unique kept.addresses old there
        (holder.trans (own.symm.trans about))
      rcases why with unsent | sent | remove
      · exact through.resolve_left (by simp [unsent]) own
      · exact sent (by simpa [own] using status)
      · rw [subject_removed kept udev remove own] at attached
        contradiction
    obtain ⟨listed,infoPos,old,own,status⟩ := recorded_added kept udev attached before subject
    rw [devices,records]
    refine ⟨listed,infoPos,(mem infoPos).mpr ⟨old,fun alike => subject ?_⟩,own,status⟩
    rw [about,← Keyed.unique UsbPnpDeviceInfo.id kept.ids old there alike,own]

include kept empty devices fails in
theorem kept_left (left : s.Left out t.infoList) : Kept ⟨t,s.attached,failed⟩ := by
  cases left with
  | same records unsent => exact kept_same kept empty devices fails records unsent
  | sent i found after place about records id address added other =>
    exact kept_sent kept empty devices fails i found after place about records id address added other
  | ended i found after place about records id address why =>
    exact kept_ended kept empty devices fails i found after place about records id address why

end Report

include kept in
theorem kept_report (out : SendOutcomes) (tidy : Tidy (usb,.report out) s.pnp) :
    (step (usb,.report out) s).2.Kept := by
  cases woken : s.pnp.woken with
  | false =>
    have same : (step (usb,.report out) s).2 = s := by
      simp [step,UsbPnp.step,UsbPnp.reportThread,attaches,fails,woken]
    rw [same]
    exact kept
  | true =>
    have failed : fails usb s.pnp (.report out) s.failed = fun udev =>
        s.failed udev || (!out.sends && s.pnp.subject == some (.device udev)) := by
      simp [fails,woken]
    have shape : (step (usb,.report out) s).2 = ⟨s.pnp.reportThread usb out,s.attached,
        fun udev => s.failed udev || (!out.sends && s.pnp.subject == some (.device udev))⟩ := by
      rw [← failed]
      rfl
    rw [shape]
    cases waits : s.pnp.usbDevice with
    | none =>
      have plain : s.pnp.cmdType.isInterface = false :=
        (tidy.1.resolve_left (by simp [woken])).resolve_left (by simp [waits])
      have nothing : s.pnp.reportThread usb out = {s.pnp with usbDevice := none,woken := false} := by
        simp [UsbPnp.reportThread,woken,plain,waits,UsbPnp.hdfSendEvent]
      have subject := UsbPnp.subject_empty waits
      rw [nothing,subject]
      exact kept_of_empty rfl kept.addresses kept.ids kept.devices kept.listed
        (owned_empty kept waits) (fun udev attached succeeded =>
          recorded_empty kept waits udev attached (by simpa using succeeded))
    | some eventData =>
      have reads : (if s.pnp.cmdType.isInterface then some .pnpInfo else s.pnp.usbDevice) =
          some eventData := by
        have kind := kept.slot eventData waits
        cases eventData with
        | device udev =>
          rcases kind with add | remove
          · simp [add,UsbPnpNotifyServiceCmd.isInterface,waits]
          · simp [remove,UsbPnpNotifyServiceCmd.isInterface,waits]
        | pnpInfo =>
          have interface : s.pnp.cmdType.isInterface = true := kind
          simp [interface]
      have turn : s.pnp.reportThread usb out =
          {(s.pnp.hdfSendEvent usb out (some eventData)).2 with
            usbDevice := none,woken := false} := by
        simp only [UsbPnp.reportThread,woken,reads]
        rfl
      have framed := UsbPnp.hdfSendEvent_framed usb out (some eventData) s.pnp
      have left : s.Left out (s.pnp.hdfSendEvent usb out (some eventData)).2.infoList :=
        reportThread_left kept out eventData waits tidy.2
      have through : ∀ udev, (s.failed udev || (!out.sends &&
          s.pnp.subject == some (.device udev))) = false → s.failed udev = false ∧
            (out.sends = true ∨ s.pnp.subject ≠ some (.device udev)) := by
        intro udev succeeded
        simpa only [Bool.or_eq_false_iff,Bool.and_eq_false_iff,Bool.not_eq_false',
          beq_eq_false_iff_ne] using succeeded
      obtain ⟨t,state⟩ : ∃ t, t = {(s.pnp.hdfSendEvent usb out (some eventData)).2 with
          usbDevice := none,woken := false} := ⟨_,rfl⟩
      have empty : t.usbDevice = none := by rw [state]
      have devices : t.deviceList = s.pnp.deviceList := by rw [state,← framed.deviceList]
      have records : s.Left out t.infoList := by rwa [state]
      rw [turn,← state]
      exact kept_left kept empty devices through records

include kept in
theorem kept_step (event : (EventData δ → UsbDevice) × UsbPnpEvent δ) (tidy : Tidy event s.pnp) :
    (step event s).2.Kept := by
  obtain ⟨usb,event⟩ := event
  cases event with
  | attach udev out => exact kept_attach kept out udev tidy
  | detach udev => exact kept_detach kept udev tidy
  | dispatch parties cmd data out registered =>
    exact kept_dispatch kept parties cmd data out registered tidy
  | wake interrupted =>
    have woken : s.pnp.wake interrupted = s.pnp ∨ s.pnp.wake interrupted = {s.pnp with woken := true} := by
      unfold UsbPnp.wake
      split
      · exact .inr rfl
      · exact .inl rfl
    have shape : (step (usb,.wake interrupted) s).2 = ⟨s.pnp.wake interrupted,s.attached,s.failed⟩ :=
      rfl
    rw [shape]
    rcases woken with same | woken
    · rw [same]
      exact kept
    · rw [woken]
      exact ⟨kept.addresses,kept.ids,kept.devices,kept.listed,kept.owned,kept.gone,kept.slot,
        kept.recorded⟩
  | report out => exact kept_report kept out tidy

end Kept
end Census

/-- In a tidy run an attached device has one record unless that could not be made or sent, and
a detached one has none but while its removal waits. -/
theorem usbPnp_counted (s : Census δ) (reached : Machine.Reach Census.step
    (fun event s => Census.Tidy event s.pnp) Census.boot s) : s.Counted := by
  have booted : (Census.boot : Census δ).Kept :=
    Census.kept_of_empty rfl List.nodup_nil List.nodup_nil List.nodup_nil (by rintro _ ⟨⟩)
      (by rintro _ ⟨⟩) (by rintro _ ⟨⟩)
  have kept := Machine.reach_invariant Census.step _ Census.boot Census.Kept booted
    (fun event _ kept tidy => Census.kept_step kept event tidy) s reached
  exact Census.counted_of_kept kept

/-- The report of the first device finds no loader, so that all are reported once it is there;
a second device comes, and the first one goes. -/
private def lateLoader : List ((EventData Nat → UsbDevice) × UsbPnpEvent Nat) :=
  [plugged 0,.wake false,.report ⟨true,true,true,false⟩,
    .dispatch true .reportInterface none (fun _ => ⟨true,true,true,true⟩) 0,
    plugged 1,.wake false,.report ⟨true,true,true,true⟩,
    .detach 0,.wake false,.report ⟨true,true,true,true⟩].map fun event => (camera,event)

theorem usbPnp_counted_late :
    (Machine.run Census.step lateLoader Census.boot).2.pnp.infoList.map
        (fun infoPos => infoPos.info.usbDevAddr) = [some (.device 1)] ∧
      (Machine.run Census.step lateLoader Census.boot).2.Counted := by
  refine ⟨by decide,usbPnp_counted _ (Machine.reach_run _ _ Census.boot lateLoader _ .start ?_)⟩
  refine ⟨⟨.inr (.inr rfl),fun _ => ⟨rfl,?_⟩⟩,⟨trivial,trivial⟩,⟨.inr (.inl rfl),fun _ => rfl⟩,
    ⟨.inr ⟨rfl,nofun⟩,fun _ => ⟨?_,?_⟩⟩,⟨.inr (.inr rfl),fun _ => ⟨rfl,?_⟩⟩,
    ⟨trivial,trivial⟩,⟨.inr (.inl rfl),fun _ => rfl⟩,⟨.inr rfl,trivial⟩,⟨trivial,trivial⟩,
    ⟨.inr (.inl rfl),fun _ => rfl⟩,trivial⟩
  · unfold UsbPnp.Fresh
    decide
  · decide
  · unfold UsbPnp.Fresh
    decide
  · unfold UsbPnp.Fresh
    decide

/-- A device is reported and goes before the thread takes its next turn. -/
private def unplugged : List ((EventData Nat → UsbDevice) × UsbPnpEvent Nat) :=
  [plugged 0,.wake false,.report ⟨true,true,true,true⟩,.detach 0].map fun event => (camera,event)

theorem usbPnp_records_unplugged :
    ¬ ∀ s, Machine.Reach Census.step (fun _ _ => True) Census.boot s → ∀ udev : Nat,
      (s.pnp.recordsOf udev).length = if s.attached udev = true then 1 else 0 := by
  intro counted
  have one := counted _ (Machine.reach_run _ (fun _ _ => True) Census.boot unplugged _ .start
    ⟨trivial,trivial,trivial,trivial,trivial⟩) 0
  have kept : ((Machine.run Census.step unplugged Census.boot).2.pnp.recordsOf 0).length = 1 ∧
      (Machine.run Census.step unplugged Census.boot).2.attached 0 = false := by decide
  rw [kept.1,kept.2] at one
  contradiction

end DriversAdapter.Usb
