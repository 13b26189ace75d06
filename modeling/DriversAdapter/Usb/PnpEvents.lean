import DriversAdapter.Usb.PnpNotify

/-! The slot between the event handlers and the report thread: what becomes of an event
between its handler and the report that consumes it. -/
namespace DriversAdapter.Usb
open DriversAdapter.Base DriversAdapter.Semantics

variable {δ : Type} [DecidableEq δ]

/-- The notifier with the event that was accepted and not yet consumed. `overwritten` says
that another one was written over such an event, `unpaired` that a report sent a command
with data that no waiting event had. -/
structure Mail (δ : Type) where
  pnp : UsbPnp δ
  waiting : Option (UsbPnpNotifyServiceCmd × EventData δ)
  overwritten : Bool
  unpaired : Bool

namespace Mail
variable (usb : EventData δ → UsbDevice)

/-- The event that a handler takes in, which it does with a wake-up. -/
def offered : UsbPnpEvent δ → Option (UsbPnpNotifyServiceCmd × EventData δ)
  | .attach udev _ => some (.addDevice,.device udev)
  | .detach udev => some (.removeDevice,.device udev)
  | .dispatch _ cmd _ _ _ => some (cmd,.pnpInfo)
  | .wake _ | .report _ => none

def reads (s : UsbPnp δ) : Option (UsbPnpNotifyServiceCmd × EventData δ) :=
  if s.woken = false then none
  else if s.cmdType.isInterface then some (s.cmdType,.pnpInfo)
  else s.usbDevice.map fun eventData => (s.cmdType,eventData)

def writes (event : UsbPnpEvent δ) (before after : UsbPnp δ) : Bool :=
  after.wakeUps != before.wakeUps || match event with
    | .dispatch parties _ _ _ _ => parties
    | _ => false

def step (event : UsbPnpEvent δ) (s : Mail δ) : Int × Mail δ :=
  let done := s.pnp.step usb event
  match event with
  | .wake _ => (done.1,{s with pnp := done.2})
  | .report _ => match reads s.pnp with
    | none => (done.1,{s with pnp := done.2})
    | some sent => (done.1,{s with
        pnp := done.2,waiting := none,unpaired := s.unpaired || s.waiting != some sent})
  | _ => (done.1,{s with
      pnp := done.2
      waiting := if done.2.wakeUps ≠ s.pnp.wakeUps then offered event else s.waiting
      overwritten := s.overwritten || (writes event s.pnp done.2 && s.waiting.isSome)})

def boot : Mail δ := ⟨.boot,none,false,false⟩

/-- Nothing was written over a waiting event, and every report sent one as it was accepted. -/
def Delivered (s : Mail δ) : Prop := s.overwritten = false ∧ s.unpaired = false

/-- Events come in while the slot is empty, an interface command with its data, and the
thread does not report an interface command when its wait was interrupted. -/
def Orderly (event : UsbPnpEvent δ) (s : UsbPnp δ) : Prop :=
  match event with
  | .attach udev _ => (usb (.device udev)).isHub = true ∨ udev ∈ s.deviceList ∨ s.usbDevice = none
  | .detach udev => udev ∉ s.deviceList ∨ s.usbDevice = none
  | .dispatch parties cmd data _ _ => parties = false ∨
      (s.usbDevice = none ∧ (cmd.isInterface = true → data.isSome = true))
  | .wake _ => True
  | .report _ => s.woken = false ∨ s.usbDevice.isSome = true ∨ s.cmdType.isInterface = false

/-- The slot and the command type are those of the event that waits. -/
structure Kept (s : Mail δ) : Prop where
  delivered : s.Delivered
  empty : s.waiting = none → s.pnp.usbDevice = none
  posted : ∀ cmd eventData, s.waiting = some (cmd,eventData) →
    s.pnp.usbDevice = some eventData ∧ s.pnp.cmdType = cmd ∧
      (cmd.isInterface = true ↔ eventData = .pnpInfo)

section Kept
variable {usb} {s : Mail δ} (kept : s.Kept)

omit [DecidableEq δ] in
include kept in
theorem waiting_of_empty (empty : s.pnp.usbDevice = none) : s.waiting = none := by
  cases waiting : s.waiting with
  | none => rfl
  | some event =>
    have posted := (kept.posted event.1 event.2 waiting).1
    rw [empty] at posted
    contradiction

omit [DecidableEq δ] in
include kept in
/-- A handler that finds the slot empty leaves it so, or fills it with a wake-up. -/
theorem kept_handled (cmd : UsbPnpNotifyServiceCmd) (eventData : EventData δ) (t : UsbPnp δ)
    (wrote : Bool) (slot : s.pnp.usbDevice = none)
    (did : t.wakeUps = s.pnp.wakeUps ∧ t.usbDevice = none ∨
      t.wakeUps = s.pnp.wakeUps + 1 ∧ t.usbDevice = some eventData ∧ t.cmdType = cmd ∧
        (cmd.isInterface = true ↔ eventData = .pnpInfo)) :
    Kept {s with
      pnp := t
      waiting := if t.wakeUps ≠ s.pnp.wakeUps then some (cmd,eventData) else s.waiting
      overwritten := s.overwritten || (wrote && s.waiting.isSome)} := by
  have free := waiting_of_empty kept slot
  rcases did with ⟨wakeUps,empty⟩ | ⟨wakeUps,taken,cmdType,interface⟩
  · refine ⟨⟨by simp [kept.delivered.1,free],kept.delivered.2⟩,fun _ => empty,?_⟩
    intro cmd' eventData' waits
    simp [wakeUps,free] at waits
  · have woken : t.wakeUps ≠ s.pnp.wakeUps := by omega
    refine ⟨⟨by simp [kept.delivered.1,free],kept.delivered.2⟩,?_,?_⟩
    · intro none
      simp [woken] at none
    · intro cmd' eventData' waits
      simp only [woken,ne_eq,not_false_eq_true,if_true,Option.some.injEq,Prod.mk.injEq] at waits
      obtain ⟨rfl,rfl⟩ := waits
      exact ⟨taken,cmdType,interface⟩

omit [DecidableEq δ] in
include kept in
theorem kept_posts (event : UsbPnpEvent δ) (cmd : UsbPnpNotifyServiceCmd) (eventData : EventData δ)
    (t : UsbPnp δ) (posts : UsbPnp.Posts eventData cmd s.pnp t)
    (orderly : t.wakeUps = s.pnp.wakeUps ∨ s.pnp.usbDevice = none)
    (interface : cmd.isInterface = true ↔ eventData = .pnpInfo)
    (offers : offered event = some (cmd,eventData))
    (handler : writes event s.pnp t = (t.wakeUps != s.pnp.wakeUps)) :
    Kept {s with
      pnp := t
      waiting := if t.wakeUps ≠ s.pnp.wakeUps then offered event else s.waiting
      overwritten := s.overwritten || (writes event s.pnp t && s.waiting.isSome)} := by
  rcases posts with ⟨wakeUps,usbDevice,cmdType⟩ | ⟨wakeUps,usbDevice,cmdType⟩
  · refine ⟨⟨by simp [kept.delivered.1,handler,wakeUps],kept.delivered.2⟩,?_,?_⟩
    · intro none
      exact usbDevice.trans (kept.empty (by simpa [wakeUps] using none))
    · intro cmd' eventData' waits
      have before := kept.posted cmd' eventData' (by simpa [wakeUps] using waits)
      exact ⟨usbDevice.trans before.1,cmdType.trans before.2.1,before.2.2⟩
  · have slot := orderly.resolve_left (by omega)
    rw [offers]
    exact kept_handled kept cmd eventData t _ slot (.inr ⟨wakeUps,usbDevice,cmdType,interface⟩)

include kept in
theorem kept_dispatch (parties : Bool) (cmd : UsbPnpNotifyServiceCmd)
    (data : Option UsbPnpAddRemoveInfo) (out : Nat → SendOutcomes) (registered : Int)
    (orderly : Orderly usb (.dispatch parties cmd data out registered) s.pnp) :
    (step usb (.dispatch parties cmd data out registered) s).2.Kept := by
  cases parties with
  | false =>
    have same : (step usb (.dispatch false cmd data out registered) s).2 = s := by
      simp [step,UsbPnp.step,UsbPnp.dispatch,writes]
    rw [same]
    exact kept
  | true =>
    obtain ⟨slot,readable⟩ := orderly.resolve_left (by simp)
    apply kept_handled kept cmd .pnpInfo _ _ slot
    have read := UsbPnp.readPnpInfo_slot data {s.pnp with cmdType := cmd}
    cases cmd with
    | addInterface =>
      have taken := read.2.trans (if_pos (readable rfl))
      exact .inr ⟨rfl,taken,read.1,by simp [UsbPnpNotifyServiceCmd.isInterface]⟩
    | removeInterface =>
      have taken := read.2.trans (if_pos (readable rfl))
      exact .inr ⟨rfl,taken,read.1,by simp [UsbPnpNotifyServiceCmd.isInterface]⟩
    | reportInterface =>
      have framed := UsbPnp.reportEach_framed usb out s.pnp.deviceList 0
        {s.pnp with cmdType := .reportInterface}
      exact .inl ⟨framed.wakeUps,framed.usbDevice.trans slot⟩
    | driverRegisterDevice | driverUnregisterDevice | addDevice | removeDevice | other =>
      exact .inl ⟨rfl,slot⟩

include kept in
theorem kept_report (out : SendOutcomes) (orderly : Orderly usb (.report out) s.pnp) :
    (step usb (.report out) s).2.Kept := by
  cases woken : s.pnp.woken with
  | false =>
    have same : (step usb (.report out) s).2 = s := by
      simp [step,UsbPnp.step,UsbPnp.reportThread,reads,woken]
    rw [same]
    exact kept
  | true =>
    have emptied : (s.pnp.reportThread usb out).usbDevice = none := by
      simp [UsbPnp.reportThread,woken]
    cases slot : s.pnp.usbDevice with
    | none =>
      have free := waiting_of_empty kept slot
      have nothing : reads s.pnp = none := by
        have plain := (orderly.resolve_left (by simp [woken])).resolve_left (by simp [slot])
        simp [reads,woken,plain,slot]
      simp only [step,nothing]
      refine ⟨kept.delivered,fun _ => emptied,?_⟩
      intro cmd eventData waits
      rw [free] at waits
      contradiction
    | some taken =>
      obtain ⟨⟨cmd,eventData⟩,waits⟩ : ∃ event, s.waiting = some event := by
        rw [← Option.isSome_iff_exists,Option.isSome_iff_ne_none]
        intro none
        have empty := kept.empty none
        rw [slot] at empty
        contradiction
      obtain ⟨posted,cmdType,interface⟩ := kept.posted cmd eventData waits
      have sends : reads s.pnp = some (cmd,eventData) := by
        cases kind : cmd.isInterface with
        | true =>
          obtain rfl := interface.mp kind
          simp [reads,woken,cmdType,kind]
        | false => simp [reads,woken,cmdType,kind,posted]
      simp only [step,sends]
      refine ⟨⟨kept.delivered.1,by simp [kept.delivered.2,waits]⟩,fun _ => emptied,?_⟩
      rintro _ _ ⟨⟩

include kept in
theorem kept_step (event : UsbPnpEvent δ) (orderly : Orderly usb event s.pnp) :
    (step usb event s).2.Kept := by
  cases event with
  | attach udev out =>
    apply kept_posts kept (.attach udev out) .addDevice (.device udev) _
      (UsbPnp.attachDevice_posts usb out udev s.pnp)
    · rcases orderly with hub | known | empty
      · exact .inl (by simp [UsbPnp.attachDevice,hub])
      · exact .inl (by simp [UsbPnp.attachDevice,known])
      · exact .inr empty
    · simp [UsbPnpNotifyServiceCmd.isInterface]
    · rfl
    · simp [writes]
  | detach udev =>
    apply kept_posts kept (.detach udev) .removeDevice (.device udev) _
      (UsbPnp.detachDevice_posts udev s.pnp)
    · rcases orderly with unknown | empty
      · exact .inl (by simp [UsbPnp.detachDevice,unknown])
      · exact .inr empty
    · simp [UsbPnpNotifyServiceCmd.isInterface]
    · rfl
    · simp [writes]
  | dispatch parties cmd data out registered =>
    exact kept_dispatch kept parties cmd data out registered orderly
  | wake interrupted =>
    have framed : (s.pnp.wake interrupted).usbDevice = s.pnp.usbDevice ∧
        (s.pnp.wake interrupted).cmdType = s.pnp.cmdType := by
      unfold UsbPnp.wake
      split <;> exact ⟨rfl,rfl⟩
    refine ⟨kept.delivered,fun none => framed.1.trans (kept.empty none),?_⟩
    intro cmd eventData waits
    obtain ⟨posted,cmdType,interface⟩ := kept.posted cmd eventData waits
    exact ⟨framed.1.trans posted,framed.2.trans cmdType,interface⟩
  | report out => exact kept_report kept out orderly

end Kept
end Mail

/-- In an orderly run no accepted event is written over before it is reported, and every
report sends the command and the data of one event. -/
theorem usbPnp_delivered (usb : EventData δ → UsbDevice) (s : Mail δ)
    (reached : Machine.Reach (Mail.step usb) (fun event s => Mail.Orderly usb event s.pnp)
      Mail.boot s) : s.Delivered := by
  have booted : (Mail.boot : Mail δ).Kept := by
    refine ⟨⟨rfl,rfl⟩,fun _ => rfl,?_⟩
    rintro _ _ ⟨⟩
  have kept := Machine.reach_invariant (Mail.step usb) _ Mail.boot Mail.Kept booted
    (fun event _ kept orderly => Mail.kept_step kept event orderly) s reached
  exact kept.delivered

def camera : EventData Nat → UsbDevice := fun _ =>
  ⟨1,2,false,⟨0x12d1,0x4321,1,0xef,2,1⟩,some 1,fun _ => some ⟨14,1,0,0⟩⟩

def plugged (udev : Nat) : UsbPnpEvent Nat := .attach udev ⟨true,true,true,true⟩

private def reported : List (UsbPnpEvent Nat) := [.wake false,.report ⟨true,true,true,true⟩]

private def unloadInterface : UsbPnpEvent Nat :=
  .dispatch true .removeInterface (some ⟨1,2,⟨14,1,0,0⟩⟩) (fun _ => ⟨true,true,true,true⟩) 0

/-- A device comes, loses an interface and goes. -/
private def visit : List (UsbPnpEvent Nat) :=
  plugged 0 :: reported ++ unloadInterface :: reported ++ .detach 0 :: reported

theorem usbPnp_delivered_visit :
    (Machine.run (Mail.step camera) visit Mail.boot).2.pnp.sent.map Prod.fst =
        [.addDevice,.removeInterface,.removeDevice] ∧
      (Machine.run (Mail.step camera) visit Mail.boot).2.Delivered := by
  refine ⟨by decide,usbPnp_delivered camera _ (Machine.reach_run _ _ Mail.boot visit _ .start ?_)⟩
  refine ⟨.inr (.inr rfl),trivial,.inr (.inl rfl),.inr ⟨rfl,fun _ => rfl⟩,trivial,.inr (.inl rfl),
    .inr rfl,trivial,.inr (.inl rfl),trivial⟩

/-- Two devices come before the first is reported. -/
theorem usbPnp_overwritten_pair :
    ¬ ∀ s, Machine.Reach (Mail.step camera) (fun _ _ => True) Mail.boot s → s.Delivered := by
  intro delivered
  have both := delivered _ (Machine.reach_run _ (fun _ _ => True) Mail.boot [plugged 0,plugged 1] _
    .start ⟨trivial,trivial,trivial⟩)
  have overwritten : (Machine.run (Mail.step camera) [plugged 0,plugged 1] Mail.boot).2.overwritten =
      true := by decide
  rw [both.1] at overwritten
  contradiction

end DriversAdapter.Usb
