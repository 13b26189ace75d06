import DriversAdapter.Base.Word
import DriversAdapter.Semantics.Program
import Mathlib.Data.List.Basic

/-! Power events of a device host: the order in which the power tokens of its devices are
visited, and what the host reports. -/
namespace DriversAdapter.Host
open DriversAdapter.Base DriversAdapter.Semantics DriversAdapter.Semantics.Program

/-- The power states of the driver framework, which are no part of this repository. -/
structure PowerStates where
  suspend : UInt32
  dozeSuspend : UInt32
  resume : UInt32
  dozeResume : UInt32
  max : UInt32
  isPowerWakeState : UInt32 → Bool
  isValidPowerState : UInt32 → Bool
  wakes : isPowerWakeState resume = true ∧ isPowerWakeState dozeResume = true
  sleeps : isPowerWakeState suspend = false ∧ isPowerWakeState dozeSuspend = false
  valid : isValidPowerState resume = true ∧ isValidPowerState dozeResume = true ∧
    isValidPowerState suspend = true ∧ isValidPowerState dozeSuspend = true

inductive PowerEvent
  | suspend
  | displayOff
  | resume
  | displayOn
  | other

structure HdfDeviceNode (τ : Type) where
  powerToken : Option τ

structure HdfDevice (τ : Type) where
  devNodes : List (HdfDeviceNode τ)

structure PowerStateChange (τ : Type) where
  powerToken : τ
  state : UInt32

abbrev PowerM (τ : Type) := Program (PowerStateChange τ) (fun _ => Int)

variable {τ σ : Type}

def visitNodes (state : UInt32) : List (HdfDeviceNode τ) → Int → PowerM τ Int
  | [], result => return result
  | deviceNode::rest, result =>
    match deviceNode.powerToken with
    | none => visitNodes state rest result
    | some powerToken => do
      let ret ← call (⟨powerToken,state⟩ : PowerStateChange τ)
      visitNodes state rest (if ret ≠ hdfSuccess then hdfFailure else result)

def dispatchPowerState (P : PowerStates) (device : HdfDevice τ) (state : UInt32) : PowerM τ Int :=
  if P.isPowerWakeState state then visitNodes state device.devNodes hdfSuccess
  else visitNodes state device.devNodes.reverse hdfSuccess

def visitDevices (P : PowerStates) (state : UInt32) : List (HdfDevice τ) → Int → PowerM τ Int
  | [], result => return result
  | device::rest, result => do
    let ret ← dispatchPowerState P device state
    visitDevices P state rest (if ret ≠ hdfSuccess then hdfFailure else result)

def pmNotify (P : PowerStates) (devices : List (HdfDevice τ)) (state : UInt32) : PowerM τ Int :=
  if P.isValidPowerState state = false then
    return hdfErrInvalidParam
  else if P.isPowerWakeState state then visitDevices P state devices.reverse hdfSuccess
  else visitDevices P state devices hdfSuccess

def sysEventToPowerState (P : PowerStates) : PowerEvent → UInt32
  | .suspend => P.suspend
  | .displayOff => P.dozeSuspend
  | .resume => P.resume
  | .displayOn => P.dozeResume
  | .other => P.max

def onSysEventReceived (P : PowerStates) (devices : List (HdfDevice τ)) (event : PowerEvent) :
    PowerM τ Int :=
  pmNotify P devices (sysEventToPowerState P event)

section Visits
variable (serve : (op : PowerStateChange τ) → σ → Int × σ)

/-- The tokens that a run visits, in order. -/
def visited (p : PowerM τ Int) (s : σ) : List τ :=
  (exchanges serve p s).map (·.1.powerToken)

def Fails (p : PowerM τ Int) (s : σ) : Prop := ∃ e ∈ exchanges serve p s, e.2 ≠ hdfSuccess

theorem visited_nodes (state : UInt32) (nodes : List (HdfDeviceNode τ)) (result : Int) (s : σ) :
    visited serve (visitNodes state nodes result) s = nodes.filterMap (·.powerToken) := by
  induction nodes generalizing result s with
  | nil => rfl
  | cons node rest ih =>
    unfold visitNodes
    cases token : node.powerToken with
    | none => rw [List.filterMap_cons_none token,ih]
    | some powerToken =>
      rw [List.filterMap_cons_some token]
      exact congrArg (List.cons _) (ih _ _)

theorem visited_dispatchPowerState (P : PowerStates) (device : HdfDevice τ) (state : UInt32) (s : σ) :
    visited serve (dispatchPowerState P device state) s =
      (if P.isPowerWakeState state then device.devNodes
        else device.devNodes.reverse).filterMap (·.powerToken) := by
  unfold dispatchPowerState
  split <;> exact visited_nodes serve state _ _ s

theorem visited_devices (P : PowerStates) (state : UInt32) (devices : List (HdfDevice τ))
    (result : Int) (s : σ) :
    visited serve (visitDevices P state devices result) s = devices.flatMap fun device =>
      (if P.isPowerWakeState state then device.devNodes
        else device.devNodes.reverse).filterMap (·.powerToken) := by
  induction devices generalizing result s with
  | nil => rfl
  | cons device rest ih =>
    unfold visitDevices visited
    rw [exchanges_bind,List.map_append,List.flatMap_cons]
    have first := visited_dispatchPowerState serve P device state s
    unfold visited at first ih
    rw [first,ih]

theorem fails_bind (p : PowerM τ Int) (f : Int → PowerM τ Int) (s : σ) :
    Fails serve (p >>= f) s ↔
      Fails serve p s ∨ Fails serve (f (run serve p s).1) (run serve p s).2 := by
  unfold Fails
  rw [exchanges_bind]
  simp only [List.mem_append,or_and_right,exists_or]

theorem fails_call (op : PowerStateChange τ) (s : σ) :
    Fails serve (call op) s ↔ (serve op s).1 ≠ hdfSuccess := by
  simp [Fails,call,exchanges]

/-- A loop answers with a failure if a callback fails, and else with its earlier result. -/
def Reports (p : PowerM τ Int) (result : Int) (s : σ) : Prop :=
  (Fails serve p s → (run serve p s).1 = hdfFailure) ∧
    (¬ Fails serve p s → (run serve p s).1 = result)

theorem reports_bind (p : PowerM τ Int) (f : Int → PowerM τ Int) (result : Int) (s : σ)
    (first : Fails serve p s ↔ (run serve p s).1 ≠ hdfSuccess)
    (rest : ∀ ret t, Reports serve (f ret) (if ret ≠ hdfSuccess then hdfFailure else result) t) :
    Reports serve (p >>= f) result s := by
  obtain ⟨failing,fine⟩ := rest (run serve p s).1 (run serve p s).2
  unfold Reports
  rw [fails_bind,run_bind]
  by_cases later : Fails serve (f (run serve p s).1) (run serve p s).2
  · exact ⟨fun _ => failing later,fun none_fails => absurd (.inr later) none_fails⟩
  · rw [fine later]
    refine ⟨fun fails => ?_,fun none_fails => ?_⟩
    · rw [if_pos (first.mp (fails.resolve_right later))]
    · rw [if_neg (fun bad => none_fails (.inl (first.mpr bad)))]

theorem reports_done (result : Int) (s : σ) : Reports serve (.done result : PowerM τ Int) result s := by
  refine ⟨fun fails => ?_,fun _ => rfl⟩
  obtain ⟨e,member,_⟩ := fails
  cases member

theorem reports_nodes (state : UInt32) (nodes : List (HdfDeviceNode τ)) (result : Int) (s : σ) :
    Reports serve (visitNodes state nodes result) result s := by
  induction nodes generalizing result s with
  | nil => exact reports_done serve result s
  | cons node rest ih =>
    unfold visitNodes
    cases node.powerToken with
    | none => exact ih result s
    | some powerToken =>
      exact reports_bind serve _ _ result s (fails_call serve _ s) (fun ret t => ih _ t)

theorem fails_iff (p : PowerM τ Int) (s : σ) (reports : Reports serve p hdfSuccess s) :
    Fails serve p s ↔ (run serve p s).1 ≠ hdfSuccess := by
  by_cases fails : Fails serve p s
  · rw [reports.1 fails]
    exact iff_of_true fails (by decide)
  · rw [reports.2 fails]
    exact iff_of_false fails (not_not.mpr rfl)

theorem fails_dispatchPowerState (P : PowerStates) (device : HdfDevice τ) (state : UInt32) (s : σ) :
    Fails serve (dispatchPowerState P device state) s ↔
      (run serve (dispatchPowerState P device state) s).1 ≠ hdfSuccess := by
  refine fails_iff serve _ s ?_
  unfold dispatchPowerState
  split <;> exact reports_nodes serve state _ hdfSuccess s

theorem reports_devices (P : PowerStates) (state : UInt32) (devices : List (HdfDevice τ))
    (result : Int) (s : σ) :
    Reports serve (visitDevices P state devices result) result s := by
  induction devices generalizing result s with
  | nil => exact reports_done serve result s
  | cons device rest ih =>
    unfold visitDevices
    exact reports_bind serve _ _ result s (fails_dispatchPowerState serve P device state s)
      (fun ret t => ih _ t)

/-- Waking goes forward through the nodes and backward through the devices. -/
theorem visited_wake (P : PowerStates) (devices : List (HdfDevice τ)) (state : UInt32)
    (valid : P.isValidPowerState state = true) (wakes : P.isPowerWakeState state = true) (s : σ) :
    visited serve (pmNotify P devices state) s =
        devices.reverse.flatMap (fun device => device.devNodes.filterMap (·.powerToken)) ∧
      Reports serve (pmNotify P devices state) hdfSuccess s := by
  unfold pmNotify
  rw [if_neg (by simp [valid]),if_pos wakes,visited_devices]
  simp only [if_pos wakes,true_and]
  exact reports_devices serve P state _ _ s

/-- Falling asleep goes backward through the nodes and forward through the devices. -/
theorem visited_sleep (P : PowerStates) (devices : List (HdfDevice τ)) (state : UInt32)
    (valid : P.isValidPowerState state = true) (sleeps : P.isPowerWakeState state = false) (s : σ) :
    visited serve (pmNotify P devices state) s =
        devices.flatMap (fun device => device.devNodes.reverse.filterMap (·.powerToken)) ∧
      Reports serve (pmNotify P devices state) hdfSuccess s := by
  have awake : ¬ P.isPowerWakeState state = true := by simp [sleeps]
  unfold pmNotify
  rw [if_neg (by simp [valid]),if_neg awake,visited_devices]
  simp only [if_neg awake,true_and]
  exact reports_devices serve P state _ _ s

theorem flatMap_reverse_mirror (devices : List (HdfDevice τ)) :
    devices.reverse.flatMap (fun device => device.devNodes.filterMap (·.powerToken)) =
      (devices.flatMap fun device => device.devNodes.reverse.filterMap (·.powerToken)).reverse := by
  rw [List.reverse_flatMap]
  congr 1
  funext device
  rw [Function.comp_apply,List.filterMap_reverse,List.reverse_reverse]

end Visits

/-- The events that suspend, and those that resume. -/
def PowerEvent.Sleeps (event : PowerEvent) : Prop := event = .suspend ∨ event = .displayOff

def PowerEvent.Wakes (event : PowerEvent) : Prop := event = .resume ∨ event = .displayOn

/-- A suspend event visits the tokens of all nodes, once each, a resume event visits them
in the reverse order, and each reports a failure exactly when a callback fails. -/
theorem resume_mirrors_suspend (P : PowerStates) (devices : List (HdfDevice τ))
    (serve : (op : PowerStateChange τ) → σ → Int × σ) (sleep wake : PowerEvent)
    (sleeps : sleep.Sleeps) (wakes : wake.Wakes) (s t : σ) :
    visited serve (onSysEventReceived P devices wake) t =
        (visited serve (onSysEventReceived P devices sleep) s).reverse ∧
      visited serve (onSysEventReceived P devices wake) t =
        (devices.reverse.flatMap (·.devNodes)).filterMap (·.powerToken) ∧
      (Fails serve (onSysEventReceived P devices sleep) s ↔
        (run serve (onSysEventReceived P devices sleep) s).1 ≠ hdfSuccess) ∧
      (Fails serve (onSysEventReceived P devices wake) t ↔
        (run serve (onSysEventReceived P devices wake) t).1 ≠ hdfSuccess) := by
  have asleep : visited serve (onSysEventReceived P devices sleep) s =
        devices.flatMap (fun device => device.devNodes.reverse.filterMap (·.powerToken)) ∧
      Reports serve (onSysEventReceived P devices sleep) hdfSuccess s := by
    rcases sleeps with rfl | rfl
    · exact visited_sleep serve P devices _ P.valid.2.2.1 P.sleeps.1 s
    · exact visited_sleep serve P devices _ P.valid.2.2.2 P.sleeps.2 s
  have awake : visited serve (onSysEventReceived P devices wake) t =
        devices.reverse.flatMap (fun device => device.devNodes.filterMap (·.powerToken)) ∧
      Reports serve (onSysEventReceived P devices wake) hdfSuccess t := by
    rcases wakes with rfl | rfl
    · exact visited_wake serve P devices _ P.valid.1 P.wakes.1 t
    · exact visited_wake serve P devices _ P.valid.2.1 P.wakes.2 t
  refine ⟨?_,?_,fails_iff serve _ s asleep.2,fails_iff serve _ t awake.2⟩
  · rw [awake.1,asleep.1,flatMap_reverse_mirror]
  · rw [awake.1,List.filterMap_flatMap]

/-- The values of the driver framework. -/
def powerStates : PowerStates where
  suspend := 3
  dozeSuspend := 1
  resume := 2
  dozeResume := 0
  max := 4
  isPowerWakeState state := state = 2 ∨ state = 0
  isValidPowerState state := state < 4
  wakes := ⟨rfl,rfl⟩
  sleeps := ⟨rfl,rfl⟩
  valid := ⟨rfl,rfl,rfl,rfl⟩

/-- Two devices of two nodes, one of which has no power token; token 1 fails. -/
theorem resume_mirrors_suspend_two :
    let devices : List (HdfDevice Nat) := [⟨[⟨some 1⟩,⟨none⟩]⟩,⟨[⟨some 2⟩,⟨some 3⟩]⟩]
    let serve := fun (op : PowerStateChange Nat) (s : Unit) => (if op.powerToken = 1 then -1 else 0,s)
    visited serve (onSysEventReceived powerStates devices .suspend) () = [1,3,2] ∧
      visited serve (onSysEventReceived powerStates devices .resume) () = [2,3,1] ∧
      (run serve (onSysEventReceived powerStates devices .resume) ()).1 ≠ hdfSuccess := by
  intro devices serve
  obtain ⟨mirror,_,_,reports⟩ := resume_mirrors_suspend powerStates devices serve .suspend .resume
    (.inl rfl) (.inl rfl) () ()
  exact ⟨rfl,mirror,reports.mp ⟨⟨⟨1,2⟩,-1⟩,.tail _ (.tail _ (.head _)),by decide⟩⟩

end DriversAdapter.Host
