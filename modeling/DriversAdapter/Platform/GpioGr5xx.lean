import DriversAdapter.Base.Word
import DriversAdapter.Semantics.Machine
import Mathlib.Logic.Function.Basic

/-! The pins of the gr5xx GPIO driver. Directions and interrupt triggers are recorded in one mode for
each pin; what has been asked for a pin is followed beside it. -/
namespace DriversAdapter.Platform.GpioGr5xx
open DriversAdapter.Base DriversAdapter.Semantics

def ioNumGpio : UInt16 := 32
def ioNumAon : UInt16 := 8
def ioNumMsio : UInt16 := 5
def ioNumMax : UInt16 := ioNumGpio + ioNumAon + ioNumMsio

def ioBaseGpio : UInt16 := 0
def ioBaseAon : UInt16 := ioNumGpio
def ioBaseMsio : UInt16 := ioNumGpio + ioNumAon

inductive AppIoType
  | normal
  | aon
  | msio
  deriving DecidableEq

inductive AppIoMode
  | input
  | outPut
  | itRising
  | itFalling
  | itHigh
  | itLow
  deriving DecidableEq

def ioModeDefault : AppIoMode := .outPut

/-- The numbers of the platform's and the vendor's headers. Different modes are different numbers. -/
structure GpioHeaders where
  gpioDirIn : UInt16
  gpioDirOut : UInt16
  gpioValLow : UInt16
  gpioValHigh : UInt16
  gpioIrqTriggerRising : UInt16
  gpioIrqTriggerFalling : UInt16
  gpioIrqTriggerHigh : UInt16
  gpioIrqTriggerLow : UInt16
  appIoNoneWakeup : UInt16
  appIoMux7 : UInt16
  appIoMode : AppIoMode → UInt16
  appIoMode_injective : Function.Injective appIoMode

structure Gr5xxGpioPortConfig where
  mode : AppIoMode
  pull : UInt16
  handleMode : UInt16

/-- `g_portCfg`, of which the first `ioNumMax` entries exist. -/
abbrev PortCfg := UInt16 → Gr5xxGpioPortConfig

/-- The configuration after the driver's initialisation. -/
def portConfigInit (pull handleMode : UInt16 → UInt16) : PortCfg :=
  fun gpio => ⟨ioModeDefault,pull gpio,handleMode gpio⟩

structure AppIoInit where
  pin : UInt32
  pull : UInt16
  mux : UInt16
  mode : AppIoMode

/-- `ioEvtCb` is whether there is a callback. -/
structure AppGpioteParam where
  type : AppIoType
  pin : UInt32
  pull : UInt16
  mode : AppIoMode
  handleMode : UInt16
  ioEvtCb : Bool

/-- The calls of the driver into the vendor's functions. -/
inductive VendorCall
  | appIoInit (type : AppIoType) (init : AppIoInit)
  | appIoWritePin (type : AppIoType) (pin : UInt32) (set : Bool)
  | appIoReadPin (type : AppIoType) (pin : UInt32)
  | appGpioteInit (param : AppGpioteParam)

/-- The calls of `GpioMethod` on a pin. A direction comes with whether the vendor's function succeeds
with it, a read with whether there is a buffer and whether the pin is set. -/
inductive GpioCall
  | setDir (dir : UInt16) (initialised : Bool)
  | getDir
  | write (val : UInt16)
  | read (buffer set : Bool)
  | setIrq (mode : UInt16)
  | unsetIrq
  | enableIrq
  | disableIrq

/-- The status, what is stored for the caller, and what is called. -/
structure GpioAnswer where
  ret : Int
  value : Option UInt16 := none
  vendor : Option VendorCall := none

def refused : GpioAnswer := {ret := hdfErrInvalidParam}

def gpioDevPinMap (id : UInt16) : AppIoType × UInt32 :=
  if id < ioBaseAon then (.normal,1 <<< (id - ioBaseGpio).toUInt32)
  else if id < ioBaseMsio then (.aon,1 <<< (id - ioBaseAon).toUInt32)
  else (.msio,1 <<< (id - ioBaseMsio).toUInt32)

section Calls
variable (h : GpioHeaders)

/-- The mode that `GpioDevSetDir` chooses. -/
def dirMode (dir : UInt16) : AppIoMode :=
  if dir = h.gpioDirIn then .input
  else if dir = h.gpioDirOut then .outPut
  else ioModeDefault

/-- The `switch` of `GpioDevSetIrq`. -/
def irqMode (mode : UInt16) : Option AppIoMode :=
  if mode = h.gpioIrqTriggerRising then some .itRising
  else if mode = h.gpioIrqTriggerFalling then some .itFalling
  else if mode = h.gpioIrqTriggerHigh then some .itHigh
  else if mode = h.gpioIrqTriggerLow then some .itLow
  else none

def gpioDevSetDir (gpio dir : UInt16) (initialised : Bool) (portCfg : PortCfg) :
    GpioAnswer × PortCfg :=
  if ioNumMax ≤ gpio then (refused,portCfg)
  else
    let (iotype,pin) := gpioDevPinMap gpio
    let ioInit : AppIoInit := ⟨pin,(portCfg gpio).pull,h.appIoMux7,dirMode h dir⟩
    let portCfg := Function.update portCfg gpio {portCfg gpio with mode := ioInit.mode}
    ({ret := if initialised then hdfSuccess else hdfFailure
      vendor := some (.appIoInit iotype ioInit)},portCfg)

def gpioDevGetDir (gpio : UInt16) (portCfg : PortCfg) : GpioAnswer :=
  if ioNumMax ≤ gpio then refused
  else {ret := hdfSuccess,value := some (h.appIoMode (portCfg gpio).mode)}

def gpioDevWrite (gpio val : UInt16) : GpioAnswer :=
  if ioNumMax ≤ gpio then refused
  else
    let (ioType,pin) := gpioDevPinMap gpio
    {ret := hdfSuccess
     vendor :=
      if val = h.gpioValLow then some (.appIoWritePin ioType pin false)
      else if val = h.gpioValHigh then some (.appIoWritePin ioType pin true)
      else none}

def gpioDevRead (gpio : UInt16) (buffer set : Bool) : GpioAnswer :=
  if buffer = false then refused
  else if ioNumMax ≤ gpio then refused
  else
    let (ioType,pin) := gpioDevPinMap gpio
    {ret := hdfSuccess
     value := some (if set then h.gpioValHigh else h.gpioValLow)
     vendor := some (.appIoReadPin ioType pin)}

def gpioDevEnableIrq (gpio : UInt16) (portCfg : PortCfg) : GpioAnswer :=
  if ioNumMax ≤ gpio then refused
  else
    let (ioType,pin) := gpioDevPinMap gpio
    let port := portCfg gpio
    {ret := hdfSuccess
     vendor := some (.appGpioteInit ⟨ioType,pin,port.pull,port.mode,port.handleMode,true⟩)}

def gpioDevDisableIrq (gpio : UInt16) (portCfg : PortCfg) : GpioAnswer :=
  if ioNumMax ≤ gpio then refused
  else
    let (ioType,pin) := gpioDevPinMap gpio
    let port := portCfg gpio
    {ret := hdfSuccess
     vendor := some (.appGpioteInit ⟨ioType,pin,port.pull,port.mode,h.appIoNoneWakeup,false⟩)}

def gpioDevSetIrq (gpio mode : UInt16) (portCfg : PortCfg) : GpioAnswer × PortCfg :=
  if ioNumMax ≤ gpio then (refused,portCfg)
  else if (gpioDevPinMap gpio).1 = .msio then (refused,portCfg)
  else
    match irqMode h mode with
    | some irq => ({ret := hdfSuccess},
        Function.update portCfg gpio {portCfg gpio with mode := irq})
    | none => (refused,portCfg)

/-- The same vendor call as that of `GpioDevDisableIrq`. -/
def gpioDevUnSetIrq (gpio : UInt16) (portCfg : PortCfg) : GpioAnswer :=
  gpioDevDisableIrq h gpio portCfg

structure GpioRequest where
  gpio : UInt16
  call : GpioCall

def serve (request : GpioRequest) (portCfg : PortCfg) : GpioAnswer × PortCfg :=
  let gpio := request.gpio
  match request.call with
  | .setDir dir initialised => gpioDevSetDir h gpio dir initialised portCfg
  | .getDir => (gpioDevGetDir h gpio portCfg,portCfg)
  | .write val => (gpioDevWrite h gpio val,portCfg)
  | .read buffer set => (gpioDevRead h gpio buffer set,portCfg)
  | .setIrq mode => gpioDevSetIrq h gpio mode portCfg
  | .unsetIrq => (gpioDevUnSetIrq h gpio portCfg,portCfg)
  | .enableIrq => (gpioDevEnableIrq gpio portCfg,portCfg)
  | .disableIrq => (gpioDevDisableIrq h gpio portCfg,portCfg)

end Calls

/-- What was asked for a pin with success: the last direction, and the interrupt trigger that has not
been revoked. -/
structure Asked where
  dir : Option UInt16
  trigger : Option UInt16

def Asked.after (call : GpioCall) (ret : Int) (asked : Asked) : Asked :=
  if ret ≠ hdfSuccess then asked
  else
    match call with
    | .setDir dir _ => {asked with dir := some dir}
    | .setIrq mode => {asked with trigger := some mode}
    | .unsetIrq => {asked with trigger := none}
    | _ => asked

structure Pins where
  portCfg : PortCfg
  asked : UInt16 → Asked

def Pins.initial (pull handleMode : UInt16 → UInt16) : Pins :=
  ⟨portConfigInit pull handleMode,fun _ => ⟨none,none⟩⟩

section Property
variable (h : GpioHeaders)

def step (request : GpioRequest) (s : Pins) : GpioAnswer × Pins :=
  let done := serve h request s.portCfg
  let gpio := request.gpio
  (done.1,⟨done.2,Function.update s.asked gpio ((s.asked gpio).after request.call done.1.ret)⟩)

/-- The direction of a pin is reported as it was set last with success. -/
def Pins.Reports (s : Pins) : Prop :=
  ∀ gpio dir, (s.asked gpio).dir = some dir → (gpioDevGetDir h gpio s.portCfg).value = some dir

/-- A call arms its pin only with a trigger that is asked for, does nothing to the configuration of
others, and nothing at all to the configuration where it fails. -/
structure Sound (request : GpioRequest) (s : Pins) : Prop where
  armed : ∀ param, (serve h request s.portCfg).1.vendor = some (.appGpioteInit param) →
    param.ioEvtCb = true → ∃ trigger, (s.asked request.gpio).trigger = some trigger ∧
      irqMode h trigger = some param.mode
  failed : (serve h request s.portCfg).1.ret ≠ hdfSuccess →
    (serve h request s.portCfg).2 = s.portCfg
  others : ∀ gpio, gpio ≠ request.gpio → (serve h request s.portCfg).2 gpio = s.portCfg gpio

/-- On a pin that exists, a direction that is set has the number of its mode, one that fails finds
its mode recorded already, and interrupts are of pins that were given no direction, and enabled only
while a trigger is asked for. -/
def Meets (request : GpioRequest) (s : Pins) : Prop :=
  request.gpio < ioNumMax →
    match request.call with
    | .setDir dir true => h.appIoMode (dirMode h dir) = dir
    | .setDir dir false => (s.portCfg request.gpio).mode = dirMode h dir
    | .setIrq mode => (gpioDevPinMap request.gpio).1 ≠ .msio → irqMode h mode ≠ none →
      (s.asked request.gpio).dir = none
    | .enableIrq => (s.asked request.gpio).trigger ≠ none ∧ (s.asked request.gpio).dir = none
    | _ => True

end Property

def AppIoMode.IsDir (mode : AppIoMode) : Prop := mode = .input ∨ mode = .outPut

/-- A pin is either one with a direction or one with interrupts, and its mode says which. -/
structure Pins.Separate (h : GpioHeaders) (s : Pins) : Prop where
  directed : ∀ gpio, (s.asked gpio).dir ≠ none → (s.portCfg gpio).mode.IsDir
  triggered : ∀ gpio trigger, (s.asked gpio).dir = none →
    (s.asked gpio).trigger = some trigger → irqMode h trigger = some (s.portCfg gpio).mode

section Serve
variable {h : GpioHeaders} {request : GpioRequest} {portCfg : PortCfg}

theorem dirMode_isDir (dir : UInt16) : (dirMode h dir).IsDir := by
  unfold dirMode AppIoMode.IsDir
  split
  · exact .inl rfl
  · split
    · exact .inr rfl
    · exact .inr rfl

theorem irqMode_not_isDir {trigger : UInt16} {mode : AppIoMode}
    (irq : irqMode h trigger = some mode) : ¬ mode.IsDir := by
  unfold irqMode at irq
  split_ifs at irq
  all_goals
    cases irq
    simp [AppIoMode.IsDir]

theorem serve_beyond (beyond : ¬ request.gpio < ioNumMax) :
    serve h request portCfg = (refused,portCfg) := by
  have above : ioNumMax ≤ request.gpio := UInt16.not_lt.mp beyond
  obtain ⟨gpio,call⟩ := request
  cases call <;> simp_all [serve,gpioDevSetDir,gpioDevGetDir,gpioDevWrite,gpioDevRead,gpioDevSetIrq,
    gpioDevUnSetIrq,gpioDevEnableIrq,gpioDevDisableIrq]

/-- No call touches what is recorded of another pin. -/
theorem serve_others (other : UInt16) (apart : other ≠ request.gpio) :
    (serve h request portCfg).2 other = portCfg other := by
  obtain ⟨gpio,call⟩ := request
  cases call with
  | setDir dir initialised =>
    dsimp only [serve,gpioDevSetDir]
    split
    · rfl
    · exact Function.update_of_ne apart _ _
  | setIrq mode =>
    dsimp only [serve,gpioDevSetIrq]
    split
    · rfl
    split
    · rfl
    split
    · exact Function.update_of_ne apart _ _
    · rfl
  | getDir | write | read | unsetIrq | enableIrq | disableIrq => rfl

/-- Only an enabling call arms a pin. -/
theorem serve_unarmed (passive : request.call ≠ .enableIrq) (param : AppGpioteParam)
    (called : (serve h request portCfg).1.vendor = some (.appGpioteInit param)) :
    param.ioEvtCb = false := by
  obtain ⟨gpio,call⟩ := request
  cases call with
  | enableIrq => exact absurd rfl passive
  | unsetIrq | disableIrq =>
    simp only [serve,gpioDevUnSetIrq,gpioDevDisableIrq] at called
    split at called
    · cases called
    · cases called
      rfl
  | setDir | getDir | write | read | setIrq =>
    grind [serve,gpioDevSetDir,gpioDevGetDir,gpioDevWrite,gpioDevRead,gpioDevSetIrq,refused]

theorem getDir_value (gpio dir : UInt16) : (gpioDevGetDir h gpio portCfg).value = some dir ↔
    gpio < ioNumMax ∧ h.appIoMode (portCfg gpio).mode = dir := by
  unfold gpioDevGetDir
  by_cases exist : gpio < ioNumMax
  · simp [UInt16.not_le.mpr exist,exist]
  · simp [UInt16.not_lt.mp exist,exist,refused]

end Serve

section Step
variable {h : GpioHeaders} {s : Pins} {gpio : UInt16}

theorem reports_update (exist : gpio < ioNumMax) (reports : s.Reports h)
    (port : Gr5xxGpioPortConfig) (asked : Asked) :
    Pins.Reports h ⟨Function.update s.portCfg gpio port,Function.update s.asked gpio asked⟩ ↔
      ∀ dir, asked.dir = some dir → h.appIoMode port.mode = dir := by
  simp only [Pins.Reports,getDir_value]
  constructor
  · intro after dir given
    have here := after gpio dir
    simp only [Function.update_self] at here
    exact (here given).2
  · intro here other dir given
    by_cases same : other = gpio
    · subst other
      simp only [Function.update_self] at given ⊢
      exact ⟨exist,here dir given⟩
    · simp only [Function.update_of_ne same] at given ⊢
      exact (getDir_value other dir).mp (reports other dir given)

/-- A call that leaves the configuration and the directions alone. -/
theorem reports_quiet (reports : s.Reports h) (asked : Asked)
    (dir : asked.dir = (s.asked gpio).dir) :
    Pins.Reports h ⟨s.portCfg,Function.update s.asked gpio asked⟩ := by
  intro other direction given
  dsimp only at given
  apply reports other direction
  by_cases same : other = gpio
  · subst other
    rwa [Function.update_self,dir] at given
  · rwa [Function.update_of_ne same] at given

theorem separate_update (separate : s.Separate h) (gpio : UInt16)
    (port : Gr5xxGpioPortConfig) (asked : Asked)
    (directed : asked.dir ≠ none → port.mode.IsDir)
    (triggered : ∀ trigger, asked.dir = none → asked.trigger = some trigger →
      irqMode h trigger = some port.mode) :
    Pins.Separate h ⟨Function.update s.portCfg gpio port,Function.update s.asked gpio asked⟩ := by
  constructor
  · intro other
    by_cases same : other = gpio
    · subst other
      simpa using directed
    · simpa [Function.update_of_ne same] using separate.directed other
  · intro other
    by_cases same : other = gpio
    · subst other
      simpa using triggered
    · simpa [Function.update_of_ne same] using separate.triggered other

theorem passive_sound {request : GpioRequest} (passive : request.call ≠ .enableIrq)
    (failed : (serve h request s.portCfg).1.ret ≠ hdfSuccess →
      (serve h request s.portCfg).2 = s.portCfg) : Sound h request s := by
  refine ⟨fun param called armed => ?_,failed,serve_others⟩
  rw [serve_unarmed passive param called] at armed
  contradiction

theorem after_dir (call : GpioCall) (ret : Int) (asked : Asked)
    (undirected : ∀ dir initialised, call ≠ .setDir dir initialised) :
    (asked.after call ret).dir = asked.dir := by
  unfold Asked.after
  split
  · rfl
  · cases call with
    | setDir dir initialised => exact absurd rfl (undirected dir initialised)
    | getDir | write | read | setIrq | unsetIrq | enableIrq | disableIrq => rfl

theorem after_failed (call : GpioCall) {ret : Int} (failed : ret ≠ hdfSuccess) (asked : Asked) :
    asked.after call ret = asked := if_pos failed

/-- A request that fails is to leave the configuration as it is, and that is all. -/
theorem failed_exact (reports : s.Reports h) (request : GpioRequest)
    (passive : request.call ≠ .enableIrq)
    (failed : (serve h request s.portCfg).1.ret ≠ hdfSuccess) :
    (step h request s).2.Reports h ∧ Sound h request s ↔
      (serve h request s.portCfg).2 = s.portCfg := by
  constructor
  · exact fun both => both.2.failed failed
  · intro same
    refine ⟨?_,passive_sound passive fun _ => same⟩
    simp only [step,same,after_failed request.call failed]
    exact reports_quiet reports _ rfl

theorem serve_setDir (exist : gpio < ioNumMax) (dir : UInt16) (initialised : Bool)
    (portCfg : PortCfg) :
    (serve h ⟨gpio,.setDir dir initialised⟩ portCfg).1.ret =
        (if initialised then hdfSuccess else hdfFailure) ∧
      (serve h ⟨gpio,.setDir dir initialised⟩ portCfg).2 =
        Function.update portCfg gpio {portCfg gpio with mode := dirMode h dir} := by
  simp [serve,gpioDevSetDir,UInt16.not_le.mpr exist]

theorem setDir_exact (exist : gpio < ioNumMax) (reports : s.Reports h) (dir : UInt16) :
    (step h ⟨gpio,.setDir dir true⟩ s).2.Reports h ∧ Sound h ⟨gpio,.setDir dir true⟩ s ↔
      h.appIoMode (dirMode h dir) = dir := by
  obtain ⟨ret,after⟩ := serve_setDir (h := h) exist dir true s.portCfg
  have sound : Sound h ⟨gpio,.setDir dir true⟩ s :=
    passive_sound nofun fun failed => absurd ret failed
  rw [and_iff_left sound]
  simp only [step,ret,after]
  rw [reports_update exist reports]
  simp [Asked.after]

theorem setDir_failing_exact (exist : gpio < ioNumMax) (reports : s.Reports h) (dir : UInt16) :
    (step h ⟨gpio,.setDir dir false⟩ s).2.Reports h ∧ Sound h ⟨gpio,.setDir dir false⟩ s ↔
      (s.portCfg gpio).mode = dirMode h dir := by
  obtain ⟨ret,after⟩ := serve_setDir (h := h) exist dir false s.portCfg
  have failure : hdfFailure ≠ hdfSuccess := by decide
  rw [failed_exact reports ⟨gpio,.setDir dir false⟩ nofun (ret.trans_ne failure),after,Function.update_eq_self_iff]
  constructor
  · intro same
    exact (congrArg Gr5xxGpioPortConfig.mode same).symm
  · intro recorded
    rw [← recorded]

theorem serve_setIrq (portCfg : PortCfg) (exist : gpio < ioNumMax) {trigger : UInt16}
    {irq : AppIoMode} (known : irqMode h trigger = some irq)
    (supported : (gpioDevPinMap gpio).1 ≠ .msio) :
    serve h ⟨gpio,.setIrq trigger⟩ portCfg = ({ret := hdfSuccess},
      Function.update portCfg gpio {portCfg gpio with mode := irq}) := by
  simp [serve,gpioDevSetIrq,UInt16.not_le.mpr exist,supported,known]

theorem setIrq_exact (exist : gpio < ioNumMax) (separate : s.Separate h) (reports : s.Reports h)
    (trigger : UInt16) (irq : AppIoMode) (known : irqMode h trigger = some irq)
    (supported : (gpioDevPinMap gpio).1 ≠ .msio) :
    (step h ⟨gpio,.setIrq trigger⟩ s).2.Reports h ∧ Sound h ⟨gpio,.setIrq trigger⟩ s ↔
      (s.asked gpio).dir = none := by
  have served := serve_setIrq s.portCfg exist known supported
  have sound : Sound h ⟨gpio,.setIrq trigger⟩ s :=
    passive_sound nofun fun failed => absurd (by rw [served]) failed
  rw [and_iff_left sound]
  simp only [step,served,Asked.after]
  rw [reports_update exist reports]
  constructor
  · intro after
    by_contra given
    obtain ⟨dir,here⟩ := Option.ne_none_iff_exists'.mp given
    -- the number reported would be that of two modes, one of a direction and one of an interrupt
    have before := ((getDir_value gpio dir).mp (reports gpio dir here)).2
    have same : h.appIoMode irq = h.appIoMode (s.portCfg gpio).mode :=
      (after dir (by simpa using here)).trans before.symm
    apply irqMode_not_isDir known
    rw [h.appIoMode_injective same]
    exact separate.directed gpio given
  · intro undirected dir given
    simp [undirected] at given

theorem enableIrq_exact (exist : gpio < ioNumMax) (separate : s.Separate h) (reports : s.Reports h) :
    (step h ⟨gpio,.enableIrq⟩ s).2.Reports h ∧ Sound h ⟨gpio,.enableIrq⟩ s ↔
      (s.asked gpio).trigger ≠ none ∧ (s.asked gpio).dir = none := by
  have after : (step h ⟨gpio,.enableIrq⟩ s).2.Reports h := by
    apply reports_quiet reports
    exact after_dir _ _ _ nofun
  have param : ∃ param, (serve h ⟨gpio,.enableIrq⟩ s.portCfg).1 =
      {ret := hdfSuccess,vendor := some (.appGpioteInit param)} ∧ param.ioEvtCb = true ∧
        param.mode = (s.portCfg gpio).mode := by
    simp [serve,gpioDevEnableIrq,UInt16.not_le.mpr exist]
  obtain ⟨param,served,armed,mode⟩ := param
  rw [and_iff_right after]
  constructor
  · intro sound
    obtain ⟨trigger,asked,known⟩ := sound.armed param (by rw [served]) armed
    refine ⟨by simp [asked],?_⟩
    by_contra directed
    rw [mode] at known
    exact irqMode_not_isDir known (separate.directed gpio directed)
  · rintro ⟨live,undirected⟩
    obtain ⟨trigger,asked⟩ := Option.ne_none_iff_exists'.mp live
    refine ⟨fun param' called _ => ⟨trigger,asked,?_⟩,fun failed => ?_,serve_others⟩
    · rw [served] at called
      cases called
      rw [mode]
      exact separate.triggered gpio trigger undirected asked
    · rw [served] at failed
      contradiction

/-- A request that is refused changes nothing. -/
theorem refused_sound (reports : s.Reports h) {request : GpioRequest}
    (served : serve h request s.portCfg = (refused,s.portCfg)) :
    (step h request s).2.Reports h ∧ Sound h request s := by
  have failure : refused.ret ≠ hdfSuccess := by decide
  refine ⟨?_,fun param called _ => ?_,fun _ => ?_,serve_others⟩
  · simp only [step,served]
    rw [after_failed request.call failure]
    exact reports_quiet reports _ rfl
  · simp [served,refused] at called
  · rw [served]

/-- A call that neither sets a mode nor uses it to arm a pin. -/
theorem quiet_sound (reports : s.Reports h) {request : GpioRequest}
    (passive : request.call ≠ .enableIrq)
    (undirected : ∀ dir initialised, request.call ≠ .setDir dir initialised)
    (same : (serve h request s.portCfg).2 = s.portCfg) :
    (step h request s).2.Reports h ∧ Sound h request s := by
  refine ⟨?_,passive_sound passive fun _ => same⟩
  simp only [step,same]
  exact reports_quiet reports _ (after_dir _ _ _ undirected)

theorem step_sound_iff (separate : s.Separate h) (reports : s.Reports h) (request : GpioRequest) :
    (step h request s).2.Reports h ∧ Sound h request s ↔ Meets h request s := by
  by_cases exist : request.gpio < ioNumMax
  case neg =>
    exact iff_of_true (refused_sound reports (serve_beyond exist)) fun inside =>
      absurd inside exist
  obtain ⟨gpio,call⟩ := request
  simp only [Meets,exist,forall_const]
  cases call with
  | setDir dir initialised =>
    cases initialised with
    | true => exact setDir_exact exist reports dir
    | false => exact setDir_failing_exact exist reports dir
  | setIrq trigger =>
    by_cases supported : (gpioDevPinMap gpio).1 = .msio
    · refine iff_of_true (refused_sound reports ?_) fun other => absurd supported other
      simp [serve,gpioDevSetIrq,supported]
    cases known : irqMode h trigger with
    | none =>
      refine iff_of_true (refused_sound reports ?_) fun _ some => absurd known some
      simp [serve,gpioDevSetIrq,known]
    | some irq =>
      rw [setIrq_exact exist separate reports trigger irq known supported]
      simp [supported,known]
  | enableIrq => exact enableIrq_exact exist separate reports
  | getDir | write | read | unsetIrq | disableIrq =>
    exact iff_of_true (quiet_sound reports nofun nofun rfl) trivial

theorem separate_quiet (separate : s.Separate h) (asked : Asked)
    (dir : asked.dir = (s.asked gpio).dir)
    (trigger : ∀ live, asked.trigger = some live → (s.asked gpio).trigger = some live) :
    Pins.Separate h ⟨s.portCfg,Function.update s.asked gpio asked⟩ := by
  have same := separate_update separate gpio (s.portCfg gpio) asked
  rw [Function.update_eq_self] at same
  apply same
  · rw [dir]
    exact separate.directed gpio
  · intro live undirected given
    exact separate.triggered gpio live (dir.symm.trans undirected) (trigger live given)

/-- While the directions are reported and the calls are sound, pins with a direction stay apart from
those with interrupts. -/
theorem step_separate (separate : s.Separate h) (reports : s.Reports h) (request : GpioRequest)
    (sound : Sound h request s) (after : (step h request s).2.Reports h) :
    (step h request s).2.Separate h := by
  by_cases failed : (serve h request s.portCfg).1.ret ≠ hdfSuccess
  · simp only [step,sound.failed failed,after_failed request.call failed]
    exact separate_quiet separate _ rfl fun live given => given
  have succeeded := not_not.mp failed
  have exist : request.gpio < ioNumMax := by
    by_contra beyond
    rw [serve_beyond beyond] at failed
    have failure : refused.ret ≠ hdfSuccess := by decide
    exact failed failure
  have met := (step_sound_iff separate reports request).mp ⟨after,sound⟩ exist
  obtain ⟨gpio,call⟩ := request
  cases call with
  | setDir dir initialised =>
    obtain ⟨-,changed⟩ := serve_setDir (h := h) exist dir initialised s.portCfg
    simp only [step,changed,succeeded,Asked.after]
    apply separate_update separate
    · exact fun _ => dirMode_isDir dir
    · simp
  | setIrq trigger =>
    by_cases supported : (gpioDevPinMap gpio).1 = .msio
    · simp [serve,gpioDevSetIrq,supported,refused] at succeeded
      contradiction
    cases known : irqMode h trigger with
    | none =>
      simp [serve,gpioDevSetIrq,known,refused] at succeeded
      contradiction
    | some irq =>
      have undirected : (s.asked gpio).dir = none := met supported (by simp [known])
      simp only [step,serve_setIrq s.portCfg exist known supported,Asked.after]
      apply separate_update separate
      · exact fun directed => absurd undirected directed
      · simpa [undirected] using known
  | getDir | write | read | unsetIrq | enableIrq | disableIrq =>
    apply separate_quiet separate
    · exact after_dir _ _ _ nofun
    · simp [Asked.after,succeeded]

end Step

/-- In a run from the driver's initialisation each pin's direction is reported, each call is sound
and only triggers that are asked for are armed, exactly where every call meets the condition. -/
theorem pins_sound_iff (h : GpioHeaders) (pull handleMode : UInt16 → UInt16)
    (requests : List GpioRequest) :
    (∀ k, (Machine.run (step h) (requests.take k) (Pins.initial pull handleMode)).2.Reports h ∧
        ∀ request, requests[k]? = some request → Sound h request
          (Machine.run (step h) (requests.take k) (Pins.initial pull handleMode)).2) ↔
      Machine.MeetsAll (step h) (Meets h) requests (Pins.initial pull handleMode) := by
  apply Machine.run_checked_iff _ _ _ (Pins.Separate h)
  · exact fun request s separate reports sound after =>
      step_separate separate reports request sound after
  · exact fun request s separate reports => step_sound_iff separate reports request
  · exact ⟨fun gpio given => absurd rfl given,fun gpio trigger _ => nofun⟩
  · exact fun gpio dir => nofun

private def gr5xx : GpioHeaders where
  gpioDirIn := 0
  gpioDirOut := 1
  gpioValLow := 0
  gpioValHigh := 1
  gpioIrqTriggerRising := 1
  gpioIrqTriggerFalling := 2
  gpioIrqTriggerHigh := 4
  gpioIrqTriggerLow := 8
  appIoNoneWakeup := 0
  appIoMux7 := 7
  appIoMode
    | .input => 0
    | .outPut => 1
    | .itRising => 3
    | .itFalling => 4
    | .itHigh => 5
    | .itLow => 6
  appIoMode_injective a b same := by
    cases a <;> cases b <;> first | rfl | cases same

/-- An interrupt set on an output is reported as its direction; a trigger that was revoked is armed,
and so is a direction; a direction that fails is recorded. -/
theorem pins_not_sound :
    let initial := Pins.initial (fun _ => 0) (fun _ => 0)
    let rising := (Machine.run (step gr5xx) [⟨0,.setDir 1 true⟩,⟨0,.setIrq 1⟩] initial).2
    let revoked := (Machine.run (step gr5xx) [⟨0,.setIrq 1⟩,⟨0,.unsetIrq⟩] initial).2
    (rising.asked 0).dir = some 1 ∧
      (gpioDevGetDir gr5xx 0 rising.portCfg).value = some 3 ∧ ¬ rising.Reports gr5xx ∧
      (revoked.asked 0).trigger = none ∧ ¬ Sound gr5xx ⟨0,.enableIrq⟩ revoked ∧
      ¬ Sound gr5xx ⟨0,.enableIrq⟩ initial ∧
      ¬ Sound gr5xx ⟨0,.setDir 0 false⟩ initial := by
  refine ⟨rfl,rfl,fun reports => ?_,rfl,fun sound => ?_,fun sound => ?_,fun sound => ?_⟩
  · have reported := reports 0 1 rfl
    contradiction
  · obtain ⟨trigger,asked,-⟩ := sound.armed _ rfl rfl
    contradiction
  · obtain ⟨trigger,asked,-⟩ := sound.armed _ rfl rfl
    contradiction
  · have kept := congrArg (fun portCfg : PortCfg => (portCfg 0).mode) (sound.failed (by decide))
    contradiction

end DriversAdapter.Platform.GpioGr5xx
