import DriversAdapter.Base.Word
import DriversAdapter.Semantics.Machine

/-! Three watchdog drivers, and when each of them tells what its hardware does. -/
namespace DriversAdapter.Platform.Watchdog
open DriversAdapter.Base DriversAdapter.Semantics

inductive WatchdogStatus
  | stop
  | start
  deriving DecidableEq

/-- The calls of `WatchdogMethod`. With a start comes whether the hardware takes its values over in
the time that is given to it. -/
inductive WatchdogCall
  | setTimeout (seconds : UInt32)
  | getTimeout
  | start (updated : Bool)
  | stop
  | getStatus
  | feed

structure WatchdogAnswer where
  ret : Int
  seconds : Option UInt32 := none
  status : Option WatchdogStatus := none

/-- What can be seen of a watchdog: whether its counter runs, the timeout it is programmed with and
how often the countdown has begun anew. -/
structure WatchdogHardware where
  enabled : Bool
  timeout : UInt32
  restarts : Nat

/-- A driver with its hardware, and how often it has reset the system. -/
structure WatchdogDriver (σ H : Type) where
  call : WatchdogCall → σ → WatchdogAnswer × σ
  hw : σ → H
  view : H → WatchdogHardware
  resets : σ → Nat

/-- The queries say what the hardware does and leave it alone, and a feed restarts a running
countdown and nothing else. -/
structure WatchdogDriver.Truthful {σ H : Type} (d : WatchdogDriver σ H) (s : σ) : Prop where
  status : (d.call .getStatus s).1.status = some .start ↔ (d.view (d.hw s)).enabled = true
  timeout : (d.view (d.hw s)).enabled = true →
    (d.call .getTimeout s).1.seconds = some (d.view (d.hw s)).timeout
  getStatus : d.hw (d.call .getStatus s).2 = d.hw s
  getTimeout : d.hw (d.call .getTimeout s).2 = d.hw s
  restarts : (d.view (d.hw s)).enabled = true →
    (d.view (d.hw (d.call .feed s).2)).restarts = (d.view (d.hw s)).restarts + 1
  resets : d.resets (d.call .feed s).2 = d.resets s

def reported (watchdogStart : Bool) : WatchdogStatus := if watchdogStart then .start else .stop

theorem reported_start (watchdogStart : Bool) :
    some (reported watchdogStart) = some .start ↔ watchdogStart = true := by
  cases watchdogStart <;> decide

namespace Stm32f4xx

def watchdogMinTimeout : Int32 := 1

def watchdogMaxTimeout : Int32 := 4096

/-- The registers of the IWDG with what its keys have done. -/
structure Iwdg where
  enabled : Bool
  rlr : UInt32
  reloads : Nat

/-- `hdfIwdg` is whether the pointer to the registers is set. -/
structure WatchdogDeviceInfo where
  hdfIwdg : Bool
  watchdogStart : Bool
  timeout : UInt32
  iwdg : Iwdg

def booted (timeout : UInt32) : WatchdogDeviceInfo := ⟨false,false,timeout,⟨false,4095,0⟩⟩

def clamped (timeout : UInt32) : UInt32 :=
  if timeout.toInt32 < watchdogMinTimeout then watchdogMinTimeout.toUInt32
  else if watchdogMaxTimeout < timeout.toInt32 then watchdogMaxTimeout.toUInt32
  else timeout

def watchdogDevStart (updated : Bool) (s : WatchdogDeviceInfo) : Int × WatchdogDeviceInfo :=
  let s := {s with hdfIwdg := true,iwdg := {s.iwdg with
    enabled := true
    rlr := clamped s.timeout - 1}}
  if updated = false then (hdfFailure,s)
  else (hdfSuccess,{s with
    watchdogStart := true
    iwdg := {s.iwdg with reloads := s.iwdg.reloads + 1}})

def watchdogDevFeed (s : WatchdogDeviceInfo) : WatchdogDeviceInfo :=
  if s.hdfIwdg then {s with iwdg := {s.iwdg with reloads := s.iwdg.reloads + 1}} else s

def call (c : WatchdogCall) (s : WatchdogDeviceInfo) : WatchdogAnswer × WatchdogDeviceInfo :=
  match c with
  | .setTimeout seconds => ({ret := hdfSuccess},{s with timeout := seconds})
  | .getTimeout => ({ret := hdfSuccess,seconds := some s.timeout},s)
  | .start updated =>
    let done := watchdogDevStart updated s
    ({ret := done.1},done.2)
  | .stop => ({ret := hdfFailure},s)
  | .getStatus => ({ret := hdfSuccess,status := some (reported s.watchdogStart)},s)
  | .feed => ({ret := hdfSuccess},watchdogDevFeed s)

/-- The counter takes a millisecond for each count, the last of which is zero. -/
def driver : WatchdogDriver WatchdogDeviceInfo Iwdg where
  call := call
  hw := WatchdogDeviceInfo.iwdg
  view iwdg := ⟨iwdg.enabled,iwdg.rlr + 1,iwdg.reloads⟩
  resets _ := 0

/-- A start is confirmed in time, or was once before, and finds a timeout that the counter has; a
timeout that is set while the counter runs is the one it runs with. -/
def Meets (c : WatchdogCall) (s : WatchdogDeviceInfo) : Prop :=
  match c with
  | .start updated => (updated = true ∨ s.watchdogStart = true) ∧ 1 ≤ s.timeout ∧ s.timeout ≤ 4096
  | .setTimeout seconds => s.iwdg.enabled = true → seconds = s.timeout
  | _ => True

section Step
variable {s : WatchdogDeviceInfo}

/-- The flag is that of the hardware, and while it is set the pointer and the timeout are. -/
theorem truthful_iff : driver.Truthful s ↔
    (s.watchdogStart = true ↔ s.iwdg.enabled = true) ∧
      (s.iwdg.enabled = true → s.timeout = s.iwdg.rlr + 1 ∧ s.hdfIwdg = true) := by
  constructor
  · intro truthful
    refine ⟨(reported_start _).symm.trans truthful.status,fun enabled => ⟨?_,?_⟩⟩
    · exact Option.some.inj (truthful.timeout enabled)
    · have restarts := truthful.restarts enabled
      cases pointed : s.hdfIwdg with
      | true => rfl
      | false => simp [driver,call,watchdogDevFeed,pointed] at restarts
  · rintro ⟨flag,running⟩
    refine ⟨(reported_start _).trans flag,fun enabled => ?_,rfl,rfl,fun enabled => ?_,rfl⟩
    · exact congrArg some (running enabled).1
    · simp [driver,call,watchdogDevFeed,(running enabled).2]

theorem clamped_eq_iff (timeout : UInt32) :
    timeout = clamped timeout ↔ 1 ≤ timeout ∧ timeout ≤ 4096 := by
  have word := toInt32_cases timeout
  have low : timeout.toInt32 < watchdogMinTimeout ↔ timeout.toInt32.toInt < 1 :=
    Int32.lt_iff_toInt_lt
  have high : watchdogMaxTimeout < timeout.toInt32 ↔ 4096 < timeout.toInt32.toInt :=
    Int32.lt_iff_toInt_lt
  have bounds : 1 ≤ timeout ∧ timeout ≤ 4096 ↔ 1 ≤ timeout.toNat ∧ timeout.toNat ≤ 4096 :=
    Iff.rfl
  rw [bounds]
  unfold clamped
  split
  next short =>
    have below := low.mp short
    refine iff_of_false (fun same => ?_) (by omega)
    have one : timeout.toNat = 1 := congrArg UInt32.toNat same
    omega
  next some =>
    have above := mt low.mpr some
    split
    next long =>
      have large := high.mp long
      refine iff_of_false (fun same => ?_) (by omega)
      have largest : timeout.toNat = 4096 := congrArg UInt32.toNat same
      omega
    next fits =>
      have within := mt high.mpr fits
      exact iff_of_true rfl (by omega)

theorem start_truthful_iff (updated : Bool) :
    driver.Truthful (watchdogDevStart updated s).2 ↔
      (updated = true ∨ s.watchdogStart = true) ∧ 1 ≤ s.timeout ∧ s.timeout ≤ 4096 := by
  rw [truthful_iff,← clamped_eq_iff]
  cases updated <;> simp [watchdogDevStart]

theorem step_truthful_iff (truthful : driver.Truthful s) (c : WatchdogCall) :
    driver.Truthful (call c s).2 ↔ Meets c s := by
  have ⟨flag,running⟩ := truthful_iff.mp truthful
  cases c with
  | setTimeout seconds =>
    rw [truthful_iff]
    simp only [call,Meets,flag,true_and]
    apply forall_congr'
    intro enabled
    obtain ⟨stored,pointed⟩ := running enabled
    rw [stored]
    exact and_iff_left pointed
  | getTimeout => exact iff_of_true truthful trivial
  | start updated => exact start_truthful_iff updated
  | stop => exact iff_of_true truthful trivial
  | getStatus => exact iff_of_true truthful trivial
  | feed =>
    refine iff_of_true (truthful_iff.mpr ?_) trivial
    dsimp only [call,watchdogDevFeed]
    split
    · exact ⟨flag,running⟩
    · exact ⟨flag,running⟩

theorem booted_truthful (timeout : UInt32) : driver.Truthful (booted timeout) :=
  truthful_iff.mpr ⟨by simp [booted],by simp [booted]⟩

end Step

end Stm32f4xx

namespace Bes

/-- The functions of the SDK for one watchdog, as far as the driver relies on them. -/
structure WdtHal (H : Type) where
  view : H → WatchdogHardware
  reset : H
  halWdtStart : H → H
  halWdtStop : H → H
  halWdtSetTimeout : UInt32 → H → H
  halWdtPing : H → H
  reset_stopped : (view reset).enabled = false
  start_enabled : ∀ h, (view (halWdtStart h)).enabled = true
  start_timeout : ∀ h, (view (halWdtStart h)).timeout = (view h).timeout
  stop_disabled : ∀ h, (view (halWdtStop h)).enabled = false
  setTimeout_enabled : ∀ v h, (view (halWdtSetTimeout v h)).enabled = (view h).enabled
  ping_enabled : ∀ h, (view (halWdtPing h)).enabled = (view h).enabled
  ping_timeout : ∀ h, (view (halWdtPing h)).timeout = (view h).timeout
  ping_restarts : ∀ h, (view h).enabled = true →
    (view (halWdtPing h)).restarts = (view h).restarts + 1

structure WatchdogDevice (H : Type) where
  watchdogStart : Bool
  watchdogTimeout : UInt32
  wdt : H

variable {H : Type} (hal : WdtHal H)

def booted : WatchdogDevice H := ⟨false,0,hal.reset⟩

def call (c : WatchdogCall) (s : WatchdogDevice H) : WatchdogAnswer × WatchdogDevice H :=
  match c with
  | .setTimeout seconds => ({ret := hdfSuccess},{s with
      watchdogTimeout := seconds
      wdt := hal.halWdtSetTimeout seconds s.wdt})
  | .getTimeout => ({ret := hdfSuccess,seconds := some s.watchdogTimeout},s)
  | .start _ => ({ret := hdfSuccess},{s with watchdogStart := true,wdt := hal.halWdtStart s.wdt})
  | .stop => ({ret := hdfSuccess},{s with watchdogStart := false,wdt := hal.halWdtStop s.wdt})
  | .getStatus => ({ret := hdfSuccess,status := some (reported s.watchdogStart)},s)
  | .feed => ({ret := hdfSuccess},{s with wdt := hal.halWdtPing s.wdt})

def driver : WatchdogDriver (WatchdogDevice H) H := ⟨call hal,WatchdogDevice.wdt,hal.view,fun _ => 0⟩

/-- A start finds the hardware with the timeout that was set last; one that is set while the counter
runs is taken as it is. -/
def Meets (c : WatchdogCall) (s : WatchdogDevice H) : Prop :=
  match c with
  | .start _ => (hal.view s.wdt).timeout = s.watchdogTimeout
  | .setTimeout seconds => (hal.view s.wdt).enabled = true →
    (hal.view (hal.halWdtSetTimeout seconds s.wdt)).timeout = seconds
  | _ => True

section Step
variable {hal} {s : WatchdogDevice H}

theorem truthful_iff : (driver hal).Truthful s ↔
    (s.watchdogStart = true ↔ (hal.view s.wdt).enabled = true) ∧
      ((hal.view s.wdt).enabled = true → s.watchdogTimeout = (hal.view s.wdt).timeout) := by
  constructor
  · intro truthful
    refine ⟨(reported_start _).symm.trans truthful.status,fun enabled => ?_⟩
    exact Option.some.inj (truthful.timeout enabled)
  · rintro ⟨flag,stored⟩
    refine ⟨(reported_start _).trans flag,fun enabled => ?_,rfl,rfl,?_,rfl⟩
    · exact congrArg some (stored enabled)
    · exact hal.ping_restarts s.wdt

theorem step_truthful_iff (truthful : (driver hal).Truthful s) (c : WatchdogCall) :
    (driver hal).Truthful (call hal c s).2 ↔ Meets hal c s := by
  have ⟨flag,stored⟩ := truthful_iff.mp truthful
  cases c with
  | setTimeout seconds =>
    rw [truthful_iff]
    simp only [call,Meets,hal.setTimeout_enabled,flag,true_and]
    exact forall_congr' fun _ => eq_comm
  | getTimeout => exact iff_of_true truthful trivial
  | start updated =>
    rw [truthful_iff]
    simp only [call,Meets,hal.start_enabled,hal.start_timeout,true_and,forall_const]
    exact eq_comm
  | stop =>
    refine iff_of_true (truthful_iff.mpr ?_) trivial
    simp [call,hal.stop_disabled]
  | getStatus => exact iff_of_true truthful trivial
  | feed =>
    refine iff_of_true (truthful_iff.mpr ?_) trivial
    simp only [call,hal.ping_enabled,hal.ping_timeout]
    exact ⟨flag,stored⟩

theorem booted_truthful : (driver hal).Truthful (booted hal) :=
  truthful_iff.mpr ⟨by simp [booted,hal.reset_stopped],by simp [booted,hal.reset_stopped]⟩

end Step

end Bes

namespace Wm

/-- The functions of the SDK, of which the driver uses those for the time elapsed. -/
structure TlsWatchdog (H : Type) where
  view : H → WatchdogHardware
  reset : H
  tlsWatchdogInit : UInt32 → H → H
  tlsWatchdogStartCalElapsedTime : H → H
  tlsWatchdogStopCalElapsedTime : H → UInt32 × H
  reset_stopped : (view reset).enabled = false
  init_enabled : ∀ v h, (view (tlsWatchdogInit v h)).enabled = true

structure WatchdogDevice (H : Type) where
  watchdogStart : Bool
  watchdogTimeout : UInt32
  wdg : H
  sysResets : Nat

variable {H : Type} (tls : TlsWatchdog H)

def booted : WatchdogDevice H := ⟨false,0,tls.reset,0⟩

def call (c : WatchdogCall) (s : WatchdogDevice H) : WatchdogAnswer × WatchdogDevice H :=
  match c with
  | .setTimeout seconds => ({ret := hdfSuccess},{s with
      watchdogTimeout := seconds
      wdg := tls.tlsWatchdogInit seconds s.wdg})
  | .getTimeout =>
    let stopped := tls.tlsWatchdogStopCalElapsedTime s.wdg
    ({ret := hdfSuccess,seconds := some stopped.1},{s with
      watchdogTimeout := stopped.1
      wdg := stopped.2})
  | .start _ => ({ret := hdfSuccess},{s with
      watchdogStart := true
      wdg := tls.tlsWatchdogStartCalElapsedTime s.wdg})
  -- the driver has no stop
  | .stop => ({ret := hdfErrNotSupport},s)
  | .getStatus => ({ret := hdfSuccess,status := some (reported s.watchdogStart)},s)
  | .feed => ({ret := hdfSuccess},
      if s.watchdogStart = true then {s with sysResets := s.sysResets + 1} else s)

def driver : WatchdogDriver (WatchdogDevice H) H :=
  ⟨call tls,WatchdogDevice.wdg,tls.view,WatchdogDevice.sysResets⟩

/-- The watchdog is neither started nor given a timeout. -/
def Meets (c : WatchdogCall) : Prop :=
  match c with
  | .start _ | .setTimeout _ => False
  | _ => True

section Step
variable {tls} {s : WatchdogDevice H}

/-- A started watchdog is reset by the next feed. -/
theorem truthful_iff : (driver tls).Truthful s ↔
    s.watchdogStart = false ∧ (tls.view s.wdg).enabled = false ∧
      (tls.tlsWatchdogStopCalElapsedTime s.wdg).2 = s.wdg := by
  constructor
  · intro truthful
    have idle : s.watchdogStart = false := by
      cases flag : s.watchdogStart with
      | false => rfl
      | true =>
        have resets := truthful.resets
        simp [driver,call,flag] at resets
    refine ⟨idle,?_,truthful.getTimeout⟩
    have status := (reported_start _).symm.trans truthful.status
    rw [idle] at status
    simpa [driver] using status
  · rintro ⟨idle,stopped,same⟩
    have quiet : (driver tls).view ((driver tls).hw s) = tls.view s.wdg := rfl
    refine ⟨(reported_start _).trans ?_,fun enabled => ?_,rfl,same,fun enabled => ?_,?_⟩
    · rw [idle,quiet,stopped]
    · simp [quiet,stopped] at enabled
    · simp [quiet,stopped] at enabled
    · simp [driver,call,idle]

theorem step_truthful_iff (truthful : (driver tls).Truthful s) (c : WatchdogCall) :
    (driver tls).Truthful (call tls c s).2 ↔ Meets c := by
  have ⟨idle,stopped,same⟩ := truthful_iff.mp truthful
  cases c with
  | setTimeout seconds =>
    refine iff_of_false (fun after => ?_) id
    have enabled := (truthful_iff.mp after).2.1
    simp [call,tls.init_enabled] at enabled
  | getTimeout =>
    refine iff_of_true (truthful_iff.mpr ?_) trivial
    simp only [call,same]
    exact ⟨idle,stopped,trivial⟩
  | start updated =>
    refine iff_of_false (fun after => ?_) id
    have flag := (truthful_iff.mp after).1
    simp [call] at flag
  | stop => exact iff_of_true truthful trivial
  | getStatus => exact iff_of_true truthful trivial
  | feed =>
    refine iff_of_true (truthful_iff.mpr ?_) trivial
    simp [call,idle,stopped,same]

/-- The unused watchdog tells the truth, if its time elapsed can be asked for. -/
theorem run_truthful_iff (calls : List WatchdogCall) :
    (∀ k, (driver tls).Truthful (Machine.run (call tls) (calls.take k) (booted tls)).2) ↔
      (tls.tlsWatchdogStopCalElapsedTime tls.reset).2 = tls.reset ∧ ∀ c ∈ calls, Meets c := by
  have initially : (driver tls).Truthful (booted tls) ↔
      (tls.tlsWatchdogStopCalElapsedTime tls.reset).2 = tls.reset := by
    rw [truthful_iff]
    simp [booted,tls.reset_stopped]
  by_cases same : (tls.tlsWatchdogStopCalElapsedTime tls.reset).2 = tls.reset
  · rw [and_iff_right same]
    exact Machine.run_always_mem_iff _ _ (driver tls).Truthful
      (fun c _ truthful => step_truthful_iff truthful c) calls _ (initially.mpr same)
  · exact iff_of_false (fun always => same (initially.mp (always 0))) fun both => same both.1

end Step

end Wm

/-- In a run from power-on each driver tells what its hardware does exactly where the calls meet its
condition. -/
theorem watchdog_truthful_iff {H H' : Type} (timeout : UInt32) (hal : Bes.WdtHal H)
    (tls : Wm.TlsWatchdog H') (calls : List WatchdogCall) :
    ((∀ k, Stm32f4xx.driver.Truthful
        (Machine.run Stm32f4xx.call (calls.take k) (Stm32f4xx.booted timeout)).2) ↔
      Machine.MeetsAll Stm32f4xx.call Stm32f4xx.Meets calls (Stm32f4xx.booted timeout)) ∧
    ((∀ k, (Bes.driver hal).Truthful
        (Machine.run (Bes.call hal) (calls.take k) (Bes.booted hal)).2) ↔
      Machine.MeetsAll (Bes.call hal) (Bes.Meets hal) calls (Bes.booted hal)) ∧
    ((∀ k, (Wm.driver tls).Truthful
        (Machine.run (Wm.call tls) (calls.take k) (Wm.booted tls)).2) ↔
      (tls.tlsWatchdogStopCalElapsedTime tls.reset).2 = tls.reset ∧ ∀ c ∈ calls, Wm.Meets c) := by
  refine ⟨?_,?_,Wm.run_truthful_iff calls⟩
  · apply Machine.run_always_iff
    · exact fun c s truthful => Stm32f4xx.step_truthful_iff truthful c
    · exact Stm32f4xx.booted_truthful timeout
  · apply Machine.run_always_iff
    · exact fun c s truthful => Bes.step_truthful_iff truthful c
    · exact Bes.booted_truthful

private def wdt : Bes.WdtHal WatchdogHardware where
  view h := h
  reset := ⟨false,30,0⟩
  halWdtStart h := {h with enabled := true}
  halWdtStop h := {h with enabled := false}
  halWdtSetTimeout v h := {h with timeout := v}
  halWdtPing h := {h with restarts := h.restarts + 1}
  reset_stopped := rfl
  start_enabled _ := rfl
  start_timeout _ := rfl
  stop_disabled _ := rfl
  setTimeout_enabled _ _ := rfl
  ping_enabled _ := rfl
  ping_timeout _ := rfl
  ping_restarts _ _ := rfl

private def wdg : Wm.TlsWatchdog WatchdogHardware where
  view h := h
  reset := ⟨false,0,0⟩
  tlsWatchdogInit v h := {h with enabled := true,timeout := v}
  tlsWatchdogStartCalElapsedTime h := {h with enabled := true,timeout := 0xFFFFFFFF}
  tlsWatchdogStopCalElapsedTime h := (0,{h with enabled := false})
  reset_stopped := rfl
  init_enabled _ _ := rfl

/-- A start that is confirmed late runs unreported, one without a timeout set runs with another than
is reported, and a fed watchdog resets the system. -/
theorem watchdog_not_truthful :
    let late := (Stm32f4xx.call (.start false) (Stm32f4xx.booted 1000)).2
    let unset := (Bes.call wdt (.start true) (Bes.booted wdt)).2
    let started := (Wm.call wdg (.start true) (Wm.booted wdg)).2
    late.iwdg.enabled = true ∧ (Stm32f4xx.call .getStatus late).1.status = some .stop ∧
      ¬ Stm32f4xx.driver.Truthful late ∧
      unset.wdt.timeout = 30 ∧ (Bes.call wdt .getTimeout unset).1.seconds = some 0 ∧
      ¬ (Bes.driver wdt).Truthful unset ∧
      (Wm.call wdg .feed started).2.sysResets = 1 ∧ ¬ (Wm.driver wdg).Truthful started := by
  refine ⟨rfl,rfl,fun truthful => ?_,rfl,rfl,fun truthful => ?_,rfl,fun truthful => ?_⟩
  · have status := truthful.status.mpr rfl
    contradiction
  · have timeout := truthful.timeout rfl
    contradiction
  · have resets := truthful.resets
    contradiction

end DriversAdapter.Platform.Watchdog
