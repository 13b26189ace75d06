import DriversAdapter.Base.Word
import DriversAdapter.Semantics.Machine
import Mathlib.Data.List.Basic

/-! The virtual CAN controller: its configuration is set in steps, each of which may refuse, and
a message is sent by giving a copy of it back. -/
namespace DriversAdapter.Platform
open DriversAdapter.Base DriversAdapter.Semantics

inductive CanBusState
  | reset
  | ready
  | busy
  deriving DecidableEq

/-- The timing of a bit: the synchronisation jump, the two segments and the prescaler. -/
structure CanTiming where
  syncJumpWidth : UInt32
  timeSeg1 : UInt32
  timeSeg2 : UInt32
  prescaler : UInt32
  deriving DecidableEq

structure VirtualCanCntlr where
  workMode : UInt8
  bitRate : UInt32
  timing : CanTiming
  busState : CanBusState
  deriving DecidableEq

structure VirtualSpeedConfigMap where
  speed : UInt32
  timing : CanTiming

def gSpeedMaps : List VirtualSpeedConfigMap :=
  [⟨1000000,⟨2,5,2,10⟩⟩,⟨800000,⟨2,14,5,5⟩⟩,⟨500000,⟨2,7,2,16⟩⟩,⟨250000,⟨2,13,2,20⟩⟩,
    ⟨125000,⟨2,13,2,40⟩⟩,⟨100000,⟨2,13,2,50⟩⟩,⟨50000,⟨2,13,2,100⟩⟩,⟨20000,⟨2,13,2,250⟩⟩,
    ⟨10000,⟨2,13,2,500⟩⟩]

structure CanConfig where
  speed : UInt32
  mode : UInt8

/-- Whether there is a message to copy to, and what its delivery answers. -/
structure LoopBackOutcomes (M : Type) where
  canMsgObtain : Bool
  canCntlrOnNewMsg : M → Int

/-- The properties of the device. A read leaves something in the field also where it fails. -/
structure CanHcs where
  node : Bool
  busNum : Bool
  workMode : Bool × UInt8
  bitRate : Bool × UInt32

namespace VirtualCanCntlr
-- `CAN_BUS_LOOPBACK` of the CAN core
variable (loopback : UInt8)

def virtualCanSetBitRate (speed : UInt32) (c : VirtualCanCntlr) : Int × VirtualCanCntlr :=
  match gSpeedMaps.find? fun cfgMap => cfgMap.speed = speed with
  | none => (hdfErrNotSupport,c)
  | some cfgMap => (hdfSuccess,{c with timing := cfgMap.timing,bitRate := speed})

def virtualCanSetMode (mode : UInt8) (c : VirtualCanCntlr) : Int × VirtualCanCntlr :=
  if mode = loopback then (hdfSuccess,{c with workMode := loopback}) else (hdfErrNotSupport,c)

/-- What `ret = f(...) != HDF_SUCCESS` leaves in `ret`. -/
def compared (ret : Int) : Int := if ret ≠ hdfSuccess then 1 else 0

/-- The two settings one after the other, as in both their callers. -/
def configure (speed : UInt32) (mode : UInt8) (c : VirtualCanCntlr) : Int × VirtualCanCntlr :=
  let rated := c.virtualCanSetBitRate speed
  if rated.1 ≠ hdfSuccess then (compared rated.1,rated.2)
  else
    let moded := rated.2.virtualCanSetMode loopback mode
    if moded.1 ≠ hdfSuccess then (compared moded.1,moded.2)
    else (hdfSuccess,moded.2)

def virtualReadConfigFromHcs (hcs : CanHcs) (c : VirtualCanCntlr) : Int × VirtualCanCntlr :=
  if hcs.node = false then (hdfErrInvalidParam,c)
  else if hcs.busNum = false then (hdfFailure,c)
  else
    let c := {c with workMode := hcs.workMode.2}
    if hcs.workMode.1 = false then (hdfFailure,c)
    else
      let c := {c with bitRate := hcs.bitRate.2}
      if hcs.bitRate.1 = false then (hdfFailure,c) else (hdfSuccess,c)

/-- The defaults stay where there is no configuration. -/
def virtualCanInit (hcs : CanHcs) (c : VirtualCanCntlr) : Int × VirtualCanCntlr :=
  let c := {c with workMode := loopback,bitRate := 10000}
  let read := c.virtualReadConfigFromHcs hcs
  read.2.configure loopback read.2.bitRate read.2.workMode

/-- The controller comes from the allocator, with zeros. -/
def hdfVirtualCanInit (hcs : CanHcs) : Int × VirtualCanCntlr :=
  let done := virtualCanInit loopback hcs ⟨0,0,⟨0,0,0,0⟩,.reset⟩
  if done.1 ≠ hdfSuccess then done else (hdfSuccess,{done.2 with busState := .ready})

def virtualCanSetCfg (cfg : CanConfig) (c : VirtualCanCntlr) : Int × VirtualCanCntlr :=
  let done := {c with busState := .reset}.configure loopback cfg.speed cfg.mode
  if done.1 ≠ hdfSuccess then done else (hdfSuccess,{done.2 with busState := .ready})

variable {M : Type}

def virtualCanMsgLoopBack (msg : M) (out : LoopBackOutcomes M) (c : VirtualCanCntlr) :
    Int × VirtualCanCntlr :=
  if out.canMsgObtain = false then (hdfErrMallocFail,c)
  else (out.canCntlrOnNewMsg msg,{c with busState := .ready})

def virtualCanSendMsg (msg : Option M) (out : LoopBackOutcomes M) (c : VirtualCanCntlr) :
    Int × VirtualCanCntlr :=
  match msg with
  | none => (hdfErrInvalidParam,c)
  | some msg => {c with busState := .busy}.virtualCanMsgLoopBack msg out

/-- The timing is that of the table's row for the stored bit rate. -/
def Timed (c : VirtualCanCntlr) : Prop :=
  ∃ cfgMap ∈ gSpeedMaps, cfgMap.speed = c.bitRate ∧ cfgMap.timing = c.timing

/-- What the first step that refuses the configuration answers. -/
def failingStep (cfg : CanConfig) (c : VirtualCanCntlr) : Int :=
  let rated := c.virtualCanSetBitRate cfg.speed
  if rated.1 ≠ hdfSuccess then rated.1 else (rated.2.virtualCanSetMode loopback cfg.mode).1

end VirtualCanCntlr

open VirtualCanCntlr

inductive VirtualCanCall (M : Type)
  | setCfg (cfg : CanConfig)
  | sendMsg (msg : Option M) (out : LoopBackOutcomes M)

namespace VirtualCanCall
variable {M : Type} (loopback : UInt8)

def serve : VirtualCanCall M → VirtualCanCntlr → Int × VirtualCanCntlr
  | setCfg cfg, c => c.virtualCanSetCfg loopback cfg
  | sendMsg msg out, c => c.virtualCanSendMsg msg out

/-- A configuration that is refused is refused with the error of the step that refuses it, and
changes nothing; a message that is not sent leaves the bus as it was. -/
def Clean (call : VirtualCanCall M) (c : VirtualCanCntlr) : Prop :=
  let done := serve loopback call c
  match call with
  | setCfg cfg => done.1 ≠ hdfSuccess → done.1 = c.failingStep loopback cfg ∧ done.2 = c
  | sendMsg _ _ => done.1 ≠ hdfSuccess → done.2.busState = c.busState

/-- Each configuration is one that the controller has; where there is no message to copy to the
bus is busy already, and where the copy is not delivered it is ready. -/
def Meets (call : VirtualCanCall M) (c : VirtualCanCntlr) : Prop :=
  match call with
  | setCfg cfg => (∃ cfgMap ∈ gSpeedMaps, cfgMap.speed = cfg.speed) ∧ cfg.mode = loopback
  | sendMsg none _ => True
  | sendMsg (some msg) out =>
    (out.canMsgObtain = false → c.busState = .busy) ∧
      (out.canMsgObtain = true → out.canCntlrOnNewMsg msg ≠ hdfSuccess → c.busState = .ready)

end VirtualCanCall

section Controller
variable {loopback : UInt8} {c : VirtualCanCntlr}

theorem setBitRate_cases (speed : UInt32) (c : VirtualCanCntlr) :
    (∃ cfgMap ∈ gSpeedMaps, cfgMap.speed = speed ∧ c.virtualCanSetBitRate speed =
      (hdfSuccess,{c with timing := cfgMap.timing,bitRate := speed})) ∨
    ((¬ ∃ cfgMap ∈ gSpeedMaps, cfgMap.speed = speed) ∧
      c.virtualCanSetBitRate speed = (hdfErrNotSupport,c)) := by
  unfold virtualCanSetBitRate
  cases found : gSpeedMaps.find? fun cfgMap => cfgMap.speed = speed with
  | none =>
    refine .inr ⟨?_,rfl⟩
    rintro ⟨cfgMap,member,same⟩
    have other := List.find?_eq_none.mp found cfgMap member
    simp [same] at other
  | some cfgMap =>
    have same := List.find?_some found
    exact .inl ⟨cfgMap,List.mem_of_find?_eq_some found,by simpa using same,rfl⟩

/-- The two settings succeed together, or the answer of the one that refused becomes 1. -/
theorem configure_cases (loopback : UInt8) (speed : UInt32) (mode : UInt8) (c : VirtualCanCntlr) :
    ((∃ cfgMap ∈ gSpeedMaps, cfgMap.speed = speed ∧
      c.configure loopback speed mode = (hdfSuccess,
        {c with timing := cfgMap.timing,bitRate := speed,workMode := loopback})) ∧
      mode = loopback) ∨
    (¬ ((∃ cfgMap ∈ gSpeedMaps, cfgMap.speed = speed) ∧ mode = loopback) ∧
      (c.configure loopback speed mode).1 = 1 ∧
      (c.configure loopback speed mode).2.busState = c.busState ∧
      (c.Timed → (c.configure loopback speed mode).2.Timed)) := by
  have refused : hdfErrNotSupport ≠ hdfSuccess := by decide
  have accepted : ¬ hdfSuccess ≠ hdfSuccess := not_not.mpr rfl
  unfold configure
  dsimp only
  rcases setBitRate_cases speed c with ⟨cfgMap,member,same,rated⟩ | ⟨lacks,rated⟩
  · rw [rated]
    by_cases looped : mode = loopback
    · rw [if_neg accepted,virtualCanSetMode,if_pos looped,if_neg accepted]
      exact .inl ⟨⟨cfgMap,member,same,rfl⟩,looped⟩
    · rw [if_neg accepted,virtualCanSetMode,if_neg looped,if_pos refused]
      exact .inr ⟨fun both => looped both.2,rfl,rfl,fun _ => ⟨cfgMap,member,same,rfl⟩⟩
  · rw [rated,if_pos refused]
    exact .inr ⟨fun both => lacks both.1,rfl,rfl,id⟩

theorem setMode_ne_one (mode : UInt8) (c : VirtualCanCntlr) :
    (c.virtualCanSetMode loopback mode).1 ≠ 1 := by
  have success : hdfSuccess ≠ 1 := by decide
  have refused : hdfErrNotSupport ≠ 1 := by decide
  unfold virtualCanSetMode
  split
  · exact success
  · exact refused

theorem failingStep_ne_one (cfg : CanConfig) (c : VirtualCanCntlr) :
    c.failingStep loopback cfg ≠ 1 := by
  have refused : hdfErrNotSupport ≠ hdfSuccess := by decide
  have other : hdfErrNotSupport ≠ 1 := by decide
  unfold failingStep
  dsimp only
  rcases setBitRate_cases cfg.speed c with ⟨cfgMap,_,_,rated⟩ | ⟨_,rated⟩
  · rw [rated,if_neg (not_not.mpr rfl)]
    exact setMode_ne_one cfg.mode _
  · rw [rated,if_pos refused]
    exact other

variable {M : Type} (call : VirtualCanCall M)

theorem timed_serve (timed : c.Timed) : (call.serve loopback c).2.Timed := by
  cases call with
  | setCfg cfg =>
    unfold VirtualCanCall.serve virtualCanSetCfg
    dsimp only
    rcases configure_cases loopback cfg.speed cfg.mode {c with busState := .reset} with
      ⟨⟨cfgMap,member,same,done⟩,_⟩ | ⟨_,failed,_,kept⟩
    · rw [done,if_neg (not_not.mpr rfl)]
      exact ⟨cfgMap,member,same,rfl⟩
    · have one : (1 : Int) ≠ hdfSuccess := by decide
      rw [failed,if_pos one]
      exact kept timed
  | sendMsg msg out =>
    cases msg with
    | none => exact timed
    | some msg =>
      unfold VirtualCanCall.serve virtualCanSendMsg virtualCanMsgLoopBack
      dsimp only
      split <;> exact timed

/-- A call is clean exactly where no step of a configuration refuses, and where the bus is before
a message that fails as the failure leaves it. -/
theorem clean_iff : call.Clean loopback c ↔ call.Meets loopback c := by
  cases call with
  | setCfg cfg =>
    have one : (1 : Int) ≠ hdfSuccess := by decide
    unfold VirtualCanCall.Clean VirtualCanCall.Meets VirtualCanCall.serve virtualCanSetCfg
    dsimp only
    rcases configure_cases loopback cfg.speed cfg.mode {c with busState := .reset} with
      ⟨⟨cfgMap,member,same,done⟩,looped⟩ | ⟨lacks,failed,_⟩
    · rw [done,if_neg (not_not.mpr rfl)]
      exact iff_of_true (fun bad => absurd rfl bad) ⟨⟨cfgMap,member,same⟩,looped⟩
    · rw [failed,if_pos one,failed]
      refine iff_of_false (fun clean => ?_) lacks
      exact failingStep_ne_one cfg c (clean one).1.symm
  | sendMsg msg out =>
    have param : hdfErrInvalidParam ≠ hdfSuccess := by decide
    have malloc : hdfErrMallocFail ≠ hdfSuccess := by decide
    cases msg with
    | none => exact iff_of_true (fun _ => rfl) trivial
    | some msg =>
      unfold VirtualCanCall.Clean VirtualCanCall.Meets VirtualCanCall.serve virtualCanSendMsg
        virtualCanMsgLoopBack
      dsimp only
      cases out.canMsgObtain with
      | false =>
        rw [if_pos rfl]
        constructor
        · intro clean
          exact ⟨fun _ => (clean malloc).symm,nofun⟩
        · rintro ⟨busy,_⟩ _
          exact (busy rfl).symm
      | true =>
        rw [if_neg Bool.true_eq_false.mp]
        constructor
        · intro clean
          exact ⟨nofun,fun _ failed => (clean failed).symm⟩
        · rintro ⟨_,ready⟩ failed
          exact (ready rfl failed).symm

theorem timed_init (hcs : CanHcs) (ok : (hdfVirtualCanInit loopback hcs).1 = hdfSuccess) :
    (hdfVirtualCanInit loopback hcs).2.Timed := by
  unfold hdfVirtualCanInit virtualCanInit at ok ⊢
  dsimp only at ok ⊢
  generalize (virtualReadConfigFromHcs hcs _).2 = read at ok ⊢
  have one : (1 : Int) ≠ hdfSuccess := by decide
  rcases configure_cases loopback read.bitRate read.workMode read with
    ⟨⟨cfgMap,member,same,done⟩,_⟩ | ⟨_,failed,_⟩
  · rw [done,if_neg (not_not.mpr rfl)]
    exact ⟨cfgMap,member,same,rfl⟩
  · rw [failed,if_pos one,failed] at ok
    exact absurd ok one

end Controller

/-- The timing is that of the stored bit rate in every state of every run; and exactly in the runs
whose calls all meet the condition is every call clean. -/
theorem virtualCan_clean_iff {M : Type} (loopback : UInt8) (hcs : CanHcs)
    (booted : (hdfVirtualCanInit loopback hcs).1 = hdfSuccess) (calls : List (VirtualCanCall M)) :
    (∀ k, (Machine.run (VirtualCanCall.serve loopback) (calls.take k)
        (hdfVirtualCanInit loopback hcs).2).2.Timed ∧
      ∀ call, calls[k]? = some call → call.Clean loopback
        (Machine.run (VirtualCanCall.serve loopback) (calls.take k)
          (hdfVirtualCanInit loopback hcs).2).2) ↔
      Machine.MeetsAll (VirtualCanCall.serve loopback) (VirtualCanCall.Meets loopback) calls
        (hdfVirtualCanInit loopback hcs).2 := by
  have timed (k : Nat) := Machine.run_invariant (VirtualCanCall.serve loopback)
    VirtualCanCntlr.Timed (fun call c => timed_serve call) (calls.take k) _ (timed_init hcs booted)
  rw [Machine.meetsAll_iff]
  refine forall_congr' fun k => (and_iff_right (timed k)).trans ?_
  exact forall_congr' fun call => forall_congr' fun _ => clean_iff call

private def canHcs : CanHcs := ⟨true,true,(true,3),(true,500000)⟩

private def canCalls : List (VirtualCanCall Nat) :=
  [.setCfg ⟨20000,3⟩,.sendMsg (some 7) ⟨true,fun _ => hdfSuccess⟩,
    .sendMsg none ⟨true,fun _ => hdfSuccess⟩,.setCfg ⟨500000,3⟩,
    .sendMsg (some 9) ⟨true,fun msg => if msg = 9 then hdfErrMallocFail else hdfSuccess⟩]

/-- Configured twice, with a message given back, none at all and one that is not delivered. -/
theorem virtualCan_clean_changed :
    let run (k : Nat) := Machine.run (VirtualCanCall.serve 3) (canCalls.take k)
      (hdfVirtualCanInit 3 canHcs).2
    (run 5).1 = [hdfSuccess,hdfSuccess,hdfErrInvalidParam,hdfSuccess,hdfErrMallocFail] ∧
      (run 5).2 = ⟨3,500000,⟨2,7,2,16⟩,.ready⟩ ∧
      ∀ k, (run k).2.Timed ∧ ∀ call, canCalls[k]? = some call → call.Clean 3 (run k).2 := by
  intro run
  refine ⟨rfl,rfl,(virtualCan_clean_iff 3 canHcs (by decide) canCalls).mpr ?_⟩
  refine ⟨⟨⟨_,List.mem_of_getElem? (i := 7) rfl,rfl⟩,rfl⟩,⟨nofun,fun _ failed => ?_⟩,trivial,
    ⟨⟨_,List.mem_of_getElem? (i := 2) rfl,rfl⟩,rfl⟩,⟨nofun,fun _ _ => rfl⟩,trivial⟩
  exact absurd rfl failed

/-- A bit rate that the table does not have: the answer is 1, and the bus stays reset. -/
theorem virtualCan_not_clean :
    ¬ VirtualCanCall.Clean (M := Unit) 3 (.setCfg ⟨300000,3⟩) (hdfVirtualCanInit 3 canHcs).2 := by
  intro clean
  have answer := (clean (by decide)).1
  contradiction

end DriversAdapter.Platform
