import DriversAdapter.Base.Word
import DriversAdapter.Semantics.Machine

/-! A port of the stm32f4xx driver over its life. A flag of the device says that its peripheral has
been configured and enabled, and an initialisation that finds the flag set does neither again. -/
namespace DriversAdapter.Platform.Stm32f4xx
open DriversAdapter.Base DriversAdapter.Semantics

inductive UsartTransMode
  | block
  | noBlock
  | txDma
  | rxDma
  | txRxDma
  | other

structure LlUsartInitTypeDef where
  baudRate : UInt32
  dataWidth : UInt32
  stopBits : UInt32
  parity : UInt32
  transferDirection : UInt32
  hardwareFlowControl : UInt32
  overSampling : UInt32
  deriving DecidableEq

structure UsartContextObj where
  txDma : Bool
  rxDma : Bool
  isBlock : Bool

/-- The registers of the port, what its receive interrupt was installed with, and its clock. -/
structure Usart where
  enabled : Bool
  clock : Bool
  config : Option LlUsartInitTypeDef
  irq : Option Bool

structure UartDevice where
  transMode : UsartTransMode
  initTypedef : LlUsartInitTypeDef
  initFlag : Bool
  ctx : UsartContextObj
  usart : Usart

/-- What the low-level functions answer in one initialisation. -/
structure LlOutcomes where
  deInit : Bool
  init : Bool

/-- `LL_USART_DeInit` resets the registers, or refuses. -/
def Usart.deInit (usart : Usart) (ok : Bool) : Usart :=
  if ok then {usart with enabled := false,config := none} else usart

def initContextTransMode (ctx : UsartContextObj) : UsartTransMode → UsartContextObj
  | .block => ⟨false,false,true⟩
  | .noBlock => ⟨false,false,false⟩
  | .txDma => ⟨true,false,false⟩
  | .rxDma => ⟨false,true,false⟩
  | .txRxDma => ⟨true,true,false⟩
  | .other => ctx

def initUartDevice (out : LlOutcomes) (d : UartDevice) : Int × UartDevice :=
  let d := {d with ctx := initContextTransMode d.ctx d.transMode}
  let usart := {({d.usart with enabled := false} : Usart).deInit out.deInit with clock := true}
  if d.initFlag = false then
    if out.init = false then (hdfFailure,{d with usart := usart})
    else
      let usart := {usart with
        config := some d.initTypedef
        enabled := true
        irq := some d.ctx.isBlock}
      (hdfSuccess,{d with usart := usart,initFlag := true})
  else (hdfSuccess,{d with usart := usart})

def uartHostDevInit (out : LlOutcomes) (d : UartDevice) : Int × UartDevice := initUartDevice out d

/-- The answer is the one of `LL_USART_DeInit`, which has 1 for an error. -/
def uartHostDevDeinit (deInit : Bool) (d : UartDevice) : Int × UartDevice :=
  let usart : Usart := {d.usart with irq := none,enabled := false}
  (if deInit then 0 else 1,{d with initFlag := false,usart := usart.deInit deInit})

/-- What the two calls answer is dropped. -/
def uartHostDevSetBaud (baudRate : UInt32) (deInit : Bool) (out : LlOutcomes) (d : UartDevice) :
    Int × UartDevice :=
  let d := {d with initTypedef := {d.initTypedef with baudRate := baudRate}}
  let d := (uartHostDevDeinit deInit d).2
  let d := (uartHostDevInit out d).2
  (hdfSuccess,d)

inductive UartCall
  | init (out : LlOutcomes)
  | deinit (deInit : Bool)
  | setBaud (baudRate : UInt32) (deInit : Bool) (out : LlOutcomes)

/-- The peripheral is enabled, with its receive interrupt and with the baud rate on record. -/
structure UartDevice.Working (d : UartDevice) : Prop where
  enabled : d.usart.enabled = true
  irq : d.usart.irq.isSome
  baudRate : d.usart.config.map LlUsartInitTypeDef.baudRate = some d.initTypedef.baudRate

namespace UartCall

def serve : UartCall → UartDevice → Int × UartDevice
  | init out, d => uartHostDevInit out d
  | deinit deInit, d => uartHostDevDeinit deInit d
  | setBaud baudRate deInit out, d => uartHostDevSetBaud baudRate deInit out d

def Truthful (call : UartCall) (d : UartDevice) : Prop :=
  match call with
  | deinit _ => True
  | call => (call.serve d).1 = hdfSuccess → (call.serve d).2.Working

/-- The device is not initialised twice, and no baud rate is refused by the peripheral. -/
def Meets (call : UartCall) (d : UartDevice) : Prop :=
  match call with
  | init _ => d.initFlag = false
  | deinit _ => True
  | setBaud _ _ out => out.init = true

end UartCall

theorem Usart.deInit_disabled (usart : Usart) (ok : Bool) (disabled : usart.enabled = false) :
    (usart.deInit ok).enabled = false := by
  cases ok with
  | false => exact disabled
  | true => rfl

/-- An initialisation does nothing but disable the peripheral where the flag is set; elsewhere it
answers with what the peripheral answers. -/
theorem initUartDevice_cases (out : LlOutcomes) (d : UartDevice) :
    (d.initFlag = true ∧ (initUartDevice out d).1 = hdfSuccess ∧
      (initUartDevice out d).2.usart.enabled = false) ∨
    (d.initFlag = false ∧ out.init = false ∧ (initUartDevice out d).1 = hdfFailure ∧
      (initUartDevice out d).2.usart.enabled = false) ∨
    (d.initFlag = false ∧ out.init = true ∧ (initUartDevice out d).1 = hdfSuccess ∧
      (initUartDevice out d).2.Working) := by
  have disabled := Usart.deInit_disabled {d.usart with enabled := false} out.deInit rfl
  unfold initUartDevice
  dsimp only
  cases flag : d.initFlag with
  | true =>
    rw [if_neg Bool.true_eq_false.mp]
    exact .inl ⟨rfl,rfl,disabled⟩
  | false =>
    rw [if_pos rfl]
    cases out.init with
    | false =>
      rw [if_pos rfl]
      exact .inr (.inl ⟨rfl,rfl,rfl,disabled⟩)
    | true =>
      rw [if_neg Bool.true_eq_false.mp]
      exact .inr (.inr ⟨rfl,rfl,rfl,rfl,rfl,rfl⟩)

theorem UartDevice.not_working {d : UartDevice} (disabled : d.usart.enabled = false) :
    ¬ d.Working :=
  fun working => Bool.false_ne_true (disabled.symm.trans working.enabled)

/-- A call keeps its promise exactly where it finds the flag as its initialisation needs it, or
where the peripheral takes the new baud rate. -/
theorem truthful_iff (call : UartCall) (d : UartDevice) : call.Truthful d ↔ call.Meets d := by
  have failed : hdfFailure ≠ hdfSuccess := by decide
  cases call with
  | deinit deInit => exact Iff.rfl
  | init out =>
    unfold UartCall.Truthful UartCall.Meets UartCall.serve uartHostDevInit
    dsimp only
    rcases initUartDevice_cases out d with ⟨flag,ret,disabled⟩ | ⟨flag,_,ret,_⟩ | ⟨flag,_,_,working⟩
    · rw [flag]
      have not_working := UartDevice.not_working disabled
      exact iff_of_false (fun works => not_working (works ret)) Bool.true_eq_false.mp
    · exact iff_of_true (fun ok => absurd (ret.symm.trans ok) failed) flag
    · exact iff_of_true (fun _ => working) flag
  | setBaud baudRate deInit out =>
    unfold UartCall.Truthful UartCall.Meets UartCall.serve uartHostDevSetBaud uartHostDevInit
    dsimp only
    generalize before : (uartHostDevDeinit deInit
      {d with initTypedef := {d.initTypedef with baudRate := baudRate}}).2 = cleared
    have flag : cleared.initFlag = false := by
      rw [← before]
      rfl
    rw [forall_prop_of_true rfl]
    rcases initUartDevice_cases out cleared with
      ⟨set,_⟩ | ⟨_,refused,_,disabled⟩ | ⟨_,taken,_,working⟩
    · exact absurd (flag.symm.trans set) Bool.false_ne_true
    · rw [refused]
      exact iff_of_false (UartDevice.not_working disabled) Bool.false_ne_true
    · exact iff_of_true working taken

/-- In every run, exactly where all calls meet the condition does each keep its promise. -/
theorem uart_working_iff (calls : List UartCall) (d : UartDevice) :
    (∀ k (call : UartCall), calls[k]? = some call →
      call.Truthful (Machine.run UartCall.serve (calls.take k) d).2) ↔
      Machine.MeetsAll UartCall.serve UartCall.Meets calls d := by
  rw [Machine.meetsAll_iff]
  exact forall_congr' fun k => forall_congr' fun call => forall_congr' fun _ => truthful_iff call _

def UartDevice.attached : UartDevice where
  transMode := .block
  initTypedef := ⟨115200,0,0,0,12,0,0⟩
  initFlag := false
  ctx := ⟨false,false,false⟩
  usart := ⟨false,false,none,none⟩

/-- The second initialisation answers success and leaves the peripheral disabled. -/
theorem uart_not_working :
    ¬ UartCall.Truthful (.init ⟨true,true⟩)
      (Machine.run UartCall.serve [.init ⟨true,true⟩] .attached).2 := by
  intro works
  have working := works rfl
  exact absurd working.enabled (by decide)

end DriversAdapter.Platform.Stm32f4xx
