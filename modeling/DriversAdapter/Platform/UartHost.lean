import DriversAdapter.Base.Memory
import DriversAdapter.Base.Word
import DriversAdapter.Semantics.Machine
import Mathlib.Logic.Function.Basic

/-! The UART hosts of the ASR and GR5xx drivers: what the first opening of a port allocates
and configures, and what the last closing gives back. -/
namespace DriversAdapter.Platform
open DriversAdapter.Base DriversAdapter.Semantics

/-- The mutexes and semaphores of the kernel that exist. -/
structure KernelObjects where
  mutexes : UInt32 → Bool
  sems : UInt32 → Bool

/-- The kernel gives out a handle that is not in use, or fails. -/
def losMuxCreate (chosen : Option UInt32) (k : KernelObjects) : Option UInt32 × KernelObjects :=
  match chosen with
  | none => (none,k)
  | some handle =>
    if k.mutexes handle then (none,k)
    else (some handle,{k with mutexes := Function.update k.mutexes handle true})

def losMuxDelete (handle : UInt32) (k : KernelObjects) : KernelObjects :=
  {k with mutexes := Function.update k.mutexes handle false}

def losBinarySemCreate (chosen : Option UInt32) (k : KernelObjects) :
    Option UInt32 × KernelObjects :=
  match chosen with
  | none => (none,k)
  | some handle =>
    if k.sems handle then (none,k)
    else (some handle,{k with sems := Function.update k.sems handle true})

def losSemDelete (handle : UInt32) (k : KernelObjects) : KernelObjects :=
  {k with sems := Function.update k.sems handle false}

inductive UartState
  | notOpened
  | opening
  | useable
  | suspened
  deriving DecidableEq

/-- `A` are the attributes of a port as the framework describes them. -/
structure UartDriverData (A : Type) where
  id : UInt32
  baudRate : UInt32
  attr : A
  config : Bool
  count : Int32
  state : UartState
  flags : UInt32

/-- One host with the globals of its port. The buffer is `rx_buf` of the ASR driver and
`txBuffer` of the GR5xx driver; `buffers` counts those allocated and not freed. -/
structure UartHost (A : Type) where
  priv : Option (UartDriverData A)
  gUartTxMutex : UInt32
  gUartRxMutex : UInt32
  gUartRxSem : UInt32
  buffer : Option Bytes
  buffers : Nat
  kernel : KernelObjects
  -- what the hardware was last configured with
  applied : Option (UInt32 × A)

structure InitOutcomes where
  osalMemCalloc : Bool
  losBinarySemCreate : Option UInt32
  losTxMuxCreate : Option UInt32
  losRxMuxCreate : Option UInt32
  uartInit : Bool

variable {A : Type}

namespace UartHost

def createTxMutex (out : InitOutcomes) (h : UartHost A) : Bool × UartHost A :=
  match losMuxCreate out.losTxMuxCreate h.kernel with
  | (none,_) => (false,h)
  | (some handle,kernel) => (true,{h with gUartTxMutex := handle,kernel := kernel})

def createRxMutex (out : InitOutcomes) (h : UartHost A) : Bool × UartHost A :=
  match losMuxCreate out.losRxMuxCreate h.kernel with
  | (none,_) => (false,h)
  | (some handle,kernel) => (true,{h with gUartRxMutex := handle,kernel := kernel})

def createRxSem (out : InitOutcomes) (h : UartHost A) : Bool × UartHost A :=
  match Platform.losBinarySemCreate out.losBinarySemCreate h.kernel with
  | (none,_) => (false,h)
  | (some handle,kernel) => (true,{h with gUartRxSem := handle,kernel := kernel})

def createMutexes (out : InitOutcomes) (h : UartHost A) : Int × UartHost A :=
  match h.createTxMutex out with
  | (false,h) => (hdfFailure,h)
  | (true,h) =>
    match h.createRxMutex out with
    | (false,h) => (hdfFailure,h)
    | (true,h) => (hdfSuccess,h)

end UartHost

structure UartDriver (A : Type) where
  num : UInt32
  uartDevSemInit : InitOutcomes → UartHost A → Int × UartHost A
  uartDevSemDeinit : UartHost A → UartHost A
  finalize : UartHost A → UartHost A

namespace Asr

def uartDevSemInit (out : InitOutcomes) (h : UartHost A) : Int × UartHost A := h.createMutexes out

def uartDevSemDeinit (h : UartHost A) : UartHost A :=
  let kernel := if h.gUartTxMutex ≠ 0 then losMuxDelete h.gUartTxMutex h.kernel else h.kernel
  let kernel := if h.gUartRxMutex ≠ 0 then losMuxDelete h.gUartRxMutex kernel else kernel
  {h with kernel := kernel,gUartTxMutex := 0,gUartRxMutex := 0}

def asrUartFinalize (h : UartHost A) : UartHost A := {h with applied := none}

end Asr

namespace Gr5xx

def uartDevSemInit (out : InitOutcomes) (h : UartHost A) : Int × UartHost A :=
  match h.createRxSem out with
  | (false,h) => (hdfFailure,h)
  | (true,h) => h.createMutexes out

/-- The mutexes too are given to `LOS_SemDelete`. -/
def uartDevSemDeinit (h : UartHost A) : UartHost A :=
  let kernel := if h.gUartRxSem ≠ 0 then losSemDelete h.gUartRxSem h.kernel else h.kernel
  let kernel := if h.gUartTxMutex ≠ 0 then losSemDelete h.gUartTxMutex kernel else kernel
  let kernel := if h.gUartRxMutex ≠ 0 then losSemDelete h.gUartRxMutex kernel else kernel
  {h with kernel := kernel,gUartRxSem := 0,gUartTxMutex := 0,gUartRxMutex := 0}

end Gr5xx

inductive UartChip
  | asr582x
  | gr5xx

/-- The number of ports comes from the headers of the chip. -/
def UartChip.driver (chip : UartChip) (num : UInt32) : UartDriver A :=
  match chip with
  | asr582x => ⟨num,Asr.uartDevSemInit,Asr.uartDevSemDeinit,Asr.asrUartFinalize⟩
  | gr5xx => ⟨num,Gr5xx.uartDevSemInit,Gr5xx.uartDevSemDeinit,id⟩

namespace UartHost

variable (D : UartDriver A)

def markUseable (h : UartHost A) (udd : UartDriverData A) : Int × UartHost A :=
  (hdfSuccess,{h with priv := some {udd with state := .useable,count := udd.count + 1}})

/-- The rest of the first opening, once the semaphores have been created or not. -/
def configFirst (out : InitOutcomes) (ret : Int) (udd : UartDriverData A) (h : UartHost A) :
    Int × UartHost A :=
  if ret ≠ hdfSuccess then (hdfFailure,D.uartDevSemDeinit h)
  else
    let udd := {udd with config := true}
    let h := {h with buffer := some fun _ => 0,priv := some udd}
    if out.uartInit = false then
      let h := D.uartDevSemDeinit h
      (hdfFailure,{h with buffer := none,buffers := h.buffers - 1})
    else {h with applied := some (udd.baudRate,udd.attr)}.markUseable udd

def uartHostDevInit (out : InitOutcomes) (h : UartHost A) : Int × UartHost A :=
  match h.priv with
  | none => (hdfErrInvalidParam,h)
  | some udd =>
    if D.num ≤ udd.id then (hdfErrInvalidParam,h)
    else if udd.state = .notOpened then
      let udd := {udd with state := .opening}
      let h := {h with priv := some udd}
      if out.osalMemCalloc = false then (hdfErrMallocFail,h)
      else
        let created := D.uartDevSemInit out {h with buffers := h.buffers + 1}
        created.2.configFirst D out created.1 udd
    else h.markUseable udd

def uartHostDevDeinit (h : UartHost A) : Int × UartHost A :=
  match h.priv with
  | none => (hdfErrInvalidParam,h)
  | some udd =>
    let udd := {udd with count := udd.count - 1}
    let h := {h with priv := some udd}
    if udd.count ≠ 0 then (hdfSuccess,h)
    else
      let h := D.uartDevSemDeinit (D.finalize h)
      let h := if h.buffer.isSome then {h with buffer := none,buffers := h.buffers - 1} else h
      (hdfSuccess,{h with priv := some {udd with state := .notOpened}})

def Bare (h : UartHost A) : Prop :=
  h.buffer = none ∧ h.buffers = 0 ∧ (∀ handle, h.kernel.mutexes handle = false) ∧
    ∀ handle, h.kernel.sems handle = false

def NotOpened (h : UartHost A) : Prop := ∀ udd, h.priv = some udd → udd.state = .notOpened

/-- The buffer and the mutexes exist, and the configuration has been applied. -/
def Equipped (h : UartHost A) : Prop :=
  h.buffer.isSome ∧ h.kernel.mutexes h.gUartTxMutex = true ∧
    h.kernel.mutexes h.gUartRxMutex = true ∧ h.applied.isSome

end UartHost

/-- A host and how often it was opened and closed with success. -/
structure UartRun (A : Type) where
  host : UartHost A
  inits : Nat
  deinits : Nat

inductive UartCall
  | init (out : InitOutcomes)
  | deinit

namespace UartCall

def serve (D : UartDriver A) (c : UartCall) (r : UartRun A) : Int × UartRun A :=
  match c with
  | init out =>
    let done := r.host.uartHostDevInit D out
    (done.1,⟨done.2,if done.1 = hdfSuccess then r.inits + 1 else r.inits,r.deinits⟩)
  | deinit =>
    let done := r.host.uartHostDevDeinit D
    (done.1,⟨done.2,r.inits,if done.1 = hdfSuccess then r.deinits + 1 else r.deinits⟩)

/-- The first opening gets its buffer, its mutexes and its configuration, the count has
room, and a port is closed only when it is open. -/
def Meets (D : UartDriver A) (c : UartCall) (r : UartRun A) : Prop :=
  ∀ udd, r.host.priv = some udd → match c with
  | init out => udd.id < D.num → udd.count ≠ Int32.maxValue ∧
      (udd.state = .notOpened → out.osalMemCalloc = true ∧ out.uartInit = true ∧
        ∀ h : UartHost A, h.kernel = r.host.kernel → (D.uartDevSemInit out h).1 = hdfSuccess)
  | deinit => 0 < udd.count

end UartCall

structure UartRun.Sound (r : UartRun A) : Prop where
  useable : ∀ udd, r.host.priv = some udd → udd.state = .useable →
    r.host.Equipped ∧ 0 < udd.count.toInt
  balance : ∀ udd, r.host.priv = some udd →
    udd.count.toInt = r.inits - r.deinits ∧ 0 ≤ udd.count.toInt

/-- The driver is attached to a device, or is not, and no port has been opened. -/
structure UartRun.Fresh (r : UartRun A) : Prop where
  bare : r.host.Bare
  closed : ∀ udd, r.host.priv = some udd → udd.state = .notOpened ∧ udd.count = 0
  inits : r.inits = 0
  deinits : r.deinits = 0

theorem count_up (count : Int32) (room : count ≠ Int32.maxValue) :
    (count + 1).toInt = count.toInt + 1 := by
  have below : count.toInt ≠ 2147483647 := by
    intro top
    exact room (Int32.toInt_inj.mp (by rw [top]; rfl))
  have le := Int32.le_toInt count
  have lt := Int32.toInt_lt count
  rw [Int32.toInt_add,Int32.toInt_one]
  exact Int.bmod_eq_of_le (by omega) (by omega)

theorem count_down (count : Int32) (positive : 0 < count.toInt) :
    (count - 1).toInt = count.toInt - 1 := by
  have lt := Int32.toInt_lt count
  rw [Int32.toInt_sub,Int32.toInt_one]
  exact Int.bmod_eq_of_le (by omega) (by omega)

namespace UartHost

/-- The fields that the semaphores of a port are not. -/
structure SameDevice (h h' : UartHost A) : Prop where
  priv : h'.priv = h.priv
  buffer : h'.buffer = h.buffer
  buffers : h'.buffers = h.buffers
  applied : h'.applied = h.applied

theorem createMutexes_spec (out : InitOutcomes) (h : UartHost A)
    (created : (h.createMutexes out).1 = hdfSuccess) :
    h.SameDevice (h.createMutexes out).2 ∧
      (h.createMutexes out).2.kernel.mutexes (h.createMutexes out).2.gUartTxMutex = true ∧
      (h.createMutexes out).2.kernel.mutexes (h.createMutexes out).2.gUartRxMutex = true := by
  have failed : hdfFailure ≠ hdfSuccess := by decide
  unfold createMutexes createTxMutex createRxMutex losMuxCreate at created ⊢
  cases tx : out.losTxMuxCreate with
  | none => simp [tx,failed] at created
  | some first =>
    by_cases used : h.kernel.mutexes first = true
    · simp [tx,used,failed] at created
    · cases rx : out.losRxMuxCreate with
      | none => simp [tx,rx,used,failed] at created
      | some second =>
        by_cases taken : Function.update h.kernel.mutexes first true second = true
        · simp [tx,rx,used,taken,failed] at created
        · simp only [used,taken,if_false,Bool.false_eq_true]
          refine ⟨⟨rfl,rfl,rfl,rfl⟩,?_,Function.update_self _ _ _⟩
          simp [Function.update_apply]

theorem createRxSem_same (out : InitOutcomes) (h : UartHost A) :
    h.SameDevice (h.createRxSem out).2 := by
  unfold createRxSem
  split <;> exact ⟨rfl,rfl,rfl,rfl⟩

end UartHost

structure UartDriver.Lawful (D : UartDriver A) : Prop where
  semInit : ∀ out h, (D.uartDevSemInit out h).1 = hdfSuccess →
    h.SameDevice (D.uartDevSemInit out h).2 ∧
      (D.uartDevSemInit out h).2.kernel.mutexes (D.uartDevSemInit out h).2.gUartTxMutex = true ∧
      (D.uartDevSemInit out h).2.kernel.mutexes (D.uartDevSemInit out h).2.gUartRxMutex = true

theorem UartChip.driver_lawful (chip : UartChip) (num : UInt32) :
    (chip.driver num : UartDriver A).Lawful := by
  cases chip with
  | asr582x => exact ⟨UartHost.createMutexes_spec⟩
  | gr5xx =>
    refine ⟨?_⟩
    intro out h created
    have same := UartHost.createRxSem_same out h
    simp only [UartChip.driver,Gr5xx.uartDevSemInit] at created ⊢
    split at created
    next h' failed =>
      have bad : hdfFailure ≠ hdfSuccess := by decide
      exact absurd created bad
    next h' ok =>
      rw [ok] at same
      obtain ⟨rest,tx,rx⟩ := UartHost.createMutexes_spec out h' created
      exact ⟨⟨rest.priv.trans same.priv,rest.buffer.trans same.buffer,
        rest.buffers.trans same.buffers,rest.applied.trans same.applied⟩,tx,rx⟩

/-- A port is closed, or it is open and equipped; one that the driver refuses is bare. -/
structure UartRun.Lifecycle (D : UartDriver A) (r : UartRun A) : Prop where
  phase : ∀ udd, r.host.priv = some udd → udd.state = .notOpened ∧ udd.count = 0 ∨
    udd.state = .useable ∧ 0 < udd.count.toInt ∧ r.host.Equipped ∧ udd.id < D.num
  balance : ∀ udd, r.host.priv = some udd → udd.count.toInt = r.inits - r.deinits
  refused : ∀ udd, r.host.priv = some udd → D.num ≤ udd.id → r.host.Bare
  detached : r.host.priv = none → r.host.Bare

section Lifecycle
variable {D : UartDriver A} (lawful : D.Lawful) {r : UartRun A} (life : r.Lifecycle D)

include life in
theorem sound_of_lifecycle : r.Sound := by
  refine ⟨?_,?_⟩
  · intro udd attached useable
    rcases life.phase udd attached with ⟨closed,_⟩ | ⟨_,positive,equipped,_⟩
    · rw [closed] at useable
      contradiction
    · exact ⟨equipped,positive⟩
  · intro udd attached
    refine ⟨life.balance udd attached,?_⟩
    rcases life.phase udd attached with ⟨_,zero⟩ | ⟨_,positive,_⟩
    · rw [zero]
      decide
    · exact Int.le_of_lt positive

include lawful life in
/-- An opening succeeds and leaves the port equipped, or it is refused and changes nothing. -/
theorem init_cases (out : InitOutcomes) (meets : UartCall.Meets D (.init out) r) :
    (∃ udd udd', r.host.priv = some udd ∧ udd.id < D.num ∧
      (r.host.uartHostDevInit D out).1 = hdfSuccess ∧
      (r.host.uartHostDevInit D out).2.priv = some udd' ∧ udd'.id = udd.id ∧
      udd'.state = .useable ∧ udd'.count = udd.count + 1 ∧ udd.count ≠ Int32.maxValue ∧
      (r.host.uartHostDevInit D out).2.Equipped) ∨
    ((r.host.uartHostDevInit D out).1 = hdfErrInvalidParam ∧
      (r.host.uartHostDevInit D out).2 = r.host ∧
      ∀ udd, r.host.priv = some udd → D.num ≤ udd.id) := by
  cases attached : r.host.priv with
  | none =>
    refine .inr ⟨?_,?_,fun _ absent => by simp at absent⟩ <;>
      simp [UartHost.uartHostDevInit,attached]
  | some udd =>
    by_cases refused : D.num ≤ udd.id
    · refine .inr ⟨?_,?_,fun _ same => by cases same; exact refused⟩ <;>
        simp [UartHost.uartHostDevInit,attached,refused]
    · have inside : udd.id < D.num := UInt32.not_le.mp refused
      obtain ⟨room,first⟩ := meets udd attached inside
      refine .inl ⟨udd,?_⟩
      by_cases closed : udd.state = .notOpened
      · obtain ⟨alloc,configured,creates⟩ := first closed
        have created := creates {r.host with
          priv := some {udd with state := .opening},buffers := r.host.buffers + 1} rfl
        obtain ⟨_,tx,rx⟩ := lawful.semInit out _ created
        have made : r.host.uartHostDevInit D out = UartHost.markUseable
            {(D.uartDevSemInit out {r.host with
              priv := some {udd with state := .opening},buffers := r.host.buffers + 1}).2 with
              buffer := some fun _ => 0
              priv := some {udd with state := .opening,config := true}
              applied := some (udd.baudRate,udd.attr)} {udd with state := .opening,config := true} := by
          simp [UartHost.uartHostDevInit,UartHost.configFirst,attached,refused,closed,alloc,
            configured,created]
        rw [made]
        exact ⟨_,rfl,inside,rfl,rfl,rfl,rfl,rfl,room,rfl,tx,rx,rfl⟩
      · have made : r.host.uartHostDevInit D out = r.host.markUseable udd := by
          simp [UartHost.uartHostDevInit,attached,refused,closed]
        rw [made]
        have equipped : r.host.Equipped := by
          rcases life.phase udd attached with ⟨notOpened,_⟩ | ⟨_,_,equipped,_⟩
          · exact absurd notOpened closed
          · exact equipped
        exact ⟨_,rfl,inside,rfl,rfl,rfl,rfl,rfl,room,equipped⟩

include lawful life in
theorem lifecycle_init (out : InitOutcomes) (meets : UartCall.Meets D (.init out) r) :
    (UartCall.serve D (.init out) r).2.Lifecycle D := by
  unfold UartCall.serve
  dsimp only
  rcases init_cases lawful life out meets with
    ⟨udd,udd',attached,inside,ok,after,id,useable,count,room,equipped⟩ | ⟨failed,same,refused⟩
  · have counted := life.balance udd attached
    have grown := count_up udd.count room
    have positive : 0 ≤ udd.count.toInt := ((sound_of_lifecycle life).balance udd attached).2
    rw [if_pos ok]
    refine ⟨?_,?_,?_,?_⟩
    · rintro _ here
      cases here.symm.trans after
      exact .inr ⟨useable,by rw [count,grown]; omega,equipped,id ▸ inside⟩
    · rintro _ here
      cases here.symm.trans after
      rw [count,grown,counted]
      dsimp only
      omega
    · rintro _ here outside
      cases here.symm.trans after
      rw [id] at outside
      exact absurd inside (UInt32.not_lt.mpr outside)
    · intro none
      rw [after] at none
      contradiction
  · rw [if_neg (by rw [failed]; decide),same]
    exact ⟨life.phase,life.balance,life.refused,life.detached⟩

include life in
theorem lifecycle_deinit (meets : UartCall.Meets D .deinit r) :
    (UartCall.serve D .deinit r).2.Lifecycle D := by
  unfold UartCall.serve
  dsimp only
  cases attached : r.host.priv with
  | none =>
    have failed : r.host.uartHostDevDeinit D = (hdfErrInvalidParam,r.host) := by
      simp [UartHost.uartHostDevDeinit,attached]
    have bad : hdfErrInvalidParam ≠ hdfSuccess := by decide
    rw [failed,if_neg bad]
    exact ⟨life.phase,life.balance,life.refused,life.detached⟩
  | some udd =>
    have positive : 0 < udd.count.toInt := Int32.lt_iff_toInt_lt.mp (meets udd attached)
    have shrunk := count_down udd.count positive
    have counted := life.balance udd attached
    obtain ⟨useable,equipped,inside⟩ : udd.state = .useable ∧ r.host.Equipped ∧ udd.id < D.num := by
      rcases life.phase udd attached with ⟨_,zero⟩ | ⟨useable,_,equipped,inside⟩
      · rw [zero] at positive
        exact absurd positive (by decide)
      · exact ⟨useable,equipped,inside⟩
    by_cases last : udd.count - 1 ≠ 0
    · have kept : r.host.uartHostDevDeinit D =
          (hdfSuccess,{r.host with priv := some {udd with count := udd.count - 1}}) := by
        simp only [UartHost.uartHostDevDeinit,attached]
        exact if_pos last
      rw [kept,if_pos rfl]
      have some_left : (udd.count - 1).toInt ≠ 0 := fun zero => last (Int32.toInt_inj.mp zero)
      refine ⟨?_,?_,?_,?_⟩
      · rintro _ ⟨⟩
        exact .inr ⟨useable,by dsimp only; omega,equipped,inside⟩
      · rintro _ ⟨⟩
        dsimp only
        omega
      · rintro _ ⟨⟩ outside
        exact absurd inside (UInt32.not_lt.mpr outside)
      · rintro ⟨⟩
    · have zero : udd.count - 1 = 0 := not_not.mp last
      obtain ⟨h,closed⟩ : ∃ h : UartHost A, r.host.uartHostDevDeinit D = (hdfSuccess,{h with
          priv := some {udd with state := .notOpened,count := udd.count - 1}}) := by
        simp only [UartHost.uartHostDevDeinit,attached,if_neg last]
        exact ⟨_,rfl⟩
      rw [closed,if_pos rfl]
      refine ⟨?_,?_,?_,?_⟩
      · rintro _ ⟨⟩
        exact .inl ⟨rfl,zero⟩
      · rintro _ ⟨⟩
        dsimp only
        omega
      · rintro _ ⟨⟩ outside
        exact absurd inside (UInt32.not_lt.mpr outside)
      · rintro ⟨⟩

include lawful life in
theorem lifecycle_failed (out : InitOutcomes) (meets : UartCall.Meets D (.init out) r)
    (failed : (r.host.uartHostDevInit D out).1 ≠ hdfSuccess) :
    (r.host.uartHostDevInit D out).2.Bare ∧ (r.host.uartHostDevInit D out).2.NotOpened := by
  rcases init_cases lawful life out meets with ⟨_,_,_,_,ok,_⟩ | ⟨_,same,refused⟩
  · exact absurd ok failed
  · rw [same]
    cases attached : r.host.priv with
    | none =>
      refine ⟨life.detached attached,?_⟩
      intro udd some
      rw [attached] at some
      contradiction
    | some udd =>
      have outside := refused udd attached
      refine ⟨life.refused udd attached outside,?_⟩
      rintro _ here
      cases here.symm.trans attached
      rcases life.phase udd attached with ⟨closed,_⟩ | ⟨_,_,_,inside⟩
      · exact closed
      · exact absurd inside (UInt32.not_lt.mpr outside)

end Lifecycle

theorem lifecycle_fresh (D : UartDriver A) (r : UartRun A) (fresh : r.Fresh) : r.Lifecycle D := by
  refine ⟨?_,?_,fun _ _ _ => fresh.bare,fun _ => fresh.bare⟩
  · exact fun udd attached => .inl (fresh.closed udd attached)
  · intro udd attached
    rw [(fresh.closed udd attached).2,fresh.inits,fresh.deinits]
    decide

/-- A usable port is equipped and open as often as it was opened and not closed, and an
opening that fails leaves nothing behind. -/
theorem uartHost_lifecycle (chip : UartChip) (num : UInt32) (start : UartRun A)
    (fresh : start.Fresh) (r : UartRun A)
    (reached : Machine.Reach (UartCall.serve (chip.driver num)) (UartCall.Meets (chip.driver num))
      start r) :
    r.Sound ∧ ∀ out, UartCall.Meets (chip.driver num) (.init out) r →
      (r.host.uartHostDevInit (chip.driver num) out).1 ≠ hdfSuccess →
      (r.host.uartHostDevInit (chip.driver num) out).2.Bare ∧
        (r.host.uartHostDevInit (chip.driver num) out).2.NotOpened := by
  have lawful : (chip.driver num : UartDriver A).Lawful := chip.driver_lawful num
  have life : r.Lifecycle (chip.driver num) := Machine.reach_invariant _ _ start
    (UartRun.Lifecycle (chip.driver num)) (lifecycle_fresh _ start fresh)
    (fun c s life meets => by
      cases c with
      | init out => exact lifecycle_init lawful life out meets
      | deinit => exact lifecycle_deinit life meets) r reached
  exact ⟨sound_of_lifecycle life,fun out => lifecycle_failed lawful life out⟩

private def attachedHost : UartRun Unit :=
  ⟨⟨some ⟨1,115200,(),false,0,.notOpened,0⟩,0,0,0,none,0,⟨fun _ => false,fun _ => false⟩,none⟩,0,0⟩

private def granted : InitOutcomes := ⟨true,some 4,some 5,some 6,true⟩

private theorem attachedHost_fresh : attachedHost.Fresh := by
  refine ⟨⟨rfl,rfl,fun _ => rfl,fun _ => rfl⟩,?_,rfl,rfl⟩
  rintro udd ⟨⟩
  exact ⟨rfl,rfl⟩

theorem uartHost_lifecycle_twice :
    let r := (Machine.run (UartCall.serve (UartChip.asr582x.driver 3))
      [.init granted,.init granted,.deinit] attachedHost).2
    r.Sound ∧ r.inits = 2 ∧ r.deinits = 1 := by
  have met : Machine.MeetsAll (UartCall.serve (UartChip.asr582x.driver 3))
      (UartCall.Meets (UartChip.asr582x.driver 3)) [.init granted,.init granted,.deinit]
      attachedHost := by
    refine ⟨?_,?_,?_,trivial⟩
    · rintro udd ⟨⟩ _
      refine ⟨by decide,fun _ => ⟨rfl,rfl,fun h same => ?_⟩⟩
      simp [UartChip.driver,Asr.uartDevSemInit,UartHost.createMutexes,UartHost.createTxMutex,
        UartHost.createRxMutex,losMuxCreate,granted,same,attachedHost]
    · rintro udd ⟨⟩ _
      exact ⟨by decide,fun closed => by cases closed⟩
    · rintro udd ⟨⟩
      decide
  exact ⟨(uartHost_lifecycle .asr582x 3 attachedHost attachedHost_fresh _
    (Machine.reach_run _ _ _ _ _ .start met)).1,rfl,rfl⟩

/-- The buffer cannot be allocated, and the port is opened again. -/
private def secondTry : List UartCall := [.init ⟨false,none,none,none,true⟩,.init granted]

theorem uartHost_useable_bare :
    (¬ ∀ r : UartRun Unit, Machine.Reach (UartCall.serve (UartChip.asr582x.driver 3))
        (fun _ _ => True) attachedHost r → r.Sound) ∧
      ¬ ∀ r : UartRun Unit, Machine.Reach (UartCall.serve (UartChip.gr5xx.driver 3))
        (fun _ _ => True) attachedHost r → r.Sound := by
  constructor
  · intro sound
    have final := sound _ (Machine.reach_run _ _ _ secondTry _ .start ⟨trivial,trivial,trivial⟩)
    obtain ⟨⟨buffer,_⟩,_⟩ := final.useable _ rfl rfl
    contradiction
  · intro sound
    have final := sound _ (Machine.reach_run _ _ _ secondTry _ .start ⟨trivial,trivial,trivial⟩)
    obtain ⟨⟨buffer,_⟩,_⟩ := final.useable _ rfl rfl
    contradiction

end DriversAdapter.Platform
