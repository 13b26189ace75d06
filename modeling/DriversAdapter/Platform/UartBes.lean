import DriversAdapter.Base.Memory
import DriversAdapter.Base.Word
import DriversAdapter.Semantics.Interleaving
import DriversAdapter.Semantics.Ring

/-! The ports of the BES driver that receive by DMA: opening a port arms a receive, and the
interrupt that ends it moves the bytes into a software fifo and arms the next one. -/
namespace DriversAdapter.Platform.Bes
open DriversAdapter.Base DriversAdapter.Semantics DriversAdapter.Semantics.Program

inductive Soc
  | bes2700
  | bes2600

def Soc.maxUartId : Soc → UInt32
  | bes2700 => 1
  | bes2600 => 2

def uartFifoMaxBuffer : UInt32 := 2048
def uartDmaRingBufferSize : UInt32 := 256
def osalWaitForever : UInt32 := 0xFFFFFFFF

/-- The byte fifo of the chip's kit. Its indices run freely and wrap with their type; the
bytes between them are those put and not yet got. -/
structure Kfifo (F : Type) where
  cleared : F
  init : UInt32 → UInt32 → F
  put : F → Block → UInt32 × F
  get : F → UInt32 → Block × F
  buffer : F → Option UInt32
  size : F → UInt32
  inIndex : F → UInt32
  outIndex : F → UInt32
  init_buffer : ∀ addr len, buffer (init addr len) = some addr
  init_size : ∀ addr len, size (init addr len) = len
  init_index : ∀ addr len, inIndex (init addr len) = outIndex (init addr len)
  put_buffer : ∀ f data, buffer (put f data).2 = buffer f
  put_size : ∀ f data, size (put f data).2 = size f
  put_inIndex : ∀ f data, inIndex (put f data).2 = inIndex f + (put f data).1
  put_outIndex : ∀ f data, outIndex (put f data).2 = outIndex f
  put_len : ∀ f data, (inIndex f - outIndex f).toNat ≤ (size f).toNat → (put f data).1.toNat =
    min data.length ((size f).toNat - (inIndex f - outIndex f).toNat)
  get_buffer : ∀ f len, buffer (get f len).2 = buffer f
  get_size : ∀ f len, size (get f len).2 = size f
  get_inIndex : ∀ f len, inIndex (get f len).2 = inIndex f
  get_outIndex : ∀ f len, outIndex (get f len).2 =
    outIndex f + UInt32.ofNat (get f len).1.length
  get_len : ∀ f len, (inIndex f - outIndex f).toNat ≤ (size f).toNat → (get f len).1.length =
    min len.toNat (inIndex f - outIndex f).toNat

variable {F H ι : Type}

namespace Kfifo
variable (K : Kfifo F)

def used (f : F) : Nat := (K.inIndex f - K.outIndex f).toNat

/-- The fifo has its storage, and its indices are at most that far apart. -/
structure Consistent (addr : UInt32) (f : F) : Prop where
  buffer : K.buffer f = some addr
  size : K.size f = uartFifoMaxBuffer
  used : K.used f ≤ (K.size f).toNat

theorem consistent_init (addr : UInt32) : K.Consistent addr (K.init addr uartFifoMaxBuffer) := by
  refine ⟨K.init_buffer _ _,K.init_size _ _,?_⟩
  rw [used,K.init_index,UInt32.sub_self]
  exact Nat.zero_le _

theorem consistent_put (addr : UInt32) (f : F) (data : Block) (consistent : K.Consistent addr f) :
    K.Consistent addr (K.put f data).2 := by
  refine ⟨?_,?_,?_⟩
  · rw [K.put_buffer,consistent.buffer]
  · rw [K.put_size,consistent.size]
  · have fits := consistent.used
    have len := K.put_len f data fits
    have moved : K.inIndex f + (K.put f data).1 - K.outIndex f =
        (K.inIndex f - K.outIndex f) + (K.put f data).1 := by grind
    rw [used,K.put_inIndex,K.put_outIndex,K.put_size,moved,UInt32.toNat_add,len]
    refine (Nat.mod_le _ _).trans ?_
    unfold used at fits
    omega

theorem consistent_get (addr : UInt32) (f : F) (len : UInt32) (consistent : K.Consistent addr f) :
    K.Consistent addr (K.get f len).2 := by
  refine ⟨?_,?_,?_⟩
  · rw [K.get_buffer,consistent.buffer]
  · rw [K.get_size,consistent.size]
  · have fits := consistent.used
    have got := K.get_len f len fits
    have moved : K.inIndex f - (K.outIndex f + UInt32.ofNat (K.get f len).1.length) =
        (K.inIndex f - K.outIndex f) - UInt32.ofNat (K.get f len).1.length := by grind
    have within : UInt32.ofNat (K.get f len).1.length ≤ K.inIndex f - K.outIndex f := by
      have word := (K.inIndex f - K.outIndex f).toNat_lt
      rw [UInt32.le_iff_toNat_le,UInt32.toNat_ofNat',got]
      omega
    rw [used,K.get_outIndex,K.get_inIndex,K.get_size,moved,UInt32.toNat_sub_of_le _ _ within]
    exact (Nat.sub_le _ _).trans fits

/-- A put stores all its bytes exactly when they find room. -/
theorem put_whole (addr : UInt32) (f : F) (data : Block) (consistent : K.Consistent addr f) :
    (K.put f data).1.toNat = data.length ↔ K.used f + data.length ≤ 2048 := by
  have fits := consistent.used
  have len := K.put_len f data fits
  have size : (K.size f).toNat = 2048 := by
    rw [consistent.size]
    rfl
  rw [len,size]
  unfold used at *
  omega

end Kfifo

inductive FlowControl
  | none
  | rts
  | cts
  | rtscts

inductive FifoLevel
  | level1_8
  | level1_2
  | level7_8

structure UartCfg where
  parity : UInt32
  stop : UInt32
  data : UInt32
  flow : FlowControl
  txLevel : FifoLevel
  rxLevel : FifoLevel
  baud : UInt32
  dmaRx : Bool
  dmaTx : Bool
  dmaRxStopOnErr : Bool

structure UartDevice where
  num : UInt32
  config : UartCfg
  uartId : UInt32
  initFlag : Bool

/-- What every `Init` sets, also of a port that is open. -/
def UartDevice.setup (device : UartDevice) : UartDevice := {device with config := {device.config with
  flow := .none,txLevel := .level1_8,rxLevel := .level1_2,dmaRxStopOnErr := false}}

inductive DmaBuffer
  | halUartBuf
  | halUart1Buf
  | halUart2Buf
  deriving DecidableEq

inductive DmaRxHandler
  | uartDmaRxHandler
  | uart1DmaRxHandler
  | uart2DmaRxHandler

/-- `UART_CTX_OBJ`, where a semaphore is its count once it is initialised. -/
structure UartCtx (F : Type) where
  buffer : Option DmaBuffer
  txDMA : Bool
  rxDMA : Bool
  isBlock : Bool
  fifo : F
  rxSem : Option Nat
  txSem : Option Nat
  uartDmaRxHandler : Option DmaRxHandler

/-- What the chip's kit holds of a port. A receive is armed on a buffer for a number of bytes. -/
structure HalPort where
  opened : Option UartCfg
  rxHandler : Bool
  dmaHandler : Option DmaRxHandler
  armed : Option (DmaBuffer × UInt32)

/-- A port in the arrays of the driver, `g_uartCtx` and `g_uartKfifoBuffer`, and in the kit. -/
structure Port (F : Type) where
  ctx : UartCtx F
  kfifoBuffer : Option UInt32
  hal : HalPort

/-- The hosts with their devices, the ports and the receive buffers. -/
structure BesUart (H F : Type) where
  hosts : H → Option UartDevice
  ports : UInt32 → Port F
  buffers : DmaBuffer → Bytes

structure OpenOutcomes where
  osalMemAlloc : Option UInt32
  rxSemInit : Bool
  txSemInit : Bool

namespace Port
variable (soc : Soc) (K : Kfifo F)

def halUartOpen (cfg : UartCfg) (p : Port F) : Port F :=
  {p with hal := {p.hal with opened := some cfg}}

def halUartClose (p : Port F) : Port F := {p with hal := ⟨none,false,none,none⟩}

def halUartStartDmaRx (uartId : UInt32) (p : Port F) : Port F :=
  if soc.maxUartId < uartId then p
  else {p with hal := {p.hal with
    armed := p.ctx.buffer.map fun buffer => (buffer,uartDmaRingBufferSize)}}

def halUartStartRx (uartId : UInt32) (p : Port F) : Port F :=
  if soc.maxUartId < uartId then p else {p with hal := {p.hal with rxHandler := true}}

/-- The handler and the buffer of each port the chip has. -/
def parts (uartId : UInt32) : Option (DmaRxHandler × DmaBuffer) :=
  match soc, uartId with
  | _, 0 => some (.uartDmaRxHandler,.halUartBuf)
  | _, 1 => some (.uart1DmaRxHandler,.halUart1Buf)
  | .bes2600, 2 => some (.uart2DmaRxHandler,.halUart2Buf)
  | _, _ => none

def initUartCtxCfg (device : UartDevice) (p : Port F) : Bool × Port F :=
  if soc.maxUartId < device.uartId then (false,p)
  else (true,{p with ctx := {
    buffer := (parts soc device.uartId).map Prod.snd
    txDMA := device.config.dmaTx
    rxDMA := device.config.dmaRx
    isBlock := false
    fifo := K.cleared
    rxSem := none
    txSem := none
    uartDmaRxHandler := (parts soc device.uartId).map Prod.fst}})

def initKfifo (out : OpenOutcomes) (p : Port F) : Bool × Port F :=
  match p.kfifoBuffer with
  | some _ => (true,p)
  | none => match out.osalMemAlloc with
    | none => (false,p)
    | some addr => (true,{p with
        kfifoBuffer := some addr,ctx := {p.ctx with fifo := K.init addr uartFifoMaxBuffer}})

def initSems (out : OpenOutcomes) (p : Port F) : Bool × Port F :=
  if !out.rxSemInit then (false,p)
  else
    let p := {p with ctx := {p.ctx with rxSem := some 0}}
    if !out.txSemInit then (false,p)
    else (true,{p with ctx := {p.ctx with txSem := some 0}})

def startRx (uartId : UInt32) (p : Port F) : Port F :=
  if p.ctx.rxDMA then
    halUartStartDmaRx soc uartId {p with hal := {p.hal with dmaHandler := p.ctx.uartDmaRxHandler}}
  else halUartStartRx soc uartId p

def halUartHandlerInit (out : OpenOutcomes) (device : UartDevice) (p : Port F) : Port F :=
  if soc.maxUartId < device.uartId then p
  else match initUartCtxCfg soc K device p with
    | (false,p) => p
    | (true,p) => match initKfifo K out p with
      | (false,p) => p
      | (true,p) => match initSems out p with
        | (false,p) => p
        | (true,p) => startRx soc device.uartId p

def uartStart (out : OpenOutcomes) (device : UartDevice) (p : Port F) : Port F :=
  if soc.maxUartId < device.uartId then p
  else halUartHandlerInit soc K out device (p.halUartOpen device.config)

def boot : Port F := ⟨⟨none,false,false,false,K.cleared,none,none,none⟩,none,⟨none,false,none,none⟩⟩

end Port

def storeBytes (data : Block) (buffer : Bytes) : Bytes := fun i => data.getD i (buffer i)

namespace BesUart
variable [DecidableEq H] (soc : Soc) (K : Kfifo F)

def setHost (host : H) (device : UartDevice) (s : BesUart H F) : BesUart H F :=
  {s with hosts := Function.update s.hosts host (some device)}

def setPort (uartId : UInt32) (p : Port F) (s : BesUart H F) : BesUart H F :=
  {s with ports := Function.update s.ports uartId p}

def initUartDevice (out : OpenOutcomes) (host : H) (s : BesUart H F) : Int × BesUart H F :=
  match s.hosts host with
  | none => (hdfErrInvalidParam,s)
  | some device =>
    if soc.maxUartId < device.num then (hdfErrNotSupport,s)
    else
      let device := device.setup
      if device.initFlag then (hdfSuccess,s.setHost host device)
      else (hdfSuccess,(s.setPort device.uartId
        (Port.uartStart soc K out device (s.ports device.uartId))).setHost host
          {device with initFlag := true})

def uartHostDevDeinit (host : H) (s : BesUart H F) : Int × BesUart H F :=
  match s.hosts host with
  | none => (hdfErrInvalidParam,s)
  | some device => (hdfSuccess,(s.setHost host {device with initFlag := false}).setPort
      device.uartId (s.ports device.uartId).halUartClose)

def dmaRxHandler (uartId : UInt32) (xferSize : Nat) (s : BesUart H F) : Option (BesUart H F) :=
  let p := s.ports uartId
  p.ctx.buffer.map fun buffer =>
    let put := K.put p.ctx.fifo (chunk (s.buffers buffer) 0 xferSize)
    let p := {p with ctx := {p.ctx with fifo := put.2}}
    if put.1.toNat < xferSize then s.setPort uartId p
    else
      let p := {p with ctx := {p.ctx with rxSem := p.ctx.rxSem.map (· + 1)}}
      {s with buffers := Function.update s.buffers buffer fun _ => 0}.setPort uartId
        (p.halUartStartDmaRx soc uartId)

def uartDmaRxHandler : Nat → BesUart H F → Option (BesUart H F) := dmaRxHandler soc K 0
def uart1DmaRxHandler : Nat → BesUart H F → Option (BesUart H F) := dmaRxHandler soc K 1
def uart2DmaRxHandler : Nat → BesUart H F → Option (BesUart H F) := dmaRxHandler soc K 2

def serveDma : DmaRxHandler → Nat → BesUart H F → Option (BesUart H F)
  | .uartDmaRxHandler => uartDmaRxHandler soc K
  | .uart1DmaRxHandler => uart1DmaRxHandler soc K
  | .uart2DmaRxHandler => uart2DmaRxHandler soc K

/-- The armed receive of a port ends with these bytes, and its handler is called. -/
def dmaRx (uartId : UInt32) (data : Block) (s : BesUart H F) : Option (BesUart H F) :=
  let p := s.ports uartId
  match p.hal.armed, p.hal.dmaHandler with
  | some (buffer,room), some handler =>
    if room.toNat < data.length then none
    else serveDma soc K handler data.length ({s with
      buffers := Function.update s.buffers buffer (storeBytes data (s.buffers buffer))}.setPort
        uartId {p with hal := {p.hal with armed := none}})
  | _, _ => none

end BesUart

inductive Caller (ι : Type)
  | task (i : ι)
  | interrupt
  deriving DecidableEq

inductive BesOp (H : Type)
  | init (host : H) (out : OpenOutcomes)
  | deinit (host : H)
  | dmaRx (uartId : UInt32) (data : Block)
  -- the steps of a read
  | uartId (host : H)
  | rxDMA (uartId : UInt32)
  | getc (uartId : UInt32)
  | timer
  | kfifoGet (uartId len : UInt32)
  | semWait (uartId : UInt32)

abbrev BesOp.Res : BesOp H → Type
  | init _ _ | deinit _ => Int
  | dmaRx _ _ | semWait _ => Unit
  | uartId _ => Option UInt32
  | rxDMA _ => Bool
  | getc _ | kfifoGet _ _ => Block
  | timer => UInt32

inductive BesRequest (H : Type)
  | init (host : H) (out : OpenOutcomes)
  | deinit (host : H)
  | read (host : H) (size : UInt32)
  | dmaRx (uartId : UInt32) (data : Block)

inductive RecvLabel
  | entry
  | turn (uartId beginTime : UInt32) (recv : Block)

structure BesReply where
  ret : Int
  data : Block

variable (soc : Soc)

/-- The code of a call. A read turns until it has all its bytes or finds none at its start. -/
def BesRequest.body :
    BesRequest H → RecvLabel → Program (BesOp H) BesOp.Res (RecvLabel ⊕ BesReply)
  | init host out, _ => .perform (.init host out) fun ret => .done (.inr ⟨ret,[]⟩)
  | deinit host, _ => .perform (.deinit host) fun ret => .done (.inr ⟨ret,[]⟩)
  | dmaRx uartId data, _ => .perform (.dmaRx uartId data) fun _ => .done (.inr ⟨hdfSuccess,[]⟩)
  | read host size, .entry => .perform (.uartId host) fun attached => match attached with
    | none => .done (.inr ⟨hdfErrInvalidParam,[]⟩)
    | some uartId => .perform (.rxDMA uartId) fun rxDMA =>
      if rxDMA then
        if size = 0 then .done (.inr ⟨hdfErrInvalidParam,[]⟩)
        else if soc.maxUartId < uartId then .done (.inr ⟨hdfErrNotSupport,[]⟩)
        else .perform .timer fun beginTime => .done (.inl (.turn uartId beginTime []))
      else .perform (.getc uartId) fun data => .done (.inr ⟨1,data⟩)
  | read _ size, .turn uartId beginTime recv =>
    .perform (.kfifoGet uartId (size - UInt32.ofNat recv.length)) fun popped =>
      let recv := recv ++ popped
      if size.toNat ≤ recv.length ∨ recv = [] then
        .done (.inr ⟨(UInt32.ofNat recv.length).toInt32.toInt,recv⟩)
      else .perform (.semWait uartId) fun _ => .perform .timer fun nowTime =>
        if osalWaitForever ≤ nowTime - beginTime then
          .done (.inr ⟨(UInt32.ofNat recv.length).toInt32.toInt,recv⟩)
        else .done (.inl (.turn uartId beginTime recv))

/-- What the timer and the line say to a step of a read. -/
structure Line where
  ticks : UInt32
  byte : Option UInt8

namespace BesUart
variable [DecidableEq H] (K : Kfifo F)

def exec (op : BesOp H) (line : Line) (s : BesUart H F) : Option (op.Res × BesUart H F) :=
  match op with
  | .init host out => some (s.initUartDevice soc K out host)
  | .deinit host => some (s.uartHostDevDeinit host)
  | .dmaRx uartId data => (s.dmaRx soc K uartId data).map fun s => ((),s)
  | .uartId host => some ((s.hosts host).map UartDevice.uartId,s)
  | .rxDMA uartId => if soc.maxUartId < uartId then none else some ((s.ports uartId).ctx.rxDMA,s)
  | .getc uartId => match (s.ports uartId).ctx.isBlock, line.byte with
    | true, none => none
    | _, byte => some (byte.toList,s)
  | .timer => some (line.ticks,s)
  | .kfifoGet uartId len =>
    let p := s.ports uartId
    let got := K.get p.ctx.fifo len
    some (got.1,s.setPort uartId {p with ctx := {p.ctx with fifo := got.2}})
  | .semWait uartId =>
    let p := s.ports uartId
    match p.ctx.rxSem with
    | none => some ((),s)
    | some 0 => none
    | some (n + 1) => some ((),s.setPort uartId {p with ctx := {p.ctx with rxSem := some n}})

/-- An opening for DMA finds the fifo without storage and gets all it asks for, and an
interrupt finds room in the fifo. -/
def Fits (op : BesOp H) (s : BesUart H F) : Prop :=
  match op with
  | .init host out => ∀ device, s.hosts host = some device → device.num ≤ soc.maxUartId →
      device.initFlag = false → device.config.dmaRx = true →
      (s.ports device.uartId).kfifoBuffer = none ∧ out.osalMemAlloc.isSome = true ∧
        out.rxSemInit = true ∧ out.txSemInit = true
  | .dmaRx uartId data => K.used (s.ports uartId).ctx.fifo + data.length ≤ 2048
  | _ => True

end BesUart

def besUart [DecidableEq H] (K : Kfifo F) (condition : BesOp H → BesUart H F → Prop) :
    System (Caller ι) (BesOp H) BesOp.Res (BesRequest H) RecvLabel BesReply Line (BesUart H F) where
  exec _ op line s := s.exec soc K op line
  entry _ := .entry
  body := BesRequest.body soc
  allowed caller request := match caller, request with
    | .interrupt, .dmaRx _ _ => True
    | .task _, .dmaRx _ _ => False
    | .task _, _ => True
    | .interrupt, _ => False
  permitted _ op s := condition op s

/-- Every host has a port of its own, as its configuration numbers it, and none is open. -/
structure Attached (hosts : H → Option UartDevice) : Prop where
  numbered : ∀ host device, hosts host = some device → device.uartId = device.num
  apart : ∀ host other device device', hosts host = some device → hosts other = some device' →
    device.uartId = device'.uartId → host = other
  closed : ∀ host device, hosts host = some device → device.initFlag = false

def BesUart.start (K : Kfifo F) (hosts : H → Option UartDevice) : BesUart H F :=
  ⟨hosts,fun _ => Port.boot K,fun _ _ => 0⟩

/-- The receive that a port in DMA mode must have armed, and its fifo. -/
structure Port.Armed (K : Kfifo F) (uartId : UInt32) (p : Port F) : Prop where
  receive : ∃ part, parts soc uartId = some part ∧ p.hal.armed = some (part.2,256)
  fifo : ∃ addr, p.kfifoBuffer = some addr ∧ K.Consistent addr p.ctx.fifo

namespace Port

/-- Every receive that ends is served by the handler of its own port. -/
def Own (uartId : UInt32) (p : Port F) : Prop :=
  ∀ handler, p.hal.dmaHandler = some handler → (parts soc uartId).map Prod.fst = some handler

/-- The port can arm the next receive as well. -/
structure Serving (K : Kfifo F) (uartId : UInt32) (p : Port F) : Prop extends Armed soc K uartId p where
  inRange : uartId ≤ soc.maxUartId
  buffer : p.ctx.buffer = (parts soc uartId).map Prod.snd

variable {soc : Soc} {K : Kfifo F} {uartId : UInt32} {p : Port F}

theorem parts_inRange (inRange : uartId ≤ soc.maxUartId) : ∃ part, parts soc uartId = some part := by
  have small : uartId = 0 ∨ uartId = 1 ∨ (soc.maxUartId = 2 ∧ uartId = 2) := by
    cases soc <;> simp only [Soc.maxUartId] at * <;> grind
  rcases small with rfl | rfl | ⟨two,rfl⟩
  · cases soc <;> exact ⟨_,rfl⟩
  · cases soc <;> exact ⟨_,rfl⟩
  · cases soc with
    | bes2700 => cases two
    | bes2600 => exact ⟨_,rfl⟩

theorem startRx_serving (inRange : uartId ≤ soc.maxUartId)
    (buffer : p.ctx.buffer = (parts soc uartId).map Prod.snd)
    (fifo : ∃ addr, p.kfifoBuffer = some addr ∧ K.Consistent addr p.ctx.fifo)
    (rxDMA : p.ctx.rxDMA = true) : (startRx soc uartId p).Serving soc K uartId := by
  obtain ⟨part,found⟩ := parts_inRange inRange
  have notAbove : ¬ soc.maxUartId < uartId := UInt32.not_lt.mpr inRange
  simp only [startRx,rxDMA,if_true,halUartStartDmaRx,notAbove,if_false]
  refine ⟨⟨⟨part,found,?_⟩,fifo⟩,inRange,buffer⟩
  simp [buffer,found]
  rfl

theorem startRx_own (handler : p.ctx.uartDmaRxHandler = (parts soc uartId).map Prod.fst)
    (own : p.Own soc uartId) : (startRx soc uartId p).Own soc uartId := by
  unfold startRx halUartStartDmaRx halUartStartRx
  split
  · intro found here
    rw [← handler]
    split at here <;> exact here
  · split <;> exact own

theorem initSems_kept (out : OpenOutcomes) (p : Port F) :
    (initSems out p).2.hal = p.hal ∧ (initSems out p).2.kfifoBuffer = p.kfifoBuffer ∧
      (initSems out p).2.ctx.fifo = p.ctx.fifo ∧ (initSems out p).2.ctx.rxDMA = p.ctx.rxDMA ∧
      (initSems out p).2.ctx.buffer = p.ctx.buffer ∧
      (initSems out p).2.ctx.uartDmaRxHandler = p.ctx.uartDmaRxHandler := by
  unfold initSems
  split
  · simp
  · dsimp only
    split <;> simp

theorem initKfifo_kept (K : Kfifo F) (out : OpenOutcomes) (p : Port F) :
    (initKfifo K out p).2.hal = p.hal ∧ (initKfifo K out p).2.ctx.rxDMA = p.ctx.rxDMA ∧
      (initKfifo K out p).2.ctx.buffer = p.ctx.buffer ∧
      (initKfifo K out p).2.ctx.uartDmaRxHandler = p.ctx.uartDmaRxHandler := by
  unfold initKfifo
  split
  · simp
  · split <;> simp

theorem initKfifo_consistent (out : OpenOutcomes) (absent : p.kfifoBuffer = none)
    (alloc : out.osalMemAlloc.isSome = true) : (initKfifo K out p).1 = true ∧
      ∃ addr, (initKfifo K out p).2.kfifoBuffer = some addr ∧
        K.Consistent addr (initKfifo K out p).2.ctx.fifo := by
  obtain ⟨addr,allocated⟩ := Option.isSome_iff_exists.mp alloc
  have initialised : initKfifo K out p = (true,{p with
      kfifoBuffer := some addr,ctx := {p.ctx with fifo := K.init addr uartFifoMaxBuffer}}) := by
    simp [initKfifo,absent,allocated]
  rw [initialised]
  exact ⟨rfl,addr,rfl,K.consistent_init addr⟩

def configured (soc : Soc) (K : Kfifo F) (device : UartDevice) (p : Port F) : Port F :=
  (initUartCtxCfg soc K device (p.halUartOpen device.config)).2

section Start
variable (out : OpenOutcomes) (device : UartDevice) (p : Port F)

theorem uartStart_eq (inRange : ¬ soc.maxUartId < device.uartId) :
    uartStart soc K out device p = match initKfifo K out (configured soc K device p) with
      | (false,p) => p
      | (true,p) => match initSems out p with
        | (false,p) => p
        | (true,p) => startRx soc device.uartId p := by
  simp only [uartStart,halUartHandlerInit,configured,initUartCtxCfg,inRange,if_false]

theorem configured_ctx (inRange : ¬ soc.maxUartId < device.uartId) :
    (configured soc K device p).ctx.rxDMA = device.config.dmaRx ∧
      (configured soc K device p).ctx.buffer = (parts soc device.uartId).map Prod.snd ∧
      (configured soc K device p).ctx.uartDmaRxHandler = (parts soc device.uartId).map Prod.fst := by
  simp [configured,initUartCtxCfg,inRange]

theorem configured_hal (inRange : ¬ soc.maxUartId < device.uartId) :
    (configured soc K device p).hal.dmaHandler = p.hal.dmaHandler ∧
      (configured soc K device p).kfifoBuffer = p.kfifoBuffer := by
  simp [configured,initUartCtxCfg,inRange,halUartOpen]

theorem startRx_rxDMA (uartId : UInt32) : (startRx soc uartId p).ctx.rxDMA = p.ctx.rxDMA := by
  unfold startRx halUartStartDmaRx halUartStartRx
  split <;> split <;> rfl

theorem uartStart_rxDMA (inRange : ¬ soc.maxUartId < device.uartId) :
    (uartStart soc K out device p).ctx.rxDMA = device.config.dmaRx := by
  obtain ⟨config,_,_⟩ := configured_ctx (K := K) device p inRange
  obtain ⟨_,stored,_,_⟩ := initKfifo_kept K out (configured soc K device p)
  rw [uartStart_eq out device p inRange]
  cases filled : initKfifo K out (configured soc K device p) with
  | mk ok q =>
    rw [filled] at stored
    cases ok with
    | false => exact stored.trans config
    | true =>
      obtain ⟨_,_,_,same,_,_⟩ := initSems_kept out q
      dsimp only
      cases posted : initSems out q with
      | mk ok u =>
        rw [posted] at same
        cases ok with
        | false => exact same.trans (stored.trans config)
        | true => exact (startRx_rxDMA u _).trans (same.trans (stored.trans config))

theorem uartStart_own (own : p.Own soc device.uartId) :
    (uartStart soc K out device p).Own soc device.uartId := by
  by_cases inRange : soc.maxUartId < device.uartId
  · simpa [uartStart,inRange] using own
  · obtain ⟨_,_,config⟩ := configured_ctx (K := K) device p inRange
    obtain ⟨hal,_⟩ := configured_hal (K := K) device p inRange
    obtain ⟨kept,_,_,stored⟩ := initKfifo_kept K out (configured soc K device p)
    rw [uartStart_eq out device p inRange]
    cases filled : initKfifo K out (configured soc K device p) with
    | mk ok q =>
      rw [filled] at stored kept
      have ownQ : q.Own soc device.uartId := by
        intro handler here
        rw [kept,hal] at here
        exact own handler here
      cases ok with
      | false => exact ownQ
      | true =>
        obtain ⟨kept',_,_,_,_,same⟩ := initSems_kept out q
        dsimp only
        cases posted : initSems out q with
        | mk ok u =>
          rw [posted] at same kept'
          have ownU : u.Own soc device.uartId := by
            intro handler here
            rw [kept'] at here
            exact ownQ handler here
          cases ok with
          | false => exact ownU
          | true => exact startRx_own (same.trans (stored.trans config)) ownU

/-- An opening that finds no storage and gets all it asks for. -/
theorem uartStart_serving (inRange : device.uartId ≤ soc.maxUartId)
    (dmaRx : device.config.dmaRx = true) (absent : p.kfifoBuffer = none)
    (alloc : out.osalMemAlloc.isSome = true) (rxSem : out.rxSemInit = true)
    (txSem : out.txSemInit = true) :
    (uartStart soc K out device p).Serving soc K device.uartId := by
  have notAbove : ¬ soc.maxUartId < device.uartId := UInt32.not_lt.mpr inRange
  obtain ⟨rxDMA,buffer,_⟩ := configured_ctx (K := K) device p notAbove
  obtain ⟨_,storage⟩ := configured_hal (K := K) device p notAbove
  obtain ⟨_,rxDMA',buffer',_⟩ := initKfifo_kept K out (configured soc K device p)
  obtain ⟨ok,consistent⟩ := initKfifo_consistent (K := K) out (storage.trans absent) alloc
  rw [uartStart_eq out device p notAbove]
  cases filled : initKfifo K out (configured soc K device p) with
  | mk done q =>
    rw [filled] at rxDMA' buffer' ok consistent
    obtain rfl : done = true := ok
    obtain ⟨_,kfifoBuffer,fifo,rxDMA'',buffer'',_⟩ := initSems_kept out q
    dsimp only
    cases posted : initSems out q with
    | mk done u =>
      have both : (initSems out q).1 = true := by
        simp [initSems,rxSem,txSem]
      rw [posted] at kfifoBuffer fifo rxDMA'' buffer'' both
      obtain rfl : done = true := both
      apply startRx_serving inRange
      · exact buffer''.trans (buffer'.trans buffer)
      · rw [kfifoBuffer,fifo]
        exact consistent
      · exact rxDMA''.trans (rxDMA'.trans (rxDMA.trans dmaRx))

end Start

def afterReceive (soc : Soc) (K : Kfifo F) (uartId : UInt32) (data : Block) (p : Port F) : Port F :=
  let put := K.put p.ctx.fifo data
  let p := {p with ctx := {p.ctx with fifo := put.2},hal := {p.hal with armed := none}}
  if put.1.toNat < data.length then p
  else halUartStartDmaRx soc uartId
    {p with ctx := {p.ctx with rxSem := p.ctx.rxSem.map (· + 1)}}

section Receive
variable (data : Block)

theorem afterReceive_own (own : p.Own soc uartId) :
    (p.afterReceive soc K uartId data).Own soc uartId := by
  unfold afterReceive halUartStartDmaRx
  dsimp only
  split
  · exact own
  · split <;> exact own

theorem afterReceive_rxDMA : (p.afterReceive soc K uartId data).ctx.rxDMA = p.ctx.rxDMA := by
  unfold afterReceive halUartStartDmaRx
  dsimp only
  split
  · rfl
  · split <;> rfl

/-- Where the bytes find room the next receive is armed. -/
theorem afterReceive_serving (serving : p.Serving soc K uartId)
    (room : K.used p.ctx.fifo + data.length ≤ 2048) :
    (p.afterReceive soc K uartId data).Serving soc K uartId := by
  obtain ⟨addr,storage,consistent⟩ := serving.fifo
  obtain ⟨part,found,_⟩ := serving.receive
  have whole := (K.put_whole addr p.ctx.fifo data consistent).mpr room
  have notAbove : ¬ soc.maxUartId < uartId := UInt32.not_lt.mpr serving.inRange
  have after := K.consistent_put addr p.ctx.fifo data consistent
  simp only [afterReceive,whole,Nat.lt_irrefl,if_false,halUartStartDmaRx,notAbove]
  refine ⟨⟨⟨part,found,?_⟩,⟨addr,storage,after⟩⟩,serving.inRange,serving.buffer⟩
  simp [serving.buffer,found]
  rfl

end Receive

end Port

namespace BesUart
variable {soc : Soc} {K : Kfifo F} {s t : BesUart H F}

theorem serveDma_parts (uartId : UInt32) (handler : DmaRxHandler)
    (own : (Port.parts soc uartId).map Prod.fst = some handler) :
    serveDma (H := H) soc K handler = dmaRxHandler soc K uartId := by
  unfold Port.parts at own
  split at own <;> cases own <;> rfl

theorem dmaRx_port (uartId : UInt32) (data : Block) (own : (s.ports uartId).Own soc uartId)
    (served : s.dmaRx soc K uartId data = some t) :
    ∃ stored : Block, stored.length = data.length ∧ t.hosts = s.hosts ∧
      t.ports = Function.update s.ports uartId ((s.ports uartId).afterReceive soc K uartId stored) := by
  unfold dmaRx at served
  dsimp only at served
  split at served
  next buffer room handler armed registered =>
    split at served
    · contradiction
    · rw [serveDma_parts uartId handler (own handler registered)] at served
      obtain ⟨dst,_,rfl⟩ := Option.map_eq_some_iff.mp served
      refine ⟨chunk (Function.update s.buffers buffer (storeBytes data (s.buffers buffer)) dst) 0
        data.length,chunk_length _ _ _,?_,?_⟩
      · dsimp only
        split <;> rfl
      · simp only [setPort,Function.update_self,Port.afterReceive,chunk_length]
        split <;> simp
  next => contradiction

/-- Hosts keep their own ports, and a port open for DMA serves. -/
structure Kept (soc : Soc) (K : Kfifo F) (s : BesUart H F) : Prop where
  numbered : ∀ host device, s.hosts host = some device → device.uartId = device.num
  apart : ∀ host other device device', s.hosts host = some device → s.hosts other = some device' →
    device.uartId = device'.uartId → host = other
  own : ∀ uartId, (s.ports uartId).Own soc uartId
  serving : ∀ host device, s.hosts host = some device → device.initFlag = true →
    (s.ports device.uartId).ctx.rxDMA = true →
      (s.ports device.uartId).Serving soc K device.uartId

section Kept
variable (kept : s.Kept soc K)

include kept in
theorem kept_port (uartId : UInt32) (p : Port F) (t : BesUart H F) (hosts : t.hosts = s.hosts)
    (ports : t.ports = Function.update s.ports uartId p) (own : p.Own soc uartId)
    (rxDMA : p.ctx.rxDMA = (s.ports uartId).ctx.rxDMA)
    (serving : (s.ports uartId).Serving soc K uartId → p.Serving soc K uartId) : t.Kept soc K := by
  refine ⟨hosts ▸ kept.numbered,hosts ▸ kept.apart,?_,?_⟩
  · intro other
    rw [ports,Function.update_apply]
    split
    next same => exact same ▸ own
    next => exact kept.own other
  · intro host device attached open_ mode
    rw [hosts] at attached
    rw [ports,Function.update_apply] at mode ⊢
    have before := kept.serving host device attached open_
    split at mode
    next same =>
      subst same
      rw [if_pos rfl]
      exact serving (before (rxDMA ▸ mode))
    next other =>
      rw [if_neg other]
      exact before mode

variable [DecidableEq H]

include kept in
theorem kept_host (host : H) (device device' : UartDevice) (p : Port F)
    (attached : s.hosts host = some device) (num : device'.num = device.num)
    (uartId : device'.uartId = device.uartId) (own : p.Own soc device.uartId)
    (serving : device'.initFlag = true → p.ctx.rxDMA = true → p.Serving soc K device.uartId) :
    ((s.setPort device.uartId p).setHost host device').Kept soc K := by
  have fromHosts : ∀ other device'', Function.update s.hosts host (some device') other =
      some device'' → ∃ before, s.hosts other = some before ∧ device''.uartId = before.uartId ∧
        device''.num = before.num := by
    intro other device'' here
    rw [Function.update_apply] at here
    split at here
    next same =>
      cases here
      exact ⟨device,same ▸ attached,uartId,num⟩
    next => exact ⟨device'',here,rfl,rfl⟩
  refine ⟨?_,?_,?_,?_⟩
  · intro other device'' here
    obtain ⟨before,was,id,number⟩ := fromHosts other device'' here
    rw [id,number,kept.numbered other before was]
  · intro first second d d' here there same
    obtain ⟨before,was,id,_⟩ := fromHosts first d here
    obtain ⟨before',was',id',_⟩ := fromHosts second d' there
    exact kept.apart first second before before' was was' (by rw [← id,← id',same])
  · intro other
    simp only [setHost,setPort,Function.update_apply]
    split
    next same => exact same ▸ own
    next => exact kept.own other
  · intro other device'' here open_ mode
    simp only [setHost,setPort,Function.update_apply] at here mode ⊢
    by_cases same : other = host
    · subst same
      rw [if_pos rfl] at here
      obtain rfl := Option.some.inj here
      rw [uartId,if_pos rfl] at mode
      rw [uartId,if_pos rfl]
      exact serving open_ mode
    · rw [if_neg same] at here
      have elsewhere : device''.uartId ≠ device.uartId := fun shared =>
        same (kept.apart other host device'' device here attached shared)
      rw [if_neg elsewhere] at mode ⊢
      exact kept.serving other device'' here open_ mode

include kept in
theorem kept_init (host : H) (out : OpenOutcomes) (fits : Fits soc K (.init host out) s) :
    (s.initUartDevice soc K out host).2.Kept soc K := by
  unfold initUartDevice
  cases attached : s.hosts host with
  | none => exact kept
  | some device =>
    dsimp only
    split
    · exact kept
    next inRange =>
      have numbered := kept.numbered host device attached
      split
      next opened =>
        have unchanged := kept_host kept host device device.setup (s.ports device.uartId)
          attached rfl rfl (kept.own _)
          (kept.serving host device attached)
        rwa [setPort,Function.update_eq_self] at unchanged
      next closed =>
        have within : device.uartId ≤ soc.maxUartId := numbered ▸ UInt32.not_lt.mp inRange
        apply kept_host kept host device {device.setup with initFlag := true} _ attached rfl rfl
        · exact Port.uartStart_own out device.setup _ (kept.own device.uartId)
        · intro _ mode
          have dmaRx := (Port.uartStart_rxDMA out device.setup _ (UInt32.not_lt.mpr within)).symm.trans mode
          obtain ⟨absent,alloc,rxSem,txSem⟩ := fits device attached (numbered ▸ within)
            (Bool.eq_false_iff.mpr closed) dmaRx
          exact Port.uartStart_serving out device.setup _ within dmaRx absent alloc rxSem txSem

include kept in
theorem kept_deinit (host : H) : (s.uartHostDevDeinit host).2.Kept soc K := by
  unfold uartHostDevDeinit
  cases attached : s.hosts host with
  | none => exact kept
  | some device =>
    apply kept_host kept host device {device with initFlag := false} _ attached rfl rfl
    · intro handler registered
      cases registered
    · intro open_
      cases open_

include kept in
theorem kept_exec (op : BesOp H) (line : Line) (r : op.Res) (fits : Fits soc K op s)
    (served : s.exec soc K op line = some (r,t)) : t.Kept soc K := by
  cases op with
  | init host out =>
    obtain rfl := (Prod.mk.inj (Option.some.inj served)).2
    exact kept_init kept host out fits
  | deinit host =>
    obtain rfl := (Prod.mk.inj (Option.some.inj served)).2
    exact kept_deinit kept host
  | dmaRx uartId data =>
    obtain ⟨after,received,same⟩ := Option.map_eq_some_iff.mp served
    obtain rfl := (Prod.mk.inj same).2
    obtain ⟨stored,len,hosts,ports⟩ := dmaRx_port uartId data (kept.own uartId) received
    apply kept_port kept uartId _ after hosts ports
    · exact Port.afterReceive_own stored (kept.own uartId)
    · exact Port.afterReceive_rxDMA stored
    · intro serving
      exact Port.afterReceive_serving stored serving (len ▸ fits)
  | uartId host => exact (Prod.mk.inj (Option.some.inj served)).2 ▸ kept
  | rxDMA uartId =>
    simp only [exec] at served
    split at served
    · contradiction
    · exact (Prod.mk.inj (Option.some.inj served)).2 ▸ kept
  | getc uartId =>
    simp only [exec] at served
    split at served
    · contradiction
    · exact (Prod.mk.inj (Option.some.inj served)).2 ▸ kept
  | timer => exact (Prod.mk.inj (Option.some.inj served)).2 ▸ kept
  | kfifoGet uartId len =>
    obtain rfl := (Prod.mk.inj (Option.some.inj served)).2
    apply kept_port kept uartId _ (s.setPort uartId _) rfl rfl
    · exact kept.own uartId
    · rfl
    · intro serving
      obtain ⟨addr,storage,consistent⟩ := serving.fifo
      exact ⟨⟨serving.receive,addr,storage,K.consistent_get addr _ len consistent⟩,
        serving.inRange,serving.buffer⟩
  | semWait uartId =>
    simp only [exec] at served
    split at served
    · exact (Prod.mk.inj (Option.some.inj served)).2 ▸ kept
    · contradiction
    · obtain rfl := (Prod.mk.inj (Option.some.inj served)).2
      apply kept_port kept uartId _ (s.setPort uartId _) rfl rfl
      · exact kept.own uartId
      · rfl
      · exact fun serving => ⟨⟨serving.receive,serving.fifo⟩,serving.inRange,serving.buffer⟩

end Kept

theorem kept_start (hosts : H → Option UartDevice) (attached : Attached hosts) :
    (start K hosts).Kept soc K := by
  refine ⟨attached.numbered,attached.apart,?_,?_⟩
  · intro uartId handler registered
    cases registered
  · intro host device here open_
    rw [attached.closed host device here] at open_
    contradiction

end BesUart

/-- While a port is open for DMA a receive is armed on its buffer, and its fifo has its
storage and consistent indices. -/
theorem besUart_armed [DecidableEq ι] [DecidableEq H] (K : Kfifo F)
    (hosts : H → Option UartDevice) (attached : Attached hosts)
    (cfg : Config (Caller ι) (BesOp H) BesOp.Res (BesRequest H) RecvLabel BesReply (BesUart H F))
    (reached : (besUart soc K (BesUart.Fits soc K)).Reachable (BesUart.start K hosts) cfg)
    (host : H) (device : UartDevice) (here : cfg.shared.hosts host = some device)
    (opened : device.initFlag = true)
    (mode : (cfg.shared.ports device.uartId).ctx.rxDMA = true) :
    (cfg.shared.ports device.uartId).Armed soc K device.uartId := by
  have kept : cfg.shared.Kept soc K := by
    apply System.reachable_invariant _ (BesUart.Kept soc K) _ (BesUart.kept_start hosts attached) _
      cfg reached
    rintro _ op s r t before ⟨fits,line,served⟩
    exact BesUart.kept_exec before op line r fits served
  exact (kept.serving host device here opened mode).toArmed

/-- A fifo as the kit has it, with the bytes of its storage. -/
private structure RingFifo where
  buffer : Option UInt32
  size : UInt32
  inIndex : UInt32
  outIndex : UInt32
  bytes : Bytes

private def RingFifo.putLen (f : RingFifo) (data : Block) : Nat :=
  min data.length (f.size - (f.inIndex - f.outIndex)).toNat

private def RingFifo.getLen (f : RingFifo) (len : UInt32) : Nat :=
  min len.toNat (f.inIndex - f.outIndex).toNat

private theorem putLen_fits (f : RingFifo) (data : Block) : f.putLen data < UInt32.size :=
  (Nat.min_le_right _ _).trans_lt (UInt32.toNat_lt _)

private def ringKfifo : Kfifo RingFifo where
  cleared := ⟨none,0,0,0,fun _ => 0⟩
  init addr len := ⟨some addr,len,0,0,fun _ => 0⟩
  put f data := (UInt32.ofNat (f.putLen data),{f with
    inIndex := f.inIndex + UInt32.ofNat (f.putLen data)
    bytes := fun i =>
      let k := Ring.ahead f.size.toNat (f.inIndex % f.size).toNat i
      if k < f.putLen data then data.getD k 0 else f.bytes i})
  get f len := (Ring.window f.size.toNat f.bytes f.outIndex.toNat (f.getLen len),
    {f with outIndex := f.outIndex + UInt32.ofNat (f.getLen len)})
  buffer := RingFifo.buffer
  size := RingFifo.size
  inIndex := RingFifo.inIndex
  outIndex := RingFifo.outIndex
  init_buffer _ _ := rfl
  init_size _ _ := rfl
  init_index _ _ := rfl
  put_buffer _ _ := rfl
  put_size _ _ := rfl
  put_inIndex _ _ := rfl
  put_outIndex _ _ := rfl
  put_len f data fits := by
    rw [UInt32.toNat_ofNat_of_lt' (putLen_fits f data),RingFifo.putLen,
      UInt32.toNat_sub_of_le _ _ (UInt32.le_iff_toNat_le.mpr fits)]
  get_buffer _ _ := rfl
  get_size _ _ := rfl
  get_inIndex _ _ := rfl
  get_outIndex f len := by
    rw [Ring.window_length]
  get_len f len _ := by
    rw [Ring.window_length,RingFifo.getLen]

private def port0 : UartDevice :=
  ⟨0,⟨0,1,3,.none,.level1_8,.level1_2,115200,true,false,false⟩,0,false⟩

private def alone : Unit → Option UartDevice := fun _ => some port0

private theorem alone_attached : Attached alone := by
  refine ⟨?_,fun _ _ _ _ _ _ _ => rfl,?_⟩
  · rintro _ _ ⟨⟩
    rfl
  · rintro _ _ ⟨⟩
    rfl

private def quiet : Line := ⟨0,none⟩

private def besOpening : BesRequest Unit := .init () ⟨some 4096,true,true⟩

private def exchange : List (Caller Unit × Move (BesRequest Unit) Line) :=
  (.task (),.invoke besOpening) :: List.replicate 2 (.task (),.act quiet) ++
    (.interrupt,.invoke (.dmaRx 0 [65,66])) :: List.replicate 2 (.interrupt,.act quiet) ++
    (.task (),.invoke (.read () 2)) :: List.replicate 6 (.task (),.act quiet)

theorem besUart_armed_exchange :
    ∃ cfg, (besUart .bes2700 ringKfifo (BesUart.Fits .bes2700 ringKfifo)).schedule exchange
        (.start (BesUart.start ringKfifo alone)) = some cfg ∧
      ((cfg.session (.task ())).past.map fun call => call.2.data) = [[],[65,66]] ∧
      (cfg.shared.ports 0).Armed .bes2700 ringKfifo 0 := by
  have served := fun cfg admitted ran => besUart_armed .bes2700 ringKfifo alone alone_attached cfg
    (System.schedule_reachable (besUart .bes2700 ringKfifo (BesUart.Fits .bes2700 ringKfifo))
      (BesUart.start ringKfifo alone) exchange _ cfg admitted .start ran) ()
      {port0.setup with initFlag := true}
  refine ⟨_,rfl,rfl,served _ ?_ rfl rfl rfl rfl⟩
  refine ⟨trivial,?_,trivial,trivial,?_,trivial,trivial,trivial,trivial,trivial,trivial,trivial,
    trivial,trivial⟩
  · rintro _ ⟨⟩ _ _ _
    exact ⟨rfl,rfl,rfl,rfl⟩
  · exact (by decide : 0 + 2 ≤ 2048)

private def besReopening : List (Caller Unit × Move (BesRequest Unit) Line) :=
  (.task (),.invoke besOpening) :: List.replicate 2 (.task (),.act quiet) ++
    (.task (),.invoke (.deinit ())) :: List.replicate 2 (.task (),.act quiet) ++
    (.task (),.invoke besOpening) :: List.replicate 2 (.task (),.act quiet)

/-- The second opening leaves the fifo without its storage. -/
theorem besUart_reopening_unarmed :
    ¬ ∀ cfg, (besUart (ι := Unit) .bes2700 ringKfifo fun _ _ => True).Reachable
        (BesUart.start ringKfifo alone) cfg →
      ∀ device, cfg.shared.hosts () = some device → device.initFlag = true →
        (cfg.shared.ports device.uartId).ctx.rxDMA = true →
          (cfg.shared.ports device.uartId).Armed .bes2700 ringKfifo device.uartId := by
  intro armed
  have reached := fun cfg admitted ran => System.schedule_reachable
    (besUart (ι := Unit) .bes2700 ringKfifo fun _ _ => True) (BesUart.start ringKfifo alone)
    besReopening _ cfg admitted .start ran
  have open_ := armed _ (reached _ ?_ rfl) {port0.setup with initFlag := true} rfl rfl rfl
  · obtain ⟨addr,_,consistent⟩ := open_.fifo
    have storage := consistent.buffer
    cases storage
  · exact ⟨trivial,trivial,trivial,trivial,trivial,trivial,trivial,trivial,trivial,trivial⟩

end DriversAdapter.Platform.Bes
