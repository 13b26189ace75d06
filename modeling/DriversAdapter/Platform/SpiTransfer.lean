import DriversAdapter.Platform.SpiDev
import DriversAdapter.Platform.SpiHal
import Mathlib.Data.List.Forall2

/-! The transfer of an array of messages in the SPI drivers of the stm32f4xx and bes boards. -/
namespace DriversAdapter.Platform
open DriversAdapter.Base

/-- A call of a HAL function of a driver, whose sizes have 16 bits. -/
inductive SpiHalCall
  | send (data : Nat) (size : UInt16)
  | recv (data : Nat) (size : UInt16)
  | sendRecv (txData : Nat) (txSize : UInt16) (rxData : Nat) (rxSize : UInt16)
  deriving DecidableEq

structure SpiMove where
  tx : Option Nat
  rx : Option Nat
  bytes : Nat
  deriving DecidableEq

def SpiHalCall.size : SpiHalCall → UInt16
  | .send _ size => size
  | .recv _ size => size
  | .sendRecv _ _ _ rxSize => rxSize

def SpiHalCall.move (call : SpiHalCall) (bytes : Nat) : SpiMove :=
  match call with
  | .send data _ => ⟨some data,none,bytes⟩
  | .recv data _ => ⟨none,some data,bytes⟩
  | .sendRecv txData _ rxData _ => ⟨some txData,some rxData,bytes⟩

/-- What comes of a call: its answer, the bytes that went over the bus, and whether the transfer
was seen to its end. -/
structure SpiHalEnd where
  ret : Int
  bytes : Nat
  waited : Bool
  deriving DecidableEq

def SpiHalEnd.refused (ret : Int) : SpiHalEnd := ⟨ret,0,false⟩

def SpiHalEnd.good (done : SpiHalEnd) : Bool := decide (done.ret = hdfSuccess) && done.waited

/-- The HAL functions, call by call; what comes of them does not depend on what the buffers hold. -/
structure SpiHalFns where
  call : Nat → SpiHalCall → Bytes → SpiHalEnd × Bytes
  steady : ∀ k c memory other, (call k c memory).1 = (call k c other).1

/-- What a driver does in the course of a transfer. -/
inductive SpiAct
  | cs (high : Bool)
  | hal (call : SpiHalCall) (done : SpiHalEnd)
  | delay (time : UInt32)

def SpiAct.moved : SpiAct → Option (SpiMove × Bool)
  | .hal call done => some (call.move done.bytes,done.good)
  | _ => none

/-- The answer of a transfer, and what was done for each message that it came to. -/
structure SpiBoardDone where
  ret : Int
  handled : List (List SpiAct)
  memory : Bytes

/-- The call for a message, if there is one, after `k` others. -/
def SpiHalFns.issue (hal : SpiHalFns) (k : Nat) (call : Option SpiHalCall) (memory : Bytes) :
    List SpiAct × Nat × Bytes :=
  match call with
  | none => ([],k,memory)
  | some call => ([.hal call (hal.call k call memory).1],k + 1,(hal.call k call memory).2)

namespace SpiStm32f4xx

structure SpiDevice where
  transMode : SpiTransferMode

/-- The allocations for the calls, and what comes in while they transmit. -/
structure Line where
  alloc : Nat → Bool
  stream : Nat → Bytes

/-- `HalSpiSend`, `HalSpiRecv` and `HalSpiSendRecv`; their loops move byte after byte, and end with
the last one. -/
def halSpi (line : Line) (spiDevice : SpiDevice) (k : Nat) : SpiHalCall → Bytes → SpiHalEnd × Bytes
  | .send _ size, memory =>
    if size = 0 then (.refused hdfErrInvalidParam,memory)
    else if spiDevice.transMode = .dma then (.refused hdfErrInvalidParam,memory)
    else (⟨hdfSuccess,size.toNat,true⟩,memory)
  | .recv data size, memory =>
    if size = 0 then (.refused hdfErrInvalidParam,memory)
    else if line.alloc k = false then (.refused hdfErrMallocFail,memory)
    else if spiDevice.transMode = .dma then (.refused hdfErrInvalidParam,memory)
    else (⟨hdfSuccess,size.toNat,true⟩,copyBytes memory data (line.stream k) 0 size.toNat)
  | .sendRecv _ txSize rxData rxSize, memory =>
    if txSize = 0 ∨ rxSize = 0 then (.refused hdfErrInvalidParam,memory)
    else if spiDevice.transMode = .dma then (.refused hdfErrInvalidParam,memory)
    else (⟨hdfSuccess,rxSize.toNat,true⟩,copyBytes memory rxData (line.stream k) 0 rxSize.toNat)

def hal (line : Line) (spiDevice : SpiDevice) : SpiHalFns where
  call := halSpi line spiDevice
  steady k c memory other := by
    cases c with
    | send data size =>
      simp only [halSpi]
      split_ifs <;> rfl
    | recv data size =>
      simp only [halSpi]
      split_ifs <;> rfl
    | sendRecv txData txSize rxData rxSize =>
      simp only [halSpi]
      split_ifs <;> rfl

/-- The first byte of a message with one buffer is for the chip select. -/
def singleCsChange (m : SpiMsg) (memory : Bytes) (before : UInt8) : UInt8 :=
  match m.wbuf, m.rbuf with
  | some w, none => memory w
  | none, some r => memory r
  | _, _ => before

/-- There is nothing else in the message. -/
def FlagOnly (m : SpiMsg) : Prop := m.wbuf.isSome ≠ m.rbuf.isSome ∧ m.len = 1

instance (m : SpiMsg) : Decidable (FlagOnly m) := inferInstanceAs (Decidable (_ ∧ _))

def callOf (m : SpiMsg) : Option SpiHalCall :=
  match m.wbuf, m.rbuf with
  | some w, none => some (.send (w + 1) (m.len - 1).toUInt16)
  | none, some r => some (.recv (r + 1) (m.len - 1).toUInt16)
  | some w, some r => some (.sendRecv w m.len.toUInt16 r m.len.toUInt16)
  | none, none => none

def spiDevTransferLoop (hal : SpiHalFns) : List SpiMsg → Nat → UInt8 → Bytes → SpiBoardDone
  | [], _, _, memory => ⟨hdfSuccess,[],memory⟩
  | m::rest, k, before, memory =>
    let single := singleCsChange m memory before
    let raised : List SpiAct := if m.keepCs = 0 ∨ single ≠ 0 then [.cs true] else []
    -- the jump to `CS_DOWN` leaves the loop
    if FlagOnly m then ⟨hdfSuccess,[[.cs false] ++ raised],memory⟩
    else
      let called := hal.issue k (callOf m) memory
      let delayed : List SpiAct := if 0 < m.delayUs then [.delay (m.delayUs / 1000)] else []
      let later := spiDevTransferLoop hal rest called.2.1 single called.2.2
      ⟨later.ret,([.cs false] ++ called.1 ++ (raised ++ delayed))::later.handled,later.memory⟩

def spiDevTransfer (line : Line) (spiCntlr : Option (Option SpiDevice)) (spiMsg : List SpiMsg)
    (memory : Bytes) : SpiBoardDone :=
  match spiCntlr with
  | some (some spiDevice) => spiDevTransferLoop (hal line spiDevice) spiMsg 0 0 memory
  | _ => ⟨hdfErrInvalidParam,[],memory⟩

/-- What is left of a message behind the byte for the chip select. -/
def left (m : SpiMsg) : Option SpiMove :=
  match m.wbuf, m.rbuf with
  | some w, none => if m.len.toNat ≤ 1 then none else some ⟨some (w + 1),none,m.len.toNat - 1⟩
  | none, some r => if m.len.toNat ≤ 1 then none else some ⟨none,some (r + 1),m.len.toNat - 1⟩
  | some w, some r => some ⟨some w,some r,m.len.toNat⟩
  | none, none => none

end SpiStm32f4xx

namespace SpiBes

structure SpiDevice where
  transmode : SpiTransferMode
  spiCsSoft : UInt32

/-- For each call what the lock, the semaphore and the HAL answer. -/
structure Line where
  lock : Nat → Int
  sem : Nat → OsalSem
  hal : Nat → SpiHal

/-- The first wait of a call, which is the only one, for the end of a transfer by DMA. -/
def waited (line : Line) (spiDevice : SpiDevice) (k : Nat) : Bool :=
  decide (spiDevice.transmode = .dma → osalSemWait (line.sem k) 0 = hdfSuccess)

/-- `HalSpiSend`, `HalSpiRecv` and `HalSpiSendRecv`; they hand on the HAL's answer however the wait
ends, and the receive asks for no more than one chunk by DMA. -/
def halSpi (line : Line) (spiDevice : SpiDevice) (k : Nat) : SpiHalCall → Bytes → SpiHalEnd × Bytes
  | .send _ size, memory =>
    if size = 0 then (.refused hdfErrInvalidParam,memory)
    else if line.lock k ≠ hdfSuccess then (.refused hdfErrTimeout,memory)
    else (⟨(line.hal k).ret 0,(line.hal k).received 0 0 size.toNat,waited line spiDevice k⟩,memory)
  | .recv data size, memory =>
    let done := halSpiRecv (line.lock k) (line.sem k) (line.hal k) (some spiDevice.transmode)
      (some data) size memory
    (⟨done.ret,done.received,waited line spiDevice k⟩,done.memory)
  | .sendRecv _ txSize rxData rxSize, memory =>
    if txSize = 0 ∨ rxSize = 0 then (.refused hdfErrInvalidParam,memory)
    else if line.lock k ≠ hdfSuccess then (.refused hdfErrTimeout,memory)
    else (⟨(line.hal k).ret 0,(line.hal k).received 0 0 rxSize.toNat,waited line spiDevice k⟩,
      (line.hal k).recv 0 0 rxData rxSize.toNat memory)

def hal (line : Line) (spiDevice : SpiDevice) : SpiHalFns where
  call := halSpi line spiDevice
  steady k c memory other := by
    cases c with
    | send data size =>
      simp only [halSpi]
      split_ifs <;> rfl
    | recv data size =>
      have same := halSpiRecv_congr (line.lock k) (line.sem k) (line.hal k) spiDevice.transmode data
        size memory other
      simp only [halSpi]
      rw [same.1,same.2]
    | sendRecv txData txSize rxData rxSize =>
      simp only [halSpi]
      split_ifs <;> rfl

def callOf (m : SpiMsg) : Option SpiHalCall :=
  match m.wbuf, m.rbuf with
  | some w, none => some (.send w m.len.toUInt16)
  | none, some r => some (.recv r m.len.toUInt16)
  | some w, some r => some (.sendRecv w m.len.toUInt16 r m.len.toUInt16)
  | none, none => none

def spiDevTransferLoop (hal : SpiHalFns) (spiCsSoft : UInt32) :
    List SpiMsg → Nat → Bytes → SpiBoardDone
  | [], _, memory => ⟨hdfSuccess,[],memory⟩
  | m::rest, k, memory =>
    let lowered : List SpiAct := if spiCsSoft ≠ 0 then [.cs false] else []
    let called := hal.issue k (callOf m) memory
    let raised : List SpiAct := if m.keepCs = 0 then [.cs true] else []
    let later := spiDevTransferLoop hal spiCsSoft rest called.2.1 called.2.2
    ⟨later.ret,(lowered ++ called.1 ++ (raised ++ [.delay m.delayUs]))::later.handled,later.memory⟩

def spiDevTransfer (line : Line) (spiCntlr : Option (Option SpiDevice)) (spiMsg : List SpiMsg)
    (memory : Bytes) : SpiBoardDone :=
  match spiCntlr with
  | some (some spiDevice) =>
    spiDevTransferLoop (hal line spiDevice) spiDevice.spiCsSoft spiMsg 0 memory
  | _ => ⟨hdfErrInvalidParam,[],memory⟩

/-- A message has no byte for the chip select. -/
def left (m : SpiMsg) : Option SpiMove :=
  if m.wbuf = none ∧ m.rbuf = none then none else some ⟨m.wbuf,m.rbuf,m.len.toNat⟩

end SpiBes

/-- What is left of a message went over the bus, all of it in one transfer that did not fail. -/
def SpiMoved (left : SpiMsg → Option SpiMove) (acts : List SpiAct) (m : SpiMsg) : Prop :=
  acts.filterMap SpiAct.moved = (left m).toList.map fun move => (move,true)

/-- Success means that all messages had their turn, and that all of them were moved. -/
def SpiBoardDone.Meets (done : SpiBoardDone) (left : SpiMsg → Option SpiMove)
    (msgs : List SpiMsg) : Prop :=
  done.ret = hdfSuccess → List.Forall₂ (SpiMoved left) done.handled msgs

/-- So many calls were made for the messages before the one at `i`. -/
def spiCallsBefore (callOf : SpiMsg → Option SpiHalCall) (msgs : List SpiMsg) (i : Nat) : Nat :=
  ((msgs.take i).filterMap callOf).length

def SpiHalFns.answer (hal : SpiHalFns) (k : Nat) (call : SpiHalCall) : SpiHalEnd :=
  (hal.call k call fun _ => 0).1

/-- The call for a message moves all that is left of it, and does not fail. -/
structure SpiServed (hal : SpiHalFns) (callOf : SpiMsg → Option SpiHalCall)
    (left : SpiMsg → Option SpiMove) (k : Nat) (m : SpiMsg) : Prop where
  whole : ((callOf m).map fun call => call.move (hal.answer k call).bytes) = left m
  good : ∀ call, callOf m = some call → (hal.answer k call).good = true

section Serve
variable {hal : SpiHalFns} {callOf : SpiMsg → Option SpiHalCall} {left : SpiMsg → Option SpiMove}
variable {k : Nat} {m : SpiMsg} {msgs rest : List SpiMsg} {memory : Bytes}

theorem issue_count (call : Option SpiHalCall) :
    (hal.issue k call memory).2.1 = k + call.toList.length := by
  cases call <;> rfl

theorem callsBefore_succ (i : Nat) : spiCallsBefore callOf (m::rest) (i + 1) =
    (callOf m).toList.length + spiCallsBefore callOf rest i := by
  unfold spiCallsBefore
  rw [List.take_succ_cons,List.filterMap_cons]
  cases callOf m with
  | none => exact (Nat.zero_add _).symm
  | some call => exact Nat.add_comm _ 1

theorem moved_iff (before after : List SpiAct) (quiet : before.filterMap SpiAct.moved = [])
    (still : after.filterMap SpiAct.moved = []) :
    SpiMoved left (before ++ (hal.issue k (callOf m) memory).1 ++ after) m ↔
      SpiServed hal callOf left k m := by
  unfold SpiMoved
  rw [List.filterMap_append,List.filterMap_append,quiet,still,List.nil_append,List.append_nil]
  constructor
  · intro moved
    cases called : callOf m with
    | none =>
      rw [called] at moved
      cases target : left m with
      | none =>
        refine ⟨by rw [called,target]; rfl,fun call here => ?_⟩
        rw [called] at here
        cases here
      | some move =>
        rw [target] at moved
        cases moved
    | some call =>
      rw [called] at moved
      cases target : left m with
      | none =>
        rw [target] at moved
        cases moved
      | some move =>
        rw [target] at moved
        have same := hal.steady k call (fun _ => 0) memory
        obtain ⟨bytes,ok⟩ := Prod.mk.inj (List.cons.inj moved).1
        refine ⟨?_,fun other here => ?_⟩
        · rw [called,target,← bytes,← same]
          rfl
        · rw [called] at here
          cases here
          exact (congrArg SpiHalEnd.good same).trans ok
  · rintro ⟨whole,good⟩
    rw [← whole]
    cases called : callOf m with
    | none => rfl
    | some call =>
      have same : (hal.call k call memory).1 = hal.answer k call := hal.steady k call memory _
      have issued : (hal.issue k (some call) memory).1 = [.hal call (hal.answer k call)] := by
        rw [← same]
        rfl
      have moved : SpiAct.moved (.hal call (hal.answer k call)) =
          some (call.move (hal.answer k call).bytes,true) := by
        rw [← good call called]
        rfl
      rw [issued,List.filterMap_cons_some moved]
      rfl

/-- What holds of all places of a list holds of the first and of all the others. -/
theorem forall_place_cons {α : Type} {a : α} {others : List α} {P : Nat → α → Prop} :
    (∀ i x, (a::others)[i]? = some x → P i x) ↔
      P 0 a ∧ ∀ i x, others[i]? = some x → P (i + 1) x := by
  constructor
  · intro all
    exact ⟨all 0 a rfl,fun i x found => all (i + 1) x found⟩
  · rintro ⟨first,later⟩ i x found
    cases i with
    | zero =>
      cases found
      exact first
    | succ i => exact later i x found

end Serve

namespace SpiStm32f4xx
variable {hal : SpiHalFns} {m : SpiMsg} {msgs : List SpiMsg} {memory : Bytes}

theorem left_flagOnly (flag : FlagOnly m) : left m = none := by
  obtain ⟨one,len⟩ := flag
  have short : m.len.toNat ≤ 1 := by
    rw [len]
    exact Nat.le_refl 1
  cases write : m.wbuf with
  | none =>
    cases read : m.rbuf with
    | none => simp only [left,write,read]
    | some r =>
      simp only [left,write,read]
      exact if_pos short
  | some w =>
    cases read : m.rbuf with
    | none =>
      simp only [left,write,read]
      exact if_pos short
    | some r =>
      rw [write,read] at one
      exact absurd rfl one

variable (msgs memory) in
/-- A message that is only a flag is the last one handled. -/
theorem loop_moved_iff (k : Nat) (before : UInt8) :
    List.Forall₂ (SpiMoved left) (spiDevTransferLoop hal msgs k before memory).handled msgs ↔
      ∀ i m, msgs[i]? = some m → (FlagOnly m → i + 1 = msgs.length) ∧
        (¬ FlagOnly m → SpiServed hal callOf left (k + spiCallsBefore callOf msgs i) m) := by
  induction msgs generalizing k before memory with
  | nil => exact iff_of_true .nil fun i m none => nomatch none
  | cons m rest ih =>
    rw [forall_place_cons]
    simp only [spiDevTransferLoop]
    by_cases flag : FlagOnly m
    · rw [if_pos flag,List.forall₂_cons]
      have moved : SpiMoved left ([.cs false] ++
          if m.keepCs = 0 ∨ singleCsChange m memory before ≠ 0 then [.cs true] else []) m := by
        unfold SpiMoved
        rw [left_flagOnly flag]
        split_ifs <;> rfl
      constructor
      · rintro ⟨_,none⟩
        cases none
        exact ⟨⟨fun _ => rfl,fun more => absurd flag more⟩,fun i x none => nomatch none⟩
      · rintro ⟨⟨last,_⟩,_⟩
        have none : rest = [] := by
          have length := last flag
          rw [List.length_cons] at length
          exact List.eq_nil_of_length_eq_zero (by omega)
        rw [none]
        exact ⟨moved,.nil⟩
    · rw [if_neg flag,List.forall₂_cons,moved_iff _ _ rfl (by split_ifs <;> rfl),ih]
      apply and_congr
      · exact ⟨fun served => ⟨fun here => absurd here flag,fun _ => served⟩,
          fun both => both.2 flag⟩
      · apply forall_congr'
        intro i
        rw [callsBefore_succ,issue_count,Nat.add_assoc,List.length_cons]
        simp only [Nat.add_right_cancel_iff]

theorem loop_ret (k : Nat) (before : UInt8) :
    (spiDevTransferLoop hal msgs k before memory).ret = hdfSuccess := by
  induction msgs generalizing k before memory with
  | nil => rfl
  | cons m rest ih =>
    simp only [spiDevTransferLoop]
    by_cases flag : FlagOnly m
    · rw [if_pos flag]
    · rw [if_neg flag]
      exact ih _ _

/-- What is left of a message has a size in 16 bits. -/
structure Fits (m : SpiMsg) : Prop where
  one : m.wbuf.isSome ≠ m.rbuf.isSome → 0 < m.len.toNat ∧ m.len.toNat ≤ 2^16
  both : m.wbuf.isSome → m.rbuf.isSome → m.len.toNat < 2^16

theorem left_of_one (len : UInt32) (more : len ≠ 1) (move : Nat → SpiMove)
    (bytes : ∀ n, (move n).bytes = n) :
    some (move (len - 1).toUInt16.toNat) =
      (if len.toNat ≤ 1 then none else some (move (len.toNat - 1))) ↔
      0 < len.toNat ∧ len.toNat ≤ 2^16 := by
  have one : (1 : UInt32).toNat = 1 := rfl
  have notOne : len.toNat ≠ 1 := fun same => more (UInt32.toNat_inj.mp same)
  by_cases empty : len.toNat = 0
  · rw [if_pos (by omega)]
    exact iff_of_false (Option.some_ne_none _) (by omega)
  have size : (len - 1).toUInt16.toNat = (len.toNat - 1) % 2^16 := by
    rw [UInt32.toNat_toUInt16,UInt32.toNat_sub_of_le _ _ (by rw [UInt32.le_iff_toNat_le]; omega),one]
  rw [if_neg (by omega),size]
  constructor
  · intro same
    have counts := congrArg SpiMove.bytes (Option.some.inj same)
    rw [bytes,bytes] at counts
    omega
  · intro fits
    rw [Nat.mod_eq_of_lt (by omega)]

theorem fits_one_iff (one : m.wbuf.isSome ≠ m.rbuf.isSome) :
    Fits m ↔ 0 < m.len.toNat ∧ m.len.toNat ≤ 2^16 :=
  ⟨fun fits => fits.one one,fun size => ⟨fun _ => size,
    fun write read => absurd (write.trans read.symm) one⟩⟩

theorem whole_iff (more : ¬ FlagOnly m) : ((callOf m).map fun call => call.move call.size.toNat) = left m ↔
    Fits m := by
  have long : m.wbuf.isSome ≠ m.rbuf.isSome → m.len ≠ 1 := fun one len => more ⟨one,len⟩
  cases write : m.wbuf with
  | none =>
    cases read : m.rbuf with
    | none =>
      rw [write,read] at long
      simp only [callOf,left,write,read]
      refine iff_of_true rfl ⟨fun one => ?_,fun given => ?_⟩
      · rw [write,read] at one
        exact absurd rfl one
      · rw [write] at given
        cases given
    | some r =>
      have one : m.wbuf.isSome ≠ m.rbuf.isSome := by
        rw [write,read]
        exact Bool.false_ne_true
      rw [fits_one_iff one]
      simp only [callOf,left,write,read]
      exact left_of_one m.len (long one) (fun n => ⟨none,some (r + 1),n⟩) fun _ => rfl
  | some w =>
    cases read : m.rbuf with
    | none =>
      have one : m.wbuf.isSome ≠ m.rbuf.isSome := by
        rw [write,read]
        exact Bool.false_ne_true.symm
      rw [fits_one_iff one]
      simp only [callOf,left,write,read]
      exact left_of_one m.len (long one) (fun n => ⟨some (w + 1),none,n⟩) fun _ => rfl
    | some r =>
      have size : m.len.toUInt16.toNat = m.len.toNat % 2^16 := UInt32.toNat_toUInt16 m.len
      have bits := m.len.toUInt16.toNat_lt
      simp only [callOf,left,write,read,Option.map_some,SpiHalCall.move,SpiHalCall.size,
        Option.some.injEq,SpiMove.mk.injEq,true_and]
      constructor
      · intro same
        exact ⟨fun one => by rw [write,read] at one; exact absurd rfl one,fun _ _ => by omega⟩
      · intro fits
        have small := fits.both (by rw [write]; rfl) (by rw [read]; rfl)
        rw [size,Nat.mod_eq_of_lt small]

end SpiStm32f4xx

namespace SpiBes
variable {hal : SpiHalFns} {spiCsSoft : UInt32} {msgs : List SpiMsg} {memory : Bytes}

variable (msgs memory) in
theorem loop_moved_iff (k : Nat) :
    List.Forall₂ (SpiMoved left) (spiDevTransferLoop hal spiCsSoft msgs k memory).handled msgs ↔
      ∀ i m, msgs[i]? = some m →
        SpiServed hal callOf left (k + spiCallsBefore callOf msgs i) m := by
  induction msgs generalizing k memory with
  | nil => exact iff_of_true .nil fun i m none => nomatch none
  | cons m rest ih =>
    rw [forall_place_cons]
    simp only [spiDevTransferLoop]
    rw [List.forall₂_cons,moved_iff _ _ (by split_ifs <;> rfl) (by split_ifs <;> rfl),ih]
    apply and_congr
    · exact Iff.rfl
    · apply forall_congr'
      intro i
      rw [callsBefore_succ,issue_count,Nat.add_assoc]

theorem loop_ret (k : Nat) :
    (spiDevTransferLoop hal spiCsSoft msgs k memory).ret = hdfSuccess := by
  induction msgs generalizing k memory with
  | nil => rfl
  | cons m rest ih => exact ih _

/-- A message that has a buffer has a size in 16 bits. -/
def Fits (m : SpiMsg) : Prop := m.wbuf.isSome ∨ m.rbuf.isSome → m.len.toNat < 2^16

/-- Calls that move no more than they ask for move all of a message when it fits and they move all
that they ask for. -/
theorem whole_iff (m : SpiMsg) (bytes : SpiHalCall → Nat)
    (most : ∀ call, callOf m = some call → bytes call ≤ call.size.toNat) :
    ((callOf m).map fun call => call.move (bytes call)) = left m ↔
      Fits m ∧ ∀ call, callOf m = some call → bytes call = call.size.toNat := by
  have cut : m.len.toUInt16.toNat = m.len.toNat % 2^16 := UInt32.toNat_toUInt16 m.len
  have shorter : m.len.toNat % 2^16 ≤ m.len.toNat := Nat.mod_le _ _
  have bits : m.len.toNat % 2^16 < 2^16 := Nat.mod_lt _ (by decide)
  have one (call : SpiHalCall) (called : callOf m = some call) (size : call.size = m.len.toUInt16)
      (buffer : m.wbuf.isSome ∨ m.rbuf.isSome) :
      bytes call = m.len.toNat ↔
        Fits m ∧ ∀ other, callOf m = some other → bytes other = other.size.toNat := by
    have asked := most call called
    rw [size,cut] at asked
    constructor
    · intro all
      refine ⟨fun _ => by omega,fun other here => ?_⟩
      rw [called] at here
      cases here
      rw [size,cut]
      omega
    · rintro ⟨fits,all⟩
      have whole := all call called
      have small := fits buffer
      rw [size,cut,Nat.mod_eq_of_lt small] at whole
      exact whole
  cases write : m.wbuf with
  | none =>
    cases read : m.rbuf with
    | none =>
      have none : callOf m = none := by simp only [callOf,write,read]
      refine iff_of_true ?_ ⟨fun buffer => ?_,fun call called => ?_⟩
      · rw [none]
        simp [left,write,read]
      · simp [write,read] at buffer
      · rw [none] at called
        cases called
    | some r =>
      have called : callOf m = some (.recv r m.len.toUInt16) := by simp only [callOf,write,read]
      rw [← one _ called rfl (.inr (by rw [read]; rfl)),called]
      simp [left,write,read,SpiHalCall.move]
  | some w =>
    have buffer : m.wbuf.isSome ∨ m.rbuf.isSome := .inl (by rw [write]; rfl)
    cases read : m.rbuf with
    | none =>
      have called : callOf m = some (.send w m.len.toUInt16) := by simp only [callOf,write,read]
      rw [← one _ called rfl buffer,called]
      simp [left,write,read,SpiHalCall.move]
    | some r =>
      have called : callOf m = some (.sendRecv w m.len.toUInt16 r m.len.toUInt16) := by
        simp only [callOf,write,read]
      rw [← one _ called rfl buffer,called]
      simp [left,write,read,SpiHalCall.move]

end SpiBes

namespace SpiStm32f4xx

/-- The message at `i` and its call: nothing comes behind a message that is only a flag, and any
other has a size that fits and a call that succeeds. -/
structure Serves (line : Line) (spiDevice : SpiDevice) (msgs : List SpiMsg) (i : Nat)
    (m : SpiMsg) : Prop where
  last : FlagOnly m → i + 1 = msgs.length
  fits : ¬ FlagOnly m → Fits m
  answer : ¬ FlagOnly m → ∀ call, callOf m = some call →
    ((hal line spiDevice).answer (spiCallsBefore callOf msgs i) call).ret = hdfSuccess

theorem answer_whole (line : Line) (spiDevice : SpiDevice) (k : Nat) (call : SpiHalCall)
    (ok : ((hal line spiDevice).answer k call).ret = hdfSuccess) :
    (hal line spiDevice).answer k call = ⟨hdfSuccess,call.size.toNat,true⟩ := by
  have param : hdfErrInvalidParam ≠ hdfSuccess := by decide
  have malloc : hdfErrMallocFail ≠ hdfSuccess := by decide
  revert ok
  cases call with
  | send data size =>
    simp only [SpiHalFns.answer,hal,halSpi]
    split_ifs
    · exact fun ok => absurd ok param
    · exact fun ok => absurd ok param
    · exact fun _ => rfl
  | recv data size =>
    simp only [SpiHalFns.answer,hal,halSpi]
    split_ifs
    · exact fun ok => absurd ok param
    · exact fun ok => absurd ok malloc
    · exact fun ok => absurd ok param
    · exact fun _ => rfl
  | sendRecv txData txSize rxData rxSize =>
    simp only [SpiHalFns.answer,hal,halSpi]
    split_ifs
    · exact fun ok => absurd ok param
    · exact fun ok => absurd ok param
    · exact fun _ => rfl

theorem served_iff (line : Line) (spiDevice : SpiDevice) (k : Nat) {m : SpiMsg}
    (more : ¬ FlagOnly m) : SpiServed (hal line spiDevice) callOf left k m ↔
      Fits m ∧ ∀ call, callOf m = some call →
        ((hal line spiDevice).answer k call).ret = hdfSuccess := by
  have all (answer : ∀ call, callOf m = some call →
      ((hal line spiDevice).answer k call).ret = hdfSuccess) :
      ((callOf m).map fun call => call.move ((hal line spiDevice).answer k call).bytes) =
        (callOf m).map fun call => call.move call.size.toNat := by
    cases called : callOf m with
    | none => rfl
    | some call =>
      rw [Option.map_some,answer_whole line spiDevice k call (answer call called)]
      rfl
  constructor
  · rintro ⟨whole,good⟩
    have answer (call : SpiHalCall) (called : callOf m = some call) :
        ((hal line spiDevice).answer k call).ret = hdfSuccess := by
      have both := good call called
      rw [SpiHalEnd.good,Bool.and_eq_true,decide_eq_true_eq] at both
      exact both.1
    exact ⟨(whole_iff more).mp ((all answer).symm.trans whole),answer⟩
  · rintro ⟨fits,answer⟩
    refine ⟨(all answer).trans ((whole_iff more).mpr fits),fun call called => ?_⟩
    rw [answer_whole line spiDevice k call (answer call called)]
    rfl

theorem meets_iff (line : Line) (spiCntlr : Option (Option SpiDevice)) (msgs : List SpiMsg)
    (memory : Bytes) :
    (spiDevTransfer line spiCntlr msgs memory).Meets left msgs ↔
      ∀ spiDevice, spiCntlr = some (some spiDevice) →
        ∀ i m, msgs[i]? = some m → Serves line spiDevice msgs i m := by
  have param : hdfErrInvalidParam ≠ hdfSuccess := by decide
  match spiCntlr with
  | none => exact iff_of_true (fun ok => absurd ok param) (fun _ here => nomatch here)
  | some none => exact iff_of_true (fun ok => absurd ok param) (fun _ here => nomatch here)
  | some (some spiDevice) =>
    simp only [spiDevTransfer,SpiBoardDone.Meets,loop_ret,true_imp_iff,loop_moved_iff,Nat.zero_add]
    constructor
    · intro all other same i m found
      cases same
      obtain ⟨last,served⟩ := all i m found
      exact ⟨last,fun more => ((served_iff line spiDevice _ more).mp (served more)).1,
        fun more => ((served_iff line spiDevice _ more).mp (served more)).2⟩
    · intro all i m found
      obtain ⟨last,fits,answer⟩ := all spiDevice rfl i m found
      exact ⟨last,fun more => (served_iff line spiDevice _ more).mpr ⟨fits more,answer more⟩⟩

end SpiStm32f4xx

namespace SpiBes

/-- A call is for what one chunk can have, if it receives by DMA. -/
def Short (spiDevice : SpiDevice) : SpiHalCall → Prop
  | .recv _ size => spiDevice.transmode = .dma → size.toNat ≤ spiDmaMax
  | _ => True

/-- The message at `i` has a size that fits; its call succeeds and, by DMA, is waited for and is not
a receive of more than one chunk. -/
structure Serves (line : Line) (spiDevice : SpiDevice) (msgs : List SpiMsg) (i : Nat)
    (m : SpiMsg) : Prop where
  fits : Fits m
  answer : ∀ call, callOf m = some call →
    ((hal line spiDevice).answer (spiCallsBefore callOf msgs i) call).ret = hdfSuccess
  wait : ∀ call, callOf m = some call → spiDevice.transmode = .dma →
    osalSemWait (line.sem (spiCallsBefore callOf msgs i)) 0 = hdfSuccess
  short : ∀ call, callOf m = some call → Short spiDevice call

theorem received_accepted (hal : SpiHal) (n : Nat) (accepted : hal.ret 0 = hdfSuccess) :
    hal.received 0 0 n = n := by
  have ok : hal.ret 0 = 0 := accepted
  rw [SpiHal.received,if_pos ok,Nat.zero_add]

theorem recv_bytes (line : Line) (spiDevice : SpiDevice) (k data : Nat) (size : UInt16)
    (ok : ((hal line spiDevice).answer k (.recv data size)).ret = hdfSuccess) :
    ((hal line spiDevice).answer k (.recv data size)).bytes =
      if spiDevice.transmode = .dma ∧ spiDmaMax < size.toNat then spiDmaMax else size.toNat := by
  have param : hdfErrInvalidParam ≠ hdfSuccess := by decide
  have timeout : hdfErrTimeout ≠ hdfSuccess := by decide
  revert ok
  simp only [SpiHalFns.answer,SpiBes.hal,halSpi,halSpiRecv]
  by_cases empty : size = 0
  · rw [if_pos empty]
    exact fun ok => absurd ok param
  rw [if_neg empty]
  by_cases locked : line.lock k ≠ hdfSuccess
  · rw [if_pos locked]
    exact fun ok => absurd ok timeout
  rw [if_neg locked]
  by_cases dma : spiDevice.transmode = .dma
  · rw [dma,halSpiRecvLoop_dma]
    intro accepted
    by_cases fits : size.toNat ≤ spiDmaMax
    · rw [if_neg (by omega)]
      simp only [SpiHal.oneChunk,if_pos fits]
      exact received_accepted _ _ accepted
    · rw [if_pos ⟨rfl,by omega⟩]
      simp only [SpiHal.oneChunk,if_neg fits]
      exact received_accepted _ _ accepted
  · intro ok
    rw [if_neg fun both => dma both.1]
    exact (halSpiRecvLoop_normal _ 0 0 data dma ok).1.trans (Nat.zero_add _)

theorem answer_bytes (line : Line) (spiDevice : SpiDevice) (k : Nat) (call : SpiHalCall)
    (ok : ((hal line spiDevice).answer k call).ret = hdfSuccess) :
    ((hal line spiDevice).answer k call).bytes ≤ call.size.toNat ∧
      (((hal line spiDevice).answer k call).bytes = call.size.toNat ↔ Short spiDevice call) := by
  have param : hdfErrInvalidParam ≠ hdfSuccess := by decide
  have timeout : hdfErrTimeout ≠ hdfSuccess := by decide
  cases call with
  | send data size =>
    have whole : ((hal line spiDevice).answer k (.send data size)).bytes = size.toNat := by
      revert ok
      simp only [SpiHalFns.answer,SpiBes.hal,halSpi]
      split_ifs
      · exact fun ok => absurd ok param
      · exact fun ok => absurd ok timeout
      · exact received_accepted _ _
    exact ⟨whole.le,iff_of_true whole trivial⟩
  | recv data size =>
    rw [recv_bytes line spiDevice k data size ok]
    simp only [SpiHalCall.size,Short]
    by_cases long : spiDevice.transmode = .dma ∧ spiDmaMax < size.toNat
    · rw [if_pos long]
      refine ⟨long.2.le,iff_of_false (by omega) fun short => ?_⟩
      have fits := short long.1
      omega
    · rw [if_neg long]
      exact ⟨le_rfl,iff_of_true rfl fun dma => by
        by_contra more
        exact long ⟨dma,by omega⟩⟩
  | sendRecv txData txSize rxData rxSize =>
    have whole : ((hal line spiDevice).answer k (.sendRecv txData txSize rxData rxSize)).bytes =
        rxSize.toNat := by
      revert ok
      simp only [SpiHalFns.answer,SpiBes.hal,halSpi]
      split_ifs
      · exact fun ok => absurd ok param
      · exact fun ok => absurd ok timeout
      · exact received_accepted _ _
    exact ⟨whole.le,iff_of_true whole trivial⟩

/-- Success of a call says nothing of its wait. -/
theorem answer_waited (line : Line) (spiDevice : SpiDevice) (k : Nat) (call : SpiHalCall)
    (ok : ((hal line spiDevice).answer k call).ret = hdfSuccess) :
    ((hal line spiDevice).answer k call).waited = waited line spiDevice k := by
  have param : hdfErrInvalidParam ≠ hdfSuccess := by decide
  have timeout : hdfErrTimeout ≠ hdfSuccess := by decide
  revert ok
  cases call with
  | send data size =>
    simp only [SpiHalFns.answer,SpiBes.hal,halSpi]
    split_ifs
    · exact fun ok => absurd ok param
    · exact fun ok => absurd ok timeout
    · exact fun _ => rfl
  | recv data size => exact fun _ => rfl
  | sendRecv txData txSize rxData rxSize =>
    simp only [SpiHalFns.answer,SpiBes.hal,halSpi]
    split_ifs
    · exact fun ok => absurd ok param
    · exact fun ok => absurd ok timeout
    · exact fun _ => rfl

theorem good_iff (line : Line) (spiDevice : SpiDevice) (k : Nat) (call : SpiHalCall) :
    ((hal line spiDevice).answer k call).good = true ↔
      ((hal line spiDevice).answer k call).ret = hdfSuccess ∧
        (spiDevice.transmode = .dma → osalSemWait (line.sem k) 0 = hdfSuccess) := by
  rw [SpiHalEnd.good,Bool.and_eq_true,decide_eq_true_eq]
  apply and_congr_right
  intro ok
  rw [answer_waited line spiDevice k call ok,waited,decide_eq_true_eq]

theorem served_iff (line : Line) (spiDevice : SpiDevice) (msgs : List SpiMsg) (i : Nat)
    (m : SpiMsg) : SpiServed (hal line spiDevice) callOf left (spiCallsBefore callOf msgs i) m ↔
      Serves line spiDevice msgs i m := by
  let k := spiCallsBefore callOf msgs i
  have bytes (answer : ∀ call, callOf m = some call →
      ((hal line spiDevice).answer k call).ret = hdfSuccess) :=
    whole_iff m (fun call => ((hal line spiDevice).answer k call).bytes) fun call called =>
      (answer_bytes line spiDevice k call (answer call called)).1
  constructor
  · rintro ⟨whole,good⟩
    have good' := fun call called => (good_iff line spiDevice k call).mp (good call called)
    obtain ⟨fits,all⟩ := (bytes fun call called => (good' call called).1).mp whole
    exact ⟨fits,fun call called => (good' call called).1,fun call called => (good' call called).2,
      fun call called => (answer_bytes line spiDevice k call (good' call called).1).2.mp
        (all call called)⟩
  · rintro ⟨fits,answer,wait,short⟩
    exact ⟨(bytes answer).mpr ⟨fits,fun call called =>
        (answer_bytes line spiDevice k call (answer call called)).2.mpr (short call called)⟩,
      fun call called => (good_iff line spiDevice k call).mpr ⟨answer call called,wait call called⟩⟩

theorem meets_iff (line : Line) (spiCntlr : Option (Option SpiDevice)) (msgs : List SpiMsg)
    (memory : Bytes) :
    (spiDevTransfer line spiCntlr msgs memory).Meets left msgs ↔
      ∀ spiDevice, spiCntlr = some (some spiDevice) →
        ∀ i m, msgs[i]? = some m → Serves line spiDevice msgs i m := by
  have param : hdfErrInvalidParam ≠ hdfSuccess := by decide
  match spiCntlr with
  | none => exact iff_of_true (fun ok => absurd ok param) (fun _ here => nomatch here)
  | some none => exact iff_of_true (fun ok => absurd ok param) (fun _ here => nomatch here)
  | some (some spiDevice) =>
    simp only [spiDevTransfer,SpiBoardDone.Meets,loop_ret,true_imp_iff,loop_moved_iff,Nat.zero_add]
    constructor
    · intro all other same i m found
      cases same
      exact (served_iff line spiDevice msgs i m).mp (all i m found)
    · intro all i m found
      exact (served_iff line spiDevice msgs i m).mpr (all spiDevice rfl i m found)

end SpiBes

/-- The two drivers do what success says exactly for these arrays of messages. -/
theorem spiDevTransfer_meets_iff (stm : SpiStm32f4xx.Line) (bes : SpiBes.Line)
    (stmCntlr : Option (Option SpiStm32f4xx.SpiDevice)) (besCntlr : Option (Option SpiBes.SpiDevice))
    (msgs : List SpiMsg) (memory : Bytes) :
    ((SpiStm32f4xx.spiDevTransfer stm stmCntlr msgs memory).Meets SpiStm32f4xx.left msgs ↔
        ∀ spiDevice, stmCntlr = some (some spiDevice) →
          ∀ i m, msgs[i]? = some m → SpiStm32f4xx.Serves stm spiDevice msgs i m) ∧
      ((SpiBes.spiDevTransfer bes besCntlr msgs memory).Meets SpiBes.left msgs ↔
        ∀ spiDevice, besCntlr = some (some spiDevice) →
          ∀ i m, msgs[i]? = some m → SpiBes.Serves bes spiDevice msgs i m) :=
  ⟨SpiStm32f4xx.meets_iff stm stmCntlr msgs memory,SpiBes.meets_iff bes besCntlr msgs memory⟩

/-- A message that is only a flag, and one of four bytes behind it. -/
private def flagFirst : List SpiMsg := [⟨some 0,none,1,0,0,0⟩,⟨some 8,none,4,0,0,0⟩]

/-- The first message ends the transfer of the one driver, and a failed call does not end that of
the other; both return success. -/
theorem spiDevTransfer_not_meets :
    ¬ (SpiStm32f4xx.spiDevTransfer ⟨fun _ => true,fun _ _ => 0⟩ (some (some ⟨.normal⟩)) flagFirst
        fun _ => 1).Meets SpiStm32f4xx.left flagFirst ∧
      ¬ (SpiBes.spiDevTransfer ⟨fun _ => hdfSuccess,fun _ => ⟨true,fun _ => 0,1⟩,
          fun _ => ⟨fun _ => 0,fun _ => -1,fun _ => 0⟩⟩ (some (some ⟨.normal,1⟩)) flagFirst
        fun _ => 1).Meets SpiBes.left flagFirst := by
  constructor
  · intro meets
    have length := (meets rfl).length_eq
    revert length
    decide
  · intro meets
    obtain ⟨first,_⟩ := List.forall₂_cons.mp (meets rfl)
    revert first
    unfold SpiMoved
    decide

end DriversAdapter.Platform
