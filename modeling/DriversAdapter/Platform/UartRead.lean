import DriversAdapter.Osal.Time
import DriversAdapter.Platform.UartBes
import Mathlib.Order.Monotone.Basic

/-! The reads of a port in the bes and wm drivers. By DMA a read collects bytes from a fifo until it
has them all or gives up; else it reads one byte, and says so also where there was none. -/
namespace DriversAdapter.Platform.UartRead
open DriversAdapter.Base DriversAdapter.Osal

/-- The bytes that come in for a port, and the fifo's function that takes some of those that have
come in when the driver looks for the `k`-th time. -/
structure Rx where
  stream : Bytes
  arrived : Nat → Nat
  pop : Nat → Nat → Nat
  arrived_mono : Monotone arrived
  pop_le_asked : ∀ asked here, pop asked here ≤ asked
  pop_le_here : ∀ asked here, pop asked here ≤ here
  pop_one : ∀ here, 0 < here → pop 1 here = 1

/-- The caller's memory, and how many bytes were taken from the fifo. -/
structure RxState where
  memory : Bytes
  taken : Nat

structure UartCtx where
  rxDMA : Bool
  isBlock : Bool

def tmoMsUnitConv : UInt64 := 1000

/-- The wait of a blocked read in the wm driver, in milliseconds. -/
def hdfUartTmo : UInt32 := 1000

namespace Rx
variable (rx : Rx)

def here (k : Nat) (s : RxState) : Nat := rx.arrived k - s.taken

def read (k data asked : Nat) (s : RxState) : Nat × RxState :=
  let n := rx.pop asked (rx.here k s)
  (n,⟨copyBytes s.memory data rx.stream s.taken n,s.taken + n⟩)

def awaitReadable (s : RxState) : Nat → Nat → Option Nat
  | 0, _ => none
  | fuel + 1, k => if 0 < rx.here k s then some k else awaitReadable s fuel (k + 1)

/-- The loop of `HalUartRecv`, whose turns end in a wait and a look at the time. -/
def recvLoop (timedOut : Nat → Bool) (data : Nat) (expectSize : UInt32) :
    Nat → Nat → UInt32 → UInt32 → RxState → Option (UInt32 × RxState)
  | 0, _, _, _, _ => none
  | fuel + 1, k, recvedLen, expectLen, s =>
    let fifoPopLen := rx.read k (data + recvedLen.toNat) expectLen.toNat s
    let recvedLen := recvedLen + UInt32.ofNat fifoPopLen.1
    let expectLen := expectLen - UInt32.ofNat fifoPopLen.1
    if expectSize ≤ recvedLen then some (recvedLen,fifoPopLen.2)
    else if recvedLen = 0 then some (recvedLen,fifoPopLen.2)
    else if timedOut k then some (recvedLen,fifoPopLen.2)
    else recvLoop timedOut data expectSize fuel (k + 1) recvedLen expectLen fifoPopLen.2

end Rx

namespace Bes
open Platform.Bes

/-- What the timer says before the first turn, and after each. -/
def timedOut (ticks : Nat → UInt32) (k : Nat) : Bool := osalWaitForever ≤ ticks (k + 1) - ticks 0

variable (soc : Soc) (uartId : UInt32) (ticks : Nat → UInt32) (ctx : UartCtx) (rx : Rx)

def halUartRecv (fuel data : Nat) (expectSize : UInt32) (s : RxState) :
    Option (Int × UInt32 × RxState) :=
  if expectSize = 0 then some (hdfErrInvalidParam,0,s)
  else if soc.maxUartId < uartId then some (hdfErrNotSupport,0,s)
  else (rx.recvLoop (timedOut ticks) data expectSize fuel 0 0 expectSize s).map fun done =>
    (hdfSuccess,done)

def uartHostDevRead (fuel : Nat) (data : Option Nat) (size : UInt32) (s : RxState) :
    Option (Int × RxState) :=
  match data with
  | none => some (hdfErrInvalidParam,s)
  | some data =>
    if ctx.rxDMA then
      (halUartRecv soc uartId ticks rx fuel data size s).map fun (ret,recvSize,s) =>
        (if ret ≠ hdfSuccess then ret else recvSize.toInt32.toInt,s)
    else if ctx.isBlock then
      (rx.awaitReadable s fuel 0).map fun k => (1,(rx.read k data 1 s).2)
    else some (1,if 0 < rx.here 0 s then (rx.read 1 data 1 s).2 else s)

end Bes

namespace Wm
variable (clock : Nat → OsalTimespec)

/-- The difference after each turn; where there is none, the one before is left. -/
def elapsed : Nat → OsalTimespec
  | 0 => ((LiteosM.osalDiffTime (some (clock 0)) (some (clock 1)) (some ⟨0,0⟩)).2.getD ⟨0,0⟩)
  | k + 1 => ((LiteosM.osalDiffTime (some (clock 0)) (some (clock (k + 2)))
      (some (elapsed k))).2.getD (elapsed k))

def timedOut (k : Nat) : Bool :=
  hdfUartTmo ≤ ((elapsed clock k).sec * tmoMsUnitConv +
    (elapsed clock k).usec / tmoMsUnitConv).toUInt32

variable (ctx : UartCtx) (rx : Rx)

def halUartRecv (fuel data : Nat) (expectSize : UInt32) (s : RxState) :
    Option (Int × UInt32 × RxState) :=
  if expectSize = 0 then some (hdfErrInvalidParam,0,s)
  else (rx.recvLoop (timedOut clock) data expectSize fuel 0 0 expectSize s).map fun done =>
    (hdfSuccess,done)

/-- The answer of `tls_uart_read` is overwritten. -/
def uartHostDevRead (fuel : Nat) (data : Option Nat) (size : UInt32) (s : RxState) :
    Option (Int × RxState) :=
  match data with
  | none => some (hdfErrInvalidParam,s)
  | some data =>
    if ctx.rxDMA then
      (halUartRecv clock rx fuel data size s).map fun (ret,recvSize,s) =>
        (if ret ≠ hdfSuccess then ret else recvSize.toInt32.toInt,s)
    else if ctx.isBlock then
      (rx.awaitReadable s fuel 0).map fun k => (1,(rx.read (k + 1) data 1 s).2)
    else some (1,(rx.read 0 data 1 s).2)

end Wm

/-- A driver, with what its clock says in the course of a read. -/
inductive Driver
  | bes (soc : Platform.Bes.Soc) (uartId : UInt32) (ticks : Nat → UInt32)
  | wm (clock : Nat → OsalTimespec)

def Driver.uartHostDevRead (ctx : UartCtx) (rx : Rx) (fuel : Nat) (data : Option Nat)
    (size : UInt32) (s : RxState) : Driver → Option (Int × RxState)
  | bes soc uartId ticks => Bes.uartHostDevRead soc uartId ticks ctx rx fuel data size s
  | wm clock => Wm.uartHostDevRead clock ctx rx fuel data size s

/-- The next bytes of the stream are in the memory at `data`, and were taken. -/
structure Received (rx : Rx) (data n : Nat) (s t : RxState) : Prop where
  memory : t.memory = copyBytes s.memory data rx.stream s.taken n
  taken : t.taken = s.taken + n

/-- The answer is a number of bytes that the buffer has room for and that were received. -/
def Counted (rx : Rx) (data : Option Nat) (size : UInt32) (s : RxState)
    (done : Int × RxState) : Prop :=
  ∀ n : Nat, done.1 = n → ∃ dst, data = some dst ∧ n ≤ size.toNat ∧ Received rx dst n s done.2

/-- A read is refused, is by DMA, never ends, or has room for a byte and comes to have one. -/
def Countable (ctx : UartCtx) (rx : Rx) (data : Option Nat) (size : UInt32) (s : RxState) : Prop :=
  data = none ∨ ctx.rxDMA = true ∨ (ctx.isBlock = true ∧ ∀ k, rx.here k s = 0) ∨
    (size ≠ 0 ∧ (ctx.isBlock = true ∨ 0 < rx.here 0 s))

section Receive
variable {rx : Rx} {data : Nat}

theorem received_none (s : RxState) : Received rx data 0 s s :=
  ⟨(copyBytes_zero s.memory data rx.stream s.taken).symm,rfl⟩

theorem Received.read {n : Nat} {s t : RxState} (received : Received rx data n s t)
    (k asked : Nat) : Received rx data (n + (rx.read k (data + n) asked t).1) s
      (rx.read k (data + n) asked t).2 := by
  refine ⟨?_,?_⟩
  · dsimp only [Rx.read]
    rw [received.memory,received.taken,copyBytes_append]
  · dsimp only [Rx.read]
    rw [received.taken,Nat.add_assoc]

/-- The loop ends with what it received, and that is no more than was asked for. -/
theorem recvLoop_received (timedOut : Nat → Bool) (expectSize : UInt32) (fuel k : Nat)
    (recvedLen expectLen : UInt32) (s t : RxState) (done : UInt32 × RxState)
    (whole : recvedLen.toNat + expectLen.toNat = expectSize.toNat)
    (before : Received rx data recvedLen.toNat s t)
    (returned : rx.recvLoop timedOut data expectSize fuel k recvedLen expectLen t = some done) :
    done.1.toNat ≤ expectSize.toNat ∧ Received rx data done.1.toNat s done.2 := by
  induction fuel generalizing k recvedLen expectLen t with
  | zero => contradiction
  | succ fuel ih =>
    have asked := rx.pop_le_asked expectLen.toNat (rx.here k t)
    have popped := before.read k expectLen.toNat
    generalize got : rx.read k (data + recvedLen.toNat) expectLen.toNat t = fifoPopLen at popped
    have few : fifoPopLen.1 ≤ expectLen.toNat := by
      rw [← got]
      exact asked
    have size := expectSize.toNat_lt
    have len : (UInt32.ofNat fifoPopLen.1).toNat = fifoPopLen.1 :=
      UInt32.toNat_ofNat_of_lt' (Nat.lt_of_le_of_lt (by omega) size)
    have more : (recvedLen + UInt32.ofNat fifoPopLen.1).toNat = recvedLen.toNat + fifoPopLen.1 := by
      rw [UInt32.toNat_add,len,Nat.mod_eq_of_lt (by omega)]
    have less : (expectLen - UInt32.ofNat fifoPopLen.1).toNat = expectLen.toNat - fifoPopLen.1 := by
      rw [UInt32.toNat_sub_of_le _ _ (UInt32.le_iff_toNat_le.mpr (len.trans_le few)),len]
    rw [← more] at popped
    unfold Rx.recvLoop at returned
    dsimp only at returned
    rw [got] at returned
    have ended : done = (recvedLen + UInt32.ofNat fifoPopLen.1,fifoPopLen.2) →
        done.1.toNat ≤ expectSize.toNat ∧ Received rx data done.1.toNat s done.2 := by
      rintro rfl
      exact ⟨more.trans_le (by omega),popped⟩
    split_ifs at returned
    · exact ended (Option.some.inj returned).symm
    · exact ended (Option.some.inj returned).symm
    · exact ended (Option.some.inj returned).symm
    · exact ih _ _ _ _ (by omega) popped returned

/-- The answer to a read by DMA, where a count that is too great is negative. -/
theorem counted_recv (size : UInt32) (s : RxState) (done : UInt32 × RxState)
    (received : done.1.toNat ≤ size.toNat ∧ Received rx data done.1.toNat s done.2) :
    Counted rx (some data) size s (done.1.toInt32.toInt,done.2) := by
  obtain ⟨few,bytes⟩ := received
  intro n same
  have sizes := toInt32_cases done.1
  obtain rfl : n = done.1.toNat := by
    dsimp only at same
    omega
  exact ⟨data,rfl,few,bytes⟩

theorem counted_refused (dst : Option Nat) (size : UInt32) (s t : RxState) {ret : Int}
    (negative : ret < 0) : Counted rx dst size s (ret,t) := by
  intro n same
  dsimp only at same
  omega

theorem awaitReadable_some (s : RxState) (fuel k found : Nat)
    (readable : rx.awaitReadable s fuel k = some found) : 0 < rx.here found s := by
  induction fuel generalizing k with
  | zero => contradiction
  | succ fuel ih =>
    unfold Rx.awaitReadable at readable
    split_ifs at readable with now
    · exact Option.some.inj readable ▸ now
    · exact ih (k + 1) readable

theorem awaitReadable_returns (s : RxState) (k n : Nat) (readable : 0 < rx.here (k + n) s) :
    ∃ found, rx.awaitReadable s (n + 1) k = some found := by
  induction n generalizing k with
  | zero => exact ⟨k,if_pos readable⟩
  | succ n ih =>
    unfold Rx.awaitReadable
    split_ifs with now
    · exact ⟨k,rfl⟩
    · exact ih (k + 1) (by rwa [Nat.add_assoc,Nat.add_comm 1 n])

theorem here_mono (s : RxState) {k l : Nat} (le : k ≤ l) : rx.here k s ≤ rx.here l s :=
  Nat.sub_le_sub_right (rx.arrived_mono le) s.taken

/-- The answer 1 is right exactly where there is room for a byte, and one in the fifo. -/
theorem counted_one_iff (size : UInt32) (s : RxState) (k : Nat) :
    Counted rx (some data) size s (1,(rx.read k data 1 s).2) ↔ size ≠ 0 ∧ 0 < rx.here k s := by
  have room : size ≠ 0 ↔ 1 ≤ size.toNat := by
    rw [ne_eq,← UInt32.toNat_inj]
    exact Nat.one_le_iff_ne_zero.symm
  rw [room]
  constructor
  · intro counted
    obtain ⟨dst,_,fits,received⟩ := counted 1 rfl
    refine ⟨fits,?_⟩
    have taken : rx.pop 1 (rx.here k s) = 1 := Nat.add_left_cancel received.taken
    have few := rx.pop_le_here 1 (rx.here k s)
    omega
  · rintro ⟨fits,readable⟩ n same
    obtain rfl : n = 1 := (Nat.cast_injective same).symm
    have none : Received rx data 0 s s := received_none s
    have popped := none.read k 1
    have one : (rx.read k data 1 s).1 = 1 := rx.pop_one _ readable
    rw [Nat.add_zero,one] at popped
    exact ⟨data,rfl,fits,popped⟩

theorem not_counted_one (dst : Option Nat) (size : UInt32) (s : RxState) :
    ¬ Counted rx dst size s (1,s) := by
  intro counted
  obtain ⟨_,_,_,received⟩ := counted 1 rfl
  have taken : s.taken = s.taken + 1 := received.taken
  omega

end Receive

section Read
variable {rx : Rx} {size : UInt32} {s : RxState}

/-- A read that waits for a byte counts truly if none comes in, or if there is room for it. -/
theorem read_blocked_iff (data : Nat) (late : Nat → Nat) (le : ∀ k, k ≤ late k) :
    (∀ fuel done, ((rx.awaitReadable s fuel 0).map fun k =>
        ((1 : Int),(rx.read (late k) data 1 s).2)) = some done →
          Counted rx (some data) size s done) ↔
      (∀ k, rx.here k s = 0) ∨ size ≠ 0 := by
  have one (fuel k : Nat) (found : rx.awaitReadable s fuel 0 = some k) :
      Counted rx (some data) size s (1,(rx.read (late k) data 1 s).2) ↔ size ≠ 0 := by
    rw [counted_one_iff]
    have readable := awaitReadable_some s fuel 0 k found
    exact and_iff_left (readable.trans_le (here_mono s (le k)))
  constructor
  · intro counted
    by_cases empty : ∀ k, rx.here k s = 0
    · exact .inl empty
    · obtain ⟨n,some⟩ := not_forall.mp empty
      have readable : 0 < rx.here (0 + n) s := by
        rw [Nat.zero_add]
        exact Nat.pos_of_ne_zero some
      obtain ⟨k,found⟩ := awaitReadable_returns s 0 n readable
      refine .inr ((one _ k found).mp (counted (n + 1) _ ?_))
      rw [found]
      rfl
  · intro right fuel done returned
    obtain ⟨k,found,rfl⟩ := Option.map_eq_some_iff.mp returned
    rcases right with empty | room
    · have readable := awaitReadable_some s fuel 0 k found
      exact absurd (empty k) (Nat.ne_of_gt readable)
    · exact (one fuel k found).mpr room

/-- Reads that do not wait, and such that do, in what is the same of the drivers. -/
theorem read_one_iff (isBlock : Bool) (data : Nat) (late : Nat → Nat) (le : ∀ k, k ≤ late k)
    (now : Int × RxState)
    (unblocked : Counted rx (some data) size s now ↔ size ≠ 0 ∧ 0 < rx.here 0 s) :
    (∀ fuel done, (if isBlock then
        (rx.awaitReadable s fuel 0).map fun k => (1,(rx.read (late k) data 1 s).2)
      else some now) = some done → Counted rx (some data) size s done) ↔
      (isBlock = true ∧ ∀ k, rx.here k s = 0) ∨
        (size ≠ 0 ∧ (isBlock = true ∨ 0 < rx.here 0 s)) := by
  cases isBlock with
  | false =>
    simp only [Bool.false_eq_true,if_false,false_and,false_or]
    rw [← unblocked]
    exact ⟨fun all => all 0 now rfl,fun counted _ _ same => Option.some.inj same ▸ counted⟩
  | true =>
    simp only [if_true,true_and,true_or,and_true]
    exact read_blocked_iff data late le

theorem read_dma (timedOut : Nat → Bool) (data fuel : Nat) (done : UInt32 × RxState)
    (returned : rx.recvLoop timedOut data size fuel 0 0 size s = some done) :
    Counted rx (some data) size s (done.1.toInt32.toInt,done.2) :=
  counted_recv size s done (recvLoop_received timedOut size fuel 0 0 size s s done (Nat.zero_add _)
    (received_none s) returned)

theorem counted_failed (dst : Option Nat) (t : RxState) (n : Int) {ret : Int} (negative : ret < 0) :
    Counted rx dst size s (if ret ≠ hdfSuccess then ret else n,t) := by
  have failed : ret ≠ hdfSuccess := Int.ne_of_lt negative
  rw [if_pos failed]
  exact counted_refused dst size s t negative

theorem bes_halUartRecv_counted (soc : Platform.Bes.Soc) (uartId : UInt32) (ticks : Nat → UInt32)
    (data fuel : Nat) (done : Int × UInt32 × RxState)
    (returned : Bes.halUartRecv soc uartId ticks rx fuel data size s = some done) :
    Counted rx (some data) size s
      (if done.1 ≠ hdfSuccess then done.1 else done.2.1.toInt32.toInt,done.2.2) := by
  have param : hdfErrInvalidParam < 0 := by decide
  have support : hdfErrNotSupport < 0 := by decide
  unfold Bes.halUartRecv at returned
  split_ifs at returned
  · obtain rfl := Option.some.inj returned
    exact counted_failed _ _ _ param
  · obtain rfl := Option.some.inj returned
    exact counted_failed _ _ _ support
  · obtain ⟨recv,ended,rfl⟩ := Option.map_eq_some_iff.mp returned
    exact read_dma _ data fuel recv ended

theorem wm_halUartRecv_counted (clock : Nat → OsalTimespec) (data fuel : Nat)
    (done : Int × UInt32 × RxState)
    (returned : Wm.halUartRecv clock rx fuel data size s = some done) :
    Counted rx (some data) size s
      (if done.1 ≠ hdfSuccess then done.1 else done.2.1.toInt32.toInt,done.2.2) := by
  have param : hdfErrInvalidParam < 0 := by decide
  unfold Wm.halUartRecv at returned
  split_ifs at returned
  · obtain rfl := Option.some.inj returned
    exact counted_failed _ _ _ param
  · obtain ⟨recv,ended,rfl⟩ := Option.map_eq_some_iff.mp returned
    exact read_dma _ data fuel recv ended

/-- The bes driver, which asks whether there is a byte before it takes one. -/
theorem bes_unblocked_iff (data : Nat) :
    Counted rx (some data) size s (1,if 0 < rx.here 0 s then (rx.read 1 data 1 s).2 else s) ↔
      size ≠ 0 ∧ 0 < rx.here 0 s := by
  split_ifs with readable
  · have later := readable.trans_le (here_mono s (Nat.zero_le 1))
    rw [counted_one_iff,and_iff_left later,and_iff_left readable]
  · exact iff_of_false (not_counted_one (some data) size s) fun both => readable both.2

end Read

/-- What a read answers is what it received, in all modes and with any fifo, exactly where it is
not one of a single byte that has no room for the byte or does not wait for one. -/
theorem uartHostDevRead_counted_iff (driver : Driver) (ctx : UartCtx) (rx : Rx) (data : Option Nat)
    (size : UInt32) (s : RxState) :
    (∀ fuel done, driver.uartHostDevRead ctx rx fuel data size s = some done →
      Counted rx data size s done) ↔ Countable ctx rx data size s := by
  unfold Countable
  cases data with
  | none =>
    refine iff_of_true (fun fuel done returned => ?_) (.inl rfl)
    obtain rfl : (hdfErrInvalidParam,s) = done := by
      cases driver <;> exact Option.some.inj returned
    exact counted_refused none size s s (by decide)
  | some data =>
    rw [or_iff_right (Option.some_ne_none data)]
    by_cases dma : ctx.rxDMA = true
    · refine iff_of_true (fun fuel done returned => ?_) (.inl dma)
      cases driver with
      | bes soc uartId ticks =>
        unfold Driver.uartHostDevRead Bes.uartHostDevRead at returned
        dsimp only at returned
        rw [if_pos dma] at returned
        obtain ⟨recv,ended,rfl⟩ := Option.map_eq_some_iff.mp returned
        exact bes_halUartRecv_counted soc uartId ticks data fuel recv ended
      | wm clock =>
        unfold Driver.uartHostDevRead Wm.uartHostDevRead at returned
        dsimp only at returned
        rw [if_pos dma] at returned
        obtain ⟨recv,ended,rfl⟩ := Option.map_eq_some_iff.mp returned
        exact wm_halUartRecv_counted clock data fuel recv ended
    · rw [or_iff_right dma]
      cases driver with
      | bes soc uartId ticks =>
        rw [← read_one_iff ctx.isBlock data id le_refl _ (bes_unblocked_iff data)]
        unfold Driver.uartHostDevRead Bes.uartHostDevRead
        simp only [if_neg dma]
        rfl
      | wm clock =>
        rw [← read_one_iff ctx.isBlock data Nat.succ Nat.le_succ _ (counted_one_iff size s 0)]
        unfold Driver.uartHostDevRead Wm.uartHostDevRead
        simp only [if_neg dma]

def Rx.silent : Rx where
  stream _ := 0
  arrived _ := 0
  pop := min
  arrived_mono _ _ _ := le_rfl
  pop_le_asked := Nat.min_le_left
  pop_le_here := Nat.min_le_right
  pop_one _ := Nat.min_eq_left

/-- In both drivers a read of 8 bytes that does not wait answers 1 where there is no byte. -/
theorem uartHostDevRead_not_counted :
    (∃ done, (Driver.bes .bes2600 0 fun _ => 0).uartHostDevRead ⟨false,false⟩ .silent 1 (some 0) 8
        ⟨fun _ => 0,0⟩ = some done ∧ ¬ Counted .silent (some 0) 8 ⟨fun _ => 0,0⟩ done) ∧
      ∃ done, (Driver.wm fun _ => ⟨0,0⟩).uartHostDevRead ⟨false,false⟩ .silent 1 (some 0) 8
        ⟨fun _ => 0,0⟩ = some done ∧ ¬ Counted .silent (some 0) 8 ⟨fun _ => 0,0⟩ done := by
  refine ⟨⟨_,rfl,fun counted => ?_⟩,⟨_,rfl,fun counted => ?_⟩⟩
  · obtain ⟨_,_,_,received⟩ := counted 1 rfl
    exact absurd received.taken (by decide)
  · obtain ⟨_,_,_,received⟩ := counted 1 rfl
    exact absurd received.taken (by decide)

end DriversAdapter.Platform.UartRead
