import DriversAdapter.Base.Memory
import DriversAdapter.Base.Word

/-! Receiving in the SPI drivers of the bes and wm boards: a transfer is cut into chunks of what
one DMA transfer can have. -/
namespace DriversAdapter.Platform
open DriversAdapter.Base

def hdfErrTimeout : Int := -7

def spiDmaMax : Nat := 4095

inductive SpiTransferMode
  | dma
  | normal
  deriving DecidableEq

/-- A semaphore with the answers of `LOS_SemPend`, one of which says that the time is over. -/
structure OsalSem where
  valid : Bool
  pend : Nat → UInt32
  errnoSemTimeout : UInt32

def osalSemWait (sem : OsalSem) (i : Nat) : Int :=
  if sem.valid = false then hdfErrInvalidParam
  else if sem.pend i = 0 then hdfSuccess
  else if sem.pend i = sem.errnoSemTimeout then hdfErrTimeout
  else hdfFailure

/-- What comes from the controller, byte after byte, and the answer to each chunk; one that is
accepted, with 0, receives the bytes it asks for, and any other perhaps some. -/
structure SpiHal where
  stream : Bytes
  ret : Nat → Int
  partly : Nat → Nat

structure SpiRecvDone where
  ret : Int
  memory : Bytes
  received : Nat

namespace SpiHal

def recv (hal : SpiHal) (i received data n : Nat) (memory : Bytes) : Bytes :=
  copyBytes memory data hal.stream received (if hal.ret i = 0 then n else min (hal.partly i) n)

/-- The bytes of accepted chunks when this one has been asked for too. -/
def received (hal : SpiHal) (i before n : Nat) : Nat :=
  if hal.ret i = 0 then before + n else before

end SpiHal

namespace SpiBes

/-- The loop over the chunks, of which `i` have been accepted. -/
def halSpiRecvLoop (hal : SpiHal) (sem : OsalSem) (transmode : SpiTransferMode)
    (len i received data : Nat) (memory : Bytes) : SpiRecvDone :=
  let remainder := if len ≤ spiDmaMax then len else spiDmaMax
  let done : SpiRecvDone := ⟨hal.ret i,hal.recv i received data remainder memory,
    hal.received i received remainder⟩
  if transmode = .dma ∧ osalSemWait sem i ≤ 0 then done
  else if hal.ret i ≠ 0 then done
  else if len - remainder = 0 then done
  else halSpiRecvLoop hal sem transmode (len - remainder) (i + 1) done.received
    (data + remainder) done.memory
termination_by len
decreasing_by
  have chunk : remainder ≤ len := by
    unfold remainder
    split <;> omega
  have some_byte : remainder ≠ 0 := by
    unfold remainder spiDmaMax at *
    split <;> omega
  omega

def halSpiRecv (lock : Int) (sem : OsalSem) (hal : SpiHal) (spiDevice : Option SpiTransferMode)
    (data : Option Nat) (size : UInt16) (memory : Bytes) : SpiRecvDone :=
  match spiDevice, data with
  | some transmode, some data =>
    if size = 0 then ⟨hdfErrInvalidParam,memory,0⟩
    else if lock ≠ hdfSuccess then ⟨hdfErrTimeout,memory,0⟩
    else halSpiRecvLoop hal sem transmode size.toNat 0 0 data memory
  | _, _ => ⟨hdfErrInvalidParam,memory,0⟩

end SpiBes

namespace SpiWm

def halSpiRecv (alloc : Bool) (lock : Int) (hal : SpiHal) (spiDevice : Option SpiTransferMode)
    (data : Option Nat) (size : UInt16) (memory : Bytes) : SpiRecvDone :=
  match spiDevice, data with
  | some _, some data =>
    if size = 0 then ⟨hdfErrInvalidParam,memory,0⟩
    else if alloc = false then ⟨hdfErrMallocFail,memory,0⟩
    else if lock ≠ hdfSuccess then ⟨hdfErrTimeout,memory,0⟩
    else
      let len := size.toNat
      let remainder := if len ≤ spiDmaMax then len else spiDmaMax
      ⟨hal.ret 0,hal.recv 0 0 data remainder memory,hal.received 0 0 remainder⟩
  | _, _ => ⟨hdfErrInvalidParam,memory,0⟩

end SpiWm

/-- Success means that all bytes asked for came from the controller, and are in the caller's
buffer in their order. -/
def SpiRecvDone.Complete (done : SpiRecvDone) (hal : SpiHal) (data : Option Nat) (size : UInt16) :
    Prop :=
  done.ret = hdfSuccess → done.received = size.toNat ∧
    ∀ buffer, data = some buffer →
      chunk done.memory buffer size.toNat = chunk hal.stream 0 size.toNat

section Recv
variable {hal : SpiHal} {sem : OsalSem} {transmode : SpiTransferMode} {memory : Bytes}
variable {len i received data : Nat}

/-- The end of a wait is never above 0. -/
theorem osalSemWait_nonpos (sem : OsalSem) (i : Nat) : osalSemWait sem i ≤ 0 := by
  unfold osalSemWait
  split_ifs <;> decide

theorem remainder_le (len : Nat) : (if len ≤ spiDmaMax then len else spiDmaMax) ≤ len := by
  split_ifs <;> omega

theorem remainder_pos (len : Nat) (some_byte : len ≠ 0) :
    0 < if len ≤ spiDmaMax then len else spiDmaMax := by
  unfold spiDmaMax
  split_ifs <;> omega

variable (received data memory) in
/-- Of an accepted chunk all bytes come behind those before it. -/
theorem recv_accepted (accepted : hal.ret i = 0) (n : Nat) :
    hal.received i received n = received + n ∧
      hal.recv i received data n memory = copyBytes memory data hal.stream received n := by
  unfold SpiHal.received SpiHal.recv
  rw [if_pos accepted,if_pos accepted]
  exact ⟨rfl,rfl⟩

variable (i received data memory) in
/-- Without DMA all chunks are asked for. -/
theorem halSpiRecvLoop_normal (normal : transmode ≠ .dma)
    (ok : (SpiBes.halSpiRecvLoop hal sem transmode len i received data memory).ret = 0) :
    (SpiBes.halSpiRecvLoop hal sem transmode len i received data memory).received = received + len ∧
      (SpiBes.halSpiRecvLoop hal sem transmode len i received data memory).memory =
        copyBytes memory data hal.stream received len := by
  induction len using Nat.strong_induction_on generalizing i received data memory with
  | _ len ih =>
    have polled : ¬ (transmode = .dma ∧ osalSemWait sem i ≤ 0) := fun waits => normal waits.1
    have chunk_le := remainder_le len
    have some_byte := remainder_pos len
    rw [SpiBes.halSpiRecvLoop] at ok ⊢
    generalize (if len ≤ spiDmaMax then len else spiDmaMax) = remainder at *
    dsimp only at ok ⊢
    rw [if_neg polled] at ok ⊢
    by_cases refused : hal.ret i ≠ 0
    · rw [if_pos refused] at ok
      exact absurd ok refused
    have accepted := not_not.mp refused
    obtain ⟨count,bytes⟩ := recv_accepted memory received data accepted remainder
    rw [if_neg refused] at ok ⊢
    by_cases last : len - remainder = 0
    · have whole : remainder = len := by omega
      rw [if_pos last,count,bytes,whole]
      exact ⟨rfl,rfl⟩
    · rw [if_neg last,count,bytes] at ok ⊢
      obtain ⟨later,copied⟩ := ih (len - remainder) (by omega) _ _ _ _ ok
      have together : remainder + (len - remainder) = len := by omega
      rw [later,copied,copyBytes_append,Nat.add_assoc,together]
      exact ⟨rfl,rfl⟩

variable (sem transmode len i) in
/-- What a receive answers and how much it receives does not depend on what was in the buffer. -/
theorem halSpiRecvLoop_congr (received data : Nat) (memory theirs : Bytes) :
    (SpiBes.halSpiRecvLoop hal sem transmode len i received data memory).ret =
        (SpiBes.halSpiRecvLoop hal sem transmode len i received data theirs).ret ∧
      (SpiBes.halSpiRecvLoop hal sem transmode len i received data memory).received =
        (SpiBes.halSpiRecvLoop hal sem transmode len i received data theirs).received := by
  induction len using Nat.strong_induction_on generalizing i received data memory theirs with
  | _ len ih =>
    have chunk_le := remainder_le len
    have some_byte := remainder_pos len
    rw [SpiBes.halSpiRecvLoop.eq_1 hal sem transmode len i received data memory,
      SpiBes.halSpiRecvLoop.eq_1 hal sem transmode len i received data theirs]
    generalize (if len ≤ spiDmaMax then len else spiDmaMax) = remainder at *
    dsimp only
    split_ifs with timed refused last
    · exact ⟨rfl,rfl⟩
    · exact ⟨rfl,rfl⟩
    · exact ⟨rfl,rfl⟩
    · exact ih (len - remainder) (by omega) _ _ _ _ _

theorem halSpiRecv_congr (lock : Int) (sem : OsalSem) (hal : SpiHal) (transmode : SpiTransferMode)
    (data : Nat) (size : UInt16) (memory theirs : Bytes) :
    (SpiBes.halSpiRecv lock sem hal (some transmode) (some data) size memory).ret =
        (SpiBes.halSpiRecv lock sem hal (some transmode) (some data) size theirs).ret ∧
      (SpiBes.halSpiRecv lock sem hal (some transmode) (some data) size memory).received =
        (SpiBes.halSpiRecv lock sem hal (some transmode) (some data) size theirs).received := by
  simp only [SpiBes.halSpiRecv]
  split_ifs
  · exact ⟨rfl,rfl⟩
  · exact ⟨rfl,rfl⟩
  · exact halSpiRecvLoop_congr sem transmode size.toNat 0 0 data memory theirs

/-- One chunk, and nothing after it. -/
def SpiHal.oneChunk (hal : SpiHal) (len data : Nat) (memory : Bytes) : SpiRecvDone :=
  let remainder := if len ≤ spiDmaMax then len else spiDmaMax
  ⟨hal.ret 0,hal.recv 0 0 data remainder memory,hal.received 0 0 remainder⟩

variable (memory) in
theorem oneChunk_complete_iff (size : UInt16) :
    (hal.oneChunk size.toNat data memory).Complete hal (some data) size ↔
      (hal.ret 0 = 0 → size.toNat ≤ spiDmaMax) := by
  apply forall_congr'
  intro accepted
  obtain ⟨count,bytes⟩ := recv_accepted memory 0 data accepted
    (if size.toNat ≤ spiDmaMax then size.toNat else spiDmaMax)
  simp only [SpiHal.oneChunk]
  rw [count,bytes,Nat.zero_add]
  split_ifs with fits
  · refine iff_of_true ⟨rfl,?_⟩ fits
    intro buffer same
    cases same
    exact chunk_copyBytes_self memory hal.stream data 0 size.toNat
  · refine iff_of_false ?_ fits
    rintro ⟨whole,_⟩
    omega

/-- A wait is over with 0 at most, and the loop leaves with it. -/
theorem halSpiRecvLoop_dma :
    SpiBes.halSpiRecvLoop hal sem .dma len 0 0 data memory = hal.oneChunk len data memory := by
  rw [SpiBes.halSpiRecvLoop]
  exact if_pos ⟨rfl,osalSemWait_nonpos sem 0⟩

theorem complete_of_failed {done : SpiRecvDone} (buffer : Option Nat) (size : UInt16)
    (failed : done.ret ≠ hdfSuccess) : done.Complete hal buffer size :=
  fun success => absurd success failed

variable (memory) in
theorem bes_complete_iff (lock : Int) (spiDevice : Option SpiTransferMode) (buffer : Option Nat)
    (size : UInt16) :
    (SpiBes.halSpiRecv lock sem hal spiDevice buffer size memory).Complete hal buffer size ↔
      (spiDevice = some .dma → buffer ≠ none → lock = hdfSuccess → hal.ret 0 = 0 →
        size.toNat ≤ spiDmaMax) := by
  have param : hdfErrInvalidParam ≠ hdfSuccess := by decide
  have timeout : hdfErrTimeout ≠ hdfSuccess := by decide
  cases spiDevice with
  | none => exact iff_of_true (complete_of_failed _ _ param) (fun opened => by cases opened)
  | some transmode =>
    cases buffer with
    | none => exact iff_of_true (complete_of_failed _ _ param) (fun _ given => absurd rfl given)
    | some data =>
      simp only [SpiBes.halSpiRecv]
      by_cases empty : size = 0
      · rw [if_pos empty]
        have none : size.toNat = 0 := congrArg UInt16.toNat empty
        exact iff_of_true (complete_of_failed _ _ param) (fun _ _ _ _ => by omega)
      rw [if_neg empty]
      by_cases locked : lock ≠ hdfSuccess
      · rw [if_pos locked]
        exact iff_of_true (complete_of_failed _ _ timeout) (fun _ _ here => absurd here locked)
      rw [if_neg locked,imp_iff_right (Option.some_ne_none data),imp_iff_right (not_not.mp locked)]
      by_cases normal : transmode = .dma
      · rw [normal,halSpiRecvLoop_dma,oneChunk_complete_iff,imp_iff_right rfl]
      · refine iff_of_true (fun ok => ?_) (fun mode => absurd (Option.some.inj mode) normal)
        obtain ⟨count,bytes⟩ := halSpiRecvLoop_normal memory 0 0 data normal ok
        refine ⟨count.trans (Nat.zero_add _),fun buffer same => ?_⟩
        cases same
        rw [bytes]
        exact chunk_copyBytes_self memory hal.stream data 0 size.toNat

variable (memory) in
theorem wm_complete_iff (alloc : Bool) (lock : Int) (spiDevice : Option SpiTransferMode)
    (buffer : Option Nat) (size : UInt16) :
    (SpiWm.halSpiRecv alloc lock hal spiDevice buffer size memory).Complete hal buffer size ↔
      (spiDevice ≠ none → buffer ≠ none → alloc = true → lock = hdfSuccess → hal.ret 0 = 0 →
        size.toNat ≤ spiDmaMax) := by
  have param : hdfErrInvalidParam ≠ hdfSuccess := by decide
  have malloc : hdfErrMallocFail ≠ hdfSuccess := by decide
  have timeout : hdfErrTimeout ≠ hdfSuccess := by decide
  cases spiDevice with
  | none => exact iff_of_true (complete_of_failed _ _ param) (fun opened => absurd rfl opened)
  | some transmode =>
    cases buffer with
    | none => exact iff_of_true (complete_of_failed _ _ param) (fun _ given => absurd rfl given)
    | some data =>
      simp only [SpiWm.halSpiRecv]
      by_cases empty : size = 0
      · rw [if_pos empty]
        have none : size.toNat = 0 := congrArg UInt16.toNat empty
        exact iff_of_true (complete_of_failed _ _ param) (fun _ _ _ _ _ => by omega)
      rw [if_neg empty,imp_iff_right (Option.some_ne_none transmode),
        imp_iff_right (Option.some_ne_none data)]
      by_cases refused : alloc = false
      · rw [if_pos refused]
        exact iff_of_true (complete_of_failed _ _ malloc)
          (fun given => absurd (refused.symm.trans given) Bool.false_ne_true)
      rw [if_neg refused,imp_iff_right (Bool.eq_true_of_not_eq_false refused)]
      by_cases locked : lock ≠ hdfSuccess
      · rw [if_pos locked]
        exact iff_of_true (complete_of_failed _ _ timeout) (fun here => absurd here locked)
      rw [if_neg locked,imp_iff_right (not_not.mp locked)]
      exact oneChunk_complete_iff memory size

end Recv

/-- A receive that succeeds is complete, but for one longer than a chunk: with DMA in the one
driver, in any mode in the other. -/
theorem halSpiRecv_complete_iff (alloc : Bool) (lock : Int) (sem : OsalSem) (hal : SpiHal)
    (spiDevice : Option SpiTransferMode) (data : Option Nat) (size : UInt16) (memory : Bytes) :
    ((SpiBes.halSpiRecv lock sem hal spiDevice data size memory).Complete hal data size ↔
        (spiDevice = some .dma → data ≠ none → lock = hdfSuccess → hal.ret 0 = 0 →
          size.toNat ≤ spiDmaMax)) ∧
      ((SpiWm.halSpiRecv alloc lock hal spiDevice data size memory).Complete hal data size ↔
        (spiDevice ≠ none → data ≠ none → alloc = true → lock = hdfSuccess → hal.ret 0 = 0 →
          size.toNat ≤ spiDmaMax)) :=
  ⟨bes_complete_iff memory lock spiDevice data size,
    wm_complete_iff memory alloc lock spiDevice data size⟩

/-- A HAL that accepts every chunk, and a controller that sends ones. -/
private def eager : SpiHal := ⟨fun _ => 1,fun _ => 0,fun _ => 0⟩

/-- Of 4096 bytes the last does not come, and both return success. -/
theorem halSpiRecv_not_complete :
    ¬ (SpiBes.halSpiRecv hdfSuccess ⟨true,fun _ => 0,1⟩ eager (some .dma) (some 0) 4096
        fun _ => 0).Complete eager (some 0) 4096 ∧
      ¬ (SpiWm.halSpiRecv true hdfSuccess eager (some .normal) (some 0) 4096
        fun _ => 0).Complete eager (some 0) 4096 := by
  have long : ¬ (4096 : UInt16).toNat ≤ spiDmaMax := by decide
  constructor
  · rw [bes_complete_iff]
    intro fits
    exact long (fits rfl (Option.some_ne_none 0) rfl rfl)
  · rw [wm_complete_iff]
    intro fits
    exact long (fits (Option.some_ne_none _) (Option.some_ne_none 0) rfl rfl rfl)

end DriversAdapter.Platform
