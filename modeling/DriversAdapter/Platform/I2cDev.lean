import DriversAdapter.Base.UserCopy
import DriversAdapter.Base.Word
import DriversAdapter.Semantics.Heap

/-! Reads and writes of an I2C device file. The count of a call becomes the length of one
message, which has 16 bits, and on success the answer, which has 32 and a sign. -/
namespace DriversAdapter.Platform
open DriversAdapter.Base DriversAdapter.Semantics

def i2cMRd : UInt16 := 0x0001
def i2cM16BitReg : UInt16 := 0x0002
def i2cM16BitData : UInt16 := 0x0008
def i2cMTen : UInt16 := 0x0010

/-- The controller core's flag, which a user's message brings as `I2C_M_RD`. -/
def i2cFlagRead : UInt16 := i2cMRd
def i2cFlagStop : UInt16 := 0x8000

structure I2cClient (Handle : Type) where
  handle : Handle
  addr : UInt16
  flags : UInt16

/-- A message of the kernel; its buffer is a place in the one the call allocated. -/
structure I2cMsg where
  addr : UInt16
  flags : UInt16
  len : UInt16
  buf : Option Nat
  deriving DecidableEq

def I2cMsg.Reads (msg : I2cMsg) : Prop := msg.flags &&& i2cMRd ≠ 0

instance (msg : I2cMsg) : Decidable msg.Reads := inferInstanceAs (Decidable (_ ≠ _))

/-- What a controller answers, and what it leaves in the buffers. -/
structure I2cAnswer where
  ret : Int32
  data : Bytes

/-- The controller took the message, or said that it took none. -/
def I2cAnswer.Taken (answer : I2cAnswer) : Prop := answer.ret = 1 ∨ answer.ret = 0

instance (answer : I2cAnswer) : Decidable answer.Taken := inferInstanceAs (Decidable (_ ∨ _))

/-- A call of `I2cTransfer`, with the buffers before and after it. -/
structure I2cTransfer (Handle : Type) where
  handle : Handle
  msgs : List I2cMsg
  before : Bytes
  answer : I2cAnswer

namespace I2cTransfer
variable {Handle : Type} (bus : I2cTransfer Handle)

def payload (msg : I2cMsg) : Block :=
  chunk (if msg.Reads then bus.answer.data else bus.before) (msg.buf.getD 0) msg.len.toNat

/-- The answer is the number of messages that went over the bus. -/
def completed : List Block :=
  if 0 ≤ bus.answer.ret.toInt ∧ bus.answer.ret.toInt ≤ bus.msgs.length then
    (bus.msgs.take bus.answer.ret.toInt.toNat).map bus.payload
  else []

end I2cTransfer

/-- What the allocator, the user copy and the controller do in one read or write. -/
structure I2cFsWorld where
  calloc : Bool
  copy : Option CopyFault
  answer : I2cAnswer

structure I2cFsDone (Handle : Type) where
  ret : Int
  user : Bytes
  bus : Option (I2cTransfer Handle)
  heap : List (Heap.Event Unit)

namespace I2cFsDone
variable {Handle : Type}

def onBus (done : I2cFsDone Handle) : List Block :=
  (done.bus.map I2cTransfer.completed).getD []

/-- Of a count that is returned, just so many bytes went over the bus, and they are those at
the start of the user's buffer; a count too big for one message is never returned. -/
structure CountExact (done : I2cFsDone Handle) (buf : Nat) (count : UInt32) : Prop where
  messages : 0 ≤ done.ret → done.onBus.length ≤ 1
  bytes : 0 ≤ done.ret → chunk done.user buf done.ret.toNat = done.onBus.flatten
  short : 2^16 ≤ count.toNat → done.ret ≠ count.toNat

end I2cFsDone

section Code
variable {Handle : Type}

def i2cTransferOne (answer : I2cAnswer) (handle : Handle) (addr : UInt16) (buf : Bytes)
    (len : Int16) (flags : UInt16) : Int × I2cTransfer Handle :=
  let msg : I2cMsg := ⟨addr,flags,len.toUInt16,some 0⟩
  (if answer.ret = 1 then hdfSuccess else answer.ret.toInt,⟨handle,[msg],buf,answer⟩)

def i2cCntlrRead (answer : I2cAnswer) (handle : Handle) (addr : UInt16) (buf : Bytes) (len : Int16)
    (flags : UInt16) : Int × I2cTransfer Handle :=
  i2cTransferOne answer handle addr buf len (flags ||| i2cFlagRead)

def i2cCntlrWrite (answer : I2cAnswer) (handle : Handle) (addr : UInt16) (buf : Bytes)
    (len : Int16) (flags : UInt16) : Int × I2cTransfer Handle :=
  i2cTransferOne answer handle addr buf len (flags &&& ~~~i2cFlagRead)

/-- `ssize_t` has the width of `size_t`, and a sign. -/
def countOr0 (ret : Int) (count : UInt32) : Int :=
  if ret = hdfSuccess then count.toInt32.toInt else 0

variable (world : I2cFsWorld) (client : Option (I2cClient Handle)) (user : Bytes) (buf : Nat)
  (count : UInt32)

def i2cFsRead : I2cFsDone Handle :=
  match client with
  | none => ⟨0,user,none,[]⟩
  | some client =>
    if osalMemCalloc world.calloc count = false then ⟨0,user,none,[]⟩
    else
      let sent := i2cCntlrRead world.answer client.handle client.addr zeroed
        count.toUInt16.toInt16 client.flags
      if sent.1 = hdfSuccess then
        let copied := losCopy world.copy user buf sent.2.answer.data 0 count.toNat
        let ret := if copied.1 ≠ losOk then hdfErrIo else sent.1
        ⟨countOr0 ret count,copied.2,some sent.2,[.alloc (),.free ()]⟩
      else ⟨countOr0 sent.1 count,user,some sent.2,[.alloc (),.free ()]⟩

def i2cFsWrite : I2cFsDone Handle :=
  match client with
  | none => ⟨0,user,none,[]⟩
  | some client =>
    if osalMemCalloc world.calloc count = false then ⟨0,user,none,[]⟩
    else
      let copied := losCopy world.copy zeroed 0 user buf count.toNat
      if copied.1 ≠ losOk then ⟨0,user,none,[.alloc (),.free ()]⟩
      else
        let sent := i2cCntlrWrite world.answer client.handle client.addr copied.2
          count.toUInt16.toInt16 client.flags
        ⟨countOr0 sent.1 count,user,some sent.2,[.alloc (),.free ()]⟩

/-- The controller takes the message, and the count has a place in it or the answer a minus;
where the user's buffer gave way, nothing was to be transferred. -/
structure I2cReadFits : Prop where
  whole : world.answer.ret = 1 → world.copy = none → count.toNat < 2^16 ∨ 2^31 ≤ count.toNat
  fault : world.answer.ret = 1 → world.copy ≠ none → 2^16 ∣ count.toNat
  none_sent : world.answer.ret = 0 → world.copy = none → 2^31 ≤ count.toNat

structure I2cWriteFits : Prop where
  whole : world.answer.ret = 1 → count.toNat < 2^16 ∨ 2^31 ≤ count.toNat
  none_sent : world.answer.ret = 0 → 2^31 ≤ count.toNat

end Code

namespace I2cFsDone
variable {Handle : Type} {done : I2cFsDone Handle} {buf : Nat} {count : UInt32} {sent : Block}

theorem countExact_zero (ret : done.ret = 0) (onBus : done.onBus.flatten = [])
    (messages : done.onBus.length ≤ 1) : done.CountExact buf count := by
  refine ⟨fun _ => messages,fun _ => ?_,fun big => ?_⟩
  · rw [ret,onBus]
    rfl
  · rw [ret]
    omega

theorem countExact_nothing (ret : done.ret = 0) (onBus : done.onBus = []) :
    done.CountExact buf count :=
  countExact_zero ret (by rw [onBus]; rfl) (by rw [onBus]; exact Nat.zero_le 1)

/-- The whole count is returned for one message with as much of it as has room. -/
theorem countExact_whole_iff (ret : done.ret = count.toInt32.toInt) (onBus : done.onBus = [sent])
    (length : sent.length = count.toNat % 2^16)
    (same : chunk done.user buf (count.toNat % 2^16) = sent) :
    done.CountExact buf count ↔ count.toNat < 2^16 ∨ 2^31 ≤ count.toNat := by
  have sizes := toInt32_cases count
  constructor
  · intro exact_count
    by_contra between
    have short := exact_count.short
    rw [ret] at short
    omega
  · intro fits
    refine ⟨fun _ => by rw [onBus]; exact Nat.le_refl 1,fun nonneg => ?_,fun big => ?_⟩
    · have back : done.ret.toNat = count.toNat % 2^16 := by omega
      rw [back,same,onBus,List.flatten_singleton]
    · omega

theorem countExact_none_iff (ret : done.ret = count.toInt32.toInt) (onBus : done.onBus = [])
    (some_byte : count.toNat ≠ 0) : done.CountExact buf count ↔ 2^31 ≤ count.toNat := by
  have sizes := toInt32_cases count
  constructor
  · intro exact_count
    by_contra small
    have bytes := congrArg List.length (exact_count.bytes (by omega))
    rw [onBus,chunk_length] at bytes
    simp only [List.flatten_nil,List.length_nil] at bytes
    omega
  · intro big
    exact ⟨fun nonneg => by omega,fun nonneg => by omega,fun _ => by omega⟩

theorem countExact_fault_iff (ret : done.ret = 0) (onBus : done.onBus = [sent])
    (length : sent.length = count.toNat % 2^16) :
    done.CountExact buf count ↔ 2^16 ∣ count.toNat := by
  rw [Nat.dvd_iff_mod_eq_zero,← length]
  constructor
  · intro exact_count
    have bytes := congrArg List.length (exact_count.bytes (by omega))
    rw [onBus,chunk_length,List.flatten_singleton] at bytes
    omega
  · intro empty
    apply countExact_zero ret
    · rw [onBus,List.flatten_singleton]
      exact List.length_eq_zero_iff.mp empty
    · rw [onBus]
      exact Nat.le_refl 1

end I2cFsDone

section Exact
variable {Handle : Type} {world : I2cFsWorld} {client : I2cClient Handle} {user : Bytes} {buf : Nat}
variable {count : UInt32} {answer : I2cAnswer} {handle : Handle} {addr flags : UInt16}
variable {kbuf : Bytes} {len : Int16}

theorem set_and_self (flags bit : UInt16) : (flags ||| bit) &&& bit = bit := by
  apply UInt16.toBitVec_inj.1
  ext i
  simp only [UInt16.toBitVec_and,UInt16.toBitVec_or,BitVec.getElem_and,BitVec.getElem_or]
  cases bit.toBitVec[i] <;> simp

theorem clear_and_self (flags bit : UInt16) : (flags &&& ~~~bit) &&& bit = 0 := by
  rw [UInt16.and_assoc,UInt16.not_and_self,UInt16.and_zero]

theorem reads_of_read (buf : Option Nat) (len : UInt16) :
    (I2cMsg.mk addr (flags ||| i2cFlagRead) len buf).Reads := by
  have some_bit : i2cMRd ≠ 0 := by decide
  have set := set_and_self flags i2cFlagRead
  exact fun clear => some_bit (set.symm.trans clear)

theorem not_reads_of_write (buf : Option Nat) (len : UInt16) :
    ¬ (I2cMsg.mk addr (flags &&& ~~~i2cFlagRead) len buf).Reads :=
  not_not.mpr (clear_and_self flags i2cFlagRead)

/-- One message goes over the bus or none. -/
theorem completed_one (msg : I2cMsg) :
    (I2cTransfer.mk handle [msg] kbuf answer).completed =
      if answer.ret = 1 then [(I2cTransfer.mk handle [msg] kbuf answer).payload msg] else [] := by
  have one : answer.ret = 1 ↔ answer.ret.toInt = 1 := Int32.toInt_inj.symm
  unfold I2cTransfer.completed
  rw [if_congr one rfl rfl]
  simp only [List.length_singleton]
  split_ifs with range sent sent
  · rw [sent]
    rfl
  · have zero : answer.ret.toInt.toNat = 0 := by omega
    rw [zero]
    rfl
  · omega
  · rfl

theorem completed_read : (i2cCntlrRead answer handle addr kbuf len flags).2.completed =
    if answer.ret = 1 then [chunk answer.data 0 len.toUInt16.toNat] else [] := by
  unfold i2cCntlrRead i2cTransferOne
  rw [completed_one,I2cTransfer.payload,if_pos (reads_of_read _ _)]
  rfl

theorem completed_write : (i2cCntlrWrite answer handle addr kbuf len flags).2.completed =
    if answer.ret = 1 then [chunk kbuf 0 len.toUInt16.toNat] else [] := by
  unfold i2cCntlrWrite i2cTransferOne
  rw [completed_one,I2cTransfer.payload,if_neg (not_reads_of_write _ _)]
  rfl

theorem ret_transferOne : (i2cTransferOne answer handle addr kbuf len flags).1 = hdfSuccess ↔
    answer.Taken := by
  have zero : answer.ret = 0 ↔ answer.ret.toInt = 0 := Int32.toInt_inj.symm
  simp only [i2cTransferOne]
  split_ifs with sent
  · simp only [I2cAnswer.Taken,sent,true_or]
  · simp only [I2cAnswer.Taken,sent,false_or,zero,hdfSuccess]

theorem I2cClient.ret_read (client : I2cClient Handle) (answer : I2cAnswer) (kbuf : Bytes)
    (len : Int16) : (i2cCntlrRead answer client.handle client.addr kbuf len
      client.flags).1 = hdfSuccess ↔ answer.Taken := ret_transferOne

theorem I2cClient.ret_write (client : I2cClient Handle) (answer : I2cAnswer) (kbuf : Bytes)
    (len : Int16) : (i2cCntlrWrite answer client.handle client.addr kbuf len
      client.flags).1 = hdfSuccess ↔ answer.Taken := ret_transferOne

theorem sentLength (count : UInt32) :
    count.toUInt16.toInt16.toUInt16.toNat = count.toNat % 2^16 := by
  rw [UInt16.toUInt16_toInt16,UInt32.toNat_toUInt16]

variable (client user buf)

theorem i2cFsRead_bus (given : osalMemCalloc world.calloc count = true) :
    (i2cFsRead world (some client) user buf count).onBus =
      if world.answer.ret = 1 then [chunk world.answer.data 0 (count.toNat % 2^16)] else [] := by
  have same : (i2cFsRead world (some client) user buf count).bus =
      some (i2cCntlrRead world.answer client.handle client.addr zeroed
        count.toUInt16.toInt16 client.flags).2 := by
    simp only [i2cFsRead,given,Bool.true_eq_false,if_false]
    split_ifs <;> rfl
  rw [I2cFsDone.onBus,same]
  exact completed_read.trans (by rw [sentLength])

theorem i2cFsRead_taken (given : osalMemCalloc world.calloc count = true)
    (taken : world.answer.Taken) (copied : world.copy = none) :
    (i2cFsRead world (some client) user buf count).ret = count.toInt32.toInt ∧
      (i2cFsRead world (some client) user buf count).user =
        copyBytes user buf world.answer.data 0 count.toNat := by
  have ok := (client.ret_read world.answer zeroed count.toUInt16.toInt16).mpr taken
  simp only [i2cFsRead,given,ok,copied,losCopy,Bool.true_eq_false,if_false,if_true,ne_eq,
    not_true_eq_false,countOr0]
  exact ⟨trivial,rfl⟩

theorem i2cFsRead_zero (given : osalMemCalloc world.calloc count = true)
    (stopped : world.answer.Taken → world.copy ≠ none) :
    (i2cFsRead world (some client) user buf count).ret = 0 := by
  have ok := client.ret_read world.answer zeroed count.toUInt16.toInt16
  have failed : hdfErrIo ≠ hdfSuccess := by decide
  simp only [i2cFsRead,given,Bool.true_eq_false,if_false]
  by_cases taken : world.answer.Taken
  · rw [if_pos (ok.mpr taken)]
    have fault := fun done => stopped taken ((losCopy_ok_iff _ user buf world.answer.data 0
      count.toNat).mp done)
    exact (congrArg (countOr0 · count) (if_pos fault)).trans (if_neg failed)
  · have failure := fun success => taken (ok.mp success)
    rw [if_neg failure]
    exact if_neg failure

/-- A read is exact in what it returns on just these answers. -/
theorem i2cFsRead_exact_iff (given : osalMemCalloc world.calloc count = true)
    (some_byte : count.toNat ≠ 0) :
    (i2cFsRead world (some client) user buf count).CountExact buf count ↔
      I2cReadFits world count := by
  have onBus := i2cFsRead_bus client user buf given
  have length : (chunk world.answer.data 0 (count.toNat % 2^16)).length = count.toNat % 2^16 :=
    chunk_length _ _ _
  have zero_one : (0 : Int32) ≠ 1 := by decide
  by_cases copied : world.copy = none
  · have here := fun taken => i2cFsRead_taken client user buf given taken copied
    by_cases sent : world.answer.ret = 1
    · obtain ⟨ret,copy⟩ := here (.inl sent)
      rw [if_pos sent] at onBus
      have same : chunk (i2cFsRead world (some client) user buf count).user buf
          (count.toNat % 2^16) = chunk world.answer.data 0 (count.toNat % 2^16) := by
        rw [copy]
        apply chunk_congr
        intro i bound
        have below := Nat.mod_le count.toNat (2^16)
        unfold copyBytes
        rw [if_pos (by omega),Nat.add_sub_cancel_left]
      rw [I2cFsDone.countExact_whole_iff ret onBus length same]
      constructor
      · exact fun fits => ⟨fun _ _ => fits,fun _ stopped => absurd copied stopped,
          fun zero => absurd (zero.symm.trans sent) zero_one⟩
      · exact fun fits => fits.whole sent copied
    · rw [if_neg sent] at onBus
      by_cases zero : world.answer.ret = 0
      · rw [I2cFsDone.countExact_none_iff (here (.inr zero)).1 onBus some_byte]
        constructor
        · exact fun fits => ⟨fun one => absurd one sent,fun one => absurd one sent,
            fun _ _ => fits⟩
        · exact fun fits => fits.none_sent zero copied
      · have ret := i2cFsRead_zero client user buf given
          (fun taken => absurd taken (not_or.mpr ⟨sent,zero⟩))
        exact iff_of_true (I2cFsDone.countExact_nothing ret onBus)
          ⟨fun one => absurd one sent,fun one => absurd one sent,fun none => absurd none zero⟩
  · have ret := i2cFsRead_zero client user buf given
      (fun _ => copied)
    by_cases sent : world.answer.ret = 1
    · rw [if_pos sent] at onBus
      rw [I2cFsDone.countExact_fault_iff ret onBus length]
      constructor
      · exact fun whole => ⟨fun _ none => absurd none copied,fun _ _ => whole,
          fun _ none => absurd none copied⟩
      · exact fun fits => fits.fault sent copied
    · rw [if_neg sent] at onBus
      exact iff_of_true (I2cFsDone.countExact_nothing ret onBus)
        ⟨fun one => absurd one sent,fun one => absurd one sent,fun _ none => absurd none copied⟩

theorem i2cFsWrite_copied (given : osalMemCalloc world.calloc count = true)
    (copied : world.copy = none) :
    (i2cFsWrite world (some client) user buf count).ret =
        (if world.answer.Taken then count.toInt32.toInt else 0) ∧
      (i2cFsWrite world (some client) user buf count).user = user ∧
      (i2cFsWrite world (some client) user buf count).onBus =
        if world.answer.ret = 1 then [chunk user buf (count.toNat % 2^16)] else [] := by
  let kbuf := copyBytes zeroed 0 user buf count.toNat
  have ok := client.ret_write world.answer kbuf count.toUInt16.toInt16
  have sent : (i2cCntlrWrite world.answer client.handle client.addr kbuf
      count.toUInt16.toInt16 client.flags).2.completed = _ := completed_write
  have onBus : chunk (copyBytes zeroed 0 user buf count.toNat) 0 (count.toNat % 2^16) =
      chunk user buf (count.toNat % 2^16) := by
    apply chunk_congr
    intro i bound
    have below := Nat.mod_le count.toNat (2^16)
    unfold copyBytes
    rw [if_pos (by omega),Nat.zero_add,Nat.sub_zero]
  rw [sentLength,onBus] at sent
  simp only [i2cFsWrite,given,copied,losCopy,Bool.true_eq_false,if_false,ne_eq,not_true_eq_false]
  refine ⟨?_,trivial,sent⟩
  unfold countOr0
  rw [if_congr ok rfl rfl]

variable (count) in
theorem i2cFsWrite_stopped (copied : world.copy ≠ none) :
    (i2cFsWrite world (some client) user buf count).ret = 0 ∧
      (i2cFsWrite world (some client) user buf count).onBus = [] := by
  have fault := fun done => copied ((losCopy_ok_iff _ zeroed 0 user buf count.toNat).mp done)
  simp only [i2cFsWrite]
  split_ifs
  · exact ⟨rfl,rfl⟩
  · exact ⟨rfl,rfl⟩

theorem i2cFsWrite_exact_iff (given : osalMemCalloc world.calloc count = true)
    (some_byte : count.toNat ≠ 0) :
    (i2cFsWrite world (some client) user buf count).CountExact buf count ↔
      (world.copy = none → I2cWriteFits world count) := by
  by_cases copied : world.copy = none
  · obtain ⟨ret,same,onBus⟩ := i2cFsWrite_copied client user buf given copied
    have zero_one : (0 : Int32) ≠ 1 := by decide
    rw [imp_iff_right copied]
    by_cases sent : world.answer.ret = 1
    · rw [if_pos sent] at onBus
      rw [if_pos (.inl sent)] at ret
      rw [I2cFsDone.countExact_whole_iff ret onBus (chunk_length _ _ _) (by rw [same])]
      constructor
      · exact fun fits => ⟨fun _ => fits,fun zero => absurd (zero.symm.trans sent) zero_one⟩
      · exact fun fits => fits.whole sent
    · rw [if_neg sent] at onBus
      by_cases zero : world.answer.ret = 0
      · rw [if_pos (.inr zero)] at ret
        rw [I2cFsDone.countExact_none_iff ret onBus some_byte]
        constructor
        · exact fun fits => ⟨fun one => absurd one sent,fun _ => fits⟩
        · exact fun fits => fits.none_sent zero
      · have nothing : ¬ world.answer.Taken := not_or.mpr ⟨sent,zero⟩
        rw [if_neg nothing] at ret
        exact iff_of_true (I2cFsDone.countExact_nothing ret onBus)
          ⟨fun one => absurd one sent,fun none => absurd none zero⟩
  · obtain ⟨ret,onBus⟩ := i2cFsWrite_stopped client user buf count copied
    exact iff_of_true (I2cFsDone.countExact_nothing ret onBus) (fun none => absurd none copied)

/-- The kernel's buffer is freed on every way out of a call that got one. -/
theorem i2cFs_balanced (client : Option (I2cClient Handle)) :
    Heap.Balanced (i2cFsRead world client user buf count).heap ∧
      Heap.Balanced (i2cFsWrite world client user buf count).heap := by
  cases client with
  | none => exact ⟨rfl,rfl⟩
  | some client =>
    simp only [i2cFsRead,i2cFsWrite]
    refine ⟨?_,?_⟩
    · split_ifs <;> rfl
    · split_ifs <;> rfl

theorem i2cFs_refused (client : Option (I2cClient Handle))
    (refused : client = none ∨ osalMemCalloc world.calloc count = false) :
    i2cFsRead world client user buf count = ⟨0,user,none,[]⟩ ∧
      i2cFsWrite world client user buf count = ⟨0,user,none,[]⟩ := by
  cases client with
  | none => exact ⟨rfl,rfl⟩
  | some client =>
    have given := refused.resolve_left (Option.some_ne_none client)
    exact ⟨if_pos given,if_pos given⟩

end Exact

/-- The reads and the writes that return a count are exact on just these answers. -/
theorem i2cFs_exact_iff {Handle : Type} (world : I2cFsWorld) (client : Option (I2cClient Handle))
    (user : Bytes) (buf : Nat) (count : UInt32) :
    ((i2cFsRead world client user buf count).CountExact buf count ↔
        (client ≠ none → osalMemCalloc world.calloc count = true → I2cReadFits world count)) ∧
      ((i2cFsWrite world client user buf count).CountExact buf count ↔
        (client ≠ none → osalMemCalloc world.calloc count = true → world.copy = none →
          I2cWriteFits world count)) := by
  by_cases refused : client = none ∨ osalMemCalloc world.calloc count = false
  · obtain ⟨read,write⟩ := i2cFs_refused user buf client refused
    have vacuous : client ≠ none → osalMemCalloc world.calloc count ≠ true := by
      intro opened given
      have neither : ¬ (client = none ∨ osalMemCalloc world.calloc count = false) := by
        simp [opened,given]
      exact neither refused
    rw [read,write]
    have exact_count : (⟨0,user,none,[]⟩ : I2cFsDone Handle).CountExact buf count :=
      I2cFsDone.countExact_nothing rfl rfl
    exact ⟨iff_of_true exact_count fun opened given => absurd given (vacuous opened),
      iff_of_true exact_count fun opened given => absurd given (vacuous opened)⟩
  · obtain ⟨opened,got⟩ := not_or.mp refused
    have given : osalMemCalloc world.calloc count = true := by simpa using got
    obtain ⟨mine,rfl⟩ := Option.ne_none_iff_exists'.mp opened
    have some_byte := ((osalMemCalloc_iff _ _).mp given).1
    rw [i2cFsRead_exact_iff mine user buf given some_byte,
      i2cFsWrite_exact_iff mine user buf given some_byte,
      imp_iff_right opened,imp_iff_right given,imp_iff_right opened,imp_iff_right given]
    exact ⟨Iff.rfl,Iff.rfl⟩

/-- A message for 65537 bytes has a length of one. -/
theorem i2cFsRead_not_exact :
    ¬ (i2cFsRead ⟨true,none,⟨1,zeroed⟩⟩ (some (⟨(),0x50,0⟩ : I2cClient Unit)) zeroed 0
      65537).CountExact 0 65537 := by
  rw [i2cFsRead_exact_iff _ _ _ (by decide) (by decide)]
  intro fits
  have small := fits.whole rfl rfl
  revert small
  decide

end DriversAdapter.Platform
