import DriversAdapter.Base.UserCopy
import DriversAdapter.Base.Word
import DriversAdapter.Semantics.Heap
import DriversAdapter.Semantics.Slices

/-! Transfers of an SPI device file. Messages at user addresses go through one kernel
allocation: what all of them write comes first, then the room for what they read. -/
namespace DriversAdapter.Platform
open DriversAdapter.Base DriversAdapter.Semantics DriversAdapter.Semantics.Slices

/-- A message; a buffer is an address, if there is one. -/
structure SpiMsg where
  wbuf : Option Nat
  rbuf : Option Nat
  len : UInt32
  speed : UInt32
  delayUs : UInt32
  keepCs : UInt32
  deriving DecidableEq

/-- An array of messages, of which so many are meant. -/
structure SpiIocMsg where
  msg : Nat → SpiMsg
  count : Int32

def SpiIocMsg.vector (umsg : SpiIocMsg) : List SpiMsg :=
  (List.range umsg.count.toInt.toNat).map umsg.msg

/-- The argument of the command, by the kind of its address. -/
inductive SpiIocArg
  | kernel (umsg : SpiIocMsg)
  | user (umsg : Option SpiIocMsg)

inductive SpiBlock
  | umsg
  | msg
  | wbuf
  deriving DecidableEq

/-- What the allocator and the user copies do in one command. -/
structure SpiDevWorld where
  callocUmsg : Bool
  copyUmsg : Option CopyFault
  callocMsg : Bool
  copyMsg : Option CopyFault
  callocData : Bool
  copyIn : Nat → Option CopyFault
  copyOut : Nat → Option CopyFault

/-- What a controller makes of the messages in a memory. -/
structure SpiTransferred (Bus : Type) where
  ret : Int
  memory : Bytes
  bus : Bus

/-- The messages that go to the controller from a kernel allocation. -/
structure SpiStarted where
  msgSize : UInt32
  total : Int32
  size : UInt32
  kmsgs : List SpiMsg
  data : Bytes

structure SpiDevDone (Bus : Type) where
  ret : Int
  caller : Bytes
  started : Option SpiStarted
  controller : Option (SpiTransferred Bus)
  heap : List (Heap.Event SpiBlock)

section Code

/-- The lengths of all messages together, in an `int32_t`. -/
def spiTotal (msgs : List SpiMsg) : Int32 :=
  msgs.foldl (fun len m => (len.toUInt32 + m.len).toInt32) 0

/-- The bytes that are written, one message behind the other, and the messages over them. -/
def spiCopyIn (copyIn : Nat → Option CopyFault) (user : Bytes) (rbuf : Nat) :
    List SpiMsg → Nat → UInt32 → Bytes → Bool × List SpiMsg × Bytes
  | [], _, _, data => (true,[],data)
  | m::rest, i, pos, data =>
    let copied := losCopy (copyIn i) data pos.toNat user (m.wbuf.getD 0) m.len.toNat
    if copied.1 ≠ losOk then (false,[],copied.2)
    else
      let later := spiCopyIn copyIn user rbuf rest (i + 1) (pos + m.len) copied.2
      (later.1,{m with wbuf := some pos.toNat,rbuf := some (rbuf + pos.toNat)}::later.2.1,later.2.2)

/-- What was read, to the buffers of the user. -/
def spiCopyOut (copyOut : Nat → Option CopyFault) (data : Bytes) :
    List (SpiMsg × SpiMsg) → Nat → Bytes → Bool × Bytes
  | [], _, user => (true,user)
  | (m,k)::rest, i, user =>
    let copied := losCopy (copyOut i) user (m.rbuf.getD 0) data (k.rbuf.getD 0) m.len.toNat
    if copied.1 ≠ losOk then (false,copied.2)
    else spiCopyOut copyOut data rest (i + 1) copied.2

variable {Bus : Type} (world : SpiDevWorld)
  (spiCntlrTransfer : List SpiMsg → Bytes → SpiTransferred Bus)

/-- The part of `SpiDevRealTransfer` behind the copies of what is written. -/
def spiDevStart (started : SpiStarted) (msgs : List SpiMsg) (user : Bytes) : SpiDevDone Bus :=
  let heap := [.alloc .wbuf,.free .wbuf]
  let result := spiCntlrTransfer started.kmsgs started.data
  if result.ret ≠ hdfSuccess then ⟨hdfFailure,user,some started,some result,heap⟩
  else
    let back := spiCopyOut world.copyOut result.memory (msgs.zip started.kmsgs) 0 user
    ⟨if back.1 then hdfSuccess else hdfErrIo,back.2,some started,some result,heap⟩

def spiDevRealTransfer (msgSize : UInt32) (msgs : List SpiMsg) (user : Bytes) : SpiDevDone Bus :=
  let len := spiTotal msgs
  let size := (len + len).toUInt32
  if len ≤ 0 then ⟨hdfErrInvalidParam,user,none,none,[]⟩
  else if osalMemCalloc world.callocData size = false then ⟨hdfErrMallocFail,user,none,none,[]⟩
  else
    let made := spiCopyIn world.copyIn user len.toInt.toNat msgs 0 0 zeroed
    if made.1 = false then ⟨hdfErrIo,user,none,none,[.alloc .wbuf,.free .wbuf]⟩
    else
      let started := ⟨msgSize,len,size,made.2.1,made.2.2⟩
      spiDevStart world spiCntlrTransfer started msgs user

/-- The size of the two arrays of messages, of which the second is for the kernel's. -/
def spiMsgSize (sizeofSpiMsg : UInt32) (count : Int32) : UInt32 :=
  sizeofSpiMsg * count.toUInt32 + sizeofSpiMsg * count.toUInt32

/-- The user's message count and array, brought over by `SpiDevGetIocMsgFromUser` and
`SpiDevGetSpiMsgFromUser`. -/
def spiDevUserTransfer (sizeofSpiMsg : UInt32) (umsg : Option SpiIocMsg) (user : Bytes) :
    SpiDevDone Bus :=
  match umsg with
  | none => ⟨hdfErrMallocFail,user,none,none,[]⟩
  | some umsg =>
    if world.callocUmsg = false then ⟨hdfErrMallocFail,user,none,none,[]⟩
    else if world.copyUmsg ≠ none then
      ⟨hdfErrMallocFail,user,none,none,[.alloc .umsg,.free .umsg]⟩
    else if umsg.count ≤ 0 then ⟨hdfErrInvalidObject,user,none,none,[.alloc .umsg,.free .umsg]⟩
    else
      let msgSize := spiMsgSize sizeofSpiMsg umsg.count
      if osalMemCalloc world.callocMsg msgSize = false then
        ⟨hdfErrIo,user,none,none,[.alloc .umsg,.free .umsg]⟩
      else if world.copyMsg ≠ none then
        ⟨hdfErrIo,user,none,none,[.alloc .umsg,.alloc .msg,.free .msg,.free .umsg]⟩
      else
        let done := spiDevRealTransfer world spiCntlrTransfer msgSize umsg.vector user
        {done with heap := [.alloc .umsg,.alloc .msg] ++ done.heap ++ [.free .msg,.free .umsg]}

def spiDevTransfer (sizeofSpiMsg : UInt32) (arg : SpiIocArg) (caller : Bytes) : SpiDevDone Bus :=
  match arg with
  | .kernel umsg =>
    let result := spiCntlrTransfer umsg.vector caller
    ⟨result.ret,result.memory,none,some result,[]⟩
  | .user umsg => spiDevUserTransfer world spiCntlrTransfer sizeofSpiMsg umsg caller

end Code

abbrev spiLens (msgs : List SpiMsg) : List Nat := msgs.map fun m => m.len.toNat

def SpiMsg.wslice (k : SpiMsg) : Slice := (k.wbuf.getD 0,k.len.toNat)

def SpiMsg.rslice (k : SpiMsg) : Slice := (k.rbuf.getD 0,k.len.toNat)

/-- Two messages have no slice in common. -/
structure SpiMsg.Apart (k other : SpiMsg) : Prop where
  ww : k.wslice.Apart other.wslice
  rr : k.rslice.Apart other.rslice
  wr : k.wslice.Apart other.rslice
  rw : k.rslice.Apart other.wslice

/-- The layout that a transfer starts with: nothing wrapped where sizes were worked out, and
every slice in the allocation made for it, apart from those of the other messages. -/
structure SpiStarted.Laid (started : SpiStarted) (sizeofSpiMsg : UInt32) (msgs : List SpiMsg) :
    Prop where
  product : started.msgSize.toNat = 2 * (sizeofSpiMsg.toNat * msgs.length)
  sum : started.total.toInt = (spiLens msgs).sum
  double : (started.total + started.total).toInt = 2 * (spiLens msgs).sum
  buffers : ∀ k ∈ started.kmsgs, k.wbuf ≠ none ∧ k.rbuf ≠ none
  wInside : ∀ k ∈ started.kmsgs, k.wslice.Inside 0 started.size.toNat
  rInside : ∀ k ∈ started.kmsgs, k.rslice.Inside 0 started.size.toNat
  apart : started.kmsgs.Pairwise SpiMsg.Apart

/-- The array of messages has a size in 32 bits, and all lengths together have 30. -/
structure SpiIocMsg.Fits (umsg : SpiIocMsg) (sizeofSpiMsg : UInt32) : Prop where
  product : 2 * (sizeofSpiMsg.toNat * umsg.vector.length) < 2^32
  sum : (spiLens umsg.vector).sum < 2^30

/-- The messages get their buffers: the lengths, cut to 32 bits and read with a sign, come to
something, it is given, and all copies of what is written succeed. -/
structure SpiDevWorld.Lays (world : SpiDevWorld) (msgs : List SpiMsg) : Prop where
  pos : 0 < (spiLens msgs).sum % 2^32
  signed : (spiLens msgs).sum % 2^32 < 2^31
  callocData : world.callocData = true
  copyIn : ∀ i < msgs.length, world.copyIn i = none

structure SpiDevWorld.Starts (world : SpiDevWorld) (sizeofSpiMsg : UInt32) (umsg : SpiIocMsg) :
    Prop where
  callocUmsg : world.callocUmsg = true
  copyUmsg : world.copyUmsg = none
  count : 0 < umsg.count.toInt
  callocMsg : osalMemCalloc world.callocMsg (spiMsgSize sizeofSpiMsg umsg.count) = true
  copyMsg : world.copyMsg = none
  lays : world.Lays umsg.vector

section Layout
variable {copyIn : Nat → Option CopyFault} {user data : Bytes} {rbuf i : Nat} {pos : UInt32}
variable {msgs : List SpiMsg}

theorem spiTotal_toUInt32 (msgs : List SpiMsg) :
    (spiTotal msgs).toUInt32.toNat = (spiLens msgs).sum % 2^32 := by
  have general (len : Int32) : (msgs.foldl (fun len m => (len.toUInt32 + m.len).toInt32)
      len).toUInt32.toNat = (len.toUInt32.toNat + (spiLens msgs).sum) % 2^32 := by
    induction msgs generalizing len with
    | nil =>
      have bound := len.toUInt32.toNat_lt
      exact (Nat.mod_eq_of_lt bound).symm
    | cons m rest ih =>
      have split : (spiLens (m::rest)).sum = m.len.toNat + (spiLens rest).sum := List.sum_cons
      rw [List.foldl_cons,ih,split,UInt32.toUInt32_toInt32,UInt32.toNat_add]
      omega
  have zero : (0 : Int32).toUInt32.toNat = 0 := rfl
  unfold spiTotal
  rw [general,zero,Nat.zero_add]

theorem int32_cases (len : Int32) :
    len.toInt = len.toUInt32.toNat ∧ len.toUInt32.toNat < 2^31 ∨
      len.toInt = len.toUInt32.toNat - 2^32 ∧ 2^31 ≤ len.toUInt32.toNat := by
  have bound := len.toUInt32.toNat_lt
  have bits : len.toUInt32.toNat = len.toBitVec.toNat := rfl
  rw [Int32.toInt,BitVec.toInt_eq_toNat_cond,bits]
  split <;> omega

theorem copyIn_ok_iff : (spiCopyIn copyIn user rbuf msgs i pos data).1 = true ↔
    ∀ n < msgs.length, copyIn (i + n) = none := by
  induction msgs generalizing i pos data with
  | nil => exact iff_of_true rfl (fun n none => absurd none (Nat.not_lt_zero n))
  | cons m rest ih =>
    have first := losCopy_ok_iff (copyIn i) data pos.toNat user (m.wbuf.getD 0) m.len.toNat
    simp only [spiCopyIn]
    split_ifs with failed
    · refine iff_of_false id (fun whole => failed (first.mpr ?_))
      exact whole 0 (Nat.zero_lt_succ _)
    · rw [ih]
      constructor
      · intro later n bound
        cases n with
        | zero => exact first.mp (not_not.mp failed)
        | succ n =>
          have fine := later n (Nat.lt_of_succ_lt_succ bound)
          rwa [Nat.add_right_comm] at fine
      · intro whole n bound
        have fine := whole (n + 1) (Nat.succ_lt_succ bound)
        rwa [Nat.add_right_comm]

/-- A kernel message that stands for the user's, with its bytes; it reads behind all it writes. -/
structure SpiMsg.Stands (user data : Bytes) (rbuf : Nat) (k m : SpiMsg) : Prop where
  len : k.len = m.len
  speed : k.speed = m.speed
  delayUs : k.delayUs = m.delayUs
  keepCs : k.keepCs = m.keepCs
  wbuf : k.wbuf ≠ none
  rbuf : k.rbuf = some (rbuf + k.wslice.1)
  written : chunk data k.wslice.1 k.len.toNat = chunk user (m.wbuf.getD 0) m.len.toNat

theorem copyIn_outside (room : pos.toNat + (spiLens msgs).sum < 2^32) (a : Nat)
    (outside : a < pos.toNat ∨ pos.toNat + (spiLens msgs).sum ≤ a) :
    (spiCopyIn copyIn user rbuf msgs i pos data).2.2 a = data a := by
  induction msgs generalizing i pos data with
  | nil => rfl
  | cons m rest ih =>
    have split : (spiLens (m::rest)).sum = m.len.toNat + (spiLens rest).sum := List.sum_cons
    rw [split] at room outside
    have next : (pos + m.len).toNat = pos.toNat + m.len.toNat := by
      rw [UInt32.toNat_add]
      exact Nat.mod_eq_of_lt (by omega)
    have first := losCopy_outside (copyIn i) data pos.toNat user (m.wbuf.getD 0) m.len.toNat a
      (by omega)
    simp only [spiCopyIn]
    split_ifs
    · exact first
    · exact (ih (by omega) (by omega)).trans first

theorem copyIn_layout (room : pos.toNat + (spiLens msgs).sum < 2^32)
    (ok : (spiCopyIn copyIn user rbuf msgs i pos data).1 = true) :
    (spiCopyIn copyIn user rbuf msgs i pos data).2.1.map SpiMsg.wslice =
        carve pos.toNat (spiLens msgs) ∧
      List.Forall₂ (SpiMsg.Stands user (spiCopyIn copyIn user rbuf msgs i pos data).2.2 rbuf)
        (spiCopyIn copyIn user rbuf msgs i pos data).2.1 msgs := by
  induction msgs generalizing i pos data with
  | nil => exact ⟨rfl,.nil⟩
  | cons m rest ih =>
    have split : (spiLens (m::rest)).sum = m.len.toNat + (spiLens rest).sum := List.sum_cons
    rw [split] at room
    have next : (pos + m.len).toNat = pos.toNat + m.len.toNat := by
      rw [UInt32.toNat_add]
      exact Nat.mod_eq_of_lt (by omega)
    simp only [spiCopyIn] at ok ⊢
    split_ifs at ok ⊢ with failed
    have whole := (losCopy_ok_iff _ _ _ _ _ _).mp (not_not.mp failed)
    obtain ⟨slices,stands⟩ := ih (by omega) ok
    refine ⟨?_,.cons ⟨rfl,rfl,rfl,rfl,Option.some_ne_none _,rfl,?_⟩ stands⟩
    · rw [List.map_cons,slices,next]
      rfl
    · rw [whole]
      have mine := chunk_copyBytes_self data user pos.toNat (m.wbuf.getD 0) m.len.toNat
      refine (chunk_congr _ _ pos.toNat pos.toNat _ fun n bound => ?_).trans mine
      have below : n < m.len.toNat := bound
      exact copyIn_outside (by omega) _ (.inl (by omega))

end Layout

section Started
variable {Bus : Type} {world : SpiDevWorld}
variable {spiCntlrTransfer : List SpiMsg → Bytes → SpiTransferred Bus}
variable {sizeofSpiMsg : UInt32} {umsg : SpiIocMsg} {user : Bytes}

/-- What goes to the controller when the transfer is started. -/
def SpiDevWorld.started (world : SpiDevWorld) (msgSize : UInt32) (msgs : List SpiMsg)
    (user : Bytes) : SpiStarted :=
  let len := spiTotal msgs
  let made := spiCopyIn world.copyIn user len.toInt.toNat msgs 0 0 zeroed
  ⟨msgSize,len,(len + len).toUInt32,made.2.1,made.2.2⟩

/-- A command that fails before the transfer, and leaves nothing behind. -/
structure SpiDevDone.Refused (done : SpiDevDone Bus) (user : Bytes) : Prop where
  ret : done.ret ≠ hdfSuccess
  caller : done.caller = user
  started : done.started = none
  controller : done.controller = none
  freed : Heap.Balanced done.heap

theorem total_pos_iff (msgs : List SpiMsg) : ¬ spiTotal msgs ≤ 0 ↔
    0 < (spiLens msgs).sum % 2^32 ∧ (spiLens msgs).sum % 2^32 < 2^31 := by
  have total := spiTotal_toUInt32 msgs
  have zero : (0 : Int32).toInt = 0 := rfl
  have cases := int32_cases (spiTotal msgs)
  rw [Int32.le_iff_toInt_le,zero]
  omega

theorem double_toNat (len : Int32) :
    (len + len).toUInt32.toNat = 2 * len.toUInt32.toNat % 2^32 := by
  have same : (len + len).toUInt32 = len.toUInt32 + len.toUInt32 := rfl
  rw [same,UInt32.toNat_add,Nat.two_mul]

variable (world spiCntlrTransfer user) in
theorem realTransfer_cases (msgSize : UInt32) (msgs : List SpiMsg) :
    (¬ world.Lays msgs ∧
      (spiDevRealTransfer world spiCntlrTransfer msgSize msgs user).Refused user) ∨
    (world.Lays msgs ∧ spiDevRealTransfer world spiCntlrTransfer msgSize msgs user =
      spiDevStart world spiCntlrTransfer (world.started msgSize msgs user) msgs user) := by
  have param : hdfErrInvalidParam ≠ hdfSuccess := by decide
  have malloc : hdfErrMallocFail ≠ hdfSuccess := by decide
  have io : hdfErrIo ≠ hdfSuccess := by decide
  have total := spiTotal_toUInt32 msgs
  have size := double_toNat (spiTotal msgs)
  have positive := total_pos_iff msgs
  have copied : (spiCopyIn world.copyIn user (spiTotal msgs).toInt.toNat msgs 0 0 zeroed).1 =
      true ↔ ∀ n < msgs.length, world.copyIn (0 + n) = none := copyIn_ok_iff
  simp only [Nat.zero_add] at copied
  simp only [spiDevRealTransfer]
  by_cases none : spiTotal msgs ≤ 0
  · rw [if_pos none]
    exact .inl ⟨fun lays => positive.mpr ⟨lays.pos,lays.signed⟩ none,param,rfl,rfl,rfl,rfl⟩
  obtain ⟨pos,signed⟩ := positive.mp none
  rw [if_neg none]
  by_cases data : osalMemCalloc world.callocData (spiTotal msgs + spiTotal msgs).toUInt32 = false
  · rw [if_pos data]
    refine .inl ⟨fun lays => ?_,malloc,rfl,rfl,rfl,rfl⟩
    have given := (osalMemCalloc_iff world.callocData (spiTotal msgs + spiTotal msgs).toUInt32).mpr
      ⟨by omega,lays.callocData⟩
    exact absurd (data.symm.trans given) Bool.false_ne_true
  have given := ((osalMemCalloc_iff _ _).mp (Bool.eq_true_of_not_eq_false data)).2
  rw [if_neg data]
  by_cases failed : (spiCopyIn world.copyIn user (spiTotal msgs).toInt.toNat msgs 0 0 zeroed).1 = false
  · rw [if_pos failed]
    refine .inl ⟨fun lays => ?_,io,rfl,rfl,rfl,rfl⟩
    exact absurd (failed.symm.trans (copied.mpr lays.copyIn)) Bool.false_ne_true
  · rw [if_neg failed]
    have whole := copied.mp (Bool.eq_true_of_not_eq_false failed)
    exact .inr ⟨⟨pos,signed,given,whole⟩,rfl⟩

variable (world spiCntlrTransfer sizeofSpiMsg umsg user) in
/-- The controller's work on a command, with what was allocated for the command around it. -/
theorem userTransfer_cases :
    (¬ world.Starts sizeofSpiMsg umsg ∧
      (spiDevUserTransfer world spiCntlrTransfer sizeofSpiMsg (some umsg) user).Refused user) ∨
    (world.Starts sizeofSpiMsg umsg ∧
      spiDevUserTransfer world spiCntlrTransfer sizeofSpiMsg (some umsg) user =
        let done := spiDevStart world spiCntlrTransfer
          (world.started (spiMsgSize sizeofSpiMsg umsg.count) umsg.vector user) umsg.vector user
        {done with heap := [.alloc .umsg,.alloc .msg] ++ done.heap ++ [.free .msg,.free .umsg]}) := by
  have malloc : hdfErrMallocFail ≠ hdfSuccess := by decide
  have object : hdfErrInvalidObject ≠ hdfSuccess := by decide
  have io : hdfErrIo ≠ hdfSuccess := by decide
  have zero : (0 : Int32).toInt = 0 := rfl
  have positive : ¬ umsg.count ≤ 0 ↔ 0 < umsg.count.toInt := by
    rw [Int32.le_iff_toInt_le,zero,not_le]
  simp only [spiDevUserTransfer]
  by_cases callocUmsg : world.callocUmsg = false
  · rw [if_pos callocUmsg]
    refine .inl ⟨fun starts => ?_,malloc,rfl,rfl,rfl,rfl⟩
    exact absurd (callocUmsg.symm.trans starts.callocUmsg) Bool.false_ne_true
  rw [if_neg callocUmsg]
  by_cases copyUmsg : world.copyUmsg ≠ none
  · rw [if_pos copyUmsg]
    exact .inl ⟨fun starts => copyUmsg starts.copyUmsg,malloc,rfl,rfl,rfl,rfl⟩
  rw [if_neg copyUmsg]
  by_cases count : umsg.count ≤ 0
  · rw [if_pos count]
    exact .inl ⟨fun starts => positive.mpr starts.count count,object,rfl,rfl,rfl,rfl⟩
  rw [if_neg count]
  by_cases callocMsg :
      osalMemCalloc world.callocMsg (spiMsgSize sizeofSpiMsg umsg.count) = false
  · rw [if_pos callocMsg]
    refine .inl ⟨fun starts => ?_,io,rfl,rfl,rfl,rfl⟩
    exact absurd (callocMsg.symm.trans starts.callocMsg) Bool.false_ne_true
  rw [if_neg callocMsg]
  by_cases copyMsg : world.copyMsg ≠ none
  · rw [if_pos copyMsg]
    exact .inl ⟨fun starts => copyMsg starts.copyMsg,io,rfl,rfl,rfl,rfl⟩
  rw [if_neg copyMsg]
  rcases realTransfer_cases world spiCntlrTransfer user (spiMsgSize sizeofSpiMsg umsg.count)
    umsg.vector with ⟨refused,failed⟩ | ⟨lays,same⟩
  · refine .inl ⟨fun starts => refused starts.lays,failed.ret,failed.caller,failed.started,
      failed.controller,?_⟩
    exact failed.freed.between [.alloc .umsg,.alloc .msg] [.free .msg,.free .umsg] _ rfl rfl
  · refine .inr ⟨⟨Bool.eq_true_of_not_eq_false callocUmsg,not_not.mp copyUmsg,positive.mp count,
      Bool.eq_true_of_not_eq_false callocMsg,not_not.mp copyMsg,lays⟩,?_⟩
    rw [same]

theorem start_balanced (started : SpiStarted) (msgs : List SpiMsg) :
    Heap.Balanced (spiDevStart world spiCntlrTransfer started msgs user).heap := by
  simp only [spiDevStart]
  split_ifs <;> rfl

/-- Every command frees all that it allocated. -/
theorem spiDevTransfer_balanced (arg : SpiIocArg) :
    Heap.Balanced (spiDevTransfer world spiCntlrTransfer sizeofSpiMsg arg user).heap := by
  cases arg with
  | kernel umsg => rfl
  | user umsg =>
    cases umsg with
    | none => rfl
    | some umsg =>
      rcases userTransfer_cases world spiCntlrTransfer sizeofSpiMsg umsg user with
        ⟨_,refused⟩ | ⟨_,same⟩
      · exact refused.freed
      · simp only [spiDevTransfer,same]
        exact (start_balanced _ _).between [.alloc .umsg,.alloc .msg] [.free .msg,.free .umsg] _
          rfl rfl

theorem vector_length_count (count : 0 < umsg.count.toInt) :
    umsg.vector.length = umsg.count.toUInt32.toNat := by
  have cases := int32_cases umsg.count
  have bound := umsg.count.toUInt32.toNat_lt
  have same : umsg.count.toInt.toNat = umsg.count.toUInt32.toNat := by omega
  rw [SpiIocMsg.vector,List.length_map,List.length_range,same]

variable (sizeofSpiMsg) in
theorem msgSize_toNat (count : Int32) : (spiMsgSize sizeofSpiMsg count).toNat =
    2 * (sizeofSpiMsg.toNat * count.toUInt32.toNat) % 2^32 := by
  unfold spiMsgSize
  rw [UInt32.toNat_add,UInt32.toNat_mul]
  omega

/-- A slice that is read lies behind all that is written. -/
theorem stands_apart {data : Bytes} {total : Nat} {k other m n : SpiMsg}
    (stands : k.Stands user data total m) (others : other.Stands user data total n)
    (inside : k.wslice.Inside 0 total) (otherInside : other.wslice.Inside 0 total)
    (ordered : k.wslice.1 + k.wslice.2 ≤ other.wslice.1) : k.Apart other := by
  have mine : k.rslice = (total + k.wslice.1,k.wslice.2) := by
    unfold SpiMsg.rslice
    rw [stands.rbuf]
    rfl
  have theirs : other.rslice = (total + other.wslice.1,other.wslice.2) := by
    unfold SpiMsg.rslice
    rw [others.rbuf]
    rfl
  obtain ⟨_,high⟩ := inside
  obtain ⟨_,otherHigh⟩ := otherInside
  refine ⟨.inl ordered,?_,?_,?_⟩
  · rw [mine,theirs]
    exact .inl (by dsimp only; omega)
  · rw [theirs]
    exact .inl (by dsimp only; omega)
  · rw [mine]
    exact .inr (by dsimp only; omega)

theorem stands_of_mem {data : Bytes} {total : Nat} {kmsgs msgs : List SpiMsg}
    (stands : List.Forall₂ (SpiMsg.Stands user data total) kmsgs msgs) :
    ∀ k ∈ kmsgs, ∃ m, k.Stands user data total m := by
  induction stands with
  | nil => intro k member; cases member
  | cons first _ ih => exact List.forall_mem_cons.mpr ⟨⟨_,first⟩,ih⟩

variable (user) in
theorem started_layout (msgSize : UInt32) (msgs : List SpiMsg) (lays : world.Lays msgs)
    (room : (spiLens msgs).sum < 2^32) :
    (world.started msgSize msgs user).kmsgs.map SpiMsg.wslice = carve 0 (spiLens msgs) ∧
      List.Forall₂ (SpiMsg.Stands user (world.started msgSize msgs user).data
        (spiTotal msgs).toInt.toNat) (world.started msgSize msgs user).kmsgs msgs := by
  have zero : (0 : UInt32).toNat = 0 := rfl
  have ok : (spiCopyIn world.copyIn user (spiTotal msgs).toInt.toNat msgs 0 0 zeroed).1 = true := by
    rw [copyIn_ok_iff]
    intro n bound
    rw [Nat.zero_add]
    exact lays.copyIn n bound
  exact copyIn_layout (by omega) ok

theorem started_laid (msgSize : UInt32) (msgs : List SpiMsg) (lays : world.Lays msgs)
    (product : msgSize.toNat = 2 * (sizeofSpiMsg.toNat * msgs.length))
    (sum : (spiLens msgs).sum < 2^30) :
    (world.started msgSize msgs user).Laid sizeofSpiMsg msgs := by
  have bits := spiTotal_toUInt32 msgs
  have cases := int32_cases (spiTotal msgs)
  have double := double_toNat (spiTotal msgs)
  have doubleCases := int32_cases (spiTotal msgs + spiTotal msgs)
  have total : (spiTotal msgs).toInt.toNat = (spiLens msgs).sum := by omega
  obtain ⟨slices,stands⟩ := started_layout user msgSize msgs lays (by omega)
  have inside : ∀ k ∈ (world.started msgSize msgs user).kmsgs,
      k.wslice.Inside 0 (spiLens msgs).sum := by
    intro k member
    have carved := carve_inside 0 (spiLens msgs) k.wslice
    rw [← slices] at carved
    exact carved (List.mem_map_of_mem member)
  refine ⟨product,by simp only [SpiDevWorld.started]; omega,
    by simp only [SpiDevWorld.started]; omega,?_,?_,?_,?_⟩
  · intro k member
    obtain ⟨m,stand⟩ := stands_of_mem stands k member
    exact ⟨stand.wbuf,by rw [stand.rbuf]; exact Option.some_ne_none _⟩
  · intro k member
    obtain ⟨_,high⟩ := inside k member
    refine ⟨Nat.zero_le _,?_⟩
    simp only [SpiDevWorld.started]
    omega
  · intro k member
    obtain ⟨_,high⟩ := inside k member
    obtain ⟨m,stand⟩ := stands_of_mem stands k member
    refine ⟨Nat.zero_le _,?_⟩
    have place : k.rslice.1 = (spiTotal msgs).toInt.toNat + k.wslice.1 := by
      unfold SpiMsg.rslice
      rw [stand.rbuf]
      rfl
    have len : k.rslice.2 = k.wslice.2 := rfl
    simp only [SpiDevWorld.started]
    omega
  · have ordered : (world.started msgSize msgs user).kmsgs.Pairwise
        fun k other => k.wslice.1 + k.wslice.2 ≤ other.wslice.1 := by
      have carved := carve_ordered 0 (spiLens msgs)
      rw [← slices] at carved
      exact List.pairwise_map.mp carved
    apply ordered.imp_of_mem
    intro k other mine theirs before
    obtain ⟨m,stand⟩ := stands_of_mem stands k mine
    obtain ⟨n,others⟩ := stands_of_mem stands other theirs
    have first := inside k mine
    have second := inside other theirs
    rw [← total] at first second
    exact stands_apart stand others first second before

variable (user) in
theorem started_laid_iff (starts : world.Starts sizeofSpiMsg umsg) :
    (world.started (spiMsgSize sizeofSpiMsg umsg.count) umsg.vector user).Laid sizeofSpiMsg
      umsg.vector ↔ umsg.Fits sizeofSpiMsg := by
  have length := vector_length_count starts.count
  have size := msgSize_toNat sizeofSpiMsg umsg.count
  rw [← length] at size
  constructor
  · intro laid
    have bound := (spiMsgSize sizeofSpiMsg umsg.count).toNat_lt
    have product := laid.product
    have double := laid.double
    have high := (spiTotal umsg.vector + spiTotal umsg.vector).toInt_lt
    simp only [SpiDevWorld.started] at product double
    exact ⟨by omega,by omega⟩
  · intro fits
    have product := fits.product
    exact started_laid _ _ starts.lays (by omega) fits.sum

theorem start_started (started : SpiStarted) (msgs : List SpiMsg) :
    (spiDevStart world spiCntlrTransfer started msgs user).started = some started := by
  simp only [spiDevStart]
  split_ifs <;> rfl

end Started

/-- A user's transfer that is started is laid out well exactly where the sizes fit. -/
theorem spiDevTransfer_laid_iff {Bus : Type} (world : SpiDevWorld)
    (spiCntlrTransfer : List SpiMsg → Bytes → SpiTransferred Bus) (sizeofSpiMsg : UInt32)
    (umsg : SpiIocMsg) (user : Bytes) :
    (∀ started, (spiDevTransfer world spiCntlrTransfer sizeofSpiMsg (.user (some umsg))
        user).started = some started → started.Laid sizeofSpiMsg umsg.vector) ↔
      (world.Starts sizeofSpiMsg umsg → umsg.Fits sizeofSpiMsg) := by
  simp only [spiDevTransfer]
  rcases userTransfer_cases world spiCntlrTransfer sizeofSpiMsg umsg user with
    ⟨fails,refused⟩ | ⟨starts,same⟩
  · refine iff_of_true (fun started here => ?_) (fun starts => absurd starts fails)
    rw [refused.started] at here
    cases here
  · rw [imp_iff_right starts,← started_laid_iff user starts,same]
    simp only [start_started,Option.some.injEq]
    exact forall_eq'

private def wrapped : SpiIocMsg :=
  ⟨fun i => if i = 0 then ⟨some 0x1000000,some 0x1000000,0x80000000,0,0,0⟩
    else ⟨some 0x1000000,some 0x1000000,0x80000001,0,0,0⟩,2⟩

private def given : SpiDevWorld := ⟨true,none,true,none,true,fun _ => none,fun _ => none⟩

/-- The allocation has two bytes, and the first message is to write 2 GiB from it. -/
theorem spiDevTransfer_not_laid : ∃ started,
    (spiDevTransfer given (fun _ memory => ⟨hdfSuccess,memory,()⟩) 24 (.user (some wrapped))
      zeroed).started = some started ∧ ¬ started.Laid 24 wrapped.vector := by
  refine ⟨_,rfl,fun laid => ?_⟩
  have inside := laid.wInside _ List.mem_cons_self
  have high := inside.2
  revert high
  decide

end DriversAdapter.Platform
