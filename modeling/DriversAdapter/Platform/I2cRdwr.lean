import DriversAdapter.Platform.I2cDev
import DriversAdapter.Semantics.Slices
import Mathlib.Data.List.Forall2

/-! Combined transfers of an I2C device file. One kernel buffer is carved up for all the
messages of a request; what they read goes back to the user's buffers when all of them have
been transferred. -/
namespace DriversAdapter.Platform
open DriversAdapter.Base DriversAdapter.Semantics DriversAdapter.Semantics.Slices

def i2cRdwrIoctlMaxMsgs : UInt32 := 42
def i2cBufMax : UInt32 := 8192

/-- A message of the user, with the address of its buffer. -/
structure I2cMsgUser where
  addr : UInt16
  flags : UInt16
  len : UInt16
  buf : Nat

/-- The user's array of messages, if there is one, and how many of them are meant. -/
structure I2cIoctlWrap where
  msgs : Option (Nat → I2cMsgUser)
  nmsgs : UInt32

def I2cIoctlWrap.vector (wrap : I2cIoctlWrap) : List I2cMsgUser :=
  match wrap.msgs with
  | none => []
  | some msgs => (List.range wrap.nmsgs.toNat).map msgs

namespace I2cMsgUser

def Reads (u : I2cMsgUser) : Prop := u.flags &&& i2cMRd ≠ 0

instance (u : I2cMsgUser) : Decidable u.Reads := inferInstanceAs (Decidable (_ ≠ _))

def slice (u : I2cMsgUser) : Slice := (u.buf,u.len.toNat)

end I2cMsgUser

def I2cMsg.slice (k : I2cMsg) : Slice := (k.buf.getD 0,k.len.toNat)

/-- What a request allocates; a place in the data stands for the pointer to it. -/
inductive I2cBlock
  | msgs
  | data (place : Nat)
  deriving DecidableEq

/-- What the allocator, the user copies and the controller do in one request. -/
structure I2cRdwrWorld where
  copyWrap : Option CopyFault
  callocMsgs : Bool
  copyMsgs : Option CopyFault
  callocData : Bool
  copyIn : Nat → Option CopyFault
  answer : I2cAnswer
  copyBack : Nat → Option CopyFault

/-- The answer of a copy whose bytes are a structure of the model. -/
def copyRet (fault : Option CopyFault) : Int :=
  match fault with
  | none => losOk
  | some fault => fault.ret

structure I2cCreated where
  ret : Int
  kMsgs : List I2cMsg
  uMsgs : List I2cMsgUser
  data : Bytes
  bufLen : UInt32
  heap : List (Heap.Event I2cBlock)

structure I2cRdwrDone (Handle : Type) where
  ret : Int
  user : Bytes
  bus : Option (I2cTransfer Handle)
  bufLen : UInt32
  heap : List (Heap.Event I2cBlock)

section Code

def i2cMsgInitFromUser (fault : Option CopyFault) (u : I2cMsgUser) (place : Nat)
    (user data : Bytes) : Int × I2cMsg × Bytes :=
  let k : I2cMsg := ⟨u.addr,u.flags,u.len,some place⟩
  if u.Reads then (hdfSuccess,k,data)
  else
    let copied := losCopy fault data place user u.buf u.len.toNat
    (if copied.1 = losOk then hdfSuccess else hdfErrIo,k,copied.2)

def i2cMsgBackToUser (fault : Option CopyFault) (k : I2cMsg) (u : I2cMsgUser)
    (data user : Bytes) : Int × Bytes :=
  if ¬ k.Reads then (hdfSuccess,user)
  else
    let copied := losCopy fault user u.buf data (k.buf.getD 0) k.len.toNat
    (if copied.1 = losOk then hdfSuccess else hdfErrIo,copied.2)

def i2cMsgsCopyBackToUser (faults : Nat → Option CopyFault) (data : Bytes) :
    List (I2cMsg × I2cMsgUser) → Nat → Bytes → Int × Bytes
  | [], _, user => (hdfSuccess,user)
  | (k,u)::rest, i, user =>
    let first := i2cMsgBackToUser (faults i) k u data user
    if first.1 ≠ hdfSuccess then first
    else i2cMsgsCopyBackToUser faults data rest (i + 1) first.2

def i2cMsgsDestroy (kMsgs : List I2cMsg) : List (Heap.Event I2cBlock) :=
  match kMsgs with
  | ⟨_,_,_,some place⟩::_ => [.free (.data place),.free .msgs]
  | _ => [.free .msgs]

/-- The lengths of all messages together; none may be empty or without a buffer. -/
def i2cMsgsLength : List I2cMsgUser → UInt32 → Option UInt32
  | [], bufLen => some bufLen
  | u::rest, bufLen =>
    if u.buf = 0 ∨ u.len = 0 then none else i2cMsgsLength rest (bufLen + u.len.toUInt32)

/-- A message as the allocation leaves it. -/
def I2cMsg.blank : I2cMsg := ⟨0,0,0,none⟩

def i2cMsgsInit (faults : Nat → Option CopyFault) (user : Bytes) :
    List I2cMsgUser → Nat → Nat → Bytes → Int × List I2cMsg × Bytes
  | [], _, _, data => (hdfSuccess,[],data)
  | u::rest, i, place, data =>
    let first := i2cMsgInitFromUser (faults i) u place user data
    if first.1 ≠ hdfSuccess then (first.1,first.2.1::rest.map (fun _ => .blank),first.2.2)
    else
      let later := i2cMsgsInit faults user rest (i + 1) (place + u.len.toNat) first.2.2
      (later.1,first.2.1::later.2.1,later.2.2)

def i2cMsgsCreateFromUser (world : I2cRdwrWorld) (user : Bytes) (uMsgs : List I2cMsgUser) :
    I2cCreated :=
  if world.callocMsgs = false then ⟨hdfErrMallocFail,[],[],zeroed,0,[]⟩
  else
    let kMsgs := uMsgs.map fun _ => I2cMsg.blank
    if copyRet world.copyMsgs ≠ losOk then
      ⟨copyRet world.copyMsgs,kMsgs,uMsgs,zeroed,0,.alloc .msgs::i2cMsgsDestroy kMsgs⟩
    else match i2cMsgsLength uMsgs 0 with
    | none => ⟨hdfErrInvalidParam,kMsgs,uMsgs,zeroed,0,.alloc .msgs::i2cMsgsDestroy kMsgs⟩
    | some bufLen =>
      if i2cBufMax ≤ bufLen then
        ⟨hdfErrInvalidParam,kMsgs,uMsgs,zeroed,0,.alloc .msgs::i2cMsgsDestroy kMsgs⟩
      else if osalMemCalloc world.callocData bufLen = false then
        ⟨hdfErrMallocFail,kMsgs,uMsgs,zeroed,0,.alloc .msgs::i2cMsgsDestroy kMsgs⟩
      else
        let made := i2cMsgsInit world.copyIn user uMsgs 0 0 zeroed
        let heap := [.alloc .msgs,.alloc (.data 0)]
        if made.1 ≠ hdfSuccess then
          ⟨made.1,made.2.1,uMsgs,made.2.2,bufLen,heap ++ i2cMsgsDestroy made.2.1⟩
        else ⟨hdfSuccess,made.2.1,uMsgs,made.2.2,bufLen,heap⟩

variable {Handle : Type}

/-- The part of `I2cIoctlReadWrite` behind the preparation. -/
def i2cRdwrTransfer (world : I2cRdwrWorld) (client : I2cClient Handle) (nmsgs : UInt32)
    (created : I2cCreated) (user : Bytes) : I2cRdwrDone Handle :=
  let bus : I2cTransfer Handle := ⟨client.handle,created.kMsgs,created.data,world.answer⟩
  let heap := created.heap ++ i2cMsgsDestroy created.kMsgs
  if bus.answer.ret.toUInt32 = nmsgs then
    let back := i2cMsgsCopyBackToUser world.copyBack bus.answer.data
      (created.kMsgs.zip created.uMsgs) 0 user
    ⟨back.1,back.2,some bus,created.bufLen,heap⟩
  else ⟨bus.answer.ret.toInt,user,some bus,created.bufLen,heap⟩

def i2cIoctlReadWrite (world : I2cRdwrWorld) (client : I2cClient Handle)
    (arg : Option I2cIoctlWrap) (user : Bytes) : I2cRdwrDone Handle :=
  match arg with
  | none => ⟨hdfErrInvalidParam,user,none,0,[]⟩
  | some wrap =>
    if copyRet world.copyWrap ≠ losOk then ⟨hdfErrIo,user,none,0,[]⟩
    else if wrap.msgs = none ∨ wrap.nmsgs = 0 ∨ i2cRdwrIoctlMaxMsgs < wrap.nmsgs then
      ⟨hdfErrInvalidParam,user,none,0,[]⟩
    else
      let created := i2cMsgsCreateFromUser world user wrap.vector
      if created.ret ≠ hdfSuccess then ⟨created.ret,user,none,created.bufLen,created.heap⟩
      else i2cRdwrTransfer world client wrap.nmsgs created user

end Code

/-- A kernel message that stands for the user's, and brings its bytes where it writes. -/
structure I2cMsgUser.Carried (user data : Bytes) (k : I2cMsg) (u : I2cMsgUser) : Prop where
  addr : k.addr = u.addr
  flags : k.flags = u.flags
  len : k.len = u.len
  buf : k.buf ≠ none
  written : ¬ u.Reads → chunk data (k.buf.getD 0) k.len.toNat = chunk user u.buf u.len.toNat

/-- What a request has to have done: for the messages given to the controller, on success,
to the rest of the user's memory and to its own allocations. -/
structure I2cRdwrDone.Meets {Handle : Type} (done : I2cRdwrDone Handle) (world : I2cRdwrWorld)
    (uMsgs : List I2cMsgUser) (user : Bytes) : Prop where
  inside : ∀ bus, done.bus = some bus → ∀ k ∈ bus.msgs, k.slice.Inside 0 done.bufLen.toNat
  apart : ∀ bus, done.bus = some bus → (bus.msgs.map I2cMsg.slice).Pairwise Slice.Apart
  carried : ∀ bus, done.bus = some bus →
    List.Forall₂ (I2cMsgUser.Carried user bus.before) bus.msgs uMsgs
  transferred : done.ret = hdfSuccess → ∃ bus, done.bus = some bus ∧
    bus.completed.length = uMsgs.length
  copied : done.ret = hdfSuccess → ∀ i u, uMsgs[i]? = some u → u.Reads → world.copyBack i = none
  returned : done.ret = hdfSuccess → ∀ bus, done.bus = some bus → ∀ before k u after,
    bus.msgs.zip uMsgs = before ++ (k,u)::after → u.Reads →
    (∀ later ∈ after, later.2.Reads → u.slice.Apart later.2.slice) →
      chunk done.user u.buf u.len.toNat = bus.payload k
  untouched : ∀ a, (∀ u ∈ uMsgs, u.Reads → a < u.buf ∨ u.buf + u.len.toNat ≤ a) →
    done.user a = user a
  freed : Heap.Balanced done.heap

section Create
variable {faults : Nat → Option CopyFault} {fault : Option CopyFault} {user data : Bytes}
variable {us : List I2cMsgUser} {u : I2cMsgUser} {place i : Nat}

abbrev msgLens (us : List I2cMsgUser) : List Nat := us.map fun u => u.len.toNat

theorem i2cMsgsLength_some (bufLen total : UInt32) (got : i2cMsgsLength us bufLen = some total)
    (room : bufLen.toNat + us.length * 2^16 < 2^32) :
    total.toNat = bufLen.toNat + (msgLens us).sum ∧ ∀ u ∈ us, u.buf ≠ 0 ∧ u.len ≠ 0 := by
  induction us generalizing bufLen with
  | nil =>
    cases got
    exact ⟨rfl,fun u member => by cases member⟩
  | cons u rest ih =>
    simp only [i2cMsgsLength] at got
    split at got
    next => contradiction
    next good =>
      have bound := u.len.toNat_lt
      rw [List.length_cons] at room
      have next : (bufLen + u.len.toUInt32).toNat = bufLen.toNat + u.len.toNat := by
        rw [UInt32.toNat_add,UInt16.toNat_toUInt32]
        exact Nat.mod_eq_of_lt (by omega)
      obtain ⟨sum,others⟩ := ih _ got (by omega)
      refine ⟨?_,List.forall_mem_cons.mpr ⟨not_or.mp good,others⟩⟩
      have split : (msgLens (u::rest)).sum = u.len.toNat + (msgLens rest).sum := List.sum_cons
      rw [sum,next,split,Nat.add_assoc]

theorem i2cMsgsLength_of_good (bufLen : UInt32) (good : ∀ u ∈ us, u.buf ≠ 0 ∧ u.len ≠ 0) :
    ∃ total, i2cMsgsLength us bufLen = some total := by
  induction us generalizing bufLen with
  | nil => exact ⟨bufLen,rfl⟩
  | cons u rest ih =>
    obtain ⟨first,others⟩ := List.forall_mem_cons.mp good
    simp only [i2cMsgsLength]
    rw [if_neg (not_or.mpr first)]
    exact ih _ others

theorem init_ok_iff : (i2cMsgInitFromUser fault u place user data).1 = hdfSuccess ↔
    (¬ u.Reads → fault = none) := by
  have failed : hdfErrIo ≠ hdfSuccess := by decide
  have copied := losCopy_ok_iff fault data place user u.buf u.len.toNat
  unfold i2cMsgInitFromUser
  dsimp only
  split_ifs with reads ok
  · exact iff_of_true rfl (fun writes => absurd reads writes)
  · exact iff_of_true rfl (fun _ => copied.mp ok)
  · exact iff_of_false failed (fun whole => ok (copied.mpr (whole reads)))

theorem init_msg : (i2cMsgInitFromUser fault u place user data).2.1 =
    ⟨u.addr,u.flags,u.len,some place⟩ := by
  unfold i2cMsgInitFromUser
  dsimp only
  split_ifs <;> rfl

theorem init_outside (a : Nat) (outside : a < place ∨ place + u.len.toNat ≤ a) :
    (i2cMsgInitFromUser fault u place user data).2.2 a = data a := by
  unfold i2cMsgInitFromUser
  dsimp only
  split_ifs
  · rfl
  · exact losCopy_outside _ _ _ _ _ _ _ outside
  · exact losCopy_outside _ _ _ _ _ _ _ outside

theorem init_written (writes : ¬ u.Reads) (whole : fault = none) :
    chunk (i2cMsgInitFromUser fault u place user data).2.2 place u.len.toNat =
      chunk user u.buf u.len.toNat := by
  subst fault
  unfold i2cMsgInitFromUser
  dsimp only
  rw [if_neg writes]
  exact chunk_copyBytes_self _ _ _ _ _

/-- Every message has its slice, in the order of the messages, with the bytes it writes. -/
structure Placed (user data : Bytes) (place : Nat) (kMsgs : List I2cMsg) (us : List I2cMsgUser) :
    Prop where
  slices : kMsgs.map I2cMsg.slice = carve place (msgLens us)
  carried : List.Forall₂ (I2cMsgUser.Carried user data) kMsgs us

theorem msgsInit_ok_iff : (i2cMsgsInit faults user us i place data).1 = hdfSuccess ↔
    ∀ n u, us[n]? = some u → ¬ u.Reads → faults (i + n) = none := by
  induction us generalizing i place data with
  | nil => exact iff_of_true rfl (fun n u got => by cases got)
  | cons u rest ih =>
    have first : (i2cMsgInitFromUser (faults i) u place user data).1 = hdfSuccess ↔
        (¬ u.Reads → faults i = none) := init_ok_iff
    simp only [i2cMsgsInit]
    split_ifs with ok
    · refine iff_of_false ok (fun whole => ok (first.mpr ?_))
      exact whole 0 u rfl
    · rw [ih]
      constructor
      · intro later n v got writes
        cases n with
        | zero =>
          cases got
          exact first.mp (not_not.mp ok) writes
        | succ n =>
          have fine := later n v got writes
          rwa [Nat.add_right_comm] at fine
      · intro whole n v got writes
        have fine := whole (n + 1) v got writes
        rwa [Nat.add_right_comm]

theorem msgsInit_outside (a : Nat) (outside : a < place ∨ place + (msgLens us).sum ≤ a) :
    (i2cMsgsInit faults user us i place data).2.2 a = data a := by
  induction us generalizing i place data with
  | nil => rfl
  | cons u rest ih =>
    have split : (msgLens (u::rest)).sum = u.len.toNat + (msgLens rest).sum := List.sum_cons
    rw [split] at outside
    have first : (i2cMsgInitFromUser (faults i) u place user data).2.2 a = data a :=
      init_outside a (by omega)
    simp only [i2cMsgsInit]
    split_ifs
    · exact first
    · exact (ih (by omega)).trans first

variable (faults user data us u place i) in
theorem msgsInit_head : ∃ k rest, (i2cMsgsInit faults user (u::us) i place data).2.1 = k::rest ∧
    k.buf = some place := by
  simp only [i2cMsgsInit,init_msg]
  split_ifs
  · exact ⟨_,_,rfl,rfl⟩
  · exact ⟨_,_,rfl,rfl⟩

theorem msgsInit_placed (ok : (i2cMsgsInit faults user us i place data).1 = hdfSuccess) :
    Placed user (i2cMsgsInit faults user us i place data).2.2 place
      (i2cMsgsInit faults user us i place data).2.1 us := by
  induction us generalizing i place data with
  | nil => exact ⟨rfl,.nil⟩
  | cons u rest ih =>
    simp only [i2cMsgsInit,init_msg] at ok ⊢
    split_ifs at ok ⊢ with failed
    · exact absurd ok failed
    · obtain ⟨slices,carried⟩ := ih ok
      refine ⟨?_,.cons ⟨rfl,rfl,rfl,Option.some_ne_none _,fun writes => ?_⟩ carried⟩
      · rw [List.map_cons,slices]
        rfl
      · have mine : chunk (i2cMsgInitFromUser (faults i) u place user data).2.2 place
            u.len.toNat = chunk user u.buf u.len.toNat :=
          init_written writes (init_ok_iff.mp (not_not.mp failed) writes)
        refine (chunk_congr _ _ place place _ fun n bound => ?_).trans mine
        have below : n < u.len.toNat := bound
        exact msgsInit_outside _ (.inl (by omega))

end Create

section CopyBack
variable {faults : Nat → Option CopyFault} {fault : Option CopyFault} {data user : Bytes}
variable {pairs : List (I2cMsg × I2cMsgUser)} {k : I2cMsg} {u : I2cMsgUser} {i : Nat}

theorem back_ok_iff : (i2cMsgBackToUser fault k u data user).1 = hdfSuccess ↔
    (k.Reads → fault = none) := by
  have failed : hdfErrIo ≠ hdfSuccess := by decide
  have copied := losCopy_ok_iff fault user u.buf data (k.buf.getD 0) k.len.toNat
  unfold i2cMsgBackToUser
  dsimp only
  split_ifs with reads ok
  · exact iff_of_true rfl (fun _ => copied.mp ok)
  · exact iff_of_false failed (fun whole => ok (copied.mpr (whole reads)))
  · exact iff_of_true rfl (fun here => absurd here reads)

theorem back_outside (a : Nat) (len : k.len = u.len)
    (outside : k.Reads → a < u.buf ∨ u.buf + u.len.toNat ≤ a) :
    (i2cMsgBackToUser fault k u data user).2 a = user a := by
  unfold i2cMsgBackToUser
  dsimp only
  rw [len]
  split_ifs with reads
  · exact losCopy_outside _ _ _ _ _ _ _ (outside reads)
  · exact losCopy_outside _ _ _ _ _ _ _ (outside reads)
  · rfl

theorem back_read (reads : k.Reads) (whole : fault = none) :
    chunk (i2cMsgBackToUser fault k u data user).2 u.buf k.len.toNat =
      chunk data (k.buf.getD 0) k.len.toNat := by
  subst fault
  unfold i2cMsgBackToUser
  dsimp only
  rw [if_neg (not_not.mpr reads)]
  exact chunk_copyBytes_self _ _ _ _ _

/-- A kernel message that goes with the user's. -/
def Paired (pair : I2cMsg × I2cMsgUser) : Prop :=
  pair.1.len = pair.2.len ∧ (pair.1.Reads ↔ pair.2.Reads)

theorem copyBack_ok_iff : (i2cMsgsCopyBackToUser faults data pairs i user).1 = hdfSuccess ↔
    ∀ n pair, pairs[n]? = some pair → pair.1.Reads → faults (i + n) = none := by
  induction pairs generalizing i user with
  | nil => exact iff_of_true rfl (fun n pair got => by cases got)
  | cons pair rest ih =>
    have first : (i2cMsgBackToUser (faults i) pair.1 pair.2 data user).1 = hdfSuccess ↔
        (pair.1.Reads → faults i = none) := back_ok_iff
    simp only [i2cMsgsCopyBackToUser]
    split_ifs with ok
    · refine iff_of_false ok (fun whole => ok (first.mpr ?_))
      exact whole 0 pair rfl
    · rw [ih]
      constructor
      · intro later n other got reads
        cases n with
        | zero =>
          cases got
          exact first.mp (not_not.mp ok) reads
        | succ n =>
          have fine := later n other got reads
          rwa [Nat.add_right_comm] at fine
      · intro whole n other got reads
        have fine := whole (n + 1) other got reads
        rwa [Nat.add_right_comm]

theorem copyBack_outside (a : Nat) (paired : ∀ pair ∈ pairs, Paired pair)
    (outside : ∀ pair ∈ pairs, pair.2.Reads →
      a < pair.2.buf ∨ pair.2.buf + pair.2.len.toNat ≤ a) :
    (i2cMsgsCopyBackToUser faults data pairs i user).2 a = user a := by
  induction pairs generalizing i user with
  | nil => rfl
  | cons pair rest ih =>
    obtain ⟨mine,others⟩ := List.forall_mem_cons.mp paired
    obtain ⟨here,later⟩ := List.forall_mem_cons.mp outside
    have first : (i2cMsgBackToUser (faults i) pair.1 pair.2 data user).2 a = user a :=
      back_outside a mine.1 fun reads => here (mine.2.mp reads)
    simp only [i2cMsgsCopyBackToUser]
    split_ifs
    · exact first
    · exact (ih others later).trans first

/-- After all copies a user's buffer has what its message read, unless a later one wrote on it. -/
theorem copyBack_read (paired : ∀ pair ∈ pairs, Paired pair)
    (ok : (i2cMsgsCopyBackToUser faults data pairs i user).1 = hdfSuccess)
    (before after : List (I2cMsg × I2cMsgUser)) (k : I2cMsg) (u : I2cMsgUser)
    (here : pairs = before ++ (k,u)::after) (reads : u.Reads)
    (later : ∀ other ∈ after, other.2.Reads → u.slice.Apart other.2.slice) :
    chunk (i2cMsgsCopyBackToUser faults data pairs i user).2 u.buf u.len.toNat =
      chunk data (k.buf.getD 0) k.len.toNat := by
  induction before generalizing pairs i user with
  | nil =>
    subst pairs
    obtain ⟨mine,others⟩ := List.forall_mem_cons.mp paired
    simp only [List.nil_append,i2cMsgsCopyBackToUser] at ok ⊢
    split_ifs at ok ⊢ with failed
    · exact absurd ok failed
    · have kReads : k.Reads := mine.2.mpr reads
      have read : chunk (i2cMsgBackToUser (faults i) k u data user).2 u.buf k.len.toNat =
          chunk data (k.buf.getD 0) k.len.toNat :=
        back_read kReads (back_ok_iff.mp (not_not.mp failed) kReads)
      have len : k.len = u.len := mine.1
      rw [← read,len]
      apply chunk_congr
      intro n bound
      apply copyBack_outside _ others
      intro other member otherReads
      have apart := later other member otherReads
      simp only [Slice.Apart,I2cMsgUser.slice] at apart
      omega
  | cons first before ih =>
    subst pairs
    obtain ⟨mine,others⟩ := List.forall_mem_cons.mp paired
    simp only [List.cons_append,i2cMsgsCopyBackToUser] at ok ⊢
    split_ifs at ok ⊢ with failed
    · exact absurd ok failed
    · exact ih others ok rfl

end CopyBack

/-- A request whose messages come to the controller: everything that its allocations and
copies need is given, no message is without a buffer or bytes, and together they have room. -/
structure I2cRdwrWorld.Prepares (world : I2cRdwrWorld) (uMsgs : List I2cMsgUser) : Prop where
  callocMsgs : world.callocMsgs = true
  copyMsgs : world.copyMsgs = none
  good : ∀ u ∈ uMsgs, u.buf ≠ 0 ∧ u.len ≠ 0
  fits : (msgLens uMsgs).sum < 8192
  callocData : world.callocData = true
  copyIn : ∀ n u, uMsgs[n]? = some u → ¬ u.Reads → world.copyIn n = none

/-- A preparation that gave up, with nothing left allocated. -/
structure I2cCreated.Failed (created : I2cCreated) : Prop where
  ret : created.ret ≠ hdfSuccess
  freed : Heap.Balanced created.heap

/-- The request is ready for the controller. -/
structure I2cCreated.Ready (created : I2cCreated) (user : Bytes) (uMsgs : List I2cMsgUser) :
    Prop where
  ret : created.ret = hdfSuccess
  same : created.uMsgs = uMsgs
  placed : Placed user created.data 0 created.kMsgs uMsgs
  bufLen : created.bufLen.toNat = (msgLens uMsgs).sum
  freed : Heap.Balanced (created.heap ++ i2cMsgsDestroy created.kMsgs)

section Created
variable {world : I2cRdwrWorld} {user : Bytes} {uMsgs : List I2cMsgUser}

theorem copyRet_ok_iff (fault : Option CopyFault) : copyRet fault = losOk ↔ fault = none := by
  cases fault with
  | none => exact iff_of_true rfl rfl
  | some fault => exact iff_of_false fault.failed (Option.some_ne_none fault)

theorem destroy_blank (us : List I2cMsgUser) :
    i2cMsgsDestroy (us.map fun _ => I2cMsg.blank) = [.free .msgs] := by
  cases us <;> rfl

theorem destroy_head (k : I2cMsg) (rest : List I2cMsg) (place : Nat) (buf : k.buf = some place) :
    i2cMsgsDestroy (k::rest) = [.free (.data place),.free .msgs] := by
  obtain ⟨addr,flags,len,_⟩ := k
  subst buf
  rfl

variable (world user) in
theorem create_cases (some_msg : uMsgs ≠ []) (few : uMsgs.length ≤ 42) :
    (¬ world.Prepares uMsgs ∧ (i2cMsgsCreateFromUser world user uMsgs).Failed) ∨
      (world.Prepares uMsgs ∧ (i2cMsgsCreateFromUser world user uMsgs).Ready user uMsgs) := by
  obtain ⟨u,rest,rfl⟩ := List.exists_cons_of_ne_nil some_msg
  have malloc : hdfErrMallocFail ≠ hdfSuccess := by decide
  have param : hdfErrInvalidParam ≠ hdfSuccess := by decide
  have copied := copyRet_ok_iff world.copyMsgs
  unfold i2cMsgsCreateFromUser
  split_ifs with msgs copy
  · refine .inl ⟨fun prepares => ?_,malloc,rfl⟩
    rw [prepares.callocMsgs] at msgs
    contradiction
  · refine .inl ⟨fun prepares => copy (copied.mpr prepares.copyMsgs),copy,?_⟩
    dsimp only
    rw [destroy_blank]
    rfl
  · cases length : i2cMsgsLength (u::rest) 0 with
    | none =>
      refine .inl ⟨fun prepares => ?_,param,?_⟩
      · obtain ⟨total,got⟩ := i2cMsgsLength_of_good 0 prepares.good
        rw [length] at got
        contradiction
      · dsimp only
        rw [destroy_blank]
        rfl
    | some bufLen =>
      have room : (0 : UInt32).toNat + (u::rest).length * 2^16 < 2^32 := by
        have zero : (0 : UInt32).toNat = 0 := rfl
        omega
      obtain ⟨total,good⟩ := i2cMsgsLength_some 0 bufLen length room
      have sum : bufLen.toNat = (msgLens (u::rest)).sum := total.trans (Nat.zero_add _)
      dsimp only
      split_ifs with big data made
      · refine .inl ⟨fun prepares => ?_,param,?_⟩
        · have small := prepares.fits
          have large : 8192 ≤ bufLen.toNat := UInt32.le_iff_toNat_le.mp big
          omega
        · dsimp only
          rw [destroy_blank]
          rfl
      · refine .inl ⟨fun prepares => ?_,malloc,?_⟩
        · have some_byte : bufLen.toNat ≠ 0 := by
            have first : u.len.toNat ≠ 0 := fun zero =>
              (good u List.mem_cons_self).2 (UInt16.toNat_inj.mp zero)
            have split : (msgLens (u::rest)).sum = u.len.toNat + (msgLens rest).sum :=
              List.sum_cons
            omega
          have given := (osalMemCalloc_iff _ _).mpr ⟨some_byte,prepares.callocData⟩
          rw [given] at data
          contradiction
        · dsimp only
          rw [destroy_blank]
          rfl
      · refine .inl ⟨fun prepares => ?_,made,?_⟩
        · apply made
          apply msgsInit_ok_iff.mpr
          intro n v got writes
          rw [Nat.zero_add]
          exact prepares.copyIn n v got writes
        · obtain ⟨k,others,same,buf⟩ := msgsInit_head world.copyIn user zeroed rest u 0 0
          dsimp only
          rw [same,destroy_head k others 0 buf]
          rfl
      · have ok := not_not.mp made
        have given := ((osalMemCalloc_iff _ _).mp (Bool.eq_true_of_not_eq_false data)).2
        have limit : bufLen.toNat < 8192 :=
          Nat.lt_of_not_le fun large => big (UInt32.le_iff_toNat_le.mpr large)
        refine .inr ⟨⟨Bool.eq_true_of_not_eq_false msgs,copied.mp (not_not.mp copy),good,
          sum ▸ limit,given,fun n v got writes => ?_⟩,rfl,rfl,msgsInit_placed ok,sum,?_⟩
        · have whole := msgsInit_ok_iff.mp ok n v got writes
          rwa [Nat.zero_add] at whole
        · obtain ⟨k,others,same,buf⟩ := msgsInit_head world.copyIn user zeroed rest u 0 0
          dsimp only
          rw [same,destroy_head k others 0 buf]
          rfl

end Created

/-- The request comes to the controller. -/
structure I2cRdwrWorld.Transfers (world : I2cRdwrWorld) (wrap : I2cIoctlWrap) : Prop where
  copyWrap : world.copyWrap = none
  msgs : wrap.msgs ≠ none
  some_msg : wrap.nmsgs ≠ 0
  few : wrap.nmsgs ≤ i2cRdwrIoctlMaxMsgs
  prepares : world.Prepares wrap.vector

section Request
variable {Handle : Type} {world : I2cRdwrWorld} {client : I2cClient Handle} {user : Bytes}
variable {wrap : I2cIoctlWrap}

theorem meets_of_failed {done : I2cRdwrDone Handle} {uMsgs : List I2cMsgUser}
    (bus : done.bus = none) (ret : done.ret ≠ hdfSuccess) (same : done.user = user)
    (freed : Heap.Balanced done.heap) : done.Meets world uMsgs user where
  inside := fun _ here => by rw [bus] at here; cases here
  apart := fun _ here => by rw [bus] at here; cases here
  carried := fun _ here => by rw [bus] at here; cases here
  transferred := fun ok => absurd ok ret
  copied := fun ok => absurd ok ret
  returned := fun ok => absurd ok ret
  untouched := fun _ _ => by rw [same]
  freed := freed

theorem vector_length (msgs : wrap.msgs ≠ none) : wrap.vector.length = wrap.nmsgs.toNat := by
  obtain ⟨msgs,same⟩ := Option.ne_none_iff_exists'.mp msgs
  rw [I2cIoctlWrap.vector,same]
  simp

variable (world client user wrap) in
/-- A request that does not come to the controller, or goes to it prepared. -/
theorem readWrite_cases :
    (¬ world.Transfers wrap ∧
      (i2cIoctlReadWrite world client (some wrap) user).Meets world wrap.vector user) ∨
    (world.Transfers wrap ∧ ∃ created : I2cCreated, created.Ready user wrap.vector ∧
      i2cIoctlReadWrite world client (some wrap) user =
        i2cRdwrTransfer world client wrap.nmsgs created user) := by
  have io : hdfErrIo ≠ hdfSuccess := by decide
  have param : hdfErrInvalidParam ≠ hdfSuccess := by decide
  have copied := copyRet_ok_iff world.copyWrap
  simp only [i2cIoctlReadWrite]
  by_cases copy : copyRet world.copyWrap = losOk
  · rw [if_neg (not_not.mpr copy)]
    by_cases bad : wrap.msgs = none ∨ wrap.nmsgs = 0 ∨ i2cRdwrIoctlMaxMsgs < wrap.nmsgs
    · rw [if_pos bad]
      refine .inl ⟨fun transfers => ?_,meets_of_failed rfl param rfl rfl⟩
      rcases bad with none | zero | many
      · exact transfers.msgs none
      · exact transfers.some_msg zero
      · exact UInt32.not_le.mpr many transfers.few
    · rw [if_neg bad]
      obtain ⟨msgs,some_msg,most⟩ : wrap.msgs ≠ none ∧ wrap.nmsgs ≠ 0 ∧
          ¬ i2cRdwrIoctlMaxMsgs < wrap.nmsgs := by simpa using bad
      have few := UInt32.not_lt.mp most
      have length := vector_length msgs
      have nonempty : wrap.vector ≠ [] := by
        intro none
        rw [none] at length
        exact some_msg (UInt32.toNat_inj.mp length.symm)
      have bound : wrap.vector.length ≤ 42 := by
        rw [length]
        exact UInt32.le_iff_toNat_le.mp few
      rcases create_cases world user nonempty bound with
        ⟨refused,failed⟩ | ⟨prepares,ready⟩
      · rw [if_pos failed.ret]
        exact .inl ⟨fun transfers => refused transfers.prepares,
          meets_of_failed rfl failed.ret rfl failed.freed⟩
      · rw [if_neg (not_not.mpr ready.ret)]
        exact .inr ⟨⟨copied.mp copy,msgs,some_msg,few,prepares⟩,_,ready,rfl⟩
  · rw [if_pos copy]
    refine .inl ⟨fun transfers => copy (copied.mpr transfers.copyWrap),?_⟩
    exact meets_of_failed rfl io rfl rfl

section Ready
variable {created : I2cCreated} {uMsgs : List I2cMsgUser} {nmsgs : UInt32}
variable (ready : created.Ready user uMsgs)

include ready in
theorem ready_length : created.kMsgs.length = uMsgs.length := ready.placed.carried.length_eq

include ready in
theorem ready_paired : ∀ pair ∈ created.kMsgs.zip created.uMsgs, Paired pair := by
  rintro ⟨k,u⟩ member
  rw [ready.same] at member
  have carried := (List.forall₂_iff_zip.mp ready.placed.carried).2 member
  refine ⟨carried.len,?_⟩
  unfold I2cMsg.Reads I2cMsgUser.Reads
  rw [carried.flags]

include ready in
theorem ready_inside : ∀ k ∈ created.kMsgs, k.slice.Inside 0 created.bufLen.toNat := by
  intro k member
  rw [ready.bufLen]
  apply carve_inside
  rw [← ready.placed.slices]
  exact List.mem_map_of_mem member

include ready in
theorem ready_apart : (created.kMsgs.map I2cMsg.slice).Pairwise Slice.Apart := by
  rw [ready.placed.slices]
  exact carve_apart _ _

/-- The controller answers for all messages, with their number. -/
theorem answer_all_iff (ret : Int32) (few : nmsgs ≤ i2cRdwrIoctlMaxMsgs) :
    ret.toUInt32 = nmsgs ↔ ret.toInt = nmsgs.toNat := by
  have limit : nmsgs.toNat ≤ 42 := UInt32.le_iff_toNat_le.mp few
  have same : ret.toUInt32 = nmsgs ↔ ret.toUInt32.toNat = nmsgs.toNat := UInt32.toNat_inj.symm
  have bits : ret.toUInt32.toNat = ret.toBitVec.toNat := rfl
  have bound := ret.toBitVec.isLt
  rw [same,bits,Int32.toInt,BitVec.toInt_eq_toNat_cond]
  split <;> omega

include ready in
/-- The controller says that all messages went over the bus. -/
theorem transfer_all (few : nmsgs ≤ i2cRdwrIoctlMaxMsgs) (length : uMsgs.length = nmsgs.toNat)
    (all : world.answer.ret.toUInt32 = nmsgs) :
    (i2cRdwrTransfer world client nmsgs created user).Meets world uMsgs user := by
  have count := (answer_all_iff world.answer.ret few).mp all
  have lengths := ready_length ready
  have paired := ready_paired ready
  unfold i2cRdwrTransfer
  dsimp only
  rw [if_pos all]
  refine ⟨?_,?_,?_,fun _ => ⟨_,rfl,?_⟩,fun ok n u got reads => ?_,fun ok bus here => ?_,
    fun a outside => ?_,ready.freed⟩
  · rintro bus ⟨⟩
    exact ready_inside ready
  · rintro bus ⟨⟩
    exact ready_apart ready
  · rintro bus ⟨⟩
    exact ready.placed.carried
  · have range : 0 ≤ world.answer.ret.toInt ∧ world.answer.ret.toInt ≤ created.kMsgs.length := by
      omega
    have whole : world.answer.ret.toInt.toNat = created.kMsgs.length := by omega
    unfold I2cTransfer.completed
    rw [if_pos range,List.length_map,whole,List.take_length,lengths]
  · have copied := copyBack_ok_iff.mp ok
    obtain ⟨k,found⟩ : ∃ k, created.kMsgs[n]? = some k := by
      have bound := (List.getElem?_eq_some_iff.mp got).1
      exact ⟨_,List.getElem?_eq_getElem (by omega)⟩
    rw [← ready.same] at got
    have pair := (List.getElem?_zip_eq_some (z := (k,u))).mpr ⟨found,got⟩
    have same := paired (k,u) (List.mem_of_getElem? pair)
    have whole := copied n (k,u) pair (same.2.mpr reads)
    rwa [Nat.zero_add] at whole
  · cases here
    intro before k u after split reads later
    rw [← ready.same] at split
    have same := paired (k,u) (split ▸ List.mem_append_right _ List.mem_cons_self)
    have read := copyBack_read paired ok before after k u split reads later
    unfold I2cTransfer.payload
    rw [if_pos (same.2.mpr reads)]
    have len : k.len = u.len := same.1
    rw [read,len]
  · apply copyBack_outside a paired
    intro pair member reads
    have mine := (List.of_mem_zip member).2
    rw [ready.same] at mine
    exact outside _ mine reads

include ready in
/-- The controller answers anything else: the call fails exactly when that is not zero. -/
theorem transfer_some_iff (length : uMsgs.length = nmsgs.toNat) (some_msg : nmsgs ≠ 0)
    (other : world.answer.ret.toUInt32 ≠ nmsgs) :
    (i2cRdwrTransfer world client nmsgs created user).Meets world uMsgs user ↔
      world.answer.ret ≠ 0 := by
  have zero : world.answer.ret.toInt = 0 ↔ world.answer.ret = 0 := Int32.toInt_inj (y := 0)
  unfold i2cRdwrTransfer
  dsimp only
  rw [if_neg other]
  constructor
  · intro meets none
    obtain ⟨bus,here,all⟩ := meets.transferred (zero.mpr none)
    cases here
    have nothing : (I2cTransfer.mk client.handle created.kMsgs created.data
        world.answer).completed = [] := by
      unfold I2cTransfer.completed
      rw [none]
      simp
    rw [nothing,length] at all
    exact some_msg (UInt32.toNat_inj.mp all.symm)
  · intro failed
    have ret : world.answer.ret.toInt ≠ hdfSuccess := fun none => failed (zero.mp none)
    refine ⟨?_,?_,?_,fun ok => absurd ok ret,fun ok => absurd ok ret,fun ok => absurd ok ret,
      fun _ _ => rfl,ready.freed⟩
    · rintro bus ⟨⟩
      exact ready_inside ready
    · rintro bus ⟨⟩
      exact ready_apart ready
    · rintro bus ⟨⟩
      exact ready.placed.carried

include ready in
theorem transfer_meets_iff (few : nmsgs ≤ i2cRdwrIoctlMaxMsgs)
    (length : uMsgs.length = nmsgs.toNat) (some_msg : nmsgs ≠ 0) :
    (i2cRdwrTransfer world client nmsgs created user).Meets world uMsgs user ↔
      world.answer.ret ≠ 0 := by
  by_cases all : world.answer.ret.toUInt32 = nmsgs
  · refine iff_of_true (transfer_all ready few length all) (fun none => ?_)
    rw [none] at all
    exact some_msg all.symm
  · exact transfer_some_iff ready length some_msg all

end Ready

theorem readWrite_meets_iff :
    (i2cIoctlReadWrite world client (some wrap) user).Meets world wrap.vector user ↔
      (world.Transfers wrap → world.answer.ret ≠ 0) := by
  rcases readWrite_cases world client user wrap with
    ⟨refused,meets⟩ | ⟨transfers,created,ready,same⟩
  · exact iff_of_true meets (fun transfers => absurd transfers refused)
  · rw [same,transfer_meets_iff ready transfers.few (vector_length transfers.msgs)
      transfers.some_msg,imp_iff_right transfers]

end Request

/-- A request does what it has to, unless the controller takes none of its messages. -/
theorem i2cIoctlReadWrite_meets_iff {Handle : Type} (world : I2cRdwrWorld)
    (client : I2cClient Handle) (arg : Option I2cIoctlWrap) (user : Bytes) :
    (i2cIoctlReadWrite world client arg user).Meets world
        ((arg.map I2cIoctlWrap.vector).getD []) user ↔
      ∀ wrap, arg = some wrap → world.Transfers wrap → world.answer.ret ≠ 0 := by
  cases arg with
  | none =>
    have param : hdfErrInvalidParam ≠ hdfSuccess := by decide
    exact iff_of_true (meets_of_failed rfl param rfl rfl) (fun wrap here => by cases here)
  | some wrap =>
    refine readWrite_meets_iff.trans
      ⟨fun answered other same => ?_,fun answered => answered wrap rfl⟩
    cases same
    exact answered

/-- The first message fails, a controller answers that it took none, and so does the call. -/
theorem i2cIoctlReadWrite_not_meets :
    ¬ (i2cIoctlReadWrite ⟨none,true,none,true,fun _ => none,⟨0,zeroed⟩,fun _ => none⟩
      (⟨(),0,0⟩ : I2cClient Unit) (some ⟨some fun _ => ⟨0x50,0,1,1⟩,1⟩) zeroed).Meets
        ⟨none,true,none,true,fun _ => none,⟨0,zeroed⟩,fun _ => none⟩ [⟨0x50,0,1,1⟩] zeroed := by
  intro meets
  refine readWrite_meets_iff.mp meets ⟨rfl,Option.some_ne_none _,by decide,by decide,?_⟩ rfl
  refine ⟨rfl,rfl,fun u member => ?_,by decide,rfl,fun _ _ _ _ => rfl⟩
  cases List.mem_singleton.mp member
  exact ⟨by decide,by decide⟩

end DriversAdapter.Platform
