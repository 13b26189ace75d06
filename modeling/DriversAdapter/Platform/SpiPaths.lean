import DriversAdapter.Platform.SpiDev
import Mathlib.Data.List.Forall2

/-! The two ways of a transfer to an SPI controller: messages at kernel addresses go to it as
they are, those at user addresses by way of the kernel's own buffers. The controller takes any
messages one after the other, until it refuses one. -/
namespace DriversAdapter.Platform
open DriversAdapter.Base DriversAdapter.Semantics DriversAdapter.Semantics.Slices

/-- A message on the bus: what is sent, if anything, and whether something is received. -/
structure SpiBusMsg where
  tx : Option Block
  rx : Bool
  len : UInt32
  speed : UInt32
  delayUs : UInt32
  keepCs : UInt32
  deriving DecidableEq

structure SpiRefusal where
  ret : Int
  failed : ret ≠ hdfSuccess

/-- What a controller makes of a message after those before it: it refuses, or receives. -/
abbrev SpiRespond := List SpiBusMsg → SpiBusMsg → Except SpiRefusal Bytes

namespace SpiMsg

def onBus (memory : Bytes) (m : SpiMsg) : SpiBusMsg :=
  ⟨m.wbuf.map fun w => chunk memory w m.len.toNat,m.rbuf.isSome,m.len,m.speed,m.delayUs,m.keepCs⟩

def receive (m : SpiMsg) (rx memory : Bytes) : Bytes :=
  match m.rbuf with
  | none => memory
  | some r => copyBytes memory r rx 0 m.len.toNat

/-- Something that one message reads is a byte that the other writes. -/
def Clobbers (m other : SpiMsg) : Prop :=
  ∃ r w x, m.rbuf = some r ∧ other.wbuf = some w ∧ r ≤ x ∧ x < r + m.len.toNat ∧
    w ≤ x ∧ x < w + other.len.toNat

end SpiMsg

/-- A controller over the memory that its messages are in. -/
def spiServe (respond : SpiRespond) :
    List SpiMsg → List SpiBusMsg → Bytes → SpiTransferred (List SpiBusMsg)
  | [], seen, memory => ⟨hdfSuccess,memory,seen⟩
  | m::rest, seen, memory =>
    match respond seen (m.onBus memory) with
    | .error refusal => ⟨refusal.ret,memory,seen ++ [m.onBus memory]⟩
    | .ok rx => spiServe respond rest (seen ++ [m.onBus memory]) (m.receive rx memory)

/-- The controller as the commands of a device file call it. -/
def spiController (respond : SpiRespond) (msgs : List SpiMsg) (memory : Bytes) :
    SpiTransferred (List SpiBusMsg) := spiServe respond msgs [] memory

/-- Of `n` messages it takes the first `stop`, and refuses the next. -/
def SpiTakes (respond : SpiRespond) (n stop : Nat) : Prop :=
  ∀ seen sent, seen.length < n → ((∃ refusal, respond seen sent = .error refusal) ↔
    seen.length = stop)

def SpiDevDone.onBus (done : SpiDevDone (List SpiBusMsg)) : List SpiBusMsg :=
  (done.controller.map SpiTransferred.bus).getD []

/-- The same messages on the bus, the same bytes read, and success in both or in none; the
kernel's buffers are where they have to be. -/
structure SpiAgree (kernel user : SpiDevDone (List SpiBusMsg)) (sizeofSpiMsg : UInt32)
    (msgs : List SpiMsg) : Prop where
  bus : user.onBus = kernel.onBus
  read : ∀ m ∈ msgs, ∀ r, m.rbuf = some r →
    chunk user.caller r m.len.toNat = chunk kernel.caller r m.len.toNat
  ret : user.ret = hdfSuccess ↔ kernel.ret = hdfSuccess
  laid : ∀ started, user.started = some started → started.Laid sizeofSpiMsg msgs

/-- Copies of valid buffers succeed, and those of null fail. -/
structure SpiDevWorld.Honest (world : SpiDevWorld) (msgs : List SpiMsg) : Prop where
  copyUmsg : world.copyUmsg = none
  copyMsg : world.copyMsg = none
  copyIn : ∀ i m, msgs[i]? = some m → (world.copyIn i = none ↔ m.wbuf ≠ none)
  copyOut : ∀ i m, msgs[i]? = some m → (world.copyOut i = none ↔ m.rbuf ≠ none)

/-- Where the two ways agree: the sizes fit and are given, every message writes from a buffer
and, if it comes to the controller, reads to one; nothing that is still to be written is read
over; and where a message is refused those before it are empty. -/
structure SpiIocMsg.Plain (umsg : SpiIocMsg) (world : SpiDevWorld) (sizeofSpiMsg : UInt32)
    (stop : Nat) : Prop where
  count : 0 < umsg.count.toInt
  callocUmsg : world.callocUmsg = true
  callocMsg : osalMemCalloc world.callocMsg (spiMsgSize sizeofSpiMsg umsg.count) = true
  callocData : world.callocData = true
  fits : umsg.Fits sizeofSpiMsg
  some_byte : 0 < (spiLens umsg.vector).sum
  wbuf : ∀ m ∈ umsg.vector, m.wbuf ≠ none
  rbuf : ∀ m ∈ umsg.vector.take (stop + 1), m.rbuf ≠ none
  clobber : (umsg.vector.take (stop + 1)).Pairwise fun m other => ¬ m.Clobbers other
  refused : stop < umsg.vector.length → ∀ m ∈ umsg.vector.take stop, m.len = 0

section Serve
variable {respond : SpiRespond} {n stop : Nat} {msgs : List SpiMsg} {seen sents : List SpiBusMsg}
variable {memory : Bytes} {m other : SpiMsg} {rx : Bytes}

/-- What the controller answers for messages that are known beforehand. -/
def spiExchange (respond : SpiRespond) :
    List SpiBusMsg → List SpiBusMsg → Int × List Bytes × List SpiBusMsg
  | [], seen => (hdfSuccess,[],seen)
  | sent::rest, seen =>
    match respond seen sent with
    | .error refusal => (refusal.ret,[],seen ++ [sent])
    | .ok rx =>
      let later := spiExchange respond rest (seen ++ [sent])
      (later.1,rx::later.2.1,later.2.2)

def receiveAll : List (SpiMsg × Bytes) → Bytes → Bytes
  | [], memory => memory
  | (m,rx)::rest, memory => receiveAll rest (m.receive rx memory)

theorem onBus_receive (apart : ¬ m.Clobbers other) :
    other.onBus (m.receive rx memory) = other.onBus memory := by
  unfold SpiMsg.receive SpiMsg.onBus
  cases read : m.rbuf with
  | none => rfl
  | some r =>
    cases write : other.wbuf with
    | none => rfl
    | some w =>
      have same : chunk (copyBytes memory r rx 0 m.len.toNat) w other.len.toNat =
          chunk memory w other.len.toNat := by
        apply chunk_congr
        intro i bound
        unfold copyBytes
        rw [if_neg]
        rintro ⟨low,high⟩
        exact apart ⟨r,w,w + i,read,write,low,high,by omega,by omega⟩
      simp only [Option.map_some,same]

variable (respond seen memory) in
/-- Where nothing is read over what is still to be written, it is all known beforehand. -/
theorem spiServe_exchange (apart : msgs.Pairwise fun m other => ¬ m.Clobbers other) :
    spiServe respond msgs seen memory =
      let x := spiExchange respond (msgs.map (SpiMsg.onBus memory)) seen
      ⟨x.1,receiveAll (msgs.zip x.2.1) memory,x.2.2⟩ := by
  induction msgs generalizing seen memory with
  | nil => rfl
  | cons m rest ih =>
    obtain ⟨mine,others⟩ := List.pairwise_cons.mp apart
    simp only [spiServe,List.map_cons,spiExchange]
    cases answer : respond seen (m.onBus memory) with
    | error refusal => rfl
    | ok rx =>
      have same : rest.map (SpiMsg.onBus (m.receive rx memory)) =
          rest.map (SpiMsg.onBus memory) := by
        apply List.map_congr_left
        intro other member
        exact onBus_receive (mine other member)
      dsimp only
      rw [ih _ _ others,same]
      rfl

/-- What is refused, and what went over the bus until then. -/
structure Exchanged (stop : Nat) (seen sents : List SpiBusMsg)
    (x : Int × List Bytes × List SpiBusMsg) : Prop where
  bus : x.2.2 = seen ++ sents.take (stop + 1 - seen.length)
  received : x.2.1.length = min (stop - seen.length) sents.length
  ret : x.1 = hdfSuccess ↔ seen.length + sents.length ≤ stop

theorem spiExchange_spec (takes : SpiTakes respond n stop) (before : seen.length ≤ stop)
    (room : seen.length + sents.length ≤ n) :
    Exchanged stop seen sents (spiExchange respond sents seen) := by
  induction sents generalizing seen with
  | nil =>
    refine ⟨?_,(Nat.min_zero _).symm,iff_of_true rfl before⟩
    rw [List.take_nil,List.append_nil]
    rfl
  | cons sent rest ih =>
    rw [List.length_cons] at room
    have here := takes seen sent (by omega)
    simp only [spiExchange]
    cases answer : respond seen sent with
    | error refusal =>
      have last := here.mp ⟨refusal,answer⟩
      have one : stop + 1 - seen.length = 1 := by omega
      have none : stop - seen.length = 0 := by omega
      refine ⟨?_,?_,?_⟩
      · rw [one]
        rfl
      · rw [none,Nat.zero_min]
        rfl
      · refine iff_of_false refusal.failed ?_
        rw [List.length_cons]
        omega
    | ok rx =>
      have more : seen.length ≠ stop := by
        intro last
        obtain ⟨refusal,refused⟩ := here.mpr last
        rw [answer] at refused
        cases refused
      have length : (seen ++ [sent]).length = seen.length + 1 := List.length_append
      have later : Exchanged stop (seen ++ [sent]) rest
          (spiExchange respond rest (seen ++ [sent])) := ih (by omega) (by omega)
      obtain ⟨bus,received,ret⟩ := later
      have one : stop + 1 - seen.length = stop + 1 - (seen ++ [sent]).length + 1 := by omega
      refine ⟨?_,?_,?_⟩
      · rw [one,List.take_succ_cons]
        simpa using bus
      · rw [List.length_cons,List.length_cons,received]
        omega
      · rw [List.length_cons]
        exact ret.trans (by omega)

theorem receive_outside (a : Nat)
    (outside : ∀ r, m.rbuf = some r → a < r ∨ r + m.len.toNat ≤ a) :
    m.receive rx memory a = memory a := by
  unfold SpiMsg.receive
  cases read : m.rbuf with
  | none => rfl
  | some r =>
    have apart := outside r read
    simp only [copyBytes]
    rw [if_neg (by omega)]

theorem receiveAll_outside (pairs : List (SpiMsg × Bytes)) (a : Nat)
    (outside : ∀ pair ∈ pairs, ∀ r, pair.1.rbuf = some r → a < r ∨ r + pair.1.len.toNat ≤ a) :
    receiveAll pairs memory a = memory a := by
  induction pairs generalizing memory with
  | nil => rfl
  | cons pair rest ih =>
    obtain ⟨mine,others⟩ := List.forall_mem_cons.mp outside
    exact (ih others).trans (receive_outside a mine)

theorem receiveAll_empty (pairs : List (SpiMsg × Bytes)) (empty : ∀ pair ∈ pairs, pair.1.len = 0) :
    receiveAll pairs memory = memory := by
  funext a
  apply receiveAll_outside
  intro pair member r _
  have none : pair.1.len.toNat = 0 := congrArg UInt32.toNat (empty pair member)
  omega

variable (memory) in
/-- What a message reads stays where it is while the others read elsewhere. -/
theorem receiveAll_read (kmsgs : List SpiMsg) (rxs : List Bytes)
    (apart : kmsgs.Pairwise fun k other => k.rslice.Apart other.rslice)
    (buffers : ∀ k ∈ kmsgs, k.rbuf ≠ none) :
    ∀ pair ∈ kmsgs.zip rxs, ∀ i < pair.1.len.toNat,
      receiveAll (kmsgs.zip rxs) memory (pair.1.rslice.1 + i) = pair.2 i := by
  induction kmsgs generalizing rxs memory with
  | nil => intro pair member; cases member
  | cons k rest ih =>
    cases rxs with
    | nil => intro pair member; cases member
    | cons rx rxs =>
      obtain ⟨mine,others⟩ := List.pairwise_cons.mp apart
      obtain ⟨buffer,more⟩ := List.forall_mem_cons.mp buffers
      obtain ⟨r,read⟩ := Option.ne_none_iff_exists'.mp buffer
      rw [List.zip_cons_cons]
      intro pair member i bound
      rcases List.mem_cons.mp member with rfl | later
      · have place : k.rslice = (r,k.len.toNat) := by
          unfold SpiMsg.rslice
          rw [read]
          rfl
        have within : i < k.len.toNat := bound
        simp only [receiveAll]
        rw [receiveAll_outside]
        · unfold SpiMsg.receive
          rw [read,place]
          simp only [copyBytes]
          rw [if_pos (by omega),Nat.zero_add,Nat.add_sub_cancel_left]
        · intro other otherMember v otherRead
          have away := mine other.1 (List.of_mem_zip otherMember).1
          have otherPlace : other.1.rslice = (v,other.1.len.toNat) := by
            unfold SpiMsg.rslice
            rw [otherRead]
            rfl
          rw [place,otherPlace] at away
          rw [place]
          simp only [Slice.Apart] at away
          dsimp only
          omega
      · exact ih _ rxs others more pair later i bound

/-- The messages behind the refused one do not matter. -/
theorem spiServe_take (takes : SpiTakes respond n stop) (before : seen.length ≤ stop)
    (room : seen.length + msgs.length ≤ n) :
    spiServe respond msgs seen memory =
      spiServe respond (msgs.take (stop + 1 - seen.length)) seen memory := by
  induction msgs generalizing seen memory with
  | nil => rw [List.take_nil]
  | cons m rest ih =>
    rw [List.length_cons] at room
    have here := takes seen (m.onBus memory) (by omega)
    have length : (seen ++ [m.onBus memory]).length = seen.length + 1 := List.length_append
    have one : stop + 1 - seen.length = stop + 1 - (seen ++ [m.onBus memory]).length + 1 := by omega
    rw [one,List.take_succ_cons]
    simp only [spiServe]
    cases answer : respond seen (m.onBus memory) with
    | error refusal => rfl
    | ok rx =>
      have more : seen.length ≠ stop := by
        intro last
        obtain ⟨refusal,refused⟩ := here.mpr last
        rw [answer] at refused
        cases refused
      exact ih (by omega) (by omega)

end Serve

section Start
variable {world : SpiDevWorld} {transfer : List SpiMsg → Bytes → SpiTransferred (List SpiBusMsg)}
variable {started : SpiStarted} {msgs : List SpiMsg} {user : Bytes}

theorem start_refused
    (refused : (transfer started.kmsgs started.data).ret ≠ hdfSuccess) :
    spiDevStart world transfer started msgs user = ⟨hdfFailure,user,some started,
      some (transfer started.kmsgs started.data),[.alloc .wbuf,.free .wbuf]⟩ := if_pos refused

theorem start_taken (taken : (transfer started.kmsgs started.data).ret = hdfSuccess) :
    spiDevStart world transfer started msgs user =
      let back := spiCopyOut world.copyOut (transfer started.kmsgs started.data).memory
        (msgs.zip started.kmsgs) 0 user
      ⟨if back.1 then hdfSuccess else hdfErrIo,back.2,some started,
        some (transfer started.kmsgs started.data),[.alloc .wbuf,.free .wbuf]⟩ :=
  if_neg (not_not.mpr taken)

theorem start_controller : (spiDevStart world transfer started msgs user).controller =
    some (transfer started.kmsgs started.data) := by
  simp only [spiDevStart]
  split_ifs <;> rfl

end Start

section CopyOut
variable {copyOut : Nat → Option CopyFault} {data user : Bytes}

/-- The kernel's message has what was received for the caller's. -/
structure Delivered (data : Bytes) (k : SpiMsg) (pair : SpiMsg × Bytes) : Prop where
  len : k.len = pair.1.len
  rbuf : pair.1.rbuf ≠ none
  read : ∀ i < k.len.toNat, data (k.rslice.1 + i) = pair.2 i

variable (copyOut user) in
theorem copyOut_receiveAll (kmsgs : List SpiMsg) (pairs : List (SpiMsg × Bytes))
    (delivered : List.Forall₂ (Delivered data) kmsgs pairs) (i : Nat)
    (whole : ∀ j < kmsgs.length, copyOut (i + j) = none) :
    spiCopyOut copyOut data ((pairs.map Prod.fst).zip kmsgs) i user =
      (true,receiveAll pairs user) := by
  induction delivered generalizing i user with
  | nil => rfl
  | @cons k pair kmsgs pairs first _ ih =>
    have copied : copyOut i = none := whole 0 (Nat.zero_lt_succ _)
    obtain ⟨r,read⟩ := Option.ne_none_iff_exists'.mp first.rbuf
    have same : copyBytes user r data k.rslice.1 pair.1.len.toNat = pair.1.receive pair.2 user := by
      unfold SpiMsg.receive
      rw [read]
      funext a
      simp only [copyBytes]
      split_ifs with inside
      · have within : a - r < k.len.toNat := by
          rw [first.len]
          omega
        rw [Nat.zero_add]
        exact first.read _ within
      · rfl
    simp only [List.map_cons,List.zip_cons_cons,spiCopyOut,copied,losCopy,ne_eq,not_true_eq_false,
      if_false,read,Option.getD_some]
    have place : k.rbuf.getD 0 = k.rslice.1 := rfl
    rw [place,same]
    apply ih
    intro j bound
    have later := whole (j + 1) (Nat.succ_lt_succ bound)
    rwa [Nat.add_right_comm]

end CopyOut

section Paths
variable {world : SpiDevWorld} {sizeofSpiMsg : UInt32} {umsg : SpiIocMsg} {respond : SpiRespond}
variable {memory : Bytes} {stop : Nat}

/-- A message of the caller as the kernel's buffers have it. -/
def SpiMsg.bounced (memory : Bytes) (m : SpiMsg) : SpiBusMsg :=
  ⟨some (chunk memory (m.wbuf.getD 0) m.len.toNat),true,m.len,m.speed,m.delayUs,m.keepCs⟩

theorem onBus_stands {data : Bytes} {total : Nat} {k m : SpiMsg}
    (stands : k.Stands memory data total m) : k.onBus data = m.bounced memory := by
  obtain ⟨w,write⟩ := Option.ne_none_iff_exists'.mp stands.wbuf
  have written := stands.written
  have place : k.wslice.1 = w := by
    unfold SpiMsg.wslice
    rw [write]
    rfl
  rw [place] at written
  unfold SpiMsg.onBus SpiMsg.bounced
  rw [write,Option.map_some,written,stands.rbuf,stands.len,stands.speed,stands.delayUs,
    stands.keepCs]
  rfl

theorem onBus_bounced {m : SpiMsg} (wbuf : m.wbuf ≠ none) (rbuf : m.rbuf ≠ none) :
    m.bounced memory = m.onBus memory := by
  obtain ⟨w,write⟩ := Option.ne_none_iff_exists'.mp wbuf
  obtain ⟨r,read⟩ := Option.ne_none_iff_exists'.mp rbuf
  unfold SpiMsg.onBus SpiMsg.bounced
  rw [write,read]
  rfl

/-- The kernel's messages of a transfer that is laid out well. -/
structure Bounce (started : SpiStarted) (memory : Bytes) (msgs : List SpiMsg) : Prop where
  apart : started.kmsgs.Pairwise SpiMsg.Apart
  clobber : started.kmsgs.Pairwise fun k other => ¬ k.Clobbers other
  buffers : ∀ k ∈ started.kmsgs, k.rbuf ≠ none
  onBus : started.kmsgs.map (SpiMsg.onBus started.data) = msgs.map (SpiMsg.bounced memory)
  len : List.Forall₂ (fun k m => k.len = m.len) started.kmsgs msgs

theorem not_clobbers_of_apart {k other : SpiMsg} (apart : k.Apart other) : ¬ k.Clobbers other := by
  rintro ⟨r,w,x,read,write,low,high,otherLow,otherHigh⟩
  have away := apart.rw
  unfold SpiMsg.rslice SpiMsg.wslice at away
  rw [read,write] at away
  simp only [Slice.Apart,Option.getD_some] at away
  omega

theorem started_bounce (msgSize : UInt32) (msgs : List SpiMsg) (lays : world.Lays msgs)
    (laid : (world.started msgSize msgs memory).Laid sizeofSpiMsg msgs)
    (sum : (spiLens msgs).sum < 2^30) :
    Bounce (world.started msgSize msgs memory) memory msgs := by
  obtain ⟨_,stands⟩ := started_layout memory msgSize msgs lays (by omega)
  refine ⟨laid.apart,laid.apart.imp not_clobbers_of_apart,fun k member => (laid.buffers k member).2,
    ?_,stands.imp fun _ _ stand => stand.len⟩
  rw [← List.forall₂_eq_eq_eq,List.forall₂_map_left_iff,List.forall₂_map_right_iff]
  exact stands.imp fun _ _ stand => onBus_stands stand

section Sufficient
variable {started : SpiStarted} {msgs : List SpiMsg} (bounce : Bounce started memory msgs)
variable (takes : SpiTakes respond msgs.length stop)

/-- What the controller answers for the messages as the kernel's buffers have them. -/
def spiBounced (respond : SpiRespond) (stop : Nat) (memory : Bytes) (msgs : List SpiMsg) :
    Int × List Bytes × List SpiBusMsg :=
  spiExchange respond ((msgs.take (stop + 1)).map (SpiMsg.bounced memory)) []

include takes in
theorem bounced_spec : Exchanged stop [] ((msgs.take (stop + 1)).map (SpiMsg.bounced memory))
    (spiBounced respond stop memory msgs) := by
  refine spiExchange_spec takes (List.length_nil ▸ Nat.zero_le stop) ?_
  rw [List.length_map,List.length_take,List.length_nil]
  omega

include takes bounce in
/-- What the controller makes of the kernel's messages. -/
theorem bounce_serve : spiController respond started.kmsgs started.data =
    ⟨(spiBounced respond stop memory msgs).1,
      receiveAll ((started.kmsgs.take (stop + 1)).zip (spiBounced respond stop memory msgs).2.1)
        started.data,(spiBounced respond stop memory msgs).2.2⟩ := by
  have length := bounce.len.length_eq
  have sents : (started.kmsgs.take (stop + 1)).map (SpiMsg.onBus started.data) =
      (msgs.take (stop + 1)).map (SpiMsg.bounced memory) := by
    rw [List.map_take,List.map_take,bounce.onBus]
  have apart := bounce.clobber.sublist (List.take_sublist (stop + 1) _)
  have served := spiServe_exchange respond [] started.data apart
  rw [sents] at served
  have whole : spiServe respond started.kmsgs [] started.data = _ :=
    spiServe_take takes (List.length_nil ▸ Nat.zero_le stop) (by simp [length])
  exact whole.trans served

include bounce in
theorem bounce_delivered (rbuf : ∀ m ∈ msgs, m.rbuf ≠ none) (rxs : List Bytes)
    (received : rxs.length = msgs.length) :
    List.Forall₂ (Delivered (receiveAll (started.kmsgs.zip rxs) started.data)) started.kmsgs
      (msgs.zip rxs) := by
  have read := receiveAll_read started.data started.kmsgs rxs
    (bounce.apart.imp SpiMsg.Apart.rr) bounce.buffers
  obtain ⟨length,len⟩ := List.forall₂_iff_zip.mp bounce.len
  refine List.forall₂_iff_zip.mpr ⟨by rw [List.length_zip]; omega,?_⟩
  rintro k ⟨m,rx⟩ member
  obtain ⟨i,found⟩ := List.mem_iff_getElem?.mp member
  obtain ⟨mine,pair⟩ := List.getElem?_zip_eq_some.mp found
  obtain ⟨theirs,content⟩ := List.getElem?_zip_eq_some.mp pair
  dsimp only at mine theirs content
  have same : (k,m) ∈ started.kmsgs.zip msgs :=
    List.mem_of_getElem? ((List.getElem?_zip_eq_some (z := (k,m))).mpr ⟨mine,theirs⟩)
  have delivered : (k,rx) ∈ started.kmsgs.zip rxs :=
    List.mem_of_getElem? ((List.getElem?_zip_eq_some (z := (k,rx))).mpr ⟨mine,content⟩)
  exact ⟨len same,rbuf m (List.mem_of_getElem? theirs),read (k,rx) delivered⟩

include bounce in
/-- Where it takes all of them, the caller's memory has what the controller received. -/
theorem bounce_copyOut (rbuf : ∀ m ∈ msgs, m.rbuf ≠ none)
    (whole : ∀ i < msgs.length, world.copyOut i = none) (rxs : List Bytes)
    (received : rxs.length = msgs.length) :
    spiCopyOut world.copyOut (receiveAll (started.kmsgs.zip rxs) started.data)
      (msgs.zip started.kmsgs) 0 memory = (true,receiveAll (msgs.zip rxs) memory) := by
  have length := bounce.len.length_eq
  have firsts : (msgs.zip rxs).map Prod.fst = msgs := List.map_fst_zip (by omega)
  have copied := copyOut_receiveAll world.copyOut memory _ _
    (bounce_delivered bounce rbuf rxs received) 0 (fun j bound => by
      rw [Nat.zero_add]
      exact whole j (by omega))
  rwa [firsts] at copied

end Sufficient

/-- The way of a kernel address. -/
abbrev SpiIocMsg.direct (umsg : SpiIocMsg) (world : SpiDevWorld) (respond : SpiRespond)
    (sizeofSpiMsg : UInt32) (memory : Bytes) : SpiDevDone (List SpiBusMsg) :=
  spiDevTransfer world (spiController respond) sizeofSpiMsg (.kernel umsg) memory

/-- The way of a user address. -/
abbrev SpiIocMsg.bounced (umsg : SpiIocMsg) (world : SpiDevWorld) (respond : SpiRespond)
    (sizeofSpiMsg : UInt32) (memory : Bytes) : SpiDevDone (List SpiBusMsg) :=
  spiDevTransfer world (spiController respond) sizeofSpiMsg (.user (some umsg)) memory

section Plain
variable (plain : umsg.Plain world sizeofSpiMsg stop) (honest : world.Honest umsg.vector)
variable (takes : SpiTakes respond umsg.vector.length stop)

include plain honest in
theorem plain_starts : world.Starts sizeofSpiMsg umsg := by
  have sum := plain.fits.sum
  have some_byte := plain.some_byte
  have small : (spiLens umsg.vector).sum % 2^32 = (spiLens umsg.vector).sum :=
    Nat.mod_eq_of_lt (by omega)
  refine ⟨plain.callocUmsg,honest.copyUmsg,plain.count,plain.callocMsg,honest.copyMsg,?_⟩
  refine ⟨by omega,by omega,plain.callocData,fun i bound => ?_⟩
  have found := List.getElem?_eq_getElem bound
  exact (honest.copyIn i _ found).mpr (plain.wbuf _ (List.getElem_mem bound))

include plain takes in
variable (memory) in
/-- What the controller makes of the caller's messages. -/
theorem plain_serve : spiController respond umsg.vector memory =
    ⟨(spiBounced respond stop memory umsg.vector).1,
      receiveAll ((umsg.vector.take (stop + 1)).zip (spiBounced respond stop memory umsg.vector).2.1)
        memory,(spiBounced respond stop memory umsg.vector).2.2⟩ := by
  have sents : (umsg.vector.take (stop + 1)).map (SpiMsg.onBus memory) =
      (umsg.vector.take (stop + 1)).map (SpiMsg.bounced memory) := by
    apply List.map_congr_left
    intro m member
    exact (onBus_bounced (plain.wbuf m (List.mem_of_mem_take member)) (plain.rbuf m member)).symm
  have served := spiServe_exchange respond [] memory plain.clobber
  rw [sents] at served
  have whole : spiServe respond umsg.vector [] memory = _ :=
    spiServe_take takes (List.length_nil ▸ Nat.zero_le stop) (by simp)
  exact whole.trans served

include takes in
theorem bounced_ret : (spiBounced respond stop memory umsg.vector).1 = hdfSuccess ↔
    umsg.vector.length ≤ stop := by
  have spec : Exchanged stop [] _ (spiBounced respond stop memory umsg.vector) :=
    bounced_spec takes
  rw [spec.ret,List.length_map,List.length_take,List.length_nil]
  omega

variable (respond memory) in
/-- A user's transfer from a good layout. -/
theorem bounced_start (starts : world.Starts sizeofSpiMsg umsg) (fits : umsg.Fits sizeofSpiMsg) :
    ∃ started heap, Bounce started memory umsg.vector ∧ started.Laid sizeofSpiMsg umsg.vector ∧
      umsg.bounced world respond sizeofSpiMsg memory =
        {spiDevStart world (spiController respond) started umsg.vector memory with heap := heap} := by
  have laid := (started_laid_iff memory starts).mpr fits
  have bounce := started_bounce _ _ starts.lays laid fits.sum
  obtain ⟨fails,_⟩ | ⟨_,same⟩ :=
    userTransfer_cases world (spiController respond) sizeofSpiMsg umsg memory
  · exact absurd starts fails
  · exact ⟨_,_,bounce,laid,same⟩

include plain honest takes in
/-- All messages are taken. -/
theorem plain_taken (all : umsg.vector.length ≤ stop) :
    (umsg.bounced world respond sizeofSpiMsg memory).ret = hdfSuccess ∧
      (umsg.bounced world respond sizeofSpiMsg memory).caller =
        (umsg.direct world respond sizeofSpiMsg memory).caller := by
  have spec : Exchanged stop [] _ (spiBounced respond stop memory umsg.vector) :=
    bounced_spec takes
  have success : (spiBounced respond stop memory umsg.vector).1 = hdfSuccess :=
    (bounced_ret takes).mpr all
  have every : umsg.vector.take (stop + 1) = umsg.vector := List.take_of_length_le (by omega)
  have received := spec.received
  rw [every,List.length_map,List.length_nil,Nat.sub_zero,Nat.min_eq_right all] at received
  obtain ⟨started,heap,bounce,_,same⟩ :=
    bounced_start respond memory (plain_starts plain honest) plain.fits
  have length := bounce.len.length_eq
  have everyOfKernel : started.kmsgs.take (stop + 1) = started.kmsgs :=
    List.take_of_length_le (by omega)
  have user := bounce_serve bounce takes
  have kernel := plain_serve memory plain takes
  rw [everyOfKernel] at user
  rw [every] at kernel
  have rbuf : ∀ m ∈ umsg.vector, m.rbuf ≠ none := by
    have buffers := plain.rbuf
    rwa [every] at buffers
  have whole : ∀ i < umsg.vector.length, world.copyOut i = none := by
    intro i bound
    have found := List.getElem?_eq_getElem bound
    exact (honest.copyOut i _ found).mpr (rbuf _ (List.getElem_mem bound))
  have copied := bounce_copyOut bounce rbuf whole _ received
  have direct : (umsg.direct world respond sizeofSpiMsg memory).caller =
      (spiController respond umsg.vector memory).memory := rfl
  have taken : (spiController respond started.kmsgs started.data).ret = hdfSuccess := by
    rw [user]
    exact success
  rw [same,direct,start_taken taken,user,kernel]
  dsimp only
  rw [copied]
  exact ⟨rfl,rfl⟩

include plain honest takes in
/-- A message is refused, and nothing was read before. -/
theorem plain_refused (some_left : stop < umsg.vector.length) :
    (umsg.bounced world respond sizeofSpiMsg memory).ret ≠ hdfSuccess ∧
      (umsg.bounced world respond sizeofSpiMsg memory).caller = memory ∧
      (umsg.direct world respond sizeofSpiMsg memory).caller = memory := by
  have failed : hdfFailure ≠ hdfSuccess := by decide
  have spec : Exchanged stop [] _ (spiBounced respond stop memory umsg.vector) :=
    bounced_spec takes
  have failure : (spiBounced respond stop memory umsg.vector).1 ≠ hdfSuccess :=
    fun success => absurd ((bounced_ret takes).mp success) (by omega)
  obtain ⟨started,heap,bounce,_,same⟩ :=
    bounced_start respond memory (plain_starts plain honest) plain.fits
  have user := bounce_serve bounce takes
  have kernel := plain_serve memory plain takes
  have refused : (spiController respond started.kmsgs started.data).ret ≠ hdfSuccess := by
    rw [user]
    exact failure
  have direct : (umsg.direct world respond sizeofSpiMsg memory).caller =
      (spiController respond umsg.vector memory).memory := rfl
  rw [same,direct,start_refused refused,kernel]
  refine ⟨failed,rfl,receiveAll_empty _ ?_⟩
  rintro ⟨m,rx⟩ member
  obtain ⟨i,found⟩ := List.mem_iff_getElem?.mp member
  obtain ⟨mine,theirs⟩ := List.getElem?_zip_eq_some.mp found
  have short := (List.getElem?_eq_some_iff.mp theirs).1
  have received := spec.received
  rw [List.length_nil,Nat.sub_zero] at received
  apply plain.refused some_left m
  apply List.mem_of_getElem? (i := i)
  rw [List.getElem?_take_of_lt (by omega)]
  rwa [List.getElem?_take_of_lt (by omega)] at mine

include takes in
/-- What a user's transfer puts on the bus. -/
theorem bounced_onBus (starts : world.Starts sizeofSpiMsg umsg) (fits : umsg.Fits sizeofSpiMsg) :
    (umsg.bounced world respond sizeofSpiMsg memory).onBus =
      (umsg.vector.take (stop + 1)).map (SpiMsg.bounced memory) := by
  have spec : Exchanged stop [] _ (spiBounced respond stop memory umsg.vector) :=
    bounced_spec takes
  obtain ⟨started,heap,bounce,_,same⟩ := bounced_start respond memory starts fits
  have controller : (umsg.bounced world respond sizeofSpiMsg memory).controller =
      some (spiController respond started.kmsgs started.data) := by
    rw [same]
    exact start_controller
  have bus : (umsg.bounced world respond sizeofSpiMsg memory).onBus =
      (spiBounced respond stop memory umsg.vector).2.2 := by
    rw [SpiDevDone.onBus,controller,bounce_serve bounce takes]
    rfl
  rw [bus,spec.bus,List.nil_append,List.length_nil,Nat.sub_zero,← List.map_take,List.take_take,
    Nat.min_self]

include plain honest takes in
theorem plain_agree : SpiAgree (umsg.direct world respond sizeofSpiMsg memory)
    (umsg.bounced world respond sizeofSpiMsg memory) sizeofSpiMsg umsg.vector := by
  have starts := plain_starts plain honest
  have kernel := plain_serve memory plain takes
  have spec : Exchanged stop [] _ (spiBounced respond stop memory umsg.vector) :=
    bounced_spec takes
  have direct : (umsg.direct world respond sizeofSpiMsg memory).ret =
      (spiController respond umsg.vector memory).ret := rfl
  refine ⟨?_,?_,?_,?_⟩
  · have sent : (umsg.direct world respond sizeofSpiMsg memory).onBus =
        (spiController respond umsg.vector memory).bus := rfl
    rw [bounced_onBus takes starts plain.fits,sent,kernel,spec.bus,List.nil_append,
      List.length_nil,Nat.sub_zero,← List.map_take,List.take_take,Nat.min_self]
  · intro m _ r _
    rcases Nat.lt_or_ge stop umsg.vector.length with some_left | all
    · have refused : (umsg.bounced world respond sizeofSpiMsg memory).ret ≠ hdfSuccess ∧
          (umsg.bounced world respond sizeofSpiMsg memory).caller = memory ∧
          (umsg.direct world respond sizeofSpiMsg memory).caller = memory :=
        plain_refused plain honest takes some_left
      rw [refused.2.1,refused.2.2]
    · rw [(plain_taken plain honest takes all).2]
  · rw [direct,kernel]
    rcases Nat.lt_or_ge stop umsg.vector.length with some_left | all
    · refine iff_of_false (plain_refused plain honest takes some_left).1 fun success => ?_
      exact absurd ((bounced_ret takes).mp success) (by omega)
    · exact iff_of_true (plain_taken plain honest takes all).1 ((bounced_ret takes).mpr all)
  · intro started here
    obtain ⟨started',_,_,laid,same⟩ := bounced_start respond memory starts plain.fits
    rw [same] at here
    have the : some started' = some started := (start_started started' umsg.vector).symm.trans here
    rw [← Option.some.inj the]
    exact laid

end Plain

section Ink
variable {stop : Nat} {msgs : List SpiMsg} {seen : List SpiBusMsg} {memory : Bytes} {m : SpiMsg}

/-- A controller from which only ones come. -/
def spiInk (stop : Nat) : SpiRespond := fun seen _ =>
  if seen.length = stop then .error ⟨hdfFailure,by decide⟩ else .ok fun _ => 1

/-- The memory when all messages have read ones. -/
def inked (msgs : List SpiMsg) (memory : Bytes) : Bytes :=
  receiveAll (msgs.map fun m => (m,fun _ => 1)) memory

theorem ink_takes (n stop : Nat) : SpiTakes (spiInk stop) n stop := by
  intro seen sent _
  simp only [spiInk]
  split_ifs with last
  · exact iff_of_true ⟨_,rfl⟩ last
  · refine iff_of_false ?_ last
    rintro ⟨refusal,answer⟩
    cases answer

theorem inked_one (a : Nat) (one : memory a = 1 ∨
    ∃ m ∈ msgs, ∃ r, m.rbuf = some r ∧ r ≤ a ∧ a < r + m.len.toNat) : inked msgs memory a = 1 := by
  induction msgs generalizing memory with
  | nil =>
    rcases one with one | ⟨m,member,_⟩
    · exact one
    · cases member
  | cons m rest ih =>
    apply ih
    by_cases mine : ∃ r, m.rbuf = some r ∧ r ≤ a ∧ a < r + m.len.toNat
    · obtain ⟨r,read,inside⟩ := mine
      left
      simp only [SpiMsg.receive,read,copyBytes]
      rw [if_pos inside]
    · rcases one with one | ⟨other,member,covered⟩
      · left
        rw [receive_outside]
        · exact one
        · intro r read
          by_contra inside
          exact mine ⟨r,read,by omega,by omega⟩
      · rcases List.mem_cons.mp member with rfl | later
        · exact absurd covered mine
        · exact .inr ⟨other,later,covered⟩

variable (msgs seen memory) in
/-- What went over the bus stays in front of what goes over it. -/
theorem serve_prefix (respond : SpiRespond) :
    seen <+: (spiServe respond msgs seen memory).bus := by
  induction msgs generalizing seen memory with
  | nil => exact List.prefix_refl seen
  | cons m rest ih =>
    simp only [spiServe]
    cases respond seen (m.onBus memory) with
    | error refusal => exact List.prefix_append seen _
    | ok rx => exact (List.prefix_append seen [m.onBus memory]).trans (ih _ _)

variable (seen memory) in
/-- A message goes to the controller as it is when those before it have read. -/
theorem ink_bus (j : Nat) (mine : msgs[j]? = some m) (reached : seen.length + j ≤ stop) :
    (spiServe (spiInk stop) msgs seen memory).bus[seen.length + j]? =
      some (m.onBus (inked (msgs.take j) memory)) := by
  induction msgs generalizing seen memory j with
  | nil => cases mine
  | cons first rest ih =>
    have length : (seen ++ [first.onBus memory]).length = seen.length + 1 := List.length_append
    have here : (seen ++ [first.onBus memory])[seen.length]? = some (first.onBus memory) :=
      List.getElem?_concat_length
    simp only [spiServe,spiInk]
    cases j with
    | zero =>
      cases mine
      split_ifs with last
      · exact here
      · obtain ⟨later,same⟩ := serve_prefix rest (seen ++ [m.onBus memory])
          (m.receive (fun _ => 1) memory) (spiInk stop)
        rw [← same,Nat.add_zero,List.getElem?_append_left (by omega)]
        exact here
    | succ j =>
      rw [if_neg (by omega)]
      have later := ih (seen ++ [first.onBus memory]) (first.receive (fun _ => 1) memory) j mine
        (by rw [length]; omega)
      rw [length,Nat.add_right_comm] at later
      exact later

variable (msgs memory) in
theorem ink_memory (before : seen.length ≤ stop) :
    (spiServe (spiInk stop) msgs seen memory).memory =
      inked (msgs.take (stop - seen.length)) memory := by
  induction msgs generalizing seen memory with
  | nil =>
    rw [List.take_nil]
    rfl
  | cons m rest ih =>
    have length : (seen ++ [m.onBus memory]).length = seen.length + 1 := List.length_append
    simp only [spiServe,spiInk]
    split_ifs with last
    · rw [last,Nat.sub_self]
      rfl
    · have one : stop - seen.length = stop - (seen ++ [m.onBus memory]).length + 1 := by omega
      rw [one,List.take_succ_cons]
      exact ih _ (by omega)

end Ink

section Necessary
variable (honest : world.Honest umsg.vector)
variable (agree : SpiAgree (umsg.direct world (spiInk stop) sizeofSpiMsg zeroed)
  (umsg.bounced world (spiInk stop) sizeofSpiMsg zeroed) sizeofSpiMsg umsg.vector)

include agree in
theorem agree_starts : world.Starts sizeofSpiMsg umsg := by
  obtain ⟨_,refused⟩ | ⟨starts,_⟩ :=
    userTransfer_cases world (spiController (spiInk stop)) sizeofSpiMsg umsg zeroed
  · have silent : (umsg.bounced world (spiInk stop) sizeofSpiMsg zeroed).onBus = [] := by
      have none : (umsg.bounced world (spiInk stop) sizeofSpiMsg zeroed).controller = none :=
        refused.controller
      rw [SpiDevDone.onBus,none]
      rfl
    have bus : [] = (spiServe (spiInk stop) umsg.vector [] zeroed).bus := silent.symm.trans agree.bus
    have ret : (umsg.bounced world (spiInk stop) sizeofSpiMsg zeroed).ret = hdfSuccess ↔
        (spiServe (spiInk stop) umsg.vector [] zeroed).ret = hdfSuccess := agree.ret
    cases vector : umsg.vector with
    | nil =>
      rw [vector] at ret
      exact absurd (ret.mpr rfl) refused.ret
    | cons m rest =>
      have head : umsg.vector[0]? = some m := by
        rw [vector]
        rfl
      have first : (spiServe (spiInk stop) umsg.vector [] zeroed).bus[0]? = some _ :=
        ink_bus [] zeroed 0 head (Nat.zero_le stop)
      rw [← bus] at first
      cases first
  · exact starts

include agree in
theorem agree_fits : umsg.Fits sizeofSpiMsg := by
  have starts := agree_starts agree
  obtain ⟨fails,_⟩ | ⟨_,same⟩ :=
    userTransfer_cases world (spiController (spiInk stop)) sizeofSpiMsg umsg zeroed
  · exact absurd starts fails
  · apply (started_laid_iff zeroed starts).mp
    apply agree.laid
    rw [SpiIocMsg.bounced,spiDevTransfer,same]
    exact start_started _ _

include agree in
/-- What has been read does not show in what is sent. -/
theorem agree_sent (j : Nat) {m : SpiMsg} (mine : umsg.vector[j]? = some m) (reached : j ≤ stop) :
    m.bounced zeroed = m.onBus (inked (umsg.vector.take j) zeroed) := by
  have user : (umsg.bounced world (spiInk stop) sizeofSpiMsg zeroed).onBus = _ :=
    bounced_onBus (ink_takes umsg.vector.length stop) (agree_starts agree) (agree_fits agree)
  have bus : (umsg.bounced world (spiInk stop) sizeofSpiMsg zeroed).onBus =
      (spiServe (spiInk stop) umsg.vector [] zeroed).bus := agree.bus
  have before : ([] : List SpiBusMsg).length + j ≤ stop := by
    rwa [List.length_nil,Nat.zero_add]
  have sent := ink_bus [] zeroed j mine before
  rw [← bus,user,List.length_nil,Nat.zero_add,List.getElem?_map,
    List.getElem?_take_of_lt (by omega),mine] at sent
  exact Option.some.inj sent

include agree in
theorem agree_rbuf : ∀ m ∈ umsg.vector.take (stop + 1), m.rbuf ≠ none := by
  intro m member
  obtain ⟨j,bound,rfl⟩ := List.mem_take_iff_getElem.mp member
  have mine : umsg.vector[j]? = some _ := List.getElem?_eq_getElem (by omega)
  have sent := congrArg SpiBusMsg.rx (agree_sent agree j mine (by omega))
  have reads : umsg.vector[j].rbuf.isSome = true := sent.symm
  exact Option.isSome_iff_ne_none.mp reads

include agree honest in
theorem agree_wbuf : ∀ m ∈ umsg.vector, m.wbuf ≠ none := by
  intro m member
  obtain ⟨i,bound,rfl⟩ := List.getElem_of_mem member
  have copied := (agree_starts agree).lays.copyIn i bound
  exact (honest.copyIn i _ (List.getElem?_eq_getElem bound)).mp copied

include agree in
theorem agree_clobber :
    (umsg.vector.take (stop + 1)).Pairwise fun m other => ¬ m.Clobbers other := by
  rw [List.pairwise_iff_getElem]
  intro i j low high ordered
  rw [List.length_take] at low high
  simp only [List.getElem_take]
  have mine : umsg.vector[j]? = some _ := List.getElem?_eq_getElem (by omega)
  have sent := congrArg SpiBusMsg.tx (agree_sent agree j mine (by omega))
  rintro ⟨r,w,x,read,write,first,last,otherFirst,otherLast⟩
  simp only [SpiMsg.bounced,SpiMsg.onBus,write,Option.map_some,Option.getD_some,
    Option.some.injEq] at sent
  have before : umsg.vector[i] ∈ umsg.vector.take j :=
    List.mem_take_iff_getElem.mpr ⟨i,by omega,rfl⟩
  have one : inked (umsg.vector.take j) zeroed x = 1 :=
    inked_one x (.inr ⟨_,before,r,read,first,last⟩)
  have same := (chunk_eq_iff _ _ _ _ _).mp sent (x - w) (by omega)
  have place : w + (x - w) = x := by omega
  rw [place,one] at same
  exact absurd same (by decide : (0 : UInt8) ≠ 1)

include agree in
theorem agree_refused (some_left : stop < umsg.vector.length) :
    ∀ m ∈ umsg.vector.take stop, m.len = 0 := by
  intro m member
  obtain ⟨i,bound,rfl⟩ := List.mem_take_iff_getElem.mp member
  have among : umsg.vector[i] ∈ umsg.vector.take (stop + 1) :=
    List.mem_take_iff_getElem.mpr ⟨i,by omega,rfl⟩
  obtain ⟨r,read⟩ := Option.ne_none_iff_exists'.mp (agree_rbuf agree _ among)
  have takes := ink_takes umsg.vector.length stop
  obtain ⟨started,heap,bounce,_,same⟩ :=
    bounced_start (spiInk stop) zeroed (agree_starts agree) (agree_fits agree)
  have refused : (spiController (spiInk stop) started.kmsgs started.data).ret ≠ hdfSuccess := by
    rw [bounce_serve bounce takes]
    exact fun success => absurd ((bounced_ret takes).mp success) (by omega)
  have user : (umsg.bounced world (spiInk stop) sizeofSpiMsg zeroed).caller = zeroed := by
    rw [same,start_refused refused]
  have kernel : (umsg.direct world (spiInk stop) sizeofSpiMsg zeroed).caller =
      inked (umsg.vector.take stop) zeroed := ink_memory umsg.vector zeroed (Nat.zero_le stop)
  have theSame := agree.read _ (List.getElem_mem (by omega)) r read
  rw [user,kernel,chunk_eq_iff] at theSame
  by_contra some_byte
  have positive : 0 < umsg.vector[i].len.toNat :=
    Nat.pos_of_ne_zero fun none => some_byte (UInt32.toNat_inj.mp none)
  have first := theSame 0 positive
  have one : inked (umsg.vector.take stop) zeroed (r + 0) = 1 :=
    inked_one (r + 0) (.inr ⟨_,member,r,read,by omega,by omega⟩)
  rw [one] at first
  exact absurd first (by decide : (0 : UInt8) ≠ 1)

include agree honest in
theorem agree_plain : umsg.Plain world sizeofSpiMsg stop := by
  have starts := agree_starts agree
  have pos := starts.lays.pos
  exact ⟨starts.count,starts.callocUmsg,starts.callocMsg,starts.lays.callocData,agree_fits agree,
    by omega,agree_wbuf honest agree,agree_rbuf agree,agree_clobber agree,agree_refused agree⟩

end Necessary

end Paths

/-- A user's transfer is what it would be with kernel addresses, on every controller that takes
so many of its messages and whatever is in the memory, exactly where it is plain. -/
theorem spiDevTransfer_agree_iff (world : SpiDevWorld) (sizeofSpiMsg : UInt32) (umsg : SpiIocMsg)
    (stop : Nat) (honest : world.Honest umsg.vector) :
    (∀ respond, SpiTakes respond umsg.vector.length stop → ∀ memory,
      SpiAgree (umsg.direct world respond sizeofSpiMsg memory)
        (umsg.bounced world respond sizeofSpiMsg memory) sizeofSpiMsg umsg.vector) ↔
      umsg.Plain world sizeofSpiMsg stop := by
  constructor
  · intro agree
    exact agree_plain honest (agree _ (ink_takes umsg.vector.length stop) zeroed)
  · intro plain respond takes memory
    exact plain_agree plain honest takes

private def working : SpiDevWorld := ⟨true,none,true,none,true,fun _ => none,fun _ => none⟩

/-- A command to a device, and its answer. -/
private def asked : SpiIocMsg :=
  ⟨fun i => if i = 0 then ⟨some 0x1000000,some 0x1000010,4,0,0,1⟩
    else ⟨some 0x1000004,some 0x1000020,8,0,0,0⟩,2⟩

private theorem asked_vector : asked.vector =
    [⟨some 0x1000000,some 0x1000010,4,0,0,1⟩,⟨some 0x1000004,some 0x1000020,8,0,0,0⟩] := rfl

private theorem asked_honest : working.Honest asked.vector := by
  have buffers : ∀ m ∈ asked.vector, m.wbuf ≠ none ∧ m.rbuf ≠ none := by decide
  refine ⟨rfl,rfl,fun i m found => iff_of_true rfl ?_,fun i m found => iff_of_true rfl ?_⟩
  · exact (buffers m (List.mem_of_getElem? found)).1
  · exact (buffers m (List.mem_of_getElem? found)).2

private theorem asked_plain : asked.Plain working 24 2 := by
  refine ⟨by decide,rfl,by decide,rfl,⟨by decide,by decide⟩,by decide,by decide,by decide,?_,
    fun some_left => absurd some_left (by decide)⟩
  rw [asked_vector]
  apply List.pairwise_pair.mpr
  rintro ⟨r,w,x,read,write,first,last,otherFirst,otherLast⟩
  cases read
  cases write
  have four : (4 : UInt32).toNat = 4 := rfl
  have eight : (8 : UInt32).toNat = 8 := rfl
  dsimp only at last otherLast
  omega

theorem spiDevTransfer_agree_asked : asked.Plain working 24 2 ∧
    ∀ respond, SpiTakes respond asked.vector.length 2 →
      ∀ memory, SpiAgree (asked.direct working respond 24 memory)
        (asked.bounced working respond 24 memory) 24 asked.vector :=
  ⟨asked_plain,(spiDevTransfer_agree_iff working 24 asked 2 asked_honest).mpr asked_plain⟩

/-- One byte to write and nothing to read. -/
private def writeOnly : SpiIocMsg := ⟨fun _ => ⟨some 0x1000000,none,1,0,0,0⟩,1⟩

private def unreadable : SpiDevWorld :=
  ⟨true,none,true,none,true,fun _ => none,fun _ => some ⟨1,0,by decide⟩⟩

private def taking : SpiRespond := fun _ _ => .ok fun _ => 0

/-- With kernel addresses it succeeds; with user addresses the copy to the null buffer fails. -/
theorem spiDevTransfer_not_agree : unreadable.Honest writeOnly.vector ∧
    ¬ SpiAgree (writeOnly.direct unreadable taking 24 zeroed)
      (writeOnly.bounced unreadable taking 24 zeroed) 24 writeOnly.vector := by
  have buffers : ∀ m ∈ writeOnly.vector, m.wbuf ≠ none ∧ m.rbuf = none := by decide
  refine ⟨⟨rfl,rfl,fun i m found => iff_of_true rfl ?_,fun i m found => iff_of_false ?_ ?_⟩,?_⟩
  · exact (buffers m (List.mem_of_getElem? found)).1
  · exact Option.some_ne_none _
  · exact not_not.mpr (buffers m (List.mem_of_getElem? found)).2
  · intro agree
    have kernel : (writeOnly.direct unreadable taking 24 zeroed).ret = hdfSuccess := rfl
    have user : (writeOnly.bounced unreadable taking 24 zeroed).ret = hdfErrIo := rfl
    have same := agree.ret.mpr kernel
    rw [user] at same
    exact absurd same (by decide)

end DriversAdapter.Platform
