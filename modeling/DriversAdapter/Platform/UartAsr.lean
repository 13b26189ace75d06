import DriversAdapter.Platform.UartHost
import DriversAdapter.Semantics.Interleaving
import DriversAdapter.Semantics.Ring

/-! The receive ring of the ASR driver: the interrupt stores a byte at the head, a read
takes bytes from the tail, and opening and closing the port leave both where they are. -/
namespace DriversAdapter.Platform
open DriversAdapter.Base DriversAdapter.Semantics DriversAdapter.Semantics.Program

def uartRxBufLen : UInt16 := 512
def uartFlgRdBlock : UInt32 := 4

inductive UartTransMode
  | rdBlock
  | rdNonblock
  | other

/-- The host and the ring of its port. Besides, what the callbacks have delivered, what
reads have taken from the ring and what they have returned since the port was opened. -/
structure AsrUart (A : Type) where
  host : UartHost A
  rxHead : UInt16
  rxTail : UInt16
  delivered : Block
  taken : Block
  returned : Block

inductive UartOp
  | init (out : InitOutcomes)
  | deinit
  | setTransMode (mode : UartTransMode)
  | callback (data : UInt8)
  -- the steps of a read
  | state
  | flags
  | pending
  | take
  | muxPost (recv : Block)

abbrev UartOp.Res : UartOp → Type
  | init _ | deinit | setTransMode _ => Int
  | callback _ | muxPost _ => Unit
  | state => Option UartState
  | flags => UInt32
  | pending => Bool
  | take => UInt8

inductive UartRequest
  | init (out : InitOutcomes)
  | deinit
  | setTransMode (mode : UartTransMode)
  | read (size : UInt32)
  | callback (data : UInt8)

inductive ReadLabel
  | entry
  | turn (block : Bool) (recv : Block)

structure UartReply where
  ret : Int
  data : Block

/-- The code of a call. A read that blocks turns until it has all its bytes. -/
def UartRequest.body : UartRequest → ReadLabel → Program UartOp UartOp.Res (ReadLabel ⊕ UartReply)
  | init out, _ => .perform (.init out) fun ret => .done (.inr ⟨ret,[]⟩)
  | deinit, _ => .perform .deinit fun ret => .done (.inr ⟨ret,[]⟩)
  | setTransMode mode, _ => .perform (.setTransMode mode) fun ret => .done (.inr ⟨ret,[]⟩)
  | callback data, _ => .perform (.callback data) fun _ => .done (.inr ⟨hdfSuccess,[]⟩)
  | read _, .entry => .perform .state fun state => match state with
    | none => .done (.inr ⟨hdfErrInvalidParam,[]⟩)
    | some .useable => .perform .flags fun flags =>
        .done (.inl (.turn (flags &&& uartFlgRdBlock != 0) []))
    | some _ => .done (.inr ⟨hdfFailure,[]⟩)
  | read size, .turn block recv =>
    if recv.length = size.toNat then
      .perform (.muxPost recv) fun _ => .done (.inr ⟨recv.length,recv⟩)
    else .perform .pending fun pending => match pending, block with
      | true, _ => .perform .take fun data => .done (.inl (.turn block (recv ++ [data])))
      | false, true => .done (.inl (.turn block recv))
      | false, false => .perform (.muxPost recv) fun _ => .done (.inr ⟨recv.length,recv⟩)

variable {A : Type}

namespace AsrUart

def opens (num : UInt32) (s : AsrUart A) : Bool :=
  match s.host.priv with
  | none => false
  | some udd => udd.id < num && udd.state = .notOpened

def uartHostDevSetTransMode (mode : UartTransMode) (h : UartHost A) : Int × UartHost A :=
  match h.priv with
  | none => (hdfErrInvalidParam,h)
  | some udd =>
    if udd.state ≠ .useable then (hdfFailure,h)
    else match mode with
      | .rdBlock => (hdfSuccess,{h with priv := some {udd with flags := udd.flags ||| uartFlgRdBlock}})
      | .rdNonblock =>
        (hdfSuccess,{h with priv := some {udd with flags := udd.flags &&& ~~~uartFlgRdBlock}})
      | .other => (hdfFailure,h)

/-- The three ports have a callback each, all of them this one. -/
def uartCallback (data : UInt8) (s : AsrUart A) : AsrUart A :=
  let s := {s with delivered := s.delivered ++ [data]}
  match s.host.buffer with
  | none => s
  | some dst => {s with
      host := {s.host with buffer := some (Function.update dst s.rxHead.toNat data)}
      rxHead := (s.rxHead + 1) % uartRxBufLen}

def exec (num : UInt32) (op : UartOp) (s : AsrUart A) : Option (op.Res × AsrUart A) :=
  match op with
  | .init out =>
    let done := s.host.uartHostDevInit (UartChip.asr582x.driver num) out
    some (done.1,if s.opens num then ⟨done.2,s.rxHead,s.rxTail,[],[],[]⟩ else {s with host := done.2})
  | .deinit =>
    let done := s.host.uartHostDevDeinit (UartChip.asr582x.driver num)
    some (done.1,{s with host := done.2})
  | .setTransMode mode =>
    let done := uartHostDevSetTransMode mode s.host
    some (done.1,{s with host := done.2})
  | .callback data => some ((),s.uartCallback data)
  | .state => some (s.host.priv.map UartDriverData.state,s)
  | .flags => some ((s.host.priv.map UartDriverData.flags).getD 0,s)
  | .pending => some (s.rxHead != s.rxTail,s)
  | .take => s.host.buffer.map fun src =>
      let data := src s.rxTail.toNat
      (data,{s with rxTail := (s.rxTail + 1) % uartRxBufLen,taken := s.taken ++ [data]})
  | .muxPost recv => some ((),{s with returned := s.returned ++ recv})

end AsrUart

inductive Context
  | task
  | interrupt
  deriving DecidableEq

/-- A callback finds at most `UART_RX_BUF_LEN - 2` bytes unread. -/
def UartOp.Roomy (op : UartOp) (s : AsrUart A) : Prop :=
  match op with
  | callback _ => s.host.buffer.isSome → s.delivered.length + 1 < s.taken.length + uartRxBufLen.toNat
  | _ => True

/-- The first opening finds the ring empty. -/
def UartOp.Drained (num : UInt32) (op : UartOp) (s : AsrUart A) : Prop :=
  match op with
  | init _ => s.opens num = true → s.rxHead = s.rxTail
  | _ => True

def asrUart (num : UInt32) (condition : UartOp → AsrUart A → Prop) :
    System Context UartOp UartOp.Res UartRequest ReadLabel UartReply Unit (AsrUart A) where
  exec _ op _ s := s.exec num op
  entry _ := .entry
  body := UartRequest.body
  allowed context request := match context, request with
    | .interrupt, .callback _ => True
    | .task, .callback _ => False
    | .task, _ => True
    | .interrupt, _ => False
  permitted _ op s := op.Roomy s ∧ condition op s

instance (op : UartOp) (s : AsrUart A) : Decidable (op.Roomy s) :=
  match op with
  | .callback _ => inferInstanceAs (Decidable (_ → _))
  | .init _ | .deinit | .setTransMode _ | .state | .flags | .pending | .take | .muxPost _ =>
    .isTrue trivial

instance (num : UInt32) (op : UartOp) (s : AsrUart A) : Decidable (op.Drained num s) :=
  match op with
  | .init _ => inferInstanceAs (Decidable (_ → _))
  | .callback _ | .deinit | .setTransMode _ | .state | .flags | .pending | .take | .muxPost _ =>
    .isTrue trivial

instance (num : UInt32) (condition : UartOp → AsrUart A → Prop) (context : Context)
    (request : UartRequest) : Decidable ((asrUart num condition).allowed context request) :=
  match context, request with
  | .interrupt, .callback _ | .task, .init _ | .task, .deinit | .task, .setTransMode _ |
    .task, .read _ => .isTrue trivial
  | .task, .callback _ | .interrupt, .init _ | .interrupt, .deinit | .interrupt, .setTransMode _ |
    .interrupt, .read _ => .isFalse id

instance (num : UInt32) (condition : UartOp → AsrUart A → Prop)
    [∀ op s, Decidable (condition op s)] (context : Context) (op : UartOp) (s : AsrUart A) :
    Decidable ((asrUart num condition).permitted context op s) :=
  inferInstanceAs (Decidable (_ ∧ _))

def AsrUart.attached (host : UartHost A) : AsrUart A := ⟨host,0,0,[],[],[]⟩

namespace AsrUart

/-- While there is a buffer, what was delivered is what was taken and what lies between
tail and head; without one nothing can be taken. -/
structure Streams (s : AsrUart A) : Prop where
  head : s.rxHead.toNat < 512
  tail : s.rxTail.toNat < 512
  returned : s.returned <+: s.taken
  stored : ∀ buf, s.host.buffer = some buf → s.delivered = s.taken ++
    Ring.window 512 buf s.rxTail.toNat (Ring.ahead 512 s.rxTail.toNat s.rxHead.toNat)
  unbuffered : s.host.buffer = none → s.taken <+: s.delivered
  closed : ∀ udd, s.host.priv = some udd → udd.state = .notOpened → s.host.buffer = none
  opened : ∀ udd, s.host.priv = some udd → udd.state ≠ .notOpened → s.host.buffer = none →
    s.rxHead = s.rxTail

theorem index_up (i : UInt16) (inside : i.toNat < 512) :
    ((i + 1) % uartRxBufLen).toNat = (i.toNat + 1) % 512 := by
  have small : (i + 1).toNat = i.toNat + 1 := by
    rw [UInt16.toNat_add]
    exact Nat.mod_eq_of_lt (by simp; omega)
  rw [UInt16.toNat_mod,small]
  rfl

section Steps
variable {s : AsrUart A} (streams : s.Streams)

include streams in
theorem streams_taken : s.taken <+: s.delivered := by
  cases buffer : s.host.buffer with
  | none => exact streams.unbuffered buffer
  | some buf =>
    rw [streams.stored buf buffer]
    exact List.prefix_append _ _

include streams in
theorem streams_callback (data : UInt8) (roomy : (UartOp.callback data).Roomy s) :
    (s.uartCallback data).Streams ∧
      (s.rxHead ≠ s.rxTail → (s.uartCallback data).rxHead ≠ (s.uartCallback data).rxTail) := by
  cases buffer : s.host.buffer with
  | none =>
    have same : s.uartCallback data = {s with delivered := s.delivered ++ [data]} := by
      simp [uartCallback,buffer]
    rw [same]
    refine ⟨⟨streams.head,streams.tail,streams.returned,?_,?_,streams.closed,streams.opened⟩,id⟩
    · intro buf some
      rw [buffer] at some
      contradiction
    · exact fun none => (streams.unbuffered none).trans (List.prefix_append _ _)
  | some buf =>
    have stored := streams.stored buf buffer
    have room : Ring.ahead 512 s.rxTail.toNat s.rxHead.toNat + 1 < 512 := by
      have len := congrArg List.length stored
      have bound := roomy (by simp [buffer])
      have size : uartRxBufLen.toNat = 512 := rfl
      rw [List.length_append,Ring.window_length] at len
      omega
    have next := index_up s.rxHead streams.head
    have written : Ring.Overwritten 512 buf (Function.update buf s.rxHead.toNat data)
        s.rxHead.toNat 1 (fun _ => data) := by
      intro k inside
      have head := streams.head
      by_cases here : k = s.rxHead.toNat
      · subst k
        simp [Ring.ahead_self]
      · have far : ¬ Ring.ahead 512 s.rxHead.toNat k < 1 := by
          unfold Ring.ahead
          split_ifs <;> omega
        rw [if_neg far,Function.update_of_ne here]
    have longer := Ring.window_append 512 buf _ s.rxTail.toNat s.rxHead.toNat 1 (fun _ => data)
      streams.tail streams.head room written
    have moved : s.uartCallback data = {s with
        delivered := s.delivered ++ [data]
        host := {s.host with buffer := some (Function.update buf s.rxHead.toNat data)}
        rxHead := (s.rxHead + 1) % uartRxBufLen} := by
      simp [uartCallback,buffer]
    rw [moved]
    refine ⟨⟨?_,streams.tail,streams.returned,?_,?_,?_,?_⟩,?_⟩
    · rw [next]
      exact Nat.mod_lt _ (by decide)
    · rintro _ ⟨⟩
      dsimp only
      rw [next,longer,stored]
      simp
    · rintro ⟨⟩
    · intro udd attached notOpened
      rw [streams.closed udd attached notOpened] at buffer
      contradiction
    · rintro udd attached _ ⟨⟩
    · intro _ met
      dsimp only at met
      have grown := Ring.ahead_add 512 s.rxTail.toNat s.rxHead.toNat 1 streams.tail streams.head room
      rw [← next,met,Ring.ahead_self] at grown
      omega

include streams in
/-- The next byte is the first that was delivered and not taken. -/
theorem streams_take (buf : Bytes) (buffer : s.host.buffer = some buf)
    (pending : s.rxHead ≠ s.rxTail) :
    Streams {s with
      rxTail := (s.rxTail + 1) % uartRxBufLen,taken := s.taken ++ [buf s.rxTail.toNat]} := by
  have stored := streams.stored buf buffer
  have next := index_up s.rxTail streams.tail
  have within : 1 ≤ Ring.ahead 512 s.rxTail.toNat s.rxHead.toNat := by
    have different : s.rxHead.toNat ≠ s.rxTail.toNat := fun same => pending (UInt16.toNat_inj.mp same)
    have head := streams.head
    have tail := streams.tail
    unfold Ring.ahead
    split_ifs <;> omega
  have dropped := Ring.window_forward 512 buf s.rxTail.toNat s.rxHead.toNat 1 streams.tail
    streams.head within
  have first : Ring.window 512 buf s.rxTail.toNat
      (Ring.ahead 512 s.rxTail.toNat s.rxHead.toNat) = [buf s.rxTail.toNat] ++
        (Ring.window 512 buf s.rxTail.toNat
          (Ring.ahead 512 s.rxTail.toNat s.rxHead.toNat)).drop 1 := by
    have one : (Ring.window 512 buf s.rxTail.toNat
        (Ring.ahead 512 s.rxTail.toNat s.rxHead.toNat)).take 1 = [buf s.rxTail.toNat] := by
      rw [Ring.window_take 512 buf _ _ 1 within]
      simp [Ring.window,Nat.mod_eq_of_lt streams.tail]
    rw [← one,List.take_append_drop]
  refine ⟨streams.head,?_,?_,?_,?_,streams.closed,?_⟩
  · rw [next]
    exact Nat.mod_lt _ (by decide)
  · exact streams.returned.trans (List.prefix_append _ _)
  · intro buf' some
    cases buffer.symm.trans some
    dsimp only
    rw [next,dropped,stored,List.append_assoc,← first]
  · intro none
    cases buffer.symm.trans none
  · intro udd _ _ none
    cases buffer.symm.trans none

include streams in
theorem streams_host (host : UartHost A) (buffer : host.buffer = s.host.buffer)
    (kept : ∀ udd', host.priv = some udd' → ∃ udd, s.host.priv = some udd ∧
      (udd'.state = .notOpened ↔ udd.state = .notOpened)) : Streams {s with host := host} := by
  refine ⟨streams.head,streams.tail,streams.returned,?_,?_,?_,?_⟩
  · intro buf some
    exact streams.stored buf (buffer ▸ some)
  · intro none
    exact streams.unbuffered (buffer ▸ none)
  · intro udd' attached notOpened
    obtain ⟨udd,was,same⟩ := kept udd' attached
    exact buffer.trans (streams.closed udd was (same.mp notOpened))
  · intro udd' attached opened none
    obtain ⟨udd,was,same⟩ := kept udd' attached
    exact streams.opened udd was (fun notOpened => opened (same.mpr notOpened)) (buffer ▸ none)

theorem createMutexes_priv (out : InitOutcomes) (h : UartHost A) :
    (h.createMutexes out).2.priv = h.priv := by
  unfold UartHost.createMutexes UartHost.createTxMutex UartHost.createRxMutex
  cases losMuxCreate out.losTxMuxCreate h.kernel with
  | mk tx kernel =>
    cases tx with
    | none => rfl
    | some handle =>
      dsimp only
      cases losMuxCreate out.losRxMuxCreate kernel with
      | mk rx kernel' => cases rx <;> rfl

/-- An opening that is not the first at most counts, and the first leaves the state in
which the port is not opened, whether it succeeds or fails. -/
theorem init_state (num : UInt32) (out : InitOutcomes) (s : AsrUart A) :
    if s.opens num then
      ∀ udd, (s.host.uartHostDevInit (UartChip.asr582x.driver num) out).2.priv = some udd →
        udd.state ≠ .notOpened
    else (s.host.uartHostDevInit (UartChip.asr582x.driver num) out).2.buffer = s.host.buffer ∧
      ∀ udd', (s.host.uartHostDevInit (UartChip.asr582x.driver num) out).2.priv = some udd' →
        ∃ udd, s.host.priv = some udd ∧ (udd'.state = .notOpened ↔ udd.state = .notOpened) := by
  cases attached : s.host.priv with
  | none => simp [opens,UartHost.uartHostDevInit,attached]
  | some udd =>
    by_cases inside : udd.id < num
    · have accepted : ¬ num ≤ udd.id := UInt32.not_le.mpr inside
      by_cases closed : udd.state = .notOpened
      · have first : s.opens num = true := by simp [opens,attached,inside,closed]
        rw [if_pos first]
        simp only [UartHost.uartHostDevInit,attached,UartChip.driver,if_neg accepted,if_pos closed]
        intro udd' after
        split at after
        · cases after
          simp
        · unfold UartHost.configFirst at after
          split at after
          · cases (createMutexes_priv out _).symm.trans after
            simp
          · split at after <;> cases after <;> simp
      · have later : s.opens num = false := by simp [opens,attached,closed]
        rw [if_neg (by simp [later])]
        simp only [UartHost.uartHostDevInit,attached,UartChip.driver,if_neg accepted,if_neg closed]
        refine ⟨rfl,?_⟩
        rintro _ ⟨⟩
        exact ⟨udd,rfl,by simp [closed]⟩
    · have later : s.opens num = false := by simp [opens,attached,inside]
      have refused : num ≤ udd.id := UInt32.not_lt.mp inside
      have same : s.host.uartHostDevInit (UartChip.asr582x.driver num) out =
          (hdfErrInvalidParam,s.host) := by
        simp [UartHost.uartHostDevInit,attached,UartChip.driver,refused]
      rw [if_neg (by simp [later]),same]
      exact ⟨rfl,fun udd' here => ⟨udd',attached.symm.trans here,Iff.rfl⟩⟩

theorem deinit_state (num : UInt32) (h : UartHost A) :
    ((h.uartHostDevDeinit (UartChip.asr582x.driver num)).2.buffer = h.buffer ∧
      ∀ udd', (h.uartHostDevDeinit (UartChip.asr582x.driver num)).2.priv = some udd' →
        ∃ udd, h.priv = some udd ∧ (udd'.state = .notOpened ↔ udd.state = .notOpened)) ∨
    ((h.uartHostDevDeinit (UartChip.asr582x.driver num)).2.buffer = none ∧
      ∀ udd', (h.uartHostDevDeinit (UartChip.asr582x.driver num)).2.priv = some udd' →
        udd'.state = .notOpened) := by
  cases attached : h.priv with
  | none => exact .inl (by simp [UartHost.uartHostDevDeinit,attached])
  | some udd =>
    simp only [UartHost.uartHostDevDeinit,attached]
    split
    · refine .inl ⟨rfl,?_⟩
      rintro _ ⟨⟩
      exact ⟨udd,rfl,Iff.rfl⟩
    · refine .inr ⟨?_,?_⟩
      · split
        · rfl
        next empty => simpa using empty
      · rintro _ ⟨⟩
        rfl

include streams in
theorem streams_init (num : UInt32) (out : InitOutcomes)
    (drained : (UartOp.init out).Drained num s) (ret : Int) (t : AsrUart A)
    (served : s.exec num (.init out) = some (ret,t)) :
    t.Streams ∧ (s.taken = s.returned → t.taken = t.returned) := by
  obtain rfl := (Prod.mk.inj (Option.some.inj served)).2
  have states := init_state num out s
  by_cases first : s.opens num = true
  · rw [if_pos first] at states
    rw [if_pos first]
    refine ⟨⟨streams.head,streams.tail,List.prefix_refl _,?_,fun _ => List.prefix_refl _,?_,?_⟩,
      fun _ => rfl⟩
    · intro buf _
      simp [drained first,Ring.ahead_self]
    · exact fun udd attached notOpened => absurd notOpened (states udd attached)
    · exact fun _ _ _ _ => drained first
  · rw [if_neg first] at states
    rw [if_neg first]
    exact ⟨streams_host streams _ states.1 states.2,id⟩

include streams in
theorem streams_deinit (num : UInt32) (ret : Int) (t : AsrUart A)
    (served : s.exec num .deinit = some (ret,t)) :
    t.Streams ∧ (s.taken = s.returned → t.taken = t.returned) := by
  obtain rfl := (Prod.mk.inj (Option.some.inj served)).2
  have taken : s.taken <+: s.delivered := streams_taken streams
  refine ⟨?_,id⟩
  rcases deinit_state num s.host with ⟨buffer,kept⟩ | ⟨none,closed⟩
  · exact streams_host streams _ buffer kept
  · refine ⟨streams.head,streams.tail,streams.returned,?_,?_,fun _ _ _ => none,?_⟩
    · intro buf some
      rw [none] at some
      contradiction
    · exact fun _ => taken
    · exact fun udd attached opened => absurd (closed udd attached) opened

include streams in
theorem streams_setTransMode (num : UInt32) (mode : UartTransMode) (ret : Int) (t : AsrUart A)
    (served : s.exec num (.setTransMode mode) = some (ret,t)) :
    t.Streams ∧ (s.taken = s.returned → t.taken = t.returned) := by
  obtain rfl := (Prod.mk.inj (Option.some.inj served)).2
  refine ⟨streams_host streams _ ?_ ?_,id⟩
  · unfold uartHostDevSetTransMode
    split
    · rfl
    · split
      · rfl
      · split <;> rfl
  · unfold uartHostDevSetTransMode
    split
    next none => exact fun udd' attached => ⟨udd',attached,Iff.rfl⟩
    next udd attached =>
      split
      · exact fun udd' here => ⟨udd',here,Iff.rfl⟩
      · split
        · rintro _ ⟨⟩
          exact ⟨udd,attached,Iff.rfl⟩
        · rintro _ ⟨⟩
          exact ⟨udd,attached,Iff.rfl⟩
        · exact fun udd' here => ⟨udd',here,Iff.rfl⟩

end Steps

/-- What an interrupt may do between two steps of a read. -/
structure Interrupted (s t : AsrUart A) : Prop where
  taken : t.taken = s.taken
  returned : t.returned = s.returned
  priv : t.host.priv = s.host.priv
  pending : s.rxHead ≠ s.rxTail → t.rxHead ≠ t.rxTail
  streams : s.Streams → t.Streams

theorem interrupted_callback (s : AsrUart A) (streams : s.Streams) (data : UInt8)
    (roomy : (UartOp.callback data).Roomy s) : s.Interrupted (s.uartCallback data) := by
  obtain ⟨after,pending⟩ := streams_callback streams data roomy
  refine ⟨?_,?_,?_,pending,fun _ => after⟩
  all_goals
    unfold uartCallback
    dsimp only
    split <;> rfl

def rely : Context → AsrUart A → AsrUart A → Prop
  | .task, s, t => s.Interrupted t
  | .interrupt, s, t => s.Streams → t.Streams

/-- Nothing is taken that has not been returned. -/
def Settled (s : AsrUart A) : Prop := s.taken = s.returned ∧ s.Streams

def Reading (recv : Block) (s : AsrUart A) : Prop :=
  s.taken = s.returned ++ recv ∧ s.Streams ∧
    ∃ udd, s.host.priv = some udd ∧ udd.state ≠ .notOpened

theorem settled_stable (s t : AsrUart A) (moved : s.Interrupted t) (settled : s.Settled) :
    t.Settled :=
  ⟨by rw [moved.taken,moved.returned,settled.1],moved.streams settled.2⟩

theorem reading_stable (recv : Block) (s t : AsrUart A) (moved : s.Interrupted t)
    (reading : s.Reading recv) : t.Reading recv :=
  ⟨by rw [moved.taken,moved.returned,reading.1],moved.streams reading.2.1,
    by rw [moved.priv]; exact reading.2.2⟩

def Awaits (request : UartRequest) (label : ReadLabel) (s : AsrUart A) : Prop :=
  match label with
  | .entry => (∀ byte, request ≠ .callback byte) ∧ s.Settled
  | .turn _ recv => (∃ size, request = .read size) ∧ s.Reading recv

def Continues (request : UartRequest) (next : ReadLabel ⊕ UartReply) (s : AsrUart A) : Prop :=
  match next with
  | .inl label => Awaits request label s
  | .inr _ => s.Settled

variable (num : UInt32)

abbrev Task (request : UartRequest) (p : Program UartOp UartOp.Res (ReadLabel ⊕ UartReply))
    (s : AsrUart A) : Prop :=
  Safe (rely .task) ((asrUart num (UartOp.Drained num)).step .task)
    (fun _ s t => (s.Streams → t.Streams) ∧ t.Streams) (Continues request) p s

theorem task_settled (request : UartRequest) (reply : UartReply) (s : AsrUart A)
    (settled : s.Settled) : Task num request (.done (.inr reply)) s :=
  fun t moved => settled_stable s t moved settled

theorem task_reading (size : UInt32) (block : Bool) (recv : Block) (s : AsrUart A)
    (reading : s.Reading recv) : Task num (.read size) (.done (.inl (.turn block recv))) s :=
  fun t moved => ⟨⟨size,rfl⟩,reading_stable recv s t moved reading⟩

theorem task_muxPost (request : UartRequest) (recv : Block) (reply : UartReply) (s : AsrUart A)
    (reading : s.Reading recv) :
    Task num request (.perform (.muxPost recv) fun _ => .done (.inr reply)) s := by
  rintro t moved _ u ⟨_,_,served⟩
  obtain ⟨taken,streams,_⟩ := reading_stable recv s t moved reading
  obtain rfl := (Prod.mk.inj (Option.some.inj served)).2
  have all : t.returned ++ recv <+: t.taken := by simp [taken]
  have after : Streams {t with returned := t.returned ++ recv} :=
    ⟨streams.head,streams.tail,all,streams.stored,streams.unbuffered,streams.closed,streams.opened⟩
  exact ⟨⟨fun _ => after,after⟩,task_settled num request reply _ ⟨taken,after⟩⟩

theorem task_turn (size : UInt32) (block : Bool) (recv : Block) (s : AsrUart A)
    (reading : s.Reading recv) :
    Task num (.read size) ((UartRequest.read size).body (.turn block recv)) s := by
  simp only [UartRequest.body]
  split
  next => exact task_muxPost num _ recv _ s reading
  next =>
    rintro t moved pending u ⟨_,_,served⟩
    have here := reading_stable recv s t moved reading
    obtain ⟨rfl,rfl⟩ := Prod.mk.inj (Option.some.inj served)
    refine ⟨⟨id,here.2.1⟩,?_⟩
    cases compared : t.rxHead != t.rxTail with
    | true =>
      rintro u' moved' data v ⟨_,_,taken⟩
      obtain ⟨sum,streams,udd,attached,opened⟩ := reading_stable recv _ u' moved' here
      have ahead : u'.rxHead ≠ u'.rxTail := moved'.pending (by simpa using compared)
      obtain ⟨buf,buffer,took⟩ := Option.map_eq_some_iff.mp taken
      obtain ⟨rfl,rfl⟩ := Prod.mk.inj took
      have after := streams_take streams buf buffer ahead
      refine ⟨⟨fun _ => after,after⟩,task_reading num size block _ _ ⟨?_,after,udd,attached,opened⟩⟩
      simp [sum]
    | false =>
      cases block with
      | true => exact task_reading num size true recv t here
      | false => exact task_muxPost num _ recv _ t here

theorem task_body (request : UartRequest) (data : ∀ byte, request ≠ .callback byte)
    (s : AsrUart A) (settled : s.Settled) : Task num request (request.body .entry) s := by
  cases request with
  | init out =>
    rintro t moved ret u ⟨⟨_,drained⟩,_,served⟩
    obtain ⟨taken,streams⟩ := settled_stable s t moved settled
    obtain ⟨after,kept⟩ := streams_init streams num out drained ret u served
    exact ⟨⟨fun _ => after,after⟩,task_settled num _ _ u ⟨kept taken,after⟩⟩
  | deinit =>
    rintro t moved ret u ⟨_,_,served⟩
    obtain ⟨taken,streams⟩ := settled_stable s t moved settled
    obtain ⟨after,kept⟩ := streams_deinit streams num ret u served
    exact ⟨⟨fun _ => after,after⟩,task_settled num _ _ u ⟨kept taken,after⟩⟩
  | setTransMode mode =>
    rintro t moved ret u ⟨_,_,served⟩
    obtain ⟨taken,streams⟩ := settled_stable s t moved settled
    obtain ⟨after,kept⟩ := streams_setTransMode streams num mode ret u served
    exact ⟨⟨fun _ => after,after⟩,task_settled num _ _ u ⟨kept taken,after⟩⟩
  | callback byte => exact absurd rfl (data byte)
  | read size =>
    rintro t moved state u ⟨_,_,served⟩
    have here := settled_stable s t moved settled
    obtain ⟨rfl,rfl⟩ := Prod.mk.inj (Option.some.inj served)
    refine ⟨⟨id,here.2⟩,?_⟩
    beta_reduce
    split
    next => exact task_settled num _ _ t here
    next useable =>
      obtain ⟨udd,attached,state⟩ := Option.map_eq_some_iff.mp useable
      rintro u moved' flags v ⟨_,_,loaded⟩
      obtain ⟨taken,streams⟩ := settled_stable t u moved' here
      obtain rfl := (Prod.mk.inj (Option.some.inj loaded)).2
      refine ⟨⟨id,streams⟩,task_reading num size _ [] _ ⟨?_,streams,udd,?_,?_⟩⟩
      · rw [taken,List.append_nil]
      · rw [moved'.priv,attached]
      · rw [state]
        decide
    next => exact task_settled num _ _ t here

/-- The callback as a call of its own. -/
theorem interrupt_body (byte : UInt8) (label : ReadLabel) (s : AsrUart A) (streams : s.Streams) :
    Safe (rely .interrupt) ((asrUart num (UartOp.Drained num)).step .interrupt)
      (fun _ s t => s.Interrupted t ∧ t.Streams) (fun next t => t.Streams ∧ next.isRight)
      ((UartRequest.callback byte).body label) s := by
  rintro t moved _ u ⟨⟨roomy,_⟩,_,served⟩
  have here : t.Streams := moved streams
  obtain rfl := (Prod.mk.inj (Option.some.inj served)).2
  have interrupted := interrupted_callback t here byte roomy
  have after := interrupted.streams here
  exact ⟨⟨interrupted,after⟩,fun v moved' => ⟨moved' after,rfl⟩⟩

def readOutline : Outline (asrUart (A := A) num (UartOp.Drained num)) where
  rely := rely
  guar context _ s t := match context with
    | .task => s.Streams → t.Streams
    | .interrupt => s.Interrupted t
  idle context _ s := match context with
    | .task => s.Settled
    | .interrupt => s.Streams
  during _ _ _ s := s.Streams
  label context _ request label s := match context with
    | .task => Awaits request label s
    | .interrupt => (∃ byte, request = .callback byte) ∧ s.Streams
  rely_refl context s := by
    cases context with
    | task => exact ⟨rfl,rfl,rfl,id,id⟩
    | interrupt => exact id
  rely_trans context s t u first second := by
    cases context with
    | task => exact ⟨second.taken.trans first.taken,second.returned.trans first.returned,
        second.priv.trans first.priv,second.pending ∘ first.pending,second.streams ∘ first.streams⟩
    | interrupt => exact second ∘ first
  idle_stable context _ s t moved idle := by
    cases context with
    | task => exact settled_stable s t moved idle
    | interrupt => exact moved idle
  during_stable context _ _ s t moved streams := by
    cases context with
    | task => exact moved.streams streams
    | interrupt => exact moved streams
  invoke context _ request s allowed idle := by
    cases context with
    | task =>
      refine ⟨idle.2,?_,idle⟩
      rintro byte rfl
      exact allowed
    | interrupt =>
      cases request with
      | callback byte => exact ⟨idle,⟨byte,rfl⟩,idle⟩
      | init | deinit | setTransMode | read => exact absurd allowed id
  body context _ request label s holds := by
    cases context with
    | task =>
      have safe : Task num request (request.body label) s := by
        cases label with
        | entry => exact task_body num request holds.1 s holds.2
        | turn block recv =>
          obtain ⟨⟨size,rfl⟩,reading⟩ := holds
          exact task_turn num size block recv s reading
      refine safe_mono _ s (fun _ _ _ kept => kept) ?_ safe
      intro next t continues
      cases next with
      | inl label => exact continues
      | inr reply => exact continues
    | interrupt =>
      obtain ⟨⟨byte,rfl⟩,streams⟩ := holds
      refine safe_mono _ s (fun _ _ _ kept => kept) ?_ (interrupt_body num byte label s streams)
      intro next t finished
      cases next with
      | inl label => exact absurd finished.2 (by simp)
      | inr reply => exact finished.1
  compatible i j _ s t other kept := by
    cases i with
    | task =>
      cases j with
      | task => exact absurd rfl other
      | interrupt => exact kept
    | interrupt =>
      cases j with
      | task => exact kept
      | interrupt => exact absurd rfl other

theorem streams_attached (host : UartHost A) (closed : host.buffer = none) :
    (attached host).Streams := by
  have first : (0 : UInt16).toNat < 512 := by decide
  refine ⟨first,first,List.prefix_refl _,?_,fun _ => List.prefix_refl _,fun _ _ _ => closed,
    fun _ _ _ _ => rfl⟩
  intro buf some
  rw [attached,closed] at some
  contradiction

end AsrUart

/-- What the reads have returned since the port was opened is a prefix of what the
callbacks have delivered since. -/
theorem asrUart_prefix (num : UInt32) (host : UartHost A) (closed : host.buffer = none)
    (cfg : Config Context UartOp UartOp.Res UartRequest ReadLabel UartReply (AsrUart A))
    (reached : (asrUart num (UartOp.Drained num)).Reachable (AsrUart.attached host) cfg) :
    cfg.shared.returned <+: cfg.shared.delivered := by
  let O := AsrUart.readOutline (A := A) num
  have initially := AsrUart.streams_attached host closed
  have ready : ∀ context, O.idle context [] (AsrUart.attached host) := by
    intro context
    cases context with
    | task => exact ⟨rfl,initially⟩
    | interrupt => exact initially
  have streams : cfg.shared.Streams :=
    O.sound_always (AsrUart.attached host) ready AsrUart.Streams initially
      (fun context _ _ idle => by
        cases context with
        | task => exact idle.2
        | interrupt => exact idle)
      (fun _ _ _ _ here => here) cfg reached
  exact streams.returned.trans (AsrUart.streams_taken streams)

private def closedHost : UartHost Unit :=
  ⟨some ⟨1,115200,(),false,0,.notOpened,0⟩,0,0,0,none,0,⟨fun _ => false,fun _ => false⟩,none⟩

private def opening : UartRequest := .init ⟨true,none,some 5,some 6,true⟩

/-- Two bytes arrive and the first is read. -/
private def reception : List (Context × Move UartRequest Unit) :=
  (.task,.invoke opening) :: List.replicate 2 (.task,.act ()) ++
    (.interrupt,.invoke (.callback 65)) :: List.replicate 2 (.interrupt,.act ()) ++
    (.task,.invoke (.read 1)) :: List.replicate 4 (.task,.act ()) ++
    (.interrupt,.invoke (.callback 66)) :: List.replicate 2 (.interrupt,.act ()) ++
    List.replicate 4 (.task,.act ())

theorem asrUart_prefix_reception :
    ∃ cfg, (asrUart 3 (UartOp.Drained 3)).schedule reception
        (.start (AsrUart.attached closedHost)) = some cfg ∧
      cfg.shared.returned = [65] ∧ cfg.shared.returned <+: cfg.shared.delivered := by
  have ordered := fun cfg admitted ran => asrUart_prefix 3 closedHost rfl cfg
    (System.schedule_reachable _ _ reception _ cfg admitted .start ran)
  have admitted : (asrUart 3 (UartOp.Drained 3)).AdmitsAll reception
      (.start (AsrUart.attached closedHost)) := by decide
  exact ⟨_,rfl,rfl,ordered _ admitted rfl⟩

/-- A byte is left unread when the port is closed, and the port is opened again. -/
private def reopening : List (Context × Move UartRequest Unit) :=
  (.task,.invoke opening) :: List.replicate 2 (.task,.act ()) ++
    (.interrupt,.invoke (.callback 65)) :: List.replicate 2 (.interrupt,.act ()) ++
    (.task,.invoke .deinit) :: List.replicate 2 (.task,.act ()) ++
    (.task,.invoke opening) :: List.replicate 2 (.task,.act ()) ++
    (.task,.invoke (.read 1)) :: List.replicate 8 (.task,.act ())

private theorem reopening_ends :
    ∃ cfg, (asrUart (A := Unit) 3 fun _ _ => True).Reachable (AsrUart.attached closedHost) cfg ∧
      cfg.shared.returned = [0] ∧ cfg.shared.delivered = [] := by
  have reached := fun cfg admitted ran => System.schedule_reachable
    (asrUart (A := Unit) 3 fun _ _ => True) (AsrUart.attached closedHost) reopening _ cfg admitted
    .start ran
  have admitted : (asrUart (A := Unit) 3 fun _ _ => True).AdmitsAll reopening
      (.start (AsrUart.attached closedHost)) := by decide
  exact ⟨_,reached _ admitted rfl,rfl,rfl⟩

theorem asrUart_stale_reopening :
    ¬ ∀ cfg, (asrUart (A := Unit) 3 fun _ _ => True).Reachable (AsrUart.attached closedHost) cfg →
      cfg.shared.returned <+: cfg.shared.delivered := by
  intro ordered
  obtain ⟨cfg,reached,returned,delivered⟩ := reopening_ends
  have unread := ordered cfg reached
  rw [returned,delivered] at unread
  exact absurd unread (by decide)

end DriversAdapter.Platform
