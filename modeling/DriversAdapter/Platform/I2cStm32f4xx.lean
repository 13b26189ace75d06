import DriversAdapter.Platform.I2cWm
import DriversAdapter.Platform.SpiHal
import DriversAdapter.Semantics.Machine
import DriversAdapter.Semantics.TwoWire
import DriversAdapter.Semantics.Waiting

/-! The I2C driver of the stm32f4xx board, which asks the controller of a port for each byte and each
condition, and polls the controller's flags between them for as long as it takes. -/
namespace DriversAdapter.Platform
open DriversAdapter.Base DriversAdapter.Semantics

namespace I2cStm
open TwoWire

/-- The calls of the low-level library that ask a controller for something. -/
inductive LlI2cCall
  | enableClock
  | disableOwnAddress2
  | disableGeneralCall
  | enableClockStretching
  | init (clockSpeed ownAddress1 : UInt32)
  | setOwnAddress2 (ownAddress2 : UInt32)
  | generateStartCondition
  | transmitData8 (data : UInt8)
  | clearFlagAddr
  | acknowledgeNextData (ack : Bool)
  | receiveData8 (data : UInt8)
  | generateStopCondition
  deriving DecidableEq

/-- The flags that a loop polls until they are as it wants them. -/
inductive LlWait
  | notBusy
  | startBit
  | transmitEmpty
  | addressed
  | receiveNotEmpty
  deriving DecidableEq

/-- A controller with its line: whether the flags ever come after these calls, and what is in the data
register. -/
structure LlI2c where
  answers : List LlI2cCall → LlWait → Bool
  data : List LlI2cCall → UInt8

/-- What a controller was asked for, and the memory of the messages. -/
structure Asking where
  asked : List LlI2cCall
  memory : Bytes

section Code
variable (hw : LlI2c)

def ask (call : LlI2cCall) : Waiting Asking Unit :=
  .update fun s => {s with asked := s.asked ++ [call]}

def poll (flag : LlWait) : Waiting Asking Unit := .await fun s => hw.answers s.asked flag

def llI2cReceiveData8 : Waiting Asking UInt8 := do
  let data ← .look fun s => hw.data s.asked
  ask (.receiveData8 data)
  return data

def writeLoop (buf : Nat) : Nat → Nat → Waiting Asking Unit
  | 0, _ => return ()
  | left + 1, i => do
    let data ← .look fun s => s.memory (buf + i)
    ask (.transmitData8 data)
    poll hw .transmitEmpty
    writeLoop buf left (i + 1)

/-- `HdfI2cWrite` behind its checks. -/
def writeBytes (devAddr : UInt8) (buf len : Nat) : Waiting Asking Unit := do
  poll hw .notBusy
  ask .generateStartCondition
  poll hw .startBit
  ask (.transmitData8 (devAddr <<< 1))
  poll hw .transmitEmpty
  ask .clearFlagAddr
  poll hw .transmitEmpty
  writeLoop hw buf len 0
  ask .generateStopCondition

def readLoop (buf len : Nat) : Nat → Nat → Waiting Asking Unit
  | 0, _ => return ()
  | left + 1, i => do
    ask (.acknowledgeNextData (decide (i < len - 1)))
    poll hw .receiveNotEmpty
    let data ← llI2cReceiveData8 hw
    .update fun s => {s with memory := Function.update s.memory (buf + i) data}
    readLoop buf len left (i + 1)

/-- `HdfI2cRead` behind its checks. -/
def readBytes (devAddr : UInt8) (buf len : Nat) : Waiting Asking Unit := do
  poll hw .notBusy
  ask .generateStartCondition
  poll hw .startBit
  ask (.transmitData8 (devAddr <<< 1 ||| 1))
  poll hw .addressed
  readLoop hw buf len len 0
  ask .generateStopCondition

end Code

/-- `g_I2cEnableFlg` has three entries and is indexed by the port: `behind` is what is found where
there is none. After a call that has not returned there is no other. -/
structure I2cState where
  enableFlg : Fin 3 → Bool
  behind : UInt8 → Bool
  asked : UInt8 → List LlI2cCall
  memory : Bytes
  remains : Bool

/-- `GetLLI2cHandlerMatch` finds a controller. -/
def Handled (port : UInt8) : Prop := port = 1 ∨ port = 2 ∨ port = 3

instance (port : UInt8) : Decidable (Handled port) := inferInstanceAs (Decidable (_ ∨ _ ∨ _))

namespace I2cState

def enabled (s : I2cState) (port : UInt8) : Bool :=
  if inside : port.toNat < 3 then s.enableFlg ⟨port.toNat,inside⟩ else s.behind port

def enable (port : UInt8) (s : I2cState) : I2cState :=
  if inside : port.toNat < 3 then
    {s with enableFlg := Function.update s.enableFlg ⟨port.toNat,inside⟩ true}
  else {s with behind := Function.update s.behind port true}

def onPort (port : UInt8) : Waiting Asking Unit → Waiting I2cState Unit :=
  .within (fun s => ⟨s.asked port,s.memory⟩) fun t s => {s with
    asked := Function.update s.asked port t.asked
    memory := t.memory}

end I2cState

def settings (i2cRate addr : UInt32) : List LlI2cCall :=
  [.enableClock,.disableOwnAddress2,.disableGeneralCall,.enableClockStretching,.init i2cRate addr,
    .setOwnAddress2 0]

def hdfI2cInit (port : UInt8) (i2cRate addr : UInt32) (s : I2cState) : I2cState :=
  if ¬ Handled port then s
  else I2cState.enable port
    {s with asked := Function.update s.asked port (s.asked port ++ settings i2cRate addr)}

section Transfer
variable (hw : UInt8 → LlI2c)

/-- The checks with which `HdfI2cWrite` and `HdfI2cRead` begin. -/
def checked (port : UInt8) (m : Waiting Asking Unit) : Waiting I2cState Unit := do
  let enabled ← .look fun s => s.enabled port
  if enabled ≠ true then return ()
  else if ¬ Handled port then return ()
  else I2cState.onPort port m

def hdfI2cWrite (port devAddr : UInt8) (buf len : Nat) : Waiting I2cState Unit :=
  checked port (writeBytes (hw port) devAddr buf len)

def hdfI2cRead (port devAddr : UInt8) (buf len : Nat) : Waiting I2cState Unit :=
  checked port (readBytes (hw port) devAddr buf len)

def transferMsg (port : UInt8) (msg : I2cMsg) : Waiting I2cState Unit :=
  if msg.flags = i2cFlagRead then hdfI2cRead hw port msg.addr.toUInt8 msg.place msg.len.toNat
  else hdfI2cWrite hw port msg.addr.toUInt8 msg.place msg.len.toNat

def transferLoop (port : UInt8) : List I2cMsg → Waiting I2cState Unit
  | [] => return ()
  | msg::rest => do
    transferMsg hw port msg
    transferLoop port rest

/-- The mutex of the device is never initialised, so its lock may fail. -/
def i2cDataTransfer (cntlr : Option (Option UInt8)) (msgs : Option (Nat → I2cMsg)) (count : Int16)
    (lock : Bool) : Waiting I2cState Int :=
  match cntlr, msgs with
  | some (some port), some msgs =>
    if count ≤ 0 then return hdfErrInvalidParam
    else if lock = false then return hdfErrTimeout
    else do
      transferLoop hw port ((List.range count.toInt.toNat).map msgs)
      return count.toInt
  | _, _ => return hdfErrInvalidParam

end Transfer

/-- `others` is a write of whoever has the memory behind the flags. -/
inductive I2cCall
  | init (port : UInt8) (i2cRate addr : UInt32)
  | transfer (cntlr : Option (Option UInt8)) (msgs : Option (Nat → I2cMsg)) (count : Int16)
      (lock : Bool)
  | others (behind : UInt8 → Bool)

def serve (hw : UInt8 → LlI2c) : I2cCall → Waiting I2cState Int
  | .init port i2cRate addr => do
    .update (hdfI2cInit port i2cRate addr)
    return hdfSuccess
  | .transfer cntlr msgs count lock => i2cDataTransfer hw cntlr msgs count lock
  | .others behind => do
    .update fun s => {s with behind := behind}
    return hdfSuccess

/-- Calls are made one after the other. -/
def step (hw : UInt8 → LlI2c) (call : I2cCall) (s : I2cState) : Option Int × I2cState :=
  if s.remains then (none,s)
  else ((serve hw call s).1,{(serve hw call s).2 with remains := (serve hw call s).1.isNone})

/-- What a call asks the controller to put on its line. A byte is taken with the acknowledgement
that was set last. -/
def hear (l : Listener × Bool) : LlI2cCall → Listener × Bool
  | .init _ _ => (l.1,true)
  | .generateStartCondition => (l.1.hear .start,l.2)
  | .transmitData8 data => (l.1.hear (.sent data),l.2)
  | .acknowledgeNextData ack => (l.1,ack)
  | .receiveData8 data => (l.1.hear (.received data l.2),l.2)
  | .generateStopCondition => (l.1.hear .stop,l.2)
  | .enableClock | .disableOwnAddress2 | .disableGeneralCall | .enableClockStretching => l
  | .setOwnAddress2 _ | .clearFlagAddr => l

def heard (asked : List LlI2cCall) : Listener × Bool := asked.foldl hear (⟨.idle,[]⟩,false)

@[simp] theorem heard_append (asked : List LlI2cCall) (call : LlI2cCall) :
    heard (asked ++ [call]) = hear (heard asked) call := by
  simp [heard]

/-- A frame that is begun and the flag that it waits for, with what it has moved by then. -/
inductive Begun (address : UInt8) (reads : Bool) (buf len : Nat) (before after : Bytes) :
    Phase → LlWait → Prop
  | busy (same : after = before) : Begun address reads buf len before after .idle .notBusy
  | started (same : after = before) : Begun address reads buf len before after .begun .startBit
  | writing (n : Nat) (writes : reads = false) (some_of : n ≤ len) (same : after = before) :
      Begun address reads buf len before after (.writing address (chunk before buf n)) .transmitEmpty
  | addressed (takes : reads = true) (same : after = before) :
      Begun address reads buf len before after (.reading address [] true) .addressed
  | reading (n : Nat) (takes : reads = true) (some_of : n < len)
      (kept : ∀ a, a < buf ∨ buf + n ≤ a → after a = before a) :
      Begun address reads buf len before after (.reading address (chunk after buf n) true)
        .receiveNotEmpty

/-- Code that stays behind these calls, where the flag that a frame waits for does not come. -/
def LlI2c.Stays (hw : LlI2c) (asked : List LlI2cCall) (frames : List Frame)
    (begun : Phase → LlWait → Prop) : Prop :=
  ∃ flag, hw.answers asked flag = false ∧ (heard asked).1.frames = frames ∧
    begun (heard asked).1.phase flag

section Asking
variable {hw : LlI2c} {α : Type} {s : Asking} {returned : α → Asking → Prop} {stays : Asking → Prop}

theorem meets_ask {call : LlI2cCall} {rest : Waiting Asking α}
    (later : rest.Meets {s with asked := s.asked ++ [call]} returned stays) :
    (ask call >>= fun _ => rest).Meets s returned stays :=
  Waiting.meets_bind (Waiting.meets_update later)

theorem meets_poll {flag : LlWait} {rest : Waiting Asking α}
    (later : rest.Meets s returned stays) (silent : hw.answers s.asked flag = false → stays s) :
    (poll hw flag >>= fun _ => rest).Meets s returned stays :=
  Waiting.meets_bind (Waiting.meets_await later silent)

end Asking

section Frames
variable (hw : LlI2c) (buf len : Nat)

/-- The bytes that are left go out behind those that have. -/
theorem writeLoop_meets (left i : Nat) (all : i + left = len) (s : Asking) (address : UInt8)
    (frames : List Frame) (ack : Bool)
    (begun : heard s.asked = (⟨.writing address (chunk s.memory buf i),frames⟩,ack)) :
    (writeLoop hw buf left i).Meets s
      (fun _ t => t.memory = s.memory ∧
        heard t.asked = (⟨.writing address (chunk s.memory buf len),frames⟩,ack))
      fun t => hw.Stays t.asked frames (Begun address false buf len s.memory t.memory) := by
  induction left generalizing i s with
  | zero =>
    obtain rfl : i = len := all
    exact Waiting.meets_pure ⟨rfl,begun⟩
  | succ left ih =>
    have next : heard (s.asked ++ [.transmitData8 (s.memory (buf + i))]) =
        (⟨.writing address (chunk s.memory buf (i + 1)),frames⟩,ack) := by
      rw [heard_append,begun,← chunk_append]
      simp [hear,Listener.hear,chunk]
    refine Waiting.meets_bind (Waiting.meets_look (meets_ask (meets_poll ?_ fun silent => ?_)))
    · exact ih (i + 1) (by omega) _ next
    · refine ⟨_,silent,by rw [next],?_⟩
      rw [next]
      exact .writing (i + 1) rfl (by omega) rfl

theorem heard_started (asked : List LlI2cCall) (idle : (heard asked).1.phase = .idle) :
    heard (asked ++ [.generateStartCondition]) =
      (⟨.begun,(heard asked).1.frames⟩,(heard asked).2) := by
  rw [heard_append]
  simp only [hear,Listener.hear]
  rw [idle]

theorem heard_addressed (asked : List LlI2cCall) (idle : (heard asked).1.phase = .idle)
    (devAddr : UInt8) (reads : Bool) :
    heard (asked ++ [.generateStartCondition] ++ [.transmitData8 (header devAddr reads)]) =
      (⟨if reads then .reading (devAddr &&& 0x7f) [] true else .writing (devAddr &&& 0x7f) [],
        (heard asked).1.frames⟩,(heard asked).2) := by
  rw [heard_append,heard_started asked idle]
  simp only [hear]
  rw [hear_header]

/-- A write is one frame, or the beginning of one. -/
theorem writeBytes_meets (devAddr : UInt8) (s : Asking) (idle : (heard s.asked).1.phase = .idle) :
    (writeBytes hw devAddr buf len).Meets s
      (fun _ t => t.memory = s.memory ∧ (heard t.asked).1 = ⟨.idle,(heard s.asked).1.frames ++
        [⟨devAddr &&& 0x7f,false,chunk s.memory buf len⟩]⟩)
      fun t => hw.Stays t.asked (heard s.asked).1.frames
        (Begun (devAddr &&& 0x7f) false buf len s.memory t.memory) := by
  have started := heard_started s.asked idle
  have addressed : heard (s.asked ++ [.generateStartCondition] ++ [.transmitData8 (devAddr <<< 1)]) =
      (⟨.writing (devAddr &&& 0x7f) [],(heard s.asked).1.frames⟩,(heard s.asked).2) :=
    heard_addressed s.asked idle devAddr false
  have cleared : heard (s.asked ++ [.generateStartCondition] ++ [.transmitData8 (devAddr <<< 1)] ++
      [.clearFlagAddr]) =
      (⟨.writing (devAddr &&& 0x7f) [],(heard s.asked).1.frames⟩,(heard s.asked).2) := by
    rw [heard_append,addressed]
    rfl
  have nothing : Begun (devAddr &&& 0x7f) false buf len s.memory s.memory
      (.writing (devAddr &&& 0x7f) []) .transmitEmpty := .writing 0 rfl (Nat.zero_le len) rfl
  refine meets_poll (meets_ask (meets_poll (meets_ask (meets_poll (meets_ask (meets_poll
    (Waiting.meets_bind ?_) fun silent => ⟨_,silent,?_⟩)) fun silent => ⟨_,silent,?_⟩))
      fun silent => ⟨_,silent,?_⟩)) fun silent => ⟨_,silent,?_⟩
  · refine Waiting.meets_mono (writeLoop_meets hw buf len len 0 (Nat.zero_add len) _ _ _ _ cleared)
      ?_ fun t stays => stays
    rintro _ t ⟨kept,sent⟩
    refine ⟨kept,?_⟩
    dsimp only
    rw [heard_append,sent]
    rfl
  · rw [cleared]
    exact ⟨rfl,nothing⟩
  · rw [addressed]
    exact ⟨rfl,nothing⟩
  · rw [started]
    exact ⟨rfl,.started rfl⟩
  · rw [idle]
    exact ⟨rfl,.busy rfl⟩

/-- The bytes that are left come in behind those that have, and the last one is not acknowledged. -/
theorem readLoop_meets (left i : Nat) (all : i + left = len) (s : Asking) (before : Bytes)
    (address : UInt8) (frames : List Frame) (more : Bool) (goes_on : more = true ∨ left = 0)
    (begun : (heard s.asked).1 = ⟨.reading address (chunk s.memory buf i) more,frames⟩)
    (kept : ∀ a, a < buf ∨ buf + i ≤ a → s.memory a = before a) :
    (readLoop hw buf len left i).Meets s
      (fun _ t => (heard t.asked).1 = ⟨.reading address (chunk t.memory buf len)
          (more && decide (left = 0)),frames⟩ ∧
        ∀ a, a < buf ∨ buf + len ≤ a → t.memory a = before a)
      fun t => hw.Stays t.asked frames (Begun address true buf len before t.memory) := by
  induction left generalizing i s more with
  | zero =>
    obtain rfl : i = len := all
    refine Waiting.meets_pure ⟨?_,kept⟩
    simpa using begun
  | succ left ih =>
    obtain rfl : more = true := goes_on.resolve_right (Nat.succ_ne_zero left)
    have waits : heard (s.asked ++ [.acknowledgeNextData (decide (i < len - 1))]) =
        (⟨.reading address (chunk s.memory buf i) true,frames⟩,decide (i < len - 1)) := by
      rw [heard_append]
      exact Prod.ext begun rfl
    refine meets_ask (meets_poll (Waiting.meets_bind (Waiting.meets_bind (Waiting.meets_look
      (Waiting.meets_bind (Waiting.meets_update (Waiting.meets_pure (Waiting.meets_bind
        (Waiting.meets_update ?_)))))))) fun silent => ⟨_,silent,?_⟩)
    · generalize hw.data _ = data
      have first : chunk (Function.update s.memory (buf + i) data) buf (i + 1) =
          chunk s.memory buf i ++ [data] := by
        rw [← chunk_append]
        congr 1
        · exact chunk_congr _ _ _ _ _ fun j small => Function.update_of_ne (by omega) _ _
        · simp [chunk]
      have last : (true && decide (left + 1 = 0)) = (decide (i < len - 1) && decide (left = 0)) := by
        simp
        omega
      rw [last]
      refine ih (i + 1) (by omega) _ (decide (i < len - 1)) (by simp; omega) ?_ fun a outside => ?_
      · dsimp only
        rw [heard_append,waits,first]
        rfl
      · have other : a ≠ buf + i := by omega
        exact (Function.update_of_ne other _ _).trans (kept a (by omega))
    · dsimp only
      rw [waits]
      exact ⟨rfl,.reading i rfl (by omega) kept⟩

/-- A read is one frame, or the beginning of one. -/
theorem readBytes_meets (devAddr : UInt8) (s : Asking) (idle : (heard s.asked).1.phase = .idle) :
    (readBytes hw devAddr buf len).Meets s
      (fun _ t => (heard t.asked).1 = ⟨.idle,(heard s.asked).1.frames ++
          [⟨devAddr &&& 0x7f,true,chunk t.memory buf len⟩]⟩ ∧
        ∀ a, a < buf ∨ buf + len ≤ a → t.memory a = s.memory a)
      fun t => hw.Stays t.asked (heard s.asked).1.frames
        (Begun (devAddr &&& 0x7f) true buf len s.memory t.memory) := by
  have started := heard_started s.asked idle
  have addressed : heard (s.asked ++ [.generateStartCondition] ++
      [.transmitData8 (devAddr <<< 1 ||| 1)]) =
      (⟨.reading (devAddr &&& 0x7f) [] true,(heard s.asked).1.frames⟩,(heard s.asked).2) :=
    heard_addressed s.asked idle devAddr true
  refine meets_poll (meets_ask (meets_poll (meets_ask (meets_poll (Waiting.meets_bind ?_)
    fun silent => ⟨_,silent,?_⟩)) fun silent => ⟨_,silent,?_⟩)) fun silent => ⟨_,silent,?_⟩
  · refine Waiting.meets_mono (readLoop_meets hw buf len len 0 (Nat.zero_add len) _ s.memory _ _ true
      (.inl rfl) (congrArg Prod.fst addressed) fun _ _ => rfl) ?_ fun t stays => stays
    rintro _ t ⟨taken,kept⟩
    refine ⟨?_,kept⟩
    have whole : chunk t.memory buf len = [] ∨ (true && decide (len = 0)) = false := by
      by_cases none : len = 0
      · exact .inl (by simp [none,chunk])
      · exact .inr (by simp [none])
    dsimp only
    rw [heard_append]
    simp only [hear]
    rw [taken]
    exact if_pos whole
  · rw [addressed]
    exact ⟨rfl,.addressed rfl rfl⟩
  · rw [started]
    exact ⟨rfl,.started rfl⟩
  · rw [idle]
    exact ⟨rfl,.busy rfl⟩

end Frames

/-- A message and the frame that it is on the line. A frame that reads leaves its bytes in the
buffer of the message, one that writes has those of the buffer. -/
structure Carries (msg : I2cMsg) (frame : Frame) (before after : Bytes) : Prop where
  address : frame.address = msg.addr.toUInt8 &&& 0x7f
  direction : frame.reads = decide (msg.flags = i2cFlagRead)
  content : frame.bytes = chunk after msg.place msg.len.toNat
  kept : ∀ a, frame.reads = false ∨ a < msg.place ∨ msg.place + msg.len.toNat ≤ a →
    after a = before a

/-- The flags as they are found, what a listener has put together on each line, and the memory. -/
structure Seen where
  enabled : UInt8 → Bool
  frames : UInt8 → List Frame
  phase : UInt8 → Phase
  memory : Bytes
  remains : Bool

namespace I2cState

def seen (s : I2cState) : Seen :=
  ⟨s.enabled,fun port => (heard (s.asked port)).1.frames,
    fun port => (heard (s.asked port)).1.phase,s.memory,s.remains⟩

def Quiet (s : I2cState) : Prop := ∀ port, (heard (s.asked port)).1.phase = .idle

end I2cState

/-- One frame for each message, in their order. -/
def Moved (port : UInt8) (msgs : List I2cMsg) (v w : Seen) : Prop :=
  ∃ frames, Machine.History Carries msgs frames v.memory w.memory ∧ w = {v with
    frames := Function.update v.frames port (v.frames port ++ frames)
    memory := w.memory}

/-- The call stays with the beginning of a frame behind whole ones. -/
def Remains (hw : LlI2c) (port : UInt8) (msgs : List I2cMsg) (v w : Seen) : Prop :=
  ∃ moved msg rest u, msgs = moved ++ msg::rest ∧ Moved port moved v u ∧
    (∃ asked, (heard asked).1.phase = w.phase port ∧ hw.Stays asked (u.frames port)
      (Begun (msg.addr.toUInt8 &&& 0x7f) (decide (msg.flags = i2cFlagRead)) msg.place
        msg.len.toNat u.memory w.memory)) ∧
    w = {u with
      phase := Function.update u.phase port (w.phase port)
      memory := w.memory
      remains := true}

def Transferred (hw : LlI2c) (port : UInt8) (msgs : List I2cMsg) (ret : Int) (answer : Option Int)
    (v w : Seen) : Prop :=
  (answer = some ret ∧ Moved port msgs v w) ∨ (answer = none ∧ Remains hw port msgs v w)

/-- What each call may answer and do. -/
def Allows (hw : UInt8 → LlI2c) (call : I2cCall) (answer : Option Int) (v w : Seen) : Prop :=
  if v.remains then answer = none ∧ w = v
  else match call with
  | .init port _ _ => answer = some hdfSuccess ∧ w =
    {v with enabled := if Handled port then Function.update v.enabled port true else v.enabled}
  | .others behind => answer = some hdfSuccess ∧ w =
    {v with enabled := fun port => if port.toNat < 3 then v.enabled port else behind port}
  | .transfer (some (some port)) (some msgs) count lock =>
    if 0 < count ∧ lock = true then
      if v.enabled port = true ∧ Handled port then
        Transferred (hw port) port ((List.range count.toInt.toNat).map msgs) count.toInt answer v w
      else answer = some count.toInt ∧ w = v
    else (∃ error < 0, answer = some error) ∧ w = v
  | .transfer _ _ _ _ => answer = some hdfErrInvalidParam ∧ w = v

section Lines
variable (hw : UInt8 → LlI2c) (port : UInt8) (s : I2cState)

theorem seen_onPort (t : Asking) :
    I2cState.seen {s with asked := Function.update s.asked port t.asked, memory := t.memory} =
      {s.seen with
        frames := Function.update s.seen.frames port (heard t.asked).1.frames
        phase := Function.update s.seen.phase port (heard t.asked).1.phase
        memory := t.memory} := by
  have frames : (fun q => (heard (Function.update s.asked port t.asked q)).1.frames) =
      Function.update s.seen.frames port (heard t.asked).1.frames :=
    Function.comp_update (fun asked => (heard asked).1.frames) s.asked port t.asked
  have phase : (fun q => (heard (Function.update s.asked port t.asked q)).1.phase) =
      Function.update s.seen.phase port (heard t.asked).1.phase :=
    Function.comp_update (fun asked => (heard asked).1.phase) s.asked port t.asked
  exact (Seen.mk.injEq ..).mpr ⟨rfl,frames,phase,rfl,rfl⟩

/-- A line that has heard one more frame. -/
theorem seen_frame (quiet : s.Quiet) (t : Asking) (frame : Frame)
    (done : (heard t.asked).1 = ⟨.idle,(heard (s.asked port)).1.frames ++ [frame]⟩) :
    let next : I2cState :=
      {s with asked := Function.update s.asked port t.asked, memory := t.memory}
    next.Quiet ∧ next.seen = {s.seen with
      frames := Function.update s.seen.frames port (s.seen.frames port ++ [frame])
      memory := t.memory} := by
  intro next
  have same := seen_onPort port s t
  have idle : Function.update s.seen.phase port (heard t.asked).1.phase = s.seen.phase := by
    rw [done,Function.update_eq_self_iff]
    exact (quiet port).symm
  rw [idle,done] at same
  refine ⟨fun q => ?_,same⟩
  have phases := congrFun (congrArg Seen.phase same) q
  exact phases.trans (quiet q)

/-- A line on which a frame has begun. -/
theorem seen_begun (t : Asking)
    (kept : (heard t.asked).1.frames = (heard (s.asked port)).1.frames) :
    I2cState.seen {s with asked := Function.update s.asked port t.asked, memory := t.memory} =
      {s.seen with
        phase := Function.update s.seen.phase port (heard t.asked).1.phase
        memory := t.memory} := by
  have same := seen_onPort port s t
  have frames : Function.update s.seen.frames port (heard t.asked).1.frames = s.seen.frames := by
    rw [kept]
    exact Function.update_eq_self port s.seen.frames
  rwa [frames] at same

theorem checked_meets {m : Waiting Asking Unit} {returned : Unit → I2cState → Prop}
    {stays : I2cState → Prop} (enabled : s.enabled port = true) (handled : Handled port)
    (inside : (I2cState.onPort port m).Meets s returned stays) :
    (checked port m).Meets s returned stays := by
  refine Waiting.meets_bind (Waiting.meets_look ?_)
  rw [if_neg (not_not.mpr enabled),if_neg (not_not.mpr handled)]
  exact inside

theorem checked_refused {m : Waiting Asking Unit} (idle : ¬ (s.enabled port = true ∧ Handled port)) :
    checked port m s = (some (),s) := by
  change (if s.enabled port ≠ true then pure () else if ¬ Handled port then pure () else
    I2cState.onPort port m : Waiting I2cState Unit) s = (some (),s)
  by_cases disabled : s.enabled port ≠ true
  · rw [if_pos disabled]
    rfl
  · rw [if_neg disabled,if_pos fun handled => idle ⟨not_not.mp disabled,handled⟩]
    rfl

/-- A message is one frame, or the beginning of one. -/
theorem transferMsg_meets (msg : I2cMsg) (quiet : s.Quiet) (enabled : s.enabled port = true)
    (handled : Handled port) :
    (transferMsg hw port msg).Meets s
      (fun _ t => t.Quiet ∧ ∃ frame, Carries msg frame s.memory t.memory ∧ t.seen = {s.seen with
        frames := Function.update s.seen.frames port (s.seen.frames port ++ [frame])
        memory := t.memory})
      fun t => (hw port).Stays (t.asked port) (s.seen.frames port) (Begun
          (msg.addr.toUInt8 &&& 0x7f) (decide (msg.flags = i2cFlagRead)) msg.place msg.len.toNat
          s.memory t.memory) ∧
        t.seen = {s.seen with
          phase := Function.update s.seen.phase port (t.seen.phase port)
          memory := t.memory} := by
  have begun (t : Asking) (pending : Phase → LlWait → Prop)
      (stays : (hw port).Stays t.asked (heard (s.asked port)).1.frames pending) :
      let next : I2cState :=
        {s with asked := Function.update s.asked port t.asked, memory := t.memory}
      (hw port).Stays (next.asked port) (s.seen.frames port) pending ∧ next.seen = {s.seen with
        phase := Function.update s.seen.phase port (next.seen.phase port)
        memory := t.memory} := by
    intro next
    have asked : next.asked port = t.asked := Function.update_self ..
    have same := seen_begun port s t stays.choose_spec.2.1
    have here : next.seen.phase port = (heard t.asked).1.phase := by
      rw [same]
      exact Function.update_self ..
    rw [here,asked]
    exact ⟨stays,same⟩
  unfold transferMsg
  by_cases reads : msg.flags = i2cFlagRead
  · rw [if_pos reads]
    refine checked_meets port s enabled handled (Waiting.meets_within (Waiting.meets_mono
      (readBytes_meets (hw port) msg.place msg.len.toNat msg.addr.toUInt8 ⟨s.asked port,s.memory⟩
        (quiet port)) ?_ ?_))
    · rintro _ t ⟨done,kept⟩
      obtain ⟨still,same⟩ := seen_frame port s quiet t _ done
      exact ⟨still,_,⟨rfl,by simp [reads],rfl,fun a outside => kept a (by simpa using outside)⟩,same⟩
    · rintro t stays
      rw [decide_eq_true reads]
      exact begun t _ stays
  · rw [if_neg reads]
    refine checked_meets port s enabled handled (Waiting.meets_within (Waiting.meets_mono
      (writeBytes_meets (hw port) msg.place msg.len.toNat msg.addr.toUInt8 ⟨s.asked port,s.memory⟩
        (quiet port)) ?_ ?_))
    · rintro _ t ⟨memory,done⟩
      obtain ⟨still,same⟩ := seen_frame port s quiet t _ done
      refine ⟨still,_,⟨rfl,by simp [reads],?_,fun a _ => congrFun memory a⟩,same⟩
      rw [memory]
    · rintro t stays
      rw [decide_eq_false reads]
      exact begun t _ stays

theorem moved_cons (msg : I2cMsg) (rest : List I2cMsg) (frame : Frame) (v u w : Seen)
    (first : Carries msg frame v.memory u.memory) (seen : u = {v with
      frames := Function.update v.frames port (v.frames port ++ [frame])
      memory := u.memory}) (later : Moved port rest u w) : Moved port (msg::rest) v w := by
  obtain ⟨frames,history,same⟩ := later
  refine ⟨frame::frames,.cons first history,?_⟩
  rw [same,seen]
  simp

theorem transferLoop_meets (msgs : List I2cMsg) (quiet : s.Quiet) (enabled : s.enabled port = true)
    (handled : Handled port) :
    (transferLoop hw port msgs).Meets s (fun _ t => t.Quiet ∧ Moved port msgs s.seen t.seen)
      fun t => Remains (hw port) port msgs s.seen {t.seen with remains := true} := by
  induction msgs generalizing s with
  | nil =>
    refine Waiting.meets_pure ⟨quiet,[],.nil _,?_⟩
    rw [List.append_nil,Function.update_eq_self]
  | cons msg rest ih =>
    refine Waiting.meets_bind (Waiting.meets_mono
      (transferMsg_meets hw port s msg quiet enabled handled) ?_ ?_)
    · rintro _ t ⟨still,frame,carried,seen⟩
      have flags : t.enabled port = true := (congrFun (congrArg Seen.enabled seen) port).trans enabled
      refine Waiting.meets_mono (ih t still flags) ?_ ?_
      · rintro _ u ⟨last,later⟩
        exact ⟨last,moved_cons port msg rest frame s.seen t.seen u.seen carried seen later⟩
      · rintro u ⟨moved,last,others,v,split,before,begun,now⟩
        refine ⟨msg::moved,last,others,v,congrArg (msg :: ·) split,?_,begun,now⟩
        exact moved_cons port msg moved frame s.seen t.seen v carried seen before
    · rintro t ⟨stays,seen⟩
      refine ⟨[],msg,rest,s.seen,rfl,⟨[],.nil _,?_⟩,⟨t.asked port,rfl,stays⟩,?_⟩
      · rw [List.append_nil,Function.update_eq_self]
      · exact congrArg (fun w : Seen => {w with remains := true}) seen

theorem transferLoop_refused (msgs : List I2cMsg)
    (idle : ¬ (s.enabled port = true ∧ Handled port)) : transferLoop hw port msgs s = (some (),s) := by
  induction msgs with
  | nil => rfl
  | cons msg rest ih =>
    have first : transferMsg hw port msg s = (some (),s) := by
      unfold transferMsg
      split
      · exact checked_refused port s idle
      · exact checked_refused port s idle
    change Waiting.bind (transferMsg hw port msg) (fun _ => transferLoop hw port rest) s = _
    unfold Waiting.bind
    rw [first]
    exact ih

theorem i2cDataTransfer_meets (msgs : Nat → I2cMsg) (count : Int16) (some_msg : 0 < count)
    (quiet : s.Quiet) (enabled : s.enabled port = true) (handled : Handled port) :
    (i2cDataTransfer hw (some (some port)) (some msgs) count true).Meets s
      (fun ret t => t.Quiet ∧ ret = count.toInt ∧
        Moved port ((List.range count.toInt.toNat).map msgs) s.seen t.seen)
      fun t => Remains (hw port) port ((List.range count.toInt.toNat).map msgs) s.seen
        {t.seen with remains := true} := by
  unfold i2cDataTransfer
  dsimp only
  rw [if_neg (Int16.not_le.mpr some_msg),if_neg (by decide)]
  refine Waiting.meets_bind (Waiting.meets_mono
    (transferLoop_meets hw port s _ quiet enabled handled) ?_ fun t stays => stays)
  rintro _ t ⟨still,moved⟩
  exact Waiting.meets_pure ⟨still,rfl,moved⟩

end Lines

section Steps
variable (hw : UInt8 → LlI2c) (s : I2cState)

theorem enabled_enable (port : UInt8) :
    (s.enable port).enabled = Function.update s.enabled port true := by
  funext q
  by_cases same : q = port
  · subst same
    rw [Function.update_self]
    unfold I2cState.enable I2cState.enabled
    split <;> simp [*]
  · have apart : q.toNat ≠ port.toNat := fun equal => same (UInt8.toNat_inj.mp equal)
    rw [Function.update_of_ne same]
    unfold I2cState.enable I2cState.enabled
    split
    · split
      · exact Function.update_of_ne (fun equal => apart (Fin.mk.inj equal)) _ _
      · rfl
    · split
      · rfl
      · exact Function.update_of_ne same _ _

theorem enable_seen (port : UInt8) : (s.enable port).seen =
    {s.seen with enabled := Function.update s.enabled port true} := by
  have rest : (s.enable port).asked = s.asked ∧ (s.enable port).memory = s.memory ∧
      (s.enable port).remains = s.remains := by
    unfold I2cState.enable
    split <;> exact ⟨rfl,rfl,rfl⟩
  obtain ⟨asked,memory,remains⟩ := rest
  refine (Seen.mk.injEq ..).mpr ⟨enabled_enable s port,?_,?_,memory,remains⟩
  · rw [asked]
    rfl
  · rw [asked]
    rfl

theorem heard_settings (asked : List LlI2cCall) (i2cRate addr : UInt32) :
    (heard (asked ++ settings i2cRate addr)).1 = (heard asked).1 := by
  simp [heard,settings,hear]

/-- The settings put nothing on the line. -/
theorem settings_seen (port : UInt8) (i2cRate addr : UInt32) : I2cState.seen
    {s with asked := Function.update s.asked port (s.asked port ++ settings i2cRate addr)} =
      s.seen := by
  have same := seen_onPort port s ⟨s.asked port ++ settings i2cRate addr,s.memory⟩
  dsimp only at same
  rw [heard_settings] at same
  rw [same]
  have frames : Function.update s.seen.frames port (heard (s.asked port)).1.frames = s.seen.frames :=
    Function.update_eq_self port s.seen.frames
  have phase : Function.update s.seen.phase port (heard (s.asked port)).1.phase = s.seen.phase :=
    Function.update_eq_self port s.seen.phase
  rw [frames,phase]
  rfl

theorem init_seen (port : UInt8) (i2cRate addr : UInt32) :
    (hdfI2cInit port i2cRate addr s).seen = {s.seen with
      enabled := if Handled port then Function.update s.seen.enabled port true
        else s.seen.enabled} := by
  unfold hdfI2cInit
  by_cases handled : Handled port
  · rw [if_neg (not_not.mpr handled),if_pos handled,enable_seen,settings_seen]
    rfl
  · rw [if_pos handled,if_neg handled]

/-- Lines are quiet, or the last call has not returned. -/
def I2cState.Orderly (s : I2cState) : Prop := s.remains = false → s.Quiet

theorem quiet_of_phase {t : I2cState} (quiet : s.Quiet) (phase : t.seen.phase = s.seen.phase) :
    t.Quiet := fun port => (congrFun phase port).trans (quiet port)

/-- A call that is through. -/
theorem step_returned {call : I2cCall} {ret : Int} {t : I2cState} (free : s.remains = false)
    (served : serve hw call s = (some ret,t)) :
    step hw call s = (some ret,{t with remains := false}) := by
  unfold step
  rw [if_neg (by simp [free]),served]
  rfl

theorem step_stuck {call : I2cCall} {t : I2cState} (free : s.remains = false)
    (served : serve hw call s = (none,t)) :
    step hw call s = (none,{t with remains := true}) := by
  unfold step
  rw [if_neg (by simp [free]),served]
  rfl

/-- The end of a call marks whether it is through, and changes nothing else that is seen. -/
theorem seen_free (free : s.remains = false) : {s.seen with remains := false} = s.seen := by
  rw [← free]
  rfl

theorem transfer_allowed (port : UInt8) (msgs : Nat → I2cMsg) (count : Int16) (lock : Bool)
    (free : s.remains = false) (quiet : s.Quiet) :
    let call := I2cCall.transfer (some (some port)) (some msgs) count lock
    (step hw call s).2.Orderly ∧
      Allows hw call (step hw call s).1 s.seen (step hw call s).2.seen := by
  intro call
  have running : ¬ s.seen.remains = true := by
    change ¬ s.remains = true
    simp [free]
  have same := seen_free s free
  simp only [Allows,call]
  rw [if_neg running]
  by_cases asks : 0 < count ∧ lock = true
  · obtain ⟨some_msg,rfl⟩ := asks
    rw [if_pos ⟨some_msg,rfl⟩]
    by_cases begins : s.seen.enabled port = true ∧ Handled port
    · rw [if_pos begins]
      have met := i2cDataTransfer_meets hw port s msgs count some_msg quiet begins.1 begins.2
      unfold Waiting.Meets at met
      cases ended : i2cDataTransfer hw (some (some port)) (some msgs) count true s with
      | mk answer t =>
        rw [ended] at met
        cases answer with
        | some ret =>
          obtain ⟨still,rfl,moved⟩ := met
          have served : serve hw call s = (some count.toInt,t) := ended
          rw [step_returned hw s free served]
          have through : {t.seen with remains := false} = t.seen := by
            obtain ⟨frames,_,seen⟩ := moved
            rw [seen,← same]
          refine ⟨fun _ => still,.inl ⟨rfl,?_⟩⟩
          change Moved port _ s.seen {t.seen with remains := false}
          rw [through]
          exact moved
        | none =>
          have served : serve hw call s = (none,t) := ended
          rw [step_stuck hw s free served]
          exact ⟨fun through => Bool.noConfusion through,.inr ⟨rfl,met⟩⟩
    · rw [if_neg begins]
      have served : serve hw call s = (some count.toInt,s) := by
        change i2cDataTransfer hw (some (some port)) (some msgs) count true s = _
        unfold i2cDataTransfer
        dsimp only
        rw [if_neg (Int16.not_le.mpr some_msg),if_neg (by decide)]
        change Waiting.bind (transferLoop hw port _) (fun _ => pure count.toInt) s = _
        unfold Waiting.bind
        rw [transferLoop_refused hw port s _ begins]
        rfl
      rw [step_returned hw s free served]
      exact ⟨fun _ => quiet,rfl,same⟩
  · rw [if_neg asks]
    have refused : ∃ error < 0, serve hw call s = (some error,s) := by
      change ∃ error < 0, i2cDataTransfer hw (some (some port)) (some msgs) count lock s = _
      unfold i2cDataTransfer
      dsimp only
      by_cases none : count ≤ 0
      · rw [if_pos none]
        exact ⟨hdfErrInvalidParam,by decide,rfl⟩
      · rw [if_neg none,if_pos (by
          cases lock with
          | false => rfl
          | true => exact absurd ⟨Int16.not_le.mp none,rfl⟩ asks)]
        exact ⟨hdfErrTimeout,by decide,rfl⟩
    obtain ⟨error,negative,served⟩ := refused
    rw [step_returned hw s free served]
    exact ⟨fun _ => quiet,⟨error,negative,rfl⟩,same⟩

/-- One call leaves the lines orderly, and does what it may. -/
theorem step_allowed (call : I2cCall) (orderly : s.Orderly) :
    (step hw call s).2.Orderly ∧
      Allows hw call (step hw call s).1 s.seen (step hw call s).2.seen := by
  by_cases stays : s.remains = true
  · have still : step hw call s = (none,s) := if_pos stays
    rw [still]
    refine ⟨orderly,?_⟩
    unfold Allows
    rw [if_pos (show s.seen.remains = true from stays)]
    exact ⟨rfl,rfl⟩
  · have free : s.remains = false := Bool.eq_false_iff.mpr stays
    have quiet := orderly free
    have same := seen_free s free
    have running : ¬ s.seen.remains = true := stays
    cases call with
    | init port i2cRate addr =>
      have seen := init_seen s port i2cRate addr
      have still : (hdfI2cInit port i2cRate addr s).Quiet := quiet_of_phase s quiet (by rw [seen])
      rw [step_returned hw s free (t := hdfI2cInit port i2cRate addr s) rfl]
      refine ⟨fun _ => still,?_⟩
      unfold Allows
      rw [if_neg running]
      refine ⟨rfl,?_⟩
      change {(hdfI2cInit port i2cRate addr s).seen with remains := false} = _
      rw [seen,← same]
    | others behind =>
      rw [step_returned hw s free (t := {s with behind := behind}) rfl]
      refine ⟨fun _ => quiet,?_⟩
      unfold Allows
      rw [if_neg running]
      refine ⟨rfl,?_⟩
      rw [← same]
      refine (Seen.mk.injEq ..).mpr ⟨?_,rfl,rfl,rfl,rfl⟩
      funext port
      simp only [I2cState.enabled,I2cState.seen]
      split
      · rfl
      · rfl
    | transfer cntlr msgs count lock =>
      match cntlr, msgs with
      | some (some port), some msgs => exact transfer_allowed hw s port msgs count lock free quiet
      | none, _ | some none, _ | some (some _), none =>
        rw [step_returned hw s free (t := s) rfl]
        refine ⟨fun _ => quiet,?_⟩
        unfold Allows
        rw [if_neg running]
        exact ⟨rfl,same⟩

end Steps

/-- Only where a flag does not come does a call stay. -/
theorem allows_returns {hw : UInt8 → LlI2c}
    (lively : ∀ port asked flag, (hw port).answers asked flag = true) {call : I2cCall}
    {answer : Option Int} {v w : Seen} (allowed : Allows hw call answer v w)
    (free : v.remains = false) : answer ≠ none ∧ w.remains = false := by
  unfold Allows at allowed
  rw [if_neg (by simp [free])] at allowed
  split at allowed
  · obtain ⟨rfl,rfl⟩ := allowed
    exact ⟨Option.some_ne_none _,free⟩
  · obtain ⟨rfl,rfl⟩ := allowed
    exact ⟨Option.some_ne_none _,free⟩
  · split at allowed
    · split at allowed
      · obtain ⟨rfl,frames,_,seen⟩ | ⟨_,_,_,_,_,_,_,⟨_,_,_,silent,_⟩,_⟩ := allowed
        · rw [seen]
          exact ⟨Option.some_ne_none _,free⟩
        · exact absurd (lively _ _ _) (Bool.eq_false_iff.mp silent)
      · obtain ⟨rfl,rfl⟩ := allowed
        exact ⟨Option.some_ne_none _,free⟩
    · obtain ⟨⟨error,_,rfl⟩,rfl⟩ := allowed
      exact ⟨Option.some_ne_none _,free⟩
  · obtain ⟨rfl,rfl⟩ := allowed
    exact ⟨Option.some_ne_none _,free⟩

theorem history_returns {hw : UInt8 → LlI2c}
    (lively : ∀ port asked flag, (hw port).answers asked flag = true)
    {calls : List I2cCall} {answers : List (Option Int)} {v w : Seen}
    (history : Machine.History (Allows hw) calls answers v w) (free : v.remains = false) :
    none ∉ answers := by
  induction history with
  | nil v => exact List.not_mem_nil
  | cons first later ih =>
    obtain ⟨returned,still⟩ := allows_returns lively first free
    rintro (_ | ⟨_,member⟩)
    · exact returned rfl
    · exact ih still member

namespace I2cState

/-- No port is set up yet. -/
def powerOn (behind : UInt8 → Bool) (memory : Bytes) : I2cState :=
  ⟨fun _ => false,behind,fun _ => [],memory,false⟩

end I2cState

theorem transfers_framed (hw : UInt8 → LlI2c) (calls : List I2cCall) (behind : UInt8 → Bool)
    (memory : Bytes) :
    let start := I2cState.powerOn behind memory
    let ended := Machine.run (step hw) calls start
    Machine.History (Allows hw) calls ended.1 start.seen ended.2.seen ∧
      ((∀ port asked flag, (hw port).answers asked flag = true) → none ∉ ended.1) := by
  intro start ended
  have quiet : start.Quiet := fun port => rfl
  obtain ⟨_,history⟩ := Machine.run_history (step hw) I2cState.seen (Allows hw) I2cState.Orderly
    (fun call s orderly => step_allowed hw s call orderly) calls start fun _ => quiet
  exact ⟨history,fun lively => history_returns lively history rfl⟩

/-- A device answers at 0x50 and none at 0x51. -/
def probedBus (_ : UInt8) : LlI2c where
  answers asked flag := !(flag == .addressed && asked.getLast? == some (.transmitData8 0xa3))
  data asked := UInt8.ofNat asked.length

def probes : List I2cCall :=
  [.init 2 100000 0,
    .transfer (some (some 2)) (some fun i => if i = 0 then ⟨0x50,0,2,some 0⟩
      else ⟨0x50,i2cFlagRead,2,some 8⟩) 2 true,
    .transfer (some (some 2)) (some fun _ => ⟨0x51,i2cFlagRead,1,some 8⟩) 1 true,
    .transfer (some (some 2)) (some fun _ => ⟨0x50,0,2,some 0⟩) 1 true]

theorem transfers_framed_probes :
    let start := I2cState.powerOn (fun _ => false) fun a => UInt8.ofNat (a + 5)
    let ended := Machine.run (step probedBus) probes start
    let lively : UInt8 → LlI2c := fun _ => ⟨fun _ _ => true,fun _ => 7⟩
    ended.1 = [some hdfSuccess,some 2,none,none] ∧
      ended.2.seen.frames 2 = [⟨0x50,false,[5,6]⟩,⟨0x50,true,[15,17]⟩] ∧
      chunk ended.2.memory 8 2 = [15,17] ∧
      ended.2.seen.phase 2 = .reading 0x51 [] true ∧
      Machine.History (Allows probedBus) probes ended.1 start.seen ended.2.seen ∧
      none ∉ (Machine.run (step lively) probes start).1 :=
  ⟨by decide,by decide,by decide,by decide,(transfers_framed probedBus probes _ _).1,
    (transfers_framed _ probes _ _).2 fun _ _ _ => rfl⟩

end I2cStm

end DriversAdapter.Platform
