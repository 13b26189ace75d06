import DriversAdapter.Platform.I2cDev
import Mathlib.Logic.Function.Basic

/-! The bytes of a message in the I2C driver of the wm board, which tells the bus at each of them
whether there is a start before it, or a stop after it. -/
namespace DriversAdapter.Platform
open DriversAdapter.Base

def i2cFlagReadNoAck : UInt16 := 0x0800
def i2cFlagIgnoreNoAck : UInt16 := 0x1000
def i2cFlagNoStart : UInt16 := 0x4000

def I2cMsg.Has (msg : I2cMsg) (flag : UInt16) : Prop := msg.flags &&& flag ≠ 0

instance (msg : I2cMsg) (flag : UInt16) : Decidable (msg.Has flag) :=
  inferInstanceAs (Decidable (_ ≠ _))

def I2cMsg.place (msg : I2cMsg) : Nat := msg.buf.getD 0

namespace I2cWm

inductive TlsCall
  | readByte (ifack ifstop : UInt8)
  | writeByte (data ifstart : UInt8)
  | waitAck
  deriving DecidableEq

namespace TlsCall

def stop : TlsCall → Option Bool
  | readByte _ ifstop => some (ifstop ≠ 0)
  | _ => none

def start : TlsCall → Option Bool
  | writeByte _ ifstart => some (ifstart ≠ 0)
  | _ => none

def data : TlsCall → Option UInt8
  | writeByte data _ => some data
  | _ => none

end TlsCall

section Code
variable (msg : I2cMsg) (line : Bytes)

def i2cSendRead (ifack : UInt8) : Nat → Nat → UInt8 → Bytes → List TlsCall × Bytes
  | 0, _, _, memory => ([],memory)
  | left + 1, j, ifstop, memory =>
    -- what is compared with the last index is the conjunction, which is 0 or 1
    let both : Int := if msg.Has i2cFlagStop ∧ j ≠ 0 then 1 else 0
    let ifstop := if both = msg.len.toNat - 1 then 1 else ifstop
    let rest := i2cSendRead ifack left (j + 1) ifstop
      (Function.update memory (msg.place + j) (line j))
    (.readByte ifack ifstop::rest.1,rest.2)

def i2cSendWrite (ifack : UInt8) (memory : Bytes) : Nat → Nat → UInt8 → List TlsCall
  | 0, _, _ => []
  | left + 1, j, ifstart =>
    let ifstart := if ¬msg.Has i2cFlagNoStart ∧ j = 0 then 1 else ifstart
    let acked : List TlsCall := if ifack ≠ 0 then [.waitAck] else []
    .writeByte (memory (msg.place + j)) ifstart::(acked ++ i2cSendWrite ifack memory left (j + 1)
      ifstart)

/-- `ifstart` holds anything before it is set; the bytes on the line come one a read. -/
def i2cSend (ifstart : UInt8) (memory : Bytes) : List TlsCall × Bytes :=
  if msg.Has i2cFlagRead then
    let ifack := if msg.Has i2cFlagReadNoAck then 0 else 1
    i2cSendRead msg line ifack msg.len.toNat 0 0 memory
  else
    let ifack := if msg.Has i2cFlagIgnoreNoAck then 0 else 1
    (i2cSendWrite msg ifack memory msg.len.toNat 0 ifstart,memory)

end Code

/-- All bytes of the message are transferred once and in order, with a stop after the last if it is
asked for, and with a start before the first unless it is not, and with no other. -/
structure Framed (msg : I2cMsg) (line memory : Bytes) (done : List TlsCall × Bytes) : Prop where
  read : msg.Has i2cFlagRead →
    done.1.filterMap TlsCall.stop = (List.range msg.len.toNat).map
        (fun j => decide (msg.Has i2cFlagStop ∧ j + 1 = msg.len.toNat)) ∧
      done.2 = copyBytes memory msg.place line 0 msg.len.toNat
  write : ¬msg.Has i2cFlagRead →
    done.1.filterMap TlsCall.start = (List.range msg.len.toNat).map
        (fun j => decide (¬msg.Has i2cFlagNoStart ∧ j = 0)) ∧
      done.1.filterMap TlsCall.data = chunk memory msg.place msg.len.toNat

section Loops
variable {msg : I2cMsg}

/-- The stop at a byte: in a message of one byte there always is one. -/
def stopAt (msg : I2cMsg) (j : Nat) : UInt8 :=
  if msg.len.toNat = 1 ∨ (msg.len.toNat = 2 ∧ msg.Has i2cFlagStop ∧ 1 ≤ j) then 1 else 0

/-- What `ifstop` holds after the bytes before this one. -/
def stopBefore (msg : I2cMsg) (j : Nat) : UInt8 := if j = 0 then 0 else stopAt msg (j - 1)

theorem stopAt_eq (j : Nat) (inside : j < msg.len.toNat) :
    (if (if msg.Has i2cFlagStop ∧ j ≠ 0 then 1 else 0 : Int) = msg.len.toNat - 1 then 1
      else stopBefore msg j) = stopAt msg j := by
  unfold stopBefore stopAt
  by_cases stop : msg.Has i2cFlagStop
  · simp only [stop,true_and]
    split_ifs <;> first | rfl | omega
  · simp only [stop,false_and,and_false,or_false,if_false]
    split_ifs <;> first | rfl | omega

theorem i2cSendRead_eq (line : Bytes) (ifack : UInt8) (left j : Nat) (memory : Bytes)
    (whole : j + left = msg.len.toNat) :
    i2cSendRead msg line ifack left j (stopBefore msg j) memory =
      ((List.range' j left).map fun k => .readByte ifack (stopAt msg k),
        copyBytes memory (msg.place + j) line j left) := by
  induction left generalizing j memory with
  | zero =>
    rw [copyBytes_zero]
    rfl
  | succ left ih =>
    have after : stopBefore msg (j + 1) = stopAt msg j := rfl
    have later := ih (j + 1) (Function.update memory (msg.place + j) (line j)) (by omega)
    unfold i2cSendRead
    dsimp only
    rw [stopAt_eq j (by omega),← after,later]
    rw [List.range'_succ,List.map_cons,after,← copyBytes_update]
    rfl

/-- The start at a byte: whatever is there at the first is there at all. -/
def startAt (msg : I2cMsg) (ifstart : UInt8) : UInt8 :=
  if msg.Has i2cFlagNoStart then ifstart else 1

theorem startAt_startAt (msg : I2cMsg) (ifstart : UInt8) :
    startAt msg (startAt msg ifstart) = startAt msg ifstart := by
  unfold startAt
  split_ifs <;> rfl

/-- Waiting for the other side takes nothing from what is told of the bytes. -/
theorem filterMap_writeByte {α : Type} (part : TlsCall → Option α) (quiet : part .waitAck = none)
    {data ifstart : UInt8} {v : α} (told : part (.writeByte data ifstart) = some v) (ifack : UInt8)
    (rest : List TlsCall) :
    (.writeByte data ifstart::((if ifack ≠ 0 then [TlsCall.waitAck] else []) ++ rest)).filterMap
      part = v::rest.filterMap part := by
  rw [List.filterMap_cons_some told,List.filterMap_append]
  split_ifs
  · rw [List.filterMap_cons_none quiet,List.filterMap_nil,List.nil_append]
  · rfl

theorem i2cSendWrite_starts (ifack : UInt8) (memory : Bytes) (left j : Nat) (ifstart : UInt8)
    (before : j ≠ 0 → startAt msg ifstart = ifstart) :
    (i2cSendWrite msg ifack memory left j ifstart).filterMap TlsCall.start =
      List.replicate left (decide (startAt msg ifstart ≠ 0)) := by
  induction left generalizing j ifstart with
  | zero => rfl
  | succ left ih =>
    have now : (if ¬msg.Has i2cFlagNoStart ∧ j = 0 then 1 else ifstart) = startAt msg ifstart := by
      by_cases first : j = 0
      · unfold startAt
        by_cases without : msg.Has i2cFlagNoStart
        · rw [if_pos without,if_neg fun both => both.1 without]
        · rw [if_neg without,if_pos ⟨without,first⟩]
      · rw [if_neg fun both => first both.2,before first]
    have later := ih (j + 1) (startAt msg ifstart) fun _ => startAt_startAt msg ifstart
    unfold i2cSendWrite
    dsimp only
    rw [now,filterMap_writeByte TlsCall.start rfl rfl,later,startAt_startAt]
    rfl

theorem i2cSendWrite_data (ifack : UInt8) (memory : Bytes) (left j : Nat) (ifstart : UInt8) :
    (i2cSendWrite msg ifack memory left j ifstart).filterMap TlsCall.data =
      chunk memory (msg.place + j) left := by
  induction left generalizing j ifstart with
  | zero => rfl
  | succ left ih =>
    unfold i2cSendWrite
    dsimp only
    rw [filterMap_writeByte TlsCall.data rfl rfl,ih,Nat.add_comm left 1,← chunk_append]
    rfl

theorem map_decide_eq_iff (n : Nat) (p q : Nat → Prop) [DecidablePred p] [DecidablePred q] :
    (List.range n).map (fun j => decide (p j)) = (List.range n).map (fun j => decide (q j)) ↔
      ∀ j < n, (p j ↔ q j) := by
  simp only [List.map_inj_left,decide_eq_decide,List.mem_range]

theorem stopAt_ne_zero (j : Nat) : stopAt msg j ≠ 0 ↔
    msg.len.toNat = 1 ∨ (msg.len.toNat = 2 ∧ msg.Has i2cFlagStop ∧ 1 ≤ j) := by
  have apart : (1 : UInt8) ≠ 0 := by decide
  unfold stopAt
  split_ifs with here
  · exact iff_of_true apart here
  · exact iff_of_false (not_not_intro rfl) here

theorem startAt_ne_zero (ifstart : UInt8) :
    startAt msg ifstart ≠ 0 ↔ (msg.Has i2cFlagNoStart → ifstart ≠ 0) := by
  have apart : (1 : UInt8) ≠ 0 := by decide
  unfold startAt
  split_ifs with without
  · exact ⟨fun set _ => set,fun given => given without⟩
  · exact iff_of_true apart fun given => absurd given without

end Loops

/-- The length and the flags, and for a message without a start what the local variable holds. -/
def Framable (msg : I2cMsg) (ifstart : UInt8) : Prop :=
  if msg.Has i2cFlagRead then
    msg.len = 0 ∨ msg.len = 2 ∨ if msg.Has i2cFlagStop then msg.len = 1 else 3 ≤ msg.len
  else msg.len = 0 ∨ if msg.Has i2cFlagNoStart then ifstart = 0 else msg.len = 1

theorem stops_iff (msg : I2cMsg) :
    (∀ j < msg.len.toNat, (stopAt msg j ≠ 0 ↔ msg.Has i2cFlagStop ∧ j + 1 = msg.len.toNat)) ↔
      (msg.len = 0 ∨ msg.len = 2 ∨ if msg.Has i2cFlagStop then msg.len = 1 else 3 ≤ msg.len) := by
  simp only [stopAt_ne_zero,← UInt16.toNat_inj,UInt16.le_iff_toNat_le,UInt16.reduceToNat]
  generalize msg.len.toNat = len
  by_cases stop : msg.Has i2cFlagStop
  · simp only [stop,true_and,if_true]
    constructor
    · intro all
      have last := all (len - 1)
      omega
    · intro short j inside
      omega
  · simp only [stop,false_and,and_false,or_false,if_false,iff_false]
    constructor
    · intro all
      have first := all 0
      omega
    · intro long j inside
      omega

theorem starts_iff (msg : I2cMsg) (ifstart : UInt8) :
    (∀ j < msg.len.toNat, (startAt msg ifstart ≠ 0 ↔ ¬msg.Has i2cFlagNoStart ∧ j = 0)) ↔
      (msg.len = 0 ∨ if msg.Has i2cFlagNoStart then ifstart = 0 else msg.len = 1) := by
  simp only [startAt_ne_zero,← UInt16.toNat_inj,UInt16.reduceToNat]
  generalize msg.len.toNat = len
  by_cases without : msg.Has i2cFlagNoStart
  · simp only [without,not_true,false_and,iff_false,if_true,forall_const,not_not]
    constructor
    · intro all
      rcases Nat.eq_zero_or_pos len with none | some
      · exact .inl none
      · exact .inr (all 0 some)
    · rintro (none | unset) j inside
      · omega
      · exact unset
  · simp only [without,not_false_eq_true,true_and,if_false,false_imp_iff,true_iff]
    constructor
    · intro all
      have second := all 1
      omega
    · intro short j inside
      omega

/-- All bytes of a message are transferred; starts and stops are where they belong exactly for
short messages and such as need neither. -/
theorem i2cSend_framed_iff (msg : I2cMsg) (line memory : Bytes) (ifstart : UInt8) :
    Framed msg line memory (i2cSend msg line ifstart memory) ↔ Framable msg ifstart := by
  unfold Framable
  by_cases read : msg.Has i2cFlagRead
  · have done := i2cSendRead_eq line (if msg.Has i2cFlagReadNoAck then 0 else 1)
      msg.len.toNat 0 memory (Nat.zero_add _)
    have sent : i2cSend msg line ifstart memory = _ := (if_pos read).trans done
    have stops (ifack : UInt8) : ((List.range' 0 msg.len.toNat).map fun k =>
        TlsCall.readByte ifack (stopAt msg k)).filterMap TlsCall.stop =
          (List.range msg.len.toNat).map fun j => decide (stopAt msg j ≠ 0) := by
      rw [List.filterMap_map,List.range_eq_range',← List.filterMap_eq_map]
      rfl
    rw [if_pos read,← stops_iff,← map_decide_eq_iff,← stops,sent]
    constructor
    · intro framed
      exact (framed.read read).1
    · intro right
      exact ⟨fun _ => ⟨right,rfl⟩,fun other => absurd read other⟩
  · have sent : i2cSend msg line ifstart memory = _ := if_neg read
    rw [if_neg read,← starts_iff,← map_decide_eq_iff,List.map_const',List.length_range,
      ← i2cSendWrite_starts (if msg.Has i2cFlagIgnoreNoAck then 0 else 1) memory _ 0 ifstart
        (absurd rfl),sent]
    constructor
    · intro framed
      exact (framed.write read).1
    · intro right
      exact ⟨fun other => absurd other read,fun _ => ⟨right,i2cSendWrite_data _ memory _ 0 ifstart⟩⟩

/-- Two bytes are written, and there is a start before each. -/
theorem i2cSend_not_framed :
    ¬Framed ⟨0x40,0,2,some 0⟩ (fun _ => 0) (fun _ => 7)
      (i2cSend ⟨0x40,0,2,some 0⟩ (fun _ => 0) 0 fun _ => 7) := by
  intro framed
  have starts := (framed.write (by decide)).1
  exact absurd starts (by decide)

end I2cWm

end DriversAdapter.Platform
