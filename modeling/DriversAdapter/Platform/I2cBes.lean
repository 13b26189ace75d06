import DriversAdapter.Platform.I2cDev
import DriversAdapter.Platform.SpiHal
import DriversAdapter.Semantics.Touches
import Mathlib.Logic.Relation

/-! The transfer of an array of messages in the I2C driver of the bes board. A message with the
stop flag alone goes in one call with the message after it, into which the answer is read. -/
namespace DriversAdapter.Platform
open DriversAdapter.Base DriversAdapter.Semantics

namespace I2cBes
open Touching

/-- What a HAL function answers, and whether all it had to send was sent. -/
structure HalAnswer where
  ret : Int32
  sent : Bool

/-- A call of a HAL function: the messages whose buffers it gets, what it sends and what it
receives, and its answer. -/
structure HalCall where
  msgs : List Nat
  addr : UInt16
  tx : Option Nat × UInt16
  rx : Option Nat × UInt16
  answer : HalAnswer

def HalCall.completed (call : HalCall) : Nat :=
  if call.answer.ret = 0 then call.msgs.length
  else if call.answer.sent then call.msgs.length - 1
  else 0

structure Done where
  ret : Int
  calls : List HalCall

def Done.msgs (done : Done) : List Nat := done.calls.flatMap HalCall.msgs

def Done.completed (done : Done) : Nat := (done.calls.map HalCall.completed).sum

/-- If a call failed, the answer is the number of messages that were completed, with those that
were before. -/
def Done.Answered (done : Done) (before : Nat) : Prop :=
  (∃ call ∈ done.calls, call.answer.ret ≠ 0) → done.ret = before + done.completed

/-- The mutex of the device, and the HAL functions at each message with which a call begins. -/
structure World where
  lock : Bool
  hal : Nat → HalAnswer

section Code
variable (world : World) (msgs : Nat → I2cMsg) (count : Int16)

def halI2cTaskRecv (i : Nat) : HalCall :=
  ⟨[i],(msgs i).addr,((msgs i).buf,0),((msgs i).buf,(msgs i).len),world.hal i⟩

def halI2cTaskSendRecv (i : Nat) : HalCall :=
  ⟨[i,i + 1],(msgs i).addr,((msgs i).buf,(msgs i).len),((msgs (i + 1)).buf,(msgs (i + 1)).len),
    world.hal i⟩

def halI2cTaskSend (i : Nat) : HalCall :=
  ⟨[i],(msgs i).addr,((msgs i).buf,(msgs i).len),(none,0),world.hal i⟩

def i2cTransferLoop : Nat → Nat → Touching Done
  | 0, _ => pure ⟨count.toInt,[]⟩
  | fuel + 1, i =>
    if i < count.toInt then do
      let msg ← read msgs i
      if msg.flags = i2cFlagRead then
        let call := halI2cTaskRecv world msgs i
        if call.answer.ret ≠ 0 then pure ⟨i,[call]⟩
        else
          let rest ← i2cTransferLoop fuel (i + 1)
          pure ⟨rest.ret,call::rest.calls⟩
      else if msg.flags = i2cFlagStop then
        let _ ← read msgs (i + 1)
        let call := halI2cTaskSendRecv world msgs i
        if call.answer.ret ≠ 0 then pure ⟨i + 1,[call]⟩
        else
          let rest ← i2cTransferLoop fuel (i + 1 + 1)
          pure ⟨rest.ret,call::rest.calls⟩
      else
        let call := halI2cTaskSend world msgs i
        if call.answer.ret ≠ 0 then pure ⟨i,[call]⟩
        else
          let rest ← i2cTransferLoop fuel (i + 1)
          pure ⟨rest.ret,call::rest.calls⟩
    else pure ⟨count.toInt,[]⟩

variable (halI2cIdNum i2cPort : UInt32)

/-- Each round of the loop takes at least one message, so there are no more than messages. -/
def i2cTransfer : Touching Done :=
  if halI2cIdNum < i2cPort then pure ⟨hdfErrNotSupport,[]⟩
  else if world.lock = false then pure ⟨hdfErrTimeout,[]⟩
  else i2cTransferLoop world msgs count count.toInt.toNat 0

end Code

/-- Only messages of the array are read, they are performed in their order and each once, and
where one fails the answer is the number of those that were completed. -/
structure Exact (m : Touching Done) (count : Int16) : Prop where
  within : m.Within count.toInt.toNat
  ordered : m.value.msgs = List.range m.value.msgs.length
  answered : m.value.Answered 0

def taken (msgs : Nat → I2cMsg) (i : Nat) : Nat := if (msgs i).flags = i2cFlagStop then 2 else 1

theorem taken_pos (msgs : Nat → I2cMsg) (i : Nat) : 1 ≤ taken msgs i := by
  unfold taken
  split_ifs <;> omega

/-- The next call begins with the first message that this one has not. -/
def Next (world : World) (msgs : Nat → I2cMsg) (i j : Nat) : Prop :=
  (world.hal i).ret = 0 ∧ j = i + taken msgs i

/-- A call begins with this message, if no call before it fails. -/
def Begins (world : World) (msgs : Nat → I2cMsg) : Nat → Nat → Prop :=
  Relation.ReflTransGen (Next world msgs)

/-- A call for two messages has both in the array, and if it fails then in the second. -/
structure PairSound (world : World) (count : Int16) (i : Nat) : Prop where
  inside : i + 1 < count.toInt
  second : (world.hal i).ret ≠ 0 → (world.hal i).sent = true

section Loop
variable {world : World} {msgs : Nat → I2cMsg} {count : Int16}

theorem Begins.le {i j : Nat} (begins : Begins world msgs i j) : i ≤ j := by
  induction begins with
  | refl => exact le_rfl
  | tail _ next ih => exact ih.trans (next.2 ▸ Nat.le_add_right _ _)

/-- What holds of all calls from here on is what holds of this one and those after it. -/
theorem forall_begins_iff (P : Nat → Prop) (i : Nat) :
    (∀ j, Begins world msgs i j → P j) ↔
      P i ∧ ((world.hal i).ret = 0 → ∀ j, Begins world msgs (i + taken msgs i) j → P j) := by
  constructor
  · refine fun all => ⟨all i .refl,fun ok j begins => all j ?_⟩
    exact Relation.ReflTransGen.head ⟨ok,rfl⟩ begins
  · rintro ⟨here,later⟩ j begins
    rcases Relation.ReflTransGen.cases_head begins with rfl | ⟨k,⟨ok,rfl⟩,begins⟩
    · exact here
    · exact later ok j begins

theorem round_eq (call : HalCall) (i : Int) (left : Touching Done) (size : Nat) :
    let round : Touching Done :=
      if call.answer.ret ≠ 0 then pure ⟨i,[call]⟩
      else do
        let rest ← left
        pure ⟨rest.ret,call::rest.calls⟩
    round.value = (if call.answer.ret = 0 then ⟨left.value.ret,call::left.value.calls⟩
        else ⟨i,[call]⟩) ∧
      (round.Within size ↔ (call.answer.ret = 0 → left.Within size)) := by
  by_cases ok : call.answer.ret = 0
  · simp [ok]
  · simp [ok]

variable (world msgs)

/-- One round of the loop is one call, whichever of the three it is. -/
theorem i2cTransferLoop_succ (fuel i : Nat) (inside : i < count.toInt) :
    ∃ call : HalCall, call.msgs = List.range' i (taken msgs i) ∧ call.answer = world.hal i ∧
      (i2cTransferLoop world msgs count (fuel + 1) i).value =
        (if call.answer.ret = 0 then
          let rest := (i2cTransferLoop world msgs count fuel (i + taken msgs i)).value
          ⟨rest.ret,call::rest.calls⟩
        else ⟨(i + taken msgs i - 1 : Int),[call]⟩) ∧
      ∀ size, (i2cTransferLoop world msgs count (fuel + 1) i).Within size ↔
        i + taken msgs i ≤ size ∧ (call.answer.ret = 0 →
          (i2cTransferLoop world msgs count fuel (i + taken msgs i)).Within size) := by
  have apart : i2cFlagStop ≠ i2cFlagRead := by decide
  rw [i2cTransferLoop,if_pos inside]
  by_cases stop : (msgs i).flags = i2cFlagStop
  · have two : taken msgs i = 2 := if_pos stop
    have last : (i + (2 : Nat) - 1 : Int) = i + 1 := by omega
    refine ⟨halI2cTaskSendRecv world msgs i,?_,rfl,?_,fun size => ?_⟩
    · rw [two]
      rfl
    · rw [two,last,value_bind,value_read,if_neg (stop ▸ apart),if_pos stop,value_bind]
      exact (round_eq _ _ _ 0).1
    · rw [two,within_bind,within_read,value_read,if_neg (stop ▸ apart),if_pos stop,within_bind,
        within_read,(round_eq _ _ _ size).2,← and_assoc]
      exact and_congr_left' (by omega)
  · have one : taken msgs i = 1 := if_neg stop
    have last : (i + (1 : Nat) - 1 : Int) = i := by omega
    by_cases reads : (msgs i).flags = i2cFlagRead
    · refine ⟨halI2cTaskRecv world msgs i,?_,rfl,?_,fun size => ?_⟩
      · rw [one]
        rfl
      · rw [one,last,value_bind,value_read,if_pos reads]
        exact (round_eq _ _ _ 0).1
      · rw [one,within_bind,within_read,value_read,if_pos reads,(round_eq _ _ _ size).2]
        rfl
    · refine ⟨halI2cTaskSend world msgs i,?_,rfl,?_,fun size => ?_⟩
      · rw [one]
        rfl
      · rw [one,last,value_bind,value_read,if_neg reads,if_neg stop]
        exact (round_eq _ _ _ 0).1
      · rw [one,within_bind,within_read,value_read,if_neg reads,if_neg stop,
          (round_eq _ _ _ size).2]
        rfl

theorem i2cTransferLoop_end (fuel i : Nat) (outside : ¬(i : Int) < count.toInt) :
    i2cTransferLoop world msgs count fuel i = pure ⟨count.toInt,[]⟩ := by
  cases fuel with
  | zero => rfl
  | succ fuel => rw [i2cTransferLoop,if_neg outside]

theorem i2cTransferLoop_msgs (fuel i : Nat) :
    (i2cTransferLoop world msgs count fuel i).value.msgs =
      List.range' i (i2cTransferLoop world msgs count fuel i).value.msgs.length := by
  induction fuel generalizing i with
  | zero => rfl
  | succ fuel ih =>
    by_cases inside : i < count.toInt
    · obtain ⟨call,mine,_,value,_⟩ := i2cTransferLoop_succ world msgs fuel i
        inside
      rw [value]
      split_ifs with ok
      · have later := ih (i + taken msgs i)
        rw [Done.msgs] at later ⊢
        rw [List.flatMap_cons,mine,List.length_append,List.length_range',← List.range'_append_1,
          ← later]
      · simp [Done.msgs,mine]
    · rw [i2cTransferLoop_end world msgs _ _ inside]
      rfl

/-- No message behind the array is read if the calls for two have both in it. -/
theorem i2cTransferLoop_within_iff (fuel i : Nat) (enough : count.toInt ≤ i + fuel) :
    (i2cTransferLoop world msgs count fuel i).Within count.toInt.toNat ↔
      ∀ j, Begins world msgs i j → j < count.toInt → j + taken msgs j ≤ count.toInt := by
  induction fuel generalizing i with
  | zero =>
    refine iff_of_true (within_pure _) fun j begins inside => ?_
    have le := begins.le
    omega
  | succ fuel ih =>
    by_cases inside : i < count.toInt
    · obtain ⟨call,_,answer,_,within⟩ := i2cTransferLoop_succ world msgs fuel i
        inside
      have some := taken_pos msgs i
      rw [within,forall_begins_iff,answer,ih (i + taken msgs i) (by omega)]
      refine and_congr ?_ Iff.rfl
      omega
    · rw [i2cTransferLoop_end world msgs _ _ inside]
      refine iff_of_true (within_pure _) fun j begins later => ?_
      have le := begins.le
      omega

theorem answered_nil (ret : Int) (before : Nat) : (Done.mk ret []).Answered before := by
  rintro ⟨call,none,_⟩
  contradiction

theorem answered_cons (call : HalCall) (ok : call.answer.ret = 0) (rest : Done) (before : Nat) :
    (Done.mk rest.ret (call::rest.calls)).Answered before ↔
      rest.Answered (before + call.msgs.length) := by
  have completed : (Done.mk rest.ret (call::rest.calls)).completed =
      call.msgs.length + rest.completed := by
    rw [Done.completed,List.map_cons,List.sum_cons,HalCall.completed,if_pos ok]
    rfl
  unfold Done.Answered
  rw [completed,List.exists_mem_cons_iff,or_iff_right (not_not_intro ok),Nat.cast_add,Nat.cast_add,
    add_assoc]

theorem answered_failed (call : HalCall) (bad : call.answer.ret ≠ 0) (ret : Int) (before : Nat) :
    (Done.mk ret [call]).Answered before ↔ ret = before + call.completed :=
  forall_prop_of_true ⟨call,List.mem_singleton_self _,bad⟩

/-- The answer to a failure is right if a call for two messages fails in the second. -/
theorem i2cTransferLoop_answered_iff (fuel i : Nat) (enough : count.toInt ≤ i + fuel) :
    (i2cTransferLoop world msgs count fuel i).value.Answered i ↔
      ∀ j, Begins world msgs i j → j < count.toInt → (msgs j).flags = i2cFlagStop →
        (world.hal j).ret ≠ 0 → (world.hal j).sent = true := by
  induction fuel generalizing i with
  | zero =>
    refine iff_of_true (answered_nil _ _) fun j begins inside => ?_
    have le := begins.le
    omega
  | succ fuel ih =>
    by_cases inside : i < count.toInt
    · obtain ⟨call,mine,answer,value,_⟩ := i2cTransferLoop_succ world msgs fuel
        i inside
      have length : call.msgs.length = taken msgs i := by rw [mine,List.length_range']
      have some := taken_pos msgs i
      rw [value,forall_begins_iff,← answer]
      by_cases ok : call.answer.ret = 0
      · rw [if_pos ok,answered_cons call ok,length,ih _ (by omega)]
        exact ⟨fun all => ⟨fun _ _ bad => absurd ok bad,fun _ => all⟩,fun all => all.2 ok⟩
      · rw [if_neg ok,answered_failed call ok,and_iff_left fun good => absurd good ok,
          forall_prop_of_true inside,HalCall.completed,if_neg ok,length]
        by_cases stop : (msgs i).flags = i2cFlagStop
        · have two : taken msgs i = 2 := if_pos stop
          rw [two,forall_prop_of_true stop,forall_prop_of_true ok]
          cases call.answer.sent with
          | false =>
            refine iff_of_false ?_ Bool.false_ne_true
            rw [if_neg Bool.false_ne_true]
            omega
          | true =>
            refine iff_of_true ?_ rfl
            rw [if_pos rfl]
            omega
        · have one : taken msgs i = 1 := if_neg stop
          rw [one]
          refine iff_of_true ?_ fun same => absurd same stop
          split_ifs <;> omega
    · rw [i2cTransferLoop_end world msgs _ _ inside]
      refine iff_of_true (answered_nil _ _) fun j begins later => ?_
      have le := begins.le
      omega

end Loop

/-- A transfer stays in its messages, performs them in order and says truly how many it completed,
exactly where no call for two messages begins with the last one or fails in its first. -/
theorem i2cTransfer_exact_iff (world : World) (msgs : Nat → I2cMsg) (count : Int16)
    (halI2cIdNum i2cPort : UInt32) :
    Exact (i2cTransfer world msgs count halI2cIdNum i2cPort) count ↔
      (i2cPort ≤ halI2cIdNum → world.lock = true → ∀ i, Begins world msgs 0 i →
        i < count.toInt → (msgs i).flags = i2cFlagStop → PairSound world count i) := by
  have refused (ret : Int) : Exact (pure ⟨ret,[]⟩) count :=
    ⟨within_pure _,rfl,answered_nil ret 0⟩
  unfold i2cTransfer
  by_cases above : halI2cIdNum < i2cPort
  · rw [if_pos above]
    exact iff_of_true (refused _) fun supported => absurd above (UInt32.not_lt.mpr supported)
  rw [if_neg above,forall_prop_of_true (UInt32.not_lt.mp above)]
  by_cases free : world.lock = false
  · rw [if_pos free]
    exact iff_of_true (refused _) fun held => absurd (free.symm.trans held) Bool.false_ne_true
  rw [if_neg free,forall_prop_of_true (Bool.eq_true_of_not_eq_false free)]
  have enough : count.toInt ≤ (0 : Nat) + count.toInt.toNat := by omega
  have within := i2cTransferLoop_within_iff world msgs _ 0 enough
  have answered := i2cTransferLoop_answered_iff world msgs _ 0 enough
  constructor
  · intro exact i begins inside stop
    have two : taken msgs i = 2 := if_pos stop
    have fits := within.mp exact.within i begins inside
    refine ⟨?_,answered.mp exact.answered i begins inside stop⟩
    omega
  · intro sound
    refine ⟨within.mpr fun i begins inside => ?_,?_,answered.mpr fun i begins inside stop =>
      (sound i begins inside stop).second⟩
    · by_cases stop : (msgs i).flags = i2cFlagStop
      · have two : taken msgs i = 2 := if_pos stop
        have fits := (sound i begins inside stop).inside
        omega
      · have one : taken msgs i = 1 := if_neg stop
        omega
    · rw [List.range_eq_range']
      exact i2cTransferLoop_msgs world msgs _ 0

/-- A register is written, and the answer is never read: the second message does not come. -/
theorem i2cTransfer_not_exact :
    ¬ Exact (i2cTransfer ⟨true,fun _ => ⟨0,true⟩⟩ (fun _ => ⟨0x40,i2cFlagStop,1,some 0⟩) 1 2 0)
      1 := by
  intro exact
  have outside := exact.within 1 (by decide)
  exact absurd outside (by decide)

end I2cBes

end DriversAdapter.Platform
