import DriversAdapter.Smq.Copy
import DriversAdapter.Semantics.Interleaving

/-! A synchronized queue used by one writer and one reader at the same time: the calls
that wait on the sync word, and the system in which every load, store, element copy and
operation on the sync word is one step. -/
namespace DriversAdapter.Smq
open DriversAdapter.Base DriversAdapter.Semantics

inductive Side
  | writer
  | reader
  deriving DecidableEq

def Side.other : Side → Side
  | .writer => .reader
  | .reader => .writer

def syncWordWrite : UInt32 := 1
def syncWordRead : UInt32 := 2

/-- The bit of the sync word that a side waits for. -/
def Side.waitBit : Side → UInt32
  | .writer => syncWordWrite
  | .reader => syncWordRead

/-- The system call that waits is two steps: it compares the word and falls asleep, and
later returns. `asked` records the number of elements its caller wants. -/
inductive SyncOp
  | queue (op : QueueOp)
  | fetchAnd (mask : UInt32)
  | fetchOr (bits : UInt32)
  | futexWait (bitset valParm : UInt32) (asked : Nat)
  | futexResume
  | futexWake (bitset : UInt32)

/-- The operations of `Wake`. -/
def SyncOp.Wakes : SyncOp → Prop
  | .fetchOr _ => True
  | .futexWake _ => True
  | _ => False

@[reducible] def SyncOp.Res : SyncOp → Type
  | .queue op => op.Res
  | .fetchAnd _ => UInt32
  | .fetchOr _ => UInt32
  | .futexWait _ _ _ => Bool
  | .futexResume => Int
  | .futexWake _ => Int

abbrev SyncM := Program SyncOp SyncOp.Res

def fetchAnd (mask : UInt32) : SyncM UInt32 := Program.call (SyncOp.fetchAnd mask)
def fetchOr (bits : UInt32) : SyncM UInt32 := Program.call (SyncOp.fetchOr bits)
def futexSleep (bitset valParm : UInt32) (asked : Nat) : SyncM Bool :=
  Program.call (SyncOp.futexWait bitset valParm asked)
def futexResume : SyncM Int := Program.call SyncOp.futexResume
def futexWake (bitset : UInt32) : SyncM Int := Program.call (SyncOp.futexWake bitset)

namespace SharedMemQueueSyncer

def wake (bitset : UInt32) : SyncM Int := do
  let syncWordOld ← fetchOr bitset
  -- if sync bit already set, no need to wake
  if bitSet syncWordOld bitset then
    return hdfSuccess
  else
    let ret ← futexWake bitset
    if ret < 0 then return ret else return hdfSuccess

def futexWait (bitset : UInt32) (asked : Nat) : SyncM Int := do
  let syncWordOld ← fetchAnd (~~~bitset)
  if bitSet syncWordOld bitset then
    return hdfSuccess
  else if (← futexSleep bitset (syncWordOld &&& ~~~bitset) asked) = false then
    return -eagain
  else
    let status ← futexResume
    if status = 0 then
      let syncWordOld ← fetchAnd (~~~bitset)
      if bitSet syncWordOld bitset then return status else return -eintr
    else
      return status

end SharedMemQueueSyncer

/-- A call that returns at once, or one that waits without a timeout. -/
inductive Request
  | now (c : Call)
  | wait (c : Call)

def Request.call : Request → Call
  | .now c => c
  | .wait c => c

def Call.side : Call → Side
  | .write _ _ => .writer
  | .read _ => .reader

def Call.count : Call → Nat
  | .write _ count => count.toNat
  | .read count => count.toNat

inductive Label
  | start
  | wait

namespace SharedMemQueue

def issueStep (q : SharedMemQueue) (c : Call) : SyncM Reply :=
  (q.issue c).embed SyncOp.queue (fun _ r => r)

/-- The end of `Write` and `Read`: a success wakes the other side, a failure waits. -/
def settle (c : Call) (r : Reply) : SyncM (Label ⊕ Reply) :=
  if r.ret = 0 then do
    let ret ← SharedMemQueueSyncer.wake c.side.other.waitBit
    return .inr ⟨ret,r.data⟩
  else
    return .inl .wait

/-- `Write` and `Read` up to the loop, and one turn of the loop; the loop in `Wait` is
the same loop, as it only tries again. -/
def body (q : SharedMemQueue) : Request → Label → SyncM (Label ⊕ Reply)
  | .now c, _ => do
    let r ← q.issueStep c
    return .inr r
  | .wait c, .start => do
    if q.metaData.getType ≠ syncedSmq then
      return .inr ⟨hdfErrNotSupport,[]⟩
    else
      let r ← q.issueStep c
      settle c r
  | .wait c, .wait => do
    let ret ← SharedMemQueueSyncer.futexWait c.side.waitBit c.count
    if ret = -eintr ∨ ret = -eagain then
      return .inl .wait
    else if ret ≠ 0 ∧ ret ≠ -etimedout then
      return .inr ⟨ret,[]⟩
    else
      let r ← q.issueStep c
      settle c r

end SharedMemQueue

/-- Where a side is between publishing its offset and waking the other side. -/
inductive Phase
  | none
  | stored
  | signalled
  deriving DecidableEq

/-- The mapping and the sync word, with a record of the elements published and released
so far, of those the reader has checked and not released, and of who is asleep. -/
structure Board where
  shared : Shared Side
  word : UInt32
  published : List Block
  released : List Block
  window : Nat
  waiting : Side → Option (UInt32 × Nat)
  phase : Side → Phase

namespace Board

/-- The elements from slot `start` up to slot `stop`. -/
def between (q : SharedMemQueue) (s : Board) (start stop : Nat) : List Block :=
  Ring.window q.metaData.getElementCount (slot q.sizeofT s.shared.queueBuffer) start
    (Ring.ahead q.metaData.getElementCount start stop)

/-- What the record gains by an operation of side `i` on the queue. -/
def note (q : SharedMemQueue) (i : Side) (s : Board) : QueueOp → Board
  | .storeWriteOffset offset =>
    {s with
      published := s.published ++ s.between q s.shared.writeOffset offset
      phase := Function.update s.phase i .stored}
  | .storeReadOffset offset =>
    {s with
      released := s.released ++ s.between q s.shared.readOffset offset
      window := 0
      phase := Function.update s.phase i .stored}
  | .checked count => {s with window := count}
  | _ => s

def opening (start : Shared Side) (word : UInt32) : Board :=
  ⟨start,word,[],[],0,fun _ => Option.none,fun _ => .none⟩

end Board

/-- One step of side `i`. A sleeper returns when it has been woken, or when the outcome
is that a signal interrupts it. -/
def exec (q : SharedMemQueue) (i : Side) : (op : SyncOp) → Bool → Board → Option (op.Res × Board)
  | .queue op, _, s =>
    some ((serve syncedSmq i op s.shared).1,
      {s.note q i op with shared := (serve syncedSmq i op s.shared).2})
  | .fetchAnd mask, _, s => some (s.word,{s with word := s.word &&& mask})
  | .fetchOr bits, _, s =>
    some (s.word,{s with
      word := s.word ||| bits
      phase := Function.update s.phase i (if bitSet s.word bits then .none else .signalled)})
  | .futexWait bitset valParm asked, _, s =>
    if s.word = valParm then
      some (true,{s with waiting := Function.update s.waiting i (some (bitset,asked))})
    else some (false,s)
  | .futexResume, interrupted, s =>
    if s.waiting i = Option.none then some (0,s)
    else if interrupted then
      some (-eintr,{s with waiting := Function.update s.waiting i Option.none})
    else Option.none
  | .futexWake bitset, _, s =>
    some (0,{s with
      waiting := fun j => (s.waiting j).filter (fun sleeper => ¬ bitSet sleeper.1 bitset)
      phase := Function.update s.phase i .none})

/-- The writer only writes and the reader only reads. -/
def handshake (q : SharedMemQueue) (permitted : Request → Prop) :
    System Side SyncOp SyncOp.Res Request Label Reply Bool Board where
  exec := exec q
  entry _ := .start
  body := q.body
  allowed i request := request.call.side = i ∧ permitted request
  permitted _ _ _ := True

end DriversAdapter.Smq
