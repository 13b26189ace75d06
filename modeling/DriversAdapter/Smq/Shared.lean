import DriversAdapter.Smq.Queue
import DriversAdapter.Semantics.Machine
import Mathlib.Logic.Function.Basic

/-! The mapped memory of a queue as its endpoints see it, the two constructors, and
sequences of calls. A synchronized queue keeps its read offset in the mapping; any
other queue gives every endpoint a read offset of its own. -/
namespace DriversAdapter.Smq
open DriversAdapter.Base DriversAdapter.Semantics

def writeBlock (memory : Bytes) (dst : Nat) (block : Block) : Bytes :=
  copyBytes memory dst (fun a => block.getD a 0) 0 block.length

def clearBytes (memory : Bytes) (dst len : Nat) : Bytes :=
  copyBytes memory dst (fun _ => 0) 0 len

structure Shared (ι : Type) where
  readOffset : Nat
  writeOffset : Nat
  queueBuffer : Bytes
  heapOffset : ι → Nat

variable {ι : Type} [DecidableEq ι]

namespace Shared

/-- What `readOffset_` of endpoint `i` points to. -/
def readOffsetOf (type : UInt32) (i : ι) (s : Shared ι) : Nat :=
  if type = syncedSmq then s.readOffset else s.heapOffset i

def setReadOffset (type : UInt32) (i : ι) (offset : Nat) (s : Shared ι) : Shared ι :=
  if type = syncedSmq then {s with readOffset := offset}
  else {s with heapOffset := Function.update s.heapOffset i offset}

end Shared

def serve (type : UInt32) (i : ι) : (op : QueueOp) → Shared ι → op.Res × Shared ι
  | .loadReadOffset, s => (s.readOffsetOf type i,s)
  | .loadWriteOffset, s => (s.writeOffset,s)
  | .storeReadOffset offset, s => ((),s.setReadOffset type i offset)
  | .storeWriteOffset offset, s => ((),{s with writeOffset := offset})
  | .copyIn dst block, s => ((),{s with queueBuffer := writeBlock s.queueBuffer dst block})
  | .copyOut src len, s => (chunk s.queueBuffer src len,s)
  | .clearIn dst len, s => ((),{s with queueBuffer := clearBytes s.queueBuffer dst len})
  | .checked _, s => ((),s)

section Serve
variable {α : Type} (type : UInt32) (i : ι) (s : Shared ι)

@[simp] theorem run_loadReadOffset (f : Nat → QueueM α) :
    (loadReadOffset >>= f).run (serve type i) s = (f (s.readOffsetOf type i)).run (serve type i) s :=
  rfl

@[simp] theorem run_loadWriteOffset (f : Nat → QueueM α) :
    (loadWriteOffset >>= f).run (serve type i) s = (f s.writeOffset).run (serve type i) s := rfl

@[simp] theorem run_storeReadOffset (offset : Nat) (f : Unit → QueueM α) :
    (storeReadOffset offset >>= f).run (serve type i) s =
      (f ()).run (serve type i) (s.setReadOffset type i offset) := rfl

@[simp] theorem run_storeWriteOffset (offset : Nat) (f : Unit → QueueM α) :
    (storeWriteOffset offset >>= f).run (serve type i) s =
      (f ()).run (serve type i) {s with writeOffset := offset} := rfl

@[simp] theorem run_copyIn (dst : Nat) (block : Block) (f : Unit → QueueM α) :
    (copyIn dst block >>= f).run (serve type i) s =
      (f ()).run (serve type i) {s with queueBuffer := writeBlock s.queueBuffer dst block} := rfl

@[simp] theorem run_copyOut (src len : Nat) (f : Block → QueueM α) :
    (copyOut src len >>= f).run (serve type i) s =
      (f (chunk s.queueBuffer src len)).run (serve type i) s := rfl

@[simp] theorem run_clearIn (dst len : Nat) (f : Unit → QueueM α) :
    (clearIn dst len >>= f).run (serve type i) s =
      (f ()).run (serve type i) {s with queueBuffer := clearBytes s.queueBuffer dst len} := rfl

@[simp] theorem run_checked (count : Nat) (f : Unit → QueueM α) :
    (checked count >>= f).run (serve type i) s = (f ()).run (serve type i) s := rfl

end Serve

/-- The calls to the system the constructors make: their outcomes are arbitrary. -/
structure Platform where
  ashmemCreate : Nat → Int
  dup : Int → Int
  mmap : (length fd offset : Int) → Bool

/-- A system on which no call fails. -/
def Platform.granting : Platform := ⟨fun _ => 3,id,fun _ _ _ => true⟩

def pageSize : UInt32 := 4096

def MemZone.pageStart (zone : MemZone) : UInt32 := zone.offset / pageSize * pageSize

/-- `int length`: the bytes from the start of the page, converted to a signed word. -/
def MemZone.mapLength (zone : MemZone) : Int :=
  (zone.offset - zone.pageStart + zone.size).toInt32.toInt

namespace SharedMemQueue

def mapMemZone (q : SharedMemQueue) (env : Platform) (zone : MemZoneType) : Bool :=
  env.mmap (q.metaData.memzone zone).mapLength q.metaData.ashmemFd
    (q.metaData.memzone zone).pageStart.toInt32.toInt

/-- Every mapping that `Init` makes before it touches the offsets. -/
def mapsZones (q : SharedMemQueue) (env : Platform) : Bool :=
  (q.metaData.getType != syncedSmq || q.mapMemZone env .rptr) &&
    q.mapMemZone env .wptr && q.mapMemZone env .syncer && q.mapMemZone env .data

def init (q : SharedMemQueue) (env : Platform) (resetWriteOffset : Bool) : QueueM Int := do
  if q.metaData.getElementSize ≠ q.sizeofT then
    return hdfFailure
  else if q.mapsZones env = false then
    return hdfFailure
  else if resetWriteOffset then
    storeWriteOffset 0
    storeReadOffset 0
    return hdfSuccess
  else
    storeReadOffset 0
    return hdfSuccess

def align (num alignSize : Nat) : Nat := u64 (num + alignSize - 1) &&& (2^64 - alignSize)

/-- The creating constructor; the object, when it ends up usable. -/
def create (env : Platform) (sizeofT : Nat) (sizeof_pos : 0 < sizeofT)
    (stale : MemZoneType → MemZone) (elementCount type : UInt32) : QueueM (Option SharedMemQueue) := do
  if elementCount.toNat > SharedMemQueueMeta.uint16Max then
    return none
  else
    let metaData := SharedMemQueueMeta.make sizeofT stale (-1) elementCount.toUInt64 type
    let ashmemFd := env.ashmemCreate (align metaData.size.toNat pageSize.toNat)
    if ashmemFd < 0 then
      return none
    else
      let q : SharedMemQueue := ⟨sizeofT,sizeof_pos,{metaData with ashmemFd := ashmemFd}⟩
      if (← q.init env true) = hdfSuccess then return some q else return none

/-- The constructor that attaches to a queue by its description. -/
def attach (env : Platform) (sizeofT : Nat) (sizeof_pos : 0 < sizeofT)
    (other : SharedMemQueueMeta) : QueueM (Option SharedMemQueue) := do
  let q : SharedMemQueue := ⟨sizeofT,sizeof_pos,{other with ashmemFd := env.dup other.ashmemFd}⟩
  if (← q.init env false) = hdfSuccess then return some q else return none

end SharedMemQueue

inductive Call
  | write (data : Bytes) (count : UInt64)
  | read (count : UInt64)

structure Reply where
  ret : Int
  data : List Block
  deriving DecidableEq

namespace SharedMemQueue

def issue (q : SharedMemQueue) : Call → QueueM Reply
  | .write data count => do return ⟨← q.writeNonBlocking data count.toNat,[]⟩
  | .read count => do
    let (ret,data) ← q.readNonBlocking count.toNat
    return ⟨ret,data⟩

def respond (q : SharedMemQueue) : ι × Call → Shared ι → Reply × Shared ι
  | (i,c), s => (q.issue c).run (serve q.metaData.getType i) s

def replies (q : SharedMemQueue) : List (ι × Call) → Shared ι → List Reply × Shared ι :=
  Machine.run q.respond

end SharedMemQueue

end DriversAdapter.Smq
