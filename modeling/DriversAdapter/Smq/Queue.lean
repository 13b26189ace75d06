import DriversAdapter.Base.Memory
import DriversAdapter.Semantics.Program
import DriversAdapter.Smq.Meta

/-! The shared memory queue as programs over its atomic operations: loads and stores
of the two offsets and copies of single elements. `sizeof(T)` is a parameter, elements
are blocks of that many bytes, and sizes and offsets are 64-bit words. -/
namespace DriversAdapter.Smq
open DriversAdapter.Base DriversAdapter.Semantics

inductive QueueOp
  | loadReadOffset
  | loadWriteOffset
  | storeReadOffset (offset : Nat)
  | storeWriteOffset (offset : Nat)
  | copyIn (dst : Nat) (block : Block)
  | copyOut (src len : Nat)
  | clearIn (dst len : Nat)
  | checked (count : Nat)

/-- `checked` does nothing: it records that a reader has found that many elements. -/
@[reducible] def QueueOp.Res : QueueOp → Type
  | .loadReadOffset => Nat
  | .loadWriteOffset => Nat
  | .copyOut _ _ => Block
  | _ => Unit

abbrev QueueM := Program QueueOp QueueOp.Res

def loadReadOffset : QueueM Nat := Program.call QueueOp.loadReadOffset
def loadWriteOffset : QueueM Nat := Program.call QueueOp.loadWriteOffset
def storeReadOffset (offset : Nat) : QueueM Unit := Program.call (QueueOp.storeReadOffset offset)
def storeWriteOffset (offset : Nat) : QueueM Unit := Program.call (QueueOp.storeWriteOffset offset)
def copyIn (dst : Nat) (block : Block) : QueueM Unit := Program.call (QueueOp.copyIn dst block)
def copyOut (src len : Nat) : QueueM Block := Program.call (QueueOp.copyOut src len)
def clearIn (dst len : Nat) : QueueM Unit := Program.call (QueueOp.clearIn dst len)
def checked (count : Nat) : QueueM Unit := Program.call (QueueOp.checked count)

/-- The elements of `data` from byte `src` on, copied to the ring from byte `dst` on. -/
def copyElementsIn (size dst : Nat) (data : Bytes) (src : Nat) : Nat → QueueM Unit
  | 0 => pure ()
  | n + 1 => do
    copyIn dst (chunk data src size)
    copyElementsIn size (dst + size) data (src + size) n

def copyElementsOut (size src : Nat) : Nat → QueueM (List Block)
  | 0 => pure []
  | n + 1 => do
    let block ← copyOut src size
    let rest ← copyElementsOut size (src + size) n
    return block :: rest

/-- `memcpy_s` with the ring as destination, one element at a time. A length that is no
multiple of the element size ends in a part of an element. -/
def memcpyIn (size dst destMax : Nat) (data : Bytes) (src count : Nat) : QueueM Int := do
  if destMax = 0 ∨ secureMemMaxLen < destMax then
    return erange
  else if destMax < count then
    clearIn dst destMax
    return erangeAndReset
  else
    copyElementsIn size dst data src (count / size)
    if count % size = 0 then
      return eok
    else
      copyIn (dst + count / size * size) (chunk data (src + count / size * size) (count % size))
      return eok

/-- `memcpy_s` with the ring as source; on success also what the caller's buffer got. -/
def memcpyOut (size destMax src count : Nat) : QueueM (Int × List Block) := do
  if destMax = 0 ∨ secureMemMaxLen < destMax then
    return (erange,[])
  else if destMax < count then
    return (erangeAndReset,[])
  else
    let whole ← copyElementsOut size src (count / size)
    if count % size = 0 then
      return (eok,whole)
    else
      let part ← copyOut (src + count / size * size) (count % size)
      return (eok,whole ++ [part])

structure SharedMemQueue where
  sizeofT : Nat
  sizeof_pos : 0 < sizeofT
  metaData : SharedMemQueueMeta

namespace SharedMemQueue

def getAvalidReadSize (q : SharedMemQueue) : QueueM Nat := do
  let wOffset ← loadWriteOffset
  let rOffset ← loadReadOffset
  if rOffset ≤ wOffset then
    return sub64 wOffset rOffset
  else
    return sub64 (u64 (wOffset + q.metaData.getElementCount)) rOffset

def getAvalidWriteSize (q : SharedMemQueue) : QueueM Nat := do
  return sub64 q.metaData.getElementCount (← q.getAvalidReadSize)

def writeNonBlocking (q : SharedMemQueue) (data : Bytes) (count : Nat) : QueueM Int := do
  let avalidWrite ← q.getAvalidWriteSize
  if avalidWrite ≤ count ∧ q.metaData.getType = syncedSmq then
    -- synced smq can not overflow write
    return -e2big
  else
    let wOffset ← loadWriteOffset
    let _rOffset ← loadReadOffset
    let qCount := q.metaData.getElementCount
    if u64 (wOffset + count) ≤ qCount then
      let err ← memcpyIn q.sizeofT (u64 (wOffset * q.sizeofT))
        (u64 (sub64 qCount wOffset * q.sizeofT)) data 0 (u64 (count * q.sizeofT))
      if err ≠ eok then
        return hdfFailure
      else
        storeWriteOffset (u64 (wOffset + count) % qCount)
        return 0
    else
      let firstPartSize := sub64 qCount wOffset
      let secParcSize := sub64 count firstPartSize
      let err ← memcpyIn q.sizeofT (u64 (wOffset * q.sizeofT))
        (u64 (sub64 qCount wOffset * q.sizeofT)) data 0 (u64 (firstPartSize * q.sizeofT))
      if err ≠ eok then
        return hdfFailure
      else
        let err ← memcpyIn q.sizeofT 0 (u64 (qCount * q.sizeofT)) data
          (u64 (firstPartSize * q.sizeofT)) (u64 (secParcSize * q.sizeofT))
        if err ≠ eok then
          return hdfFailure
        else
          -- no remainder is taken here: the offset is the length of the second part
          storeWriteOffset secParcSize
          return 0

/-- The status and, when it is zero, the elements in the caller's buffer. -/
def readNonBlocking (q : SharedMemQueue) (count : Nat) : QueueM (Int × List Block) := do
  if count = 0 then
    return (-einval,[])
  else if (← q.getAvalidReadSize) < count then
    return (-enodata,[])
  else
    checked count
    let qCount := q.metaData.getElementCount
    let rOffset ← loadReadOffset
    if u64 (rOffset + count) ≤ qCount then
      let (err,out) ← memcpyOut q.sizeofT (u64 (count * q.sizeofT)) (u64 (rOffset * q.sizeofT))
        (u64 (count * q.sizeofT))
      if err ≠ eok then
        return (hdfFailure,[])
      else
        storeReadOffset (u64 (rOffset + count) % qCount)
        return (0,out)
    else
      let firstPartSize := sub64 qCount rOffset
      let secPartSize := sub64 count firstPartSize
      let (err,first) ← memcpyOut q.sizeofT (u64 (count * q.sizeofT)) (u64 (rOffset * q.sizeofT))
        (u64 (firstPartSize * q.sizeofT))
      if err ≠ eok then
        return (hdfFailure,[])
      else
        let (err,second) ← memcpyOut q.sizeofT (u64 (sub64 count firstPartSize * q.sizeofT)) 0
          (u64 (secPartSize * q.sizeofT))
        if err ≠ eok then
          return (hdfFailure,[])
        else
          storeReadOffset secPartSize
          return (0,first ++ second)

end SharedMemQueue

end DriversAdapter.Smq
