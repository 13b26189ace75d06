import DriversAdapter.Base.Word

/-! The description of a shared memory queue: its fields, the memory zones its
constructor lays out, and what a peer's parcel turns into. A field that comes from a
parcel holds whatever bits the peer put there. -/
namespace DriversAdapter.Smq
open DriversAdapter.Base

def syncedSmq : UInt32 := 1
def unsyncSmq : UInt32 := 2

structure MemZone where
  size : UInt32
  offset : UInt32
  deriving DecidableEq

inductive MemZoneType
  | rptr
  | wptr
  | syncer
  | data
  deriving DecidableEq

structure SharedMemQueueMeta where
  ashmemFd : Int
  size : UInt64
  elementCount : UInt64
  elementSize : UInt64
  type : UInt32
  memzone : MemZoneType → MemZone

namespace SharedMemQueueMeta

/-- The mask is the complement of a 32-bit seven, so it clears the upper half too. -/
def alignToWord (num : Nat) : Nat := u64 (num + 8 - 1) &&& (2^32 - 8)

/-- The zone sizes in the order of `MemZoneType`. -/
def memZoneSize (dataSize : Nat) : MemZoneType → Nat
  | .rptr => 8
  | .wptr => 8
  | .syncer => 4
  | .data => dataSize

/-- The running offset at which the constructor's loop reaches a zone. -/
def zoneStart (dataSize : Nat) : MemZoneType → Nat
  | .rptr => 0
  | .wptr => memZoneSize dataSize .rptr
  | .syncer => memZoneSize dataSize .rptr + memZoneSize dataSize .wptr
  | .data => memZoneSize dataSize .rptr + memZoneSize dataSize .wptr + memZoneSize dataSize .syncer

def uint32Max : Nat := 2^32 - 1
def uint16Max : Nat := 2^16 - 1

/-- The constructor for element type of size `sizeofT`. `stale` is what the array of
zones held before; the early return leaves it there. -/
def make (sizeofT : Nat) (stale : MemZoneType → MemZone) (fd : Int) (elementCount : UInt64)
    (type : UInt32) : SharedMemQueueMeta :=
  let elementSize := UInt64.ofNat (alignToWord sizeofT)
  if elementCount.toNat > uint32Max / elementSize.toNat then
    ⟨fd,0,elementCount,elementSize,type,stale⟩
  else
    let dataSize := u64 (elementCount.toNat * elementSize.toNat)
    let memzone := fun zone =>
      { size := UInt32.ofNat (memZoneSize dataSize zone)
        offset := UInt32.ofNat (alignToWord (zoneStart dataSize zone)) : MemZone }
    let size := (memzone .data).offset + (memzone .data).size
    ⟨fd,size.toUInt64,elementCount,elementSize,type,memzone⟩

def getElementCount (m : SharedMemQueueMeta) : Nat := m.elementCount.toNat

def getElementSize (m : SharedMemQueueMeta) : Nat := m.elementSize.toNat

def getType (m : SharedMemQueueMeta) : UInt32 := m.type

end SharedMemQueueMeta

/-- The part of a message the queue's description is read from: the bytes of the
peer's object, if the parcel still holds that many, and the descriptor. -/
structure MetaParcel where
  buffer : Option SharedMemQueueMeta
  fileDescriptor : Int

def SharedMemQueueMeta.unMarshalling (parcel : MetaParcel) : Option SharedMemQueueMeta :=
  match parcel.buffer with
  | none => none
  | some readMeta =>
    if parcel.fileDescriptor < 0 then none
    else some {readMeta with ashmemFd := parcel.fileDescriptor}

end DriversAdapter.Smq
