import DriversAdapter.Net.Receive
import DriversAdapter.Semantics.Heap
import DriversAdapter.Semantics.Machine
import DriversAdapter.Semantics.Slices

/-! Frames through the adapter of a device, both ways. The segments of lwIP and the buffers of the
driver share one memory; to the driver a buffer is a frame. -/
namespace DriversAdapter.Net
open DriversAdapter.Base DriversAdapter.Semantics

structure NetDeviceInterFace where
  xmit : Bool

/-- The device as the sender sees it. -/
structure SendDevice where
  netDeviceIf : Option NetDeviceInterFace

/-- A `netif`, whose state is the implementation of a device and that may have none. -/
structure LwipNetif where
  state : Option (Option SendDevice)

structure Sent where
  xmit : Option NetBuf
  memory : Bytes
  events : List BufEvent

/-- The implementation has its device. -/
def LwipNetif.netDevice (netif : LwipNetif) : Option SendDevice := netif.state.join

def lwipSendCheck (netif : Option LwipNetif) (lwipBuf : List Pbuf) : Int :=
  match netif, lwipBuf with
  | some netif, _::_ => match netif.state with
    | some (some _) => hdfSuccess
    | _ => hdfErrInvalidParam
  | _, _ => hdfErrInvalidParam

def converPbuffToNetBuf (netBufDevAlloc : UInt32 → Option (Nat × NetBuf)) (netDev : Option SendDevice)
    (lwipBuf : List Pbuf) (memory : Bytes) : Converted NetBuf :=
  match netDev with
  | none => ⟨none,memory,[]⟩
  | some _ => pbuf2NetBuf netBufDevAlloc lwipBuf memory

def hasXmit (netDev : Option SendDevice) : Bool :=
  match netDev.bind SendDevice.netDeviceIf with
  | some netDevIf => netDevIf.xmit
  | none => false

def lwipSend (netBufDevAlloc : UInt32 → Option (Nat × NetBuf)) (netif : Option LwipNetif)
    (lwipBuf : List Pbuf) (memory : Bytes) : Sent :=
  if lwipSendCheck netif lwipBuf ≠ hdfSuccess then ⟨none,memory,[]⟩
  else
    let netDev := netif.bind LwipNetif.netDevice
    let netBuff := converPbuffToNetBuf netBufDevAlloc netDev lwipBuf memory
    match netBuff.result with
    | none => ⟨none,netBuff.memory,netBuff.events⟩
    | some nb =>
      if hasXmit netDev then ⟨some nb,netBuff.memory,netBuff.events⟩
      else ⟨none,netBuff.memory,netBuff.events ++ netBufFree (some (0,nb))⟩

/-- A buffer in the driver's hands. -/
structure Holding where
  id : Nat
  base : Nat
  nb : NetBuf

namespace Holding

def slice (h : Holding) : Slices.Slice := (h.base,h.nb.len.toNat)

def frame (memory : Bytes) (h : Holding) : Block := (h.nb.inMemory h.base memory).data

end Holding

/-- What passes the adapter. A `NULL` for a buffer is an identity that the driver does not hold. -/
inductive AdapterCall (Netif : Type) (pool : Nat → Prop)
  | send (netif : Option LwipNetif) (lwipBuf : List Pbuf) (given : Option (Nat × NetBuf))
  | acquire (base : Nat) (nb : NetBuf) (memory : Bytes)
  | receive (id : Nat) (netDeviceImpl : Option (NetDeviceImpl Netif)) (flag : UInt32)
      (pbufs : PbufAlloc pool)
  | free (id : Nat)
  | others (memory : Bytes)

structure AdapterReply where
  ret : Int
  input : Option Block

structure NetAdapter where
  memory : Bytes
  holding : List Holding
  heap : List (Heap.Event Nat)
  next : Nat

def heapEvents (id : Nat) (events : List BufEvent) : List (Heap.Event Nat) :=
  events.filterMap fun
    | .allocNetBuf => some (.alloc id)
    | .freeNetBuf => some (.free id)
    | _ => none

namespace NetAdapter
variable {Netif : Type} {pool : Nat → Prop}

def idle (memory : Bytes) : NetAdapter := ⟨memory,[],[],0⟩

def buff (id : Nat) (s : NetAdapter) : Buff :=
  (s.holding.find? fun h => h.id == id).map fun h => (h.base,h.nb)

def without (id : Nat) (s : NetAdapter) : List Holding := s.holding.filter fun h => h.id != id

/-- The frame that `driverif_input` is called with, behind the padding. -/
def inputOf (pad : EthPadSize) (pBuff : Converted Pbuf) (done : Received) : Option Block :=
  if .driverifInput ∈ done.events then
    pBuff.result.map fun p => frameBytes pad done.memory [p]
  else none

/-- The driver has what is handed to `xmit`. -/
def transmitted (given : Option (Nat × NetBuf)) (xmit : Option NetBuf) (s : NetAdapter) :
    List Holding :=
  match given, xmit with
  | some (base,_), some nb => ⟨s.next,base,nb⟩::s.holding
  | _, _ => s.holding

/-- A buffer that is handed in stays the driver's where the status says so. -/
def step (codes : FrameCodes) (pad : EthPadSize) (call : AdapterCall Netif pool)
    (s : NetAdapter) : AdapterReply × NetAdapter :=
  match call with
  | .send netif lwipBuf given =>
    let done := lwipSend (fun _ => given) netif lwipBuf s.memory
    (⟨hdfSuccess,none⟩,⟨done.memory,s.transmitted given done.xmit,
      s.heap ++ heapEvents s.next done.events,s.next + 1⟩)
  | .acquire base nb memory =>
    (⟨hdfSuccess,none⟩,⟨memory,⟨s.next,base,nb⟩::s.holding,s.heap ++ [.alloc s.next],s.next + 1⟩)
  | .receive id netDeviceImpl flag pbufs =>
    let done := liteNetDevReceive codes pad pbufs.alloc s.memory netDeviceImpl (s.buff id) flag
    let input := inputOf pad (converNetBufToPBuf pad pbufs.alloc s.memory (s.buff id)) done
    (⟨done.ret,input⟩,
      {s with
        memory := done.memory
        holding := if done.ret = hdfErrInvalidParam then s.holding else s.without id
        heap := s.heap ++ heapEvents id done.events})
  | .free id =>
    (⟨hdfSuccess,none⟩,
      {s with
        holding := s.without id
        heap := s.heap ++ heapEvents id (netBufFree (s.buff id))})
  | .others memory => (⟨hdfSuccess,none⟩,{s with memory := memory})

/-- A buffer where neither lwIP nor another buffer has its bytes. -/
structure New (pool : Nat → Prop) (base : Nat) (nb : NetBuf) (s : NetAdapter) : Prop where
  partition : nb.Partition
  outside : ∀ i < nb.len.toNat, ¬ pool (base + i)
  apart : ∀ h ∈ s.holding, Slices.Slice.Apart (base,nb.len.toNat) h.slice

/-- The allocations are what they are meant to be, and nobody writes into the buffers of others. -/
def Meets (call : AdapterCall Netif pool) (s : NetAdapter) : Prop :=
  match call with
  | .send _ lwipBuf given => ChainIn pool lwipBuf ∧
    ∀ base nb, given = some (base,nb) → s.New pool base nb ∧ nb.dataLen = 0
  | .acquire base nb memory => s.New pool base nb ∧
    ∀ h ∈ s.holding, ∀ i < h.nb.len.toNat, memory (h.base + i) = s.memory (h.base + i)
  | .others memory =>
    ∀ h ∈ s.holding, ∀ i < h.nb.len.toNat, memory (h.base + i) = s.memory (h.base + i)
  | _ => True

structure Sound (pool : Nat → Prop) (s : NetAdapter) : Prop where
  partition : ∀ h ∈ s.holding, h.nb.Partition
  outside : ∀ h ∈ s.holding, ∀ i < h.nb.len.toNat, ¬ pool (h.base + i)
  apart : s.holding.Pairwise fun h k => Slices.Slice.Apart h.slice k.slice
  before : ∀ h ∈ s.holding, h.id < s.next
  distinct : (s.holding.map Holding.id).Nodup
  held : Heap.held s.heap [] = some (s.holding.map Holding.id)

end NetAdapter

/-- The adapter as the driver knows it, and the memory that lwIP has its segments in. -/
structure LinkView where
  memory : Bytes
  frames : List (Nat × Block)

def NetAdapter.view (s : NetAdapter) : LinkView :=
  ⟨s.memory,s.holding.map fun h => (h.id,h.frame s.memory)⟩

namespace LinkView

def without (id : Nat) (v : LinkView) : List (Nat × Block) := v.frames.filter fun f => f.1 != id

end LinkView

/-- The type at its place in a frame that is long enough to have one. -/
def frameType (codes : FrameCodes) (frame : Block) : UInt16 :=
  UInt16.ofNat ((frame.getD codes.etherTypeOffset 0).toNat * 2^8 +
    (frame.getD (codes.etherTypeOffset + 1) 0).toNat)

/-- A segment for the frame and its padding is given. -/
def Fits {pool : Nat → Prop} (pad : EthPadSize) (pbufs : PbufAlloc pool) (frame : Block) : Prop :=
  0 < frame.length ∧ frame.length + pad ≤ 65535 ∧
    ∃ payload, pbufs.alloc (UInt16.ofNat (frame.length + pad)) = some payload

/-- lwIP gets the frame as it is, or nothing. -/
def Delivered {pool : Nat → Prop} (codes : FrameCodes) (pad : EthPadSize) (pbufs : PbufAlloc pool)
    (lwipNd : NetDevice) (frame : Block) (input : Option Block) : Prop :=
  ∃ etherType, (codes.etherTypeOffset + 2 ≤ frame.length → etherType = frameType codes frame) ∧
    (Accepted codes lwipNd etherType ∧ Fits pad pbufs frame → input = some frame) ∧
    (¬ (Accepted codes lwipNd etherType ∧ Fits pad pbufs frame) → input = none)

/-- The driver transmits and has got a buffer with room for the frame. -/
def Transmits (netif : Option LwipNetif) (lwipBuf : List Pbuf) (given : Option (Nat × NetBuf))
    (frame : Block) : Prop :=
  hasXmit (netif.bind LwipNetif.netDevice) = true ∧ lwipBuf ≠ [] ∧
    ∃ base nb, given = some (base,nb) ∧ frame.length ≤ nb.tailBuf.len.toNat

namespace LinkView
variable {Netif : Type} {pool : Nat → Prop}

def Gains (frame : Block) (v w : LinkView) : Prop :=
  ∃ id, id ∉ v.frames.map Prod.fst ∧ w.frames = (id,frame)::v.frames

/-- What a call does to the frames that the driver holds, and what it gives to lwIP. -/
def Allows (codes : FrameCodes) (pad : EthPadSize) (call : AdapterCall Netif pool)
    (r : AdapterReply) (v w : LinkView) : Prop :=
  match call with
  | .send netif lwipBuf given => r.input = none ∧ (∀ a, pool a → w.memory a = v.memory a) ∧
    (Transmits netif lwipBuf given (chainBytes v.memory lwipBuf) →
      Gains (chainBytes v.memory lwipBuf) v w) ∧
    (¬ Transmits netif lwipBuf given (chainBytes v.memory lwipBuf) → w.frames = v.frames)
  | .acquire base nb memory => r.input = none ∧ Gains (nb.inMemory base memory).data v w
  | .receive id netDeviceImpl flag pbufs =>
    (r.ret = hdfErrInvalidParam → r.input = none ∧ w.frames = v.frames) ∧
    (r.ret ≠ hdfErrInvalidParam → w.frames = v.without id ∧
      ∃ impl frame, netDeviceImpl = some impl ∧ (id,frame) ∈ v.frames ∧
        Delivered codes pad pbufs impl.netDevice frame r.input) ∧
    (r.ret = hdfErrInvalidParam ↔ codes.maxReceiveFlag ≤ flag ∨
      getNetIfFromDevImpl netDeviceImpl = none ∨ id ∉ v.frames.map Prod.fst)
  | .free id => r.input = none ∧ w.frames = v.without id
  | .others _ => r.input = none ∧ w.frames = v.frames

end LinkView

@[simp] theorem heapEvents_append (id : Nat) (first later : List BufEvent) :
    heapEvents id (first ++ later) = heapEvents id first ++ heapEvents id later :=
  List.filterMap_append

theorem lwipSendCheck_iff (netif : Option LwipNetif) (lwipBuf : List Pbuf) :
    lwipSendCheck netif lwipBuf = hdfSuccess ↔
      (netif.bind LwipNetif.netDevice).isSome ∧ lwipBuf ≠ [] := by
  have refused : hdfErrInvalidParam ≠ hdfSuccess := by decide
  cases netif with
  | none => simp [lwipSendCheck,refused]
  | some netif =>
    obtain ⟨state⟩ := netif
    cases lwipBuf with
    | nil => simp [lwipSendCheck,refused]
    | cons p rest => rcases state with _ | _ | device <;>
        simp [lwipSendCheck,LwipNetif.netDevice,refused]

section Send
variable {pool : Nat → Prop} (memory : Bytes) (given : Option (Nat × NetBuf)) (lwipBuf : List Pbuf)

/-- The bytes that a sent frame may be written to. -/
def InGiven (a : Nat) : Prop :=
  ∃ base nb, given = some (base,nb) ∧ base ≤ a ∧ a < base + nb.len.toNat

variable (inPool : ChainIn pool lwipBuf)
  (new : ∀ base nb, given = some (base,nb) →
    nb.Partition ∧ nb.dataLen = 0 ∧ ∀ i < nb.len.toNat, ¬ pool (base + i))

include inPool new in
/-- A chain becomes a buffer with all its bytes, or what was allocated for it is freed. -/
theorem pbuf2NetBuf_given (some_segment : lwipBuf ≠ []) :
    let done := pbuf2NetBuf (fun _ => given) lwipBuf memory
    (∀ a, ¬ InGiven given a → done.memory a = memory a) ∧
      ((∃ base nb nb', given = some (base,nb) ∧
          (chainBytes memory lwipBuf).length ≤ nb.tailBuf.len.toNat ∧ done.result = some nb' ∧
          done.events = [.allocNetBuf] ∧ nb'.Partition ∧ nb'.len = nb.len ∧
          (nb'.inMemory base done.memory).data = chainBytes memory lwipBuf) ∨
        (¬ ∃ base nb, given = some (base,nb) ∧
          (chainBytes memory lwipBuf).length ≤ nb.tailBuf.len.toNat) ∧ done.result = none ∧
          (done.events = [] ∨ done.events = [.allocNetBuf,.freeNetBuf])) := by
  obtain ⟨first,rest,rfl⟩ := List.exists_cons_of_ne_nil some_segment
  cases given with
  | none =>
    refine ⟨fun a _ => rfl,.inr ⟨?_,rfl,.inl rfl⟩⟩
    simp
  | some buffer =>
    obtain ⟨base,nb⟩ := buffer
    obtain ⟨partition,dataless,outside⟩ := new base nb rfl
    have start : nb.dataBuf.offset = nb.tailBuf.offset := by
      have data_end := partition.data_end
      rw [← partition.dataLen_eq,dataless] at data_end
      exact UInt32.toNat_inj.mp data_end
    have before : (nb.inMemory base memory).data = [] := by
      unfold NetBuf.data NetBuf.inMemory
      dsimp only
      rw [dataless]
      rfl
    -- all bytes but those of the buffer are a pool that the chain lies in
    have elsewhere : ChainIn (fun a => ¬ InGiven (some (base,nb)) a) (first::rest) := by
      rintro p member payload place i bound ⟨_,_,same,low,high⟩
      obtain ⟨rfl,rfl⟩ := Prod.mk.inj (Option.some.inj same)
      apply outside (payload + i - base) (by omega)
      rw [Nat.add_sub_cancel' low]
      exact inPool p member payload place i bound
    have own : ∀ i < nb.len.toNat, ¬ ¬ InGiven (some (base,nb)) (base + i) := by
      intro i bound
      exact not_not.mpr ⟨base,nb,rfl,Nat.le_add_right base i,Nat.add_lt_add_left bound base⟩
    obtain ⟨frame,done⟩ := copyPbufs_spec (first::rest) nb memory partition own elsewhere
    have room : (∃ base' nb', some (base,nb) = some (base',nb') ∧
        (chainBytes memory (first::rest)).length ≤ nb'.tailBuf.len.toNat) ↔
        (chainBytes memory (first::rest)).length ≤ nb.tailBuf.len.toNat := by
      simp
    rw [room]
    simp only [pbuf2NetBuf,start]
    split at done
    next fits =>
      obtain ⟨nb',result,appended⟩ := done
      simp only [result]
      refine ⟨frame,.inl ⟨base,nb,_,rfl,fits,rfl,trivial,?_,appended.len,?_⟩⟩
      · exact appended.partition.inMemory base _
      · have data := appended.data
        rw [before,List.nil_append] at data
        exact data
    next short =>
      simp only [done]
      exact ⟨frame,.inr ⟨short,trivial,.inr trivial⟩⟩

include inPool new in
theorem lwipSend_spec (netif : Option LwipNetif) :
    let done := lwipSend (fun _ => given) netif lwipBuf memory
    (∀ a, ¬ InGiven given a → done.memory a = memory a) ∧
      ((∃ base nb nb', given = some (base,nb) ∧ done.xmit = some nb' ∧
          Transmits netif lwipBuf given (chainBytes memory lwipBuf) ∧
          done.events = [.allocNetBuf] ∧ nb'.Partition ∧ nb'.len = nb.len ∧
          (nb'.inMemory base done.memory).data = chainBytes memory lwipBuf) ∨
        ¬ Transmits netif lwipBuf given (chainBytes memory lwipBuf) ∧ done.xmit = none ∧
          (done.events = [] ∨ done.events = [.allocNetBuf,.freeNetBuf])) := by
  unfold lwipSend
  by_cases checked : lwipSendCheck netif lwipBuf = hdfSuccess
  · rw [if_neg (not_not.mpr checked)]
    obtain ⟨present,some_segment⟩ := (lwipSendCheck_iff netif lwipBuf).mp checked
    obtain ⟨device,here⟩ := Option.isSome_iff_exists.mp present
    obtain ⟨frame,made⟩ := pbuf2NetBuf_given memory given lwipBuf inPool new some_segment
    simp only [converPbuffToNetBuf,here]
    rcases made with ⟨base,nb,nb',taken,fits,result,events,partition,len,data⟩ |
      ⟨refused,result,events⟩
    · simp only [result,events]
      by_cases xmit : hasXmit (some device) = true
      · rw [if_pos xmit]
        have transmits : Transmits netif lwipBuf given (chainBytes memory lwipBuf) :=
          ⟨here ▸ xmit,some_segment,base,nb,taken,fits⟩
        exact ⟨frame,.inl ⟨base,nb,nb',taken,rfl,transmits,rfl,partition,len,data⟩⟩
      · rw [if_neg xmit]
        refine ⟨frame,.inr ⟨fun transmits => xmit ?_,rfl,.inr rfl⟩⟩
        exact here ▸ transmits.1
    · simp only [result]
      exact ⟨frame,.inr ⟨fun transmits => refused transmits.2.2,trivial,events⟩⟩
  · rw [if_pos checked]
    refine ⟨fun a _ => rfl,.inr ⟨fun transmits => checked ?_,rfl,.inl rfl⟩⟩
    refine (lwipSendCheck_iff netif lwipBuf).mpr ⟨?_,transmits.2.1⟩
    by_contra absent
    have none : netif.bind LwipNetif.netDevice = none := Option.not_isSome_iff_eq_none.mp absent
    have nothing := transmits.1
    rw [none] at nothing
    exact absurd nothing (by decide)

end Send

namespace Holding

theorem frame_length (memory : Bytes) (h : Holding) :
    (h.frame memory).length = h.nb.dataLen.toNat := chunk_length _ _ _

theorem frame_eq (memory : Bytes) (h : Holding) :
    h.frame memory = chunk memory (h.base + h.nb.dataBuf.offset.toNat) h.nb.dataLen.toNat := by
  unfold frame NetBuf.data NetBuf.inMemory
  apply chunk_congr
  intro i _
  rw [Nat.add_assoc]

/-- The data lie within the buffer. -/
theorem frame_congr (h : Holding) (partition : h.nb.Partition) (memory other : Bytes)
    (same : ∀ i < h.nb.len.toNat, other (h.base + i) = memory (h.base + i)) :
    h.frame other = h.frame memory := by
  have data_end := partition.data_end
  have tail_end := partition.tail_end
  rw [frame_eq,frame_eq]
  apply chunk_congr
  intro i bound
  rw [Nat.add_assoc]
  apply same
  rw [partition.dataLen_eq] at bound
  omega

theorem etherType_frame (codes : FrameCodes) (memory : Bytes) (h : Holding)
    (long : codes.etherTypeOffset + 2 ≤ (h.frame memory).length) :
    etherType codes memory h.base h.nb = frameType codes (h.frame memory) := by
  have byte (i : Nat) (inside : i < (h.frame memory).length) :
      (h.frame memory).getD i 0 = memory (h.base + h.nb.dataBuf.offset.toNat + i) := by
    rw [frame_length] at inside
    rw [frame_eq]
    unfold chunk
    simp [List.getD,inside]
  unfold etherType frameType
  rw [byte _ (by omega),byte _ (by omega),← Nat.add_assoc]

end Holding

section Receive
variable {Netif : Type} {pool : Nat → Prop} (codes : FrameCodes) (pad : EthPadSize)
  (pbufs : PbufAlloc pool) (memory : Bytes)

theorem netBuf2Pbuf_heap (id base : Nat) (nb : NetBuf) :
    heapEvents id (netBuf2Pbuf pad pbufs.alloc base nb memory).events = [] := by
  simp only [netBuf2Pbuf]
  split_ifs
  · rfl
  · split
    next => rfl
    next => split_ifs <;> rfl

/-- The segment is written within what was given for it. -/
theorem netBuf2Pbuf_outside (base : Nat) (nb : NetBuf) (a : Nat) (outside : ¬ pool a) :
    (netBuf2Pbuf pad pbufs.alloc base nb memory).memory a = memory a := by
  by_cases converts : Converts pad pbufs nb
  · obtain ⟨some_byte,short,payload,given⟩ := converts
    have most : maxConversionLen.toNat = 65535 := rfl
    have whole := size_of_short pad nb (by omega)
    have allowed : ¬ maxConversionLen < nb.netBufGetDataLen + UInt32.ofNat pad := by
      rw [UInt32.lt_iff_toNat_lt]
      omega
    have len : nb.netBufGetDataLen = nb.dataLen := rfl
    have copied := memcpyS_whole memory (payload + pad) memory (base + nb.dataBuf.offset.toNat)
      nb.dataLen.toNat some_byte (by unfold secureMemMaxLen; omega)
    unfold netBuf2Pbuf
    dsimp only
    rw [if_neg allowed,toUInt16_of_small _ _ whole,given]
    dsimp only
    rw [len,copied,if_neg (not_not.mpr rfl)]
    apply if_neg
    rintro ⟨low,high⟩
    apply outside
    have within := pbufs.within given (a - payload) (by rw [UInt16.toNat_ofNat']; omega)
    rwa [Nat.add_sub_cancel' (by omega)] at within
  · have refused := netBuf2Pbuf_refused memory pbufs pad base nb converts
    simp only [netBuf2Pbuf] at refused ⊢
    split_ifs at refused ⊢ with long
    · rfl
    · split at refused
      next => rfl
      next payload given =>
        split_ifs at refused with failed
        · rw [if_pos failed]
          -- the length is as large as the room, so it was the room that the copy refused
          unfold memcpyS at failed ⊢
          split_ifs at failed ⊢ with limits short
          · rfl
          · exact absurd short (Nat.lt_irrefl _)
          · exact absurd rfl failed

theorem converts_iff (h : Holding) :
    Converts pad pbufs h.nb ↔ Fits pad pbufs (h.frame memory) := by
  unfold Converts Fits
  rw [h.frame_length]

/-- A segment that is made of a buffer has its frame behind the padding. -/
theorem netBuf2Pbuf_frame (h : Holding) :
    let pBuff := netBuf2Pbuf pad pbufs.alloc h.base h.nb memory
    (Fits pad pbufs (h.frame memory) →
      pBuff.result.map (fun p => frameBytes pad pBuff.memory [p]) = some (h.frame memory)) ∧
      (¬ Fits pad pbufs (h.frame memory) → pBuff.result = none) := by
  rw [← converts_iff]
  refine ⟨fun converts => ?_,netBuf2Pbuf_refused memory pbufs pad h.base h.nb⟩
  obtain ⟨payload,made,_,data⟩ := netBuf2Pbuf_made memory pbufs pad h.base h.nb converts
  have short := converts.2.1
  rw [made,Option.map_some]
  unfold frameBytes
  rw [chainBytes_single _ payload _ (by omega),Nat.add_comm,← chunk_append,
    List.drop_left' (chunk_length _ _ _),data]
  rfl

theorem liteNetDevReceive_eq (base : Nat) (nb : NetBuf) (impl : NetDeviceImpl Netif) (lwipNf : Netif)
    (present : getNetIfFromDevImpl (some impl) = some lwipNf) (flag : UInt32)
    (low : ¬ codes.maxReceiveFlag ≤ flag) :
    liteNetDevReceive codes pad pbufs.alloc memory (some impl) (some (base,nb)) flag =
      if Accepted codes impl.netDevice (etherType codes memory base nb) then
        match (netBuf2Pbuf pad pbufs.alloc base nb memory).result with
        | none => ⟨hdfFailure,(netBuf2Pbuf pad pbufs.alloc base nb memory).memory,
            [.readNetBuf] ++ ((netBuf2Pbuf pad pbufs.alloc base nb memory).events ++ [.freeNetBuf])⟩
        | some _ => ⟨hdfSuccess,(netBuf2Pbuf pad pbufs.alloc base nb memory).memory,
            [.readNetBuf] ++ ((netBuf2Pbuf pad pbufs.alloc base nb memory).events ++
              [.driverifInput,.freeNetBuf])⟩
      else ⟨hdfSuccess,memory,[.readNetBuf,.freeNetBuf]⟩ := by
  unfold liteNetDevReceive
  rw [if_neg low,present]
  simp only [liteNetDevDataFilter]
  split_ifs with accepted
  · simp only [liteNetDevDataReceive,present,converNetBufToPBuf]
    cases (netBuf2Pbuf pad pbufs.alloc base nb memory).result <;> rfl
  · rfl

/-- What a received buffer comes to where it is taken from the driver. -/
theorem liteNetDevReceive_taken (h : Holding) (impl : NetDeviceImpl Netif) (lwipNf : Netif)
    (present : getNetIfFromDevImpl (some impl) = some lwipNf) (flag : UInt32)
    (low : ¬ codes.maxReceiveFlag ≤ flag) (done : Received) (same : done =
      liteNetDevReceive codes pad pbufs.alloc memory (some impl) (some (h.base,h.nb)) flag) :
    done.ret ≠ hdfErrInvalidParam ∧ (∀ a, ¬ pool a → done.memory a = memory a) ∧
      heapEvents h.id done.events = [.free h.id] ∧
      Delivered codes pad pbufs impl.netDevice (h.frame memory) (NetAdapter.inputOf pad
        (converNetBufToPBuf pad pbufs.alloc memory (some (h.base,h.nb))) done) := by
  have settled : hdfSuccess ≠ hdfErrInvalidParam := by decide
  have failed : hdfFailure ≠ hdfErrInvalidParam := by decide
  have type := h.etherType_frame codes memory
  have heap := netBuf2Pbuf_heap pad pbufs memory h.id h.base h.nb
  have outside := netBuf2Pbuf_outside pad pbufs memory h.base h.nb
  obtain ⟨fits,unfit⟩ := netBuf2Pbuf_frame pad pbufs memory h
  rw [liteNetDevReceive_eq codes pad pbufs memory h.base h.nb impl lwipNf present flag low] at same
  unfold converNetBufToPBuf
  dsimp only
  generalize netBuf2Pbuf pad pbufs.alloc h.base h.nb memory = pBuff at same heap outside fits unfit
  split_ifs at same with accepted
  · cases result : pBuff.result with
    | none =>
      rw [result] at same
      subst same
      have unfits : ¬ Fits pad pbufs (h.frame memory) := by
        intro fit
        have none := fits fit
        rw [result] at none
        exact nomatch none
      refine ⟨failed,outside,?_,etherType codes memory h.base h.nb,type,?_,fun _ => ?_⟩
      · dsimp only
        rw [heapEvents_append,heapEvents_append,heap]
        rfl
      · exact fun both => absurd both.2 unfits
      · unfold NetAdapter.inputOf
        rw [result]
        simp
    | some p =>
      rw [result] at same
      subst same
      have fit : Fits pad pbufs (h.frame memory) := by
        by_contra unfits
        rw [unfit unfits] at result
        exact nomatch result
      have delivered := fits fit
      rw [result] at delivered
      refine ⟨settled,outside,?_,etherType codes memory h.base h.nb,type,fun _ => ?_,?_⟩
      · dsimp only
        rw [heapEvents_append,heapEvents_append,heap]
        rfl
      · unfold NetAdapter.inputOf
        dsimp only
        rw [if_pos (by simp),result]
        exact delivered
      · exact fun refused => absurd ⟨accepted,fit⟩ refused
  · subst same
    refine ⟨settled,fun a _ => rfl,rfl,etherType codes memory h.base h.nb,type,?_,fun _ => ?_⟩
    · exact fun both => absurd both.1 accepted
    · unfold NetAdapter.inputOf
      simp

theorem liteNetDevReceive_refused (netDeviceImpl : Option (NetDeviceImpl Netif)) (buff : Buff)
    (flag : UInt32) (refused : codes.maxReceiveFlag ≤ flag ∨
      getNetIfFromDevImpl netDeviceImpl = none ∨ buff = none) :
    liteNetDevReceive codes pad pbufs.alloc memory netDeviceImpl buff flag =
      ⟨hdfErrInvalidParam,memory,[]⟩ := by
  unfold liteNetDevReceive
  split_ifs with high
  · rfl
  · rcases refused with refused | none | none
    · exact absurd refused high
    · rw [none]
    · rw [none]
      cases getNetIfFromDevImpl netDeviceImpl <;> rfl

end Receive

namespace NetAdapter
variable {Netif : Type} {pool : Nat → Prop} (s : NetAdapter)

def ids (s : NetAdapter) : List Nat := s.holding.map Holding.id

theorem view_ids : s.view.frames.map Prod.fst = s.ids := by
  unfold view ids
  rw [List.map_map]
  rfl

theorem buff_none (id : Nat) : s.buff id = none ↔ id ∉ s.ids := by
  simp [buff,ids]

theorem buff_some (id : Nat) (held : id ∈ s.ids) :
    ∃ h ∈ s.holding, h.id = id ∧ s.buff id = some (h.base,h.nb) := by
  have some_buffer : s.buff id ≠ none := (not_congr (s.buff_none id)).mpr (not_not.mpr held)
  cases found : s.holding.find? fun h => h.id == id with
  | none =>
    unfold buff at some_buffer
    rw [found] at some_buffer
    exact absurd rfl some_buffer
  | some h =>
    refine ⟨h,List.mem_of_find?_eq_some found,by simpa using List.find?_some found,?_⟩
    unfold buff
    rw [found,Option.map_some]

/-- Frames are what they were where no byte of their buffers is written. -/
theorem frames_congr (partition : ∀ h ∈ s.holding, h.nb.Partition) (memory : Bytes)
    (same : ∀ h ∈ s.holding, ∀ i < h.nb.len.toNat, memory (h.base + i) = s.memory (h.base + i)) :
    s.holding.map (fun h => (h.id,h.frame memory)) = s.view.frames := by
  apply List.map_congr_left
  intro h member
  rw [h.frame_congr (partition h member) s.memory memory (same h member)]

theorem view_without (id : Nat) :
    (s.without id).map (fun h => (h.id,h.frame s.memory)) = s.view.without id := by
  unfold LinkView.without view without
  rw [List.filter_map]
  rfl

/-- What is written for a sent frame is not in a buffer that the driver holds. -/
theorem kept_outside_given (given : Option (Nat × NetBuf)) (memory : Bytes)
    (new : ∀ base nb, given = some (base,nb) → s.New pool base nb ∧ nb.dataLen = 0)
    (frame : ∀ a, ¬ InGiven given a → memory a = s.memory a) :
    (∀ a, pool a → memory a = s.memory a) ∧
      ∀ h ∈ s.holding, ∀ i < h.nb.len.toNat, memory (h.base + i) = s.memory (h.base + i) := by
  constructor
  · intro a inside
    apply frame
    rintro ⟨base,nb,taken,low,high⟩
    apply (new base nb taken).1.outside (a - base) (by omega)
    rwa [Nat.add_sub_cancel' low]
  · intro h member i bound
    apply frame
    rintro ⟨base,nb,taken,low,high⟩
    have apart := (new base nb taken).1.apart h member
    unfold Slices.Slice.Apart Holding.slice at apart
    dsimp only at apart
    omega

variable {s} (sound : s.Sound pool)

include sound

theorem sound_same (memory : Bytes) (events : List (Heap.Event Nat)) (next : Nat)
    (later : s.next ≤ next) (same : Heap.held events s.ids = some s.ids) :
    Sound pool ⟨memory,s.holding,s.heap ++ events,next⟩ := by
  refine ⟨sound.partition,sound.outside,sound.apart,?_,sound.distinct,?_⟩
  · exact fun h member => (sound.before h member).trans_le later
  · dsimp only
    rw [Heap.held_append,sound.held,Option.bind_some]
    exact same

theorem fresh_id : s.next ∉ s.ids := by
  intro member
  obtain ⟨h,here,same⟩ := List.mem_map.mp member
  exact absurd same (sound.before h here).ne

theorem sound_push (base : Nat) (nb nb' : NetBuf) (new : s.New pool base nb)
    (partition : nb'.Partition) (len : nb'.len = nb.len) (memory : Bytes) :
    Sound pool ⟨memory,⟨s.next,base,nb'⟩::s.holding,s.heap ++ [.alloc s.next],s.next + 1⟩ := by
  have fresh := fresh_id sound
  refine ⟨?_,?_,?_,?_,?_,?_⟩
  · exact List.forall_mem_cons.mpr ⟨partition,sound.partition⟩
  · exact List.forall_mem_cons.mpr ⟨len ▸ new.outside,sound.outside⟩
  · refine List.pairwise_cons.mpr ⟨fun h member => ?_,sound.apart⟩
    unfold Holding.slice
    rw [len]
    exact new.apart h member
  · refine List.forall_mem_cons.mpr ⟨Nat.lt_succ_self _,fun h member => ?_⟩
    exact (sound.before h member).trans (Nat.lt_succ_self _)
  · exact List.nodup_cons.mpr ⟨fresh,sound.distinct⟩
  · dsimp only
    rw [Heap.held_append,sound.held]
    rfl

theorem without_ids (id : Nat) : (s.without id).map Holding.id = s.ids.erase id := by
  unfold ids
  rw [sound.distinct.erase_eq_filter,List.filter_map]
  rfl

theorem sound_without (id : Nat) (held : id ∈ s.ids) (memory : Bytes) :
    Sound pool ⟨memory,s.without id,s.heap ++ [.free id],s.next⟩ := by
  have kept : ∀ h ∈ s.without id, h ∈ s.holding := fun h member => List.mem_of_mem_filter member
  refine ⟨?_,?_,?_,?_,?_,?_⟩
  · exact fun h member => sound.partition h (kept h member)
  · exact fun h member => sound.outside h (kept h member)
  · exact sound.apart.sublist List.filter_sublist
  · exact fun h member => sound.before h (kept h member)
  · dsimp only
    rw [without_ids sound id]
    exact sound.distinct.erase id
  · dsimp only
    rw [Heap.held_append,sound.held,Option.bind_some,without_ids sound id]
    exact if_pos held

theorem send_kept (netif : Option LwipNetif) (lwipBuf : List Pbuf) (given : Option (Nat × NetBuf))
    (codes : FrameCodes) (pad : EthPadSize) (inPool : ChainIn pool lwipBuf)
    (new : ∀ base nb, given = some (base,nb) → s.New pool base nb ∧ nb.dataLen = 0) :
    let call : AdapterCall Netif pool := .send netif lwipBuf given
    (step codes pad call s).2.Sound pool ∧
      LinkView.Allows codes pad call (step codes pad call s).1 s.view (step codes pad call s).2.view := by
  have given_new : ∀ base nb, given = some (base,nb) →
      nb.Partition ∧ nb.dataLen = 0 ∧ ∀ i < nb.len.toNat, ¬ pool (base + i) := by
    intro base nb taken
    obtain ⟨fresh,dataless⟩ := new base nb taken
    exact ⟨fresh.partition,dataless,fresh.outside⟩
  obtain ⟨frame,done⟩ := lwipSend_spec s.memory given lwipBuf inPool given_new netif
  obtain ⟨poolKept,heldKept⟩ := s.kept_outside_given given _ new frame
  have frames := s.frames_congr sound.partition _ heldKept
  dsimp only [step]
  generalize lwipSend (fun _ => given) netif lwipBuf s.memory = sent at done poolKept frames
  rcases done with ⟨base,nb,nb',taken,xmit,transmits,events,partition,len,data⟩ |
    ⟨refused,xmit,events⟩
  · rw [taken,xmit,events]
    refine ⟨sound_push sound base nb nb' (new base nb taken).1 partition len sent.memory,rfl,
      poolKept,fun _ => ⟨s.next,?_,?_⟩,fun refused => absurd (taken ▸ transmits) refused⟩
    · rw [view_ids]
      exact fresh_id sound
    · unfold view at frames ⊢
      dsimp only [transmitted]
      rw [List.map_cons,frames]
      unfold Holding.frame
      dsimp only
      rw [data]
  · have held : Heap.held (heapEvents s.next sent.events) s.ids = some s.ids := by
      rcases events with none | both
      · rw [none]
        rfl
      · rw [both]
        have undone : Heap.held [.alloc s.next,.free s.next] s.ids = some s.ids := by
          simp [Heap.held]
        exact undone
    have unchanged : s.transmitted given sent.xmit = s.holding := by
      rw [xmit]
      cases given <;> rfl
    rw [unchanged]
    refine ⟨sound_same sound sent.memory _ _ (Nat.le_succ _) held,rfl,poolKept,
      fun transmits => absurd transmits refused,fun _ => frames⟩

theorem receive_kept (id : Nat) (netDeviceImpl : Option (NetDeviceImpl Netif)) (flag : UInt32)
    (pbufs : PbufAlloc pool) (codes : FrameCodes) (pad : EthPadSize) :
    let call : AdapterCall Netif pool := .receive id netDeviceImpl flag pbufs
    (step codes pad call s).2.Sound pool ∧
      LinkView.Allows codes pad call (step codes pad call s).1 s.view (step codes pad call s).2.view := by
  by_cases refused : codes.maxReceiveFlag ≤ flag ∨ getNetIfFromDevImpl netDeviceImpl = none ∨
      s.buff id = none
  · have done := liteNetDevReceive_refused codes pad pbufs s.memory netDeviceImpl (s.buff id) flag
      refused
    dsimp only [step,LinkView.Allows]
    rw [done,view_ids,← buff_none]
    dsimp only
    rw [if_pos rfl]
    refine ⟨sound_same sound s.memory [] s.next (Nat.le_refl _) rfl,fun _ => ⟨?_,rfl⟩,
      fun taken => absurd rfl taken,fun _ => refused,fun _ => rfl⟩
    unfold inputOf
    simp
  · obtain ⟨low,present,held⟩ := not_or.mp refused |>.imp_right not_or.mp
    rw [buff_none,not_not] at held
    obtain ⟨h,member,rfl,buffer⟩ := s.buff_some id held
    obtain ⟨lwipNf,present⟩ := Option.ne_none_iff_exists'.mp present
    cases netDeviceImpl with
    | none => exact nomatch present
    | some impl =>
      obtain ⟨settled,outside,heap,delivered⟩ := liteNetDevReceive_taken codes pad pbufs s.memory h
        impl lwipNf present flag low _ rfl
      have frames := s.frames_congr sound.partition
        (liteNetDevReceive codes pad pbufs.alloc s.memory (some impl) (some (h.base,h.nb)) flag).memory
        fun k here i bound => outside _ (sound.outside k here i bound)
      dsimp only [step,LinkView.Allows]
      rw [buffer,view_ids,← buff_none,buffer,if_neg settled,heap]
      generalize liteNetDevReceive codes pad pbufs.alloc s.memory (some impl) (some (h.base,h.nb))
        flag = done at settled frames delivered
      refine ⟨sound_without sound h.id held done.memory,fun same => absurd same settled,
        fun _ => ⟨?_,impl,h.frame s.memory,rfl,?_,delivered⟩,fun same => absurd same settled,?_⟩
      · unfold LinkView.without
        rw [← frames,List.filter_map]
        rfl
      · exact List.mem_map.mpr ⟨h,member,rfl⟩
      · rintro (high | absent | none)
        · exact absurd high low
        · rw [present] at absent
          exact nomatch absent
        · exact nomatch none

theorem acquire_kept (base : Nat) (nb : NetBuf) (memory : Bytes) (codes : FrameCodes)
    (pad : EthPadSize) (new : s.New pool base nb)
    (same : ∀ h ∈ s.holding, ∀ i < h.nb.len.toNat, memory (h.base + i) = s.memory (h.base + i)) :
    let call : AdapterCall Netif pool := .acquire base nb memory
    (step codes pad call s).2.Sound pool ∧
      LinkView.Allows codes pad call (step codes pad call s).1 s.view (step codes pad call s).2.view := by
  have frames := s.frames_congr sound.partition memory same
  refine ⟨sound_push sound base nb nb new new.partition rfl memory,rfl,s.next,?_,?_⟩
  · rw [view_ids]
    exact fresh_id sound
  · exact congrArg _ frames

theorem free_kept (id : Nat) (codes : FrameCodes) (pad : EthPadSize) :
    let call : AdapterCall Netif pool := .free id
    (step codes pad call s).2.Sound pool ∧
      LinkView.Allows codes pad call (step codes pad call s).1 s.view (step codes pad call s).2.view := by
  by_cases held : id ∈ s.ids
  · obtain ⟨h,_,_,buffer⟩ := s.buff_some id held
    dsimp only [step]
    rw [buffer]
    exact ⟨sound_without sound id held s.memory,rfl,s.view_without id⟩
  · have none := (s.buff_none id).mpr held
    have all : s.without id = s.holding := by
      apply List.filter_eq_self.mpr
      intro h member
      simp only [bne_iff_ne,ne_eq]
      rintro rfl
      exact held (List.mem_map_of_mem member)
    have view := s.view_without id
    dsimp only [step]
    rw [none,all] at *
    exact ⟨sound_same sound s.memory [] s.next (Nat.le_refl _) rfl,rfl,view⟩

theorem step_kept (codes : FrameCodes) (pad : EthPadSize) (call : AdapterCall Netif pool)
    (meets : Meets call s) : (step codes pad call s).2.Sound pool ∧
      LinkView.Allows codes pad call (step codes pad call s).1 s.view
        (step codes pad call s).2.view := by
  cases call with
  | send netif lwipBuf given => exact send_kept sound netif lwipBuf given codes pad meets.1 meets.2
  | acquire base nb memory => exact acquire_kept sound base nb memory codes pad meets.1 meets.2
  | receive id netDeviceImpl flag pbufs =>
    exact receive_kept sound id netDeviceImpl flag pbufs codes pad
  | free id => exact free_kept sound id codes pad
  | others memory =>
    have frames := s.frames_congr sound.partition memory meets
    have kept := sound_same sound memory [] s.next (Nat.le_refl _) rfl
    rw [List.append_nil] at kept
    exact ⟨kept,rfl,frames⟩

omit s sound in
theorem idle_sound (memory : Bytes) : (idle memory).Sound pool :=
  ⟨by simp [idle],by simp [idle],List.Pairwise.nil,by simp [idle],List.nodup_nil,rfl⟩

omit s sound in
/-- In every order of sends, receptions and releases the driver has its frames as they came, lwIP
gets one of them or nothing, and every buffer is freed once or held. -/
theorem frames_forwarded (codes : FrameCodes) (pad : EthPadSize)
    (calls : List (AdapterCall Netif pool)) (memory : Bytes)
    (met : Machine.MeetsAll (step codes pad) Meets calls (idle memory)) :
    let done := Machine.run (step codes pad) calls (idle memory)
    Heap.held done.2.heap [] = some (done.2.view.frames.map Prod.fst) ∧
      Machine.History (LinkView.Allows codes pad) calls done.1 ⟨memory,[]⟩ done.2.view := by
  obtain ⟨last,history⟩ := Machine.run_history_met (step codes pad) Meets view
    (LinkView.Allows codes pad) (Sound pool)
    (fun call _ sound meets => step_kept sound codes pad call meets) calls (idle memory)
    (idle_sound memory) met
  refine ⟨?_,history⟩
  rw [view_ids]
  exact last.held

end NetAdapter

def frameCodes : FrameCodes := ⟨0,2,12,0x0800,0x0806,0x8035,0x86dd,0xa0ed,0x888e⟩

def transmitter : LwipNetif := ⟨some (some ⟨some ⟨true⟩⟩)⟩

/-- A frame is sent and comes back to the same device. -/
def echo : List (AdapterCall Unit lwipPool) :=
  [.send (some transmitter) [paddedSegment] (some (2000,freshNetBuf 3)),
    .receive 0 (some ⟨⟨0⟩,some ⟨some ()⟩⟩) 0 onePbuf]

namespace NetAdapter

theorem echo_meets : Machine.MeetsAll (step frameCodes 0) Meets echo (idle fun _ => 0) := by
  have new : (idle fun _ => 0).New lwipPool 2000 (freshNetBuf 3) := by
    refine ⟨⟨rfl,rfl,rfl,rfl,rfl⟩,fun i _ inside => ?_,fun h absent => (nomatch absent)⟩
    unfold lwipPool at inside
    omega
  refine ⟨⟨paddedSegment_inPool,fun base nb same => ?_⟩,trivial,trivial⟩
  obtain ⟨rfl,rfl⟩ := Prod.mk.inj (Option.some.inj same)
  exact ⟨new,rfl⟩

theorem frames_forwarded_echo :
    Machine.History (LinkView.Allows frameCodes 0) echo
      (Machine.run (step frameCodes 0) echo (idle fun _ => 0)).1 ⟨fun _ => 0,[]⟩
      (Machine.run (step frameCodes 0) echo (idle fun _ => 0)).2.view :=
  (frames_forwarded frameCodes 0 echo (fun _ => 0) echo_meets).2

end NetAdapter

end DriversAdapter.Net
