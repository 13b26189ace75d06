import DriversAdapter.Net.NetBuf

/-! The resizing of a network buffer: the size of the new memory is a 32-bit sum of three
lengths, and the regions are moved by two of them. -/
namespace DriversAdapter.Net
open DriversAdapter.Base

/-- How many bytes `memcpy_s` writes, those of a reset included. -/
def memcpySWritten (destMax count : Nat) : Nat :=
  if destMax = 0 ∨ secureMemMaxLen < destMax then 0
  else if destMax < count then destMax
  else count

/-- The answer of a resize, the buffer it leaves, and what was written where in which memory. -/
structure ResizeRun where
  status : Int
  nb : NetBuf
  allocated : Nat
  copyAt : Nat
  copied : Nat

namespace NetBuf

def netBufResizeRoom (dataAlloc : Bool) (fresh : Bytes) (nb : NetBuf) (head tail : UInt32) :
    ResizeRun :=
  let size := head + nb.len + tail
  if dataAlloc = false then ⟨hdfFailure,nb,0,0,0⟩
  else
    -- `memset_s` refuses a memory above its limit
    let cleared := if secureMemMaxLen < size.toNat then fresh
      else copyBytes fresh 0 (fun _ => 0) 0 size.toNat
    let copy := memcpyS cleared head.toNat (size - head).toNat nb.mem 0 nb.tailBuf.offset.toNat
    let copied := memcpySWritten (size - head).toNat nb.tailBuf.offset.toNat
    if copy.1 ≠ eok then ⟨hdfFailure,nb,size.toNat,head.toNat,copied⟩
    else
      let offset := nb.headBuf.len
      ⟨hdfSuccess,{
        mem := copy.2
        len := size
        dataLen := nb.dataLen
        headBuf := ⟨0,offset + head⟩
        dataBuf := ⟨offset + head,nb.dataLen⟩
        tailBuf := ⟨nb.tailBuf.offset + head,nb.tailBuf.len + tail⟩},
        size.toNat,head.toNat,copied⟩

/-- What is expected of a resize: a success has the regions, the room and the data, a failure
changes nothing, and nothing is written outside of the new memory. -/
structure ResizeSound (nb : NetBuf) (head tail : UInt32) (run : ResizeRun) : Prop where
  resized : run.status = hdfSuccess → run.nb.Partition ∧ head ≤ run.nb.headBuf.len ∧
    tail ≤ run.nb.tailBuf.len ∧ run.nb.data = nb.data
  failed : run.status ≠ hdfSuccess → run.nb = nb
  inside : run.copied = 0 ∨ run.copyAt + run.copied ≤ run.allocated

/-- The bytes that the copy may fill, as the code computes them. -/
def copyRoom (nb : NetBuf) (tail : UInt32) : Nat := (nb.len.toNat + tail.toNat) % 2^32

/-- The three lengths add up within 32 bits, or the resize ends before it copies: the memory is
not granted, or `memcpy_s` finds no usable room, or less room than data, which then lies inside
the memory. -/
def RoomFits (nb : NetBuf) (dataAlloc : Bool) (head tail : UInt32) : Prop :=
  dataAlloc = true → head.toNat + nb.len.toNat + tail.toNat < 2^32 ∨
    nb.copyRoom tail = 0 ∨ secureMemMaxLen < nb.copyRoom tail ∨
      (nb.copyRoom tail < nb.tailBuf.offset.toNat ∧ head.toNat + nb.copyRoom tail < 2^32)

theorem size_sub_head (nb : NetBuf) (head tail : UInt32) :
    (head + nb.len + tail - head).toNat = nb.copyRoom tail := by
  have bound := head.toNat_lt
  unfold copyRoom
  rw [UInt32.toNat_sub,UInt32.toNat_add,UInt32.toNat_add]
  omega

theorem size_toNat (nb : NetBuf) (head tail : UInt32) :
    (head + nb.len + tail).toNat = (head.toNat + nb.len.toNat + tail.toNat) % 2^32 := by
  rw [UInt32.toNat_add,UInt32.toNat_add]
  omega

/-- The regions after a resize. -/
def roomMoved (nb : NetBuf) (mem : Bytes) (head tail : UInt32) : NetBuf :=
  ⟨mem,head + nb.len + tail,nb.dataLen,⟨0,nb.headBuf.len + head⟩,⟨nb.headBuf.len + head,nb.dataLen⟩,
    ⟨nb.tailBuf.offset + head,nb.tailBuf.len + tail⟩⟩

/-- The copy has usable room for the old data. -/
def Copies (nb : NetBuf) (tail : UInt32) : Prop :=
  0 < nb.copyRoom tail ∧ nb.copyRoom tail ≤ secureMemMaxLen ∧
    nb.tailBuf.offset.toNat ≤ nb.copyRoom tail

section Resize
variable (nb : NetBuf) (partition : nb.Partition) (fresh : Bytes) (head tail : UInt32)

theorem resize_unallocated : nb.netBufResizeRoom false fresh head tail = ⟨hdfFailure,nb,0,0,0⟩ :=
  rfl

theorem resize_refused (refused : ¬ nb.Copies tail) :
    nb.netBufResizeRoom true fresh head tail = ⟨hdfFailure,nb,
      (head.toNat + nb.len.toNat + tail.toNat) % 2^32,head.toNat,
      memcpySWritten (nb.copyRoom tail) nb.tailBuf.offset.toNat⟩ := by
  unfold netBufResizeRoom
  dsimp only
  rw [size_sub_head,size_toNat,if_neg (by simp),
    if_pos (fun copied => refused ((memcpyS_eok_iff _ _ _ _ _ _).mp copied))]

theorem resize_copied (copies : nb.Copies tail) :
    ∃ cleared, nb.netBufResizeRoom true fresh head tail = ⟨hdfSuccess,
      nb.roomMoved (copyBytes cleared head.toNat nb.mem 0 nb.tailBuf.offset.toNat) head tail,
      (head.toNat + nb.len.toNat + tail.toNat) % 2^32,head.toNat,nb.tailBuf.offset.toNat⟩ := by
  obtain ⟨some_room,limit,enough⟩ := copies
  refine ⟨if secureMemMaxLen < (head + nb.len + tail).toNat then fresh
    else copyBytes fresh 0 (fun _ => 0) 0 (head + nb.len + tail).toNat,?_⟩
  have usable : ¬ (nb.copyRoom tail = 0 ∨ secureMemMaxLen < nb.copyRoom tail) := by omega
  have written : memcpySWritten (nb.copyRoom tail) nb.tailBuf.offset.toNat =
      nb.tailBuf.offset.toNat := by
    unfold memcpySWritten
    rw [if_neg usable,if_neg (by omega)]
  unfold netBufResizeRoom roomMoved
  dsimp only
  rw [size_sub_head,written,size_toNat,if_neg (by simp)]
  unfold memcpyS
  rw [if_neg usable,if_neg (by omega : ¬ nb.copyRoom tail < nb.tailBuf.offset.toNat)]
  exact if_neg (not_not.mpr rfl)

include partition in
/-- The moved regions partition the new memory, with the room asked for, exactly when no sum
wraps. -/
theorem roomMoved_iff (mem : Bytes) :
    ((nb.roomMoved mem head tail).Partition ∧ head ≤ (nb.roomMoved mem head tail).headBuf.len ∧
        tail ≤ (nb.roomMoved mem head tail).tailBuf.len) ↔
      head.toNat + nb.len.toNat + tail.toNat < 2^32 := by
  obtain ⟨head_start,head_len,data_end,tail_end,dataLen_eq⟩ := partition
  have boundHead := head.toNat_lt
  have boundTail := tail.toNat_lt
  have boundLen := nb.len.toNat_lt
  have head_room : head ≤ (nb.roomMoved mem head tail).headBuf.len ↔
      head.toNat ≤ (nb.dataBuf.offset.toNat + head.toNat) % 2^32 := by
    rw [UInt32.le_iff_toNat_le,← head_len,← UInt32.toNat_add]
    rfl
  have tail_room : tail ≤ (nb.roomMoved mem head tail).tailBuf.len ↔
      tail.toNat ≤ (nb.tailBuf.len.toNat + tail.toNat) % 2^32 := by
    rw [UInt32.le_iff_toNat_le,← UInt32.toNat_add]
    rfl
  rw [head_room,tail_room]
  unfold roomMoved
  rw [head_len]
  constructor
  · rintro ⟨⟨_,_,data_end',tail_end',_⟩,enough_head,enough_tail⟩
    dsimp only at data_end' tail_end'
    rw [UInt32.toNat_add,UInt32.toNat_add,dataLen_eq] at data_end'
    rw [UInt32.toNat_add,UInt32.toNat_add,size_toNat] at tail_end'
    omega
  · intro fits
    refine ⟨⟨rfl,rfl,?_,?_,rfl⟩,by omega,by omega⟩
    · dsimp only
      rw [UInt32.toNat_add,UInt32.toNat_add,dataLen_eq]
      omega
    · dsimp only
      rw [UInt32.toNat_add,UInt32.toNat_add,size_toNat]
      omega

include partition in
theorem roomMoved_data (cleared : Bytes)
    (fits : head.toNat + nb.len.toNat + tail.toNat < 2^32) :
    (nb.roomMoved (copyBytes cleared head.toNat nb.mem 0 nb.tailBuf.offset.toNat) head tail).data =
      nb.data := by
  obtain ⟨head_start,head_len,data_end,tail_end,dataLen_eq⟩ := partition
  unfold data roomMoved
  dsimp only
  apply chunk_congr
  intro i bound
  have place : (nb.headBuf.len + head).toNat = nb.dataBuf.offset.toNat + head.toNat := by
    rw [head_len,UInt32.toNat_add]
    omega
  rw [dataLen_eq] at bound
  unfold copyBytes
  rw [place,if_pos (by omega)]
  congr 1
  omega

include partition in
theorem roomMoved_sound_iff (cleared : Bytes) :
    nb.ResizeSound head tail ⟨hdfSuccess,
      nb.roomMoved (copyBytes cleared head.toNat nb.mem 0 nb.tailBuf.offset.toNat) head tail,
      (head.toNat + nb.len.toNat + tail.toNat) % 2^32,head.toNat,nb.tailBuf.offset.toNat⟩ ↔
      head.toNat + nb.len.toNat + tail.toNat < 2^32 := by
  constructor
  · intro sound
    obtain ⟨whole,head_room,tail_room,_⟩ := sound.resized rfl
    exact (roomMoved_iff nb partition head tail _).mp ⟨whole,head_room,tail_room⟩
  · intro fits
    obtain ⟨whole,head_room,tail_room⟩ := (roomMoved_iff nb partition head tail
      (copyBytes cleared head.toNat nb.mem 0 nb.tailBuf.offset.toNat)).mpr fits
    refine ⟨fun _ => ⟨whole,head_room,tail_room,?_⟩,fun failed => absurd rfl failed,.inr ?_⟩
    · exact roomMoved_data nb partition head tail cleared fits
    · have inside := partition.tail_end
      dsimp only
      omega

theorem failed_sound_iff (allocated copyAt copied : Nat) :
    nb.ResizeSound head tail ⟨hdfFailure,nb,allocated,copyAt,copied⟩ ↔
      copied = 0 ∨ copyAt + copied ≤ allocated := by
  have failing : hdfFailure ≠ hdfSuccess := by decide
  exact ⟨fun sound => sound.inside,fun written =>
    ⟨fun succeeded => absurd succeeded failing,fun _ => rfl,written⟩⟩

include partition in
/-- A resize is sound exactly when the room fits. -/
theorem resize_sound_iff (dataAlloc : Bool) :
    nb.ResizeSound head tail (nb.netBufResizeRoom dataAlloc fresh head tail) ↔
      nb.RoomFits dataAlloc head tail := by
  have inside := partition.tail_end
  have boundLen := nb.len.toNat_lt
  have boundTail := tail.toNat_lt
  have boundHead := head.toNat_lt
  cases dataAlloc with
  | false =>
    rw [resize_unallocated]
    constructor
    · exact fun _ granted => absurd granted (by simp)
    · exact fun _ => (failed_sound_iff nb head tail 0 0 0).mpr (.inl rfl)
  | true =>
    by_cases copies : nb.Copies tail
    · obtain ⟨cleared,same⟩ := resize_copied nb fresh head tail copies
      obtain ⟨some_room,limit,enough⟩ := copies
      rw [same,roomMoved_sound_iff nb partition head tail cleared]
      unfold RoomFits
      constructor
      · exact fun fits _ => .inl fits
      · intro fits
        rcases fits rfl with fits | none_left | over_limit | short
        · exact fits
        · omega
        · omega
        · omega
    · rw [resize_refused nb fresh head tail copies]
      rw [failed_sound_iff]
      unfold RoomFits
      unfold Copies at copies
      unfold memcpySWritten
      -- the room is the sum of the two other lengths, less a wrap
      unfold copyRoom at copies ⊢
      split_ifs with limits short
      · simp only [true_or,true_iff]
        omega
      · simp only [true_implies]
        omega
      · omega

end Resize

/-- The buffers that allocation, the operations and the resizes that fit lead to. -/
inductive ReachableResized : NetBuf → Prop
  | alloc (nbAlloc dataAlloc fresh size nb)
      (allocated : netBufAlloc nbAlloc dataAlloc fresh size = some nb) : ReachableResized nb
  | fill (nb mem) : ReachableResized nb → ReachableResized {nb with mem := mem}
  | push (nb id len) : ReachableResized nb → ReachableResized (nb.netBufPush id len).2
  | pop (nb id len) : ReachableResized nb → ReachableResized (nb.netBufPop id len).2
  | concat (nb cnb) : ReachableResized nb → ReachableResized cnb →
      ReachableResized (nb.netBufConcat cnb).2.1
  | resize (nb dataAlloc fresh head tail) : ReachableResized nb → nb.RoomFits dataAlloc head tail →
      ReachableResized (nb.netBufResizeRoom dataAlloc fresh head tail).nb

theorem partition_resize (nb : NetBuf) (partition : nb.Partition) (dataAlloc : Bool)
    (fresh : Bytes) (head tail : UInt32) (fits : nb.RoomFits dataAlloc head tail) :
    (nb.netBufResizeRoom dataAlloc fresh head tail).nb.Partition := by
  have sound := (resize_sound_iff nb partition fresh head tail dataAlloc).mpr fits
  by_cases succeeded : (nb.netBufResizeRoom dataAlloc fresh head tail).status = hdfSuccess
  · exact (sound.resized succeeded).1
  · rw [sound.failed succeeded]
    exact partition

theorem partition_reachableResized (nb : NetBuf) (reached : nb.ReachableResized) :
    nb.Partition := by
  induction reached with
  | alloc nbAlloc dataAlloc fresh size nb allocated =>
    exact partition_reachable nb (.alloc nbAlloc dataAlloc fresh size nb allocated)
  | fill nb mem _ ih => exact partition_fill nb ih mem
  | push nb id len _ ih => exact partition_push nb ih id len
  | pop nb id len _ ih => exact partition_pop nb ih id len
  | concat nb cnb _ _ ih _ => exact partition_concat nb ih cnb
  | resize nb dataAlloc fresh head tail _ fits ih =>
    exact partition_resize nb ih dataAlloc fresh head tail fits

/-- In every reachable buffer, and for every head and tail, a resize is sound exactly when the
room fits. -/
theorem resizeRoom_sound_iff (nb : NetBuf) (reached : nb.ReachableResized) :
    nb.Partition ∧ ∀ dataAlloc fresh head tail,
      nb.ResizeSound head tail (nb.netBufResizeRoom dataAlloc fresh head tail) ↔
        nb.RoomFits dataAlloc head tail :=
  have partition := partition_reachableResized nb reached
  ⟨partition,fun dataAlloc fresh head tail =>
    resize_sound_iff nb partition fresh head tail dataAlloc⟩

theorem two_reachableResized (byte : UInt8) : (two byte).ReachableResized :=
  .fill _ _ (.push _ eDataBuf 2 (.alloc true true (fun _ => 0) 4 _ rfl))

theorem resizeRoom_sound_two :
    (two 5).ResizeSound 3 1 ((two 5).netBufResizeRoom true (fun _ => 9) 3 1) ∧
      ¬ (two 5).ResizeSound 0xFFFFFFFF 0
        ((two 5).netBufResizeRoom true (fun _ => 9) 0xFFFFFFFF 0) := by
  obtain ⟨_,sound⟩ := resizeRoom_sound_iff (two 5) (two_reachableResized 5)
  constructor
  · exact (sound true _ 3 1).mpr fun _ => .inl (by decide)
  · rw [sound]
    unfold RoomFits
    decide

/-- With a head of one less than the word size, the memory is three bytes long and the data is
copied in front of or behind it. -/
theorem resize_wraps :
    ((two 5).netBufResizeRoom true (fun _ => 9) 0xFFFFFFFF 0).status = hdfSuccess ∧
      ((two 5).netBufResizeRoom true (fun _ => 9) 0xFFFFFFFF 0).allocated = 3 ∧
      ((two 5).netBufResizeRoom true (fun _ => 9) 0xFFFFFFFF 0).copyAt = 0xFFFFFFFF ∧
      ((two 5).netBufResizeRoom true (fun _ => 9) 0xFFFFFFFF 0).copied = 2 ∧
      (two 5).ReachableResized ∧ ¬ (two 5).ResizeSound 0xFFFFFFFF 0
        ((two 5).netBufResizeRoom true (fun _ => 9) 0xFFFFFFFF 0) := by
  refine ⟨rfl,rfl,rfl,rfl,two_reachableResized 5,fun sound => ?_⟩
  rcases sound.inside with nothing | inside
  · cases nothing
  · exact absurd inside (by decide)

end NetBuf
end DriversAdapter.Net
