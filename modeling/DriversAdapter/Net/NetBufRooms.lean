import DriversAdapter.Net.NetBufResize
import DriversAdapter.Semantics.Machine
import DriversAdapter.Semantics.Rooms

/-! Network buffers with what is in them: each is a list of bytes in three rooms, whatever calls are
made on it and on others, and headers written by a stack of protocols come off as they went on. -/
namespace DriversAdapter.Net
open DriversAdapter.Base DriversAdapter.Semantics

namespace NetBuf

def maxBufNum : UInt32 := 3

def bufs (nb : NetBuf) (id : UInt32) : BufField :=
  if id = eHeadBuf then nb.headBuf else if id = eDataBuf then nb.dataBuf else nb.tailBuf

/-- The offset of a segment, `none` for an id that is none. -/
def netBufGetAddress (nb : NetBuf) (id : UInt32) : Option UInt32 :=
  if id < maxBufNum then some (nb.bufs id).offset else none

def netBufGetRoom (nb : NetBuf) (id : UInt32) : UInt32 :=
  if id < maxBufNum then (nb.bufs id).len else 0

/-- The bytes of a segment. -/
def segment (nb : NetBuf) (id : UInt32) : Block :=
  match nb.netBufGetAddress id with
  | none => []
  | some offset => chunk nb.mem offset.toNat (nb.netBufGetRoom id).toNat

/-- A caller writes through the address of a segment. -/
def fill (nb : NetBuf) (id : UInt32) (pos : Nat) (data : Bytes) (count : Nat) : NetBuf :=
  match nb.netBufGetAddress id with
  | none => nb
  | some offset => {nb with mem := copyBytes nb.mem (offset.toNat + pos) data 0 count}

def rooms (nb : NetBuf) : Rooms UInt8 :=
  ⟨nb.segment eHeadBuf,nb.segment eDataBuf,nb.segment eTailBuf⟩

end NetBuf

/-- The calls on one buffer. -/
inductive BufCall
  | alloc (nbAlloc dataAlloc : Bool) (fresh : Bytes) (size : UInt32)
  | free
  | push (id len : UInt32)
  | pop (id len : UInt32)
  | write (id : UInt32) (pos : Nat) (data : Bytes) (count : Nat)
  | read (id : UInt32)
  | resize (dataAlloc : Bool) (fresh : Bytes) (head tail : UInt32)

inductive BufAnswer
  | made (granted : Bool)
  | address (offset : Option UInt32)
  | content (bytes : Block)
  | status (code : Int)
  | nothing

/-- A buffer that is not there is a `NULL` pointer. -/
def NetBuf.serve : BufCall → Option NetBuf → BufAnswer × Option NetBuf
  | .alloc nbAlloc dataAlloc fresh size, _ =>
    (.made (netBufAlloc nbAlloc dataAlloc fresh size).isSome,
      netBufAlloc nbAlloc dataAlloc fresh size)
  | .free, _ => (.nothing,none)
  | .push id len, some nb => (.address (nb.netBufPush id len).1,some (nb.netBufPush id len).2)
  | .pop id len, some nb => (.address (nb.netBufPop id len).1,some (nb.netBufPop id len).2)
  | .push _ _, none | .pop _ _, none => (.address none,none)
  | .write id pos data count, nb => (.nothing,nb.map fun nb => nb.fill id pos data count)
  | .read id, nb => (.content (nb.elim [] fun nb => nb.segment id),nb)
  | .resize dataAlloc fresh head tail, some nb =>
    (.status (nb.netBufResizeRoom dataAlloc fresh head tail).status,
      some (nb.netBufResizeRoom dataAlloc fresh head tail).nb)
  | .resize _ _ _ _, none => (.status hdfErrInvalidParam,none)

/-- Where a push moves bytes. -/
def pushWay (id : UInt32) : Option Shift :=
  if id = eHeadBuf then some .dataToHead
  else if id = eDataBuf then some .tailToData
  else if id = eTailBuf then some .dataToTail
  else none

def popWay (id : UInt32) : Option Shift :=
  if id = eHeadBuf then some .headToData
  else if id = eDataBuf then some .dataToHead
  else if id = eTailBuf then some .tailToData
  else none

def segmentOf (r : Rooms UInt8) (id : UInt32) : Block :=
  if id = eHeadBuf then r.head
  else if id = eDataBuf then r.data
  else if id = eTailBuf then r.tail
  else []

def patched (r : Rooms UInt8) (id : UInt32) (pos : Nat) (bytes : Block) : Rooms UInt8 :=
  if id = eHeadBuf then {r with head := patch r.head pos bytes}
  else if id = eDataBuf then {r with data := patch r.data pos bytes}
  else if id = eTailBuf then {r with tail := patch r.tail pos bytes}
  else r

/-- The address of the data tells how much is in front of it. -/
def dataAddress (r : Rooms UInt8) : BufAnswer := .address (some (.ofNat r.head.length))

def serveShift (way : Option Shift) (len : UInt32) (r : Rooms UInt8) :
    BufAnswer × Option (Rooms UInt8) :=
  match way with
  | none => (dataAddress r,some r)
  | some way =>
    if len.toNat ≤ (r.giver way).length then
      (dataAddress (r.moved len.toNat way),some (r.moved len.toNat way))
    else (.address none,some r)

/-- New room is granted cleared, and what was behind the data is not kept. -/
def resized (dataAlloc : Bool) (head tail : UInt32) (r : Rooms UInt8) :
    BufAnswer × Option (Rooms UInt8) :=
  if dataAlloc = true ∧ 0 < r.size + tail.toNat then
    (.status hdfSuccess,some ⟨List.replicate head.toNat 0 ++ r.head,r.data,
      List.replicate (r.tail.length + tail.toNat) 0⟩)
  else (.status hdfFailure,some r)

/-- Memory is cleared when it is granted, as far as `memset_s` clears. -/
def serveRooms : BufCall → Option (Rooms UInt8) → BufAnswer × Option (Rooms UInt8)
  | .alloc nbAlloc dataAlloc fresh size, _ =>
    if nbAlloc && dataAlloc then
      (.made true,some ⟨[],[],if secureMemMaxLen < size.toNat then chunk fresh 0 size.toNat
        else List.replicate size.toNat 0⟩)
    else (.made false,none)
  | .free, _ => (.nothing,none)
  | .push id len, some r => serveShift (pushWay id) len r
  | .pop id len, some r => serveShift (popWay id) len r
  | .push _ _, none | .pop _ _, none => (.address none,none)
  | .write id pos data count, r =>
    (.nothing,r.map fun r => patched r id pos (chunk data 0 count))
  | .read id, r => (.content (r.elim [] fun r => segmentOf r id),r)
  | .resize dataAlloc _ head tail, some r => resized dataAlloc head tail r
  | .resize _ _ _ _, none => (.status hdfErrInvalidParam,none)

/-- The data of the second buffer goes into the tail of the first one, which `memcpy_s` has to take
as a destination even where nothing is copied. -/
def Joins (r c : Rooms UInt8) : Prop :=
  c.data.length ≤ r.tail.length ∧ 0 < r.tail.length ∧ r.tail.length ≤ secureMemMaxLen

instance (r c : Rooms UInt8) : Decidable (Joins r c) := inferInstanceAs (Decidable (_ ∧ _ ∧ _))

def joined (r c : Rooms UInt8) : Rooms UInt8 :=
  ⟨r.head,r.data ++ c.data,r.tail.drop c.data.length⟩

/-- Writes stay in the segment that they are for, and a buffer with new room is no larger than what
`memset_s` and `memcpy_s` take. -/
def Fitting : BufCall → Option (Rooms UInt8) → Prop
  | .write id pos _ count, some r => pos + count ≤ (segmentOf r id).length
  | .resize dataAlloc _ head tail, some r =>
    dataAlloc = true → head.toNat + r.size + tail.toNat ≤ secureMemMaxLen
  | _, _ => True

/-- A buffer and the rooms that it is. -/
structure Holds (nb : Option NetBuf) (r : Option (Rooms UInt8)) : Prop where
  same : nb.map NetBuf.rooms = r
  partition : ∀ buffer, nb = some buffer → buffer.Partition

/-- Rooms in a memory, by their lengths. -/
def roomsAt (mem : Bytes) (h d t : Nat) : Rooms UInt8 :=
  ⟨chunk mem 0 h,chunk mem h d,chunk mem (h + d) t⟩

theorem roomsAt_size (mem : Bytes) (h d t : Nat) : (roomsAt mem h d t).size = h + d + t := by
  simp [Rooms.size,roomsAt]

theorem roomsAt_dataToHead (mem : Bytes) (h d t n : Nat) (enough : n ≤ d) :
    (roomsAt mem h d t).moved n .dataToHead = roomsAt mem (h + n) (d - n) t := by
  obtain ⟨rest,rfl⟩ := Nat.exists_eq_add_of_le enough
  have front := chunk_append mem 0 h n
  rw [Nat.zero_add] at front
  simp only [Rooms.moved,roomsAt,take_chunk _ _ _ _ enough,drop_chunk _ _ _ _ enough,front,
    Nat.add_sub_cancel_left,Nat.add_assoc]

theorem roomsAt_headToData (mem : Bytes) (h d t n : Nat) (enough : n ≤ h) :
    (roomsAt mem h d t).moved n .headToData = roomsAt mem (h - n) (d + n) t := by
  obtain ⟨rest,rfl⟩ := Nat.exists_eq_add_of_le' enough
  have front := chunk_append mem rest n d
  simp only [Rooms.moved,roomsAt,chunk_length,Nat.add_sub_cancel,
    take_chunk _ _ _ _ (Nat.le_add_right rest n),drop_chunk _ _ _ _ (Nat.le_add_right rest n),
    Nat.add_sub_cancel_left,Nat.zero_add,front,Nat.add_comm d n,Nat.add_assoc]

theorem roomsAt_tailToData (mem : Bytes) (h d t n : Nat) (enough : n ≤ t) :
    (roomsAt mem h d t).moved n .tailToData = roomsAt mem h (d + n) (t - n) := by
  simp only [Rooms.moved,roomsAt,take_chunk _ _ _ _ enough,drop_chunk _ _ _ _ enough,chunk_append,
    Nat.add_assoc]

theorem roomsAt_dataToTail (mem : Bytes) (h d t n : Nat) (enough : n ≤ d) :
    (roomsAt mem h d t).moved n .dataToTail = roomsAt mem h (d - n) (t + n) := by
  obtain ⟨rest,rfl⟩ := Nat.exists_eq_add_of_le' enough
  have behind := chunk_append mem (h + rest) n t
  simp only [Rooms.moved,roomsAt,chunk_length,Nat.add_sub_cancel,
    take_chunk _ _ _ _ (Nat.le_add_right rest n),drop_chunk _ _ _ _ (Nat.le_add_right rest n),
    Nat.add_sub_cancel_left,Nat.add_comm t n,← Nat.add_assoc,behind]

theorem roomsAt_resized (fresh mem : Bytes) (h d t head tail : Nat) :
    roomsAt (copyBytes (copyBytes fresh 0 (fun _ => 0) 0 (head + (h + d + t) + tail)) head mem 0
        (h + d)) (h + head) d (t + tail) =
      ⟨List.replicate head 0 ++ chunk mem 0 h,chunk mem h d,List.replicate (t + tail) 0⟩ := by
  have front := chunk_append (copyBytes (copyBytes fresh 0 (fun _ => 0) 0
    (head + (h + d + t) + tail)) head mem 0 (h + d)) 0 head h
  rw [Nat.zero_add,Nat.add_comm head h] at front
  unfold roomsAt
  rw [← front,chunk_copyBytes_before _ _ _ _ _ _ _ (Nat.zero_add head).le,
    chunk_copyBytes_inside _ _ _ _ _ _ _ (Nat.le_refl 0) (by omega),chunk_const,
    chunk_copyBytes_inside _ _ _ _ _ _ _ (Nat.le_refl head) (by omega),
    chunk_copyBytes_inside _ _ _ _ _ _ _ (Nat.le_add_left head h) (by omega),
    chunk_copyBytes_behind _ _ _ _ _ _ _ (by omega),
    chunk_copyBytes_inside _ _ _ _ _ _ _ (Nat.zero_le _) (by omega),chunk_const,Nat.sub_self,
    Nat.add_sub_cancel,Nat.zero_add,Nat.zero_add]

namespace NetBuf

/-- A boundary is moved. -/
def shifted (nb : NetBuf) (len : UInt32) : Shift → NetBuf
  | .dataToHead => {nb with
      headBuf := {nb.headBuf with len := nb.headBuf.len + len}
      dataBuf := ⟨nb.dataBuf.offset + len,nb.dataBuf.len - len⟩
      dataLen := nb.dataLen - len}
  | .headToData => {nb with
      headBuf := {nb.headBuf with len := nb.headBuf.len - len}
      dataBuf := ⟨nb.dataBuf.offset - len,nb.dataBuf.len + len⟩
      dataLen := nb.dataLen + len}
  | .tailToData => {nb with
      dataLen := nb.dataLen + len
      dataBuf := {nb.dataBuf with len := nb.dataBuf.len + len}
      tailBuf := ⟨nb.tailBuf.offset + len,nb.tailBuf.len - len⟩}
  | .dataToTail => {nb with
      dataBuf := {nb.dataBuf with len := nb.dataBuf.len - len}
      dataLen := nb.dataLen - len
      tailBuf := ⟨nb.tailBuf.offset - len,nb.tailBuf.len + len⟩}

/-- The room that the code compares the length with. -/
def giver (nb : NetBuf) : Shift → UInt32
  | .dataToHead | .dataToTail => nb.dataBuf.len
  | .headToData => nb.headBuf.len
  | .tailToData => nb.tailBuf.len

/-- What a push or a pop does. -/
def shiftBy (nb : NetBuf) (way : Option Shift) (len : UInt32) : Option UInt32 × NetBuf :=
  match way with
  | none => (some nb.dataBuf.offset,nb)
  | some way =>
    if nb.giver way < len then (none,nb)
    else (some (nb.shifted len way).dataBuf.offset,nb.shifted len way)

section Rooms
variable (nb : NetBuf) (partition : nb.Partition)

include partition in
theorem push_eq (id len : UInt32) : nb.netBufPush id len = nb.shiftBy (pushWay id) len := by
  obtain ⟨_,_,data_end,_,dataLen_eq⟩ := partition
  have counted : nb.dataLen < len → nb.dataBuf.len < len := fun few => dataLen_eq ▸ few
  have behind : nb.tailBuf.offset < len → nb.dataBuf.len < len := by
    simp only [UInt32.lt_iff_toNat_lt]
    omega
  unfold netBufPush pushWay
  split_ifs with head few data few tail few
  · exact (if_pos ((or_iff_left_of_imp counted).mp few)).symm
  · exact (if_neg (not_or.mp few).1).symm
  · exact (if_pos few).symm
  · exact (if_neg few).symm
  · exact (if_pos ((or_iff_left_of_imp fun few => few.elim counted behind).mp few)).symm
  · exact (if_neg (not_or.mp few).1).symm
  · rfl

include partition in
theorem pop_eq (id len : UInt32) : nb.netBufPop id len = nb.shiftBy (popWay id) len := by
  obtain ⟨_,head_len,_,_,dataLen_eq⟩ := partition
  have counted : nb.dataLen < len → nb.dataBuf.len < len := fun few => dataLen_eq ▸ few
  have before : nb.dataBuf.offset < len → nb.headBuf.len < len := fun few => head_len ▸ few
  unfold netBufPop popWay
  split_ifs with head few data few tail few
  · exact (if_pos ((or_iff_left_of_imp before).mp few)).symm
  · exact (if_neg (not_or.mp few).1).symm
  · exact (if_pos ((or_iff_right_of_imp counted).mp few)).symm
  · exact (if_neg (not_or.mp few).2).symm
  · exact (if_pos few).symm
  · exact (if_neg few).symm
  · rfl

include partition in
theorem rooms_eq : nb.rooms =
    roomsAt nb.mem nb.headBuf.len.toNat nb.dataBuf.len.toNat nb.tailBuf.len.toNat := by
  obtain ⟨head_start,head_len,data_end,_,_⟩ := partition
  have front : nb.segment eHeadBuf = chunk nb.mem nb.headBuf.offset.toNat nb.headBuf.len.toNat := rfl
  have middle : nb.segment eDataBuf = chunk nb.mem nb.dataBuf.offset.toNat nb.dataBuf.len.toNat := rfl
  have back : nb.segment eTailBuf = chunk nb.mem nb.tailBuf.offset.toNat nb.tailBuf.len.toNat := rfl
  unfold rooms roomsAt
  rw [front,middle,back,head_start,head_len,data_end]
  rfl

include partition in
theorem data_eq : nb.data = nb.rooms.data := by
  unfold data
  rw [partition.dataLen_eq]
  rfl

include partition in
theorem giver_length (way : Shift) : (nb.rooms.giver way).length = (nb.giver way).toNat := by
  rw [rooms_eq nb partition]
  cases way <;> simp [roomsAt,Rooms.giver,giver]

include partition in
theorem head_length : UInt32.ofNat nb.rooms.head.length = nb.dataBuf.offset := by
  rw [rooms_eq nb partition,← partition.head_len]
  simp [roomsAt]

include partition in
theorem size_eq : nb.rooms.size = nb.len.toNat := by
  have head_len := partition.head_len
  have data_end := partition.data_end
  have tail_end := partition.tail_end
  rw [rooms_eq nb partition,roomsAt_size,head_len]
  omega

include partition in
theorem shifted_rooms (len : UInt32) (way : Shift) (enough : len ≤ nb.giver way) :
    (nb.shifted len way).Partition ∧ (nb.shifted len way).rooms = nb.rooms.moved len.toNat way := by
  have le := UInt32.le_iff_toNat_le.mp enough
  have inside := size_eq nb partition
  rw [rooms_eq nb partition,roomsAt_size] at inside
  have whole : (nb.shifted len way).Partition := by
    cases way with
    | dataToHead => exact partition_headUp nb partition len enough
    | headToData => exact partition_headDown nb partition len enough
    | tailToData => exact partition_tailUp nb partition len enough
    | dataToTail => exact partition_tailDown nb partition len enough
  refine ⟨whole,?_⟩
  rw [rooms_eq _ whole,rooms_eq nb partition]
  cases way with
  | dataToHead =>
    dsimp only [shifted,giver] at le enough ⊢
    rw [roomsAt_dataToHead _ _ _ _ _ le,add_toNat _ _ nb.len (by omega),UInt32.toNat_sub_of_le _ _ enough]
  | headToData =>
    dsimp only [shifted,giver] at le enough ⊢
    rw [roomsAt_headToData _ _ _ _ _ le,add_toNat _ _ nb.len (by omega),UInt32.toNat_sub_of_le _ _ enough]
  | tailToData =>
    dsimp only [shifted,giver] at le enough ⊢
    rw [roomsAt_tailToData _ _ _ _ _ le,add_toNat _ _ nb.len (by omega),UInt32.toNat_sub_of_le _ _ enough]
  | dataToTail =>
    dsimp only [shifted,giver] at le enough ⊢
    rw [roomsAt_dataToTail _ _ _ _ _ le,add_toNat _ _ nb.len (by omega),UInt32.toNat_sub_of_le _ _ enough]

include partition in
theorem shiftBy_rooms (way : Option Shift) (len : UInt32) :
    (BufAnswer.address (nb.shiftBy way len).1,some (nb.shiftBy way len).2.rooms) =
        serveShift way len nb.rooms ∧ (nb.shiftBy way len).2.Partition := by
  cases way with
  | none =>
    refine ⟨?_,partition⟩
    simp only [shiftBy,serveShift,dataAddress,head_length nb partition]
  | some way =>
    have length := giver_length nb partition way
    by_cases few : nb.giver way < len
    · have less : ¬ len.toNat ≤ (nb.rooms.giver way).length := by
        rw [length]
        exact Nat.not_le.mpr (UInt32.lt_iff_toNat_lt.mp few)
      simp only [shiftBy,serveShift,if_pos few,if_neg less]
      exact ⟨trivial,partition⟩
    · have enough := UInt32.not_lt.mp few
      obtain ⟨whole,same⟩ := shifted_rooms nb partition len way enough
      have granted : len.toNat ≤ (nb.rooms.giver way).length := by
        rw [length]
        exact UInt32.le_iff_toNat_le.mp enough
      simp only [shiftBy,serveShift,if_neg few,if_pos granted,dataAddress,← same,
        head_length _ whole]
      exact ⟨trivial,whole⟩

theorem address_none {id : UInt32} (head : id ≠ eHeadBuf) (data : id ≠ eDataBuf)
    (tail : id ≠ eTailBuf) : nb.netBufGetAddress id = none := by
  have outside : ¬ id < maxBufNum := by
    unfold eHeadBuf at head
    unfold eDataBuf at data
    unfold eTailBuf at tail
    unfold maxBufNum
    simp only [UInt32.lt_iff_toNat_lt,ne_eq,← UInt32.toNat_inj] at head data tail ⊢
    simp at head data tail ⊢
    omega
  exact if_neg outside

theorem segment_eq (id : UInt32) : nb.segment id = segmentOf nb.rooms id := by
  unfold segmentOf
  split_ifs with head data tail
  · rw [head]
    rfl
  · rw [data]
    rfl
  · rw [tail]
    rfl
  · unfold segment
    rw [address_none nb head data tail]

include partition in
theorem fill_rooms (id : UInt32) (pos : Nat) (content : Bytes) (count : Nat)
    (fits : pos + count ≤ (segmentOf nb.rooms id).length) :
    (nb.fill id pos content count).rooms = patched nb.rooms id pos (chunk content 0 count) ∧
      (nb.fill id pos content count).Partition := by
  have written (offset : Nat) : let filled := {nb with mem := copyBytes nb.mem offset content 0 count}
      filled.rooms = roomsAt filled.mem nb.headBuf.len.toNat nb.dataBuf.len.toNat
        nb.tailBuf.len.toNat ∧ filled.Partition :=
    ⟨rooms_eq _ (partition_fill nb partition _),partition_fill nb partition _⟩
  have front : nb.headBuf.offset.toNat = 0 := by
    rw [partition.head_start]
    rfl
  have middle : nb.dataBuf.offset.toNat = nb.headBuf.len.toNat := by rw [partition.head_len]
  have back : nb.tailBuf.offset.toNat = nb.headBuf.len.toNat + nb.dataBuf.len.toNat := by
    rw [← partition.data_end,middle]
  have here := rooms_eq nb partition
  unfold segmentOf at fits
  unfold patched
  rw [here] at fits ⊢
  split_ifs at fits ⊢ with head data tail
  · obtain ⟨same,whole⟩ := written (nb.headBuf.offset.toNat + pos)
    obtain rfl := head
    refine ⟨same.trans ?_,whole⟩
    rw [front]
    simp only [roomsAt,chunk_length] at fits ⊢
    rw [chunk_copyBytes_within _ _ _ _ _ _ _ fits,chunk_copyBytes_behind _ _ _ _ _ _ _ (by omega),
      chunk_copyBytes_behind _ _ _ _ _ _ _ (by omega)]
  · obtain ⟨same,whole⟩ := written (nb.dataBuf.offset.toNat + pos)
    obtain rfl := data
    refine ⟨same.trans ?_,whole⟩
    rw [middle]
    simp only [roomsAt,chunk_length] at fits ⊢
    rw [chunk_copyBytes_before _ _ _ _ _ _ _ (by omega),chunk_copyBytes_within _ _ _ _ _ _ _ fits,
      chunk_copyBytes_behind _ _ _ _ _ _ _ (by omega)]
  · obtain ⟨same,whole⟩ := written (nb.tailBuf.offset.toNat + pos)
    obtain rfl := tail
    refine ⟨same.trans ?_,whole⟩
    rw [back]
    simp only [roomsAt,chunk_length] at fits ⊢
    rw [chunk_copyBytes_before _ _ _ _ _ _ _ (by omega),
      chunk_copyBytes_before _ _ _ _ _ _ _ (by omega),chunk_copyBytes_within _ _ _ _ _ _ _ fits]
  · have done : nb.fill id pos content count = nb := by
      unfold fill
      rw [address_none nb head data tail]
    rw [done]
    exact ⟨here,partition⟩

/-- Room that is granted within the limits is cleared and gets the old bytes. -/
theorem resize_cleared (fresh : Bytes) (head tail : UInt32) (copies : nb.Copies tail)
    (small : head.toNat + nb.len.toNat + tail.toNat ≤ secureMemMaxLen) :
    (nb.netBufResizeRoom true fresh head tail).status = hdfSuccess ∧
      (nb.netBufResizeRoom true fresh head tail).nb = nb.roomMoved (copyBytes
        (copyBytes fresh 0 (fun _ => 0) 0 (head.toNat + nb.len.toNat + tail.toNat)) head.toNat nb.mem
          0 nb.tailBuf.offset.toNat) head tail := by
  obtain ⟨some_room,limit,enough⟩ := copies
  have size : (head + nb.len + tail).toNat = head.toNat + nb.len.toNat + tail.toNat := by
    unfold secureMemMaxLen at small
    rw [size_toNat,Nat.mod_eq_of_lt (by omega)]
  have usable : ¬ (nb.copyRoom tail = 0 ∨ secureMemMaxLen < nb.copyRoom tail) := by omega
  unfold netBufResizeRoom roomMoved
  dsimp only
  rw [size_sub_head,size,if_neg (by simp),if_neg (Nat.not_lt.mpr small)]
  unfold memcpyS
  rw [if_neg usable,if_neg (by omega : ¬ nb.copyRoom tail < nb.tailBuf.offset.toNat),if_neg (by simp)]
  exact ⟨rfl,rfl⟩

include partition in
theorem resize_rooms (dataAlloc : Bool) (fresh : Bytes) (head tail : UInt32)
    (within : dataAlloc = true → head.toNat + nb.rooms.size + tail.toNat ≤ secureMemMaxLen) :
    (BufAnswer.status (nb.netBufResizeRoom dataAlloc fresh head tail).status,
        some (nb.netBufResizeRoom dataAlloc fresh head tail).nb.rooms) =
        resized dataAlloc head tail nb.rooms ∧
      (nb.netBufResizeRoom dataAlloc fresh head tail).nb.Partition := by
  have sum := size_eq nb partition
  have size_rooms := sum
  rw [rooms_eq nb partition,roomsAt_size] at size_rooms
  rw [sum] at within
  have whole : (nb.netBufResizeRoom dataAlloc fresh head tail).nb.Partition := by
    apply partition_resize nb partition
    intro granted
    have small := within granted
    unfold secureMemMaxLen at small
    exact .inl (by omega)
  refine ⟨?_,whole⟩
  unfold resized
  rw [sum]
  cases dataAlloc with
  | false => simp [resize_unallocated]
  | true =>
    have small := within rfl
    have lt : head.toNat + nb.len.toNat + tail.toNat < 2^32 := by
      unfold secureMemMaxLen at small
      omega
    have room : nb.copyRoom tail = nb.len.toNat + tail.toNat := Nat.mod_eq_of_lt (by omega)
    by_cases some_byte : 0 < nb.len.toNat + tail.toNat
    · have inside := partition.tail_end
      have copies : nb.Copies tail := by
        unfold Copies
        rw [room]
        exact ⟨some_byte,by omega,by omega⟩
      obtain ⟨status,same⟩ := resize_cleared nb fresh head tail copies small
      rw [same] at whole
      rw [status,same,if_pos ⟨rfl,some_byte⟩,rooms_eq _ whole,rooms_eq nb partition]
      have before : (nb.headBuf.len + head).toNat = nb.headBuf.len.toNat + head.toNat := by
        rw [UInt32.toNat_add,Nat.mod_eq_of_lt (by omega)]
      have behind : (nb.tailBuf.len + tail).toNat = nb.tailBuf.len.toNat + tail.toNat := by
        rw [UInt32.toNat_add,Nat.mod_eq_of_lt (by omega)]
      have copied : nb.tailBuf.offset.toNat = nb.headBuf.len.toNat + nb.dataBuf.len.toNat := by omega
      unfold roomMoved
      dsimp only
      rw [before,behind,copied,partition.dataLen_eq,← size_rooms,roomsAt_resized]
      simp [roomsAt]
    · have refused : ¬ nb.Copies tail := fun copies => some_byte (room ▸ copies.1)
      rw [resize_refused nb fresh head tail refused,if_neg (fun granted => some_byte granted.2)]

end Rooms

/-- A new buffer is all tail. -/
theorem alloc_rooms (nbAlloc dataAlloc : Bool) (fresh : Bytes) (size : UInt32) :
    (netBufAlloc nbAlloc dataAlloc fresh size).map rooms =
      if nbAlloc && dataAlloc then
        some ⟨[],[],if secureMemMaxLen < size.toNat then chunk fresh 0 size.toNat
          else List.replicate size.toNat 0⟩
      else none := by
  unfold netBufAlloc
  cases nbAlloc with
  | false => rfl
  | true =>
    cases dataAlloc with
    | false => rfl
    | true =>
      have whole := partition_reachable _ (.alloc true true fresh size _ rfl)
      simp only [Bool.and_self,if_true,Bool.true_eq_false,if_false,Option.map_some]
      rw [rooms_eq _ whole]
      unfold roomsAt
      dsimp only
      split_ifs with large
      · simp [chunk]
      · simp [chunk_const]

theorem holds_some {nb : NetBuf} {r : Rooms UInt8} (whole : nb.Partition) (same : nb.rooms = r) :
    Holds (some nb) (some r) :=
  ⟨congrArg some same,fun _ here => Option.some.inj here ▸ whole⟩

theorem holds_none : Holds none none := ⟨rfl,fun _ here => nomatch here⟩

theorem served_some {nb : NetBuf} {answer : BufAnswer} {done : BufAnswer × Option (Rooms UInt8)}
    (same : (answer,some nb.rooms) = done) (whole : nb.Partition) :
    answer = done.1 ∧ Holds (some nb) done.2 := by
  subst same
  exact ⟨rfl,holds_some whole rfl⟩

/-- Each call on a buffer is one on its rooms. -/
theorem serve_refines (call : BufCall) (nb : Option NetBuf) (r : Option (Rooms UInt8))
    (holds : Holds nb r) (within : Fitting call r) :
    (serve call nb).1 = (serveRooms call r).1 ∧ Holds (serve call nb).2 (serveRooms call r).2 := by
  obtain ⟨rfl,partition⟩ := holds
  cases call with
  | alloc nbAlloc dataAlloc fresh size =>
    have same := alloc_rooms nbAlloc dataAlloc fresh size
    have whole : ∀ buffer, netBufAlloc nbAlloc dataAlloc fresh size = some buffer →
        buffer.Partition := fun buffer made => partition_reachable buffer (.alloc _ _ _ _ _ made)
    have answered : (netBufAlloc nbAlloc dataAlloc fresh size).isSome = (nbAlloc && dataAlloc) := by
      cases nbAlloc <;> cases dataAlloc <;> rfl
    dsimp only [serve,serveRooms]
    rw [answered]
    by_cases granted : (nbAlloc && dataAlloc) = true
    · rw [if_pos granted] at same ⊢
      exact ⟨congrArg _ granted,same,whole⟩
    · rw [if_neg granted] at same ⊢
      exact ⟨congrArg _ (eq_false_of_ne_true granted),same,whole⟩
  | free => exact ⟨rfl,holds_none⟩
  | push id len =>
    cases nb with
    | none => exact ⟨rfl,holds_none⟩
    | some nb =>
      have whole := partition nb rfl
      obtain ⟨same,next⟩ := shiftBy_rooms nb whole (pushWay id) len
      rw [← push_eq nb whole] at same next
      exact served_some same next
  | pop id len =>
    cases nb with
    | none => exact ⟨rfl,holds_none⟩
    | some nb =>
      have whole := partition nb rfl
      obtain ⟨same,next⟩ := shiftBy_rooms nb whole (popWay id) len
      rw [← pop_eq nb whole] at same next
      exact served_some same next
  | write id pos content count =>
    cases nb with
    | none => exact ⟨rfl,holds_none⟩
    | some nb =>
      obtain ⟨same,next⟩ := fill_rooms nb (partition nb rfl) id pos content count within
      exact ⟨rfl,holds_some next same⟩
  | read id =>
    cases nb with
    | none => exact ⟨rfl,holds_none⟩
    | some nb => exact ⟨congrArg _ (segment_eq nb id),holds_some (partition nb rfl) rfl⟩
  | resize dataAlloc fresh head tail =>
    cases nb with
    | none => exact ⟨rfl,holds_none⟩
    | some nb =>
      obtain ⟨same,next⟩ := resize_rooms nb (partition nb rfl) dataAlloc fresh head tail within
      exact served_some same next

theorem concat_rooms {nb cnb : NetBuf} (whole : nb.Partition) (other : cnb.Partition) :
    (Joins nb.rooms cnb.rooms → ∃ next : NetBuf, nb.netBufConcat cnb = (hdfSuccess,next,none) ∧
        next.Partition ∧ next.rooms = joined nb.rooms cnb.rooms) ∧
      (¬ Joins nb.rooms cnb.rooms → nb.netBufConcat cnb = (hdfFailure,nb,some cnb)) := by
  have room : nb.rooms.tail.length = nb.tailBuf.len.toNat := by
    rw [rooms_eq nb whole]
    exact chunk_length _ _ _
  have given : cnb.rooms.data = chunk cnb.mem cnb.dataBuf.offset.toNat cnb.dataLen.toNat :=
    (data_eq cnb other).symm
  have length : cnb.rooms.data.length = cnb.dataLen.toNat := by
    rw [given]
    exact chunk_length _ _ _
  have copies := memcpyS_eok_iff nb.mem nb.tailBuf.offset.toNat nb.tailBuf.len.toNat cnb.mem
    cnb.dataBuf.offset.toNat cnb.dataLen.toNat
  have joins : Joins nb.rooms cnb.rooms ↔ (memcpyS nb.mem nb.tailBuf.offset.toNat
      nb.tailBuf.len.toNat cnb.mem cnb.dataBuf.offset.toNat cnb.dataLen.toNat).1 = eok := by
    unfold Joins
    rw [copies,room,length]
    omega
  constructor
  · intro fits
    obtain ⟨enough,some_room,limit⟩ := fits
    rw [room] at enough some_room limit
    rw [length] at enough
    have few : ¬ nb.tailBuf.len < cnb.dataLen := by
      rw [UInt32.not_lt,UInt32.le_iff_toNat_le]
      exact enough
    have copied : memcpyS nb.mem nb.tailBuf.offset.toNat nb.tailBuf.len.toNat cnb.mem
        cnb.dataBuf.offset.toNat cnb.dataLen.toNat = (eok,copyBytes nb.mem nb.tailBuf.offset.toNat
          cnb.mem cnb.dataBuf.offset.toNat cnb.dataLen.toNat) := by
      unfold memcpyS
      rw [if_neg (by omega),if_neg (Nat.not_lt.mpr enough)]
    have filled := partition_fill nb whole (copyBytes nb.mem nb.tailBuf.offset.toNat cnb.mem
      cnb.dataBuf.offset.toNat cnb.dataLen.toNat)
    obtain ⟨next,moved⟩ := shifted_rooms _ filled cnb.dataLen .tailToData (UInt32.not_lt.mp few)
    refine ⟨_,?_,next,?_⟩
    · unfold netBufConcat
      rw [if_neg few,copied]
      dsimp only
      rw [if_neg (by simp),push_eq _ filled]
      exact congrArg (fun done : Option UInt32 × NetBuf => (hdfSuccess,done.2,none)) (if_neg few)
    · have behind : nb.tailBuf.offset.toNat = nb.headBuf.len.toNat + nb.dataBuf.len.toNat := by
        rw [← whole.data_end,whole.head_len]
      rw [moved,rooms_eq _ filled,roomsAt_tailToData _ _ _ _ _ enough,rooms_eq nb whole]
      unfold joined
      rw [length,given]
      dsimp only [roomsAt]
      rw [drop_chunk _ _ _ _ enough,← chunk_append,behind,
        chunk_copyBytes_before _ _ _ _ _ _ _ (by omega),
        chunk_copyBytes_before _ _ _ _ _ _ _ (Nat.le_refl _),chunk_copyBytes_self,
        chunk_copyBytes_behind _ _ _ _ _ _ _ (by omega),Nat.add_assoc]
  · intro unfit
    have failing : hdfFailure ≠ hdfSuccess := by decide
    have status : (nb.netBufConcat cnb).1 = hdfFailure := by
      unfold netBufConcat
      dsimp only
      by_cases few : nb.tailBuf.len < cnb.dataLen
      · rw [if_pos few]
      · rw [if_neg few,if_pos fun copied => unfit (joins.mpr copied)]
    have kept := concat_refused nb cnb (status ▸ failing)
    exact Prod.ext status kept

end NetBuf

/-- The calls on buffers with names. -/
inductive PoolCall (ι : Type)
  | on (i : ι) (call : BufCall)
  | concat (i j : ι)

section Pool
variable {ι : Type} [DecidableEq ι]

def NetBuf.poolStep (call : PoolCall ι) (s : ι → Option NetBuf) :
    BufAnswer × (ι → Option NetBuf) :=
  match call with
  | .on i call => ((serve call (s i)).1,Function.update s i (serve call (s i)).2)
  | .concat i j =>
    match s i, s j with
    | some nb, some cnb =>
      let done := nb.netBufConcat cnb
      (.status done.1,Function.update (Function.update s i (some done.2.1)) j done.2.2)
    | _, _ => (.status hdfErrInvalidParam,s)

def roomsStep (call : PoolCall ι) (v : ι → Option (Rooms UInt8)) :
    BufAnswer × (ι → Option (Rooms UInt8)) :=
  match call with
  | .on i call => ((serveRooms call (v i)).1,Function.update v i (serveRooms call (v i)).2)
  | .concat i j =>
    match v i, v j with
    | some r, some c =>
      if Joins r c then
        (.status hdfSuccess,Function.update (Function.update v i (some (joined r c))) j none)
      else (.status hdfFailure,v)
    | _, _ => (.status hdfErrInvalidParam,v)

/-- No buffer is joined to itself. -/
def PoolCall.Allowed (call : PoolCall ι) (v : ι → Option (Rooms UInt8)) : Prop :=
  match call with
  | .on i call => Fitting call (v i)
  | .concat i j => i ≠ j

theorem NetBuf.poolStep_refines (call : PoolCall ι) (s : ι → Option NetBuf)
    (v : ι → Option (Rooms UInt8)) (holds : ∀ i, Holds (s i) (v i)) (allowed : call.Allowed v) :
    (poolStep call s).1 = (roomsStep call v).1 ∧
      ∀ i, Holds ((poolStep call s).2 i) ((roomsStep call v).2 i) := by
  cases call with
  | on i call =>
    obtain ⟨answer,next⟩ := serve_refines call (s i) (v i) (holds i) allowed
    refine ⟨answer,fun k => ?_⟩
    dsimp only [poolStep,roomsStep]
    by_cases same : k = i
    · rw [same,Function.update_self,Function.update_self]
      exact next
    · rw [Function.update_of_ne same,Function.update_of_ne same]
      exact holds k
  | concat i j =>
    have different : i ≠ j := allowed
    obtain ⟨first,whole⟩ := holds i
    obtain ⟨second,other⟩ := holds j
    dsimp only [poolStep,roomsStep]
    rw [← first,← second]
    cases here : s i with
    | none => exact ⟨rfl,holds⟩
    | some nb =>
      cases there : s j with
      | none => exact ⟨rfl,holds⟩
      | some cnb =>
        obtain ⟨fitting,unfitting⟩ := concat_rooms (whole nb here) (other cnb there)
        dsimp only [Option.map_some]
        by_cases joins : Joins nb.rooms cnb.rooms
        · obtain ⟨next,done,sound,rooms⟩ := fitting joins
          rw [if_pos joins,done]
          refine ⟨rfl,fun k => ?_⟩
          dsimp only
          by_cases last : k = j
          · rw [last,Function.update_self,Function.update_self]
            exact holds_none
          · rw [Function.update_of_ne last,Function.update_of_ne last]
            by_cases same : k = i
            · rw [same,Function.update_self,Function.update_self]
              exact holds_some sound rooms
            · rw [Function.update_of_ne same,Function.update_of_ne same]
              exact holds k
        · rw [if_neg joins,unfitting joins]
          dsimp only
          rw [← here,← there,Function.update_eq_self,Function.update_eq_self]
          exact ⟨rfl,holds⟩

/-- In every order of calls on any buffers, each of them is the bytes in its three rooms: what the
calls answer and what is left of every buffer is what the rooms give. -/
theorem NetBuf.pool_roomed (calls : List (PoolCall ι)) (s : ι → Option NetBuf)
    (partitioned : ∀ i nb, s i = some nb → nb.Partition)
    (allowed : Machine.MeetsAll roomsStep PoolCall.Allowed calls fun i => (s i).map rooms) :
    (Machine.run poolStep calls s).1 = (Machine.run roomsStep calls fun i => (s i).map rooms).1 ∧
      (fun i => ((Machine.run poolStep calls s).2 i).map rooms) =
        (Machine.run roomsStep calls fun i => (s i).map rooms).2 := by
  obtain ⟨answers,last⟩ := Machine.run_simulates poolStep roomsStep PoolCall.Allowed id
    (fun s v => ∀ i, Holds (s i) (v i))
    (fun call s v holds allowed => poolStep_refines call s v holds allowed) calls s _
    (fun i => ⟨rfl,partitioned i⟩) allowed
  rw [List.map_id] at answers
  exact ⟨answers,funext fun i => (last i).same⟩

end Pool

/-- The data of a buffer is joined to that of another one. -/
def gather : List (PoolCall Bool) :=
  [.on false (.alloc true true (fun _ => 9) 8),.on false (.push eDataBuf 2),
    .on true (.alloc true true (fun _ => 9) 4),.on true (.push eDataBuf 1),
    .on true (.write eDataBuf 0 (fun _ => 5) 1),.concat false true,.on false (.read eDataBuf)]

theorem NetBuf.pool_roomed_gather :
    (Machine.run poolStep gather fun _ => none).1 =
      (Machine.run roomsStep gather fun _ => none).1 := by
  have fits : Fitting (.write eDataBuf 0 (fun _ => 5) 1) (some ⟨[],[0],[0,0,0]⟩) := Nat.le_refl 1
  have met : Machine.MeetsAll roomsStep PoolCall.Allowed gather fun _ => none :=
    ⟨trivial,trivial,trivial,trivial,fits,Bool.false_ne_true,trivial,trivial⟩
  exact (pool_roomed gather (fun _ => none) (fun _ _ none => nomatch none) met).1

structure Header where
  bytes : Bytes
  len : UInt32

namespace Header

def content (h : Header) : Block := chunk h.bytes 0 h.len.toNat

/-- A protocol takes room in front of the data and writes its header there. -/
def wrap (h : Header) : List BufCall := [.pop eHeadBuf h.len,.write eDataBuf 0 h.bytes h.len.toNat]

/-- A protocol reads its header at the front and gives the room back. -/
def strip (h : Header) : List BufCall := [.read eDataBuf,.push eHeadBuf h.len]

def room (headers : List Header) : Nat := (headers.map fun h => h.len.toNat).sum

/-- The last header is the outermost. -/
def framed (headers : List Header) (payload : Block) : Block :=
  headers.reverse.flatMap content ++ payload

theorem framed_append (inner outer : List Header) (payload : Block) :
    framed (inner ++ outer) payload = outer.reverse.flatMap content ++ framed inner payload := by
  simp [framed]

theorem content_length (h : Header) : h.content.length = h.len.toNat := chunk_length _ _ _

theorem wrap_one (h : Header) (r : Rooms UInt8) (enough : h.len.toNat ≤ r.head.length) :
    Machine.MeetsAll serveRooms Fitting h.wrap (some r) ∧
      Machine.run serveRooms h.wrap (some r) = ([dataAddress (r.moved h.len.toNat .headToData),
        .nothing],some ⟨r.head.take (r.head.length - h.len.toNat),h.content ++ r.data,r.tail⟩) := by
  have opened : serveRooms (.pop eHeadBuf h.len) (some r) =
      (dataAddress (r.moved h.len.toNat .headToData),some (r.moved h.len.toNat .headToData)) :=
    if_pos enough
  have length : (r.head.drop (r.head.length - h.len.toNat)).length = h.content.length := by
    rw [List.length_drop,content_length]
    omega
  have written : patched (r.moved h.len.toNat .headToData) eDataBuf 0 h.content =
      ⟨r.head.take (r.head.length - h.len.toNat),h.content ++ r.data,r.tail⟩ := by
    unfold patched patch
    rw [if_neg (by decide),if_pos rfl]
    simp only [Rooms.moved,List.take_zero,List.nil_append,Nat.zero_add]
    rw [List.drop_left' length]
  refine ⟨⟨trivial,?_,trivial⟩,?_⟩
  · rw [opened]
    have inside : 0 + h.len.toNat ≤ (r.moved h.len.toNat .headToData).data.length := by
      simp only [Rooms.moved,List.length_append,length,content_length]
      omega
    exact inside
  · simp only [wrap,Machine.run,opened]
    dsimp only [serveRooms,Option.map_some]
    rw [← written]
    rfl

theorem strip_one (h : Header) (front inner tail : Block) :
    Machine.MeetsAll serveRooms Fitting h.strip (some ⟨front,h.content ++ inner,tail⟩) ∧
      Machine.run serveRooms h.strip (some ⟨front,h.content ++ inner,tail⟩) =
        ([.content (h.content ++ inner),dataAddress ⟨front ++ h.content,inner,tail⟩],
          some ⟨front ++ h.content,inner,tail⟩) := by
  have closed : serveRooms (.push eHeadBuf h.len) (some ⟨front,h.content ++ inner,tail⟩) =
      (dataAddress ⟨front ++ h.content,inner,tail⟩,some ⟨front ++ h.content,inner,tail⟩) := by
    have moved := Rooms.moved_prefix front h.content inner tail
    rw [content_length] at moved
    rw [← moved]
    have enough : h.len.toNat ≤ (h.content ++ inner).length := by
      rw [List.length_append,content_length]
      omega
    exact if_pos enough
  refine ⟨⟨trivial,trivial,trivial⟩,?_⟩
  simp only [strip,Machine.run]
  rw [show serveRooms (.read eDataBuf) (some ⟨front,h.content ++ inner,tail⟩) =
    (.content (h.content ++ inner),some ⟨front,h.content ++ inner,tail⟩) from rfl,closed]

theorem wrap_all (headers : List Header) (r : Rooms UInt8)
    (enough : room headers ≤ r.head.length) :
    Machine.MeetsAll serveRooms Fitting (headers.flatMap wrap) (some r) ∧
      ∃ front : Block, front.length + room headers = r.head.length ∧
        (Machine.run serveRooms (headers.flatMap wrap) (some r)).2 =
          some ⟨front,framed headers r.data,r.tail⟩ ∧
        .address none ∉ (Machine.run serveRooms (headers.flatMap wrap) (some r)).1 := by
  induction headers generalizing r with
  | nil => exact ⟨trivial,r.head,by simp [room],rfl,by simp [Machine.run]⟩
  | cons h rest ih =>
    have sum : room (h::rest) = h.len.toNat + room rest := by simp [room]
    rw [sum] at enough
    obtain ⟨met,first⟩ := wrap_one h r (by omega)
    have left : (r.head.take (r.head.length - h.len.toNat)).length =
        r.head.length - h.len.toNat := by simp
    obtain ⟨later,front,length,last,granted⟩ :=
      ih ⟨r.head.take (r.head.length - h.len.toNat),h.content ++ r.data,r.tail⟩
        (by dsimp only; omega)
    have frame : framed rest (h.content ++ r.data) = framed (h::rest) r.data := by simp [framed]
    dsimp only at length last
    rw [List.flatMap_cons,Machine.meetsAll_append,Machine.run_append,Machine.run_answers_append,
      first]
    refine ⟨⟨met,later⟩,front,by omega,by rw [last,frame],?_⟩
    simp only [List.mem_append,List.mem_cons,dataAddress]
    simpa using granted

theorem strip_all (headers : List Header) (front inner tail : Block) :
    Machine.MeetsAll serveRooms Fitting (headers.flatMap strip)
        (some ⟨front,headers.flatMap content ++ inner,tail⟩) ∧
      ∃ wide : Block, wide.length = front.length + room headers ∧
        (Machine.run serveRooms (headers.flatMap strip)
          (some ⟨front,headers.flatMap content ++ inner,tail⟩)).2 = some ⟨wide,inner,tail⟩ ∧
        .address none ∉ (Machine.run serveRooms (headers.flatMap strip)
          (some ⟨front,headers.flatMap content ++ inner,tail⟩)).1 := by
  induction headers generalizing front with
  | nil => exact ⟨trivial,front,rfl,rfl,by simp [Machine.run]⟩
  | cons h rest ih =>
    have sum : room (h::rest) = h.len.toNat + room rest := by simp [room]
    obtain ⟨met,first⟩ := strip_one h front (rest.flatMap content ++ inner) tail
    obtain ⟨later,wide,length,last,granted⟩ := ih (front ++ h.content)
    rw [List.length_append,content_length] at length
    rw [List.flatMap_cons,List.flatMap_cons,List.append_assoc,Machine.meetsAll_append,
      Machine.run_append,Machine.run_answers_append,first]
    refine ⟨⟨met,later⟩,wide,by omega,last,?_⟩
    simp only [List.mem_append,List.mem_cons,dataAddress]
    simpa using granted

end Header

namespace NetBuf

/-- A run that meets the conditions on the rooms leads to a buffer with what the rooms have. -/
theorem run_rooms (calls : List BufCall) (nb : NetBuf) (whole : nb.Partition) (r : Rooms UInt8)
    (met : Machine.MeetsAll serveRooms Fitting calls (some nb.rooms))
    (done : (Machine.run serveRooms calls (some nb.rooms)).2 = some r) :
    (Machine.run serve calls (some nb)).1 = (Machine.run serveRooms calls (some nb.rooms)).1 ∧
      ∃ next, (Machine.run serve calls (some nb)).2 = some next ∧ next.Partition ∧ next.rooms = r := by
  obtain ⟨answers,last,sound⟩ := Machine.run_simulates serve serveRooms Fitting id Holds serve_refines
    calls (some nb) (some nb.rooms) (holds_some whole rfl) met
  rw [List.map_id] at answers
  rw [done] at last
  obtain ⟨next,here,rooms⟩ := Option.map_eq_some_iff.mp last
  exact ⟨answers,next,here,sound next here,rooms⟩

/-- Headers that a stack of protocols puts in front of the data come off one by one: with the outer
ones gone the data is that of the inner protocols, and the room in front is what it was for them. -/
theorem headers_stripped (nb : NetBuf) (whole : nb.Partition) (headers : List Header)
    (enough : Header.room headers ≤ nb.headBuf.len.toNat) :
    ∃ sent, (Machine.run serve (headers.flatMap Header.wrap) (some nb)).2 = some sent ∧
      sent.data = Header.framed headers nb.data ∧
      .address none ∉ (Machine.run serve (headers.flatMap Header.wrap) (some nb)).1 ∧
      ∀ inner outer, headers = inner ++ outer →
        ∃ got, (Machine.run serve (outer.reverse.flatMap Header.strip) (some sent)).2 = some got ∧
          got.data = Header.framed inner nb.data ∧
          got.headBuf.len.toNat + Header.room inner = nb.headBuf.len.toNat ∧
          .address none ∉
            (Machine.run serve (outer.reverse.flatMap Header.strip) (some sent)).1 := by
  have length : nb.rooms.head.length = nb.headBuf.len.toNat := giver_length nb whole .headToData
  obtain ⟨met,front,room,done,granted⟩ := Header.wrap_all headers nb.rooms (length ▸ enough)
  obtain ⟨answers,sent,here,sound,rooms⟩ := run_rooms _ nb whole _ met done
  refine ⟨sent,here,?_,answers ▸ granted,fun inner outer split => ?_⟩
  · rw [data_eq sent sound,rooms,data_eq nb whole]
  · obtain rfl := split
    rw [Header.framed_append] at rooms
    obtain ⟨met,wide,wider,done,granted⟩ := Header.strip_all outer.reverse front
      (Header.framed inner nb.rooms.data) nb.rooms.tail
    rw [← rooms] at met done granted
    obtain ⟨answers,got,here,sound,rooms⟩ := run_rooms _ sent sound _ met done
    have got_length : got.rooms.head.length = got.headBuf.len.toNat :=
      giver_length got sound .headToData
    rw [rooms] at got_length
    refine ⟨got,here,?_,?_,answers ▸ granted⟩
    · rw [data_eq got sound,rooms,data_eq nb whole]
    · have back : Header.room outer.reverse = Header.room outer := by simp [Header.room]
      have sum : Header.room (inner ++ outer) = Header.room inner + Header.room outer := by
        simp [Header.room]
      dsimp only at got_length
      omega

/-- Two bytes of room in front of no data. -/
def roomy : NetBuf := ((two 5).netBufPush eHeadBuf 2).2

theorem headers_stripped_roomy :
    ∃ sent, (Machine.run serve ([⟨fun _ => 1,1⟩,⟨fun _ => 2,1⟩].flatMap Header.wrap)
        (some roomy)).2 = some sent ∧ sent.data = [2,1] := by
  have whole := partition_push _ (partition_reachable _ (two_reachable 5)) eHeadBuf 2
  obtain ⟨sent,done,same,_⟩ := headers_stripped roomy whole [⟨fun _ => 1,1⟩,⟨fun _ => 2,1⟩]
    (Nat.le_refl 2)
  exact ⟨sent,done,same⟩

end NetBuf

end DriversAdapter.Net
