import DriversAdapter.Base.Memory
import DriversAdapter.Base.Word

/-! Network data buffers of the LiteOS adapter: head, data and tail share one memory, and
every operation moves a boundary between two of them. -/
namespace DriversAdapter.Net
open DriversAdapter.Base

structure BufField where
  offset : UInt32
  len : UInt32
  deriving DecidableEq

structure NetBuf where
  mem : Bytes
  len : UInt32
  dataLen : UInt32
  headBuf : BufField
  dataBuf : BufField
  tailBuf : BufField

def eHeadBuf : UInt32 := 0
def eDataBuf : UInt32 := 1
def eTailBuf : UInt32 := 2

/-- `memset_s` refuses a memory above its limit, which then stays as it was allocated. -/
def netBufAlloc (nbAlloc dataAlloc : Bool) (fresh : Bytes) (size : UInt32) : Option NetBuf :=
  if nbAlloc = false then none
  else if dataAlloc = false then none
  else some {
    mem := if secureMemMaxLen < size.toNat then fresh else fun _ => 0
    len := size
    dataLen := 0
    headBuf := ⟨0,0⟩
    dataBuf := ⟨0,0⟩
    tailBuf := ⟨0,size⟩}

namespace NetBuf

def netBufGetDataLen (nb : NetBuf) : UInt32 := nb.dataLen

/-- The offset of the data buffer on success, `none` on an error. -/
def netBufPush (nb : NetBuf) (id len : UInt32) : Option UInt32 × NetBuf :=
  if id = eHeadBuf then
    if nb.dataBuf.len < len ∨ nb.dataLen < len then (none,nb)
    else
      (some (nb.dataBuf.offset + len),{nb with
        headBuf := {nb.headBuf with len := nb.headBuf.len + len}
        dataBuf := ⟨nb.dataBuf.offset + len,nb.dataBuf.len - len⟩
        dataLen := nb.dataLen - len})
  else if id = eDataBuf then
    if nb.tailBuf.len < len then (none,nb)
    else
      (some nb.dataBuf.offset,{nb with
        dataLen := nb.dataLen + len
        dataBuf := {nb.dataBuf with len := nb.dataBuf.len + len}
        tailBuf := ⟨nb.tailBuf.offset + len,nb.tailBuf.len - len⟩})
  else if id = eTailBuf then
    if nb.dataBuf.len < len ∨ nb.dataLen < len ∨ nb.tailBuf.offset < len then (none,nb)
    else
      (some nb.dataBuf.offset,{nb with
        dataBuf := {nb.dataBuf with len := nb.dataBuf.len - len}
        dataLen := nb.dataLen - len
        tailBuf := ⟨nb.tailBuf.offset - len,nb.tailBuf.len + len⟩})
  else (some nb.dataBuf.offset,nb)

def netBufPop (nb : NetBuf) (id len : UInt32) : Option UInt32 × NetBuf :=
  if id = eHeadBuf then
    if nb.headBuf.len < len ∨ nb.dataBuf.offset < len then (none,nb)
    else
      (some (nb.dataBuf.offset - len),{nb with
        headBuf := {nb.headBuf with len := nb.headBuf.len - len}
        dataBuf := ⟨nb.dataBuf.offset - len,nb.dataBuf.len + len⟩
        dataLen := nb.dataLen + len})
  else if id = eDataBuf then
    if nb.dataLen < len ∨ nb.dataBuf.len < len then (none,nb)
    else
      (some (nb.dataBuf.offset + len),{nb with
        headBuf := {nb.headBuf with len := nb.headBuf.len + len}
        dataBuf := ⟨nb.dataBuf.offset + len,nb.dataBuf.len - len⟩
        dataLen := nb.dataLen - len})
  else if id = eTailBuf then
    if nb.tailBuf.len < len then (none,nb)
    else
      (some nb.dataBuf.offset,{nb with
        tailBuf := ⟨nb.tailBuf.offset + len,nb.tailBuf.len - len⟩
        dataBuf := {nb.dataBuf with len := nb.dataBuf.len + len}
        dataLen := nb.dataLen + len})
  else (some nb.dataBuf.offset,nb)

/-- The second buffer is freed on success. -/
def netBufConcat (nb cnb : NetBuf) : Int × NetBuf × Option NetBuf :=
  if nb.tailBuf.len < cnb.dataLen then (hdfFailure,nb,some cnb)
  else
    let copied := memcpyS nb.mem nb.tailBuf.offset.toNat nb.tailBuf.len.toNat cnb.mem
      cnb.dataBuf.offset.toNat cnb.dataLen.toNat
    if copied.1 ≠ eok then (hdfFailure,{nb with mem := copied.2},some cnb)
    else (hdfSuccess,(netBufPush {nb with mem := copied.2} eDataBuf cnb.dataLen).2,none)

/-- The buffers that allocation and the three operations lead to; the drivers fill the
memory in between. -/
inductive Reachable : NetBuf → Prop
  | alloc (nbAlloc dataAlloc fresh size nb)
      (allocated : netBufAlloc nbAlloc dataAlloc fresh size = some nb) : Reachable nb
  | fill (nb mem) : Reachable nb → Reachable {nb with mem := mem}
  | push (nb id len) : Reachable nb → Reachable (nb.netBufPush id len).2
  | pop (nb id len) : Reachable nb → Reachable (nb.netBufPop id len).2
  | concat (nb cnb) : Reachable nb → Reachable cnb → Reachable (nb.netBufConcat cnb).2.1

def data (nb : NetBuf) : Block := chunk nb.mem nb.dataBuf.offset.toNat nb.dataLen.toNat

/-- Head, data and tail lie one behind the other and fill the memory. -/
structure Partition (nb : NetBuf) : Prop where
  head_start : nb.headBuf.offset = 0
  head_len : nb.headBuf.len = nb.dataBuf.offset
  data_end : nb.dataBuf.offset.toNat + nb.dataBuf.len.toNat = nb.tailBuf.offset.toNat
  tail_end : nb.tailBuf.offset.toNat + nb.tailBuf.len.toNat = nb.len.toNat
  dataLen_eq : nb.dataLen = nb.dataBuf.len

theorem add_toNat (a b total : UInt32) (fits : a.toNat + b.toNat ≤ total.toNat) :
    (a + b).toNat = a.toNat + b.toNat := by
  have bound := total.toNat_lt
  rw [UInt32.toNat_add,Nat.mod_eq_of_lt (by omega)]

section Steps
variable (nb : NetBuf) (partition : nb.Partition)

include partition in
theorem partition_headUp (len : UInt32) (enough : len ≤ nb.dataBuf.len) :
    Partition {nb with
      headBuf := {nb.headBuf with len := nb.headBuf.len + len}
      dataBuf := ⟨nb.dataBuf.offset + len,nb.dataBuf.len - len⟩
      dataLen := nb.dataLen - len} := by
  obtain ⟨head_start,head_len,data_end,tail_end,dataLen_eq⟩ := partition
  have le := UInt32.le_iff_toNat_le.mp enough
  refine ⟨head_start,?_,?_,tail_end,?_⟩
  all_goals dsimp only
  · rw [head_len]
  · rw [add_toNat _ _ nb.len (by omega),UInt32.toNat_sub_of_le _ _ enough]
    omega
  · rw [dataLen_eq]

include partition in
theorem partition_headDown (len : UInt32) (enough : len ≤ nb.headBuf.len) :
    Partition {nb with
      headBuf := {nb.headBuf with len := nb.headBuf.len - len}
      dataBuf := ⟨nb.dataBuf.offset - len,nb.dataBuf.len + len⟩
      dataLen := nb.dataLen + len} := by
  obtain ⟨head_start,head_len,data_end,tail_end,dataLen_eq⟩ := partition
  rw [head_len] at enough
  have le := UInt32.le_iff_toNat_le.mp enough
  refine ⟨head_start,?_,?_,tail_end,?_⟩
  all_goals dsimp only
  · rw [head_len]
  · rw [add_toNat _ _ nb.len (by omega),UInt32.toNat_sub_of_le _ _ enough]
    omega
  · rw [dataLen_eq]

include partition in
theorem partition_tailUp (len : UInt32) (enough : len ≤ nb.tailBuf.len) :
    Partition {nb with
      dataLen := nb.dataLen + len
      dataBuf := {nb.dataBuf with len := nb.dataBuf.len + len}
      tailBuf := ⟨nb.tailBuf.offset + len,nb.tailBuf.len - len⟩} := by
  obtain ⟨head_start,head_len,data_end,tail_end,dataLen_eq⟩ := partition
  have le := UInt32.le_iff_toNat_le.mp enough
  refine ⟨head_start,head_len,?_,?_,?_⟩
  all_goals dsimp only
  · rw [add_toNat _ _ nb.len (by omega),add_toNat _ _ nb.len (by omega)]
    omega
  · rw [add_toNat _ _ nb.len (by omega),UInt32.toNat_sub_of_le _ _ enough]
    omega
  · rw [dataLen_eq]

include partition in
theorem partition_tailDown (len : UInt32) (enough : len ≤ nb.dataBuf.len) :
    Partition {nb with
      dataBuf := {nb.dataBuf with len := nb.dataBuf.len - len}
      dataLen := nb.dataLen - len
      tailBuf := ⟨nb.tailBuf.offset - len,nb.tailBuf.len + len⟩} := by
  obtain ⟨head_start,head_len,data_end,tail_end,dataLen_eq⟩ := partition
  have le := UInt32.le_iff_toNat_le.mp enough
  have reaches : len ≤ nb.tailBuf.offset := UInt32.le_iff_toNat_le.mpr (by omega)
  refine ⟨head_start,head_len,?_,?_,?_⟩
  all_goals dsimp only
  · rw [UInt32.toNat_sub_of_le _ _ enough,UInt32.toNat_sub_of_le _ _ reaches]
    omega
  · rw [add_toNat _ _ nb.len (by omega),UInt32.toNat_sub_of_le _ _ reaches]
    omega
  · rw [dataLen_eq]

include partition in
theorem partition_push (id len : UInt32) : (nb.netBufPush id len).2.Partition := by
  unfold netBufPush
  split_ifs with head refused data refused tail refused
  · exact partition
  · exact partition_headUp nb partition len (UInt32.not_lt.mp (not_or.mp refused).1)
  · exact partition
  · exact partition_tailUp nb partition len (UInt32.not_lt.mp refused)
  · exact partition
  · exact partition_tailDown nb partition len (UInt32.not_lt.mp (not_or.mp refused).1)
  · exact partition

include partition in
theorem partition_pop (id len : UInt32) : (nb.netBufPop id len).2.Partition := by
  unfold netBufPop
  split_ifs with head refused data refused tail refused
  · exact partition
  · exact partition_headDown nb partition len (UInt32.not_lt.mp (not_or.mp refused).1)
  · exact partition
  · exact partition_headUp nb partition len (UInt32.not_lt.mp (not_or.mp refused).2)
  · exact partition
  · exact partition_tailUp nb partition len (UInt32.not_lt.mp refused)
  · exact partition

include partition in
theorem partition_fill (mem : Bytes) : Partition {nb with mem := mem} :=
  ⟨partition.head_start,partition.head_len,partition.data_end,partition.tail_end,
    partition.dataLen_eq⟩

include partition in
theorem partition_concat (cnb : NetBuf) : (nb.netBufConcat cnb).2.1.Partition := by
  unfold netBufConcat
  split_ifs with refused
  · exact partition
  · dsimp only
    split_ifs
    · exact partition_fill nb partition _
    · exact partition_push _ (partition_fill nb partition _) _ _

theorem push_refused (id len : UInt32) (refused : (nb.netBufPush id len).1 = none) :
    (nb.netBufPush id len).2 = nb := by
  unfold netBufPush at refused ⊢
  split_ifs at refused ⊢ <;> rfl

theorem pop_refused (id len : UInt32) (refused : (nb.netBufPop id len).1 = none) :
    (nb.netBufPop id len).2 = nb := by
  unfold netBufPop at refused ⊢
  split_ifs at refused ⊢ <;> rfl

include partition in
theorem pop_push_head (len : UInt32) (pushed : (nb.netBufPush eHeadBuf len).1 ≠ none) :
    (nb.netBufPush eHeadBuf len).2.netBufPop eHeadBuf len = (some nb.dataBuf.offset,nb) := by
  obtain ⟨head_start,head_len,data_end,tail_end,dataLen_eq⟩ := partition
  unfold netBufPush at pushed ⊢
  rw [if_pos rfl] at pushed ⊢
  by_cases refused : nb.dataBuf.len < len ∨ nb.dataLen < len
  · rw [if_pos refused] at pushed
    exact absurd rfl pushed
  · rw [if_neg refused]
    have enough := UInt32.le_iff_toNat_le.mp (UInt32.not_lt.mp (not_or.mp refused).1)
    have moved : len ≤ nb.dataBuf.offset + len := by
      rw [UInt32.le_iff_toNat_le,add_toNat _ _ nb.len (by omega)]
      omega
    have allowed : ¬ (nb.headBuf.len + len < len ∨ nb.dataBuf.offset + len < len) := by
      rw [head_len,or_self]
      exact UInt32.not_lt.mpr moved
    unfold netBufPop
    dsimp only
    rw [if_pos rfl,if_neg allowed]
    simp only [UInt32.add_sub_cancel,UInt32.sub_add_cancel]

include partition in
theorem pop_push_tail (len : UInt32) (pushed : (nb.netBufPush eTailBuf len).1 ≠ none) :
    (nb.netBufPush eTailBuf len).2.netBufPop eTailBuf len = (some nb.dataBuf.offset,nb) := by
  obtain ⟨head_start,head_len,data_end,tail_end,dataLen_eq⟩ := partition
  unfold netBufPush at pushed ⊢
  rw [if_neg (by decide),if_neg (by decide),if_pos rfl] at pushed ⊢
  by_cases refused : nb.dataBuf.len < len ∨ nb.dataLen < len ∨ nb.tailBuf.offset < len
  · rw [if_pos refused] at pushed
    exact absurd rfl pushed
  · rw [if_neg refused]
    have enough := UInt32.le_iff_toNat_le.mp (UInt32.not_lt.mp (not_or.mp refused).1)
    have moved : len ≤ nb.tailBuf.len + len := by
      rw [UInt32.le_iff_toNat_le,add_toNat _ _ nb.len (by omega)]
      omega
    unfold netBufPop
    dsimp only
    rw [if_neg (by decide),if_neg (by decide),if_pos rfl,if_neg (UInt32.not_lt.mpr moved)]
    simp only [UInt32.add_sub_cancel,UInt32.sub_add_cancel]

/-- An error of the copy is one of its length, and comes before it writes. -/
theorem concat_refused (cnb : NetBuf) (refused : (nb.netBufConcat cnb).1 ≠ hdfSuccess) :
    (nb.netBufConcat cnb).2 = (nb,some cnb) := by
  unfold netBufConcat at refused ⊢
  split_ifs at refused ⊢ with full
  · rfl
  · have fits := UInt32.le_iff_toNat_le.mp (UInt32.not_lt.mp full)
    unfold memcpyS at refused ⊢
    rw [if_neg (Nat.not_lt.mpr fits)] at refused ⊢
    split_ifs at refused ⊢ with outside
    · dsimp only
      rw [if_pos (by decide)]
    · exact absurd rfl refused

theorem push_data (len : UInt32) (enough : ¬ nb.tailBuf.len < len) :
    (nb.netBufPush eDataBuf len).2 = {nb with
      dataLen := nb.dataLen + len
      dataBuf := {nb.dataBuf with len := nb.dataBuf.len + len}
      tailBuf := ⟨nb.tailBuf.offset + len,nb.tailBuf.len - len⟩} := by
  unfold netBufPush
  rw [if_neg (by decide),if_pos rfl,if_neg enough]

include partition in
/-- The bytes behind the data become data. -/
theorem data_push (len : UInt32) (enough : ¬ nb.tailBuf.len < len) :
    (nb.netBufPush eDataBuf len).2.data =
      nb.data ++ chunk nb.mem nb.tailBuf.offset.toNat len.toNat := by
  have fits := UInt32.le_iff_toNat_le.mp (UInt32.not_lt.mp enough)
  have data_end := partition.data_end
  have tail_end := partition.tail_end
  have dataLen_eq := partition.dataLen_eq
  rw [push_data nb len enough]
  unfold data
  dsimp only
  rw [dataLen_eq,add_toNat _ _ nb.len (by omega),← chunk_append,data_end]

include partition in
theorem concat_data (cnb : NetBuf) (joined : (nb.netBufConcat cnb).1 = hdfSuccess) :
    (nb.netBufConcat cnb).2.1.data = nb.data ++ cnb.data := by
  unfold netBufConcat at joined ⊢
  split_ifs at joined ⊢ with full
  · have impossible : hdfFailure = hdfSuccess := joined
    exact absurd impossible (by decide)
  · have fits := UInt32.le_iff_toNat_le.mp (UInt32.not_lt.mp full)
    unfold memcpyS at joined ⊢
    rw [if_neg (Nat.not_lt.mpr fits)] at joined ⊢
    split_ifs at joined ⊢ with outside
    · have impossible : hdfFailure = hdfSuccess := joined
      exact absurd impossible (by decide)
    · have behind := partition.dataLen_eq ▸ partition.data_end
      have copied := partition_fill nb partition
        (copyBytes nb.mem nb.tailBuf.offset.toNat cnb.mem cnb.dataBuf.offset.toNat cnb.dataLen.toNat)
      dsimp only
      rw [if_neg (not_not.mpr rfl)]
      refine (data_push _ copied cnb.dataLen full).trans ?_
      unfold data
      dsimp only
      rw [chunk_copyBytes_before _ _ _ _ _ _ _ (by omega),chunk_copyBytes_self]

end Steps

theorem partition_reachable (nb : NetBuf) (reached : nb.Reachable) : nb.Partition := by
  induction reached with
  | alloc nbAlloc dataAlloc fresh size nb allocated =>
    unfold netBufAlloc at allocated
    split_ifs at allocated <;> cases allocated <;> exact ⟨rfl,rfl,rfl,Nat.zero_add _,rfl⟩
  | fill nb mem _ ih => exact partition_fill nb ih mem
  | push nb id len _ ih => exact partition_push nb ih id len
  | pop nb id len _ ih => exact partition_pop nb ih id len
  | concat nb cnb _ _ ih _ => exact partition_concat nb ih cnb

/-- In every reachable buffer the regions partition the memory; errors change nothing, a
pop undoes a push, and a concatenation joins the data. -/
theorem operations_partition (nb : NetBuf) (reached : nb.Reachable) :
    nb.Partition ∧ nb.netBufGetDataLen = nb.dataBuf.len ∧
      (∀ id n, (nb.netBufPush id n).1 = none → (nb.netBufPush id n).2 = nb) ∧
      (∀ id n, (nb.netBufPop id n).1 = none → (nb.netBufPop id n).2 = nb) ∧
      (∀ id n, id = eHeadBuf ∨ id = eTailBuf → (nb.netBufPush id n).1 ≠ none →
        (nb.netBufPush id n).2.netBufPop id n = (some nb.dataBuf.offset,nb)) ∧
      ∀ cnb : NetBuf,
        ((nb.netBufConcat cnb).1 ≠ hdfSuccess → (nb.netBufConcat cnb).2 = (nb,some cnb)) ∧
        ((nb.netBufConcat cnb).1 = hdfSuccess →
          (nb.netBufConcat cnb).2.1.data = nb.data ++ cnb.data) := by
  have partition := partition_reachable nb reached
  refine ⟨partition,partition.dataLen_eq,push_refused nb,pop_refused nb,?_,?_⟩
  · rintro id n (rfl | rfl) pushed
    · exact pop_push_head nb partition n pushed
    · exact pop_push_tail nb partition n pushed
  · exact fun cnb => ⟨concat_refused nb cnb,concat_data nb partition cnb⟩

def two (byte : UInt8) : NetBuf :=
  ⟨fun _ => byte,4,2,⟨0,0⟩,⟨0,2⟩,⟨2,2⟩⟩

theorem two_reachable (byte : UInt8) : (two byte).Reachable :=
  .fill _ _ (.push _ eDataBuf 2 (.alloc true true (fun _ => 0) 4 _ rfl))

theorem operations_partition_two :
    ((two 5).netBufConcat (two 7)).1 = hdfSuccess ∧
      ((two 5).netBufConcat (two 7)).2.1.data = [5,5,7,7] := by
  refine ⟨rfl,?_⟩
  exact ((operations_partition (two 5) (two_reachable 5)).2.2.2.2.2 (two 7)).2 rfl

end NetBuf

end DriversAdapter.Net
