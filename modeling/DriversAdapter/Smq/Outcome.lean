import DriversAdapter.Smq.Copy

/-! One call without interference: what it returns and what it leaves in the mapping, in
natural numbers. The geometry a constructor admits keeps every 64-bit product exact. -/
namespace DriversAdapter.Smq
open DriversAdapter.Base DriversAdapter.Semantics DriversAdapter.Semantics.Program

variable {ι : Type} [DecidableEq ι]

/-- What a successful constructor has checked of the element count and size. -/
structure Constructed (q : SharedMemQueue) : Prop where
  count_le : q.metaData.getElementCount ≤ SharedMemQueueMeta.uint16Max
  size_lt : q.sizeofT < 2^32

namespace SharedMemQueue

/-- Both offsets that endpoint `i` uses are inside the ring. -/
structure InRing (q : SharedMemQueue) (i : ι) (s : Shared ι) : Prop where
  write_lt : s.writeOffset < q.metaData.getElementCount
  read_lt : s.readOffsetOf q.metaData.getType i < q.metaData.getElementCount

/-- The elements endpoint `i` has not read yet, oldest first. -/
def readable (q : SharedMemQueue) (i : ι) (s : Shared ι) : List Block :=
  let n := q.metaData.getElementCount
  let rOffset := s.readOffsetOf q.metaData.getType i
  Ring.window n (slot q.sizeofT s.queueBuffer) rOffset (Ring.ahead n rOffset s.writeOffset)

def occupancy (q : SharedMemQueue) (i : ι) (s : Shared ι) : Nat :=
  Ring.ahead q.metaData.getElementCount (s.readOffsetOf q.metaData.getType i) s.writeOffset

omit [DecidableEq ι] in
theorem readable_length (q : SharedMemQueue) (i : ι) (s : Shared ι) :
    (q.readable i s).length = q.occupancy i s := by
  simp [readable,occupancy]

def items (q : SharedMemQueue) (data : Bytes) (count : Nat) : List Block :=
  (List.range count).map (slot q.sizeofT data)

/-- What an endpoint computes from the offsets it has loaded. -/
def avalid (q : SharedMemQueue) (wOffset rOffset : Nat) : Nat :=
  if rOffset ≤ wOffset then sub64 wOffset rOffset
  else sub64 (u64 (wOffset + q.metaData.getElementCount)) rOffset

/-- The outcome of `WriteNonBlocking`, in natural numbers. -/
def writeOutcome (q : SharedMemQueue) (i : ι) (data : Bytes) (count : Nat) (s : Shared ι) :
    Int × Shared ι :=
  let n := q.metaData.getElementCount
  let size := q.sizeofT
  let w := s.writeOffset
  if n - q.occupancy i s ≤ count ∧ q.metaData.getType = syncedSmq then (-e2big,s)
  else if secureMemMaxLen < (n - w) * size then (hdfFailure,s)
  else if w + count ≤ n then
    (0,{s with
      writeOffset := (w + count) % n
      queueBuffer := copyBytes s.queueBuffer (w * size) data 0 (count * size)})
  else if 2^64 ≤ w + count then
    (hdfFailure,{s with queueBuffer := clearBytes s.queueBuffer (w * size) ((n - w) * size)})
  else
    let first := copyBytes s.queueBuffer (w * size) data 0 ((n - w) * size)
    let rest := u64 ((w + count - n) * size)
    if secureMemMaxLen < n * size then (hdfFailure,{s with queueBuffer := first})
    else if n * size < rest then
      (hdfFailure,{s with queueBuffer := clearBytes first 0 (n * size)})
    else
      (0,{s with
        writeOffset := w + count - n
        queueBuffer := copyBytes first 0 data ((n - w) * size) rest})

/-- The outcome of `ReadNonBlocking`, in natural numbers. -/
def readOutcome (q : SharedMemQueue) (i : ι) (count : Nat) (s : Shared ι) :
    (Int × List Block) × Shared ι :=
  let n := q.metaData.getElementCount
  let rOffset := s.readOffsetOf q.metaData.getType i
  if count = 0 then ((-einval,[]),s)
  else if q.occupancy i s < count then ((-enodata,[]),s)
  else if secureMemMaxLen < count * q.sizeofT then ((hdfFailure,[]),s)
  else ((0,Ring.window n (slot q.sizeofT s.queueBuffer) rOffset count),
    s.setReadOffset q.metaData.getType i ((rOffset + count) % n))

section Geometry
variable (q : SharedMemQueue) (built : Constructed q)
include built

theorem bytes_lt : q.metaData.getElementCount * q.sizeofT < 2^48 := by
  have counts := built.count_le
  have sizes := built.size_lt
  unfold SharedMemQueueMeta.uint16Max at counts
  calc q.metaData.getElementCount * q.sizeofT
      ≤ (2^16 - 1) * q.sizeofT := Nat.mul_le_mul_right _ counts
    _ < 2^48 := by omega

theorem u64_bytes (k : Nat) (le : k ≤ q.metaData.getElementCount) :
    u64 (k * q.sizeofT) = k * q.sizeofT := by
  have whole := q.bytes_lt built
  have part : k * q.sizeofT ≤ q.metaData.getElementCount * q.sizeofT := Nat.mul_le_mul_right _ le
  exact u64_of_lt _ (by omega)

end Geometry

theorem getAvalidReadSize_eq (q : SharedMemQueue) : q.getAvalidReadSize = (do
    let wOffset ← loadWriteOffset
    let rOffset ← loadReadOffset
    return q.avalid wOffset rOffset) := by
  unfold getAvalidReadSize
  congr 1
  funext wOffset
  congr 1
  funext rOffset
  exact (apply_ite pure _ _ _).symm

theorem avalid_eq (q : SharedMemQueue) (built : Constructed q) (w r : Nat)
    (hw : w ≤ q.metaData.getElementCount) (hr : r ≤ q.metaData.getElementCount) :
    q.avalid w r = Ring.ahead q.metaData.getElementCount r w := by
  have counts := built.count_le
  unfold SharedMemQueueMeta.uint16Max at counts
  unfold avalid Ring.ahead
  split
  next le => rw [sub64_of_le _ _ le (by omega)]
  next lt => rw [u64_of_lt _ (by omega),sub64_of_le _ _ (by omega) (by omega)]

theorem run_getAvalidReadSize (q : SharedMemQueue) (built : Constructed q) (i : ι) (s : Shared ι)
    (inside : q.InRing i s) :
    q.getAvalidReadSize.run (serve q.metaData.getType i) s = (q.occupancy i s,s) := by
  have found := q.avalid_eq built _ _ (Nat.le_of_lt inside.write_lt) (Nat.le_of_lt inside.read_lt)
  rw [getAvalidReadSize_eq,run_loadWriteOffset,run_loadReadOffset,found]
  rfl

omit [DecidableEq ι] in
theorem occupancy_lt (q : SharedMemQueue) (i : ι) (s : Shared ι) (inside : q.InRing i s) :
    q.occupancy i s < q.metaData.getElementCount :=
  Ring.ahead_lt _ _ _ inside.read_lt inside.write_lt

theorem run_getAvalidWriteSize (q : SharedMemQueue) (built : Constructed q) (i : ι) (s : Shared ι)
    (inside : q.InRing i s) :
    q.getAvalidWriteSize.run (serve q.metaData.getType i) s =
      (q.metaData.getElementCount - q.occupancy i s,s) := by
  have counts := built.count_le
  have near := q.occupancy_lt i s inside
  unfold SharedMemQueueMeta.uint16Max at counts
  rw [getAvalidWriteSize,run_bind,q.run_getAvalidReadSize built i s inside]
  simp only [pure_eq,run_done]
  rw [sub64_of_le _ _ (by omega) (by omega)]

theorem run_writeNonBlocking (q : SharedMemQueue) (built : Constructed q) (i : ι) (data : Bytes)
    (count : Nat) (fits : count < 2^64) (s : Shared ι) (inside : q.InRing i s) :
    (q.writeNonBlocking data count).run (serve q.metaData.getType i) s =
      q.writeOutcome i data count s := by
  have counts := built.count_le
  have whole := q.bytes_lt built
  have hw := inside.write_lt
  unfold SharedMemQueueMeta.uint16Max at counts
  have some : 0 < (q.metaData.getElementCount - s.writeOffset) * q.sizeofT :=
    Nat.mul_pos (by omega) q.sizeof_pos
  have some_all : 0 < q.metaData.getElementCount * q.sizeofT := Nat.mul_pos (by omega) q.sizeof_pos
  have part : (q.metaData.getElementCount - s.writeOffset) * q.sizeofT ≤
      q.metaData.getElementCount * q.sizeofT := Nat.mul_le_mul_right _ (Nat.sub_le _ _)
  rw [writeNonBlocking,run_bind,q.run_getAvalidWriteSize built i s inside,run_ite]
  unfold writeOutcome
  dsimp only
  congr 1
  rw [run_loadWriteOffset,run_loadReadOffset,sub64_of_le _ _ (Nat.le_of_lt hw) (by omega)]
  rw [q.u64_bytes built _ (Nat.le_of_lt hw),q.u64_bytes built _ (Nat.sub_le _ _),
    q.u64_bytes built _ (Nat.le_refl _),run_ite,run_bind,run_memcpyIn,run_bind,run_memcpyIn]
  by_cases large : secureMemMaxLen < (q.metaData.getElementCount - s.writeOffset) * q.sizeofT
  · simp [large,erange,eok]
  rcases Nat.lt_or_ge (s.writeOffset + count) (2^64) with small | past
  · rw [u64_of_lt _ small]
    by_cases fit : s.writeOffset + count ≤ q.metaData.getElementCount
    · -- one copy, up to the end of the ring at most
      have room : count * q.sizeofT ≤ (q.metaData.getElementCount - s.writeOffset) * q.sizeofT :=
        Nat.mul_le_mul_right _ (by omega)
      rw [q.u64_bytes built count (by omega)]
      simp [fit,large,Nat.ne_of_gt some,Nat.not_lt.mpr room]
    · -- the first copy ends at the end of the ring, the second starts at its beginning
      have rest : sub64 count (q.metaData.getElementCount - s.writeOffset) =
          s.writeOffset + count - q.metaData.getElementCount := by
        rw [sub64_of_le _ _ (by omega) fits]
        omega
      rw [rest]
      rw [if_neg fit,if_neg large,if_neg fit,if_neg (Nat.not_le.mpr small)]
      simp only [large,Nat.ne_of_gt some,or_self,if_false,Nat.lt_irrefl,ne_eq,not_true,run_bind,
        run_memcpyIn,Nat.ne_of_gt some_all,false_or]
      by_cases huge : secureMemMaxLen < q.metaData.getElementCount * q.sizeofT
      · simp [huge,erange,eok]
      by_cases long : q.metaData.getElementCount * q.sizeofT <
          u64 ((s.writeOffset + count - q.metaData.getElementCount) * q.sizeofT)
      · simp [huge,long,erangeAndReset,eok]
      · simp [huge,long]
  · have some_left : 0 < (2^64 - count) * q.sizeofT := Nat.mul_pos (by omega) q.sizeof_pos
    have few_left : (2^64 - count) * q.sizeofT ≤ q.metaData.getElementCount * q.sizeofT :=
      Nat.mul_le_mul_right _ (by omega)
    have wrapped := u64_mul_wrapped count (2^64 - count) q.sizeofT (by omega) some_left (by omega)
    have near : u64 (s.writeOffset + count) ≤ q.metaData.getElementCount := by
      unfold u64
      omega
    have fit : ¬ s.writeOffset + count ≤ q.metaData.getElementCount := by omega
    have short : (q.metaData.getElementCount - s.writeOffset) * q.sizeofT <
        u64 (count * q.sizeofT) := by omega
    rw [if_pos near,if_neg large,if_neg fit,if_pos past]
    simp [large,short,Nat.ne_of_gt some,erangeAndReset,eok]

/-- Whole elements read in place are the window of the ring that starts there. -/
theorem chunks_eq_window (n size : Nat) (memory : Bytes) (r count : Nat) (fit : r + count ≤ n) :
    (List.range count).map (fun k => chunk memory (r * size + k * size) size) =
      Ring.window n (slot size memory) r count := by
  apply List.map_congr_left
  intro k member
  have bound : k < count := List.mem_range.mp member
  rw [slot,Nat.mod_eq_of_lt (by omega),Nat.add_mul]

theorem run_readNonBlocking (q : SharedMemQueue) (built : Constructed q) (i : ι) (count : Nat)
    (s : Shared ι) (inside : q.InRing i s) :
    (q.readNonBlocking count).run (serve q.metaData.getType i) s = q.readOutcome i count s := by
  have counts := built.count_le
  have whole := q.bytes_lt built
  have hr := inside.read_lt
  have near := q.occupancy_lt i s inside
  unfold SharedMemQueueMeta.uint16Max at counts
  unfold readNonBlocking readOutcome
  dsimp only
  by_cases none : count = 0
  · rw [if_pos none,if_pos none]
    rfl
  rw [if_neg none,if_neg none,run_bind,q.run_getAvalidReadSize built i s inside,run_ite]
  dsimp only
  by_cases short : q.occupancy i s < count
  · rw [if_pos short,if_pos short]
    rfl
  rw [if_neg short,if_neg short,run_checked,run_loadReadOffset,u64_of_lt _ (by omega),
    q.u64_bytes built count (by omega),q.u64_bytes built _ (Nat.le_of_lt hr),run_ite]
  have some : count * q.sizeofT ≠ 0 := Nat.ne_of_gt (Nat.mul_pos (by omega) q.sizeof_pos)
  by_cases fit : s.readOffsetOf q.metaData.getType i + count ≤ q.metaData.getElementCount
  · rw [if_pos fit,run_bind,run_memcpyOut _ _ _ q.sizeof_pos]
    by_cases large : secureMemMaxLen < count * q.sizeofT
    · simp [large,erange,eok]
    · simp only [some,large,or_self,if_false,Nat.lt_irrefl,ne_eq,not_true,run_storeReadOffset,
        pure_eq,run_done]
      rw [chunks_eq_window _ _ _ _ _ fit]
  · rw [if_neg fit,sub64_of_le _ _ (Nat.le_of_lt hr) (by omega),run_bind,
      q.u64_bytes built _ (Nat.sub_le _ _),run_memcpyOut _ _ _ q.sizeof_pos,
      sub64_of_le _ _ (by omega) (by omega),q.u64_bytes built _ (by omega)]
    have first_le : (q.metaData.getElementCount - s.readOffsetOf q.metaData.getType i) * q.sizeofT ≤
        count * q.sizeofT := Nat.mul_le_mul_right _ (by omega)
    by_cases large : secureMemMaxLen < count * q.sizeofT
    · simp [large,erange,eok]
    · have second_le : (count - (q.metaData.getElementCount - s.readOffsetOf q.metaData.getType i)) *
          q.sizeofT ≤ count * q.sizeofT := Nat.mul_le_mul_right _ (Nat.sub_le _ _)
      have second_some : (count - (q.metaData.getElementCount -
          s.readOffsetOf q.metaData.getType i)) * q.sizeofT ≠ 0 :=
        Nat.ne_of_gt (Nat.mul_pos (by omega) q.sizeof_pos)
      have second_small : ¬ secureMemMaxLen < (count - (q.metaData.getElementCount -
          s.readOffsetOf q.metaData.getType i)) * q.sizeofT := by omega
      simp only [some,large,or_self,if_false,Nat.not_lt.mpr first_le,ne_eq,not_true,
        run_bind _ (memcpyOut _ _ _ _),run_memcpyOut _ _ _ q.sizeof_pos,second_some,second_small,
        Nat.lt_irrefl,run_storeReadOffset,pure_eq,run_done]
      -- the second part starts at slot 0, where the first part ends
      have back : (s.readOffsetOf q.metaData.getType i + count) % q.metaData.getElementCount =
          count - (q.metaData.getElementCount - s.readOffsetOf q.metaData.getType i) := by
        rw [Ring.mod_of_lt_double _ _ (by omega)]
        split <;> omega
      have parts : count = (q.metaData.getElementCount - s.readOffsetOf q.metaData.getType i) +
          (count - (q.metaData.getElementCount - s.readOffsetOf q.metaData.getType i)) := by omega
      have seam : (s.readOffsetOf q.metaData.getType i + (q.metaData.getElementCount -
          s.readOffsetOf q.metaData.getType i)) % q.metaData.getElementCount = 0 := by
        rw [Nat.add_sub_cancel' (Nat.le_of_lt hr),Nat.mod_self]
      rw [back]
      conv_rhs => rw [parts,Ring.window_add,seam]
      rw [chunks_eq_window q.metaData.getElementCount _ _ _ _ (by omega),
        ← chunks_eq_window q.metaData.getElementCount _ _ 0 _ (by omega)]
      simp

end SharedMemQueue
end DriversAdapter.Smq
