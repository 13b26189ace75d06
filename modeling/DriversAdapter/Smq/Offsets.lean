import DriversAdapter.Smq.Peers

/-! Offsets of a queue of either type. A write that no free space check holds back stays
inside the ring while it ends less than two turns on; past that it leaves the write offset
at or behind the end of the ring, or loses elements without reporting a written one. -/
namespace DriversAdapter.Smq
open DriversAdapter.Base DriversAdapter.Semantics DriversAdapter.Semantics.Program

variable {ι : Type} [DecidableEq ι]

namespace SharedMemQueue

/-- The write is checked against the free space, or ends before the second turn is over,
or is refused before it copies, or fails where nothing readable is overwritten. -/
def WriteKeeps (q : SharedMemQueue) (attached : ι → Prop) (count : Nat) (s : Shared ι) : Prop :=
  let n := q.metaData.getElementCount
  let w := s.writeOffset
  q.metaData.getType = syncedSmq ∨ w + count < 2 * n ∨ secureMemMaxLen < (n - w) * q.sizeofT ∨
    (2^64 ≤ w + count ∧ ∀ j, attached j → s.readOffsetOf q.metaData.getType j ≤ w) ∨
    (w + count < 2^64 ∧ n * q.sizeofT < u64 ((w + count - n) * q.sizeofT) ∧
      ∀ j, attached j → s.readOffsetOf q.metaData.getType j = w)

omit [DecidableEq ι] in
private theorem near_of_keeps (q : SharedMemQueue) (attached : ι → Prop) (i : ι) (count : Nat)
    (s : Shared ι) (hw : s.writeOffset < q.metaData.getElementCount)
    (free : ¬ (q.metaData.getElementCount - q.occupancy i s ≤ count ∧
      q.metaData.getType = syncedSmq))
    (copied : ¬ secureMemMaxLen < (q.metaData.getElementCount - s.writeOffset) * q.sizeofT)
    (keeps : q.WriteKeeps attached count s) :
    s.writeOffset + count < 2 * q.metaData.getElementCount ∨
      (2^64 ≤ s.writeOffset + count ∧
        ∀ j, attached j → s.readOffsetOf q.metaData.getType j ≤ s.writeOffset) ∨
      (s.writeOffset + count < 2^64 ∧ q.metaData.getElementCount * q.sizeofT <
          u64 ((s.writeOffset + count - q.metaData.getElementCount) * q.sizeofT) ∧
        ∀ j, attached j → s.readOffsetOf q.metaData.getType j = s.writeOffset) := by
  rcases keeps with synced | near | refused | other
  · have few : count < q.metaData.getElementCount - q.occupancy i s :=
      Nat.lt_of_not_le (fun full => free ⟨full,synced⟩)
    exact .inl (by omega)
  · exact .inl near
  · contradiction
  · exact .inr other

omit [DecidableEq ι] in
theorem readable_below (q : SharedMemQueue) (j : ι) (s : Shared ι) (memory : Bytes)
    (hw : s.writeOffset < q.metaData.getElementCount)
    (below : s.readOffsetOf q.metaData.getType j ≤ s.writeOffset)
    (same : ∀ k < s.writeOffset, slot q.sizeofT memory k = slot q.sizeofT s.queueBuffer k) :
    q.readable j {s with queueBuffer := memory} = q.readable j s := by
  apply Ring.window_congr
  intro k bound
  simp only [Ring.ahead,Shared.readOffsetOf] at bound below ⊢
  rw [if_pos below] at bound
  rw [Nat.mod_eq_of_lt (by omega)]
  exact same _ (by omega)

omit [DecidableEq ι] in
theorem readable_empty (q : SharedMemQueue) (j : ι) (s : Shared ι)
    (empty : s.readOffsetOf q.metaData.getType j = s.writeOffset) : q.readable j s = [] := by
  unfold readable
  dsimp only
  rw [empty,Ring.ahead_self,Ring.window_zero]

omit [DecidableEq ι] in
/-- A write that keeps leaves the write offset in the ring, and when it fails it leaves the
offset and everything readable as they were. -/
theorem writeOutcome_keeps (q : SharedMemQueue) (built : Constructed q) (attached : ι → Prop)
    (i : ι) (data : Bytes) (count : Nat) (s : Shared ι) (inside : q.InRing i s)
    (large : secureMemMaxLen < q.metaData.getElementCount * q.sizeofT → s.writeOffset = 0)
    (keeps : q.WriteKeeps attached count s) :
    ∃ w memory, (q.writeOutcome i data count s).2 =
        {s with writeOffset := w, queueBuffer := memory} ∧
      w < q.metaData.getElementCount ∧
      (secureMemMaxLen < q.metaData.getElementCount * q.sizeofT → w = 0) ∧
      ((q.writeOutcome i data count s).1 ≠ 0 → w = s.writeOffset ∧
        ∀ j, attached j → q.readable j {s with queueBuffer := memory} = q.readable j s) := by
  have hw := inside.write_lt
  have counts := built.count_le
  unfold SharedMemQueueMeta.uint16Max at counts
  -- a destination the copies accept at the write offset they accept from slot 0 on
  have accepted : ¬ secureMemMaxLen < (q.metaData.getElementCount - s.writeOffset) * q.sizeofT →
      ¬ secureMemMaxLen < q.metaData.getElementCount * q.sizeofT := by
    intro accepted beyond
    rw [large beyond,Nat.sub_zero] at accepted
    contradiction
  have short : s.writeOffset + count < 2 * q.metaData.getElementCount →
      ¬ q.metaData.getElementCount * q.sizeofT <
        u64 ((s.writeOffset + count - q.metaData.getElementCount) * q.sizeofT) := by
    intro near
    rw [q.u64_bytes built _ (by omega)]
    exact Nat.not_lt.mpr (Nat.mul_le_mul_right _ (by omega))
  unfold writeOutcome
  dsimp only
  split_ifs with full refused fit wrapped huge long
  · exact ⟨_,_,rfl,hw,large,fun _ => ⟨rfl,fun _ _ => rfl⟩⟩
  · exact ⟨_,_,rfl,hw,large,fun _ => ⟨rfl,fun _ _ => rfl⟩⟩
  · exact ⟨_,_,rfl,Nat.mod_lt _ (by omega),fun beyond => absurd beyond (accepted refused),
      fun failed => absurd rfl failed⟩
  all_goals
    have near := q.near_of_keeps attached i count s hw full refused keeps
  · -- the length of the copy has wrapped: the rest of the ring is cleared
    refine ⟨_,_,rfl,hw,large,fun _ => ⟨rfl,fun j present => ?_⟩⟩
    have behind : s.readOffsetOf q.metaData.getType j ≤ s.writeOffset := by
      rcases near with near | ⟨_,behind⟩ | ⟨below,_⟩
      · omega
      · exact behind j present
      · omega
    apply q.readable_below j s _ hw behind
    intro k early
    have cleared := slot_copyBytes q.sizeofT s.queueBuffer (fun _ => 0) s.writeOffset 0
      (q.metaData.getElementCount - s.writeOffset) k
    rw [Nat.zero_mul,if_neg (by omega)] at cleared
    exact cleared
  · exact absurd huge (accepted refused)
  · -- the second copy does not fit: the ring is cleared
    refine ⟨_,_,rfl,hw,large,fun _ => ⟨rfl,fun j present => ?_⟩⟩
    have empty : s.readOffsetOf q.metaData.getType j = s.writeOffset := by
      rcases near with near | ⟨above,_⟩ | ⟨_,_,empty⟩
      · exact absurd long (short near)
      · contradiction
      · exact empty j present
    rw [q.readable_empty j s empty]
    exact q.readable_empty j _ empty
  · refine ⟨_,_,rfl,?_,fun beyond => absurd beyond (accepted refused),
      fun failed => absurd rfl failed⟩
    rcases near with near | ⟨above,_⟩ | ⟨_,beyond,_⟩
    · omega
    · contradiction
    · contradiction

end SharedMemQueue

namespace Peers

/-- Attaches and reads are free; writes keep the elements there are. -/
def Keeps (q : SharedMemQueue) : Event ι → Peers ι → Prop
  | .call _ (.write _ count), s => q.WriteKeeps s.attached count.toNat s.shared
  | _, _ => True

/-- The offsets in use are inside the ring, and at its beginning if nothing can be copied. -/
structure Kept (q : SharedMemQueue) (s : Peers ι) : Prop where
  opened : Opened q s
  write_lt : s.shared.writeOffset < q.metaData.getElementCount
  read_lt : ∀ i, s.attached i →
    s.shared.readOffsetOf q.metaData.getType i < q.metaData.getElementCount
  large : secureMemMaxLen < q.metaData.getElementCount * q.sizeofT → s.shared.writeOffset = 0

section Run
variable (env : Platform) (q : SharedMemQueue) (built : Constructed q)
variable (sized : q.metaData.getElementSize = q.sizeofT)

omit [DecidableEq ι] in
theorem Kept.inRing (s : Peers ι) (kept : Kept q s) (i : ι) (present : s.attached i) :
    q.InRing i s.shared := ⟨kept.write_lt,kept.read_lt i present⟩

include sized in
theorem kept_attach (i : ι) (s : Peers ι) (kept : Kept q s) :
    Kept q (step env q (.attach i) s).2 := by
  refine ⟨step_opened env q _ s kept.opened,?_,fun j present => ?_,?_⟩
  · rw [step_attach env q sized i s]
    split <;> simpa using kept.write_lt
  · rcases readOffset_attach env q sized i j s present with zero | ⟨before,same⟩
    · rw [zero]
      exact Nat.lt_of_le_of_lt (Nat.zero_le _) kept.write_lt
    · rw [same]
      exact kept.read_lt j before
  · rw [step_attach env q sized i s]
    split <;> simpa using kept.large

include built in
theorem kept_call (i : ι) (c : Call) (s : Peers ι) (kept : Kept q s)
    (keeps : Keeps q (.call i c) s) : Kept q (step env q (.call i c) s).2 := by
  by_cases present : s.handle i = none
  · rwa [step_call_detached env q i c s present]
  have inside := kept.inRing q s i present
  rw [step_call env q i c s kept.opened present]
  rcases c with ⟨data,count⟩ | ⟨count⟩
  · obtain ⟨w,memory,wrote,write_lt,large,_⟩ := q.writeOutcome_keeps built s.attached i data
      count.toNat s.shared inside kept.large keeps
    rw [q.respond_write built i data count s.shared inside,wrote]
    exact ⟨kept.opened,write_lt,kept.read_lt,large⟩
  · rw [q.respond_read built i count s.shared inside]
    rcases q.readOutcome_cases i count.toNat s.shared with ⟨_,_,same⟩ | ⟨_,_,same⟩
    · rw [same]
      exact ⟨kept.opened,kept.write_lt,kept.read_lt,kept.large⟩
    · rw [same]
      refine ⟨kept.opened,by simpa using kept.write_lt,fun j other => ?_,by simpa using kept.large⟩
      dsimp only
      rw [Shared.readOffsetOf_setReadOffset]
      split
      next => exact Nat.mod_lt _ (by have := kept.write_lt; omega)
      next => exact kept.read_lt j other

include built in
theorem failed_call_unchanged (i : ι) (c : Call) (s : Peers ι) (kept : Kept q s)
    (keeps : Keeps q (.call i c) s) (r : Reply) (t : Peers ι)
    (called : step env q (.call i c) s = (some r,t)) (failed : r.ret ≠ 0) :
    t.shared.writeOffset = s.shared.writeOffset ∧ ∀ j, s.attached j →
      t.shared.readOffsetOf q.metaData.getType j = s.shared.readOffsetOf q.metaData.getType j ∧
        q.readable j t.shared = q.readable j s.shared := by
  by_cases present : s.handle i = none
  · rw [step_call_detached env q i c s present] at called
    simp at called
  have inside := kept.inRing q s i present
  rw [step_call env q i c s kept.opened present,Prod.mk.injEq,Option.some.injEq] at called
  obtain ⟨rfl,rfl⟩ := called
  rcases c with ⟨data,count⟩ | ⟨count⟩
  · obtain ⟨w,memory,wrote,_,_,unchanged⟩ := q.writeOutcome_keeps built s.attached i data
      count.toNat s.shared inside kept.large keeps
    rw [q.respond_write built i data count s.shared inside] at failed ⊢
    obtain ⟨rfl,same⟩ := unchanged failed
    rw [wrote]
    exact ⟨rfl,fun j other => ⟨rfl,same j other⟩⟩
  · rw [q.respond_read built i count s.shared inside] at failed ⊢
    rcases q.readOutcome_cases i count.toNat s.shared with ⟨_,_,same⟩ | ⟨_,_,same⟩
    · rw [same]
      exact ⟨rfl,fun _ _ => ⟨rfl,rfl⟩⟩
    · rw [same] at failed
      contradiction

end Run

section Reachable
variable (env : Platform) (sizeofT : Nat) (sizeof_pos : 0 < sizeofT)
variable (stale : MemZoneType → MemZone) (elementCount type : UInt32) (i : ι)
variable (fresh start : Shared ι) (q : SharedMemQueue)

theorem opening_kept
    (made : (SharedMemQueue.create env sizeofT sizeof_pos stale elementCount type).run
      (serve type i) fresh = (some q,start)) (some_element : 1 ≤ elementCount.toNat) :
    Kept q (opening q i start) := by
  obtain ⟨_,_,counts,types,_,_,rfl⟩ := SharedMemQueue.create_usable env sizeofT sizeof_pos stale
    elementCount type i fresh start q made
  have zero : (opening q i (({fresh with writeOffset := 0} : Shared ι).setReadOffset type i
      0)).shared.writeOffset = 0 := Shared.setReadOffset_writeOffset _ _ _ _
  refine ⟨opening_opened q i _,?_,fun j present => ?_,fun _ => zero⟩
  · rw [zero,counts]
    exact some_element
  · obtain ⟨mine,made⟩ := Option.ne_none_iff_exists'.mp present
    obtain ⟨rfl,_⟩ := opening_handle q i j _ mine made
    unfold opening
    dsimp only
    rw [types,Shared.readOffsetOf_set,counts]
    exact some_element

theorem kept_reach
    (made : (SharedMemQueue.create env sizeofT sizeof_pos stale elementCount type).run
      (serve type i) fresh = (some q,start)) (some_element : 1 ≤ elementCount.toNat)
    (s : Peers ι) (reached : Machine.Reach (step env q) (Keeps q) (opening q i start) s) :
    Kept q s := by
  obtain ⟨built,_,_,_,sized,_,_⟩ := SharedMemQueue.create_usable env sizeofT sizeof_pos stale
    elementCount type i fresh start q made
  refine Machine.reach_invariant (step env q) (Keeps q) (opening q i start) (Kept q) ?_ ?_ s reached
  · exact opening_kept env sizeofT sizeof_pos stale elementCount type i fresh start q made
      some_element
  · intro e s kept keeps
    rcases e with j | ⟨j,c⟩
    · exact kept_attach env q sized j s kept
    · exact kept_call env q built j c s kept keeps

/-- Queues of both types, in runs whose writes keep the elements there are. -/
theorem offsets_kept
    (made : (SharedMemQueue.create env sizeofT sizeof_pos stale elementCount type).run
      (serve type i) fresh = (some q,start)) (some_element : 1 ≤ elementCount.toNat)
    (s : Peers ι) (reached : Machine.Reach (step env q) (Keeps q) (opening q i start) s) :
    s.shared.writeOffset < q.metaData.getElementCount ∧
      (∀ j, s.attached j →
        s.shared.readOffsetOf q.metaData.getType j < q.metaData.getElementCount) ∧
      ∀ j c r t, Keeps q (.call j c) s → step env q (.call j c) s = (some r,t) → r.ret ≠ 0 →
        t.shared.writeOffset = s.shared.writeOffset ∧ ∀ k, s.attached k →
          t.shared.readOffsetOf q.metaData.getType k = s.shared.readOffsetOf q.metaData.getType k ∧
            q.readable k t.shared = q.readable k s.shared := by
  have built := (SharedMemQueue.create_usable env sizeofT sizeof_pos stale elementCount type i
    fresh start q made).1
  have kept := kept_reach env sizeofT sizeof_pos stale elementCount type i fresh start q made
    some_element s reached
  refine ⟨kept.write_lt,kept.read_lt,?_⟩
  intro j c r t keeps called failed
  exact failed_call_unchanged env q built j c s kept keeps r t called failed

/-- An overflowing write of three elements that still ends before the second turn is over. -/
theorem offsets_kept_three : ∃ (q : SharedMemQueue) (start : Shared Unit),
    (SharedMemQueue.create .granting 8 (by decide) (fun _ => ⟨0,0⟩) 2 unsyncSmq).run
        (serve unsyncSmq ()) ⟨7,9,fun _ => 0,fun _ => 0⟩ = (some q,start) ∧
      (step .granting q (.call () (.write (fun _ => 5) 3)) (opening q () start)).2.shared.writeOffset <
        q.metaData.getElementCount := by
  refine ⟨_,_,rfl,?_⟩
  refine (offsets_kept .granting 8 (by decide) (fun _ => ⟨0,0⟩) 2 unsyncSmq ()
    ⟨7,9,fun _ => 0,fun _ => 0⟩ _ _ rfl (by decide) _ (.step _ .start ?_)).1
  exact .inr (.inl (by decide))

/-- A write of two turns stores an offset behind the ring and reports success. -/
theorem offsets_leave_ring : ∃ (q : SharedMemQueue) (start : Shared Unit),
    (SharedMemQueue.create .granting 8 (by decide) (fun _ => ⟨0,0⟩) 2 unsyncSmq).run
        (serve unsyncSmq ()) ⟨7,9,fun _ => 0,fun _ => 0⟩ = (some q,start) ∧
      let out := q.replies [((),.write (fun _ => 5) 4)] start
      out.1 = [⟨0,[]⟩] ∧ ¬ out.2.writeOffset < q.metaData.getElementCount := by
  refine ⟨_,_,rfl,?_⟩
  dsimp only
  exact ⟨rfl,by decide⟩

end Reachable

end Peers

end DriversAdapter.Smq
