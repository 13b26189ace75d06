import DriversAdapter.Smq.Construct
import DriversAdapter.Semantics.Fifo

/-! Calls that do not overlap: a write that is accepted overwrites the slots after the
write offset, and a synchronized queue of `n` elements is a first-in first-out buffer of
capacity `n - 1`. -/
namespace DriversAdapter.Smq
open DriversAdapter.Base DriversAdapter.Semantics DriversAdapter.Semantics.Program

variable {ι : Type} [DecidableEq ι]

namespace SharedMemQueue

theorem respond_write (q : SharedMemQueue) (built : Constructed q) (i : ι) (data : Bytes)
    (count : UInt64) (s : Shared ι) (inside : q.InRing i s) :
    q.respond (i,.write data count) s =
      (⟨(q.writeOutcome i data count.toNat s).1,[]⟩,(q.writeOutcome i data count.toNat s).2) := by
  simp only [respond,issue,run_bind,q.run_writeNonBlocking built i data _ count.toNat_lt s inside,
    pure_eq,run_done]

theorem respond_read (q : SharedMemQueue) (built : Constructed q) (i : ι) (count : UInt64)
    (s : Shared ι) (inside : q.InRing i s) :
    q.respond (i,.read count) s =
      (⟨(q.readOutcome i count.toNat s).1.1,(q.readOutcome i count.toNat s).1.2⟩,
        (q.readOutcome i count.toNat s).2) := by
  simp only [respond,issue,run_bind,q.run_readNonBlocking built i _ s inside,pure_eq,run_done]

omit [DecidableEq ι] in
theorem writeOutcome_accepted (q : SharedMemQueue) (built : Constructed q) (i : ι) (data : Bytes)
    (count : Nat) (s : Shared ι) (inside : q.InRing i s)
    (zone : q.metaData.getElementCount * q.sizeofT ≤ secureMemMaxLen)
    (free : count < q.metaData.getElementCount - q.occupancy i s ∨ q.metaData.getType ≠ syncedSmq)
    (room : count ≤ q.metaData.getElementCount) :
    ∃ memory, q.writeOutcome i data count s =
        (0,{s with
          writeOffset := (s.writeOffset + count) % q.metaData.getElementCount
          queueBuffer := memory}) ∧
      Ring.Overwritten q.metaData.getElementCount (slot q.sizeofT s.queueBuffer)
        (slot q.sizeofT memory) s.writeOffset count (slot q.sizeofT data) := by
  have hw := inside.write_lt
  have counts := built.count_le
  unfold SharedMemQueueMeta.uint16Max at counts
  have part : (q.metaData.getElementCount - s.writeOffset) * q.sizeofT ≤
      q.metaData.getElementCount * q.sizeofT := Nat.mul_le_mul_right _ (Nat.sub_le _ _)
  have accepted : ¬ (q.metaData.getElementCount - q.occupancy i s ≤ count ∧
      q.metaData.getType = syncedSmq) := by
    rintro ⟨full,synced⟩
    rcases free with enough | unsynced
    · omega
    · exact unsynced synced
  unfold writeOutcome
  dsimp only
  rw [if_neg accepted,if_neg (by omega)]
  by_cases fit : s.writeOffset + count ≤ q.metaData.getElementCount
  · rw [if_pos fit]
    refine ⟨_,rfl,?_⟩
    intro k bound
    have copied := slot_copyBytes q.sizeofT s.queueBuffer data s.writeOffset 0 count k
    rw [Nat.zero_mul,Nat.zero_add] at copied
    rw [copied]
    unfold Ring.ahead
    split_ifs <;> first | rfl | omega
  · rw [if_neg fit,if_neg (by omega),if_neg (by omega),q.u64_bytes built _ (by omega),
      if_neg (Nat.not_lt.mpr (Nat.mul_le_mul_right _ (by omega)))]
    have moved : (s.writeOffset + count) % q.metaData.getElementCount =
        s.writeOffset + count - q.metaData.getElementCount := by
      rw [Ring.mod_of_lt_double _ _ (by omega),if_neg (by omega)]
    rw [moved]
    refine ⟨_,rfl,?_⟩
    intro k bound
    have first := slot_copyBytes q.sizeofT s.queueBuffer data s.writeOffset 0
      (q.metaData.getElementCount - s.writeOffset) k
    rw [Nat.zero_mul,Nat.zero_add] at first
    have second := slot_copyBytes q.sizeofT
      (copyBytes s.queueBuffer (s.writeOffset * q.sizeofT) data 0
        ((q.metaData.getElementCount - s.writeOffset) * q.sizeofT)) data 0
      (q.metaData.getElementCount - s.writeOffset)
      (s.writeOffset + count - q.metaData.getElementCount) k
    rw [Nat.zero_mul] at second
    rw [second,first]
    unfold Ring.ahead
    split_ifs <;> first | rfl | omega | skip
    congr 1
    omega

omit [DecidableEq ι] in
theorem readable_write (q : SharedMemQueue) (i : ι) (data : Bytes) (count : Nat) (s : Shared ι)
    (memory : Bytes) (inside : q.InRing i s)
    (room : q.occupancy i s + count < q.metaData.getElementCount)
    (written : Ring.Overwritten q.metaData.getElementCount (slot q.sizeofT s.queueBuffer)
      (slot q.sizeofT memory) s.writeOffset count (slot q.sizeofT data)) :
    q.readable i {s with
      writeOffset := (s.writeOffset + count) % q.metaData.getElementCount
      queueBuffer := memory} = q.readable i s ++ q.items data count :=
  Ring.window_append _ _ _ _ _ _ _ inside.read_lt inside.write_lt room written

theorem readable_read (q : SharedMemQueue) (i : ι) (count : Nat) (s : Shared ι)
    (inside : q.InRing i s) (within : count ≤ q.occupancy i s) :
    q.readable i (s.setReadOffset q.metaData.getType i
      ((s.readOffsetOf q.metaData.getType i + count) % q.metaData.getElementCount)) =
        (q.readable i s).drop count := by
  unfold readable
  dsimp only
  rw [Shared.readOffsetOf_set,Shared.setReadOffset_writeOffset,Shared.setReadOffset_queueBuffer]
  exact Ring.window_forward _ _ _ _ _ inside.read_lt inside.write_lt within

/-- A read fails without effect, or returns the oldest elements and moves the read offset
past them. -/
theorem readOutcome_cases (q : SharedMemQueue) (i : ι) (count : Nat) (s : Shared ι) :
    (∃ err, err ≠ 0 ∧ q.readOutcome i count s = ((err,[]),s)) ∨
      (count ≠ 0 ∧ count ≤ q.occupancy i s ∧
        q.readOutcome i count s = ((0,(q.readable i s).take count),
          s.setReadOffset q.metaData.getType i
            ((s.readOffsetOf q.metaData.getType i + count) % q.metaData.getElementCount))) := by
  unfold readOutcome
  dsimp only
  split_ifs with none short large
  · exact .inl ⟨-einval,by simp [einval],rfl⟩
  · exact .inl ⟨-enodata,by simp [enodata],rfl⟩
  · exact .inl ⟨hdfFailure,by simp [hdfFailure],rfl⟩
  · have taken : (q.readable i s).take count = Ring.window _ _ _ count :=
      Ring.window_take _ _ _ _ count (Nat.not_lt.mp short)
    exact .inr ⟨none,Nat.not_lt.mp short,by rw [taken]⟩

theorem readOutcome_ok_iff (q : SharedMemQueue) (i : ι) (count : Nat) (s : Shared ι)
    (inside : q.InRing i s)
    (zone : q.metaData.getElementCount * q.sizeofT ≤ secureMemMaxLen) :
    (q.readOutcome i count s).1.1 = 0 ↔ 1 ≤ count ∧ count ≤ q.occupancy i s := by
  have near := q.occupancy_lt i s inside
  constructor
  · intro ok
    rcases q.readOutcome_cases i count s with ⟨err,failed,same⟩ | ⟨some_element,within,_⟩
    · rw [same] at ok
      contradiction
    · omega
  · rintro ⟨some_element,within⟩
    have small : count * q.sizeofT ≤ q.metaData.getElementCount * q.sizeofT :=
      Nat.mul_le_mul_right _ (by omega)
    unfold readOutcome
    dsimp only
    rw [if_neg (by omega),if_neg (by omega),if_neg (by omega)]

def request (q : SharedMemQueue) : ι × Call → Fifo.Request Block
  | (_,.write data count) => .offer (q.items data count.toNat)
  | (_,.read count) => .take count.toNat

def answer : ι × Call → Reply → Fifo.Answer Block
  | (_,.write _ _), r => .offered (r.ret = 0)
  | (_,.read _), r => .taken (if r.ret = 0 then some r.data else none)

/-- Every endpoint is inside the ring and has `content` still to read. -/
structure Holds (q : SharedMemQueue) (s : Shared ι) (content : List Block) : Prop where
  inside : ∀ i, q.InRing i s
  readable_eq : ∀ i, q.readable i s = content

section Synced
variable (q : SharedMemQueue) (built : Constructed q) (synced : q.metaData.getType = syncedSmq)
variable (zone : q.metaData.getElementCount * q.sizeofT ≤ secureMemMaxLen)
include built synced zone

theorem write_refines (i : ι) (data : Bytes) (count : UInt64) (s : Shared ι)
    (f : Fifo Block (q.metaData.getElementCount - 1)) (holds : q.Holds s f.content) :
    answer (i,.write data count) (q.respond (i,.write data count) s).1 =
        (Fifo.step (q.request (i,.write data count)) f).1 ∧
      q.Holds (q.respond (i,.write data count) s).2
        (Fifo.step (q.request (i,.write data count)) f).2.content := by
  have inside := holds.inside i
  have near := q.occupancy_lt i s inside
  have len : f.content.length = q.occupancy i s := by
    rw [← holds.readable_eq i,readable_length]
  rw [q.respond_write built i data count s inside]
  by_cases fits : f.content.length + (q.items data count.toNat).length ≤
      q.metaData.getElementCount - 1
  · simp only [request,Fifo.step,fits,dite_true,answer]
    simp only [items,List.length_map,List.length_range] at fits
    obtain ⟨memory,wrote,overwritten⟩ := q.writeOutcome_accepted built i data count.toNat s inside
      zone (Or.inl (by omega)) (by omega)
    rw [wrote]
    refine ⟨by simp,fun j => ⟨Nat.mod_lt _ (by omega),(holds.inside j).read_lt⟩,fun j => ?_⟩
    have room : q.occupancy j s + count.toNat < q.metaData.getElementCount := by
      rw [← readable_length,holds.readable_eq j]
      omega
    rw [q.readable_write j data _ s memory (holds.inside j) room overwritten,holds.readable_eq j]
  · simp only [request,Fifo.step,fits,dite_false,answer]
    simp only [items,List.length_map,List.length_range] at fits
    have refused : q.writeOutcome i data count.toNat s = (-e2big,s) := by
      unfold writeOutcome
      exact if_pos ⟨by omega,synced⟩
    rw [refused]
    exact ⟨by simp [e2big],holds⟩

theorem read_refines (i : ι) (count : UInt64) (s : Shared ι)
    (f : Fifo Block (q.metaData.getElementCount - 1)) (holds : q.Holds s f.content) :
    answer (i,.read count) (q.respond (i,.read count) s).1 =
        (Fifo.step (q.request (i,.read count)) f).1 ∧
      q.Holds (q.respond (i,.read count) s).2
        (Fifo.step (q.request (i,.read count)) f).2.content := by
  have inside := holds.inside i
  have near := q.occupancy_lt i s inside
  have len : f.content.length = q.occupancy i s := by
    rw [← holds.readable_eq i,readable_length]
  rw [q.respond_read built i count s inside]
  simp only [request,Fifo.step,answer]
  have ok := q.readOutcome_ok_iff i count.toNat s inside zone
  rcases q.readOutcome_cases i count.toNat s with ⟨err,failed,same⟩ | ⟨some_element,within,same⟩
  · have refused : ¬ (1 ≤ count.toNat ∧ count.toNat ≤ f.content.length) := by
      rw [len,← ok,same]
      exact failed
    rw [same,if_neg refused]
    exact ⟨by simp [failed],holds⟩
  rw [same,if_pos (show 1 ≤ count.toNat ∧ count.toNat ≤ f.content.length by omega),
    holds.readable_eq i]
  refine ⟨by simp,fun j => ?_,fun j => ?_⟩
  · constructor
    · rw [Shared.setReadOffset_writeOffset]
      exact inside.write_lt
    · rw [synced,Shared.readOffsetOf_synced j i,Shared.readOffsetOf_set]
      exact Nat.mod_lt _ (by omega)
  · have same : ∀ t : Shared ι, q.readable j t = q.readable i t := by
      intro t
      unfold readable
      rw [synced,Shared.readOffsetOf_synced j i]
    rw [same,q.readable_read i _ s inside (by omega),holds.readable_eq i]

/-- One call of a synchronized queue is one step of the first-in first-out buffer. -/
theorem respond_refines (c : ι × Call) (s : Shared ι)
    (f : Fifo Block (q.metaData.getElementCount - 1)) (holds : q.Holds s f.content) :
    answer c (q.respond c s).1 = (Fifo.step (q.request c) f).1 ∧
      q.Holds (q.respond c s).2 (Fifo.step (q.request c) f).2.content := by
  rcases c with ⟨i,⟨data,count⟩ | ⟨count⟩⟩
  · exact q.write_refines built synced zone i data count s f holds
  · exact q.read_refines built synced zone i count s f holds

end Synced

theorem create_holds (env : Platform) (sizeofT : Nat) (sizeof_pos : 0 < sizeofT)
    (stale : MemZoneType → MemZone) (elementCount : UInt32) (some_element : 1 ≤ elementCount.toNat)
    (i : ι) (fresh start : Shared ι) (q : SharedMemQueue)
    (made : (create env sizeofT sizeof_pos stale elementCount syncedSmq).run
      (serve syncedSmq i) fresh = (some q,start)) : q.Holds start [] := by
  obtain ⟨_,_,counts,synced,_,_,rfl⟩ := create_usable env sizeofT sizeof_pos stale elementCount
    syncedSmq i fresh start q made
  have zero : ∀ j, (({fresh with writeOffset := 0} : Shared ι).setReadOffset syncedSmq i
      0).readOffsetOf q.metaData.getType j = 0 := by
    intro j
    rw [synced,Shared.readOffsetOf_synced j i,Shared.readOffsetOf_set]
  constructor
  · intro j
    constructor
    · rw [Shared.setReadOffset_writeOffset,counts]
      exact some_element
    · rw [zero j]
      omega
  · intro j
    unfold readable
    dsimp only
    rw [zero j,Shared.setReadOffset_writeOffset,Ring.ahead_self,Ring.window_zero]

/-- A synchronized queue refines a first-in first-out buffer one element smaller. -/
theorem synced_refines_fifo (env : Platform) (sizeofT : Nat) (sizeof_pos : 0 < sizeofT)
    (stale : MemZoneType → MemZone) (elementCount : UInt32) (i : ι) (fresh start : Shared ι)
    (q : SharedMemQueue)
    (made : (create env sizeofT sizeof_pos stale elementCount syncedSmq).run
      (serve syncedSmq i) fresh = (some q,start))
    (some_element : 1 ≤ elementCount.toNat) (zone : elementCount.toNat * sizeofT < 2^31)
    (calls : List (ι × Call)) :
    let spec := Machine.run Fifo.step (calls.map q.request)
      (Fifo.empty : Fifo Block (elementCount.toNat - 1))
    let final := (q.replies calls start).2
    List.zipWith answer calls (q.replies calls start).1 = spec.1 ∧
      ∀ j, q.readable j final = spec.2.content ∧
        q.getAvalidReadSize.run (serve syncedSmq j) final = (spec.2.content.length,final) ∧
        q.getAvalidWriteSize.run (serve syncedSmq j) final =
          (elementCount.toNat - spec.2.content.length,final) := by
  obtain ⟨built,sizes,counts,synced,_,_,_⟩ := create_usable env sizeofT sizeof_pos stale elementCount
    syncedSmq i fresh start q made
  have ready := create_holds env sizeofT sizeof_pos stale elementCount some_element i fresh start q
    made
  rw [← sizes,← counts] at zone
  have limit : q.metaData.getElementCount * q.sizeofT ≤ secureMemMaxLen := by
    unfold secureMemMaxLen
    omega
  rw [← counts]
  obtain ⟨answers,holds⟩ := Machine.run_refines q.respond Fifo.step q.request answer
    (fun s f => q.Holds s f.content) (q.respond_refines built synced limit) calls start
    (Fifo.empty : Fifo Block (q.metaData.getElementCount - 1)) ready
  have holds : q.Holds (q.replies calls start).2 _ := holds
  refine ⟨answers,fun j => ?_⟩
  have occupied := q.readable_length j (q.replies calls start).2
  have content := holds.readable_eq j
  rw [content] at occupied
  have reads := q.run_getAvalidReadSize built j _ (holds.inside j)
  have writes := q.run_getAvalidWriteSize built j _ (holds.inside j)
  rw [synced,← occupied] at reads writes
  exact ⟨content,reads,writes⟩

/-- Two elements of eight bytes, one of which can be in use. -/
theorem synced_refines_fifo_two : ∃ (q : SharedMemQueue) (start : Shared Unit),
    (create .granting 8 (by decide) (fun _ => ⟨0,0⟩) 2 syncedSmq).run (serve syncedSmq ())
        ⟨7,9,fun _ => 0,fun _ => 0⟩ = (some q,start) ∧
      List.zipWith answer
          [((),.write (fun _ => 5) 1),((),.write (fun _ => 6) 1),((),.read 1)]
          (q.replies [((),.write (fun _ => 5) 1),((),.write (fun _ => 6) 1),((),.read 1)] start).1 =
        [.offered true,.offered false,.taken (some [[5,5,5,5,5,5,5,5]])] := by
  refine ⟨_,_,rfl,?_⟩
  exact (synced_refines_fifo .granting 8 (by decide) (fun _ => ⟨0,0⟩) 2 ()
    ⟨7,9,fun _ => 0,fun _ => 0⟩ _ _ rfl (by decide) (by decide) _).1

end SharedMemQueue

end DriversAdapter.Smq
