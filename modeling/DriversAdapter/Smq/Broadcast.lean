import DriversAdapter.Smq.Offsets

/-! A queue that is not synchronized, with any number of readers: what a reader finds is
the end of the stream of written elements, however often the writer has lapped it. -/
namespace DriversAdapter.Smq
open DriversAdapter.Base DriversAdapter.Semantics DriversAdapter.Semantics.Program

variable {ι : Type} [DecidableEq ι]

namespace Peers

/-- The elements that an event has added to the stream. -/
def appended (q : SharedMemQueue) : Event ι → Option Reply → List Block
  | .call _ (.write data count), some r => if r.ret = 0 then q.items data count.toNat else []
  | _, _ => []

def written (q : SharedMemQueue) (events : List (Event ι)) (replies : List (Option Reply)) :
    List Block :=
  (List.zipWith (appended q) events replies).flatten

/-- Writes of less than one turn. -/
def Short (q : SharedMemQueue) : Event ι → Prop
  | .call _ (.write _ count) => count.toNat ≤ q.metaData.getElementCount - 1
  | _ => True

instance (q : SharedMemQueue) : (e : Event ι) → Decidable (Short q e)
  | .attach _ => .isTrue trivial
  | .call _ (.write _ count) =>
    inferInstanceAs (Decidable (count.toNat ≤ q.metaData.getElementCount - 1))
  | .call _ (.read _) => .isTrue trivial

/-- The ring holds the end of the stream, and no reader is ahead of it. A ring that cannot be
copied as a whole is never written to. -/
structure Follows (q : SharedMemQueue) (s : Peers ι) (stream : List Block) : Prop where
  kept : Kept q s
  write_eq : s.shared.writeOffset = stream.length % q.metaData.getElementCount
  logged : Ring.Logged q.metaData.getElementCount (slot q.sizeofT s.shared.queueBuffer) stream
  behind : ∀ i, s.attached i → stream.length < q.metaData.getElementCount →
    s.shared.readOffsetOf q.metaData.getType i ≤ stream.length
  unwritten : secureMemMaxLen < q.metaData.getElementCount * q.sizeofT → stream = []

section Reader
variable (q : SharedMemQueue) (s : Peers ι) (stream : List Block) (follows : Follows q s stream)
variable (i : ι) (present : s.attached i)
include follows present

omit [DecidableEq ι] in
theorem occupancy_le_stream : q.occupancy i s.shared ≤ stream.length := by
  have near := q.occupancy_lt i s.shared (follows.kept.inRing q s i present)
  rcases Nat.lt_or_ge stream.length q.metaData.getElementCount with first | later
  · -- the first turn: the write offset is the length of the stream
    have behind := follows.behind i present first
    have ends := follows.write_eq
    rw [Nat.mod_eq_of_lt first] at ends
    unfold SharedMemQueue.occupancy Ring.ahead
    rw [ends,if_pos behind]
    exact Nat.sub_le _ _
  · omega

omit [DecidableEq ι] in
theorem readable_eq_suffix :
    q.readable i s.shared = stream.drop (stream.length - q.occupancy i s.shared) := by
  have inside := follows.kept.inRing q s i present
  have near := q.occupancy_lt i s.shared inside
  refine Ring.window_logged _ _ stream _ _ follows.logged (Nat.le_of_lt near)
    (occupancy_le_stream q s stream follows i present) ?_
  rw [Ring.step_ahead _ _ _ inside.read_lt inside.write_lt,follows.write_eq]

/-- A read succeeds just for the counts that the reader has before it. -/
theorem follows_read_ok_iff (count : Nat) :
    (q.readOutcome i count s.shared).1.1 = 0 ↔ 1 ≤ count ∧ count ≤ q.occupancy i s.shared := by
  by_cases zone : q.metaData.getElementCount * q.sizeofT ≤ secureMemMaxLen
  · exact q.readOutcome_ok_iff i count s.shared (follows.kept.inRing q s i present) zone
  · have nothing := occupancy_le_stream q s stream follows i present
    rw [follows.unwritten (Nat.lt_of_not_le zone),List.length_nil] at nothing
    rcases q.readOutcome_cases i count s.shared with ⟨err,failed,same⟩ | ⟨some_element,within,_⟩
    · rw [same]
      exact iff_of_false failed (by omega)
    · omega

end Reader

section Step
variable (env : Platform) (q : SharedMemQueue) (built : Constructed q)
variable (sized : q.metaData.getElementSize = q.sizeofT)
variable (unsynced : q.metaData.getType ≠ syncedSmq)

omit [DecidableEq ι] in
theorem keeps_of_short (e : Event ι) (s : Peers ι) (kept : Kept q s) (short : Short q e) :
    Keeps q e s := by
  have hw := kept.write_lt
  rcases e with i | ⟨i,⟨data,count⟩ | ⟨count⟩⟩
  · trivial
  · simp only [Short] at short
    exact .inr (.inl (by omega))
  · trivial

include sized in
theorem follows_attach (i : ι) (s : Peers ι) (stream : List Block)
    (follows : Follows q s stream) : Follows q (step env q (.attach i) s).2 stream := by
  refine ⟨kept_attach env q sized i s follows.kept,?_,?_,fun j present first => ?_,
    follows.unwritten⟩
  · rw [step_attach env q sized i s]
    split <;> simpa using follows.write_eq
  · rw [step_attach env q sized i s]
    split <;> simpa using follows.logged
  · rcases readOffset_attach env q sized i j s present with zero | ⟨before,same⟩
    · rw [zero]
      exact Nat.zero_le _
    · rw [same]
      exact follows.behind j before first

include built unsynced in
theorem follows_write (i : ι) (data : Bytes) (count : UInt64) (s : Peers ι) (stream : List Block)
    (present : s.attached i) (short : Short q (.call i (.write data count) : Event ι))
    (follows : Follows q s stream) :
    Follows q (step env q (.call i (.write data count)) s).2
      (stream ++ appended q (.call i (.write data count))
        (step env q (.call i (.write data count)) s).1) := by
  have inside := follows.kept.inRing q s i present
  have hw := inside.write_lt
  have kept := kept_call env q built i (.write data count) s follows.kept
    (keeps_of_short q _ s follows.kept short)
  rw [step_call env q i _ s follows.kept.opened present,
    q.respond_write built i data count s.shared inside] at kept ⊢
  simp only [appended,Short] at short ⊢
  by_cases zone : q.metaData.getElementCount * q.sizeofT ≤ secureMemMaxLen
  · obtain ⟨memory,wrote,overwritten⟩ := q.writeOutcome_accepted built i data count.toNat s.shared
      inside zone (.inr unsynced) (by omega)
    rw [wrote] at kept ⊢
    rw [if_pos rfl]
    refine ⟨kept,?_,?_,fun j other first => ?_,fun large => absurd large (Nat.not_lt.mpr zone)⟩
    · simp only [SharedMemQueue.items,List.length_append,List.length_map,List.length_range]
      rw [follows.write_eq,Nat.mod_add_mod]
    · rw [follows.write_eq] at overwritten
      exact Ring.logged_append _ _ _ _ _ _ (by omega) (by omega) follows.logged overwritten
    · rw [List.length_append] at first ⊢
      exact Nat.le_add_right_of_le (follows.behind j other (by omega))
  · -- no copy is accepted, so nothing has ever been written
    have refused : q.writeOutcome i data count.toNat s.shared = (hdfFailure,s.shared) := by
      have first := follows.kept.large (Nat.lt_of_not_le zone)
      unfold SharedMemQueue.writeOutcome
      dsimp only
      rw [if_neg (fun full => unsynced full.2),first,Nat.sub_zero,if_pos (Nat.lt_of_not_le zone)]
    rw [refused]
    simpa [hdfFailure] using follows

include built in
theorem follows_read (i : ι) (count : UInt64) (s : Peers ι) (stream : List Block)
    (present : s.attached i) (follows : Follows q s stream) :
    Follows q (step env q (.call i (.read count)) s).2 stream := by
  have inside := follows.kept.inRing q s i present
  have kept := kept_call env q built i (.read count) s follows.kept trivial
  rw [step_call env q i _ s follows.kept.opened present,
    q.respond_read built i count s.shared inside] at kept ⊢
  rcases q.readOutcome_cases i count.toNat s.shared with ⟨_,_,same⟩ | ⟨_,within,same⟩
  · rw [same]
    exact ⟨follows.kept,follows.write_eq,follows.logged,follows.behind,follows.unwritten⟩
  · rw [same] at kept ⊢
    refine ⟨kept,by simpa using follows.write_eq,by simpa using follows.logged,?_,
      follows.unwritten⟩
    intro j other first
    have ends := follows.write_eq
    rw [Nat.mod_eq_of_lt first] at ends
    dsimp only
    rw [Shared.readOffsetOf_setReadOffset]
    split
    next =>
      -- before the first lap the offsets are positions of the stream
      have behind := follows.behind i present first
      unfold SharedMemQueue.occupancy Ring.ahead at within
      rw [ends,if_pos behind] at within
      rw [Nat.mod_eq_of_lt (by omega)]
      omega
    next => exact follows.behind j other first

include built sized unsynced in
theorem follows_step (e : Event ι) (s : Peers ι) (stream : List Block) (short : Short q e)
    (follows : Follows q s stream) :
    Follows q (step env q e s).2 (stream ++ appended q e (step env q e s).1) := by
  rcases e with i | ⟨i,c⟩
  · rw [appended,List.append_nil]
    · exact follows_attach env q sized i s stream follows
    · simp
  · by_cases present : s.handle i = none
    · rw [step_call_detached env q i c s present]
      rcases c with ⟨data,count⟩ | ⟨count⟩ <;> simpa [appended] using follows
    · rcases c with ⟨data,count⟩ | ⟨count⟩
      · exact follows_write env q built unsynced i data count s stream present short follows
      · rw [appended,List.append_nil]
        · exact follows_read env q built i count s stream present follows
        · simp

include built sized unsynced in
theorem follows_run (events : List (Event ι)) (s : Peers ι) (stream : List Block)
    (short : ∀ e ∈ events, Short q e) (follows : Follows q s stream) :
    Follows q (Machine.run (step env q) events s).2
      (stream ++ written q events (Machine.run (step env q) events s).1) := by
  induction events generalizing s stream with
  | nil => simpa [Machine.run,written] using follows
  | cons e rest ih =>
    have next := follows_step env q built sized unsynced e s stream (short e (by simp)) follows
    have later := ih _ _ (fun e member => short e (List.mem_cons_of_mem _ member)) next
    simpa [Machine.run,written] using later

end Step

section Stream
variable (env : Platform) (sizeofT : Nat) (sizeof_pos : 0 < sizeofT)
variable (stale : MemZoneType → MemZone) (elementCount : UInt32) (i : ι)
variable (fresh start : Shared ι) (q : SharedMemQueue)

theorem opening_follows
    (made : (SharedMemQueue.create env sizeofT sizeof_pos stale elementCount unsyncSmq).run
      (serve unsyncSmq i) fresh = (some q,start)) (some_element : 1 ≤ elementCount.toNat) :
    Follows q (opening q i start) [] := by
  obtain ⟨_,_,_,types,_,_,rfl⟩ := SharedMemQueue.create_usable env sizeofT sizeof_pos stale
    elementCount unsyncSmq i fresh start q made
  refine ⟨opening_kept env sizeofT sizeof_pos stale elementCount unsyncSmq i fresh _ q made
    some_element,?_,?_,fun j present _ => ?_,fun _ => rfl⟩
  · rw [List.length_nil,Nat.zero_mod]
    exact Shared.setReadOffset_writeOffset _ _ _ _
  · intro k old
    simp at old
  · obtain ⟨mine,same⟩ := Option.ne_none_iff_exists'.mp present
    obtain ⟨rfl,_⟩ := opening_handle q i j _ mine same
    unfold opening
    rw [types,Shared.readOffsetOf_set]
    exact Nat.zero_le _

/-- Every reader of a queue that is not synchronized has the end of the written stream before it.
It can read just what is there, gets it from its beginning, and leaves the other readers alone. -/
theorem unsynced_readers_follow
    (made : (SharedMemQueue.create env sizeofT sizeof_pos stale elementCount unsyncSmq).run
      (serve unsyncSmq i) fresh = (some q,start)) (some_element : 1 ≤ elementCount.toNat)
    (events : List (Event ι)) (short : ∀ e ∈ events, Short q e) (j : ι) :
    let out := Machine.run (step env q) events (opening q i start)
    let stream := written q events out.1
    let n := elementCount.toNat
    let m := (out.2.shared.writeOffset + n - out.2.shared.readOffsetOf unsyncSmq j) % n
    out.2.attached j →
      m ≤ stream.length ∧ q.readable j out.2.shared = stream.drop (stream.length - m) ∧
      ∀ count, ∃ r t, step env q (.call j (.read count)) out.2 = (some r,t) ∧
        (r.ret = 0 ↔ 1 ≤ count.toNat ∧ count.toNat ≤ m) ∧
        (r.ret = 0 → r.data = (stream.drop (stream.length - m)).take count.toNat ∧
          r.data <:+: stream ∧
          q.readable j t.shared = stream.drop (stream.length - m + count.toNat)) ∧
        ∀ k, k ≠ j → q.readable k t.shared = q.readable k out.2.shared := by
  obtain ⟨built,_,counts,types,sized,_,_⟩ := SharedMemQueue.create_usable env sizeofT sizeof_pos
    stale elementCount unsyncSmq i fresh start q made
  have unsynced : q.metaData.getType ≠ syncedSmq := by
    rw [types]
    decide
  have ready := opening_follows env sizeofT sizeof_pos stale elementCount i fresh start q made
    some_element
  intro out stream n m present
  have follows : Follows q out.2 stream := follows_run env q built sized unsynced events _ [] short
    ready
  have inside := follows.kept.inRing q _ j present
  have window : m = q.occupancy j out.2.shared := by
    unfold m n SharedMemQueue.occupancy
    rw [← Ring.ahead_eq_mod _ _ _ inside.read_lt inside.write_lt,types,counts]
  have suffix := readable_eq_suffix q _ stream follows j present
  rw [window]
  refine ⟨occupancy_le_stream q _ stream follows j present,suffix,fun count => ?_⟩
  have called := step_call env q j (.read count) _ follows.kept.opened present
  rw [q.respond_read built j count _ inside] at called
  refine ⟨_,_,called,follows_read_ok_iff q _ stream follows j present count.toNat,?_⟩
  rcases q.readOutcome_cases j count.toNat out.2.shared with ⟨_,failed,same⟩ | ⟨_,within,same⟩
  · rw [same]
    exact ⟨fun ok => absurd ok failed,fun _ _ => rfl⟩
  · rw [same]
    refine ⟨fun _ => ?_,fun k other => ?_⟩
    · dsimp only
      rw [q.readable_read j count.toNat out.2.shared inside within,suffix,List.drop_drop]
      exact ⟨rfl,(List.take_prefix _ _).isInfix.trans (List.drop_suffix _ _).isInfix,rfl⟩
    · unfold SharedMemQueue.readable
      dsimp only
      rw [Shared.readOffsetOf_setReadOffset,if_neg (by simp [unsynced,other]),
        Shared.setReadOffset_writeOffset,Shared.setReadOffset_queueBuffer]

/-- A reader that attaches late to a ring of three slots, into which five elements are written:
it reads the last two of them, and then there is nothing left for it. -/
theorem unsynced_readers_follow_late : ∃ (q : SharedMemQueue) (start : Shared Bool),
    (SharedMemQueue.create .granting 8 (by decide) (fun _ => ⟨0,0⟩) 3 unsyncSmq).run
        (serve unsyncSmq true) ⟨7,9,fun _ => 0,fun _ => 0⟩ = (some q,start) ∧
      let s := (Machine.run (step .granting q)
        [.call true (.write (fun _ => 3) 1),.call true (.write (fun _ => 4) 2),.attach false,
          .call true (.write (fun a => UInt8.ofNat (5 + a / 8)) 2)] (opening q true start)).2
      ∃ r t, step .granting q (.call false (.read 2)) s = (some r,t) ∧ r.ret = 0 ∧
        r.data = [[5,5,5,5,5,5,5,5],[6,6,6,6,6,6,6,6]] ∧ q.readable false t.shared = [] := by
  refine ⟨_,_,rfl,?_⟩
  intro s
  obtain ⟨_,_,reads⟩ := unsynced_readers_follow .granting 8 (by decide) (fun _ => ⟨0,0⟩) 3 true
    ⟨7,9,fun _ => 0,fun _ => 0⟩ _ _ rfl (by decide)
    [.call true (.write (fun _ => 3) 1),.call true (.write (fun _ => 4) 2),.attach false,
      .call true (.write (fun a => UInt8.ofNat (5 + a / 8)) 2)] (by decide) false
    (Option.isSome_iff_ne_none.mp rfl)
  obtain ⟨r,t,called,succeeds,gets,_⟩ := reads 2
  have ok : r.ret = 0 := succeeds.mpr (by decide +kernel)
  obtain ⟨data,_,left⟩ := gets ok
  refine ⟨r,t,called,ok,data.trans ?_,left.trans ?_⟩
  all_goals decide +kernel

end Stream

end Peers

end DriversAdapter.Smq
