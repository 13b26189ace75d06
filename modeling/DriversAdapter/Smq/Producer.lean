import DriversAdapter.Smq.Handshake

/-! The writer's side of the handshake: a write that passes its free space check stages
its elements behind the published ones, one slot at a time, and then publishes them. -/
namespace DriversAdapter.Smq
open DriversAdapter.Base DriversAdapter.Semantics DriversAdapter.Semantics.Program

namespace Board

/-- The outcome of one operation of side `i` on the queue. -/
def queueStep (q : SharedMemQueue) (i : Side) (op : QueueOp) (s : Board) (r : op.Res) (t : Board) :
    Prop :=
  r = (serve syncedSmq i op s.shared).1 ∧
    t = {s.note q i op with shared := (serve syncedSmq i op s.shared).2}

/-- The triple of side `i` for programs on the queue alone. -/
abbrev QueueTriple {α : Type} (q : SharedMemQueue) (i : Side) (calm : Phase → Prop)
    (ok : List Block → Prop) (post : α → Board → Prop) (p : QueueM α) (s : Board) : Prop :=
  Safe (rely q i) (queueStep q i) (fun op => duty q i calm ok (.queue op)) post p s

theorem triple_issueStep (q : SharedMemQueue) (permitted : Request → Prop) (i : Side)
    (calm : Phase → Prop) (ok : List Block → Prop) (c : Call) (post : Reply → Board → Prop)
    (s : Board) (issued : QueueTriple q i calm ok post (q.issue c) s) :
    Triple q permitted i calm ok post (q.issueStep c) s := by
  refine safe_embed SyncOp.queue _ (q.issue c) s ?_ (fun _ _ _ kept => kept) issued
  rintro op s r t ⟨_,_,ran⟩
  simp only [handshake,exec,Option.some.injEq,Prod.mk.injEq] at ran
  exact ⟨ran.1.symm,ran.2.symm⟩

/-- The writer has staged the first `k` of `count` elements behind the published ones. -/
structure Staged (q : SharedMemQueue) (calm : Phase → Prop) (done : List Block) (w count : Nat) (data : Bytes) (k : Nat)
    (s : Board) : Prop extends At q .writer done calm s where
  write_eq : s.shared.writeOffset = w
  room : s.occupancy q + count < q.metaData.getElementCount
  staged : ∀ j < k, s.slots q ((w + j) % q.metaData.getElementCount) = slot q.sizeofT data j

section Staged
variable (q : SharedMemQueue) (calm : Phase → Prop) (done : List Block) (w count : Nat) (data : Bytes) (k : Nat)

theorem staged_stable (s t : Board) (moved : rely q .writer s t)
    (here : Staged q calm done w count data k s) : Staged q calm done w count data k t := by
  have drained : Drained q s t := (moved here.inv).moved
  refine ⟨at_stable q .writer done _ s t moved here.toAt,drained.write_eq.trans here.write_eq,?_,?_⟩
  · have fewer := drained.occupancy_le
    have room := here.room
    omega
  · unfold slots
    rw [drained.buffer_eq]
    exact here.staged

variable (s : Board)

theorem slots_copyIn (p : Nat) (j : Nat) :
    slot q.sizeofT (writeBlock s.shared.queueBuffer (p * q.sizeofT)
      (chunk data (k * q.sizeofT) q.sizeofT)) j =
        if j = p then slot q.sizeofT data k else s.slots q j := by
  have copied := slot_copyBytes q.sizeofT s.shared.queueBuffer data p k 1 j
  rw [Nat.one_mul] at copied
  rw [writeBlock_chunk,copied]
  by_cases same : j = p
  · rw [if_pos (by omega),if_pos same,same,Nat.sub_self,Nat.add_zero]
  · rw [if_neg (by omega),if_neg same]
    rfl

variable (here : Staged q calm done w count data k s)
include here

/-- The slot of the next element is none that the reader may look at. -/
theorem staged_apart (more : k < count) (j : Nat) (within : j < s.occupancy q) :
    (s.shared.readOffset + j) % q.metaData.getElementCount ≠
      (w + k) % q.metaData.getElementCount := by
  have room := here.room
  have hw := here.inv.write_lt (by omega)
  rw [here.write_eq] at hw
  unfold occupancy at room within
  rw [here.write_eq] at room within
  exact Ring.window_ne _ _ _ _ _ (here.inv.read_lt (by omega)) hw within (by omega)

theorem copyIn_step (more : k < count) :
    let dst := (w + k) % q.metaData.getElementCount * q.sizeofT
    let block := chunk data (k * q.sizeofT) q.sizeofT
    let t : Board :=
      {s with shared := {s.shared with queueBuffer := writeBlock s.shared.queueBuffer dst block}}
    guar q .writer (.queue (.copyIn dst block)) s t ∧ Staged q calm done w count data (k + 1) t := by
  intro dst block t
  have apart := staged_apart q calm done w count data k s here more
  have slots_eq : ∀ j, t.slots q j = if j = (w + k) % q.metaData.getElementCount then
      slot q.sizeofT data k else s.slots q j :=
    slots_copyIn q data k s _
  have kept : ∀ j < s.occupancy q,
      t.slots q ((s.shared.readOffset + j) % q.metaData.getElementCount) =
        s.slots q ((s.shared.readOffset + j) % q.metaData.getElementCount) := by
    intro j within
    rw [slots_eq,if_neg (apart j within)]
  have content_eq : t.content q = s.content q := Ring.window_congr _ _ _ _ _ kept
  have inv : Inv q t := by
    refine ⟨here.inv.write_le,here.inv.read_le,?_,here.inv.window_le,here.inv.asleep⟩
    rw [content_eq]
    exact here.inv.published_eq
  refine ⟨fun _ => ⟨⟨inv,⟨rfl,rfl,rfl,Nat.le_refl _,kept⟩,rfl,.inl rfl,fun _ ready => ready⟩,?_⟩,
    ⟨⟨⟨inv,here.log_eq,here.phase_ok⟩,here.awake⟩,here.write_eq,here.room,?_⟩⟩
  · intro j checked
    have other := apart j (Nat.lt_of_lt_of_le checked here.inv.window_le)
    have length : block.length = q.sizeofT := chunk_length _ _ _
    rw [length]
    exact apart_of_ne q.sizeofT _ _ (Ne.symm other)
  · intro j early
    rw [slots_eq]
    have room := here.room
    have hw := here.inv.write_lt (by omega)
    rw [here.write_eq] at hw
    rcases Nat.lt_succ_iff_lt_or_eq.mp early with before | rfl
    · rw [if_neg,here.staged j before]
      intro same
      have near := Ring.ahead_step q.metaData.getElementCount w j hw (by omega)
      rw [same,Ring.ahead_step q.metaData.getElementCount w k hw (by omega)] at near
      omega
    · rw [if_pos rfl]

end Staged

theorem storeWriteOffset_step (q : SharedMemQueue) (calm : Phase → Prop)
    (quiet : ¬ calm .signalled) (done : List Block) (w count : Nat)
    (data : Bytes) (s : Board) (here : Staged q calm done w count data count s) :
    let stop := (w + count) % q.metaData.getElementCount
    let t : Board := {s.note q .writer (.storeWriteOffset stop) with
      shared := {s.shared with writeOffset := stop}}
    guar q .writer (.queue (.storeWriteOffset stop)) s t ∧
      At q .writer (done ++ q.items data count) (· = .stored) t := by
  intro stop t
  have room := here.room
  have hw := here.inv.write_lt (by omega)
  have hr := here.inv.read_lt (by omega)
  rw [here.write_eq] at hw
  unfold occupancy at room
  rw [here.write_eq] at room
  have stop_lt : stop < q.metaData.getElementCount := Nat.mod_lt _ (by omega)
  have gained : s.between q s.shared.writeOffset stop = q.items data count := by
    unfold between SharedMemQueue.items
    rw [here.write_eq,Ring.ahead_step _ w count hw (by omega)]
    apply List.map_congr_left
    intro j member
    exact here.staged j (List.mem_range.mp member)
  have longer : t.occupancy q = s.occupancy q + count := by
    unfold occupancy
    rw [here.write_eq]
    exact Ring.ahead_add _ _ _ _ hr hw room
  have content_eq : t.content q = s.content q ++ q.items data count := by
    unfold content between
    rw [← gained]
    unfold between
    rw [here.write_eq,Ring.ahead_step _ w count hw (by omega)]
    change Ring.window _ _ _ (t.occupancy q) = _
    rw [longer,Ring.window_add]
    unfold occupancy
    rw [here.write_eq,Ring.step_ahead _ _ _ hr hw]
  have stored : t.phase .writer = .stored := by simp [t,note]
  have ready : ∀ asked, t.Ready q .reader asked := fun asked => .inr (.inr stored)
  have inv : Inv q t := by
    refine ⟨Nat.le_sub_one_of_lt stop_lt,here.inv.read_le,?_,?_,fun j bits asked asleep => ?_⟩
    · change s.published ++ s.between q s.shared.writeOffset stop = s.released ++ t.content q
      rw [content_eq,gained,here.inv.published_eq,List.append_assoc]
    · have window_le : t.window ≤ s.occupancy q := here.inv.window_le
      omega
    · cases j with
      | writer => exact absurd (here.awake.symm.trans asleep) (by simp)
      | reader =>
        obtain ⟨same,_,clear⟩ := here.inv.asleep .reader bits asked asleep
        refine ⟨same,fun _ => ready asked,.inl ?_⟩
        rcases clear with unset | signalled
        · exact unset
        · have awaiting : s.phase .writer = .signalled := signalled
          exact absurd (awaiting ▸ here.phase_ok) quiet
  refine ⟨fun _ => ⟨⟨inv,⟨rfl,rfl,rfl,?_,fun _ _ => rfl⟩,?_,.inl rfl,fun asked _ => ready asked⟩,
    trivial⟩,⟨⟨inv,?_,stored⟩,here.awake⟩⟩
  · omega
  · simp [t,note,Side.other]
  · have before : s.published = done := here.log_eq
    change s.published ++ s.between q s.shared.writeOffset stop = _
    rw [gained,before]

section Write
variable (q : SharedMemQueue) (built : Constructed q) (calm : Phase → Prop) (quiet : ¬ calm .signalled)
variable (ok : List Block → Prop) (done : List Block)
variable (fine : ok done)

include fine in
theorem triple_copyElementsIn (w count : Nat) (data : Bytes) (m p k : Nat) (s : Board)
    (here : Staged q calm done w count data k s) (enough : k + m ≤ count)
    (aligned : ∀ j < m, (w + (k + j)) % q.metaData.getElementCount = p + j) :
    QueueTriple q .writer calm ok (fun _ t => Staged q calm done w count data (k + m) t)
      (copyElementsIn q.sizeofT (p * q.sizeofT) data (k * q.sizeofT) m) s := by
  induction m generalizing p k s with
  | zero => exact safe_done () s (fun s t moved => staged_stable q calm done w count data k s t moved) here
  | succ m ih =>
    have first : (w + k) % q.metaData.getElementCount = p := aligned 0 (Nat.succ_pos m)
    unfold copyElementsIn
    refine safe_call (Staged q calm done w count data k) (QueueOp.copyIn (p * q.sizeofT) _) _ s
      (staged_stable q calm done w count data k) here ?_
    rintro t staged r u ⟨_,rfl⟩
    obtain ⟨kept,after⟩ := copyIn_step q calm done w count data k t staged (by omega)
    rw [first] at kept after
    refine ⟨⟨kept,after.tracks fine,.inr staged.phase_ok⟩,?_⟩
    have next := ih (p + 1) (k + 1) _ after (by omega) (fun j bound => by
      have shifted := aligned (j + 1) (by omega)
      rw [show k + 1 + j = k + (j + 1) by omega,shifted]
      omega)
    rw [Nat.succ_mul,Nat.succ_mul] at next
    rwa [show k + (m + 1) = k + 1 + m by omega]

include fine in
/-- `memcpy_s` of elements that fit: all are staged, or the length is refused. -/
theorem triple_memcpyIn (w count : Nat) (data : Bytes) (m p k destMax : Nat) (s : Board)
    (here : Staged q calm done w count data k s) (enough : k + m ≤ count)
    (aligned : ∀ j < m, (w + (k + j)) % q.metaData.getElementCount = p + j)
    (pos : destMax ≠ 0) (fits : m * q.sizeofT ≤ destMax) :
    QueueTriple q .writer calm ok
      (fun err t => err = eok ∧ Staged q calm done w count data (k + m) t ∨
        err ≠ eok ∧ secureMemMaxLen < destMax ∧ Staged q calm done w count data k t)
      (memcpyIn q.sizeofT (p * q.sizeofT) destMax data (k * q.sizeofT) (m * q.sizeofT)) s := by
  have stable : ∀ err s t, rely q .writer s t →
      (err = eok ∧ Staged q calm done w count data (k + m) s ∨
        err ≠ eok ∧ secureMemMaxLen < destMax ∧ Staged q calm done w count data k s) →
      (err = eok ∧ Staged q calm done w count data (k + m) t ∨
        err ≠ eok ∧ secureMemMaxLen < destMax ∧ Staged q calm done w count data k t) := by
    rintro err s t moved (⟨ok,staged⟩ | ⟨failed,large,staged⟩)
    · exact .inl ⟨ok,staged_stable q calm done w count data _ s t moved staged⟩
    · exact .inr ⟨failed,large,staged_stable q calm done w count data _ s t moved staged⟩
  unfold memcpyIn
  rw [Nat.mul_div_cancel _ q.sizeof_pos,Nat.mul_mod_left,if_pos rfl]
  split_ifs with refused short
  · exact safe_done _ s (stable _) (.inr ⟨by decide,by omega,here⟩)
  · omega
  · refine safe_bind (rely_refl q .writer) _ _ s
      (triple_copyElementsIn q calm ok done fine w count data m p k s here enough aligned) ?_
    intro _ t staged
    exact safe_done _ t (stable _) (.inl ⟨rfl,staged⟩)

/-- The writer has counted the elements not released; there have not become more since. -/
structure Measured (q : SharedMemQueue) (calm : Phase → Prop) (done : List Block) (n : Nat) (s : Board) : Prop
    extends At q .writer done calm s where
  occupancy_le : s.occupancy q ≤ n
  count_le : n ≤ q.metaData.getElementCount - 1
  ready : ∀ count, q.metaData.getElementCount ≤ n + count → s.Ready q .writer count

theorem measured_stable (n : Nat) (s t : Board) (moved : rely q .writer s t)
    (here : Measured q calm done n s) : Measured q calm done n t := by
  have sees := moved here.inv
  have drained : Drained q s t := sees.moved
  exact ⟨at_stable q .writer done _ s t moved here.toAt,
    Nat.le_trans drained.occupancy_le here.occupancy_le,here.count_le,
    fun count full => sees.ready count (here.ready count full)⟩

include built fine in
theorem triple_getAvalidReadSize (s : Board) (here : At q .writer done calm s) :
    QueueTriple q .writer calm ok (Measured q calm done) q.getAvalidReadSize s := by
  rw [SharedMemQueue.getAvalidReadSize_eq]
  refine safe_call (At q .writer done calm) QueueOp.loadWriteOffset _ s
    (at_stable q .writer done _) here ?_
  rintro t here r u ⟨rfl,rfl⟩
  refine ⟨duty_refl here.toRests fine _ trivial,?_⟩
  -- the writer's own offset does not move until the other one is loaded
  refine safe_call (fun u => At q .writer done calm u ∧
    u.shared.writeOffset = t.shared.writeOffset) QueueOp.loadReadOffset _ t ?_ ⟨here,rfl⟩ ?_
  · rintro u v moved ⟨here,same⟩
    have drained : Drained q u v := (moved here.inv).moved
    exact ⟨at_stable q .writer done _ u v moved here,drained.write_eq.trans same⟩
  rintro u ⟨here,same⟩ r v ⟨rfl,rfl⟩
  refine ⟨duty_refl here.toRests fine _ trivial,?_⟩
  have found : q.avalid u.shared.writeOffset u.shared.readOffset = u.occupancy q :=
    q.avalid_eq built _ _ (Nat.le_trans here.inv.write_le (Nat.sub_le _ _))
      (Nat.le_trans here.inv.read_le (Nat.sub_le _ _))
  have measured : Measured q calm done (q.avalid u.shared.writeOffset u.shared.readOffset) u := by
    rw [found]
    exact ⟨here,Nat.le_refl _,here.inv.occupancy_le,
      fun count full => .inl full⟩
  rw [same] at measured
  exact safe_done _ u (measured_stable q calm done _) measured

/-- What a write leaves: its elements published, or nothing, and then the writer may
sleep if it fails for lack of places alone. -/
def Written (q : SharedMemQueue) (calm : Phase → Prop) (done : List Block) (data : Bytes) (count : Nat) (ret : Int)
    (s : Board) : Prop :=
  ret = 0 ∧ At q .writer (done ++ q.items data count) (· = .stored) s ∨
    ret ≠ 0 ∧ At q .writer done calm s ∧
      (Served q .writer count → s.Ready q .writer count)

theorem written_stable (data : Bytes) (count : Nat) (ret : Int) (s t : Board)
    (moved : rely q .writer s t) (here : Written q calm done data count ret s) :
    Written q calm done data count ret t := by
  rcases here with ⟨ok,here⟩ | ⟨failed,here,ready⟩
  · exact .inl ⟨ok,at_stable q .writer _ _ s t moved here⟩
  · exact .inr ⟨failed,at_stable q .writer _ _ s t moved here,
      fun serves => (moved here.inv).ready count (ready serves)⟩

include quiet in
theorem triple_publish (w count : Nat) (data : Bytes) (published : ok (done ++ q.items data count))
    (s : Board)
    (here : Staged q calm done w count data count s) :
    QueueTriple q .writer calm ok (Written q calm done data count)
      (do storeWriteOffset ((w + count) % q.metaData.getElementCount); return 0) s := by
  refine safe_call (Staged q calm done w count data count)
    (QueueOp.storeWriteOffset ((w + count) % q.metaData.getElementCount)) _ s
    (staged_stable q calm done w count data count) here ?_
  rintro t staged r u ⟨_,rfl⟩
  obtain ⟨kept,after⟩ := storeWriteOffset_step q calm quiet done w count data t staged
  exact ⟨⟨kept,after.tracks published,.inr staged.phase_ok⟩,
    safe_done 0 _ (written_stable q calm done data count 0) (.inl ⟨rfl,after⟩)⟩

theorem triple_refused (w count k : Nat) (data : Bytes) (s : Board)
    (here : Staged q calm done w count data k s)
    (large : secureMemMaxLen < q.metaData.getElementCount * q.sizeofT) :
    QueueTriple q .writer calm ok (Written q calm done data count) (.done hdfFailure) s :=
  safe_done hdfFailure s (written_stable q calm done data count hdfFailure)
    (.inr ⟨by decide,here.toAt,fun serves => absurd large (Nat.not_lt.mpr serves)⟩)

include built fine in
theorem triple_getAvalidWriteSize (s : Board) (here : At q .writer done calm s) :
    QueueTriple q .writer calm ok
      (fun room t => ∃ n, Measured q calm done n t ∧ room = q.metaData.getElementCount - n)
      q.getAvalidWriteSize s := by
  have counts := built.count_le
  unfold SharedMemQueueMeta.uint16Max at counts
  refine safe_bind (rely_refl q .writer) _ _ s (triple_getAvalidReadSize q built calm ok done fine s here) ?_
  intro n t measured
  have near := measured.count_le
  rw [sub64_of_le _ n (by omega) (by omega)]
  refine safe_done _ t ?_ ⟨n,measured,rfl⟩
  rintro s t moved ⟨m,before,same⟩
  exact ⟨m,measured_stable q calm done m s t moved before,same⟩

include built quiet fine in
theorem triple_copies (w count : Nat) (data : Bytes) (published : ok (done ++ q.items data count))
    (s : Board)
    (here : Staged q calm done w count data 0 s) :
    QueueTriple q .writer calm ok (Written q calm done data count) (do
      let qCount := q.metaData.getElementCount
      if u64 (w + count) ≤ qCount then
        let err ← memcpyIn q.sizeofT (u64 (w * q.sizeofT)) (u64 (sub64 qCount w * q.sizeofT)) data 0
          (u64 (count * q.sizeofT))
        if err ≠ eok then
          return hdfFailure
        else
          storeWriteOffset (u64 (w + count) % qCount)
          return 0
      else
        let firstPartSize := sub64 qCount w
        let secParcSize := sub64 count firstPartSize
        let err ← memcpyIn q.sizeofT (u64 (w * q.sizeofT)) (u64 (sub64 qCount w * q.sizeofT)) data 0
          (u64 (firstPartSize * q.sizeofT))
        if err ≠ eok then
          return hdfFailure
        else
          let err ← memcpyIn q.sizeofT 0 (u64 (qCount * q.sizeofT)) data
            (u64 (firstPartSize * q.sizeofT)) (u64 (secParcSize * q.sizeofT))
          if err ≠ eok then
            return hdfFailure
          else
            storeWriteOffset secParcSize
            return 0) s := by
  have counts := built.count_le
  have room := here.room
  have hw : w < q.metaData.getElementCount := here.write_eq ▸ here.inv.write_lt (by omega)
  unfold SharedMemQueueMeta.uint16Max at counts
  have part : (q.metaData.getElementCount - w) * q.sizeofT ≤
      q.metaData.getElementCount * q.sizeofT := Nat.mul_le_mul_right _ (Nat.sub_le _ _)
  have some : (q.metaData.getElementCount - w) * q.sizeofT ≠ 0 :=
    Nat.ne_of_gt (Nat.mul_pos (by omega) q.sizeof_pos)
  have some_all : q.metaData.getElementCount * q.sizeofT ≠ 0 :=
    Nat.ne_of_gt (Nat.mul_pos (by omega) q.sizeof_pos)
  dsimp only
  rw [u64_of_lt (w + count) (by omega),sub64_of_le _ w (Nat.le_of_lt hw) (by omega),
    q.u64_bytes built w (Nat.le_of_lt hw),q.u64_bytes built _ (Nat.sub_le _ _),
    q.u64_bytes built count (by omega),q.u64_bytes built _ (Nat.le_refl _)]
  split_ifs with fit
  · have copied := triple_memcpyIn q calm ok done fine w count data count w 0 _ s here (by omega)
      (fun j bound => by rw [Nat.zero_add,Nat.mod_eq_of_lt (by omega)]) some
      (Nat.mul_le_mul_right q.sizeofT (show count ≤ q.metaData.getElementCount - w by omega))
    rw [Nat.zero_mul,Nat.zero_add] at copied
    refine safe_bind (rely_refl q .writer) _ _ s copied ?_
    rintro err t (⟨rfl,staged⟩ | ⟨failed,large,staged⟩)
    · rw [if_neg (not_not.mpr rfl)]
      exact triple_publish q calm quiet ok done w count data published t staged
    · rw [if_pos failed]
      exact triple_refused q calm ok done w count 0 data t staged (by omega)
  · rw [sub64_of_le _ _ (by omega) (by omega),q.u64_bytes built _ (by omega)]
    have stop : count - (q.metaData.getElementCount - w) =
        (w + count) % q.metaData.getElementCount := by
      rw [Ring.mod_of_lt_double _ _ (by omega),if_neg (by omega)]
      omega
    have first := triple_memcpyIn q calm ok done fine w count data (q.metaData.getElementCount - w) w 0 _ s here
      (by omega) (fun j bound => by rw [Nat.zero_add,Nat.mod_eq_of_lt (by omega)]) some
      (Nat.le_refl _)
    rw [Nat.zero_mul,Nat.zero_add] at first
    refine safe_bind (rely_refl q .writer) _ _ s first ?_
    rintro err t (⟨rfl,staged⟩ | ⟨failed,large,staged⟩)
    · rw [if_neg (not_not.mpr rfl)]
      -- the second part starts at slot 0
      have second := triple_memcpyIn q calm ok done fine w count data
        (count - (q.metaData.getElementCount - w)) 0 (q.metaData.getElementCount - w) _ t staged
        (by omega) (fun j bound => by
          rw [Ring.mod_of_lt_double _ _ (by omega),if_neg (by omega)]
          omega) some_all
        (Nat.mul_le_mul_right q.sizeofT
          (show count - (q.metaData.getElementCount - w) ≤ q.metaData.getElementCount by omega))
      rw [Nat.zero_mul,Nat.add_sub_cancel' (by omega)] at second
      refine safe_bind (rely_refl q .writer) _ _ t second ?_
      rintro err u (⟨rfl,staged⟩ | ⟨failed,large,staged⟩)
      · rw [if_neg (not_not.mpr rfl),stop]
        exact triple_publish q calm quiet ok done w count data published u staged
      · rw [if_pos failed]
        exact triple_refused q calm ok done w count _ data u staged large
    · rw [if_pos failed]
      exact triple_refused q calm ok done w count 0 data t staged (by omega)

include built quiet fine in
theorem triple_writeNonBlocking (synced : q.metaData.getType = syncedSmq) (data : Bytes)
    (count : Nat) (published : ok (done ++ q.items data count)) (s : Board) (here : At q .writer done calm s) :
    QueueTriple q .writer calm ok (Written q calm done data count) (q.writeNonBlocking data count) s := by
  unfold SharedMemQueue.writeNonBlocking
  refine safe_bind (rely_refl q .writer) _ _ s (triple_getAvalidWriteSize q built calm ok done fine s here) ?_
  rintro room t ⟨n,measured,rfl⟩
  split_ifs with full
  · refine safe_done _ t (written_stable q calm done data count _) (.inr ⟨by decide,measured.toAt,?_⟩)
    exact fun _ => measured.ready count (by omega)
  have few : count < q.metaData.getElementCount - n :=
    Nat.lt_of_not_le (fun le => full ⟨le,synced⟩)
  refine safe_call (Measured q calm done n) QueueOp.loadWriteOffset _ t (measured_stable q calm done n)
    measured ?_
  rintro u measured r v ⟨rfl,rfl⟩
  refine ⟨duty_refl measured.toRests fine _ trivial,?_⟩
  have occupancy_le := measured.occupancy_le
  have staged : Staged q calm done u.shared.writeOffset count data 0 u :=
    ⟨measured.toAt,rfl,by omega,fun j none => absurd none (Nat.not_lt_zero j)⟩
  refine safe_call (Staged q calm done u.shared.writeOffset count data 0) QueueOp.loadReadOffset _ u
    (staged_stable q calm done _ count data 0) staged ?_
  rintro v staged r x ⟨rfl,rfl⟩
  exact ⟨duty_refl staged.toRests fine _ trivial,
    triple_copies q built calm quiet ok done fine _ count data published v staged⟩

end Write

end Board

end DriversAdapter.Smq
