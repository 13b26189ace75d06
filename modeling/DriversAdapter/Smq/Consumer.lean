import DriversAdapter.Smq.Producer

/-! The reader's side of the handshake: what it has counted stays where it is until the
read offset moves past it, and then it has been read in order. -/
namespace DriversAdapter.Smq
open DriversAdapter.Base DriversAdapter.Semantics DriversAdapter.Semantics.Program

namespace Board

section Read
variable (q : SharedMemQueue) (built : Constructed q) (calm : Phase → Prop) (quiet : ¬ calm .signalled)
variable (ok : List Block → Prop) (done : List Block)
variable (fine : ok done)

/-- The reader has counted `n` elements; there have not become fewer since. -/
structure Counted (q : SharedMemQueue) (calm : Phase → Prop) (done : List Block) (n : Nat) (s : Board) : Prop
    extends At q .reader done calm s where
  le_occupancy : n ≤ s.occupancy q
  ready : ∀ count, n < count → s.Ready q .reader count

theorem counted_stable (n : Nat) (s t : Board) (moved : rely q .reader s t)
    (here : Counted q calm done n s) : Counted q calm done n t := by
  have sees := moved here.inv
  have filled : Filled q s t := sees.moved
  exact ⟨at_stable q .reader done _ s t moved here.toAt,
    Nat.le_trans here.le_occupancy filled.occupancy_le,
    fun count short => sees.ready count (here.ready count short)⟩

include built fine in
theorem triple_getAvalidReadSize_reader (s : Board) (here : At q .reader done calm s) :
    QueueTriple q .reader calm ok (Counted q calm done) q.getAvalidReadSize s := by
  rw [SharedMemQueue.getAvalidReadSize_eq]
  refine safe_call (At q .reader done calm) QueueOp.loadWriteOffset _ s
    (at_stable q .reader done _) here ?_
  rintro t here r u ⟨rfl,rfl⟩
  refine ⟨duty_refl here.toRests fine _ trivial,?_⟩
  have found : q.avalid t.shared.writeOffset t.shared.readOffset = t.occupancy q :=
    q.avalid_eq built _ _ (Nat.le_trans here.inv.write_le (Nat.sub_le _ _))
      (Nat.le_trans here.inv.read_le (Nat.sub_le _ _))
  have counted : Counted q calm done (q.avalid t.shared.writeOffset t.shared.readOffset) t := by
    rw [found]
    exact ⟨here,Nat.le_refl _,fun count short => .inl short⟩
  -- the reader's own offset does not move until it is loaded
  refine safe_call (fun u => Counted q calm done (q.avalid t.shared.writeOffset t.shared.readOffset) u ∧
    u.shared.readOffset = t.shared.readOffset) QueueOp.loadReadOffset _ t ?_ ⟨counted,rfl⟩ ?_
  · rintro u v moved ⟨here,same⟩
    have filled : Filled q u v := (moved here.inv).moved
    exact ⟨counted_stable q calm done _ u v moved here,filled.read_eq.trans same⟩
  rintro u ⟨here,same⟩ r v ⟨rfl,rfl⟩
  refine ⟨duty_refl here.toRests fine _ trivial,?_⟩
  rw [← same] at here
  exact safe_done _ u (counted_stable q calm done _) here

/-- The reader has checked `count` elements from slot `r` on. -/
structure Checked (q : SharedMemQueue) (calm : Phase → Prop) (done : List Block) (r count : Nat) (s : Board) : Prop
    extends At q .reader done calm s where
  read_eq : s.shared.readOffset = r
  some : 0 < count
  within : count ≤ s.occupancy q

theorem Checked.pos {q : SharedMemQueue} {calm : Phase → Prop} {done : List Block} {r count : Nat}
    {s : Board} (here : Checked q calm done r count s) : 0 < q.metaData.getElementCount := by
  have some := here.some
  have within := here.within
  have le := here.inv.occupancy_le
  omega

/-- It has copied some of them, in order. -/
structure Copied (q : SharedMemQueue) (calm : Phase → Prop) (done : List Block) (r count : Nat) (out : List Block)
    (s : Board) : Prop extends Checked q calm done r count s where
  copied_le : out.length ≤ count
  out_eq : out = Ring.window q.metaData.getElementCount (s.slots q) r out.length

section Checked
variable (r count : Nat)

theorem checked_stable (s t : Board) (moved : rely q .reader s t)
    (here : Checked q calm done r count s) : Checked q calm done r count t := by
  have filled : Filled q s t := (moved here.inv).moved
  exact ⟨at_stable q .reader done _ s t moved here.toAt,filled.read_eq.trans here.read_eq,
    here.some,Nat.le_trans here.within filled.occupancy_le⟩

theorem copied_stable (out : List Block) (s t : Board) (moved : rely q .reader s t)
    (here : Copied q calm done r count out s) : Copied q calm done r count out t := by
  have filled : Filled q s t := (moved here.inv).moved
  refine ⟨checked_stable q calm done r count s t moved here.toChecked,here.copied_le,?_⟩
  have unchanged : Ring.window q.metaData.getElementCount (t.slots q) r out.length =
      Ring.window q.metaData.getElementCount (s.slots q) r out.length := by
    apply Ring.window_congr
    intro j bound
    have le := here.copied_le
    have within := here.within
    rw [← here.read_eq]
    exact filled.slots_eq _ (by omega)
  rw [unchanged]
  exact here.out_eq

theorem copied_snoc (out : List Block) (s : Board) (here : Copied q calm done r count out s)
    (more : out.length < count) :
    Copied q calm done r count
      (out ++ [s.slots q ((r + out.length) % q.metaData.getElementCount)]) s := by
  refine ⟨here.toChecked,?_,?_⟩
  · rw [List.length_append]
    exact more
  · rw [List.length_append,List.length_singleton,Ring.window_add,← here.out_eq]
    simp [Ring.window]

include fine in
theorem triple_copyElementsOut (before : List Block) (m p : Nat) (s : Board)
    (here : Copied q calm done r count before s) (enough : before.length + m ≤ count)
    (aligned : ∀ j < m, (r + (before.length + j)) % q.metaData.getElementCount = p + j) :
    QueueTriple q .reader calm ok (fun out t => out.length = m ∧ Copied q calm done r count (before ++ out) t)
      (copyElementsOut q.sizeofT (p * q.sizeofT) m) s := by
  have stable : ∀ out s t, rely q .reader s t →
      (List.length out = m ∧ Copied q calm done r count (before ++ out) s) →
      (List.length out = m ∧ Copied q calm done r count (before ++ out) t) :=
    fun out s t moved post => ⟨post.1,copied_stable q calm done r count _ s t moved post.2⟩
  induction m generalizing before p s with
  | zero =>
    refine safe_done [] s (stable []) ⟨rfl,?_⟩
    rwa [List.append_nil]
  | succ m ih =>
    have first : (r + before.length) % q.metaData.getElementCount = p := aligned 0 (Nat.succ_pos m)
    unfold copyElementsOut
    refine safe_call (Copied q calm done r count before) (QueueOp.copyOut (p * q.sizeofT) q.sizeofT) _ s
      (copied_stable q calm done r count before) here ?_
    rintro t here block u ⟨rfl,rfl⟩
    refine ⟨duty_refl here.toRests fine _ trivial,?_⟩
    have one := copied_snoc q calm done r count before t here (by omega)
    rw [first] at one
    have rest := ih (before ++ [t.slots q p]) (p + 1) t one
      (by rw [List.length_append,List.length_singleton]; omega)
      (fun j bound => by
        have shifted := aligned (j + 1) (by omega)
        rw [List.length_append,List.length_singleton,Nat.add_assoc,Nat.add_comm 1,shifted]
        omega)
      (fun out s t moved post => ⟨post.1,copied_stable q calm done r count _ s t moved post.2⟩)
    rw [Nat.succ_mul] at rest
    refine safe_bind (rely_refl q .reader) _ _ t rest ?_
    rintro out v ⟨length,copied⟩
    rw [List.append_assoc,List.singleton_append] at copied
    exact safe_done _ v (stable _) ⟨by rw [List.length_cons,length],copied⟩

include fine in
theorem triple_memcpyOut (before : List Block) (m p destMax : Nat) (s : Board)
    (here : Copied q calm done r count before s) (enough : before.length + m ≤ count)
    (aligned : ∀ j < m, (r + (before.length + j)) % q.metaData.getElementCount = p + j)
    (pos : destMax ≠ 0) (fits : m * q.sizeofT ≤ destMax) :
    QueueTriple q .reader calm ok
      (fun out t => out.1 = eok ∧ Copied q calm done r count (before ++ out.2) t ∧ out.2.length = m ∨
        out.1 ≠ eok ∧ secureMemMaxLen < destMax ∧ Copied q calm done r count before t)
      (memcpyOut q.sizeofT destMax (p * q.sizeofT) (m * q.sizeofT)) s := by
  have stable : ∀ out s t, rely q .reader s t →
      (Prod.fst out = eok ∧ Copied q calm done r count (before ++ out.2) s ∧ out.2.length = m ∨
        out.1 ≠ eok ∧ secureMemMaxLen < destMax ∧ Copied q calm done r count before s) →
      (out.1 = eok ∧ Copied q calm done r count (before ++ out.2) t ∧ out.2.length = m ∨
        out.1 ≠ eok ∧ secureMemMaxLen < destMax ∧ Copied q calm done r count before t) := by
    rintro out s t moved (⟨ok,copied,length⟩ | ⟨failed,large,copied⟩)
    · exact .inl ⟨ok,copied_stable q calm done r count _ s t moved copied,length⟩
    · exact .inr ⟨failed,large,copied_stable q calm done r count _ s t moved copied⟩
  unfold memcpyOut
  rw [Nat.mul_div_cancel _ q.sizeof_pos,Nat.mul_mod_left]
  split_ifs with refused short even
  · exact safe_done _ s (stable _) (.inr ⟨by decide,by omega,here⟩)
  · omega
  · refine safe_bind (rely_refl q .reader) _ _ s
      (triple_copyElementsOut q calm ok done fine r count before m p s here enough aligned) ?_
    rintro out t ⟨length,copied⟩
    exact safe_done _ t (stable _) (.inl ⟨rfl,copied,length⟩)
  · exact absurd rfl even

include quiet in
theorem storeReadOffset_step (out : List Block) (s : Board) (here : Copied q calm done r count out s)
    (whole : out.length = count) :
    let stop := (r + count) % q.metaData.getElementCount
    let t : Board := {s.note q .reader (.storeReadOffset stop) with
      shared := {s.shared with readOffset := stop}}
    guar q .reader (.queue (.storeReadOffset stop)) s t ∧
      At q .reader (done ++ out) (· = .stored) t := by
  intro stop t
  have hw := here.inv.write_lt here.pos
  have hr := here.inv.read_lt here.pos
  have within := here.within
  have near := Ring.ahead_lt _ _ _ hr hw
  unfold occupancy at within
  rw [here.read_eq] at hr within near
  have stop_lt : stop < q.metaData.getElementCount := Nat.mod_lt _ (by omega)
  have lost : s.between q s.shared.readOffset stop = out := by
    unfold between
    rw [here.read_eq,Ring.ahead_step _ r count hr (by omega),← whole]
    exact here.out_eq.symm
  have fewer : t.occupancy q = s.occupancy q - count := by
    unfold occupancy
    rw [here.read_eq]
    exact Ring.ahead_sub _ _ _ _ hr hw within
  have content_eq : s.content q = out ++ t.content q := by
    have oldest : (s.content q).take count = out := by
      unfold content between
      rw [here.read_eq,Ring.window_take _ _ _ _ _ within,← whole]
      exact here.out_eq.symm
    have rest : t.content q = (s.content q).drop count := by
      have moved := Ring.window_forward q.metaData.getElementCount (s.slots q) r
        s.shared.writeOffset count hr hw within
      unfold content between
      rw [here.read_eq]
      exact moved
    rw [rest]
    conv_lhs => rw [← List.take_append_drop count (s.content q),oldest]
  have stored : t.phase .reader = .stored := by simp [t,note]
  have ready : ∀ asked, t.Ready q .writer asked := fun asked => .inr (.inr stored)
  have inv : Inv q t := by
    refine ⟨here.inv.write_le,Nat.le_sub_one_of_lt stop_lt,?_,Nat.zero_le _,fun j bits asked asleep => ?_⟩
    · change s.published = s.released ++ s.between q s.shared.readOffset stop ++ t.content q
      rw [here.inv.published_eq,content_eq,lost,List.append_assoc]
    · cases j with
      | reader => exact absurd (here.awake.symm.trans asleep) (by simp)
      | writer =>
        obtain ⟨same,_,clear⟩ := here.inv.asleep .writer bits asked asleep
        refine ⟨same,fun _ => ready asked,.inl ?_⟩
        rcases clear with unset | signalled
        · exact unset
        · have awaiting : s.phase .reader = .signalled := signalled
          exact absurd (awaiting ▸ here.phase_ok) quiet
  refine ⟨fun _ => ⟨⟨inv,⟨rfl,rfl,rfl,?_⟩,?_,.inl rfl,fun asked _ => ready asked⟩,trivial⟩,
    ⟨⟨inv,?_,stored⟩,here.awake⟩⟩
  · omega
  · simp [t,note,Side.other]
  · have before : s.released = done := here.log_eq
    change s.released ++ s.between q s.shared.readOffset stop = _
    rw [lost,before]

/-- What a read leaves: its elements released, or nothing, and then the reader may sleep
if it fails for lack of elements alone. -/
def HasRead (q : SharedMemQueue) (calm : Phase → Prop) (done : List Block) (count : Nat) (reply : Int × List Block)
    (s : Board) : Prop :=
  reply.1 = 0 ∧ At q .reader (done ++ reply.2) (· = .stored) s ∨
    reply.1 ≠ 0 ∧ At q .reader done calm s ∧
      (Served q .reader count → s.Ready q .reader count)

theorem hasRead_stable (reply : Int × List Block) (s t : Board) (moved : rely q .reader s t)
    (here : HasRead q calm done count reply s) : HasRead q calm done count reply t := by
  rcases here with ⟨ok,here⟩ | ⟨failed,here,ready⟩
  · exact .inl ⟨ok,at_stable q .reader _ _ s t moved here⟩
  · exact .inr ⟨failed,at_stable q .reader _ _ s t moved here,
      fun serves => (moved here.inv).ready count (ready serves)⟩

include quiet in
theorem triple_release (out : List Block) (released : ok (done ++ out)) (s : Board)
    (here : Copied q calm done r count out s) (whole : out.length = count) :
    QueueTriple q .reader calm ok (HasRead q calm done count)
      (do storeReadOffset ((r + count) % q.metaData.getElementCount); return (0,out)) s := by
  refine safe_call (Copied q calm done r count out)
    (QueueOp.storeReadOffset ((r + count) % q.metaData.getElementCount)) _ s
    (copied_stable q calm done r count out) here ?_
  rintro t copied _ u ⟨_,rfl⟩
  obtain ⟨kept,after⟩ := storeReadOffset_step q calm quiet done r count out t copied whole
  exact ⟨⟨kept,after.tracks released,.inr copied.phase_ok⟩,
    safe_done (0,out) _ (hasRead_stable q calm done count (0,out)) (.inl ⟨rfl,after⟩)⟩

theorem triple_unread (out : List Block) (s : Board) (here : Copied q calm done r count out s)
    (refused : ¬ Served q .reader count) :
    QueueTriple q .reader calm ok (HasRead q calm done count) (.done (hdfFailure,[])) s :=
  safe_done _ s (hasRead_stable q calm done count _)
    (.inr ⟨by decide,here.toAt,fun serves => absurd serves refused⟩)

theorem checked_step (n : Nat) (s : Board) (here : Counted q calm done n s) (le : count ≤ n)
    (some : 0 < count) :
    guar q .reader (.queue (.checked count)) s {s with window := count} ∧
      Checked q calm done s.shared.readOffset count {s with window := count} := by
  have within : count ≤ s.occupancy q := Nat.le_trans le here.le_occupancy
  have inv : Inv q {s with window := count} :=
    ⟨here.inv.write_le,here.inv.read_le,here.inv.published_eq,within,here.inv.asleep⟩
  exact ⟨fun _ => ⟨⟨inv,⟨rfl,rfl,rfl,Nat.le_refl _⟩,rfl,.inl rfl,fun _ ready => ready⟩,trivial⟩,
    ⟨⟨⟨inv,here.log_eq,here.phase_ok⟩,here.awake⟩,rfl,some,within⟩⟩

end Checked

include built quiet fine in
theorem triple_readNonBlocking (count : Nat) (released : ∀ out, ok (done ++ out)) (s : Board)
    (here : At q .reader done calm s) :
    QueueTriple q .reader calm ok (HasRead q calm done count) (q.readNonBlocking count) s := by
  have counts := built.count_le
  unfold SharedMemQueueMeta.uint16Max at counts
  unfold SharedMemQueue.readNonBlocking
  split_ifs with none
  · refine safe_done _ s (hasRead_stable q calm done count _) (.inr ⟨by decide,here,?_⟩)
    rintro ⟨some_element,_⟩
    omega
  refine safe_bind (rely_refl q .reader) _ _ s
    (triple_getAvalidReadSize_reader q built calm ok done fine s here) ?_
  intro n t counted
  split_ifs with short
  · exact safe_done _ t (hasRead_stable q calm done count _)
      (.inr ⟨by decide,counted.toAt,fun _ => counted.ready count short⟩)
  refine safe_call (Counted q calm done n) (QueueOp.checked count) _ t (counted_stable q calm done n)
    counted ?_
  rintro u counted _ v ⟨_,rfl⟩
  obtain ⟨kept,checked⟩ := checked_step q calm done count n u counted (Nat.not_lt.mp short)
    (Nat.pos_of_ne_zero none)
  refine ⟨⟨kept,checked.tracks fine,.inr counted.phase_ok⟩,?_⟩
  refine safe_call (Checked q calm done u.shared.readOffset count) QueueOp.loadReadOffset _ _
    (checked_stable q calm done _ count) checked ?_
  rintro v checked (r : Nat) x ⟨loaded,rfl⟩
  refine ⟨duty_refl checked.toRests fine _ trivial,?_⟩
  have mine : r = u.shared.readOffset := loaded.trans checked.read_eq
  rw [← mine] at checked
  have within := checked.within
  have near := Ring.ahead_lt _ _ _ (checked.inv.read_lt checked.pos) (checked.inv.write_lt checked.pos)
  have hr : r < q.metaData.getElementCount := checked.read_eq ▸ checked.inv.read_lt checked.pos
  unfold occupancy at within
  have empty : Copied q calm done r count [] v := ⟨checked,Nat.zero_le _,rfl⟩
  have some : count * q.sizeofT ≠ 0 := Nat.ne_of_gt (Nat.mul_pos (by omega) q.sizeof_pos)
  have bytes_le : count * q.sizeofT ≤ q.metaData.getElementCount * q.sizeofT :=
    Nat.mul_le_mul_right _ (by omega)
  have refused : secureMemMaxLen < count * q.sizeofT → ¬ Served q .reader count := by
    rintro large ⟨_,zone⟩
    omega
  rw [u64_of_lt (r + count) (by omega),q.u64_bytes built r (Nat.le_of_lt hr),
    q.u64_bytes built count (by omega)]
  split_ifs with fit
  · have copied := triple_memcpyOut q calm ok done fine r count [] count r (count * q.sizeofT) v empty (by simp)
      (fun j bound => by
        rw [List.length_nil,Nat.zero_add,Nat.mod_eq_of_lt (by omega)]) some (Nat.le_refl _)
    refine safe_bind (rely_refl q .reader) _ _ v copied ?_
    rintro ⟨err,out⟩ x (⟨rfl,copied,length⟩ | ⟨failed,large,copied⟩)
    · dsimp only
      rw [if_neg (not_not.mpr rfl)]
      exact triple_release q calm quiet ok done r count out (released out) x copied length
    · dsimp only at failed ⊢
      rw [if_pos failed]
      exact triple_unread q calm ok done r count [] x copied (refused large)
  · dsimp only
    rw [sub64_of_le _ r (Nat.le_of_lt hr) (by omega),sub64_of_le _ _ (by omega) (by omega),
      q.u64_bytes built _ (Nat.sub_le _ _),q.u64_bytes built _ (by omega)]
    have stop : count - (q.metaData.getElementCount - r) =
        (r + count) % q.metaData.getElementCount := by
      rw [Ring.mod_of_lt_double _ _ (by omega),if_neg (by omega)]
      omega
    have first := triple_memcpyOut q calm ok done fine r count [] (q.metaData.getElementCount - r) r
      (count * q.sizeofT) v empty (by simp; omega)
      (fun j bound => by
        rw [List.length_nil,Nat.zero_add,Nat.mod_eq_of_lt (by omega)]) some
      (Nat.mul_le_mul_right q.sizeofT (by omega))
    refine safe_bind (rely_refl q .reader) _ _ v first ?_
    rintro ⟨err,out⟩ x (⟨rfl,copied,length⟩ | ⟨failed,large,copied⟩)
    · dsimp only at length ⊢
      rw [if_neg (not_not.mpr rfl)]
      -- the second part starts at slot 0
      have second := triple_memcpyOut q calm ok done fine r count out (count - (q.metaData.getElementCount - r))
        0 ((count - (q.metaData.getElementCount - r)) * q.sizeofT) x copied (by omega)
        (fun j bound => by
          rw [length,Ring.mod_of_lt_double _ _ (by omega),if_neg (by omega)]
          omega) (Nat.ne_of_gt (Nat.mul_pos (by omega) q.sizeof_pos)) (Nat.le_refl _)
      rw [Nat.zero_mul] at second
      refine safe_bind (rely_refl q .reader) _ _ x second ?_
      rintro ⟨err,rest⟩ y (⟨rfl,copied,more⟩ | ⟨failed,large,copied⟩)
      · dsimp only at more ⊢
        rw [if_neg (not_not.mpr rfl),stop]
        refine triple_release q calm quiet ok done r count (out ++ rest) (released _) y copied ?_
        rw [List.length_append,length,more]
        omega
      · dsimp only at failed ⊢
        rw [if_pos failed]
        refine triple_unread q calm ok done r count out y copied (refused ?_)
        exact Nat.lt_of_lt_of_le large (Nat.mul_le_mul_right _ (Nat.sub_le _ _))
    · dsimp only at failed ⊢
      rw [if_pos failed]
      exact triple_unread q calm ok done r count [] x copied (refused large)

end Read

end Board

end DriversAdapter.Smq
