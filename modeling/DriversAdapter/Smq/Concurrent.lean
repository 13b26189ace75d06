import DriversAdapter.Smq.Consumer
import DriversAdapter.Smq.Refinement

/-! One writer and one reader at the same time, in every interleaving of their steps: the
reader gets a prefix of what the writer puts in, and no copy of the writer touches what the
reader has checked. -/
namespace DriversAdapter.Smq
open DriversAdapter.Base DriversAdapter.Semantics DriversAdapter.Semantics.Program

namespace Board

/-- The elements that a finished call has put in or taken out. -/
def transferred (q : SharedMemQueue) (c : Call) (r : Reply) : List Block :=
  if r.ret = 0 then
    match c with
    | .write data count => q.items data count.toNat
    | .read _ => r.data
  else []

/-- The elements of all finished calls of a session, in order. -/
def record (q : SharedMemQueue) (past : List (Request × Reply)) : List Block :=
  past.flatMap (fun finished => transferred q finished.1.call finished.2)

theorem record_append (q : SharedMemQueue) (past : List (Request × Reply)) (request : Request)
    (r : Reply) : record q (past ++ [(request,r)]) = record q past ++ transferred q request.call r := by
  simp [record]

theorem transferred_ok (q : SharedMemQueue) (c : Call) (r : Reply) (ok : r.ret = 0) :
    transferred q c ⟨0,r.data⟩ = transferred q c r := by
  simp [transferred,ok]

theorem transferred_failed (q : SharedMemQueue) (c : Call) (r : Reply) (failed : r.ret ≠ 0) :
    transferred q c r = [] := if_neg failed

/-- What the record of a side may be during a call. -/
def Allows (q : SharedMemQueue) (done : List Block) : Call → List Block → Prop
  | .write data count, log => log <+: done ++ q.items data count.toNat
  | .read _, log => done <+: log

theorem allows_start (q : SharedMemQueue) (done : List Block) (c : Call) : Allows q done c done := by
  cases c
  · exact List.prefix_append _ _
  · exact List.prefix_refl _

theorem allows_end (q : SharedMemQueue) (done : List Block) (c : Call) (r : Reply) (ok : r.ret = 0) :
    Allows q done c (done ++ transferred q c r) := by
  unfold transferred
  rw [if_pos ok]
  cases c
  · exact List.prefix_refl _
  · exact List.prefix_append _ _

/-- The elements that a call may publish. -/
def offered (q : SharedMemQueue) : Call → List Block
  | .write data count => q.items data count.toNat
  | .read _ => []

theorem allows_writer (q : SharedMemQueue) (done log : List Block) (c : Call)
    (side : c.side = .writer) (allowed : Allows q done c log) : log <+: done ++ offered q c := by
  cases c with
  | write data count => exact allowed
  | read count => cases side

theorem allows_reader (q : SharedMemQueue) (done log : List Block) (c : Call)
    (side : c.side = .reader) (allowed : Allows q done c log) : done <+: log := by
  cases c with
  | write data count => cases side
  | read count => exact allowed

section Calls
variable (q : SharedMemQueue) (built : Constructed q) (synced : q.metaData.getType = syncedSmq)
variable (permitted : Request → Prop) (calm : Phase → Prop) (done : List Block)

/-- What a call leaves that does not wait. -/
def Issued (q : SharedMemQueue) (calm : Phase → Prop) (done : List Block) (c : Call) (r : Reply)
    (s : Board) : Prop :=
  r.ret = 0 ∧ At q c.side (done ++ transferred q c r) (· = .stored) s ∨
    r.ret ≠ 0 ∧ At q c.side done calm s ∧ (Served q c.side c.count → s.Ready q c.side c.count)

theorem issued_stable (c : Call) (r : Reply) (s t : Board) (moved : rely q c.side s t)
    (issued : Issued q calm done c r s) : Issued q calm done c r t := by
  rcases issued with ⟨ok,here⟩ | ⟨failed,here,ready⟩
  · exact .inl ⟨ok,at_stable q c.side _ _ s t moved here⟩
  · exact .inr ⟨failed,at_stable q c.side _ _ s t moved here,
      fun serves => (moved here.inv).ready _ (ready serves)⟩

variable (quiet : ¬ calm .signalled)

include built synced quiet in
theorem triple_issue (c : Call) (s : Board) (here : At q c.side done calm s) :
    Triple q permitted c.side calm (Allows q done c) (Issued q calm done c) (q.issueStep c) s := by
  apply triple_issueStep
  have fine := allows_start q done c
  cases c with
  | write data count =>
    refine safe_bind (rely_refl q .writer) _ _ s (triple_writeNonBlocking q built calm quiet _ done
      fine synced data count.toNat (List.prefix_refl _) s here) ?_
    intro ret t written
    refine safe_done _ t (issued_stable q calm done (.write data count) ⟨ret,[]⟩) ?_
    rcases written with ⟨ok,here⟩ | failed
    · refine .inl ⟨ok,?_⟩
      unfold transferred
      rw [if_pos ok]
      exact here
    · exact .inr failed
  | read count =>
    refine safe_bind (rely_refl q .reader) _ _ s (triple_readNonBlocking q built calm quiet _ done
      fine count.toNat (fun out => List.prefix_append _ _) s here) ?_
    rintro ⟨ret,data⟩ t hasRead
    refine safe_done _ t (issued_stable q calm done (.read count) ⟨ret,data⟩) ?_
    rcases hasRead with ⟨ok,here⟩ | failed
    · refine .inl ⟨ok,?_⟩
      unfold transferred
      rw [if_pos ok]
      exact here
    · exact .inr failed

/-- The end of one turn of a call that waits. -/
def Settled (q : SharedMemQueue) (calm : Phase → Prop) (past : List (Request × Reply)) (c : Call) :
    Label ⊕ Reply → Board → Prop
  | .inl label, s => At q c.side (record q past) calm s ∧
      (label = .wait → Served q c.side c.count → s.Ready q c.side c.count)
  | .inr r, s => At q c.side (record q past ++ transferred q c r) calm s

theorem settled_stable (past : List (Request × Reply)) (c : Call) (next : Label ⊕ Reply)
    (s t : Board) (moved : rely q c.side s t) (here : Settled q calm past c next s) :
    Settled q calm past c next t := by
  cases next with
  | inl label => exact ⟨at_stable q c.side _ _ s t moved here.1,fun waits serves =>
      (moved here.1.inv).ready _ (here.2 waits serves)⟩
  | inr r => exact at_stable q c.side _ _ s t moved here

variable (woken : calm .none)

include woken in
theorem triple_settle (past : List (Request × Reply)) (c : Call) (r : Reply) (s : Board)
    (issued : Issued q calm (record q past) c r s) :
    Triple q permitted c.side calm (Allows q (record q past) c) (Settled q calm past c)
      (SharedMemQueue.settle c r) s := by
  unfold SharedMemQueue.settle
  rcases issued with ⟨ok,here⟩ | ⟨failed,here,ready⟩
  · rw [if_pos ok]
    refine safe_bind (rely_refl q c.side) _ _ s (triple_wake q permitted c.side calm _ _
      (allows_end q _ c r ok) s here) ?_
    rintro ret t ⟨rfl,after⟩
    refine safe_done _ t (settled_stable q calm past c _) ?_
    have kept : At q c.side (record q past ++ transferred q c ⟨0,r.data⟩) (· = .none) t := by
      rw [transferred_ok q c r ok]
      exact after
    exact ⟨⟨kept.inv,kept.log_eq,kept.phase_ok ▸ woken⟩,kept.awake⟩
  · rw [if_neg failed]
    exact safe_done _ s (settled_stable q calm past c _) ⟨here,fun _ => ready⟩

variable (loose : ∀ c, permitted (.now c) → calm .stored)

include built synced quiet woken loose in
theorem triple_body (past : List (Request × Reply)) (request : Request)
    (admitted : permitted request) (label : Label) (s : Board)
    (here : At q request.call.side (record q past) calm s)
    (ready : label = .wait → Served q request.call.side request.call.count →
      s.Ready q request.call.side request.call.count) :
    Triple q permitted request.call.side calm (Allows q (record q past) request.call)
      (Settled q calm past request.call) (q.body request label) s := by
  have issues : ∀ c t, At q c.side (record q past) calm t →
      Triple q permitted c.side calm (Allows q (record q past) c) (Settled q calm past c)
        (do let r ← q.issueStep c; SharedMemQueue.settle c r) t := by
    intro c t here
    refine safe_bind (rely_refl q c.side) _ _ t
      (triple_issue q built synced permitted calm _ quiet c t here) ?_
    intro r u issued
    exact triple_settle q permitted calm woken past c r u issued
  cases request with
  | now c =>
    refine safe_bind (rely_refl q c.side) _ _ s
      (triple_issue q built synced permitted calm _ quiet c s here) ?_
    intro r t issued
    refine safe_done _ t (settled_stable q calm past c _) ?_
    rcases issued with ⟨ok,here⟩ | ⟨failed,here,_⟩
    · exact ⟨⟨here.inv,here.log_eq,here.phase_ok ▸ loose c admitted⟩,here.awake⟩
    · have none := transferred_failed q c r failed
      have same : record q past ++ transferred q c r = record q past := by
        rw [none,List.append_nil]
      change At q c.side (record q past ++ transferred q c r) calm t
      rw [same]
      exact here
  | wait c =>
    cases label with
    | start =>
      have entered : q.body (.wait c) .start =
          (do let r ← q.issueStep c; SharedMemQueue.settle c r) := if_neg (not_not.mpr synced)
      rw [entered]
      exact issues c s here
    | wait =>
      refine safe_bind (rely_refl q c.side) _ _ s (triple_futexWait q permitted c.side calm _ _
        (allows_start q _ c) c.count s here (ready rfl)) ?_
      rintro ret t ⟨outcome,here,again⟩
      split_ifs with retry failed
      · refine safe_done _ t (settled_stable q calm past c _) ⟨here,fun _ => again ?_⟩
        rcases retry with rfl | rfl <;> decide
      · rcases outcome with ok | outcome
        · exact absurd ok failed.1
        · exact absurd outcome retry
      · exact issues c t here

def outline (built : Constructed q) (synced : q.metaData.getType = syncedSmq)
    (quiet : ¬ calm .signalled) (woken : calm .none)
    (loose : ∀ c, permitted (.now c) → calm .stored) : Outline (handshake q permitted) where
  rely := rely q
  guar i op s t := guar q i op s t ∧ (op.Wakes ∨ calm (s.phase i))
  idle i past s := At q i (record q past) calm s
  during i past request s := request.call.side = i ∧
    Tracks q i (Allows q (record q past) request.call) s
  label i past request label s := (request.call.side = i ∧ permitted request) ∧
    At q i (record q past) calm s ∧
      (label = .wait → Served q i request.call.count → s.Ready q i request.call.count)
  rely_refl := rely_refl q
  rely_trans := rely_trans q
  idle_stable i past s t moved here := at_stable q i _ _ s t moved here
  during_stable i past request s t moved here := by
    have sees := moved here.2.1
    refine ⟨here.1,sees.inv,?_⟩
    rw [log_moved q i s t sees.moved]
    exact here.2.2
  invoke i past request s allowed here :=
    ⟨⟨allowed.1,here.tracks (allows_start q _ _)⟩,allowed,here,fun waits => by cases waits⟩
  body i past request label s here := by
    obtain ⟨⟨rfl,admitted⟩,here,ready⟩ := here
    refine safe_mono _ s ?_ ?_
      (triple_body q built synced permitted calm quiet woken loose past request admitted label s here ready)
    · rintro op s t ⟨kept,tracks,phase_ok⟩
      exact ⟨⟨kept,phase_ok⟩,rfl,tracks⟩
    · intro next t settled
      cases next with
      | inl label => exact ⟨⟨rfl,admitted⟩,settled⟩
      | inr r =>
        dsimp only
        rw [record_append]
        exact settled
  compatible i j op s t other kept := by
    rcases Side.eq_or_other i j with rfl | rfl
    · contradiction
    · exact fun inv => (kept.1 inv).1

end Calls

theorem opening_at (q : SharedMemQueue) (calm : Phase → Prop) (woken : calm .none) (i : Side)
    (start : Shared Side) (word : UInt32) (write_eq : start.writeOffset = 0)
    (read_eq : start.readOffset = 0) : At q i (record q []) calm (opening start word) := by
  have inv : Inv q (opening start word) := by
    refine ⟨?_,?_,?_,Nat.zero_le _,fun _ _ _ asleep => by cases asleep⟩
    · exact write_eq ▸ Nat.zero_le _
    · exact read_eq ▸ Nat.zero_le _
    · simp [opening,content,between,write_eq,read_eq,Ring.ahead_self]
  refine ⟨⟨inv,?_,woken⟩,rfl⟩
  cases i <;> rfl

/-- The elements that the call in progress may still publish. -/
def inProgress (q : SharedMemQueue)
    (mine : Session SyncOp SyncOp.Res Request Label Reply) : List Block :=
  match mine.now with
  | some (request,_) => offered q request.call
  | none => []

section Runs
variable (env : Platform) (sizeofT : Nat) (sizeof_pos : 0 < sizeofT)
variable (stale : MemZoneType → MemZone) (elementCount : UInt32) (creator : Side)
variable (fresh start : Shared Side) (q : SharedMemQueue) (word : UInt32)
variable (made : (SharedMemQueue.create env sizeofT sizeof_pos stale elementCount syncedSmq).run
  (serve syncedSmq creator) fresh = (some q,start))

include made in
theorem created_outline (permitted : Request → Prop) (calm : Phase → Prop)
    (quiet : ¬ calm .signalled) (woken : calm .none)
    (loose : ∀ c, permitted (.now c) → calm .stored) :
    ∃ (built : Constructed q) (synced : q.metaData.getType = syncedSmq),
      ∀ i, (outline q permitted calm built synced quiet woken loose).idle i []
        (opening start word) := by
  obtain ⟨built,_,_,synced,_,_,rfl⟩ := SharedMemQueue.create_usable env sizeofT sizeof_pos stale
    elementCount syncedSmq creator fresh start q made
  exact ⟨built,synced,fun i => opening_at q calm woken i _ word rfl rfl⟩

include made in
/-- In every interleaving of a writer and a reader, what has been read is a prefix of what
has been written or is being written, and the writer copies over nothing that the reader
has checked. -/
theorem interleaved_reads_prefix
    (cfg : Config Side SyncOp SyncOp.Res Request Label Reply Board)
    (reached : (handshake q fun _ => True).Reachable (opening start word) cfg) :
    record q (cfg.session .reader).past <+:
        record q (cfg.session .writer).past ++ inProgress q (cfg.session .writer) ∧
      ∀ past request dst block next,
        cfg.session .writer = ⟨past,some (request,.perform (.queue (.copyIn dst block)) next)⟩ →
          ∀ k < cfg.shared.window, Apart dst block.length
            ((cfg.shared.shared.readOffset + k) % q.metaData.getElementCount * q.sizeofT)
              q.sizeofT := by
  obtain ⟨built,synced,ready⟩ := created_outline env sizeofT sizeof_pos stale elementCount creator
    fresh start q word made (fun _ => True) (· ≠ .signalled) (by decide) (by decide)
    (fun _ _ => by decide)
  let O := outline q (fun _ => True) (· ≠ .signalled) built synced (by decide) (by decide)
    (fun _ _ => by decide)
  have holds := O.sound (opening start word) ready cfg reached
  have inv : Inv q cfg.shared := O.sound_always (opening start word) ready (Inv q)
    (ready .writer).inv (fun _ _ _ here => here.inv) (fun _ _ _ _ here => here.2.1) cfg reached
  refine ⟨?_,?_⟩
  · have written : cfg.shared.published <+:
        record q (cfg.session .writer).past ++ inProgress q (cfg.session .writer) := by
      have mine := holds .writer
      unfold Outline.Holds at mine
      unfold inProgress
      split at mine
      next idle =>
        have log_eq : cfg.shared.published = _ := mine.log_eq
        rw [idle,log_eq]
        exact List.prefix_append _ _
      next request p busy =>
        rw [busy]
        obtain ⟨⟨side,_,allowed⟩,_⟩ := mine
        exact allows_writer q _ _ request.call side allowed
    have taken : record q (cfg.session .reader).past <+: cfg.shared.released := by
      have mine := holds .reader
      unfold Outline.Holds at mine
      split at mine
      next idle =>
        have log_eq : cfg.shared.released = _ := mine.log_eq
        exact log_eq ▸ List.prefix_refl _
      next request p busy =>
        obtain ⟨⟨side,_,allowed⟩,_⟩ := mine
        exact allows_reader q _ _ request.call side allowed
    have between : cfg.shared.released <+: cfg.shared.published := by
      rw [inv.published_eq]
      exact List.prefix_append _ _
    exact taken.trans (between.trans written)
  · intro past request dst block next here
    have kept := O.sound_perform (opening start word) ready cfg reached .writer request past _ next
      here () _ ⟨trivial,true,rfl⟩
    exact (kept.1 inv).2

end Runs

/-- Two writes and a read one after the other, and then a read and a write at once: the
reader has checked slot 1 and the writer is about to copy to slot 2. -/
def crossing : List (Side × Move Request Bool) :=
  (.writer,.invoke (.now (.write (fun _ => 5) 1))) :: List.replicate 7 (.writer,.act false) ++
    (.reader,.invoke (.now (.read 1))) :: List.replicate 7 (.reader,.act false) ++
    (.writer,.invoke (.now (.write (fun _ => 6) 1))) :: List.replicate 7 (.writer,.act false) ++
    (.reader,.invoke (.now (.read 1))) :: List.replicate 3 (.reader,.act false) ++
    (.writer,.invoke (.now (.write (fun _ => 7) 1))) :: List.replicate 4 (.writer,.act false)

set_option maxRecDepth 4096 in
theorem interleaved_reads_prefix_crossing :
    ∃ (q : SharedMemQueue) (start : Shared Side)
      (cfg : Config Side SyncOp SyncOp.Res Request Label Reply Board),
      (SharedMemQueue.create .granting 8 (by decide) (fun _ => ⟨0,0⟩) 3 syncedSmq).run
          (serve syncedSmq .writer) ⟨7,9,fun _ => 0,fun _ => 0⟩ = (some q,start) ∧
        (handshake q fun _ => True).schedule crossing (.start (opening start 0)) = some cfg ∧
        record q (cfg.session .reader).past = [[5,5,5,5,5,5,5,5]] ∧
        record q (cfg.session .reader).past <+:
          record q (cfg.session .writer).past ++ inProgress q (cfg.session .writer) ∧
        cfg.shared.window = 1 ∧ Apart 16 8 8 8 := by
  have allowed : ∀ q i c, (i,Move.invoke c) ∈ crossing → (handshake q fun _ => True).allowed i c := by
    intro q i c member
    simp only [crossing,List.mem_append,List.mem_cons,List.mem_replicate,Prod.mk.injEq,
      Move.invoke.injEq,reduceCtorEq,and_false,or_false] at member
    rcases member with ((((⟨rfl,rfl⟩ | ⟨rfl,rfl⟩) | ⟨rfl,rfl⟩) | ⟨rfl,rfl⟩) | ⟨rfl,rfl⟩) <;>
      exact ⟨rfl,trivial⟩
  have holds := fun q start cfg made ran => interleaved_reads_prefix .granting 8 (by decide)
    (fun _ => ⟨0,0⟩) 3 .writer ⟨7,9,fun _ => 0,fun _ => 0⟩ start q 0 made cfg
      (System.schedule_reachable _ _ crossing _ cfg
        (System.admitsAll_of_calls _ (fun _ _ _ => trivial) crossing (allowed q) _) .start ran)
  refine ⟨_,_,_,rfl,rfl,rfl,?_⟩
  have both := holds _ _ _ rfl rfl
  exact ⟨both.1,rfl,both.2 _ _ _ _ _ rfl 0 Nat.zero_lt_one⟩

end Board

end DriversAdapter.Smq
