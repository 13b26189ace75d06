import DriversAdapter.Smq.Refinement
import DriversAdapter.Smq.Timed

/-! `Write` and `Read` with their retries and waits, while other endpoints are at work: each call takes
effect at one moment, as a call of the buffer that the queue refines, or not at all. -/
namespace DriversAdapter.Smq
open DriversAdapter.Base DriversAdapter.Semantics

variable {ι : Type} [DecidableEq ι]

/-- What a call meets: readings of the clock, how its waits and wakes end, and what others do with
the queue during each wait. -/
structure Around (ι : Type) where
  clock : Nat → Int64
  waits : Nat → Int
  wakes : Nat → Int
  others : Nat → List (ι × Call)

/-- The queue in the middle of a call, with what others have done since it began. -/
structure Bench (ι : Type) where
  shared : Shared ι
  readings : Nat
  waits : Nat
  wakes : Nat
  seen : List (ι × Call)
  reply : Reply

structure Deed (ι : Type) where
  endpoint : ι
  call : Call
  waitTimeNanoSec : Int64
  turns : Nat
  around : Around ι

/-- `none` is a call that is still waiting. -/
structure DeedAnswer (ι : Type) where
  finish : Option Finish
  reply : Reply
  seen : List (ι × Call)

namespace SharedMemQueue
variable (q : SharedMemQueue)

/-- An attempt is a whole `WriteNonBlocking` or `ReadNonBlocking`. -/
def serveBench (deed : Deed ι) (op : TimedOp) (s : Bench ι) : op.Res × Bench ι :=
  match op with
  | .getNanoTime => (deed.around.clock s.readings,{s with readings := s.readings + 1})
  | .attempt =>
    let done := q.respond (deed.endpoint,deed.call) s.shared
    (done.1.ret,{s with shared := done.2, reply := done.1})
  | .wait _ _ => (deed.around.waits s.waits,{s with
      waits := s.waits + 1
      seen := s.seen ++ deed.around.others s.waits
      shared := (q.replies (deed.around.others s.waits) s.shared).2})
  | .wake _ => (deed.around.wakes s.wakes,{s with wakes := s.wakes + 1})

def perform (deed : Deed ι) (s : Shared ι) : DeedAnswer ι × Shared ι :=
  let done := (timedCall q.metaData.getType deed.call.side deed.waitTimeNanoSec deed.turns).run
    (q.serveBench deed) ⟨s,0,0,0,[],⟨0,[]⟩⟩
  (⟨done.1,done.2.reply,done.2.seen⟩,done.2.shared)

def after {capacity : Nat} (calls : List (ι × Call)) (f : Fifo Block capacity) :
    Fifo Block capacity :=
  (Machine.run Fifo.step (calls.map q.request) f).2

/-- A call that was served at its end, after what others did meanwhile: it returns what the wake of
the other side returned. Any other call has changed nothing, and does not return success. -/
def Served {capacity : Nat} (deed : Deed ι) (done : DeedAnswer ι) (f g : Fifo Block capacity) :
    Prop :=
  let turn := Fifo.step (q.request (deed.endpoint,deed.call)) (q.after done.seen f)
  (turn.1.Accepted ∧ answer (deed.endpoint,deed.call) done.reply = turn.1 ∧ g = turn.2 ∧
      ∃ late, done.finish = some ⟨deed.around.wakes 0,late⟩) ∨
    g = q.after done.seen f ∧ ∀ finish, done.finish = some finish → finish.ret ≠ 0

/-- All attempts so far were refused. -/
structure Pending {capacity : Nat} (f : Fifo Block capacity) (s : Bench ι) : Prop where
  holds : q.Holds s.shared (q.after s.seen f).content
  unwoken : s.wakes = 0

/-- An attempt was served, and the other side is being woken. -/
structure Settled {capacity : Nat} (deed : Deed ι) (f : Fifo Block capacity) (s : Bench ι) :
    Prop where
  accepted : (Fifo.step (q.request (deed.endpoint,deed.call)) (q.after s.seen f)).1.Accepted
  answered : answer (deed.endpoint,deed.call) s.reply =
    (Fifo.step (q.request (deed.endpoint,deed.call)) (q.after s.seen f)).1
  holds : q.Holds s.shared
    (Fifo.step (q.request (deed.endpoint,deed.call)) (q.after s.seen f)).2.content

omit [DecidableEq ι] in
theorem after_append {capacity : Nat} (first later : List (ι × Call)) (f : Fifo Block capacity) :
    q.after (first ++ later) f = q.after later (q.after first f) := by
  unfold after
  rw [List.map_append,Machine.run_append]

omit [DecidableEq ι] in
theorem accepted_iff (c : ι × Call) (r : Reply) : (answer c r).Accepted ↔ r.ret = 0 := by
  obtain ⟨i,⟨data,count⟩ | count⟩ := c
  · exact decide_eq_true_iff
  · change (if r.ret = 0 then some r.data else none).isSome = true ↔ _
    split_ifs with ok <;> simp [ok]

section Synced
variable (built : Constructed q) (synced : q.metaData.getType = syncedSmq)
variable (zone : q.metaData.getElementCount * q.sizeofT ≤ secureMemMaxLen)
variable (deed : Deed ι) (f : Fifo Block (q.metaData.getElementCount - 1)) (s : Bench ι)

include built synced zone in
theorem pending_wait (pending : q.Pending f s) (bitset : UInt32) (timeout : Int64) :
    q.Pending f (q.serveBench deed (.wait bitset timeout) s).2 := by
  refine ⟨?_,pending.unwoken⟩
  change q.Holds (q.replies _ s.shared).2 (q.after (s.seen ++ _) f).content
  rw [after_append]
  exact (Machine.run_refines q.respond Fifo.step q.request answer
    (fun s f => q.Holds s f.content) (q.respond_refines built synced zone) _ s.shared
      (q.after s.seen f) pending.holds).2

include built synced zone in
/-- An attempt is served, or refused and without effect. -/
theorem pending_attempt (pending : q.Pending f s) :
    let done := q.serveBench deed .attempt s
    done.2.wakes = 0 ∧
      (done.1 = 0 → q.Settled deed f done.2) ∧ (done.1 ≠ 0 → q.Pending f done.2) := by
  intro done
  obtain ⟨answered,holds⟩ := q.respond_refines built synced zone (deed.endpoint,deed.call) s.shared
    (q.after s.seen f) pending.holds
  have told := accepted_iff (deed.endpoint,deed.call)
    (q.respond (deed.endpoint,deed.call) s.shared).1
  rw [answered] at told
  refine ⟨pending.unwoken,fun ok => ⟨told.mpr ok,answered,holds⟩,fun failed => ?_⟩
  refine ⟨?_,pending.unwoken⟩
  have same := Fifo.step_refused (q.request (deed.endpoint,deed.call)) (q.after s.seen f)
    fun accepted => failed (told.mp accepted)
  rw [same] at holds
  exact holds

def Ended {capacity : Nat} (deed : Deed ι) (f : Fifo Block capacity) (finish : Finish)
    (s : Bench ι) : Prop :=
  ((∃ late, finish = ⟨deed.around.wakes 0,late⟩) ∧ q.Settled deed f s) ∨
    q.Pending f s ∧ finish.ret ≠ 0

theorem ended_conclude {capacity : Nat} (f : Fifo Block capacity) (side : Side) (ret : Int)
    (late : Bool) (t : Bench ι) (served : ret = 0 → q.Settled deed f t ∧ t.wakes = 0)
    (refused : ret ≠ 0 → q.Pending f t) :
    let done := (concludeTimed side ret late).run (q.serveBench deed) t
    q.Ended deed f done.1 done.2 := by
  intro done
  by_cases ok : ret = 0
  · obtain ⟨settled,unwoken⟩ := served ok
    have is : done = (⟨deed.around.wakes t.wakes,false⟩,{t with wakes := t.wakes + 1}) := by
      change (concludeTimed side ret late).run (q.serveBench deed) t = _
      unfold concludeTimed
      rw [if_pos ok]
      rfl
    rw [is,unwoken]
    exact .inl ⟨⟨false,rfl⟩,settled.accepted,settled.answered,settled.holds⟩
  · have is : done = (⟨ret,late⟩,t) := by
      change (concludeTimed side ret late).run (q.serveBench deed) t = _
      unfold concludeTimed
      rw [if_neg ok]
      rfl
    rw [is]
    exact .inr ⟨refused ok,ok⟩

theorem pending_checkTime {capacity : Nat} (f : Fifo Block capacity) (side : Side)
    (startTime waitTimeNanoSec : Int64) (pending : q.Pending f s) :
    q.Pending f ((checkTime side startTime waitTimeNanoSec).run (q.serveBench deed) s).2 := by
  unfold checkTime
  split_ifs with limited
  · cases side with
    | writer =>
      change q.Pending f (Program.run (q.serveBench deed) (if _ then _ else _) _).2
      split <;> exact ⟨pending.holds,pending.unwoken⟩
    | reader =>
      change q.Pending f (Program.run (q.serveBench deed) (if _ then _ else _) _).2
      split <;> exact ⟨pending.holds,pending.unwoken⟩
  · exact pending

include built synced zone in
/-- One turn of the loop ends the call or goes on trying. -/
theorem turn_ends (side : Side) (startTime waitTimeNanoSec : Int64) (pending : q.Pending f s) :
    let done := (timedTurn side startTime waitTimeNanoSec).run (q.serveBench deed) s
    match done.1 with
    | .inl _ => q.Pending f done.2
    | .inr finish => q.Ended deed f finish done.2 := by
  unfold timedTurn
  simp only [Program.run_bind]
  have checked := q.pending_checkTime deed s f side startTime waitTimeNanoSec pending
  generalize (checkTime side startTime waitTimeNanoSec).run (q.serveBench deed) s = found at checked
  obtain ⟨left,t⟩ := found
  cases left with
  | none =>
    dsimp only
    simp only [Program.run_bind]
    obtain ⟨unwoken,served,refused⟩ := q.pending_attempt built synced zone deed f t checked
    exact q.ended_conclude deed f side _ true _ (fun ok => ⟨served ok,unwoken⟩) refused
  | some left =>
    dsimp only
    simp only [Program.run_bind]
    have waited := q.pending_wait built synced zone deed f t checked side.waitBit left
    have is : (syncerWait side.waitBit left).run (q.serveBench deed) t =
        q.serveBench deed (.wait side.waitBit left) t := rfl
    rw [is]
    generalize q.serveBench deed (.wait side.waitBit left) t = woken at waited
    obtain ⟨ret,u⟩ := woken
    dsimp only at waited ⊢
    split_ifs with broken
    · simp only [Program.run_bind]
      exact q.ended_conclude deed f side ret false u (fun ok => absurd ok broken.1) fun _ => waited
    · simp only [Program.run_bind]
      obtain ⟨unwoken,served,refused⟩ := q.pending_attempt built synced zone deed f u waited
      have tried : attemptNow.run (q.serveBench deed) u = q.serveBench deed .attempt u := rfl
      rw [tried]
      split_ifs with ok
      · simp only [Program.run_bind]
        exact q.ended_conclude deed f side _ false _ (fun ok => ⟨served ok,unwoken⟩) refused
      · exact refused ok

include built synced zone in
theorem loop_ends (side : Side) (startTime : Int64) (n : Nat) (waitTimeNanoSec : Int64)
    (pending : q.Pending f s) :
    let done := (timedLoop side startTime n waitTimeNanoSec).run (q.serveBench deed) s
    (done.1 = none → q.Pending f done.2) ∧
      ∀ finish, done.1 = some finish → q.Ended deed f finish done.2 := by
  induction n generalizing waitTimeNanoSec s with
  | zero => exact ⟨fun _ => pending,fun finish none_there => nomatch none_there⟩
  | succ n ih =>
    unfold timedLoop
    simp only [Program.run_bind]
    have turn := q.turn_ends built synced zone deed f s side startTime waitTimeNanoSec pending
    generalize (timedTurn side startTime waitTimeNanoSec).run (q.serveBench deed) s = done at turn
    obtain ⟨next,t⟩ := done
    cases next with
    | inl left => exact ih t left turn
    | inr finish =>
      refine ⟨fun none_there => absurd none_there (by simp),fun other same => ?_⟩
      obtain rfl := Option.some.inj same
      exact turn

include built synced zone in
theorem perform_served (shared : Shared ι) (holds : q.Holds shared f.content) :
    ∃ g : Fifo Block (q.metaData.getElementCount - 1),
      q.Holds (q.perform deed shared).2 g.content ∧
        q.Served deed (q.perform deed shared).1 f g := by
  have begun : q.Pending f (⟨shared,0,0,0,[],⟨0,[]⟩⟩ : Bench ι) := ⟨holds,rfl⟩
  have ended_all : let done := (timedCall q.metaData.getType deed.call.side deed.waitTimeNanoSec
        deed.turns).run (q.serveBench deed) ⟨shared,0,0,0,[],⟨0,[]⟩⟩
      (done.1 = none → q.Pending f done.2) ∧
        ∀ finish, done.1 = some finish → q.Ended deed f finish done.2 := by
    unfold timedCall
    rw [if_neg (not_not.mpr synced)]
    simp only [Program.run_bind]
    obtain ⟨unwoken,served,refused⟩ := q.pending_attempt built synced zone deed f _ begun
    have tried : attemptNow.run (q.serveBench deed) ⟨shared,0,0,0,[],⟨0,[]⟩⟩ =
        q.serveBench deed .attempt ⟨shared,0,0,0,[],⟨0,[]⟩⟩ := rfl
    rw [tried]
    split_ifs with ok
    · simp only [Program.run_bind]
      refine ⟨fun none_there => absurd none_there (by simp),fun finish same => ?_⟩
      obtain rfl := Option.some.inj same
      exact q.ended_conclude deed f deed.call.side _ false _ (fun ok => ⟨served ok,unwoken⟩) refused
    · simp only [Program.run_bind]
      have waiting := refused ok
      exact q.loop_ends built synced zone deed f _ deed.call.side _ deed.turns _
        ⟨waiting.holds,waiting.unwoken⟩
  unfold perform
  dsimp only at ended_all ⊢
  generalize (timedCall q.metaData.getType deed.call.side deed.waitTimeNanoSec deed.turns).run
    (q.serveBench deed) ⟨shared,0,0,0,[],⟨0,[]⟩⟩ = done at ended_all
  obtain ⟨finish,t⟩ := done
  obtain ⟨waiting,ended⟩ := ended_all
  cases finish with
  | none => exact ⟨_,(waiting rfl).holds,.inr ⟨rfl,fun finish none_there => nomatch none_there⟩⟩
  | some finish =>
    rcases ended finish rfl with ⟨⟨late,rfl⟩,settled⟩ | ⟨pending,failed⟩
    · exact ⟨_,settled.holds,.inl ⟨settled.accepted,settled.answered,rfl,late,rfl⟩⟩
    · refine ⟨_,pending.holds,.inr ⟨rfl,fun other same => ?_⟩⟩
      obtain rfl := Option.some.inj same
      exact failed

end Synced

/-- Whole sessions of blocking calls on a new queue are histories of the buffer in which each call has
one moment, the last of its attempts. -/
theorem sessions_served (env : Platform) (sizeofT : Nat) (sizeof_pos : 0 < sizeofT)
    (stale : MemZoneType → MemZone) (elementCount : UInt32) (i : ι) (fresh start : Shared ι)
    (q : SharedMemQueue)
    (made : (create env sizeofT sizeof_pos stale elementCount syncedSmq).run
      (serve syncedSmq i) fresh = (some q,start))
    (some_element : 1 ≤ elementCount.toNat) (zone : elementCount.toNat * sizeofT < 2^31)
    (deeds : List (Deed ι)) :
    ∃ g : Fifo Block (q.metaData.getElementCount - 1),
      (∀ j, q.readable j (Machine.run q.perform deeds start).2 = g.content) ∧
        Machine.History q.Served deeds (Machine.run q.perform deeds start).1 Fifo.empty g := by
  obtain ⟨built,sizes,counts,synced,_,_,_⟩ := create_usable env sizeofT sizeof_pos stale elementCount
    syncedSmq i fresh start q made
  have ready := create_holds env sizeofT sizeof_pos stale elementCount some_element i fresh start q
    made
  rw [← sizes,← counts] at zone
  have limit : q.metaData.getElementCount * q.sizeofT ≤ secureMemMaxLen := by
    unfold secureMemMaxLen
    omega
  obtain ⟨g,holds,history⟩ := Machine.run_history_of_related q.perform
    (fun s (f : Fifo Block (q.metaData.getElementCount - 1)) => q.Holds s f.content) q.Served
    (fun deed s f holds => q.perform_served built synced limit deed f s holds) deeds start Fifo.empty
    ready
  exact ⟨g,holds.readable_eq,history⟩

private def wokenRead : Deed Unit :=
  ⟨(),.read 1,0,3,⟨fun _ => 0,fun _ => 0,fun _ => 0,fun _ => [((),.write UInt8.ofNat 1)]⟩⟩

private def lateRead : Deed Unit :=
  ⟨(),.read 1,8,3,⟨fun n => if n = 0 then 0 else 9,fun _ => -etimedout,fun _ => 0,fun _ => []⟩⟩

theorem sessions_served_two : ∃ (q : SharedMemQueue) (start : Shared Unit),
    (create .granting 8 (by decide) (fun _ => ⟨0,0⟩) 2 syncedSmq).run (serve syncedSmq ())
        ⟨7,9,fun _ => 0,fun _ => 0⟩ = (some q,start) ∧
      let done := Machine.run q.perform [wokenRead,lateRead] start
      done.1.map (·.finish) = [some ⟨0,false⟩,some ⟨-enodata,true⟩] ∧
        done.1.map (·.reply.data) = [[[0,1,2,3,4,5,6,7]],[]] ∧
      ∃ g : Fifo Block (q.metaData.getElementCount - 1),
        (∀ j, q.readable j done.2 = g.content) ∧
          Machine.History q.Served [wokenRead,lateRead] done.1 Fifo.empty g :=
  ⟨_,_,rfl,by decide,by decide,sessions_served .granting 8 (by decide) (fun _ => ⟨0,0⟩) 2 ()
    ⟨7,9,fun _ => 0,fun _ => 0⟩ _ _ rfl (by decide) (by decide) _⟩

end SharedMemQueue

end DriversAdapter.Smq
