import DriversAdapter.Smq.Concurrent

/-! Calls that wait: a side that sleeps lacks what it asked for, or the other side is about
to wake it. A read of no elements is the exception, since it is never served. -/
namespace DriversAdapter.Smq
open DriversAdapter.Base DriversAdapter.Semantics DriversAdapter.Semantics.Program

namespace Board

def Waits : Request → Prop
  | .now _ => False
  | .wait _ => True

/-- A side is between publishing its offset and the end of `Wake`. -/
def Waking (mine : Session SyncOp SyncOp.Res Request Label Reply) : Prop :=
  ∃ past request op next, mine = ⟨past,some (request,.perform op next)⟩ ∧ op.Wakes

theorem exec_total (q : SharedMemQueue) (i : Side) (op : SyncOp) (s : Board) :
    ∃ outcome r t, exec q i op outcome s = some (r,t) := by
  cases op with
  | futexWait bitset valParm asked =>
    by_cases same : s.word = valParm
    · exact ⟨true,true,_,if_pos same⟩
    · exact ⟨true,false,_,if_neg same⟩
  | futexResume =>
    by_cases awake : s.waiting i = none
    · exact ⟨true,0,_,if_pos awake⟩
    · exact ⟨true,-eintr,_,by rw [exec,if_neg awake,if_pos rfl]⟩
  | _ => exact ⟨true,_,_,rfl⟩

section Runs
variable (env : Platform) (sizeofT : Nat) (sizeof_pos : 0 < sizeofT)
variable (stale : MemZoneType → MemZone) (elementCount : UInt32) (creator : Side)
variable (fresh start : Shared Side) (q : SharedMemQueue) (word : UInt32)
variable (made : (SharedMemQueue.create env sizeofT sizeof_pos stale elementCount syncedSmq).run
  (serve syncedSmq creator) fresh = (some q,start))
variable (cfg : Config Side SyncOp SyncOp.Res Request Label Reply Board)

/-- With calls that wait alone, the phase of a side is where its code is. -/
theorem waking_of_phase (O : Outline (handshake q Waits))
    (idle : ∀ i past s, O.idle i past s → s.phase i = .none)
    (label : ∀ i past request l s, O.label i past request l s → s.phase i = .none)
    (op : ∀ i op s t, O.guar i op s t → op.Wakes ∨ s.phase i = .none)
    (initial : Board) (ready : ∀ i, O.idle i [] initial)
    (reached : (handshake q Waits).Reachable initial cfg) (i : Side)
    (busy : cfg.shared.phase i ≠ .none) : Waking (cfg.session i) := by
  have mine := O.sound initial ready cfg reached i
  unfold Outline.Holds at mine
  split at mine
  next => exact absurd (idle i _ _ mine) busy
  next request p now =>
    have whole : cfg.session i = ⟨(cfg.session i).past,some (request,p)⟩ := by rw [← now]
    cases p with
    | perform next_op next =>
      obtain ⟨outcome,r,t,ran⟩ := exec_total q i next_op cfg.shared
      have kept := O.sound_perform initial ready cfg reached i request _ next_op next whole r t
        ⟨trivial,outcome,ran⟩
      rcases op i next_op _ _ kept with wakes | calm
      · exact ⟨_,request,next_op,next,whole,wakes⟩
      · exact absurd calm busy
    | done next =>
      have after := mine.2 cfg.shared (O.rely_refl i _)
      cases next with
      | inl l => exact absurd (label i _ request l _ after) busy
      | inr r => exact absurd (idle i _ _ after) busy

include made in
/-- A side that sleeps in a call that can be served at all either lacks what it asked for,
or the other side is about to wake it. -/
theorem served_sleeper_woken (reached : (handshake q Waits).Reachable (opening start word) cfg)
    (i : Side) (bits : UInt32) (count : Nat) (served : Served q i count)
    (asleep : cfg.shared.waiting i = some (bits,count)) :
    bits = i.waitBit ∧ (cfg.shared.Lacks q i count ∨ Waking (cfg.session i.other)) := by
  have loose : ∀ c, Waits (.now c) → Phase.stored = .none := fun _ impossible => impossible.elim
  obtain ⟨built,synced,ready⟩ := created_outline env sizeofT sizeof_pos stale elementCount creator
    fresh start q word made Waits (· = .none) (by decide) rfl loose
  let O := outline q Waits (· = .none) built synced (by decide) rfl loose
  have inv : Inv q cfg.shared := O.sound_always (opening start word) ready (Inv q)
    (ready .writer).inv (fun _ _ _ here => here.inv) (fun _ _ _ _ here => here.2.1) cfg reached
  obtain ⟨same,may_sleep,clear⟩ := inv.asleep i bits count asleep
  have waking : cfg.shared.phase i.other ≠ .none → Waking (cfg.session i.other) :=
    waking_of_phase q cfg O (fun _ _ _ here => here.phase_ok) (fun _ _ _ _ _ here => here.2.1.phase_ok)
      (fun _ _ _ _ kept => kept.2) (opening start word) ready reached i.other
  refine ⟨same,?_⟩
  rcases may_sleep served with lacks | set | stored
  · exact .inl lacks
  · rcases clear with unset | signalled
    · exact absurd set unset
    · exact .inr (waking (by rw [signalled]; decide))
  · exact .inr (waking (by rw [stored]; decide))

end Runs

def meeting : List (Side × Move Request Bool) :=
  (.reader,.invoke (.wait (.read 1))) :: List.replicate 5 (.reader,.act false) ++
    (.writer,.invoke (.wait (.write (fun _ => 5) 1))) :: List.replicate 6 (.writer,.act false)

theorem served_sleeper_woken_meeting :
    ∃ (q : SharedMemQueue) (start : Shared Side)
      (cfg : Config Side SyncOp SyncOp.Res Request Label Reply Board),
      (SharedMemQueue.create .granting 8 (by decide) (fun _ => ⟨0,0⟩) 3 syncedSmq).run
          (serve syncedSmq .writer) ⟨7,9,fun _ => 0,fun _ => 0⟩ = (some q,start) ∧
        (handshake q Waits).schedule meeting (.start (opening start 0)) = some cfg ∧
        cfg.shared.waiting .reader = some (syncWordRead,1) ∧ ¬ cfg.shared.Lacks q .reader 1 ∧
        Waking (cfg.session .writer) := by
  have allowed : ∀ q i c, (i,Move.invoke c) ∈ meeting → (handshake q Waits).allowed i c := by
    intro q i c member
    simp only [meeting,List.mem_append,List.mem_cons,List.mem_replicate,Prod.mk.injEq,
      Move.invoke.injEq,reduceCtorEq,and_false,or_false] at member
    rcases member with ⟨rfl,rfl⟩ | ⟨rfl,rfl⟩ <;> exact ⟨rfl,trivial⟩
  have woken := fun q start cfg made ran => served_sleeper_woken .granting 8 (by decide)
    (fun _ => ⟨0,0⟩) 3 .writer ⟨7,9,fun _ => 0,fun _ => 0⟩ start q 0 made cfg
      (System.schedule_reachable _ _ meeting _ cfg
        (System.admitsAll_of_calls _ (fun _ _ _ => trivial) meeting (allowed q) _) .start ran)
      .reader syncWordRead 1
  have enough : ¬ 1 < 1 := Nat.lt_irrefl 1
  refine ⟨_,_,_,rfl,rfl,rfl,enough,?_⟩
  exact ((woken _ _ _ rfl rfl) ⟨by decide,by decide⟩ rfl).2.resolve_left enough

/-- A read of no elements waits for a writer that has nothing to do. -/
theorem read_of_none_sleeps :
    ∃ (q : SharedMemQueue) (start : Shared Side)
      (cfg : Config Side SyncOp SyncOp.Res Request Label Reply Board),
      (SharedMemQueue.create .granting 8 (by decide) (fun _ => ⟨0,0⟩) 3 syncedSmq).run
          (serve syncedSmq .writer) ⟨7,9,fun _ => 0,fun _ => 0⟩ = (some q,start) ∧
        (handshake q Waits).Reachable (opening start 0) cfg ∧
        cfg.shared.waiting .reader = some (syncWordRead,0) ∧ ¬ cfg.shared.Lacks q .reader 0 ∧
        ¬ Waking (cfg.session .writer) := by
  have allowed : ∀ q i c, (i,Move.invoke c) ∈ (Side.reader,Move.invoke (Request.wait (.read 0))) ::
      List.replicate 3 (Side.reader,Move.act false) → (handshake q Waits).allowed i c := by
    intro q i c member
    simp only [List.mem_cons,List.mem_replicate,Prod.mk.injEq,Move.invoke.injEq,reduceCtorEq,
      and_false,or_false] at member
    obtain ⟨rfl,rfl⟩ := member
    exact ⟨rfl,trivial⟩
  have reached := fun q start cfg ran => System.schedule_reachable (handshake q Waits)
    (opening start 0) _ _ cfg
    (System.admitsAll_of_calls _ (fun _ _ _ => trivial) _ (allowed q) _) .start ran
  refine ⟨_,_,_,rfl,reached _ _ _ rfl,rfl,?_,?_⟩
  · exact Nat.not_lt_zero _
  · rintro ⟨_,_,_,_,busy,_⟩
    cases busy

end Board

end DriversAdapter.Smq
