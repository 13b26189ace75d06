import DriversAdapter.Net.NetBufQueue
import DriversAdapter.Semantics.Interleaving
import Mathlib.Algebra.BigOperators.Group.Finset.Basic
import Mathlib.Data.Fintype.BigOperators
import Mathlib.Data.UInt

/-! Queues of network data buffers that threads and interrupts share. Enqueueing and
dequeueing hold the spin lock of the queue; `NetBufQueueConcat` takes no lock. -/
namespace DriversAdapter.Net
open DriversAdapter.Semantics DriversAdapter.Semantics.Program
open scoped BigOperators

inductive LockedCall (κ : Type)
  | enqueue (q : Option κ) (nb : Option NetBufAddr)
  | enqueueHead (q : Option κ) (nb : Option NetBufAddr)
  | dequeue (q : Option κ)
  | dequeueTail (q : Option κ)

def LockedCall.toCall {κ : Type} : LockedCall κ → QueueCall κ
  | enqueue q nb => .enqueue q nb
  | enqueueHead q nb => .enqueueHead q nb
  | dequeue q => .dequeue q
  | dequeueTail q => .dequeueTail q

inductive QueueOp (κ : Type)
  | locked (c : LockedCall κ)
  | isEmpty (add : Option κ)
  | merge (q add : κ)
  | addSize (q add : κ)
  | zeroSize (q add : κ)

abbrev QueueOp.Res {κ : Type} : QueueOp κ → Type
  | locked _ => QueueReply
  | isEmpty _ => Bool
  | merge _ _ | addSize _ _ | zeroSize _ _ => Unit

inductive ThreadCall (κ : Type)
  | locked (c : LockedCall κ)
  | clear (q : Option κ)
  | concat (q add : Option κ)

/-- The code of a call. The label of a clearing loop is what it has freed so far. -/
def ThreadCall.body {κ : Type} :
    ThreadCall κ → List NetBufAddr → Program (QueueOp κ) QueueOp.Res (List NetBufAddr ⊕ QueueReply)
  | locked c, _ => .perform (.locked c) fun reply => .done (.inr reply)
  | clear q, freed => .perform (.locked (.dequeue q)) fun reply => match reply with
    | .dequeued (some nb) => .done (.inl (freed ++ [nb]))
    | _ => .done (.inr (.freed freed))
  | concat none _, _ => .done (.inr .none)
  | concat (some q) add, _ => .perform (.isEmpty add) fun empty => match empty, add with
    | false, some add =>
      .perform (.merge q add) fun _ => .perform (.addSize q add) fun _ =>
        .perform (.zeroSize q add) fun _ => .done (.inr .none)
    | _, _ => .done (.inr .none)

structure Merging (κ : Type) where
  q : κ
  add : κ
  count : UInt32
  added : Bool

/-- The queues, and what the proof knows besides: the lists that are linked, the buffers
enqueued and not yet dequeued, and the concatenation each thread is in. -/
structure SharedQueues (ι κ L : Type) where
  queues : NetBufQueues κ L
  lists : κ → List NetBufAddr
  queued : NetBufAddr → Bool
  merging : ι → Option (Merging κ)

variable {ι κ L : Type} [DecidableEq ι] [DecidableEq κ]

namespace SharedQueues

def locked (D : DListHead κ L) (c : QueueCall κ) (s : SharedQueues ι κ L) :
    Option (QueueReply × SharedQueues ι κ L) :=
  let served := c.serve D s.queues
  served.1.map fun reply => (reply,{s with
    queues := served.2
    lists := (c.spec s.lists).2
    queued := fun nb => (s.queued nb || c.entering.contains nb) && !reply.leaving.contains nb})

def exec (D : DListHead κ L) (i : ι) (op : QueueOp κ) (s : SharedQueues ι κ L) :
    Option (op.Res × SharedQueues ι κ L) :=
  match op with
  | .locked c => s.locked D c.toCall
  | .isEmpty add => some (s.queues.netBufQueueIsEmpty D add,s)
  | .merge q add => some ((),{s with
      queues := {s.queues with dlist := D.dListMerge add q s.queues.dlist}
      lists := (QueueCall.spec (.concat (some q) (some add)) s.lists).2
      merging := Function.update s.merging i
        (some ⟨q,add,UInt32.ofNat (s.lists add).length,false⟩)})
  | .addSize q add => some ((),{s with
      queues := {s.queues with
        size := Function.update s.queues.size q (s.queues.size q + s.queues.size add)}
      merging := Function.update s.merging i
        ((s.merging i).map fun m => {m with added := true})})
  | .zeroSize _ add => some ((),{s with
      queues := {s.queues with size := Function.update s.queues.size add 0}
      merging := Function.update s.merging i none})

/-- The memory links lists that the size fields count, and a buffer that was enqueued and
not dequeued is in one of them. -/
def Consistent (D : DListHead κ L) (s : SharedQueues ι κ L) : Prop :=
  ∃ f, D.Holds s.queues.dlist f ∧ (∀ k, (s.queues.size k).toNat = (f k).length) ∧
    ∀ nb, s.queued nb = true → ∃! k, nb ∈ f k

end SharedQueues

def QueueOp.Unlinked (op : QueueOp κ) (s : SharedQueues ι κ L) : Prop :=
  match op with
  | .locked c => c.toCall.Fresh s.lists
  | _ => True

/-- A concatenation is of two queues, and the size it adds and then clears is still the
number of buffers it has merged. -/
def QueueOp.Undisturbed (i : ι) (op : QueueOp κ) (s : SharedQueues ι κ L) : Prop :=
  match op with
  | .merge q add => q ≠ add
  | .addSize _ add | .zeroSize _ add =>
    ∀ m, s.merging i = some m → s.queues.size add = m.count
  | _ => True

def queueTraffic (D : DListHead κ L) (condition : ι → QueueOp κ → SharedQueues ι κ L → Prop) :
    System ι (QueueOp κ) QueueOp.Res (ThreadCall κ) (List NetBufAddr) QueueReply Unit
      (SharedQueues ι κ L) where
  exec i op _ s := s.exec D i op
  entry _ := []
  body := ThreadCall.body
  allowed _ _ := True
  permitted i op s := op.Unlinked s ∧ condition i op s

def initialQueues (dlist : L) : SharedQueues ι κ L :=
  ⟨⟨dlist,fun _ => 0⟩,fun _ => [],fun _ => false,fun _ => none⟩

section Balance
variable [Fintype ι]

/-- What a concatenation still has to add to a size. -/
def owed (k : κ) (m : Option (Merging κ)) : UInt32 :=
  m.elim 0 fun m => if m.q = k ∧ m.added = false then m.count else 0

/-- What a concatenation still has to clear from a size. -/
def due (k : κ) (m : Option (Merging κ)) : UInt32 :=
  m.elim 0 fun m => if m.add = k then m.count else 0

/-- Every size counts its list, but for the concatenations under way. -/
structure Balanced (D : DListHead κ L) (s : SharedQueues ι κ L) : Prop where
  holds : D.Holds s.queues.dlist s.lists
  size : ∀ k, s.queues.size k + ∑ i, owed k (s.merging i) =
    UInt32.ofNat (s.lists k).length + ∑ i, due k (s.merging i)
  queued : ∀ nb, s.queued nb = true ↔ ∃ k, nb ∈ s.lists k

omit [DecidableEq κ] in
theorem sum_update (g : Option (Merging κ) → UInt32) (merging : ι → Option (Merging κ)) (i : ι)
    (m : Option (Merging κ)) : ∑ j, g (Function.update merging i m j) + g (merging i) =
      ∑ j, g (merging j) + g m := by
  have others : ∑ j ∈ Finset.univ.erase i, g (Function.update merging i m j) =
      ∑ j ∈ Finset.univ.erase i, g (merging j) := by
    apply Finset.sum_congr rfl
    intro j other
    rw [Function.update_of_ne (Finset.ne_of_mem_erase other)]
  rw [← Finset.add_sum_erase _ _ (Finset.mem_univ i),others,Function.update_self,
    ← Finset.add_sum_erase _ (fun j => g (merging j)) (Finset.mem_univ i)]
  ac_rfl

/-- A step keeps the balance if it changes both sides of every queue by the same. -/
theorem size_step (size size' : κ → UInt32) (f f' : κ → List NetBufAddr)
    (merging : ι → Option (Merging κ)) (i : ι) (m : Option (Merging κ)) (k : κ)
    (before : size k + ∑ j, owed k (merging j) =
      UInt32.ofNat (f k).length + ∑ j, due k (merging j))
    (step : size' k + owed k m + (UInt32.ofNat (f k).length + due k (merging i)) =
      size k + owed k (merging i) + (UInt32.ofNat (f' k).length + due k m)) :
    size' k + ∑ j, owed k (Function.update merging i m j) =
      UInt32.ofNat (f' k).length + ∑ j, due k (Function.update merging i m j) := by
  have owes := sum_update (owed k) merging i m
  have dues := sum_update (due k) merging i m
  grind

end Balance

section Locked
variable (D : DListHead κ L)

/-- What a locked call does to the links does not depend on the sizes, and what it does to
a size does not depend on that size. -/
theorem serve_resized (c : LockedCall κ) (dlist : L) (a b : κ → UInt32) :
    (c.toCall.serve D ⟨dlist,a⟩).1 = (c.toCall.serve D ⟨dlist,b⟩).1 ∧
      (c.toCall.serve D ⟨dlist,a⟩).2.dlist = (c.toCall.serve D ⟨dlist,b⟩).2.dlist ∧
      ∀ k, (c.toCall.serve D ⟨dlist,a⟩).2.size k + b k =
        a k + (c.toCall.serve D ⟨dlist,b⟩).2.size k := by
  cases c with
  | enqueue q nb | enqueueHead q nb =>
    simp only [LockedCall.toCall,QueueCall.serve,NetBufQueues.netBufQueueEnqueue,
      NetBufQueues.netBufQueueEnqueueHead]
    split
    · refine ⟨trivial,rfl,fun k => ?_⟩
      simp only [Function.update_apply]
      grind
    · exact ⟨trivial,rfl,fun _ => rfl⟩
  | dequeue q | dequeueTail q =>
    simp only [LockedCall.toCall,QueueCall.serve,NetBufQueues.netBufQueueDequeue,
      NetBufQueues.netBufQueueDequeueTail]
    split
    · exact ⟨rfl,rfl,fun _ => rfl⟩
    · split
      · exact ⟨rfl,rfl,fun _ => rfl⟩
      · refine ⟨rfl,rfl,fun k => ?_⟩
        simp only [Function.update_apply]
        grind

theorem exists_update (f : κ → List NetBufAddr) (q : κ) (new : List NetBufAddr) (nb : NetBufAddr) :
    (∃ k, nb ∈ Function.update f q new k) ↔ nb ∈ new ∨ ∃ k, k ≠ q ∧ nb ∈ f k := by
  constructor
  · rintro ⟨k,mem⟩
    by_cases here : k = q
    · subst k
      exact .inl (by simpa using mem)
    · exact .inr ⟨k,here,by simpa [here] using mem⟩
  · rintro (mem | ⟨k,other,mem⟩)
    · exact ⟨q,by simpa using mem⟩
    · exact ⟨k,by simpa [other] using mem⟩

theorem exists_split (f : κ → List NetBufAddr) (q : κ) (nb : NetBufAddr) :
    (∃ k, nb ∈ f k) ↔ nb ∈ f q ∨ ∃ k, k ≠ q ∧ nb ∈ f k := by
  simpa using exists_update f q (f q) nb

theorem exists_taken (l : L) (f : κ → List NetBufAddr) (held : D.Holds l f) (q : κ)
    (taken nb : NetBufAddr) (rest : List NetBufAddr) (same : (f q).Perm (taken::rest)) :
    (∃ k, nb ∈ Function.update f q rest k) ↔ (∃ k, nb ∈ f k) ∧ nb ≠ taken := by
  have nodup := same.nodup_iff.mp (D.nodup l f held q)
  have out : taken ∉ rest := (List.nodup_cons.mp nodup).1
  rw [exists_update,exists_split f q,same.mem_iff,List.mem_cons]
  constructor
  · rintro (inRest | ⟨k,other,mem⟩)
    · exact ⟨.inl (.inr inRest),ne_of_mem_of_not_mem inRest out⟩
    · refine ⟨.inr ⟨k,other,mem⟩,?_⟩
      rintro rfl
      exact D.apart l f held k q other mem (same.mem_iff.mpr List.mem_cons_self)
  · rintro ⟨(here | inRest) | elsewhere,different⟩
    · exact absurd here different
    · exact .inl inRest
    · exact .inr elsewhere

/-- The buffers in the lists after a call: those before and the one that came in, without
the one that went out. -/
theorem exists_spec (l : L) (f : κ → List NetBufAddr) (held : D.Holds l f) (c : LockedCall κ)
    (fresh : c.toCall.Fresh f) (nb : NetBufAddr) : (∃ k, nb ∈ (c.toCall.spec f).2 k) ↔
      ((∃ k, nb ∈ f k) ∨ nb ∈ c.toCall.entering) ∧ nb ∉ (c.toCall.spec f).1.leaving := by
  cases c with
  | enqueue q new =>
    rcases q with _ | q
    · simp [LockedCall.toCall,QueueCall.spec,QueueCall.entering,QueueReply.leaving]
    · rcases new with _ | new
      · simp [LockedCall.toCall,QueueCall.spec,QueueCall.entering,QueueReply.leaving]
      · simp only [LockedCall.toCall,QueueCall.spec,QueueCall.entering,QueueReply.leaving,
          exists_update,exists_split f q,List.mem_append,List.mem_singleton,List.not_mem_nil,
          not_false_eq_true,and_true]
        exact or_right_comm
  | enqueueHead q new =>
    rcases q with _ | q
    · simp [LockedCall.toCall,QueueCall.spec,QueueCall.entering,QueueReply.leaving]
    · rcases new with _ | new
      · simp [LockedCall.toCall,QueueCall.spec,QueueCall.entering,QueueReply.leaving]
      · simp only [LockedCall.toCall,QueueCall.spec,QueueCall.entering,QueueReply.leaving,
          exists_update,exists_split f q,List.mem_cons,List.not_mem_nil,or_false,
          not_false_eq_true,and_true]
        rw [or_assoc,or_comm]
  | dequeue q =>
    rcases q with _ | q
    · simp [LockedCall.toCall,QueueCall.spec,QueueCall.entering,QueueReply.leaving]
    · cases list : f q with
      | nil =>
        have same : Function.update f q [] = f := by rw [← list,Function.update_eq_self]
        simp [LockedCall.toCall,QueueCall.spec,QueueCall.entering,QueueReply.leaving,list,same]
      | cons first rest =>
        have taken := exists_taken D l f held q first nb rest (by rw [list])
        simpa [LockedCall.toCall,QueueCall.spec,QueueCall.entering,QueueReply.leaving,list]
          using taken
  | dequeueTail q =>
    rcases q with _ | q
    · simp [LockedCall.toCall,QueueCall.spec,QueueCall.entering,QueueReply.leaving]
    · rcases List.eq_nil_or_concat (f q) with list | ⟨rest,last,list⟩
      · have same : Function.update f q [] = f := by rw [← list,Function.update_eq_self]
        simp [LockedCall.toCall,QueueCall.spec,QueueCall.entering,QueueReply.leaving,list,same]
      · rw [List.concat_eq_append] at list
        have moved : (f q).Perm (last::rest) := by
          rw [list]
          exact List.perm_append_singleton last rest
        have taken := exists_taken D l f held q last nb rest moved
        simpa [LockedCall.toCall,QueueCall.spec,QueueCall.entering,QueueReply.leaving,list]
          using taken

/-- A call under the lock does to the links what it does to the lists, and changes a size
by as much as the length of its list. -/
theorem serve_locked (c : LockedCall κ) (queues : NetBufQueues κ L) (f : κ → List NetBufAddr)
    (held : D.Holds queues.dlist f) (fresh : c.toCall.Fresh f) :
    (c.toCall.serve D queues).1 = some (c.toCall.spec f).1 ∧
      D.Holds (c.toCall.serve D queues).2.dlist (c.toCall.spec f).2 ∧
      ∀ k, (c.toCall.serve D queues).2.size k + UInt32.ofNat (f k).length =
        queues.size k + UInt32.ofNat ((c.toCall.spec f).2 k).length := by
  have exactly : NetBufQueues.Represents D ⟨queues.dlist,fun k => UInt32.ofNat (f k).length⟩ f :=
    ⟨held,fun _ => rfl⟩
  obtain ⟨reply,shown⟩ := QueueCall.serve_refines D c.toCall _ f exactly fresh
  obtain ⟨sameReply,sameLinks,sameSizes⟩ :=
    serve_resized D c queues.dlist queues.size fun k => UInt32.ofNat (f k).length
  refine ⟨sameReply.trans reply,sameLinks ▸ shown.holds,fun k => ?_⟩
  rw [sameSizes k,shown.size k]

end Locked

section Steps
variable [Fintype ι] (D : DListHead κ L) (i : ι) (s : SharedQueues ι κ L) (before : Balanced D s)

omit [DecidableEq ι] in
include before in
theorem balanced_locked (c : LockedCall κ) (fresh : c.toCall.Fresh s.lists) (reply : QueueReply)
    (t : SharedQueues ι κ L) (served : s.locked D c.toCall = some (reply,t)) :
    t.merging = s.merging ∧ Balanced D t := by
  obtain ⟨replied,held,sizes⟩ := serve_locked D c s.queues s.lists before.holds fresh
  simp only [SharedQueues.locked,replied,Option.map_some,Option.some.injEq,Prod.mk.injEq] at served
  obtain ⟨rfl,rfl⟩ := served
  refine ⟨rfl,held,fun k => ?_,fun nb => ?_⟩
  · have was := before.size k
    have step := sizes k
    dsimp only
    grind
  · rw [exists_spec D _ s.lists before.holds c fresh nb,← before.queued nb]
    simp

include before in
theorem balanced_merge (q add : κ) (other : q ≠ add) (idle : s.merging i = none) :
    Balanced D {s with
      queues := {s.queues with dlist := D.dListMerge add q s.queues.dlist}
      lists := (QueueCall.spec (.concat (some q) (some add)) s.lists).2
      merging := Function.update s.merging i
        (some ⟨q,add,UInt32.ofNat (s.lists add).length,false⟩)} := by
  refine ⟨D.merge _ _ add q before.holds other,fun k => ?_,fun nb => ?_⟩
  · apply size_step s.queues.size _ s.lists _ s.merging i _ k (before.size k)
    rw [idle]
    by_cases atAdd : k = add
    · subst k
      simp [owed,due,QueueCall.spec,other]
    · by_cases atQ : k = q
      · subst k
        simp [owed,due,QueueCall.spec,other,Ne.symm other,UInt32.ofNat_add]
        ac_rfl
      · simp [owed,due,QueueCall.spec,atAdd,atQ,Ne.symm atAdd,Ne.symm atQ]
  · rw [before.queued nb]
    simp only [QueueCall.spec,exists_update,List.not_mem_nil,false_or]
    constructor
    · rintro ⟨k,mem⟩
      by_cases atAdd : k = add
      · subst k
        exact ⟨q,other,by simp [mem]⟩
      · refine ⟨k,atAdd,?_⟩
        by_cases atQ : k = q
        · subst k
          simp [mem]
        · simp [atQ,mem]
    · rintro ⟨k,_,mem⟩
      obtain inside | ⟨j,_,mem⟩ := (exists_update s.lists q _ nb).mp ⟨k,mem⟩
      · exact (List.mem_append.mp inside).elim (fun mem => ⟨q,mem⟩) (fun mem => ⟨add,mem⟩)
      · exact ⟨j,mem⟩

include before in
theorem balanced_addSize (q add : κ) (count : UInt32)
    (here : s.merging i = some ⟨q,add,count,false⟩) (same : s.queues.size add = count) :
    Balanced D {s with
      queues := {s.queues with
        size := Function.update s.queues.size q (s.queues.size q + s.queues.size add)}
      merging := Function.update s.merging i (some ⟨q,add,count,true⟩)} := by
  refine ⟨before.holds,fun k => ?_,before.queued⟩
  apply size_step s.queues.size _ s.lists _ s.merging i _ k (before.size k)
  rw [here,same]
  by_cases atQ : k = q
  · subst k
    simp [owed,due]
  · simp [owed,due,atQ,Ne.symm atQ]

include before in
theorem balanced_zeroSize (q add : κ) (count : UInt32)
    (here : s.merging i = some ⟨q,add,count,true⟩) (same : s.queues.size add = count) :
    Balanced D {s with
      queues := {s.queues with size := Function.update s.queues.size add 0}
      merging := Function.update s.merging i none} := by
  refine ⟨before.holds,fun k => ?_,before.queued⟩
  apply size_step s.queues.size _ s.lists _ s.merging i _ k (before.size k)
  rw [here]
  by_cases atAdd : k = add
  · subst k
    simp [owed,due,same]
    ac_rfl
  · simp [owed,due,atAdd,Ne.symm atAdd]

end Steps

section Outline
variable [Fintype ι] (D : DListHead κ L)

def Within (i : ι) (m : Option (Merging κ)) (s : SharedQueues ι κ L) : Prop :=
  s.merging i = m ∧ Balanced D s

def Interferes (i : ι) (s t : SharedQueues ι κ L) : Prop :=
  t.merging i = s.merging i ∧ (Balanced D s → Balanced D t)

def Respects (i : ι) (s t : SharedQueues ι κ L) : Prop :=
  (∀ j, j ≠ i → t.merging j = s.merging j) ∧ (Balanced D s → Balanced D t)

omit [DecidableEq ι] in
theorem within_stable (i : ι) (m : Option (Merging κ)) (s t : SharedQueues ι κ L)
    (moved : Interferes D i s t) (within : Within D i m s) : Within D i m t :=
  ⟨moved.1.trans within.1,moved.2 within.2⟩

/-- What every point of a call knows: the thread is out of all concatenations. -/
def Settled (i : ι) (_ : List NetBufAddr ⊕ QueueReply) (s : SharedQueues ι κ L) : Prop :=
  Within D i none s

abbrev Meets (i : ι) (p : Program (QueueOp κ) QueueOp.Res (List NetBufAddr ⊕ QueueReply))
    (s : SharedQueues ι κ L) : Prop :=
  Safe (Interferes D i) ((queueTraffic D QueueOp.Undisturbed).step i)
    (fun _ s t => Respects D i s t ∧ Balanced D t) (Settled D i) p s

omit [DecidableEq ι] in
theorem respects_alone (i : ι) (s t : SharedQueues ι κ L) (same : t.merging = s.merging)
    (after : Balanced D t) : Respects D i s t :=
  ⟨fun _ _ => by rw [same],fun _ => after⟩

theorem respects_update (i : ι) (m : Option (Merging κ)) (s t : SharedQueues ι κ L)
    (same : t.merging = Function.update s.merging i m) (after : Balanced D t) :
    Respects D i s t :=
  ⟨fun j other => by rw [same,Function.update_of_ne other],fun _ => after⟩

theorem meets_done (i : ι) (value : List NetBufAddr ⊕ QueueReply) (s : SharedQueues ι κ L)
    (within : Within D i none s) : Meets D i (.done value) s :=
  fun t moved => within_stable D i none s t moved within

theorem meets_perform (i : ι) (m : Option (Merging κ)) (op : QueueOp κ)
    (next : op.Res → Program (QueueOp κ) QueueOp.Res (List NetBufAddr ⊕ QueueReply))
    (s : SharedQueues ι κ L) (within : Within D i m s)
    (stepped : ∀ t, Within D i m t → ∀ r u,
      (queueTraffic D QueueOp.Undisturbed).step i op t r u →
        Respects D i t u ∧ Balanced D u ∧ Meets D i (next r) u) :
    Meets D i (.perform op next) s := by
  intro t moved r u performed
  obtain ⟨kept,after,rest⟩ := stepped t (within_stable D i m s t moved within) r u performed
  exact ⟨⟨kept,after⟩,rest⟩

theorem meets_locked (i : ι) (c : LockedCall κ)
    (next : QueueReply → Program (QueueOp κ) QueueOp.Res (List NetBufAddr ⊕ QueueReply))
    (s : SharedQueues ι κ L) (within : Within D i none s)
    (rest : ∀ r u, Within D i none u → Meets D i (next r) u) :
    Meets D i (.perform (.locked c) next) s := by
  refine meets_perform D i none _ _ s within ?_
  rintro t ⟨idle,before⟩ r u ⟨⟨fresh,_⟩,_,served⟩
  obtain ⟨same,after⟩ := balanced_locked D t before c fresh r u served
  exact ⟨respects_alone D i t u same after,after,rest r u ⟨by rw [same,idle],after⟩⟩

theorem meets_merge (i : ι) (q add : κ) (s : SharedQueues ι κ L) (within : Within D i none s) :
    Meets D i (.perform (.merge q add) fun _ => .perform (.addSize q add) fun _ =>
      .perform (.zeroSize q add) fun _ => .done (.inr .none)) s := by
  refine meets_perform D i none _ _ s within ?_
  rintro t ⟨idle,before⟩ _ u ⟨⟨_,other⟩,_,served⟩
  obtain rfl := (Prod.mk.inj (Option.some.inj served)).2
  have merged := balanced_merge D i t before q add other idle
  refine ⟨respects_update D i _ t _ rfl merged,merged,?_⟩
  refine meets_perform D i _ _ _ _ ⟨Function.update_self i _ _,merged⟩ ?_
  rintro t' ⟨here,before⟩ _ u ⟨⟨_,same⟩,_,served⟩
  obtain rfl := (Prod.mk.inj (Option.some.inj served)).2
  have size := same _ here
  have added := balanced_addSize D i t' before q add _ here size
  rw [here,Option.map_some]
  refine ⟨respects_update D i _ t' _ rfl added,added,?_⟩
  refine meets_perform D i _ _ _ _ ⟨Function.update_self i _ _,added⟩ ?_
  rintro t'' ⟨here,before⟩ _ u ⟨⟨_,same⟩,_,served⟩
  obtain rfl := (Prod.mk.inj (Option.some.inj served)).2
  have size := same _ here
  have cleared := balanced_zeroSize D i t'' before q add _ here size
  exact ⟨respects_update D i _ t'' _ rfl cleared,cleared,
    meets_done D i _ _ ⟨Function.update_self i _ _,cleared⟩⟩

theorem meets_body (i : ι) (c : ThreadCall κ) (freed : List NetBufAddr) (s : SharedQueues ι κ L)
    (within : Within D i none s) : Meets D i (c.body freed) s := by
  cases c with
  | locked c => exact meets_locked D i c _ s within fun r u => meets_done D i (.inr r) u
  | clear q =>
    refine meets_locked D i (.dequeue q) _ s within fun r u after => ?_
    split
    · exact meets_done D i _ u after
    · exact meets_done D i _ u after
  | concat q add =>
    cases q with
    | none => exact meets_done D i _ s within
    | some q =>
      refine meets_perform D i none _ _ s within ?_
      rintro t inside empty u ⟨_,_,served⟩
      obtain rfl := (Prod.mk.inj (Option.some.inj served)).2
      refine ⟨respects_alone D i _ _ rfl inside.2,inside.2,?_⟩
      split
      · exact meets_merge D i q _ _ inside
      · exact meets_done D i _ _ inside

def trafficOutline : Outline (ι := ι) (queueTraffic D QueueOp.Undisturbed) where
  rely := Interferes D
  guar i _ s t := Respects D i s t
  idle i _ s := Within D i none s
  during _ _ _ s := Balanced D s
  label i _ _ _ s := Within D i none s
  rely_refl _ _ := ⟨rfl,id⟩
  rely_trans _ _ _ _ first second := ⟨second.1.trans first.1,second.2 ∘ first.2⟩
  idle_stable i _ s t := within_stable D i none s t
  during_stable _ _ _ _ _ moved before := moved.2 before
  invoke _ _ _ _ _ within := ⟨within.2,within⟩
  body i past c freed s within := by
    refine safe_mono _ s (fun _ _ _ kept => kept) ?_ (meets_body D i c freed s within)
    intro next t settled
    cases next with
    | inl freed => exact settled
    | inr reply => exact settled
  compatible i j _ _ _ other kept := ⟨kept.1 j (Ne.symm other),kept.2⟩

omit [DecidableEq ι] in
theorem initialQueues_balanced (dlist : L) (empty : D.Holds dlist fun _ => []) :
    Balanced (ι := ι) D (initialQueues dlist) := by
  refine ⟨empty,fun k => ?_,fun nb => ?_⟩
  · simp [initialQueues,owed,due]
  · simp [initialQueues]

/-- Between the calls the queues are as they should be. -/
theorem queueTraffic_consistent (dlist : L) (empty : D.Holds dlist fun _ => [])
    (cfg : Config ι (QueueOp κ) QueueOp.Res (ThreadCall κ) (List NetBufAddr) QueueReply
      (SharedQueues ι κ L))
    (reached : (queueTraffic D QueueOp.Undisturbed).Reachable (initialQueues dlist) cfg)
    (quiet : ∀ i, (cfg.session i).now = none) : cfg.shared.Consistent D := by
  let O := trafficOutline (ι := ι) D
  have initially := initialQueues_balanced (ι := ι) D dlist empty
  have ready : ∀ i, O.idle i [] (initialQueues dlist) := fun _ => ⟨rfl,initially⟩
  have balanced : Balanced D cfg.shared :=
    O.sound_always (initialQueues dlist) ready (Balanced D) initially (fun _ _ _ here => here.2)
      (fun _ _ _ _ here => here) cfg reached
  have idle : ∀ i, cfg.shared.merging i = none := by
    intro i
    have mine := O.sound (initialQueues dlist) ready cfg reached i
    unfold Outline.Holds at mine
    rw [quiet i] at mine
    exact mine.1
  refine ⟨cfg.shared.lists,balanced.holds,fun k => ?_,fun nb queued => ?_⟩
  · have size := balanced.size k
    simp only [idle,owed,due,Option.elim_none,Finset.sum_const_zero,add_zero] at size
    have bound := netBuf_count _ (D.nodup _ _ balanced.holds k)
    rw [size,UInt32.toNat_ofNat']
    exact Nat.mod_eq_of_lt bound
  · obtain ⟨k,mem⟩ := (balanced.queued nb).mp queued
    refine ⟨k,mem,fun j also => ?_⟩
    by_contra other
    exact D.apart _ _ balanced.holds j k other also mem

end Outline

private def someBuf : NetBufAddr := ⟨192,by decide⟩

private def otherBuf : NetBufAddr := ⟨256,by decide⟩

/-- One thread fills a queue, and another adds it to its own; meanwhile the first puts one more buffer
into the longer queue, and takes one out. -/
private def handover : List (Bool × Move (ThreadCall Bool) Unit) :=
  [(true,.invoke (.locked (.enqueue (some true) (some someBuf)))),(true,.act ()),(true,.act ()),
    (false,.invoke (.concat (some false) (some true))),(false,.act ()),(false,.act ()),
    (true,.invoke (.locked (.enqueue (some false) (some otherBuf)))),(true,.act ()),(true,.act ()),
    (false,.act ()),
    (true,.invoke (.locked (.dequeue (some false)))),(true,.act ()),(true,.act ()),
    (false,.act ()),(false,.act ())]

private theorem rings_empty : (circularDList fun _ : Bool => someBuf).Holds ⟨id,id⟩ fun _ => [] := by
  refine ⟨fun k => ⟨rfl,rfl⟩,fun _ => by simp,?_⟩
  intro j k other
  simpa using Ne.symm other

theorem queueTraffic_consistent_handover :
    ∃ cfg, (queueTraffic (circularDList fun _ => someBuf) QueueOp.Undisturbed).schedule handover
        (.start (initialQueues ⟨id,id⟩)) = some cfg ∧ cfg.shared.queues.size false = 1 ∧
      cfg.shared.queues.size true = 0 ∧
      cfg.shared.queues.dlist.next (.queue false) = .buffer otherBuf ∧
      cfg.shared.Consistent (circularDList fun _ => someBuf) := by
  have consistent := fun cfg admitted ran quiet =>
    queueTraffic_consistent (ι := Bool) (circularDList fun _ => someBuf) ⟨id,id⟩ rings_empty cfg
      (System.schedule_reachable _ _ handover _ cfg admitted .start ran) quiet
  refine ⟨_,rfl,rfl,rfl,rfl,consistent _ ?_ rfl ?_⟩
  · refine ⟨trivial,⟨fun k => ?_,trivial⟩,trivial,trivial,⟨trivial,trivial⟩,⟨trivial,?_⟩,
      trivial,⟨fun k => ?_,trivial⟩,trivial,⟨trivial,?_⟩,trivial,⟨trivial,trivial⟩,trivial,
      ⟨trivial,?_⟩,trivial,trivial⟩
    · cases k <;> exact List.not_mem_nil
    · exact Bool.false_ne_true
    · cases k <;> decide
    · rintro m ⟨⟩
      rfl
    · rintro m ⟨⟩
      rfl
  · intro i
    cases i <;> rfl

/-- The same, and one more buffer comes between the merge and the sizes. -/
private def overtaken : List (Bool × Move (ThreadCall Bool) Unit) :=
  [(true,.invoke (.locked (.enqueue (some true) (some someBuf)))),(true,.act ()),(true,.act ()),
    (false,.invoke (.concat (some false) (some true))),(false,.act ()),(false,.act ()),
    (true,.invoke (.locked (.enqueue (some true) (some otherBuf)))),(true,.act ()),(true,.act ()),
    (false,.act ()),(false,.act ()),(false,.act ())]

private theorem overtaken_ends :
    ∃ cfg, (queueTraffic (ι := Bool) (circularDList fun _ : Bool => someBuf)
        fun _ _ _ => True).Reachable (initialQueues ⟨id,id⟩) cfg ∧
      (∀ i, (cfg.session i).now = none) ∧ cfg.shared.queues.size true = 0 ∧
        cfg.shared.queues.dlist.next (.queue true) = .buffer otherBuf := by
  have reached := fun cfg admitted ran => System.schedule_reachable
    (queueTraffic (ι := Bool) (circularDList fun _ : Bool => someBuf) fun _ _ _ => True)
    (initialQueues ⟨id,id⟩) overtaken _ cfg admitted .start ran
  refine ⟨_,reached _ ?_ rfl,fun i => by cases i <;> rfl,rfl,rfl⟩
  refine ⟨trivial,⟨fun k => ?_,trivial⟩,trivial,trivial,⟨trivial,trivial⟩,⟨trivial,trivial⟩,
    trivial,⟨fun k => ?_,trivial⟩,trivial,⟨trivial,trivial⟩,⟨trivial,trivial⟩,trivial,trivial⟩
  · cases k <;> exact List.not_mem_nil
  · cases k <;> decide

theorem queueTraffic_inconsistent_overtaken :
    ¬ ∀ cfg, (queueTraffic (ι := Bool) (circularDList fun _ : Bool => someBuf)
        fun _ _ _ => True).Reachable (initialQueues ⟨id,id⟩) cfg →
      (∀ i, (cfg.session i).now = none) → cfg.shared.Consistent (circularDList fun _ => someBuf) := by
  intro always
  obtain ⟨cfg,reached,quiet,size,next⟩ := overtaken_ends
  obtain ⟨f,held,sizes,_⟩ := always cfg reached quiet
  have none : f true = [] := List.length_eq_zero_iff.mp (by rw [← sizes true,size]; rfl)
  have ring := held.ring true
  rw [none] at ring
  have head : DListNode.buffer otherBuf = DListNode.queue true := next.symm.trans ring.1
  contradiction

end DriversAdapter.Net
