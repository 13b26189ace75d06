import DriversAdapter.Semantics.Circular
import DriversAdapter.Semantics.Machine
import Mathlib.Data.List.Perm.Subperm

/-! Queues of network data buffers: a circular list of buffers and, apart from it, a size.
The list primitives belong to the driver framework and are a parameter. -/
namespace DriversAdapter.Net
open DriversAdapter.Semantics

/-- Buffers lie in the kernel's 32-bit memory, where address 0 is `NULL`. -/
abbrev NetBufAddr := {address : UInt32 // address ≠ 0}

/-- The lists of the driver framework, each with its head in one of the queues. A buffer
may be inserted while it is in no list. -/
structure DListHead (κ L : Type) [DecidableEq κ] where
  dListHeadInit : κ → L → L
  dListInsertHead : NetBufAddr → κ → L → L
  dListInsertTail : NetBufAddr → κ → L → L
  dListRemove : NetBufAddr → L → L
  dListMerge : κ → κ → L → L
  dListIsEmpty : κ → L → Bool
  dListFirstEntry : κ → L → NetBufAddr
  dListLastEntry : κ → L → NetBufAddr
  Holds : L → (κ → List NetBufAddr) → Prop
  nodup : ∀ l f, Holds l f → ∀ k, (f k).Nodup
  apart : ∀ l f, Holds l f → ∀ j k, j ≠ k → List.Disjoint (f j) (f k)
  init : ∀ l (ks : List κ), (∀ k, k ∈ ks) → Holds (ks.foldr dListHeadInit l) fun _ => []
  insertHead : ∀ l f k nb, Holds l f → (∀ j, nb ∉ f j) →
    Holds (dListInsertHead nb k l) (Function.update f k (nb::f k))
  insertTail : ∀ l f k nb, Holds l f → (∀ j, nb ∉ f j) →
    Holds (dListInsertTail nb k l) (Function.update f k (f k ++ [nb]))
  remove : ∀ l f k nb, Holds l f → nb ∈ f k →
    Holds (dListRemove nb l) (Function.update f k ((f k).erase nb))
  merge : ∀ l f list k, Holds l f → k ≠ list →
    Holds (dListMerge list k l) (Function.update (Function.update f k (f k ++ f list)) list [])
  isEmpty : ∀ l f k, Holds l f → dListIsEmpty k l = (f k).isEmpty
  first : ∀ l f k nb rest, Holds l f → f k = nb::rest → dListFirstEntry k l = nb
  last : ∀ l f k nb rest, Holds l f → f k = rest ++ [nb] → dListLastEntry k l = nb

/-- The memory of all the links, and the size field of every queue. -/
structure NetBufQueues (κ L : Type) where
  dlist : L
  size : κ → UInt32

variable {κ L : Type} [DecidableEq κ]

namespace NetBufQueues

variable (D : DListHead κ L)

def netBufQueueInit (q : Option κ) (s : NetBufQueues κ L) : NetBufQueues κ L :=
  match q with
  | none => s
  | some q => ⟨D.dListHeadInit q s.dlist,Function.update s.size q 0⟩

def netBufQueueSize (q : Option κ) (s : NetBufQueues κ L) : UInt32 :=
  match q with
  | none => 0
  | some q => s.size q

def netBufQueueIsEmpty (q : Option κ) (s : NetBufQueues κ L) : Bool :=
  match q with
  | none => true
  | some q => D.dListIsEmpty q s.dlist

def netBufQueueEnqueue (q : Option κ) (nb : Option NetBufAddr) (s : NetBufQueues κ L) :
    NetBufQueues κ L :=
  match q, nb with
  | some q, some nb => ⟨D.dListInsertTail nb q s.dlist,Function.update s.size q (s.size q + 1)⟩
  | _, _ => s

def netBufQueueEnqueueHead (q : Option κ) (nb : Option NetBufAddr) (s : NetBufQueues κ L) :
    NetBufQueues κ L :=
  match q, nb with
  | some q, some nb => ⟨D.dListInsertHead nb q s.dlist,Function.update s.size q (s.size q + 1)⟩
  | _, _ => s

def netBufQueueDequeue (q : Option κ) (s : NetBufQueues κ L) :
    Option NetBufAddr × NetBufQueues κ L :=
  match q with
  | none => (none,s)
  | some q =>
    if D.dListIsEmpty q s.dlist then (none,s)
    else
      let nb := D.dListFirstEntry q s.dlist
      (some nb,⟨D.dListRemove nb s.dlist,Function.update s.size q (s.size q - 1)⟩)

def netBufQueueDequeueTail (q : Option κ) (s : NetBufQueues κ L) :
    Option NetBufAddr × NetBufQueues κ L :=
  match q with
  | none => (none,s)
  | some q =>
    if D.dListIsEmpty q s.dlist then (none,s)
    else
      let nb := D.dListLastEntry q s.dlist
      (some nb,⟨D.dListRemove nb s.dlist,Function.update s.size q (s.size q - 1)⟩)

def netBufQueueAtHead (q : Option κ) (s : NetBufQueues κ L) : Option NetBufAddr :=
  match q with
  | none => none
  | some q => if D.dListIsEmpty q s.dlist then none else some (D.dListFirstEntry q s.dlist)

def netBufQueueAtTail (q : Option κ) (s : NetBufQueues κ L) : Option NetBufAddr :=
  match q with
  | none => none
  | some q => if D.dListIsEmpty q s.dlist then none else some (D.dListLastEntry q s.dlist)

/-- The buffers that are freed, in order, or `none` when the fuel runs out first. -/
def clearLoop (q : Option κ) : Nat → NetBufQueues κ L → Option (List NetBufAddr) × NetBufQueues κ L
  | 0, s => (none,s)
  | fuel+1, s =>
    match s.netBufQueueDequeue D q with
    | (none,s) => (some [],s)
    | (some nb,s) =>
      let rest := clearLoop q fuel s
      (rest.1.map (nb::·),rest.2)

/-- No queue can hold as many buffers as there is fuel. -/
def netBufQueueClear (q : Option κ) (s : NetBufQueues κ L) :
    Option (List NetBufAddr) × NetBufQueues κ L :=
  match q with
  | none => (some [],s)
  | some q => clearLoop D (some q) UInt32.size s

def netBufQueueConcat (q add : Option κ) (s : NetBufQueues κ L) : NetBufQueues κ L :=
  match q with
  | none => s
  | some q =>
    if s.netBufQueueIsEmpty D add then s
    else match add with
      | none => s
      | some add =>
        let size := Function.update s.size q (s.size q + s.size add)
        ⟨D.dListMerge add q s.dlist,Function.update size add 0⟩

end NetBufQueues

inductive QueueCall (κ : Type)
  | size (q : Option κ)
  | isEmpty (q : Option κ)
  | enqueue (q : Option κ) (nb : Option NetBufAddr)
  | enqueueHead (q : Option κ) (nb : Option NetBufAddr)
  | dequeue (q : Option κ)
  | dequeueTail (q : Option κ)
  | atHead (q : Option κ)
  | atTail (q : Option κ)
  | clear (q : Option κ)
  | concat (q add : Option κ)

inductive QueueReply
  | none
  | size (n : Nat)
  | isEmpty (answer : Bool)
  | seen (nb : Option NetBufAddr)
  | dequeued (nb : Option NetBufAddr)
  | freed (nbs : List NetBufAddr)
  deriving DecidableEq

namespace QueueCall
open NetBufQueues

/-- The reply, or `none` for a call that does not return. -/
def serve (D : DListHead κ L) (c : QueueCall κ) (s : NetBufQueues κ L) :
    Option QueueReply × NetBufQueues κ L :=
  match c with
  | size q => (some (.size (s.netBufQueueSize q).toNat),s)
  | isEmpty q => (some (.isEmpty (s.netBufQueueIsEmpty D q)),s)
  | enqueue q nb => (some .none,s.netBufQueueEnqueue D q nb)
  | enqueueHead q nb => (some .none,s.netBufQueueEnqueueHead D q nb)
  | dequeue q =>
    let taken := s.netBufQueueDequeue D q
    (some (.dequeued taken.1),taken.2)
  | dequeueTail q =>
    let taken := s.netBufQueueDequeueTail D q
    (some (.dequeued taken.1),taken.2)
  | atHead q => (some (.seen (s.netBufQueueAtHead D q)),s)
  | atTail q => (some (.seen (s.netBufQueueAtTail D q)),s)
  | clear q =>
    let cleared := s.netBufQueueClear D q
    (cleared.1.map .freed,cleared.2)
  | concat q add => (some .none,s.netBufQueueConcat D q add)

/-- The same calls on a family of double-ended lists. -/
def spec (c : QueueCall κ) (f : κ → List NetBufAddr) : QueueReply × (κ → List NetBufAddr) :=
  match c with
  | size q => (.size (q.elim 0 fun q => (f q).length),f)
  | isEmpty q => (.isEmpty (q.elim true fun q => (f q).isEmpty),f)
  | enqueue (some q) (some nb) => (.none,Function.update f q (f q ++ [nb]))
  | enqueueHead (some q) (some nb) => (.none,Function.update f q (nb::f q))
  | enqueue _ _ | enqueueHead _ _ => (.none,f)
  | dequeue (some q) => (.dequeued (f q).head?,Function.update f q (f q).tail)
  | dequeueTail (some q) => (.dequeued (f q).getLast?,Function.update f q (f q).dropLast)
  | dequeue none | dequeueTail none => (.dequeued .none,f)
  | atHead q => (.seen (q.bind fun q => (f q).head?),f)
  | atTail q => (.seen (q.bind fun q => (f q).getLast?),f)
  | clear (some q) => (.freed (f q),Function.update f q [])
  | clear none => (.freed [],f)
  | concat (some q) (some add) =>
    (.none,Function.update (Function.update f q (f q ++ f add)) add [])
  | concat _ _ => (.none,f)

/-- A buffer is enqueued while it is in no queue, and a queue is not added to itself. -/
def Fresh (c : QueueCall κ) (f : κ → List NetBufAddr) : Prop :=
  match c with
  | enqueue (some _) (some nb) | enqueueHead (some _) (some nb) => ∀ k, nb ∉ f k
  | concat (some q) (some add) => q ≠ add
  | _ => True

def entering : QueueCall κ → List NetBufAddr
  | enqueue (some _) (some nb) | enqueueHead (some _) (some nb) => [nb]
  | _ => []

end QueueCall

def QueueReply.leaving : QueueReply → List NetBufAddr
  | .dequeued nb => nb.toList
  | .freed nbs => nbs
  | _ => []

/-- The memory links the lists, and the size fields count them modulo 2^32. -/
structure NetBufQueues.Represents (D : DListHead κ L) (s : NetBufQueues κ L)
    (f : κ → List NetBufAddr) : Prop where
  holds : D.Holds s.dlist f
  size : ∀ k, s.size k = UInt32.ofNat (f k).length

theorem netBuf_count (nbs : List NetBufAddr) (nodup : nbs.Nodup) : nbs.length < UInt32.size := by
  let number : NetBufAddr → Nat := fun nb => nb.1.toNat - 1
  have positive (nb : NetBufAddr) : 0 < nb.1.toNat := by
    have := nb.2
    rw [Ne,← UInt32.toNat_inj] at this
    exact Nat.pos_of_ne_zero this
  have distinct : Function.Injective number := by
    intro a b same
    have left := positive a
    have right := positive b
    exact Subtype.ext (UInt32.toNat_inj.mp (by simp only [number] at same; omega))
  have inside : nbs.map number ⊆ List.range (UInt32.size - 1) := by
    intro n mem
    obtain ⟨nb,_,rfl⟩ := List.mem_map.mp mem
    have bound := nb.1.toNat_lt
    have := positive nb
    simp only [number,List.mem_range,UInt32.size]
    omega
  have le := ((List.nodup_map_iff distinct).mpr nodup).subperm inside |>.length_le
  rw [List.length_map,List.length_range] at le
  simp only [UInt32.size] at le ⊢
  omega

namespace NetBufQueues

section Calls
variable {D : DListHead κ L} {s : NetBufQueues κ L} {f : κ → List NetBufAddr}
  (shown : s.Represents D f)

include shown in
theorem represents_isEmpty (q : κ) : s.netBufQueueIsEmpty D (some q) = (f q).isEmpty :=
  D.isEmpty _ f q shown.holds

include shown in
theorem represents_size (q : Option κ) :
    (s.netBufQueueSize q).toNat = q.elim 0 fun q => (f q).length := by
  cases q with
  | none => rfl
  | some q =>
    have bound := netBuf_count (f q) (D.nodup _ f shown.holds q)
    simp only [netBufQueueSize,shown.size q,UInt32.toNat_ofNat',Option.elim_some]
    exact Nat.mod_eq_of_lt bound

theorem represents_update (dlist : L) (q : κ) (n : UInt32) (new : List NetBufAddr)
    (sizes : ∀ k, s.size k = UInt32.ofNat (f k).length)
    (holds : D.Holds dlist (Function.update f q new)) (size : n = UInt32.ofNat new.length) :
    Represents D ⟨dlist,Function.update s.size q n⟩ (Function.update f q new) := by
  refine ⟨holds,fun k => ?_⟩
  by_cases here : k = q
  · subst k
    simp [size]
  · simp [here,sizes k]

include shown in
theorem represents_enqueue (q : κ) (nb : NetBufAddr) (fresh : ∀ k, nb ∉ f k) :
    (s.netBufQueueEnqueue D (some q) (some nb)).Represents D
      (Function.update f q (f q ++ [nb])) := by
  apply represents_update _ _ _ _ shown.size (D.insertTail _ f q nb shown.holds fresh)
  rw [shown.size q,List.length_append,List.length_singleton,UInt32.ofNat_add]
  rfl

include shown in
theorem represents_enqueueHead (q : κ) (nb : NetBufAddr) (fresh : ∀ k, nb ∉ f k) :
    (s.netBufQueueEnqueueHead D (some q) (some nb)).Represents D
      (Function.update f q (nb::f q)) := by
  apply represents_update _ _ _ _ shown.size (D.insertHead _ f q nb shown.holds fresh)
  rw [shown.size q,List.length_cons,UInt32.ofNat_add]
  rfl

private theorem represents_remove (shown : s.Represents D f) (q : κ) (nb : NetBufAddr)
    (mem : nb ∈ f q) : Represents D
      ⟨D.dListRemove nb s.dlist,Function.update s.size q (s.size q - 1)⟩
      (Function.update f q ((f q).erase nb)) := by
  apply represents_update _ _ _ _ shown.size (D.remove _ f q nb shown.holds mem)
  have positive : 0 < (f q).length := List.length_pos_of_mem mem
  rw [shown.size q,List.length_erase_of_mem mem,UInt32.sub_eq_iff_eq_add]
  rw [← UInt32.ofNat_one,← UInt32.ofNat_add,Nat.sub_add_cancel positive]

include shown in
theorem represents_dequeue (q : κ) :
    (s.netBufQueueDequeue D (some q)).1 = (f q).head? ∧
      (s.netBufQueueDequeue D (some q)).2.Represents D (Function.update f q (f q).tail) := by
  have empty := D.isEmpty _ f q shown.holds
  cases list : f q with
  | nil =>
    rw [list] at empty
    have none : s.netBufQueueDequeue D (some q) = (none,s) := if_pos empty
    rw [none,List.tail_nil,← list,Function.update_eq_self]
    exact ⟨by simp [list],shown⟩
  | cons nb rest =>
    rw [list] at empty
    have first := D.first _ f q nb rest shown.holds list
    have taken : s.netBufQueueDequeue D (some q) =
        (some nb,⟨D.dListRemove nb s.dlist,Function.update s.size q (s.size q - 1)⟩) := by
      rw [← first]
      exact if_neg (by simp [empty])
    have left := represents_remove shown q nb (by simp [list])
    rw [list,List.erase_cons_head] at left
    rw [taken]
    exact ⟨by simp,by simpa using left⟩

include shown in
theorem represents_dequeueTail (q : κ) :
    (s.netBufQueueDequeueTail D (some q)).1 = (f q).getLast? ∧
      (s.netBufQueueDequeueTail D (some q)).2.Represents D
        (Function.update f q (f q).dropLast) := by
  have empty := D.isEmpty _ f q shown.holds
  rcases List.eq_nil_or_concat (f q) with list | ⟨rest,nb,list⟩
  · rw [list] at empty
    have none : s.netBufQueueDequeueTail D (some q) = (none,s) := if_pos empty
    rw [none,list,List.dropLast_nil,← list,Function.update_eq_self]
    exact ⟨by simp [list],shown⟩
  · rw [List.concat_eq_append] at list
    have last := D.last _ f q nb rest shown.holds list
    have taken : s.netBufQueueDequeueTail D (some q) =
        (some nb,⟨D.dListRemove nb s.dlist,Function.update s.size q (s.size q - 1)⟩) := by
      rw [← last]
      exact if_neg (by simp [empty,list])
    have new : nb ∉ rest := by
      have nodup := D.nodup _ f shown.holds q
      rw [list] at nodup
      exact fun mem => (List.nodup_append.mp nodup).2.2 nb mem nb (by simp) rfl
    have left := represents_remove shown q nb (by simp [list])
    rw [list,List.erase_append_right _ new] at left
    rw [taken,list]
    exact ⟨by simp,by simpa using left⟩

theorem represents_clearLoop (q : κ) (fuel : Nat) (s : NetBufQueues κ L)
    (f : κ → List NetBufAddr) (shown : s.Represents D f) (enough : (f q).length < fuel) :
    (clearLoop D (some q) fuel s).1 = some (f q) ∧
      (clearLoop D (some q) fuel s).2.Represents D (Function.update f q []) := by
  induction fuel generalizing s f with
  | zero => contradiction
  | succ fuel ih =>
    obtain ⟨taken,left⟩ := represents_dequeue shown q
    unfold clearLoop
    cases list : f q with
    | nil =>
      rw [list] at taken left
      split
      next s' none =>
        rw [none] at left
        exact ⟨rfl,left⟩
      next nb s' some => simp [some] at taken
    | cons nb rest =>
      rw [list] at taken left enough
      split
      next s' none => simp [none] at taken
      next nb' s' some =>
        rw [some] at taken left
        obtain rfl : nb' = nb := by simpa using taken
        obtain ⟨freed,cleared⟩ := ih s' _ left (by simpa using enough)
        rw [Function.update_self] at freed
        rw [Function.update_idem] at cleared
        exact ⟨by simp [freed],cleared⟩

include shown in
theorem represents_clear (q : κ) :
    (s.netBufQueueClear D (some q)).1 = some (f q) ∧
      (s.netBufQueueClear D (some q)).2.Represents D (Function.update f q []) :=
  represents_clearLoop q _ s f shown (netBuf_count (f q) (D.nodup _ f shown.holds q))

include shown in
theorem represents_concat (q add : κ) (other : q ≠ add) :
    (s.netBufQueueConcat D (some q) (some add)).Represents D
      (Function.update (Function.update f q (f q ++ f add)) add []) := by
  have empty := represents_isEmpty shown add
  by_cases none : (f add).isEmpty
  · have same : s.netBufQueueConcat D (some q) (some add) = s :=
      if_pos (empty.trans none)
    have nil : f add = [] := List.isEmpty_iff.mp none
    rw [same,nil,List.append_nil,Function.update_eq_self,← nil,Function.update_eq_self]
    exact shown
  · have merged : s.netBufQueueConcat D (some q) (some add) =
        ⟨D.dListMerge add q s.dlist,
          Function.update (Function.update s.size q (s.size q + s.size add)) add 0⟩ :=
      if_neg (by rw [empty]; exact none)
    rw [merged]
    refine ⟨D.merge _ f add q shown.holds other,fun k => ?_⟩
    by_cases atAdd : k = add
    · subst k
      simp
    · by_cases atQ : k = q
      · subst k
        simp [atAdd,shown.size,UInt32.ofNat_add]
      · simp [atAdd,atQ,shown.size k]

end Calls

theorem represents_init (D : DListHead κ L) (queues : List κ) (every : ∀ q, q ∈ queues)
    (memory : NetBufQueues κ L) :
    (queues.foldr (fun q s => s.netBufQueueInit D (some q)) memory).Represents D fun _ => [] := by
  have lists : ∀ qs : List κ, (qs.foldr (fun q s => netBufQueueInit D (some q) s) memory).dlist =
      qs.foldr D.dListHeadInit memory.dlist := by
    intro qs
    induction qs with
    | nil => rfl
    | cons q qs ih => exact congrArg (D.dListHeadInit q) ih
  have sizes : ∀ qs : List κ, ∀ q ∈ qs,
      (qs.foldr (fun q s => netBufQueueInit D (some q) s) memory).size q = 0 := by
    intro qs
    induction qs with
    | nil => simp
    | cons j qs ih =>
      intro q mem
      by_cases here : q = j
      · simp [netBufQueueInit,here]
      · simpa [netBufQueueInit,here] using ih q ((List.mem_cons.mp mem).resolve_left here)
  refine ⟨?_,fun q => sizes queues q (every q)⟩
  rw [lists]
  exact D.init _ queues every

end NetBufQueues

namespace QueueCall
open NetBufQueues

/-- One call on the queues is one operation on the lists they represent. -/
theorem serve_refines (D : DListHead κ L) (c : QueueCall κ) (s : NetBufQueues κ L)
    (f : κ → List NetBufAddr) (shown : s.Represents D f) (fresh : c.Fresh f) :
    (c.serve D s).1 = some (c.spec f).1 ∧ (c.serve D s).2.Represents D (c.spec f).2 := by
  cases c with
  | size q => exact ⟨by simp only [serve,spec,represents_size shown],shown⟩
  | isEmpty q =>
    cases q with
    | none => exact ⟨rfl,shown⟩
    | some q => exact ⟨by simp [serve,spec,represents_isEmpty shown],shown⟩
  | enqueue q nb =>
    rcases q with _ | q
    · exact ⟨rfl,shown⟩
    · rcases nb with _ | nb
      · exact ⟨rfl,shown⟩
      · exact ⟨rfl,represents_enqueue shown q nb fresh⟩
  | enqueueHead q nb =>
    rcases q with _ | q
    · exact ⟨rfl,shown⟩
    · rcases nb with _ | nb
      · exact ⟨rfl,shown⟩
      · exact ⟨rfl,represents_enqueueHead shown q nb fresh⟩
  | dequeue q =>
    rcases q with _ | q
    · exact ⟨rfl,shown⟩
    · obtain ⟨taken,left⟩ := represents_dequeue shown q
      exact ⟨by simp only [serve,spec,taken],left⟩
  | dequeueTail q =>
    rcases q with _ | q
    · exact ⟨rfl,shown⟩
    · obtain ⟨taken,left⟩ := represents_dequeueTail shown q
      exact ⟨by simp only [serve,spec,taken],left⟩
  | atHead q =>
    rcases q with _ | q
    · exact ⟨rfl,shown⟩
    · refine ⟨?_,shown⟩
      simp only [serve,spec,netBufQueueAtHead,D.isEmpty _ f q shown.holds]
      cases list : f q with
      | nil => simp [list]
      | cons nb rest => simp [list,D.first _ f q nb rest shown.holds list]
  | atTail q =>
    rcases q with _ | q
    · exact ⟨rfl,shown⟩
    · refine ⟨?_,shown⟩
      simp only [serve,spec,netBufQueueAtTail,D.isEmpty _ f q shown.holds]
      rcases List.eq_nil_or_concat (f q) with list | ⟨rest,nb,list⟩
      · simp [list]
      · rw [List.concat_eq_append] at list
        simp [list,D.last _ f q nb rest shown.holds list]
  | clear q =>
    rcases q with _ | q
    · exact ⟨rfl,shown⟩
    · obtain ⟨freed,cleared⟩ := represents_clear shown q
      exact ⟨by simp [serve,spec,freed],cleared⟩
  | concat q add =>
    rcases q with _ | q
    · exact ⟨rfl,shown⟩
    · rcases add with _ | add
      · exact ⟨rfl,shown⟩
      · exact ⟨rfl,represents_concat shown q add fresh⟩

theorem linked_update (queues : List κ) (distinct : queues.Nodup) (q : κ) (mem : q ∈ queues)
    (f : κ → List NetBufAddr) (new : List NetBufAddr) (nb : NetBufAddr) :
    (queues.flatMap (Function.update f q new)).count nb + (f q).count nb =
      (queues.flatMap f).count nb + new.count nb := by
  induction queues with
  | nil => contradiction
  | cons j queues ih =>
    obtain ⟨out,rest⟩ := List.nodup_cons.mp distinct
    simp only [List.flatMap_cons,List.count_append]
    by_cases here : j = q
    · subst j
      have same : queues.flatMap (Function.update f q new) = queues.flatMap f := by
        apply List.flatMap_congr
        intro k inside
        exact Function.update_of_ne (ne_of_mem_of_not_mem inside out) new f
      rw [same,Function.update_self]
      omega
    · have later := ih rest ((List.mem_cons.mp mem).resolve_left (Ne.symm here))
      rw [Function.update_of_ne here]
      omega

section Conservation
variable (queues : List κ) (every : ∀ q, q ∈ queues) (distinct : queues.Nodup)

include every distinct in
/-- What a call takes in and what was linked is what it gives out and what is linked then. -/
theorem spec_conserves (c : QueueCall κ) (f : κ → List NetBufAddr) (fresh : c.Fresh f)
    (nb : NetBufAddr) : c.entering.count nb + (queues.flatMap f).count nb =
      (c.spec f).1.leaving.count nb + (queues.flatMap (c.spec f).2).count nb := by
  have moved := fun q => linked_update queues distinct q (every q)
  cases c with
  | size q | isEmpty q | atHead q | atTail q => simp [spec,entering,QueueReply.leaving]
  | enqueue q new =>
    rcases q with _ | q
    · simp [spec,entering,QueueReply.leaving]
    · rcases new with _ | new
      · simp [spec,entering,QueueReply.leaving]
      · have step := moved q f (f q ++ [new]) nb
        simp only [spec,entering,QueueReply.leaving,List.count_append,List.count_nil] at step ⊢
        omega
  | enqueueHead q new =>
    rcases q with _ | q
    · simp [spec,entering,QueueReply.leaving]
    · rcases new with _ | new
      · simp [spec,entering,QueueReply.leaving]
      · have step := moved q f (new::f q) nb
        rw [← List.singleton_append,List.count_append] at step
        simp only [spec,entering,QueueReply.leaving,List.count_nil,List.singleton_append] at step ⊢
        omega
  | dequeue q =>
    rcases q with _ | q
    · simp [spec,entering,QueueReply.leaving]
    · have step := moved q f (f q).tail nb
      have split : (f q).count nb = (f q).head?.toList.count nb + (f q).tail.count nb := by
        rw [← List.count_append]
        cases f q <;> rfl
      simp only [spec,entering,QueueReply.leaving,List.count_nil] at step ⊢
      omega
  | dequeueTail q =>
    rcases q with _ | q
    · simp [spec,entering,QueueReply.leaving]
    · have step := moved q f (f q).dropLast nb
      have split : (f q).count nb = (f q).dropLast.count nb + (f q).getLast?.toList.count nb := by
        rw [← List.count_append]
        rcases List.eq_nil_or_concat (f q) with list | ⟨rest,last,list⟩ <;> simp [list]
      simp only [spec,entering,QueueReply.leaving,List.count_nil] at step ⊢
      omega
  | clear q =>
    rcases q with _ | q
    · simp [spec,entering,QueueReply.leaving]
    · have step := moved q f [] nb
      simp only [spec,entering,QueueReply.leaving,List.count_nil] at step ⊢
      omega
  | concat q add =>
    rcases q with _ | q
    · simp [spec,entering,QueueReply.leaving]
    · rcases add with _ | add
      · simp [spec,entering,QueueReply.leaving]
      · have other : add ≠ q := Ne.symm fresh
        have first := moved q f (f q ++ f add) nb
        have second := moved add (Function.update f q (f q ++ f add)) [] nb
        rw [Function.update_of_ne other] at second
        simp only [spec,entering,QueueReply.leaving,List.count_append,List.count_nil] at first second ⊢
        omega

include every distinct in
theorem run_conserves (calls : List (QueueCall κ)) (f : κ → List NetBufAddr)
    (fresh : Machine.MeetsAll spec Fresh calls f) (nb : NetBufAddr) :
    (calls.flatMap entering).count nb + (queues.flatMap f).count nb =
      ((Machine.run spec calls f).1.flatMap QueueReply.leaving).count nb +
        (queues.flatMap (Machine.run spec calls f).2).count nb := by
  induction calls generalizing f with
  | nil => simp [Machine.run]
  | cons c calls ih =>
    obtain ⟨now,later⟩ := fresh
    have first := spec_conserves queues every distinct c f now nb
    have rest := ih _ later
    simp only [Machine.run,List.flatMap_cons,List.count_append]
    omega

end Conservation

end QueueCall

/-- The queues refine double-ended lists: every reply is that of the lists, the sizes
count them, and each buffer that came in is linked once or was given out. -/
theorem netBufQueues_refine (D : DListHead κ L) (queues : List κ) (every : ∀ q, q ∈ queues)
    (distinct : queues.Nodup) (memory : NetBufQueues κ L) (calls : List (QueueCall κ))
    (fresh : Machine.MeetsAll QueueCall.spec QueueCall.Fresh calls (fun _ => [])) :
    let start := queues.foldr (fun q s => s.netBufQueueInit D (some q)) memory
    let ran := Machine.run (QueueCall.serve D) calls start
    let lists := Machine.run QueueCall.spec calls (fun _ => [])
    ran.1 = lists.1.map some ∧ D.Holds ran.2.dlist lists.2 ∧
      (∀ q, (ran.2.netBufQueueSize (some q)).toNat = (lists.2 q).length) ∧
      (queues.flatMap lists.2).Nodup ∧
      (calls.flatMap QueueCall.entering).Perm
        (lists.1.flatMap QueueReply.leaving ++ queues.flatMap lists.2) := by
  intro start ran lists
  have initially : start.Represents D (fun _ => []) :=
    NetBufQueues.represents_init D queues every memory
  obtain ⟨replies,shown⟩ := Machine.run_simulates (QueueCall.serve D) QueueCall.spec
    QueueCall.Fresh some (NetBufQueues.Represents D) (QueueCall.serve_refines D) calls start _
    initially fresh
  have once : (queues.flatMap lists.2).Nodup := by
    refine List.nodup_flatMap.mpr ⟨fun q _ => D.nodup _ _ shown.holds q,?_⟩
    exact distinct.imp fun other => D.apart _ _ shown.holds _ _ other
  have conserved : (calls.flatMap QueueCall.entering).Perm
      (lists.1.flatMap QueueReply.leaving ++ queues.flatMap lists.2) := by
    apply List.perm_iff_count.mpr
    intro nb
    have counts := QueueCall.run_conserves queues every distinct calls _ fresh nb
    have none : queues.flatMap (fun _ => ([] : List NetBufAddr)) = [] := by
      simp [List.flatMap_eq_nil_iff]
    rw [none,List.count_nil,Nat.add_zero] at counts
    rw [List.count_append]
    exact counts
  exact ⟨replies,shown.holds,fun q => NetBufQueues.represents_size shown (some q),once,conserved⟩

section Rings

/-- The list nodes inside queues and buffers. -/
inductive DListNode (κ : Type)
  | queue (q : κ)
  | buffer (nb : NetBufAddr)
  deriving DecidableEq

variable (container : κ → NetBufAddr)

private theorem map_update (f : κ → List NetBufAddr) (q : κ) (new : List NetBufAddr) :
    (fun k => (Function.update f q new k).map (DListNode.buffer : NetBufAddr → DListNode κ)) =
      Function.update (fun k => (f k).map DListNode.buffer) q (new.map DListNode.buffer) := by
  funext k
  by_cases here : k = q
  · subst k
    simp
  · simp [here]

omit [DecidableEq κ] in
private theorem fresh_node (f : κ → List NetBufAddr) (nb : NetBufAddr) (fresh : ∀ k, nb ∉ f k)
    (k : κ) : DListNode.buffer nb ∉ DListNode.queue k::(f k).map (DListNode.buffer : NetBufAddr → DListNode κ) := by
  simp [fresh k]

/-- The buffer around a node; around the node of a queue it would be `container`. -/
def DListNode.entry : DListNode κ → NetBufAddr
  | queue q => container q
  | buffer nb => nb

/-- The framework's lists as rings of pointers. -/
def circularDList : DListHead κ (Links (DListNode κ)) where
  dListHeadInit k := Links.headInit (.queue k)
  dListInsertHead nb k := Links.insertHead (.buffer nb) (.queue k)
  dListInsertTail nb k := Links.insertTail (.buffer nb) (.queue k)
  dListRemove nb := Links.remove (.buffer nb)
  dListMerge list k := Links.merge (.queue list) (.queue k)
  dListIsEmpty k l := l.next (.queue k) = .queue k
  dListFirstEntry k l := (l.next (.queue k)).entry container
  dListLastEntry k l := (l.prev (.queue k)).entry container
  Holds l f := l.Holds DListNode.queue fun k => (f k).map DListNode.buffer
  nodup l f held k := List.Nodup.of_map _ (List.nodup_cons.mp (held.nodup k)).2
  apart l f held j k other nb left right :=
    held.apart j k other (List.mem_cons_of_mem _ (List.mem_map_of_mem left))
      (List.mem_cons_of_mem _ (List.mem_map_of_mem right))
  init l ks every := Links.holds_headInit DListNode.queue (fun _ _ => DListNode.queue.inj) l ks every
  insertHead l f k nb held fresh := by
    rw [map_update]
    exact Links.holds_insertHead held k _ (fresh_node f nb fresh)
  insertTail l f k nb held fresh := by
    rw [map_update,List.map_append]
    exact Links.holds_insertTail held k _ (fresh_node f nb fresh)
  remove l f k nb held mem := by
    rw [map_update,List.map_erase (fun _ _ => DListNode.buffer.inj)]
    exact Links.holds_remove held k _ (List.mem_map_of_mem mem)
  merge l f list k held other := by
    rw [map_update,map_update,List.map_append]
    exact Links.holds_merge held list k other
  isEmpty l f k held := by
    have ring := held.ring k
    cases list : f k with
    | nil =>
      rw [list] at ring
      simpa using ring.1
    | cons nb rest =>
      rw [list] at ring
      simp [ring.1.1]
  first l f k nb rest held list := by
    have ring := held.ring k
    rw [list] at ring
    simp [ring.1.1,DListNode.entry]
  last l f k nb rest held list := by
    have ring := held.ring k
    rw [list,List.map_append,List.map_cons,Links.segment_append] at ring
    simp [ring.2.2,DListNode.entry]

end Rings

private def firstBuf : NetBufAddr := ⟨64,by decide⟩

private def secondBuf : NetBufAddr := ⟨128,by decide⟩

private def movedCalls : List (QueueCall Bool) :=
  [.enqueue (some false) (some firstBuf),.enqueueHead (some true) (some secondBuf),
    .concat (some false) (some true),.dequeueTail (some false),.size (some true),
    .clear (some false)]

private def scattered : NetBufQueues Bool (Links (DListNode Bool)) := ⟨⟨id,id⟩,fun _ => 7⟩

theorem netBufQueues_refine_moved :
    let start := [false,true].foldr
      (fun q s => s.netBufQueueInit (circularDList fun _ => firstBuf) (some q)) scattered
    (Machine.run (QueueCall.serve (circularDList fun _ => firstBuf)) movedCalls start).1 =
      [some .none,some .none,some .none,some (.dequeued (some secondBuf)),some (.size 0),
        some (.freed [firstBuf])] := by
  have fresh : Machine.MeetsAll QueueCall.spec QueueCall.Fresh movedCalls (fun _ => []) := by
    simp [Machine.MeetsAll,movedCalls,QueueCall.Fresh,QueueCall.spec,firstBuf,secondBuf,
      Function.update_apply]
  exact (netBufQueues_refine (circularDList fun _ => firstBuf) [false,true] (by decide) (by decide)
    scattered movedCalls fresh).1

end DriversAdapter.Net
