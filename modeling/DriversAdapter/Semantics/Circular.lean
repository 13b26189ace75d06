import Mathlib.Data.List.Nodup
import Mathlib.Logic.Function.Basic

/-! Circular doubly linked lists with a head node, over one memory of links. A family of
lists is held by a memory when every list is a ring through its head and no node lies in
two of them. -/
namespace DriversAdapter.Semantics

structure Links (α : Type) where
  next : α → α
  prev : α → α

namespace Links

variable {α κ : Type} [DecidableEq α]

def setNext (a b : α) (l : Links α) : Links α := {l with next := Function.update l.next a b}

def setPrev (a b : α) (l : Links α) : Links α := {l with prev := Function.update l.prev a b}

def headInit (head : α) (l : Links α) : Links α := (l.setNext head head).setPrev head head

def insertHead (node head : α) (l : Links α) : Links α :=
  let first := l.next head
  (((l.setNext node first).setPrev node head).setPrev first node).setNext head node

def insertTail (node head : α) (l : Links α) : Links α :=
  let last := l.prev head
  (((l.setNext node head).setPrev node last).setNext last node).setPrev head node

def remove (node : α) (l : Links α) : Links α :=
  let before := l.prev node
  let after := l.next node
  (l.setNext before after).setPrev after before

/-- The entries of `list` go behind those of `head`, and `list` becomes empty. -/
def merge (list head : α) (l : Links α) : Links α :=
  let l := l.setPrev (l.next list) (l.prev head)
  let l := l.setNext (l.prev head) (l.next list)
  let l := l.setNext (l.prev list) head
  let l := l.setPrev head (l.prev list)
  l.headInit list

def Linked (l : Links α) (a b : α) : Prop := l.next a = b ∧ l.prev b = a

/-- The nodes `xs` lie between `a` and `b`. -/
def Segment (l : Links α) : α → List α → α → Prop
  | a, [], b => l.Linked a b
  | a, x::xs, b => l.Linked a x ∧ l.Segment x xs b

omit [DecidableEq α] in
theorem segment_append (l : Links α) (a b x : α) (xs ys : List α) :
    l.Segment a (xs ++ x::ys) b ↔ l.Segment a xs x ∧ l.Segment x ys b := by
  induction xs generalizing a with
  | nil => rfl
  | cons y xs ih => simp [Segment,ih,and_assoc]

omit [DecidableEq α] in
theorem segment_congr (l l' : Links α) (a b : α) (xs : List α) (seg : l.Segment a xs b)
    (nexts : ∀ x ∈ a::xs, l'.next x = l.next x) (prevs : ∀ x ∈ xs ++ [b], l'.prev x = l.prev x) :
    l'.Segment a xs b := by
  induction xs generalizing a with
  | nil => exact ⟨(nexts a (by simp)).trans seg.1,(prevs b (by simp)).trans seg.2⟩
  | cons x xs ih =>
    refine ⟨⟨(nexts a (by simp)).trans seg.1.1,(prevs x (by simp)).trans seg.1.2⟩,?_⟩
    exact ih x seg.2 (fun y mem => nexts y (List.mem_cons_of_mem _ mem))
      (fun y mem => prevs y (List.mem_cons_of_mem _ mem))

omit [DecidableEq α] in
theorem segment_prev_mem (l : Links α) (a b : α) (xs : List α) (seg : l.Segment a xs b) :
    l.prev b ∈ a::xs := by
  induction xs generalizing a with
  | nil => simp [seg.2]
  | cons x xs ih => exact List.mem_cons_of_mem _ (ih x seg.2)

omit [DecidableEq α] in
theorem segment_next_mem (l : Links α) (a b : α) (xs : List α) (seg : l.Segment a xs b) :
    l.next a ∈ xs ++ [b] := by
  cases xs with
  | nil => simp [seg.1]
  | cons x xs => simp [seg.1.1]

omit [DecidableEq α] in
/-- A segment may be led to another end by the last link alone. -/
theorem segment_target (l l' : Links α) (a b c : α) (xs : List α) (seg : l.Segment a xs b)
    (nodup : (a::xs).Nodup) (nexts : ∀ x ∈ a::xs, x ≠ l.prev b → l'.next x = l.next x)
    (prevs : ∀ x ∈ xs, l'.prev x = l.prev x) (last : l'.Linked (l.prev b) c) :
    l'.Segment a xs c := by
  induction xs generalizing a with
  | nil => exact seg.2 ▸ last
  | cons x xs ih =>
    have member : l.prev b ∈ x::xs := segment_prev_mem l x b xs seg.2
    have other : a ≠ l.prev b :=
      (ne_of_mem_of_not_mem member (List.nodup_cons.mp nodup).1).symm
    have first : l'.Linked a x :=
      ⟨(nexts a (by simp) other).trans seg.1.1,(prevs x (by simp)).trans seg.1.2⟩
    exact ⟨first,ih x seg.2 (List.nodup_cons.mp nodup).2
      (fun y mem => nexts y (List.mem_cons_of_mem _ mem))
      (fun y mem => prevs y (List.mem_cons_of_mem _ mem))⟩

omit [DecidableEq α] in
/-- A segment may be led on from another start by the first link alone. -/
theorem segment_source (l l' : Links α) (a b c : α) (xs : List α) (seg : l.Segment a xs b)
    (nodup : (xs ++ [b]).Nodup) (nexts : ∀ x ∈ xs, l'.next x = l.next x)
    (prevs : ∀ x ∈ xs ++ [b], x ≠ l.next a → l'.prev x = l.prev x)
    (first : l'.Linked c (l.next a)) : l'.Segment c xs b := by
  cases xs with
  | nil => exact seg.1 ▸ first
  | cons x xs =>
    have target : l.next a = x := seg.1.1
    rw [target] at first prevs
    have fresh : x ∉ xs ++ [b] := (List.nodup_cons.mp nodup).1
    refine ⟨first,segment_congr l l' x b xs seg.2 nexts ?_⟩
    intro y mem
    exact prevs y (List.mem_cons_of_mem _ mem) (fun same => fresh (same ▸ mem))

/-- The memory links these lists, each through its own head. -/
structure Holds (head : κ → α) (l : Links α) (lists : κ → List α) : Prop where
  ring : ∀ k, l.Segment (head k) (lists k) (head k)
  nodup : ∀ k, (head k::lists k).Nodup
  apart : ∀ j k, j ≠ k → List.Disjoint (head j::lists j) (head k::lists k)

theorem insertHead_next (node head x : α) (l : Links α) : (l.insertHead node head).next x =
    if x = head then node else if x = node then l.next head else l.next x := by
  simp [insertHead,setNext,setPrev,Function.update_apply]

theorem insertHead_prev (node head x : α) (l : Links α) : (l.insertHead node head).prev x =
    if x = l.next head then node else if x = node then head else l.prev x := by
  simp [insertHead,setNext,setPrev,Function.update_apply]

theorem insertTail_next (node head x : α) (l : Links α) : (l.insertTail node head).next x =
    if x = l.prev head then node else if x = node then head else l.next x := by
  simp [insertTail,setNext,setPrev,Function.update_apply]

theorem insertTail_prev (node head x : α) (l : Links α) : (l.insertTail node head).prev x =
    if x = head then node else if x = node then l.prev head else l.prev x := by
  simp [insertTail,setNext,setPrev,Function.update_apply]

theorem remove_next (node x : α) (l : Links α) : (l.remove node).next x =
    if x = l.prev node then l.next node else l.next x := by
  simp [remove,setNext,setPrev,Function.update_apply]

theorem remove_prev (node x : α) (l : Links α) : (l.remove node).prev x =
    if x = l.next node then l.prev node else l.prev x := by
  simp [remove,setNext,setPrev,Function.update_apply]

section Ring
variable (head : α) (l : Links α) (xs : List α) (ring : l.Segment head xs head)
  (nodup : (head::xs).Nodup)

include ring nodup in
theorem insertTail_ring (node : α) (fresh : node ∉ head::xs) :
    (l.insertTail node head).Segment head (xs ++ [node]) head := by
  have last : l.prev head ∈ head::xs := segment_prev_mem l head head xs ring
  have other : node ≠ l.prev head := (ne_of_mem_of_not_mem last fresh).symm
  have apart : head ∉ xs := (List.nodup_cons.mp nodup).1
  rw [segment_append]
  refine ⟨segment_target l _ head head node xs ring nodup ?_ ?_ ?_,?_⟩
  · intro x mem notLast
    rw [insertTail_next,if_neg notLast,if_neg (ne_of_mem_of_not_mem mem fresh)]
  · intro x mem
    rw [insertTail_prev,if_neg (ne_of_mem_of_not_mem mem apart),
      if_neg (ne_of_mem_of_not_mem (List.mem_cons_of_mem _ mem) fresh)]
  · have new : node ≠ head := fun same => fresh (by simp [same])
    exact ⟨by simp [insertTail_next],by simp [insertTail_prev,new]⟩
  · exact ⟨by simp [insertTail_next,other],by simp [insertTail_prev]⟩

include ring nodup in
theorem insertHead_ring (node : α) (fresh : node ∉ head::xs) :
    (l.insertHead node head).Segment head (node::xs) head := by
  have first : l.next head ∈ xs ++ [head] := segment_next_mem l head head xs ring
  have inside : ∀ x ∈ xs ++ [head], x ∈ head::xs := by simp [or_comm]
  have other : node ≠ l.next head := (ne_of_mem_of_not_mem (inside _ first) fresh).symm
  have apart : head ∉ xs := (List.nodup_cons.mp nodup).1
  have turned : (xs ++ [head]).Nodup := (List.perm_append_singleton head xs).nodup_iff.mpr nodup
  refine ⟨⟨by simp [insertHead_next],by simp [insertHead_prev,other]⟩,?_⟩
  refine segment_source l _ head head node xs ring turned ?_ ?_ ?_
  · intro x mem
    rw [insertHead_next,if_neg (ne_of_mem_of_not_mem mem apart),
      if_neg (ne_of_mem_of_not_mem (List.mem_cons_of_mem _ mem) fresh)]
  · intro x mem notFirst
    rw [insertHead_prev,if_neg notFirst,if_neg (ne_of_mem_of_not_mem (inside x mem) fresh)]
  · have new : node ≠ head := fun same => fresh (by simp [same])
    exact ⟨by simp [insertHead_next,new],by simp [insertHead_prev]⟩

end Ring

theorem remove_ring (head node : α) (l : Links α) (ys zs : List α)
    (ring : l.Segment head (ys ++ node::zs) head) (nodup : (head::(ys ++ node::zs)).Nodup) :
    (l.remove node).Segment head (ys ++ zs) head := by
  obtain ⟨left,right⟩ := (segment_append l head head node ys zs).mp ring
  have before : l.prev node ∈ head::ys := segment_prev_mem l head node ys left
  have after : l.next node ∈ zs ++ [head] := segment_next_mem l node head zs right
  obtain ⟨outside,inside⟩ := List.nodup_cons.mp nodup
  obtain ⟨ysNodup,zsNodup,apart⟩ := List.nodup_append.mp inside
  have zsFree : ∀ x ∈ zs, x ∉ head::ys := by
    intro x mem inYs
    rcases List.mem_cons.mp inYs with same | inYs
    · exact outside (by simp [← same,mem])
    · exact apart x inYs x (by simp [mem]) rfl
  have linked : (l.remove node).Linked (l.prev node) (l.next node) :=
    ⟨by simp [remove_next],by simp [remove_prev]⟩
  have ysFree : ∀ x ∈ ys, x ∉ zs ++ [head] := by
    intro x mem inZs
    rcases List.mem_append.mp inZs with inZs | same
    · exact zsFree x inZs (List.mem_cons_of_mem _ mem)
    · exact outside (by simp [← List.mem_singleton.mp same,mem])
  have stay : (l.remove node).Segment head ys (l.next node) := by
    refine segment_target l _ head node _ ys left ?_ ?_ ?_ linked
    · exact List.nodup_cons.mpr ⟨fun mem => outside (by simp [mem]),ysNodup⟩
    · intro x mem notLast
      rw [remove_next,if_neg notLast]
    · intro x mem
      rw [remove_prev,if_neg (fun same => ysFree x mem (by rw [same]; exact after))]
  cases zs with
  | nil =>
    have target : l.next node = head := by simpa using after
    simpa [target] using stay
  | cons z zs =>
    have target : l.next node = z := right.1.1
    rw [target] at stay
    refine (segment_append _ head head z ys zs).mpr ⟨stay,?_⟩
    refine segment_congr l _ z head zs right.2 ?_ ?_
    · intro x mem
      rw [remove_next,if_neg (fun same => zsFree x mem (by rw [same]; exact before))]
    · intro x mem
      have late : x ≠ l.next node := by
        rw [target]
        intro same
        subst same
        rcases List.mem_append.mp mem with mem | same
        · exact (List.nodup_cons.mp (List.nodup_cons.mp zsNodup).2).1 mem
        · exact outside (by simp [← List.mem_singleton.mp same])
      rw [remove_prev,if_neg late]

theorem headInit_ring (head : α) (l : Links α) : (l.headInit head).Segment head [] head := by
  simp [Segment,Linked,headInit,setNext,setPrev]

theorem headInit_next (head x : α) (l : Links α) :
    (l.headInit head).next x = if x = head then head else l.next x := by
  simp [headInit,setNext,setPrev,Function.update_apply]

theorem headInit_prev (head x : α) (l : Links α) :
    (l.headInit head).prev x = if x = head then head else l.prev x := by
  simp [headInit,setNext,setPrev,Function.update_apply]

/-- The last node of the merged list: that of `list`, or of `head` when `list` is empty. -/
def mergedLast (list head : α) (l : Links α) : α :=
  if l.next list = list then l.prev head else l.prev list

theorem merge_next (list head x : α) (l : Links α) (apart : head ≠ l.next list) :
    (l.merge list head).next x = if x = list then list else if x = l.mergedLast list head then head
      else if x = l.prev head then l.next list else l.next x := by
  by_cases empty : l.next list = list
  · have other : head ≠ list := empty ▸ apart
    simp only [merge,mergedLast,headInit,setNext,setPrev,Function.update_apply,empty,if_pos,
      if_neg other]
  · simp [merge,mergedLast,headInit,setNext,setPrev,Function.update_apply,apart,empty,Ne.symm empty]

theorem merge_prev (list head x : α) (l : Links α) (apart : head ≠ l.next list) :
    (l.merge list head).prev x = if x = list then list else if x = head then l.mergedLast list head
      else if x = l.next list then l.prev head else l.prev x := by
  by_cases empty : l.next list = list
  · have other : head ≠ list := empty ▸ apart
    simp [merge,mergedLast,headInit,setNext,setPrev,Function.update_apply,empty,other]
  · simp [merge,mergedLast,headInit,setNext,setPrev,Function.update_apply,apart,empty,Ne.symm empty]

theorem merge_ring (list head : α) (l : Links α) (xs ys : List α)
    (ring : l.Segment head xs head) (nodup : (head::xs).Nodup)
    (added : l.Segment list ys list) (addedNodup : (list::ys).Nodup)
    (apart : List.Disjoint (head::xs) (list::ys)) :
    (l.merge list head).Segment head (xs ++ ys) head := by
  have first : l.next list ∈ ys ++ [list] := segment_next_mem l list list ys added
  have inside : ∀ x ∈ ys ++ [list], x ∈ list::ys := by simp [or_comm]
  have other : head ≠ l.next list :=
    (ne_of_mem_of_not_mem (inside _ first) (apart List.mem_cons_self)).symm
  have last : l.prev head ∈ head::xs := segment_prev_mem l head head xs ring
  have addedLast : l.prev list ∈ list::ys := segment_prev_mem l list list ys added
  have notList : ∀ x ∈ head::xs, x ≠ list :=
    fun x mem => (ne_of_mem_of_not_mem List.mem_cons_self (apart mem)).symm
  have headOut : head ∉ xs := (List.nodup_cons.mp nodup).1
  have prevs : ∀ x ∈ xs, (l.merge list head).prev x = l.prev x := by
    intro x mem
    have notFirst : x ≠ l.next list :=
      (ne_of_mem_of_not_mem (inside _ first) (apart (List.mem_cons_of_mem _ mem))).symm
    rw [merge_prev list head x l other,if_neg (notList x (List.mem_cons_of_mem _ mem)),
      if_neg (ne_of_mem_of_not_mem mem headOut),if_neg notFirst]
  cases ys with
  | nil =>
    have empty : l.next list = list := added.1
    rw [List.append_nil]
    refine segment_target l _ head head head xs ring nodup ?_ prevs ?_
    · intro x mem notLast
      rw [merge_next list head x l other,if_neg (notList x mem),mergedLast,if_pos empty,
        if_neg notLast,if_neg notLast]
    · refine ⟨?_,?_⟩
      · rw [merge_next list head _ l other,if_neg (notList _ last),mergedLast,if_pos empty,
          if_pos rfl]
      · rw [merge_prev list head _ l other,if_neg (notList _ List.mem_cons_self),if_pos rfl,
          mergedLast,if_pos empty]
  | cons y ys =>
    have start : l.next list = y := added.1.1
    have full : l.next list ≠ list := by
      rw [start]
      exact (ne_of_mem_of_not_mem List.mem_cons_self (List.nodup_cons.mp addedNodup).1)
    have ending : l.mergedLast list head = l.prev list := if_neg full
    have before : l.prev list ∈ y::ys := segment_prev_mem l y list ys added.2
    have listOut : list ∉ y::ys := (List.nodup_cons.mp addedNodup).1
    have notEnding : ∀ x ∈ head::xs, x ≠ l.prev list :=
      fun x mem => (ne_of_mem_of_not_mem addedLast (apart mem)).symm
    refine (segment_append _ head head y xs ys).mpr ⟨?_,?_⟩
    · refine segment_target l _ head head y xs ring nodup ?_ prevs ⟨?_,?_⟩
      · intro x mem notLast
        rw [merge_next list head x l other,if_neg (notList x mem),ending,
          if_neg (notEnding x mem),if_neg notLast]
      · rw [merge_next list head _ l other,if_neg (notList _ last),ending,
          if_neg (notEnding _ last),if_pos rfl,start]
      · rw [merge_prev list head y l other,if_neg (start ▸ full),if_neg (start ▸ other.symm),
          if_pos start.symm]
    · refine segment_target l _ y list head ys added.2 (List.nodup_cons.mp addedNodup).2 ?_ ?_ ?_
      · intro x mem notLast
        have notPrev : x ≠ l.prev head :=
          (ne_of_mem_of_not_mem last (fun inAdded => apart inAdded (List.mem_cons_of_mem _ mem))).symm
        rw [merge_next list head x l other,if_neg (ne_of_mem_of_not_mem mem listOut),ending,
          if_neg notLast,if_neg notPrev]
      · intro x mem
        have late : x ≠ l.next list := by
          rw [start]
          exact ne_of_mem_of_not_mem mem
            (List.nodup_cons.mp (List.nodup_cons.mp addedNodup).2).1
        have notHead : x ≠ head := fun same =>
          apart List.mem_cons_self (same ▸ List.mem_cons_of_mem _ (List.mem_cons_of_mem _ mem))
        rw [merge_prev list head x l other,
          if_neg (ne_of_mem_of_not_mem (List.mem_cons_of_mem _ mem) listOut),
          if_neg notHead,if_neg late]
      · refine ⟨?_,?_⟩
        · rw [merge_next list head _ l other,if_neg (ne_of_mem_of_not_mem before listOut),ending,
            if_pos rfl]
        · rw [merge_prev list head _ l other,if_neg (notList _ List.mem_cons_self),if_pos rfl,
            ending]

section Family
omit [DecidableEq α]
variable (head : κ → α) (l l' : Links α) (lists : κ → List α)

/-- The lists that change are rings again, and the memory of the others is the same. -/
theorem holds_change (held : Holds head l lists) (changed : κ → Prop) (new : κ → List α)
    (kept : ∀ k, ¬changed k → new k = lists k ∧
      ∀ x ∈ head k::lists k, l'.next x = l.next x ∧ l'.prev x = l.prev x)
    (ring : ∀ k, changed k → l'.Segment (head k) (new k) (head k))
    (nodup : ∀ k, changed k → (head k::new k).Nodup)
    (apart : ∀ j k, j ≠ k → List.Disjoint (head j::new j) (head k::new k)) :
    Holds head l' new := by
  refine ⟨?_,?_,apart⟩
  · intro k
    by_cases here : changed k
    · exact ring k here
    · obtain ⟨unchanged,same⟩ := kept k here
      rw [unchanged]
      refine segment_congr l l' _ _ _ (held.ring k) (fun x mem => (same x mem).1) ?_
      intro x mem
      exact (same x (by simpa [or_comm] using mem)).2
  · intro k
    by_cases here : changed k
    · exact nodup k here
    · rw [(kept k here).1]
      exact held.nodup k

theorem holds_update [DecidableEq κ] (held : Holds head l lists) (k : κ) (new : List α)
    (ring : l'.Segment (head k) new (head k)) (nodup : (head k::new).Nodup)
    (apart : ∀ j, j ≠ k → List.Disjoint (head j::lists j) (head k::new))
    (same : ∀ j, j ≠ k → ∀ x ∈ head j::lists j, l'.next x = l.next x ∧ l'.prev x = l.prev x) :
    Holds head l' (Function.update lists k new) := by
  refine holds_change head l l' lists held (· = k) _ ?_ ?_ ?_ ?_
  · exact fun j other => ⟨Function.update_of_ne other new lists,same j other⟩
  · rintro j rfl
    simpa using ring
  · rintro j rfl
    simpa using nodup
  · intro i j different
    by_cases atI : i = k
    · subst i
      rw [Function.update_self,Function.update_of_ne (Ne.symm different)]
      exact List.disjoint_comm.mp (apart j (Ne.symm different))
    · rw [Function.update_of_ne atI]
      by_cases atJ : j = k
      · subst j
        simpa using apart i atI
      · rw [Function.update_of_ne atJ]
        exact held.apart i j different

variable {head l lists} (held : Holds head l lists)

include held in
theorem nodup_insert (k : κ) (node : α) (fresh : ∀ j, node ∉ head j::lists j) :
    (head k::node::lists k).Nodup := by
  obtain ⟨out,inside⟩ := List.nodup_cons.mp (held.nodup k)
  have new : node ≠ head k := fun same => fresh k (by simp [same])
  have notIn : node ∉ lists k := fun mem => fresh k (List.mem_cons_of_mem _ mem)
  simp [out,inside,notIn,Ne.symm new]

include held in
theorem apart_insert (j k : κ) (other : j ≠ k) (node : α) (fresh : ∀ j, node ∉ head j::lists j) :
    List.Disjoint (head j::lists j) (head k::node::lists k) := by
  intro x left right
  have different : x ≠ node := ne_of_mem_of_not_mem left (fresh j)
  have mem : x ∈ head k::lists k := by
    rcases List.mem_cons.mp right with same | later
    · simp [same]
    · exact List.mem_cons_of_mem _ ((List.mem_cons.mp later).resolve_left different)
  exact held.apart j k other left mem

include held in
theorem prev_mem (k : κ) : l.prev (head k) ∈ head k::lists k :=
  segment_prev_mem l _ _ _ (held.ring k)

include held in
theorem next_mem (k : κ) : l.next (head k) ∈ head k::lists k := by
  simpa [or_comm] using segment_next_mem l _ _ _ (held.ring k)

include held in
/-- Nodes of different rings are different. -/
theorem ne_of_apart (j k : κ) (other : j ≠ k) (x y : α) (left : x ∈ head j::lists j)
    (right : y ∈ head k::lists k) : x ≠ y :=
  ne_of_mem_of_not_mem left (fun mem => held.apart j k other mem right)

variable [DecidableEq α] [DecidableEq κ]

include held in
theorem holds_insertHead (k : κ) (node : α) (fresh : ∀ j, node ∉ head j::lists j) :
    Holds head (l.insertHead node (head k)) (Function.update lists k (node::lists k)) := by
  refine holds_update head l _ lists held k _ ?_ ?_ ?_ ?_
  · exact insertHead_ring _ l _ (held.ring k) (held.nodup k) node (fresh k)
  · exact nodup_insert held k node fresh
  · exact fun j other => apart_insert held j k other node fresh
  · intro j other x mem
    have new : x ≠ node := ne_of_mem_of_not_mem mem (fresh j)
    have notHead := ne_of_apart held j k other x (head k) mem List.mem_cons_self
    have notFirst := ne_of_apart held j k other x _ mem (next_mem held k)
    simp [insertHead_next,insertHead_prev,new,notHead,notFirst]

include held in
theorem holds_insertTail (k : κ) (node : α) (fresh : ∀ j, node ∉ head j::lists j) :
    Holds head (l.insertTail node (head k)) (Function.update lists k (lists k ++ [node])) := by
  have moved : (head k::(lists k ++ [node])).Perm (head k::node::lists k) :=
    (List.perm_append_singleton node (lists k)).cons _
  refine holds_update head l _ lists held k _ ?_ ?_ ?_ ?_
  · exact insertTail_ring _ l _ (held.ring k) (held.nodup k) node (fresh k)
  · exact moved.nodup_iff.mpr (nodup_insert held k node fresh)
  · intro j other x left right
    exact apart_insert held j k other node fresh left (moved.mem_iff.mp right)
  · intro j other x mem
    have new : x ≠ node := ne_of_mem_of_not_mem mem (fresh j)
    have notHead := ne_of_apart held j k other x (head k) mem List.mem_cons_self
    have notLast := ne_of_apart held j k other x _ mem (prev_mem held k)
    simp [insertTail_next,insertTail_prev,new,notHead,notLast]

include held in
theorem holds_remove (k : κ) (node : α) (mem : node ∈ lists k) :
    Holds head (l.remove node) (Function.update lists k ((lists k).erase node)) := by
  obtain ⟨out,inside⟩ := List.nodup_cons.mp (held.nodup k)
  obtain ⟨ys,zs,notBefore,split,erased⟩ := List.exists_erase_eq mem
  have ring := held.ring k
  have nodup := held.nodup k
  rw [split] at ring nodup
  obtain ⟨left,right⟩ := (segment_append l _ _ node ys zs).mp ring
  have before : l.prev node ∈ head k::lists k := by
    have := segment_prev_mem l _ _ _ left
    rw [split]
    simp only [List.mem_cons,List.mem_append] at this ⊢
    tauto
  have after : l.next node ∈ head k::lists k := by
    have := segment_next_mem l _ _ _ right
    rw [split]
    simp only [List.mem_cons,List.mem_append,List.not_mem_nil,or_false] at this ⊢
    tauto
  refine holds_update head l _ lists held k _ ?_ ?_ ?_ ?_
  · rw [erased]
    exact remove_ring (head k) node l ys zs ring nodup
  · exact List.nodup_cons.mpr ⟨fun there => out (List.mem_of_mem_erase there),inside.erase node⟩
  · intro j other x left right
    refine held.apart j k other left ?_
    rcases List.mem_cons.mp right with same | later
    · simp [same]
    · exact List.mem_cons_of_mem _ (List.mem_of_mem_erase later)
  · intro j other x there
    have notBefore := ne_of_apart held j k other x _ there before
    have notAfter := ne_of_apart held j k other x _ there after
    simp [remove_next,remove_prev,notBefore,notAfter]

include held in
theorem holds_merge (list k : κ) (other : k ≠ list) :
    Holds head (l.merge (head list) (head k))
      (Function.update (Function.update lists k (lists k ++ lists list)) list []) := by
  have notFirst : head k ≠ l.next (head list) :=
    ne_of_apart held k list other _ _ List.mem_cons_self (next_mem held list)
  have lastMem : l.mergedLast (head list) (head k) ∈ head k::lists k ∨
      l.mergedLast (head list) (head k) ∈ head list::lists list := by
    unfold mergedLast
    split
    next => exact .inl (prev_mem held k)
    next => exact .inr (prev_mem held list)
  refine holds_change head l _ lists held (fun j => j = k ∨ j = list) _ ?_ ?_ ?_ ?_
  · intro j neither
    obtain ⟨notK,notList⟩ := not_or.mp neither
    refine ⟨by rw [Function.update_of_ne notList,Function.update_of_ne notK],?_⟩
    intro x mem
    have notHead := ne_of_apart held j k notK x _ mem List.mem_cons_self
    have notAdded := ne_of_apart held j list notList x _ mem List.mem_cons_self
    have notPrev := ne_of_apart held j k notK x _ mem (prev_mem held k)
    have notNext := ne_of_apart held j list notList x _ mem (next_mem held list)
    have notLast : x ≠ l.mergedLast (head list) (head k) := by
      rcases lastMem with last | last
      · exact ne_of_apart held j k notK x _ mem last
      · exact ne_of_apart held j list notList x _ mem last
    rw [merge_next _ _ x l notFirst,merge_prev _ _ x l notFirst]
    simp [notHead,notAdded,notPrev,notNext,notLast]
  · rintro j (rfl | rfl)
    · rw [Function.update_of_ne other,Function.update_self]
      exact merge_ring _ _ l _ _ (held.ring j) (held.nodup j) (held.ring list) (held.nodup list)
        (held.apart j list other)
    · rw [Function.update_self,merge]
      exact headInit_ring _ _
  · rintro j (rfl | rfl)
    · rw [Function.update_of_ne other,Function.update_self,← List.cons_append]
      refine List.Nodup.append (held.nodup j) (List.nodup_cons.mp (held.nodup list)).2 ?_
      exact fun x left right => held.apart j list other left (List.mem_cons_of_mem _ right)
    · simp
  · have origin : ∀ j x, x ∈ head j::Function.update
        (Function.update lists k (lists k ++ lists list)) list [] j →
        x ∈ head j::lists j ∨ j = k ∧ x ∈ lists list := by
      intro j x mem
      by_cases atList : j = list
      · subst j
        exact .inl (List.mem_cons.mpr (.inl (by simpa using mem)))
      · rw [Function.update_of_ne atList] at mem
        by_cases atK : j = k
        · subst j
          rw [Function.update_self,← List.cons_append,List.mem_append] at mem
          exact mem.imp id (fun inList => ⟨rfl,inList⟩)
        · rw [Function.update_of_ne atK] at mem
          exact .inl mem
    have added : ∀ i j x, i = k → x ∈ lists list → j ≠ k → x ∈ head j::Function.update
        (Function.update lists k (lists k ++ lists list)) list [] j → False := by
      intro i j x atK inList notK mem
      by_cases atList : j = list
      · subst j
        have same : x = head list := by simpa using mem
        exact (List.nodup_cons.mp (held.nodup list)).1 (same ▸ inList)
      · rcases origin j x mem with old | ⟨also,_⟩
        · exact held.apart list j (Ne.symm atList) (List.mem_cons_of_mem _ inList) old
        · exact notK also
    intro i j different x left right
    rcases origin i x left with oldLeft | ⟨atK,inList⟩
    · rcases origin j x right with oldRight | ⟨atK,inList⟩
      · exact held.apart i j different oldLeft oldRight
      · exact added j i x atK inList (fun same => different (same.trans atK.symm)) left
    · exact added i j x atK inList (fun same => different (atK.trans same.symm)) right

end Family

theorem holds_headInit (head : κ → α) (distinct : Function.Injective head) (l : Links α)
    (ks : List κ) (every : ∀ k, k ∈ ks) :
    Holds head (ks.foldr (fun k => headInit (head k)) l) (fun _ => []) := by
  have rings : ∀ ks : List κ, ∀ k ∈ ks,
      (ks.foldr (fun k => headInit (head k)) l).Segment (head k) [] (head k) := by
    intro ks
    induction ks with
    | nil => simp
    | cons j ks ih =>
      intro k mem
      by_cases same : head k = head j
      · rw [same]
        exact headInit_ring _ _
      · have later : k ∈ ks :=
          (List.mem_cons.mp mem).resolve_left (fun equal => same (by rw [equal]))
        obtain ⟨next,prev⟩ := ih k later
        exact ⟨by simpa [headInit_next,same] using next,by simpa [headInit_prev,same] using prev⟩
  refine ⟨fun k => rings ks k (every k),fun _ => by simp,?_⟩
  intro j k other
  simp [distinct.ne (Ne.symm other)]

end Links

end DriversAdapter.Semantics
