import Mathlib.Data.List.Induction
import Mathlib.Logic.Function.Basic

/-! Tables read backwards: the first index that has a value. A table is filled from a list of
entries, of which the last for an index counts; all other indices keep a default. -/
namespace DriversAdapter.Semantics.Lookup

variable {α : Type}

/-- The value of the last entry for an index. -/
def given (entries : List (Nat × α)) (i : Nat) : Option α :=
  (entries.reverse.find? fun e => e.1 = i).map Prod.snd

def fill (entries : List (Nat × α)) (table : Nat → α) : Nat → α :=
  entries.foldl (fun table e => Function.update table e.1 e.2) table

theorem fill_eq (entries : List (Nat × α)) (table : Nat → α) (i : Nat) :
    fill entries table i = (given entries i).getD (table i) := by
  induction entries using List.reverseRecOn with
  | nil => rfl
  | append_singleton entries e ih =>
    have filled : fill (entries ++ [e]) table = Function.update (fill entries table) e.1 e.2 := by
      simp [fill]
    rw [filled,given,List.reverse_append,List.reverse_singleton,List.singleton_append,
      List.find?_cons]
    by_cases same : e.1 = i
    · subst same
      simp
    · have other : i ≠ e.1 := Ne.symm same
      simp only [same,decide_false,Function.update_of_ne other]
      exact ih

theorem given_mem {entries : List (Nat × α)} {i : Nat} {v : α} (found : given entries i = some v) :
    (i,v) ∈ entries := by
  obtain ⟨⟨j,w⟩,here,rfl⟩ := Option.map_eq_some_iff.mp found
  have same := List.find?_some here
  have member := List.mem_reverse.mp (List.mem_of_find?_eq_some here)
  obtain rfl : j = i := by simpa using same
  exact member

section First
variable [DecidableEq α]

/-- The first index below `n` with this value. -/
def first (table : Nat → α) (n : Nat) (v : α) : Option Nat :=
  (List.range n).find? fun i => v = table i

theorem first_eq_some {table : Nat → α} {n i : Nat} {v : α} :
    first table n v = some i ↔ table i = v ∧ i < n ∧ ∀ j < i, table j ≠ v := by
  rw [first,List.find?_range_eq_some]
  simp only [decide_eq_true_eq,List.mem_range,Bool.not_eq_true',decide_eq_false_iff_not,
    eq_comm (a := v),ne_eq]

theorem first_of_mem {table : Nat → α} {n i : Nat} {v : α} (inside : i < n) (here : table i = v) :
    ∃ k, first table n v = some k ∧ k ≤ i := by
  cases found : first table n v with
  | none =>
    have absent := List.find?_eq_none.mp found i (List.mem_range.mpr inside)
    simp [here] at absent
  | some k =>
    refine ⟨k,rfl,Nat.not_lt.mp fun before => ?_⟩
    exact (first_eq_some.mp found).2.2 i before here

/-- Reading backwards finds the index that was given a value exactly where no two were given the
same one, and every index that was given none is behind one that was given the default. -/
theorem first_given_iff (entries : List (Nat × α)) (default : α) (n : Nat) (valid : α → Prop)
    (inside : ∀ e ∈ entries, e.1 < n) :
    (∀ v i, valid v →
        (first (fill entries fun _ => default) n v = some i ↔ given entries i = some v)) ↔
      (∀ v i j, valid v → given entries i = some v → given entries j = some v → i = j) ∧
        (valid default → ∀ i < n, given entries i = none →
          ∃ j < i, given entries j = some default) := by
  have value (i : Nat) (v : α) (found : given entries i = some v) :
      i < n ∧ fill entries (fun _ => default) i = v := by
    rw [fill_eq,found]
    exact ⟨inside _ (given_mem found),rfl⟩
  constructor
  · intro right
    refine ⟨fun v i j ok one two => ?_,fun ok i below none => ?_⟩
    · have same := ((right v i ok).mpr one).symm.trans ((right v j ok).mpr two)
      exact Option.some.inj same
    · have unset : fill entries (fun _ => default) i = default := by
        rw [fill_eq,none]
        rfl
      obtain ⟨k,found,le⟩ := first_of_mem below unset
      have here := (right default k ok).mp found
      refine ⟨k,Nat.lt_of_le_of_ne le ?_,here⟩
      rintro rfl
      rw [none] at here
      contradiction
  · rintro ⟨apart,covered⟩ v i ok
    have forward (k : Nat) (found : first (fill entries fun _ => default) n v = some k) :
        given entries k = some v := by
      obtain ⟨here,below,least⟩ := first_eq_some.mp found
      rw [fill_eq] at here
      cases found' : given entries k with
      | some w =>
        rw [found'] at here
        exact congrArg some here
      | none =>
        rw [found'] at here
        obtain rfl : default = v := here
        obtain ⟨j,before,mine⟩ := covered ok k below found'
        exact absurd (value j _ mine).2 (least j before)
    constructor
    · exact forward i
    · intro mine
      obtain ⟨below,here⟩ := value i v mine
      obtain ⟨k,found,_⟩ := first_of_mem below here
      rw [found,apart v k i ok (forward k found) mine]

end First

end DriversAdapter.Semantics.Lookup
