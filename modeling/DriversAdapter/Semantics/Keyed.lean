import Mathlib.Data.List.Nodup
import Mathlib.Data.List.NodupEquivFin
import Mathlib.Logic.Function.Basic

/-! Lists of records of which each has a key of its own, and maps with some keys taken:
replacing one and taking one out change that one alone. -/
namespace DriversAdapter.Semantics.Keyed

variable {α κ : Type*} (key : α → κ) {l : List α} {i : Nat} {x y : α}

section Keys

theorem unique (nodup : (l.map key).Nodup) (there : x ∈ l) (other : y ∈ l) (same : key x = key y) :
    x = y := List.inj_on_of_nodup_map nodup there other same

theorem map_set (found : l[i]? = some x) (same : key y = key x) : (l.set i y).map key = l.map key := by
  obtain ⟨bound,get⟩ := List.getElem?_eq_some_iff.mp found
  have within : i < (l.map key).length := by simpa using bound
  have kept : (l.map key)[i] = key y := by simp [get,same]
  rw [List.map_set,← kept,List.set_getElem_self]

theorem mem_set (nodup : (l.map key).Nodup) (found : l[i]? = some x) (same : key y = key x) (z : α) :
    z ∈ l.set i y ↔ z = y ∨ (z ∈ l ∧ key z ≠ key x) := by
  obtain ⟨bound,get⟩ := List.getElem?_eq_some_iff.mp found
  have there : x ∈ l := List.mem_of_getElem? found
  have nodup' : ((l.set i y).map key).Nodup := by rwa [map_set key found same]
  have put : y ∈ l.set i y := List.mem_set bound y
  constructor
  · intro member
    rcases List.mem_or_eq_of_mem_set member with old | new
    · by_cases own : key z = key x
      · exact .inl (unique key nodup' member put (own.trans same.symm))
      · exact .inr ⟨old,own⟩
    · exact .inl new
  · rintro (rfl | ⟨old,other⟩)
    · exact put
    · obtain ⟨j,left,place⟩ := List.getElem_of_mem old
      have apart : i ≠ j := by
        rintro rfl
        exact other (congrArg key (place.symm.trans get))
      have within : j < (l.set i y).length := by simpa using left
      have kept : (l.set i y)[j] = z := by rw [List.getElem_set_ne apart,place]
      exact List.mem_of_getElem kept

variable [DecidableEq κ]

theorem eraseP_filter (nodup : (l.map key).Nodup) (k : κ) :
    l.eraseP (fun x => key x == k) = l.filter fun x => key x != k := by
  induction l with
  | nil => rfl
  | cons x rest ih =>
    obtain ⟨fresh,nodup⟩ := List.nodup_cons.mp nodup
    by_cases own : key x = k
    · have others : ∀ y ∈ rest, (key y != k) = true := by
        intro y member
        have apart : key y ≠ key x := fun same => fresh (same ▸ List.mem_map_of_mem member)
        simpa [own] using apart
      rw [List.eraseP_cons_of_pos (by simpa using own),List.filter_cons_of_neg (by simpa using own),
        List.filter_eq_self.mpr others]
    · rw [List.eraseP_cons_of_neg (by simpa using own),List.filter_cons_of_pos (by simpa using own),
        ih nodup]

/-- The first element with a key is the one whose key it is. -/
theorem eraseP_place (nodup : (l.map key).Nodup) (found : l[i]? = some x) :
    l.eraseP (fun y => key y == key x) = l.eraseIdx i := by
  induction l generalizing i with
  | nil => exact nomatch found
  | cons y rest ih =>
    obtain ⟨fresh,nodup⟩ := List.nodup_cons.mp nodup
    cases i with
    | zero =>
      obtain rfl := Option.some.inj found
      rw [List.eraseP_cons_of_pos (by simp),List.eraseIdx_zero,List.tail_cons]
    | succ i =>
      have later : rest[i]? = some x := found
      have other : key y ≠ key x := fun same =>
        fresh (same ▸ List.mem_map_of_mem (List.mem_of_getElem? later))
      rw [List.eraseP_cons_of_neg (by simpa using other),List.eraseIdx_cons_succ,ih nodup later]

theorem mem_eraseP (nodup : (l.map key).Nodup) (k : κ) (z : α) :
    z ∈ l.eraseP (fun x => key x == k) ↔ z ∈ l ∧ key z ≠ k := by
  simp [eraseP_filter key nodup k,List.mem_filter]

/-- The record that was just replaced is taken out with the others left as they were. -/
theorem mem_eraseP_set (nodup : (l.map key).Nodup) (found : l[i]? = some x) (same : key y = key x)
    (z : α) : z ∈ (l.set i y).eraseP (fun x => key x == key y) ↔ z ∈ l ∧ key z ≠ key x := by
  have nodup' : ((l.set i y).map key).Nodup := by rwa [map_set key found same]
  rw [mem_eraseP key nodup',mem_set key nodup found same,same]
  constructor
  · rintro ⟨rfl | old,other⟩
    · exact absurd same other
    · exact old
  · exact fun old => ⟨.inr old,old.2⟩

theorem eraseP_append (fresh : key y ∉ l.map key) :
    (l ++ [y]).eraseP (fun x => key x == key y) = l := by
  have absent : ∀ x ∈ l, ¬ (key x == key y) = true := by
    intro x member own
    exact fresh (by simpa using ⟨x,member,by simpa using own⟩)
  rw [List.eraseP_append_right _ absent]
  simp

end Keys

/-- A search does not see a replacement that it cannot tell from the record. -/
theorem findIdx?_set {p : α → Bool} (found : l[i]? = some x) (same : p y = p x) :
    (l.set i y).findIdx? p = l.findIdx? p := by
  have shape : ∀ m : List α, m.findIdx? p = (m.map p).findIdx? id := fun m => by
    rw [List.findIdx?_map]
    rfl
  rw [shape,shape,map_set p found same]

/-- What a search finds is there and is what was looked for. -/
theorem findIdx?_found {p : α → Bool} (search : l.findIdx? p = some i) :
    ∃ x, l[i]? = some x ∧ x ∈ l ∧ p x = true := by
  obtain ⟨bound,holds,-⟩ := List.findIdx?_eq_some_iff_getElem.mp search
  exact ⟨l[i],List.getElem?_eq_getElem bound,List.getElem_mem bound,holds⟩

section Maps
variable {β : Type*} [DecidableEq κ] {entries : κ → Option β} {k j : κ} {v : β}

/-- What a map holds after one of its entries has changed. -/
theorem update_cases {entry : Option β} (now : Function.update entries k entry j = some v) :
    j = k ∧ entry = some v ∨ j ≠ k ∧ entries j = some v := by
  by_cases own : j = k
  · subst j
    rw [Function.update_self] at now
    exact .inl ⟨rfl,now⟩
  · rw [Function.update_of_ne own] at now
    exact .inr ⟨own,now⟩

theorem erase_cases (now : Function.update entries k none j = some v) :
    j ≠ k ∧ entries j = some v := by
  rcases update_cases now with ⟨_,absent⟩ | kept
  · contradiction
  · exact kept

end Maps

end DriversAdapter.Semantics.Keyed
