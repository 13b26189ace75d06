import Mathlib.Data.Set.Insert
import Mathlib.Data.Set.Lattice

/-! Machine words as sets of bit positions. -/
namespace DriversAdapter.Semantics.Mask

variable {w : Nat}

def positions (m : BitVec w) : Set Nat := {k | m.getLsbD k = true}

theorem mem_positions (m : BitVec w) (k : Nat) : k ∈ positions m ↔ m.getLsbD k = true := Iff.rfl

theorem positions_zero : positions (0#w) = ∅ := by
  ext k
  simp [mem_positions]

theorem positions_or (m other : BitVec w) :
    positions (m ||| other) = positions m ∪ positions other := by
  ext k
  simp [mem_positions]

theorem positions_bit (k : Nat) (inside : k < w) : positions (1#w <<< k) = {k} := by
  ext j
  rw [mem_positions,← BitVec.twoPow_eq,BitVec.getLsbD_twoPow]
  simp only [Set.mem_singleton_iff,Bool.and_eq_true,decide_eq_true_eq]
  constructor
  · intro both
    exact both.2.symm
  · intro same
    subst same
    exact ⟨inside,rfl⟩

theorem positions_injective : Function.Injective (positions : BitVec w → Set Nat) := by
  intro m other same
  apply BitVec.eq_of_getLsbD_eq
  intro k _
  apply Bool.eq_iff_iff.2
  exact Set.ext_iff.1 same k

theorem positions_nonempty (m : BitVec w) : (positions m).Nonempty ↔ m ≠ 0#w := by
  rw [Set.nonempty_iff_ne_empty,← positions_zero (w := w),positions_injective.ne_iff]

/-- A union over the members of a set takes in one more of them. -/
theorem positions_or_iUnion {α : Type} (m : BitVec w) (bit : α → BitVec w) (seen : Set α) (a : α)
    (covers : positions m = ⋃ s ∈ seen, positions (bit s)) :
    positions (m ||| bit a) = ⋃ s ∈ insert a seen, positions (bit s) := by
  rw [positions_or,covers,Set.biUnion_insert,Set.union_comm]

end DriversAdapter.Semantics.Mask
