import Mathlib.Algebra.GroupWithZero.Nat
import Mathlib.Data.List.Basic

/-! One allocation carved into consecutive slices, each a start and a length. -/
namespace DriversAdapter.Semantics.Slices

abbrev Slice := Nat × Nat

def Slice.Apart (a b : Slice) : Prop := a.1 + a.2 ≤ b.1 ∨ b.1 + b.2 ≤ a.1

def Slice.Inside (start size : Nat) (a : Slice) : Prop := start ≤ a.1 ∧ a.1 + a.2 ≤ start + size

def carve (start : Nat) : List Nat → List Slice
  | [] => []
  | n::rest => (start,n)::carve (start + n) rest

theorem carve_inside (start : Nat) (lens : List Nat) :
    ∀ a ∈ carve start lens, a.Inside start lens.sum := by
  induction lens generalizing start with
  | nil => intro a member; cases member
  | cons n rest ih =>
    intro a member
    rw [List.sum_cons]
    rcases List.mem_cons.mp member with same | later
    · rw [same]
      exact ⟨Nat.le_refl _,by dsimp only; omega⟩
    · obtain ⟨low,high⟩ := ih (start + n) a later
      exact ⟨by omega,by omega⟩

/-- A slice lies behind all the slices before it. -/
theorem carve_ordered (start : Nat) (lens : List Nat) :
    (carve start lens).Pairwise fun a b => a.1 + a.2 ≤ b.1 := by
  induction lens generalizing start with
  | nil => exact .nil
  | cons n rest ih =>
    refine .cons ?_ (ih (start + n))
    intro b later
    exact (carve_inside (start + n) rest b later).1

theorem carve_apart (start : Nat) (lens : List Nat) :
    (carve start lens).Pairwise Slice.Apart :=
  (carve_ordered start lens).imp .inl

end DriversAdapter.Semantics.Slices
