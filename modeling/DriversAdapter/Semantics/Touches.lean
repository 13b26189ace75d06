import Mathlib.Logic.Basic

/-! Computations over arrays, with the places they touch. An array is all that follows its first
entry, so that a place behind its end can be touched as any other. -/
namespace DriversAdapter.Semantics

structure Touching (α : Type) where
  value : α
  touched : List Nat

namespace Touching
variable {α β : Type} {size : Nat}

instance : Monad Touching where
  pure a := ⟨a,[]⟩
  bind m f := ⟨(f m.value).value,m.touched ++ (f m.value).touched⟩

def read (array : Nat → α) (i : Nat) : Touching α := ⟨array i,[i]⟩

def write (array : Nat → α) (i : Nat) (a : α) : Touching (Nat → α) :=
  ⟨fun k => if k = i then a else array k,[i]⟩

/-- All places touched are in arrays of this size. -/
def Within (size : Nat) (m : Touching α) : Prop := ∀ i ∈ m.touched, i < size

@[simp] theorem value_pure (a : α) : (pure a : Touching α).value = a := rfl

@[simp] theorem value_bind (m : Touching α) (f : α → Touching β) :
    (m >>= f).value = (f m.value).value := rfl

@[simp] theorem value_read (array : Nat → α) (i : Nat) : (read array i).value = array i := rfl

@[simp] theorem value_write (array : Nat → α) (i : Nat) (a : α) :
    (write array i a).value = fun k => if k = i then a else array k := rfl

@[simp] theorem within_pure (a : α) : (pure a : Touching α).Within size :=
  fun _ none => nomatch none

@[simp] theorem within_bind (m : Touching α) (f : α → Touching β) :
    (m >>= f).Within size ↔ m.Within size ∧ (f m.value).Within size :=
  List.forall_mem_append

@[simp] theorem within_read (array : Nat → α) (i : Nat) : (read array i).Within size ↔ i < size :=
  List.forall_mem_singleton

@[simp] theorem within_write (array : Nat → α) (i : Nat) (a : α) :
    (write array i a).Within size ↔ i < size :=
  List.forall_mem_singleton

end Touching

end DriversAdapter.Semantics
