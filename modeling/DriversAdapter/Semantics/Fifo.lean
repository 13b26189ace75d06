import Mathlib.Data.List.Basic

/-! A first-in first-out buffer that never holds more than its capacity: offers are
taken whole or refused, and so are requests for elements. -/
namespace DriversAdapter.Semantics

structure Fifo (α : Type) (capacity : Nat) where
  content : List α
  bounded : content.length ≤ capacity

namespace Fifo

inductive Request (α : Type)
  | offer (items : List α)
  | take (count : Nat)

inductive Answer (α : Type)
  | offered (accepted : Bool)
  | taken (items : Option (List α))
  deriving DecidableEq

variable {α : Type} {capacity : Nat}

def empty : Fifo α capacity := ⟨[],Nat.zero_le _⟩

/-- An offer is accepted when it fits; elements are taken when that many, and at least
one, are asked for and present. -/
def step : Request α → Fifo α capacity → Answer α × Fifo α capacity
  | .offer items, f =>
    if fits : f.content.length + items.length ≤ capacity then
      (.offered true,⟨f.content ++ items,by simpa using fits⟩)
    else (.offered false,f)
  | .take count, f =>
    if 1 ≤ count ∧ count ≤ f.content.length then
      (.taken (some (f.content.take count)),
        ⟨f.content.drop count,by rw [List.length_drop]; exact Nat.le_trans (Nat.sub_le _ _) f.bounded⟩)
    else (.taken none,f)

/-- An offer that was taken, or elements that were there. -/
def Answer.Accepted : Answer α → Prop
  | .offered accepted => accepted = true
  | .taken items => items.isSome

/-- A refusal changes nothing. -/
theorem step_refused (r : Request α) (f : Fifo α capacity) (refused : ¬ (step r f).1.Accepted) :
    (step r f).2 = f := by
  cases r with
  | offer items =>
    simp only [step] at refused ⊢
    by_cases fits : f.content.length + items.length ≤ capacity
    · rw [dif_pos fits] at refused
      exact absurd rfl refused
    · rw [dif_neg fits]
  | take count =>
    simp only [step] at refused ⊢
    by_cases there : 1 ≤ count ∧ count ≤ f.content.length
    · rw [if_pos there] at refused
      exact absurd rfl refused
    · rw [if_neg there]

end Fifo

end DriversAdapter.Semantics
