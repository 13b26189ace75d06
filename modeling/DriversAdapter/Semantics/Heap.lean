import Mathlib.Data.List.Basic

/-! Runs of allocations and frees, and which of them free every block that they allocate
exactly once. -/
namespace DriversAdapter.Semantics.Heap

inductive Event (P : Type)
  | alloc (p : P)
  | free (p : P)
  deriving DecidableEq

variable {P : Type} [DecidableEq P]

/-- What is held after a run that frees nothing but what it holds. -/
def held : List (Event P) → List P → Option (List P)
  | [], holding => some holding
  | .alloc p::rest, holding => held rest (p::holding)
  | .free p::rest, holding => if p ∈ holding then held rest (holding.erase p) else none

/-- Every allocation is freed exactly once, after it was made, and nothing else is freed. -/
def Balanced (events : List (Event P)) : Prop := held events [] = some []

instance (events : List (Event P)) : Decidable (Balanced events) :=
  inferInstanceAs (Decidable (_ = _))

theorem held_append (first later : List (Event P)) (holding : List P) :
    held (first ++ later) holding = (held first holding).bind (held later) := by
  induction first generalizing holding with
  | nil => rfl
  | cons event rest ih =>
    cases event with
    | alloc p => exact ih _
    | free p =>
      simp only [List.cons_append,held]
      split
      next => exact ih _
      next => rfl

/-- What was held before stays held beside what a run deals with. -/
theorem held_frame (events : List (Event P)) (holding final base : List P)
    (kept : held events holding = some final) :
    held events (holding ++ base) = some (final ++ base) := by
  induction events generalizing holding with
  | nil => exact congrArg (Option.map (· ++ base)) kept
  | cons event rest ih =>
    cases event with
    | alloc p => exact ih (p::holding) kept
    | free p =>
      simp only [held] at kept ⊢
      split at kept
      next member =>
        rw [if_pos (List.mem_append_left base member),List.erase_append_left base member]
        exact ih _ kept
      next => contradiction

theorem Balanced.between {events : List (Event P)} (balanced : Balanced events)
    (before after : List (Event P)) (holding : List P) (first : held before [] = some holding)
    (last : held after holding = some []) : Balanced (before ++ events ++ after) := by
  have middle := held_frame events [] [] holding balanced
  unfold Balanced
  rw [held_append,held_append,first,Option.bind_some]
  simp only [List.nil_append] at middle
  rw [middle,Option.bind_some,last]

end DriversAdapter.Semantics.Heap
