import Mathlib.Algebra.BigOperators.Group.Finset.Basic
import Mathlib.Algebra.Order.Monoid.Defs
import Mathlib.Data.Nat.Find

/-! Waiting for a deadline in turns, when each turn takes all the time since the start off what
is left: the turns are charged for more than has passed. -/
namespace DriversAdapter.Semantics.Deadline

variable {T : Type} [AddCommMonoid T]

/-- What the first `k` turns take off. Turn `j` finds that `spent j` has passed since the start. -/
def charged (spent : Nat → T) (k : Nat) : T := ∑ j ∈ Finset.range k, spent j

theorem charged_zero (spent : Nat → T) : charged spent 0 = 0 := Finset.sum_range_zero spent

theorem charged_succ (spent : Nat → T) (k : Nat) :
    charged spent (k + 1) = charged spent k + spent k := Finset.sum_range_succ spent k

variable [LinearOrder T]

/-- At turn `k` nothing is left of the budget. -/
def Due (budget : T) (spent passed : Nat → T) (k : Nat) : Prop :=
  budget ≤ charged spent k + passed k

def Stops (budget : T) (spent passed : Nat → T) (k : Nat) : Prop :=
  Due budget spent passed k ∧ ∀ j, j < k → ¬ Due budget spent passed j

variable (budget : T) (spent passed : Nat → T)

theorem exists_stops (k : Nat) (due : Due budget spent passed k) :
    ∃ j, j ≤ k ∧ Stops budget spent passed j := by
  classical
  have some_turn : ∃ j, Due budget spent passed j := ⟨k,due⟩
  exact ⟨Nat.find some_turn,Nat.find_min' some_turn due,Nat.find_spec some_turn,
    fun j before => Nat.find_min some_turn before⟩

/-- The wait never ends before the budget has passed just when no turn inside the budget is
charged with all of it. -/
theorem stops_late_iff (mono : Monotone passed) (reached : Nat → Prop)
    (closed : ∀ j k, j ≤ k → reached k → reached j) :
    (∀ k, reached k → Stops budget spent passed k → budget ≤ passed k) ↔
      ∀ k, reached k → passed k < budget → charged spent k + passed k < budget := by
  constructor
  · intro late k here inside
    by_contra due
    obtain ⟨j,before,stops⟩ := exists_stops budget spent passed k (not_lt.1 due)
    have passed_all : budget ≤ passed j := late j (closed j k before here) stops
    exact absurd (passed_all.trans (mono before)) (not_le.2 inside)
  · intro sound k here stops
    by_contra early
    exact absurd stops.1 (not_le.2 (sound k here (not_le.1 early)))

end DriversAdapter.Semantics.Deadline
