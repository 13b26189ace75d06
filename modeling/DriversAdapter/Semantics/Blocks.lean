import Mathlib.Logic.Basic

/-! Blocks that an allocator gives out in order, and how often each of them has been freed. -/
namespace DriversAdapter.Semantics

structure Blocks where
  count : Nat
  freed : Nat → Nat
  ahead : ∀ n, count ≤ n → freed n = 0

namespace Blocks
variable {b : Blocks} {n m : Nat} {holds other : Nat → Prop}

def empty : Blocks := ⟨0,fun _ => 0,fun _ _ => rfl⟩

/-- The new block is known by the number of those before it. -/
def alloc (b : Blocks) : Blocks where
  count := b.count + 1
  freed := b.freed
  ahead m past := b.ahead m (Nat.le_of_succ_le past)

def free (n : Nat) (b : Blocks) : Blocks where
  count := b.count
  freed m := if m = n ∧ n < b.count then b.freed m + 1 else b.freed m
  ahead m past := by
    have outside : ¬ (m = n ∧ n < b.count) := by omega
    simp [outside,b.ahead m past]

def Live (b : Blocks) (n : Nat) : Prop := n < b.count ∧ b.freed n = 0

@[simp] theorem count_alloc : b.alloc.count = b.count + 1 := rfl

@[simp] theorem freed_alloc : b.alloc.freed = b.freed := rfl

@[simp] theorem count_free : (b.free n).count = b.count := rfl

theorem freed_free (given : n < b.count) :
    (b.free n).freed m = if m = n then b.freed m + 1 else b.freed m := by
  simp [free,given]

theorem live_alloc : b.alloc.Live m ↔ b.Live m ∨ m = b.count := by
  have fresh : m = b.count → b.freed m = 0 := fun new => b.ahead m (Nat.le_of_eq new.symm)
  simp only [Live,count_alloc,freed_alloc]
  omega

theorem live_free : (b.free n).Live m ↔ b.Live m ∧ m ≠ n := by
  simp only [Live,free]
  split <;> omega

/-- What is held is live, and every other block has been freed exactly once. -/
structure Settled (holds : Nat → Prop) (b : Blocks) : Prop where
  live : ∀ n, holds n → b.Live n
  freed : ∀ n < b.count, ¬ holds n → b.freed n = 1

theorem settled_empty : empty.Settled fun _ => False :=
  ⟨fun _ held => held.elim,fun n below => absurd below (Nat.not_lt_zero n)⟩

theorem settled_congr (same : ∀ n, holds n ↔ other n) : b.Settled holds ↔ b.Settled other := by
  have equal : holds = other := funext fun n => propext (same n)
  rw [equal]

theorem Settled.alloc (settled : b.Settled holds) :
    b.alloc.Settled fun m => holds m ∨ m = b.count := by
  refine ⟨fun m held => live_alloc.mpr (held.imp_left (settled.live m)),fun m below others => ?_⟩
  obtain ⟨unheld,old⟩ := not_or.mp others
  have before : m < b.count + 1 := below
  exact settled.freed m (by omega) unheld

theorem Settled.free (settled : b.Settled holds) (held : holds n) :
    (b.free n).Settled fun m => holds m ∧ m ≠ n := by
  obtain ⟨given,unfreed⟩ := settled.live n held
  refine ⟨fun m kept => live_free.mpr ⟨settled.live m kept.1,kept.2⟩,fun m below others => ?_⟩
  rw [freed_free given]
  by_cases same : m = n
  · simp [same,unfreed]
  · rw [if_neg same]
    exact settled.freed m below fun holding => others ⟨holding,same⟩

/-- A block that is given back at once. -/
theorem Settled.alloc_free (settled : b.Settled holds) :
    (b.alloc.free b.count).Settled holds := by
  have held : ∀ m, (holds m ∨ m = b.count) ∧ m ≠ b.count ↔ holds m := by
    intro m
    constructor
    · rintro ⟨old | new,other⟩
      · exact old
      · exact absurd new other
    · intro holding
      exact ⟨.inl holding,Nat.ne_of_lt (settled.live m holding).1⟩
  exact (settled_congr held).mp (settled.alloc.free (.inr rfl))

/-- A block that is neither held nor freed is lost. -/
theorem not_settled (live : b.Live n) (unheld : ¬ holds n) : ¬ b.Settled holds := by
  intro settled
  have once := settled.freed n live.1 unheld
  rw [live.2] at once
  contradiction

end Blocks

end DriversAdapter.Semantics
