import Mathlib.Logic.Basic

/-! Sequential code that may wait for ever: it returns a value, or stays where nothing answers it.
What holds at its end and what holds where it stays are told apart, and carried over sequences. -/
namespace DriversAdapter.Semantics

/-- Without a value the code waits in the state it has come to. -/
def Waiting (σ α : Type) := σ → Option α × σ

namespace Waiting
variable {σ τ α β : Type}

def bind (m : Waiting σ α) (f : α → Waiting σ β) : Waiting σ β := fun s =>
  match m s with
  | (none,t) => (none,t)
  | (some a,t) => f a t

instance : Monad (Waiting σ) where
  pure a s := (some a,s)
  bind := bind

def update (f : σ → σ) : Waiting σ Unit := fun s => (some (),f s)

def look (f : σ → α) : Waiting σ α := fun s => (some (f s),s)

/-- Goes on if there is an answer. -/
def await (answered : σ → Bool) : Waiting σ Unit := fun s =>
  if answered s then (some (),s) else (none,s)

/-- Code that works on a part of the state. -/
def within (part : σ → τ) (put : τ → σ → σ) (m : Waiting τ α) : Waiting σ α := fun s =>
  ((m (part s)).1,put (m (part s)).2 s)

def Meets (m : Waiting σ α) (s : σ) (returned : α → σ → Prop) (stays : σ → Prop) : Prop :=
  match m s with
  | (some a,t) => returned a t
  | (none,t) => stays t

section Rules
variable {s : σ} {returned : β → σ → Prop} {stays : σ → Prop}

theorem meets_pure {b : β} (holds : returned b s) :
    Meets (pure b : Waiting σ β) s returned stays := holds

theorem meets_bind {m : Waiting σ α} {f : α → Waiting σ β}
    (first : m.Meets s (fun a t => (f a).Meets t returned stays) stays) :
    (m >>= f).Meets s returned stays := by
  change Meets (bind m f) s returned stays
  unfold Meets bind
  unfold Meets at first
  cases ended : m s with
  | mk value t =>
    rw [ended] at first
    cases value with
    | none => exact first
    | some a => exact first

theorem meets_update {f : σ → σ} {returned : Unit → σ → Prop} (holds : returned () (f s)) :
    (update f).Meets s returned stays := holds

theorem meets_look {f : σ → β} (holds : returned (f s) s) : (look f).Meets s returned stays := holds

theorem meets_await {answered : σ → Bool} {returned : Unit → σ → Prop}
    (goes_on : returned () s) (unanswered : answered s = false → stays s) :
    (await answered).Meets s returned stays := by
  unfold Meets await
  cases answer : answered s with
  | false => exact unanswered answer
  | true => exact goes_on

theorem meets_within {part : σ → τ} {put : τ → σ → σ} {m : Waiting τ β}
    (inside : m.Meets (part s) (fun b t => returned b (put t s)) fun t => stays (put t s)) :
    (within part put m).Meets s returned stays := by
  unfold Meets within
  unfold Meets at inside
  cases ended : m (part s) with
  | mk value t =>
    rw [ended] at inside
    cases value with
    | none => exact inside
    | some b => exact inside

theorem meets_mono {m : Waiting σ β} {returned' : β → σ → Prop} {stays' : σ → Prop}
    (met : m.Meets s returned stays) (returns : ∀ b t, returned b t → returned' b t)
    (remains : ∀ t, stays t → stays' t) : m.Meets s returned' stays' := by
  unfold Meets at met ⊢
  cases ended : m s with
  | mk value t =>
    rw [ended] at met
    cases value with
    | none => exact remains t met
    | some b => exact returns b t met

end Rules
end Waiting
end DriversAdapter.Semantics
