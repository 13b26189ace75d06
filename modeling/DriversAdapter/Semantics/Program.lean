import Mathlib.Logic.Basic

/-! Programs over a signature of atomic operations, and what one thread does with
them: a run against a deterministic handler, the operations that run performs, and
the rely-guarantee triple that bounds it under interference by other threads. -/
namespace DriversAdapter.Semantics

/-- A sequence of atomic operations, each chosen from the results of those before. -/
inductive Program (Op : Type) (Res : Op → Type) (α : Type) : Type
  | done (value : α)
  | perform (op : Op) (next : Res op → Program Op Res α)

namespace Program

variable {Op : Type} {Res : Op → Type} {α β σ τ : Type}

def bind : Program Op Res α → (α → Program Op Res β) → Program Op Res β
  | .done value, f => f value
  | .perform op next, f => .perform op (fun r => (next r).bind f)

instance : Monad (Program Op Res) where
  pure := .done
  bind := bind

def call (op : Op) : Program Op Res (Res op) := .perform op .done

@[simp] theorem pure_eq (value : α) : (pure value : Program Op Res α) = .done value := rfl

@[simp] theorem done_bind (value : α) (f : α → Program Op Res β) :
    (Program.done value : Program Op Res α) >>= f = f value := rfl

@[simp] theorem perform_bind (op : Op) (next : Res op → Program Op Res α)
    (f : α → Program Op Res β) :
    (Program.perform op next) >>= f = .perform op (fun r => next r >>= f) := rfl

@[simp] theorem call_bind (op : Op) (f : Res op → Program Op Res β) :
    (call op : Program Op Res (Res op)) >>= f = .perform op f := rfl

/-- The result and the final state when a handler serves every operation. -/
def run (serve : (op : Op) → σ → Res op × σ) : Program Op Res α → σ → α × σ
  | .done value, s => (value,s)
  | .perform op next, s => run serve (next (serve op s).1) (serve op s).2

/-- A program over a part of a larger signature. -/
def embed {Op' : Type} {Res' : Op' → Type} (inj : Op → Op') (back : ∀ op, Res' (inj op) → Res op) :
    Program Op Res α → Program Op' Res' α
  | .done value => .done value
  | .perform op next => .perform (inj op) (fun r => embed inj back (next (back op r)))

def trace (serve : (op : Op) → σ → Res op × σ) : Program Op Res α → σ → List Op
  | .done _, _ => []
  | .perform op next, s => op :: trace serve (next (serve op s).1) (serve op s).2

/-- These operations with the results they had. -/
def exchanges (serve : (op : Op) → σ → Res op × σ) : Program Op Res α → σ → List ((op : Op) × Res op)
  | .done _, _ => []
  | .perform op next, s =>
    ⟨op,(serve op s).1⟩ :: exchanges serve (next (serve op s).1) (serve op s).2

section Run
variable (serve : (op : Op) → σ → Res op × σ)

@[simp] theorem run_done (value : α) (s : σ) :
    run serve (.done value : Program Op Res α) s = (value,s) := rfl

@[simp] theorem run_perform (op : Op) (next : Res op → Program Op Res α) (s : σ) :
    run serve (.perform op next) s = run serve (next (serve op s).1) (serve op s).2 := rfl

theorem run_bind (p : Program Op Res α) (f : α → Program Op Res β) (s : σ) :
    run serve (p >>= f) s = run serve (f (run serve p s).1) (run serve p s).2 := by
  induction p generalizing s with
  | done value => rfl
  | perform op next ih =>
    rw [perform_bind,run_perform,run_perform]
    exact ih (serve op s).1 (serve op s).2

theorem exchanges_bind (p : Program Op Res α) (f : α → Program Op Res β) (s : σ) :
    exchanges serve (p >>= f) s =
      exchanges serve p s ++ exchanges serve (f (run serve p s).1) (run serve p s).2 := by
  induction p generalizing s with
  | done value => rfl
  | perform op next ih =>
    rw [perform_bind,exchanges,exchanges,List.cons_append]
    exact congrArg (List.cons _) (ih _ _)

theorem run_ite (c : Prop) [Decidable c] (p q : Program Op Res α) (s : σ) :
    run serve (if c then p else q) s = if c then run serve p s else run serve q s := by
  split <;> rfl

end Run

/-- The rely-guarantee triple. Other threads may move the state along `rely` before
every operation and before the end; each operation must meet `guar`, and the value
returned must meet `post`. -/
def Safe (rely : σ → σ → Prop) (step : (op : Op) → σ → Res op → σ → Prop)
    (guar : Op → σ → σ → Prop) (post : α → σ → Prop) : Program Op Res α → σ → Prop
  | .done value, s => ∀ t, rely s t → post value t
  | .perform op next, s => ∀ t, rely s t → ∀ r u, step op t r u →
      guar op t u ∧ Safe rely step guar post (next r) u

section Safe
variable {rely : σ → σ → Prop} {step : (op : Op) → σ → Res op → σ → Prop}
variable {guar : Op → σ → σ → Prop}

theorem safe_stable (trans : ∀ s t u, rely s t → rely t u → rely s u)
    {post : α → σ → Prop} (p : Program Op Res α) (s t : σ) (moved : rely s t)
    (safe : Safe rely step guar post p s) : Safe rely step guar post p t := by
  cases p with
  | done value => exact fun u later => safe u (trans s t u moved later)
  | perform op next => exact fun u later => safe u (trans s t u moved later)

theorem safe_mono {guar' : Op → σ → σ → Prop} {post weaker : α → σ → Prop}
    (p : Program Op Res α) (s : σ) (kept : ∀ op s t, guar op s t → guar' op s t)
    (implied : ∀ value t, post value t → weaker value t)
    (safe : Safe rely step guar post p s) : Safe rely step guar' weaker p s := by
  induction p generalizing s with
  | done value => exact fun t moved => implied value t (safe t moved)
  | perform op next ih =>
    intro t moved r u stepped
    obtain ⟨guaranteed,rest⟩ := safe t moved r u stepped
    exact ⟨kept op t u guaranteed,ih r u rest⟩

/-- The postcondition of the first part is the precondition of the second. -/
theorem safe_bind {mid : α → σ → Prop} {post : β → σ → Prop} (refl : ∀ s, rely s s)
    (p : Program Op Res α) (f : α → Program Op Res β) (s : σ)
    (first : Safe rely step guar mid p s)
    (rest : ∀ value t, mid value t → Safe rely step guar post (f value) t) :
    Safe rely step guar post (p >>= f) s := by
  induction p generalizing s with
  | done value => exact rest value s (first s (refl s))
  | perform op next ih =>
    intro t moved r u stepped
    obtain ⟨kept,after⟩ := first t moved r u stepped
    exact ⟨kept,ih r u after⟩

/-- One operation, under an assertion that the other threads preserve. -/
theorem safe_call {post : α → σ → Prop} (holds : σ → Prop) (op : Op)
    (f : Res op → Program Op Res α) (s : σ) (stable : ∀ s t, rely s t → holds s → holds t)
    (now : holds s) (stepped : ∀ t, holds t → ∀ r u, step op t r u →
      guar op t u ∧ Safe rely step guar post (f r) u) :
    Safe rely step guar post (call op >>= f) s := by
  rw [call_bind]
  exact fun t moved r u performed => stepped t (stable s t moved now) r u performed

theorem safe_done {post : α → σ → Prop} (value : α) (s : σ)
    (stable : ∀ s t, rely s t → post value s → post value t) (now : post value s) :
    Safe rely step guar post (.done value : Program Op Res α) s :=
  fun t moved => stable s t moved now

theorem safe_embed {Op' : Type} {Res' : Op' → Type} (inj : Op → Op')
    (back : ∀ op, Res' (inj op) → Res op) {step' : (op : Op') → σ → Res' op → σ → Prop}
    {guar' : Op' → σ → σ → Prop} {post : α → σ → Prop} (p : Program Op Res α) (s : σ)
    (same : ∀ op s r t, step' (inj op) s r t → step op s (back op r) t)
    (kept : ∀ op s t, guar op s t → guar' (inj op) s t)
    (safe : Safe rely step guar post p s) :
    Safe rely step' guar' post (p.embed inj back) s := by
  induction p generalizing s with
  | done value => exact safe
  | perform op next ih =>
    intro t moved r u stepped
    obtain ⟨guaranteed,rest⟩ := safe t moved (back op r) u (same op t r u stepped)
    exact ⟨kept op t u guaranteed,ih _ u rest⟩

end Safe

section Alone
variable {serve : (op : Op) → σ → Res op × σ} {guar : Op → σ → σ → Prop} {post : α → σ → Prop}

/-- Without interference an operation has one outcome. -/
theorem safe_serve (op : Op) (next : Res op → Program Op Res α) (s : σ)
    (kept : guar op s (serve op s).2)
    (rest : Safe (· = ·) (fun op s r t => serve op s = (r,t)) guar post (next (serve op s).1)
      (serve op s).2) :
    Safe (· = ·) (fun op s r t => serve op s = (r,t)) guar post (.perform op next) s := by
  intro t moved r u served
  subst moved
  rw [served] at kept rest
  exact ⟨kept,rest⟩

/-- What holds under interference holds without. -/
theorem safe_alone {rely : σ → σ → Prop} {step : (op : Op) → σ → Res op → σ → Prop}
    (refl : ∀ s, rely s s) (stepped : ∀ op s r t, serve op s = (r,t) → step op s r t)
    (p : Program Op Res α) (s : σ) (safe : Safe rely step guar post p s) :
    Safe (· = ·) (fun op s r t => serve op s = (r,t)) guar post p s := by
  induction p generalizing s with
  | done value =>
    rintro t ⟨⟩
    exact safe s (refl s)
  | perform op next ih =>
    rintro t ⟨⟩ r u served
    obtain ⟨kept,rest⟩ := safe s (refl s) r u (stepped op s r u served)
    exact ⟨kept,ih r u rest⟩

/-- A triple without interference speaks about the run of the program. -/
theorem run_of_safe (p : Program Op Res α) (s : σ)
    (safe : Safe (· = ·) (fun op s r t => serve op s = (r,t)) guar post p s) :
    post (run serve p s).1 (run serve p s).2 := by
  induction p generalizing s with
  | done value => exact safe s rfl
  | perform op next ih => exact ih _ _ (safe s rfl _ _ rfl).2

theorem trace_of_safe (allowed : Op → Prop) (implied : ∀ op s t, guar op s t → allowed op)
    (p : Program Op Res α) (s : σ)
    (safe : Safe (· = ·) (fun op s r t => serve op s = (r,t)) guar post p s) :
    ∀ op ∈ trace serve p s, allowed op := by
  induction p generalizing s with
  | done value => simp [trace]
  | perform op next ih =>
    obtain ⟨kept,rest⟩ := safe s rfl _ _ rfl
    intro other member
    rcases List.mem_cons.mp member with rfl | later
    · exact implied _ _ _ kept
    · exact ih _ _ rest other later

end Alone

end Program

end DriversAdapter.Semantics
