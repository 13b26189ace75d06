import Mathlib.Data.List.Infix
import Mathlib.Logic.Function.Basic

/-! Keys that are owned: the first one to take a free key owns it until that owner releases it.
Later takers and the releases of others change nothing. -/
namespace DriversAdapter.Semantics.Ownership

inductive Claim (κ ω : Type)
  | take (key : κ) (owner : ω)
  | release (key : κ) (owner : ω)
  deriving DecidableEq

variable {κ ω : Type} [DecidableEq κ] [DecidableEq ω]

def step (s : κ → Option ω) (c : Claim κ ω) : κ → Option ω :=
  match c with
  | .take key owner => if s key = none then Function.update s key (some owner) else s
  | .release key owner => if s key = some owner then Function.update s key none else s

def owners (claims : List (Claim κ ω)) : κ → Option ω := claims.foldl step fun _ => none

theorem owners_concat (claims : List (Claim κ ω)) (c : Claim κ ω) :
    owners (claims ++ [c]) = step (owners claims) c := by
  simp [owners]

theorem step_take_iff (s : κ → Option ω) (key other : κ) (owner mine : ω) :
    step s (.take other mine) key = some owner ↔
      s key = some owner ∨ (s key = none ∧ other = key ∧ mine = owner) := by
  unfold step
  dsimp only
  split_ifs with free
  · by_cases here : key = other
    · subst other
      simp [free]
    · simp [here,Ne.symm here]
  · constructor
    · exact .inl
    · rintro (held | ⟨nobody,rfl,_⟩)
      · exact held
      · exact absurd nobody free

theorem step_release_iff (s : κ → Option ω) (key other : κ) (owner mine : ω) :
    step s (.release other mine) key = some owner ↔
      s key = some owner ∧ ¬ (other = key ∧ mine = owner) := by
  unfold step
  dsimp only
  split_ifs with held
  · by_cases here : key = other
    · subst other
      simp [held]
    · simp [here,Ne.symm here]
  · constructor
    · intro mineNow
      refine ⟨mineNow,?_⟩
      rintro ⟨rfl,rfl⟩
      exact held mineNow
    · exact And.left

theorem concat_eq_split {α : Type} (l before after : List α) (c x : α) :
    l ++ [c] = before ++ x :: after ↔
      (l = before ∧ c = x ∧ after = []) ∨
        ∃ earlier, after = earlier ++ [c] ∧ l = before ++ x :: earlier := by
  constructor
  · intro same
    rcases List.eq_nil_or_concat after with rfl | ⟨earlier,last,rfl⟩
    · obtain ⟨rfl,tail⟩ := List.append_inj' same rfl
      exact .inl ⟨rfl,by simpa using tail,rfl⟩
    · rw [List.concat_eq_append] at same ⊢
      rw [← List.cons_append,← List.append_assoc] at same
      obtain ⟨rfl,tail⟩ := List.append_inj' same rfl
      obtain rfl : c = last := by simpa using tail
      exact .inr ⟨earlier,rfl,rfl⟩
  · rintro (⟨rfl,rfl,rfl⟩ | ⟨earlier,rfl,rfl⟩)
    · rfl
    · simp

/-- The owner of a key is the one who took it when it was free and has not released it since. -/
theorem owners_eq_some_iff (claims : List (Claim κ ω)) (key : κ) (owner : ω) :
    owners claims key = some owner ↔ ∃ before after,
      claims = before ++ .take key owner :: after ∧ owners before key = none ∧
        .release key owner ∉ after := by
  induction claims using List.reverseRecOn with
  | nil =>
    constructor
    · intro held
      cases held
    · rintro ⟨before,after,empty,_⟩
      simp at empty
  | append_singleton claims c ih =>
    simp only [owners_concat,concat_eq_split]
    cases c with
    | take other mine =>
      rw [step_take_iff,ih]
      constructor
      · rintro (⟨before,earlier,rfl,free,kept⟩ | ⟨free,rfl,rfl⟩)
        · exact ⟨before,_,.inr ⟨earlier,rfl,rfl⟩,free,by simpa using kept⟩
        · exact ⟨claims,[],.inl ⟨rfl,rfl,rfl⟩,free,by simp⟩
      · rintro ⟨before,after,⟨rfl,same,rfl⟩ | ⟨earlier,rfl,rfl⟩,free,kept⟩
        · cases same
          exact .inr ⟨free,rfl,rfl⟩
        · exact .inl ⟨before,earlier,rfl,free,by simpa using kept⟩
    | release other mine =>
      rw [step_release_iff,ih]
      constructor
      · rintro ⟨⟨before,earlier,rfl,free,kept⟩,others⟩
        refine ⟨before,_,.inr ⟨earlier,rfl,rfl⟩,free,?_⟩
        rw [List.mem_append,List.mem_singleton,Claim.release.injEq]
        rintro (again | ⟨rfl,rfl⟩)
        · exact kept again
        · exact others ⟨rfl,rfl⟩
      · rintro ⟨before,after,⟨_,same,_⟩ | ⟨earlier,rfl,rfl⟩,free,kept⟩
        · cases same
        · rw [List.mem_append,List.mem_singleton,Claim.release.injEq,not_or] at kept
          exact ⟨⟨before,earlier,rfl,free,kept.1⟩,fun same => kept.2 ⟨same.1.symm,same.2.symm⟩⟩

section Calls
variable {C : Type} (claim : C → Option (Claim κ ω))

/-- A call that makes no claim changes nothing. -/
def callStep (s : κ → Option ω) (c : C) : κ → Option ω := (claim c).elim s (step s)

theorem owners_calls_concat (calls : List C) (c : C) :
    owners ((calls ++ [c]).filterMap claim) = callStep claim (owners (calls.filterMap claim)) c := by
  rw [List.filterMap_append]
  unfold callStep
  cases made : claim c with
  | none => simp [made]
  | some d =>
    rw [List.filterMap_cons_some made]
    exact owners_concat _ d

/-- A rule agrees with ownership after every call of a list exactly when none of its steps from
an agreeing state departs from it. -/
theorem agrees_iff (rule : (κ → Option ω) → C → κ → Option ω) (calls : List C) :
    (∀ before, before <+: calls →
        before.foldl rule (fun _ => none) = owners (before.filterMap claim)) ↔
      ∀ before c, before ++ [c] <+: calls → rule (before.foldl rule fun _ => none) c =
        callStep claim (before.foldl rule fun _ => none) c := by
  constructor
  · intro agree before c early
    have now := agree before ((List.prefix_append before [c]).trans early)
    have next := agree _ early
    rw [List.foldl_append,List.foldl_cons,List.foldl_nil,owners_calls_concat,← now] at next
    exact next
  · intro steps before
    induction before using List.reverseRecOn with
    | nil => exact fun _ => rfl
    | append_singleton before c ih =>
      intro early
      have now := ih ((List.prefix_append before [c]).trans early)
      rw [List.foldl_append,List.foldl_cons,List.foldl_nil,steps before c early,
        owners_calls_concat,now]

end Calls

end DriversAdapter.Semantics.Ownership
