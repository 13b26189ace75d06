import Mathlib.Logic.Function.Basic

/-! A cache of loaded values under a key of the request. Where requests of one key load
the same, a hit is as good as a load. -/
namespace DriversAdapter.Semantics.Cache

variable {D K V : Type}

/-- Every entry has been loaded for a request that was made, under the request's key. -/
def Backed (key : D → Option K) (loads : D → V → Prop) (used : D → Prop) (entry : K → Option V) :
    Prop :=
  ∀ k v, entry k = some v → ∃ d, used d ∧ key d = some k ∧ loads d v

variable {key : D → Option K} {loads : D → V → Prop} {used : D → Prop} {entry : K → Option V}

theorem backed_empty : Backed key loads used (fun _ => none) := by
  intro k v found
  contradiction

theorem backed_update [DecidableEq K] (backed : Backed key loads used entry) (d : D) (k : K) (v : V)
    (made : used d) (keyed : key d = some k) (loaded : loads d v) :
    Backed key loads used (Function.update entry k (some v)) := by
  intro other w found
  by_cases same : other = k
  · subst other
    rw [Function.update_self,Option.some.injEq] at found
    subst w
    exact ⟨d,made,keyed,loaded⟩
  · rw [Function.update_of_ne same] at found
    exact backed other w found

/-- A hit is what the request itself would have loaded. -/
theorem backed_hit (backed : Backed key loads used entry) (d : D) (k : K) (v : V)
    (agree : ∀ e, used e → key e = some k → ∀ w, loads e w → loads d w)
    (found : entry k = some v) : loads d v := by
  obtain ⟨e,made,keyed,loaded⟩ := backed k v found
  exact agree e made keyed v loaded

end DriversAdapter.Semantics.Cache
