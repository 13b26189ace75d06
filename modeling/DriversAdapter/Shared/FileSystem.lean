import DriversAdapter.Semantics.Paths

/-! Canonical paths as `realpath` returns them, and the check that compares the text of one
with the text of a directory. -/
namespace DriversAdapter.Shared
open DriversAdapter.Semantics

structure CanonicalPath extends Paths.AbsolutePath '/' where
  resolved : ∀ c ∈ components, c ≠ ['.'] ∧ c ≠ ['.','.']

/-- `strncmp` gives zero; neither string holds a terminator. -/
def strncmpZero (s t : List Char) (n : Nat) : Bool := decide (s.take n = t.take n)

def resolvedUnder (dir : List Char) : Option CanonicalPath → Bool
  | none => false
  | some path => strncmpZero path.text dir dir.length

variable (dir : Paths.AbsolutePath '/') (path : CanonicalPath)

theorem resolvedUnder_iff :
    resolvedUnder dir.text (some path) = true ↔ dir.text <+: path.text := by
  rw [List.prefix_iff_eq_take]
  simp [resolvedUnder,strncmpZero,eq_comm]

/-- What passes the check lies beneath the directory, unless it shadows it. -/
theorem resolvedUnder_confines_iff (named : dir.components ≠ []) :
    (resolvedUnder dir.text (some path) = true → Paths.Beneath dir path.toAbsolutePath) ↔
      ¬ Paths.Shadows dir path.toAbsolutePath := by
  rw [resolvedUnder_iff,Paths.prefix_iff dir path.toAbsolutePath named]
  constructor
  · intro confined shadows
    exact Paths.not_beneath_of_shadows dir _ shadows (confined (.inr shadows))
  · intro apart either
    exact either.resolve_right apart

end DriversAdapter.Shared
