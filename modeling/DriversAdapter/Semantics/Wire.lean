import Mathlib.Data.List.Infix

/-! Wire formats: how values are written to a list of words and read back from its front,
the sequence of two formats, and what is left of a list of values when it is cut short. -/
namespace DriversAdapter.Semantics

/-- A writer and a reader that undoes it, whatever follows. -/
structure Format (W α : Type) where
  put : α → List W
  get : List W → Option (α × List W)
  get_put : ∀ v rest, get (put v ++ rest) = some (v,rest)

namespace Format

variable {W α β : Type}

/-- What is read from these words is what the writer writes for it. -/
def Canonical (f : Format W α) (words : List W) : Prop :=
  ∀ v rest, f.get words = some (v,rest) → words = f.put v ++ rest

/-- Words that read as a value are its encoding exactly when they are canonical. -/
theorem eq_put_append_iff (f : Format W α) (words rest later : List W) (v u : α)
    (got : f.get words = some (v,rest)) :
    words = f.put u ++ later ↔ v = u ∧ rest = later ∧ f.Canonical words := by
  constructor
  · intro written
    have again := f.get_put u later
    rw [← written,got,Option.some.injEq,Prod.mk.injEq] at again
    obtain ⟨rfl,rfl⟩ := again
    refine ⟨rfl,rfl,fun w left reads => ?_⟩
    rw [got,Option.some.injEq,Prod.mk.injEq] at reads
    obtain ⟨rfl,rfl⟩ := reads
    exact written
  · rintro ⟨rfl,rfl,canonical⟩
    exact canonical v rest got

def seq (f : Format W α) (g : Format W β) : Format W (α × β) where
  put v := f.put v.1 ++ g.put v.2
  get words := (f.get words).bind fun first =>
    (g.get first.2).map fun second => ((first.1,second.1),second.2)
  get_put v rest := by
    rw [List.append_assoc,f.get_put,Option.bind_some,g.get_put]
    rfl

theorem seq_get_iff (f : Format W α) (g : Format W β) (words rest : List W) (v : α) (w : β) :
    (f.seq g).get words = some ((v,w),rest) ↔
      ∃ middle, f.get words = some (v,middle) ∧ g.get middle = some (w,rest) := by
  change ((f.get words).bind fun first => (g.get first.2).map fun second =>
    ((first.1,second.1),second.2)) = _ ↔ _
  constructor
  · intro got
    obtain ⟨⟨_,middle⟩,first,got⟩ := Option.bind_eq_some_iff.mp got
    obtain ⟨⟨_,_⟩,second,same⟩ := Option.map_eq_some_iff.mp got
    obtain ⟨⟨rfl,rfl⟩,rfl⟩ := Prod.mk.inj same |>.imp_left Prod.mk.inj
    exact ⟨middle,first,second⟩
  · rintro ⟨middle,first,second⟩
    rw [first,Option.bind_some,second]
    rfl

/-- The values of another type that the format has an encoding for. -/
def via (f : Format W α) (encode : β → α) (decode : α → Option β)
    (back : ∀ v, decode (encode v) = some v) : Format W β where
  put v := f.put (encode v)
  get words := (f.get words).bind fun got => (decode got.1).map fun v => (v,got.2)
  get_put v rest := by
    rw [f.get_put,Option.bind_some,back]
    rfl

def puts (f : Format W α) (values : List α) : List W := values.flatMap f.put

@[simp] theorem puts_nil (f : Format W α) : f.puts [] = [] := rfl

@[simp] theorem puts_cons (f : Format W α) (v : α) (values : List α) :
    f.puts (v :: values) = f.put v ++ f.puts values := rfl

theorem puts_append (f : Format W α) (first later : List α) :
    f.puts (first ++ later) = f.puts first ++ f.puts later := List.flatMap_append

theorem puts_length (f : Format W α) (some_word : ∀ v, f.put v ≠ []) (values : List α) :
    values.length ≤ (f.puts values).length := by
  induction values with
  | nil => exact Nat.le_refl _
  | cons v values ih =>
    have pos := List.length_pos_of_ne_nil (some_word v)
    rw [puts_cons,List.length_append,List.length_cons]
    omega

/-- A proper prefix of two parts ends in the first or in the second. -/
theorem cut_append (first second cut : List W) (prefixed : cut <+: first ++ second)
    (short : cut ≠ first ++ second) :
    (cut <+: first ∧ cut ≠ first) ∨
      ∃ left, cut = first ++ left ∧ left <+: second ∧ left ≠ second := by
  obtain ⟨missing,joined⟩ := prefixed
  rcases List.append_eq_append_iff.mp joined with ⟨more,rfl,_⟩ | ⟨left,rfl,behind⟩
  · by_cases whole : more = []
    · subst more
      refine .inr ⟨[],by simp,List.nil_prefix,fun none_left => short ?_⟩
      rw [← none_left]
      simp
    · exact .inl ⟨List.prefix_append _ _,fun same => whole (List.self_eq_append_right.mp same)⟩
  · refine .inr ⟨left,rfl,⟨missing,behind.symm⟩,fun whole => short ?_⟩
    rw [whole]

/-- A list cut short is some values and a proper part of the next. -/
theorem puts_cut (f : Format W α) (values : List α) (cut : List W)
    (prefixed : cut <+: f.puts values) :
    cut = f.puts values ∨ ∃ first v later part, values = first ++ v :: later ∧
      cut = f.puts first ++ part ∧ part <+: f.put v ∧ part ≠ f.put v := by
  induction values generalizing cut with
  | nil => exact .inl (List.prefix_nil.mp prefixed)
  | cons v values ih =>
    rw [puts_cons] at prefixed ⊢
    by_cases whole : cut = f.put v ++ f.puts values
    · exact .inl whole
    rcases cut_append _ _ cut prefixed whole with ⟨inside,short⟩ | ⟨left,rfl,behind,short⟩
    · exact .inr ⟨[],v,values,cut,rfl,rfl,inside,short⟩
    · rcases ih left behind with same | ⟨first,w,later,part,rfl,rfl,within,proper⟩
      · exact absurd same short
      · refine .inr ⟨v :: first,w,later,part,rfl,?_,within,proper⟩
        rw [puts_cons,List.append_assoc]

end Format

end DriversAdapter.Semantics
