import Mathlib.Data.List.Infix

/-! Absolute paths as lists of components, their texts, and what it means for the texts that
one path lies beneath another. -/
namespace DriversAdapter.Semantics.Paths

variable {α : Type} {sep : α}

/-- The text that names these components one below the other. -/
def textOf (sep : α) : List (List α) → List α
  | [] => []
  | c::cs => sep::(c ++ textOf sep cs)

/-- A path without empty components; the empty one is the root. -/
structure AbsolutePath (sep : α) where
  components : List (List α)
  nonempty : ∀ c ∈ components, c ≠ []
  separate : ∀ c ∈ components, sep ∉ c

def AbsolutePath.text (p : AbsolutePath sep) : List α :=
  if p.components.isEmpty then [sep] else textOf sep p.components

/-- Strictly beneath: the leading components of `p` are those of `dir`. -/
def Beneath (dir p : AbsolutePath sep) : Prop :=
  ∃ rest, rest ≠ [] ∧ p.components = dir.components ++ rest

/-- `p` is `dir` itself, or it is, or lies beneath, a sibling of `dir` with a longer name that
starts with the name of `dir`. -/
def Shadows (dir p : AbsolutePath sep) : Prop :=
  p.components = dir.components ∨
    ∃ parent name extra rest, dir.components = parent ++ [name] ∧ extra ≠ [] ∧
      p.components = parent ++ (name ++ extra)::rest

theorem not_beneath_of_shadows (dir p : AbsolutePath sep) (shadows : Shadows dir p) :
    ¬ Beneath dir p := by
  intro ⟨below,some_below,within⟩
  rcases shadows with same | ⟨parent,name,extra,rest,named,longer,beside⟩
  · rw [same] at within
    exact some_below (List.self_eq_append_right.1 within)
  · rw [beside,named,List.append_assoc,List.singleton_append] at within
    have heads := (List.cons.inj (List.append_cancel_left within)).1
    exact longer (List.append_right_eq_self.1 heads)

theorem textOf_append (cs rest : List (List α)) :
    textOf sep (cs ++ rest) = textOf sep cs ++ textOf sep rest := by
  induction cs with
  | nil => rfl
  | cons c cs ih => simp [textOf,ih]

/-- Two names in front of the same text are the same name if nothing or a separator follows
each of them. -/
theorem name_unique (c d x y : List α) (c_plain : sep ∉ c) (d_plain : sep ∉ d)
    (same : c ++ sep::x = d ++ y) (ends : y = [] ∨ ∃ z, y = sep::z) :
    c = d ∧ sep::x = y := by
  rcases List.append_eq_append_iff.1 same with ⟨more,extended,left⟩ | ⟨more,extended,left⟩
  · cases more with
    | nil => exact ⟨by simpa using extended.symm,by simpa using left⟩
    | cons a more =>
      have head : sep = a := (List.cons.inj left).1
      rw [extended,← head] at d_plain
      exact absurd (by simp) d_plain
  · cases more with
    | nil => exact ⟨by simpa using extended,by simpa using left.symm⟩
    | cons a more =>
      rcases ends with nothing | ⟨z,begins⟩
      · rw [nothing] at left
        cases left
      · have head : sep = a := (List.cons.inj (begins.symm.trans left)).1
        rw [extended,← head] at c_plain
        exact absurd (by simp) c_plain

theorem textOf_ends (cs : List (List α)) : textOf sep cs = [] ∨ ∃ z, textOf sep cs = sep::z := by
  cases cs with
  | nil => exact .inl rfl
  | cons c cs => exact .inr ⟨_,rfl⟩

theorem components_of_prefix (cs ps : List (List α)) (x : List α) (cs_plain : ∀ c ∈ cs, sep ∉ c)
    (ps_plain : ∀ c ∈ ps, sep ∉ c) (same : textOf sep cs ++ sep::x = textOf sep ps) :
    ∃ q qs, ps = cs ++ q::qs ∧ x = q ++ textOf sep qs := by
  induction cs generalizing ps with
  | nil =>
    cases ps with
    | nil => cases same
    | cons q qs => exact ⟨q,qs,rfl,(List.cons.inj same).2⟩
  | cons c cs ih =>
    cases ps with
    | nil => cases same
    | cons p ps =>
      obtain ⟨z,begins⟩ : ∃ z, textOf sep cs ++ sep::x = sep::z := by
        cases cs with
        | nil => exact ⟨x,rfl⟩
        | cons d ds => exact ⟨_,rfl⟩
      have tails : c ++ sep::z = p ++ textOf sep ps := by
        rw [← begins,← List.append_assoc]
        exact (List.cons.inj same).2
      obtain ⟨names,rest⟩ := name_unique c p z (textOf sep ps) (cs_plain c (by simp))
        (ps_plain p (by simp)) tails (textOf_ends ps)
      obtain ⟨q,qs,split,here⟩ := ih ps (fun d low => cs_plain d (by simp [low]))
        (fun d low => ps_plain d (by simp [low])) (begins.trans rest)
      exact ⟨q,qs,by rw [names,split,List.cons_append],here⟩

theorem text_eq (p : AbsolutePath sep) (below : p.components ≠ []) :
    p.text = textOf sep p.components := by
  unfold AbsolutePath.text
  rw [if_neg (by simpa using below)]

theorem text_longer (p : AbsolutePath sep) (parent : List (List α)) (name tail : List α)
    (named : name ≠ []) (begins : textOf sep parent ++ sep::(name ++ tail) = p.text) :
    p.components ≠ [] := by
  intro root
  unfold AbsolutePath.text at begins
  rw [if_pos (by simp [root])] at begins
  have sizes := congrArg List.length begins
  have some_char := List.length_pos_of_ne_nil named
  simp at sizes
  omega

/-- A name that goes on differently from the name of the directory, or does not go on. -/
theorem names_apart (name q tail : List α) (qs : List (List α)) (name_plain : sep ∉ name)
    (same : name ++ tail = q ++ textOf sep qs) : ∃ extra, q = name ++ extra := by
  rcases List.append_eq_append_iff.1 same with ⟨extra,extended,_⟩ | ⟨more,shortened,left⟩
  · exact ⟨extra,extended⟩
  · cases more with
    | nil => exact ⟨[],by simpa using shortened.symm⟩
    | cons a more =>
      have ends : textOf sep qs = [] ∨ ∃ z, textOf sep qs = sep::z := textOf_ends qs
      rcases ends with nothing | ⟨z,begins⟩
      · rw [nothing] at left
        cases left
      · have head : sep = a := (List.cons.inj (begins.symm.trans left)).1
        rw [shortened,← head] at name_plain
        exact absurd (by simp) name_plain

/-- What a common prefix of the texts says about the components. -/
theorem prefix_iff (dir p : AbsolutePath sep) (named : dir.components ≠ []) :
    dir.text <+: p.text ↔ Beneath dir p ∨ Shadows dir p := by
  obtain ⟨parent,name,split⟩ := (List.eq_nil_or_concat' dir.components).resolve_left named
  have name_some := dir.nonempty name (by simp [split])
  have name_plain := dir.separate name (by simp [split])
  have dir_text : dir.text = textOf sep parent ++ sep::name := by
    rw [text_eq dir named,split,textOf_append]
    simp [textOf]
  rw [dir_text]
  constructor
  · intro ⟨tail,begins⟩
    rw [List.append_assoc,List.cons_append] at begins
    have below := text_longer p parent name tail name_some begins
    rw [text_eq p below] at begins
    obtain ⟨q,qs,components,follows⟩ := components_of_prefix parent p.components (name ++ tail)
      (fun c low => dir.separate c (by simp [split,low])) p.separate begins
    obtain ⟨extra,extended⟩ := names_apart name q tail qs name_plain follows
    subst extended
    by_cases same_name : extra = []
    · subst same_name
      rw [List.append_nil] at components
      by_cases last : qs = []
      · exact .inr (.inl (by rw [components,split,last]))
      · exact .inl ⟨qs,last,by rw [components,split,List.append_assoc,List.singleton_append]⟩
    · exact .inr (.inr ⟨parent,name,extra,qs,split,same_name,components⟩)
  · intro either
    rcases either with ⟨rest,_,within⟩ | same | ⟨other,its_name,extra,rest,its_split,_,beside⟩
    · have below : p.components ≠ [] := by simp [within,split]
      refine ⟨textOf sep rest,?_⟩
      rw [text_eq p below,within,split,textOf_append,textOf_append]
      simp [textOf]
    · have below : p.components ≠ [] := by simp [same,split]
      rw [text_eq p below,same,split,textOf_append]
      simp [textOf]
    · obtain ⟨parents,names⟩ := List.append_inj' (split.symm.trans its_split) rfl
      have name_same : name = its_name := (List.cons.inj names).1
      subst parents name_same
      have below : p.components ≠ [] := by simp [beside]
      refine ⟨extra ++ textOf sep rest,?_⟩
      rw [text_eq p below,beside,textOf_append]
      simp [textOf]

end DriversAdapter.Semantics.Paths
