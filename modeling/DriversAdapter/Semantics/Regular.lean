import Mathlib.Computability.RegularExpressions

/-! Regular expressions over character classes: what classes, repetitions and lists with a
separator match. -/
namespace DriversAdapter.Semantics.Regular

variable {α : Type}

/-- One character of a class. -/
def anyOf : List α → RegularExpression α
  | [] => 0
  | c::cs => .char c + anyOf cs

def oneOrMore (r : RegularExpression α) : RegularExpression α := r * r.star

/-- One or more matches with the separator between each two. -/
def separated (sep : α) (r : RegularExpression α) : RegularExpression α :=
  r * (.char sep * r).star

theorem mem_char (c : α) (x : List α) : x ∈ (RegularExpression.char c).matches' ↔ x = [c] := Iff.rfl

theorem mem_anyOf (cs : List α) (x : List α) :
    x ∈ (anyOf cs).matches' ↔ ∃ c, c ∈ cs ∧ x = [c] := by
  induction cs with
  | nil =>
    simp only [anyOf,RegularExpression.matches'_zero,List.not_mem_nil,false_and,exists_false,iff_false]
    exact Language.notMem_zero x
  | cons c cs ih =>
    rw [anyOf,RegularExpression.matches'_add,Language.mem_add,mem_char,ih]
    simp

theorem mem_star_anyOf (cs x : List α) :
    x ∈ (anyOf cs).star.matches' ↔ ∀ c ∈ x, c ∈ cs := by
  rw [RegularExpression.matches'_star,Language.mem_kstar]
  constructor
  · intro ⟨words,joined,each⟩ c low
    rw [joined,List.mem_flatten] at low
    obtain ⟨word,mem,here⟩ := low
    obtain ⟨d,known,single⟩ := (mem_anyOf cs word).1 (each word mem)
    rw [single,List.mem_singleton] at here
    rwa [here]
  · intro all
    refine ⟨x.map fun c => [c],by rw [← List.flatMap_def,List.flatMap_singleton'],?_⟩
    intro word mem
    obtain ⟨c,low,single⟩ := List.mem_map.1 mem
    exact (mem_anyOf cs word).2 ⟨c,all c low,single.symm⟩

theorem mem_oneOrMore_anyOf (cs x : List α) :
    x ∈ (oneOrMore (anyOf cs)).matches' ↔ x ≠ [] ∧ ∀ c ∈ x, c ∈ cs := by
  rw [oneOrMore,RegularExpression.matches'_mul,Language.mem_mul]
  constructor
  · intro ⟨first,one,rest,more,joined⟩
    obtain ⟨c,known,single⟩ := (mem_anyOf cs first).1 one
    subst joined single
    refine ⟨by simp,?_⟩
    intro d low
    rcases List.mem_append.1 low with head | tail
    · rw [List.mem_singleton.1 head]
      exact known
    · exact (mem_star_anyOf cs rest).1 more d tail
  · intro ⟨some_char,all⟩
    cases x with
    | nil => exact absurd rfl some_char
    | cons c rest =>
      exact ⟨[c],(mem_anyOf cs [c]).2 ⟨c,all c (by simp),rfl⟩,rest,
        (mem_star_anyOf cs rest).2 fun d low => all d (by simp [low]),rfl⟩

/-- The parts of what the repetition in `separated` matches. -/
theorem mem_star_separated (sep : α) (r : RegularExpression α) (x : List α) :
    x ∈ (RegularExpression.char sep * r).star.matches' ↔
      ∃ parts : List (List α), (∀ part ∈ parts, part ∈ r.matches') ∧
        x = (parts.map (sep::·)).flatten := by
  rw [RegularExpression.matches'_star,Language.mem_kstar]
  constructor
  · intro ⟨words,joined,each⟩
    subst joined
    induction words with
    | nil => exact ⟨[],by simp,rfl⟩
    | cons word words ih =>
      obtain ⟨parts,matched,rest⟩ := ih fun other mem => each other (by simp [mem])
      have first := each word (by simp)
      rw [RegularExpression.matches'_mul,Language.mem_mul] at first
      obtain ⟨mark,is_sep,part,here,whole⟩ := first
      rw [mem_char] at is_sep
      subst is_sep
      refine ⟨part::parts,?_,?_⟩
      · intro other mem
        rcases List.mem_cons.1 mem with rfl | later
        · exact here
        · exact matched other later
      · rw [List.flatten_cons,rest,← whole]
        rfl
  · intro ⟨parts,matched,joined⟩
    refine ⟨parts.map (sep::·),joined,?_⟩
    intro word mem
    obtain ⟨part,low,same⟩ := List.mem_map.1 mem
    rw [← same,RegularExpression.matches'_mul]
    exact Language.append_mem_mul ((mem_char sep [sep]).2 rfl) (matched part low)

theorem intercalate_cons_flatten (sep : α) (part : List α) (parts : List (List α)) :
    [sep].intercalate (part::parts) = part ++ (parts.map (sep::·)).flatten := by
  induction parts generalizing part with
  | nil => simp
  | cons next parts ih =>
    rw [List.intercalate_cons_cons,ih]
    simp

theorem mem_separated (sep : α) (r : RegularExpression α) (x : List α) :
    x ∈ (separated sep r).matches' ↔
      ∃ parts : List (List α), parts ≠ [] ∧ (∀ part ∈ parts, part ∈ r.matches') ∧
        x = [sep].intercalate parts := by
  rw [separated,RegularExpression.matches'_mul,Language.mem_mul]
  constructor
  · intro ⟨part,first,rest,more,joined⟩
    obtain ⟨parts,matched,here⟩ := (mem_star_separated sep r rest).1 more
    refine ⟨part::parts,by simp,?_,?_⟩
    · intro other mem
      rcases List.mem_cons.1 mem with rfl | later
      · exact first
      · exact matched other later
    · rw [intercalate_cons_flatten,← here,joined]
  · intro ⟨parts,some_part,matched,joined⟩
    cases parts with
    | nil => exact absurd rfl some_part
    | cons part parts =>
      rw [intercalate_cons_flatten] at joined
      exact ⟨part,matched part (by simp),_,
        (mem_star_separated sep r _).2 ⟨parts,fun other mem => matched other (by simp [mem]),rfl⟩,
        joined.symm⟩

theorem toNat_ofNat (n : Nat) (valid : n.isValidChar) : (Char.ofNat n).toNat = n := by
  unfold Char.ofNat
  rw [dif_pos valid]
  rfl

/-- The characters from `lo` to `hi`, as a class names them. -/
def charRange (lo hi : Char) : List Char :=
  (List.range (hi.toNat + 1 - lo.toNat)).map fun i => Char.ofNat (lo.toNat + i)

theorem mem_charRange (lo hi c : Char) (plain : hi.toNat < 0xd800) :
    c ∈ charRange lo hi ↔ lo.toNat ≤ c.toNat ∧ c.toNat ≤ hi.toNat := by
  unfold charRange
  rw [List.mem_map]
  constructor
  · intro ⟨i,low,made⟩
    rw [List.mem_range] at low
    have valid : (lo.toNat + i).isValidChar := by
      left
      omega
    have value : c.toNat = lo.toNat + i := by
      rw [← made,toNat_ofNat _ valid]
    omega
  · intro ⟨low,high⟩
    refine ⟨c.toNat - lo.toNat,List.mem_range.2 (by omega),?_⟩
    rw [Nat.add_sub_cancel' low,Char.ofNat_toNat]

end DriversAdapter.Semantics.Regular
