import DriversAdapter.Hdi.Support
import DriversAdapter.Semantics.Regular

/-! Interface descriptors: their grammar, the regular expression that recognizes them, and what
`ParseInterface` makes of them. -/
namespace DriversAdapter.Hdi
open DriversAdapter.Base DriversAdapter.Semantics DriversAdapter.Semantics.Regular

def letterClass : List Char := charRange 'a' 'z' ++ charRange 'A' 'Z' ++ ['_']
def wordClass : List Char :=
  charRange 'a' 'z' ++ charRange 'A' 'Z' ++ charRange '0' '9' ++ ['_']
def digitClass : List Char := charRange '0' '9'

def identifierRegex : RegularExpression Char := anyOf letterClass * (anyOf wordClass).star

/-- `[V|v]([0-9]+)_([0-9]+)` -/
def versionRegex : RegularExpression Char :=
  anyOf ['V','|','v'] *
    (oneOrMore (anyOf digitClass) * (.char '_' * oneOrMore (anyOf digitClass)))

/-- The expression that `reInfDesc` is made from. -/
def infDescRegex : RegularExpression Char :=
  separated '.' identifierRegex * (.char '.' * (versionRegex * (.char '.' * identifierRegex)))

theorem isUpper_iff (c : Char) : c.isUpper = true ↔ 'A'.toNat ≤ c.toNat ∧ c.toNat ≤ 'Z'.toNat := by
  change decide ('A'.val ≤ c.val ∧ c.val ≤ 'Z'.val) = true ↔ _
  rw [decide_eq_true_eq,UInt32.le_iff_toNat_le,UInt32.le_iff_toNat_le]
  rfl

theorem isLower_iff (c : Char) : c.isLower = true ↔ 'a'.toNat ≤ c.toNat ∧ c.toNat ≤ 'z'.toNat := by
  change (decide ('a'.val ≤ c.val) && decide (c.val ≤ 'z'.val)) = true ↔ _
  rw [Bool.and_eq_true,decide_eq_true_eq,decide_eq_true_eq,UInt32.le_iff_toNat_le,
    UInt32.le_iff_toNat_le]
  rfl

theorem isAlpha_iff (c : Char) : c.isAlpha = true ↔ c.isUpper = true ∨ c.isLower = true := by
  change (c.isUpper || c.isLower) = true ↔ _
  rw [Bool.or_eq_true]

theorem isDigit_iff (c : Char) : c.isDigit = true ↔ '0'.toNat ≤ c.toNat ∧ c.toNat ≤ '9'.toNat := by
  simp only [Char.isDigit,ge_iff_le,Bool.and_eq_true,decide_eq_true_eq,UInt32.le_iff_toNat_le]
  rfl

theorem mem_letterClass (c : Char) : c ∈ letterClass ↔ (c.isAlpha || c == '_') = true := by
  simp only [letterClass,List.mem_append,mem_charRange _ _ _ (by decide : 'z'.toNat < 0xd800),
    mem_charRange _ _ _ (by decide : 'Z'.toNat < 0xd800),List.mem_singleton,← isUpper_iff,
    ← isLower_iff,isAlpha_iff,Bool.or_eq_true,beq_iff_eq]
  exact or_congr_left Or.comm

theorem mem_digitClass (c : Char) : c ∈ digitClass ↔ c.isDigit = true := by
  rw [digitClass,mem_charRange _ _ _ (by decide),← isDigit_iff]

theorem mem_wordClass (c : Char) : c ∈ wordClass ↔ (c.isAlphanum || c == '_') = true := by
  simp only [wordClass,List.mem_append,mem_charRange _ _ _ (by decide : 'z'.toNat < 0xd800),
    mem_charRange _ _ _ (by decide : 'Z'.toNat < 0xd800),
    mem_charRange _ _ _ (by decide : '9'.toNat < 0xd800),List.mem_singleton,← isUpper_iff,
    ← isLower_iff,← isDigit_iff,Char.isAlphanum,isAlpha_iff,Bool.or_eq_true,beq_iff_eq]
  exact or_congr_left (or_congr_left Or.comm)

theorem mem_identifierRegex (s : Text) :
    s ∈ identifierRegex.matches' ↔ isIdentifier s = true := by
  rw [identifierRegex,RegularExpression.matches'_mul,Language.mem_mul]
  constructor
  · intro ⟨first,one,rest,more,joined⟩
    obtain ⟨c,known,single⟩ := (mem_anyOf letterClass first).1 one
    have words := (mem_star_anyOf wordClass rest).1 more
    subst joined single
    rw [List.singleton_append,isIdentifier,Bool.and_eq_true,List.all_eq_true]
    exact ⟨(mem_letterClass c).1 known,fun d low => (mem_wordClass d).1 (words d low)⟩
  · intro identifier
    cases s with
    | nil => cases identifier
    | cons c rest =>
      rw [isIdentifier,Bool.and_eq_true,List.all_eq_true] at identifier
      obtain ⟨letter,words⟩ := identifier
      exact ⟨[c],(mem_anyOf letterClass [c]).2 ⟨c,(mem_letterClass c).2 letter,rfl⟩,rest,
        (mem_star_anyOf wordClass rest).2 fun d low => (mem_wordClass d).2 (words d low),rfl⟩

theorem mem_numberRegex (s : Text) :
    s ∈ (oneOrMore (anyOf digitClass)).matches' ↔ isNumber s = true := by
  rw [mem_oneOrMore_anyOf,isNumber,Bool.and_eq_true,List.all_eq_true]
  simp [mem_digitClass]

theorem mem_versionRegex (s : Text) :
    s ∈ versionRegex.matches' ↔ ∃ letter major minor, letter ∈ ['V','|','v'] ∧
      isNumber major = true ∧ isNumber minor = true ∧ s = letter::(major ++ '_'::minor) := by
  unfold versionRegex
  simp only [RegularExpression.matches'_mul,Language.mem_mul,mem_anyOf,mem_numberRegex,mem_char]
  constructor
  · intro ⟨_,⟨letter,known,single⟩,_,⟨major,first,_,⟨_,mark,minor,second,tail⟩,rest⟩,joined⟩
    subst joined single rest tail mark
    exact ⟨letter,major,minor,known,first,second,rfl⟩
  · intro ⟨letter,major,minor,known,first,second,joined⟩
    subst joined
    exact ⟨[letter],⟨letter,known,rfl⟩,_,⟨major,first,_,⟨['_'],rfl,minor,second,rfl⟩,rfl⟩,rfl⟩

/-- A descriptor with its parts: a package of one or more identifiers, a version that begins
with one of `letters`, and the name of the interface. -/
structure Descriptor (letters : List Char) where
  package : List Text
  letter : Char
  major : Text
  minor : Text
  name : Text
  package_nonempty : package ≠ []
  package_identifiers : ∀ p ∈ package, isIdentifier p = true
  letter_mem : letter ∈ letters
  major_number : isNumber major = true
  minor_number : isNumber minor = true
  name_identifier : isIdentifier name = true

/-- The letters that the source's class takes, and those that it means. -/
def sourceLetters : List Char := ['V','|','v']
def documentedLetters : List Char := ['V','v']

namespace Descriptor

variable {letters : List Char} (d : Descriptor letters)

def version : Text := d.letter::(d.major ++ '_'::d.minor)

def text : Text := ['.'].intercalate (d.package ++ [d.version,d.name])

end Descriptor

/-- A character that no name and no number has. -/
theorem not_mem_of_identifier (s : Text) (identifier : isIdentifier s = true) : '.' ∉ s := by
  intro dot
  cases s with
  | nil => cases dot
  | cons c rest =>
    rw [isIdentifier,Bool.and_eq_true,List.all_eq_true] at identifier
    rcases List.mem_cons.1 dot with here | later
    · rw [← here] at identifier
      exact absurd identifier.1 (by decide)
    · exact absurd (identifier.2 '.' later) (by decide)

theorem not_mem_of_number (s : Text) (number : isNumber s = true) (c : Char)
    (other : c.isDigit = false) : c ∉ s := by
  intro low
  rw [isNumber,Bool.and_eq_true,List.all_eq_true] at number
  rw [number.2 c low] at other
  cases other

theorem letter_cases (c : Char) (known : c ∈ sourceLetters) : c = 'V' ∨ c = '|' ∨ c = 'v' := by
  simpa [sourceLetters] using known

theorem matchVersion_iff (s major minor : Text) :
    matchVersion s = some (major,minor) ↔ ∃ letter, letter ∈ sourceLetters ∧
      isNumber major = true ∧ isNumber minor = true ∧ s = letter::(major ++ '_'::minor) := by
  constructor
  · intro matched
    cases s with
    | nil => cases matched
    | cons c rest =>
      unfold matchVersion at matched
      dsimp only at matched
      by_cases known : c = 'V' ∨ c = '|' ∨ c = 'v'
      · rw [if_pos known] at matched
        split at matched
        next first second parts =>
          split_ifs at matched with numbers
          cases matched
          have joined : ['_'].intercalate (rest.splitOn '_') = rest := List.intercalate_splitOn '_'
          rw [parts] at joined
          rw [Bool.and_eq_true] at numbers
          exact ⟨c,by simpa [sourceLetters] using known,numbers.1,numbers.2,by simp [← joined]⟩
        next => cases matched
      · rw [if_neg known] at matched
        cases matched
  · intro ⟨letter,known,first,second,joined⟩
    have parts : (major ++ '_'::minor).splitOn '_' = [major,minor] := by
      rw [List.splitOn_append_cons_self_of_not_mem
          (not_mem_of_number major first '_' (by decide)),
        List.splitOn_eq_singleton (not_mem_of_number minor second '_' (by decide))]
    rw [joined,matchVersion,if_pos (letter_cases letter known),parts]
    simp [first,second]

namespace Descriptor

variable {letters : List Char} (d : Descriptor letters)

theorem version_plain (known : ∀ c ∈ letters, c ∈ sourceLetters) : '.' ∉ d.version := by
  unfold version
  have letter : '.' ≠ d.letter := by
    intro same
    have source := letter_cases d.letter (known d.letter d.letter_mem)
    rw [← same] at source
    exact absurd source (by decide)
  have major := not_mem_of_number d.major d.major_number '.' (by decide)
  have minor := not_mem_of_number d.minor d.minor_number '.' (by decide)
  simp [letter,major,minor]

theorem splitOn_text (known : ∀ c ∈ letters, c ∈ sourceLetters) :
    d.text.splitOn '.' = d.package ++ [d.version,d.name] := by
  refine List.splitOn_intercalate '.' ?_ (by simp)
  intro part mem
  rcases List.mem_append.1 mem with package | last
  · exact not_mem_of_identifier part (d.package_identifiers part package)
  · rcases List.mem_cons.1 last with version | name
    · rw [version]
      exact d.version_plain known
    · rw [List.mem_singleton.1 name]
      exact not_mem_of_identifier d.name d.name_identifier

theorem reInfDesc_text (known : ∀ c ∈ letters, c ∈ sourceLetters) :
    reInfDesc d.text = some (d.major,d.minor,d.name) := by
  have version : matchVersion d.version = some (d.major,d.minor) :=
    (matchVersion_iff _ _ _).2
      ⟨d.letter,known d.letter d.letter_mem,d.major_number,d.minor_number,rfl⟩
  unfold reInfDesc
  rw [d.splitOn_text known,List.reverse_append]
  have package : d.package.reverse.isEmpty = false := by simpa using d.package_nonempty
  have identifiers : d.package.reverse.all isIdentifier = true := by
    simpa using d.package_identifiers
  simp [package,identifiers,d.name_identifier,version]

end Descriptor

/-- The recognizer accepts the texts of descriptors, and gives back their parts. -/
theorem reInfDesc_iff (s major minor name : Text) :
    reInfDesc s = some (major,minor,name) ↔ ∃ d : Descriptor sourceLetters,
      d.text = s ∧ d.major = major ∧ d.minor = minor ∧ d.name = name := by
  constructor
  · intro recognized
    have joined : ['.'].intercalate (s.splitOn '.') = s := List.intercalate_splitOn '.'
    unfold reInfDesc at recognized
    split at recognized
    next last version package parts =>
      split_ifs at recognized with valid
      obtain ⟨nonempty,identifiers,identifier⟩ := valid
      obtain ⟨⟨first,second⟩,matched,same⟩ := Option.map_eq_some_iff.1 recognized
      cases same
      obtain ⟨letter,known,major_number,minor_number,made⟩ := (matchVersion_iff _ _ _).1 matched
      have whole : s.splitOn '.' = package.reverse ++ [version,name] := by
        rw [← List.reverse_reverse (s.splitOn '.'),parts]
        simp
      rw [whole] at joined
      refine ⟨⟨package.reverse,letter,major,minor,name,by simpa using nonempty,?_,known,
        major_number,minor_number,identifier⟩,?_,rfl,rfl,rfl⟩
      · simpa using identifiers
      · unfold Descriptor.text Descriptor.version
        rw [← made]
        exact joined
    next => cases recognized
  · intro ⟨d,same,major_same,minor_same,name_same⟩
    rw [← same,← major_same,← minor_same,← name_same]
    exact d.reInfDesc_text fun c low => low

theorem Descriptor.text_eq {letters : List Char} (d : Descriptor letters) :
    d.text = ['.'].intercalate d.package ++ '.'::(d.version ++ '.'::d.name) := by
  unfold Descriptor.text
  cases split : d.package with
  | nil => exact absurd split d.package_nonempty
  | cons part parts =>
    rw [List.cons_append,intercalate_cons_flatten,intercalate_cons_flatten]
    simp

/-- The source's expression matches exactly the texts of descriptors. -/
theorem mem_infDescRegex (s : Text) :
    s ∈ infDescRegex.matches' ↔ ∃ d : Descriptor sourceLetters, d.text = s := by
  unfold infDescRegex
  simp only [RegularExpression.matches'_mul,Language.mem_mul,mem_separated,mem_identifierRegex,
    mem_versionRegex,mem_char]
  constructor
  · intro ⟨_,⟨package,nonempty,identifiers,joined⟩,_,⟨_,dot,_,⟨_,⟨letter,major,minor,known,
      major_number,minor_number,version⟩,_,⟨_,second_dot,name,identifier,last⟩,inner⟩,rest⟩,whole⟩
    let d : Descriptor sourceLetters := ⟨package,letter,major,minor,name,nonempty,identifiers,known,
      major_number,minor_number,identifier⟩
    refine ⟨d,?_⟩
    rw [d.text_eq,← whole,← rest,← inner,← last,joined,dot,version,second_dot]
    rfl
  · intro ⟨d,same⟩
    rw [← same,d.text_eq]
    exact ⟨_,⟨d.package,d.package_nonempty,d.package_identifiers,rfl⟩,_,⟨['.'],rfl,_,⟨d.version,
      ⟨d.letter,d.major,d.minor,d.letter_mem,d.major_number,d.minor_number,rfl⟩,_,
      ⟨['.'],rfl,d.name,d.name_identifier,rfl⟩,rfl⟩,rfl⟩,rfl⟩

theorem reInfDesc_matches (s : Text) :
    (reInfDesc s).isSome = true ↔ s ∈ infDescRegex.matches' := by
  rw [mem_infDescRegex,Option.isSome_iff_exists]
  constructor
  · intro ⟨⟨major,minor,name⟩,recognized⟩
    obtain ⟨d,same,_⟩ := (reInfDesc_iff s major minor name).1 recognized
    exact ⟨d,same⟩
  · intro ⟨d,same⟩
    exact ⟨_,(reInfDesc_iff s d.major d.minor d.name).2 ⟨d,same,rfl,rfl,rfl⟩⟩

/-- The number that digits denote. -/
def number (digits : Text) : Nat := Nat.ofDigitChars 10 digits 0

/-- An interface is called by its name without the leading `I`. -/
def interfaceOf (name : Text) : Text := if name.head? = some 'I' then name.tail else name

def libraryPath (soPath interface serviceName : Text) (major minor : Nat) : Text :=
  soPath ++ "/lib".toList ++ transFileName interface ++ ['_'] ++ serviceName ++ ['_'] ++
    Nat.toDigits 10 major ++ ['.'] ++ Nat.toDigits 10 minor ++ ".z.so".toList

theorem stoul_small (digits : Text) (small : number digits < 2^32) :
    ∃ value, stoul digits = some value ∧ value.toNat = number digits := by
  have below : number digits < 2^64 := lt_trans small (by decide)
  refine ⟨UInt32.ofNat (number digits),if_pos below,?_⟩
  rw [UInt32.toNat_ofNat']
  exact Nat.mod_eq_of_lt small

theorem deriveNames_iff (soPath desc serviceName major minor name interface libpath : Text)
    (recognized : reInfDesc desc = some (major,minor,name)) (small : number major < 2^32)
    (small_minor : number minor < 2^32) :
    deriveNames soPath desc serviceName = some (interface,libpath) ↔
      interface = interfaceOf name ∧ interface ≠ [] ∧
        libpath = libraryPath soPath interface serviceName (number major) (number minor) ∧
          libpath.length ≤ pathMax := by
  obtain ⟨versionMajor,stored,major_value⟩ := stoul_small major small
  obtain ⟨versionMinor,stored_minor,minor_value⟩ := stoul_small minor small_minor
  unfold deriveNames
  rw [recognized]
  dsimp only
  rw [stored,stored_minor,← major_value,← minor_value]
  change (if (interfaceOf name).isEmpty = true then none
    else if pathMax < (libraryPath soPath (interfaceOf name) serviceName versionMajor.toNat
      versionMinor.toNat).length then none
    else some (interfaceOf name,libraryPath soPath (interfaceOf name) serviceName
      versionMajor.toNat versionMinor.toNat)) = some (interface,libpath) ↔ _
  by_cases void : interfaceOf name = []
  · rw [if_pos (by simpa using void)]
    constructor
    · intro made
      cases made
    · intro ⟨same,some_name,_⟩
      exact absurd (same.trans void) some_name
  · rw [if_neg (by simpa using void)]
    constructor
    · intro made
      split_ifs at made with long
      cases made
      exact ⟨rfl,void,rfl,Nat.not_lt.1 long⟩
    · intro ⟨same,_,path,fits⟩
      rw [path,same] at fits
      rw [if_neg (Nat.not_lt.2 fits),path,same]

namespace Descriptor

variable {letters : List Char}

/-- The same descriptor where other letters are taken. -/
def relabel (d : Descriptor letters) (others : List Char) (mem : d.letter ∈ others) :
    Descriptor others :=
  {d with letter_mem := mem}

theorem documented_mem (d : Descriptor sourceLetters) (plain : d.letter ≠ '|') :
    d.letter ∈ documentedLetters := by
  rcases letter_cases d.letter d.letter_mem with big | bar | small
  · simp [documentedLetters,big]
  · exact absurd bar plain
  · simp [documentedLetters,small]

theorem documented_source (c : Char) (known : c ∈ documentedLetters) : c ∈ sourceLetters := by
  have either : c = 'V' ∨ c = 'v' := by simpa [documentedLetters] using known
  rcases either with big | small
  · simp [sourceLetters,big]
  · simp [sourceLetters,small]

/-- The letter of the version, read off the text. -/
theorem letter_of_text (d : Descriptor letters) (known : ∀ c ∈ letters, c ∈ sourceLetters) :
    (d.text.splitOn '.').reverse[1]?.bind List.head? = some d.letter := by
  rw [d.splitOn_text known,List.reverse_append]
  rfl

end Descriptor

/-- Apart from versions that begin with a bar and from numbers of more than 32 bits,
`ParseInterface` accepts the descriptors of the documented form whose interface has a name and
whose library fits and is there; the interface and the library are those that are written. -/
theorem parseInterface_iff {σ : Type} (L : Loader σ) (desc serviceName : Text) (world : σ)
    (plain : ∀ d : Descriptor sourceLetters, d.text = desc →
      d.letter ≠ '|' ∧ number d.major < 2^32 ∧ number d.minor < 2^32) (interface libpath : Text) :
    HdiSupport.parseInterface L desc serviceName world = some (interface,libpath) ↔
      ∃ d : Descriptor documentedLetters, d.text = desc ∧
        interface = interfaceOf d.name ∧ interface ≠ [] ∧
          libpath = libraryPath L.soPath interface serviceName (number d.major) (number d.minor) ∧
            libpath.length ≤ pathMax ∧ L.resolves libpath world = true := by
  unfold HdiSupport.parseInterface
  rw [Option.filter_eq_some_iff]
  constructor
  · intro ⟨derived,resolves⟩
    cases recognized : reInfDesc desc with
    | none =>
      unfold deriveNames at derived
      rw [recognized] at derived
      cases derived
    | some parts =>
      obtain ⟨major,minor,name⟩ := parts
      obtain ⟨d,same,rfl,rfl,rfl⟩ := (reInfDesc_iff desc major minor name).1 recognized
      obtain ⟨no_bar,small,small_minor⟩ := plain d same
      obtain ⟨named,some_name,path,fits⟩ := (deriveNames_iff _ _ _ _ _ _ _ _ recognized small
        small_minor).1 derived
      exact ⟨d.relabel documentedLetters (d.documented_mem no_bar),same,named,some_name,path,fits,resolves⟩
  · intro ⟨d,same,named,some_name,path,fits,resolves⟩
    obtain ⟨_,small,small_minor⟩ := plain
      (d.relabel sourceLetters (Descriptor.documented_source d.letter d.letter_mem)) same
    have recognized := d.reInfDesc_text Descriptor.documented_source
    rw [same] at recognized
    exact ⟨(deriveNames_iff _ _ _ _ _ _ _ _ recognized small small_minor).2
      ⟨named,some_name,path,fits⟩,resolves⟩

/-- The example of the documentation. -/
def sampleDescriptor : Descriptor documentedLetters where
  package := ["ohos".toList,"hdi".toList,"sample".toList]
  letter := 'v'
  major := "1".toList
  minor := "0".toList
  name := "IFoo".toList
  package_nonempty := by simp
  package_identifiers := by decide
  letter_mem := by decide
  major_number := by decide
  minor_number := by decide
  name_identifier := by decide

theorem parseInterface_sample :
    HdiSupport.parseInterface HdiSupport.anyLibrary "ohos.hdi.sample.v1_0.IFoo".toList
      "xxx_service".toList () =
        some ("Foo".toList,"/lib/libfoo_xxx_service_1.0.z.so".toList) := by
  refine (parseInterface_iff HdiSupport.anyLibrary _ _ () ?_ _ _).2
    ⟨sampleDescriptor,by decide,by decide,by decide,by decide +kernel,by decide +kernel,rfl⟩
  intro d same
  have letter := d.letter_of_text fun c low => low
  have parts := d.reInfDesc_text fun c low => low
  rw [same] at letter parts
  have read : reInfDesc "ohos.hdi.sample.v1_0.IFoo".toList =
      some ("1".toList,"0".toList,"IFoo".toList) := by decide +kernel
  have first : ("ohos.hdi.sample.v1_0.IFoo".toList.splitOn '.').reverse[1]?.bind List.head? =
      some 'v' := by decide +kernel
  rw [read,Option.some.injEq,Prod.mk.injEq,Prod.mk.injEq] at parts
  rw [first,Option.some.injEq] at letter
  rw [← letter,← parts.1,← parts.2.1]
  decide +kernel

/-- The interface is not the final identifier, a name of one letter and a missing library are
refused, a bar passes for a letter, and a number of more than 32 bits is cut. -/
theorem parseInterface_departs :
    HdiSupport.parseInterface HdiSupport.anyLibrary "a.V1_0.IFoo".toList "s".toList () =
        some ("Foo".toList,"/lib/libfoo_s_1.0.z.so".toList) ∧
      HdiSupport.parseInterface HdiSupport.anyLibrary "a.V1_0.I".toList "s".toList () = none ∧
      HdiSupport.parseInterface {HdiSupport.anyLibrary with resolves := fun _ _ => false}
        "a.V1_0.IFoo".toList "s".toList () = none ∧
      HdiSupport.parseInterface HdiSupport.anyLibrary "a.|1_0.IFoo".toList "s".toList () =
        some ("Foo".toList,"/lib/libfoo_s_1.0.z.so".toList) ∧
      HdiSupport.parseInterface HdiSupport.anyLibrary "a.V4294967297_0.IFoo".toList "s".toList () =
        some ("Foo".toList,"/lib/libfoo_s_1.0.z.so".toList) := by
  decide +kernel

end DriversAdapter.Hdi
