import DriversAdapter.Base.Word
import DriversAdapter.Semantics.Cache
import DriversAdapter.Semantics.Machine

/-! The loader of HDI implementations: what it derives from an interface descriptor, and
its cache of libraries. -/
namespace DriversAdapter.Hdi
open DriversAdapter.Base DriversAdapter.Semantics

/-- A string of single-byte characters. -/
abbrev Text := List Char

def isIdentifier : Text → Bool
  | [] => false
  | c::rest => (c.isAlpha || c == '_') && rest.all fun c => c.isAlphanum || c == '_'

def isNumber (digits : Text) : Bool := !digits.isEmpty && digits.all Char.isDigit

/-- `[V|v]([0-9]+)_([0-9]+)`; the class takes the bar as well. -/
def matchVersion : Text → Option (Text × Text)
  | [] => none
  | c::rest =>
    if c = 'V' ∨ c = '|' ∨ c = 'v' then
      match rest.splitOn '_' with
      | [major,minor] => if isNumber major && isNumber minor then some (major,minor) else none
      | _ => none
    else none

/-- `reInfDesc`: package, version and interface name, with a dot between each two. -/
def reInfDesc (desc : Text) : Option (Text × Text × Text) :=
  match (desc.splitOn '.').reverse with
  | name::version::package =>
    if package.isEmpty = false ∧ package.all isIdentifier = true ∧ isIdentifier name = true then
      (matchVersion version).map fun (major,minor) => (major,minor,name)
    else none
  | _ => none

/-- `std::stoul` throws on a number above 64 bits; the result is stored in 32. -/
def stoul (digits : Text) : Option UInt32 :=
  let value := Nat.ofDigitChars 10 digits 0
  if value < 2^64 then some (UInt32.ofNat value) else none

/-- Upper case to lower case, with an underscore before it from the third character on. -/
def transFileNameFrom : Nat → Text → Text
  | _, [] => []
  | i, c::rest =>
    if c.isUpper then
      if 1 < i then '_' :: c.toLower :: transFileNameFrom (i + 1) rest
      else c.toLower :: transFileNameFrom (i + 1) rest
    else c :: transFileNameFrom (i + 1) rest

def transFileName (interfaceName : Text) : Text := transFileNameFrom 0 interfaceName

def pathMax : Nat := 4096

/-- What a descriptor and a service name determine: the interface and the path of the
library, if it is not cut off. `soPath` is the directory of the libraries. -/
def deriveNames (soPath desc serviceName : Text) : Option (Text × Text) :=
  match reInfDesc desc with
  | none => none
  | some (major,minor,interfaceName) =>
    match stoul major, stoul minor with
    | some versionMajor, some versionMinor =>
      let interface := if interfaceName.head? = some 'I' then interfaceName.tail else interfaceName
      if interface.isEmpty then none
      else
        let path := soPath ++ "/lib".toList ++ transFileName interface ++ ['_'] ++ serviceName ++
          ['_'] ++ Nat.toDigits 10 versionMajor.toNat ++ ['.'] ++
            Nat.toDigits 10 versionMinor.toNat ++ ".z.so".toList
        if pathMax < path.length then none else some (interface,path)
    | _, _ => none

structure Symbol where
  library : Text
  name : Text
  deriving DecidableEq

/-- The file system and the dynamic linker, over a state of their own. Pointers are numbers. -/
structure Loader (σ : Type) where
  soPath : Text
  resolves : Text → σ → Bool
  dlopen : Text → σ → Bool
  dlsym : Symbol → σ → Bool
  construct : Symbol → σ → Option Nat × σ
  release : Symbol → Nat → σ → σ

structure HdiImpl where
  constructor : Symbol
  destructor : Option Symbol

/-- The cache of loaded libraries, by path. -/
structure HdiSupport (σ : Type) where
  hdiConstructorMap : Text → Option HdiImpl
  world : σ

variable {σ : Type} (L : Loader σ)

namespace HdiSupport

def opening (world : σ) : HdiSupport σ := ⟨fun _ => none,world⟩

/-- The symbols of an interface in its own library. -/
def constructorOf (interface libpath : Text) : Symbol :=
  ⟨libpath,interface ++ "ImplGetInstance".toList⟩

def destructorOf (interface libpath : Text) : Symbol :=
  ⟨libpath,interface ++ "ImplRelease".toList⟩

def parseInterface (desc serviceName : Text) (world : σ) : Option (Text × Text) :=
  (deriveNames L.soPath desc serviceName).filter fun (_,path) => L.resolves path world

def loadHdiImpl (desc serviceName : Text) (s : HdiSupport σ) : Option Nat × HdiSupport σ :=
  if desc.isEmpty ∨ serviceName.isEmpty then (none,s)
  else match parseInterface L desc serviceName s.world with
  | none => (none,s)
  | some (interfaceName,libpath) =>
    match s.hdiConstructorMap libpath with
    | some hdiImpl =>
      let made := L.construct hdiImpl.constructor s.world
      (made.1,{s with world := made.2})
    | none =>
      if L.dlopen libpath s.world = false then (none,s)
      else if L.dlsym (constructorOf interfaceName libpath) s.world = false then (none,s)
      else
        let desSym := destructorOf interfaceName libpath
        let hdiImpl : HdiImpl := ⟨constructorOf interfaceName libpath,
          if L.dlsym desSym s.world then some desSym else none⟩
        let made := L.construct hdiImpl.constructor s.world
        match made.1 with
        | none => (none,{s with world := made.2})
        | some implInstance =>
          (some implInstance,⟨Function.update s.hdiConstructorMap libpath (some hdiImpl),made.2⟩)

/-- Also the symbol that the instance is handed to. -/
def unloadHdiImpl (desc serviceName : Text) (impl : Nat) (s : HdiSupport σ) :
    Option Symbol × HdiSupport σ :=
  match parseInterface L desc serviceName s.world with
  | none => (none,s)
  | some (_,libpath) =>
    match s.hdiConstructorMap libpath with
    | none => (none,s)
    | some hdiImpl =>
      match hdiImpl.destructor with
      | none => (none,s)
      | some destructor => (some destructor,{s with world := L.release destructor impl s.world})

/-- The calls, with null pointers as `none`, and what else happens to the system. -/
inductive Call (σ : Type)
  | load (desc serviceName : Option Text)
  | unload (desc : Option Text) (serviceName : Text) (impl : Option Nat)
  | elsewhere (world : σ)

inductive Answer
  | loaded (implInstance : Option Nat)
  | released (destructor : Option Symbol)
  | nothing
  deriving DecidableEq

def step (call : Call σ) (s : HdiSupport σ) : Answer × HdiSupport σ :=
  match call with
  | .load (some desc) (some serviceName) =>
    let made := loadHdiImpl L desc serviceName s
    (.loaded made.1,made.2)
  | .load _ _ => (.loaded none,s)
  | .unload (some desc) serviceName (some impl) =>
    let done := unloadHdiImpl L desc serviceName impl s
    (.released done.1,done.2)
  | .unload _ _ _ => (.released none,s)
  | .elsewhere world => (.nothing,{s with world := world})

/-- The interface and the library of a call. -/
def Call.names : Call σ → Option (Text × Text)
  | .load (some desc) (some serviceName) => deriveNames L.soPath desc serviceName
  | .unload (some desc) serviceName (some _) => deriveNames L.soPath desc serviceName
  | _ => none

/-- A load gives what the constructor of its own interface returns, and an unload hands the
instance to the destructor of its own interface. -/
def Transparent (call : Call σ) (s : HdiSupport σ) : Prop :=
  match (step L call s).1 with
  | .loaded (some v) => ∃ interface libpath, call.names L = some (interface,libpath) ∧
      (L.construct (constructorOf interface libpath) s.world).1 = some v
  | .released (some destructor) => ∃ interface libpath,
      call.names L = some (interface,libpath) ∧ destructor = destructorOf interface libpath
  | _ => True

/-- No library is used for two interfaces. -/
def OneInterface (used : Call σ → Prop) : Prop :=
  ∀ c d interface other libpath, used c → used d → c.names L = some (interface,libpath) →
    d.names L = some (other,libpath) → interface = other

/-- An entry made for the interface of a call. -/
def Loads (call : Call σ) (hdiImpl : HdiImpl) : Prop :=
  ∃ interface libpath, call.names L = some (interface,libpath) ∧
    hdiImpl.constructor = constructorOf interface libpath ∧
      ∀ destructor, hdiImpl.destructor = some destructor → destructor = destructorOf interface libpath

abbrev Backed (used : Call σ → Prop) (s : HdiSupport σ) : Prop :=
  Cache.Backed (fun call => (call.names L).map Prod.snd) (Loads L) used s.hdiConstructorMap

section Calls
variable (desc serviceName : Text) (s : HdiSupport σ)

theorem parseInterface_names (names : Text × Text)
    (parsed : parseInterface L desc serviceName s.world = some names) :
    deriveNames L.soPath desc serviceName = some names :=
  (Option.filter_eq_some_iff.mp parsed).1

theorem loadHdiImpl_some (v : Nat) (loaded : (loadHdiImpl L desc serviceName s).1 = some v) :
    ∃ interface libpath constructor, deriveNames L.soPath desc serviceName = some (interface,libpath) ∧
      (L.construct constructor s.world).1 = some v ∧
      (constructor = constructorOf interface libpath ∨
        ∃ hdiImpl, s.hdiConstructorMap libpath = some hdiImpl ∧ constructor = hdiImpl.constructor) := by
  unfold loadHdiImpl at loaded
  split_ifs at loaded
  split at loaded
  next => contradiction
  next interface libpath parsed =>
    have names := parseInterface_names L desc serviceName s _ parsed
    split at loaded
    next hdiImpl found =>
      exact ⟨interface,libpath,hdiImpl.constructor,names,loaded,.inr ⟨hdiImpl,found,rfl⟩⟩
    next =>
      split_ifs at loaded
      dsimp only at loaded
      split at loaded
      next => contradiction
      next implInstance made =>
        exact ⟨interface,libpath,constructorOf interface libpath,names,made.trans loaded,.inl rfl⟩

theorem loadHdiImpl_map :
    (loadHdiImpl L desc serviceName s).2.hdiConstructorMap = s.hdiConstructorMap ∨
      ∃ interface libpath destructor,
        deriveNames L.soPath desc serviceName = some (interface,libpath) ∧
        (∀ symbol, destructor = some symbol → symbol = destructorOf interface libpath) ∧
        (loadHdiImpl L desc serviceName s).2.hdiConstructorMap =
          Function.update s.hdiConstructorMap libpath
            (some ⟨constructorOf interface libpath,destructor⟩) := by
  unfold loadHdiImpl
  split_ifs
  · exact .inl rfl
  split
  next => exact .inl rfl
  next interface libpath parsed =>
    have names := parseInterface_names L desc serviceName s _ parsed
    split
    next => exact .inl rfl
    next =>
      split_ifs with unopened missing
      · exact .inl rfl
      · exact .inl rfl
      all_goals
        dsimp only
        split
        next => exact .inl rfl
        next => exact .inr ⟨interface,libpath,_,names,by simp_all,rfl⟩

theorem unloadHdiImpl_some (impl : Nat) (destructor : Symbol)
    (handed : (unloadHdiImpl L desc serviceName impl s).1 = some destructor) :
    ∃ interface libpath hdiImpl, deriveNames L.soPath desc serviceName = some (interface,libpath) ∧
      s.hdiConstructorMap libpath = some hdiImpl ∧ hdiImpl.destructor = some destructor := by
  unfold unloadHdiImpl at handed
  split at handed
  next => contradiction
  next interface libpath parsed =>
    have names := parseInterface_names L desc serviceName s _ parsed
    split at handed
    next => contradiction
    next hdiImpl found =>
      split at handed
      next => contradiction
      next symbol named =>
        cases handed
        exact ⟨interface,libpath,hdiImpl,names,found,named⟩

theorem unloadHdiImpl_map (impl : Nat) :
    (unloadHdiImpl L desc serviceName impl s).2.hdiConstructorMap = s.hdiConstructorMap := by
  unfold unloadHdiImpl
  split
  next => rfl
  next =>
    split
    next => rfl
    next => split <;> rfl

end Calls

section Runs
variable (used : Call σ → Prop) (s : HdiSupport σ)

theorem backed_step (backed : Backed L used s) (call : Call σ) (made : used call) :
    Backed L used (step L call s).2 := by
  cases call with
  | elsewhere world => exact backed
  | unload desc serviceName impl =>
    cases desc with
    | none => exact backed
    | some desc =>
      cases impl with
      | none => exact backed
      | some impl =>
        have same := unloadHdiImpl_map L desc serviceName s impl
        unfold Backed step
        dsimp only
        rwa [same]
  | load desc serviceName =>
    cases desc with
    | none => exact backed
    | some desc =>
      cases serviceName with
      | none => exact backed
      | some serviceName =>
        unfold Backed step
        dsimp only
        rcases loadHdiImpl_map L desc serviceName s with same | ⟨interface,libpath,destructor,names,own,new⟩
        · rwa [same]
        · rw [new]
          refine Cache.backed_update backed (.load (some desc) (some serviceName)) libpath _ made ?_ ?_
          · change (deriveNames L.soPath desc serviceName).map Prod.snd = some libpath
            rw [names]
            rfl
          · exact ⟨interface,libpath,names,rfl,own⟩

theorem hit_loads (one : OneInterface L used) (backed : Backed L used s) (call : Call σ)
    (made : used call) (interface libpath : Text) (names : call.names L = some (interface,libpath))
    (hdiImpl : HdiImpl) (found : s.hdiConstructorMap libpath = some hdiImpl) :
    Loads L call hdiImpl := by
  refine Cache.backed_hit backed call libpath hdiImpl ?_ found
  rintro other theirs keyed loaded ⟨otherInterface,otherPath,otherNames,constructor,destructor⟩
  rw [otherNames,Option.map_some,Option.some.injEq] at keyed
  dsimp only at keyed
  subst otherPath
  obtain rfl := one call other interface otherInterface libpath made theirs names otherNames
  exact ⟨interface,libpath,names,constructor,destructor⟩

theorem transparent_load (one : OneInterface L used) (backed : Backed L used s)
    (desc serviceName : Text) (made : used (.load (some desc) (some serviceName))) :
    Transparent L (.load (some desc) (some serviceName)) s := by
  unfold Transparent step
  dsimp only
  cases loaded : (loadHdiImpl L desc serviceName s).1 with
  | none => trivial
  | some v =>
    obtain ⟨interface,libpath,constructor,names,returned,own | ⟨hdiImpl,found,cached⟩⟩ :=
      loadHdiImpl_some L desc serviceName s v loaded
    · exact ⟨interface,libpath,names,own ▸ returned⟩
    · obtain ⟨interface',libpath',names',symbol,_⟩ := hit_loads L used s one backed
        (.load (some desc) (some serviceName)) made interface libpath names hdiImpl found
      exact ⟨interface',libpath',names',by rw [← symbol,← cached]; exact returned⟩

theorem transparent_unload (one : OneInterface L used) (backed : Backed L used s)
    (desc serviceName : Text) (impl : Nat) (made : used (.unload (some desc) serviceName (some impl))) :
    Transparent L (.unload (some desc) serviceName (some impl)) s := by
  unfold Transparent step
  dsimp only
  cases handed : (unloadHdiImpl L desc serviceName impl s).1 with
  | none => trivial
  | some destructor =>
    obtain ⟨interface,libpath,hdiImpl,names,found,symbol⟩ :=
      unloadHdiImpl_some L desc serviceName s impl destructor handed
    obtain ⟨interface',libpath',names',_,own⟩ := hit_loads L used s one backed
      (.unload (some desc) serviceName (some impl)) made interface libpath names hdiImpl found
    exact ⟨interface',libpath',names',own destructor symbol⟩

/-- Where no library is used for two interfaces, a load gives what its own constructor
returns, cached or not, and an unload uses its own destructor. -/
theorem cache_transparent (one : OneInterface L used) (world : σ)
    (reached : Machine.Reach (step L) (fun call _ => used call) (opening world) s)
    (call : Call σ) (made : used call) : Transparent L call s := by
  have backed : Backed L used s :=
    Machine.reach_invariant (step L) (fun call _ => used call) (opening world) (Backed L used)
      Cache.backed_empty (fun call s backed made => backed_step L used s backed call made) s reached
  cases call with
  | elsewhere world => trivial
  | load desc serviceName =>
    cases desc with
    | none => trivial
    | some desc =>
      cases serviceName with
      | none => trivial
      | some serviceName => exact transparent_load L used s one backed desc serviceName made
  | unload desc serviceName impl =>
    cases desc with
    | none => trivial
    | some desc =>
      cases impl with
      | none => trivial
      | some impl => exact transparent_unload L used s one backed desc serviceName impl made

/-- A system in which every library exists, with a constructor for every interface that
returns the length of its name, and no destructor. -/
def anyLibrary : Loader Unit where
  soPath := "/lib".toList
  resolves _ _ := true
  dlopen _ _ := true
  dlsym _ _ := true
  construct symbol s := (some symbol.name.length,s)
  release _ _ s := s

def foo : Call Unit := .load (some "ohos.v1_0.IFoo".toList) (some "bar_service".toList)

def fooBar : Call Unit := .load (some "ohos.v1_0.IFooBar".toList) (some "service".toList)

def loadedFoo : HdiSupport Unit := (step anyLibrary foo (opening ())).2

theorem cache_transparent_foo :
    (step anyLibrary foo loadedFoo).1 = .loaded (some 18) ∧ Transparent anyLibrary foo loadedFoo := by
  refine ⟨by decide +kernel,?_⟩
  refine cache_transparent anyLibrary (· = foo) loadedFoo ?_ () (.step foo .start rfl) foo rfl
  rintro c d interface other libpath rfl rfl names same
  rw [names,Option.some.injEq,Prod.mk.injEq] at same
  exact same.1

theorem fooBar_names : fooBar.names anyLibrary =
    some ("FooBar".toList,"/lib/libfoo_bar_service_1.0.z.so".toList) := by decide +kernel

/-- The cached constructor of Foo answers for FooBar. -/
theorem fooBar_not_transparent :
    (step anyLibrary fooBar loadedFoo).1 = .loaded (some 18) ∧
      (anyLibrary.construct (constructorOf "FooBar".toList
        "/lib/libfoo_bar_service_1.0.z.so".toList) ()).1 = some 21 ∧
      ¬ Transparent anyLibrary fooBar loadedFoo := by
  have loaded : (step anyLibrary fooBar loadedFoo).1 = .loaded (some 18) := by decide +kernel
  refine ⟨loaded,by decide,?_⟩
  unfold Transparent
  rw [loaded]
  rintro ⟨interface,libpath,names,returned⟩
  rw [fooBar_names,Option.some.injEq,Prod.mk.injEq] at names
  obtain ⟨rfl,rfl⟩ := names
  exact absurd returned (by decide)

end Runs

end HdiSupport

end DriversAdapter.Hdi
