import DriversAdapter.Devmgr.ModuleEvents
import DriversAdapter.Hdi.Support

/-! The directories that the loader of HDI implementations and the module events of the device
manager keep to: both compare canonical paths as texts. -/
namespace DriversAdapter.Hdi
open DriversAdapter.Base DriversAdapter.Semantics DriversAdapter.Shared DriversAdapter.Devmgr

/-- A loader with the directory of its libraries and the `realpath` that its check uses. -/
structure ResolvingLoader (σ : Type) where
  soDir : Paths.AbsolutePath '/'
  soDir_named : soDir.components ≠ []
  realpath : Text → σ → Option CanonicalPath
  dlopen : Text → σ → Bool
  dlsym : Symbol → σ → Bool
  construct : Symbol → σ → Option Nat × σ
  release : Symbol → Nat → σ → σ

def ResolvingLoader.loader {σ : Type} (R : ResolvingLoader σ) : Loader σ where
  soPath := R.soDir.text
  resolves := fun path world => resolvedUnder R.soDir.text (R.realpath path world)
  dlopen := R.dlopen
  dlsym := R.dlsym
  construct := R.construct
  release := R.release

namespace HdiSupport

variable {σ : Type} (R : ResolvingLoader σ) (desc serviceName : Text) (s : HdiSupport σ)

/-- `LoadHdiImpl` opens this library. -/
def Opens (libpath : Text) : Prop :=
  desc ≠ [] ∧ serviceName ≠ [] ∧ s.hdiConstructorMap libpath = none ∧
    R.dlopen libpath s.world = true ∧
      ∃ interface, parseInterface R.loader desc serviceName s.world = some (interface,libpath)

/-- The call names this library, which is there to be opened for the first time. -/
def Requests (libpath : Text) : Prop :=
  desc ≠ [] ∧ serviceName ≠ [] ∧ s.hdiConstructorMap libpath = none ∧
    R.dlopen libpath s.world = true ∧
      ∃ interface, deriveNames R.soDir.text desc serviceName = some (interface,libpath)

/-- The libraries that a call adds to the cache are opened by it. -/
theorem opens_of_added (libpath : Text) (before : s.hdiConstructorMap libpath = none)
    (after : (loadHdiImpl R.loader desc serviceName s).2.hdiConstructorMap libpath ≠ none) :
    Opens R desc serviceName s libpath := by
  unfold loadHdiImpl at after
  by_cases void : desc.isEmpty = true ∨ serviceName.isEmpty = true
  · rw [if_pos void] at after
    exact absurd before after
  · rw [if_neg void] at after
    obtain ⟨desc_some,service_some⟩ := not_or.1 void
    cases parsed : parseInterface R.loader desc serviceName s.world with
    | none =>
      rw [parsed] at after
      exact absurd before after
    | some names =>
      obtain ⟨interface,path⟩ := names
      rw [parsed] at after
      dsimp only at after
      cases cached : s.hdiConstructorMap path with
      | some hdiImpl =>
        rw [cached] at after
        exact absurd before after
      | none =>
        rw [cached] at after
        dsimp only at after
        split_ifs at after with unopened missing
        · exact absurd before after
        · exact absurd before after
        all_goals
          split at after
          next => exact absurd before after
          next =>
            have opened : R.dlopen path s.world = true := by
              simpa [ResolvingLoader.loader] using unopened
            by_cases same : libpath = path
            · subst same
              exact ⟨by simpa using desc_some,by simpa using service_some,cached,opened,interface,
                parsed⟩
            · dsimp only at after
              rw [Function.update_of_ne same] at after
              exact absurd before after

theorem opens_iff (libpath : Text) (path : CanonicalPath)
    (resolved : R.realpath libpath s.world = some path) :
    Opens R desc serviceName s libpath ↔
      Requests R desc serviceName s libpath ∧
        resolvedUnder R.soDir.text (some path) = true := by
  have parse : ∀ interface, parseInterface R.loader desc serviceName s.world =
      some (interface,libpath) ↔
        deriveNames R.soDir.text desc serviceName = some (interface,libpath) ∧
          resolvedUnder R.soDir.text (some path) = true := by
    intro interface
    unfold parseInterface
    rw [Option.filter_eq_some_iff,← resolved]
    rfl
  constructor
  · intro ⟨desc_some,service_some,uncached,opened,interface,parsed⟩
    obtain ⟨names,under⟩ := (parse interface).1 parsed
    exact ⟨⟨desc_some,service_some,uncached,opened,interface,names⟩,under⟩
  · intro ⟨⟨desc_some,service_some,uncached,opened,interface,names⟩,under⟩
    exact ⟨desc_some,service_some,uncached,opened,interface,(parse interface).2 ⟨names,under⟩⟩

variable {τ : Type} (S : ModuleSystem τ) (moduleName : List Char) (world : τ)

/-- The library that a load opens and the file that the path check of the device manager accepts
lie strictly beneath their directories. -/
def Confined : Prop :=
  (∀ libpath path, Opens R desc serviceName s libpath →
    R.realpath libpath s.world = some path → Paths.Beneath R.soDir path.toAbsolutePath) ∧
  ∀ path, makeModulePath S moduleName world = .ok path →
    Paths.Beneath S.moduleDir path.toAbsolutePath

/-- Exactly the directories themselves, and siblings that share the text of their names, get
through both checks without lying beneath. -/
theorem confined_iff :
    Confined R desc serviceName s S moduleName world ↔
      (∀ libpath path, Requests R desc serviceName s libpath →
        R.realpath libpath s.world = some path →
          ¬ Paths.Shadows R.soDir path.toAbsolutePath) ∧
      ((moduleFile S moduleName).length < Devmgr.pathMax →
        ∀ path, S.realpath (moduleFile S moduleName) world = some path →
          ¬ Paths.Shadows S.moduleDir path.toAbsolutePath) := by
  have library : ∀ path : CanonicalPath, _ :=
    fun path => resolvedUnder_confines_iff R.soDir path R.soDir_named
  have module_file : ∀ path : CanonicalPath, _ :=
    fun path => resolvedUnder_confines_iff S.moduleDir path S.moduleDir_named
  constructor
  · intro ⟨loads,accepts⟩
    refine ⟨?_,?_⟩
    · intro libpath path requests resolved
      apply (library path).1
      intro under
      exact loads libpath path
        ((opens_iff R desc serviceName s libpath path resolved).2 ⟨requests,under⟩) resolved
    · intro fits path resolved
      apply (module_file path).1
      intro under
      exact accepts path ((makeModulePath_ok_iff S moduleName world path).2 ⟨fits,resolved,under⟩)
  · intro ⟨libraries,files⟩
    refine ⟨?_,?_⟩
    · intro libpath path opens resolved
      obtain ⟨requests,under⟩ := (opens_iff R desc serviceName s libpath path resolved).1 opens
      exact (library path).2 (libraries libpath path requests resolved) under
    · intro path accepted
      obtain ⟨fits,resolved,under⟩ := (makeModulePath_ok_iff S moduleName world path).1 accepted
      exact (module_file path).2 (files fits path resolved) under

end HdiSupport

/-- The path of these names. -/
def canonicalOf (components : List Text) (nonempty : ∀ c ∈ components, c ≠ [])
    (separate : ∀ c ∈ components, '/' ∉ c)
    (resolved : ∀ c ∈ components, c ≠ ['.'] ∧ c ≠ ['.','.']) : CanonicalPath :=
  ⟨⟨components,nonempty,separate⟩,resolved⟩

def vendorLib : CanonicalPath :=
  canonicalOf ["vendor".toList,"lib".toList] (by decide) (by decide) (by decide)

def vendorModules : CanonicalPath :=
  canonicalOf ["vendor".toList,"modules".toList] (by decide) (by decide) (by decide)

def lib64File : CanonicalPath :=
  canonicalOf ["vendor".toList,"lib64".toList,"x_1.0.z.so".toList] (by decide) (by decide)
    (by decide)

def oldModule : CanonicalPath :=
  canonicalOf ["vendor".toList,"modules_old".toList,"m.ko".toList] (by decide) (by decide)
    (by decide)

/-- Every library resolves to a file of the directory for the other word size. -/
def siblingLoader : ResolvingLoader Unit where
  soDir := vendorLib.toAbsolutePath
  soDir_named := by decide
  realpath := fun path _ =>
    if path = "/vendor/lib/libfoo_x/../../lib64/x_1.0.z.so".toList then some lib64File else none
  dlopen := fun _ _ => true
  dlsym := fun _ _ => true
  construct := fun _ world => (some 1,world)
  release := fun _ _ world => world

def siblingModules : ModuleSystem Unit where
  moduleDir := vendorModules.toAbsolutePath
  moduleDir_named := by decide
  sysEventClassModule := 1
  keventModuleInstall := 0
  keventModuleRemove := 1
  realpath := fun path _ =>
    if path = "/vendor/modules/../modules_old/m.ko".toList then some oldModule else none
  openFile := fun _ _ => 3
  finitModule := fun _ world => (0,world)
  deleteModule := fun _ world => (0,world)

theorem lib64File_shadows :
    Paths.Shadows vendorLib.toAbsolutePath lib64File.toAbsolutePath :=
  .inr ⟨["vendor".toList],"lib".toList,"64".toList,["x_1.0.z.so".toList],by decide,by decide,
    by decide⟩

theorem oldModule_shadows :
    Paths.Shadows vendorModules.toAbsolutePath oldModule.toAbsolutePath :=
  .inr ⟨["vendor".toList],"modules".toList,"_old".toList,["m.ko".toList],by decide,by decide,
    by decide⟩

/-- A service name and a command with dots lead to siblings of both directories. -/
theorem siblings_pass :
    (∃ libpath, HdiSupport.Opens siblingLoader "a.V1_0.IFoo".toList "x/../../lib64/x".toList
        (HdiSupport.opening ()) libpath ∧ siblingLoader.realpath libpath () = some lib64File ∧
          ¬ Paths.Beneath vendorLib.toAbsolutePath lib64File.toAbsolutePath) ∧
      makeModulePath siblingModules "../modules_old/m".toList () = .ok oldModule ∧
        ¬ Paths.Beneath vendorModules.toAbsolutePath oldModule.toAbsolutePath := by
  have library : siblingLoader.realpath
      "/vendor/lib/libfoo_x/../../lib64/x_1.0.z.so".toList () = some lib64File := by
    unfold siblingLoader
    dsimp only
    exact if_pos rfl
  have module_file : siblingModules.realpath (moduleFile siblingModules "../modules_old/m".toList)
      () = some oldModule := by
    have named : moduleFile siblingModules "../modules_old/m".toList =
        "/vendor/modules/../modules_old/m.ko".toList := by decide
    rw [named]
    unfold siblingModules
    dsimp only
    exact if_pos rfl
  refine ⟨⟨_,?_,library,Paths.not_beneath_of_shadows _ _ lib64File_shadows⟩,?_,
    Paths.not_beneath_of_shadows _ _ oldModule_shadows⟩
  · rw [HdiSupport.opens_iff siblingLoader _ _ (HdiSupport.opening ()) _ lib64File library]
    exact ⟨⟨by decide,by decide,rfl,rfl,"Foo".toList,by decide +kernel⟩,by decide +kernel⟩
  · rw [makeModulePath_ok_iff]
    exact ⟨by decide,module_file,by decide +kernel⟩

end DriversAdapter.Hdi
