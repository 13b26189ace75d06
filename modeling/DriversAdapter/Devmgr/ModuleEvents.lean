import DriversAdapter.Base.Word
import DriversAdapter.Shared.FileSystem

/-! The module events of the device manager: which file a command names, and what is done
with it. -/
namespace DriversAdapter.Devmgr
open DriversAdapter.Base DriversAdapter.Semantics DriversAdapter.Shared

def pathMax : Nat := 4096

def hdfErrBadFd : Int := -18

/-- The kernel and the file system, over a state of their own, the directory of the modules, and
the numbers of the events, which the framework's headers give. -/
structure ModuleSystem (σ : Type) where
  moduleDir : Paths.AbsolutePath '/'
  moduleDir_named : moduleDir.components ≠ []
  sysEventClassModule : UInt64
  keventModuleInstall : UInt32
  keventModuleRemove : UInt32
  realpath : List Char → σ → Option CanonicalPath
  openFile : List Char → σ → Int
  finitModule : List Char → σ → Int × σ
  deleteModule : List Char → σ → Int × σ

/-- A file that is handed to the kernel, to be installed or removed. -/
structure ModuleAction where
  install : Bool
  path : List Char
  deriving DecidableEq

section Events
variable {σ : Type} (S : ModuleSystem σ)

/-- The text that is resolved. -/
def moduleFile (moduleName : List Char) : List Char :=
  S.moduleDir.text ++ ['/'] ++ moduleName ++ ".ko".toList

/-- `sprintf_s` fails if the text and its terminator do not fit. -/
def makeModulePath (moduleName : List Char) (world : σ) : Except Int CanonicalPath :=
  if pathMax ≤ (moduleFile S moduleName).length then .error hdfFailure
  else
    match S.realpath (moduleFile S moduleName) world with
    | none => .error hdfErrInvalidParam
    | some path =>
      if resolvedUnder S.moduleDir.text (some path) = true then .ok path
      else .error hdfErrInvalidParam

def installModule (path : List Char) (world : σ) : Int × σ :=
  if S.openFile path world < 0 then (hdfErrBadFd,world)
  else S.finitModule path world

def removeModule (path : List Char) (world : σ) : σ := (S.deleteModule path world).2

/-- What is done with an accepted file: the status, the action and the state afterwards. -/
def handleModule (event : UInt32) (path : List Char) (world : σ) :
    Int × Option ModuleAction × σ :=
  if event = S.keventModuleInstall then
    let done := installModule S path world
    (done.1,some ⟨true,path⟩,done.2)
  else if event = S.keventModuleRemove then
    (hdfSuccess,some ⟨false,path⟩,removeModule S path world)
  else (hdfErrNotSupport,none,world)

def moduleSysEventHandle (self : Bool) (eventClass : UInt64) (event : UInt32)
    (content : Option (List Char)) (world : σ) : Int × Option ModuleAction × σ :=
  match content with
  | none => (hdfErrInvalidParam,none,world)
  | some moduleName =>
    if self = false ∨ eventClass &&& S.sysEventClassModule = 0 then
      (hdfErrInvalidParam,none,world)
    else
      match makeModulePath S moduleName world with
      | .error ret => (ret,none,world)
      | .ok path => handleModule S event path.text world

variable (moduleName : List Char) (world : σ) (path : CanonicalPath)

theorem makeModulePath_ok_iff :
    makeModulePath S moduleName world = .ok path ↔
      (moduleFile S moduleName).length < pathMax ∧
        S.realpath (moduleFile S moduleName) world = some path ∧
          resolvedUnder S.moduleDir.text (some path) = true := by
  unfold makeModulePath
  by_cases long : pathMax ≤ (moduleFile S moduleName).length
  · simp [long,Nat.not_lt.2 long]
  · rw [if_neg long]
    have fits := Nat.not_le.1 long
    cases found : S.realpath (moduleFile S moduleName) world with
    | none => simp
    | some other =>
      by_cases under : resolvedUnder S.moduleDir.text (some other) = true
      · simp only [if_pos under,Except.ok.injEq,Option.some.injEq,fits,true_and]
        constructor
        · intro same
          exact ⟨same,same ▸ under⟩
        · exact And.left
      · simp only [if_neg under,reduceCtorEq,Option.some.injEq,fits,true_and,false_iff]
        intro ⟨same,passes⟩
        exact under (same ▸ passes)

theorem handleModule_path (event : UInt32) (file : List Char) (action : ModuleAction)
    (handled : (handleModule S event file world).2.1 = some action) : action.path = file := by
  unfold handleModule at handled
  split_ifs at handled
  · cases handled
    rfl
  · cases handled
    rfl

/-- Only a file that the path check accepts gets to the kernel. -/
theorem handled_accepted (self : Bool) (eventClass : UInt64) (event : UInt32)
    (content : Option (List Char)) (action : ModuleAction)
    (handled : (moduleSysEventHandle S self eventClass event content world).2.1 = some action) :
    ∃ moduleName path, content = some moduleName ∧ action.path = path.text ∧
      makeModulePath S moduleName world = .ok path := by
  unfold moduleSysEventHandle at handled
  cases content with
  | none => cases handled
  | some moduleName =>
    dsimp only at handled
    by_cases refused : self = false ∨ eventClass &&& S.sysEventClassModule = 0
    · rw [if_pos refused] at handled
      cases handled
    · rw [if_neg refused] at handled
      cases made : makeModulePath S moduleName world with
      | error ret =>
        rw [made] at handled
        cases handled
      | ok path =>
        rw [made] at handled
        exact ⟨moduleName,path,rfl,handleModule_path S world event path.text action handled,made⟩

end Events

end DriversAdapter.Devmgr
