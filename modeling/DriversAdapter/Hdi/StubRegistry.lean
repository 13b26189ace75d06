import DriversAdapter.Hdi.StubCollector
import DriversAdapter.Semantics.Ownership

/-! The registry of stub constructors with the identity of the constructor objects: which
registration a descriptor is bound to, and what an unregistration takes away. -/
namespace DriversAdapter.Hdi
open DriversAdapter.Semantics DriversAdapter.Semantics.Ownership

/-- The calls with constructor objects known by their addresses; null pointers are `none`. -/
inductive RegistryCall (α : Type)
  | register (ifDesc : Option String) (constructor : Option α)
  | unregister (ifDesc : Option String) (constructor : Option α)

namespace RegistryCall

variable {α : Type} [DecidableEq α]

def constructorRegister (g_constructorMap : String → Option α) (ifDesc : String)
    (constructor : α) : String → Option α :=
  match g_constructorMap ifDesc with
  | some _ => g_constructorMap
  | none => Function.update g_constructorMap ifDesc (some constructor)

/-- The constructor is only compared with null. -/
def constructorUnregister (g_constructorMap : String → Option α) (ifDesc : String) :
    String → Option α :=
  Function.update g_constructorMap ifDesc none

def perform (g_constructorMap : String → Option α) (call : RegistryCall α) : String → Option α :=
  match call with
  | .register (some ifDesc) (some constructor) =>
    constructorRegister g_constructorMap ifDesc constructor
  | .unregister (some ifDesc) (some _) => constructorUnregister g_constructorMap ifDesc
  | _ => g_constructorMap

def bindings (calls : List (RegistryCall α)) : String → Option α :=
  calls.foldl perform fun _ => none

def claim : RegistryCall α → Option (Claim String α)
  | .register (some ifDesc) (some constructor) => some (.take ifDesc constructor)
  | .unregister (some ifDesc) (some constructor) => some (.release ifDesc constructor)
  | _ => none

/-- An unregistration of a bound descriptor passes the constructor that is bound. -/
def Rightful (g_constructorMap : String → Option α) : RegistryCall α → Prop
  | .unregister (some ifDesc) (some constructor) =>
    g_constructorMap ifDesc = none ∨ g_constructorMap ifDesc = some constructor
  | _ => True

theorem perform_owned_iff (g_constructorMap : String → Option α) (call : RegistryCall α) :
    perform g_constructorMap call = callStep claim g_constructorMap call ↔
      call.Rightful g_constructorMap := by
  match call with
  | .register (some ifDesc) (some constructor) =>
    simp only [perform,constructorRegister,callStep,claim,Option.elim_some,step,Rightful,iff_true]
    cases g_constructorMap ifDesc <;> simp
  | .unregister (some ifDesc) (some constructor) =>
    simp only [perform,constructorUnregister,callStep,claim,Option.elim_some,step,Rightful]
    split_ifs with held
    · simp [held]
    · simp only [held,or_false]
      constructor
      · intro same
        have here := congrFun same ifDesc
        rw [Function.update_self] at here
        exact here.symm
      · intro free
        rw [← free]
        exact Function.update_eq_self _ _
  | .register none _ | .register (some _) none | .unregister none _ | .unregister (some _) none =>
    simp [perform,callStep,claim,Rightful]

/-- A descriptor stays with the first constructor that was registered for it until that one is
unregistered, in a run up to any of its calls, exactly when every unregistration in it is
rightful. -/
theorem bindings_owned_iff (calls : List (RegistryCall α)) :
    (∀ before, before <+: calls → bindings before = owners (before.filterMap claim)) ↔
      ∀ before call, before ++ [call] <+: calls → call.Rightful (bindings before) := by
  unfold bindings
  rw [agrees_iff claim perform calls]
  simp only [perform_owned_iff]

theorem bound_iff (calls : List (RegistryCall α))
    (rightful : ∀ before call, before ++ [call] <+: calls → call.Rightful (bindings before))
    (ifDesc : String) (constructor : α) :
    bindings calls ifDesc = some constructor ↔ ∃ before after,
      calls.filterMap claim = before ++ .take ifDesc constructor :: after ∧
        owners before ifDesc = none ∧ .release ifDesc constructor ∉ after := by
  rw [(bindings_owned_iff calls).mpr rightful calls (List.prefix_refl _)]
  exact owners_eq_some_iff _ _ _

def toCall (contents : α → StubConstructor) : RegistryCall α → StubCollector.Call
  | .register ifDesc constructor => .register ifDesc (constructor.map contents)
  | .unregister ifDesc constructor => .unregister ifDesc (constructor.map contents)

omit [DecidableEq α] in
theorem perform_contents (contents : α → StubConstructor) (g_constructorMap : String → Option α)
    (s : StubCollector) (same : s.constructorMap = fun d => (g_constructorMap d).map contents)
    (call : RegistryCall α) :
    (StubCollector.step (call.toCall contents) s).2.constructorMap =
      fun d => (perform g_constructorMap call d).map contents := by
  match call with
  | .register (some ifDesc) (some constructor) =>
    simp only [toCall,Option.map_some,StubCollector.step,StubCollector.stubConstructorRegister,
      perform,constructorRegister,congrFun same ifDesc]
    cases bound : g_constructorMap ifDesc with
    | some _ => exact same
    | none =>
      funext d
      by_cases here : d = ifDesc <;> simp [here,same]
  | .unregister (some ifDesc) (some constructor) =>
    simp only [toCall,Option.map_some,StubCollector.step,StubCollector.stubConstructorUnregister,
      perform,constructorUnregister]
    funext d
    by_cases here : d = ifDesc <;> simp [here,same]
  | .register none _ | .register (some _) none | .unregister none _ | .unregister (some _) none =>
    exact same

omit [DecidableEq α] in
/-- The registry is the constructor map of the collector, seen through the constructor objects. -/
theorem bindings_contents (contents : α → StubConstructor) (calls : List (RegistryCall α)) :
    (Machine.run StubCollector.step (calls.map (toCall contents)) StubCollector.opening).2.constructorMap =
      fun d => (bindings calls d).map contents := by
  suffices run : ∀ (s : StubCollector) (m : String → Option α),
      s.constructorMap = (fun d => (m d).map contents) →
      (Machine.run StubCollector.step (calls.map (toCall contents)) s).2.constructorMap =
        fun d => (calls.foldl perform m d).map contents from run _ _ rfl
  induction calls with
  | nil => exact fun _ _ same => same
  | cons call calls ih => exact fun s m same => ih _ _ (perform_contents contents m s same call)

/-- The second registrant of a descriptor is refused, and its unregistration then takes the
binding of the first away. -/
theorem second_unregisters_first :
    bindings [.register (some "d") (some 1),.register (some "d") (some 2)] "d" = some 1 ∧
      bindings [.register (some "d") (some 1),.register (some "d") (some 2),
        .unregister (some "d") (some 2)] "d" = none ∧
      owners ([RegistryCall.register (some "d") (some 1),.register (some "d") (some 2),
        .unregister (some "d") (some 2)].filterMap claim) "d" = some 1 := by
  decide

end RegistryCall

end DriversAdapter.Hdi
