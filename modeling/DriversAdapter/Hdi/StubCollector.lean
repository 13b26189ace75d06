import DriversAdapter.Semantics.Keyed
import DriversAdapter.Semantics.Machine
import Mathlib.Data.List.Nodup
import Mathlib.Logic.Function.Basic

/-! The collector of stub objects: constructors by interface descriptor, stubs by service
pointer, and what becomes of every stub. -/
namespace DriversAdapter.Hdi
open DriversAdapter.Semantics

abbrev StubId := Nat

/-- Which of its two functions a constructor has. -/
structure StubConstructor where
  constructor : Bool
  destructor : Bool

/-- The two maps, and a record of the stubs: the descriptor each was created for, whether its
removal was asked for, and by which descriptor's destructor it was destroyed. -/
structure StubCollector where
  constructorMap : String → Option StubConstructor
  stubMap : Nat → Option StubId
  stubCount : Nat
  createdFor : StubId → String
  removed : StubId → Bool
  destroyed : List (StubId × String)

namespace StubCollector

def opening : StubCollector := ⟨fun _ => none,fun _ => none,0,fun _ => "",fun _ => false,[]⟩

def stubConstructorRegister (ifDesc : String) (constructor : StubConstructor) (s : StubCollector) :
    StubCollector :=
  match s.constructorMap ifDesc with
  | some _ => s
  | none => {s with constructorMap := Function.update s.constructorMap ifDesc (some constructor)}

def stubConstructorUnregister (ifDesc : String) (s : StubCollector) : StubCollector :=
  {s with constructorMap := Function.update s.constructorMap ifDesc none}

/-- `constructs`: the constructor, when it is called, returns a new stub object. -/
def stubCollectorGetOrNewObject (ifDesc : String) (servPtr : Nat) (constructs : Bool)
    (s : StubCollector) : Option StubId × StubCollector :=
  match s.stubMap servPtr with
  | some stub => (some stub,s)
  | none =>
    match s.constructorMap ifDesc with
    | none => (none,s)
    | some constructor =>
      if constructor.constructor = false then (none,s)
      else if constructs = false then (none,s)
      else
        (some s.stubCount,{s with
          stubMap := Function.update s.stubMap servPtr (some s.stubCount)
          stubCount := s.stubCount + 1
          createdFor := Function.update s.createdFor s.stubCount ifDesc})

def stubCollectorRemoveObject (ifDesc : String) (servPtr : Nat) (s : StubCollector) :
    StubCollector :=
  match s.stubMap servPtr with
  | none => s
  | some stub =>
    let asked : StubCollector := {s with removed := Function.update s.removed stub true}
    match s.constructorMap ifDesc with
    | none => asked
    | some constructor =>
      {asked with
        stubMap := Function.update s.stubMap servPtr none
        destroyed := if constructor.destructor then s.destroyed ++ [(stub,ifDesc)] else s.destroyed}

/-- The calls, with null pointers as `none`. -/
inductive Call
  | register (ifDesc : Option String) (constructor : Option StubConstructor)
  | unregister (ifDesc : Option String) (constructor : Option StubConstructor)
  | getOrNew (ifDesc : Option String) (servPtr : Option Nat) (constructs : Bool)
  | remove (ifDesc : Option String) (servPtr : Option Nat)

def step (call : Call) (s : StubCollector) : Option StubId × StubCollector :=
  match call with
  | .register (some ifDesc) (some constructor) => (none,s.stubConstructorRegister ifDesc constructor)
  | .unregister (some ifDesc) (some _) => (none,s.stubConstructorUnregister ifDesc)
  | .getOrNew (some ifDesc) (some servPtr) constructs =>
    s.stubCollectorGetOrNewObject ifDesc servPtr constructs
  | .remove (some ifDesc) (some servPtr) => (none,s.stubCollectorRemoveObject ifDesc servPtr)
  | _ => (none,s)

/-- A pointer that has a stub is asked for under the descriptor of the stub, and a stub is
removed only while a constructor is registered for its descriptor. -/
def Matching (call : Call) (s : StubCollector) : Prop :=
  match call with
  | .getOrNew (some ifDesc) (some servPtr) _ =>
    ∀ stub, s.stubMap servPtr = some stub → s.createdFor stub = ifDesc
  | .remove (some ifDesc) (some servPtr) => ∀ stub, s.stubMap servPtr = some stub →
      s.createdFor stub = ifDesc ∧ s.constructorMap ifDesc ≠ none
  | _ => True

structure Sound (s : StubCollector) : Prop where
  mapped : ∀ servPtr stub, s.stubMap servPtr = some stub →
    stub < s.stubCount ∧ s.removed stub = false ∧ ∀ other, s.stubMap other = some stub → other = servPtr
  removed_lt : ∀ stub, s.removed stub = true → stub < s.stubCount
  destroyed : ∀ stub ifDesc, (stub,ifDesc) ∈ s.destroyed →
    s.removed stub = true ∧ s.createdFor stub = ifDesc
  once : (s.destroyed.map Prod.fst).Nodup

section Steps
variable (s : StubCollector) (sound : s.Sound)

include sound in
theorem sound_getOrNew (ifDesc : String) (servPtr : Nat) (constructs : Bool) :
    (s.stubCollectorGetOrNewObject ifDesc servPtr constructs).2.Sound := by
  unfold stubCollectorGetOrNewObject
  split
  next => exact sound
  next free =>
    split
    next => exact sound
    next constructor registered =>
      split_ifs
      · exact sound
      · exact sound
      refine ⟨fun p stub found => ?_,fun stub asked => ?_,fun stub desc gone => ?_,sound.once⟩
      all_goals dsimp only at *
      · rcases Keyed.update_cases found with ⟨rfl,now⟩ | ⟨_,before⟩
        · cases now
          refine ⟨Nat.lt_succ_self _,?_,fun other same => ?_⟩
          · by_contra asked
            rw [Bool.not_eq_false] at asked
            exact Nat.lt_irrefl _ (sound.removed_lt _ asked)
          · rcases Keyed.update_cases same with ⟨own,_⟩ | ⟨_,earlier⟩
            · exact own
            · exact absurd (sound.mapped other _ earlier).1 (Nat.lt_irrefl _)
        · obtain ⟨old,kept,only⟩ := sound.mapped p stub before
          refine ⟨Nat.lt_succ_of_lt old,kept,fun other same => ?_⟩
          rcases Keyed.update_cases same with ⟨_,now⟩ | ⟨_,earlier⟩
          · exact absurd (Option.some.inj now) (Nat.ne_of_gt old)
          · exact only other earlier
      · exact Nat.lt_succ_of_lt (sound.removed_lt stub asked)
      · obtain ⟨asked,made⟩ := sound.destroyed stub desc gone
        refine ⟨asked,?_⟩
        rw [Function.update_of_ne (Nat.ne_of_lt (sound.removed_lt stub asked))]
        exact made

include sound in
theorem sound_remove (ifDesc : String) (servPtr : Nat)
    (matching : ∀ stub, s.stubMap servPtr = some stub →
      s.createdFor stub = ifDesc ∧ s.constructorMap ifDesc ≠ none) :
    (s.stubCollectorRemoveObject ifDesc servPtr).Sound := by
  unfold stubCollectorRemoveObject
  split
  next => exact sound
  next stub here =>
    obtain ⟨made,registered⟩ := matching stub here
    obtain ⟨old,kept,only⟩ := sound.mapped servPtr stub here
    obtain ⟨constructor,found⟩ := Option.ne_none_iff_exists'.mp registered
    have fresh : ∀ desc, (stub,desc) ∉ s.destroyed := by
      intro desc gone
      have asked := (sound.destroyed stub desc gone).1
      rw [kept] at asked
      contradiction
    rw [found]
    refine ⟨fun p other there => ?_,fun other asked => ?_,fun other desc gone => ?_,?_⟩
    all_goals dsimp only at *
    · obtain ⟨apart,before⟩ := Keyed.erase_cases there
      obtain ⟨older,unasked,alone⟩ := sound.mapped p other before
      have differs : other ≠ stub := fun twin => apart (only p (twin ▸ before))
      refine ⟨older,?_,fun q found => alone q (Keyed.erase_cases found).2⟩
      rw [Function.update_of_ne differs]
      exact unasked
    · by_cases same : other = stub
      · subst other
        exact old
      · rw [Function.update_of_ne same] at asked
        exact sound.removed_lt other asked
    · have either : (other,desc) ∈ s.destroyed ∨ (other,desc) = (stub,ifDesc) := by
        split_ifs at gone
        · rcases List.mem_append.mp gone with earlier | last
          · exact .inl earlier
          · exact .inr (List.mem_singleton.mp last)
        · exact .inl gone
      rcases either with earlier | last
      · obtain ⟨asked,forDesc⟩ := sound.destroyed other desc earlier
        have differs : other ≠ stub := fun twin => fresh desc (twin ▸ earlier)
        rw [Function.update_of_ne differs]
        exact ⟨asked,forDesc⟩
      · cases last
        exact ⟨Function.update_self _ _ _,made⟩
    · split_ifs
      · rw [List.map_append,List.map_singleton,List.nodup_append]
        refine ⟨sound.once,List.nodup_singleton _,?_⟩
        rintro other earlier _ last rfl
        obtain ⟨⟨twin,desc⟩,gone,same⟩ := List.mem_map.mp earlier
        rw [List.mem_singleton] at last
        dsimp only at same last
        subst twin
        exact fresh desc (last ▸ gone)
      · exact sound.once

include sound in
theorem sound_step (call : Call) (matching : Matching call s) : (step call s).2.Sound := by
  cases call with
  | register ifDesc constructor =>
    cases ifDesc with
    | none => exact sound
    | some ifDesc =>
      cases constructor with
      | none => exact sound
      | some constructor =>
        unfold step stubConstructorRegister
        dsimp only
        split <;> exact ⟨sound.mapped,sound.removed_lt,sound.destroyed,sound.once⟩
  | unregister ifDesc constructor =>
    cases ifDesc with
    | none => exact sound
    | some ifDesc =>
      cases constructor with
      | none => exact sound
      | some constructor => exact ⟨sound.mapped,sound.removed_lt,sound.destroyed,sound.once⟩
  | getOrNew ifDesc servPtr constructs =>
    cases ifDesc with
    | none => exact sound
    | some ifDesc =>
      cases servPtr with
      | none => exact sound
      | some servPtr => exact sound_getOrNew s sound ifDesc servPtr constructs
  | remove ifDesc servPtr =>
    cases ifDesc with
    | none => exact sound
    | some ifDesc =>
      cases servPtr with
      | none => exact sound
      | some servPtr => exact sound_remove s sound ifDesc servPtr matching

end Steps

/-- Where descriptors and pointers match, a stub is returned only for the descriptor it was
created for and never after its removal, and is destroyed at most once, for its descriptor. -/
theorem stubs_returned_own (s : StubCollector)
    (reached : Machine.Reach step Matching opening s) :
    (∀ ifDesc servPtr constructs stub,
      Matching (.getOrNew (some ifDesc) (some servPtr) constructs) s →
        (step (.getOrNew (some ifDesc) (some servPtr) constructs) s).1 = some stub →
          (step (.getOrNew (some ifDesc) (some servPtr) constructs) s).2.createdFor stub = ifDesc ∧
            s.removed stub = false) ∧
      ∀ stub, (s.destroyed.map Prod.fst).count stub ≤ 1 ∧
        ∀ ifDesc, (stub,ifDesc) ∈ s.destroyed → s.createdFor stub = ifDesc := by
  have sound : s.Sound := by
    refine Machine.reach_invariant step Matching opening Sound ?_
      (fun call s sound matching => sound_step s sound call matching) s reached
    refine ⟨?_,?_,?_,List.nodup_nil⟩
    · intro servPtr stub found
      cases found
    · intro stub asked
      cases asked
    · intro stub ifDesc gone
      cases gone
  refine ⟨?_,fun stub => ⟨List.nodup_iff_count_le_one.mp sound.once stub,fun ifDesc gone =>
    (sound.destroyed stub ifDesc gone).2⟩⟩
  intro ifDesc servPtr constructs stub matching returned
  unfold step stubCollectorGetOrNewObject at returned ⊢
  dsimp only at returned ⊢
  cases here : s.stubMap servPtr with
  | some known =>
    rw [here] at returned
    obtain rfl : known = stub := Option.some.inj returned
    exact ⟨matching known here,(sound.mapped servPtr known here).2.1⟩
  | none =>
    rw [here] at returned
    dsimp only at returned ⊢
    cases registered : s.constructorMap ifDesc with
    | none =>
      rw [registered] at returned
      contradiction
    | some constructor =>
      rw [registered] at returned
      dsimp only at returned ⊢
      split_ifs at returned ⊢
      obtain rfl : s.stubCount = stub := Option.some.inj returned
      refine ⟨Function.update_self _ _ _,?_⟩
      by_contra asked
      rw [Bool.not_eq_false] at asked
      exact Nat.lt_irrefl _ (sound.removed_lt _ asked)

def after (calls : List Call) : StubCollector := (Machine.run step calls opening).2

theorem stubs_returned_own_again :
    let s := after [.register (some "a") (some ⟨true,true⟩),.getOrNew (some "a") (some 9) true,
      .remove (some "a") (some 9)]
    (step (.getOrNew (some "a") (some 9) true) s).1 = some 1 ∧ s.removed 1 = false ∧
      (s.destroyed.map Prod.fst).count 0 ≤ 1 ∧ s.destroyed = [(0,"a")] := by
  intro s
  have reached : Machine.Reach step Matching opening s := by
    refine .step _ (.step _ (.step _ .start trivial) ?_) ?_
    · intro stub found
      cases found
    · intro stub found
      obtain rfl : 0 = stub := Option.some.inj found
      exact ⟨rfl,by simp [step,stubConstructorRegister,stubCollectorGetOrNewObject,opening]⟩
  obtain ⟨returned,once⟩ := stubs_returned_own s reached
  refine ⟨rfl,(returned "a" 9 true 1 ?_ rfl).2,(once 0).1,rfl⟩
  intro stub found
  cases found

/-- The stub of descriptor a is returned for b, and destroyed by the destructor of b. -/
theorem stub_shared :
    let s := after [.register (some "a") (some ⟨true,true⟩),.register (some "b") (some ⟨true,true⟩),
      .getOrNew (some "a") (some 9) true]
    (step (.getOrNew (some "b") (some 9) true) s).1 = some 0 ∧ s.createdFor 0 = "a" ∧
      (step (.remove (some "b") (some 9)) s).2.destroyed = [(0,"b")] := by
  intro s
  exact ⟨rfl,rfl,rfl⟩

end StubCollector

end DriversAdapter.Hdi
