import DriversAdapter.Base.Word
import DriversAdapter.Semantics.Machine

/-! The list of MTD devices that the older interfaces look up by name. A node counts in its
status who has got it and not freed it. -/
namespace DriversAdapter.Storage
open DriversAdapter.Base DriversAdapter.Semantics

/-- `gets` is not in the code: the successful `GetMtd` calls that no `FreeMtd` has matched. -/
structure MtdDevNode (δ : Type) where
  type : String
  status : Int32
  mtdDev : δ
  gets : Nat

/-- The nodes after the head, and those that were unlinked and freed, as they were then. -/
structure MtdList (δ : Type) where
  nodes : List (MtdDevNode δ)
  freed : List (MtdDevNode δ)

inductive MtdDevType
  | nand
  | spiNand
  | nor
  | spiNor
  | other (type : UInt32)

def mtdCharGetName : MtdDevType → Option String
  | .spiNor => some "spinor"
  | .spiNand => some "nand"
  | .nand | .nor | .other _ => none

inductive MtdListCall (δ : Type)
  | addMtdList (type : Option String) (mtdDev : Option δ) (allocated : Bool)
  | getMtd (type : Option String)
  | getMtdInfo (type : Option String)
  | freeMtd (mtdDev : Option δ)
  | delMtdList (mtdDev : Option δ)
  | osInit (mtdDevice : Option MtdDevType) (mtdDev : Option δ) (allocated : Bool)
  | osUninit (mtdDevice : Option MtdDevType) (osData : Option δ)

inductive MtdListReply (δ : Type)
  | none
  | found (mtdDev : Option δ)
  | ret (ret : Int)

variable {δ : Type} [DecidableEq δ]

namespace MtdDevNode

def get (p : MtdDevNode δ) : MtdDevNode δ := {p with status := p.status + 1,gets := p.gets + 1}

/-- A `FreeMtd` matches one of the calls that are left, if any is. -/
def free (p : MtdDevNode δ) : MtdDevNode δ := {p with status := p.status - 1,gets := p.gets - 1}

def Counted (p : MtdDevNode δ) : Prop := p.status.toInt = p.gets

end MtdDevNode

/-- The walk of every operation: what it does to the first element that it looks for. -/
def atFirst {α : Type} (found : α → Bool) (change : α → List α) : List α → List α
  | [] => []
  | p::rest => if found p then change p ++ rest else p :: atFirst found change rest

namespace MtdList

def typed (type : String) (p : MtdDevNode δ) : Bool := p.type == type

def ofDev (mtdDev : δ) (p : MtdDevNode δ) : Bool := p.mtdDev == mtdDev

def getMtd (type : Option String) (s : MtdList δ) : Option δ × MtdList δ :=
  match type with
  | none => (none,s)
  | some type => ((s.nodes.find? (typed type)).map MtdDevNode.mtdDev,
      {s with nodes := atFirst (typed type) (fun p => [p.get]) s.nodes})

def getMtdInfo (type : Option String) (s : MtdList δ) : Int :=
  match type with
  | none => -1
  | some type => if s.nodes.any (typed type) then 0 else -1

def freeMtd (mtdDev : Option δ) (s : MtdList δ) : Int × MtdList δ :=
  match mtdDev with
  | none => (-1,s)
  | some mtdDev => (if s.nodes.any (ofDev mtdDev) then 0 else -1,
      {s with nodes := atFirst (ofDev mtdDev) (fun p => [p.free]) s.nodes})

def delMtdList (mtdDev : Option δ) (s : MtdList δ) : Int × MtdList δ :=
  match mtdDev with
  | none => (-1,s)
  | some mtdDev => match s.nodes.find? (ofDev mtdDev) with
    | none => (-1,s)
    | some p => if p.status = 0 then
        (0,{nodes := atFirst (ofDev mtdDev) (fun _ => []) s.nodes,freed := p :: s.freed})
      else (-1,s)

def addMtdList (type : Option String) (mtdDev : Option δ) (allocated : Bool) (s : MtdList δ) :
    MtdList δ :=
  match type,mtdDev with
  | some type,some mtdDev =>
    if allocated then {s with nodes := ⟨type,0,mtdDev,0⟩ :: s.nodes} else s
  | _,_ => s

def mtdCharOsInit (mtdDevice : Option MtdDevType) (mtdDev : Option δ) (allocated : Bool)
    (s : MtdList δ) : Int × MtdList δ :=
  match mtdDevice with
  | none => (hdfErrInvalidObject,s)
  | some type => match mtdCharGetName type with
    | none => (hdfFailure,s)
    | some devName =>
      if s.getMtdInfo (some devName) = 0 then (hdfErrNotSupport,s)
      else match mtdDev with
      | none => (hdfErrIo,s)
      | some mtdDev => (hdfSuccess,s.addMtdList (some devName) (some mtdDev) allocated)

/-- It does not look at what the removal answers. -/
def mtdCharOsUninit (mtdDevice : Option MtdDevType) (osData : Option δ) (s : MtdList δ) :
    MtdList δ :=
  match mtdDevice.bind mtdCharGetName with
  | none => s
  | some _ => (s.delMtdList osData).2

def step (call : MtdListCall δ) (s : MtdList δ) : MtdListReply δ × MtdList δ :=
  match call with
  | .addMtdList type mtdDev allocated => (.none,s.addMtdList type mtdDev allocated)
  | .getMtd type => (.found (s.getMtd type).1,(s.getMtd type).2)
  | .getMtdInfo type => (.ret (s.getMtdInfo type),s)
  | .freeMtd mtdDev => (.ret (s.freeMtd mtdDev).1,(s.freeMtd mtdDev).2)
  | .delMtdList mtdDev => (.ret (s.delMtdList mtdDev).1,(s.delMtdList mtdDev).2)
  | .osInit mtdDevice mtdDev allocated =>
    (.ret (s.mtdCharOsInit mtdDevice mtdDev allocated).1,
      (s.mtdCharOsInit mtdDevice mtdDev allocated).2)
  | .osUninit mtdDevice osData => (.none,s.mtdCharOsUninit mtdDevice osData)

def empty : MtdList δ := ⟨[],[]⟩

/-- Every node's status is the number of its gets, and none was freed that had some left. -/
structure Balanced (s : MtdList δ) : Prop where
  counted : ∀ p ∈ s.nodes, p.Counted
  unused : ∀ p ∈ s.freed, p.gets = 0

/-- A node that is freed has been got, and one that is got can be counted. -/
def Matched (call : MtdListCall δ) (s : MtdList δ) : Prop :=
  match call with
  | .getMtd (some type) => ∀ p, s.nodes.find? (typed type) = some p → p.gets < 2^31 - 1
  | .freeMtd (some mtdDev) => ∀ p, s.nodes.find? (ofDev mtdDev) = some p → 0 < p.gets
  | _ => True

section Walk
variable {α : Type} {found : α → Bool} {change : α → List α} {P : α → Prop} {l : List α}

/-- A walk keeps what all elements have exactly where its change does. -/
theorem atFirst_forall_iff (all : ∀ p ∈ l, P p) : (∀ p ∈ atFirst found change l, P p) ↔
    ∀ p, l.find? found = some p → ∀ q ∈ change p, P q := by
  induction l with
  | nil =>
    unfold atFirst
    exact ⟨fun _ p absent => (nomatch absent),fun _ p absent => (nomatch absent)⟩
  | cons p rest ih =>
    have first := all p List.mem_cons_self
    have later : ∀ q ∈ rest, P q := fun q mem => all q (List.mem_cons_of_mem p mem)
    unfold atFirst
    cases here : found p with
    | true =>
      rw [if_pos rfl,List.find?_cons_of_pos here]
      constructor
      · intro every q same r mem
        rw [← Option.some.inj same] at mem
        exact every r (List.mem_append_left rest mem)
      · intro fine q mem
        rcases List.mem_append.mp mem with changed | kept
        · exact fine p rfl q changed
        · exact later q kept
    | false =>
      rw [if_neg Bool.false_ne_true,List.find?_cons_of_neg (by simp [here]),← ih later]
      constructor
      · exact fun every q mem => every q (List.mem_cons_of_mem p mem)
      · intro every q mem
        rcases List.mem_cons.mp mem with rfl | kept
        · exact first
        · exact every q kept

end Walk

section Count
variable {p : MtdDevNode δ} (counted : p.Counted)

omit [DecidableEq δ] in
include counted in
theorem get_counted_iff : p.get.Counted ↔ p.gets < 2^31 - 1 := by
  have status : p.status.toInt = p.gets := counted
  have high := p.status.toInt_lt
  have one : (1 : Int32).toInt = 1 := by decide
  unfold MtdDevNode.Counted MtdDevNode.get
  rw [Int32.toInt_add,status,one,Int.bmod_def]
  dsimp only
  split <;> omega

omit [DecidableEq δ] in
include counted in
theorem free_counted_iff : p.free.Counted ↔ 0 < p.gets := by
  have status : p.status.toInt = p.gets := counted
  have high := p.status.toInt_lt
  have one : (1 : Int32).toInt = 1 := by decide
  unfold MtdDevNode.Counted MtdDevNode.free
  rw [Int32.toInt_sub,status,one,Int.bmod_def]
  dsimp only
  split <;> omega

omit [DecidableEq δ] in
include counted in
theorem gets_of_status_zero (idle : p.status = 0) : p.gets = 0 := by
  have status : p.status.toInt = p.gets := counted
  rw [idle] at status
  exact Int.ofNat_inj.mp status.symm

end Count

section Step
variable {s : MtdList δ} (balanced : s.Balanced)

omit [DecidableEq δ] in
include balanced in
theorem addMtdList_balanced (type : Option String) (mtdDev : Option δ) (allocated : Bool) :
    (s.addMtdList type mtdDev allocated).Balanced := by
  unfold addMtdList
  split
  next type mtdDev =>
    split_ifs
    · refine ⟨fun p mem => ?_,balanced.unused⟩
      rcases List.mem_cons.mp mem with rfl | old
      · exact Int32.toInt_zero
      · exact balanced.counted p old
    · exact balanced
  next => exact balanced

omit [DecidableEq δ] in
include balanced in
theorem recount_balanced_iff (found : MtdDevNode δ → Bool)
    (recount : MtdDevNode δ → MtdDevNode δ) (ready : MtdDevNode δ → Prop)
    (kept : ∀ p : MtdDevNode δ, p.Counted → ((recount p).Counted ↔ ready p)) :
    ({s with nodes := atFirst found (fun p => [recount p]) s.nodes} : MtdList δ).Balanced ↔
      ∀ p, s.nodes.find? found = some p → ready p := by
  have walked : (∀ p ∈ atFirst found (fun p => [recount p]) s.nodes, p.Counted) ↔
      ∀ p, s.nodes.find? found = some p → ∀ q ∈ [recount p], q.Counted :=
    atFirst_forall_iff balanced.counted
  have one : ∀ p, s.nodes.find? found = some p →
      ((∀ q ∈ [recount p], q.Counted) ↔ ready p) := by
    intro p first
    rw [List.forall_mem_singleton]
    exact kept p (balanced.counted p (List.mem_of_find?_eq_some first))
  constructor
  · intro after p first
    exact (one p first).mp (walked.mp after.counted p first)
  · intro fine
    refine ⟨walked.mpr fun p first => (one p first).mpr (fine p first),balanced.unused⟩

include balanced in
theorem getMtd_balanced_iff (type : Option String) :
    (s.getMtd type).2.Balanced ↔ Matched (.getMtd type) s := by
  cases type with
  | none => exact ⟨fun _ => trivial,fun _ => balanced⟩
  | some type => exact recount_balanced_iff balanced (typed type) _ _ fun _ => get_counted_iff

include balanced in
theorem freeMtd_balanced_iff (mtdDev : Option δ) :
    (s.freeMtd mtdDev).2.Balanced ↔ Matched (.freeMtd mtdDev) s := by
  cases mtdDev with
  | none => exact ⟨fun _ => trivial,fun _ => balanced⟩
  | some mtdDev => exact recount_balanced_iff balanced (ofDev mtdDev) _ _ fun _ => free_counted_iff

include balanced in
/-- A removal can leave its node in use, but it frees none that is. -/
theorem delMtdList_balanced (mtdDev : Option δ) : (s.delMtdList mtdDev).2.Balanced := by
  unfold delMtdList
  cases mtdDev with
  | none => exact balanced
  | some mtdDev =>
    cases first : s.nodes.find? (ofDev mtdDev) with
    | none =>
      simp only [first]
      exact balanced
    | some p =>
      by_cases idle : p.status = 0
      · have counted := balanced.counted p (List.mem_of_find?_eq_some first)
        simp only [first,idle,if_true]
        refine ⟨?_,fun q mem => ?_⟩
        · apply (atFirst_forall_iff balanced.counted).mpr
          intro q _ r none
          exact absurd none List.not_mem_nil
        · rcases List.mem_cons.mp mem with rfl | old
          · exact gets_of_status_zero counted idle
          · exact balanced.unused q old
      · simp only [first,idle,if_false]
        exact balanced

omit [DecidableEq δ] in
include balanced in
theorem mtdCharOsInit_balanced (mtdDevice : Option MtdDevType) (mtdDev : Option δ)
    (allocated : Bool) : (s.mtdCharOsInit mtdDevice mtdDev allocated).2.Balanced := by
  unfold mtdCharOsInit
  split
  next => exact balanced
  next type =>
    split
    next => exact balanced
    next devName _ =>
      split_ifs
      · exact balanced
      · split
        next => exact balanced
        next mtdDev => exact addMtdList_balanced balanced (some devName) (some mtdDev) allocated

include balanced in
theorem mtdCharOsUninit_balanced (mtdDevice : Option MtdDevType) (osData : Option δ) :
    (s.mtdCharOsUninit mtdDevice osData).Balanced := by
  unfold mtdCharOsUninit
  split
  · exact balanced
  · exact delMtdList_balanced balanced osData

include balanced in
theorem step_balanced_iff (call : MtdListCall δ) :
    (s.step call).2.Balanced ↔ Matched call s := by
  cases call with
  | addMtdList type mtdDev allocated =>
    exact ⟨fun _ => trivial,fun _ => addMtdList_balanced balanced type mtdDev allocated⟩
  | getMtd type => exact getMtd_balanced_iff balanced type
  | getMtdInfo type => exact ⟨fun _ => trivial,fun _ => balanced⟩
  | freeMtd mtdDev => exact freeMtd_balanced_iff balanced mtdDev
  | delMtdList mtdDev => exact ⟨fun _ => trivial,fun _ => delMtdList_balanced balanced mtdDev⟩
  | osInit mtdDevice mtdDev allocated =>
    exact ⟨fun _ => trivial,fun _ => mtdCharOsInit_balanced balanced mtdDevice mtdDev allocated⟩
  | osUninit mtdDevice osData =>
    exact ⟨fun _ => trivial,fun _ => mtdCharOsUninit_balanced balanced mtdDevice osData⟩

end Step

/-- A run whose frees all match a get keeps the balance, and no other call would. -/
theorem mtdList_balanced_iff (s : MtdList δ) (reached : Machine.Reach step Matched .empty s) :
    s.Balanced ∧ ∀ call, (s.step call).2.Balanced ↔ Matched call s := by
  have balanced : s.Balanced := by
    apply Machine.reach_invariant step Matched .empty Balanced _ _ s reached
    · exact ⟨fun p none => (nomatch none),fun p none => (nomatch none)⟩
    · exact fun call t before matched => (step_balanced_iff before call).mpr matched
  exact ⟨balanced,fun call => step_balanced_iff balanced call⟩

private def gotAndFreed : List (MtdListCall Nat) :=
  [.osInit (some .spiNor) (some 1) true,.getMtd (some "spinor"),.freeMtd (some 1),
    .osUninit (some .spiNor) (some 1)]

theorem mtdList_balanced_freed :
    (Machine.run step gotAndFreed .empty).2.freed.length = 1 ∧
      (Machine.run step gotAndFreed .empty).2.Balanced := by
  refine ⟨rfl,(mtdList_balanced_iff _ (Machine.reach_run step Matched .empty gotAndFreed _ .start
    ⟨trivial,?_,?_,trivial,trivial⟩)).1⟩
  · rintro p ⟨⟩
    decide
  · rintro p ⟨⟩
    decide

/-- A free that matches nothing; the next get then seems to be nobody's. -/
private def freedTooOften : List (MtdListCall Nat) :=
  [.osInit (some .spiNor) (some 1) true,.freeMtd (some 1),.getMtd (some "spinor"),
    .osUninit (some .spiNor) (some 1)]

theorem mtdList_unbalanced :
    (Machine.run step (freedTooOften.take 2) .empty).2.nodes = [⟨"spinor",-1,1,0⟩] ∧
      ¬ (Machine.run step (freedTooOften.take 2) .empty).2.Balanced ∧
      (Machine.run step freedTooOften .empty).2.freed = [⟨"spinor",0,1,1⟩] := by
  refine ⟨rfl,fun balanced => ?_,rfl⟩
  have counted : (-1 : Int32).toInt = (0 : Nat) :=
    balanced.counted ⟨"spinor",-1,1,0⟩ List.mem_cons_self
  exact absurd counted (by decide)

end MtdList

end DriversAdapter.Storage
