import DriversAdapter.Base.Word
import DriversAdapter.Semantics.Blocks
import DriversAdapter.Semantics.Machine

/-! The netif that a net device has with lwIP: made and registered when the device is added,
unregistered and freed when it is deleted. -/
namespace DriversAdapter.Net
open DriversAdapter.Base DriversAdapter.Semantics

abbrev NetifId := Nat

structure AddOutcomes where
  osalMemCalloc : Bool
  copyName : Bool
  netifapiNetifAdd : Bool
  copyFullName : Bool
  snprintf : Bool
  memcpy : Bool

/-- A name is that of the net device, if the device has one. -/
inductive LiteNetDevCall
  | add (netDevice : Option String) (out : AddOutcomes)
  | delete
  | deInit

/-- The private data of the device with its `lwipNetif`, and what lwIP has. Besides, the netifs that
were freed while lwIP had them. -/
structure LiteNetDev where
  osPrivate : Option (Option NetifId)
  netifs : Blocks
  registered : List NetifId
  early : List NetifId

namespace LiteNetDev

/-- As `LiteNetDevInit` leaves it. -/
def inited : LiteNetDev := ⟨some none,.empty,[],[]⟩

def stored (s : LiteNetDev) : Option NetifId := s.osPrivate.join

def osalMemFree (lwipNf : NetifId) (s : LiteNetDev) : LiteNetDev :=
  {s with
    netifs := s.netifs.free lwipNf
    early := if lwipNf ∈ s.registered then lwipNf :: s.early else s.early}

def netifapiNetifAdd (lwipNf : NetifId) (s : LiteNetDev) : LiteNetDev :=
  {s with registered := lwipNf :: s.registered}

def netifapiNetifRemove (lwipNf : NetifId) (s : LiteNetDev) : LiteNetDev :=
  {s with registered := s.registered.filter (· ≠ lwipNf)}

def isP2p (name : String) : Bool := name.toList.take 3 = ['p','2','p']

def addP2pNetDev (name : String) (out : AddOutcomes) : Int :=
  if isP2p name = true ∧ out.copyFullName = false then hdfFailure else hdfSuccess

section Lite
variable (loscfgNetLwipSack : Bool)

def createLwipNetIf (out : AddOutcomes) (s : LiteNetDev) : Option NetifId × LiteNetDev :=
  if out.osalMemCalloc = false then (none,s)
  else
    let lwipNf := s.netifs.count
    let s := {s with netifs := s.netifs.alloc}
    if loscfgNetLwipSack = true ∧ out.copyName = false then (none,s.osalMemFree lwipNf)
    else (some lwipNf,s)

def liteNetDevAdd (netDevice : Option String) (out : AddOutcomes) (s : LiteNetDev) :
    Int × LiteNetDev :=
  match s.osPrivate, netDevice with
  | some _, some name =>
    match s.createLwipNetIf loscfgNetLwipSack out with
    | (none,s) => (hdfFailure,s)
    | (some lwipNf,s) =>
      if out.netifapiNetifAdd = false then (hdfFailure,s.osalMemFree lwipNf)
      else
        let s := s.netifapiNetifAdd lwipNf
        if addP2pNetDev name out ≠ hdfSuccess then (hdfFailure,s.osalMemFree lwipNf)
        else if loscfgNetLwipSack = true ∧ out.snprintf = false then
          (hdfFailure,(s.netifapiNetifRemove lwipNf).osalMemFree lwipNf)
        else if out.memcpy = false then
          (hdfFailure,(s.netifapiNetifRemove lwipNf).osalMemFree lwipNf)
        else (hdfSuccess,{s with osPrivate := some (some lwipNf)})
  | _, _ => (hdfErrInvalidParam,s)

def liteNetDevDelete (s : LiteNetDev) : Int × LiteNetDev :=
  match s.osPrivate with
  | none => (hdfErrInvalidParam,s)
  | some none => (hdfSuccess,s)
  | some (some lwipNf) =>
    (hdfSuccess,{(s.netifapiNetifRemove lwipNf).osalMemFree lwipNf with osPrivate := some none})

def liteNetDevDeInit (s : LiteNetDev) : Int × LiteNetDev :=
  (hdfSuccess,{s with osPrivate := none})

def step : LiteNetDevCall → LiteNetDev → Int × LiteNetDev
  | .add netDevice out, s => s.liteNetDevAdd loscfgNetLwipSack netDevice out
  | .delete, s => s.liteNetDevDelete
  | .deInit, s => s.liteNetDevDeInit

end Lite

/-- lwIP has exactly the stored netif, which is live; each other netif was freed once, and not
before lwIP had given it up. -/
structure Clean (s : LiteNetDev) : Prop where
  registered : ∀ n, n ∈ s.registered ↔ s.stored = some n
  netifs : s.netifs.Settled (s.stored = some ·)
  unregistered : s.early = []

end LiteNetDev

open LiteNetDev

/-- The netif is allocated, named and taken by lwIP. -/
def AddOutcomes.Registers (loscfgNetLwipSack : Bool) (out : AddOutcomes) : Prop :=
  out.osalMemCalloc = true ∧ (loscfgNetLwipSack = true → out.copyName = true) ∧
    out.netifapiNetifAdd = true

/-- Of a device that is added, a registered netif gets its full name, and a netif that gets all it
needs is the only one. A device that is torn down has none. -/
def LiteNetDevCall.Meets (loscfgNetLwipSack : Bool) (call : LiteNetDevCall) (s : LiteNetDev) :
    Prop :=
  match call with
  | .add (some name) out => s.osPrivate.isSome → out.Registers loscfgNetLwipSack →
    (isP2p name = true → out.copyFullName = true) ∧
      ((loscfgNetLwipSack = true → out.snprintf = true) → out.memcpy = true → s.stored = none)
  | .deInit => s.stored = none
  | _ => True

section Step
variable {loscfgNetLwipSack : Bool} {s : LiteNetDev}

theorem inited_clean : inited.Clean := by
  have nothing : ∀ n, False ↔ inited.stored = some n := by simp [inited,stored]
  exact ⟨by simp [inited,stored],(Blocks.settled_congr nothing).mp Blocks.settled_empty,rfl⟩

theorem new_netif (clean : s.Clean) : s.netifs.count ∉ s.registered := by
  intro inside
  exact absurd (clean.netifs.live _ ((clean.registered _).mp inside)).1 (Nat.lt_irrefl _)

/-- A netif that lwIP does not have, or no more, is given back. -/
theorem clean_freed (clean : s.Clean) :
    (osalMemFree s.netifs.count {s with netifs := s.netifs.alloc}).Clean := by
  refine ⟨clean.registered,clean.netifs.alloc_free,?_⟩
  simp [osalMemFree,new_netif clean,clean.unregistered]

theorem clean_removed (clean : s.Clean) :
    (osalMemFree s.netifs.count (netifapiNetifRemove s.netifs.count
      (netifapiNetifAdd s.netifs.count {s with netifs := s.netifs.alloc}))).Clean := by
  have same : (s.netifs.count :: s.registered).filter (· ≠ s.netifs.count) = s.registered := by
    simp only [ne_eq,decide_not,List.filter_cons,decide_true,Bool.not_true,Bool.false_eq_true,
      if_false]
    apply List.filter_eq_self.mpr
    intro n inside
    have other : n ≠ s.netifs.count := by
      rintro rfl
      exact new_netif clean inside
    simp [other]
  simp only [netifapiNetifRemove,netifapiNetifAdd,same]
  exact clean_freed clean

/-- Freed while lwIP has it. -/
theorem not_clean_registered :
    ¬ (osalMemFree s.netifs.count
      (netifapiNetifAdd s.netifs.count {s with netifs := s.netifs.alloc})).Clean := by
  intro clean
  have early := clean.unregistered
  simp [osalMemFree,netifapiNetifAdd] at early

theorem clean_stored_iff (clean : s.Clean) :
    Clean {netifapiNetifAdd s.netifs.count {s with netifs := s.netifs.alloc} with
      osPrivate := some (some s.netifs.count)} ↔ s.stored = none := by
  constructor
  · intro after
    cases kept : s.stored with
    | none => rfl
    | some lwipNf =>
      have inside : lwipNf ∈ s.registered := (clean.registered lwipNf).mpr kept
      have only := (after.registered lwipNf).mp (List.mem_cons_of_mem _ inside)
      have same : s.netifs.count = lwipNf := by simpa [stored] using only
      exact absurd (same ▸ inside) (new_netif clean)
  · intro nothing
    have nobody : ∀ n, n ∉ s.registered := by simp [clean.registered,nothing]
    have held : ∀ n, s.stored = some n ∨ n = s.netifs.count ↔ some s.netifs.count = some n := by
      intro n
      simp only [nothing,reduceCtorEq,false_or,Option.some.injEq]
      exact eq_comm
    refine ⟨fun n => ?_,(Blocks.settled_congr held).mp clean.netifs.alloc,clean.unregistered⟩
    simp [netifapiNetifAdd,stored,nobody,eq_comm]

theorem addP2pNetDev_iff (name : String) (out : AddOutcomes) :
    addP2pNetDev name out = hdfSuccess ↔ (isP2p name = true → out.copyFullName = true) := by
  have failed : hdfFailure ≠ hdfSuccess := by decide
  unfold addP2pNetDev
  cases isP2p name <;> cases out.copyFullName <;> simp [failed]

theorem clean_add_iff (clean : s.Clean) (netDevice : Option String) (out : AddOutcomes) :
    (s.liteNetDevAdd loscfgNetLwipSack netDevice out).2.Clean ↔
      (LiteNetDevCall.add netDevice out).Meets loscfgNetLwipSack s := by
  unfold liteNetDevAdd LiteNetDevCall.Meets
  cases kept : s.osPrivate with
  | none => cases netDevice <;> simp [clean]
  | some lwipNetif =>
    cases netDevice with
    | none => simp [clean]
    | some name =>
      simp only [createLwipNetIf,← addP2pNetDev_iff,Option.isSome_some,forall_const]
      cases calloc : out.osalMemCalloc with
      | false => simp [AddOutcomes.Registers,calloc,clean]
      | true =>
      by_cases unnamed : loscfgNetLwipSack = true ∧ out.copyName = false
      · simp [AddOutcomes.Registers,unnamed,clean_freed clean]
      · rw [if_neg (by decide),if_neg unnamed]
        dsimp only
        split
        next refused =>
          refine iff_of_true (clean_freed clean) ?_
          simp [AddOutcomes.Registers,refused]
        next taken =>
          have registers : out.Registers loscfgNetLwipSack :=
            ⟨calloc,by simpa using unnamed,by simpa using taken⟩
          simp only [registers,forall_const]
          split
          next nameless => exact iff_of_false not_clean_registered fun meets => nameless meets.1
          next given =>
            rw [not_not.mp given]
            split
            next unprinted => exact iff_of_true (clean_removed clean) (by simp [unprinted])
            next printed =>
              split
              next unset => exact iff_of_true (clean_removed clean) (by simp [unset])
              next set =>
                have renamed : loscfgNetLwipSack = true → out.snprintf = true := by
                  simpa using printed
                have copied : out.memcpy = true := by simpa using set
                refine (clean_stored_iff clean).trans ⟨fun nothing => ?_,fun meets => ?_⟩
                · exact ⟨rfl,fun _ _ => nothing⟩
                · exact meets.2 renamed copied

theorem clean_delete (clean : s.Clean) : s.liteNetDevDelete.2.Clean := by
  unfold liteNetDevDelete
  split
  · exact clean
  · exact clean
  next lwipNf kept =>
    have mine : s.stored = some lwipNf := by simp [stored,kept]
    refine ⟨fun n => ?_,?_,?_⟩
    · have nothing : ∀ n, n ∈ s.registered → n = lwipNf := by
        simp [clean.registered,mine,eq_comm]
      simpa [osalMemFree,netifapiNetifRemove,stored] using nothing n
    · have held : ∀ n, s.stored = some n ∧ n ≠ lwipNf ↔ (none : Option NetifId) = some n := by
        intro n
        simp only [mine,Option.some.injEq,reduceCtorEq,iff_false,not_and,not_not]
        exact Eq.symm
      exact (Blocks.settled_congr held).mp (clean.netifs.free mine)
    · simp [osalMemFree,netifapiNetifRemove,clean.unregistered]

theorem clean_deInit_iff (clean : s.Clean) : s.liteNetDevDeInit.2.Clean ↔ s.stored = none := by
  constructor
  · intro after
    cases kept : s.stored with
    | none => rfl
    | some lwipNf =>
      have inside := (clean.registered lwipNf).mpr kept
      have absent := (after.registered lwipNf).mp inside
      simp [liteNetDevDeInit,stored] at absent
  · intro nothing
    have same : s.liteNetDevDeInit.2.stored = s.stored := nothing.symm
    refine ⟨fun n => ?_,?_,clean.unregistered⟩
    · rw [same]
      exact clean.registered n
    · rw [same]
      exact clean.netifs

theorem clean_step_iff (clean : s.Clean) (call : LiteNetDevCall) :
    (step loscfgNetLwipSack call s).2.Clean ↔ call.Meets loscfgNetLwipSack s := by
  cases call with
  | add netDevice out => exact clean_add_iff clean netDevice out
  | delete => exact iff_of_true (clean_delete clean) trivial
  | deInit => exact clean_deInit_iff clean

end Step

/-- In a run on one device lwIP has exactly the stored netif, and all others are freed once and
after that, exactly where every call meets the condition. -/
theorem netif_clean_iff (loscfgNetLwipSack : Bool) (calls : List LiteNetDevCall) :
    (∀ k, (Machine.run (step loscfgNetLwipSack) (calls.take k) inited).2.Clean) ↔
      Machine.MeetsAll (step loscfgNetLwipSack) (LiteNetDevCall.Meets loscfgNetLwipSack) calls
        inited :=
  Machine.run_always_iff _ _ Clean (fun call _ clean => clean_step_iff clean call) calls _
    inited_clean

private def granted : AddOutcomes := ⟨true,true,true,true,true,true⟩

private def addEth : LiteNetDevCall := .add (some "eth0") granted

/-- Added twice and deleted, the device has no netif, and lwIP one that nothing names any more; torn
down without being deleted, it leaves its netif with lwIP too. -/
theorem netif_not_clean :
    let twice := Machine.run (step false) [addEth,addEth,.delete] inited
    let undeleted := Machine.run (step false) [addEth,.deInit] inited
    twice.1 = [hdfSuccess,hdfSuccess,hdfSuccess] ∧ twice.2.registered = [0] ∧
      twice.2.stored = none ∧ ¬ twice.2.Clean ∧
      undeleted.1 = [hdfSuccess,hdfSuccess] ∧ undeleted.2.registered = [0] ∧
      undeleted.2.stored = none ∧ ¬ undeleted.2.Clean := by
  refine ⟨rfl,rfl,rfl,fun clean => ?_,rfl,rfl,rfl,fun clean => ?_⟩
  · have stored := (clean.registered 0).mp List.mem_cons_self
    contradiction
  · have stored := (clean.registered 0).mp List.mem_cons_self
    contradiction

end DriversAdapter.Net
