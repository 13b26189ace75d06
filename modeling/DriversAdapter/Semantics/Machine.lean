import Mathlib.Logic.Basic

/-! Deterministic machines that answer requests: runs over lists of requests, the states
a run can reach, and the simulation rule that carries one step over to whole runs. -/
namespace DriversAdapter.Semantics.Machine

variable {C R S C' R' S' : Type}

def run (step : C → S → R × S) : List C → S → List R × S
  | [], s => ([],s)
  | c::rest, s =>
    let first := step c s
    let later := run step rest first.2
    (first.1::later.1,later.2)

theorem run_append (step : C → S → R × S) (first later : List C) (s : S) :
    (run step (first ++ later) s).2 = (run step later (run step first s).2).2 := by
  induction first generalizing s with
  | nil => rfl
  | cons c rest ih => exact ih _

theorem run_answers_append (step : C → S → R × S) (first later : List C) (s : S) :
    (run step (first ++ later) s).1 =
      (run step first s).1 ++ (run step later (run step first s).2).1 := by
  induction first generalizing s with
  | nil => rfl
  | cons c rest ih => exact congrArg (List.cons (step c s).1) (ih _)

/-- The states reached from `start` by requests that meet a condition where they are made. -/
inductive Reach (step : C → S → R × S) (meets : C → S → Prop) (start : S) : S → Prop
  | start : Reach step meets start start
  | step {s} (c : C) : Reach step meets start s → meets c s → Reach step meets start (step c s).2

/-- What one step preserves holds in every reachable state. -/
theorem reach_invariant (step : C → S → R × S) (meets : C → S → Prop) (start : S)
    (holds : S → Prop) (initial : holds start)
    (preserved : ∀ c s, holds s → meets c s → holds (step c s).2)
    (s : S) (reached : Reach step meets start s) : holds s := by
  induction reached with
  | start => exact initial
  | step c _ ok ih => exact preserved c _ ih ok

theorem run_invariant (step : C → S → R × S) (holds : S → Prop)
    (preserved : ∀ c s, holds s → holds (step c s).2) (requests : List C) (s : S)
    (initial : holds s) : holds (run step requests s).2 := by
  induction requests generalizing s with
  | nil => exact initial
  | cons c rest ih => exact ih _ (preserved c s initial)

/-- Machines whose single steps agree on related states agree on every run. -/
theorem run_refines (step : C → S → R × S) (spec : C' → S' → R' × S')
    (request : C → C') (observe : C → R → R') (related : S → S' → Prop)
    (simulated : ∀ c s t, related s t →
      observe c (step c s).1 = (spec (request c) t).1 ∧
        related (step c s).2 (spec (request c) t).2)
    (requests : List C) (s : S) (t : S') (initially : related s t) :
    List.zipWith observe requests (run step requests s).1 =
        (run spec (requests.map request) t).1 ∧
      related (run step requests s).2 (run spec (requests.map request) t).2 := by
  induction requests generalizing s t with
  | nil => exact ⟨rfl,initially⟩
  | cons c rest ih =>
    obtain ⟨answer,next⟩ := simulated c s t initially
    obtain ⟨answers,final⟩ := ih _ _ next
    refine ⟨?_,final⟩
    simp only [run,List.map_cons,List.zipWith_cons_cons,answer,answers]

/-- Each of these requests meets the condition where a run from this state makes it. -/
def MeetsAll (step : C → S → R × S) (meets : C → S → Prop) : List C → S → Prop
  | [], _ => True
  | c::rest, s => meets c s ∧ MeetsAll step meets rest (step c s).2

theorem meetsAll_append (step : C → S → R × S) (meets : C → S → Prop) (first later : List C) (s : S) :
    MeetsAll step meets (first ++ later) s ↔
      MeetsAll step meets first s ∧ MeetsAll step meets later (run step first s).2 := by
  induction first generalizing s with
  | nil => exact ⟨fun met => ⟨trivial,met⟩,fun met => met.2⟩
  | cons c rest ih =>
    have rest_iff := ih (step c s).2
    exact ⟨fun met => ⟨⟨met.1,(rest_iff.mp met.2).1⟩,(rest_iff.mp met.2).2⟩,
      fun met => ⟨met.1.1,rest_iff.mpr ⟨met.1.2,met.2⟩⟩⟩

theorem reach_run (step : C → S → R × S) (meets : C → S → Prop) (start : S) (requests : List C)
    (s : S) (before : Reach step meets start s) (met : MeetsAll step meets requests s) :
    Reach step meets start (run step requests s).2 := by
  induction requests generalizing s with
  | nil => exact before
  | cons c rest ih => exact ih _ (.step c before met.1) met.2

/-- A simulation whose single steps need a condition on the requests. -/
theorem run_simulates (step : C → S → R × S) (spec : C → S' → R' × S') (meets : C → S' → Prop)
    (reply : R' → R) (related : S → S' → Prop)
    (simulated : ∀ c s t, related s t → meets c t →
      (step c s).1 = reply (spec c t).1 ∧ related (step c s).2 (spec c t).2)
    (requests : List C) (s : S) (t : S') (initially : related s t)
    (met : MeetsAll spec meets requests t) :
    (run step requests s).1 = (run spec requests t).1.map reply ∧
      related (run step requests s).2 (run spec requests t).2 := by
  induction requests generalizing s t with
  | nil => exact ⟨rfl,initially⟩
  | cons c rest ih =>
    obtain ⟨now,later⟩ := met
    obtain ⟨answer,next⟩ := simulated c s t initially now
    obtain ⟨answers,final⟩ := ih _ _ next later
    refine ⟨?_,final⟩
    simp only [run,List.map_cons,answer,answers]

theorem meetsAll_iff (step : C → S → R × S) (meets : C → S → Prop) (requests : List C) (s : S) :
    MeetsAll step meets requests s ↔
      ∀ k c, requests[k]? = some c → meets c (run step (requests.take k) s).2 := by
  induction requests generalizing s with
  | nil => exact iff_of_true trivial fun k c none => nomatch none
  | cons first rest ih =>
    constructor
    · rintro ⟨now,later⟩ k c here
      cases k with
      | zero => exact Option.some.inj here ▸ now
      | succ k => exact (ih _).mp later k c here
    · intro all
      exact ⟨all 0 first rfl,(ih _).mpr fun k c here => all (k + 1) c here⟩

/-- What a step keeps on just some requests holds all along just the runs of those. -/
theorem run_always_iff (step : C → S → R × S) (meets : C → S → Prop) (holds : S → Prop)
    (kept : ∀ c s, holds s → (holds (step c s).2 ↔ meets c s)) (requests : List C) (s : S)
    (initially : holds s) :
    (∀ k, holds (run step (requests.take k) s).2) ↔ MeetsAll step meets requests s := by
  induction requests generalizing s with
  | nil =>
    refine iff_of_true (fun k => ?_) trivial
    rw [List.take_nil]
    exact initially
  | cons c rest ih =>
    constructor
    · intro always
      have next : holds (step c s).2 := always 1
      exact ⟨(kept c s initially).mp next,(ih _ next).mp fun k => always (k + 1)⟩
    · rintro ⟨now,later⟩ k
      cases k with
      | zero => exact initially
      | succ k => exact (ih _ ((kept c s initially).mpr now)).mpr later k

theorem run_always_mem_iff (step : C → S → R × S) (meets : C → Prop) (holds : S → Prop)
    (kept : ∀ c s, holds s → (holds (step c s).2 ↔ meets c)) (requests : List C) (s : S)
    (initially : holds s) :
    (∀ k, holds (run step (requests.take k) s).2) ↔ ∀ c ∈ requests, meets c := by
  rw [run_always_iff step (fun c _ => meets c) holds kept requests s initially,meetsAll_iff]
  constructor
  · intro all c member
    obtain ⟨k,here⟩ := List.mem_iff_getElem?.mp member
    exact all k c here
  · intro all k c here
    exact all c (List.mem_of_getElem? here)

/-- The same for a property of the states and one of the steps together, beside an invariant that is
kept while both last. -/
theorem run_checked_iff (step : C → S → R × S) (meets checks : C → S → Prop)
    (invariant holds : S → Prop)
    (kept : ∀ c s, invariant s → holds s → checks c s → holds (step c s).2 →
      invariant (step c s).2)
    (exactly : ∀ c s, invariant s → holds s → (holds (step c s).2 ∧ checks c s ↔ meets c s))
    (requests : List C) (s : S) (sound : invariant s) (initially : holds s) :
    (∀ k, holds (run step (requests.take k) s).2 ∧
        ∀ c, requests[k]? = some c → checks c (run step (requests.take k) s).2) ↔
      MeetsAll step meets requests s := by
  induction requests generalizing s with
  | nil =>
    refine iff_of_true (fun k => ?_) trivial
    rw [List.take_nil]
    exact ⟨initially,fun c none => nomatch none⟩
  | cons c rest ih =>
    have later (now : checks c s) (next : holds (step c s).2) :=
      ih (step c s).2 (kept c s sound initially now next) next
    constructor
    · intro all
      have next : holds (step c s).2 := (all 1).1
      have now : checks c s := (all 0).2 c rfl
      exact ⟨(exactly c s sound initially).mp ⟨next,now⟩,(later now next).mp fun k => all (k + 1)⟩
    · intro met k
      obtain ⟨next,now⟩ := (exactly c s sound initially).mpr met.1
      cases k with
      | zero => exact ⟨initially,fun c' here => Option.some.inj here ▸ now⟩
      | succ k => exact (later now next).mpr met.2 k

/-- Steps that a relation on what is seen of the state allows, one after the other. -/
inductive History {V : Type} (allows : C → R → V → V → Prop) : List C → List R → V → V → Prop
  | nil (v : V) : History allows [] [] v v
  | cons {c : C} {r : R} {v w u : V} {rest : List C} {answers : List R} (first : allows c r v w)
      (later : History allows rest answers w u) : History allows (c::rest) (r::answers) v u

theorem History.last {V : Type} {allows : C → R → V → V → Prop} {requests : List C}
    {answers : List R} {v w : V} (history : History allows requests answers v w) (r : R)
    (found : answers.getLast? = some r) : ∃ c u, requests.getLast? = some c ∧ allows c r u w := by
  induction history with
  | nil v => contradiction
  | cons first later ih =>
    cases later with
    | nil v =>
      cases found
      exact ⟨_,_,rfl,first⟩
    | cons second others =>
      rw [List.getLast?_cons_cons] at found
      obtain ⟨c,u,last,allowed⟩ := ih found
      exact ⟨c,u,by rw [List.getLast?_cons_cons]; exact last,allowed⟩

/-- Where each step leads from what is related to the state to what is allowed next, so do runs. -/
theorem run_history_of_related {V : Type} (step : C → S → R × S) (related : S → V → Prop)
    (allows : C → R → V → V → Prop)
    (kept : ∀ c s v, related s v → ∃ w, related (step c s).2 w ∧ allows c (step c s).1 v w)
    (requests : List C) (s : S) (v : V) (initially : related s v) :
    ∃ w, related (run step requests s).2 w ∧
      History allows requests (run step requests s).1 v w := by
  induction requests generalizing s v with
  | nil => exact ⟨v,initially,.nil _⟩
  | cons c rest ih =>
    obtain ⟨w,next,allowed⟩ := kept c s v initially
    obtain ⟨u,last,later⟩ := ih _ w next
    exact ⟨u,last,.cons allowed later⟩

/-- What each step of a machine is allowed, its runs are. -/
theorem run_history {V : Type} (step : C → S → R × S) (view : S → V)
    (allows : C → R → V → V → Prop) (holds : S → Prop)
    (kept : ∀ c s, holds s →
      holds (step c s).2 ∧ allows c (step c s).1 (view s) (view (step c s).2))
    (requests : List C) (s : S) (initially : holds s) :
    holds (run step requests s).2 ∧
      History allows requests (run step requests s).1 (view s) (view (run step requests s).2) := by
  obtain ⟨w,⟨last,rfl⟩,history⟩ := run_history_of_related step
    (fun s v => holds s ∧ view s = v) allows (fun c s v here => by
      obtain ⟨held,rfl⟩ := here
      obtain ⟨next,allowed⟩ := kept c s held
      exact ⟨_,⟨next,rfl⟩,allowed⟩) requests s _ ⟨initially,rfl⟩
  exact ⟨last,history⟩

theorem run_history_met {V : Type} (step : C → S → R × S) (meets : C → S → Prop) (view : S → V)
    (allows : C → R → V → V → Prop) (holds : S → Prop)
    (kept : ∀ c s, holds s → meets c s →
      holds (step c s).2 ∧ allows c (step c s).1 (view s) (view (step c s).2))
    (requests : List C) (s : S) (initially : holds s) (met : MeetsAll step meets requests s) :
    holds (run step requests s).2 ∧
      History allows requests (run step requests s).1 (view s) (view (run step requests s).2) := by
  induction requests generalizing s with
  | nil => exact ⟨initially,.nil _⟩
  | cons c rest ih =>
    obtain ⟨now,later⟩ := met
    obtain ⟨held,allowed⟩ := kept c s initially now
    obtain ⟨last,history⟩ := ih _ held later
    exact ⟨last,.cons allowed history⟩

end DriversAdapter.Semantics.Machine
