import DriversAdapter.Semantics.Program
import Mathlib.Logic.Function.Basic

/-! Interleavings of clients over one shared state. Every client issues calls; a call
is a program over atomic operations, cut into labelled pieces so that it may loop.
A proof outline gives each client a rely, a guarantee and an assertion at each label,
and holds in every reachable configuration. -/
namespace DriversAdapter.Semantics

/-- What a client has finished, and the call it is inside with the code left to run. -/
structure Session (Op : Type) (Res : Op → Type) (Call Label α : Type) where
  past : List (Call × α)
  now : Option (Call × Program Op Res (Label ⊕ α))

/-- The clients and their operations. An operation may have several outcomes `Ω` or be
blocked; `allowed` and `permitted` say which calls and operations a run is made of. -/
structure System (ι Op : Type) (Res : Op → Type) (Call Label α Ω σ : Type) where
  exec : ι → (op : Op) → Ω → σ → Option (Res op × σ)
  entry : Call → Label
  body : Call → Label → Program Op Res (Label ⊕ α)
  allowed : ι → Call → Prop
  permitted : ι → Op → σ → Prop

structure Config (ι Op : Type) (Res : Op → Type) (Call Label α σ : Type) where
  shared : σ
  session : ι → Session Op Res Call Label α

inductive Move (Call Ω : Type)
  | invoke (call : Call)
  | act (outcome : Ω)

variable {ι Op : Type} [DecidableEq ι] {Res : Op → Type} {Call Label α Ω σ : Type}

namespace Config

def put (cfg : Config ι Op Res Call Label α σ) (i : ι) (s : σ)
    (mine : Session Op Res Call Label α) : Config ι Op Res Call Label α σ :=
  ⟨s,Function.update cfg.session i mine⟩

@[simp] theorem put_shared (cfg : Config ι Op Res Call Label α σ) (i : ι) (s : σ)
    (mine : Session Op Res Call Label α) : (cfg.put i s mine).shared = s := rfl

@[simp] theorem put_self (cfg : Config ι Op Res Call Label α σ) (i : ι) (s : σ)
    (mine : Session Op Res Call Label α) : (cfg.put i s mine).session i = mine := by
  simp [put]

theorem put_other (cfg : Config ι Op Res Call Label α σ) (i j : ι) (s : σ)
    (mine : Session Op Res Call Label α) (other : j ≠ i) :
    (cfg.put i s mine).session j = cfg.session j := by
  simp [put,other]

def start (s : σ) : Config ι Op Res Call Label α σ := ⟨s,fun _ => ⟨[],none⟩⟩

end Config

namespace System

/-- One step of one client: it starts a call, performs one operation, goes to the next
label, or finishes its call. -/
inductive Step (S : System ι Op Res Call Label α Ω σ) :
    Config ι Op Res Call Label α σ → Config ι Op Res Call Label α σ → Prop
  | invoke (cfg i c past) (idle : cfg.session i = ⟨past,none⟩) (allowed : S.allowed i c) :
      Step S cfg (cfg.put i cfg.shared ⟨past,some (c,S.body c (S.entry c))⟩)
  | perform (cfg i c past op next outcome r s)
      (here : cfg.session i = ⟨past,some (c,.perform op next)⟩)
      (permitted : S.permitted i op cfg.shared)
      (served : S.exec i op outcome cfg.shared = some (r,s)) :
      Step S cfg (cfg.put i s ⟨past,some (c,next r)⟩)
  | jump (cfg i c past label) (here : cfg.session i = ⟨past,some (c,.done (.inl label))⟩) :
      Step S cfg (cfg.put i cfg.shared ⟨past,some (c,S.body c label)⟩)
  | finish (cfg i c past value) (here : cfg.session i = ⟨past,some (c,.done (.inr value))⟩) :
      Step S cfg (cfg.put i cfg.shared ⟨past ++ [(c,value)],none⟩)

inductive Reachable (S : System ι Op Res Call Label α Ω σ) (initial : σ) :
    Config ι Op Res Call Label α σ → Prop
  | start : Reachable S initial (.start initial)
  | step {cfg next} : Reachable S initial cfg → S.Step cfg next → Reachable S initial next

/-- The scheduler's view of a step, for running a given schedule. -/
def advance (S : System ι Op Res Call Label α Ω σ) (cfg : Config ι Op Res Call Label α σ)
    (i : ι) (move : Move Call Ω) : Option (Config ι Op Res Call Label α σ) :=
  match move, cfg.session i with
  | .invoke c, ⟨past,none⟩ => some (cfg.put i cfg.shared ⟨past,some (c,S.body c (S.entry c))⟩)
  | .act outcome, ⟨past,some (c,.perform op next)⟩ =>
      (S.exec i op outcome cfg.shared).map fun (r,s) => cfg.put i s ⟨past,some (c,next r)⟩
  | .act _, ⟨past,some (c,.done (.inl label))⟩ =>
      some (cfg.put i cfg.shared ⟨past,some (c,S.body c label)⟩)
  | .act _, ⟨past,some (c,.done (.inr value))⟩ =>
      some (cfg.put i cfg.shared ⟨past ++ [(c,value)],none⟩)
  | _, _ => none

def schedule (S : System ι Op Res Call Label α Ω σ) :
    List (ι × Move Call Ω) → Config ι Op Res Call Label α σ →
      Option (Config ι Op Res Call Label α σ)
  | [], cfg => some cfg
  | (i,move)::rest, cfg => (S.advance cfg i move).bind (S.schedule rest)

/-- One move of a schedule starts an allowed call or performs a permitted operation. -/
def Admits (S : System ι Op Res Call Label α Ω σ) (cfg : Config ι Op Res Call Label α σ) (i : ι) :
    Move Call Ω → Prop
  | .invoke c => S.allowed i c
  | .act _ => match cfg.session i with
    | ⟨_,some (_,.perform op _)⟩ => S.permitted i op cfg.shared
    | _ => True

def AdmitsAll (S : System ι Op Res Call Label α Ω σ) :
    List (ι × Move Call Ω) → Config ι Op Res Call Label α σ → Prop
  | [], _ => True
  | (i,move)::rest, cfg => S.Admits cfg i move ∧ match S.advance cfg i move with
    | none => True
    | some next => S.AdmitsAll rest next

/-- Where the conditions of a run can be computed, so can those of a schedule. -/
instance admitsDecidable (S : System ι Op Res Call Label α Ω σ) [∀ i c, Decidable (S.allowed i c)]
    [∀ i op s, Decidable (S.permitted i op s)] (cfg : Config ι Op Res Call Label α σ) (i : ι)
    (move : Move Call Ω) : Decidable (S.Admits cfg i move) :=
  match move with
  | .invoke c => inferInstanceAs (Decidable (S.allowed i c))
  | .act _ => match here : cfg.session i with
    | ⟨_,some (_,.perform op _)⟩ =>
      decidable_of_iff (S.permitted i op cfg.shared) (by simp [Admits,here])
    | ⟨_,some (_,.done _)⟩ | ⟨_,none⟩ => .isTrue (by simp [Admits,here])

instance admitsAllDecidable (S : System ι Op Res Call Label α Ω σ)
    [∀ i c, Decidable (S.allowed i c)] [∀ i op s, Decidable (S.permitted i op s)] :
    (moves : List (ι × Move Call Ω)) → (cfg : Config ι Op Res Call Label α σ) →
      Decidable (S.AdmitsAll moves cfg)
  | [], _ => .isTrue trivial
  | (i,move)::rest, cfg => match moved : S.advance cfg i move with
    | none => decidable_of_iff (S.Admits cfg i move) (by simp [AdmitsAll,moved])
    | some next =>
      have := S.admitsAllDecidable rest next
      decidable_of_iff (S.Admits cfg i move ∧ S.AdmitsAll rest next) (by simp [AdmitsAll,moved])

theorem advance_step (S : System ι Op Res Call Label α Ω σ) (cfg next : Config ι Op Res Call Label α σ)
    (i : ι) (move : Move Call Ω) (admitted : S.Admits cfg i move)
    (moved : S.advance cfg i move = some next) : S.Step cfg next := by
  unfold advance at moved
  split at moved
  next c past idle =>
    cases moved
    exact .invoke cfg i c past idle admitted
  next outcome past c op rest here =>
    obtain ⟨⟨r,s⟩,served,same⟩ := Option.map_eq_some_iff.mp moved
    subst same
    unfold Admits at admitted
    rw [here] at admitted
    exact .perform cfg i c past op rest outcome r s here admitted served
  next past c label here =>
    cases moved
    exact .jump cfg i c past label here
  next past c value here =>
    cases moved
    exact .finish cfg i c past value here
  next => contradiction

theorem schedule_reachable (S : System ι Op Res Call Label α Ω σ) (initial : σ)
    (moves : List (ι × Move Call Ω)) (cfg final : Config ι Op Res Call Label α σ)
    (admitted : S.AdmitsAll moves cfg) (before : S.Reachable initial cfg)
    (ran : S.schedule moves cfg = some final) : S.Reachable initial final := by
  induction moves generalizing cfg with
  | nil => cases ran; exact before
  | cons move rest ih =>
    obtain ⟨next,moved,later⟩ := Option.bind_eq_some_iff.mp ran
    obtain ⟨now,after⟩ := admitted
    rw [moved] at after
    exact ih next after (.step before (S.advance_step cfg next _ _ now moved)) later

/-- Where every operation is permitted, it is enough to look at the calls. -/
theorem admitsAll_of_calls (S : System ι Op Res Call Label α Ω σ)
    (ops : ∀ i op s, S.permitted i op s) (moves : List (ι × Move Call Ω))
    (calls : ∀ i c, (i,Move.invoke c) ∈ moves → S.allowed i c)
    (cfg : Config ι Op Res Call Label α σ) : S.AdmitsAll moves cfg := by
  induction moves generalizing cfg with
  | nil => trivial
  | cons first rest ih =>
    obtain ⟨i,move⟩ := first
    refine ⟨?_,?_⟩
    · cases move with
      | invoke c => exact calls i c List.mem_cons_self
      | act outcome =>
        simp only [Admits]
        split
        next => exact ops i _ _
        next => trivial
    · split
      next => trivial
      next next _ => exact ih (fun j c member => calls j c (List.mem_cons_of_mem _ member)) next

/-- The outcomes of one operation of client `i`. -/
def step (S : System ι Op Res Call Label α Ω σ) (i : ι) (op : Op) (s : σ) (r : Res op) (t : σ) :
    Prop :=
  S.permitted i op s ∧ ∃ outcome, S.exec i op outcome s = some (r,t)

/-- What every operation keeps holds in every reachable configuration. -/
theorem reachable_invariant (S : System ι Op Res Call Label α Ω σ) (known : σ → Prop) (initial : σ)
    (initially : known initial)
    (kept : ∀ i op s r t, known s → S.step i op s r t → known t)
    (cfg : Config ι Op Res Call Label α σ) (reached : S.Reachable initial cfg) :
    known cfg.shared := by
  induction reached with
  | start => exact initially
  | step _ stepped ih =>
    cases stepped with
    | perform i c past op next outcome r s here permitted served =>
      exact kept i op _ r s ih ⟨permitted,outcome,served⟩
    | invoke | jump | finish => exact ih

end System

/-- Assertions for every client that its own steps establish and that the steps of the
others preserve. `during` holds at every point of a call. -/
structure Outline (S : System ι Op Res Call Label α Ω σ) where
  rely : ι → σ → σ → Prop
  guar : ι → Op → σ → σ → Prop
  idle : ι → List (Call × α) → σ → Prop
  during : ι → List (Call × α) → Call → σ → Prop
  label : ι → List (Call × α) → Call → Label → σ → Prop
  rely_refl : ∀ i s, rely i s s
  rely_trans : ∀ i s t u, rely i s t → rely i t u → rely i s u
  idle_stable : ∀ i past s t, rely i s t → idle i past s → idle i past t
  during_stable : ∀ i past c s t, rely i s t → during i past c s → during i past c t
  invoke : ∀ i past c s, S.allowed i c → idle i past s →
    during i past c s ∧ label i past c (S.entry c) s
  body : ∀ i past c l s, label i past c l s →
    Program.Safe (rely i) (S.step i) (fun op s t => guar i op s t ∧ during i past c t)
      (fun next t => match next with
        | .inl l => label i past c l t
        | .inr value => idle i (past ++ [(c,value)]) t) (S.body c l) s
  compatible : ∀ i j op s t, i ≠ j → guar i op s t → rely j s t

namespace Outline

variable {S : System ι Op Res Call Label α Ω σ} (O : Outline S)

def Holds (i : ι) (mine : Session Op Res Call Label α) (s : σ) : Prop :=
  match mine.now with
  | none => O.idle i mine.past s
  | some (c,p) => O.during i mine.past c s ∧
      Program.Safe (O.rely i) (S.step i) (fun op s t => O.guar i op s t ∧ O.during i mine.past c t)
        (fun next t => match next with
          | .inl l => O.label i mine.past c l t
          | .inr value => O.idle i (mine.past ++ [(c,value)]) t) p s

omit [DecidableEq ι] in
theorem holds_stable (i : ι) (mine : Session Op Res Call Label α) (s t : σ)
    (moved : O.rely i s t) (holds : O.Holds i mine s) : O.Holds i mine t := by
  unfold Holds at *
  split at holds
  next => exact O.idle_stable i _ s t moved holds
  next => exact ⟨O.during_stable i _ _ s t moved holds.1,
    Program.safe_stable (O.rely_trans i) _ s t moved holds.2⟩

private theorem holds_own (cfg : Config ι Op Res Call Label α σ)
    (before : ∀ j, O.Holds j (cfg.session j) cfg.shared) (i : ι) (s : σ)
    (mine : Session Op Res Call Label α) (own : O.Holds i mine s)
    (others : ∀ j, i ≠ j → O.rely j cfg.shared s) :
    ∀ j, O.Holds j ((cfg.put i s mine).session j) (cfg.put i s mine).shared := by
  intro j
  by_cases same : j = i
  · subst j
    simpa using own
  · rw [Config.put_other cfg i j s mine same,Config.put_shared]
    exact O.holds_stable j _ _ _ (others j (Ne.symm same)) (before j)

theorem holds_step (cfg next : Config ι Op Res Call Label α σ)
    (before : ∀ j, O.Holds j (cfg.session j) cfg.shared) (stepped : S.Step cfg next) :
    ∀ j, O.Holds j (next.session j) next.shared := by
  cases stepped with
  | invoke i c past idle allowed =>
    have mine := before i
    rw [idle] at mine
    obtain ⟨during,entered⟩ := O.invoke i past c _ allowed mine
    exact O.holds_own cfg before i _ _ ⟨during,O.body i past c _ _ entered⟩
      (fun j _ => O.rely_refl j _)
  | perform i c past op rest outcome r s here permitted served =>
    have mine := before i
    rw [here] at mine
    obtain ⟨⟨kept,during⟩,after⟩ :=
      mine.2 cfg.shared (O.rely_refl i _) r s ⟨permitted,outcome,served⟩
    exact O.holds_own cfg before i _ _ ⟨during,after⟩
      (fun j other => O.compatible i j op _ _ other kept)
  | jump i c past l here =>
    have mine := before i
    rw [here] at mine
    exact O.holds_own cfg before i _ _
      ⟨mine.1,O.body i past c l _ (mine.2 _ (O.rely_refl i _))⟩ (fun j _ => O.rely_refl j _)
  | finish i c past value here =>
    have mine := before i
    rw [here] at mine
    exact O.holds_own cfg before i _ _ (mine.2 _ (O.rely_refl i _)) (fun j _ => O.rely_refl j _)

/-- Every assertion of the outline holds in every reachable configuration. -/
theorem sound (initial : σ) (ready : ∀ i, O.idle i [] initial)
    (cfg : Config ι Op Res Call Label α σ) (reached : S.Reachable initial cfg) :
    ∀ i, O.Holds i (cfg.session i) cfg.shared := by
  induction reached with
  | start => exact ready
  | step _ stepped ih => exact O.holds_step _ _ ih stepped

/-- Every operation performed anywhere in a run meets its client's guarantee. -/
theorem sound_perform (initial : σ) (ready : ∀ i, O.idle i [] initial)
    (cfg : Config ι Op Res Call Label α σ) (reached : S.Reachable initial cfg)
    (i : ι) (c : Call) (past : List (Call × α)) (op : Op)
    (next : Res op → Program Op Res (Label ⊕ α))
    (here : cfg.session i = ⟨past,some (c,.perform op next)⟩) (r : Res op) (t : σ)
    (performed : S.step i op cfg.shared r t) : O.guar i op cfg.shared t := by
  have mine := O.sound initial ready cfg reached i
  rw [here] at mine
  exact (mine.2 cfg.shared (O.rely_refl i _) r t performed).1.1

/-- What every client knows, idle or not, is known throughout a run. -/
theorem sound_always (initial : σ) (ready : ∀ i, O.idle i [] initial) (known : σ → Prop)
    (initially : known initial) (idle : ∀ i past s, O.idle i past s → known s)
    (during : ∀ i past c s, O.during i past c s → known s)
    (cfg : Config ι Op Res Call Label α σ) (reached : S.Reachable initial cfg) :
    known cfg.shared := by
  cases reached with
  | start => exact initially
  | step before stepped =>
    obtain ⟨i⟩ : Nonempty ι := by cases stepped <;> exact ⟨‹ι›⟩
    have holds := O.sound initial ready cfg (.step before stepped) i
    unfold Holds at holds
    split at holds
    next => exact idle _ _ _ holds
    next => exact during _ _ _ _ holds.1

end Outline

end DriversAdapter.Semantics
