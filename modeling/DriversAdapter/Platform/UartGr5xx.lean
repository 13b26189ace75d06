import DriversAdapter.Base.Word
import DriversAdapter.Semantics.Interleaving
import Mathlib.Data.Fintype.Basic

/-! Reads of one port of the gr5xx driver by any number of tasks, in every interleaving of their
steps with the interrupt that ends a receive. The interrupt leaves the count in one variable of the
port, and a reader looks at it when it has given the port back. -/
namespace DriversAdapter.Platform.Gr5xx
open DriversAdapter.Base DriversAdapter.Semantics DriversAdapter.Semantics.Program

/-- What ends a receive: it has its bytes, or an error came after some of them. -/
inductive UartEvt
  | rxData (size : UInt16)
  | error (size : UInt16)

def UartEvt.size : UartEvt → UInt16
  | rxData size | error size => size

/-- How far a reader is in its call. -/
inductive Phase
  | out
  | locked
  | cleared
  | drained
  | waiting
  | woken
  | failed
  | returning
  deriving DecidableEq

/-- The reader has the mutex. -/
def Phase.Holds (p : Phase) : Prop := p ≠ out ∧ p ≠ returning

/-- The reader has cleared the count, and its receive has not begun. -/
def Phase.Prepares (p : Phase) : Prop := p = cleared ∨ p = drained

instance (p : Phase) : Decidable p.Prepares := inferInstanceAs (Decidable (_ ∨ _))

/-- A port with its mutex, its semaphore and its count; whose receive is under way, and what the
last receive of each reader delivered. -/
structure Port (ι : Type) where
  rxMutex : Option ι
  rxSem : Nat
  rxNum : UInt32
  receiving : Option ι
  delivered : ι → Nat
  phase : ι → Phase

inductive Party (ι : Type)
  | reader (i : ι)
  | interrupt
  deriving DecidableEq

inductive PortOp
  | muxPend
  | clearRxNum
  | semDrain
  | receiveAsync (data : Nat) (size : UInt32)
  | semPend
  | muxPost
  | rxNum
  | callback (event : UartEvt)

abbrev PortOp.Res : PortOp → Type
  | muxPend | clearRxNum | semDrain | muxPost | callback _ => Unit
  | receiveAsync _ _ | semPend => Bool
  | rxNum => UInt32

inductive PortCall
  | read (data : Option Nat) (size : UInt32)
  | callback (event : UartEvt)

section Code
-- `udd->state == UART_STATE_USEABLE`
variable (useable : Bool)

def uartHostDevRead (data : Option Nat) (size : UInt32) :
    Program PortOp PortOp.Res (Unit ⊕ Int) :=
  match data with
  | none => .done (.inr hdfErrInvalidParam)
  | some data =>
    if useable = false then .done (.inr hdfFailure)
    else .perform .muxPend fun _ =>
      .perform .clearRxNum fun _ =>
      .perform .semDrain fun _ =>
      .perform (.receiveAsync data size) fun ret =>
      if ret = false then .perform .muxPost fun _ => .done (.inr hdfFailure)
      else .perform .semPend fun uwRet =>
        if uwRet = false then .perform .muxPost fun _ => .done (.inr hdfFailure)
        else .perform .muxPost fun _ => .perform .rxNum fun n => .done (.inr n.toInt32.toInt)

def PortCall.body : PortCall → Program PortOp PortOp.Res (Unit ⊕ Int)
  | read data size => uartHostDevRead useable data size
  | callback event => .perform (.callback event) fun _ => .done (.inr hdfSuccess)

end Code

variable {ι : Type} [DecidableEq ι]

namespace Port

def enter (i : ι) (p : Phase) (s : Port ι) : Port ι := {s with phase := Function.update s.phase i p}

/-- `Uart0Callback` and `Uart1Callback`, for the receive that is under way. -/
def callback (event : UartEvt) (s : Port ι) : Option (Port ι) :=
  s.receiving.map fun i =>
    let s := {s with
      receiving := none
      delivered := Function.update s.delivered i event.size.toNat
      rxSem := s.rxSem + 1}
    match event with
    | .rxData size => {s with rxNum := size.toUInt32}
    | .error _ => s

/-- The mutex and the semaphore block; a receive and a wait for its end may be refused. -/
def exec (party : Party ι) (op : PortOp) (ok : Bool) (s : Port ι) : Option (op.Res × Port ι) :=
  match party, op with
  | .reader i, .muxPend =>
    if s.rxMutex = none then some ((),{s with rxMutex := some i}.enter i .locked) else none
  | .reader i, .clearRxNum => some ((),{s with rxNum := 0}.enter i .cleared)
  | .reader i, .semDrain => some ((),{s with rxSem := s.rxSem - 1}.enter i .drained)
  | .reader i, .receiveAsync _ _ =>
    if ok then some (true,{s with
      receiving := some i
      delivered := Function.update s.delivered i 0}.enter i .waiting)
    else some (false,s.enter i .failed)
  | .reader i, .semPend =>
    if ok = false then some (false,s.enter i .failed)
    else if s.rxSem = 0 then none
    else some (true,{s with rxSem := s.rxSem - 1}.enter i .woken)
  | .reader i, .muxPost =>
    some ((),{s with rxMutex := none}.enter i
      (if s.phase i = Phase.woken then .returning else .out))
  | .reader i, .rxNum => some (s.rxNum,s.enter i .out)
  | .interrupt, .callback event => (s.callback event).map fun t => ((),t)
  | _, _ => none

def start : Port ι := ⟨none,0,0,none,fun _ => 0,fun _ => .out⟩

end Port

/-- The count is not changed while a reader has yet to look at it; no receive that a reader gave up
ends while another one prepares its own; and a receive that a reader waits for, if it ends in an
error, has delivered nothing. -/
def PortOp.Orderly (op : PortOp) (s : Port ι) : Prop :=
  match op with
  | .clearRxNum => s.rxNum = 0 ∨ ∀ i, s.phase i ≠ .returning
  | .callback (.rxData size) => (∀ i, ¬(s.phase i).Prepares) ∧
      (s.rxNum = size.toUInt32 ∨ ∀ i, s.phase i ≠ .returning)
  | .callback (.error size) => (∀ i, ¬(s.phase i).Prepares) ∧
      ∀ i, s.receiving = some i → s.phase i = .waiting → size = 0
  | _ => True

/-- All runs of a port, or only those that are orderly. -/
def gr5xxPort (useable : Bool) (orderly : Prop) :
    System (Party ι) PortOp PortOp.Res PortCall Unit Int Bool (Port ι) where
  exec party op ok s := s.exec party op ok
  entry _ := ()
  body c _ := c.body useable
  allowed party c := match party, c with
    | .reader _, .read _ _ => True
    | .interrupt, .callback _ => True
    | _, _ => False
  permitted _ op s := orderly → op.Orderly s

/-- If the last call of a reader answered with a count, its own receive delivered that many, and
is over. -/
def Port.Counted (i : ι) (past : List (PortCall × Int)) (s : Port ι) : Prop :=
  ∀ c ret, past.getLast? = some (c,ret) → 0 ≤ ret → ret = s.delivered i ∧ s.receiving ≠ some i

/-- What the port is like for a reader in each phase. -/
def Port.At (s : Port ι) (i : ι) : Phase → Prop
  | .out | .locked | .failed => True
  | .cleared => s.rxNum = 0
  | .drained => s.rxNum = 0 ∧ s.rxSem = 0
  | .waiting => s.receiving = some i ∧ s.rxNum = 0 ∨
      s.receiving = none ∧ s.rxNum.toNat = s.delivered i
  | .woken => s.receiving = none ∧ s.rxNum.toNat = s.delivered i
  | .returning => s.receiving ≠ some i ∧ s.rxNum.toNat = s.delivered i

/-- One reader at most has the mutex, and no token is there while a receive is under way. -/
structure Port.Inv (s : Port ι) : Prop where
  mutex : ∀ i, (s.phase i).Holds → s.rxMutex = some i
  tokens : s.rxSem ≤ 1
  quiet : s.receiving ≠ none → s.rxSem = 0
  here : ∀ i, s.At i (s.phase i)

/-- The others keep the port in order, a reader where it is, and what it received. -/
structure Port.Move (i : ι) (s t : Port ι) : Prop where
  inv : s.Inv → t.Inv
  phase : t.phase i = s.phase i
  ended : s.receiving ≠ some i → t.receiving ≠ some i ∧ t.delivered i = s.delivered i

def Port.Rely (party : Party ι) (s t : Port ι) : Prop :=
  match party with
  | .reader i => Port.Move i s t
  | .interrupt => s.Inv → t.Inv

/-- A reader goes on to a phase, and keeps what concerns only the others. -/
structure Port.Did (i : ι) (p : Phase) (s t : Port ι) : Prop where
  inv : t.Inv
  phase : t.phase = Function.update s.phase i p
  receiving : ∀ j ≠ i, s.receiving ≠ some j → t.receiving ≠ some j
  delivered : ∀ j ≠ i, t.delivered j = s.delivered j

section Steps
variable {s t u : Port ι} {i : ι} {p : Phase}

omit [DecidableEq ι] in
theorem rely_refl (party : Party ι) : Port.Rely party s s := by
  cases party with
  | reader i => exact ⟨id,rfl,fun ended => ⟨ended,rfl⟩⟩
  | interrupt => exact id

omit [DecidableEq ι] in
theorem rely_trans (party : Party ι) (first : Port.Rely party s t) (second : Port.Rely party t u) :
    Port.Rely party s u := by
  cases party with
  | reader i =>
    refine ⟨second.inv ∘ first.inv,second.phase.trans first.phase,fun ended => ?_⟩
    obtain ⟨ended,same⟩ := first.ended ended
    obtain ⟨ended,same'⟩ := second.ended ended
    exact ⟨ended,same'.trans same⟩
  | interrupt => exact second ∘ first

theorem Port.Did.rely (did : Port.Did i p s t) (party : Party ι) (other : .reader i ≠ party) :
    Port.Rely party s t := by
  cases party with
  | reader j =>
    have apart : j ≠ i := fun same => other (congrArg Party.reader same.symm)
    refine ⟨fun _ => did.inv,?_,fun ended => ⟨did.receiving j apart ended,did.delivered j apart⟩⟩
    rw [did.phase,Function.update_of_ne apart]
  | interrupt => exact fun _ => did.inv

omit [DecidableEq ι] in
theorem at_free (j : ι) (free : ¬p.Holds)
    (kept : p = .returning → t.receiving ≠ some j ∧ t.rxNum.toNat = t.delivered j) : t.At j p := by
  cases p with
  | out => trivial
  | returning => exact kept rfl
  | locked | cleared | drained | waiting | woken | failed => exact absurd ⟨nofun,nofun⟩ free

/-- Of the others a reader with the mutex finds only such as have yet to look at the count. -/
theorem inv_holder (inv : s.Inv) (mine : (s.phase i).Holds)
    (phase : t.phase = Function.update s.phase i p) (mutex : p.Holds → t.rxMutex = some i)
    (tokens : t.rxSem ≤ 1) (quiet : t.receiving ≠ none → t.rxSem = 0) (here : t.At i p)
    (others : ∀ j ≠ i, s.phase j = .returning →
      t.receiving ≠ some j ∧ t.rxNum.toNat = t.delivered j) : t.Inv := by
  have free (j : ι) (apart : j ≠ i) : ¬(s.phase j).Holds := fun holds => by
    have same := (inv.mutex i mine).symm.trans (inv.mutex j holds)
    exact apart (Option.some.inj same).symm
  refine ⟨fun j holds => ?_,tokens,quiet,fun j => ?_⟩
  · by_cases same : j = i
    · subst same
      rw [phase,Function.update_self] at holds
      exact mutex holds
    · rw [phase,Function.update_of_ne same] at holds
      exact absurd holds (free j same)
  · by_cases same : j = i
    · subst same
      rw [phase,Function.update_self]
      exact here
    · rw [phase,Function.update_of_ne same]
      exact at_free j (free j same) (others j same)

omit [DecidableEq ι] in
theorem at_congr (j : ι) (receiving : t.receiving = s.receiving) (rxNum : t.rxNum = s.rxNum)
    (rxSem : t.rxSem = s.rxSem) (delivered : t.delivered j = s.delivered j) (here : s.At j p) :
    t.At j p := by
  cases p <;> simp only [Port.At,receiving,rxNum,rxSem,delivered] <;> exact here

omit [DecidableEq ι] in
theorem returning_kept (inv : s.Inv) (j : ι) (phase : s.phase j = .returning) :
    s.receiving ≠ some j ∧ s.rxNum.toNat = s.delivered j := by
  have here := inv.here j
  rw [phase] at here
  exact here

/-- A reader that changes nothing of what the port is like for the others. -/
theorem here_enter (inv : s.Inv) (phase : t.phase = Function.update s.phase i p)
    (receiving : t.receiving = s.receiving) (rxNum : t.rxNum = s.rxNum) (rxSem : t.rxSem = s.rxSem)
    (delivered : t.delivered = s.delivered) (mine : t.At i p) (j : ι) : t.At j (t.phase j) := by
  rw [phase]
  by_cases same : j = i
  · subst same
    rw [Function.update_self]
    exact mine
  · rw [Function.update_of_ne same]
    exact at_congr j receiving rxNum rxSem (congrFun delivered j) (inv.here j)

theorem did_muxPend (inv : s.Inv) (ok : Bool) (r : Unit)
    (served : s.exec (.reader i) .muxPend ok = some (r,t)) : Port.Did i .locked s t := by
  unfold Port.exec at served
  dsimp only at served
  split_ifs at served with free
  obtain ⟨-,rfl⟩ := Prod.mk.inj (Option.some.inj served)
  refine ⟨⟨fun j holds => ?_,inv.tokens,inv.quiet,?_⟩,rfl,fun _ _ => id,fun _ _ => rfl⟩
  · by_cases same : j = i
    · rw [same]
      rfl
    · dsimp only [Port.enter] at holds
      rw [Function.update_of_ne same] at holds
      have other := inv.mutex j holds
      rw [free] at other
      contradiction
  · exact here_enter inv rfl rfl rfl rfl rfl trivial

theorem did_clearRxNum (inv : s.Inv) (phase : s.phase i = .locked) (ok : Bool) (r : Unit)
    (orderly : PortOp.clearRxNum.Orderly s)
    (served : s.exec (.reader i) .clearRxNum ok = some (r,t)) : Port.Did i .cleared s t := by
  obtain ⟨-,rfl⟩ := Prod.mk.inj (Option.some.inj served)
  have mine : (s.phase i).Holds := phase ▸ ⟨nofun,nofun⟩
  refine ⟨?_,rfl,fun _ _ => id,fun _ _ => rfl⟩
  refine inv_holder inv mine rfl (fun _ => inv.mutex i mine) inv.tokens inv.quiet rfl ?_
  intro j _ returning
  obtain ⟨ended,count⟩ := returning_kept inv j returning
  rcases orderly with zero | none
  · rw [zero] at count
    exact ⟨ended,count⟩
  · exact absurd returning (none j)

theorem did_semDrain (inv : s.Inv) (phase : s.phase i = .cleared) (ok : Bool) (r : Unit)
    (served : s.exec (.reader i) .semDrain ok = some (r,t)) : Port.Did i .drained s t := by
  obtain ⟨-,rfl⟩ := Prod.mk.inj (Option.some.inj served)
  have mine : (s.phase i).Holds := phase ▸ ⟨nofun,nofun⟩
  have here := inv.here i
  rw [phase] at here
  have tokens := inv.tokens
  have drained : s.rxSem - 1 = 0 := by omega
  refine ⟨?_,rfl,fun _ _ => id,fun _ _ => rfl⟩
  refine inv_holder inv mine rfl (fun _ => inv.mutex i mine) ?_ (fun _ => drained)
    ⟨here,drained⟩ fun j _ => returning_kept inv j
  dsimp only [Port.enter]
  omega

/-- A receive that begins finds the count cleared and no token. -/
theorem did_receiveAsync (inv : s.Inv) (phase : s.phase i = .drained) (ok : Bool) (data : Nat)
    (size : UInt32) (r : Bool)
    (served : s.exec (.reader i) (.receiveAsync data size) ok = some (r,t)) :
    Port.Did i (if r then .waiting else .failed) s t := by
  have mine : (s.phase i).Holds := phase ▸ ⟨nofun,nofun⟩
  have here := inv.here i
  rw [phase] at here
  unfold Port.exec at served
  dsimp only at served
  split_ifs at served
  · obtain ⟨rfl,rfl⟩ := Prod.mk.inj (Option.some.inj served)
    have apart (j : ι) (other : j ≠ i) : some i ≠ some j :=
      fun same => other (Option.some.inj same).symm
    have kept (j : ι) (other : j ≠ i) : Function.update s.delivered i 0 j = s.delivered j :=
      Function.update_of_ne other 0 s.delivered
    refine ⟨?_,rfl,fun j other _ => apart j other,kept⟩
    refine inv_holder inv mine rfl (fun _ => inv.mutex i mine) inv.tokens (fun _ => here.2)
      (.inl ⟨rfl,here.1⟩) fun j other returning => ⟨apart j other,?_⟩
    exact (returning_kept inv j returning).2.trans (kept j other).symm
  · obtain ⟨rfl,rfl⟩ := Prod.mk.inj (Option.some.inj served)
    refine ⟨?_,rfl,fun _ _ => id,fun _ _ => rfl⟩
    exact inv_holder inv mine rfl (fun _ => inv.mutex i mine) inv.tokens inv.quiet trivial
      fun j _ => returning_kept inv j

/-- The reader that waits is woken when its own receive is over. -/
theorem did_semPend (inv : s.Inv) (phase : s.phase i = .waiting) (ok r : Bool)
    (served : s.exec (.reader i) .semPend ok = some (r,t)) :
    Port.Did i (if r then .woken else .failed) s t := by
  have mine : (s.phase i).Holds := phase ▸ ⟨nofun,nofun⟩
  have here := inv.here i
  rw [phase] at here
  unfold Port.exec at served
  dsimp only at served
  split_ifs at served with refused blocked
  · obtain ⟨rfl,rfl⟩ := Prod.mk.inj (Option.some.inj served)
    refine ⟨?_,rfl,fun _ _ => id,fun _ _ => rfl⟩
    exact inv_holder inv mine rfl (fun _ => inv.mutex i mine) inv.tokens inv.quiet trivial
      fun j _ => returning_kept inv j
  · obtain ⟨rfl,rfl⟩ := Prod.mk.inj (Option.some.inj served)
    have none : s.receiving = none := by
      by_contra under
      exact blocked (inv.quiet under)
    have count : s.rxNum.toNat = s.delivered i := by
      rcases here with ⟨under,_⟩ | ⟨_,count⟩
      · rw [none] at under
        contradiction
      · exact count
    refine ⟨?_,rfl,fun _ _ => id,fun _ _ => rfl⟩
    exact inv_holder inv mine rfl (fun _ => inv.mutex i mine) ((Nat.sub_le _ _).trans inv.tokens)
      (fun under => absurd none under) ⟨none,count⟩ fun j _ => returning_kept inv j

theorem did_muxPost (inv : s.Inv) (phase : s.phase i = .woken ∨ s.phase i = .failed) (ok : Bool)
    (r : Unit) (served : s.exec (.reader i) .muxPost ok = some (r,t)) :
    Port.Did i (if s.phase i = .woken then .returning else .out) s t := by
  obtain ⟨-,rfl⟩ := Prod.mk.inj (Option.some.inj served)
  refine ⟨?_,rfl,fun _ _ => id,fun _ _ => rfl⟩
  rcases phase with woken | failed
  · have mine : (s.phase i).Holds := by
      rw [woken]
      exact ⟨nofun,nofun⟩
    have here := inv.here i
    rw [woken] at here
    rw [if_pos woken]
    refine inv_holder inv mine rfl (fun free => absurd rfl free.2) inv.tokens inv.quiet ⟨?_,here.2⟩
      fun j _ => returning_kept inv j
    exact fun under => nomatch here.1.symm.trans under
  · have mine : (s.phase i).Holds := by
      rw [failed]
      exact ⟨nofun,nofun⟩
    have other : s.phase i ≠ .woken := by
      rw [failed]
      nofun
    rw [if_neg other]
    exact inv_holder inv mine rfl (fun free => absurd rfl free.1) inv.tokens inv.quiet trivial
      fun j _ => returning_kept inv j

theorem did_rxNum (inv : s.Inv) (ok : Bool) (r : UInt32)
    (served : s.exec (.reader i) .rxNum ok = some (r,t)) : Port.Did i .out s t ∧ r = s.rxNum := by
  obtain ⟨same,rfl⟩ := Prod.mk.inj (Option.some.inj served)
  refine ⟨⟨⟨fun j holds => ?_,inv.tokens,inv.quiet,?_⟩,rfl,fun _ _ => id,fun _ _ => rfl⟩,
    same.symm⟩
  · dsimp only [Port.enter] at holds
    by_cases same : j = i
    · subst same
      rw [Function.update_self] at holds
      exact absurd rfl holds.1
    · rw [Function.update_of_ne same] at holds
      exact inv.mutex j holds
  · exact here_enter inv rfl rfl rfl rfl rfl trivial

/-- The end of a receive puts the count there for the reader that waits for it. -/
theorem inv_callback (inv : s.Inv) (size : UInt16) (count : UInt32)
    (prepares : ∀ j, ¬(s.phase j).Prepares) (under : s.receiving = some i)
    (fits : s.phase i = .waiting → s.rxNum = 0 → count.toNat = size.toNat)
    (kept : ∀ j, s.phase j = .returning → count = s.rxNum) :
    Port.Inv {s with
      receiving := none
      delivered := Function.update s.delivered i size.toNat
      rxSem := s.rxSem + 1
      rxNum := count} := by
  have quiet : s.rxSem = 0 := by
    refine inv.quiet ?_
    rw [under]
    nofun
  have token : s.rxSem + 1 ≤ 1 := Nat.le_of_eq (congrArg Nat.succ quiet)
  refine ⟨inv.mutex,token,fun more => absurd rfl more,fun j => ?_⟩
  dsimp only
  have here := inv.here j
  cases phase : s.phase j with
  | out => trivial
  | locked => trivial
  | failed => trivial
  | cleared => exact absurd (.inl phase) (prepares j)
  | drained => exact absurd (.inr phase) (prepares j)
  | waiting =>
    rw [phase] at here
    rcases here with ⟨mine,zero⟩ | ⟨none,_⟩
    · obtain rfl : i = j := Option.some.inj (under.symm.trans mine)
      refine .inr ⟨rfl,?_⟩
      dsimp only
      rw [Function.update_self]
      exact fits phase zero
    · exact nomatch under.symm.trans none
  | woken =>
    rw [phase] at here
    exact nomatch under.symm.trans here.1
  | returning =>
    rw [phase] at here
    have other : j ≠ i := fun same => here.1 (same ▸ under)
    refine ⟨nofun,?_⟩
    dsimp only
    rw [Function.update_of_ne other,kept j phase]
    exact here.2

theorem callback_kept (inv : s.Inv) (event : UartEvt)
    (orderly : (PortOp.callback event).Orderly s) (served : s.callback event = some t) :
    t.Inv ∧ ∀ j, Port.Move j s t := by
  obtain ⟨i,under,rfl⟩ := Option.map_eq_some_iff.mp served
  have apart (j : ι) (ended : s.receiving ≠ some j) :
      Function.update s.delivered i event.size.toNat j = s.delivered j := by
    refine Function.update_of_ne (fun same => ?_) _ _
    exact ended (same ▸ under)
  cases event with
  | rxData size =>
    have after := inv_callback inv size size.toUInt32 orderly.1 under
      (fun _ _ => UInt16.toNat_toUInt32 size) fun j returning => by
        rcases orderly.2 with same | none
        · exact same.symm
        · exact absurd returning (none j)
    exact ⟨after,fun j => ⟨fun _ => after,rfl,fun ended => ⟨nofun,apart j ended⟩⟩⟩
  | error size =>
    have after := inv_callback inv size s.rxNum orderly.1 under
      (fun waiting zero => by rw [zero,orderly.2 i under waiting]; rfl) fun _ _ => rfl
    exact ⟨after,fun j => ⟨fun _ => after,rfl,fun ended => ⟨nofun,apart j ended⟩⟩⟩

end Steps

section Outline
variable {s t : Port ι} {i : ι} {useable : Bool} {past : List (PortCall × Int)} {c : PortCall}

/-- Where a reader is in its call, in a port that is in order. -/
def Port.Is (i : ι) (p : Phase) (s : Port ι) : Prop := s.Inv ∧ s.phase i = p

def Port.Idle (party : Party ι) (past : List (PortCall × Int)) (s : Port ι) : Prop :=
  match party with
  | .reader i => Port.Is i .out s ∧ s.Counted i past
  | .interrupt => s.Inv

abbrev PortSafe (useable : Bool) (party : Party ι) (past : List (PortCall × Int)) (c : PortCall)
    (p : Program PortOp PortOp.Res (Unit ⊕ Int)) (s : Port ι) : Prop :=
  Safe (Port.Rely party) ((gr5xxPort useable True).step party)
    (fun _ s t => (∀ other, party ≠ other → Port.Rely other s t) ∧ True)
    (fun next t => match next with
      | .inl _ => False
      | .inr value => Port.Idle party (past ++ [(c,value)]) t) p s

omit [DecidableEq ι] in
theorem is_stable {p : Phase} (moved : Port.Rely (.reader i) s t) (here : Port.Is i p s) :
    Port.Is i p t :=
  ⟨moved.inv here.1,moved.phase.trans here.2⟩

theorem did_is {p : Phase} (did : Port.Did i p s t) : Port.Is i p t := by
  refine ⟨did.inv,?_⟩
  rw [did.phase,Function.update_self]

/-- One operation of a reader, from what it does to the port. -/
theorem portSafe_perform {p : Phase} (op : PortOp)
    (next : op.Res → Program PortOp PortOp.Res (Unit ⊕ Int)) (here : Port.Is i p s)
    (after : op.Res → Phase)
    (did : ∀ t, Port.Is i p t → op.Orderly t → ∀ ok r u, t.exec (.reader i) op ok = some (r,u) →
      Port.Did i (after r) t u)
    (rest : ∀ t r, Port.Is i (after r) t → PortSafe useable (.reader i) past c (next r) t) :
    PortSafe useable (.reader i) past c (.perform op next) s := by
  intro t moved r u performed
  obtain ⟨orderly,ok,served⟩ := performed
  have did := did t (is_stable moved here) (orderly trivial) ok r u served
  exact ⟨⟨did.rely,trivial⟩,rest u r (did_is did)⟩

omit [DecidableEq ι] in
theorem idle_stable (party : Party ι) (moved : Port.Rely party s t)
    (idle : Port.Idle party past s) : Port.Idle party past t := by
  cases party with
  | interrupt => exact moved idle
  | reader i =>
    refine ⟨is_stable moved idle.1,fun c ret last nonneg => ?_⟩
    obtain ⟨same,ended⟩ := idle.2 c ret last nonneg
    obtain ⟨ended,kept⟩ := moved.ended ended
    exact ⟨same.trans (congrArg Nat.cast kept.symm),ended⟩

/-- A call that answers with an error has no count to be right about. -/
theorem portSafe_refused {ret : Int} (negative : ret < 0) (here : Port.Is i .out s) :
    PortSafe useable (.reader i) past c (.done (.inr ret)) s := by
  refine fun t moved => ⟨is_stable moved here,fun c' ret' last nonneg => ?_⟩
  rw [List.getLast?_concat] at last
  obtain ⟨-,rfl⟩ := Prod.mk.inj (Option.some.inj last)
  omega

theorem portSafe_failed (here : Port.Is i .failed s) :
    PortSafe useable (.reader i) past c (.perform .muxPost fun _ => .done (.inr hdfFailure)) s := by
  have failure : hdfFailure < 0 := by decide
  refine portSafe_perform .muxPost _ here (fun _ => .out) (fun t here _ ok r u served => ?_)
    fun t r => portSafe_refused failure
  have did := did_muxPost here.1 (.inr here.2) ok r served
  have other : t.phase i ≠ .woken := by
    rw [here.2]
    nofun
  rwa [if_neg other] at did

/-- What the reader finds is the count of its own receive. -/
theorem portSafe_rxNum (here : Port.Is i .returning s) :
    PortSafe useable (.reader i) past c
      (.perform .rxNum fun n => .done (.inr n.toInt32.toInt)) s := by
  intro t moved r u performed
  obtain ⟨_,ok,served⟩ := performed
  have there := is_stable moved here
  obtain ⟨did,rfl⟩ := did_rxNum there.1 ok r served
  obtain ⟨ended,count⟩ := returning_kept there.1 i there.2
  obtain ⟨-,rfl⟩ := Prod.mk.inj (Option.some.inj served)
  refine ⟨⟨did.rely,trivial⟩,fun v later => idle_stable (.reader i) later ⟨did_is did,?_⟩⟩
  intro c' ret last nonneg
  rw [List.getLast?_concat] at last
  obtain ⟨-,rfl⟩ := Prod.mk.inj (Option.some.inj last)
  refine ⟨?_,ended⟩
  have sizes := toInt32_cases t.rxNum
  have same : (t.enter i .out).delivered i = t.delivered i := rfl
  omega

theorem portSafe_woken (here : Port.Is i .woken s) : PortSafe useable (.reader i) past c
    (.perform .muxPost fun _ => .perform .rxNum fun n => .done (.inr n.toInt32.toInt)) s := by
  refine portSafe_perform .muxPost _ here (fun _ => .returning) (fun t here _ ok r u served => ?_)
    fun t r => portSafe_rxNum
  have did := did_muxPost here.1 (.inl here.2) ok r served
  rwa [if_pos here.2] at did

theorem portSafe_read (data : Option Nat) (size : UInt32) (here : Port.Is i .out s) :
    PortSafe useable (.reader i) past c (uartHostDevRead useable data size) s := by
  have param : hdfErrInvalidParam < 0 := by decide
  have failure : hdfFailure < 0 := by decide
  cases data with
  | none => exact portSafe_refused param here
  | some data =>
    unfold uartHostDevRead
    dsimp only
    split
    · exact portSafe_refused failure here
    refine portSafe_perform .muxPend _ here (fun _ => .locked)
      (fun t here _ ok r u => did_muxPend here.1 ok r) fun s _ here => ?_
    refine portSafe_perform .clearRxNum _ here (fun _ => .cleared)
      (fun t here orderly ok r u => did_clearRxNum here.1 here.2 ok r orderly) fun s _ here => ?_
    refine portSafe_perform .semDrain _ here (fun _ => .drained)
      (fun t here _ ok r u => did_semDrain here.1 here.2 ok r) fun s _ here => ?_
    refine portSafe_perform (.receiveAsync data size) _ here
      (fun ret => if ret then .waiting else .failed)
      (fun t here _ ok r u => did_receiveAsync here.1 here.2 ok data size r) fun s ret here => ?_
    cases ret with
    | false => exact portSafe_failed here
    | true =>
      refine portSafe_perform .semPend _ here (fun uwRet => if uwRet then .woken else .failed)
        (fun t here _ ok r u => did_semPend here.1 here.2 ok r) fun s uwRet here => ?_
      cases uwRet with
      | false => exact portSafe_failed here
      | true => exact portSafe_woken here

theorem portSafe_callback (event : UartEvt) (inv : s.Inv) :
    PortSafe useable .interrupt past c
      (.perform (.callback event) fun _ => .done (.inr hdfSuccess)) s := by
  intro t moved r u performed
  obtain ⟨orderly,ok,served⟩ := performed
  obtain ⟨u',ended,same⟩ := Option.map_eq_some_iff.mp served
  obtain ⟨-,rfl⟩ := Prod.mk.inj same
  obtain ⟨after,moves⟩ := callback_kept (moved inv) event (orderly trivial) ended
  refine ⟨⟨fun other apart => ?_,trivial⟩,fun v later => later after⟩
  cases other with
  | interrupt => exact absurd rfl apart
  | reader j => exact moves j

theorem portSafe_body (party : Party ι) (allowed : (gr5xxPort useable True).allowed party c)
    (idle : Port.Idle party past s) : PortSafe useable party past c (c.body useable) s := by
  cases party with
  | reader i =>
    cases c with
    | read data size => exact portSafe_read data size idle.1
    | callback event => exact allowed.elim
  | interrupt =>
    cases c with
    | read data size => exact allowed.elim
    | callback event => exact portSafe_callback event idle

variable (useable)

def portOutline : Outline (gr5xxPort (ι := ι) useable True) where
  rely := Port.Rely
  guar party _ s t := ∀ other, party ≠ other → Port.Rely other s t
  idle := Port.Idle
  during _ _ _ _ := True
  label party past c _ s := (gr5xxPort useable True).allowed party c ∧ Port.Idle party past s
  rely_refl _ _ := rely_refl _
  rely_trans _ _ _ _ := rely_trans _
  idle_stable party _ _ _ := idle_stable party
  during_stable _ _ _ _ _ _ _ := trivial
  invoke _ _ _ _ allowed idle := ⟨trivial,allowed,idle⟩
  body party past c _ s here := by
    refine safe_mono _ s (fun _ _ _ kept => kept) ?_ (portSafe_body party here.1 here.2)
    intro next t after
    cases next with
    | inl label => exact after.elim
    | inr value => exact after
  compatible _ j _ _ _ other kept := kept j other

omit [DecidableEq ι] in
theorem inv_start : (Port.start : Port ι).Inv :=
  ⟨fun _ holds => absurd rfl holds.1,Nat.zero_le 1,fun under => absurd rfl under,fun _ => trivial⟩

/-- In orderly runs the count that a reader gets is the one of its own receive. -/
theorem gr5xxPort_counted
    (reached : Config (Party ι) PortOp PortOp.Res PortCall Unit Int (Port ι))
    (run : (gr5xxPort useable True).Reachable .start reached) (i : ι)
    (idle : (reached.session (.reader i)).now = none) (c : PortCall) (ret : Int)
    (last : (reached.session (.reader i)).past.getLast? = some (c,ret)) (nonneg : 0 ≤ ret) :
    ret = reached.shared.delivered i := by
  let O := portOutline (ι := ι) useable
  have ready : ∀ party, O.idle party [] .start := fun party => by
    cases party with
    | interrupt => exact inv_start
    | reader i => exact ⟨⟨inv_start,rfl⟩,fun _ _ none => nomatch none⟩
  have mine := O.sound .start ready reached run (.reader i)
  unfold Outline.Holds at mine
  rw [idle] at mine
  exact (mine.2 c ret last nonneg).1

end Outline

instance [Fintype ι] (op : PortOp) (s : Port ι) : Decidable (op.Orderly s) :=
  match op with
  | .clearRxNum => inferInstanceAs (Decidable (_ ∨ _))
  | .callback (.rxData _) | .callback (.error _) => inferInstanceAs (Decidable (_ ∧ _))
  | .muxPend | .semDrain | .receiveAsync _ _ | .semPend | .muxPost | .rxNum => .isTrue trivial

instance (useable : Bool) (orderly : Prop) (party : Party ι) (c : PortCall) :
    Decidable ((gr5xxPort useable orderly).allowed party c) :=
  match party, c with
  | .reader _, .read _ _ | .interrupt, .callback _ => .isTrue trivial
  | .reader _, .callback _ | .interrupt, .read _ _ => .isFalse id

instance [Fintype ι] (useable : Bool) (orderly : Prop) [Decidable orderly] (party : Party ι)
    (op : PortOp) (s : Port ι) : Decidable ((gr5xxPort useable orderly).permitted party op s) :=
  inferInstanceAs (Decidable (_ → _))

private def first : Party Bool := .reader true
private def second : Party Bool := .reader false

/-- A receive of 16 bytes by one reader, which the interrupt ends after 4. -/
private def received : List (Party Bool × Move PortCall Bool) :=
  (first,.invoke (.read (some 0) 16))::List.replicate 4 (first,.act true) ++
    (.interrupt,.invoke (.callback (.rxData 4)))::List.replicate 2 (.interrupt,.act true) ++
    List.replicate 2 (first,.act true)

/-- The reader looks at the count and is done, while the other begins. -/
private def inTurn : List (Party Bool × Move PortCall Bool) :=
  received ++ (second,.invoke (.read (some 64) 16))::(second,.act true)::
    List.replicate 2 (first,.act true)

theorem gr5xxPort_counted_alone : ∃ reached,
    (gr5xxPort true True).schedule inTurn (.start .start) = some reached ∧
      (4 : Int) = reached.shared.delivered true := by
  have admitted : (gr5xxPort (ι := Bool) true True).AdmitsAll inTurn (.start .start) := by decide
  have run := fun reached ran =>
    System.schedule_reachable (gr5xxPort true True) .start inTurn _ reached admitted .start ran
  refine ⟨_,rfl,?_⟩
  exact gr5xxPort_counted true _ (run _ rfl) true rfl (.read (some 0) 16) 4 rfl (by decide)

/-- The other reader clears the count before the first has looked at it. -/
private def cleared : List (Party Bool × Move PortCall Bool) :=
  received ++ (second,.invoke (.read (some 64) 16))::List.replicate 2 (second,.act true) ++
    List.replicate 2 (first,.act true)

/-- The receive has delivered 4 bytes, and the reader is told that there are none. -/
theorem gr5xxPort_not_counted : ∃ reached : Config (Party Bool) PortOp PortOp.Res PortCall Unit Int
      (Port Bool),
    (gr5xxPort true False).Reachable .start reached ∧
      reached.session (.reader true) = ⟨[(.read (some 0) 16,0)],none⟩ ∧
      reached.shared.delivered true = 4 := by
  have admitted : (gr5xxPort (ι := Bool) true False).AdmitsAll cleared (.start .start) := by decide
  have run := fun reached ran =>
    System.schedule_reachable (gr5xxPort true False) .start cleared _ reached admitted .start ran
  exact ⟨_,run _ rfl,rfl,rfl⟩

end DriversAdapter.Platform.Gr5xx
