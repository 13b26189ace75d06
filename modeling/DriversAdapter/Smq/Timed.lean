import DriversAdapter.Smq.Blocking
import DriversAdapter.Semantics.Deadline
import Mathlib.Data.Int.ConditionallyCompleteOrder
import Mathlib.Order.Interval.Set.Nat

/-! `Write` and `Read` with a wait time: how the loop accounts for the time that passes, and
when it gives up too early. -/
namespace DriversAdapter.Smq
open DriversAdapter.Base DriversAdapter.Semantics

/-- One attempt is a whole `WriteNonBlocking` or `ReadNonBlocking`; one wait is a whole `Wait`
of the syncer. -/
inductive TimedOp
  | getNanoTime
  | attempt
  | wait (bitset : UInt32) (timeoutNanoSec : Int64)
  | wake (bitset : UInt32)

@[reducible] def TimedOp.Res : TimedOp → Type
  | .getNanoTime => Int64
  | .attempt => Int
  | .wait _ _ => Int
  | .wake _ => Int

abbrev TimedM := Program TimedOp TimedOp.Res

def getNanoTime : TimedM Int64 := Program.call TimedOp.getNanoTime
def attemptNow : TimedM Int := Program.call TimedOp.attempt
def syncerWait (bitset : UInt32) (timeoutNanoSec : Int64) : TimedM Int :=
  Program.call (TimedOp.wait bitset timeoutNanoSec)
def syncerWake (bitset : UInt32) : TimedM Int := Program.call (TimedOp.wake bitset)

/-- What a call returns, and whether it does so because its time is up. -/
structure Finish where
  ret : Int
  timedOut : Bool
  deriving DecidableEq

/-- What follows the loop. -/
def concludeTimed (side : Side) (ret : Int) (late : Bool) : TimedM Finish := do
  if ret = 0 then
    let woken ← syncerWake side.other.waitBit
    return ⟨woken,false⟩
  else
    return ⟨ret,late⟩

/-- `Write` reads the clock again for the comparison. -/
def comparedTime (side : Side) (currentTime : Int64) : TimedM Int64 :=
  match side with
  | .writer => getNanoTime
  | .reader => pure currentTime

/-- In `Write` the current time is unsigned, and with it the subtraction. -/
def remainingTime (side : Side) (startTime waitTimeNanoSec currentTime : Int64) : Int64 :=
  match side with
  | .writer =>
    (waitTimeNanoSec.toUInt64 - (currentTime.toUInt64 - startTime.toUInt64)).toInt64
  | .reader => waitTimeNanoSec - (currentTime - startTime)

/-- The wait time that is left, or none if it is over; a wait time of zero is no limit. -/
def checkTime (side : Side) (startTime waitTimeNanoSec : Int64) : TimedM (Option Int64) := do
  if waitTimeNanoSec ≠ 0 then
    let currentTime ← getNanoTime
    let now ← comparedTime side currentTime
    if waitTimeNanoSec ≤ now - startTime then return none
    else return some (remainingTime side startTime waitTimeNanoSec currentTime)
  else
    return some waitTimeNanoSec

def timedTurn (side : Side) (startTime waitTimeNanoSec : Int64) : TimedM (Int64 ⊕ Finish) := do
  match ← checkTime side startTime waitTimeNanoSec with
  | none =>
    let ret ← attemptNow
    let finish ← concludeTimed side ret true
    return .inr finish
  | some left =>
    let ret ← syncerWait side.waitBit left
    if ret ≠ 0 ∧ ret ≠ -etimedout then
      let finish ← concludeTimed side ret false
      return .inr finish
    else
      let ret ← attemptNow
      if ret = 0 then
        let finish ← concludeTimed side ret false
        return .inr finish
      else
        return .inl left

/-- The first `n` turns of the loop. -/
def timedLoop (side : Side) (startTime : Int64) : Nat → Int64 → TimedM (Option Finish)
  | 0, _ => return none
  | n + 1, waitTimeNanoSec => do
    match ← timedTurn side startTime waitTimeNanoSec with
    | .inl left => timedLoop side startTime n left
    | .inr finish => return some finish

/-- `Write` and `Read` on a queue of this type, if they return within `n` turns. -/
def timedCall (type : UInt32) (side : Side) (waitTimeNanoSec : Int64) (n : Nat) :
    TimedM (Option Finish) := do
  if type ≠ syncedSmq then
    return some ⟨hdfErrNotSupport,false⟩
  else
    let ret ← attemptNow
    if ret = 0 then
      let finish ← concludeTimed side ret false
      return some finish
    else
      let startTime ← getNanoTime
      timedLoop side startTime n waitTimeNanoSec

/-- What a call meets: the successive readings of a clock that does not go back, and the
outcomes of its successive attempts, waits and wakes. -/
structure Surroundings where
  clock : Nat → Int64
  attempts : Nat → Int
  waits : Nat → Int
  wakes : Nat → Int
  clock_nonneg : 0 ≤ (clock 0).toInt
  clock_mono : Monotone fun i => (clock i).toInt

structure Taken where
  readings : Nat
  attempts : Nat
  waits : Nat
  wakes : Nat
  deriving DecidableEq

def serveTimed (env : Surroundings) : (op : TimedOp) → Taken → op.Res × Taken
  | .getNanoTime, s => (env.clock s.readings,{s with readings := s.readings + 1})
  | .attempt, s => (env.attempts s.attempts,{s with attempts := s.attempts + 1})
  | .wait _ _, s => (env.waits s.waits,{s with waits := s.waits + 1})
  | .wake _, s => (env.wakes s.wakes,{s with wakes := s.wakes + 1})

/-- A call returns `finish` after so many of each. -/
def Returns (env : Surroundings) (type : UInt32) (side : Side) (waitTimeNanoSec : Int64)
    (finish : Finish) (s : Taken) : Prop :=
  ∃ n, (timedCall type side waitTimeNanoSec n).run (serveTimed env) ⟨0,0,0,0⟩ = (some finish,s)

/-- The time from the first reading of a call to its last one. -/
def elapsedAt (env : Surroundings) (s : Taken) : Int :=
  (env.clock (s.readings - 1)).toInt - (env.clock 0).toInt

/-- No failure for lack of time before the wait time has passed. -/
def NotEarly (env : Surroundings) (type : UInt32) (side : Side) (waitTimeNanoSec : Int64) : Prop :=
  ∀ ret s, Returns env type side waitTimeNanoSec ⟨ret,true⟩ s →
    waitTimeNanoSec.toInt ≤ elapsedAt env s

def readingsPerTurn : Side → Nat
  | .writer => 2
  | .reader => 1

section Turns
variable (env : Surroundings) (side : Side)

/-- The time since the start that turn `k` takes off what is left. -/
def spentAt (k : Nat) : Int :=
  (env.clock (1 + readingsPerTurn side * k)).toInt - (env.clock 0).toInt

/-- The time since the start that turn `k` compares. -/
def passedAt (k : Nat) : Int :=
  (env.clock (readingsPerTurn side * (k + 1))).toInt - (env.clock 0).toInt

/-- The wait of turn `k` ends with a wakeup or a timeout, and the attempt after it fails. -/
def Insufficient (k : Nat) : Prop :=
  (env.waits k = 0 ∨ env.waits k = -etimedout) ∧ env.attempts (k + 1) ≠ 0

/-- Nothing but insufficient wakeups up to turn `k`, whose own attempt fails as well. -/
def Starved (k : Nat) : Prop :=
  env.attempts 0 ≠ 0 ∧ (∀ j, j < k → Insufficient env j) ∧ env.attempts (k + 1) ≠ 0

theorem starved_closed (j k : Nat) (le : j ≤ k) (starved : Starved env k) : Starved env j := by
  obtain ⟨first,before,last⟩ := starved
  refine ⟨first,fun i low => before i (lt_of_lt_of_le low le),?_⟩
  rcases Nat.lt_or_eq_of_le le with earlier | same
  · exact (before j earlier).2
  · subst same
    exact last

theorem passedAt_mono : Monotone (passedAt env side) := by
  intro j k le
  have readings : readingsPerTurn side * (j + 1) ≤ readingsPerTurn side * (k + 1) :=
    Nat.mul_le_mul_left _ (Nat.succ_le_succ le)
  have times := env.clock_mono readings
  unfold passedAt
  dsimp only at times
  omega

theorem spentAt_nonneg (k : Nat) : 0 ≤ spentAt env side k := by
  have times := env.clock_mono (Nat.zero_le (1 + readingsPerTurn side * k))
  unfold spentAt
  dsimp only at times
  omega

theorem spentAt_le (k : Nat) : spentAt env side k ≤ passedAt env side k := by
  have readings : 1 + readingsPerTurn side * k ≤ readingsPerTurn side * (k + 1) := by
    cases side <;> simp only [readingsPerTurn] <;> omega
  have times := env.clock_mono readings
  unfold spentAt passedAt
  dsimp only at times
  omega

end Turns

theorem remainingTime_eq (side : Side) (startTime waitTimeNanoSec currentTime : Int64) :
    remainingTime side startTime waitTimeNanoSec currentTime =
      waitTimeNanoSec - (currentTime - startTime) := by
  cases side <;> rfl

section Turns
variable (env : Surroundings) (side : Side)

/-- What has been taken when turn `k` begins. -/
def turnAt (k : Nat) : Taken := ⟨1 + readingsPerTurn side * k,k + 1,k,0⟩

theorem clock_zero_le (i : Nat) : env.clock 0 ≤ env.clock i :=
  Int64.le_iff_toInt_le.2 (env.clock_mono (Nat.zero_le i))

theorem toInt_since (i : Nat) :
    (env.clock i - env.clock 0).toInt = (env.clock i).toInt - (env.clock 0).toInt :=
  Int64.toInt_sub_of_le _ _ (Int64.le_iff_toInt_le.2 env.clock_nonneg) (clock_zero_le env i)

theorem remainingTime_toInt (k : Nat) (w : Int64) (early : passedAt env side k < w.toInt) :
    (remainingTime side (env.clock 0) w (env.clock (1 + readingsPerTurn side * k))).toInt =
      w.toInt - spentAt env side k := by
  have since := toInt_since env (1 + readingsPerTurn side * k)
  have low := spentAt_nonneg env side k
  have high := spentAt_le env side k
  have nonneg : 0 ≤ env.clock (1 + readingsPerTurn side * k) - env.clock 0 := by
    rw [Int64.le_iff_toInt_le,since]
    exact low
  have below : env.clock (1 + readingsPerTurn side * k) - env.clock 0 ≤ w := by
    rw [Int64.le_iff_toInt_le,since]
    exact le_of_lt (lt_of_le_of_lt high early)
  rw [remainingTime_eq,Int64.toInt_sub_of_le _ _ nonneg below,since]
  rfl

/-- The readings of a turn end with the one that it compares. -/
theorem comparedTime_run (k : Nat) :
    (comparedTime side (env.clock (1 + readingsPerTurn side * k))).run (serveTimed env)
        {turnAt side k with readings := 1 + readingsPerTurn side * k + 1} =
      (env.clock (readingsPerTurn side * (k + 1)),
        {turnAt side k with readings := 1 + readingsPerTurn side * (k + 1)}) := by
  cases side with
  | writer =>
    have last : 1 + readingsPerTurn .writer * k + 1 = readingsPerTurn .writer * (k + 1) := by
      simp only [readingsPerTurn]
      omega
    rw [last,Nat.add_comm 1 (_ * (k + 1))]
    rfl
  | reader =>
    have last : 1 + readingsPerTurn .reader * k = readingsPerTurn .reader * (k + 1) := by
      simp only [readingsPerTurn]
      omega
    rw [last,Nat.add_comm 1 (_ * (k + 1))]
    rfl

theorem checkTime_run (k : Nat) (w : Int64) (limited : w ≠ 0) :
    (checkTime side (env.clock 0) w).run (serveTimed env) (turnAt side k) =
      (if w.toInt ≤ passedAt env side k then none
        else some (remainingTime side (env.clock 0) w (env.clock (1 + readingsPerTurn side * k))),
        {turnAt side k with readings := 1 + readingsPerTurn side * (k + 1)}) := by
  have compared : w ≤ env.clock (readingsPerTurn side * (k + 1)) - env.clock 0 ↔
      w.toInt ≤ passedAt env side k := by
    rw [Int64.le_iff_toInt_le,toInt_since]
    rfl
  unfold checkTime
  rw [if_pos limited,getNanoTime,Program.call_bind,Program.run_perform,Program.run_bind]
  have second := comparedTime_run env side k
  simp only [serveTimed,turnAt] at second ⊢
  simp only [second,compared,Program.pure_eq,Program.run_ite,Program.run_done]
  split_ifs <;> rfl

/-- A turn that starts with `w` left gives up once that much has passed since the start. -/
theorem turn_due (k : Nat) (w : Int64) (limited : w ≠ 0) (due : w.toInt ≤ passedAt env side k)
    (fails : env.attempts (k + 1) ≠ 0) :
    (timedTurn side (env.clock 0) w).run (serveTimed env) (turnAt side k) =
      (.inr ⟨env.attempts (k + 1),true⟩,
        {turnAt side k with readings := 1 + readingsPerTurn side * (k + 1), attempts := k + 2}) := by
  unfold timedTurn
  rw [Program.run_bind,checkTime_run env side k w limited,if_pos due]
  simp [attemptNow,concludeTimed,serveTimed,turnAt,fails]

theorem turn_insufficient (k : Nat) (w : Int64) (limited : w ≠ 0)
    (early : passedAt env side k < w.toInt) (insufficient : Insufficient env k) :
    (timedTurn side (env.clock 0) w).run (serveTimed env) (turnAt side k) =
      (.inl (remainingTime side (env.clock 0) w (env.clock (1 + readingsPerTurn side * k))),
        turnAt side (k + 1)) := by
  obtain ⟨woken,fails⟩ := insufficient
  have goes_on : ¬ (env.waits k ≠ 0 ∧ env.waits k ≠ -etimedout) := by
    intro ⟨nonzero,untimed⟩
    exact woken.elim nonzero untimed
  unfold timedTurn
  rw [Program.run_bind,checkTime_run env side k w limited,if_neg (Int.not_le.2 early)]
  simp [syncerWait,attemptNow,serveTimed,turnAt,goes_on,fails]

/-- Any other turn ends the call, and not for lack of time. -/
theorem turn_other (k : Nat) (w : Int64) (limited : w ≠ 0)
    (other : ¬ (w.toInt ≤ passedAt env side k ∧ env.attempts (k + 1) ≠ 0))
    (sufficient : ¬ (passedAt env side k < w.toInt ∧ Insufficient env k)) :
    ∃ ret, ((timedTurn side (env.clock 0) w).run (serveTimed env) (turnAt side k)).1 =
      .inr ⟨ret,false⟩ := by
  unfold timedTurn
  rw [Program.run_bind,checkTime_run env side k w limited]
  by_cases due : w.toInt ≤ passedAt env side k
  · have succeeds : env.attempts (k + 1) = 0 := by
      by_contra fails
      exact other ⟨due,fails⟩
    rw [if_pos due]
    exact ⟨env.wakes 0,by simp [attemptNow,concludeTimed,syncerWake,serveTimed,turnAt,succeeds]⟩
  · rw [if_neg due]
    by_cases broken : env.waits k ≠ 0 ∧ env.waits k ≠ -etimedout
    · exact ⟨env.waits k,by simp [syncerWait,concludeTimed,serveTimed,turnAt,broken]⟩
    · have woken : env.waits k = 0 ∨ env.waits k = -etimedout := by
        by_contra neither
        exact broken (not_or.1 neither)
      have succeeds : env.attempts (k + 1) = 0 := by
        by_contra fails
        exact sufficient ⟨Int.not_le.1 due,woken,fails⟩
      exact ⟨env.wakes 0,by simp [syncerWait,attemptNow,concludeTimed,syncerWake,serveTimed,turnAt,
        broken,succeeds]⟩

/-- What has been taken when the call gives up at turn `k`. -/
def givenUpAt (k : Nat) : Taken :=
  {turnAt side k with readings := 1 + readingsPerTurn side * (k + 1), attempts := k + 2}

theorem elapsedAt_givenUpAt (k : Nat) : elapsedAt env (givenUpAt side k) = passedAt env side k := by
  simp [elapsedAt,givenUpAt,passedAt]

/-- What a turn leaves is what it started with less what it has been charged, and some of it. -/
theorem left_after (budget : Int) (k : Nat) (w : Int64)
    (left : w.toInt = budget - Deadline.charged (spentAt env side) k)
    (early : passedAt env side k < w.toInt) :
    let next := remainingTime side (env.clock 0) w (env.clock (1 + readingsPerTurn side * k))
    next.toInt = budget - Deadline.charged (spentAt env side) (k + 1) ∧ next ≠ 0 := by
  intro next
  have taken : next.toInt = w.toInt - spentAt env side k := remainingTime_toInt env side k w early
  have high := spentAt_le env side k
  constructor
  · rw [taken,left,Deadline.charged_succ]
    omega
  · intro zero
    rw [zero,Int64.toInt_zero] at taken
    omega

theorem due_iff (budget : Int) (k : Nat) (w : Int64)
    (left : w.toInt = budget - Deadline.charged (spentAt env side) k) :
    Deadline.Due budget (spentAt env side) (passedAt env side) k ↔
      w.toInt ≤ passedAt env side k := by
  unfold Deadline.Due
  omega

theorem loop_gives_up (budget : Int) (m k : Nat) (w : Int64)
    (left : w.toInt = budget - Deadline.charged (spentAt env side) k) (limited : w ≠ 0)
    (waits : ∀ j, k ≤ j → j < k + m → Insufficient env j ∧
      ¬ Deadline.Due budget (spentAt env side) (passedAt env side) j)
    (due : Deadline.Due budget (spentAt env side) (passedAt env side) (k + m))
    (fails : env.attempts (k + m + 1) ≠ 0) :
    (timedLoop side (env.clock 0) (m + 1) w).run (serveTimed env) (turnAt side k) =
      (some ⟨env.attempts (k + m + 1),true⟩,givenUpAt side (k + m)) := by
  induction m generalizing k w with
  | zero =>
    have run_out := (due_iff env side budget k w left).1 due
    rw [timedLoop,Program.run_bind,turn_due env side k w limited run_out fails]
    rfl
  | succ m ih =>
    obtain ⟨insufficient,not_due⟩ := waits k (Nat.le_refl k) (by omega)
    have early : passedAt env side k < w.toInt := by
      rw [due_iff env side budget k w left] at not_due
      exact Int.not_le.1 not_due
    obtain ⟨next_left,next_limited⟩ := left_after env side budget k w left early
    rw [timedLoop,Program.run_bind,turn_insufficient env side k w limited early insufficient]
    have shifted : k + (m + 1) = k + 1 + m := by omega
    rw [shifted] at due fails ⊢
    exact ih (k + 1) _ next_left next_limited
      (fun j from_next below => waits j (by omega) (by omega)) due fails

theorem loop_given_up (budget : Int) (n k : Nat) (w : Int64)
    (left : w.toInt = budget - Deadline.charged (spentAt env side) k) (limited : w ≠ 0)
    (ret : Int) (s : Taken)
    (ran : (timedLoop side (env.clock 0) n w).run (serveTimed env) (turnAt side k) =
      (some ⟨ret,true⟩,s)) :
    ∃ m, (∀ j, k ≤ j → j < k + m → Insufficient env j ∧
        ¬ Deadline.Due budget (spentAt env side) (passedAt env side) j) ∧
      Deadline.Due budget (spentAt env side) (passedAt env side) (k + m) ∧
        env.attempts (k + m + 1) ≠ 0 ∧ s = givenUpAt side (k + m) := by
  induction n generalizing k w with
  | zero => cases ran
  | succ n ih =>
    rw [timedLoop,Program.run_bind] at ran
    by_cases due : w.toInt ≤ passedAt env side k ∧ env.attempts (k + 1) ≠ 0
    · obtain ⟨run_out,fails⟩ := due
      rw [turn_due env side k w limited run_out fails] at ran
      have here : givenUpAt side k = s := congrArg Prod.snd ran
      exact ⟨0,fun j low high => absurd high (Nat.not_lt.2 low),
        (due_iff env side budget k w left).2 run_out,fails,here.symm⟩
    · by_cases waiting : passedAt env side k < w.toInt ∧ Insufficient env k
      · obtain ⟨early,insufficient⟩ := waiting
        obtain ⟨next_left,next_limited⟩ := left_after env side budget k w left early
        rw [turn_insufficient env side k w limited early insufficient] at ran
        obtain ⟨m,waits,last,fails,here⟩ := ih (k + 1) _ next_left next_limited ran
        have shifted : k + 1 + m = k + (m + 1) := by omega
        rw [shifted] at last fails here
        refine ⟨m + 1,?_,last,fails,here⟩
        intro j low high
        rcases Nat.lt_or_eq_of_le low with later | same
        · exact waits j later (by omega)
        · subst same
          refine ⟨insufficient,?_⟩
          rw [due_iff env side budget k w left]
          exact Int.not_le.2 early
      · obtain ⟨other,ended⟩ := turn_other env side k w limited due waiting
        rw [ended] at ran
        cases congrArg Prod.fst ran

/-- Without a limit the clock is not read and no turn gives up. -/
theorem turn_unlimited (startTime : Int64) (s : Taken) :
    ((timedTurn side startTime 0).run (serveTimed env) s).1 = .inl 0 ∨
      ∃ ret, ((timedTurn side startTime 0).run (serveTimed env) s).1 = .inr ⟨ret,false⟩ := by
  unfold timedTurn checkTime
  by_cases broken : env.waits s.waits ≠ 0 ∧ env.waits s.waits ≠ -etimedout
  · exact .inr ⟨env.waits s.waits,by simp [syncerWait,concludeTimed,serveTimed,broken]⟩
  · by_cases fails : env.attempts s.attempts = 0
    · exact .inr ⟨env.wakes s.wakes,by simp [syncerWait,attemptNow,concludeTimed,syncerWake,
        serveTimed,broken,fails]⟩
    · exact .inl (by simp [syncerWait,attemptNow,serveTimed,broken,fails])

theorem loop_unlimited (startTime : Int64) (n : Nat) (s : Taken) (ret : Int) :
    ((timedLoop side startTime n 0).run (serveTimed env) s).1 ≠ some ⟨ret,true⟩ := by
  induction n generalizing s with
  | zero => exact nofun
  | succ n ih =>
    rw [timedLoop,Program.run_bind]
    rcases turn_unlimited env side startTime s with waits | ⟨other,ended⟩
    · rw [waits]
      exact ih _
    · rw [ended]
      intro same
      cases same

theorem call_run (w : Int64) (n : Nat) (fails : env.attempts 0 ≠ 0) :
    (timedCall syncedSmq side w n).run (serveTimed env) ⟨0,0,0,0⟩ =
      (timedLoop side (env.clock 0) n w).run (serveTimed env) (turnAt side 0) := by
  unfold timedCall
  simp [attemptNow,getNanoTime,serveTimed,fails,turnAt]

/-- A call that gives up has a queue of the right type and no first attempt that succeeds. -/
theorem call_given_up (type : UInt32) (w : Int64) (n : Nat) (ret : Int) (s : Taken)
    (ran : (timedCall type side w n).run (serveTimed env) ⟨0,0,0,0⟩ = (some ⟨ret,true⟩,s)) :
    type = syncedSmq ∧ env.attempts 0 ≠ 0 := by
  by_cases synced : type = syncedSmq
  · refine ⟨synced,?_⟩
    intro succeeds
    subst synced
    unfold timedCall at ran
    simp [attemptNow,concludeTimed,syncerWake,serveTimed,succeeds] at ran
  · unfold timedCall at ran
    simp [synced] at ran

theorem returns_timedOut_iff (w : Int64) (limited : w ≠ 0) (s : Taken) :
    (∃ ret, Returns env syncedSmq side w ⟨ret,true⟩ s) ↔
      ∃ k, Starved env k ∧
        Deadline.Stops w.toInt (spentAt env side) (passedAt env side) k ∧ s = givenUpAt side k := by
  have left : w.toInt = w.toInt - Deadline.charged (spentAt env side) 0 := by
    rw [Deadline.charged_zero,Int.sub_zero]
  constructor
  · intro ⟨ret,n,ran⟩
    have first := (call_given_up env side syncedSmq w n ret s ran).2
    rw [call_run env side w n first] at ran
    obtain ⟨m,waits,due,fails,here⟩ := loop_given_up env side w.toInt n 0 w left limited ret s ran
    rw [Nat.zero_add] at waits due fails here
    exact ⟨m,⟨first,fun j low => (waits j (Nat.zero_le j) low).1,fails⟩,
      ⟨due,fun j low => (waits j (Nat.zero_le j) low).2⟩,here⟩
  · intro ⟨k,⟨first,insufficient,fails⟩,⟨due,not_due⟩,here⟩
    have ran := loop_gives_up env side w.toInt k 0 w left limited
      (fun j _ low => ⟨insufficient j (by omega),not_due j (by omega)⟩)
      (by rwa [Nat.zero_add]) (by rwa [Nat.zero_add])
    rw [← call_run env side w (k + 1) first,Nat.zero_add,← here] at ran
    exact ⟨_,k + 1,ran⟩

/-- A call gives up too early just when some turn before the deadline, after nothing but
insufficient wakeups, finds that the times since the start at this turn and at all turns before
it add up to the wait time. -/
theorem notEarly_iff (type : UInt32) (w : Int64) :
    NotEarly env type side w ↔
      (type = syncedSmq → ∀ k, Starved env k → passedAt env side k < w.toInt →
        Deadline.charged (spentAt env side) k + passedAt env side k < w.toInt) := by
  by_cases synced : type = syncedSmq
  · subst synced
    by_cases limited : w = 0
    · subst limited
      refine iff_of_true ?_ ?_
      · intro ret s ⟨n,ran⟩
        have first := (call_given_up env side syncedSmq 0 n ret s ran).2
        rw [call_run env side 0 n first] at ran
        exact absurd (congrArg Prod.fst ran) (loop_unlimited env side _ n _ ret)
      · intro _ k _ inside
        have low := spentAt_nonneg env side k
        have high := spentAt_le env side k
        rw [Int64.toInt_zero] at inside
        omega
    · have late := Deadline.stops_late_iff w.toInt (spentAt env side) (passedAt env side)
        (passedAt_mono env side) (Starved env) (starved_closed env)
      have gives_up : NotEarly env syncedSmq side w ↔ ∀ k, Starved env k →
          Deadline.Stops w.toInt (spentAt env side) (passedAt env side) k →
            w.toInt ≤ passedAt env side k := by
        constructor
        · intro sound k starved stops
          obtain ⟨ret,returned⟩ := (returns_timedOut_iff env side w limited _).2
            ⟨k,starved,stops,rfl⟩
          have passed := sound ret _ returned
          rwa [elapsedAt_givenUpAt] at passed
        · intro enough ret s returned
          obtain ⟨k,starved,stops,here⟩ := (returns_timedOut_iff env side w limited s).1 ⟨ret,returned⟩
          rw [here,elapsedAt_givenUpAt]
          exact enough k starved stops
      rw [gives_up,late]
      exact ⟨fun sound _ => sound,fun sound => sound rfl⟩
  · refine iff_of_true ?_ fun same => absurd same synced
    intro ret s ⟨n,ran⟩
    exact absurd (call_given_up env side type w n ret s ran).1 synced

end Turns

/-- Two wakeups that are not enough, five and six after the start. -/
def twoWakeups (side : Side) : Surroundings where
  clock := fun i =>
    if i ≤ readingsPerTurn side then 0 else if i ≤ 2 * readingsPerTurn side then 5 else 6
  attempts := fun _ => hdfFailure
  waits := fun _ => 0
  wakes := fun _ => 0
  clock_nonneg := by simp
  clock_mono := by
    intro i j le
    dsimp only
    split_ifs <;> first | decide | omega

/-- With ten to wait, the third turn finds five left and six passed. -/
theorem twoWakeups_early (side : Side) : ¬ NotEarly (twoWakeups side) syncedSmq side 10 := by
  intro sound
  have early : (10 : Int64).toInt ≤ elapsedAt (twoWakeups side) (givenUpAt side 2) := by
    refine sound hdfFailure _ ⟨3,?_⟩
    cases side <;> decide +kernel
  cases side <;> exact absurd early (by decide +kernel)

theorem second_wakeup_early :
    ¬ NotEarly (twoWakeups .writer) syncedSmq .writer 10 ∧
      ¬ NotEarly (twoWakeups .reader) syncedSmq .reader 10 :=
  ⟨twoWakeups_early .writer,twoWakeups_early .reader⟩

end DriversAdapter.Smq
