import DriversAdapter.Base.Word
import DriversAdapter.Semantics.Machine
import Mathlib.Logic.Function.Basic

/-! Timers of the OSAL on LiteOS: each one keeps the identifier of a software timer of the
kernel, which hands identifiers out again once their timers are deleted. -/
namespace DriversAdapter.Osal
open DriversAdapter.Base DriversAdapter.Semantics

/-- Where the two kernels differ: the identifier that no timer has, and what a period in
milliseconds is for `LOS_SwtmrCreate`. -/
structure TimerPort (ID : Type) where
  invalid : ID
  ticks : UInt32 → UInt32

def liteosTimer (maxInvalidTimerVid : UInt16) (losMS2Tick : UInt32 → UInt32) : TimerPort UInt16 :=
  ⟨maxInvalidTimerVid,losMS2Tick⟩

def osalInvalidTimerId : UInt32 := 0xFFFFFFFF

def liteosMTimer : TimerPort UInt32 := ⟨osalInvalidTimerId,id⟩

inductive SwtmrMode
  | period
  | noSelfdelete
  deriving DecidableEq

/-- A software timer of the kernel. The call that creates it is on behalf of its owner. -/
structure Swtmr (τ : Type) where
  owner : τ
  mode : SwtmrMode
  interval : UInt32
  func : UInt32
  arg : UInt32

structure OsalLitetimer (ID : Type) where
  arg : UInt32
  timerID : ID
  func : UInt32
  interval : UInt32

/-- The `realTimer` of every OSAL timer and the timers of the kernel. Besides, whether a
change of period has deleted the kernel's timer and none was started since, and which
deletions were asked for: by which timer and of whose timer. -/
structure OsalTimers (τ ID : Type) where
  realTimer : τ → Option (OsalLitetimer ID)
  swtmr : ID → Option (Swtmr τ)
  lost : τ → Bool
  deletions : List (τ × Option τ)

structure KernelOutcomes (ID : Type) where
  osalMemCalloc : Bool
  losSwtmrCreate : Option ID
  losSwtmrStart : Bool
  losSwtmrDelete : Bool
  -- the deletion of a timer that could not be started
  cleanup : Bool

variable {τ ID : Type} [DecidableEq τ] [DecidableEq ID]

namespace OsalTimers

variable (port : TimerPort ID)

/-- The kernel gives out an identifier that is valid and not in use, or fails. -/
def losSwtmrCreate (timer : Swtmr τ) (chosen : Option ID) (s : OsalTimers τ ID) :
    Option ID × OsalTimers τ ID :=
  match chosen with
  | none => (none,s)
  | some id =>
    if id = port.invalid ∨ (s.swtmr id).isSome then (none,s)
    else (some id,{s with swtmr := Function.update s.swtmr id (some timer)})

def losSwtmrDelete (id : ID) (granted : Bool) (s : OsalTimers τ ID) : Bool × OsalTimers τ ID :=
  if granted = true ∧ (s.swtmr id).isSome then
    (true,{s with swtmr := Function.update s.swtmr id none})
  else (false,s)

def record (t : τ) (id : ID) (s : OsalTimers τ ID) : OsalTimers τ ID :=
  {s with deletions := s.deletions ++ [(t,(s.swtmr id).map Swtmr.owner)]}

def osalTimerCreate (timer : Option τ) (interval func arg : UInt32) (out : KernelOutcomes ID)
    (s : OsalTimers τ ID) : Int × OsalTimers τ ID :=
  match timer with
  | none => (hdfErrInvalidParam,s)
  | some t =>
    if func = 0 ∨ interval = 0 then (hdfErrInvalidParam,s)
    else
      let lost := Function.update s.lost t false
      if out.osalMemCalloc = false then
        (hdfErrMallocFail,{s with realTimer := Function.update s.realTimer t none,lost := lost})
      else
        (hdfSuccess,{s with
          realTimer := Function.update s.realTimer t (some ⟨arg,port.invalid,func,interval⟩)
          lost := lost})

def osalStartTimer (timer : Option τ) (mode : SwtmrMode) (out : KernelOutcomes ID)
    (s : OsalTimers τ ID) : Int × OsalTimers τ ID :=
  match timer with
  | none => (hdfErrInvalidParam,s)
  | some t =>
    match s.realTimer t with
    | none => (hdfErrInvalidParam,s)
    | some liteTimer =>
      if liteTimer.interval = 0 ∨ liteTimer.func = 0 then (hdfErrInvalidParam,s)
      else
        let swtmr := ⟨t,mode,port.ticks liteTimer.interval,liteTimer.func,liteTimer.arg⟩
        match s.losSwtmrCreate port swtmr out.losSwtmrCreate with
        | (none,s) => (hdfFailure,s)
        | (some timerID,s) =>
          if out.losSwtmrStart = false then
            (hdfFailure,(s.losSwtmrDelete timerID out.cleanup).2)
          else
            (hdfSuccess,{s with
              realTimer := Function.update s.realTimer t (some {liteTimer with timerID := timerID})
              lost := Function.update s.lost t false})

def osalTimerStartLoop (timer : Option τ) (out : KernelOutcomes ID) (s : OsalTimers τ ID) :
    Int × OsalTimers τ ID :=
  s.osalStartTimer port timer .period out

def osalTimerStartOnce (timer : Option τ) (out : KernelOutcomes ID) (s : OsalTimers τ ID) :
    Int × OsalTimers τ ID :=
  s.osalStartTimer port timer .noSelfdelete out

def osalTimerSetTimeout (timer : Option τ) (interval : UInt32) (out : KernelOutcomes ID)
    (s : OsalTimers τ ID) : Int × OsalTimers τ ID :=
  match timer with
  | none => (hdfErrInvalidParam,s)
  | some t =>
    match s.realTimer t with
    | none => (hdfErrInvalidParam,s)
    | some liteTimer =>
      if interval = 0 then (hdfErrInvalidParam,s)
      else if liteTimer.timerID = port.invalid then (hdfFailure,s)
      else if liteTimer.interval = interval then (hdfSuccess,s)
      else
        let s := {s with
          realTimer := Function.update s.realTimer t (some {liteTimer with interval := interval})}
        match (s.record t liteTimer.timerID).losSwtmrDelete liteTimer.timerID out.losSwtmrDelete with
        | (false,s) => (hdfFailure,s)
        | (true,s) =>
          {s with lost := Function.update s.lost t true}.osalTimerStartLoop port (some t) out

def osalTimerDelete (timer : Option τ) (out : KernelOutcomes ID) (s : OsalTimers τ ID) :
    Int × OsalTimers τ ID :=
  match timer with
  | none => (hdfErrInvalidParam,s)
  | some t =>
    match s.realTimer t with
    | none => (hdfErrInvalidParam,s)
    | some liteTimer =>
      if liteTimer.timerID = port.invalid then
        (hdfFailure,{s with realTimer := Function.update s.realTimer t none})
      else
        match (s.record t liteTimer.timerID).losSwtmrDelete liteTimer.timerID out.losSwtmrDelete with
        | (false,s) => (hdfFailure,s)
        | (true,s) => (hdfSuccess,{s with realTimer := Function.update s.realTimer t none})

end OsalTimers

inductive TimerCall (τ : Type)
  | create (timer : Option τ) (interval func arg : UInt32)
  | startLoop (timer : Option τ)
  | startOnce (timer : Option τ)
  | setTimeout (timer : Option τ) (interval : UInt32)
  | delete (timer : Option τ)

namespace TimerCall
open OsalTimers

def serve (port : TimerPort ID) (c : TimerCall τ × KernelOutcomes ID) (s : OsalTimers τ ID) :
    Int × OsalTimers τ ID :=
  match c.1 with
  | create timer interval func arg => s.osalTimerCreate port timer interval func arg c.2
  | startLoop timer => s.osalTimerStartLoop port timer c.2
  | startOnce timer => s.osalTimerStartOnce port timer c.2
  | setTimeout timer interval => s.osalTimerSetTimeout port timer interval c.2
  | delete timer => s.osalTimerDelete port timer c.2

end TimerCall

namespace OsalTimers

/-- The timer has been started, and no change of period has stopped it. -/
def Running (port : TimerPort ID) (t : τ) (s : OsalTimers τ ID) : Prop :=
  ∃ liteTimer, s.realTimer t = some liteTimer ∧ liteTimer.timerID ≠ port.invalid ∧ s.lost t = false

/-- Each OSAL timer has at most one timer in the kernel, none when it has been deleted,
and asked only for the deletion of its own. -/
structure Owned (s : OsalTimers τ ID) : Prop where
  single : ∀ id id' k k', s.swtmr id = some k → s.swtmr id' = some k' → k.owner = k'.owner → id = id'
  survivor : ∀ id k, s.swtmr id = some k → s.realTimer k.owner ≠ none
  deletions : ∀ d ∈ s.deletions, d.2 = some d.1

/-- The timers of the kernel are those whose identifiers the running timers keep. -/
structure Tracked (port : TimerPort ID) (s : OsalTimers τ ID) : Prop where
  stored : ∀ id k, s.swtmr id = some k →
    ∃ liteTimer, s.realTimer k.owner = some liteTimer ∧ liteTimer.timerID = id ∧
      id ≠ port.invalid ∧ s.lost k.owner = false
  live : ∀ t liteTimer, s.realTimer t = some liteTimer → liteTimer.timerID ≠ port.invalid →
    s.lost t = false → ∃ k, s.swtmr liteTimer.timerID = some k ∧ k.owner = t
  deletions : ∀ d ∈ s.deletions, d.2 = some d.1

end OsalTimers

/-- A timer is created or started only when it is not running, a timer that cannot be
started is deleted again, and no other period and no deletion is asked of a timer that an
earlier change of period has stopped. -/
def TimerCall.Meets (port : TimerPort ID) (c : TimerCall τ × KernelOutcomes ID)
    (s : OsalTimers τ ID) : Prop :=
  let cleans := c.2.losSwtmrStart = true ∨ c.2.cleanup = true
  match c.1 with
  | create (some t) interval func _ => func = 0 ∨ interval = 0 ∨ ¬ s.Running port t
  | startLoop (some t) | startOnce (some t) =>
    (s.Running port t → c.2.losSwtmrCreate = none ∨ c.2.losSwtmrStart = false) ∧ cleans
  | setTimeout (some t) interval => cleans ∧ ∀ liteTimer, s.realTimer t = some liteTimer →
      interval ≠ 0 → liteTimer.interval ≠ interval → s.lost t = false
  | delete (some t) => s.lost t = false
  | _ => True

namespace OsalTimers

def initial : OsalTimers τ ID := ⟨fun _ => none,fun _ => none,fun _ => false,[]⟩

section Tracking
variable {port : TimerPort ID} {s : OsalTimers τ ID}

omit [DecidableEq τ] [DecidableEq ID] in
theorem owned_of_tracked (tracked : s.Tracked port) : s.Owned := by
  refine ⟨?_,?_,tracked.deletions⟩
  · intro id id' k k' here there same
    obtain ⟨liteTimer,kept,rfl,_⟩ := tracked.stored id k here
    obtain ⟨liteTimer',kept',rfl,_⟩ := tracked.stored id' k' there
    rw [same] at kept
    exact congrArg OsalLitetimer.timerID (Option.some.inj (kept.symm.trans kept'))
  · intro id k here
    obtain ⟨liteTimer,kept,_⟩ := tracked.stored id k here
    simp [kept]

omit [DecidableEq τ] [DecidableEq ID] in
theorem running_of_owner (tracked : s.Tracked port) (id : ID) (k : Swtmr τ)
    (here : s.swtmr id = some k) : s.Running port k.owner := by
  obtain ⟨liteTimer,kept,rfl,valid,started⟩ := tracked.stored id k here
  exact ⟨liteTimer,kept,valid,started⟩

omit [DecidableEq ID] in
/-- A record that is quiet is not one of those that say that something runs. -/
theorem other_of_quiet (t : τ) (new : Option (OsalLitetimer ID)) (flag : Bool)
    (quiet : ∀ liteTimer, new = some liteTimer → liteTimer.timerID = port.invalid ∨ flag = true)
    (j : τ) (liteTimer : OsalLitetimer ID)
    (kept : Function.update s.realTimer t new j = some liteTimer)
    (valid : liteTimer.timerID ≠ port.invalid)
    (started : Function.update s.lost t flag j = false) :
    j ≠ t ∧ s.realTimer j = some liteTimer ∧ s.lost j = false := by
  by_cases same : j = t
  · subst j
    simp only [Function.update_self] at kept started
    rcases quiet liteTimer kept with bad | stopped
    · exact absurd bad valid
    · rw [stopped] at started
      contradiction
  · simp only [Function.update_of_ne same] at kept started
    exact ⟨same,kept,started⟩

omit [DecidableEq ID] in
/-- A timer without one in the kernel may be given any record that says so. -/
theorem tracked_detached (tracked : s.Tracked port) (t : τ)
    (idle : ∀ id k, s.swtmr id = some k → k.owner ≠ t) (new : Option (OsalLitetimer ID))
    (flag : Bool)
    (quiet : ∀ liteTimer, new = some liteTimer → liteTimer.timerID = port.invalid ∨ flag = true) :
    Tracked port {s with
      realTimer := Function.update s.realTimer t new, lost := Function.update s.lost t flag} := by
  refine ⟨?_,?_,tracked.deletions⟩
  · intro id k here
    have other := idle id k here
    simpa [other] using tracked.stored id k here
  · intro j liteTimer kept valid started
    obtain ⟨_,before,running⟩ := other_of_quiet t new flag quiet j liteTimer kept valid started
    exact tracked.live j liteTimer before valid running

theorem tracked_removed (tracked : s.Tracked port) (t : τ) (id : ID) (k : Swtmr τ)
    (here : s.swtmr id = some k) (own : k.owner = t) (new : Option (OsalLitetimer ID))
    (flag : Bool)
    (quiet : ∀ liteTimer, new = some liteTimer → liteTimer.timerID = port.invalid ∨ flag = true) :
    Tracked port {s with
      swtmr := Function.update s.swtmr id none, realTimer := Function.update s.realTimer t new
      lost := Function.update s.lost t flag} := by
  have alone : ∀ j k', s.swtmr j = some k' → j ≠ id → k'.owner ≠ t := by
    intro j k' there other same
    exact other ((owned_of_tracked tracked).single j id k' k there here (same.trans own.symm))
  refine ⟨?_,?_,tracked.deletions⟩
  · intro j k' there
    by_cases same : j = id
    · subst j
      simp at there
    · simp only [Function.update_of_ne same] at there
      have other := alone j k' there same
      simpa [other] using tracked.stored j k' there
  · intro j liteTimer kept valid started
    obtain ⟨apart,before,running⟩ := other_of_quiet t new flag quiet j liteTimer kept valid started
    obtain ⟨k',there,owner⟩ := tracked.live j liteTimer before valid running
    have other : liteTimer.timerID ≠ id := by
      intro equal
      rw [equal,here] at there
      cases there
      exact apart (owner.symm.trans own)
    exact ⟨k',by simpa [other] using there,owner⟩

theorem tracked_started (tracked : s.Tracked port) (t : τ)
    (idle : ∀ id k, s.swtmr id = some k → k.owner ≠ t) (id : ID) (free : s.swtmr id = none)
    (valid : id ≠ port.invalid) (k : Swtmr τ) (own : k.owner = t)
    (liteTimer : OsalLitetimer ID) (kept : liteTimer.timerID = id) :
    Tracked port {s with
      swtmr := Function.update s.swtmr id (some k)
      realTimer := Function.update s.realTimer t (some liteTimer)
      lost := Function.update s.lost t false} := by
  refine ⟨?_,?_,tracked.deletions⟩
  · intro j k' there
    by_cases same : j = id
    · subst j
      simp only [Function.update_self,Option.some.injEq] at there
      subst k'
      exact ⟨liteTimer,by simp [own],kept,valid,by simp [own]⟩
    · simp only [Function.update_of_ne same] at there
      have other := idle j k' there
      simpa [other] using tracked.stored j k' there
  · intro j liteTimer' stored valid' started
    by_cases same : j = t
    · subst j
      simp only [Function.update_self,Option.some.injEq] at stored
      subst liteTimer'
      exact ⟨k,by simp [kept],own⟩
    · simp only [Function.update_of_ne same] at stored started
      obtain ⟨k',there,owner⟩ := tracked.live j liteTimer' stored valid' started
      have other : liteTimer'.timerID ≠ id := by
        intro equal
        rw [equal,free] at there
        contradiction
      exact ⟨k',by simpa [other] using there,owner⟩

omit [DecidableEq τ] [DecidableEq ID] in
theorem idle_of_not_running (tracked : s.Tracked port) (t : τ) (stopped : ¬ s.Running port t) :
    ∀ id k, s.swtmr id = some k → k.owner ≠ t := by
  rintro id k here rfl
  exact stopped (running_of_owner tracked id k here)

omit [DecidableEq ID] in
theorem tracked_create (tracked : s.Tracked port) (t : τ) (interval func arg : UInt32)
    (out : KernelOutcomes ID)
    (stopped : func = 0 ∨ interval = 0 ∨ ¬ s.Running port t) :
    (s.osalTimerCreate port (some t) interval func arg out).2.Tracked port := by
  unfold osalTimerCreate
  dsimp only
  split
  next => exact tracked
  next valid =>
    obtain ⟨someFunc,someInterval⟩ := not_or.mp valid
    have idle := idle_of_not_running tracked t
      ((stopped.resolve_left someFunc).resolve_left someInterval)
    split
    next => exact tracked_detached tracked t idle none false (by simp)
    next => exact tracked_detached tracked t idle _ false (by simp)

theorem tracked_start (tracked : s.Tracked port) (t : τ) (mode : SwtmrMode)
    (out : KernelOutcomes ID)
    (stopped : s.Running port t → out.losSwtmrCreate = none ∨ out.losSwtmrStart = false)
    (cleans : out.losSwtmrStart = true ∨ out.cleanup = true) :
    (s.osalStartTimer port (some t) mode out).2.Tracked port := by
  cases kept : s.realTimer t with
  | none => simpa only [osalStartTimer,kept] using tracked
  | some liteTimer =>
    simp only [osalStartTimer,kept]
    split
    next => exact tracked
    next =>
      cases chosen : out.losSwtmrCreate with
      | none => simpa only [losSwtmrCreate] using tracked
      | some id =>
        simp only [losSwtmrCreate]
        by_cases taken : id = port.invalid ∨ (s.swtmr id).isSome
        · simpa only [if_pos taken] using tracked
        · obtain ⟨valid,unused⟩ := not_or.mp taken
          have free : s.swtmr id = none := by simpa using unused
          simp only [if_neg taken]
          split
          next failed =>
            have cleaned : out.cleanup = true := cleans.resolve_left (by simp [failed])
            simp only [losSwtmrDelete,cleaned,Function.update_self,Option.isSome_some,and_self,
              if_true,Function.update_idem]
            rw [← free,Function.update_eq_self]
            exact tracked
          next ok =>
            have idle := idle_of_not_running tracked t fun running =>
              (stopped running).elim (by simp [chosen]) ok
            exact tracked_started tracked t idle id free valid _ rfl _ rfl

omit [DecidableEq τ] [DecidableEq ID] in
theorem tracked_record (tracked : s.Tracked port) (t : τ) (id : ID) (k : Swtmr τ)
    (here : s.swtmr id = some k) (own : k.owner = t) : (s.record t id).Tracked port := by
  refine ⟨tracked.stored,tracked.live,?_⟩
  intro d mem
  rcases List.mem_append.mp mem with earlier | new
  · exact tracked.deletions d earlier
  · rw [List.mem_singleton.mp new]
    simp [here,own]

omit [DecidableEq ID] in
theorem tracked_interval (tracked : s.Tracked port) (t : τ) (liteTimer : OsalLitetimer ID)
    (kept : s.realTimer t = some liteTimer) (interval : UInt32) :
    Tracked port {s with
      realTimer := Function.update s.realTimer t (some {liteTimer with interval := interval})} := by
  refine ⟨?_,?_,tracked.deletions⟩
  · intro id k here
    obtain ⟨old,stored,same,valid,started⟩ := tracked.stored id k here
    by_cases own : k.owner = t
    · rw [own,kept] at stored
      cases stored
      exact ⟨{liteTimer with interval := interval},by simp [own],same,valid,started⟩
    · exact ⟨old,by simpa [own] using stored,same,valid,started⟩
  · intro j new stored valid started
    by_cases same : j = t
    · subst j
      simp only [Function.update_self,Option.some.injEq] at stored
      subst new
      exact tracked.live t liteTimer kept valid started
    · simp only [Function.update_of_ne same] at stored
      exact tracked.live j new stored valid started

omit [DecidableEq τ] in
theorem losSwtmrDelete_cases (s : OsalTimers τ ID) (id : ID) (granted : Bool) :
    s.losSwtmrDelete id granted = (false,s) ∨
      s.losSwtmrDelete id granted = (true,{s with swtmr := Function.update s.swtmr id none}) := by
  unfold losSwtmrDelete
  split
  · exact .inr rfl
  · exact .inl rfl

theorem tracked_setTimeout (tracked : s.Tracked port) (t : τ) (interval : UInt32)
    (out : KernelOutcomes ID) (cleans : out.losSwtmrStart = true ∨ out.cleanup = true)
    (kept : ∀ liteTimer, s.realTimer t = some liteTimer → interval ≠ 0 →
      liteTimer.interval ≠ interval → s.lost t = false) :
    (s.osalTimerSetTimeout port (some t) interval out).2.Tracked port := by
  cases stored : s.realTimer t with
  | none => simpa only [osalTimerSetTimeout,stored] using tracked
  | some liteTimer =>
    simp only [osalTimerSetTimeout,stored]
    split_ifs with zero invalid same
    · exact tracked
    · exact tracked
    · exact tracked
    · have started := kept liteTimer stored zero same
      obtain ⟨k,here,own⟩ := tracked.live t liteTimer stored invalid started
      have changed := tracked_interval tracked t liteTimer stored interval
      have asked := tracked_record changed t liteTimer.timerID k here own
      rcases losSwtmrDelete_cases (record t liteTimer.timerID {s with
          realTimer := Function.update s.realTimer t (some {liteTimer with interval := interval})})
        liteTimer.timerID out.losSwtmrDelete with refused | deleted
      · rw [refused]
        exact asked
      · rw [deleted]
        have stopped := tracked_removed asked t liteTimer.timerID k here own
          (some {liteTimer with interval := interval}) true (by simp)
        simp only [record,Function.update_idem] at stopped
        refine tracked_start stopped t .period out ?_ cleans
        rintro ⟨_,_,_,running⟩
        simp at running

theorem tracked_delete (tracked : s.Tracked port) (t : τ) (out : KernelOutcomes ID)
    (kept : s.lost t = false) : (s.osalTimerDelete port (some t) out).2.Tracked port := by
  cases stored : s.realTimer t with
  | none => simpa only [osalTimerDelete,stored] using tracked
  | some liteTimer =>
    simp only [osalTimerDelete,stored]
    split
    next invalid =>
      have idle : ∀ id k, s.swtmr id = some k → k.owner ≠ t := by
        rintro id k here rfl
        obtain ⟨other,same,rfl,valid,_⟩ := tracked.stored id k here
        rw [stored] at same
        cases same
        exact valid invalid
      have freed := tracked_detached tracked t idle none (s.lost t) (by simp)
      rwa [Function.update_eq_self] at freed
    next valid =>
      obtain ⟨k,here,own⟩ := tracked.live t liteTimer stored valid kept
      have asked := tracked_record tracked t liteTimer.timerID k here own
      rcases losSwtmrDelete_cases (s.record t liteTimer.timerID) liteTimer.timerID
        out.losSwtmrDelete with refused | deleted
      · rw [refused]
        exact asked
      · rw [deleted]
        have freed := tracked_removed asked t liteTimer.timerID k here own none (s.lost t)
          (by simp)
        simpa [record] using freed

end Tracking

theorem tracked_serve (port : TimerPort ID) (c : TimerCall τ × KernelOutcomes ID)
    (s : OsalTimers τ ID) (tracked : s.Tracked port) (meets : TimerCall.Meets port c s) :
    (TimerCall.serve port c s).2.Tracked port := by
  obtain ⟨c,out⟩ := c
  cases c with
  | create timer interval func arg =>
    cases timer with
    | none => exact tracked
    | some t => exact tracked_create tracked t interval func arg out meets
  | startLoop timer | startOnce timer =>
    cases timer with
    | none => exact tracked
    | some t => exact tracked_start tracked t _ out meets.1 meets.2
  | setTimeout timer interval =>
    cases timer with
    | none => exact tracked
    | some t => exact tracked_setTimeout tracked t interval out meets.1 meets.2
  | delete timer =>
    cases timer with
    | none => exact tracked
    | some t => exact tracked_delete tracked t out meets

end OsalTimers

/-- Throughout a run of calls that meet the condition the timers of the kernel are owned. -/
theorem osalTimers_owned (port : TimerPort ID) (s : OsalTimers τ ID)
    (reached : Machine.Reach (TimerCall.serve port) (TimerCall.Meets port) OsalTimers.initial s) :
    s.Owned := by
  have tracked : s.Tracked port := Machine.reach_invariant _ _ _ (OsalTimers.Tracked port)
    ⟨by simp [OsalTimers.initial],by simp [OsalTimers.initial],by simp [OsalTimers.initial]⟩
    (fun c s => OsalTimers.tracked_serve port c s) s reached
  exact OsalTimers.owned_of_tracked tracked

private def callback : UInt32 := 4096

private def granting (id : UInt16) : KernelOutcomes UInt16 := ⟨true,some id,true,true,true⟩

private def changedPeriod : List (TimerCall Bool × KernelOutcomes UInt16) :=
  [(.create (some true) 10 callback 0,granting 3),(.startLoop (some true),granting 3),
    (.create (some false) 10 callback 0,granting 3),(.startOnce (some false),granting 4),
    (.setTimeout (some true) 20,granting 5),(.delete (some true),granting 0)]

theorem osalTimers_owned_changed :
    let s := (Machine.run (TimerCall.serve (liteosTimer 0xFFFF id)) changedPeriod
      OsalTimers.initial).2
    s.Owned ∧ s.deletions = [(true,some true),(true,some true)] := by
  have met : Machine.MeetsAll (TimerCall.serve (liteosTimer 0xFFFF id))
      (TimerCall.Meets (liteosTimer 0xFFFF id)) changedPeriod OsalTimers.initial := by
    refine ⟨.inr (.inr ?_),⟨fun running => ?_,.inl rfl⟩,.inr (.inr ?_),⟨fun running => ?_,.inl rfl⟩,
      ⟨.inl rfl,fun _ _ _ _ => rfl⟩,rfl,trivial⟩
    · rintro ⟨liteTimer,⟨⟩,_⟩
    · obtain ⟨liteTimer,kept,valid,_⟩ := running
      cases kept
      exact absurd rfl valid
    · rintro ⟨liteTimer,⟨⟩,_⟩
    · obtain ⟨liteTimer,kept,valid,_⟩ := running
      cases kept
      exact absurd rfl valid
  exact ⟨osalTimers_owned (liteosTimer 0xFFFF id) _
    (Machine.reach_run _ _ _ changedPeriod _ .start met),rfl⟩

/-- The kernel has no timer for the restart, and gives the identifier to another. -/
private def reused (ID : Type) (n : ID) : List (TimerCall Bool × KernelOutcomes ID) :=
  [(.create (some true) 10 callback 0,⟨true,some n,true,true,true⟩),
    (.startLoop (some true),⟨true,some n,true,true,true⟩),
    (.setTimeout (some true) 20,⟨true,none,true,true,true⟩),
    (.create (some false) 10 callback 0,⟨true,some n,true,true,true⟩),
    (.startLoop (some false),⟨true,some n,true,true,true⟩),
    (.delete (some true),⟨true,some n,true,true,true⟩)]

theorem osalTimers_delete_reused :
    (¬ ∀ s : OsalTimers Bool UInt16, Machine.Reach (TimerCall.serve (liteosTimer 0xFFFF id))
        (fun _ _ => True) OsalTimers.initial s → s.Owned) ∧
      ¬ ∀ s : OsalTimers Bool UInt32, Machine.Reach (TimerCall.serve liteosMTimer)
        (fun _ _ => True) OsalTimers.initial s → s.Owned := by
  constructor
  · intro owned
    have final := owned _ (Machine.reach_run _ _ _ (reused UInt16 3) _ .start
      ⟨trivial,trivial,trivial,trivial,trivial,trivial,trivial⟩)
    have foreign : some false = some true := final.deletions (true,some false) (by decide)
    contradiction
  · intro owned
    have final := owned _ (Machine.reach_run _ _ _ (reused UInt32 3) _ .start
      ⟨trivial,trivial,trivial,trivial,trivial,trivial,trivial⟩)
    have foreign : some false = some true := final.deletions (true,some false) (by decide)
    contradiction

end DriversAdapter.Osal
