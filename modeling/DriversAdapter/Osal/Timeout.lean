import DriversAdapter.Osal.Timer

/-! A new period for a timer that is running. The timer of the kernel is deleted and another one
is started in its place, always as a periodic one. -/
namespace DriversAdapter.Osal
open DriversAdapter.Base DriversAdapter.Semantics

variable {τ ID : Type} [DecidableEq τ] [DecidableEq ID]

namespace OsalTimers

/-- The one timer that the kernel has for this OSAL timer is what was started in this mode. -/
structure Started (port : TimerPort ID) (t : τ) (mode : SwtmrMode) (liteTimer : OsalLitetimer ID)
    (s : OsalTimers τ ID) : Prop where
  kept : s.realTimer t = some liteTimer
  valid : liteTimer.timerID ≠ port.invalid
  interval : liteTimer.interval ≠ 0
  func : liteTimer.func ≠ 0
  running : s.swtmr liteTimer.timerID =
    some ⟨t,mode,port.ticks liteTimer.interval,liteTimer.func,liteTimer.arg⟩
  single : ∀ id k, s.swtmr id = some k → k.owner = t → id = liteTimer.timerID

/-- The kernel has an identifier for a timer of its own in place of the one at `old`. -/
def Creates (port : TimerPort ID) (old : ID) (out : KernelOutcomes ID) (s : OsalTimers τ ID) :
    Prop :=
  ∃ id, out.losSwtmrCreate = some id ∧ id ≠ port.invalid ∧ (id = old ∨ s.swtmr id = none)

/-- Success replaces the timer of the kernel by one with the new period, in the mode of the old
one; a call that fails leaves the stored period and the kernel's timer as they were. -/
structure Replaces (port : TimerPort ID) (t : τ) (mode : SwtmrMode) (liteTimer : OsalLitetimer ID)
    (interval : UInt32) (s : OsalTimers τ ID) (done : Int × OsalTimers τ ID) : Prop where
  replaced : done.1 = hdfSuccess →
    ∃ id, done.2.Started port t mode {liteTimer with interval := interval,timerID := id}
  failed : done.1 ≠ hdfSuccess →
    (done.2.realTimer t).map OsalLitetimer.interval = some liteTimer.interval ∧
      ∀ id k, k.owner = t → (done.2.swtmr id = some k ↔ s.swtmr id = some k)

section Start
variable {port : TimerPort ID} {s : OsalTimers τ ID} {t : τ} {liteTimer : OsalLitetimer ID}
variable (mode : SwtmrMode) (out : KernelOutcomes ID)

omit [DecidableEq τ] in
theorem losSwtmrDelete_realTimer (id : ID) (granted : Bool) (s : OsalTimers τ ID) :
    (s.losSwtmrDelete id granted).2.realTimer = s.realTimer := by
  unfold losSwtmrDelete
  split <;> rfl

theorem start_cases (port : TimerPort ID) (kept : s.realTimer t = some liteTimer)
    (some_interval : liteTimer.interval ≠ 0) (some_func : liteTimer.func ≠ 0) :
    (∃ id, out.losSwtmrCreate = some id ∧ id ≠ port.invalid ∧ s.swtmr id = none ∧
      out.losSwtmrStart = true ∧ s.osalStartTimer port (some t) mode out =
        (hdfSuccess,{s with
          swtmr := Function.update s.swtmr id
            (some ⟨t,mode,port.ticks liteTimer.interval,liteTimer.func,liteTimer.arg⟩)
          realTimer := Function.update s.realTimer t (some {liteTimer with timerID := id})
          lost := Function.update s.lost t false})) ∨
    (¬ ((∃ id, out.losSwtmrCreate = some id ∧ id ≠ port.invalid ∧ s.swtmr id = none) ∧
        out.losSwtmrStart = true) ∧
      (s.osalStartTimer port (some t) mode out).1 = hdfFailure ∧
      (s.osalStartTimer port (some t) mode out).2.realTimer = s.realTimer) := by
  have complete : ¬ (liteTimer.interval = 0 ∨ liteTimer.func = 0) :=
    not_or.mpr ⟨some_interval,some_func⟩
  simp only [osalStartTimer,kept,if_neg complete]
  cases chosen : out.losSwtmrCreate with
  | none =>
    refine .inr ⟨?_,rfl,rfl⟩
    rintro ⟨⟨id,⟨⟩,_⟩,_⟩
  | some id =>
    by_cases taken : id = port.invalid ∨ (s.swtmr id).isSome
    · simp only [losSwtmrCreate,if_pos taken]
      refine .inr ⟨?_,by simp,by simp⟩
      rintro ⟨⟨_,⟨⟩,valid,free⟩,_⟩
      rcases taken with bad | used
      · exact valid bad
      · simp [free] at used
    · obtain ⟨valid,unused⟩ := not_or.mp taken
      have free : s.swtmr id = none := by simpa using unused
      simp only [losSwtmrCreate,if_neg taken]
      cases started : out.losSwtmrStart with
      | true => exact .inl ⟨id,rfl,valid,free,rfl,rfl⟩
      | false =>
        exact .inr ⟨by simp,rfl,losSwtmrDelete_realTimer id out.cleanup _⟩

end Start

section SetTimeout
variable {port : TimerPort ID} {s : OsalTimers τ ID} {t : τ} {mode : SwtmrMode}
variable {liteTimer : OsalLitetimer ID} (interval : UInt32) (out : KernelOutcomes ID)

/-- The state in which the new timer is started: the old one is gone, the period is stored. -/
def stopped (t : τ) (liteTimer : OsalLitetimer ID) (interval : UInt32) (s : OsalTimers τ ID) :
    OsalTimers τ ID :=
  {s.record t liteTimer.timerID with
    realTimer := Function.update s.realTimer t (some {liteTimer with interval := interval})
    swtmr := Function.update s.swtmr liteTimer.timerID none
    lost := Function.update s.lost t true}

theorem setTimeout_deleted (started : s.Started port t mode liteTimer) (positive : interval ≠ 0)
    (new : liteTimer.interval ≠ interval) (granted : out.losSwtmrDelete = true) :
    s.osalTimerSetTimeout port (some t) interval out =
      (s.stopped t liteTimer interval).osalStartTimer port (some t) .period out := by
  simp only [osalTimerSetTimeout,started.kept,if_neg positive,if_neg started.valid,if_neg new,
    losSwtmrDelete,record,started.running,granted,Option.isSome_some,and_self,if_true,
    osalTimerStartLoop,stopped]

theorem setTimeout_refused (started : s.Started port t mode liteTimer) (positive : interval ≠ 0)
    (new : liteTimer.interval ≠ interval) (refused : out.losSwtmrDelete = false) :
    (s.osalTimerSetTimeout port (some t) interval out).1 = hdfFailure ∧
      (s.osalTimerSetTimeout port (some t) interval out).2.realTimer t =
        some {liteTimer with interval := interval} := by
  simp only [osalTimerSetTimeout,started.kept,if_neg positive,if_neg started.valid,if_neg new,
    losSwtmrDelete,record,refused,Bool.false_eq_true,false_and,if_false]
  exact ⟨trivial,Function.update_self _ _ _⟩

omit [DecidableEq τ] [DecidableEq ID] in
/-- A failing call that has stored the new period does not leave the old one. -/
theorem not_replaces_of_stored (new : liteTimer.interval ≠ interval) {done : Int × OsalTimers τ ID}
    (failed : done.1 = hdfFailure)
    (stored : done.2.realTimer t = some {liteTimer with interval := interval}) :
    ¬ s.Replaces port t mode liteTimer interval done := by
  intro replaces
  have failure : hdfFailure ≠ hdfSuccess := by decide
  obtain ⟨kept,_⟩ := replaces.failed (failed ▸ failure)
  rw [stored] at kept
  exact new (Option.some.inj kept).symm

/-- Any outcome but a periodic timer that gets all it needs from the kernel loses the mode, the
period or the timer. -/
theorem osalTimerSetTimeout_replaces_iff (started : s.Started port t mode liteTimer)
    (new : liteTimer.interval ≠ interval) :
    s.Replaces port t mode liteTimer interval (s.osalTimerSetTimeout port (some t) interval out) ↔
      interval = 0 ∨ mode = .period ∧ out.losSwtmrDelete = true ∧
        s.Creates port liteTimer.timerID out ∧ out.losSwtmrStart = true := by
  have param : hdfErrInvalidParam ≠ hdfSuccess := by decide
  by_cases zero : interval = 0
  · have done : s.osalTimerSetTimeout port (some t) interval out = (hdfErrInvalidParam,s) := by
      simp only [osalTimerSetTimeout,started.kept,if_pos zero]
    rw [done]
    refine iff_of_true ⟨fun ok => absurd ok param,fun _ => ⟨?_,fun _ _ _ => Iff.rfl⟩⟩ (.inl zero)
    dsimp only
    rw [started.kept]
    rfl
  rw [or_iff_right zero]
  cases granted : out.losSwtmrDelete with
  | false =>
    obtain ⟨failed,stored⟩ := setTimeout_refused interval out started zero new granted
    refine iff_of_false (not_replaces_of_stored interval new failed stored) ?_
    rintro ⟨_,⟨⟩,_⟩
  | true =>
    have kept : (s.stopped t liteTimer interval).realTimer t =
        some {liteTimer with interval := interval} := Function.update_self _ _ _
    have free : ∀ id, (s.stopped t liteTimer interval).swtmr id = none ↔
        id = liteTimer.timerID ∨ s.swtmr id = none := by
      intro id
      by_cases same : id = liteTimer.timerID
      · simp [stopped,same]
      · simp [stopped,record,same]
    rw [setTimeout_deleted interval out started zero new granted]
    rcases start_cases .period out port kept zero started.func with
      ⟨id,chosen,valid,unused,begun,done⟩ | ⟨lacks,failed,same⟩
    · rw [done]
      have creates : s.Creates port liteTimer.timerID out := ⟨id,chosen,valid,(free id).mp unused⟩
      have single : ∀ other k, Function.update (s.stopped t liteTimer interval).swtmr id
          (some ⟨t,.period,port.ticks interval,liteTimer.func,liteTimer.arg⟩) other = some k →
            k.owner = t → other = id := by
        intro other k here own
        by_contra apart
        rw [Function.update_of_ne apart] at here
        by_cases old : other = liteTimer.timerID
        · rw [(free other).mpr (.inl old)] at here
          contradiction
        · simp only [stopped,record,Function.update_of_ne old] at here
          exact old (started.single other k here own)
      constructor
      · intro replaces
        obtain ⟨id',after⟩ := replaces.replaced rfl
        have mine := after.running
        have here : id' = id := single id' _ mine rfl
        subst id'
        simp only [Function.update_self,Option.some.injEq] at mine
        exact ⟨(congrArg Swtmr.mode mine).symm,rfl,creates,begun⟩
      · rintro ⟨rfl,_⟩
        refine ⟨fun _ => ⟨id,Function.update_self _ _ _,valid,zero,started.func,
          Function.update_self _ _ _,single⟩,fun failed => absurd rfl failed⟩
    · refine iff_of_false (not_replaces_of_stored interval new failed ?_) ?_
      · rw [same,kept]
      · rintro ⟨_,_,⟨id,chosen,valid,unused⟩,begun⟩
        exact lacks ⟨⟨id,chosen,valid,(free id).mpr unused⟩,begun⟩

end SetTimeout

private def afterStart (mode : SwtmrMode) : OsalTimers Unit UInt16 :=
  let created := initial.osalTimerCreate (liteosTimer 0xFFFF id) (some ()) 10 4096 0
    ⟨true,none,true,true,true⟩
  (created.2.osalStartTimer (liteosTimer 0xFFFF id) (some ()) mode ⟨true,some 3,true,true,true⟩).2

private theorem afterStart_started (mode : SwtmrMode) :
    (afterStart mode).Started (liteosTimer 0xFFFF id) () mode ⟨0,3,4096,10⟩ := by
  refine ⟨rfl,by decide,by decide,by decide,rfl,fun id k here _ => ?_⟩
  by_contra apart
  have none : (afterStart mode).swtmr id = Option.none := Function.update_of_ne apart _ _
  rw [none] at here
  contradiction

theorem osalTimerSetTimeout_replaces_loop :
    (afterStart .period).Replaces (liteosTimer 0xFFFF id) () .period ⟨0,3,4096,10⟩ 20
      ((afterStart .period).osalTimerSetTimeout (liteosTimer 0xFFFF id) (some ()) 20
        ⟨true,some 3,true,true,true⟩) :=
  (osalTimerSetTimeout_replaces_iff 20 ⟨true,some 3,true,true,true⟩ (afterStart_started .period)
    (by decide)).mpr (.inr ⟨rfl,rfl,⟨3,rfl,by decide,.inl rfl⟩,rfl⟩)

/-- A timer that was to run once is given another period, and runs on and on. -/
theorem osalTimerSetTimeout_not_replaces :
    ¬ (afterStart .noSelfdelete).Replaces (liteosTimer 0xFFFF id) () .noSelfdelete ⟨0,3,4096,10⟩ 20
      ((afterStart .noSelfdelete).osalTimerSetTimeout (liteosTimer 0xFFFF id) (some ()) 20
        ⟨true,some 3,true,true,true⟩) := by
  intro replaces
  obtain ⟨other,after⟩ := replaces.replaced rfl
  have here := after.running
  obtain rfl : 3 = other := after.single 3 _ rfl rfl
  have mode := congrArg (Option.map Swtmr.mode) here
  contradiction

end OsalTimers

end DriversAdapter.Osal
