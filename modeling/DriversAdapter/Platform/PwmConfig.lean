import DriversAdapter.Base.Word
import DriversAdapter.Semantics.Checked
import Mathlib.Tactic.Ring

/-! What two PWM drivers program for a period and a duty in nanoseconds: the frequency and the
percentage of one, and the counts of the other's timers. -/
namespace DriversAdapter.Platform.Pwm
open DriversAdapter.Base DriversAdapter.Semantics

structure PwmConfig where
  duty : UInt32
  period : UInt32
  normalPolarity : Bool
  enabled : Bool

/-- What becomes of the hardware. -/
inductive PwmAction (α : Type)
  | untouched
  | programmed (cfg : α)
  | stopped

def perSecNsec : UInt32 := 1000000000

/-- Both drivers have the same check of what they are given. -/
theorem taken_iff (pwm : Bool) (config : PwmConfig) :
    ¬ (pwm = false ∨ perSecNsec < config.period) ↔ pwm = true ∧ config.period ≤ perSecNsec := by
  simp [UInt32.not_lt]

namespace Bes

structure HalPwmCfg where
  freq : UInt32
  ratio : UInt32
  inv : Bool
  sleepOn : Bool

def percent : UInt32 := 100

def pwmDevSetConfig (pwm : Bool) (config : PwmConfig) : Checked (Int × PwmAction HalPwmCfg) :=
  if pwm = false ∨ perSecNsec < config.period then pure (hdfFailure,.untouched)
  else do
    let freq ← Checked.div perSecNsec config.period
    let scaled ← Checked.mul config.duty percent
    let ratio ← Checked.div scaled config.period
    if config.enabled = true then pure (hdfSuccess,.programmed ⟨freq,ratio,false,false⟩)
    else pure (hdfSuccess,.stopped)

/-- The frequency and the percentage are those of the configuration, rounded down. -/
structure Programs (config : PwmConfig) (done : Checked (Int × PwmAction HalPwmCfg)) : Prop where
  exact : done.exact = true
  cfg : ∀ cfg, done.value.2 = .programmed cfg →
    cfg.freq.toNat = 10^9 / config.period.toNat ∧
      cfg.ratio.toNat = 100 * config.duty.toNat / config.period.toNat

/-- The divisor is not zero and the duty can be taken a hundredfold. -/
def Exact (config : PwmConfig) : Prop := config.period ≠ 0 ∧ config.duty.toNat * 100 < 2^32

theorem exact_taken (config : PwmConfig) (within : config.period ≤ perSecNsec) :
    (pwmDevSetConfig true config).exact = true ↔ Exact config := by
  have bounded := (taken_iff true config).mpr ⟨rfl,within⟩
  have steps : (pwmDevSetConfig true config).exact =
      (config.period ≠ 0 && (config.duty.toNat * 100 < 2^32 && (config.period ≠ 0 && true))) := by
    unfold pwmDevSetConfig
    rw [if_neg bounded]
    cases config.enabled <;> rfl
  rw [steps,Exact]
  simp only [Bool.and_eq_true,decide_eq_true_eq,and_true]
  tauto

theorem programs_taken (config : PwmConfig) (within : config.period ≤ perSecNsec)
    (exact : Exact config) : Programs config (pwmDevSetConfig true config) := by
  have bounded := (taken_iff true config).mpr ⟨rfl,within⟩
  refine ⟨(exact_taken config within).mpr exact,fun cfg here => ?_⟩
  have scaled : (Checked.mul config.duty percent).value.toNat = config.duty.toNat * 100 :=
    Checked.mul_toNat (decide_eq_true exact.2)
  unfold pwmDevSetConfig at here
  rw [if_neg bounded] at here
  cases enabled : config.enabled with
  | false => simp [enabled] at here
  | true =>
    simp only [enabled,if_true,Checked.value_bind,Checked.value_pure,
      PwmAction.programmed.injEq] at here
    rw [← here]
    refine ⟨Checked.div_toNat,?_⟩
    rw [Checked.div_toNat,scaled,Nat.mul_comm]

/-- A configuration that the driver takes. -/
theorem set_programs_iff (pwm : Bool) (config : PwmConfig) :
    ((pwmDevSetConfig pwm config).value.1 = hdfSuccess →
        Programs config (pwmDevSetConfig pwm config)) ↔
      (pwm = true → config.period ≤ perSecNsec → Exact config) := by
  have failed : hdfFailure ≠ hdfSuccess := by decide
  by_cases taken : pwm = true ∧ config.period ≤ perSecNsec
  · obtain ⟨rfl,within⟩ := taken
    have success : (pwmDevSetConfig true config).value.1 = hdfSuccess := by
      unfold pwmDevSetConfig
      rw [if_neg ((taken_iff true config).mpr ⟨rfl,within⟩)]
      cases config.enabled <;> rfl
    simp only [success,within,forall_const]
    exact ⟨fun programs => (exact_taken config within).mp programs.exact,
      programs_taken config within⟩
  · unfold pwmDevSetConfig
    rw [if_pos (not_not.mp (mt (taken_iff pwm config).mp taken))]
    exact iff_of_true (fun done => absurd done failed) fun present within =>
      absurd ⟨present,within⟩ taken

end Bes

namespace Stm32f4xx

inductive PwmTim
  | tim1 | tim2 | tim3 | tim4 | tim5 | tim6 | tim7 | tim8 | tim9 | tim10 | tim11 | tim12 | tim13
  | tim14
  deriving DecidableEq

/-- The table has room for one entry more than it is given. -/
def stTimFreq (tim : PwmTim) : UInt32 :=
  [168000000,84000000,84000000,84000000,84000000,84000000,84000000,168000000,168000000,168000000,
    168000000,84000000,84000000].getD tim.ctorIdx 0

/-- The clock of a timer in hertz. -/
def timerFreq : PwmTim → Nat
  | .tim1 | .tim8 | .tim9 | .tim10 | .tim11 => 168000000
  | .tim2 | .tim3 | .tim4 | .tim5 | .tim6 | .tim7 | .tim12 | .tim13 | .tim14 => 84000000

structure PwmResource where
  pwmTim : PwmTim
  prescaler : UInt32

structure PwmFreqArg where
  period : UInt32
  duty : UInt32

structure TimPwm where
  autoreload : UInt32
  prescaler : UInt32
  compareValue : UInt32
  ocPolarityHigh : Bool

def initPwmFreqAndPeriod (config : PwmConfig) (arg : PwmFreqArg) (resource : PwmResource) :
    Checked (Int × PwmFreqArg) :=
  if config.period = 0 then pure (hdfFailure,arg)
  else do
    let freq ← Checked.div perSecNsec config.period
    let parts ← Checked.add resource.prescaler 1
    let clock ← Checked.quotient (stTimFreq resource.pwmTim) parts
    let realHz ← Checked.trunc clock
    if freq = 0 then pure (hdfFailure,arg)
    else do
      let period ← Checked.div realHz freq
      if config.period = 0 then pure (hdfFailure,arg)
      else do
        let share ← Checked.quotient config.duty config.period
        let duty ← Checked.trunc (share * period.toNat)
        pure (hdfSuccess,⟨period,duty⟩)

def initTimPwm (arg : PwmFreqArg) (config : PwmConfig) (resource : PwmResource) :
    Checked TimPwm := do
  let autoreload ← Checked.sub arg.period 1
  pure ⟨autoreload,resource.prescaler,arg.duty,config.normalPolarity⟩

def pwmDevSetConfig (pwm : Bool) (resource : PwmResource) (config : PwmConfig) :
    Checked (Int × PwmAction TimPwm) :=
  if pwm = false ∨ perSecNsec < config.period then pure (hdfFailure,.untouched)
  else if config.enabled = true then do
    let (ret,arg) ← initPwmFreqAndPeriod config ⟨0,0⟩ resource
    if ret ≠ hdfSuccess then pure (hdfFailure,.untouched)
    else do
      let tim ← initTimPwm arg config resource
      pure (hdfSuccess,.programmed tim)
  else pure (hdfSuccess,.stopped)

/-- The counts of a period, of which the reload value is the last. -/
def TimPwm.counts (tim : TimPwm) : Nat := (tim.autoreload + 1).toNat

/-- The timer counts at least once in a period, not one count off the period that was asked for,
and does not compare behind its end. -/
structure Programs (resource : PwmResource) (config : PwmConfig)
    (done : Checked (Int × PwmAction TimPwm)) : Prop where
  exact : done.exact = true
  tim : ∀ tim, done.value.2 = .programmed tim → 1 ≤ tim.counts ∧
    |(tim.counts : ℚ) - (config.period.toNat * timerFreq resource.pwmTim : ℚ) /
      ((resource.prescaler.toNat + 1) * 10^9)| ≤ 1 ∧ tim.compareValue.toNat ≤ tim.counts

section Arithmetic
variable (P T D Q : Nat)

/-- The count is not short of the period by one. -/
theorem period_le_counts (divided : 0 < D) (some : 0 < Q / P) :
    P * T ≤ (T / D / (Q / P) + 1) * (D * Q) := by
  have clock : T ≤ D * (T / D + 1) := by
    have rounded := Nat.lt_mul_div_succ T divided
    exact Nat.le_of_lt rounded
  have real : T / D + 1 ≤ Q / P * (T / D / (Q / P) + 1) := Nat.lt_mul_div_succ (T / D) some
  have second : P * (Q / P) ≤ Q := Nat.mul_div_le Q P
  calc P * T ≤ P * (D * (Q / P * (T / D / (Q / P) + 1))) :=
        Nat.mul_le_mul_left P (clock.trans (Nat.mul_le_mul_left D real))
    _ = (T / D / (Q / P) + 1) * (D * (P * (Q / P))) := by ring
    _ ≤ (T / D / (Q / P) + 1) * (D * Q) :=
        Nat.mul_le_mul_left _ (Nat.mul_le_mul_left D second)

/-- What the count is over the period is what the frequency loses in its rounding, less what the
other divisions leave. -/
theorem counts_le_iff (divided : 0 < D) :
    T / D / (Q / P) * (D * Q) ≤ P * T + D * Q ↔
      T / D / (Q / P) * (Q % P) ≤ Q + P * (T / D % (Q / P)) + P * (T % D) / D := by
  have clock : T = D * (T / D) + T % D := (Nat.div_add_mod T D).symm
  have second : Q = P * (Q / P) + Q % P := (Nat.div_add_mod Q P).symm
  have rest : T / D = Q / P * (T / D / (Q / P)) + T / D % (Q / P) := (Nat.div_add_mod _ _).symm
  have excess : T / D / (Q / P) * (D * Q) + D * (P * (T / D % (Q / P))) + P * (T % D) =
      P * T + D * (T / D / (Q / P) * (Q % P)) := by
    generalize T / D / (Q / P) = N at rest ⊢
    generalize T / D % (Q / P) = left at rest ⊢
    generalize T % D = ticks at clock ⊢
    generalize Q % P = lost at second ⊢
    generalize Q / P = F at rest second
    generalize T / D = R at rest clock
    rw [clock,second,rest]
    ring
  have bound : T / D / (Q / P) * (D * Q) ≤ P * T + D * Q ↔
      T / D / (Q / P) * (Q % P) * D ≤ D * (Q + P * (T / D % (Q / P))) + P * (T % D) := by
    rw [Nat.mul_add D,Nat.mul_comm _ D]
    omega
  rw [bound,← Nat.le_div_iff_mul_le divided,Nat.mul_add_div divided]

end Arithmetic

section Program
variable {resource : PwmResource} {config : PwmConfig}

def parts (resource : PwmResource) : Nat := resource.prescaler.toNat + 1

def realHz (resource : PwmResource) : Nat :=
  (stTimFreq resource.pwmTim).toNat / parts resource

def freq (config : PwmConfig) : Nat := 10^9 / config.period.toNat

/-- The prescaler has a successor, the timer is as fast as the frequency, and what that loses in
whole hertz is made up by a second and what is left of the other divisions. -/
structure Countable (resource : PwmResource) (config : PwmConfig) : Prop where
  prescaler : parts resource < 2^32
  fast : freq config ≤ realHz resource
  rounded : realHz resource / freq config * (10^9 % config.period.toNat) ≤
    10^9 + config.period.toNat * (realHz resource % freq config) +
      config.period.toNat * ((stTimFreq resource.pwmTim).toNat % parts resource) / parts resource

theorem freq_pos (given : config.period ≠ 0) (within : config.period ≤ perSecNsec) :
    0 < freq config := by
  have bound : config.period.toNat ≤ 10^9 := UInt32.le_iff_toNat_le.mp within
  have positive : 0 < config.period.toNat := by
    refine Nat.pos_of_ne_zero fun zero => given ?_
    exact UInt32.toNat_inj.mp zero
  exact Nat.div_pos bound positive

theorem parts_exact : (Checked.add resource.prescaler 1).exact = true ↔ parts resource < 2^32 :=
  decide_eq_true_iff

theorem parts_toNat (small : parts resource < 2^32) :
    (Checked.add resource.prescaler 1).value.toNat = parts resource :=
  Checked.add_toNat (parts_exact.mpr small)

theorem realHz_toNat (small : parts resource < 2^32) :
    (Checked.trunc (Checked.quotient (stTimFreq resource.pwmTim)
      (Checked.add resource.prescaler 1).value).value).value.toNat = realHz resource := by
  rw [Checked.trunc_quotient_toNat,parts_toNat small,realHz]

/-- A share of some counts is a word, and no more than those. -/
theorem share_exact (fits : config.duty ≤ config.period) (counts : UInt32) :
    (Checked.trunc ((Checked.quotient config.duty config.period).value * counts.toNat)).exact =
        true ∧
      (Checked.trunc ((Checked.quotient config.duty config.period).value *
        counts.toNat)).value.toNat ≤ counts.toNat := by
  have nonneg := Checked.quotient_nonneg config.duty config.period
  have one := Checked.quotient_le_one fits
  have le : (Checked.quotient config.duty config.period).value * counts.toNat ≤ counts.toNat :=
    mul_le_of_le_one_left (Nat.cast_nonneg _) one
  exact ⟨Checked.trunc_exact (mul_nonneg nonneg (Nat.cast_nonneg _)) le,Checked.trunc_le le⟩

/-- The arguments are computed without a failure, and exactly if the prescaler can be added to. -/
theorem initPwmFreqAndPeriod_given (resource : PwmResource) (given : config.period ≠ 0)
    (within : config.period ≤ perSecNsec) (fits : config.duty ≤ config.period) :
    let done := initPwmFreqAndPeriod config ⟨0,0⟩ resource
    done.value.1 = hdfSuccess ∧ (done.exact = true ↔ parts resource < 2^32) ∧
      (parts resource < 2^32 →
        done.value.2.period.toNat = realHz resource / freq config ∧
          done.value.2.duty.toNat ≤ done.value.2.period.toNat) := by
  have hertz : (Checked.div perSecNsec config.period).value ≠ 0 := by
    intro zero
    have none : freq config = 0 := Checked.div_toNat.symm.trans (congrArg UInt32.toNat zero)
    exact absurd none (Nat.ne_of_gt (freq_pos given within))
  dsimp only [initPwmFreqAndPeriod]
  rw [if_neg given]
  simp only [Checked.value_bind,Checked.exact_bind,if_neg hertz,if_neg given,Checked.value_pure,
    Checked.exact_pure]
  refine ⟨trivial,?_,fun small => ⟨?_,(share_exact fits _).2⟩⟩
  · simp only [Bool.and_eq_true,and_true,parts_exact]
    constructor
    · exact fun steps => steps.2.1
    · intro small
      have divisor : (Checked.add resource.prescaler 1).value ≠ 0 := by
        intro zero
        have none : parts resource = 0 := by
          rw [← parts_toNat small,zero]
          rfl
        exact absurd none (Nat.succ_ne_zero _)
      refine ⟨decide_eq_true given,small,decide_eq_true divisor,?_,decide_eq_true hertz,
        decide_eq_true given,(share_exact fits _).1⟩
      exact Checked.trunc_exact (Checked.quotient_nonneg _ _) (Checked.quotient_le _ _)
  · rw [Checked.div_toNat,Checked.div_toNat,realHz_toNat small]
    rfl

theorem within_one_iff (counts P T D : Nat) (divided : 0 < D) :
    |(counts : ℚ) - (P * T : ℚ) / (D * 10^9)| ≤ 1 ↔
      counts * (D * 10^9) ≤ P * T + D * 10^9 ∧ P * T ≤ (counts + 1) * (D * 10^9) := by
  have positive : (0 : ℚ) < D * 10^9 := by positivity
  have above : (counts : ℚ) ≤ (P * T : ℚ) / (D * 10^9) + 1 ↔
      counts * (D * 10^9) ≤ P * T + D * 10^9 := by
    rw [← sub_le_iff_le_add,le_div_iff₀ positive,sub_mul,one_mul,sub_le_iff_le_add]
    exact_mod_cast Iff.rfl
  have below : (P * T : ℚ) / (D * 10^9) ≤ counts + 1 ↔ P * T ≤ (counts + 1) * (D * 10^9) := by
    rw [div_le_iff₀ positive]
    exact_mod_cast Iff.rfl
  rw [abs_le,← above,← below]
  constructor
  · rintro ⟨low,high⟩
    exact ⟨by linarith,by linarith⟩
  · rintro ⟨low,high⟩
    exact ⟨by linarith,by linarith⟩

theorem stTimFreq_eq (running : stTimFreq resource.pwmTim ≠ 0) :
    (stTimFreq resource.pwmTim).toNat = timerFreq resource.pwmTim := by
  cases tim : resource.pwmTim with
  | tim14 =>
    rw [tim] at running
    exact absurd rfl running
  | _ => rfl

/-- For a timer that runs as fast as the frequency the counts are right just if the rounding is. -/
theorem counts_within_iff (given : config.period ≠ 0) (within : config.period ≤ perSecNsec)
    (fast : freq config ≤ realHz resource) :
    |((realHz resource / freq config : ℕ) : ℚ) -
        (config.period.toNat * timerFreq resource.pwmTim : ℚ) /
          ((resource.prescaler.toNat + 1) * 10^9)| ≤ 1 ↔
      realHz resource / freq config * (10^9 % config.period.toNat) ≤
        10^9 + config.period.toNat * (realHz resource % freq config) +
          config.period.toNat * ((stTimFreq resource.pwmTim).toNat % parts resource) /
            parts resource := by
  have some := freq_pos given within
  have running : stTimFreq resource.pwmTim ≠ 0 := by
    intro zero
    have stopped : realHz resource = 0 := by simp [realHz,zero]
    omega
  have divided : 0 < parts resource := Nat.succ_pos _
  have cast : (resource.prescaler.toNat + 1 : ℚ) = parts resource := by
    unfold parts
    push_cast
    rfl
  rw [cast,within_one_iff _ _ _ _ divided,← stTimFreq_eq running]
  refine (and_iff_left ?_).trans (counts_le_iff _ _ _ _ divided)
  exact period_le_counts _ _ _ _ divided some

theorem programs_timed_iff (given : config.period ≠ 0) (within : config.period ≤ perSecNsec)
    (arg : PwmFreqArg) (sound : Bool) (exact : sound = true ↔ parts resource < 2^32)
    (values : parts resource < 2^32 →
      arg.period.toNat = realHz resource / freq config ∧ arg.duty.toNat ≤ arg.period.toNat) :
    Programs resource config
        ⟨(hdfSuccess,.programmed (initTimPwm arg config resource).value),
          sound && (initTimPwm arg config resource).exact⟩ ↔
      Countable resource config := by
  have some := freq_pos given within
  have reloads : (initTimPwm arg config resource).exact = true ↔ 1 ≤ arg.period := by
    simp [initTimPwm,Checked.sub]
  have counts : ∀ tim : TimPwm, tim.autoreload = arg.period - 1 →
      tim.counts = arg.period.toNat := by
    intro tim reload
    rw [TimPwm.counts,reload,UInt32.sub_add_cancel]
  constructor
  · rintro ⟨steps,programmed⟩
    simp only [Bool.and_eq_true,reloads] at steps
    have small := exact.mp steps.1
    obtain ⟨period,_⟩ := values small
    have one : 0 < realHz resource / freq config := by
      rw [← period]
      exact UInt32.le_iff_toNat_le.mp steps.2
    have fast : freq config ≤ realHz resource := (Nat.div_pos_iff.mp one).2
    obtain ⟨_,near,_⟩ := programmed _ rfl
    rw [counts _ rfl,period] at near
    exact ⟨small,fast,(counts_within_iff given within fast).mp near⟩
  · intro countable
    obtain ⟨period,duty⟩ := values countable.prescaler
    have one : 1 ≤ arg.period.toNat := by
      rw [period]
      exact Nat.div_pos countable.fast some
    refine ⟨?_,fun tim here => ?_⟩
    · have reload : 1 ≤ arg.period := UInt32.le_iff_toNat_le.mpr one
      simp [exact.mpr countable.prescaler,reloads.mpr reload]
    · obtain rfl := PwmAction.programmed.inj here
      rw [counts _ rfl]
      refine ⟨one,?_,duty⟩
      rw [period]
      exact (counts_within_iff given within countable.fast).mpr countable.rounded

theorem set_programs_iff (pwm : Bool) (fits : config.duty ≤ config.period) :
    ((pwmDevSetConfig pwm resource config).value.1 = hdfSuccess →
        Programs resource config (pwmDevSetConfig pwm resource config)) ↔
      (pwm = true → config.period ≤ perSecNsec → config.enabled = true → config.period ≠ 0 →
        Countable resource config) := by
  have failed : hdfFailure ≠ hdfSuccess := by decide
  unfold pwmDevSetConfig
  by_cases taken : pwm = true ∧ config.period ≤ perSecNsec
  case neg =>
    rw [if_pos (not_not.mp (mt (taken_iff pwm config).mp taken))]
    exact iff_of_true (fun done => absurd done failed) fun present within =>
      absurd ⟨present,within⟩ taken
  case pos =>
    rw [if_neg ((taken_iff pwm config).mpr taken)]
    obtain ⟨rfl,within⟩ := taken
    simp only [within,forall_const]
    cases enabled : config.enabled with
    | false => exact iff_of_true (fun _ => ⟨rfl,fun tim => nofun⟩) nofun
    | true =>
      rw [if_pos rfl]
      simp only [forall_const]
      by_cases given : config.period = 0
      · refine iff_of_true (fun done => ?_) fun some => absurd given some
        rw [initPwmFreqAndPeriod,if_pos given] at done
        exact absurd done failed
      · obtain ⟨success,exact,values⟩ := initPwmFreqAndPeriod_given resource given within fits
        generalize initPwmFreqAndPeriod config ⟨0,0⟩ resource = init at success exact values ⊢
        obtain ⟨⟨ret,arg⟩,sound⟩ := init
        dsimp only at success exact values
        subst success
        have timed := programs_timed_iff given within arg sound exact values
        simp only [bind,Checked.bind,ne_eq,not_true_eq_false,if_false,given,not_false_eq_true,
          forall_const,Checked.value_pure,Checked.exact_pure,Bool.and_true]
        exact timed

end Program

end Stm32f4xx

/-- For a duty within its period the first driver's arithmetic is right exactly where the period is
not zero and the duty can be taken a hundredfold, and the second's where the counts come out. -/
theorem programs_iff (pwm : Bool) (resource : Stm32f4xx.PwmResource) (config : PwmConfig)
    (fits : config.duty ≤ config.period) :
    (((Bes.pwmDevSetConfig pwm config).value.1 = hdfSuccess →
        Bes.Programs config (Bes.pwmDevSetConfig pwm config)) ↔
      (pwm = true → config.period ≤ perSecNsec → Bes.Exact config)) ∧
    (((Stm32f4xx.pwmDevSetConfig pwm resource config).value.1 = hdfSuccess →
        Stm32f4xx.Programs resource config (Stm32f4xx.pwmDevSetConfig pwm resource config)) ↔
      (pwm = true → config.period ≤ perSecNsec → config.enabled = true → config.period ≠ 0 →
        Stm32f4xx.Countable resource config)) :=
  ⟨Bes.set_programs_iff pwm config,Stm32f4xx.set_programs_iff pwm fits⟩

theorem programs_millisecond :
    Bes.Programs ⟨250000,1000000,true,true⟩ (Bes.pwmDevSetConfig true ⟨250000,1000000,true,true⟩) ∧
      Stm32f4xx.Programs ⟨.tim2,83⟩ ⟨250000,1000000,true,true⟩
        (Stm32f4xx.pwmDevSetConfig true ⟨.tim2,83⟩ ⟨250000,1000000,true,true⟩) := by
  obtain ⟨bes,stm⟩ := programs_iff true ⟨.tim2,83⟩ ⟨250000,1000000,true,true⟩ (by decide)
  refine ⟨bes.mpr (fun _ _ => ⟨by decide,by decide⟩) rfl,stm.mpr (fun _ _ _ _ => ?_) ?_⟩
  · exact ⟨by decide,by decide,by decide⟩
  · rfl

/-- Half of a tenth of a second comes out as seven percent, the last timer does not count, and a
period that is no whole part of a second is rounded to a whole second. -/
theorem not_programs :
    let half : PwmConfig := ⟨50000000,100000000,true,true⟩
    let long : PwmConfig := ⟨0,700000000,true,true⟩
    let bes := Bes.pwmDevSetConfig true half
    let last := Stm32f4xx.pwmDevSetConfig true ⟨.tim14,83⟩ half
    let rounded := Stm32f4xx.pwmDevSetConfig true ⟨.tim2,83⟩ long
    bes.value = (hdfSuccess,.programmed ⟨10,7,false,false⟩) ∧ ¬ Bes.Programs half bes ∧
      ¬ Stm32f4xx.Programs ⟨.tim14,83⟩ half last ∧ ¬ Stm32f4xx.Programs ⟨.tim2,83⟩ long rounded := by
  refine ⟨rfl,fun programs => ?_,fun programs => ?_,fun programs => ?_⟩
  · have exact := programs.exact
    contradiction
  · have countable := (Stm32f4xx.set_programs_iff true (by decide)).mp (fun _ => programs) rfl
      (by decide) rfl (by decide)
    exact absurd countable.fast (by decide)
  · have countable := (Stm32f4xx.set_programs_iff true (by decide)).mp (fun _ => programs) rfl
      (by decide) rfl (by decide)
    exact absurd countable.rounded (by decide)

end DriversAdapter.Platform.Pwm
