import DriversAdapter.Base.Word

/-! The clock of the OSAL and differences of its times. A time is a count of seconds and one of
microseconds; a difference is formed field by field, with a borrow. -/
namespace DriversAdapter.Osal
open DriversAdapter.Base

def hdfKiloUnit : UInt32 := 1000

structure OsalTimespec where
  sec : UInt64
  usec : UInt64
  deriving DecidableEq

/-- The time of a tick of the kernel, of which there are so many in a second. -/
def osalGetTime (losTickCountGet tickPerSecond : UInt64) : OsalTimespec :=
  let ms := losTickCountGet * (hdfKiloUnit.toUInt64 / tickPerSecond)
  ⟨ms / hdfKiloUnit.toUInt64,ms % hdfKiloUnit.toUInt64 * hdfKiloUnit.toUInt64⟩

/-- What both kernels compute. -/
def diffTime (start stop diff : Option OsalTimespec) : Int × Option OsalTimespec :=
  match start, stop, diff with
  | some start, some stop, some _ =>
    if stop.sec < start.sec then (hdfErrInvalidParam,diff)
    else
      let borrow : UInt32 × UInt32 :=
        if stop.usec < start.usec then (hdfKiloUnit * hdfKiloUnit,1) else (0,0)
      (hdfSuccess,some ⟨stop.sec - start.sec - borrow.2.toUInt64,
        borrow.1.toUInt64 + stop.usec - start.usec⟩)
  | _, _, _ => (hdfErrInvalidParam,diff)

def Liteos.osalDiffTime (start stop diff : Option OsalTimespec) : Int × Option OsalTimespec :=
  diffTime start stop diff

def LiteosM.osalDiffTime (start stop diff : Option OsalTimespec) : Int × Option OsalTimespec :=
  diffTime start stop diff

namespace OsalTimespec

def micros (t : OsalTimespec) : Nat := t.sec.toNat * 10^6 + t.usec.toNat

def Normal (t : OsalTimespec) : Prop := t.usec.toNat < 10^6

instance (t : OsalTimespec) : Decidable t.Normal := inferInstanceAs (Decidable (_ < _))

/-- The order of the times, by seconds first. -/
def Le (start stop : OsalTimespec) : Prop :=
  start.sec < stop.sec ∨ start.sec = stop.sec ∧ start.usec ≤ stop.usec

/-- The seconds are the same, and the microseconds would need a borrow from them. -/
def Borrows (start stop : OsalTimespec) : Prop :=
  start.sec = stop.sec ∧ stop.usec < start.usec

/-- There is a difference exactly for times in their order, and it leads from one to the other. -/
structure Differs (start stop : OsalTimespec) (done : Int × Option OsalTimespec) : Prop where
  succeeds : done.1 = hdfSuccess ↔ start.Le stop
  leads : done.1 = hdfSuccess →
    ∃ diff, done.2 = some diff ∧ diff.Normal ∧ start.micros + diff.micros = stop.micros

section Diff
variable {start stop : OsalTimespec}

theorem le_iff_micros (first : start.Normal) (last : stop.Normal) :
    start.Le stop ↔ start.micros ≤ stop.micros := by
  unfold OsalTimespec.Normal at first last
  unfold Le micros
  rw [UInt64.lt_iff_toNat_lt,UInt64.le_iff_toNat_le,← UInt64.toNat_inj]
  omega

theorem not_le_of_later (later : stop.sec < start.sec) : ¬ start.Le stop := by
  rintro (earlier | ⟨same,_⟩)
  · exact UInt64.lt_irrefl _ (UInt64.lt_trans earlier later)
  · exact UInt64.lt_irrefl _ (same ▸ later)

theorem not_le_of_borrows (borrows : start.Borrows stop) : ¬ start.Le stop := by
  obtain ⟨same,less⟩ := borrows
  rintro (earlier | ⟨_,least⟩)
  · exact UInt64.lt_irrefl _ (same ▸ earlier)
  · exact UInt64.not_lt.mpr least less

variable (diff : OsalTimespec)

theorem diffTime_later (later : stop.sec < start.sec) :
    diffTime (some start) (some stop) (some diff) = (hdfErrInvalidParam,some diff) := by
  simp only [diffTime,if_pos later]

theorem diffTime_plain (sec : start.sec ≤ stop.sec) (usec : start.usec ≤ stop.usec) :
    diffTime (some start) (some stop) (some diff) =
      (hdfSuccess,some ⟨stop.sec - start.sec,stop.usec - start.usec⟩) := by
  simp [diffTime,UInt64.not_lt.mpr sec,UInt64.not_lt.mpr usec]

theorem diffTime_borrow (sec : start.sec ≤ stop.sec) (usec : stop.usec < start.usec) :
    diffTime (some start) (some stop) (some diff) =
      (hdfSuccess,some ⟨stop.sec - start.sec - 1,1000000 + stop.usec - start.usec⟩) := by
  simp only [diffTime,if_neg (UInt64.not_lt.mpr sec),if_pos usec]
  rfl

theorem differs_plain (sec : start.sec ≤ stop.sec) (usec : start.usec ≤ stop.usec)
    (last : stop.Normal) :
    start.Differs stop (hdfSuccess,some ⟨stop.sec - start.sec,stop.usec - start.usec⟩) := by
  have secs := UInt64.toNat_sub_of_le _ _ sec
  have usecs := UInt64.toNat_sub_of_le _ _ usec
  have le : start.Le stop := by
    by_cases same : start.sec = stop.sec
    · exact .inr ⟨same,usec⟩
    · exact .inl (UInt64.lt_of_le_of_ne sec same)
  rw [UInt64.le_iff_toNat_le] at sec usec
  refine ⟨iff_of_true rfl le,fun _ => ⟨_,rfl,?_,?_⟩⟩
  · unfold OsalTimespec.Normal at *
    dsimp only
    omega
  · unfold micros
    dsimp only
    rw [secs,usecs]
    omega

/-- A second is there to be borrowed. -/
theorem differs_borrow (sec : start.sec < stop.sec) (usec : stop.usec < start.usec)
    (first : start.Normal) (last : stop.Normal) :
    start.Differs stop
      (hdfSuccess,some ⟨stop.sec - start.sec - 1,1000000 + stop.usec - start.usec⟩) := by
  unfold OsalTimespec.Normal at first last
  have le : start.Le stop := .inl sec
  have secs := UInt64.toNat_sub_of_le _ _ (UInt64.le_of_lt sec)
  rw [UInt64.lt_iff_toNat_lt] at sec usec
  have one : (1 : UInt64) ≤ stop.sec - start.sec := by
    rw [UInt64.le_iff_toNat_le,secs]
    exact Nat.le_sub_of_add_le' sec
  have rest : (stop.sec - start.sec - 1).toNat = stop.sec.toNat - start.sec.toNat - 1 := by
    rw [UInt64.toNat_sub_of_le _ _ one,secs]
    rfl
  have million : (1000000 + stop.usec).toNat = 1000000 + stop.usec.toNat := by
    have value : (1000000 : UInt64).toNat = 1000000 := rfl
    rw [UInt64.toNat_add,value]
    exact Nat.mod_eq_of_lt (by omega)
  have enough : start.usec ≤ 1000000 + stop.usec := by
    rw [UInt64.le_iff_toNat_le,million]
    omega
  have usecs : (1000000 + stop.usec - start.usec).toNat =
      1000000 + stop.usec.toNat - start.usec.toNat := by
    rw [UInt64.toNat_sub_of_le _ _ enough,million]
  refine ⟨iff_of_true rfl le,fun _ => ⟨_,rfl,?_,?_⟩⟩
  · unfold OsalTimespec.Normal
    dsimp only
    omega
  · unfold micros
    dsimp only
    rw [rest,usecs]
    omega

theorem diffTime_differs_iff (first : start.Normal) (last : stop.Normal) :
    start.Differs stop (diffTime (some start) (some stop) (some diff)) ↔
      ¬ start.Borrows stop := by
  have param : hdfErrInvalidParam ≠ hdfSuccess := by decide
  by_cases later : stop.sec < start.sec
  · rw [diffTime_later diff later]
    have above := not_le_of_later later
    exact iff_of_true ⟨iff_of_false param above,fun ok => absurd ok param⟩
      fun borrows => UInt64.lt_irrefl _ (borrows.1 ▸ later)
  have sec : start.sec ≤ stop.sec := UInt64.not_lt.mp later
  by_cases usec : stop.usec < start.usec
  · rw [diffTime_borrow diff sec usec]
    by_cases same : start.sec = stop.sec
    · have borrows : start.Borrows stop := ⟨same,usec⟩
      exact iff_of_false (fun differs => not_le_of_borrows borrows (differs.succeeds.mp rfl))
        (not_not.mpr borrows)
    · have earlier : start.sec < stop.sec := UInt64.lt_of_le_of_ne sec same
      exact iff_of_true (differs_borrow earlier usec first last) fun borrows => same borrows.1
  · have least : start.usec ≤ stop.usec := UInt64.not_lt.mp usec
    rw [diffTime_plain diff sec least]
    exact iff_of_true (differs_plain sec least last) fun borrows => usec borrows.2

end Diff

end OsalTimespec

open OsalTimespec

/-- Both kernels form the difference alike, and right exactly where the microseconds do not
borrow from seconds that are the same. -/
theorem osalDiffTime_differs_iff (start stop diff : OsalTimespec) (first : start.Normal)
    (last : stop.Normal) :
    (Liteos.osalDiffTime = LiteosM.osalDiffTime ∧
      start.Differs stop (Liteos.osalDiffTime (some start) (some stop) (some diff)) ∧
      start.Differs stop (LiteosM.osalDiffTime (some start) (some stop) (some diff))) ↔
        ¬ start.Borrows stop := by
  have both := diffTime_differs_iff diff first last
  constructor
  · rintro ⟨_,differs,_⟩
    exact both.mp differs
  · intro plain
    exact ⟨rfl,both.mpr plain,both.mpr plain⟩

theorem osalDiffTime_differs_second :
    OsalTimespec.Differs ⟨1,900000⟩ ⟨2,100000⟩
      (Liteos.osalDiffTime (some ⟨1,900000⟩) (some ⟨2,100000⟩) (some ⟨0,0⟩)) := by
  have apart : ¬ OsalTimespec.Borrows ⟨1,900000⟩ ⟨2,100000⟩ := fun borrows => by
    simp [OsalTimespec.Borrows] at borrows
  exact ((osalDiffTime_differs_iff ⟨1,900000⟩ ⟨2,100000⟩ ⟨0,0⟩ (by decide) (by decide)).mpr
    apart).2.1

/-- The end is five microseconds before the start, in the same second. -/
theorem osalDiffTime_not_differs :
    ¬ OsalTimespec.Differs ⟨7,10⟩ ⟨7,5⟩
      (Liteos.osalDiffTime (some ⟨7,10⟩) (some ⟨7,5⟩) (some ⟨0,0⟩)) := by
  intro differs
  rcases differs.succeeds.mp rfl with earlier | ⟨_,least⟩
  · exact absurd earlier (by decide)
  · exact absurd least (by decide)

section Clock
variable (tickPerSecond : UInt64)

theorem osalGetTime_usec (ticks : UInt64) : (osalGetTime ticks tickPerSecond).usec.toNat =
    (ticks * (hdfKiloUnit.toUInt64 / tickPerSecond)).toNat % 1000 * 1000 := by
  have kilo : hdfKiloUnit.toUInt64.toNat = 1000 := rfl
  have rest := Nat.mod_lt (ticks * (hdfKiloUnit.toUInt64 / tickPerSecond)).toNat
    (Nat.succ_pos 999)
  unfold osalGetTime
  dsimp only
  rw [UInt64.toNat_mul,UInt64.toNat_mod,kilo]
  exact Nat.mod_eq_of_lt (by omega)

theorem osalGetTime_normal (ticks : UInt64) : (osalGetTime ticks tickPerSecond).Normal := by
  unfold OsalTimespec.Normal
  rw [osalGetTime_usec]
  omega

theorem osalGetTime_micros (ticks : UInt64) :
    (osalGetTime ticks tickPerSecond).micros =
      (ticks * (hdfKiloUnit.toUInt64 / tickPerSecond)).toNat * 1000 := by
  have kilo : hdfKiloUnit.toUInt64.toNat = 1000 := rfl
  have sec : (osalGetTime ticks tickPerSecond).sec.toNat =
      (ticks * (hdfKiloUnit.toUInt64 / tickPerSecond)).toNat / 1000 := by
    unfold osalGetTime
    rw [UInt64.toNat_div,kilo]
  unfold micros
  rw [sec,osalGetTime_usec]
  omega

/-- Times that the clock gave one after the other have their difference, as long as its
milliseconds do not run over. -/
theorem osalGetTime_differs (before after : UInt64) (diff : OsalTimespec) (later : before ≤ after)
    (room : after.toNat * (hdfKiloUnit.toUInt64 / tickPerSecond).toNat < 2^64) :
    (osalGetTime before tickPerSecond).Differs (osalGetTime after tickPerSecond)
      (Liteos.osalDiffTime (some (osalGetTime before tickPerSecond))
        (some (osalGetTime after tickPerSecond)) (some diff)) := by
  have first := osalGetTime_normal tickPerSecond before
  have last := osalGetTime_normal tickPerSecond after
  have scaled : before.toNat * (hdfKiloUnit.toUInt64 / tickPerSecond).toNat ≤
      after.toNat * (hdfKiloUnit.toUInt64 / tickPerSecond).toNat :=
    Nat.mul_le_mul_right _ (UInt64.le_iff_toNat_le.mp later)
  have le : (osalGetTime before tickPerSecond).Le (osalGetTime after tickPerSecond) := by
    rw [le_iff_micros first last,osalGetTime_micros,osalGetTime_micros,UInt64.toNat_mul,
      UInt64.toNat_mul,Nat.mod_eq_of_lt room,Nat.mod_eq_of_lt (scaled.trans_lt room)]
    exact Nat.mul_le_mul_right _ scaled
  exact (diffTime_differs_iff diff first last).mpr fun borrows => not_le_of_borrows borrows le

end Clock

end DriversAdapter.Osal
