import DriversAdapter.Semantics.Keyed
import DriversAdapter.Usb.PnpNotify
import Mathlib.Data.List.InsertIdx

/-! The ids of the notifier's records: a counter that starts again at one when it has reached the
largest number, and a removal that takes the first record with an id. The ids stay distinct for
as long as no record outlasts one round of the counter. -/
namespace DriversAdapter.Usb
open DriversAdapter.Base DriversAdapter.Semantics

variable {δ : Type}

/-- Making a record, giving one up, and filling one in, which leaves its id. -/
inductive InfoCall (δ : Type)
  | create (osalMemCalloc : Bool)
  | destroy (i : Nat)
  | fill (i : Nat) (status : UsbPnpDeviceStatus) (interfaceRemoveStatus : Nat → Bool)
    (info : UsbPnpNotifyMatchInfoTable δ)

namespace UsbPnp

def infoStep (call : InfoCall δ) (s : UsbPnp δ) : Option Nat × UsbPnp δ :=
  match call with
  | .create osalMemCalloc => s.createInfo osalMemCalloc
  | .destroy i => match s.infoList[i]? with
    | none => (none,s)
    | some deviceInfo => (some i,s.destroyInfo deviceInfo)
  | .fill i status interfaceRemoveStatus info => match s.infoList[i]? with
    | none => (none,s)
    | some deviceInfo => (some i,s.setInfo i ⟨deviceInfo.id,status,interfaceRemoveStatus,info⟩)

def nextId (s : UsbPnp δ) : Int32 := if s.idNum = Int32.maxValue then 1 else s.idNum

/-- No two records have one id, and a removal takes out the record that it is meant for. -/
structure Distinct (s : UsbPnp δ) : Prop where
  ids : (s.infoList.map UsbPnpDeviceInfo.id).Nodup
  meant : ∀ i deviceInfo, s.infoList[i]? = some deviceInfo →
    (s.destroyInfo deviceInfo).infoList = s.infoList.eraseIdx i

end UsbPnp

/-- The ids that the counter gives before it starts again. -/
def idRound : Nat := 2^31 - 2

/-- The records, how many have ever been made, and which of these each record is. -/
structure InfoHistory (δ : Type) where
  pnp : UsbPnp δ
  made : Nat
  born : List Nat

namespace InfoHistory

def start : InfoHistory δ := ⟨.boot,0,[]⟩

def step (call : InfoCall δ) (h : InfoHistory δ) : Option Nat × InfoHistory δ :=
  let done := h.pnp.infoStep call
  match call with
  | .create osalMemCalloc =>
    (done.1,if osalMemCalloc then ⟨done.2,h.made + 1,h.born ++ [h.made]⟩ else ⟨done.2,h.made,h.born⟩)
  | .destroy i =>
    let place := h.pnp.infoList[i]?.bind fun deviceInfo =>
      h.pnp.infoList.findIdx? fun infoPos => infoPos.id == deviceInfo.id
    (done.1,⟨done.2,h.made,match place with
      | none => h.born
      | some j => h.born.eraseIdx j⟩)
  | .fill _ _ _ _ => (done.1,⟨done.2,h.made,h.born⟩)

end InfoHistory

/-- When a record is made, each one present is among the last that were made in one round. -/
def InfoCall.Recent (call : InfoCall δ) (h : InfoHistory δ) : Prop :=
  match call with
  | .create osalMemCalloc => osalMemCalloc = true → ∀ b ∈ h.born, h.made - b < idRound
  | .destroy _ | .fill _ _ _ _ => True

/-- The id of the record that is made after `m` others. -/
def idAt (m : Nat) : Int32 := Int32.ofNat (m % idRound + 1)

theorem idAt_toInt (m : Nat) : (idAt m).toInt = m % idRound + 1 := by
  have bound : m % idRound < 2^31 - 2 := Nat.mod_lt _ (by decide)
  unfold idAt
  rw [Int32.toInt_ofNat_of_lt (by omega)]
  rfl

theorem idAt_eq_iff (m n : Nat) : idAt m = idAt n ↔ m % idRound = n % idRound := by
  constructor
  · intro same
    have value := congrArg Int32.toInt same
    rw [idAt_toInt,idAt_toInt] at value
    omega
  · intro same
    unfold idAt
    rw [same]

/-- The counter goes back to one where a round ends. -/
theorem idAt_succ (m : Nat) :
    idAt (m + 1) = if idAt m + 1 = Int32.maxValue then 1 else idAt m + 1 := by
  have bound : m % idRound < idRound := Nat.mod_lt _ (by decide)
  have next : idAt m + 1 = Int32.ofNat (m % idRound + 2) := (Int32.ofNat_add _ 1).symm
  have most : Int32.maxValue = Int32.ofNat (idRound + 1) := by decide
  have ends : idAt m + 1 = Int32.maxValue ↔ m % idRound + 1 = idRound := by
    rw [next,most]
    unfold idRound at bound ⊢
    constructor
    · intro same
      have value := congrArg Int32.toInt same
      rw [Int32.toInt_ofNat_of_lt (by omega),Int32.toInt_ofNat_of_lt (by omega)] at value
      omega
    · intro last
      rw [show m % (2^31 - 2) + 2 = 2^31 - 2 + 1 by omega]
  by_cases last : m % idRound + 1 = idRound
  · rw [if_pos (ends.mpr last)]
    unfold idAt
    rw [Nat.add_mod,Nat.mod_eq_of_lt (show 1 < idRound by decide),last,Nat.mod_self]
    rfl
  · rw [if_neg (fun same => last (ends.mp same)),next]
    unfold idAt
    rw [Nat.add_mod,Nat.mod_eq_of_lt (show 1 < idRound by decide),Nat.mod_eq_of_lt (by omega)]

namespace UsbPnp

theorem distinct_of_ids {s : UsbPnp δ} (ids : (s.infoList.map UsbPnpDeviceInfo.id).Nodup) :
    s.Distinct := by
  refine ⟨ids,fun i deviceInfo here => ?_⟩
  exact Keyed.eraseP_place UsbPnpDeviceInfo.id ids here

theorem createInfo_true (s : UsbPnp δ) : (s.createInfo true).2 = {s with
    idNum := s.nextId + 1
    infoList := s.infoList ++ [⟨s.nextId,.init,fun _ => false,.zero⟩]} := rfl

theorem boot_nextId : (boot : UsbPnp δ).nextId = idAt 0 := rfl

end UsbPnp

namespace InfoHistory
variable {h : InfoHistory δ}

/-- Each record has the id of its turn, and none is older than one round. -/
structure Counted (h : InfoHistory δ) : Prop where
  counter : h.pnp.nextId = idAt h.made
  ids : h.pnp.infoList.map UsbPnpDeviceInfo.id = h.born.map idAt
  born_lt : ∀ b ∈ h.born, b < h.made
  within : ∀ b ∈ h.born, h.made ≤ b + idRound

/-- A record that is made has the id of one present just where one is as old as a round. -/
theorem fresh_iff (counted : h.Counted) :
    idAt h.made ∉ h.born.map idAt ↔ ∀ b ∈ h.born, h.made - b < idRound := by
  constructor
  · intro fresh b member
    by_contra old
    have early := counted.born_lt b member
    have late := counted.within b member
    have round : h.made = b + idRound := by omega
    refine fresh (List.mem_map.mpr ⟨b,member,(idAt_eq_iff b h.made).mpr ?_⟩)
    rw [round,Nat.add_mod_right]
  · rintro recent taken
    obtain ⟨b,member,same⟩ := List.mem_map.mp taken
    have early := counted.born_lt b member
    have young := recent b member
    obtain ⟨k,round⟩ := Nat.dvd_of_mod_eq_zero (Nat.sub_mod_eq_zero_of_mod_eq
      ((idAt_eq_iff b h.made).mp same).symm)
    rcases Nat.eq_zero_or_pos k with rfl | pos
    · omega
    · have whole : idRound ≤ idRound * k := Nat.le_mul_of_pos_right _ pos
      omega

theorem distinct_create_iff (counted : h.Counted) (distinct : h.pnp.Distinct) :
    (step (.create true) h).2.pnp.Distinct ↔ ∀ b ∈ h.born, h.made - b < idRound := by
  have appended : ((h.pnp.createInfo true).2.infoList.map UsbPnpDeviceInfo.id).Nodup ↔
      idAt h.made ∉ h.born.map idAt := by
    rw [UsbPnp.createInfo_true,List.map_append,List.map_singleton,← List.concat_eq_append,
      List.nodup_concat,and_iff_left distinct.ids,counted.counter,counted.ids]
  rw [← fresh_iff counted,← appended]
  exact ⟨fun after => after.ids,UsbPnp.distinct_of_ids⟩

theorem counted_create (counted : h.Counted) (recent : ∀ b ∈ h.born, h.made - b < idRound) :
    (step (.create true) h).2.Counted := by
  refine ⟨?_,?_,fun b member => ?_,fun b member => ?_⟩
  · change (if h.pnp.nextId + 1 = Int32.maxValue then 1 else h.pnp.nextId + 1) = idAt (h.made + 1)
    rw [counted.counter,idAt_succ]
  · change (h.pnp.createInfo true).2.infoList.map UsbPnpDeviceInfo.id =
      (h.born ++ [h.made]).map idAt
    rw [UsbPnp.createInfo_true,List.map_append,List.map_append,counted.ids,counted.counter]
    rfl
  all_goals
    change b ∈ h.born ++ [h.made] at member
    rcases List.mem_append.mp member with old | new
  · exact Nat.lt_succ_of_lt (counted.born_lt b old)
  · rw [List.mem_singleton.mp new]
    exact Nat.lt_succ_self _
  · have young := recent b old
    change h.made + 1 ≤ b + idRound
    omega
  · rw [List.mem_singleton.mp new]
    exact Nat.add_le_add_left (by decide) _

theorem counted_destroy (counted : h.Counted) (i : Nat) : (step (.destroy i) h).2.Counted := by
  cases here : h.pnp.infoList[i]? with
  | none =>
    have same : (step (.destroy i) h).2 = h := by simp [step,UsbPnp.infoStep,here]
    rwa [same]
  | some deviceInfo =>
    have removed : h.pnp.infoList.eraseP (fun infoPos => infoPos.id == deviceInfo.id) = _ :=
      List.eraseP_eq_eraseIdx
    have step_eq : (step (.destroy i) h).2 = ⟨h.pnp.destroyInfo deviceInfo,h.made,
        match h.pnp.infoList.findIdx? fun infoPos => infoPos.id == deviceInfo.id with
        | none => h.born
        | some j => h.born.eraseIdx j⟩ := by
      simp [step,UsbPnp.infoStep,here]
    rw [step_eq]
    cases place : h.pnp.infoList.findIdx? fun infoPos => infoPos.id == deviceInfo.id with
    | none =>
      rw [place] at removed
      have same : h.pnp.destroyInfo deviceInfo = h.pnp := by
        unfold UsbPnp.destroyInfo
        rw [removed]
      rw [same]
      exact counted
    | some j =>
      rw [place] at removed
      refine ⟨counted.counter,?_,fun b member => ?_,fun b member => ?_⟩
      · change (h.pnp.infoList.eraseP _).map UsbPnpDeviceInfo.id = (h.born.eraseIdx j).map idAt
        rw [removed,← List.eraseIdx_map,← List.eraseIdx_map,counted.ids]
      · exact counted.born_lt b (List.mem_of_mem_eraseIdx member)
      · exact counted.within b (List.mem_of_mem_eraseIdx member)

theorem counted_fill (counted : h.Counted) (i : Nat) (status : UsbPnpDeviceStatus)
    (interfaceRemoveStatus : Nat → Bool) (info : UsbPnpNotifyMatchInfoTable δ) :
    (step (.fill i status interfaceRemoveStatus info) h).2.Counted ∧
      (step (.fill i status interfaceRemoveStatus info) h).2.pnp.infoList.map UsbPnpDeviceInfo.id =
        h.pnp.infoList.map UsbPnpDeviceInfo.id := by
  cases here : h.pnp.infoList[i]? with
  | none =>
    have same : (step (.fill i status interfaceRemoveStatus info) h).2 = h := by
      simp [step,UsbPnp.infoStep,here]
    rw [same]
    exact ⟨counted,rfl⟩
  | some deviceInfo =>
    have step_eq : (step (.fill i status interfaceRemoveStatus info) h).2 =
        ⟨h.pnp.setInfo i ⟨deviceInfo.id,status,interfaceRemoveStatus,info⟩,h.made,h.born⟩ := by
      simp [step,UsbPnp.infoStep,here]
    have kept : (h.pnp.infoList.set i ⟨deviceInfo.id,status,interfaceRemoveStatus,info⟩).map
        UsbPnpDeviceInfo.id = h.pnp.infoList.map UsbPnpDeviceInfo.id :=
      Keyed.map_set UsbPnpDeviceInfo.id here rfl
    rw [step_eq]
    exact ⟨⟨counted.counter,kept.trans counted.ids,counted.born_lt,counted.within⟩,kept⟩

/-- One call keeps the ids distinct just where a record that it makes meets none of its round. -/
theorem step_distinct_iff (counted : h.Counted) (distinct : h.pnp.Distinct) (call : InfoCall δ) :
    (step call h).2.pnp.Distinct ↔ call.Recent h := by
  cases call with
  | create osalMemCalloc =>
    cases osalMemCalloc with
    | false => exact ⟨fun _ made => absurd made Bool.false_ne_true,fun _ => distinct⟩
    | true =>
      rw [distinct_create_iff counted distinct]
      exact ⟨fun recent _ => recent,fun recent => recent rfl⟩
  | destroy i =>
    refine ⟨fun _ => trivial,fun _ => UsbPnp.distinct_of_ids ?_⟩
    cases here : h.pnp.infoList[i]? with
    | none => simpa [step,UsbPnp.infoStep,here] using distinct.ids
    | some deviceInfo =>
      have removed : (step (.destroy i) h).2.pnp = h.pnp.destroyInfo deviceInfo := by
        simp [step,UsbPnp.infoStep,here]
      rw [removed]
      exact distinct.ids.sublist (List.eraseP_sublist.map _)
  | fill i status interfaceRemoveStatus info =>
    refine ⟨fun _ => trivial,fun _ => UsbPnp.distinct_of_ids ?_⟩
    rw [(counted_fill counted i status interfaceRemoveStatus info).2]
    exact distinct.ids

theorem counted_step (counted : h.Counted) (distinct : h.pnp.Distinct) (call : InfoCall δ)
    (after : (step call h).2.pnp.Distinct) : (step call h).2.Counted := by
  cases call with
  | create osalMemCalloc =>
    cases osalMemCalloc with
    | false => exact counted
    | true => exact counted_create counted ((distinct_create_iff counted distinct).mp after)
  | destroy i => exact counted_destroy counted i
  | fill i status interfaceRemoveStatus info =>
    exact (counted_fill counted i status interfaceRemoveStatus info).1

theorem start_counted : (start : InfoHistory δ).Counted :=
  ⟨UsbPnp.boot_nextId,rfl,fun _ none => (nomatch none),fun _ none => (nomatch none)⟩

/-- The history only watches the calls. -/
theorem run_pnp (calls : List (InfoCall δ)) (h : InfoHistory δ) :
    (Machine.run step calls h).2.pnp = (Machine.run UsbPnp.infoStep calls h.pnp).2 := by
  induction calls generalizing h with
  | nil => rfl
  | cons call rest ih =>
    have same : (step call h).2.pnp = (h.pnp.infoStep call).2 := by
      cases call with
      | create osalMemCalloc => cases osalMemCalloc <;> rfl
      | destroy i => rfl
      | fill i status interfaceRemoveStatus info => rfl
    exact (ih _).trans (by rw [same]; rfl)

end InfoHistory

namespace UsbPnp

/-- The ids are distinct all along just in the runs in which no record is present any more when
the counter has come round to its id. -/
theorem ids_distinct_iff (calls : List (InfoCall δ)) :
    (∀ k, (Machine.run infoStep (calls.take k) boot).2.Distinct) ↔
      Machine.MeetsAll InfoHistory.step InfoCall.Recent calls InfoHistory.start := by
  have empty : (InfoHistory.start : InfoHistory δ).pnp.Distinct := distinct_of_ids List.nodup_nil
  rw [← Machine.run_checked_iff InfoHistory.step InfoCall.Recent (fun _ _ => True)
    InfoHistory.Counted (fun h => h.pnp.Distinct)
    (fun call h counted distinct _ after => InfoHistory.counted_step counted distinct call after)
    (fun call h counted distinct => by
      rw [and_iff_left trivial]
      exact InfoHistory.step_distinct_iff counted distinct call)
    calls InfoHistory.start InfoHistory.start_counted empty]
  refine forall_congr' fun k => ?_
  rw [InfoHistory.run_pnp]
  exact (and_iff_left fun _ _ => trivial).symm

private def threeRecords : List (InfoCall Nat) := [.create true,.create true,.destroy 0,.create true]

/-- The record that went did so long before its id came round again. -/
theorem ids_distinct_three :
    (Machine.run infoStep threeRecords boot).2.infoList.map UsbPnpDeviceInfo.id = [2,3] ∧
      ∀ k, (Machine.run infoStep (threeRecords.take k) boot).2.Distinct := by
  refine ⟨rfl,(ids_distinct_iff threeRecords).mpr ⟨?_,?_,trivial,?_,trivial⟩⟩
  all_goals
    intro _
    decide

/-- One record stays while as many others come and go. -/
private def churn : Nat → List (InfoCall Nat)
  | 0 => []
  | n + 1 => .create true :: .destroy 1 :: churn n

private def lasting (idNum : Int32) : UsbPnp Nat :=
  {boot with idNum := idNum,infoList := [⟨1,.init,fun _ => false,.zero⟩]}

private theorem churn_pair (idNum : Int32) (last : idNum ≠ Int32.maxValue) (other : idNum ≠ 1) :
    (((lasting idNum).createInfo true).2.infoStep (.destroy 1)).2 = lasting (idNum + 1) := by
  simp [lasting,createInfo,infoStep,destroyInfo,last,Ne.symm other]

private theorem run_churn (n m : Nat) (old : 2 ≤ m) (small : m + n < 2^31) :
    (Machine.run infoStep (churn n) (lasting (Int32.ofNat m))).2 =
      lasting (Int32.ofNat (m + n)) := by
  induction n generalizing m with
  | zero => rfl
  | succ n ih =>
    have value : (Int32.ofNat m).toInt = m := Int32.toInt_ofNat_of_lt (by omega)
    have last : Int32.ofNat m ≠ Int32.maxValue := by
      intro same
      rw [same] at value
      have most : Int32.maxValue.toInt = 2^31 - 1 := by decide
      omega
    have other : Int32.ofNat m ≠ 1 := by
      intro same
      rw [same] at value
      have one : (1 : Int32).toInt = 1 := by decide
      omega
    have next : Int32.ofNat m + 1 = Int32.ofNat (m + 1) := (Int32.ofNat_add m 1).symm
    have pair := churn_pair (Int32.ofNat m) last other
    rw [next] at pair
    simp only [churn,Machine.run]
    show (Machine.run infoStep (churn n)
      (((lasting (Int32.ofNat m)).createInfo true).2.infoStep (.destroy 1)).2).2 = _
    rw [pair,ih (m + 1) (by omega) (by omega),Nat.add_right_comm,Nat.add_assoc]

/-- The counter has come round, and the first record has its id still. -/
theorem ids_recycled : ∃ calls : List (InfoCall Nat),
    (Machine.run infoStep calls boot).2.infoList.map UsbPnpDeviceInfo.id = [1,1] ∧
      ¬ (Machine.run infoStep calls boot).2.Distinct := by
  -- The number is kept a variable: no list of this length is ever written out.
  obtain ⟨n,size⟩ : ∃ n, 2 + n = 2^31 - 1 := ⟨2^31 - 3,by omega⟩
  have first : ((boot : UsbPnp Nat).infoStep (.create true)).2 = lasting (Int32.ofNat 2) := rfl
  have round : Int32.ofNat (2^31 - 1) = Int32.maxValue := by decide
  have final : (Machine.run infoStep (.create true :: (churn n ++ [.create true])) boot).2 =
      ((lasting Int32.maxValue).createInfo true).2 := by
    simp only [Machine.run]
    rw [first,Machine.run_append,run_churn n 2 (by omega) (by omega),size,round]
    rfl
  refine ⟨.create true :: (churn n ++ [.create true]),?_,fun distinct => ?_⟩
  · rw [final]
    rfl
  · rw [final] at distinct
    exact absurd distinct.ids (by decide)

end UsbPnp

end DriversAdapter.Usb
