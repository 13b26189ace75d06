import DriversAdapter.Base.Word
import DriversAdapter.Semantics.Interleaving

/-! Opens and closes of one partition by any number of files, in every interleaving of their
steps. An open looks at `user_num` before it takes the lock. -/
namespace DriversAdapter.Storage
open DriversAdapter.Base DriversAdapter.Semantics DriversAdapter.Semantics.Program

inductive OpenCall
  | mtdCharOpen (valid : Bool)
  | mtdCharClose

inductive OpenOp
  | readUserNum
  | malloc
  | muxLock
  | setUserNum (n : UInt32)
  | muxUnlock
  | setPriv
  | getPriv
  | freePriv

abbrev OpenOp.Res : OpenOp → Type
  | readUserNum => UInt32
  | malloc => Bool
  | muxLock | setUserNum _ | muxUnlock | setPriv | getPriv | freePriv => Unit

def mtdCharOpen (valid : Bool) : Program OpenOp OpenOp.Res (Unit ⊕ Int) :=
  if valid = false then .done (.inr (-einval))
  else .perform .readUserNum fun userNum =>
    if userNum ≠ 0 then .done (.inr (-ebusy))
    else .perform .malloc fun mfi =>
      if mfi = false then .done (.inr (-enomem))
      else .perform .muxLock fun _ => .perform (.setUserNum 1) fun _ =>
        .perform .muxUnlock fun _ => .perform .setPriv fun _ => .done (.inr 0)

def mtdCharClose : Program OpenOp OpenOp.Res (Unit ⊕ Int) :=
  .perform .getPriv fun _ => .perform .muxLock fun _ => .perform (.setUserNum 0) fun _ =>
    .perform .muxUnlock fun _ => .perform .freePriv fun _ => .done (.inr 0)

def OpenCall.body : OpenCall → Program OpenOp OpenOp.Res (Unit ⊕ Int)
  | .mtdCharOpen valid => Storage.mtdCharOpen valid
  | .mtdCharClose => Storage.mtdCharClose

/-- The partition and the files on it, with what each file has ever written to `user_num`, and
whether another open has written to it since the file's look. -/
structure Openers (ι : Type) where
  userNum : UInt32
  owner : Option ι
  fPriv : ι → Bool
  writes : ι → List UInt32
  overtaken : ι → Bool

variable {ι : Type} [DecidableEq ι]

namespace Openers

def write (i : ι) (n : UInt32) (s : Openers ι) : Openers ι :=
  {s with
    userNum := n
    writes := Function.update s.writes i (s.writes i ++ [n])
    overtaken := fun j => if n = 1 ∧ j ≠ i then true else s.overtaken j}

def exec (i : ι) (op : OpenOp) (given : Bool) (s : Openers ι) : Option (op.Res × Openers ι) :=
  match op with
  | .readUserNum => some (s.userNum,{s with overtaken := Function.update s.overtaken i false})
  | .malloc => some (given,s)
  | .muxLock => match s.owner with
    | none => some ((),{s with owner := some i})
    | some _ => none
  | .setUserNum n => some ((),s.write i n)
  | .muxUnlock => some ((),{s with owner := none})
  | .setPriv => some ((),{s with fPriv := Function.update s.fPriv i true})
  | .getPriv => some ((),s)
  | .freePriv => some ((),{s with fPriv := Function.update s.fPriv i false})

def closed : Openers ι := ⟨0,none,fun _ => false,fun _ => [],fun _ => false⟩

/-- The file has the partition: its last word on `user_num` was a one. -/
def Holds (s : Openers ι) (i : ι) : Prop := (s.writes i).getLast? = some 1

def Alone (s : Openers ι) : Prop := ∀ i j, s.Holds i → s.Holds j → i = j

end Openers

/-- A file that is closed was opened before, as the file system sees to. -/
def OpenOp.OfOpenFile (i : ι) (op : OpenOp) (s : Openers ι) : Prop :=
  match op with
  | .getPriv => s.fPriv i = true
  | _ => True

/-- An open counts itself only where no other open has since its look at `user_num`. -/
def OpenOp.Undisturbed (i : ι) (op : OpenOp) (s : Openers ι) : Prop :=
  match op with
  | .setUserNum n => n = 1 → s.overtaken i = false
  | _ => True

/-- The runs of any openers, or only those that are orderly. -/
def mtdOpens (orderly : Prop) :
    System ι OpenOp OpenOp.Res OpenCall Unit Int Bool (Openers ι) where
  exec i op given s := s.exec i op given
  entry _ := ()
  body c _ := c.body
  allowed _ _ := True
  permitted i op s := op.OfOpenFile i s ∧ (orderly → op.Undisturbed i s)

instance (i : ι) (op : OpenOp) (s : Openers ι) : Decidable (op.OfOpenFile i s) :=
  match op with
  | .getPriv => inferInstanceAs (Decidable (_ = _))
  | .readUserNum | .malloc | .muxLock | .setUserNum _ | .muxUnlock | .setPriv | .freePriv =>
    .isTrue trivial

instance (i : ι) (op : OpenOp) (s : Openers ι) : Decidable (op.Undisturbed i s) :=
  match op with
  | .setUserNum _ => inferInstanceAs (Decidable (_ → _))
  | .readUserNum | .malloc | .muxLock | .muxUnlock | .setPriv | .getPriv | .freePriv =>
    .isTrue trivial

instance (orderly : Prop) (i : ι) (c : OpenCall) : Decidable ((mtdOpens orderly).allowed i c) :=
  .isTrue trivial

instance (orderly : Prop) [Decidable orderly] (i : ι) (op : OpenOp) (s : Openers ι) :
    Decidable ((mtdOpens orderly).permitted i op s) :=
  inferInstanceAs (Decidable (_ ∧ (_ → _)))

/-- What a finished call has to have written. -/
def OpenCall.written : OpenCall × Int → List UInt32
  | (.mtdCharOpen _,ret) => if ret = 0 then [1] else []
  | (.mtdCharClose,_) => [0]

def openRecord (past : List (OpenCall × Int)) : List UInt32 := past.flatMap OpenCall.written

theorem openRecord_append (past : List (OpenCall × Int)) (c : OpenCall) (ret : Int) :
    openRecord (past ++ [(c,ret)]) = openRecord past ++ OpenCall.written (c,ret) := by
  unfold openRecord
  rw [List.flatMap_append,List.flatMap_singleton]

namespace Openers

/-- At most one file has the partition, and `user_num` tells whether one has. -/
structure Exclusive (s : Openers ι) : Prop where
  alone : s.Alone
  used : s.userNum ≠ 0 ↔ ∃ i, s.Holds i

section Write
variable {s : Openers ι} {i : ι}

theorem writes_self (n : UInt32) : (s.write i n).writes i = s.writes i ++ [n] :=
  Function.update_self i _ _

theorem writes_other (n : UInt32) {j : ι} (other : j ≠ i) :
    (s.write i n).writes j = s.writes j := Function.update_of_ne other _ _

theorem holds_write (n : UInt32) (j : ι) :
    (s.write i n).Holds j ↔ if j = i then n = 1 else s.Holds j := by
  unfold Holds
  by_cases same : j = i
  · subst j
    rw [if_pos rfl,writes_self,List.getLast?_concat,Option.some.injEq]
  · rw [if_neg same,writes_other n same]

/-- A file that does not have the partition may take it exactly where `user_num` is zero. -/
theorem exclusive_take_iff (exclusive : s.Exclusive) (other : ¬ s.Holds i) :
    (s.write i 1).Exclusive ↔ s.userNum = 0 := by
  have mine : (s.write i 1).Holds i := by simp [holds_write]
  constructor
  · intro after
    by_contra used
    obtain ⟨j,holds⟩ := exclusive.used.mp used
    have apart : j ≠ i := fun same => other (same ▸ holds)
    have also : (s.write i 1).Holds j := by simpa [holds_write,apart] using holds
    exact apart (after.alone j i also mine)
  · intro free
    have nobody : ∀ j, ¬ s.Holds j := fun j holds => exclusive.used.mpr ⟨j,holds⟩ free
    have only : ∀ j, (s.write i 1).Holds j → j = i := by
      intro j holds
      by_contra apart
      rw [holds_write,if_neg apart] at holds
      exact nobody j holds
    refine ⟨fun j k first second => ?_,fun _ => ⟨i,mine⟩,fun _ => by simp [write]⟩
    rw [only j first,only k second]

theorem exclusive_leave (exclusive : s.Exclusive) (mine : s.Holds i) :
    (s.write i 0).Exclusive := by
  have nobody : ∀ j, ¬ (s.write i 0).Holds j := by
    intro j holds
    rw [holds_write] at holds
    split at holds
    next => contradiction
    next apart => exact apart (exclusive.alone j i holds mine)
  refine ⟨fun j _ first => absurd first (nobody j),fun used => absurd rfl used,?_⟩
  rintro ⟨j,holds⟩
  exact absurd holds (nobody j)

end Write

omit [DecidableEq ι] in
theorem exclusive_same (s t : Openers ι) (userNum : t.userNum = s.userNum)
    (writes : t.writes = s.writes) (exclusive : s.Exclusive) : t.Exclusive := by
  have holds : t.Holds = s.Holds := by
    unfold Holds
    rw [writes]
  refine ⟨?_,?_⟩
  · unfold Alone
    rw [holds]
    exact exclusive.alone
  · rw [holds,userNum]
    exact exclusive.used

end Openers

section Outline
variable (orderly : Prop)

/-- What a file has written, whether it is open and whether it has seen the partition closed, at a
point of its code. -/
structure OpenAt (i : ι) (log : List UInt32) (opened looked : Bool) (s : Openers ι) : Prop where
  exclusive : orderly → s.Exclusive
  log : s.writes i = log
  opened : s.fPriv i = opened
  free : looked = true → s.overtaken i = false → s.userNum = 0

/-- A step leaves this file alone: it overtakes it, or does not take what the file has seen free. -/
structure Spares (i : ι) (s t : Openers ι) : Prop where
  writes : t.writes i = s.writes i
  fPriv : t.fPriv i = s.fPriv i
  overtakes : t.overtaken i = false →
    s.overtaken i = false ∧ (s.userNum = 0 → t.userNum = 0)

def OthersMove (i : ι) (s t : Openers ι) : Prop :=
  Spares i s t ∧ ((orderly → s.Exclusive) → orderly → t.Exclusive)

def LeavesOthers (i : ι) (s t : Openers ι) : Prop :=
  (∀ j, j ≠ i → Spares j s t) ∧ (orderly → t.Exclusive)

/-- Whether a file that has done so much is open. -/
def openAfter (log : List UInt32) : Bool := log.getLast? == some 1

abbrev OpenMeets (i : ι) (past : List (OpenCall × Int)) (c : OpenCall)
    (p : Program OpenOp OpenOp.Res (Unit ⊕ Int)) (s : Openers ι) : Prop :=
  Safe (OthersMove orderly i) ((mtdOpens orderly).step i)
    (fun _ s t => LeavesOthers orderly i s t ∧ (orderly → t.Exclusive))
    (fun next t => match next with
      | .inl _ => OpenAt orderly i (openRecord past) (openAfter (openRecord past)) false t
      | .inr ret => OpenAt orderly i (openRecord (past ++ [(c,ret)]))
          (openAfter (openRecord (past ++ [(c,ret)]))) false t) p s

variable {orderly} {i : ι} {past : List (OpenCall × Int)} {c : OpenCall} {log : List UInt32}
variable {opened looked : Bool}

omit [DecidableEq ι] in
theorem openAt_stable (s t : Openers ι) (moved : OthersMove orderly i s t)
    (here : OpenAt orderly i log opened looked s) : OpenAt orderly i log opened looked t := by
  obtain ⟨⟨writes,fPriv,overtakes⟩,exclusive⟩ := moved
  refine ⟨exclusive here.exclusive,writes.trans here.log,fPriv.trans here.opened,?_⟩
  intro seen ahead
  obtain ⟨before,kept⟩ := overtakes ahead
  exact kept (here.free seen before)

omit [DecidableEq ι] in
theorem openAt_forget (s : Openers ι) (here : OpenAt orderly i log opened looked s) :
    OpenAt orderly i log opened false s :=
  ⟨here.exclusive,here.log,here.opened,fun seen => absurd seen Bool.false_ne_true⟩

omit [DecidableEq ι] in
theorem spares_refl (s : Openers ι) : Spares i s s := ⟨rfl,rfl,fun ahead => ⟨ahead,id⟩⟩

omit [DecidableEq ι] in
theorem spares_trans {s t u : Openers ι} (first : Spares i s t) (second : Spares i t u) :
    Spares i s u := by
  refine ⟨second.writes.trans first.writes,second.fPriv.trans first.fPriv,fun ahead => ?_⟩
  obtain ⟨between,later⟩ := second.overtakes ahead
  obtain ⟨before,earlier⟩ := first.overtakes between
  exact ⟨before,later ∘ earlier⟩

theorem openMeets_done (ret : Int) (s : Openers ι)
    (here : OpenAt orderly i (openRecord past ++ OpenCall.written (c,ret)) opened looked s)
    (same : opened = openAfter (openRecord past ++ OpenCall.written (c,ret))) :
    OpenMeets orderly i past c (.done (.inr ret)) s := by
  intro t moved
  have there := openAt_forget t (openAt_stable s t moved here)
  dsimp only
  rw [openRecord_append,← same]
  exact there

theorem openMeets_perform (op : OpenOp)
    (next : op.Res → Program OpenOp OpenOp.Res (Unit ⊕ Int)) (s : Openers ι)
    (here : OpenAt orderly i log opened looked s)
    (stepped : ∀ t, OpenAt orderly i log opened looked t → op.OfOpenFile i t →
      (orderly → op.Undisturbed i t) → ∀ given r u, t.exec i op given = some (r,u) →
        LeavesOthers orderly i t u ∧ OpenMeets orderly i past c (next r) u) :
    OpenMeets orderly i past c (.perform op next) s := by
  intro t moved r u performed
  obtain ⟨⟨ofOpenFile,undisturbed⟩,given,served⟩ := performed
  obtain ⟨kept,rest⟩ :=
    stepped t (openAt_stable s t moved here) ofOpenFile undisturbed given r u served
  exact ⟨⟨kept,kept.2⟩,rest⟩

/-- The operations that touch neither `user_num` nor a file. -/
def OpenOp.quiet : OpenOp → Bool
  | .malloc | .muxLock | .muxUnlock | .getPriv => true
  | .readUserNum | .setUserNum _ | .setPriv | .freePriv => false

theorem exec_quiet {s t : Openers ι} {op : OpenOp} {given : Bool} {r : op.Res}
    (quiet : op.quiet = true) (served : s.exec i op given = some (r,t)) :
    ∃ owner, t = {s with owner := owner} := by
  cases op with
  | malloc | muxUnlock | getPriv =>
    obtain rfl := (Prod.mk.inj (Option.some.inj served)).2
    exact ⟨_,rfl⟩
  | muxLock =>
    cases free : s.owner with
    | some j => simp [Openers.exec,free] at served
    | none =>
      simp only [Openers.exec,free] at served
      obtain rfl := (Prod.mk.inj (Option.some.inj served)).2
      exact ⟨_,rfl⟩
  | readUserNum => exact absurd quiet Bool.false_ne_true
  | setUserNum n => exact absurd quiet Bool.false_ne_true
  | setPriv => exact absurd quiet Bool.false_ne_true
  | freePriv => exact absurd quiet Bool.false_ne_true

theorem openMeets_quiet (op : OpenOp) (next : op.Res → Program OpenOp OpenOp.Res (Unit ⊕ Int))
    (s : Openers ι) (here : OpenAt orderly i log opened looked s) (quiet : op.quiet = true)
    (rest : ∀ r t, OpenAt orderly i log opened looked t → OpenMeets orderly i past c (next r) t) :
    OpenMeets orderly i past c (.perform op next) s := by
  apply openMeets_perform op next s here
  intro t now _ _ given r u served
  obtain ⟨owner,rfl⟩ := exec_quiet quiet served
  have exclusive := fun ordered =>
    Openers.exclusive_same t {t with owner := owner} rfl rfl (now.exclusive ordered)
  refine ⟨⟨fun j _ => ⟨rfl,rfl,fun ahead => ⟨ahead,id⟩⟩,exclusive⟩,?_⟩
  exact rest r _ ⟨exclusive,now.log,now.opened,now.free⟩

/-- Where the look finds zero, the file has seen the partition closed. -/
theorem openMeets_look (next : UInt32 → Program OpenOp OpenOp.Res (Unit ⊕ Int)) (s : Openers ι)
    (here : OpenAt orderly i log opened looked s)
    (rest : ∀ userNum t, OpenAt orderly i log opened (userNum == 0) t →
      OpenMeets orderly i past c (next userNum) t) :
    OpenMeets orderly i past c (.perform .readUserNum next) s := by
  apply openMeets_perform .readUserNum next s here
  intro t now _ _ given r u served
  obtain ⟨rfl,rfl⟩ := Prod.mk.inj (Option.some.inj served)
  have exclusive := fun ordered => Openers.exclusive_same t
    {t with overtaken := Function.update t.overtaken i false} rfl rfl (now.exclusive ordered)
  refine ⟨⟨fun j other => ⟨rfl,rfl,fun ahead => ⟨?_,id⟩⟩,exclusive⟩,?_⟩
  · exact (Function.update_of_ne other false t.overtaken).symm.trans ahead
  · exact rest _ _ ⟨exclusive,now.log,now.opened,fun seen _ => beq_iff_eq.mp seen⟩

/-- A write overtakes the other files, or closes the partition. -/
theorem openMeets_write (n : UInt32) (flag : n = 0 ∨ n = 1)
    (next : Unit → Program OpenOp OpenOp.Res (Unit ⊕ Int))
    (s : Openers ι) (here : OpenAt orderly i log opened looked s)
    (exclusive : ∀ t, OpenAt orderly i log opened looked t → orderly →
      (OpenOp.setUserNum n).Undisturbed i t → (t.write i n).Exclusive)
    (rest : ∀ t, OpenAt orderly i (log ++ [n]) opened false t →
      OpenMeets orderly i past c (next ()) t) :
    OpenMeets orderly i past c (.perform (.setUserNum n) next) s := by
  apply openMeets_perform (.setUserNum n) next s here
  intro t now _ undisturbed given _ u served
  obtain rfl := (Prod.mk.inj (Option.some.inj served)).2
  have after := fun ordered => exclusive t now ordered (undisturbed ordered)
  refine ⟨⟨fun j other => ⟨Openers.writes_other n other,rfl,fun ahead => ?_⟩,after⟩,?_⟩
  · change (if n = 1 ∧ j ≠ i then true else t.overtaken j) = false at ahead
    rcases flag with rfl | rfl
    · exact ⟨by simpa using ahead,fun _ => rfl⟩
    · rw [if_pos ⟨rfl,other⟩] at ahead
      contradiction
  · apply rest
    refine ⟨after,?_,now.opened,fun seen => absurd seen Bool.false_ne_true⟩
    rw [← now.log]
    exact Openers.writes_self n

/-- The last step of either call. -/
theorem openMeets_priv (op : OpenOp) (next : op.Res → Program OpenOp OpenOp.Res (Unit ⊕ Int))
    (value : Bool) (s : Openers ι) (here : OpenAt orderly i log opened looked s)
    (sets : ∀ (t : Openers ι) given r u, t.exec i op given = some (r,u) →
      u = {t with fPriv := Function.update t.fPriv i value})
    (rest : ∀ r t, OpenAt orderly i log value looked t → OpenMeets orderly i past c (next r) t) :
    OpenMeets orderly i past c (.perform op next) s := by
  apply openMeets_perform op next s here
  intro t now _ _ given r u served
  obtain rfl := sets t given r u served
  have after := fun ordered => Openers.exclusive_same t
    {t with fPriv := Function.update t.fPriv i value} rfl rfl (now.exclusive ordered)
  refine ⟨⟨fun j other => ⟨rfl,Function.update_of_ne other _ _,fun ahead => ⟨ahead,id⟩⟩,after⟩,?_⟩
  exact rest r _ ⟨after,now.log,Function.update_self i _ _,now.free⟩

theorem openMeets_open (valid : Bool) (s : Openers ι)
    (here : OpenAt orderly i (openRecord past) (openAfter (openRecord past)) false s) :
    OpenMeets orderly i past (.mtdCharOpen valid) (mtdCharOpen valid) s := by
  have failed (ret : Int) (other : ret ≠ 0) (t : Openers ι) (looked : Bool)
      (there : OpenAt orderly i (openRecord past) (openAfter (openRecord past)) looked t) :
      OpenMeets orderly i past (.mtdCharOpen valid) (.done (.inr ret)) t := by
    have nothing : OpenCall.written (.mtdCharOpen valid,ret) = [] := if_neg other
    apply openMeets_done ret t
    · rw [nothing,List.append_nil]
      exact there
    · rw [nothing,List.append_nil]
  unfold mtdCharOpen
  split_ifs
  · exact failed _ (by decide) s _ here
  apply openMeets_look _ s here
  intro userNum t read
  split_ifs with busy
  · exact failed _ (by decide) t _ read
  have zero : (userNum == 0) = true := beq_iff_eq.mpr (not_not.mp busy)
  rw [zero] at read
  apply openMeets_quiet .malloc _ t read rfl
  intro mfi v allocated
  split_ifs
  · exact failed _ (by decide) v _ allocated
  apply openMeets_quiet .muxLock _ v allocated rfl
  intro _ v locked
  apply openMeets_write 1 (.inr rfl) _ v locked
  · intro w there ordered undisturbed
    have exclusive := there.exclusive ordered
    -- The file has looked, and nobody has taken the partition since.
    have free := there.free rfl (undisturbed rfl)
    have other : ¬ w.Holds i := fun holds => exclusive.used.mpr ⟨i,holds⟩ free
    exact (Openers.exclusive_take_iff exclusive other).mpr free
  intro v written
  apply openMeets_quiet .muxUnlock _ v written rfl
  intro _ v unlocked
  apply openMeets_priv .setPriv _ true v unlocked
  · intro t _ _ u served
    exact (Prod.mk.inj (Option.some.inj served)).2.symm
  intro _ v done
  apply openMeets_done 0 v done
  simp [OpenCall.written,openAfter]

theorem openMeets_close (s : Openers ι)
    (here : OpenAt orderly i (openRecord past) (openAfter (openRecord past)) false s) :
    OpenMeets orderly i past .mtdCharClose mtdCharClose s := by
  unfold mtdCharClose
  -- The file has its record still, so it is open and has the partition.
  apply openMeets_perform .getPriv _ s here
  intro t now isOpen _ _ _ u served
  obtain rfl := (Prod.mk.inj (Option.some.inj served)).2
  have mine : openAfter (openRecord past) = true := now.opened.symm.trans isOpen
  refine ⟨⟨fun j _ => spares_refl t,now.exclusive⟩,?_⟩
  apply openMeets_quiet .muxLock _ t now rfl
  intro _ v locked
  apply openMeets_write 0 (.inl rfl) _ v locked
  · intro w there ordered _
    apply Openers.exclusive_leave (there.exclusive ordered)
    unfold Openers.Holds
    rw [there.log]
    exact beq_iff_eq.mp mine
  intro v written
  apply openMeets_quiet .muxUnlock _ v written rfl
  intro _ v unlocked
  apply openMeets_priv .freePriv _ false v unlocked
  · intro t _ _ u served
    exact (Prod.mk.inj (Option.some.inj served)).2.symm
  intro _ v done
  apply openMeets_done 0 v done
  simp [OpenCall.written,openAfter]

theorem openMeets_body (c : OpenCall) (s : Openers ι)
    (here : OpenAt orderly i (openRecord past) (openAfter (openRecord past)) false s) :
    OpenMeets orderly i past c c.body s := by
  cases c with
  | mtdCharOpen valid => exact openMeets_open valid s here
  | mtdCharClose => exact openMeets_close s here

variable (orderly)

def openOutline : Outline (ι := ι) (mtdOpens orderly) where
  rely := OthersMove orderly
  guar i _ s t := LeavesOthers orderly i s t
  idle i past s := OpenAt orderly i (openRecord past) (openAfter (openRecord past)) false s
  during _ _ _ s := orderly → s.Exclusive
  label i past _ _ s := OpenAt orderly i (openRecord past) (openAfter (openRecord past)) false s
  rely_refl _ s := ⟨spares_refl s,id⟩
  rely_trans _ _ _ _ first second :=
    ⟨spares_trans first.1 second.1,second.2 ∘ first.2⟩
  idle_stable _ _ s t := openAt_stable s t
  during_stable _ _ _ _ _ moved before := moved.2 before
  invoke _ _ _ _ _ here := ⟨here.exclusive,here⟩
  body _ _ c _ s here := by
    refine safe_mono _ s (fun _ _ _ kept => kept) ?_ (openMeets_body c s here)
    intro next t after
    cases next with
    | inl label => exact after
    | inr ret => exact after
  compatible _ j _ _ _ other kept := ⟨kept.1 j (Ne.symm other),fun _ => kept.2⟩

/-- In orderly runs at most one file has the partition at any time. In every run a file that is
in no call has written to `user_num` what its successful calls have to write, and its failed
opens nothing. -/
theorem mtdOpens_exclusive
    (cfg : Config ι OpenOp OpenOp.Res OpenCall Unit Int (Openers ι))
    (reached : (mtdOpens orderly).Reachable .closed cfg) :
    (orderly → cfg.shared.Alone) ∧
      ∀ i, (cfg.session i).now = none → cfg.shared.writes i = openRecord (cfg.session i).past := by
  let O := openOutline (ι := ι) orderly
  have initially : orderly → (Openers.closed : Openers ι).Exclusive := by
    intro _
    refine ⟨fun i j holds => (nomatch holds),fun used => absurd rfl used,?_⟩
    rintro ⟨i,holds⟩
    exact nomatch holds
  have ready : ∀ i, O.idle i [] .closed :=
    fun _ => ⟨initially,rfl,rfl,fun seen => absurd seen Bool.false_ne_true⟩
  constructor
  · have always := O.sound_always .closed ready (fun s => orderly → s.Exclusive) initially
      (fun _ _ _ here => here.exclusive) (fun _ _ _ _ here => here) cfg reached
    exact fun ordered => (always ordered).alone
  · intro i idle
    have mine := O.sound .closed ready cfg reached i
    unfold Outline.Holds at mine
    rw [idle] at mine
    exact mine.log

end Outline

/-- One file opens the partition, and another is refused until the first has closed it. -/
private def refused : List (Bool × Move OpenCall Bool) :=
  (true,.invoke (.mtdCharOpen true)) :: List.replicate 7 (true,.act true) ++
    (false,.invoke (.mtdCharOpen true)) :: List.replicate 2 (false,.act true) ++
    (true,.invoke .mtdCharClose) :: List.replicate 6 (true,.act true) ++
    (false,.invoke (.mtdCharOpen true)) :: List.replicate 7 (false,.act true)

theorem mtdOpens_exclusive_refused :
    ∃ cfg, (mtdOpens True).schedule refused (.start .closed) = some cfg ∧
      cfg.session true = ⟨[(.mtdCharOpen true,0),(.mtdCharClose,0)],none⟩ ∧
      cfg.session false = ⟨[(.mtdCharOpen true,-ebusy),(.mtdCharOpen true,0)],none⟩ ∧
      cfg.shared.Holds false ∧ cfg.shared.Alone ∧ cfg.shared.writes false = [1] := by
  have exclusive := fun cfg admitted ran => mtdOpens_exclusive True cfg
    (System.schedule_reachable (mtdOpens True) .closed refused _ cfg admitted .start ran)
  have admitted : (mtdOpens True).AdmitsAll refused (.start .closed) := by decide
  exact ⟨_,rfl,rfl,rfl,rfl,(exclusive _ admitted rfl).1 trivial,
    (exclusive _ admitted rfl).2 false rfl⟩

/-- Both look before either has counted itself. -/
private def racing : List (Bool × Move OpenCall Bool) :=
  [(true,.invoke (.mtdCharOpen true)),(false,.invoke (.mtdCharOpen true)),
    (true,.act true),(false,.act true)] ++
    List.replicate 6 (true,.act true) ++ List.replicate 6 (false,.act true)

/-- Two successful opens, and no close. -/
theorem mtdOpens_shared : ∃ cfg, (mtdOpens (ι := Bool) False).Reachable .closed cfg ∧
    (∀ i, cfg.session i = ⟨[(.mtdCharOpen true,0)],none⟩) ∧ ¬ cfg.shared.Alone := by
  have reached := fun cfg admitted ran =>
    System.schedule_reachable (mtdOpens False) .closed racing _ cfg admitted .start ran
  have admitted : (mtdOpens False).AdmitsAll racing (.start .closed) := by decide
  refine ⟨_,reached _ admitted rfl,fun i => ?_,fun alone => ?_⟩
  · cases i <;> rfl
  · exact absurd (alone true false rfl rfl) (by decide)

end DriversAdapter.Storage
