import DriversAdapter.Base.UserCopy
import DriversAdapter.Base.Word
import DriversAdapter.Semantics.Interleaving

/-! Changes to the configuration of one SPI device by any number of clients, in every
interleaving of their steps. A change reads the whole configuration and stores it whole. -/
namespace DriversAdapter.Platform
open DriversAdapter.Base DriversAdapter.Semantics DriversAdapter.Semantics.Program

structure SpiCfg where
  maxSpeedHz : UInt32
  mode : UInt32
  transferMode : UInt32
  bitsPerWord : UInt32

/-- The commands that change the configuration, by what they change. -/
inductive SpiField
  | mode
  | bitsPerWord
  | maxSpeedHz
  deriving DecidableEq

def SpiCfg.zero : SpiCfg := ⟨0,0,0,0⟩

def SpiCfg.get (cfg : SpiCfg) : SpiField → UInt32
  | .mode => cfg.mode
  | .bitsPerWord => cfg.bitsPerWord
  | .maxSpeedHz => cfg.maxSpeedHz

/-- `SpiDevIoctl` marks what its command is about. -/
def SpiField.mask : SpiField → SpiCfg
  | .mode => {SpiCfg.zero with mode := 1}
  | .bitsPerWord => {SpiCfg.zero with bitsPerWord := 1}
  | .maxSpeedHz => {SpiCfg.zero with maxSpeedHz := 1}

/-- The caller's word: no address, an address that cannot be read, or one with the word. -/
inductive SpiWord
  | null
  | fault (fault : CopyFault)
  | word (tmp : UInt32)

structure SpiCfgCall where
  field : SpiField
  arg : SpiWord

inductive SpiCfgOp
  | getCfg
  | setCfg (cfg : SpiCfg)

abbrev SpiCfgOp.Res : SpiCfgOp → Type
  | getCfg => Int × SpiCfg
  | setCfg _ => Int

/-- What the controller answers; a refused configuration may have been stored all the same. -/
structure SpiCfgAnswer where
  ret : Int
  stored : Bool

section Code
-- How much of a word each field holds; the SPI core fixes the types of the fields.
variable (narrow : SpiField → UInt32 → UInt32)

def SpiCfg.change (cfg mask : SpiCfg) (tmp : UInt32) : SpiCfg :=
  if mask.mode = 1 then {cfg with mode := narrow .mode tmp}
  else if mask.bitsPerWord = 1 then {cfg with bitsPerWord := narrow .bitsPerWord tmp}
  else if mask.maxSpeedHz = 1 then {cfg with maxSpeedHz := narrow .maxSpeedHz tmp}
  else cfg

def spiDevSetCfg (mask : SpiCfg) (arg : SpiWord) : Program SpiCfgOp SpiCfgOp.Res (Unit ⊕ Int) :=
  match arg with
  | .null => .done (.inr hdfErrInvalidParam)
  | .fault fault => .done (.inr fault.ret)
  | .word tmp => .perform .getCfg fun got =>
      if got.1 ≠ hdfSuccess then .done (.inr hdfFailure)
      else .perform (.setCfg (got.2.change narrow mask tmp)) fun ret => .done (.inr ret)

end Code

/-- The configuration, how often it has been stored, and how often when a client last read it. -/
structure SpiCfgState (ι : Type) where
  cfg : SpiCfg
  stores : Nat
  seen : ι → Nat

variable {ι : Type} [DecidableEq ι]

def SpiCfgState.exec (i : ι) (op : SpiCfgOp) (answer : SpiCfgAnswer) (s : SpiCfgState ι) :
    Option (op.Res × SpiCfgState ι) :=
  match op with
  | .getCfg =>
    if answer.ret = hdfSuccess then
      some ((hdfSuccess,s.cfg),{s with seen := Function.update s.seen i s.stores})
    else some ((answer.ret,.zero),s)
  | .setCfg cfg =>
    if answer.ret = hdfSuccess ∨ answer.stored then
      some (answer.ret,{s with cfg := cfg,stores := s.stores + 1})
    else some (answer.ret,s)

def SpiCfgState.start (cfg : SpiCfg) : SpiCfgState ι := ⟨cfg,0,fun _ => 0⟩

/-- A client stores only where nobody has stored since it read. -/
def SpiCfgOp.Current (i : ι) (op : SpiCfgOp) (s : SpiCfgState ι) : Prop :=
  match op with
  | .getCfg => True
  | .setCfg _ => s.seen i = s.stores

instance (i : ι) (op : SpiCfgOp) (s : SpiCfgState ι) : Decidable (op.Current i s) :=
  match op with
  | .getCfg => .isTrue trivial
  | .setCfg _ => inferInstanceAs (Decidable (_ = _))

/-- Clients that change different fields; all their runs, or only those that are orderly. -/
def spiCfgs (narrow : SpiField → UInt32 → UInt32) (owner : SpiField → ι) (orderly : Prop) :
    System ι SpiCfgOp SpiCfgOp.Res SpiCfgCall Unit Int SpiCfgAnswer (SpiCfgState ι) where
  exec i op answer s := s.exec i op answer
  entry _ := ()
  body c _ := spiDevSetCfg narrow c.field.mask c.arg
  allowed i c := owner c.field = i
  permitted i op s := orderly → op.Current i s

instance (narrow : SpiField → UInt32 → UInt32) (owner : SpiField → ι) (orderly : Prop) (i : ι)
    (c : SpiCfgCall) : Decidable ((spiCfgs narrow owner orderly).allowed i c) :=
  inferInstanceAs (Decidable (_ = _))

instance (narrow : SpiField → UInt32 → UInt32) (owner : SpiField → ι) (orderly : Prop)
    [Decidable orderly] (i : ι) (op : SpiCfgOp) (s : SpiCfgState ι) :
    Decidable ((spiCfgs narrow owner orderly).permitted i op s) :=
  inferInstanceAs (Decidable (_ → _))

/-- The word that the last call about the field gave, if that call returned success. -/
def lastChange (field : SpiField) (past : List (SpiCfgCall × Int)) : Option UInt32 :=
  past.foldl (fun last done =>
    if done.1.field ≠ field then last
    else match done.1.arg with
      | .word tmp => if done.2 = hdfSuccess then some tmp else none
      | .null | .fault _ => none) none

theorem lastChange_concat (field : SpiField) (past : List (SpiCfgCall × Int)) (c : SpiCfgCall)
    (ret : Int) : lastChange field (past ++ [(c,ret)]) =
      if c.field ≠ field then lastChange field past
      else match c.arg with
        | .word tmp => if ret = hdfSuccess then some tmp else none
        | .null | .fault _ => none := by
  unfold lastChange
  rw [List.foldl_append]
  rfl

section Change
variable {narrow : SpiField → UInt32 → UInt32} (cfg : SpiCfg) (field : SpiField) (tmp : UInt32)

theorem change_self : (cfg.change narrow field.mask tmp).get field = narrow field tmp := by
  cases field <;> rfl

theorem change_other (other : SpiField) (apart : other ≠ field) :
    (cfg.change narrow field.mask tmp).get other = cfg.get other := by
  cases field <;> cases other <;> first | rfl | exact absurd rfl apart

end Change

section Outline
variable (narrow : SpiField → UInt32 → UInt32) (owner : SpiField → ι)

/-- What a client knows: its own last changes are in the configuration. -/
structure CfgAt (i : ι) (last : SpiField → Option UInt32) (s : SpiCfgState ι) : Prop where
  kept : ∀ field tmp, last field = some tmp →
    owner field = i ∧ s.cfg.get field = narrow field tmp

/-- The others leave a client's fields alone, and count what they store. -/
structure CfgMove (i : ι) (s t : SpiCfgState ι) : Prop where
  fields : ∀ field, owner field = i → t.cfg.get field = s.cfg.get field
  seen : t.seen i = s.seen i
  stores : s.stores ≤ t.stores
  same : t.stores = s.stores → t.cfg = s.cfg

variable {narrow owner} {i : ι} {s t u : SpiCfgState ι} {past : List (SpiCfgCall × Int)}
variable {c : SpiCfgCall} {last : SpiField → Option UInt32}

omit [DecidableEq ι] in
theorem cfgMove_refl : CfgMove owner i s s := ⟨fun _ _ => rfl,rfl,Nat.le_refl _,fun _ => rfl⟩

omit [DecidableEq ι] in
theorem cfgMove_trans (first : CfgMove owner i s t) (second : CfgMove owner i t u) :
    CfgMove owner i s u := by
  refine ⟨fun field mine => ?_,second.seen.trans first.seen,first.stores.trans second.stores,?_⟩
  · rw [second.fields field mine,first.fields field mine]
  · intro none
    have low := first.stores
    have high := second.stores
    rw [second.same (by omega),first.same (by omega)]

omit [DecidableEq ι] in
theorem cfgAt_stable (moved : CfgMove owner i s t) (here : CfgAt narrow owner i last s) :
    CfgAt narrow owner i last t := by
  refine ⟨fun field tmp found => ?_⟩
  obtain ⟨mine,same⟩ := here.kept field tmp found
  exact ⟨mine,(moved.fields field mine).trans same⟩

omit [DecidableEq ι] in
/-- A call that returned an error leaves nothing known about its own field. -/
theorem cfgAt_failed (ret : Int) (failed : ret ≠ hdfSuccess)
    (here : ∀ field tmp, field ≠ c.field → lastChange field past = some tmp →
      owner field = i ∧ s.cfg.get field = narrow field tmp) :
    CfgAt narrow owner i (fun field => lastChange field (past ++ [(c,ret)])) s := by
  refine ⟨fun field tmp found => ?_⟩
  rw [lastChange_concat] at found
  by_cases other : c.field ≠ field
  · rw [if_pos other] at found
    exact here field tmp (Ne.symm other) found
  · rw [if_neg other] at found
    split at found
    next => simp [failed] at found
    next => contradiction
    next => contradiction

abbrev CfgSafe (narrow : SpiField → UInt32 → UInt32) (owner : SpiField → ι) (i : ι)
    (past : List (SpiCfgCall × Int)) (c : SpiCfgCall)
    (p : Program SpiCfgOp SpiCfgOp.Res (Unit ⊕ Int)) (s : SpiCfgState ι) : Prop :=
  Safe (CfgMove owner i) ((spiCfgs narrow owner True).step i)
    (fun _ s t => (∀ j, i ≠ j → CfgMove owner j s t) ∧ True)
    (fun next t => match next with
      | .inl _ => owner c.field = i ∧ CfgAt narrow owner i (fun f => lastChange f past) t
      | .inr ret => CfgAt narrow owner i (fun f => lastChange f (past ++ [(c,ret)])) t) p s

theorem cfgSafe_failed (ret : Int) (failed : ret ≠ hdfSuccess)
    (here : CfgAt narrow owner i (fun f => lastChange f past) s) :
    CfgSafe narrow owner i past c (.done (.inr ret)) s := by
  intro t moved
  exact cfgAt_failed ret failed fun field tmp _ => (cfgAt_stable moved here).kept field tmp

omit [DecidableEq ι] in
theorem cfgAt_stored (mine : owner c.field = i) (tmp : UInt32) (arg : c.arg = .word tmp)
    (here : CfgAt narrow owner i (fun f => lastChange f past) s)
    (stored : t.cfg = s.cfg.change narrow c.field.mask tmp) (ret : Int) :
    CfgAt narrow owner i (fun f => lastChange f (past ++ [(c,ret)])) t := by
  have others (field : SpiField) (v : UInt32) (apart : field ≠ c.field)
      (found : lastChange field past = some v) :
      owner field = i ∧ t.cfg.get field = narrow field v := by
    rw [stored,change_other s.cfg c.field tmp field apart]
    exact here.kept field v found
  by_cases ok : ret = hdfSuccess
  · refine ⟨fun field v found => ?_⟩
    rw [lastChange_concat,arg] at found
    by_cases other : c.field ≠ field
    · rw [if_pos other] at found
      exact others field v (Ne.symm other) found
    · obtain rfl := not_not.mp other
      rw [if_neg other] at found
      obtain rfl := Option.some.inj ((if_pos ok).symm.trans found)
      rw [stored]
      exact ⟨mine,change_self s.cfg c.field tmp⟩
  · exact cfgAt_failed ret ok others

/-- The store of a client that read the configuration as it is. -/
theorem cfgSafe_store (mine : owner c.field = i) (tmp : UInt32) (arg : c.arg = .word tmp)
    (here : CfgAt narrow owner i (fun f => lastChange f past) s) (current : s.seen i = s.stores) :
    CfgSafe narrow owner i past c
      (.perform (.setCfg (s.cfg.change narrow c.field.mask tmp)) fun ret => .done (.inr ret)) s := by
  intro t moved ret u performed
  obtain ⟨permitted,answer,served⟩ := performed
  have unseen : t.seen i = t.stores := permitted trivial
  have same : t.cfg = s.cfg := moved.same (by rw [← unseen,moved.seen,current])
  have before := cfgAt_stable moved here
  simp only [spiCfgs,SpiCfgState.exec] at served
  split_ifs at served with stores
  · obtain ⟨rfl,rfl⟩ := Prod.mk.inj (Option.some.inj served)
    refine ⟨⟨fun j other => ⟨fun field theirs => ?_,rfl,Nat.le_succ _,fun none => ?_⟩,trivial⟩,?_⟩
    · have apart : field ≠ c.field := fun same => other (mine.symm.trans (same ▸ theirs))
      dsimp only
      rw [same]
      exact change_other s.cfg c.field tmp field apart
    · exact absurd none (Nat.succ_ne_self _)
    · intro v later
      exact cfgAt_stable later (cfgAt_stored mine tmp arg here rfl answer.ret)
  · obtain ⟨rfl,rfl⟩ := Prod.mk.inj (Option.some.inj served)
    have failed : answer.ret ≠ hdfSuccess := fun ok => stores (.inl ok)
    exact ⟨⟨fun j _ => cfgMove_refl,trivial⟩,cfgSafe_failed _ failed before⟩

theorem cfgSafe_body (mine : owner c.field = i)
    (here : CfgAt narrow owner i (fun f => lastChange f past) s) :
    CfgSafe narrow owner i past c (spiDevSetCfg narrow c.field.mask c.arg) s := by
  have param : hdfErrInvalidParam ≠ hdfSuccess := by decide
  have failure : hdfFailure ≠ hdfSuccess := by decide
  cases arg : c.arg with
  | null => exact cfgSafe_failed _ param here
  | fault fault => exact cfgSafe_failed _ fault.failed here
  | word tmp =>
    intro t moved got u performed
    obtain ⟨_,answer,served⟩ := performed
    have there := cfgAt_stable moved here
    simp only [spiCfgs,SpiCfgState.exec] at served
    split_ifs at served with ok
    · obtain ⟨rfl,rfl⟩ := Prod.mk.inj (Option.some.inj served)
      refine ⟨⟨fun j other => ⟨fun _ _ => rfl,?_,Nat.le_refl _,fun _ => rfl⟩,trivial⟩,?_⟩
      · exact Function.update_of_ne (Ne.symm other) _ _
      · dsimp only
        rw [if_neg (not_not.mpr rfl)]
        have after : CfgAt narrow owner i (fun f => lastChange f past)
            {t with seen := Function.update t.seen i t.stores} := ⟨there.kept⟩
        exact cfgSafe_store mine tmp arg after (Function.update_self i _ _)
    · obtain ⟨rfl,rfl⟩ := Prod.mk.inj (Option.some.inj served)
      refine ⟨⟨fun j _ => cfgMove_refl,trivial⟩,?_⟩
      dsimp only
      rw [if_pos ok]
      exact cfgSafe_failed _ failure there

variable (narrow owner)

def cfgOutline : Outline (spiCfgs narrow owner True) where
  rely := CfgMove owner
  guar i _ s t := ∀ j, i ≠ j → CfgMove owner j s t
  idle i past s := CfgAt narrow owner i (fun f => lastChange f past) s
  during _ _ _ _ := True
  label i past c _ s := owner c.field = i ∧ CfgAt narrow owner i (fun f => lastChange f past) s
  rely_refl _ _ := cfgMove_refl
  rely_trans _ _ _ _ := cfgMove_trans
  idle_stable _ _ _ _ := cfgAt_stable
  during_stable _ _ _ _ _ _ _ := trivial
  invoke _ _ _ _ mine here := ⟨trivial,mine,here⟩
  body _ _ _ _ s here := by
    refine safe_mono _ s (fun _ _ _ kept => kept) ?_ (cfgSafe_body here.1 here.2)
    intro next t after
    cases next with
    | inl label => exact after
    | inr ret => exact after
  compatible _ j _ _ _ other kept := kept j other

/-- In orderly runs the configuration holds every client's last change, once the call that made
it has returned success. -/
theorem spiCfgs_kept (cfg : SpiCfg)
    (reached : Config ι SpiCfgOp SpiCfgOp.Res SpiCfgCall Unit Int (SpiCfgState ι))
    (run : (spiCfgs narrow owner True).Reachable (.start cfg) reached) (i : ι)
    (idle : (reached.session i).now = none) (field : SpiField) (tmp : UInt32)
    (last : lastChange field (reached.session i).past = some tmp) :
    reached.shared.cfg.get field = narrow field tmp := by
  let O := cfgOutline (ι := ι) narrow owner
  have ready : ∀ i, O.idle i [] (.start cfg) := fun _ => ⟨fun _ _ none => nomatch none⟩
  have mine := O.sound (.start cfg) ready reached run i
  unfold Outline.Holds at mine
  rw [idle] at mine
  exact (mine.kept field tmp last).2

end Outline

/-- One client changes the mode, the other the speed. -/
private def fieldOwner : SpiField → Bool := fun field => field == .mode

private def whole : SpiField → UInt32 → UInt32 := fun _ tmp => tmp

private def success : SpiCfgAnswer := ⟨hdfSuccess,true⟩

/-- Both calls are under way; the one reads after the other has stored, which then returns. -/
private def modeThenSpeed : List (Bool × Move SpiCfgCall SpiCfgAnswer) :=
  [(true,.invoke ⟨.mode,.word 3⟩),(false,.invoke ⟨.maxSpeedHz,.word 500⟩),
    (true,.act success),(true,.act success),(false,.act success),(true,.act success),
    (false,.act success),(false,.act success)]

theorem spiCfgs_kept_both : ∃ reached,
    (spiCfgs whole fieldOwner True).schedule modeThenSpeed (.start (.start .zero)) = some reached ∧
      reached.shared.cfg.get .mode = 3 ∧ reached.shared.cfg.get .maxSpeedHz = 500 := by
  have run := fun reached admitted ran =>
    System.schedule_reachable (spiCfgs whole fieldOwner True) (.start .zero) modeThenSpeed _
      reached admitted .start ran
  have admitted : (spiCfgs whole fieldOwner True).AdmitsAll modeThenSpeed
    (.start (.start .zero)) := by decide
  refine ⟨_,rfl,?_,?_⟩
  · exact spiCfgs_kept whole fieldOwner .zero _ (run _ admitted rfl) true rfl .mode 3 rfl
  · exact spiCfgs_kept whole fieldOwner .zero _ (run _ admitted rfl) false rfl .maxSpeedHz 500 rfl

/-- Both read before either stores. -/
private def bothRead : List (Bool × Move SpiCfgCall SpiCfgAnswer) :=
  [(true,.invoke ⟨.mode,.word 3⟩),(false,.invoke ⟨.maxSpeedHz,.word 500⟩),
    (true,.act success),(false,.act success)] ++
    List.replicate 2 (true,.act success) ++ List.replicate 2 (false,.act success)

/-- Both calls have returned success, and the mode is the old one. -/
theorem spiCfgs_lost : ∃ reached,
    (spiCfgs whole fieldOwner False).Reachable (.start .zero) reached ∧
      (reached.session true) = ⟨[(⟨.mode,.word 3⟩,hdfSuccess)],none⟩ ∧
      (reached.session false) = ⟨[(⟨.maxSpeedHz,.word 500⟩,hdfSuccess)],none⟩ ∧
      reached.shared.cfg.get .mode ≠ 3 := by
  have run := fun reached admitted ran =>
    System.schedule_reachable (spiCfgs whole fieldOwner False) (.start .zero) bothRead _
      reached admitted .start ran
  have admitted : (spiCfgs whole fieldOwner False).AdmitsAll bothRead
    (.start (.start .zero)) := by decide
  exact ⟨_,run _ admitted rfl,rfl,rfl,by decide⟩

end DriversAdapter.Platform
