import DriversAdapter.Semantics.Blocks
import DriversAdapter.Semantics.Machine
import Mathlib.Data.List.Nodup
import Mathlib.Logic.Function.Basic

/-! The holders behind remote services, and the notifiers through which they hear of a death. A
notifier goes to the remote object, which outlives the holder. -/
namespace DriversAdapter.Ipc.RemoteAdapter
open DriversAdapter.Semantics

abbrev ServiceId := Nat
abbrev RemoteObject := Nat
abbrev NotifierId := Nat
abbrev RecipientId := Nat

/-- `none` is the null pointer. -/
structure HdfRemoteServiceHolder where
  remote : Option RemoteObject
  deathRecipient : Option NotifierId

structure HdfDeathNotifier where
  recipient : Option RecipientId
  service : ServiceId

/-- The holders are blocks of memory, the notifiers are counted by the objects that use them.
`registered` is what a remote object calls when it dies. -/
structure Adapter where
  services : Blocks
  holder : ServiceId → HdfRemoteServiceHolder
  notifierCount : Nat
  notifier : NotifierId → HdfDeathNotifier
  registered : RemoteObject → List NotifierId
  dead : RemoteObject → Bool

/-- Whether the remote object takes a notifier, or forgets those that it has told, is its own
affair. A service may be the null pointer. -/
inductive AdapterCall
  | bind (binder : Option RemoteObject)
  | obtain (stub : RemoteObject)
  | addDeathRecipient (service : Option ServiceId) (recipient : Option RecipientId)
      (accepted : Bool)
  | removeDeathRecipient (service : Option ServiceId)
  | recycle (service : Option ServiceId)
  | died (remote : RemoteObject) (forgets : Bool)

/-- What a call hands out or calls back. -/
structure Outcome where
  service : Option ServiceId
  told : List (RecipientId × ServiceId)

namespace Adapter

def start : Adapter :=
  ⟨.empty,fun _ => ⟨none,none⟩,0,fun _ => ⟨none,0⟩,fun _ => [],fun _ => false⟩

def new (remote : Option RemoteObject) (s : Adapter) : Adapter :=
  {s with
    services := s.services.alloc
    holder := Function.update s.holder s.services.count ⟨remote,none⟩}

def hdfRemoteAdapterBind (binder : Option RemoteObject) (s : Adapter) : ServiceId × Adapter :=
  (s.services.count,s.new binder)

def hdfRemoteAdapterObtain (stub : RemoteObject) (s : Adapter) : ServiceId × Adapter :=
  (s.services.count,s.new (some stub))

/-- `remote->RemoveDeathRecipient(holder->deathRecipient_)`. -/
def unregister (remote : RemoteObject) (service : ServiceId) (s : Adapter) : Adapter :=
  match (s.holder service).deathRecipient with
  | none => s
  | some n =>
    {s with registered :=
      Function.update s.registered remote ((s.registered remote).filter (· ≠ n))}

def hdfRemoteAdapterAddDeathRecipient (service : Option ServiceId)
    (recipient : Option RecipientId) (accepted : Bool) (s : Adapter) : Adapter :=
  match service with
  | none => s
  | some service => match (s.holder service).remote with
    | none => s
    | some remote =>
      let s := s.unregister remote service
      {s with
        notifierCount := s.notifierCount + 1
        notifier := Function.update s.notifier s.notifierCount ⟨recipient,service⟩
        holder := Function.update s.holder service ⟨some remote,some s.notifierCount⟩
        registered := if accepted then
          Function.update s.registered remote (s.notifierCount :: s.registered remote)
        else s.registered}

def hdfRemoteAdapterRemoveDeathRecipient (service : Option ServiceId) (s : Adapter) : Adapter :=
  match service with
  | none => s
  | some service => match (s.holder service).remote with
    | none => s
    | some remote =>
      {s.unregister remote service with
        holder := Function.update s.holder service ⟨some remote,none⟩}

def hdfRemoteAdapterRecycle (service : Option ServiceId) (s : Adapter) : Adapter :=
  match service with
  | none => s
  | some service => {s with services := s.services.free service}

/-- `HdfDeathNotifier::OnRemoteDied` of everyone who is registered. -/
def onRemoteDied (remote : RemoteObject) (s : Adapter) : List (RecipientId × ServiceId) :=
  (s.registered remote).filterMap fun n =>
    (s.notifier n).recipient.map fun recipient => (recipient,(s.notifier n).service)

/-- A remote object dies once. -/
def die (remote : RemoteObject) (forgets : Bool) (s : Adapter) :
    List (RecipientId × ServiceId) × Adapter :=
  if s.dead remote then ([],s)
  else (s.onRemoteDied remote,
    {s with
      dead := Function.update s.dead remote true
      registered := if forgets then Function.update s.registered remote [] else s.registered})

def step (call : AdapterCall) (s : Adapter) : Outcome × Adapter :=
  match call with
  | .bind binder => (⟨(s.hdfRemoteAdapterBind binder).1,[]⟩,(s.hdfRemoteAdapterBind binder).2)
  | .obtain stub => (⟨(s.hdfRemoteAdapterObtain stub).1,[]⟩,(s.hdfRemoteAdapterObtain stub).2)
  | .addDeathRecipient service recipient accepted =>
    (⟨none,[]⟩,s.hdfRemoteAdapterAddDeathRecipient service recipient accepted)
  | .removeDeathRecipient service => (⟨none,[]⟩,s.hdfRemoteAdapterRemoveDeathRecipient service)
  | .recycle service => (⟨none,[]⟩,s.hdfRemoteAdapterRecycle service)
  | .died remote forgets => (⟨none,(s.die remote forgets).1⟩,(s.die remote forgets).2)

/-- The services that hear of a death in a run, from the first to the last. -/
def mourners (calls : List AdapterCall) (s : Adapter) : List ServiceId :=
  (Machine.run step calls s).1.flatMap fun outcome => outcome.told.map Prod.snd

/-- Who is registered with a remote object is the present notifier of a holder of that object. -/
structure Sound (s : Adapter) : Prop where
  current : ∀ remote n, n ∈ s.registered remote →
    s.holder (s.notifier n).service = ⟨remote,some n⟩
  known : ∀ service n, (s.holder service).deathRecipient = some n →
    n < s.notifierCount ∧ (s.notifier n).service = service
  once : ∀ remote, (s.registered remote).Nodup
  unused : ∀ service, s.services.count ≤ service → (s.holder service).deathRecipient = none

/-- Whichever object dies next, nobody is told of a service that is gone. -/
def Spares (s : Adapter) : Prop :=
  ∀ remote, s.dead remote = false → ∀ told ∈ s.onRemoteDied remote, s.services.Live told.2

/-- A service that is passed is there. -/
def Uses (call : AdapterCall) (s : Adapter) : Prop :=
  match call with
  | .addDeathRecipient (some service) _ _ | .removeDeathRecipient (some service)
  | .recycle (some service) => s.services.Live service
  | _ => True

/-- No object that can still die has a notifier of the service to call back. -/
def Quiet (service : ServiceId) (s : Adapter) : Prop :=
  ∀ remote, (s.holder service).remote = some remote → s.dead remote = false →
    ∀ n ∈ s.registered remote, (s.holder service).deathRecipient = some n →
      (s.notifier n).recipient = none

/-- A service is used while it is there, and recycled when it is quiet. -/
def Careful (call : AdapterCall) (s : Adapter) : Prop :=
  match call with
  | .addDeathRecipient (some service) _ _ | .removeDeathRecipient (some service) =>
    s.services.Live service
  | .recycle (some service) => s.services.Live service ∧ s.Quiet service
  | _ => True

section Steps
variable {s : Adapter}

theorem sound_start : start.Sound := by
  refine ⟨?_,?_,?_,?_⟩ <;> simp [start]

theorem spares_start : start.Spares := by
  simp [Spares,start,onRemoteDied]

/-- Those who are told are the services of registered notifiers with a recipient. -/
theorem mem_onRemoteDied (remote : RemoteObject) (service : ServiceId) :
    (∃ recipient, (recipient,service) ∈ s.onRemoteDied remote) ↔
      ∃ n ∈ s.registered remote, (s.notifier n).recipient ≠ none ∧
        (s.notifier n).service = service := by
  unfold onRemoteDied
  constructor
  · rintro ⟨recipient,member⟩
    obtain ⟨n,here,called⟩ := List.mem_filterMap.mp member
    obtain ⟨other,given,same⟩ := Option.map_eq_some_iff.mp called
    exact ⟨n,here,by simp [given],congrArg Prod.snd same⟩
  · rintro ⟨n,here,given,rfl⟩
    obtain ⟨recipient,given⟩ := Option.ne_none_iff_exists'.mp given
    exact ⟨recipient,List.mem_filterMap.mpr ⟨n,here,by rw [given]; rfl⟩⟩

theorem spares_iff : s.Spares ↔ ∀ remote, s.dead remote = false → ∀ n ∈ s.registered remote,
    (s.notifier n).recipient ≠ none → s.services.Live (s.notifier n).service := by
  constructor
  · intro spares remote alive n here given
    obtain ⟨recipient,told⟩ := (mem_onRemoteDied remote _).mpr ⟨n,here,given,rfl⟩
    exact spares remote alive _ told
  · rintro all remote alive ⟨recipient,service⟩ told
    obtain ⟨n,here,given,rfl⟩ := (mem_onRemoteDied remote service).mp ⟨recipient,told⟩
    exact all remote alive n here given

/-- The service of a registered notifier was made before. -/
theorem service_lt (sound : s.Sound) (remote : RemoteObject) (n : NotifierId)
    (here : n ∈ s.registered remote) : (s.notifier n).service < s.services.count := by
  by_contra beyond
  have none := sound.unused _ (Nat.le_of_not_lt beyond)
  rw [sound.current remote n here] at none
  contradiction

theorem sound_new (sound : s.Sound) (remote : Option RemoteObject) : (s.new remote).Sound := by
  have old (r : RemoteObject) (n : NotifierId) (here : n ∈ s.registered r) :
      (s.notifier n).service ≠ s.services.count := Nat.ne_of_lt (service_lt sound r n here)
  refine ⟨fun r n here => ?_,fun service n mine => ?_,sound.once,fun service beyond => ?_⟩
  · change Function.update s.holder s.services.count _ (s.notifier n).service = _
    rw [Function.update_of_ne (old r n here)]
    exact sound.current r n here
  · change (Function.update s.holder s.services.count _ service).deathRecipient = _ at mine
    by_cases same : service = s.services.count
    · rw [same,Function.update_self] at mine
      contradiction
    · rw [Function.update_of_ne same] at mine
      exact sound.known service n mine
  · have other : service ≠ s.services.count := Nat.ne_of_gt beyond
    change (Function.update s.holder s.services.count _ service).deathRecipient = _
    rw [Function.update_of_ne other]
    exact sound.unused service (Nat.le_of_succ_le beyond)

theorem spares_new (spares : s.Spares) (remote : Option RemoteObject) : (s.new remote).Spares :=
  fun r alive told member => Blocks.live_alloc.mpr (.inl (spares r alive told member))

/-- Of a service that is asked for, nothing is registered any more, and all else stays. -/
theorem registered_unregister (sound : s.Sound) (service : ServiceId) (own : RemoteObject)
    (held : (s.holder service).remote = some own) (remote : RemoteObject) (n : NotifierId) :
    n ∈ (s.unregister own service).registered remote ↔
      n ∈ s.registered remote ∧ (s.notifier n).service ≠ service := by
  unfold unregister
  cases mine : (s.holder service).deathRecipient with
  | none =>
    refine ⟨fun here => ⟨here,fun same => ?_⟩,And.left⟩
    have current := sound.current remote n here
    rw [same] at current
    rw [current] at mine
    contradiction
  | some m =>
    have named := (sound.known service m mine).2
    dsimp only
    by_cases there : remote = own
    · subst there
      rw [Function.update_self,List.mem_filter]
      refine and_congr_right fun here => ?_
      rw [decide_eq_true_iff]
      refine not_congr ⟨fun same => same ▸ named,fun same => ?_⟩
      have current := sound.current _ n here
      rw [same] at current
      have name := congrArg HdfRemoteServiceHolder.deathRecipient current
      exact Option.some.inj (name.symm.trans mine)
    · rw [Function.update_of_ne there]
      refine ⟨fun here => ⟨here,fun same => there ?_⟩,And.left⟩
      have current := sound.current remote n here
      rw [same] at current
      rw [current] at held
      exact Option.some.inj held

theorem unregister_kept (remote : RemoteObject) (service : ServiceId) :
    (s.unregister remote service).services = s.services ∧
      (s.unregister remote service).holder = s.holder ∧
      (s.unregister remote service).notifier = s.notifier ∧
      (s.unregister remote service).notifierCount = s.notifierCount ∧
      (s.unregister remote service).dead = s.dead := by
  unfold unregister
  split <;> exact ⟨rfl,rfl,rfl,rfl,rfl⟩

theorem once_unregister (sound : s.Sound) (own : RemoteObject) (service : ServiceId)
    (remote : RemoteObject) : ((s.unregister own service).registered remote).Nodup := by
  unfold unregister
  split
  next => exact sound.once remote
  next n mine =>
    dsimp only
    by_cases there : remote = own
    · rw [there,Function.update_self]
      exact (sound.once _).filter _
    · rw [Function.update_of_ne there]
      exact sound.once remote

theorem remove_eq (service : ServiceId) (own : RemoteObject)
    (held : (s.holder service).remote = some own) :
    s.hdfRemoteAdapterRemoveDeathRecipient (some service) =
      {s.unregister own service with
        holder := Function.update s.holder service ⟨some own,none⟩} := by
  unfold hdfRemoteAdapterRemoveDeathRecipient
  dsimp only
  rw [held]

/-- Without a remote nothing is done. -/
theorem remove_none (service : ServiceId) (unheld : (s.holder service).remote = none) :
    s.hdfRemoteAdapterRemoveDeathRecipient (some service) = s := by
  unfold hdfRemoteAdapterRemoveDeathRecipient
  dsimp only
  rw [unheld]

theorem sound_remove (sound : s.Sound) (service : ServiceId) :
    (s.hdfRemoteAdapterRemoveDeathRecipient (some service)).Sound := by
  cases held : (s.holder service).remote with
  | none =>
    rw [remove_none service held]
    exact sound
  | some own =>
    obtain ⟨services,holders,notifiers,count,_⟩ := s.unregister_kept own service
    rw [remove_eq service own held]
    refine ⟨fun remote n here => ?_,fun other n mine => ?_,once_unregister sound own service,
      fun other beyond => ?_⟩
    · obtain ⟨before,apart⟩ := (registered_unregister sound service own held remote n).mp here
      dsimp only
      rw [notifiers,Function.update_of_ne apart]
      exact sound.current remote n before
    · dsimp only at mine ⊢
      by_cases same : other = service
      · rw [same,Function.update_self] at mine
        contradiction
      · rw [Function.update_of_ne same] at mine
        rw [count,notifiers]
        exact sound.known other n mine
    · dsimp only at beyond ⊢
      by_cases same : other = service
      · rw [same,Function.update_self]
      · rw [Function.update_of_ne same]
        exact sound.unused other (services ▸ beyond)

theorem spares_remove (sound : s.Sound) (spares : s.Spares) (service : ServiceId) :
    (s.hdfRemoteAdapterRemoveDeathRecipient (some service)).Spares := by
  cases held : (s.holder service).remote with
  | none =>
    rw [remove_none service held]
    exact spares
  | some own =>
    obtain ⟨services,_,notifiers,_,dead⟩ := s.unregister_kept own service
    rw [remove_eq service own held,spares_iff]
    dsimp only
    rw [services,notifiers,dead]
    intro remote alive n here given
    obtain ⟨before,_⟩ := (registered_unregister sound service own held remote n).mp here
    exact spares_iff.mp spares remote alive n before given

/-- A registered notifier was made before. -/
theorem registered_lt (sound : s.Sound) (remote : RemoteObject) (n : NotifierId)
    (here : n ∈ s.registered remote) : n < s.notifierCount :=
  (sound.known _ n (congrArg HdfRemoteServiceHolder.deathRecipient
    (sound.current remote n here))).1

/-- What a call that adds a notifier to a service with a remote leaves. -/
structure Added (s t : Adapter) (service : ServiceId) (own : RemoteObject)
    (recipient : Option RecipientId) : Prop where
  services : t.services = s.services
  dead : t.dead = s.dead
  notifier : t.notifier = Function.update s.notifier s.notifierCount ⟨recipient,service⟩
  holder : t.holder = Function.update s.holder service ⟨some own,some s.notifierCount⟩
  counted : t.notifierCount = s.notifierCount + 1
  registered : ∀ remote n, n ∈ t.registered remote → (n = s.notifierCount ∧ remote = own) ∨
    n ∈ s.registered remote ∧ (s.notifier n).service ≠ service ∧ n ≠ s.notifierCount
  once : ∀ remote, (t.registered remote).Nodup

theorem added (sound : s.Sound) (service : ServiceId) (own : RemoteObject)
    (held : (s.holder service).remote = some own) (recipient : Option RecipientId)
    (accepted : Bool) :
    Added s (s.hdfRemoteAdapterAddDeathRecipient (some service) recipient accepted) service own
      recipient := by
  obtain ⟨services,holders,notifiers,count,dead⟩ := s.unregister_kept own service
  have old (remote : RemoteObject) (n : NotifierId)
      (before : n ∈ (s.unregister own service).registered remote) :
      n ∈ s.registered remote ∧ (s.notifier n).service ≠ service ∧ n ≠ s.notifierCount := by
    obtain ⟨before,apart⟩ := (registered_unregister sound service own held remote n).mp before
    exact ⟨before,apart,Nat.ne_of_lt (registered_lt sound remote n before)⟩
  unfold hdfRemoteAdapterAddDeathRecipient
  dsimp only
  rw [held]
  dsimp only
  rw [holders,notifiers,count]
  refine ⟨services,dead,rfl,rfl,rfl,fun remote n here => ?_,fun remote => ?_⟩
  · cases accepted with
    | false => exact .inr (old remote n here)
    | true =>
      rw [if_pos rfl] at here
      dsimp only at here
      by_cases there : remote = own
      · subst there
        rw [Function.update_self] at here
        rcases List.mem_cons.mp here with new | before
        · exact .inl ⟨new,rfl⟩
        · exact .inr (old _ n before)
      · rw [Function.update_of_ne there] at here
        exact .inr (old remote n here)
  · have before := once_unregister sound own service remote
    cases accepted with
    | false => exact before
    | true =>
      rw [if_pos rfl]
      dsimp only
      by_cases there : remote = own
      · subst there
        rw [Function.update_self]
        refine List.nodup_cons.mpr ⟨fun here => ?_,before⟩
        exact (old _ _ here).2.2 rfl
      · rw [Function.update_of_ne there]
        exact before

theorem add_none (service : ServiceId) (recipient : Option RecipientId) (accepted : Bool)
    (unheld : (s.holder service).remote = none) :
    s.hdfRemoteAdapterAddDeathRecipient (some service) recipient accepted = s := by
  unfold hdfRemoteAdapterAddDeathRecipient
  dsimp only
  rw [unheld]

theorem sound_add (sound : s.Sound) (service : ServiceId) (recipient : Option RecipientId)
    (accepted : Bool) (live : s.services.Live service) :
    (s.hdfRemoteAdapterAddDeathRecipient (some service) recipient accepted).Sound := by
  cases held : (s.holder service).remote with
  | none =>
    rw [add_none service recipient accepted held]
    exact sound
  | some own =>
    have after := added sound service own held recipient accepted
    refine ⟨fun remote n here => ?_,fun other n mine => ?_,after.once,fun other beyond => ?_⟩
    · rw [after.notifier,after.holder]
      rcases after.registered remote n here with ⟨rfl,there⟩ | ⟨before,apart,old⟩
      · rw [Function.update_self,Function.update_self,there]
      · rw [Function.update_of_ne old,Function.update_of_ne apart]
        exact sound.current remote n before
    · rw [after.holder] at mine
      rw [after.counted,after.notifier]
      by_cases same : other = service
      · rw [same,Function.update_self] at mine
        obtain rfl : s.notifierCount = n := Option.some.inj mine
        rw [Function.update_self]
        exact ⟨Nat.lt_succ_self _,same.symm⟩
      · rw [Function.update_of_ne same] at mine
        obtain ⟨made,own⟩ := sound.known other n mine
        rw [Function.update_of_ne (Nat.ne_of_lt made)]
        exact ⟨Nat.lt_succ_of_lt made,own⟩
    · rw [after.services] at beyond
      have apart : other ≠ service := Nat.ne_of_gt (Nat.lt_of_lt_of_le live.1 beyond)
      rw [after.holder,Function.update_of_ne apart]
      exact sound.unused other beyond

theorem spares_add (sound : s.Sound) (spares : s.Spares) (service : ServiceId)
    (recipient : Option RecipientId) (accepted : Bool) (live : s.services.Live service) :
    (s.hdfRemoteAdapterAddDeathRecipient (some service) recipient accepted).Spares := by
  cases held : (s.holder service).remote with
  | none =>
    rw [add_none service recipient accepted held]
    exact spares
  | some own =>
    have after := added sound service own held recipient accepted
    rw [spares_iff,after.services,after.dead,after.notifier]
    intro remote alive n here given
    rcases after.registered remote n here with ⟨rfl,_⟩ | ⟨before,_,old⟩
    · rw [Function.update_self]
      exact live
    · rw [Function.update_of_ne old] at given ⊢
      exact spares_iff.mp spares remote alive n before given

theorem spares_recycle_iff (sound : s.Sound) (spares : s.Spares) (service : ServiceId) :
    (s.hdfRemoteAdapterRecycle (some service)).Spares ↔ s.Quiet service := by
  rw [spares_iff]
  constructor
  · intro after remote _ alive n here mine
    by_contra given
    have own := (sound.known service n mine).2
    obtain ⟨_,apart⟩ := Blocks.live_free.mp (after remote alive n here given)
    exact apart own
  · intro quiet remote alive n here given
    refine Blocks.live_free.mpr ⟨spares_iff.mp spares remote alive n here given,fun same => ?_⟩
    change (s.notifier n).service = service at same
    have current := sound.current remote n here
    rw [same] at current
    exact given (quiet remote (congrArg HdfRemoteServiceHolder.remote current) alive n here
      (congrArg HdfRemoteServiceHolder.deathRecipient current))

theorem die_kept (remote : RemoteObject) (forgets : Bool) :
    (s.die remote forgets).2.services = s.services ∧ (s.die remote forgets).2.holder = s.holder ∧
      (s.die remote forgets).2.notifier = s.notifier ∧
      (s.die remote forgets).2.notifierCount = s.notifierCount := by
  unfold die
  split <;> exact ⟨rfl,rfl,rfl,rfl⟩

/-- A death registers nothing, and revives nothing. -/
theorem die_fewer (remote : RemoteObject) (forgets : Bool) (other : RemoteObject) :
    ((s.die remote forgets).2.registered other).Sublist (s.registered other) ∧
      ((s.die remote forgets).2.dead other = false → s.dead other = false) := by
  unfold die
  split
  next => exact ⟨.refl _,id⟩
  next alive =>
    constructor
    · cases forgets with
      | false => exact .refl _
      | true =>
        change (Function.update s.registered remote [] other).Sublist _
        by_cases same : other = remote
        · rw [same,Function.update_self]
          exact List.nil_sublist _
        · rw [Function.update_of_ne same]
    · intro later
      dsimp only at later
      by_cases same : other = remote
      · rw [same,Function.update_self] at later
        contradiction
      · rwa [Function.update_of_ne same] at later

theorem sound_die (sound : s.Sound) (remote : RemoteObject) (forgets : Bool) :
    (s.die remote forgets).2.Sound := by
  obtain ⟨services,holders,notifiers,count⟩ := s.die_kept remote forgets
  refine ⟨fun other n here => ?_,fun service n mine => ?_,fun other => ?_,fun service beyond => ?_⟩
  · rw [holders,notifiers]
    exact sound.current other n ((s.die_fewer remote forgets other).1.subset here)
  · rw [holders] at mine
    rw [count,notifiers]
    exact sound.known service n mine
  · exact (sound.once other).sublist (s.die_fewer remote forgets other).1
  · rw [services] at beyond
    rw [holders]
    exact sound.unused service beyond

theorem spares_die (spares : s.Spares) (remote : RemoteObject) (forgets : Bool) :
    (s.die remote forgets).2.Spares := by
  obtain ⟨services,_,notifiers,_⟩ := s.die_kept remote forgets
  rw [spares_iff,services,notifiers]
  intro other alive n here given
  obtain ⟨fewer,revived⟩ := s.die_fewer remote forgets other
  exact spares_iff.mp spares other (revived alive) n (fewer.subset here) given

theorem step_sound (call : AdapterCall) (sound : s.Sound) (uses : Uses call s) :
    (step call s).2.Sound := by
  cases call with
  | bind binder => exact sound_new sound binder
  | obtain stub => exact sound_new sound (some stub)
  | addDeathRecipient service recipient accepted =>
    cases service with
    | none => exact sound
    | some service => exact sound_add sound service recipient accepted uses
  | removeDeathRecipient service =>
    cases service with
    | none => exact sound
    | some service => exact sound_remove sound service
  | recycle service =>
    cases service with
    | none => exact sound
    | some service => exact ⟨sound.current,sound.known,sound.once,sound.unused⟩
  | died remote forgets => exact sound_die sound remote forgets

theorem step_spares_iff (call : AdapterCall) (sound : s.Sound) (spares : s.Spares) :
    (step call s).2.Spares ∧ Uses call s ↔ Careful call s := by
  cases call with
  | bind binder => exact iff_of_true ⟨spares_new spares binder,trivial⟩ trivial
  | obtain stub => exact iff_of_true ⟨spares_new spares (some stub),trivial⟩ trivial
  | addDeathRecipient service recipient accepted =>
    cases service with
    | none => exact iff_of_true ⟨spares,trivial⟩ trivial
    | some service =>
      exact ⟨And.right,fun live => ⟨spares_add sound spares service recipient accepted live,live⟩⟩
  | removeDeathRecipient service =>
    cases service with
    | none => exact iff_of_true ⟨spares,trivial⟩ trivial
    | some service => exact ⟨And.right,fun live => ⟨spares_remove sound spares service,live⟩⟩
  | recycle service =>
    cases service with
    | none => exact iff_of_true ⟨spares,trivial⟩ trivial
    | some service =>
      have freed := spares_recycle_iff sound spares service
      exact ⟨fun done => ⟨done.2,freed.mp done.1⟩,fun careful => ⟨freed.mpr careful.2,careful.1⟩⟩
  | died remote forgets => exact iff_of_true ⟨spares_die spares remote forgets,trivial⟩ trivial

theorem uses_of_careful (call : AdapterCall) (careful : Careful call s) : Uses call s := by
  cases call with
  | addDeathRecipient service recipient accepted => cases service <;> exact careful
  | removeDeathRecipient service => cases service <;> exact careful
  | recycle service =>
    cases service with
    | none => trivial
    | some service => exact careful.1
  | _ => trivial

/-- A service of an object that has died. -/
def Bereft (s : Adapter) (service : ServiceId) : Prop :=
  service < s.services.count ∧ ∃ remote, (s.holder service).remote = some remote ∧
    s.dead remote = true

/-- A service keeps its remote, and what is dead stays dead. -/
theorem bereft_step (call : AdapterCall) (service : ServiceId) (bereft : s.Bereft service) :
    (step call s).2.Bereft service := by
  obtain ⟨made,own,held,gone⟩ := bereft
  have renewed (remote : Option RemoteObject) : (s.new remote).Bereft service := by
    refine ⟨Nat.lt_succ_of_lt made,own,?_,gone⟩
    change (Function.update s.holder s.services.count _ service).remote = _
    rw [Function.update_of_ne (Nat.ne_of_lt made)]
    exact held
  have rewritten (t : Adapter) (other : ServiceId) (remote : RemoteObject)
      (recipient : Option NotifierId) (theirs : (s.holder other).remote = some remote)
      (services : t.services = s.services) (dead : t.dead = s.dead)
      (holder : t.holder = Function.update s.holder other ⟨some remote,recipient⟩) :
      t.Bereft service := by
    refine ⟨services ▸ made,own,?_,dead ▸ gone⟩
    rw [holder]
    by_cases same : service = other
    · rw [same] at held ⊢
      rw [Function.update_self]
      exact theirs.symm.trans held
    · rw [Function.update_of_ne same]
      exact held
  cases call with
  | bind binder => exact renewed binder
  | obtain stub => exact renewed (some stub)
  | addDeathRecipient other recipient accepted =>
    cases other with
    | none => exact ⟨made,own,held,gone⟩
    | some other =>
      cases theirs : (s.holder other).remote with
      | none =>
        change (s.hdfRemoteAdapterAddDeathRecipient (some other) recipient accepted).Bereft service
        rw [add_none other recipient accepted theirs]
        exact ⟨made,own,held,gone⟩
      | some remote =>
        obtain ⟨services,holders,_,count,dead⟩ := s.unregister_kept remote other
        refine rewritten _ other remote (some s.notifierCount) theirs ?_ ?_ ?_
        all_goals
          simp only [step,hdfRemoteAdapterAddDeathRecipient,theirs]
          first | exact services | exact dead | rw [holders,count]
  | removeDeathRecipient other =>
    cases other with
    | none => exact ⟨made,own,held,gone⟩
    | some other =>
      cases theirs : (s.holder other).remote with
      | none =>
        change (s.hdfRemoteAdapterRemoveDeathRecipient (some other)).Bereft service
        rw [remove_none other theirs]
        exact ⟨made,own,held,gone⟩
      | some remote =>
        obtain ⟨services,_,_,_,dead⟩ := s.unregister_kept remote other
        change (s.hdfRemoteAdapterRemoveDeathRecipient (some other)).Bereft service
        rw [remove_eq other remote theirs]
        exact rewritten _ other remote none theirs services dead rfl
  | recycle other =>
    cases other with
    | none => exact ⟨made,own,held,gone⟩
    | some other => exact ⟨made,own,held,gone⟩
  | died remote forgets =>
    obtain ⟨services,holders,_⟩ := s.die_kept remote forgets
    refine ⟨?_,own,?_,?_⟩
    · change service < (s.die remote forgets).2.services.count
      rw [services]
      exact made
    · change ((s.die remote forgets).2.holder service).remote = _
      rw [holders]
      exact held
    · by_contra revived
      have alive := (s.die_fewer remote forgets own).2 (Bool.not_eq_true _ ▸ revived)
      rw [gone] at alive
      contradiction

theorem told_services (remote : RemoteObject) : (s.onRemoteDied remote).map Prod.snd =
    ((s.registered remote).filter fun n => (s.notifier n).recipient.isSome).map fun n =>
      (s.notifier n).service := by
  unfold onRemoteDied
  induction s.registered remote with
  | nil => rfl
  | cons n rest ih =>
    cases called : (s.notifier n).recipient with
    | none => simpa [called] using ih
    | some recipient => simpa [called] using ih

/-- At one death each service is told once. -/
theorem told_once (sound : s.Sound) (remote : RemoteObject) :
    ((s.onRemoteDied remote).map Prod.snd).Nodup := by
  rw [told_services]
  refine ((sound.once remote).filter _).map_on fun n here m there same => ?_
  have first := sound.current remote n (List.mem_of_mem_filter here)
  have second := sound.current remote m (List.mem_of_mem_filter there)
  rw [same] at first
  have name := congrArg HdfRemoteServiceHolder.deathRecipient (first.symm.trans second)
  exact Option.some.inj name

/-- Who is told is a service whose object had not died before, and has died now. -/
theorem step_told (call : AdapterCall) (sound : s.Sound) :
    ((step call s).1.told.map Prod.snd).Nodup ∧
      ∀ service ∈ (step call s).1.told.map Prod.snd,
        ¬ s.Bereft service ∧ (step call s).2.Bereft service := by
  have silent (told : List (RecipientId × ServiceId)) (nothing : told = []) (t : Adapter) :
      (told.map Prod.snd).Nodup ∧
        ∀ service ∈ told.map Prod.snd, ¬ s.Bereft service ∧ t.Bereft service := by
    rw [nothing]
    exact ⟨List.nodup_nil,fun _ none => nomatch none⟩
  cases call with
  | bind binder => exact silent _ rfl _
  | obtain stub => exact silent _ rfl _
  | addDeathRecipient service recipient accepted => exact silent _ rfl _
  | removeDeathRecipient service => exact silent _ rfl _
  | recycle service => exact silent _ rfl _
  | died remote forgets =>
    by_cases gone : s.dead remote = true
    · exact silent _ (congrArg Prod.fst (if_pos gone)) _
    · have told : (step (.died remote forgets) s).1.told = s.onRemoteDied remote :=
        congrArg Prod.fst (if_neg gone)
      rw [told]
      refine ⟨told_once sound remote,fun service member => ?_⟩
      obtain ⟨⟨recipient,_⟩,listed,rfl⟩ := List.mem_map.mp member
      obtain ⟨n,here,_,same⟩ := (mem_onRemoteDied remote _).mp ⟨recipient,listed⟩
      dsimp only
      rw [← same]
      have held := congrArg HdfRemoteServiceHolder.remote (sound.current remote n here)
      obtain ⟨services,holders,_⟩ := s.die_kept remote forgets
      constructor
      · rintro ⟨_,other,theirs,dead⟩
        obtain rfl := Option.some.inj (held.symm.trans theirs)
        exact gone dead
      · refine ⟨?_,remote,?_,?_⟩
        · change _ < (s.die remote forgets).2.services.count
          rw [services]
          exact service_lt sound remote n here
        · change ((s.die remote forgets).2.holder _).remote = _
          rw [holders]
          exact held
        · change (s.die remote forgets).2.dead remote = true
          simp [die,gone]

/-- In a run of careful calls no service is told twice, and none whose object was dead before. -/
theorem mourners_once (calls : List AdapterCall) (sound : s.Sound)
    (met : Machine.MeetsAll step Careful calls s) :
    (mourners calls s).Nodup ∧ ∀ service ∈ mourners calls s, ¬ s.Bereft service := by
  induction calls generalizing s with
  | nil => exact ⟨List.nodup_nil,fun _ none => nomatch none⟩
  | cons call rest ih =>
    obtain ⟨careful,later⟩ := met
    obtain ⟨now,heard⟩ := step_told call sound
    obtain ⟨others,unheard⟩ := ih (step_sound call sound (uses_of_careful call careful)) later
    have split : mourners (call::rest) s =
        (step call s).1.told.map Prod.snd ++ mourners rest (step call s).2 := by
      simp only [mourners,Machine.run,List.flatMap_cons]
    rw [split]
    constructor
    · refine List.nodup_append'.mpr ⟨now,others,fun service told again => ?_⟩
      exact unheard service again (heard service told).2
    · intro service member bereft
      rcases List.mem_append.mp member with told | again
      · exact (heard service told).1 bereft
      · exact unheard service again (bereft_step call service bereft)

end Steps

/-- Nobody can ever be told of a service that is gone, and no such service is used, in just the runs
in which a service is recycled when no object that can still die has a notifier of it to call back. In
these, holders and notifiers stay in step and no service is told twice. -/
theorem deathRecipients_sound_iff (calls : List AdapterCall) :
    ((∀ k, (Machine.run step (calls.take k) start).2.Spares ∧
        ∀ call, calls[k]? = some call → Uses call (Machine.run step (calls.take k) start).2) ↔
      Machine.MeetsAll step Careful calls start) ∧
      (Machine.MeetsAll step Careful calls start →
        (Machine.run step calls start).2.Sound ∧ (mourners calls start).Nodup) := by
  refine ⟨Machine.run_checked_iff step Careful Uses Sound Spares
    (fun call _ sound _ uses _ => step_sound call sound uses)
    (fun call _ sound spares => step_spares_iff call sound spares) calls start sound_start
    spares_start,fun met => ⟨?_,(mourners_once calls sound_start met).1⟩⟩
  have reached := Machine.reach_run step Careful start calls start .start met
  exact Machine.reach_invariant step Careful start Sound sound_start
    (fun call _ sound careful => step_sound call sound (uses_of_careful call careful)) _ reached

end Adapter

end DriversAdapter.Ipc.RemoteAdapter
