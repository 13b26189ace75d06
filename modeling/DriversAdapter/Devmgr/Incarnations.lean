import DriversAdapter.Devmgr.Hosts

/-! Messages of died hosts and the processes that attach in the meantime: a message reaches
no later process as long as none attaches while an earlier one is not settled. -/
namespace DriversAdapter.Devmgr
open DriversAdapter.Base DriversAdapter.Semantics

namespace DevmgrServiceFull

/-- A process attaches to a host when no message of that host is waiting and the death of no
earlier process of it is still to be notified. -/
def Settled (event : DevmgrEvent) (s : DevmgrServiceFull) : Prop :=
  match event with
  | .attachDeviceHost (some hostId) _ true =>
    (∀ m ∈ s.messages, m.hostId ≠ hostId) ∧
      ∀ p < s.proxyCount, (s.proxy p).hostId = hostId → (s.proxy p).watched = false
  | _ => True

/-- The process of a host is no later than any that its messages are about, or will be. -/
structure UpToDate (s : DevmgrServiceFull) : Prop where
  service_lt : ∀ c ∈ s.hosts, ∀ q ∈ c.hostService, q < s.proxyCount
  posted_last : ∀ m ∈ s.messages, ∀ c ∈ s.hosts, c.hostId = m.hostId →
    ∀ q ∈ c.hostService, q ≤ m.proxy
  watched_last : ∀ p < s.proxyCount, (s.proxy p).watched = true →
    ∀ c ∈ s.hosts, c.hostId = (s.proxy p).hostId → ∀ q ∈ c.hostService, q ≤ p

section Steps
variable (core : IDevmgrService) (s : DevmgrServiceFull)

theorem upToDate_work (good : s.UpToDate) (work : CoreWork) :
    (step core (.work work) s).2.UpToDate := by
  have old : ∀ c ∈ s.hosts.map work.change, ∃ c' ∈ s.hosts, c.hostId = c'.hostId ∧
      c.hostService = c'.hostService := by
    intro c member
    obtain ⟨c',earlier,rfl⟩ := List.mem_map.mp member
    exact ⟨c',earlier,work.same_id c',work.same_process c'⟩
  refine ⟨?_,?_,?_⟩
  · intro c member q serves
    obtain ⟨c',earlier,_,process⟩ := old c member
    exact good.service_lt c' earlier q (process ▸ serves)
  · intro m waiting c member same q serves
    obtain ⟨c',earlier,id,process⟩ := old c member
    exact good.posted_last m waiting c' earlier (id.symm.trans same) q (process ▸ serves)
  · intro p bound watched c member same q serves
    obtain ⟨c',earlier,id,process⟩ := old c member
    exact good.watched_last p bound watched c' earlier (id.symm.trans same) q (process ▸ serves)

theorem upToDate_attach (good : s.UpToDate) (hostId : Option UInt32) (remote canObtain : Bool)
    (settled : Settled (.attachDeviceHost hostId remote canObtain) s) :
    (step core (.attachDeviceHost hostId remote canObtain) s).2.UpToDate := by
  cases hostId with
  | none => exact good
  | some hostId =>
    cases canObtain with
    | false =>
      have old : ∀ c ∈ (core.attachDeviceHost hostId none s.hosts).2, ∀ q ∈ c.hostService,
          ∃ c' ∈ s.hosts, c.hostId = c'.hostId ∧ q ∈ c'.hostService := by
        intro c member q serves
        obtain ⟨c',earlier,id,_,process | ⟨_,gone⟩⟩ := core.attached_host hostId none s.hosts c member
        · exact ⟨c',earlier,id,process ▸ serves⟩
        · rw [gone] at serves
          cases serves
      refine ⟨?_,?_,?_⟩
      · intro c member q serves
        obtain ⟨c',earlier,_,serves'⟩ := old c member q serves
        exact good.service_lt c' earlier q serves'
      · intro m waiting c member same q serves
        obtain ⟨c',earlier,id,serves'⟩ := old c member q serves
        exact good.posted_last m waiting c' earlier (id.symm.trans same) q serves'
      · intro p bound watched c member same q serves
        obtain ⟨c',earlier,id,serves'⟩ := old c member q serves
        exact good.watched_last p bound watched c' earlier (id.symm.trans same) q serves'
    | true =>
      obtain ⟨no_message,no_watched⟩ := settled
      have old : ∀ c ∈ (core.attachDeviceHost hostId (some s.proxyCount) s.hosts).2,
          ∀ q ∈ c.hostService, (∃ c' ∈ s.hosts, c.hostId = c'.hostId ∧ q ∈ c'.hostService) ∨
            c.hostId = hostId ∧ q = s.proxyCount := by
        intro c member q serves
        obtain ⟨c',earlier,id,_,process | ⟨here,gone⟩⟩ :=
          core.attached_host hostId (some s.proxyCount) s.hosts c member
        · exact .inl ⟨c',earlier,id,process ▸ serves⟩
        · rw [gone] at serves
          exact .inr ⟨id.trans here,(Option.some.inj serves).symm⟩
      refine ⟨?_,?_,?_⟩
      · intro c member q serves
        change q < s.proxyCount + 1
        rcases old c member q serves with ⟨c',earlier,_,serves'⟩ | ⟨_,rfl⟩
        · exact Nat.lt_succ_of_lt (good.service_lt c' earlier q serves')
        · exact Nat.lt_succ_self _
      · intro m waiting c member same q serves
        rcases old c member q serves with ⟨c',earlier,id,serves'⟩ | ⟨here,_⟩
        · exact good.posted_last m waiting c' earlier (id.symm.trans same) q serves'
        · exact absurd (same.symm.trans here) (no_message m waiting)
      · intro p bound watched c member same q serves
        change p < s.proxyCount + 1 at bound
        change (Function.update s.proxy s.proxyCount ⟨hostId,remote⟩ p).watched = true at watched
        change c.hostId = (Function.update s.proxy s.proxyCount ⟨hostId,remote⟩ p).hostId at same
        by_cases new : p = s.proxyCount
        · subst p
          rcases old c member q serves with ⟨c',earlier,_,serves'⟩ | ⟨_,rfl⟩
          · exact Nat.le_of_lt (good.service_lt c' earlier q serves')
          · exact Nat.le_refl _
        · rw [Function.update_of_ne new] at watched same
          have before : p < s.proxyCount := by omega
          rcases old c member q serves with ⟨c',earlier,id,serves'⟩ | ⟨here,_⟩
          · exact good.watched_last p before watched c' earlier (id.symm.trans same) q serves'
          · have unwatched := no_watched p before (same.symm.trans here)
            rw [watched] at unwatched
            contradiction

theorem upToDate_died (good : s.UpToDate) (p : ProxyId) (canObtain : Bool) :
    (step core (.remoteDied p canObtain) s).2.UpToDate := by
  change (s.onRemoteDied p canObtain).UpToDate
  unfold onRemoteDied
  split
  next alive =>
    obtain ⟨watching,bound⟩ := alive
    have fewer : ∀ p', ((s.unwatch p).proxy p').hostId = (s.proxy p').hostId ∧
        (((s.unwatch p).proxy p').watched = true → (s.proxy p').watched = true) := by
      intro p'
      unfold unwatch
      by_cases same : p' = p
      · subst p'
        simp
      · simp [Function.update_of_ne same]
    have kept : ∀ p' < s.proxyCount, ((s.unwatch p).proxy p').watched = true → ∀ c ∈ s.hosts,
        c.hostId = ((s.unwatch p).proxy p').hostId → ∀ q ∈ c.hostService, q ≤ p' := by
      intro p' bound' watched c member same q serves
      obtain ⟨id,was⟩ := fewer p'
      exact good.watched_last p' bound' (was watched) c member (same.trans id) q serves
    split
    next =>
      refine ⟨good.service_lt,?_,kept⟩
      intro m waiting c member same q serves
      rcases List.mem_append.mp waiting with earlier | last
      · exact good.posted_last m earlier c member same q serves
      · obtain rfl := List.mem_singleton.mp last
        refine good.watched_last p bound watching c member (same.trans ?_) q serves
        simp [Posted.hostId]
    next => exact ⟨good.service_lt,good.posted_last,kept⟩
  next => exact good

/-- A death leaves fewer processes, messages and notifications. -/
theorem upToDate_handled (good : s.UpToDate) (installer : Bool) (hostId : UInt32) :
    (s.onDeviceHostDied installer hostId).UpToDate := by
  rcases onDeviceHostDied_cases installer hostId s with
    ⟨_,same⟩ | ⟨before,c,after,split,_,_,hosts,_,_,messages,count,proxies⟩
  · rwa [same]
  · obtain ⟨_,_,detached,_⟩ := DevHostServiceClnt.handled_host installer c s.hostMap
    have old : ∀ c' ∈ (s.onDeviceHostDied installer hostId).hosts, ∀ q ∈ c'.hostService,
        c' ∈ s.hosts := by
      intro c' member q serves
      rw [hosts,List.mem_append,List.mem_cons] at member
      rw [split,List.mem_append,List.mem_cons]
      rcases member with earlier | rfl | later
      · exact .inl earlier
      · rw [detached] at serves
        cases serves
      · exact .inr (.inr later)
    refine ⟨?_,?_,?_⟩
    · intro c' member q serves
      rw [count]
      exact good.service_lt c' (old c' member q serves) q serves
    · intro m waiting c' member same q serves
      rw [messages] at waiting
      exact good.posted_last m waiting c' (old c' member q serves) same q serves
    · intro p bound watched c' member same q serves
      obtain ⟨id,was⟩ := proxies p
      rw [count] at bound
      exact good.watched_last p bound (was watched) c' (old c' member q serves) (same.trans id)
        q serves

theorem upToDate_dispatch (good : s.UpToDate) (n : Nat) (installer : Bool) :
    (step core (.dispatch n installer) s).2.UpToDate := by
  rcases step_dispatch core n installer s with same | ⟨posted,_,taken⟩
  · rwa [same]
  · rw [taken]
    have fewer : UpToDate {s with messages := s.messages.eraseIdx n} :=
      ⟨good.service_lt,fun m waiting => good.posted_last m (List.mem_of_mem_eraseIdx waiting),
        good.watched_last⟩
    rcases dispatchMessage_cases installer posted {s with messages := s.messages.eraseIdx n} with
      handled | ignored
    · rw [handled]
      exact upToDate_handled _ fewer installer posted.hostId
    · rwa [ignored]

theorem upToDate_step (good : s.UpToDate) (event : DevmgrEvent) (settled : Settled event s) :
    (step core event s).2.UpToDate := by
  cases event with
  | attachDeviceHost hostId remote canObtain =>
    exact upToDate_attach core s good hostId remote canObtain settled
  | remoteDied p canObtain => exact upToDate_died core s good p canObtain
  | dispatch n installer => exact upToDate_dispatch core s good n installer
  | work change => exact upToDate_work core s good change

theorem upToDate_opening (configs : List HostConfig) : (opening configs).UpToDate := by
  have idle : ∀ c ∈ (opening configs).hosts, c.hostService = none := by
    intro c member
    obtain ⟨config,_,rfl⟩ := List.mem_map.mp member
    rfl
  refine ⟨?_,fun _ waiting => (nomatch waiting),fun _ bound => (nomatch bound)⟩
  intro c member q serves
  rw [idle c member] at serves
  cases serves

theorem handled_detaches (installer : Bool) (hostId : UInt32) (before after : List DevHostServiceClnt)
    (c : DevHostServiceClnt) (split : s.hosts = before ++ c::after)
    (others : ∀ b ∈ before, b.hostId ≠ hostId) (here : c.hostId = hostId) :
    ∃ c', (s.onDeviceHostDied installer hostId).hosts = before ++ c'::after ∧
      c'.hostId = hostId ∧ c'.hostService = none ∧ c'.devices = [] := by
  obtain ⟨id,_,detached,emptied,_⟩ := DevHostServiceClnt.handled_host installer c s.hostMap
  rcases onDeviceHostDied_cases installer hostId s with
    ⟨none_here,_⟩ | ⟨before',c',after',split',others',here',hosts,_⟩
  · exact absurd here (none_here c (by simp [split]))
  · rw [split] at split'
    obtain ⟨rfl,same⟩ : before = before' ∧ c::after = c'::after' := by
      rcases List.append_eq_append_iff.mp split' with ⟨more,longer,tail⟩ | ⟨more,longer,tail⟩
      · cases more with
        | nil => exact ⟨by simpa using longer.symm,by simpa using tail⟩
        | cons d rest =>
          obtain ⟨rfl,_⟩ := List.cons.inj tail
          exact absurd here (others' c (by simp [longer]))
      · cases more with
        | nil => exact ⟨by simpa using longer,by simpa using tail.symm⟩
        | cons d rest =>
          obtain ⟨rfl,_⟩ := List.cons.inj tail
          exact absurd here' (others c' (by simp [longer]))
    obtain ⟨rfl,rfl⟩ := List.cons.inj same
    exact ⟨_,hosts,id.trans here,detached,emptied⟩

def hostOf (hostId : UInt32) (s : DevmgrServiceFull) : Option DevHostServiceClnt :=
  s.hosts.find? (fun hostClnt => hostClnt.hostId = hostId)

/-- The host of the waiting message has a process that attached after the one that died. -/
def Stale (n : Nat) (s : DevmgrServiceFull) : Prop :=
  ∃ m c q, s.messages[n]? = some m ∧ s.hostOf m.hostId = some c ∧ c.hostService = some q ∧
    m.proxy < q

/-- Whatever process has attached since, the message is handled without a change to its host and
to the count of the host's deaths. -/
def Spares (n : Nat) (s : DevmgrServiceFull) : Prop :=
  ∀ installer m c q, s.messages[n]? = some m → s.hostOf m.hostId = some c →
    c.hostService = some q → m.proxy < q →
      (step core (.dispatch n installer) s).2.hostOf m.hostId = some c ∧
        (step core (.dispatch n installer) s).2.hostMap.value c.hostName =
          s.hostMap.value c.hostName

/-- Nothing else is ever posted. -/
def PostsDeaths (s : DevmgrServiceFull) : Prop :=
  ∀ m ∈ s.messages, m.message.messageId = devmgrMessageDevhostDied

theorem onDeviceHostDied_messages (installer : Bool) (hostId : UInt32) :
    (s.onDeviceHostDied installer hostId).messages = s.messages := by
  rcases onDeviceHostDied_cases installer hostId s with
    ⟨_,same⟩ | ⟨_,_,_,_,_,_,_,_,_,messages,_⟩
  · rw [same]
  · exact messages

theorem postsDeaths_step (deaths : s.PostsDeaths) (event : DevmgrEvent) :
    (step core event s).2.PostsDeaths := by
  cases event with
  | attachDeviceHost hostId remote canObtain =>
    cases hostId with
    | none => exact deaths
    | some hostId => cases canObtain <;> exact deaths
  | remoteDied p canObtain =>
    change (s.onRemoteDied p canObtain).PostsDeaths
    unfold onRemoteDied
    split_ifs
    · intro m waiting
      rcases List.mem_append.mp waiting with earlier | last
      · exact deaths m earlier
      · rw [List.mem_singleton.mp last]
    · exact deaths
    · exact deaths
  | dispatch n installer =>
    rcases step_dispatch core n installer s with same | ⟨posted,_,taken⟩
    · rwa [same]
    · have fewer : PostsDeaths {s with messages := s.messages.eraseIdx n} :=
        fun m waiting => deaths m (List.mem_of_mem_eraseIdx waiting)
      rw [taken]
      rcases dispatchMessage_cases installer posted {s with messages := s.messages.eraseIdx n} with
        handled | ignored
      · rw [handled]
        unfold PostsDeaths
        rwa [onDeviceHostDied_messages]
      · rwa [ignored]
  | work change => exact deaths

/-- The message of an earlier process always takes the later one from its host. -/
theorem stale_detaches (deaths : s.PostsDeaths) (n : Nat) (installer : Bool) (m : Posted)
    (waiting : s.messages[n]? = some m) (c : DevHostServiceClnt)
    (here : s.hostOf m.hostId = some c) :
    ∃ c', (step core (.dispatch n installer) s).2.hostOf m.hostId = some c' ∧
      c'.hostService = none ∧ c'.devices = [] := by
  obtain ⟨same,before,after,split,others⟩ := List.find?_eq_some_iff_append.mp here
  have id_eq : c.hostId = m.hostId := of_decide_eq_true same
  have apart : ∀ b ∈ before, b.hostId ≠ m.hostId := fun b member => by simpa using others b member
  have taken : (step core (.dispatch n installer) s).2 =
      onDeviceHostDied installer m.hostId {s with messages := s.messages.eraseIdx n} := by
    unfold step
    dsimp only
    rw [waiting]
    dsimp only
    unfold dispatchMessage
    rw [if_pos (deaths m (List.mem_of_getElem? waiting))]
    simp [Posted.hostId]
  obtain ⟨c',hosts,found,detached,emptied⟩ := handled_detaches
    {s with messages := s.messages.eraseIdx n} installer m.hostId before after c split apart id_eq
  refine ⟨c',?_,detached,emptied⟩
  rw [taken]
  unfold hostOf
  rw [hosts,List.find?_append,List.find?_eq_none.mpr fun b member => by simpa using apart b member]
  simp [found]

/-- Handling a message spares a later process just where there is none. -/
theorem spares_iff (deaths : s.PostsDeaths) (n : Nat) : Spares core n s ↔ ¬ Stale n s := by
  constructor
  · rintro spares ⟨m,c,q,waiting,here,serves,later⟩
    obtain ⟨kept,_⟩ := spares true m c q waiting here serves later
    obtain ⟨c',found,detached,_⟩ := stale_detaches core s deaths n true m waiting c here
    have same : c = c' := Option.some.inj (kept.symm.trans found)
    rw [same,detached] at serves
    contradiction
  · exact fun fresh installer m c q waiting here serves later =>
      absurd ⟨m,c,q,waiting,here,serves,later⟩ fresh

/-- A message is handled without a change to a later process just where it is about none. Where
processes attach to settled hosts, that is every message of every state. -/
theorem later_process_kept (configs : List HostConfig) (events : List DevmgrEvent) (n : Nat) :
    let s := (Machine.run (step core) events (opening configs)).2
    (Spares core n s ↔ ¬ Stale n s) ∧
      (Machine.MeetsAll (step core) Settled events (opening configs) → Spares core n s) := by
  intro s
  have deaths : s.PostsDeaths := Machine.run_invariant (step core) PostsDeaths
    (fun event s before => postsDeaths_step core s before event) events (opening configs)
    fun _ waiting => (nomatch waiting)
  have exactly := spares_iff core s deaths n
  refine ⟨exactly,fun settled => exactly.mpr ?_⟩
  have good : s.UpToDate := Machine.reach_invariant (step core) Settled (opening configs) UpToDate
    (upToDate_opening configs) (fun event s good settled => upToDate_step core s good event settled)
    s (Machine.reach_run (step core) Settled (opening configs) events _ .start settled)
  rintro ⟨m,c,q,waiting,here,serves,later⟩
  obtain ⟨same,before,after,split,_⟩ := List.find?_eq_some_iff_append.mp here
  have last := good.posted_last m (List.mem_of_getElem? waiting) c (by simp [split])
    (of_decide_eq_true same) q serves
  exact Nat.lt_irrefl _ (Nat.lt_of_lt_of_le later last)

end Steps

def sampleHost : HostConfig := ⟨1,"sample_host",[]⟩

def after (events : List DevmgrEvent) : DevmgrServiceFull :=
  (Machine.run (step plainManager) events (opening [sampleHost])).2

def firstDied : List DevmgrEvent := [.attachDeviceHost (some 1) true true,.remoteDied 0 true]

/-- The message has been handled when a second process attaches, loads a device and dies too. -/
def secondDied : List DevmgrEvent :=
  firstDied ++ [.dispatch 0 true,.attachDeviceHost (some 1) true true,.work loadDevice,
    .remoteDied 1 true]

/-- The second message is about the process that the host still has. -/
theorem later_process_kept_second :
    (after secondDied).messages.map Posted.proxy = [1] ∧
      (after secondDied).hosts.map (·.hostService) = [some 1] ∧
        Spares plainManager 0 (after secondDied) := by
  refine ⟨rfl,rfl,(later_process_kept plainManager [sampleHost] secondDied 0).2 ?_⟩
  refine ⟨?_,trivial,trivial,?_,trivial,trivial,trivial⟩
  · exact ⟨fun _ waiting => (nomatch waiting),fun _ bound => (nomatch bound)⟩
  · refine ⟨fun _ waiting => (nomatch waiting),fun p bound _ => ?_⟩
    obtain rfl : p = 0 := Nat.lt_one_iff.mp bound
    rfl

/-- The second process has attached and loaded a device when the message of the first one is
handled: it loses its place, the device is forgotten and the death counted. -/
theorem later_process_lost :
    let s := after (firstDied ++ [.attachDeviceHost (some 1) true true,.work loadDevice])
    s.messages.map Posted.proxy = [0] ∧ s.messages.map Posted.hostId = [1] ∧
      s.hosts.map (·.hostService) = [some 1] ∧
      s.hosts.map (·.devices) = [[⟨⟨none,0,0,.localService⟩⟩]] ∧
      (step plainManager (.dispatch 0 true) s).2.hosts.map (·.hostService) = [none] ∧
      (step plainManager (.dispatch 0 true) s).2.hosts.map (·.devices) = [[]] ∧
      (step plainManager (.dispatch 0 true) s).2.hostMap.value "sample_host" = some 1 ∧
      s.hostMap.value "sample_host" = none := by
  intro s
  exact ⟨rfl,rfl,rfl,rfl,rfl,rfl,rfl,rfl⟩

end DevmgrServiceFull

end DriversAdapter.Devmgr
