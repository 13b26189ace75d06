import DriversAdapter.Devmgr.Hosts
import Mathlib.Data.List.Nodup

/-! The respawn budget: how often a host is started again after its process died, and what
its deaths do to the counts of the other hosts. -/
namespace DriversAdapter.Devmgr
open DriversAdapter.Base DriversAdapter.Semantics

/-- The stored count bounds the starts of its host and is within the budget. -/
def Within : Option Int → Nat → Prop
  | none, starts => starts = 0
  | some v, starts => starts ≤ v ∧ v ≤ hostMaxDieNum

namespace DevmgrServiceFull

/-- No death is counted for a host whose count is `HOST_MAX_DIE_NUM` already. -/
def Budgeted (event : DevmgrEvent) (s : DevmgrServiceFull) : Prop :=
  match event with
  | .dispatch n _ => ∀ m, s.messages[n]? = some m → ∀ c ∈ s.hosts, c.hostId = m.hostId →
      c.Counted → s.hostMap.value c.hostName ≠ some hostMaxDieNum
  | _ => True

/-- The hosts differ in identifier and name. -/
structure Apart (s : DevmgrServiceFull) : Prop where
  ids : (s.hosts.map (·.hostId)).Nodup
  names : (s.hosts.map (·.hostName)).Nodup

structure Balanced (s : DevmgrServiceFull) : Prop extends s.Apart where
  within : ∀ c ∈ s.hosts, Within (s.hostMap.value c.hostName) (s.started.count c.hostId)

/-- The host in the middle of a list without repetition is like none of the others. -/
theorem apart_split {α β : Type} (f : α → β) (before after : List α) (c d : α)
    (distinct : ((before ++ c::after).map f).Nodup) (other : d ∈ before ∨ d ∈ after) :
    f d ≠ f c := by
  rw [List.map_append,List.map_cons,List.nodup_append] at distinct
  obtain ⟨_,later,across⟩ := distinct
  rcases other with earlier | behind
  · exact across _ (List.mem_map_of_mem earlier) _ List.mem_cons_self
  · intro same
    exact (List.nodup_cons.mp later).1 (same ▸ List.mem_map_of_mem behind)

section Steps
variable (core : IDevmgrService) (s : DevmgrServiceFull)

theorem step_names (event : DevmgrEvent) :
    (step core event s).2.hosts.map (·.hostId) = s.hosts.map (·.hostId) ∧
      (step core event s).2.hosts.map (·.hostName) = s.hosts.map (·.hostName) := by
  cases event with
  | attachDeviceHost hostId remote canObtain =>
    cases hostId with
    | none => exact ⟨rfl,rfl⟩
    | some hostId => exact core.attached_names hostId _ s.hosts
  | remoteDied p canObtain =>
    obtain ⟨hosts,_⟩ := onRemoteDied_kept p canObtain s
    change (s.onRemoteDied p canObtain).hosts.map _ = _ ∧
      (s.onRemoteDied p canObtain).hosts.map _ = _
    rw [hosts]
    exact ⟨rfl,rfl⟩
  | work work =>
    unfold step
    simp only [List.map_map]
    exact ⟨List.map_congr_left fun c _ => work.same_id c,
      List.map_congr_left fun c _ => work.same_name c⟩
  | dispatch n installer =>
    rcases step_dispatch core n installer s with same | ⟨posted,_,taken⟩
    · rw [same]
      exact ⟨rfl,rfl⟩
    rw [taken]
    rcases dispatchMessage_cases installer posted {s with messages := s.messages.eraseIdx n} with
      handled | ignored
    · rw [handled]
      rcases onDeviceHostDied_cases installer posted.hostId
          {s with messages := s.messages.eraseIdx n} with
        ⟨_,same⟩ | ⟨before,c,after,split,_,_,hosts,_⟩
      · rw [same]
        exact ⟨rfl,rfl⟩
      · obtain ⟨id,name,_⟩ := DevHostServiceClnt.handled_host installer c s.hostMap
        change s.hosts = _ at split
        rw [hosts,split]
        simp [id,name]
    · rw [ignored]
      exact ⟨rfl,rfl⟩

theorem apart_step (apart : s.Apart) (event : DevmgrEvent) : (step core event s).2.Apart := by
  obtain ⟨ids,names⟩ := step_names core s event
  exact ⟨ids ▸ apart.ids,names ▸ apart.names⟩

theorem handled_others (installer : Bool) (c d : DevHostServiceClnt) (hostMap : HostMap)
    (differs : d.hostName ≠ c.hostName) :
    (c.handleDeviceHostDied installer hostMap).hostMap.value d.hostName =
      hostMap.value d.hostName := by
  rcases DevHostServiceClnt.handled_cases installer c hostMap with
    ⟨_,left,same,early⟩ | ⟨_,counted⟩
  · rw [early,same]
  · rw [counted]
    have counts := DevHostServiceClnt.countDeath_count installer c.cleanupDiedHostResources
      hostMap.ensureInit c.hostService
    have name : c.cleanupDiedHostResources.hostName = c.hostName := rfl
    rw [name] at counts
    rcases counts with ⟨_,_,updated⟩ | ⟨v,_,⟨_,_,updated⟩ | ⟨_,_,updated⟩⟩
    all_goals rw [updated,Function.update_of_ne differs,HostMap.ensureInit_value]

theorem handled_within (installer : Bool) (c : DevHostServiceClnt) (hostMap : HostMap)
    (starts : Nat) (within : Within (hostMap.value c.hostName) starts)
    (budget : c.Counted → hostMap.value c.hostName ≠ some hostMaxDieNum) :
    Within ((c.handleDeviceHostDied installer hostMap).hostMap.value c.hostName)
      (if (c.handleDeviceHostDied installer hostMap).started then starts + 1 else starts) := by
  rcases DevHostServiceClnt.handled_cases installer c hostMap with
    ⟨_,left,same,early⟩ | ⟨counted,again⟩
  · rw [early,same]
    exact within
  rw [again]
  have counts := DevHostServiceClnt.countDeath_count installer c.cleanupDiedHostResources
    hostMap.ensureInit c.hostService
  have name : c.cleanupDiedHostResources.hostName = c.hostName := rfl
  rw [name,HostMap.ensureInit_value] at counts
  have spared := budget counted
  rcases counts with ⟨unknown,started,updated⟩ | ⟨v,stored,⟨small,started,updated⟩ | ⟨large,_⟩⟩
  · rw [updated,Function.update_self,started]
    rw [unknown] at within
    obtain rfl : starts = 0 := within
    cases installer <;> exact ⟨by decide,by decide⟩
  · rw [updated,Function.update_self,started]
    rw [stored] at within spared
    obtain ⟨bound,_⟩ := within
    have below : v ≠ hostMaxDieNum := fun same => spared (congrArg some same)
    cases installer
    · exact ⟨by simp; omega,by omega⟩
    · exact ⟨by simp; omega,by omega⟩
  · rw [stored] at within
    exact absurd within.2 (Int.not_le.mpr large)

theorem balanced_handled (balanced : s.Balanced) (installer : Bool) (hostId : UInt32)
    (budget : ∀ c ∈ s.hosts, c.hostId = hostId → c.Counted →
      s.hostMap.value c.hostName ≠ some hostMaxDieNum) :
    ∀ c ∈ (s.onDeviceHostDied installer hostId).hosts,
      Within ((s.onDeviceHostDied installer hostId).hostMap.value c.hostName)
        ((s.onDeviceHostDied installer hostId).started.count c.hostId) := by
  rcases onDeviceHostDied_cases installer hostId s with
    ⟨_,same⟩ | ⟨before,c,after,split,_,here,hosts,hostMap,started,_⟩
  · rw [same]
    exact balanced.within
  obtain ⟨id,name,_⟩ := DevHostServiceClnt.handled_host installer c s.hostMap
  have counted (other : UInt32) : (s.onDeviceHostDied installer hostId).started.count other =
      if other = hostId ∧ (c.handleDeviceHostDied installer s.hostMap).started = true then
        s.started.count other + 1 else s.started.count other := by
    rw [started]
    by_cases again : (c.handleDeviceHostDied installer s.hostMap).started = true
    · rw [if_pos again,List.count_append,List.count_singleton]
      by_cases same : other = hostId
      · simp [same,again]
      · simp [same,Ne.symm same]
    · simp [again]
  intro d member
  rw [hostMap,counted]
  have others (listed : d ∈ before ∨ d ∈ after) :
      Within ((c.handleDeviceHostDied installer s.hostMap).hostMap.value d.hostName)
        (if d.hostId = hostId ∧ (c.handleDeviceHostDied installer s.hostMap).started = true then
          s.started.count d.hostId + 1 else s.started.count d.hostId) := by
    have distinct := apart_split (·.hostId) before after c d (split ▸ balanced.ids) listed
    rw [if_neg fun same => distinct (same.1.trans here.symm),handled_others installer c d s.hostMap
      (apart_split (·.hostName) before after c d (split ▸ balanced.names) listed)]
    refine balanced.within d ?_
    rw [split,List.mem_append,List.mem_cons]
    exact listed.imp_right .inr
  rw [hosts,List.mem_append,List.mem_cons] at member
  rcases member with earlier | rfl | later
  · exact others (.inl earlier)
  · have mid : c ∈ s.hosts := by simp [split]
    rw [id,name,here]
    have kept := handled_within installer c s.hostMap (s.started.count c.hostId)
      (balanced.within c mid) (budget c mid here)
    simpa [here] using kept
  · exact others (.inr later)

theorem balanced_step (balanced : s.Balanced) (event : DevmgrEvent) (budgeted : Budgeted event s) :
    (step core event s).2.Balanced := by
  refine ⟨apart_step core s balanced.toApart event,?_⟩
  cases event with
  | attachDeviceHost hostId remote canObtain =>
    cases hostId with
    | none => exact balanced.within
    | some hostId =>
      intro c member
      obtain ⟨c',earlier,id,name,_⟩ := core.attached_host hostId _ s.hosts c member
      rw [id,name]
      cases canObtain <;> exact balanced.within c' earlier
  | remoteDied p canObtain =>
    obtain ⟨hosts,hostMap,started⟩ := onRemoteDied_kept p canObtain s
    change ∀ c ∈ (s.onRemoteDied p canObtain).hosts, Within
      ((s.onRemoteDied p canObtain).hostMap.value c.hostName)
        ((s.onRemoteDied p canObtain).started.count c.hostId)
    rw [hosts,hostMap,started]
    exact balanced.within
  | work work =>
    intro c member
    obtain ⟨c',earlier,rfl⟩ := List.mem_map.mp member
    rw [work.same_id,work.same_name]
    exact balanced.within c' earlier
  | dispatch n installer =>
    rcases step_dispatch core n installer s with same | ⟨posted,waiting,taken⟩
    · rw [same]
      exact balanced.within
    rw [taken]
    have shorter : Balanced {s with messages := s.messages.eraseIdx n} :=
      ⟨⟨balanced.ids,balanced.names⟩,balanced.within⟩
    rcases dispatchMessage_cases installer posted {s with messages := s.messages.eraseIdx n} with
      handled | ignored
    · rw [handled]
      exact balanced_handled _ shorter installer posted.hostId (budgeted posted waiting)
    · rw [ignored]
      exact balanced.within

theorem apart_opening (configs : List HostConfig) (ids : (configs.map (·.hostId)).Nodup)
    (names : (configs.map (·.hostName)).Nodup) : (opening configs).Apart := by
  refine ⟨?_,?_⟩
  · rwa [opening,List.map_map]
  · rwa [opening,List.map_map]

/-- A death that is counted at `HOST_MAX_DIE_NUM` starts the host once more. -/
theorem spent_starts (hostId : UInt32) (before after : List DevHostServiceClnt)
    (c : DevHostServiceClnt) (split : s.hosts = before ++ c::after) (apart : s.Apart)
    (here : c.hostId = hostId) (counted : c.Counted)
    (spent : s.hostMap.value c.hostName = some hostMaxDieNum) :
    (s.onDeviceHostDied true hostId).started.count hostId = s.started.count hostId + 1 := by
  rcases onDeviceHostDied_cases true hostId s with
    ⟨none_here,_⟩ | ⟨before',c',after',split',_,here',_,_,started,_⟩
  · exact absurd here (none_here c (by simp [split]))
  · obtain rfl : c = c' := by
      have listed : c ∈ before' ++ c'::after' := split' ▸ split ▸ (by simp)
      rw [List.mem_append,List.mem_cons] at listed
      by_contra differs
      have other : c ∈ before' ∨ c ∈ after' := listed.imp_right fun either =>
        either.resolve_left differs
      exact apart_split (·.hostId) before' after' c' c (split' ▸ apart.ids) other
        (here.trans here'.symm)
    have again : (c.handleDeviceHostDied true s.hostMap).started = true := by
      rcases DevHostServiceClnt.handled_cases true c s.hostMap with ⟨idle,_⟩ | ⟨_,same⟩
      · exact absurd counted idle
      rw [same]
      have counts := DevHostServiceClnt.countDeath_count true c.cleanupDiedHostResources
        s.hostMap.ensureInit c.hostService
      have name : c.cleanupDiedHostResources.hostName = c.hostName := rfl
      rw [name,HostMap.ensureInit_value,spent] at counts
      rcases counts with ⟨impossible,_⟩ | ⟨v,stored,⟨_,again,_⟩ | ⟨large,_⟩⟩
      · cases impossible
      · exact again
      · obtain rfl := Option.some.inj stored
        exact absurd large (Int.lt_irrefl _)
    rw [started,if_pos again,List.count_append,List.count_singleton]
    simp

/-- Where hosts differ in name and none dies with its budget spent, each is started again at
most `HOST_MAX_DIE_NUM` times, and a death is counted for its own host only. -/
theorem respawned_within_budget (configs : List HostConfig)
    (ids : (configs.map (·.hostId)).Nodup) (names : (configs.map (·.hostName)).Nodup)
    (reached : Machine.Reach (step core) Budgeted (opening configs) s) :
    (∀ c ∈ s.hosts, s.started.count c.hostId ≤ hostMaxDieNum) ∧
      ∀ n installer m, s.messages[n]? = some m → ∀ c ∈ s.hosts, c.hostId ≠ m.hostId →
        (step core (.dispatch n installer) s).2.hostMap.value c.hostName =
          s.hostMap.value c.hostName := by
  have balanced : s.Balanced := Machine.reach_invariant (step core) Budgeted (opening configs)
    Balanced ⟨apart_opening configs ids names,fun c _ => rfl⟩
    (fun event s balanced budgeted => balanced_step core s balanced event budgeted) s reached
  constructor
  · intro c member
    have within := balanced.within c member
    cases stored : s.hostMap.value c.hostName with
    | none =>
      rw [stored] at within
      rw [show s.started.count c.hostId = 0 from within]
      decide
    | some v =>
      rw [stored] at within
      exact Int.le_trans within.1 within.2
  · intro n installer m waiting c member other
    rcases step_dispatch core n installer s with same | ⟨posted,found,taken⟩
    · rw [same]
    obtain rfl : m = posted := Option.some.inj (waiting.symm.trans found)
    rw [taken]
    rcases dispatchMessage_cases installer m {s with messages := s.messages.eraseIdx n} with
      handled | ignored
    · rw [handled]
      rcases onDeviceHostDied_cases installer m.hostId
          {s with messages := s.messages.eraseIdx n} with
        ⟨_,same⟩ | ⟨before,c',after,split,_,here,_,hostMap,_⟩
      · rw [same]
      · rw [hostMap]
        change s.hosts = _ at split
        have listed : c ∈ before ∨ c ∈ after := by
          rw [split,List.mem_append,List.mem_cons] at member
          refine member.imp_right fun either => either.resolve_left ?_
          rintro rfl
          exact other here
        exact handled_others installer c' c s.hostMap
          (apart_split (·.hostName) before after c' c (split ▸ balanced.names) listed)
    · rw [ignored]

end Steps

/-- A process attaches to host 1, loads a device and dies, and its message is handled. -/
def lifeAndDeath (p : ProxyId) : List DevmgrEvent :=
  [.attachDeviceHost (some 1) true true,.work loadDevice,.remoteDied p true,.dispatch 0 true]

def twoConfigs : List HostConfig := [⟨1,"sample_host",[]⟩,⟨2,"other_host",[]⟩]

def afterDeaths (n : Nat) : DevmgrServiceFull :=
  (Machine.run (step plainManager) ((List.range n).flatMap lifeAndDeath) (opening twoConfigs)).2

/-- A process attaches to a host, loads a device and dies. -/
def lifeOf (hostId : UInt32) (p : ProxyId) : List DevmgrEvent :=
  [.attachDeviceHost (some hostId) true true,.work loadDevice,.remoteDied p true]

/-- Both hosts die before either death is handled, the later one first, and host 1 dies again. -/
def bothDied : List DevmgrEvent :=
  lifeOf 1 0 ++ lifeOf 2 1 ++ [.dispatch 1 true,.dispatch 0 true] ++ lifeOf 1 2

def afterBoth : DevmgrServiceFull :=
  (Machine.run (step plainManager) bothDied (opening twoConfigs)).2

/-- Each host was started again once, and the death that waits leaves host 2 its count. -/
theorem respawned_within_budget_both :
    afterBoth.started = [2,1] ∧ afterBoth.messages.map Posted.hostId = [1] ∧
      (∀ c ∈ afterBoth.hosts, afterBoth.started.count c.hostId ≤ hostMaxDieNum) ∧
        (step plainManager (.dispatch 0 true) afterBoth).2.hostMap.value "other_host" =
          afterBoth.hostMap.value "other_host" := by
  have budgeted : Machine.MeetsAll (step plainManager) Budgeted bothDied (opening twoConfigs) := by
    refine ⟨trivial,trivial,trivial,trivial,trivial,trivial,?_,?_,trivial,trivial,trivial,trivial⟩
    · intro m _ c _ _ _ stored
      cases stored
    · intro m _ c _ _ _ stored
      change Function.update (fun _ => none) "other_host" (some hostInitDieNum) c.hostName =
        some hostMaxDieNum at stored
      rw [Function.update_apply] at stored
      split at stored <;> cases stored
  have reached : Machine.Reach (step plainManager) Budgeted (opening twoConfigs) afterBoth :=
    Machine.reach_run _ _ _ bothDied _ .start budgeted
  obtain ⟨within,others⟩ := respawned_within_budget plainManager afterBoth twoConfigs (by decide)
    (by decide) reached
  have counted := others 0 true (afterBoth.messages.get ⟨0,by decide⟩) rfl
    (afterBoth.hosts.get ⟨1,by decide⟩) (List.get_mem _ _) (by decide)
  exact ⟨rfl,rfl,within,counted⟩

/-- The host is started again after its fourth death, and, given up at the fifth, again after
the sixth. -/
theorem respawned_four_times :
    (afterDeaths 4).started = [1,1,1,1] ∧ (afterDeaths 5).started = [1,1,1,1] ∧
      (afterDeaths 5).hosts.map (·.hostName) = ["sample_host","other_host"] ∧
      (afterDeaths 6).started = [1,1,1,1,1] ∧ hostMaxDieNum = 3 := by
  decide +kernel

end DevmgrServiceFull

end DriversAdapter.Devmgr
