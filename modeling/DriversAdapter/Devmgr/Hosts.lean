import DriversAdapter.Base.Word
import DriversAdapter.Devmgr.Registry
import DriversAdapter.Semantics.Machine
import Mathlib.Data.List.Forall2
import Mathlib.Logic.Function.Basic

/-! Hosts that attach, die and are started again: the attach request, the death recipient
that posts a message, and the handler of these messages with its count of deaths. -/
namespace DriversAdapter.Devmgr
open DriversAdapter.Base DriversAdapter.Semantics

structure HostMap where
  nodeSize : Nat
  value : String → Option Int
  sized : nodeSize = 0 → ∀ name, value name = none

namespace HostMap

def mapInit : HostMap := ⟨0,fun _ => none,fun _ _ => rfl⟩

/-- An empty map is initialized once more. -/
def ensureInit (map : HostMap) : HostMap := if map.nodeSize = 0 then mapInit else map

def mapGet (map : HostMap) (name : String) : Option Int := map.value name

def mapSet (map : HostMap) (name : String) (v : Int) : HostMap where
  nodeSize := if (map.value name).isSome then map.nodeSize else map.nodeSize + 1
  value := Function.update map.value name (some v)
  sized := by
    intro empty
    split_ifs at empty with known
    rw [map.sized empty name] at known
    contradiction

@[simp] theorem mapSet_value (map : HostMap) (name : String) (v : Int) :
    (map.mapSet name v).value = Function.update map.value name (some v) := rfl

@[simp] theorem ensureInit_value (map : HostMap) : map.ensureInit.value = map.value := by
  unfold ensureInit
  split
  next empty =>
    funext name
    exact (map.sized empty name).symm
  next => rfl

end HostMap

def invalidPid : Int := -1
def hostInitDieNum : Int := 1
def hostMaxDieNum : Int := 3

/-- What a handled death leaves: the status, the host, the counts, the proxy that is
recycled and whether the host is started again. -/
structure HandledDeath where
  ret : Int
  hostClnt : DevHostServiceClnt
  hostMap : HostMap
  recycled : Option ProxyId
  started : Bool

namespace DevHostServiceClnt

def cleanupDiedHostResources (hostClnt : DevHostServiceClnt) : DevHostServiceClnt :=
  {hostClnt with hostPid := invalidPid, hostService := none, devices := []}

/-- `DriverInstallerFullStartDeviceHost`, when there is an installer. -/
def startDeviceHost (installer : Bool) (hostClnt : DevHostServiceClnt) (hostMap : HostMap)
    (recycled : Option ProxyId) : HandledDeath :=
  if installer then ⟨hdfSuccess,{hostClnt with hostPid := hdfSuccess},hostMap,recycled,true⟩
  else ⟨invalidPid,hostClnt,hostMap,recycled,false⟩

/-- The last part of the handler: the death is counted, and the host started again or
given up. -/
def countDeath (installer : Bool) (hostClnt : DevHostServiceClnt) (hostMap : HostMap)
    (recycled : Option ProxyId) : HandledDeath :=
  match hostMap.mapGet hostClnt.hostName with
  | none =>
    hostClnt.startDeviceHost installer (hostMap.mapSet hostClnt.hostName hostInitDieNum) recycled
  | some hostDieValue =>
    if hostDieValue > hostMaxDieNum then
      ⟨invalidPid,{hostClnt with stopFlag := false},hostMap.mapSet hostClnt.hostName 0,recycled,
        false⟩
    else
      hostClnt.startDeviceHost installer (hostMap.mapSet hostClnt.hostName (hostDieValue + 1))
        recycled

def handleDeviceHostDied (installer : Bool) (hostClnt : DevHostServiceClnt) (hostMap : HostMap) :
    HandledDeath :=
  let isHostEmpty := hostClnt.devices.isEmpty
  let recycled := hostClnt.hostService
  let cleaned := hostClnt.cleanupDiedHostResources
  if isHostEmpty || cleaned.stopFlag then ⟨0,cleaned,hostMap,recycled,false⟩
  else
    let hostMap := hostMap.ensureInit
    if cleaned.unloadDevInfos ≠ [] then ⟨0,cleaned,hostMap,recycled,false⟩
    else cleaned.countDeath installer hostMap recycled

/-- A death of this host is counted. -/
def Counted (hostClnt : DevHostServiceClnt) : Prop :=
  hostClnt.devices ≠ [] ∧ hostClnt.stopFlag = false ∧ hostClnt.unloadDevInfos = []

/-- The handler ends early for a host without devices, a stopped one, and one with devices
left to load; every other death is counted. -/
theorem handled_cases (installer : Bool) (c : DevHostServiceClnt) (hostMap : HostMap) :
    (¬ c.Counted ∧ ∃ left : HostMap, left.value = hostMap.value ∧
      c.handleDeviceHostDied installer hostMap =
        ⟨0,c.cleanupDiedHostResources,left,c.hostService,false⟩) ∨
      c.Counted ∧ c.handleDeviceHostDied installer hostMap =
        c.cleanupDiedHostResources.countDeath installer hostMap.ensureInit c.hostService := by
  by_cases idle : (c.devices.isEmpty || c.stopFlag) = true
  · refine .inl ⟨?_,hostMap,rfl,if_pos idle⟩
    rintro ⟨devices,running,_⟩
    simp [devices,running] at idle
  have early : c.handleDeviceHostDied installer hostMap = _ := if_neg idle
  by_cases waiting : c.unloadDevInfos ≠ []
  · exact .inl ⟨fun counted => waiting counted.2.2,hostMap.ensureInit,hostMap.ensureInit_value,
      early.trans (if_pos waiting)⟩
  · rw [Bool.or_eq_true,not_or,List.isEmpty_iff,Bool.not_eq_true] at idle
    exact .inr ⟨⟨idle.1,idle.2,not_not.mp waiting⟩,early.trans (if_neg waiting)⟩

/-- Whether a counted death starts the host again, and what it does to the counts. -/
theorem countDeath_count (installer : Bool) (c : DevHostServiceClnt) (hostMap : HostMap)
    (recycled : Option ProxyId) :
    let handled := c.countDeath installer hostMap recycled
    (hostMap.value c.hostName = none ∧ handled.started = installer ∧ handled.hostMap.value =
        Function.update hostMap.value c.hostName (some hostInitDieNum)) ∨
      ∃ v, hostMap.value c.hostName = some v ∧
        ((v ≤ hostMaxDieNum ∧ handled.started = installer ∧ handled.hostMap.value =
            Function.update hostMap.value c.hostName (some (v + 1))) ∨
          hostMaxDieNum < v ∧ handled.started = false ∧ handled.hostMap.value =
            Function.update hostMap.value c.hostName (some 0)) := by
  unfold countDeath startDeviceHost HostMap.mapGet
  dsimp only
  cases hostMap.value c.hostName with
  | none =>
    refine .inl ⟨rfl,?_⟩
    cases installer <;> exact ⟨rfl,rfl⟩
  | some v =>
    refine .inr ⟨v,rfl,?_⟩
    dsimp only
    by_cases spent : v > hostMaxDieNum
    · rw [if_pos spent]
      exact .inr ⟨spent,rfl,rfl⟩
    · rw [if_neg spent]
      refine .inl ⟨Int.not_lt.mp spent,?_⟩
      cases installer <;> exact ⟨rfl,rfl⟩

theorem handled_host (installer : Bool) (c : DevHostServiceClnt) (hostMap : HostMap) :
    let handled := c.handleDeviceHostDied installer hostMap
    handled.hostClnt.hostId = c.hostId ∧ handled.hostClnt.hostName = c.hostName ∧
      handled.hostClnt.hostService = none ∧ handled.hostClnt.devices = [] ∧
        handled.recycled = c.hostService := by
  intro handled
  rcases handled_cases installer c hostMap with ⟨_,left,_,early⟩ | ⟨_,counted⟩
  · unfold handled
    rw [early]
    exact ⟨rfl,rfl,rfl,rfl,rfl⟩
  · unfold handled
    rw [counted]
    unfold countDeath startDeviceHost
    split
    next => cases installer <;> exact ⟨rfl,rfl,rfl,rfl,rfl⟩
    next =>
      split
      next => exact ⟨rfl,rfl,rfl,rfl,rfl⟩
      next => cases installer <;> exact ⟨rfl,rfl,rfl,rfl,rfl⟩

end DevHostServiceClnt

structure HdfMessage where
  messageId : UInt32
  data : UInt64

def devmgrMessageDevhostDied : UInt32 := 0

/-- A message, and the proxy whose death posted it. -/
structure Posted where
  message : HdfMessage
  proxy : ProxyId

def Posted.hostId (m : Posted) : UInt32 := m.message.data.toUInt32

/-- `watched` as long as the death of the process will be notified. -/
structure DevHostServiceProxy where
  hostId : UInt32
  watched : Bool

/-- The manager, its proxies, the messages that are not handled, and the hosts that were
started again, one entry for each start. -/
structure DevmgrServiceFull where
  hosts : List DevHostServiceClnt
  hostMap : HostMap
  proxyCount : Nat
  proxy : ProxyId → DevHostServiceProxy
  messages : List Posted
  started : List UInt32

/-- A host keeps its name and its process, unless the process attaches to it. -/
structure Attached (hostId : UInt32) (service : Option ProxyId)
    (before after : DevHostServiceClnt) : Prop where
  same_id : after.hostId = before.hostId
  same_name : after.hostName = before.hostName
  process : after.hostService = before.hostService ∨
    before.hostId = hostId ∧ after.hostService = service

/-- The device manager of the driver framework. -/
structure IDevmgrService where
  attachDeviceHost : UInt32 → Option ProxyId → List DevHostServiceClnt →
    Int × List DevHostServiceClnt
  attaches : ∀ hostId service hosts,
    List.Forall₂ (Attached hostId service) hosts (attachDeviceHost hostId service hosts).2

theorem IDevmgrService.attached_host (core : IDevmgrService) (hostId : UInt32)
    (service : Option ProxyId) (hosts : List DevHostServiceClnt) (c : DevHostServiceClnt)
    (member : c ∈ (core.attachDeviceHost hostId service hosts).2) :
    ∃ c' ∈ hosts, c.hostId = c'.hostId ∧ c.hostName = c'.hostName ∧
      (c.hostService = c'.hostService ∨ c'.hostId = hostId ∧ c.hostService = service) := by
  have all := core.attaches hostId service hosts
  generalize (core.attachDeviceHost hostId service hosts).2 = attached at all member
  induction all with
  | nil => cases member
  | cons attached _ ih =>
    rcases List.mem_cons.mp member with rfl | later
    · exact ⟨_,List.mem_cons_self,attached.same_id,attached.same_name,attached.process⟩
    · obtain ⟨c',earlier,rest⟩ := ih later
      exact ⟨c',List.mem_cons_of_mem _ earlier,rest⟩

theorem IDevmgrService.attached_names (core : IDevmgrService) (hostId : UInt32)
    (service : Option ProxyId) (hosts : List DevHostServiceClnt) :
    (core.attachDeviceHost hostId service hosts).2.map (·.hostId) = hosts.map (·.hostId) ∧
      (core.attachDeviceHost hostId service hosts).2.map (·.hostName) =
        hosts.map (·.hostName) := by
  have all := core.attaches hostId service hosts
  generalize (core.attachDeviceHost hostId service hosts).2 = attached at all
  induction all with
  | nil => exact ⟨rfl,rfl⟩
  | cons attached _ ih =>
    simp only [List.map_cons]
    rw [attached.same_id,attached.same_name,ih.1,ih.2]
    exact ⟨rfl,rfl⟩

/-- What else the framework does with a host: devices come and go, and it is stopped. -/
structure CoreWork where
  change : DevHostServiceClnt → DevHostServiceClnt
  same_id : ∀ hostClnt, (change hostClnt).hostId = hostClnt.hostId
  same_name : ∀ hostClnt, (change hostClnt).hostName = hostClnt.hostName
  same_process : ∀ hostClnt, (change hostClnt).hostService = hostClnt.hostService

namespace DevmgrServiceFull

/-- The first host with this identifier, and the others as they are. -/
def visitHost (installer : Bool) (hostId : UInt32) (hostMap : HostMap) :
    List DevHostServiceClnt → List DevHostServiceClnt × Option HandledDeath
  | [] => ([],none)
  | hostClnt::rest =>
    if hostClnt.hostId = hostId then
      let handled := hostClnt.handleDeviceHostDied installer hostMap
      (handled.hostClnt::rest,some handled)
    else
      let later := visitHost installer hostId hostMap rest
      (hostClnt::later.1,later.2)

def unwatch (s : DevmgrServiceFull) (p : ProxyId) : DevmgrServiceFull :=
  {s with proxy := Function.update s.proxy p {s.proxy p with watched := false}}

def onDeviceHostDied (installer : Bool) (hostId : UInt32) (s : DevmgrServiceFull) :
    DevmgrServiceFull :=
  match visitHost installer hostId s.hostMap s.hosts with
  | (_,none) => s
  | (hosts,some handled) =>
    let left : DevmgrServiceFull := {s with
      hosts := hosts
      hostMap := handled.hostMap
      started := if handled.started then s.started ++ [hostId] else s.started}
    match handled.recycled with
    | none => left
    | some p => left.unwatch p

def dispatchMessage (installer : Bool) (msg : HdfMessage) (s : DevmgrServiceFull) :
    DevmgrServiceFull :=
  if msg.messageId = devmgrMessageDevhostDied then
    -- the identifier goes through a pointer and an int
    let hostId : Int32 := msg.data.toUInt32.toInt32
    s.onDeviceHostDied installer hostId.toUInt32
  else s

/-- `DevHostServiceProxyObtain`: a proxy, watched when there is a remote. -/
def proxyObtain (hostId : UInt32) (remote : Bool) (s : DevmgrServiceFull) : DevmgrServiceFull :=
  {s with
    proxyCount := s.proxyCount + 1
    proxy := Function.update s.proxy s.proxyCount ⟨hostId,remote⟩}

/-- The attach request of `DevmgrServiceStubDispatch`. `hostId` is what can be read of the
request, `obtain` whether the proxy can be allocated. -/
def attachDeviceHost (core : IDevmgrService) (hostId : Option UInt32) (remote canObtain : Bool)
    (s : DevmgrServiceFull) : Int × DevmgrServiceFull :=
  match hostId with
  | none => (hdfFailure,s)
  | some hostId =>
    let obtained := if canObtain then s.proxyObtain hostId remote else s
    let hostIf := if canObtain then some s.proxyCount else none
    let answer := core.attachDeviceHost hostId hostIf s.hosts
    (answer.1,{obtained with hosts := answer.2})

/-- `DevHostServiceProxyOnRemoteDied`. -/
def onRemoteDied (p : ProxyId) (canObtain : Bool) (s : DevmgrServiceFull) : DevmgrServiceFull :=
  if (s.proxy p).watched = true ∧ p < s.proxyCount then
    let notified := s.unwatch p
    if canObtain then
      {notified with messages := s.messages ++
        [⟨⟨devmgrMessageDevhostDied,(s.proxy p).hostId.toUInt64⟩,p⟩]}
    else notified
  else s

end DevmgrServiceFull

inductive DevmgrEvent
  | attachDeviceHost (hostId : Option UInt32) (remote canObtain : Bool)
  | remoteDied (p : ProxyId) (canObtain : Bool)
  | dispatch (n : Nat) (installer : Bool)
  | work (change : CoreWork)

/-- A host as it is configured. -/
structure HostConfig where
  hostId : UInt32
  hostName : String
  deviceInfos : List HdfDeviceInfo

namespace DevmgrServiceFull

def opening (configs : List HostConfig) : DevmgrServiceFull where
  hosts := configs.map fun config =>
    ⟨config.hostId,config.hostName,invalidPid,none,[],config.deviceInfos,false⟩
  hostMap := HostMap.mapInit
  proxyCount := 0
  proxy _ := ⟨0,false⟩
  messages := []
  started := []

def step (core : IDevmgrService) (event : DevmgrEvent) (s : DevmgrServiceFull) :
    Int × DevmgrServiceFull :=
  match event with
  | .attachDeviceHost hostId remote canObtain => s.attachDeviceHost core hostId remote canObtain
  | .remoteDied p canObtain => (hdfSuccess,s.onRemoteDied p canObtain)
  | .dispatch n installer =>
    match s.messages[n]? with
    | none => (hdfSuccess,s)
    | some posted =>
      (hdfSuccess,dispatchMessage installer posted.message {s with messages := s.messages.eraseIdx n})
  | .work change => (hdfSuccess,{s with hosts := s.hosts.map change.change})

/-- The host whose process died is visited, if there is one, and no other. -/
theorem visitHost_cases (installer : Bool) (hostId : UInt32) (hostMap : HostMap)
    (hosts : List DevHostServiceClnt) :
    ((∀ c ∈ hosts, c.hostId ≠ hostId) ∧ visitHost installer hostId hostMap hosts = (hosts,none)) ∨
      ∃ before c after, hosts = before ++ c::after ∧ (∀ b ∈ before, b.hostId ≠ hostId) ∧
        c.hostId = hostId ∧ visitHost installer hostId hostMap hosts =
          (before ++ (c.handleDeviceHostDied installer hostMap).hostClnt::after,
            some (c.handleDeviceHostDied installer hostMap)) := by
  induction hosts with
  | nil => exact .inl ⟨fun _ impossible => (nomatch impossible),rfl⟩
  | cons c rest ih =>
    unfold visitHost
    by_cases same : c.hostId = hostId
    · rw [if_pos same]
      exact .inr ⟨[],c,rest,rfl,fun _ impossible => (nomatch impossible),same,rfl⟩
    · rw [if_neg same]
      rcases ih with ⟨others,unvisited⟩ | ⟨before,c',after,rfl,others,here,visited⟩
      · refine .inl ⟨?_,by rw [unvisited]⟩
        intro other member
        rcases List.mem_cons.mp member with rfl | later
        · exact same
        · exact others other later
      · refine .inr ⟨c::before,c',after,rfl,?_,here,by rw [visited]; rfl⟩
        intro other member
        rcases List.mem_cons.mp member with rfl | later
        · exact same
        · exact others other later

theorem onDeviceHostDied_cases (installer : Bool) (hostId : UInt32) (s : DevmgrServiceFull) :
    let t := s.onDeviceHostDied installer hostId
    ((∀ c ∈ s.hosts, c.hostId ≠ hostId) ∧ t = s) ∨
      ∃ before c after, s.hosts = before ++ c::after ∧ (∀ b ∈ before, b.hostId ≠ hostId) ∧
        c.hostId = hostId ∧
        t.hosts = before ++ (c.handleDeviceHostDied installer s.hostMap).hostClnt::after ∧
        t.hostMap = (c.handleDeviceHostDied installer s.hostMap).hostMap ∧
        t.started = (if (c.handleDeviceHostDied installer s.hostMap).started then
          s.started ++ [hostId] else s.started) ∧
        t.messages = s.messages ∧ t.proxyCount = s.proxyCount ∧
        ∀ p, (t.proxy p).hostId = (s.proxy p).hostId ∧
          ((t.proxy p).watched = true → (s.proxy p).watched = true) := by
  intro t
  have visit : t = s.onDeviceHostDied installer hostId := rfl
  unfold onDeviceHostDied at visit
  rcases visitHost_cases installer hostId s.hostMap s.hosts with
    ⟨others,unvisited⟩ | ⟨before,c,after,split,others,here,visited⟩
  · rw [unvisited] at visit
    exact .inl ⟨others,visit⟩
  · rw [visited] at visit
    refine .inr ⟨before,c,after,split,others,here,?_⟩
    dsimp only at visit
    cases recycled : (c.handleDeviceHostDied installer s.hostMap).recycled with
    | none =>
      rw [recycled] at visit
      rw [visit]
      exact ⟨rfl,rfl,rfl,rfl,rfl,fun p => ⟨rfl,id⟩⟩
    | some q =>
      rw [recycled] at visit
      rw [visit]
      refine ⟨rfl,rfl,rfl,rfl,rfl,fun p => ?_⟩
      unfold unwatch
      by_cases same : p = q
      · subst p
        simp
      · simp [Function.update_of_ne same]

theorem onRemoteDied_kept (p : ProxyId) (canObtain : Bool) (s : DevmgrServiceFull) :
    (s.onRemoteDied p canObtain).hosts = s.hosts ∧
      (s.onRemoteDied p canObtain).hostMap = s.hostMap ∧
        (s.onRemoteDied p canObtain).started = s.started := by
  unfold onRemoteDied unwatch
  split
  next => cases canObtain <;> exact ⟨rfl,rfl,rfl⟩
  next => exact ⟨rfl,rfl,rfl⟩

/-- A message is handled for the identifier it carries, or is none of a died host. -/
theorem dispatchMessage_cases (installer : Bool) (posted : Posted) (s : DevmgrServiceFull) :
    dispatchMessage installer posted.message s = s.onDeviceHostDied installer posted.hostId ∨
      dispatchMessage installer posted.message s = s := by
  unfold dispatchMessage
  split
  next =>
    refine .inl ?_
    simp [Posted.hostId]
  next => exact .inr rfl

theorem step_dispatch (core : IDevmgrService) (n : Nat) (installer : Bool)
    (s : DevmgrServiceFull) :
    (step core (.dispatch n installer) s).2 = s ∨
      ∃ posted, s.messages[n]? = some posted ∧ (step core (.dispatch n installer) s).2 =
        dispatchMessage installer posted.message {s with messages := s.messages.eraseIdx n} := by
  unfold step
  dsimp only
  cases s.messages[n]? with
  | none => exact .inl rfl
  | some posted => exact .inr ⟨posted,rfl,rfl⟩

/-- A framework that gives a host the process that attaches to it. -/
def plainManager : IDevmgrService where
  attachDeviceHost hostId service hosts := (hdfSuccess,hosts.map fun c =>
    if c.hostId = hostId then {c with hostService := service} else c)
  attaches := by
    intro hostId service hosts
    rw [List.forall₂_map_right_iff]
    refine List.forall₂_same.mpr (fun c _ => ?_)
    by_cases here : c.hostId = hostId
    · rw [if_pos here]
      exact ⟨rfl,rfl,.inr ⟨here,rfl⟩⟩
    · rw [if_neg here]
      exact ⟨rfl,rfl,.inl rfl⟩

def loadDevice : CoreWork where
  change c := {c with devices := ⟨⟨none,0,0,.localService⟩⟩::c.devices}
  same_id _ := rfl
  same_name _ := rfl
  same_process _ := rfl

end DevmgrServiceFull

end DriversAdapter.Devmgr
