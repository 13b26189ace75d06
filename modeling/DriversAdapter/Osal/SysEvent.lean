import DriversAdapter.Base.Word
import DriversAdapter.Semantics.Machine
import Mathlib.Data.List.Nodup
import Mathlib.Logic.Function.Basic

/-! The system event notifier: the nodes that want kernel events, the kevent service it
keeps bound for them, and the callbacks an event leads to. -/
namespace DriversAdapter.Osal
open DriversAdapter.Base DriversAdapter.Semantics

variable {ν Λ : Type} [DecidableEq ν]

/-- The intrusive lists of the driver framework. A node may be inserted while it is in no
list, and removed while it is in one. -/
structure DList (ν Λ : Type) [DecidableEq ν] where
  dListHeadInit : Λ
  dListInsertTail : ν → Λ → Λ
  dListRemove : ν → Λ → Λ
  entries : Λ → List ν
  entries_init : entries dListHeadInit = []
  entries_insertTail : ∀ node list, node ∉ entries list →
    entries (dListInsertTail node list) = entries list ++ [node]
  entries_remove : ∀ node list, node ∈ entries list →
    entries (dListRemove node list) = (entries list).erase node

structure HdfIoService where
  listener : Bool
  deriving DecidableEq

structure HdfSysEventNotifier (Λ : Type) where
  notifyNodeList : Λ
  keventIoService : Option HdfIoService

/-- How the calls end that a registration makes outside the notifier. -/
structure Outcomes where
  osalMemCalloc : Bool
  osalMutexInit : Int
  hdfIoServiceBind : Bool
  hdfDeviceRegisterEventListener : Int

/-- The global notifier, once there is one, and the filter in every node. -/
structure SysEvents (ν Λ : Type) where
  hdfSysEventNotifier : Option (HdfSysEventNotifier Λ)
  classFilter : ν → UInt64

structure HdfSysEvent where
  eventClass : UInt64
  eventid : UInt32
  syncToken : UInt64

inductive KEventAction (ν : Type)
  | callback (notifyNode : ν) (eventClass : UInt64) (eventid : UInt32) (content : String)
  | finishEvent (syncToken : UInt64)

def initKeventIoServiceListenerLocked (out : Outcomes) (keventIoService : Option HdfIoService) :
    Int × Option HdfIoService :=
  let bound := match keventIoService with
    | some service => some service
    | none => if out.hdfIoServiceBind then some ⟨false⟩ else none
  match bound with
  | none => (hdfDevErrNoDevice,none)
  | some _ =>
    -- a listener that is refused costs the service, bound in this call or not
    if out.hdfDeviceRegisterEventListener ≠ hdfSuccess then
      (out.hdfDeviceRegisterEventListener,none)
    else (hdfSuccess,some ⟨true⟩)

def deInitKeventIoServiceListenerLocked (keventIoService : Option HdfIoService) :
    Option HdfIoService :=
  match keventIoService with
  | none => none
  | some _ => none

theorem init_cases (out : Outcomes) (keventIoService : Option HdfIoService) :
    (∃ ret, ret ≠ hdfSuccess ∧
      initKeventIoServiceListenerLocked out keventIoService = (ret,none)) ∨
      initKeventIoServiceListenerLocked out keventIoService = (hdfSuccess,some ⟨true⟩) := by
  unfold initKeventIoServiceListenerLocked
  dsimp only
  split
  next => exact .inl ⟨hdfDevErrNoDevice,by decide,rfl⟩
  next =>
    split
    next refused => exact .inl ⟨_,refused,rfl⟩
    next => exact .inr rfl

theorem init_bound (out : Outcomes) (service : HdfIoService)
    (accepts : out.hdfDeviceRegisterEventListener = hdfSuccess) :
    initKeventIoServiceListenerLocked out (some service) = (hdfSuccess,some ⟨true⟩) := by
  unfold initKeventIoServiceListenerLocked
  dsimp only
  rw [if_neg (not_not.mpr accepts)]

theorem deInit_unbound (keventIoService : Option HdfIoService) :
    deInitKeventIoServiceListenerLocked keventIoService = none := by
  cases keventIoService <;> rfl

namespace SysEvents

variable (D : DList ν Λ)

def hdfSysEventNotifierGetInstance (out : Outcomes) (s : SysEvents ν Λ) :
    Option (HdfSysEventNotifier Λ) :=
  match s.hdfSysEventNotifier with
  | some notifier => some notifier
  | none =>
    if out.osalMemCalloc = false then none
    else if out.osalMutexInit ≠ hdfSuccess then none
    else some ⟨D.dListHeadInit,none⟩

def hdfSysEventNotifyRegister (notifierNode : Option ν) (classSet : UInt64) (out : Outcomes)
    (s : SysEvents ν Λ) : Int × SysEvents ν Λ :=
  match notifierNode with
  | none => (hdfErrInvalidParam,s)
  | some node =>
    match s.hdfSysEventNotifierGetInstance D out with
    | none => (hdfDevErrNoMemory,s)
    | some notifier =>
      let inserted := D.dListInsertTail node notifier.notifyNodeList
      let init := initKeventIoServiceListenerLocked out notifier.keventIoService
      let kept := if init.1 ≠ hdfSuccess then D.dListRemove node inserted else inserted
      (init.1,⟨some ⟨kept,init.2⟩,Function.update s.classFilter node classSet⟩)

def hdfSysEventNotifyUnregister (notifierNode : Option ν) (out : Outcomes)
    (s : SysEvents ν Λ) : SysEvents ν Λ :=
  match notifierNode with
  | none => s
  | some node =>
    match s.hdfSysEventNotifierGetInstance D out with
    | none => s
    | some notifier =>
      let kept := D.dListRemove node notifier.notifyNodeList
      let service := if (D.entries kept).isEmpty then
          deInitKeventIoServiceListenerLocked notifier.keventIoService
        else notifier.keventIoService
      {s with hdfSysEventNotifier := some ⟨kept,service⟩}

def nodes (s : SysEvents ν Λ) : List ν :=
  match s.hdfSysEventNotifier with
  | none => []
  | some notifier => D.entries notifier.notifyNodeList

def keventIoService (s : SysEvents ν Λ) : Option HdfIoService :=
  s.hdfSysEventNotifier.bind (·.keventIoService)

/-- `hdfSysevent` is the identifier of system events, `receivedEvent` what the data reads
as. -/
def onKEventReceived (s : SysEvents ν Λ) (hdfSysevent id : UInt32)
    (receivedEvent : Option HdfSysEvent) (eventContent : Option String) :
    Int × List (KEventAction ν) :=
  if id ≠ hdfSysevent then (hdfErrInvalidObject,[])
  else match receivedEvent with
  | none => (hdfFailure,[])
  | some event =>
    let called := (s.nodes D).filter (fun node => event.eventClass &&& s.classFilter node ≠ 0)
    (hdfSuccess,called.map (fun node =>
        .callback node event.eventClass event.eventid (eventContent.getD "")) ++
      if event.syncToken ≠ 0 then [.finishEvent event.syncToken] else [])

/-- What a system event leads to: the service hands it to its listener. -/
def received (s : SysEvents ν Λ) (hdfSysevent : UInt32) (event : HdfSysEvent)
    (eventContent : Option String) : List (KEventAction ν) :=
  match s.keventIoService with
  | some ⟨true⟩ => (s.onKEventReceived D hdfSysevent hdfSysevent (some event) eventContent).2
  | _ => []

section Registration
variable (node : ν) (classSet : UInt64) (out : Outcomes) (s : SysEvents ν Λ)

theorem getInstance_shows (notifier : HdfSysEventNotifier Λ)
    (there : s.hdfSysEventNotifierGetInstance D out = some notifier) :
    D.entries notifier.notifyNodeList = s.nodes D ∧
      notifier.keventIoService = s.keventIoService := by
  unfold hdfSysEventNotifierGetInstance at there
  unfold nodes keventIoService
  cases held : s.hdfSysEventNotifier with
  | some old =>
    rw [held,Option.some.injEq] at there
    subst old
    exact ⟨rfl,rfl⟩
  | none =>
    rw [held] at there
    dsimp only at there
    split_ifs at there
    obtain rfl := Option.some.inj there
    exact ⟨D.entries_init,rfl⟩

/-- A registration has no notifier to go to, or is taken back when the service cannot be
had, or succeeds. -/
theorem register_cases (fresh : node ∉ s.nodes D) :
    let answer := s.hdfSysEventNotifyRegister D (some node) classSet out
    s.hdfSysEventNotifier = none ∧ answer = (hdfDevErrNoMemory,s) ∨
      (∃ ret, ret ≠ hdfSuccess ∧
        initKeventIoServiceListenerLocked out s.keventIoService = (ret,none) ∧
        answer.1 = ret ∧ answer.2.nodes D = s.nodes D ∧ answer.2.keventIoService = none ∧
        answer.2.classFilter = Function.update s.classFilter node classSet) ∨
      (initKeventIoServiceListenerLocked out s.keventIoService = (hdfSuccess,some ⟨true⟩) ∧
        answer.1 = hdfSuccess ∧ answer.2.nodes D = s.nodes D ++ [node] ∧
        answer.2.keventIoService = some ⟨true⟩ ∧
        answer.2.classFilter = Function.update s.classFilter node classSet) := by
  intro answer
  cases there : s.hdfSysEventNotifierGetInstance D out with
  | none =>
    refine .inl ⟨?_,?_⟩
    · unfold hdfSysEventNotifierGetInstance at there
      cases held : s.hdfSysEventNotifier with
      | none => rfl
      | some notifier =>
        rw [held] at there
        contradiction
    · unfold answer hdfSysEventNotifyRegister
      simp only [there]
  | some notifier =>
    obtain ⟨listed,service⟩ := getInstance_shows D out s notifier there
    have inserted : D.entries (D.dListInsertTail node notifier.notifyNodeList) =
        s.nodes D ++ [node] := by
      rw [D.entries_insertTail node _ (by rwa [listed]),listed]
    rcases init_cases out s.keventIoService with ⟨ret,failed,refused⟩ | taken
    · refine .inr (.inl ⟨ret,failed,refused,?_⟩)
      have removed : D.entries (D.dListRemove node
          (D.dListInsertTail node notifier.notifyNodeList)) = s.nodes D := by
        rw [D.entries_remove node _ (by simp [inserted]),inserted,List.erase_append_right _ fresh]
        simp
      unfold answer hdfSysEventNotifyRegister
      simp only [there,service,refused,if_pos failed]
      exact ⟨trivial,removed,rfl,trivial⟩
    · refine .inr (.inr ⟨taken,?_⟩)
      unfold answer hdfSysEventNotifyRegister
      simp only [there,service,taken]
      exact ⟨trivial,inserted,rfl,trivial⟩

/-- The node leaves the list, and the last one takes the service along. -/
theorem unregister_listed (member : node ∈ s.nodes D) :
    let t := s.hdfSysEventNotifyUnregister D (some node) out
    t.nodes D = (s.nodes D).erase node ∧ t.classFilter = s.classFilter ∧
      t.keventIoService = if (s.nodes D).erase node = [] then none else s.keventIoService := by
  intro t
  have known : ∃ notifier, s.hdfSysEventNotifier = some notifier := by
    unfold nodes at member
    cases held : s.hdfSysEventNotifier with
    | none =>
      rw [held] at member
      cases member
    | some notifier => exact ⟨notifier,rfl⟩
  obtain ⟨notifier,held⟩ := known
  have there : s.hdfSysEventNotifierGetInstance D out = some notifier := by
    unfold hdfSysEventNotifierGetInstance
    rw [held]
  obtain ⟨listed,service⟩ := getInstance_shows D out s notifier there
  have removed : D.entries (D.dListRemove node notifier.notifyNodeList) =
      (s.nodes D).erase node := by
    rw [D.entries_remove node _ (by rwa [listed]),listed]
  unfold t hdfSysEventNotifyUnregister
  simp only [there,removed,List.isEmpty_iff,service]
  refine ⟨removed,trivial,?_⟩
  change (if _ then deInitKeventIoServiceListenerLocked s.keventIoService
    else s.keventIoService) = _
  rw [deInit_unbound]

end Registration

end SysEvents

inductive Call (ν : Type)
  | register (notifierNode : Option ν) (classSet : UInt64) (out : Outcomes)
  | unregister (notifierNode : Option ν) (out : Outcomes)

/-- The notifier, and the registrations its answers have left in force. -/
structure Subscriptions (ν Λ : Type) where
  events : SysEvents ν Λ
  subscribed : List (ν × UInt64)

namespace Subscriptions

variable (D : DList ν Λ)

def opening (classFilter : ν → UInt64) : Subscriptions ν Λ := ⟨⟨none,classFilter⟩,[]⟩

def step (call : Call ν) (s : Subscriptions ν Λ) : Int × Subscriptions ν Λ :=
  match call with
  | .register notifierNode classSet out =>
    let answer := s.events.hdfSysEventNotifyRegister D notifierNode classSet out
    (answer.1,⟨answer.2,if answer.1 = hdfSuccess then
        s.subscribed ++ notifierNode.toList.map (fun node => (node,classSet))
      else s.subscribed⟩)
  | .unregister notifierNode out =>
    (hdfSuccess,⟨s.events.hdfSysEventNotifyUnregister D notifierNode out,
      s.subscribed.filter (fun entry => some entry.1 ≠ notifierNode)⟩)

/-- A node registers while it is not in the list and unregisters while it is, and the
service takes its listener again as long as nodes rely on it. -/
def Steady (call : Call ν) (s : Subscriptions ν Λ) : Prop :=
  match call with
  | .register notifierNode _ out => ∀ node ∈ notifierNode, node ∉ s.events.nodes D ∧
      (s.events.nodes D ≠ [] → out.hdfDeviceRegisterEventListener = hdfSuccess)
  | .unregister notifierNode _ => ∀ node ∈ notifierNode, node ∈ s.events.nodes D

/-- The list holds the nodes that are subscribed, and the service is there for them. -/
structure Kept (s : Subscriptions ν Λ) : Prop where
  nodes_eq : s.events.nodes D = s.subscribed.map Prod.fst
  nodup : (s.subscribed.map Prod.fst).Nodup
  filter_eq : ∀ entry ∈ s.subscribed, s.events.classFilter entry.1 = entry.2
  service_eq : s.events.keventIoService = if s.subscribed = [] then none else some ⟨true⟩

section Steps
variable (s : Subscriptions ν Λ)

theorem kept_nodes_nil (kept : s.Kept D) : s.events.nodes D = [] ↔ s.subscribed = [] := by
  rw [kept.nodes_eq,List.map_eq_nil_iff]

theorem register_fails (kept : s.Kept D) (notifierNode : Option ν) (classSet : UInt64)
    (out : Outcomes) (steady : Steady D (.register notifierNode classSet out) s)
    (failed : (step D (.register notifierNode classSet out) s).1 ≠ hdfSuccess) :
    let t := (step D (.register notifierNode classSet out) s).2
    t.events.nodes D = s.events.nodes D ∧
      t.events.keventIoService = s.events.keventIoService ∧ t.subscribed = s.subscribed ∧
      ∀ node ∈ s.events.nodes D, t.events.classFilter node = s.events.classFilter node := by
  intro t
  have same : t.subscribed = s.subscribed := if_neg failed
  cases notifierNode with
  | none => exact ⟨rfl,rfl,same,fun _ _ => rfl⟩
  | some node =>
    obtain ⟨fresh,reliable⟩ := steady node rfl
    rcases SysEvents.register_cases D node classSet out s.events fresh with
      ⟨_,refused⟩ | ⟨ret,_,refused,_,nodes,service,filter⟩ | ⟨_,ok,_⟩
    · have unchanged : t.events = s.events := congrArg Prod.snd refused
      rw [unchanged]
      exact ⟨rfl,rfl,same,fun _ _ => rfl⟩
    · have unused : s.subscribed = [] := by
        by_contra used
        have bound := kept.service_eq
        rw [if_neg used] at bound
        rw [bound,init_bound out _ (reliable (mt (kept_nodes_nil D s kept).mp used))] at refused
        cases refused
      refine ⟨nodes,?_,same,fun other listed => ?_⟩
      · rw [kept.service_eq,if_pos unused]
        exact service
      · rw [kept.nodes_eq,unused] at listed
        cases listed
    · exact absurd ok failed

theorem kept_register (kept : s.Kept D) (notifierNode : Option ν) (classSet : UInt64)
    (out : Outcomes) (steady : Steady D (.register notifierNode classSet out) s) :
    (step D (.register notifierNode classSet out) s).2.Kept D := by
  by_cases failed : (step D (.register notifierNode classSet out) s).1 ≠ hdfSuccess
  · obtain ⟨nodes,service,subscribed,filter⟩ :=
      register_fails D s kept notifierNode classSet out steady failed
    refine ⟨?_,?_,?_,?_⟩
    · rw [nodes,subscribed,kept.nodes_eq]
    · rw [subscribed]
      exact kept.nodup
    · intro entry member
      rw [subscribed] at member
      rw [filter _ (kept.nodes_eq ▸ List.mem_map_of_mem member),kept.filter_eq entry member]
    · rw [service,subscribed,kept.service_eq]
  · rw [not_not] at failed
    cases notifierNode with
    | none => exact absurd (show hdfErrInvalidParam = hdfSuccess from failed) (by decide)
    | some node =>
      obtain ⟨fresh,_⟩ := steady node rfl
      have subscribed : (step D (.register (some node) classSet out) s).2.subscribed =
          s.subscribed ++ [(node,classSet)] := if_pos failed
      rcases SysEvents.register_cases D node classSet out s.events fresh with
        ⟨_,refused⟩ | ⟨ret,bad,_,same,_⟩ | ⟨_,_,nodes,service,filter⟩
      · have impossible : hdfDevErrNoMemory = hdfSuccess :=
          (congrArg Prod.fst refused).symm.trans failed
        exact absurd impossible (by decide)
      · exact absurd (same.symm.trans failed) bad
      · rw [kept.nodes_eq] at fresh
        refine ⟨?_,?_,?_,?_⟩
        · rw [subscribed,List.map_append,← kept.nodes_eq]
          exact nodes
        · rw [subscribed,List.map_append,List.nodup_append]
          refine ⟨kept.nodup,List.nodup_singleton _,?_⟩
          rintro other listed _ last rfl
          obtain rfl := List.mem_singleton.mp last
          exact fresh listed
        · intro entry member
          have updated := congrFun filter entry.1
          rw [subscribed] at member
          refine updated.trans ?_
          rcases List.mem_append.mp member with earlier | last
          · have differs : entry.1 ≠ node := fun twin =>
              fresh (twin ▸ List.mem_map_of_mem earlier)
            rw [Function.update_of_ne differs,kept.filter_eq entry earlier]
          · obtain rfl := List.mem_singleton.mp last
            exact Function.update_self _ _ _
        · rw [subscribed,if_neg (by simp)]
          exact service

theorem kept_unregister (kept : s.Kept D) (notifierNode : Option ν) (out : Outcomes)
    (steady : Steady D (.unregister notifierNode out) s) :
    (step D (.unregister notifierNode out) s).2.Kept D := by
  cases notifierNode with
  | none =>
    have all : s.subscribed.filter (fun entry => some entry.1 ≠ none) = s.subscribed := by simp
    change Kept D ⟨s.events,s.subscribed.filter (fun entry => some entry.1 ≠ none)⟩
    rw [all]
    exact kept
  | some node =>
    obtain ⟨nodes,filter,service⟩ :=
      SysEvents.unregister_listed D node out s.events (steady node rfl)
    have remaining : (s.events.nodes D).erase node =
        (s.subscribed.filter (fun entry => some entry.1 ≠ some node)).map Prod.fst := by
      rw [kept.nodes_eq,kept.nodup.erase_eq_filter,List.filter_map]
      congr 2
      funext entry
      rw [Bool.eq_iff_iff]
      simp
    refine ⟨nodes.trans remaining,?_,?_,?_⟩
    · exact remaining ▸ (kept.nodes_eq ▸ kept.nodup).erase node
    · intro entry member
      exact (congrFun filter entry.1).trans (kept.filter_eq entry (List.mem_of_mem_filter member))
    · refine service.trans ?_
      rw [remaining]
      simp only [List.map_eq_nil_iff]
      split
      next gone => exact (if_pos gone).symm
      next left =>
        rw [kept.service_eq,if_neg]
        · exact (if_neg left).symm
        · intro unused
          rw [unused] at left
          exact left rfl

theorem kept_received (kept : s.Kept D) (hdfSysevent : UInt32) (event : HdfSysEvent)
    (eventContent : Option String) (used : s.subscribed ≠ []) :
    s.events.received D hdfSysevent event eventContent =
      ((s.subscribed.filter fun entry => event.eventClass &&& entry.2 ≠ 0).map fun entry =>
        .callback entry.1 event.eventClass event.eventid (eventContent.getD "")) ++
      if event.syncToken ≠ 0 then [.finishEvent event.syncToken] else [] := by
  have listening := kept.service_eq
  rw [if_neg used] at listening
  have filtered : (s.subscribed.filter fun entry =>
        event.eventClass &&& s.events.classFilter entry.1 ≠ 0) =
      s.subscribed.filter fun entry => event.eventClass &&& entry.2 ≠ 0 := by
    refine List.filter_congr (fun entry member => ?_)
    rw [kept.filter_eq entry member]
  unfold SysEvents.received SysEvents.onKEventReceived
  rw [listening,kept.nodes_eq]
  simp only [ne_eq,not_true_eq_false,if_false,List.filter_map,List.map_map] at filtered ⊢
  rw [← filtered]
  rfl

theorem kept_step (kept : s.Kept D) (call : Call ν) (steady : Steady D call s) :
    (step D call s).2.Kept D := by
  cases call with
  | register notifierNode classSet out => exact kept_register D s kept notifierNode classSet out steady
  | unregister notifierNode out => exact kept_unregister D s kept notifierNode out steady

/-- A listener refused while nodes rely on the service unbinds it under them. -/
theorem refused_unbinds (kept : s.Kept D) (node : ν) (classSet : UInt64) (out : Outcomes)
    (fresh : node ∉ s.events.nodes D) (used : s.events.nodes D ≠ [])
    (refused : out.hdfDeviceRegisterEventListener ≠ hdfSuccess) :
    let t := (step D (.register (some node) classSet out) s).2
    t.events.nodes D = s.events.nodes D ∧ t.events.keventIoService = none := by
  intro t
  have bound := kept.service_eq
  rw [if_neg (mt (kept_nodes_nil D s kept).mpr used)] at bound
  have init : initKeventIoServiceListenerLocked out s.events.keventIoService =
      (out.hdfDeviceRegisterEventListener,none) := by
    rw [bound]
    exact if_pos refused
  rcases SysEvents.register_cases D node classSet out s.events fresh with
    ⟨absent,_⟩ | ⟨_,_,_,_,nodes,service,_⟩ | ⟨taken,_⟩
  · unfold SysEvents.keventIoService at bound
    rw [absent] at bound
    contradiction
  · exact ⟨nodes,service⟩
  · rw [init] at taken
    exact absurd (congrArg Prod.fst taken) refused

theorem kept_opening (classFilter : ν → UInt64) : (opening classFilter : Subscriptions ν Λ).Kept D :=
  ⟨rfl,List.nodup_nil,fun _ member => absurd member List.not_mem_nil,rfl⟩

end Steps

/-- Where the service takes its listener again as long as nodes rely on it, it is bound and
listening exactly while nodes are in the list, a registration that fails changes neither, and
every node that is subscribed is called for the events of its classes. -/
theorem bound_while_registered (classFilter : ν → UInt64) (s : Subscriptions ν Λ)
    (reached : Machine.Reach (step D) (Steady D) (opening classFilter) s) :
    ((s.events.keventIoService = some ⟨true⟩ ↔ s.events.nodes D ≠ []) ∧
        (s.events.keventIoService = none ↔ s.events.nodes D = [])) ∧
      (∀ notifierNode classSet out, Steady D (.register notifierNode classSet out) s →
        (step D (.register notifierNode classSet out) s).1 ≠ hdfSuccess →
          (step D (.register notifierNode classSet out) s).2.events.nodes D = s.events.nodes D ∧
            (step D (.register notifierNode classSet out) s).2.events.keventIoService =
              s.events.keventIoService) ∧
      ∀ node classSet hdfSysevent event eventContent, (node,classSet) ∈ s.subscribed →
        event.eventClass &&& classSet ≠ 0 →
          .callback node event.eventClass event.eventid (eventContent.getD "") ∈
            s.events.received D hdfSysevent event eventContent := by
  have kept : s.Kept D := Machine.reach_invariant (step D) (Steady D) (opening classFilter)
    (Kept D) (kept_opening D classFilter)
    (fun call s kept steady => kept_step D s kept call steady) s reached
  refine ⟨?_,?_,?_⟩
  · rw [kept.service_eq,ne_eq,kept_nodes_nil D s kept]
    split
    next unused => simp [unused]
    next used => simp [used]
  · intro notifierNode classSet out steady failed
    obtain ⟨nodes,service,_⟩ := register_fails D s kept notifierNode classSet out steady failed
    exact ⟨nodes,service⟩
  · intro node classSet hdfSysevent event eventContent member wanted
    have used : s.subscribed ≠ [] := List.ne_nil_of_mem member
    rw [kept_received D s kept hdfSysevent event eventContent used,List.mem_append]
    refine .inl (List.mem_map.mpr ⟨(node,classSet),List.mem_filter.mpr ⟨member,?_⟩,rfl⟩)
    exact decide_eq_true wanted

def plainLists : DList Nat (List Nat) where
  dListHeadInit := []
  dListInsertTail node list := list ++ [node]
  dListRemove node list := list.erase node
  entries list := list
  entries_init := rfl
  entries_insertTail _ _ _ := rfl
  entries_remove _ _ _ := rfl

def served : Outcomes := ⟨true,0,true,0⟩

def registeredOne : Subscriptions Nat (List Nat) :=
  (step plainLists (.register (some 0) 1 served) (opening fun _ => 0)).2

theorem bound_while_registered_one :
    (registeredOne.events.nodes plainLists = [0] ∧
        registeredOne.events.keventIoService = some ⟨true⟩) ∧
      (step plainLists (.register none 1 served) registeredOne).2.events.nodes plainLists = [0] ∧
      .callback 0 1 7 "" ∈ registeredOne.events.received plainLists 5 ⟨1,7,0⟩ none := by
  have reached : Machine.Reach (step plainLists) (Steady plainLists) (opening fun _ => 0)
      registeredOne := by
    refine .step _ .start ?_
    intro node _
    exact ⟨List.not_mem_nil,fun _ => rfl⟩
  obtain ⟨⟨listening,_⟩,failing,called⟩ :=
    bound_while_registered plainLists (fun _ => 0) registeredOne reached
  refine ⟨⟨rfl,listening.mpr (List.cons_ne_nil _ _)⟩,?_,?_⟩
  · exact (failing none 1 served (fun _ impossible => nomatch impossible) (by decide)).1
  · exact called 0 1 5 ⟨1,7,0⟩ none List.mem_cons_self (by decide)

/-- The second node's registration fails, and the first one is called no more. -/
theorem second_register_unbinds :
    let answer := step plainLists (.register (some 1) 1 ⟨true,0,true,-1⟩) registeredOne
    answer.1 = -1 ∧ answer.2.events.nodes plainLists = [0] ∧
      registeredOne.events.keventIoService = some ⟨true⟩ ∧
      answer.2.events.keventIoService = none ∧ answer.2.subscribed = [(0,1)] ∧
      answer.2.events.received plainLists 5 ⟨1,7,0⟩ none = [] :=
  ⟨rfl,rfl,rfl,rfl,rfl,rfl⟩

end Subscriptions

end DriversAdapter.Osal
