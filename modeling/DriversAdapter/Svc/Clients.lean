import DriversAdapter.Ipc.Parcel
import DriversAdapter.Ipc.Requests
import DriversAdapter.Semantics.Machine
import DriversAdapter.Svc.Directory

/-! The device service manager as its clients reach it: the bytes that the proxies write, what the
stub reads from them, and the answers that come back over a binder that may fail. -/
namespace DriversAdapter.Svc
open DriversAdapter.Base DriversAdapter.Semantics DriversAdapter.Semantics.Program

/-- A parcel that carries interface tokens and remote objects as well. -/
structure MessageParcel extends Ipc.Parcel where
  token : Format UInt8 Ipc.CString
  remoteObject : Format UInt8 UInt64
  remoteObject_nil : remoteObject.get [] = none

/-- Tokens as strings, and remote objects as two words. -/
def hipcParcel : MessageParcel :=
  {Ipc.messageParcel with
    token := Ipc.messageParcel.cString
    remoteObject :=
      { put := fun v => Ipc.word (v.toNat % 2^32) ++ Ipc.word (v.toNat / 2^32)
        get := fun bytes => (Ipc.readWord bytes).bind fun low =>
          (Ipc.readWord low.2).map fun high => (.ofNat (low.1 + 2^32 * high.1),high.2)
        get_put := by
          intro v rest
          have bound := v.toNat_lt
          rw [List.append_assoc,Ipc.readWord_word _ (Nat.mod_lt _ (by decide)),Option.bind_some,
            Ipc.readWord_word _ (by omega),Option.map_some,Nat.mod_add_div,UInt64.ofNat_toNat] }
    remoteObject_nil := rfl}

/-- The bytes of a text, up to its first NUL. -/
def cString (text : String) : Ipc.CString :=
  .upToNul (text.toList.map fun c => UInt8.ofNat c.toNat)

def cText (s : Ipc.CString) : String := String.ofList (s.bytes.map fun b => Char.ofNat b.toNat)

/-- A text as the other side reads it. -/
def asText (text : String) : String := cText (cString text)

def RequestCode.ofIpc : Ipc.RequestCode → Option RequestCode
  | .devSvcManagerAddService => some .addService
  | .devSvcManagerUpdateService => some .updateService
  | .devSvcManagerGetService => some .getService
  | .devSvcManagerRemoveService => some .removeService
  | .devSvcManagerRegisterSvcListener => some .registerServListener
  | .devSvcManagerUnregisterSvcListener => some .unregisterServListener
  | .devmgrServiceQueryDevice | .servieStatusListenerNotify => none

section Reading
variable (P : MessageParcel)

/-- The reads of `AddService` and `UpdateService` after the token. -/
def readServiceInfo (bytes : List UInt8) : Parcel → Parcel := fun data =>
  match P.cString.get bytes with
  | none => data
  | some (name,bytes) =>
    let data := {data with name := some (cText name)}
    match P.uint16.get bytes with
    | none => data
    | some (devClass,bytes) =>
      let data := {data with devClass := some devClass}
      match P.remoteObject.get bytes with
      | none => data
      | some (remote,bytes) =>
        {data with
          remote := some remote
          servInfo := (P.cString.get bytes).map fun got => cText got.1}

def readName (bytes : List UInt8) (data : Parcel) : Parcel :=
  {data with name := (P.cString.get bytes).map fun got => cText got.1}

def readListener (bytes : List UInt8) (data : Parcel) : Parcel :=
  match P.uint16.get bytes with
  | none => data
  | some (listenClass,bytes) =>
    {data with
      devClass := some listenClass
      remote := (P.remoteObject.get bytes).map Prod.fst}

/-- What the handler of a request finds in its bytes. An empty token is refused as a wrong one. -/
def readRequest (descriptor : Ipc.CString) (code : RequestCode) (bytes : List UInt8) : Parcel :=
  match P.token.get bytes with
  | none => ⟨false,none,none,none,none⟩
  | some (token,bytes) =>
    let data : Parcel := ⟨token.bytes ≠ [] ∧ token = descriptor,none,none,none,none⟩
    match code with
    | .addService | .updateService => readServiceInfo P bytes data
    | .getService | .removeService => readName P bytes data
    | .registerServListener => readListener P bytes data
    | .unregisterServListener => {data with remote := (P.remoteObject.get bytes).map Prod.fst}

end Reading

/-- How a request and its answer travel. -/
inductive Transport
  | answered
  | lost (status : Int) (failed : status ≠ hdfSuccess)
  | dropped (status : Int) (failed : status ≠ hdfSuccess)

/-- How each call ends, for the calls made before it. -/
structure Surroundings where
  answers : Nat → (op : Ipc.RequestOp) → op.Res
  descriptor : Ipc.HdfRemoteService → Ipc.CString
  delivery : Nat → Transport
  out : Nat → Outcomes

def granted : (op : Ipc.RequestOp) → op.Res
  | .hdfSbufTypedObtain => some 0
  | .hdfSbufRecycle _ => ()
  | .hdfRemoteServiceWriteInterfaceToken _ _ | .hdfSbufWriteString _ _
  | .hdfSbufWriteUint16 _ _ | .hdfSbufWriteInt32 _ _ => true
  | .hdfSbufReadRemoteService _ => none
  | .hdfSbufWriteRemoteService _ _ | .serviceStatusMarshalling _ | .dispatch _ _ _ _
  | .dispatchAsync _ _ _ | .hdfObtainDeviceInfo _ => hdfSuccess

structure Exchange (κ : Type) where
  calls : Nat
  obtained : Nat
  sbuf : Nat → List UInt8
  stub : StubState κ

namespace Exchange
variable {κ : Type}

def starting (k : κ) : Exchange κ := ⟨0,0,fun _ => [],.starting k⟩

def append (taken : Prop) [Decidable taken] (sbuf : Nat) (bytes : List UInt8) (s : Exchange κ) :
    Exchange κ :=
  if taken then {s with sbuf := Function.update s.sbuf sbuf (s.sbuf sbuf ++ bytes)} else s

/-- `DevSvcManagerStubDispatch`, with the remotes that it wrote to the reply. -/
def handle (P : MessageParcel) (core : IDevSvcManager κ) (descriptor : Ipc.CString)
    (out : Outcomes) (code : Ipc.RequestCode) (bytes : List UInt8) (stub : StubState κ) :
    Int × List UInt8 × StubState κ :=
  match RequestCode.ofIpc code with
  | none => (hdfFailure,[],stub)
  | some code =>
    let done := DevSvcManagerStub.respond core out code (readRequest P descriptor code bytes) stub
    (done.1,P.remoteObject.puts ((done.2.reply.drop stub.reply.length).map fun r =>
      (done.2.remote r).index),done.2)

/-- The reply is there when the answer is. -/
def dispatch (P : MessageParcel) (core : IDevSvcManager κ) (descriptor : Ipc.CString)
    (delivery : Transport) (out : Outcomes) (code : Ipc.RequestCode) (data : Nat)
    (reply : Option Nat) (s : Exchange κ) : Int × Exchange κ :=
  let handled := handle P core descriptor out code (s.sbuf data) s.stub
  match delivery with
  | .dropped status _ => (status,s)
  | .lost status _ => (status,{s with stub := handled.2.2})
  | .answered => match reply with
    | none => (handled.1,{s with stub := handled.2.2})
    | some reply => (handled.1,{s with
        stub := handled.2.2
        sbuf := Function.update s.sbuf reply (s.sbuf reply ++ handled.2.1)})

/-- The calls of a request. Every remote that a client sends to is the service manager's. -/
def serve (P : MessageParcel) (core : IDevSvcManager κ) (descriptor : Ipc.CString)
    (env : Surroundings) (op : Ipc.RequestOp) (s : Exchange κ) : op.Res × Exchange κ :=
  let next := {s with calls := s.calls + 1}
  match op with
  | .hdfSbufTypedObtain => match env.answers s.calls .hdfSbufTypedObtain with
    | none => (none,next)
    | some _ => (some s.obtained,{next with
        obtained := s.obtained + 1
        sbuf := Function.update s.sbuf s.obtained []})
  | .hdfSbufRecycle _ => ((),next)
  | .hdfRemoteServiceWriteInterfaceToken none _ => (false,next)
  | .hdfRemoteServiceWriteInterfaceToken (some remote) sbuf =>
    let taken := env.answers s.calls (.hdfRemoteServiceWriteInterfaceToken (some remote) sbuf)
    (taken,next.append (taken = true) sbuf (P.token.put (env.descriptor remote)))
  | .hdfSbufWriteString sbuf value =>
    let taken := env.answers s.calls (.hdfSbufWriteString sbuf value)
    (taken,next.append (taken = true) sbuf (P.cString.put (cString value)))
  | .hdfSbufWriteUint16 sbuf value =>
    let taken := env.answers s.calls (.hdfSbufWriteUint16 sbuf value)
    (taken,next.append (taken = true) sbuf (P.uint16.put value))
  | .hdfSbufWriteInt32 sbuf value =>
    let taken := env.answers s.calls (.hdfSbufWriteInt32 sbuf value)
    (taken,next.append (taken = true) sbuf (P.int32.put value))
  | .hdfSbufWriteRemoteService sbuf remote =>
    let ret := env.answers s.calls (.hdfSbufWriteRemoteService sbuf remote)
    (ret,next.append (ret = hdfSuccess) sbuf (P.remoteObject.put remote.id))
  | .dispatch _ code data reply =>
    next.dispatch P core descriptor (env.delivery s.calls) (env.out s.calls) code data reply
  | .dispatchAsync _ code data =>
    next.dispatch P core descriptor (env.delivery s.calls) (env.out s.calls) code data none
  | .hdfSbufReadRemoteService reply => ((P.remoteObject.get (s.sbuf reply)).map Prod.fst,next)
  | .serviceStatusMarshalling sbuf => (env.answers s.calls (.serviceStatusMarshalling sbuf),next)
  | .hdfObtainDeviceInfo reply => (env.answers s.calls (.hdfObtainDeviceInfo reply),next)

/-- What holds once a request of a client is through. -/
def Ends (P : MessageParcel) (core : IDevSvcManager κ) (descriptor : Ipc.CString)
    (env : Surroundings) {α : Type} (post : α → Exchange κ → Prop) (p : Ipc.RequestM α)
    (s : Exchange κ) : Prop :=
  post (p.run (serve P core descriptor env) s).1 (p.run (serve P core descriptor env) s).2

/-- A request that is being written: the stub has not seen anything of it. -/
structure Draft (stub : StubState κ) (data : Nat) (reply : Option Nat) (bytes : List UInt8)
    (s : Exchange κ) : Prop where
  stub_eq : s.stub = stub
  written : s.sbuf data = bytes
  blank : ∀ r, reply = some r → r ≠ data ∧ s.sbuf r = []

end Exchange

/-- Nothing fails, and every client names the interface of the stub. -/
structure Surroundings.Calm (descriptor : Ipc.CString) (env : Surroundings) : Prop where
  obtains : ∀ n, env.answers n .hdfSbufTypedObtain ≠ none
  token : ∀ n remote sbuf,
    env.answers n (.hdfRemoteServiceWriteInterfaceToken (some remote) sbuf) = true
  string : ∀ n sbuf value, env.answers n (.hdfSbufWriteString sbuf value) = true
  uint16 : ∀ n sbuf value, env.answers n (.hdfSbufWriteUint16 sbuf value) = true
  remote : ∀ n sbuf service,
    env.answers n (.hdfSbufWriteRemoteService sbuf service) = hdfSuccess
  answered : ∀ n, env.delivery n = .answered
  granting : ∀ n, env.out n = .granting
  named : ∀ remote, env.descriptor remote = descriptor
  nonempty : descriptor.bytes ≠ []

namespace Exchange
variable {κ : Type} {P : MessageParcel} {core : IDevSvcManager κ} {descriptor : Ipc.CString}
variable {env : Surroundings} {α : Type} {post : α → Exchange κ → Prop}

section Writing
variable {stub : StubState κ} {data : Nat} {reply : Option Nat} {bytes : List UInt8}
variable {s : Exchange κ}

theorem ends_done (value : α) (s : Exchange κ) (here : post value s) :
    Ends P core descriptor env post (pure value) s := here

theorem ends_then {β : Type} (mid : β → Exchange κ → Prop) (p : Ipc.RequestM β)
    (f : β → Ipc.RequestM α) (s : Exchange κ) (first : Ends P core descriptor env mid p s)
    (rest : ∀ value t, mid value t → Ends P core descriptor env post (f value) t) :
    Ends P core descriptor env post (p >>= f) s := by
  unfold Ends at first rest ⊢
  rw [run_bind]
  exact rest _ _ first

theorem draft_append (draft : s.Draft stub data reply bytes) (calls : Nat) (taken : Prop)
    [Decidable taken] (more : List UInt8) :
    (({s with calls := calls} : Exchange κ).append taken data more).stub = stub ∧
      (taken → (({s with calls := calls} : Exchange κ).append taken data more).Draft stub data reply
        (bytes ++ more)) := by
  unfold append
  split_ifs with written
  · refine ⟨draft.stub_eq,fun _ => ⟨draft.stub_eq,?_,fun r replies => ?_⟩⟩
    · simp [draft.written]
    · obtain ⟨other,blank⟩ := draft.blank r replies
      exact ⟨other,by simp [Function.update_of_ne other,blank]⟩
  · exact ⟨draft.stub_eq,fun taken => absurd taken written⟩

theorem ends_append (draft : s.Draft stub data reply bytes) (taken : Bool) (more : List UInt8)
    (calmly : env.Calm descriptor → taken = true) (f : Bool → Ipc.RequestM α)
    (refused : ¬ env.Calm descriptor → ∀ t : Exchange κ, t.stub = stub →
      Ends P core descriptor env post (f false) t)
    (goes : ∀ t : Exchange κ, t.Draft stub data reply (bytes ++ more) →
      Ends P core descriptor env post (f true) t) :
    Ends P core descriptor env post (f taken)
      (({s with calls := s.calls + 1} : Exchange κ).append (taken = true) data more) := by
  obtain ⟨same,written⟩ := draft_append draft (s.calls + 1) (taken = true) more
  cases taken with
  | false =>
    refine refused (fun calm => ?_) _ same
    have ok := calmly calm
    contradiction
  | true => exact goes _ (written rfl)

theorem ends_token (draft : s.Draft stub data reply bytes) (remote : Ipc.HdfRemoteService)
    (f : Bool → Ipc.RequestM α)
    (refused : ¬ env.Calm descriptor → ∀ t : Exchange κ, t.stub = stub →
      Ends P core descriptor env post (f false) t)
    (goes : ∀ t : Exchange κ,
      t.Draft stub data reply (bytes ++ P.token.put (env.descriptor remote)) →
        Ends P core descriptor env post (f true) t) :
    Ends P core descriptor env post
      (Ipc.perform (.hdfRemoteServiceWriteInterfaceToken (some remote) data) >>= f) s :=
  ends_append draft _ _ (fun calm => calm.token s.calls remote data) f refused goes

theorem ends_string (draft : s.Draft stub data reply bytes) (value : String)
    (f : Bool → Ipc.RequestM α)
    (refused : ¬ env.Calm descriptor → ∀ t : Exchange κ, t.stub = stub →
      Ends P core descriptor env post (f false) t)
    (goes : ∀ t : Exchange κ,
      t.Draft stub data reply (bytes ++ P.cString.put (cString value)) →
        Ends P core descriptor env post (f true) t) :
    Ends P core descriptor env post (Ipc.perform (.hdfSbufWriteString data value) >>= f) s :=
  ends_append draft _ _ (fun calm => calm.string s.calls data value) f refused goes

theorem ends_uint16 (draft : s.Draft stub data reply bytes) (value : UInt16)
    (f : Bool → Ipc.RequestM α)
    (refused : ¬ env.Calm descriptor → ∀ t : Exchange κ, t.stub = stub →
      Ends P core descriptor env post (f false) t)
    (goes : ∀ t : Exchange κ, t.Draft stub data reply (bytes ++ P.uint16.put value) →
      Ends P core descriptor env post (f true) t) :
    Ends P core descriptor env post (Ipc.perform (.hdfSbufWriteUint16 data value) >>= f) s :=
  ends_append draft _ _ (fun calm => calm.uint16 s.calls data value) f refused goes

theorem ends_remote (draft : s.Draft stub data reply bytes) (remote : Ipc.HdfRemoteService)
    (f : Int → Ipc.RequestM α)
    (refused : ¬ env.Calm descriptor → ∀ ret, ret ≠ hdfSuccess → ∀ t : Exchange κ,
      t.stub = stub → Ends P core descriptor env post (f ret) t)
    (goes : ∀ t : Exchange κ, t.Draft stub data reply (bytes ++ P.remoteObject.put remote.id) →
      Ends P core descriptor env post (f hdfSuccess) t) :
    Ends P core descriptor env post
      (Ipc.perform (.hdfSbufWriteRemoteService data remote) >>= f) s := by
  have answer (ret : Int) (calmly : env.Calm descriptor → ret = hdfSuccess) :
      Ends P core descriptor env post (f ret) (({s with calls := s.calls + 1} :
        Exchange κ).append (ret = hdfSuccess) data (P.remoteObject.put remote.id)) := by
    obtain ⟨same,written⟩ := draft_append draft (s.calls + 1) (ret = hdfSuccess)
      (P.remoteObject.put remote.id)
    by_cases ok : ret = hdfSuccess
    · subst ok
      exact goes _ (written rfl)
    · exact refused (fun calm => ok (calmly calm)) ret ok _ same
  exact answer _ fun calm => calm.remote s.calls data remote

/-- What the stub may have done with a request, and what the client is told. -/
theorem ends_dispatch (draft : s.Draft stub data reply bytes) (remote : Ipc.HdfRemoteService)
    (code : Ipc.RequestCode) (f : Int → Ipc.RequestM α)
    (failed : ¬ env.Calm descriptor → ∀ status, status ≠ hdfSuccess → ∀ (out : Outcomes)
      (t : Exchange κ), t.stub = stub ∨
        t.stub = (handle P core descriptor out code bytes stub).2.2 →
          Ends P core descriptor env post (f status) t)
    (answered : ∀ (out : Outcomes) (t : Exchange κ), (env.Calm descriptor → out = .granting) →
      t.stub = (handle P core descriptor out code bytes stub).2.2 →
        (∀ r, reply = some r → t.sbuf r = (handle P core descriptor out code bytes stub).2.1) →
          Ends P core descriptor env post
            (f (handle P core descriptor out code bytes stub).1) t) :
    Ends P core descriptor env post (Ipc.perform (.dispatch remote code data reply) >>= f) s := by
  change Ends P core descriptor env post (f (dispatch P core descriptor (env.delivery s.calls)
    (env.out s.calls) code data reply {s with calls := s.calls + 1}).1)
      (dispatch P core descriptor (env.delivery s.calls) (env.out s.calls) code data reply
        {s with calls := s.calls + 1}).2
  obtain ⟨rfl,rfl,blank⟩ := draft
  unfold dispatch
  cases delivered : env.delivery s.calls with
  | dropped status not_ok =>
    refine failed (fun calm => ?_) status not_ok (env.out s.calls) _ (.inl rfl)
    rw [calm.answered] at delivered
    contradiction
  | lost status not_ok =>
    refine failed (fun calm => ?_) status not_ok (env.out s.calls) _ (.inr rfl)
    rw [calm.answered] at delivered
    contradiction
  | answered =>
    have calmly (calm : env.Calm descriptor) := calm.granting s.calls
    cases reply with
    | none => exact answered (env.out s.calls) _ calmly rfl fun r none_there => nomatch none_there
    | some r =>
      refine answered (env.out s.calls) _ calmly rfl fun other same => ?_
      obtain rfl : r = other := Option.some.inj same
      simp [(blank r rfl).2]

theorem recycleObtained_stub (sbuf : Option Nat) (s : Exchange κ) :
    ((Ipc.recycleObtained sbuf).run (serve P core descriptor env) s).2.stub = s.stub := by
  cases sbuf <;> rfl

theorem ends_withSbufs (post : α → StubState κ → Prop)
    (body : Option Nat → Option Nat → Ipc.RequestM α) (s : Exchange κ)
    (missing : ¬ env.Calm descriptor → ∀ (sbuf : Option Nat) (t : Exchange κ), t.stub = s.stub →
      Ends P core descriptor env (fun value t => post value t.stub) (body none sbuf) t ∧
        Ends P core descriptor env (fun value t => post value t.stub) (body sbuf none) t)
    (ready : ∀ (data reply : Nat) (t : Exchange κ), t.Draft s.stub data (some reply) [] →
      Ends P core descriptor env (fun value t => post value t.stub)
        (body (some data) (some reply)) t) :
    Ends P core descriptor env (fun value t => post value t.stub) (Ipc.withSbufs body) s := by
  have inner : let first := serve P core descriptor env .hdfSbufTypedObtain s
      let second := serve P core descriptor env .hdfSbufTypedObtain first.2
      Ends P core descriptor env (fun value t => post value t.stub) (body first.1 second.1)
        second.2 := by
    intro first second
    cases data : env.answers s.calls .hdfSbufTypedObtain with
    | none =>
      have is : first = (none,{s with calls := s.calls + 1}) := by
        change serve P core descriptor env .hdfSbufTypedObtain s = _
        simp [serve,data]
      have kept : second.2.stub = s.stub := by
        change (serve P core descriptor env .hdfSbufTypedObtain first.2).2.stub = _
        rw [is]
        unfold serve
        dsimp only
        split <;> rfl
      rw [is]
      exact (missing (fun calm => calm.obtains _ data) _ _ kept).1
    | some x =>
      have is : first = (some s.obtained,{s with
          calls := s.calls + 1
          obtained := s.obtained + 1
          sbuf := Function.update s.sbuf s.obtained []}) := by
        change serve P core descriptor env .hdfSbufTypedObtain s = _
        simp [serve,data]
      cases reply : env.answers (s.calls + 1) .hdfSbufTypedObtain with
      | none =>
        have then_is : second = (none,{first.2 with calls := s.calls + 2}) := by
          change serve P core descriptor env .hdfSbufTypedObtain first.2 = _
          rw [is]
          simp [serve,reply]
        rw [then_is]
        refine (missing (fun calm => calm.obtains _ reply) _ _ ?_).2
        rw [is]
      | some y =>
        have then_is : second = (some (s.obtained + 1),{first.2 with
            calls := s.calls + 2
            obtained := s.obtained + 2
            sbuf := Function.update first.2.sbuf (s.obtained + 1) []}) := by
          change serve P core descriptor env .hdfSbufTypedObtain first.2 = _
          rw [is]
          simp [serve,reply]
        rw [then_is,is]
        refine ready s.obtained (s.obtained + 1) _ ⟨rfl,?_,fun r same => ?_⟩
        · simp
        · obtain rfl : s.obtained + 1 = r := Option.some.inj same
          simp
  unfold Ends at inner ⊢
  unfold Ipc.withSbufs
  simp only [run_bind,pure_eq,run_done,recycleObtained_stub]
  exact inner

/-- The part of a request that says what is added or updated. -/
theorem ends_writeServiceInfo (draft : s.Draft stub data reply bytes) (svcName : String)
    (devClass : UInt16) (service : Ipc.HdfDeviceObject) (servInfo : Option String) :
    Ends P core descriptor env (fun ret t =>
      (ret ≠ hdfSuccess ∧ t.stub = stub ∧ (service.remote ≠ none → ¬ env.Calm descriptor)) ∨
        ret = hdfSuccess ∧ ∃ remote, service.remote = some remote ∧ t.Draft stub data reply
          (bytes ++ P.cString.put (cString svcName) ++ P.uint16.put devClass ++
            P.remoteObject.put remote.id ++ P.cString.put (cString (servInfo.getD ""))))
      (Ipc.writeServiceInfo data svcName devClass service servInfo) s := by
  have failed : hdfFailure ≠ hdfSuccess := by decide
  unfold Ipc.writeServiceInfo
  refine ends_string draft svcName _ (fun stormy t same => ends_done _ _ ?_) fun t draft => ?_
  · exact .inl ⟨failed,same,fun _ => stormy⟩
  refine ends_uint16 draft devClass _ (fun stormy t same => ends_done _ _ ?_) fun t draft => ?_
  · exact .inl ⟨failed,same,fun _ => stormy⟩
  cases broken : service.remote with
  | none => exact ends_done _ _ (.inl ⟨failed,draft.stub_eq,absurd rfl⟩)
  | some remote =>
    refine ends_remote draft remote _ (fun stormy ret refused t same => ?_) fun t draft => ?_
    · rw [if_pos refused]
      exact ends_done _ _ (.inl ⟨failed,same,fun _ => stormy⟩)
    · rw [if_neg (not_not.mpr rfl)]
      refine ends_string draft _ _ (fun stormy t same => ends_done _ _ ?_) fun t draft => ?_
      · exact .inl ⟨failed,same,fun _ => stormy⟩
      · exact ends_done _ _ (.inr ⟨rfl,remote,rfl,draft⟩)

end Writing

end Exchange

/-- The core service manager takes what can be registered. -/
structure IDevSvcManager.Accepting {κ : Type} (core : IDevSvcManager κ) : Prop where
  added : ∀ name devClass o info k, (core.addService name devClass o info k).1 = hdfSuccess
  updated : ∀ name devClass o info k, core.getObject name k ≠ none →
    (core.updateService name devClass o info k).1 = hdfSuccess

namespace DevSvcManagerStub
variable {κ : Type} (core : IDevSvcManager κ) (data : Parcel) (s : StubState κ)

/-- A request that offers a service and is let through is answered by the core service manager. -/
theorem addService_granted (accepting : core.Accepting) (token : data.interfaceToken = true)
    (ready : s.WellFormed core) (name : String) (index : UInt64)
    (offers : Parcel.Offers data name index) :
    (respond core .granting .addService data s).1 = hdfSuccess := by
  have admitted : data.readsService .granting = true := by
    simp [Parcel.readsService,token,offers.named,offers.classed,offers.carries,Outcomes.granting]
  obtain ⟨name',devClass,index',_,_,_,ran⟩ :=
    run_readService_admitted core .granting data s _ admitted
  have fresh := s.unowned_fresh core ready index'
  change ((addService data).run (serve core .granting) s).1 = _
  unfold addService
  rw [ran,run_obtain core .granting _ rfl _ _ fresh,run_perform,run_perform,run_releaseOther]
  exact accepting.added _ _ _ _ _

theorem updateService_granted (accepting : core.Accepting) (token : data.interfaceToken = true)
    (ready : s.WellFormed core) (name : String) (index : UInt64)
    (offers : Parcel.Offers data name index) (known : s.directory core name ≠ none) :
    (respond core .granting .updateService data s).1 = hdfSuccess := by
  have admitted : data.readsService .granting = true := by
    simp [Parcel.readsService,token,offers.named,offers.classed,offers.carries,Outcomes.granting]
  obtain ⟨name',devClass,index',named,_,_,ran⟩ :=
    run_readService_admitted core .granting data s _ admitted
  obtain rfl : name = name' := Option.some.inj (offers.named.symm.trans named)
  have fresh := s.unowned_fresh core ready index'
  have looked : serve core .granting (.getObject name) (s.readRemoteService (some index')).2 =
      (core.getObject name s.core,(s.readRemoteService (some index')).2) := rfl
  change ((updateService data).run (serve core .granting) s).1 = _
  unfold updateService
  rw [ran,run_perform,looked]
  cases found : core.getObject name s.core with
  | none => exact absurd (StubState.directory_missing name found) known
  | some old =>
    dsimp only
    rw [run_obtain core .granting _ rfl _ _ fresh,run_perform,run_releaseOther]
    refine accepting.updated _ _ _ _ _ ?_
    rw [(StubState.obtainServiceObject_kept _ _ _ _).1]
    simp [StubState.readRemoteService,found]

/-- A service that is registered can be removed. -/
theorem removeService_granted (token : data.interfaceToken = true)
    (serving : s.Serving core none) (name : String) (named : data.name = some name)
    (known : s.directory core name ≠ none) :
    (respond core .granting .removeService data s).1 = hdfSuccess := by
  obtain ⟨_,_,devClass,remote,info⟩ := data
  obtain rfl : _ = true := token
  obtain rfl : _ = some name := named
  have looked : serve core .granting (.getObject name) s = (core.getObject name s.core,s) := rfl
  have permitted : Outcomes.granting.permitted = true := rfl
  change ((removeService ⟨true,some name,devClass,remote,info⟩).run
    (serve core .granting) s).1 = _
  unfold removeService
  rw [if_neg (by simp)]
  dsimp only
  rw [run_permCheck,if_pos permitted,run_perform,looked]
  cases found : core.getObject name s.core with
  | none => exact absurd (StubState.directory_missing name found) known
  | some o =>
    obtain ⟨_,r,object⟩ := serving.found name o found
    have read : serve core .granting (.readPriv o) s = (some name,s) := by
      change ((s.object o).priv,s) = _
      rw [object]
    dsimp only
    rw [run_perform,read]
    dsimp only
    rw [if_neg (by simp),run_perform,run_bind,run_releaseServiceObject]
    rfl

end DevSvcManagerStub

/-- What a client may be told when it offers a service, and what becomes of the directory. -/
def Publishes (calm : Prop) (offer : Option (String × UInt64)) (demand : String → Prop) (ret : Int)
    (d d' : Directory) : Prop :=
  (d' = d ∧ ret ≠ hdfSuccess ∧
      (calm → ∀ name index, offer = some (name,index) → ¬ demand name)) ∨
    ∃ name index, offer = some (name,index) ∧ demand name ∧ d' = d.publish name index ∧
      (calm → ret = hdfSuccess)

/-- What the proxy sends when its arguments are in order. -/
def offered (deviceClassMax : UInt16) (inst : Option Ipc.Client) (svcName : Option String)
    (devClass : UInt16) (service : Option Ipc.HdfDeviceObject) : Option (String × UInt64) :=
  if (inst.bind Ipc.Client.remote).isSome ∧ devClass < deviceClassMax then
    svcName.bind fun name => (service.bind Ipc.HdfDeviceObject.remote).map fun remote =>
      (asText name,remote.id)
  else none

/-- A lookup finds what the directory has or, when something fails, nothing. -/
def Finds (calm : Prop) (asked : Option String) (found : Option UInt64) (d d' : Directory) : Prop :=
  d' = d ∧ (found = none ∨ ∃ name, asked = some name ∧ found = d name) ∧
    (calm → ∀ name, asked = some name → found = d name)

def Withdraws (calm : Prop) (asked : Option String) (d d' : Directory) : Prop :=
  (d' = d ∧ (calm → ∀ name, asked = some name → d name = none)) ∨
    ∃ name, asked = some name ∧ d' = d.withdraw name

namespace Exchange
variable {κ : Type} {P : MessageParcel} {core : IDevSvcManager κ} {descriptor : Ipc.CString}
variable {env : Surroundings}

/-- The stub is in order, and its directory has become another one. -/
structure Leaves (core : IDevSvcManager κ) (allowed : Directory → Prop) (t : StubState κ) :
    Prop where
  wellFormed : t.WellFormed core
  serving : t.Serving core none
  entries : allowed (t.directory core)

section Requests
variable (lawful : core.Lawful) (s : Exchange κ) (ready : s.stub.WellFormed core)
variable (serving : s.stub.Serving core none)

theorem readRequest_serviceInfo (code : RequestCode)
    (offers : code = .addService ∨ code = .updateService) (token : Ipc.CString)
    (name info : Ipc.CString) (devClass : UInt16) (remote : UInt64) :
    readRequest P descriptor code ([] ++ P.token.put token ++ P.cString.put name ++
      P.uint16.put devClass ++ P.remoteObject.put remote ++ P.cString.put info) =
        ⟨token.bytes ≠ [] ∧ token = descriptor,some (cText name),some devClass,some remote,
          some (cText info)⟩ := by
  have last := P.cString.get_put info []
  rw [List.append_nil] at last
  rcases offers with rfl | rfl <;>
  simp [readRequest,readServiceInfo,List.append_assoc,Format.get_put,last]

theorem readRequest_name (code : RequestCode)
    (asks : code = .getService ∨ code = .removeService) (token name : Ipc.CString) :
    readRequest P descriptor code ([] ++ P.token.put token ++ P.cString.put name) =
      ⟨token.bytes ≠ [] ∧ token = descriptor,some (cText name),none,none,none⟩ := by
  have last := P.cString.get_put name []
  rw [List.append_nil] at last
  rcases asks with rfl | rfl <;>
  simp [readRequest,readName,Format.get_put,last]

/-- What a handler that takes offers does, whatever it is asked. -/
structure Offering (core : IDevSvcManager κ) (code : RequestCode)
    (demand : Directory → String → Prop) : Prop where
  offers : code = .addService ∨ code = .updateService
  effect : ∀ out data (stub : StubState κ) name index, stub.WellFormed core →
    stub.Serving core none → Parcel.Offers data name index →
      DevSvcManagerStub.Effect core (Directory.publish name index) stub
        (DevSvcManagerStub.respond core out code data stub)
  demanded : ∀ out data (stub : StubState κ) name index, stub.WellFormed core →
    stub.Serving core none → Parcel.Offers data name index →
      (DevSvcManagerStub.respond core out code data stub).1 = hdfSuccess →
        demand (stub.directory core) name
  granted : core.Accepting → ∀ data (stub : StubState κ) name index, data.interfaceToken = true →
    stub.WellFormed core → Parcel.Offers data name index → demand (stub.directory core) name →
      (DevSvcManagerStub.respond core .granting code data stub).1 = hdfSuccess

theorem offering_addService (lawful : core.Lawful) :
    Offering core .addService (fun _ _ => True) where
  offers := .inl rfl
  effect out data stub name index ready serving offers :=
    DevSvcManagerStub.addService_effect core lawful out data stub ready serving name index offers
  demanded _ _ _ _ _ _ _ _ _ := trivial
  granted accepting data stub name index token ready offers _ :=
    DevSvcManagerStub.addService_granted core data stub accepting token ready name index offers

theorem offering_updateService (lawful : core.Lawful) :
    Offering core .updateService (fun d name => d name ≠ none) where
  offers := .inr rfl
  effect out data stub name index ready serving offers :=
    (DevSvcManagerStub.updateService_effect core lawful out data stub ready serving name index
      offers).1
  demanded out data stub name index ready serving offers :=
    (DevSvcManagerStub.updateService_effect core lawful out data stub ready serving name index
      offers).2
  granted accepting data stub name index token ready offers known :=
    DevSvcManagerStub.updateService_granted core data stub accepting token ready name index offers
      known

section Offer
variable (code : Ipc.RequestCode) (stubCode : RequestCode) (demand : Directory → String → Prop)
variable (offering : Offering core stubCode demand)
variable (is : RequestCode.ofIpc code = some stubCode)

include lawful ready serving offering is in
/-- The bytes of an offer, in the hands of the stub. -/
theorem handled_offer (out : Outcomes) (token : Ipc.CString) (name info : Ipc.CString)
    (devClass : UInt16) (remote : UInt64) :
    let handled := handle P core descriptor out code ([] ++ P.token.put token ++
      P.cString.put name ++ P.uint16.put devClass ++ P.remoteObject.put remote ++
        P.cString.put info) s.stub
    let d := s.stub.directory core
    Leaves core (fun d' => d' = if handled.1 = hdfSuccess then d.publish (cText name) remote else d)
        handled.2.2 ∧
      (handled.1 = hdfSuccess → demand d (cText name)) ∧
        (core.Accepting → out = .granting → token = descriptor → descriptor.bytes ≠ [] →
          demand d (cText name) → handled.1 = hdfSuccess) := by
  have read := @readRequest_serviceInfo P descriptor stubCode offering.offers token name info
    devClass remote
  unfold handle
  rw [is]
  dsimp only
  rw [read]
  have offers : Parcel.Offers ⟨token.bytes ≠ [] ∧ token = descriptor,some (cText name),
      some devClass,some remote,some (cText info)⟩ (cText name) remote := ⟨rfl,rfl,rfl⟩
  obtain ⟨served,became⟩ := offering.effect out _ s.stub _ _ ready serving offers
  refine ⟨⟨?_,served,became⟩,offering.demanded out _ s.stub _ _ ready serving offers,?_⟩
  · exact StubState.respond_wellFormed core lawful out stubCode _ s.stub ready
  · rintro accepting rfl rfl nonempty known
    exact offering.granted accepting _ s.stub _ _ (by simp [nonempty]) ready offers known

include lawful ready serving offering is in
/-- The end of a request that offers a service. -/
theorem ends_offer (deviceClassMax : UInt16) (inst : Option Ipc.Client) (svcName : String)
    (devClass : UInt16) (service : Ipc.HdfDeviceObject) (info : String)
    (remote carried : Ipc.HdfRemoteService) (data : Nat) (reply : Option Nat)
    (offer : offered deviceClassMax inst (some svcName) devClass (some service) =
      some (asText svcName,carried.id)) (t : Exchange κ)
    (draft : t.Draft s.stub data reply ([] ++ P.token.put (env.descriptor remote) ++
      P.cString.put (cString svcName) ++ P.uint16.put devClass ++
        P.remoteObject.put carried.id ++ P.cString.put (cString info))) :
    Ends P core descriptor env (fun ret t => Leaves core (Publishes
        (env.Calm descriptor ∧ core.Accepting)
        (offered deviceClassMax inst (some svcName) devClass (some service))
        (demand (s.stub.directory core)) ret (s.stub.directory core)) t.stub)
      (Ipc.perform (.dispatch remote code data reply)) t := by
  have handled (out : Outcomes) := @handled_offer κ P core descriptor lawful s ready serving code
    stubCode demand offering is out (env.descriptor remote) (cString svcName) (cString info)
    devClass carried.id
  -- whatever the client is told, the stub has published the service or has not
  have told (ret : Int) (d' : Directory) (out : Outcomes) (handled' : Int)
      (became : d' = if handled' = hdfSuccess then
        (s.stub.directory core).publish (asText svcName) carried.id else s.stub.directory core)
      (demanded : handled' = hdfSuccess → demand (s.stub.directory core) (asText svcName))
      (truthful : ret = hdfSuccess → handled' = hdfSuccess)
      (calmly : env.Calm descriptor ∧ core.Accepting →
        demand (s.stub.directory core) (asText svcName) → ret = hdfSuccess) :
      Publishes (env.Calm descriptor ∧ core.Accepting)
        (offered deviceClassMax inst (some svcName) devClass (some service))
        (demand (s.stub.directory core)) ret (s.stub.directory core) d' := by
    by_cases ok : handled' = hdfSuccess
    · rw [if_pos ok] at became
      exact .inr ⟨_,_,offer,demanded ok,became,fun calm => calmly calm (demanded ok)⟩
    · rw [if_neg ok] at became
      refine .inl ⟨became,fun done => ok (truthful done),fun calm name index same known => ?_⟩
      obtain ⟨rfl,rfl⟩ := Prod.mk.inj (Option.some.inj (offer.symm.trans same))
      exact ok (truthful (calmly calm known))
  refine ends_dispatch draft remote code pure (fun stormy status bad out t after => ?_)
    fun out t granting after _ => ?_
  · refine ends_done _ t ?_
    rcases after with same | same
    · rw [same]
      exact ⟨ready,serving,.inl ⟨rfl,bad,fun calm => absurd calm.1 stormy⟩⟩
    · obtain ⟨⟨wellFormed,served,became⟩,demanded,_⟩ := handled out
      rw [same]
      exact ⟨wellFormed,served,told status _ out _ became demanded (absurd · bad)
        fun calm => absurd calm.1 stormy⟩
  · obtain ⟨⟨wellFormed,served,became⟩,demanded,granted⟩ := handled out
    refine ends_done _ t ?_
    rw [after]
    refine ⟨wellFormed,served,told _ _ out _ became demanded id fun calm known => ?_⟩
    exact granted calm.2 (granting calm.1) (calm.1.named remote) calm.1.nonempty known

include lawful ready serving offering is in
/-- Adding and updating, with whatever arguments. -/
theorem sendServiceInfo_ends (deviceClassMax : UInt16) (inst : Option Ipc.Client)
    (svcName : Option String) (devClass : UInt16) (service : Option Ipc.HdfDeviceObject)
    (servInfo : Option String) :
    Ends P core descriptor env (fun ret t => Leaves core (Publishes
        (env.Calm descriptor ∧ core.Accepting)
        (offered deviceClassMax inst svcName devClass service) (demand (s.stub.directory core)) ret
        (s.stub.directory core)) t.stub)
      (Ipc.sendServiceInfo code deviceClassMax inst svcName devClass service servInfo) s := by
  have invalid : hdfErrInvalidParam ≠ hdfSuccess := by decide
  have failed : hdfFailure ≠ hdfSuccess := by decide
  -- nothing was sent
  have stays (ret : Int) (bad : ret ≠ hdfSuccess) (t : StubState κ) (same : t = s.stub)
      (excused : env.Calm descriptor →
        offered deviceClassMax inst svcName devClass service = none) :
      Leaves core (Publishes (env.Calm descriptor ∧ core.Accepting)
        (offered deviceClassMax inst svcName devClass service) (demand (s.stub.directory core)) ret
        (s.stub.directory core)) t := by
    subst same
    refine ⟨ready,serving,.inl ⟨rfl,bad,fun calm name index offer => ?_⟩⟩
    rw [excused calm.1] at offer
    contradiction
  unfold Ipc.sendServiceInfo
  cases service with
  | none => exact ends_done _ s (stays _ invalid _ rfl fun _ => by simp [offered])
  | some service =>
    cases svcName with
    | none => exact ends_done _ s (stays _ invalid _ rfl fun _ => by simp [offered])
    | some svcName =>
      dsimp only
      cases reached : inst.bind Ipc.Client.remote with
      | none => exact ends_done _ s (stays _ invalid _ rfl fun _ => by simp [offered,reached])
      | some remote =>
        dsimp only
        split_ifs with classed
        · refine ends_done _ s (stays _ invalid _ rfl fun _ => ?_)
          simp [offered,UInt16.not_lt.mpr classed]
        refine ends_withSbufs (fun ret t => Leaves core (Publishes
          (env.Calm descriptor ∧ core.Accepting) (offered deviceClassMax inst (some svcName)
            devClass (some service)) (demand (s.stub.directory core)) ret
              (s.stub.directory core)) t) _ s (fun stormy sbuf t same => ?_)
          fun data reply t draft => ?_
        · have gives_up := stays hdfFailure failed t.stub same fun calm => absurd calm stormy
          constructor
          · exact ends_done _ t gives_up
          · cases sbuf <;> exact ends_done _ t gives_up
        refine ends_token draft remote _ (fun stormy t same => ends_done _ t ?_) fun t draft => ?_
        · exact stays _ failed _ same fun calm => absurd calm stormy
        refine ends_then _ _ _ t (ends_writeServiceInfo draft svcName devClass service servInfo)
          fun ret t wrote => ?_
        rcases wrote with ⟨bad,same,broken⟩ | ⟨ok,carried,has,draft⟩
        · rw [if_pos bad]
          refine ends_done _ t (stays _ failed _ same fun calm => ?_)
          have missing : service.remote = none := by
            by_contra there
            exact broken there calm
          simp [offered,missing]
        · rw [if_neg (not_not.mpr ok)]
          refine ends_offer lawful s ready serving code stubCode demand offering is deviceClassMax
            inst svcName devClass service (servInfo.getD "") remote carried data (some reply) ?_ t
            draft
          simp [offered,reached,UInt16.not_le.mp classed,has]

end Offer

include lawful ready serving in
theorem handled_getService (out : Outcomes) (token name : Ipc.CString) :
    let handled := handle P core descriptor out .devSvcManagerGetService
      ([] ++ P.token.put token ++ P.cString.put name) s.stub
    let d := s.stub.directory core
    let found := (P.remoteObject.get handled.2.1).map Prod.fst
    Leaves core (fun d' => d' = d) handled.2.2 ∧ (found = none ∨ found = d (cText name)) ∧
      (out = .granting → token = descriptor → descriptor.bytes ≠ [] →
        handled.1 = hdfSuccess ∧ found = d (cText name)) := by
  have read := @readRequest_name P descriptor .getService (.inl rfl) token name
  unfold handle
  dsimp only [RequestCode.ofIpc]
  rw [read]
  generalize asked : (⟨token.bytes ≠ [] ∧ token = descriptor,some (cText name),none,none,none⟩ :
    Parcel) = data
  have named : data.name = some (cText name) := by rw [← asked]
  obtain ⟨⟨served,became⟩,remotes,told,either⟩ := DevSvcManagerStub.getService_effect core lawful out
    data s.stub serving (cText name) named
  have same : (DevSvcManagerStub.respond core out .getService data s.stub).2.directory core =
      s.stub.directory core := became.trans (ite_self _)
  rw [remotes]
  have first (entry : Option UInt64) :
      (P.remoteObject.get (P.remoteObject.puts entry.toList)).map Prod.fst = entry := by
    cases entry with
    | none =>
      rw [Option.toList_none,Format.puts_nil,P.remoteObject_nil]
      rfl
    | some index =>
      rw [Option.toList_some,Format.puts_cons,P.remoteObject.get_put]
      rfl
  refine ⟨⟨?_,served,same⟩,?_,?_⟩
  · exact StubState.respond_wellFormed core lawful out .getService data s.stub ready
  · rcases either with nothing | entry
    · rw [nothing,List.map_nil,Format.puts_nil,P.remoteObject_nil]
      exact .inl rfl
    · rw [entry,first]
      exact .inr rfl
  · rintro rfl rfl nonempty
    have accepted : data.rejection .granting = hdfSuccess := by
      simp [← asked,Parcel.rejection,nonempty,Outcomes.granting]
    have ok : (DevSvcManagerStub.respond core .granting .getService data s.stub).1 = hdfSuccess := by
      have ran := DevSvcManagerStub.run_getService core .granting data s.stub
      exact (congrArg Prod.fst ran).trans accepted
    refine ⟨ok,?_⟩
    rw [told ok rfl,first]

include lawful ready serving in
theorem ends_getService (remote : Ipc.HdfRemoteService) (name : String) (data reply : Nat)
    (t : Exchange κ) (draft : t.Draft s.stub data (some reply)
      ([] ++ P.token.put (env.descriptor remote) ++ P.cString.put (cString name))) :
    Ends P core descriptor env (fun found t => Leaves core (Finds (env.Calm descriptor)
        (some (asText name)) found (s.stub.directory core)) t.stub)
      (do
        let status ← Ipc.perform (.dispatch remote .devSvcManagerGetService data (some reply))
        if status = hdfSuccess then
          Ipc.perform (.hdfSbufReadRemoteService reply)
        else
          return none) t := by
  have handled (out : Outcomes) := @handled_getService κ P core descriptor lawful s ready serving out
    (env.descriptor remote) (cString name)
  refine ends_dispatch draft remote _ _ (fun stormy status bad out t after => ?_)
    fun out t granting after replied => ?_
  · rw [if_neg bad]
    refine ends_done _ t ?_
    rcases after with same | same
    · rw [same]
      exact ⟨ready,serving,rfl,.inl rfl,fun calm => absurd calm stormy⟩
    · obtain ⟨⟨wellFormed,served,became⟩,_⟩ := handled out
      rw [same]
      exact ⟨wellFormed,served,became,.inl rfl,fun calm => absurd calm stormy⟩
  · obtain ⟨⟨wellFormed,served,became⟩,either,granted⟩ := handled out
    rw [← after] at wellFormed served became
    have calmly (calm : env.Calm descriptor) :=
      granted (granting calm) (calm.named remote) calm.nonempty
    split_ifs with ok
    · change Leaves core _ t.stub
      have read : (serve P core descriptor env (.hdfSbufReadRemoteService reply) t).1 =
          (P.remoteObject.get (t.sbuf reply)).map Prod.fst := rfl
      rw [replied reply rfl] at read
      refine ⟨wellFormed,served,became,?_,fun calm asked same => ?_⟩
      · rcases either with none_there | entry
        · exact .inl (read.trans none_there)
        · exact .inr ⟨_,rfl,read.trans entry⟩
      · obtain rfl := Option.some.inj same
        exact read.trans (calmly calm).2
    · refine ends_done _ t ⟨wellFormed,served,became,.inl rfl,fun calm => ?_⟩
      exact absurd (calmly calm).1 ok

/-- The name that a proxy asks for when it has a remote to ask. -/
def proxied (inst : Option Ipc.Client) (svcName : Option String) : Option String :=
  (inst.bind Ipc.Client.remote).bind fun _ => svcName.map asText

/-- The same for a client, whose remote must have a dispatcher. -/
def hdiAsked (self : Option Ipc.Client) (serviceName : Option String) : Option String :=
  ((self.bind Ipc.Client.remote).filter (·.dispatches)).bind fun _ => serviceName.map asText

include ready serving in
theorem finds_nothing (asked : Option String) (t : Exchange κ) (same : t.stub = s.stub)
    (excused : env.Calm descriptor → asked = none) :
    Ends P core descriptor env (fun found t => Leaves core (Finds (env.Calm descriptor)
      asked found (s.stub.directory core)) t.stub) (pure none : Ipc.RequestM (Option UInt64)) t := by
  refine ends_done _ t ?_
  rw [same]
  refine ⟨ready,serving,rfl,.inl rfl,fun calm name asks => ?_⟩
  rw [excused calm] at asks
  contradiction

include lawful ready serving in
theorem devSvcManagerProxyGetService_ends (inst : Ipc.Client) (svcName : String) :
    Ends P core descriptor env (fun found t => Leaves core (Finds (env.Calm descriptor)
        (proxied (some inst) (some svcName)) found (s.stub.directory core)) t.stub)
      (Ipc.devSvcManagerProxyGetService inst svcName) s := by
  unfold Ipc.devSvcManagerProxyGetService
  have nothing (t : Exchange κ) (same : t.stub = s.stub)
      (excused : env.Calm descriptor → proxied (some inst) (some svcName) = none) :=
    @finds_nothing κ P core descriptor env s ready serving _ t same excused
  refine ends_withSbufs (fun found t => Leaves core (Finds (env.Calm descriptor)
    (proxied (some inst) (some svcName)) found (s.stub.directory core)) t) _ s
      (fun stormy sbuf t same => ?_) fun data reply t draft => ?_
  · have gives_up := nothing t same fun calm => absurd calm stormy
    constructor
    · cases inst.remote <;> exact gives_up
    · cases inst.remote <;> cases sbuf <;> exact gives_up
  cases reached : inst.remote with
  | none => exact nothing t draft.stub_eq fun _ => by simp [proxied,reached]
  | some remote =>
    have asks : proxied (some inst) (some svcName) = some (asText svcName) := by
      simp [proxied,reached]
    refine ends_token draft remote _ (fun stormy t same => ?_) fun t draft => ?_
    · exact nothing t same fun calm => absurd calm stormy
    refine ends_string draft svcName _ (fun stormy t same => ?_) fun t draft => ?_
    · exact nothing t same fun calm => absurd calm stormy
    rw [asks]
    exact ends_getService lawful s ready serving remote svcName data reply t draft

include lawful ready serving in
theorem hdiServMgrGetService_ends (iServMgr : Option Ipc.Client) (serviceName : Option String) :
    Ends P core descriptor env (fun found t => Leaves core (Finds (env.Calm descriptor)
        (hdiAsked iServMgr serviceName) found (s.stub.directory core)) t.stub)
      (Ipc.hdiServMgrGetService iServMgr serviceName) s := by
  unfold Ipc.hdiServMgrGetService
  have nothing (t : Exchange κ) (same : t.stub = s.stub)
      (excused : env.Calm descriptor → hdiAsked iServMgr serviceName = none) :=
    @finds_nothing κ P core descriptor env s ready serving _ t same excused
  cases iServMgr with
  | none => exact nothing s rfl fun _ => rfl
  | some servMgrClient =>
    cases serviceName with
    | none => exact nothing s rfl fun _ => by simp [hdiAsked]
    | some serviceName =>
      refine ends_withSbufs (fun found t => Leaves core (Finds (env.Calm descriptor)
        (hdiAsked (some servMgrClient) (some serviceName)) found (s.stub.directory core)) t) _ s
          (fun stormy sbuf t same => ?_) fun data reply t draft => ?_
      · have gives_up := nothing t same fun calm => absurd calm stormy
        exact ⟨gives_up,by cases sbuf <;> exact gives_up⟩
      unfold Ipc.serviceManagerHdiCall
      cases reached : servMgrClient.remote with
      | none => exact nothing _ draft.stub_eq fun _ => by simp [hdiAsked,reached]
      | some remote =>
        refine ends_token draft remote _ (fun stormy t same => ?_) fun t draft => ?_
        · exact nothing t same fun calm => absurd calm stormy
        refine ends_string draft serviceName _ (fun stormy t same => ?_) fun t draft => ?_
        · exact nothing t same fun calm => absurd calm stormy
        dsimp only
        cases dispatches : remote.dispatches with
        | false =>
          exact nothing t draft.stub_eq fun _ => by simp [hdiAsked,reached,dispatches]
        | true =>
          have asks : hdiAsked (some servMgrClient) (some serviceName) =
              some (asText serviceName) := by
            simp [hdiAsked,reached,Option.filter,dispatches]
          rw [asks]
          exact ends_getService lawful s ready serving remote serviceName data reply t draft

include lawful ready serving in
theorem handled_removeService (out : Outcomes) (token name : Ipc.CString) :
    let handled := handle P core descriptor out .devSvcManagerRemoveService
      ([] ++ P.token.put token ++ P.cString.put name) s.stub
    let d := s.stub.directory core
    Leaves core (fun d' => d' = if handled.1 = hdfSuccess then d.withdraw (cText name) else d)
        handled.2.2 ∧
      (out = .granting → token = descriptor → descriptor.bytes ≠ [] → d (cText name) ≠ none →
        handled.1 = hdfSuccess) := by
  have read := @readRequest_name P descriptor .removeService (.inr rfl) token name
  unfold handle
  dsimp only [RequestCode.ofIpc]
  rw [read]
  generalize asked : (⟨token.bytes ≠ [] ∧ token = descriptor,some (cText name),none,none,none⟩ :
    Parcel) = data
  have named : data.name = some (cText name) := by rw [← asked]
  obtain ⟨served,became⟩ := DevSvcManagerStub.removeService_effect core lawful out data s.stub
    serving (cText name) named
  refine ⟨⟨?_,served,became⟩,?_⟩
  · exact StubState.respond_wellFormed core lawful out .removeService data s.stub ready
  · rintro rfl rfl nonempty known
    have token : data.interfaceToken = true := by simp [← asked,nonempty]
    exact DevSvcManagerStub.removeService_granted core data s.stub token serving (cText name) named
      known

include lawful ready serving in
theorem devSvcManagerProxyRemoveService_ends (inst : Option Ipc.Client)
    (svcName : Option String) :
    Ends P core descriptor env (fun _ t => Leaves core (Withdraws (env.Calm descriptor)
        (proxied inst svcName) (s.stub.directory core)) t.stub)
      (Ipc.devSvcManagerProxyRemoveService inst svcName) s := by
  unfold Ipc.devSvcManagerProxyRemoveService
  have nothing (t : Exchange κ) (same : t.stub = s.stub)
      (excused : env.Calm descriptor → proxied inst svcName = none) :
      Ends P core descriptor env (fun _ t => Leaves core (Withdraws (env.Calm descriptor)
        (proxied inst svcName) (s.stub.directory core)) t.stub)
          (pure () : Ipc.RequestM Unit) t := by
    refine ends_done _ t ?_
    rw [same]
    refine ⟨ready,serving,.inl ⟨rfl,fun calm name asks => ?_⟩⟩
    rw [excused calm] at asks
    contradiction
  cases inst with
  | none => exact nothing s rfl fun _ => rfl
  | some inst =>
    cases svcName with
    | none => exact nothing s rfl fun _ => by simp [proxied]
    | some svcName =>
      refine ends_withSbufs (fun _ t => Leaves core (Withdraws (env.Calm descriptor)
        (proxied (some inst) (some svcName)) (s.stub.directory core)) t) _ s
          (fun stormy sbuf t same => ?_) fun data reply t draft => ?_
      · have gives_up := nothing t same fun calm => absurd calm stormy
        constructor
        · cases inst.remote <;> exact gives_up
        · cases inst.remote <;> cases sbuf <;> exact gives_up
      cases reached : inst.remote with
      | none => exact nothing t draft.stub_eq fun _ => by simp [proxied,reached]
      | some remote =>
        have asks : proxied (some inst) (some svcName) = some (asText svcName) := by
          simp [proxied,reached]
        refine ends_token draft remote _ (fun stormy t same => ?_) fun t draft => ?_
        · exact nothing t same fun calm => absurd calm stormy
        refine ends_string draft svcName _ (fun stormy t same => ?_) fun t draft => ?_
        · exact nothing t same fun calm => absurd calm stormy
        have handled (out : Outcomes) := @handled_removeService κ P core descriptor lawful s ready
          serving out (env.descriptor remote) (cString svcName)
        -- removed or not, whatever the proxy hears of it
        have told (out : Outcomes) (d' : Directory) (ret : Int)
            (became : d' = if ret = hdfSuccess then
              (s.stub.directory core).withdraw (asText svcName) else s.stub.directory core)
            (calmly : env.Calm descriptor →
              s.stub.directory core (asText svcName) ≠ none → ret = hdfSuccess) :
            Withdraws (env.Calm descriptor) (proxied (some inst) (some svcName))
              (s.stub.directory core) d' := by
          by_cases ok : ret = hdfSuccess
          · rw [if_pos ok] at became
            exact .inr ⟨_,asks,became⟩
          · rw [if_neg ok] at became
            refine .inl ⟨became,fun calm name same => ?_⟩
            obtain rfl := Option.some.inj (asks.symm.trans same)
            by_contra known
            exact ok (calmly calm known)
        refine ends_dispatch draft remote _ _ (fun stormy status bad out t after => ?_)
          fun out t granting after _ => ?_
        · refine ends_done _ t ?_
          rcases after with same | same
          · rw [same]
            exact ⟨ready,serving,.inl ⟨rfl,fun calm => absurd calm stormy⟩⟩
          · obtain ⟨⟨wellFormed,served,became⟩,_⟩ := handled out
            rw [same]
            exact ⟨wellFormed,served,told out _ _ became fun calm => absurd calm stormy⟩
        · obtain ⟨⟨wellFormed,served,became⟩,granted⟩ := handled out
          refine ends_done _ t ?_
          rw [after]
          refine ⟨wellFormed,served,told out _ _ became fun calm known => ?_⟩
          exact granted (granting calm) (calm.named remote) calm.nonempty known

include lawful ready serving in
/-- Listeners come and go beside the directory, whatever is in their bytes. -/
theorem handled_listener (code : Ipc.RequestCode)
    (listens : code = .devSvcManagerRegisterSvcListener ∨
      code = .devSvcManagerUnregisterSvcListener) (out : Outcomes) (bytes : List UInt8) :
    Leaves core (fun d' => d' = s.stub.directory core)
      (handle P core descriptor out code bytes s.stub).2.2 := by
  rcases listens with rfl | rfl
  · obtain ⟨served,became⟩ := DevSvcManagerStub.registerServListener_effect core lawful out
      (readRequest P descriptor .registerServListener bytes) s.stub ready serving
    exact ⟨StubState.respond_wellFormed core lawful out _ _ s.stub ready,served,
      became.trans (ite_self _)⟩
  · obtain ⟨served,became⟩ := DevSvcManagerStub.unregisterServListener_effect core lawful out
      (readRequest P descriptor .unregisterServListener bytes) s.stub ready serving
    exact ⟨StubState.respond_wellFormed core lawful out _ _ s.stub ready,served,
      became.trans (ite_self _)⟩

theorem ends_obtain {α : Type} (post : α → Exchange κ → Prop) (f : Option Nat → Ipc.RequestM α)
    (missing : ∀ t : Exchange κ, t.stub = s.stub → Ends P core descriptor env post (f none) t)
    (goes : ∀ (data : Nat) (t : Exchange κ), t.Draft s.stub data none [] →
      Ends P core descriptor env post (f (some data)) t) :
    Ends P core descriptor env post (Ipc.perform .hdfSbufTypedObtain >>= f) s := by
  change Ends P core descriptor env post
    (f (serve P core descriptor env .hdfSbufTypedObtain s).1)
      (serve P core descriptor env .hdfSbufTypedObtain s).2
  unfold serve
  dsimp only
  cases env.answers s.calls .hdfSbufTypedObtain with
  | none => exact missing _ rfl
  | some x => exact goes _ _ ⟨rfl,by simp,fun r none_there => nomatch none_there⟩

include lawful ready serving in
/-- The end of a request about a listener. -/
theorem ends_listener (self : Ipc.Client) (code : Ipc.RequestCode)
    (listens : code = .devSvcManagerRegisterSvcListener ∨
      code = .devSvcManagerUnregisterSvcListener) (data : Nat) (bytes : List UInt8)
    (t : Exchange κ) (draft : t.Draft s.stub data none bytes) :
    Ends P core descriptor env
      (fun _ t => Leaves core (fun d' => d' = s.stub.directory core) t.stub)
      (do
        let ret ← Ipc.serviceManagerHdiCall self code data none
        Ipc.perform (.hdfSbufRecycle data)
        return ret) t := by
  have ended (ret : Int) (t : Exchange κ)
      (here : Leaves core (fun d' => d' = s.stub.directory core) t.stub) :
      Ends P core descriptor env
        (fun _ t => Leaves core (fun d' => d' = s.stub.directory core) t.stub)
        (do
          Ipc.perform (.hdfSbufRecycle data)
          return ret : Ipc.RequestM Int) t := here
  have unheard : Leaves core (fun d' => d' = s.stub.directory core) s.stub := ⟨ready,serving,rfl⟩
  unfold Ipc.serviceManagerHdiCall
  cases self.remote with
  | none => exact ended _ t (draft.stub_eq ▸ unheard)
  | some remote =>
    dsimp only
    cases remote.dispatches with
    | false => exact ended _ t (draft.stub_eq ▸ unheard)
    | true =>
      have handled (out : Outcomes) := @handled_listener κ P core descriptor lawful s ready serving
        code listens out bytes
      refine ends_dispatch draft remote code _ (fun stormy status bad out t after => ?_)
        fun out t granting after _ => ended _ t (after ▸ handled out)
      rcases after with same | same
      · exact ended _ t (same ▸ unheard)
      · exact ended _ t (same ▸ handled out)

include lawful ready serving in
theorem ends_marshalled (self : Ipc.Client) (listener : Ipc.ServiceStatusListener)
    (code : Ipc.RequestCode) (listens : code = .devSvcManagerRegisterSvcListener ∨
      code = .devSvcManagerUnregisterSvcListener) (data : Nat) (bytes : List UInt8)
    (t : Exchange κ) (draft : t.Draft s.stub data none bytes) :
    Ends P core descriptor env
      (fun _ t => Leaves core (fun d' => d' = s.stub.directory core) t.stub)
      (do
        if (← Ipc.serviceStatusListenerMarshalling listener data) ≠ hdfSuccess then
          return hdfFailure
        else
          let ret ← Ipc.serviceManagerHdiCall self code data none
          Ipc.perform (.hdfSbufRecycle data)
          return ret) t := by
  have refused : hdfErrInvalidObject ≠ hdfSuccess := by decide
  have failed (t : Exchange κ) (same : t.stub = s.stub) : Ends P core descriptor env
      (fun _ t => Leaves core (fun d' => d' = s.stub.directory core) t.stub)
      (pure hdfFailure : Ipc.RequestM Int) t := by
    refine ends_done _ t ?_
    rw [same]
    exact ⟨ready,serving,rfl⟩
  unfold Ipc.serviceStatusListenerMarshalling
  cases listener.remote with
  | none =>
    rw [pure_eq,done_bind,if_pos refused]
    exact failed t draft.stub_eq
  | some remote =>
    refine ends_remote draft remote _ (fun stormy ret bad t same => ?_) fun t draft => ?_
    · rw [if_pos bad]
      exact failed t same
    · rw [if_neg (not_not.mpr rfl)]
      exact ends_listener lawful s ready serving self code listens data _ t draft

include lawful ready serving in
theorem hdiServMgrRegisterServiceStatusListener_ends (self : Option Ipc.Client)
    (listener : Option Ipc.ServiceStatusListener) (deviceClass : UInt16) :
    Ends P core descriptor env
      (fun _ t => Leaves core (fun d' => d' = s.stub.directory core) t.stub)
      (Ipc.hdiServMgrRegisterServiceStatusListener self listener deviceClass) s := by
  have idle (ret : Int) (t : Exchange κ) (same : t.stub = s.stub) : Ends P core descriptor env
      (fun _ t => Leaves core (fun d' => d' = s.stub.directory core) t.stub)
      (pure ret : Ipc.RequestM Int) t := by
    refine ends_done _ t ?_
    rw [same]
    exact ⟨ready,serving,rfl⟩
  unfold Ipc.hdiServMgrRegisterServiceStatusListener
  cases self with
  | none => exact idle _ s rfl
  | some servMgrClient =>
    cases listener with
    | none => exact idle _ s rfl
    | some listener =>
      refine ends_obtain s _ _ (fun t same => idle _ t same) fun data t draft => ?_
      cases reached : servMgrClient.remote with
      | none => exact idle _ _ draft.stub_eq
      | some remote =>
        refine ends_token draft remote _ (fun _ t same => idle _ t same) fun t draft => ?_
        refine ends_uint16 draft deviceClass _ (fun _ t same => idle _ t same) fun t draft => ?_
        exact ends_marshalled lawful s ready serving servMgrClient listener _ (.inl rfl) data _ t
          draft

include lawful ready serving in
theorem hdiServMgrUnregisterServiceStatusListener_ends (self : Option Ipc.Client)
    (listener : Option Ipc.ServiceStatusListener) :
    Ends P core descriptor env
      (fun _ t => Leaves core (fun d' => d' = s.stub.directory core) t.stub)
      (Ipc.hdiServMgrUnregisterServiceStatusListener self listener) s := by
  have idle (ret : Int) (t : Exchange κ) (same : t.stub = s.stub) : Ends P core descriptor env
      (fun _ t => Leaves core (fun d' => d' = s.stub.directory core) t.stub)
      (pure ret : Ipc.RequestM Int) t := by
    refine ends_done _ t ?_
    rw [same]
    exact ⟨ready,serving,rfl⟩
  unfold Ipc.hdiServMgrUnregisterServiceStatusListener
  cases self with
  | none => exact idle _ s rfl
  | some servMgrClient =>
    cases listener with
    | none => exact idle _ s rfl
    | some listener =>
      refine ends_obtain s _ _ (fun t same => idle _ t same) fun data t draft => ?_
      cases reached : servMgrClient.remote with
      | none => exact idle _ _ draft.stub_eq
      | some remote =>
        refine ends_token draft remote _ (fun _ t same => idle _ t same) fun t draft => ?_
        exact ends_marshalled lawful s ready serving servMgrClient listener _ (.inr rfl) data _ t
          draft

end Requests

end Exchange

/-- What clients and hosts ask of the service manager, and the death of a host's service. -/
inductive Errand
  | addService (inst : Option Ipc.Client) (svcName : Option String) (devClass : UInt16)
      (service : Option Ipc.HdfDeviceObject) (servInfo : Option String)
  | updateService (inst : Option Ipc.Client) (svcName : Option String) (devClass : UInt16)
      (service : Option Ipc.HdfDeviceObject) (servInfo : Option String)
  | getService (inst : Ipc.Client) (svcName : String)
  | removeService (inst : Option Ipc.Client) (svcName : Option String)
  | hdiGetService (iServMgr : Option Ipc.Client) (serviceName : Option String)
  | hdiRegisterListener (self : Option Ipc.Client) (listener : Option Ipc.ServiceStatusListener)
      (deviceClass : UInt16)
  | hdiUnregisterListener (self : Option Ipc.Client)
      (listener : Option Ipc.ServiceStatusListener)
  | died (index : UInt64) (order : List RemoteId)

inductive Answer
  | status (ret : Int)
  | service (found : Option UInt64)
  | nothing

namespace StubState
variable {κ : Type}

/-- A registry that begins empty begins in order. -/
theorem starting_sound (core : IDevSvcManager κ) (k : κ)
    (empty : ∀ name, core.getObject name k = none) :
    (starting k).WellFormed core ∧ (starting k).Serving core none := by
  have missing (name : String) (o : ObjectId) :
      core.getObject name (starting k).core ≠ some o := by
    change core.getObject name k ≠ some o
    simp [empty]
  refine ⟨⟨fun name o found => absurd found (missing name o),?_,?_,?_,?_,?_,?_⟩,
    fun name o found => absurd found (missing name o),?_,?_⟩ <;> simp [starting]

end StubState

namespace Errand
variable {κ : Type}

def run (P : MessageParcel) (core : IDevSvcManager κ) (descriptor : Ipc.CString)
    (deviceClassMax : UInt16) (env : Surroundings) (errand : Errand) (s : Exchange κ) :
    Answer × Exchange κ :=
  let serve := Exchange.serve P core descriptor env
  match errand with
  | .addService inst svcName devClass service servInfo =>
    (Program.run serve (Ipc.devSvcManagerProxyAddService deviceClassMax inst svcName devClass
      service servInfo) s).map .status id
  | .updateService inst svcName devClass service servInfo =>
    (Program.run serve (Ipc.devSvcManagerProxyUpdateService deviceClassMax inst svcName devClass
      service servInfo) s).map .status id
  | .getService inst svcName =>
    (Program.run serve (Ipc.devSvcManagerProxyGetService inst svcName) s).map .service id
  | .removeService inst svcName =>
    (Program.run serve (Ipc.devSvcManagerProxyRemoveService inst svcName) s).map
      (fun _ => .nothing) id
  | .hdiGetService iServMgr serviceName =>
    (Program.run serve (Ipc.hdiServMgrGetService iServMgr serviceName) s).map .service id
  | .hdiRegisterListener self listener deviceClass =>
    (Program.run serve (Ipc.hdiServMgrRegisterServiceStatusListener self listener deviceClass)
      s).map .status id
  | .hdiUnregisterListener self listener =>
    (Program.run serve (Ipc.hdiServMgrUnregisterServiceStatusListener self listener) s).map
      .status id
  | .died index order =>
    (.nothing,{s with
      stub := DevSvcManagerStub.serviceDied core (env.out s.calls) index order s.stub})

/-- The directory of names as those who use it may see it change. -/
def Allows (deviceClassMax : UInt16) (calm accepting : Prop) :
    Errand → Answer → Directory → Directory → Prop
  | .addService inst svcName devClass service _, .status ret, d, d' =>
    Publishes (calm ∧ accepting) (offered deviceClassMax inst svcName devClass service)
      (fun _ => True) ret d d'
  | .updateService inst svcName devClass service _, .status ret, d, d' =>
    Publishes (calm ∧ accepting) (offered deviceClassMax inst svcName devClass service)
      (fun name => d name ≠ none) ret d d'
  | .getService inst svcName, .service found, d, d' =>
    Finds calm (Exchange.proxied (some inst) (some svcName)) found d d'
  | .removeService inst svcName, .nothing, d, d' =>
    Withdraws calm (Exchange.proxied inst svcName) d d'
  | .hdiGetService iServMgr serviceName, .service found, d, d' =>
    Finds calm (Exchange.hdiAsked iServMgr serviceName) found d d'
  | .hdiRegisterListener _ _ _, .status _, d, d' => d' = d
  | .hdiUnregisterListener _ _, .status _, d, d' => d' = d
  | .died index _, .nothing, d, d' => d' = d.bury index
  | _, _, _, _ => False

section Served
variable (P : MessageParcel) (core : IDevSvcManager κ) (lawful : core.Lawful)
variable (descriptor : Ipc.CString) (deviceClassMax : UInt16) (env : Surroundings)

include lawful in
theorem run_allowed (errand : Errand) (s : Exchange κ)
    (sound : s.stub.WellFormed core ∧ s.stub.Serving core none) :
    let done := errand.run P core descriptor deviceClassMax env s
    (done.2.stub.WellFormed core ∧ done.2.stub.Serving core none) ∧
      errand.Allows deviceClassMax (env.Calm descriptor) core.Accepting done.1
        (s.stub.directory core) (done.2.stub.directory core) := by
  obtain ⟨ready,serving⟩ := sound
  have split (allowed : Directory → Prop) (t : StubState κ) (left : Exchange.Leaves core allowed t) :
      (t.WellFormed core ∧ t.Serving core none) ∧ allowed (t.directory core) :=
    ⟨⟨left.wellFormed,left.serving⟩,left.entries⟩
  cases errand with
  | addService inst svcName devClass service servInfo =>
    exact split _ _ (Exchange.sendServiceInfo_ends lawful s ready serving _ .addService _
      (Exchange.offering_addService lawful) rfl deviceClassMax inst svcName devClass service servInfo)
  | updateService inst svcName devClass service servInfo =>
    exact split _ _ (Exchange.sendServiceInfo_ends lawful s ready serving _ .updateService _
      (Exchange.offering_updateService lawful) rfl deviceClassMax inst svcName devClass service
        servInfo)
  | getService inst svcName =>
    exact split _ _ (Exchange.devSvcManagerProxyGetService_ends lawful s ready serving inst svcName)
  | removeService inst svcName =>
    exact split _ _
      (Exchange.devSvcManagerProxyRemoveService_ends lawful s ready serving inst svcName)
  | hdiGetService iServMgr serviceName =>
    exact split _ _
      (Exchange.hdiServMgrGetService_ends lawful s ready serving iServMgr serviceName)
  | hdiRegisterListener self listener deviceClass =>
    exact split _ _ (Exchange.hdiServMgrRegisterServiceStatusListener_ends lawful s ready serving
      self listener deviceClass)
  | hdiUnregisterListener self listener =>
    exact split _ _ (Exchange.hdiServMgrUnregisterServiceStatusListener_ends lawful s ready serving
      self listener)
  | died index order =>
    obtain ⟨wellFormed,served,became⟩ := DevSvcManagerStub.serviceDied_directory core lawful
      (env.out s.calls) index s.stub ready serving order
    exact ⟨⟨wellFormed,served⟩,became⟩

include lawful in
/-- Every history of errands is one of the directory, which begins empty. -/
theorem history_allowed (k : κ) (empty : ∀ name, core.getObject name k = none)
    (errands : List Errand) :
    let done := Machine.run (run P core descriptor deviceClassMax env) errands
      (Exchange.starting k)
    Machine.History (Allows deviceClassMax (env.Calm descriptor) core.Accepting) errands done.1
      (fun _ => none) (done.2.stub.directory core) := by
  intro done
  obtain ⟨ready,serving⟩ := StubState.starting_sound core k empty
  have nothing : (StubState.starting k).directory core = fun _ => none := by
    funext name
    exact StubState.directory_missing name (empty name)
  obtain ⟨_,history⟩ := Machine.run_history (run P core descriptor deviceClassMax env)
    (fun s => s.stub.directory core) (Allows deviceClassMax (env.Calm descriptor) core.Accepting)
    (fun s => s.stub.WellFormed core ∧ s.stub.Serving core none)
    (run_allowed P core lawful descriptor deviceClassMax env) errands (Exchange.starting k)
    ⟨ready,serving⟩
  rw [← nothing]
  exact history

end Served

theorem history_allowed_sample :
    let devSvcManager : Ipc.Client := ⟨some ⟨3,true⟩⟩
    let errands : List Errand := [.addService (some devSvcManager) (some "sample") 1
      (some ⟨some ⟨77,true⟩⟩) none,.hdiGetService (some devSvcManager) (some "sample"),
        .died 77 [],.getService devSvcManager "sample"]
    let env : Surroundings := ⟨fun _ => granted,fun _ => cString "HDI.IServiceManager.V1_0",
      fun _ => .answered,fun _ => .granting⟩
    let done := Machine.run (run hipcParcel Registry.manager (cString "HDI.IServiceManager.V1_0") 5
      env) errands (Exchange.starting Registry.empty)
    Machine.History (Allows 5 (env.Calm (cString "HDI.IServiceManager.V1_0"))
      Registry.manager.Accepting) errands done.1 (fun _ => none)
        (done.2.stub.directory Registry.manager) :=
  history_allowed hipcParcel Registry.manager Registry.manager_lawful _ 5 _ Registry.empty
    (fun _ => rfl) _

end Errand

end DriversAdapter.Svc
