import DriversAdapter.Base.Word
import DriversAdapter.Shared.DevAttribute

/-! The remote call that adds a device: what the manager's proxy of a host sends, which
attribute the host builds from it, and when a success means that the device was added as it
is on the manager's side. -/
namespace DriversAdapter.Host
open DriversAdapter.Base DriversAdapter.Semantics DriversAdapter.Ipc DriversAdapter.Shared

/-- Which writes of a serialization succeed. -/
structure Writes where
  deviceId : Bool
  policy : Bool
  svcName : Bool
  moduleName : Bool
  length : Bool
  deviceMatchAttr : Bool

/-- What becomes of a request: the status that the stub returns comes back, or an error does,
whether or not the request got to the stub. -/
inductive Transport
  | answered
  | unanswered (error : Int) (failed : error ≠ hdfSuccess)
  | unreached (error : Int) (failed : error ≠ hdfSuccess)

/-- The outcomes that one call meets on its way. -/
structure Outcomes where
  dataObtained : Bool
  writes : Writes
  transport : Transport
  dataWrapped : Bool
  allocations : Allocations

inductive AttributeAction
  | built
  | added (attr : HdfDeviceInfo) (status : Int)
  | released
  deriving DecidableEq

/-- What the host does with an attribute object, which is known by the call that builds it. -/
structure AttributeEvent where
  object : Nat
  action : AttributeAction
  deriving DecidableEq

/-- Whether the proxy has its remote service, and the stub's service its `AddDevice`. -/
structure HostLink where
  remote : Bool
  addDevice : Bool

def attempt (granted : Bool) (bytes : List UInt8) : Writer := fun sbuf =>
  if granted then (true,sbuf ++ bytes) else (false,sbuf)

section Call
variable (P : Parcel)

def attemptString (granted : Bool) : Option CString → Writer
  | none => fun sbuf => (false,sbuf)
  | some text => attempt granted (P.cString.put text)

def serializePrivateData (w : Writes) : Option CString → Writer
  | some text => (attempt w.length (P.uint32.put attributePrivateDataLengthNormal)).both
      (attemptString P w.deviceMatchAttr (some text))
  | none => attempt w.length (P.uint32.put attributePrivateDataLengthNull)

/-- `DeviceAttributeSerialize` with a given outcome for each of its writes. -/
def attributeSerialize (w : Writes) (attr : HdfDeviceInfo) : Writer :=
  (attempt w.deviceId (P.uint32.put attr.deviceId)).andThen <|
    (attempt w.policy (P.uint16.put attr.policy)).andThen <|
      (attemptString P w.svcName attr.svcName).andThen <|
        (attemptString P w.moduleName attr.moduleName).andThen <|
          serializePrivateData P w attr.deviceMatchAttr

def readIds (sbuf : List UInt8) : Option (UInt32 × UInt16 × List UInt8) := do
  let (deviceId,sbuf) ← P.uint32.get sbuf
  let (policy,sbuf) ← P.uint16.get sbuf
  some (deviceId,policy,sbuf)

def readMatchAttr (out : Allocations) (attr : HdfDeviceInfo) (sbuf : List UInt8) :
    Option HdfDeviceInfo := do
  let (length,sbuf) ← P.uint32.get sbuf
  if length = attributePrivateDataLengthNormal then
    let (text,_) ← P.cString.get sbuf
    some {attr with deviceMatchAttr := strdup out.deviceMatchAttr text}
  else some attr

/-- The body of the `do` loop, where a `break` is `none`. -/
def readTexts (out : Allocations) (attr : HdfDeviceInfo) (sbuf : List UInt8) :
    Option HdfDeviceInfo := do
  let (svcName,sbuf) ← P.cString.get sbuf
  let svcName ← strdup out.svcName svcName
  let (moduleName,sbuf) ← P.cString.get sbuf
  let moduleName ← strdup out.moduleName moduleName
  readMatchAttr P out {attr with svcName := some svcName,moduleName := some moduleName} sbuf

/-- `DeviceAttributeDeserialize` with what it does to the object it builds. -/
def attributeDeserialize (out : Allocations) (object : Nat) (sbuf : List UInt8) :
    Option HdfDeviceInfo × List AttributeEvent :=
  match out.newInstance with
  | none => (none,[])
  | some attr =>
    match readIds P sbuf with
    | none => (none,[⟨object,.built⟩,⟨object,.released⟩])
    | some (deviceId,policy,sbuf) =>
      match readTexts P out {attr with deviceId := deviceId,policy := policy} sbuf with
      | none => (none,[⟨object,.built⟩,⟨object,.released⟩])
      | some info => (some info,[⟨object,.built⟩])

variable (answer : HdfDeviceInfo → Int)

def dispatchAddDevice (hasAddDevice : Bool) (out : Allocations) (object : Nat)
    (data : List UInt8) : Int × List AttributeEvent :=
  if hasAddDevice = false then (hdfFailure,[])
  else
    match attributeDeserialize P out object data with
    | (none,events) => (hdfFailure,events)
    | (some attr,events) =>
      (answer attr,events ++ [⟨object,.added attr (answer attr)⟩,⟨object,.released⟩])

/-- The stub's dispatch of a request to add a device, behind the remote adapter. -/
def devHostServiceStubDispatch (hasAddDevice : Bool) (out : Outcomes) (object : Nat)
    (data : List UInt8) : Int × List AttributeEvent :=
  if out.dataWrapped = false then (hdfFailure,[])
  else dispatchAddDevice P answer hasAddDevice out.allocations object data

def Transport.dispatch (transport : Transport) (stub : Int × List AttributeEvent) :
    Int × List AttributeEvent :=
  match transport with
  | .answered => stub
  | .unanswered error _ => (error,stub.2)
  | .unreached error _ => (error,[])

/-- What the serialization answers is not looked at. -/
def devHostServiceProxyAddDevice (link : HostLink) (out : Outcomes) (object : Nat)
    (attr : HdfDeviceInfo) : Int × List AttributeEvent :=
  if link.remote = false ∨ out.dataObtained = false then (hdfFailure,[])
  else
    let data := (attributeSerialize P out.writes attr []).2
    out.transport.dispatch
      (devHostServiceStubDispatch P answer link.addDevice out object data)

/-! ### What the host reads -/

/-- Nothing can be read from an empty parcel, and a text fills whole words, the last of which
is the only one that can hold its NUL. -/
structure WordAligned : Prop where
  uint16_empty : P.uint16.get [] = none
  text_word : ∀ text, ∃ first later, P.uint32.get (P.cString.put text) = some (first,later) ∧
    (first = attributePrivateDataLengthNormal → later = [])

theorem uint32_get_nil : P.uint32.get [] = none := by
  cases got : P.uint32.get [] with
  | none => rfl
  | some found =>
    obtain ⟨v,rest⟩ := found
    have empty := P.uint32_canonical [] v rest got
    obtain ⟨nothing,rfl⟩ := List.append_eq_nil_iff.mp empty.symm
    -- then the encoding of `v` is empty and every other value reads as `v`
    have other := P.uint32.get_put (v + 1) []
    have same := P.uint32.get_put v (P.uint32.put (v + 1))
    rw [List.append_nil] at other
    rw [nothing,List.nil_append,other,Option.some.injEq,Prod.mk.injEq] at same
    exact absurd same.1 (by grind)

/-- What a write leaves in an empty buffer. -/
def sent (granted : Bool) (bytes : List UInt8) : List UInt8 := if granted then bytes else []

@[simp] theorem attempt_eq (granted : Bool) (bytes sbuf : List UInt8) :
    attempt granted bytes sbuf = (granted,sbuf ++ sent granted bytes) := by
  cases granted <;> simp [attempt,sent]

/-- What the writes after the four fields leave in an empty buffer. -/
def sentMatchAttr (w : Writes) : Option CString → List UInt8
  | some text => sent w.length (P.uint32.put attributePrivateDataLengthNormal) ++
      sent w.deviceMatchAttr (P.cString.put text)
  | none => sent w.length (P.uint32.put attributePrivateDataLengthNull)

theorem serializePrivateData_snd (w : Writes) (deviceMatchAttr : Option CString)
    (sbuf : List UInt8) : (serializePrivateData P w deviceMatchAttr sbuf).2 =
      sbuf ++ sentMatchAttr P w deviceMatchAttr := by
  cases deviceMatchAttr <;>
    simp [serializePrivateData,sentMatchAttr,attemptString,Writer.both]

def FieldsWritten (w : Writes) (attr : HdfDeviceInfo) : Prop :=
  (w.deviceId = true ∧ w.policy = true ∧ w.svcName = true ∧ w.moduleName = true) ∧
    attr.svcName.isSome ∧ attr.moduleName.isSome

/-- The object is made, and the two names are copied to it. -/
def FieldsCopied (out : Allocations) : Prop :=
  out.newInstance.isSome ∧ out.svcName = true ∧ out.moduleName = true

instance (w : Writes) (attr : HdfDeviceInfo) : Decidable (FieldsWritten w attr) :=
  inferInstanceAs (Decidable (_ ∧ _))

instance (out : Allocations) : Decidable (FieldsCopied out) :=
  inferInstanceAs (Decidable (_ ∧ _))

theorem serialize_written (w : Writes) (deviceId : UInt32) (policy : UInt16)
    (svcName moduleName : CString) (deviceMatchAttr : Option CString)
    (written : FieldsWritten w ⟨deviceId,policy,some svcName,some moduleName,deviceMatchAttr⟩) :
    (attributeSerialize P w ⟨deviceId,policy,some svcName,some moduleName,deviceMatchAttr⟩ []).2 =
      P.uint32.put deviceId ++ (P.uint16.put policy ++ (P.cString.put svcName ++
        (P.cString.put moduleName ++ sentMatchAttr P w deviceMatchAttr))) := by
  obtain ⟨⟨h1,h2,h3,h4⟩,_⟩ := written
  simp [attributeSerialize,Writer.andThen,attemptString,h1,h2,h3,h4,sent,
    serializePrivateData_snd]

theorem get_put_alone {α : Type} (f : Format UInt8 α) (v : α) : f.get (f.put v) = some (v,[]) := by
  simpa using f.get_put v []

/-- A serialization that stops in front of its last part can not be read to the end. -/
theorem serialize_unwritten (aligned : WordAligned P) (w : Writes) (out : Allocations)
    (fresh : UInt32 → UInt16 → HdfDeviceInfo) (attr : HdfDeviceInfo)
    (unwritten : ¬ FieldsWritten w attr) :
    ((readIds P (attributeSerialize P w attr []).2).bind fun got =>
      readTexts P out (fresh got.1 got.2.1) got.2.2) = none := by
  obtain ⟨deviceId,policy,svcName,moduleName,deviceMatchAttr⟩ := attr
  have nothing := uint32_get_nil P
  have shorter := aligned.uint16_empty
  have silent := P.cString_get_nil
  have id_alone := get_put_alone P.uint32 deviceId
  have policy_alone := get_put_alone P.uint16 policy
  have text_alone := get_put_alone P.cString
  unfold attributeSerialize
  cases h1 : w.deviceId with
  | false => simp [Writer.andThen,sent,readIds,nothing]
  | true =>
    cases h2 : w.policy with
    | false => simp [Writer.andThen,sent,readIds,id_alone,shorter]
    | true =>
      have ids (rest : List UInt8) : readIds P (P.uint32.put deviceId ++ (P.uint16.put policy ++
          rest)) = some (deviceId,policy,rest) := by
        simp [readIds,P.uint32.get_put,P.uint16.get_put]
      have ids_alone := ids []
      rw [List.append_nil] at ids_alone
      cases svcName with
      | none => simp [Writer.andThen,sent,attemptString,ids_alone,readTexts,silent]
      | some svcName =>
        cases h3 : w.svcName with
        | false => simp [Writer.andThen,sent,attemptString,ids_alone,readTexts,silent]
        | true =>
          cases moduleName with
          | none => simp [Writer.andThen,sent,attemptString,ids,readTexts,text_alone,silent]
          | some moduleName =>
            cases h4 : w.moduleName with
            | false => simp [Writer.andThen,sent,attemptString,ids,readTexts,text_alone,silent]
            | true => exact absurd ⟨⟨h1,h2,h3,h4⟩,rfl,rfl⟩ unwritten

/-- An object that is not handed on has been released. -/
theorem deserialize_cases (out : Allocations) (object : Nat) (sbuf : List UInt8) :
    attributeDeserialize P out object sbuf = (none,[]) ∨
      attributeDeserialize P out object sbuf = (none,[⟨object,.built⟩,⟨object,.released⟩]) ∨
      ∃ info, attributeDeserialize P out object sbuf = (some info,[⟨object,.built⟩]) := by
  unfold attributeDeserialize
  split
  next => exact .inl rfl
  next =>
    split
    next => exact .inr (.inl rfl)
    next =>
      split
      next => exact .inr (.inl rfl)
      next info _ => exact .inr (.inr ⟨info,rfl⟩)

theorem deserialize_fst (out : Allocations) (object : Nat) (sbuf : List UInt8) :
    (attributeDeserialize P out object sbuf).1 = out.newInstance.bind fun fresh =>
      (readIds P sbuf).bind fun got =>
        readTexts P out {fresh with deviceId := got.1,policy := got.2.1} got.2.2 := by
  unfold attributeDeserialize
  cases out.newInstance with
  | none => rfl
  | some fresh =>
    cases readIds P sbuf with
    | none => rfl
    | some got =>
      obtain ⟨deviceId,policy,later⟩ := got
      cases texts : readTexts P out {fresh with deviceId := deviceId,policy := policy} later <;>
        simp [texts]

/-- The attribute is the one that the parcel reads as. -/
theorem deserialize_agrees (out : Allocations) (object : Nat) (sbuf : List UInt8) :
    (attributeDeserialize P out object sbuf).1 =
      (deviceAttributeDeserialize P out sbuf).map Prod.fst := by
  rw [deserialize_fst]
  unfold deviceAttributeDeserialize readIds readTexts
  cases out.newInstance with
  | none => rfl
  | some fresh =>
    rcases P.uint32.get sbuf with _ | ⟨deviceId,afterId⟩
    · rfl
    simp only [Option.bind_eq_bind,Option.bind_some]
    rcases P.uint16.get afterId with _ | ⟨policy,afterPolicy⟩
    · rfl
    simp only [Option.bind_some]
    rcases P.cString.get afterPolicy with _ | ⟨svcText,afterSvc⟩
    · rfl
    simp only [Option.bind_some]
    rcases strdup out.svcName svcText with _ | svcName
    · rfl
    simp only [Option.bind_some]
    rcases P.cString.get afterSvc with _ | ⟨moduleText,afterModule⟩
    · rfl
    simp only [Option.bind_some]
    rcases strdup out.moduleName moduleText with _ | moduleName
    · rfl
    simp only [Option.bind_some,readMatchAttr,Option.bind_eq_bind]
    rcases P.uint32.get afterModule with _ | ⟨length,afterLength⟩
    · rfl
    simp only [Option.bind_some]
    by_cases flagged : length = attributePrivateDataLengthNormal
    · rw [if_pos flagged,if_pos flagged]
      rcases P.cString.get afterLength with _ | ⟨text,rest⟩ <;> rfl
    · rw [if_neg flagged,if_neg flagged]
      rfl

theorem andThen_congr (first first' next next' : Writer) (sbuf : List UInt8)
    (begun : first sbuf = first' sbuf) (ended : next (first sbuf).2 = next' (first sbuf).2) :
    first.andThen next sbuf = first'.andThen next' sbuf := by
  unfold Writer.andThen
  rw [← begun,ended]

/-- The writes to a parcel have such outcomes. -/
theorem serialize_agrees (attr : HdfDeviceInfo) (sbuf : List UInt8) :
    ∃ w, deviceAttributeSerialize P attr sbuf = attributeSerialize P w attr sbuf := by
  have string (text : Option CString) (sbuf : List UInt8) :
      ∃ granted, P.writeString text sbuf = attemptString P granted text sbuf := by
    cases text with
    | none => exact ⟨true,rfl⟩
    | some text => exact ⟨P.accepts sbuf (P.cString.put text),rfl⟩
  have private_data (text : Option CString) (sbuf : List UInt8) : ∃ length deviceMatchAttr,
      ∀ a b c d, serializeMatchAttr P text sbuf =
        serializePrivateData P ⟨a,b,c,d,length,deviceMatchAttr⟩ text sbuf := by
    cases text with
    | none => exact ⟨P.accepts sbuf _,true,fun _ _ _ _ => rfl⟩
    | some text =>
      exact ⟨P.accepts sbuf _,P.accepts (P.write _ sbuf).2 _,fun _ _ _ _ => rfl⟩
  let first := P.writeUint32 attr.deviceId sbuf
  let second := P.writeUint16 attr.policy first.2
  obtain ⟨g3,third⟩ := string attr.svcName second.2
  obtain ⟨g4,fourth⟩ := string attr.moduleName (P.writeString attr.svcName second.2).2
  obtain ⟨g5,g6,last⟩ := private_data attr.deviceMatchAttr
    (P.writeString attr.moduleName (P.writeString attr.svcName second.2).2).2
  refine ⟨⟨P.accepts sbuf (P.uint32.put attr.deviceId),
    P.accepts first.2 (P.uint16.put attr.policy),g3,g4,g5,g6⟩,?_⟩
  apply andThen_congr _ _ _ _ _ rfl
  apply andThen_congr _ _ _ _ _ rfl
  apply andThen_congr _ _ _ _ _ third
  exact andThen_congr _ _ _ _ _ fourth (last _ _ _ _)

/-- The host builds an attribute exactly when the four fields arrive and what follows them
reads as a match attribute. -/
theorem deserialize_sent (aligned : WordAligned P) (w : Writes) (out : Allocations)
    (object : Nat) (attr info : HdfDeviceInfo) :
    (attributeDeserialize P out object (attributeSerialize P w attr []).2).1 = some info ↔
      FieldsWritten w attr ∧ FieldsCopied out ∧
        readMatchAttr P out {attr with deviceMatchAttr := none}
          (sentMatchAttr P w attr.deviceMatchAttr) = some info := by
  rw [deserialize_fst]
  by_cases written : FieldsWritten w attr
  · obtain ⟨deviceId,policy,svcName,moduleName,deviceMatchAttr⟩ := attr
    obtain ⟨svcName,rfl⟩ := Option.isSome_iff_exists.mp written.2.1
    obtain ⟨moduleName,rfl⟩ := Option.isSome_iff_exists.mp written.2.2
    have unset := out.unset
    rw [serialize_written P w _ _ _ _ _ written]
    cases made : out.newInstance with
    | none => simp [FieldsCopied,made]
    | some fresh =>
      have bare : fresh.deviceMatchAttr = none := out.unset fresh made
      have same : (⟨deviceId,policy,some svcName,some moduleName,fresh.deviceMatchAttr⟩ :
          HdfDeviceInfo) = ⟨deviceId,policy,some svcName,some moduleName,none⟩ := by rw [bare]
      simp [readIds,readTexts,P.uint32.get_put,P.uint16.get_put,P.cString.get_put,written,
        FieldsCopied,made,same,Option.bind_eq_some_iff,strdup_eq_some,and_assoc]
  · have unread (fresh : HdfDeviceInfo) := serialize_unwritten P aligned w out
      (fun deviceId policy => {fresh with deviceId := deviceId,policy := policy}) attr written
    simp [unread,written]

/-- The first word of the text is the flag of a match attribute. -/
def ReadsAsFlag (text : CString) : Prop :=
  (P.uint32.get (P.cString.put text)).map Prod.fst = some attributePrivateDataLengthNormal

/-- A match attribute whose text is written is written behind its flag and copied on the host,
or takes the place of its flag and is the flag. -/
def MatchAttrKept (w : Writes) (out : Allocations) (attr : HdfDeviceInfo) : Prop :=
  ∀ text, attr.deviceMatchAttr = some text → w.deviceMatchAttr = true →
    (w.length = true ∧ out.deviceMatchAttr = true) ∨ (w.length = false ∧ ReadsAsFlag P text)

theorem matchAttr_kept_iff (aligned : WordAligned P) (w : Writes) (out : Allocations)
    (attr : HdfDeviceInfo) :
    (∀ info, readMatchAttr P out {attr with deviceMatchAttr := none}
        (sentMatchAttr P w attr.deviceMatchAttr) = some info → info = attr) ↔
      MatchAttrKept P w out attr := by
  obtain ⟨deviceId,policy,svcName,moduleName,deviceMatchAttr⟩ := attr
  have nothing := uint32_get_nil P
  have silent := P.cString_get_nil
  have flag := get_put_alone P.uint32
  have differ : attributePrivateDataLengthNull ≠ attributePrivateDataLengthNormal := by decide
  unfold MatchAttrKept
  cases deviceMatchAttr with
  | none =>
    cases h5 : w.length
    · simp [sentMatchAttr,sent,readMatchAttr,h5,nothing]
    · simp [sentMatchAttr,sent,readMatchAttr,h5,flag,differ]
  | some text =>
    cases h5 : w.length <;> cases h6 : w.deviceMatchAttr
    · simp [sentMatchAttr,sent,readMatchAttr,nothing,h5,h6]
    · obtain ⟨first,later,word,ends⟩ := aligned.text_word text
      by_cases flagged : first = attributePrivateDataLengthNormal
      · obtain rfl := ends flagged
        simp [sentMatchAttr,sent,readMatchAttr,ReadsAsFlag,h5,h6,word,flagged,silent]
      · simp [sentMatchAttr,sent,readMatchAttr,ReadsAsFlag,h5,h6,word,flagged]
    · simp [sentMatchAttr,sent,readMatchAttr,h5,h6,flag,silent]
    · cases copied : out.deviceMatchAttr <;>
        simp [sentMatchAttr,sent,readMatchAttr,h5,h6,P.uint32.get_put,get_put_alone,strdup,copied]

/-! ### The whole call -/

/-- A success means that the host's `AddDevice` ran on the manager's attribute and succeeded. -/
def AddedAsSent (attr : HdfDeviceInfo) (call : Int × List AttributeEvent) : Prop :=
  call.1 = hdfSuccess → ∃ object, ⟨object,.added attr hdfSuccess⟩ ∈ call.2

/-- Both ends are there, the request gets to the stub, and its status comes back. -/
def Answered (link : HostLink) (out : Outcomes) : Prop :=
  link.remote = true ∧ link.addDevice = true ∧ out.dataObtained = true ∧
    out.dataWrapped = true ∧ out.transport = .answered

theorem dispatchAddDevice_success (answer : HdfDeviceInfo → Int) (out : Allocations)
    (object : Nat) (data : List UInt8) :
    (dispatchAddDevice P answer true out object data).1 = hdfSuccess ↔
      ∃ info, (attributeDeserialize P out object data).1 = some info ∧ answer info = hdfSuccess := by
  unfold dispatchAddDevice
  rw [if_neg (by simp)]
  rcases attributeDeserialize P out object data with ⟨_ | info,events⟩
  · simp [hdfFailure,hdfSuccess]
  · simp

theorem dispatchAddDevice_added (answer : HdfDeviceInfo → Int) (out : Allocations)
    (object : Nat) (data : List UInt8) (info : HdfDeviceInfo)
    (built : (attributeDeserialize P out object data).1 = some info) (attr : HdfDeviceInfo)
    (status : Int) :
    (∃ o, ⟨o,.added attr status⟩ ∈ (dispatchAddDevice P answer true out object data).2) ↔
      attr = info ∧ status = answer info := by
  unfold dispatchAddDevice
  rw [if_neg (by simp)]
  rcases deserialize_cases P out object data with same | same | ⟨found,same⟩
  · simp [same] at built
  · simp [same] at built
  · rw [same] at built ⊢
    obtain rfl : found = info := by simpa using built
    simp

theorem unanswered_fails (answer : HdfDeviceInfo → Int) (link : HostLink) (out : Outcomes)
    (object : Nat) (attr : HdfDeviceInfo) (unanswered : ¬ Answered link out) :
    (devHostServiceProxyAddDevice P answer link out object attr).1 ≠ hdfSuccess := by
  have failing : hdfFailure ≠ hdfSuccess := by decide
  unfold devHostServiceProxyAddDevice
  split_ifs with absent
  · exact failing
  · cases carried : out.transport with
    | unanswered error failed => exact failed
    | unreached error failed => exact failed
    | answered =>
      change (devHostServiceStubDispatch P answer link.addDevice out object _).1 ≠ hdfSuccess
      unfold devHostServiceStubDispatch dispatchAddDevice
      split_ifs with unwrapped missing
      · exact failing
      · exact failing
      · exact absurd ⟨by grind,by grind,by grind,by grind,carried⟩ unanswered

theorem answered_dispatches (answer : HdfDeviceInfo → Int) (link : HostLink) (out : Outcomes)
    (object : Nat) (attr : HdfDeviceInfo) (answered : Answered link out) :
    devHostServiceProxyAddDevice P answer link out object attr =
      dispatchAddDevice P answer true out.allocations object
        (attributeSerialize P out.writes attr []).2 := by
  obtain ⟨remote,addDevice,obtained,wrapped,carried⟩ := answered
  simp [devHostServiceProxyAddDevice,devHostServiceStubDispatch,Transport.dispatch,remote,
    addDevice,obtained,wrapped,carried]

/-- Whatever the host's `AddDevice` answers, a success is one for the attribute sent exactly
when, once everything else arrives, the match attribute does. -/
theorem addedAsSent_iff (aligned : WordAligned P) (link : HostLink) (out : Outcomes)
    (object : Nat) (attr : HdfDeviceInfo) :
    (∀ answer, AddedAsSent attr (devHostServiceProxyAddDevice P answer link out object attr)) ↔
      (Answered link out → FieldsWritten out.writes attr → FieldsCopied out.allocations →
        MatchAttrKept P out.writes out.allocations attr) := by
  by_cases answered : Answered link out
  · have built := deserialize_sent P aligned out.writes out.allocations object attr
    rw [forall_congr' fun _ => by rw [answered_dispatches P _ link out object attr answered]]
    constructor
    · intro always _ written copied
      rw [← matchAttr_kept_iff P aligned]
      intro info reads
      have found := (built info).mpr ⟨written,copied,reads⟩
      obtain ⟨o,added⟩ := always (fun _ => hdfSuccess)
        ((dispatchAddDevice_success P _ _ _ _).mpr ⟨info,found,rfl⟩)
      have same := (dispatchAddDevice_added P _ _ _ _ info found attr _).mp ⟨o,added⟩
      exact same.1.symm
    · intro kept answer succeeded
      obtain ⟨info,found,status⟩ := (dispatchAddDevice_success P _ _ _ _).mp succeeded
      obtain ⟨written,copied,reads⟩ := (built info).mp found
      have same := (matchAttr_kept_iff P aligned _ _ attr).mpr
        (kept answered written copied) info reads
      exact (dispatchAddDevice_added P _ _ _ _ info found attr _).mpr
        ⟨same.symm,status.symm⟩
  · have fails (answer : HdfDeviceInfo → Int) :=
      unanswered_fails P answer link out object attr answered
    exact ⟨fun _ reached => absurd reached answered,fun _ answer succeeded =>
      absurd succeeded (fails answer)⟩

/-! ### The objects of a host over many calls -/

structure AddDeviceCall where
  link : HostLink
  out : Outcomes
  attr : HdfDeviceInfo
  answer : HdfDeviceInfo → Int

/-- What the host does over a list of calls, of which the first has this number. -/
def hostRun (first : Nat) : List AddDeviceCall → List AttributeEvent
  | [] => []
  | call::calls =>
    (devHostServiceProxyAddDevice P call.answer call.link call.out first call.attr).2 ++
      hostRun (first + 1) calls

/-- What happens to one object: it is never built, or it is built, perhaps added, and then
released. -/
def Lifetime (actions : List AttributeAction) : Prop :=
  actions = [] ∨ actions = [.built,.released] ∨
    ∃ attr status, actions = [.built,.added attr status,.released]

def actionsOf (object : Nat) (events : List AttributeEvent) : List AttributeAction :=
  (events.filter (·.object = object)).map (·.action)

theorem call_lifetime (answer : HdfDeviceInfo → Int) (link : HostLink) (out : Outcomes)
    (object : Nat) (attr : HdfDeviceInfo) :
    ∃ actions, Lifetime actions ∧
      (devHostServiceProxyAddDevice P answer link out object attr).2 =
        actions.map (AttributeEvent.mk object) := by
  have never : ∃ actions, Lifetime actions ∧
      ([] : List AttributeEvent) = actions.map (AttributeEvent.mk object) := ⟨[],.inl rfl,rfl⟩
  have dispatched (data : List UInt8) : ∃ actions, Lifetime actions ∧
      (devHostServiceStubDispatch P answer link.addDevice out object data).2 =
        actions.map (AttributeEvent.mk object) := by
    unfold devHostServiceStubDispatch dispatchAddDevice
    split_ifs
    · exact never
    · exact never
    · rcases deserialize_cases P out.allocations object data with same | same | ⟨info,same⟩
      · rw [same]
        exact never
      · rw [same]
        exact ⟨_,.inr (.inl rfl),rfl⟩
      · rw [same]
        exact ⟨_,.inr (.inr ⟨info,answer info,rfl⟩),rfl⟩
  unfold devHostServiceProxyAddDevice
  split_ifs
  · exact never
  · cases out.transport with
    | answered => exact dispatched _
    | unanswered error failed => exact dispatched _
    | unreached error failed => exact never

theorem actionsOf_mk (object o : Nat) (actions : List AttributeAction) :
    actionsOf o (actions.map (AttributeEvent.mk object)) = if object = o then actions else [] := by
  unfold actionsOf
  induction actions with
  | nil => simp
  | cons action actions ih => by_cases same : object = o <;> simp_all

theorem actionsOf_append (o : Nat) (a b : List AttributeEvent) :
    actionsOf o (a ++ b) = actionsOf o a ++ actionsOf o b := by
  simp [actionsOf]

theorem hostRun_before (calls : List AddDeviceCall) (first o : Nat) (before : o < first) :
    actionsOf o (hostRun P first calls) = [] := by
  induction calls generalizing first with
  | nil => rfl
  | cons call calls ih =>
    obtain ⟨actions,_,same⟩ := call_lifetime P call.answer call.link call.out first call.attr
    rw [hostRun,actionsOf_append,same,actionsOf_mk,if_neg (by omega),
      ih (first + 1) (by omega)]
    rfl

/-- Over any calls, each object that the host builds is released exactly once. -/
theorem hostRun_lifetime (calls : List AddDeviceCall) (first o : Nat) :
    Lifetime (actionsOf o (hostRun P first calls)) := by
  induction calls generalizing first with
  | nil => exact .inl rfl
  | cons call calls ih =>
    obtain ⟨actions,lifetime,same⟩ :=
      call_lifetime P call.answer call.link call.out first call.attr
    rw [hostRun,actionsOf_append,same,actionsOf_mk]
    by_cases here : first = o
    · rw [if_pos here,hostRun_before P calls _ o (by omega),List.append_nil]
      exact lifetime
    · rw [if_neg here,List.nil_append]
      exact ih (first + 1)

/-- Each attribute object is released once, and a success stands for the attribute that was
sent, exactly when its match attribute arrives with everything else. -/
theorem addDevice_faithful_iff (aligned : WordAligned P) :
    (∀ calls first object, Lifetime (actionsOf object (hostRun P first calls))) ∧
    ∀ link out object attr,
      (∀ answer, AddedAsSent attr (devHostServiceProxyAddDevice P answer link out object attr)) ↔
        (Answered link out → FieldsWritten out.writes attr → FieldsCopied out.allocations →
          MatchAttrKept P out.writes out.allocations attr) :=
  ⟨fun calls first object => hostRun_lifetime P calls first object,
    fun link out object attr => addedAsSent_iff P aligned link out object attr⟩

end Call

/-- A text of at most three characters is one word, and a longer one has no zero byte in its
first word. -/
theorem messageParcel_aligned : WordAligned messageParcel where
  uint16_empty := rfl
  text_word := by
    intro text
    match text with
    | ⟨[],_⟩ => exact ⟨_,_,rfl,fun _ => rfl⟩
    | ⟨[_],_⟩ => exact ⟨_,_,rfl,fun _ => rfl⟩
    | ⟨[_,_],_⟩ => exact ⟨_,_,rfl,fun _ => rfl⟩
    | ⟨[_,_,_],_⟩ => exact ⟨_,_,rfl,fun _ => rfl⟩
    | ⟨a::b::c::d::more,no_nul⟩ =>
      refine ⟨_,_,rfl,fun flagged => absurd ?_ no_nul⟩
      have ha := a.toNat_lt
      have hb := b.toNat_lt
      have hc := c.toNat_lt
      have hd := d.toNat_lt
      have value := congrArg UInt32.toNat flagged
      rw [UInt32.toNat_ofNat',Nat.mod_eq_of_lt (by omega)] at value
      change _ = 1 at value
      have zero : b = 0 := by
        apply UInt8.toNat_inj.mp
        change b.toNat = 0
        omega
      simp [zero]

def allWritten : Writes := ⟨true,true,true,true,true,true⟩

def uncopied : Outcomes :=
  ⟨true,allWritten,.answered,true,{allGranted with deviceMatchAttr := false}⟩

def unflagged : Outcomes :=
  ⟨true,{allWritten with length := false},.answered,true,allGranted⟩

def matched : HdfDeviceInfo := ⟨7,1,some textA,some textB,some textA⟩

theorem addDevice_faithful_calls :
    AddedAsSent matched (devHostServiceProxyAddDevice messageParcel (fun _ => hdfSuccess)
        ⟨true,true⟩ ⟨true,allWritten,.answered,true,allGranted⟩ 0 matched) ∧
      ¬ ∀ answer, AddedAsSent matched
        (devHostServiceProxyAddDevice messageParcel answer ⟨true,true⟩ unflagged 0 matched) := by
  obtain ⟨_,faithful⟩ := addDevice_faithful_iff messageParcel messageParcel_aligned
  constructor
  · apply (faithful _ _ _ _).mpr
    intro _ _ _ text _ _
    exact .inl ⟨rfl,rfl⟩
  · rw [faithful]
    intro kept
    have arrives := kept ⟨rfl,rfl,rfl,rfl,rfl⟩ ⟨⟨rfl,rfl,rfl,rfl⟩,rfl,rfl⟩ ⟨rfl,rfl,rfl⟩
    rcases arrives textA rfl rfl with ⟨flagged,_⟩ | ⟨_,flag⟩
    · cases flagged
    · exact absurd flag (by unfold ReadsAsFlag; decide)

/-- Two calls that succeed and add a device without its match attribute. -/
theorem match_attribute_lost :
    devHostServiceProxyAddDevice messageParcel (fun _ => hdfSuccess) ⟨true,true⟩ uncopied 0
        matched =
      (hdfSuccess,[⟨0,.built⟩,⟨0,.added {matched with deviceMatchAttr := none} hdfSuccess⟩,
        ⟨0,.released⟩]) ∧
    devHostServiceProxyAddDevice messageParcel (fun _ => hdfSuccess) ⟨true,true⟩ unflagged 0
        matched =
      (hdfSuccess,[⟨0,.built⟩,⟨0,.added {matched with deviceMatchAttr := none} hdfSuccess⟩,
        ⟨0,.released⟩]) ∧
    ¬ AddedAsSent matched (hdfSuccess,[⟨0,.built⟩,
      ⟨0,.added {matched with deviceMatchAttr := none} hdfSuccess⟩,⟨0,.released⟩]) := by
  refine ⟨by decide +kernel,by decide +kernel,fun sound => ?_⟩
  obtain ⟨object,member⟩ := sound rfl
  simp [matched] at member

end DriversAdapter.Host
