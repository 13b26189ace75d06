import DriversAdapter.Devmgr.QueryDevice
import DriversAdapter.Semantics.Machine
import DriversAdapter.Svc.Clients

/-! The calls between hosts, clients and the device manager: what each proxy writes, what the stub
on the other side reads from it, and the call that is made there. -/
namespace DriversAdapter.Devmgr
open DriversAdapter.Base DriversAdapter.Semantics DriversAdapter.Ipc DriversAdapter.Svc

/-- Parcels in which the integers are the same four bytes, of which a shorter one is the lower
half. -/
structure DevmgrParcel extends MessageParcel where
  uint32_int32 : ∀ v rest, uint32.get (int32.put v ++ rest) = some (v.toUInt32,rest)
  uint32_nil : uint32.get [] = none
  uint16_int32 : ∀ v rest, uint16.get (int32.put v ++ rest) = some (v.toUInt32.toUInt16,rest)
  uint16_nil : uint16.get [] = none

def devmgrParcel : DevmgrParcel :=
  {hipcParcel with
    uint32_int32 := fun v rest => messageParcel.uint32.get_put v.toUInt32 rest
    uint32_nil := rfl
    uint16_int32 := fun v rest => by
      change (readWord (word v.toUInt32.toNat ++ rest)).map (fun got => (UInt16.ofNat got.1,got.2)) = _
      rw [readWord_word _ v.toUInt32.toNat_lt]
      rfl
    uint16_nil := rfl}

inductive DevmgrCode
  | attachDeviceHost
  | attachDevice
  | detachDevice
  | loadDevice
  | unloadDevice
  | queryDevice
  | listAllDevice
  | delDevice
  deriving DecidableEq

/-- The functions of `IDevmgrService` and `IDevHostService`, and `DevFillQueryDeviceInfo`. A host is
known by its remote; it is the null pointer when no proxy could be made for it. -/
inductive DevmgrServiceCall
  | attachDeviceHost (hostId : UInt32) (service : Option (Option UInt64))
  | attachDevice (devid : UInt32)
  | detachDevice (devid : UInt32)
  | loadDevice (serviceName : CString)
  | unloadDevice (serviceName : CString)
  | queryDevice (status : UInt16)
  | listAllDevice
  | delDevice (devid : UInt32)

structure Message where
  code : DevmgrCode
  data : List UInt8

/-- What a call meets with: the buffers, the allocations of the stub, the way, and those of the
client for what it reads of a reply. -/
structure Passage where
  data : Bool
  reply : Bool
  calloc : Bool
  delivery : Transport
  obtains : Bool

section Proxies
variable (P : DevmgrParcel) (K : Constants) (out : Passage)

/-- `none` is a remote that has no descriptor. -/
def writeInterfaceToken : Option CString → Writer
  | none => fun sbuf => (false,sbuf)
  | some descriptor => P.write (P.token.put descriptor)

def writeRemoteService : Option UInt64 → Writer
  | none => fun sbuf => (false,sbuf)
  | some remote => P.write (P.remoteObject.put remote)

/-- The message of a proxy that gives up when a write fails. -/
def send (code : DevmgrCode) (writer : Writer) : Except Int Message :=
  if (writer []).1 then .ok ⟨code,(writer []).2⟩ else .error hdfFailure

/-- `none` is a proxy without a remote. -/
def devmgrServiceProxyAttachDeviceHost (remote : Option (Option CString)) (hostId : UInt16)
    (service : Option UInt64) : Except Int Message :=
  match remote with
  | none => .error hdfFailure
  | some descriptor =>
    if out.data = false ∨ out.reply = false then .error hdfFailure
    else send .attachDeviceHost ((writeInterfaceToken P descriptor).andThen
      ((P.writeInt32 hostId.toUInt32.toInt32).andThen (writeRemoteService P service)))

/-- `AttachDevice` and `DetachDevice` of the proxy: the number is passed as a signed integer. -/
def sendDevid (code : DevmgrCode) (remote : Option (Option CString)) (devid : UInt32) :
    Except Int Message :=
  match remote with
  | none => .error hdfFailure
  | some descriptor =>
    if out.data = false ∨ out.reply = false then .error hdfFailure
    else send code ((writeInterfaceToken P descriptor).andThen (P.writeInt32 devid.toInt32))

def devmgrServiceProxyAttachDevice (remote : Option (Option CString)) (token : Option UInt32) :
    Except Int Message :=
  match token with
  | none => .error hdfFailure
  | some devid => sendDevid P out .attachDevice remote devid

def devmgrServiceProxyDetachDevice : Option (Option CString) → UInt32 → Except Int Message :=
  sendDevid P out .detachDevice

/-- `LoadDevice` and `UnLoadDevice`: a buffer that is not there is found out by the first write. -/
def sendSvcName (code : DevmgrCode) (remote : Option (Option CString)) (svcName : Option CString) :
    Except Int Message :=
  match remote, svcName with
  | some descriptor, some svcName =>
    if out.data = false then .error hdfFailure
    else send code ((writeInterfaceToken P descriptor).andThen (P.writeString (some svcName)))
  | _, _ => .error hdfErrInvalidParam

def devmgrServiceProxyLoadDevice : Option (Option CString) → Option CString → Except Int Message :=
  sendSvcName P out .loadDevice

def devmgrServiceProxyUnLoadDevice :
    Option (Option CString) → Option CString → Except Int Message :=
  sendSvcName P out .unloadDevice

/-- A client of the device manager; its remote may lack a dispatcher. -/
structure HDIDeviceManager where
  remote : Option (Option CString)
  dispatches : Bool

/-- `DevmgrLoadDevice` and `DevmgrUnloadDevice`. -/
def hdiSvcName (code : DevmgrCode) (iDevMgr : Option HDIDeviceManager)
    (serviceName : Option CString) : Except Int Message :=
  match iDevMgr, serviceName with
  | some iDevMgr, some serviceName =>
    if out.data = false then .error hdfErrMallocFail
    else do
      let message ← send code ((writeInterfaceToken P (iDevMgr.remote.getD none)).andThen
        (P.writeString (some serviceName)))
      if iDevMgr.dispatches then .ok message else .error hdfErrInvalidObject
  | _, _ => .error hdfErrInvalidParam

def devmgrLoadDevice : Option HDIDeviceManager → Option CString → Except Int Message :=
  hdiSvcName P out .loadDevice

def devmgrUnloadDevice : Option HDIDeviceManager → Option CString → Except Int Message :=
  hdiSvcName P out .unloadDevice

/-- `DevmgrQueryDeviceInfo`: nobody looks whether the type was written. -/
def devmgrQueryDeviceInfo (iDevMgr : HDIDeviceManager) (type : Int32) : Except Int Message :=
  if out.reply = false ∨ out.data = false then .error hdfErrMallocFail
  else do
    let message ← send .queryDevice ((writeInterfaceToken P (iDevMgr.remote.getD none)).andThen
      fun sbuf => (true,(P.writeInt32 type sbuf).2))
    if iDevMgr.dispatches then .ok message else .error hdfErrInvalidObject

/-- `DevmgrQueryUsableDeviceInfo` and `DevmgrQueryUnusableDeviceInfo`; `list` tells whether there is
one to fill. -/
def queryInfo (type : UInt16) (self : Option HDIDeviceManager) (list : Bool) : Except Int Message :=
  match self with
  | none => .error hdfErrInvalidParam
  | some self =>
    if list then devmgrQueryDeviceInfo P out self type.toUInt32.toInt32
    else .error hdfErrInvalidParam

def devmgrQueryUsableDeviceInfo : Option HDIDeviceManager → Bool → Except Int Message :=
  queryInfo P out K.hdfServiceUsable

def devmgrQueryUnusableDeviceInfo : Option HDIDeviceManager → Bool → Except Int Message :=
  queryInfo P out K.hdfServiceUnusable

/-- The proxy in C++: the parcels are its own, and of the name it writes what `data` shows. -/
def deviceManagerProxyName (code : DevmgrCode) (descriptor : CString) (serviceName : List UInt8) :
    Except Int Message :=
  send code ((writeInterfaceToken P (some descriptor)).andThen
    (P.writeString (some (.upToNul serviceName))))

def deviceManagerProxyListAllDevice (descriptor : CString) : Except Int Message :=
  send .listAllDevice (writeInterfaceToken P (some descriptor))

/-- The manager's proxy of a host: nobody looks whether the number was written. -/
def devHostServiceProxyDelDevice (remote : Bool) (devid : UInt32) : Except Int Message :=
  if remote = false ∨ out.data = false then .error hdfFailure
  else .ok ⟨.delDevice,(P.writeUint32 devid []).2⟩

end Proxies

section Stubs
variable (P : DevmgrParcel) (descriptor : CString) (out : Passage)

/-- The token of a request, and what is left of it. -/
def checkInterfaceToken (data : List UInt8) : Option (List UInt8) :=
  (P.token.get data).bind fun got =>
    if got.1.bytes ≠ [] ∧ got.1 = descriptor then some got.2 else none

/-- The call that `DevmgrServiceStubDispatch` makes. -/
def devmgrServiceStubCall (message : Message) : Except Int DevmgrServiceCall :=
  match checkInterfaceToken P descriptor message.data with
  | none => .error hdfErrInvalidParam
  | some data => match message.code with
    | .attachDeviceHost => match P.uint32.get data with
      | none => .error hdfFailure
      | some (hostId,data) =>
        let service := (P.remoteObject.get data).map Prod.fst
        .ok (.attachDeviceHost hostId (if out.calloc then some service else none))
    | .attachDevice => match P.uint32.get data with
      | none => .error hdfErrInvalidParam
      | some (deviceId,_) => if out.calloc then .ok (.attachDevice deviceId) else .error hdfFailure
    | .detachDevice => match P.uint32.get data with
      | none => .error hdfErrInvalidParam
      | some (deviceId,_) => .ok (.detachDevice deviceId)
    | .loadDevice => match P.cString.get data with
      | none => .error hdfErrInvalidParam
      | some (serviceName,_) => .ok (.loadDevice serviceName)
    | .unloadDevice => match P.cString.get data with
      | none => .error hdfErrInvalidParam
      | some (serviceName,_) => .ok (.unloadDevice serviceName)
    | .queryDevice => .ok (.queryDevice (P.readUint16 data).2.1)
    | .listAllDevice => .ok .listAllDevice
    | .delDevice => .error hdfFailure

/-- `DispatchDelDevice` of the host's stub, which looks at no token. -/
def dispatchDelDevice (data : List UInt8) : Except Int DevmgrServiceCall :=
  match P.uint32.get data with
  | none => .error hdfFailure
  | some (deviceId,_) => .ok (.delDevice deviceId)

def stubCall (message : Message) : Except Int DevmgrServiceCall :=
  match message.code with
  | .delDevice => dispatchDelDevice P message.data
  | _ => devmgrServiceStubCall P descriptor out message

end Stubs

inductive DevmgrServiceRequest
  | proxyAttachDeviceHost (remote : Option (Option CString)) (hostId : UInt16)
      (service : Option UInt64)
  | proxyAttachDevice (remote : Option (Option CString)) (token : Option UInt32)
  | proxyDetachDevice (remote : Option (Option CString)) (devid : UInt32)
  | proxyLoadDevice (remote : Option (Option CString)) (svcName : Option CString)
  | proxyUnLoadDevice (remote : Option (Option CString)) (svcName : Option CString)
  | hdiLoadDevice (iDevMgr : Option HDIDeviceManager) (serviceName : Option CString)
  | hdiUnloadDevice (iDevMgr : Option HDIDeviceManager) (serviceName : Option CString)
  | hdiQueryUsableDeviceInfo (self : Option HDIDeviceManager) (list : Bool)
  | hdiQueryUnusableDeviceInfo (self : Option HDIDeviceManager) (list : Bool)
  | loadDevice (descriptor : CString) (serviceName : List UInt8)
  | unloadDevice (descriptor : CString) (serviceName : List UInt8)
  | listAllDevice (descriptor : CString)
  | hostDelDevice (remote : Bool) (devid : UInt32)

namespace DevmgrServiceRequest

def message (P : DevmgrParcel) (K : Constants) (out : Passage) :
    DevmgrServiceRequest → Except Int Message
  | .proxyAttachDeviceHost remote hostId service =>
    devmgrServiceProxyAttachDeviceHost P out remote hostId service
  | .proxyAttachDevice remote token => devmgrServiceProxyAttachDevice P out remote token
  | .proxyDetachDevice remote devid => devmgrServiceProxyDetachDevice P out remote devid
  | .proxyLoadDevice remote svcName => devmgrServiceProxyLoadDevice P out remote svcName
  | .proxyUnLoadDevice remote svcName => devmgrServiceProxyUnLoadDevice P out remote svcName
  | .hdiLoadDevice iDevMgr serviceName => devmgrLoadDevice P out iDevMgr serviceName
  | .hdiUnloadDevice iDevMgr serviceName => devmgrUnloadDevice P out iDevMgr serviceName
  | .hdiQueryUsableDeviceInfo self list => devmgrQueryUsableDeviceInfo P K out self list
  | .hdiQueryUnusableDeviceInfo self list => devmgrQueryUnusableDeviceInfo P K out self list
  | .loadDevice descriptor serviceName =>
    deviceManagerProxyName P .loadDevice descriptor serviceName
  | .unloadDevice descriptor serviceName =>
    deviceManagerProxyName P .unloadDevice descriptor serviceName
  | .listAllDevice descriptor => deviceManagerProxyListAllDevice P descriptor
  | .hostDelDevice remote devid => devHostServiceProxyDelDevice P out remote devid

/-- What the caller is told of an answer: a query also fails when its list cannot be filled. -/
def told (out : Passage) (request : DevmgrServiceRequest) (status : Int) : Int :=
  match request with
  | .hdiQueryUsableDeviceInfo _ _ | .hdiQueryUnusableDeviceInfo _ _ =>
    if status ≠ hdfSuccess then status else if out.obtains then hdfSuccess else hdfFailure
  | _ => status

/-- The request goes through to its side of the binder and on the way. -/
def run {σ : Type} (P : DevmgrParcel) (K : Constants) (descriptor : CString)
    (callee : DevmgrServiceCall → σ → Int × σ) (request : Passage × DevmgrServiceRequest) (s : σ) :
    Int × σ :=
  let out := request.1
  match request.2.message P K out with
  | .error status => (status,s)
  | .ok message =>
    let done := match stubCall P descriptor out message with
      | .error status => (status,s)
      | .ok call => callee call s
    match out.delivery with
    | .dropped status _ => (status,s)
    | .lost status _ => (status,done.2)
    | .answered => (request.2.told out done.1,done.2)

/-- A remote that speaks the interface of the stub. -/
def speaks (descriptor : CString) (remote : Option (Option CString)) : Prop :=
  remote = some (some descriptor) ∧ descriptor.bytes ≠ []

instance (descriptor : CString) (remote : Option (Option CString)) :
    Decidable (speaks descriptor remote) := inferInstanceAs (Decidable (_ ∧ _))

/-- What the caller means to be called on the other side, if its arguments are in order. -/
def meant (K : Constants) (descriptor : CString) : DevmgrServiceRequest → Option DevmgrServiceCall
  | .proxyAttachDeviceHost remote hostId service =>
    if speaks descriptor remote then
      service.map fun service => .attachDeviceHost hostId.toUInt32 (some (some service))
    else none
  | .proxyAttachDevice remote token =>
    if speaks descriptor remote then token.map .attachDevice else none
  | .proxyDetachDevice remote devid =>
    if speaks descriptor remote then some (.detachDevice devid) else none
  | .proxyLoadDevice remote svcName =>
    if speaks descriptor remote then svcName.map .loadDevice else none
  | .proxyUnLoadDevice remote svcName =>
    if speaks descriptor remote then svcName.map .unloadDevice else none
  | .hdiLoadDevice iDevMgr serviceName =>
    iDevMgr.bind fun iDevMgr =>
      if speaks descriptor iDevMgr.remote ∧ iDevMgr.dispatches then serviceName.map .loadDevice
      else none
  | .hdiUnloadDevice iDevMgr serviceName =>
    iDevMgr.bind fun iDevMgr =>
      if speaks descriptor iDevMgr.remote ∧ iDevMgr.dispatches then serviceName.map .unloadDevice
      else none
  | .hdiQueryUsableDeviceInfo self list =>
    self.bind fun self =>
      if speaks descriptor self.remote ∧ self.dispatches ∧ list then
        some (.queryDevice K.hdfServiceUsable)
      else none
  | .hdiQueryUnusableDeviceInfo self list =>
    self.bind fun self =>
      if speaks descriptor self.remote ∧ self.dispatches ∧ list then
        some (.queryDevice K.hdfServiceUnusable)
      else none
  | .loadDevice own serviceName =>
    if speaks descriptor (some (some own)) then some (.loadDevice (.upToNul serviceName)) else none
  | .unloadDevice own serviceName =>
    if speaks descriptor (some (some own)) then some (.unloadDevice (.upToNul serviceName))
    else none
  | .listAllDevice own => if speaks descriptor (some (some own)) then some .listAllDevice else none
  | .hostDelDevice remote devid => if remote then some (.delDevice devid) else none

end DevmgrServiceRequest

namespace Passage

/-- Nothing fails, on either side or between. -/
structure Calm (P : DevmgrParcel) (out : Passage) : Prop where
  data : out.data = true
  reply : out.reply = true
  calloc : out.calloc = true
  answered : out.delivery = .answered
  obtains : out.obtains = true
  accepts : ∀ sbuf bytes, P.accepts sbuf bytes = true

/-- A host whose proxy could not be allocated is handed over as the null pointer, and a status that
could not be written as 0. -/
def hands (P : DevmgrParcel) (descriptor : CString) (out : Passage) :
    DevmgrServiceCall → DevmgrServiceCall
  | .attachDeviceHost hostId service =>
    .attachDeviceHost hostId (if out.calloc then service else none)
  | .queryDevice status =>
    .queryDevice (if P.accepts (P.token.put descriptor) (P.int32.put status.toUInt32.toInt32)
      then status else 0)
  | call => call

end Passage

namespace DevmgrServiceRequest

section Wire
variable (P : DevmgrParcel) (K : Constants) (descriptor : CString) (out : Passage)

theorem writeInterfaceToken_takes (token : CString) :
    (writeInterfaceToken P (some token)).Takes (P.token.put token) := P.write_taken _

theorem checkInterfaceToken_put (token : CString) (rest : List UInt8) :
    checkInterfaceToken P descriptor (P.token.put token ++ rest) =
      if token.bytes ≠ [] ∧ token = descriptor then some rest else none := by
  unfold checkInterfaceToken
  rw [P.token.get_put]
  rfl

/-- What is sent has been written behind the token. -/
theorem send_ok (code : DevmgrCode) (token : CString) (writer : Writer) (message : Message)
    (sent : send code ((writeInterfaceToken P (some token)).andThen writer) = .ok message) :
    (writer (P.token.put token)).1 = true ∧
      message = ⟨code,(writer (P.token.put token)).2⟩ := by
  unfold send at sent
  split_ifs at sent with taken
  obtain rfl := Except.ok.inj sent
  obtain ⟨begun,same⟩ := Writer.andThen_taken _ _ _ taken
  have first := writeInterfaceToken_takes P token [] begun
  rw [same,first] at taken ⊢
  exact ⟨taken,rfl⟩

theorem send_error (code : DevmgrCode) (writer : Writer) (status : Int)
    (failed : send code writer = .error status) :
    status ≠ hdfSuccess ∧ (writer []).1 = false := by
  unfold send at failed
  split_ifs at failed with taken
  obtain rfl := Except.error.inj failed
  exact ⟨by decide,Bool.not_eq_true _ ▸ taken⟩

/-- What comes of a message: the call that was meant, or an error. -/
def Faithful (request : DevmgrServiceRequest) : Prop :=
  (∀ status, request.message P K out = .error status →
      status ≠ hdfSuccess ∧ (out.Calm P → request.meant K descriptor = none)) ∧
    ∀ message, request.message P K out = .ok message →
      (∃ call, request.meant K descriptor = some call ∧
          stubCall P descriptor out message = .ok (out.hands P descriptor call)) ∨
        ∃ status, status ≠ hdfSuccess ∧ stubCall P descriptor out message = .error status ∧
          (out.Calm P → request.meant K descriptor = none)

theorem invalidParam_ne : hdfErrInvalidParam ≠ hdfSuccess := by decide

theorem failure_ne : hdfFailure ≠ hdfSuccess := by decide

/-- A proxy that gives up before it writes. -/
theorem faithful_error (request : DevmgrServiceRequest) (status : Int)
    (is : request.message P K out = .error status) (bad : status ≠ hdfSuccess)
    (excused : out.Calm P → request.meant K descriptor = none) : request.Faithful P K descriptor out := by
  refine ⟨fun other same => ?_,fun message sent => ?_⟩
  · rw [is] at same
    obtain rfl := Except.error.inj same
    exact ⟨bad,excused⟩
  · rw [is] at sent
    contradiction

/-- A proxy that writes its token and one argument. -/
theorem faithful_token (request : DevmgrServiceRequest) (code : DevmgrCode) (own : Option CString)
    (writer : Writer) (bytes : CString → List UInt8) (call : DevmgrServiceCall)
    (is : request.message P K out = send code ((writeInterfaceToken P own).andThen writer))
    (means : request.meant K descriptor =
      if speaks descriptor (some own) then some call else none)
    (takes : ∀ token, (writer (P.token.put token)).1 = true →
      (writer (P.token.put token)).2 = P.token.put token ++ bytes token) (calmly : out.Calm P → ∀ sbuf, (writer sbuf).1 = true)
    (reads : ∀ data, checkInterfaceToken P descriptor data = some (bytes descriptor) →
      stubCall P descriptor out ⟨code,data⟩ = .ok (out.hands P descriptor call) ∨
        ¬ out.Calm P ∧ ∃ status, status ≠ hdfSuccess ∧
          stubCall P descriptor out ⟨code,data⟩ = .error status)
    (refuses : ∀ data, checkInterfaceToken P descriptor data = none →
      stubCall P descriptor out ⟨code,data⟩ = .error hdfErrInvalidParam) :
    request.Faithful P K descriptor out := by
  unfold Faithful
  rw [is,means]
  constructor
  · intro status failed
    obtain ⟨bad,stopped⟩ := send_error code _ status failed
    refine ⟨bad,fun calm => if_neg ?_⟩
    rintro ⟨same,_⟩
    obtain rfl := Option.some.inj same
    have all : ((writeInterfaceToken P (some descriptor)).andThen writer []).1 = true := by
      unfold Writer.andThen
      rw [if_neg (by simp [writeInterfaceToken,Parcel.write,calm.accepts])]
      exact calmly calm _
    rw [all] at stopped
    contradiction
  · intro message sent
    cases own with
    | none => simp [send,writeInterfaceToken,Writer.andThen] at sent
    | some token =>
      obtain ⟨taken,whole⟩ := send_ok P code token writer message sent
      have checked := checkInterfaceToken_put P descriptor token (bytes token)
      rw [whole,takes token taken]
      by_cases right : token.bytes ≠ [] ∧ token = descriptor
      · rw [if_pos right] at checked
        obtain ⟨nonempty,rfl⟩ := right
        rcases reads _ checked with called | ⟨stormy,status,bad,refused⟩
        · exact .inl ⟨call,if_pos ⟨rfl,nonempty⟩,called⟩
        · exact .inr ⟨status,bad,refused,fun calm => absurd calm stormy⟩
      · rw [if_neg right] at checked
        refine .inr ⟨_,invalidParam_ne,refuses _ checked,fun _ => if_neg ?_⟩
        rintro ⟨same,nonempty⟩
        obtain rfl := Option.some.inj (Option.some.inj same)
        exact right ⟨nonempty,rfl⟩

/-- A failed check of the token ends every request to the manager. -/
theorem stubCall_refused (code : DevmgrCode) (other : code ≠ .delDevice) (data : List UInt8)
    (refused : checkInterfaceToken P descriptor data = none) :
    stubCall P descriptor out ⟨code,data⟩ = .error hdfErrInvalidParam := by
  cases code <;> first
    | contradiction
    | simp [stubCall,devmgrServiceStubCall,refused]

theorem write_calm (calm : out.Calm P) (bytes sbuf : List UInt8) :
    (P.write bytes sbuf).1 = true := by
  simp [Parcel.write,calm.accepts]

/-- The signed number of a device is its number when it is read. -/
theorem uint32_devid (devid : UInt32) (rest : List UInt8) :
    P.uint32.get (P.int32.put devid.toInt32 ++ rest) = some (devid,rest) := by
  rw [P.uint32_int32,UInt32.toUInt32_toInt32]

theorem faithful_attachDeviceHost (remote : Option (Option CString)) (hostId : UInt16)
    (service : Option UInt64) :
    (proxyAttachDeviceHost remote hostId service).Faithful P K descriptor out := by
  cases remote with
  | none =>
    refine faithful_error P K descriptor out _ _ rfl failure_ne fun _ => ?_
    simp [meant,speaks]
  | some own =>
    by_cases buffers : out.data = false ∨ out.reply = false
    · refine faithful_error P K descriptor out _ hdfFailure ?_ failure_ne fun calm => ?_
      · exact if_pos buffers
      · simp [calm.data,calm.reply] at buffers
    · cases service with
      | none =>
        refine faithful_error P K descriptor out _ hdfFailure ?_ failure_ne fun _ => ?_
        · change devmgrServiceProxyAttachDeviceHost P out (some own) hostId none = _
          unfold devmgrServiceProxyAttachDeviceHost
          dsimp only
          rw [if_neg buffers]
          refine if_neg fun taken => ?_
          obtain ⟨_,rest⟩ := Writer.andThen_taken _ _ _ taken
          rw [rest] at taken
          obtain ⟨_,rest⟩ := Writer.andThen_taken _ _ _ taken
          rw [rest] at taken
          contradiction
        · change (if _ then _ else _) = _
          split <;> rfl
      | some service =>
        refine faithful_token P K descriptor out _ .attachDeviceHost own _ _
          (.attachDeviceHost hostId.toUInt32 (some (some service))) (if_neg buffers) rfl
          (fun _ => Writer.takes_andThen _ _ _ _ (P.write_taken _) (P.write_taken _) _)
          (fun calm sbuf => ?_)
          (fun data checked => .inl ?_) (stubCall_refused P descriptor out _ (by decide))
        · unfold Writer.andThen
          rw [if_neg]
          · exact write_calm P out calm _ _
          · rw [Parcel.writeInt32,write_calm P out calm]
            decide
        · have last := P.remoteObject.get_put service []
          rw [List.append_nil] at last
          have number := uint32_devid P hostId.toUInt32 (P.remoteObject.put service)
          simp [stubCall,devmgrServiceStubCall,checked,number,last,Passage.hands]

theorem faithful_attachDevice (remote : Option (Option CString)) (token : Option UInt32) :
    (proxyAttachDevice remote token).Faithful P K descriptor out := by
  cases token with
  | none =>
    refine faithful_error P K descriptor out _ hdfFailure rfl failure_ne fun _ => ?_
    change (if _ then _ else _) = _
    split <;> rfl
  | some devid =>
    cases remote with
    | none =>
      refine faithful_error P K descriptor out _ hdfFailure rfl failure_ne fun _ => ?_
      simp [meant,speaks]
    | some own =>
      by_cases buffers : out.data = false ∨ out.reply = false
      · refine faithful_error P K descriptor out _ hdfFailure (if_pos buffers) failure_ne
          fun calm => ?_
        simp [calm.data,calm.reply] at buffers
      · refine faithful_token P K descriptor out _ .attachDevice own _ _ (.attachDevice devid)
          (if_neg buffers) rfl (fun _ => P.write_taken _ _) (fun calm sbuf => write_calm P out calm _ sbuf)
          (fun data checked => ?_) (stubCall_refused P descriptor out _ (by decide))
        have number := uint32_devid P devid []
        rw [List.append_nil] at number
        cases allocated : out.calloc with
        | true =>
          refine .inl ?_
          simp [stubCall,devmgrServiceStubCall,checked,number,allocated,Passage.hands]
        | false =>
          refine .inr ⟨fun calm => ?_,hdfFailure,failure_ne,?_⟩
          · simp [calm.calloc] at allocated
          · simp [stubCall,devmgrServiceStubCall,checked,number,allocated]

theorem faithful_detachDevice (remote : Option (Option CString)) (devid : UInt32) :
    (proxyDetachDevice remote devid).Faithful P K descriptor out := by
  cases remote with
  | none =>
    refine faithful_error P K descriptor out _ hdfFailure rfl failure_ne fun _ => ?_
    simp [meant,speaks]
  | some own =>
    by_cases buffers : out.data = false ∨ out.reply = false
    · refine faithful_error P K descriptor out _ hdfFailure (if_pos buffers) failure_ne
        fun calm => ?_
      simp [calm.data,calm.reply] at buffers
    · refine faithful_token P K descriptor out _ .detachDevice own _ _ (.detachDevice devid)
        (if_neg buffers) rfl (fun _ => P.write_taken _ _) (fun calm sbuf => write_calm P out calm _ sbuf)
        (fun data checked => .inl ?_) (stubCall_refused P descriptor out _ (by decide))
      have number := uint32_devid P devid []
      rw [List.append_nil] at number
      simp [stubCall,devmgrServiceStubCall,checked,number,Passage.hands]

/-- The requests that name a service, which differ in their code. -/
def named (load : Bool) (serviceName : CString) : DevmgrServiceCall :=
  if load then .loadDevice serviceName else .unloadDevice serviceName

def nameCode (load : Bool) : DevmgrCode := if load then .loadDevice else .unloadDevice

theorem faithful_name (load : Bool) (request : DevmgrServiceRequest) (own : Option CString)
    (serviceName : CString)
    (is : request.message P K out = send (nameCode load)
      ((writeInterfaceToken P own).andThen (P.writeString (some serviceName))))
    (means : request.meant K descriptor =
      if speaks descriptor (some own) then some (named load serviceName) else none) :
    request.Faithful P K descriptor out := by
  refine faithful_token P K descriptor out request (nameCode load) own _ _ (named load serviceName) is
    means (fun _ => P.write_taken _ _) (fun calm sbuf => write_calm P out calm _ sbuf)
    (fun data checked => .inl ?_) (stubCall_refused P descriptor out _ (by cases load <;> decide))
  have text := P.cString.get_put serviceName []
  rw [List.append_nil] at text
  cases load <;>
    simp [nameCode,named,stubCall,devmgrServiceStubCall,checked,text,Passage.hands]

theorem faithful_proxyName (load : Bool) (remote : Option (Option CString))
    (svcName : Option CString) :
    (if load then proxyLoadDevice remote svcName
      else proxyUnLoadDevice remote svcName).Faithful P K descriptor out := by
  have is : (if load then proxyLoadDevice remote svcName
      else proxyUnLoadDevice remote svcName).message P K out =
        sendSvcName P out (nameCode load) remote svcName := by
    cases load <;> rfl
  have means : (if load then proxyLoadDevice remote svcName
      else proxyUnLoadDevice remote svcName).meant K descriptor =
        if speaks descriptor remote then svcName.map (named load) else none := by
    cases load <;> rfl
  cases remote with
  | none =>
    refine faithful_error P K descriptor out _ hdfErrInvalidParam is invalidParam_ne fun _ => ?_
    rw [means]
    simp [speaks]
  | some own =>
    cases svcName with
    | none =>
      refine faithful_error P K descriptor out _ hdfErrInvalidParam is invalidParam_ne fun _ => ?_
      rw [means]
      split <;> rfl
    | some svcName =>
      by_cases buffer : out.data = false
      · refine faithful_error P K descriptor out _ hdfFailure ?_ failure_ne fun calm => ?_
        · rw [is]
          exact if_pos buffer
        · simp [calm.data] at buffer
      · exact faithful_name P K descriptor out load _ own svcName (is.trans (if_neg buffer)) means

theorem faithful_hdiName (load : Bool) (iDevMgr : Option HDIDeviceManager)
    (serviceName : Option CString) :
    (if load then hdiLoadDevice iDevMgr serviceName
      else hdiUnloadDevice iDevMgr serviceName).Faithful P K descriptor out := by
  have malloc_ne : hdfErrMallocFail ≠ hdfSuccess := by decide
  have object_ne : hdfErrInvalidObject ≠ hdfSuccess := by decide
  have is : (if load then hdiLoadDevice iDevMgr serviceName
      else hdiUnloadDevice iDevMgr serviceName).message P K out =
        hdiSvcName P out (nameCode load) iDevMgr serviceName := by
    cases load <;> rfl
  have means : (if load then hdiLoadDevice iDevMgr serviceName
      else hdiUnloadDevice iDevMgr serviceName).meant K descriptor = iDevMgr.bind fun iDevMgr =>
        if speaks descriptor iDevMgr.remote ∧ iDevMgr.dispatches then serviceName.map (named load)
        else none := by
    cases load <;> rfl
  cases iDevMgr with
  | none => exact faithful_error P K descriptor out _ _ is invalidParam_ne fun _ => means
  | some iDevMgr =>
    cases serviceName with
    | none =>
      refine faithful_error P K descriptor out _ _ is invalidParam_ne fun _ => means.trans ?_
      change (if _ then _ else _) = _
      split <;> rfl
    | some serviceName =>
      by_cases buffer : out.data = false
      · refine faithful_error P K descriptor out _ hdfErrMallocFail ?_ malloc_ne fun calm => ?_
        · rw [is]
          exact if_pos buffer
        · simp [calm.data] at buffer
      · obtain ⟨remote,dispatches⟩ := iDevMgr
        cases dispatches with
        | true =>
          refine faithful_name P K descriptor out load _ (remote.getD none) serviceName ?_ ?_
          · refine is.trans ((if_neg buffer).trans ?_)
            cases send (nameCode load) ((writeInterfaceToken P (remote.getD none)).andThen
              (P.writeString (some serviceName))) <;> rfl
          · rw [means]
            cases remote <;> simp [speaks]
        | false =>
          have silent : (if load then hdiLoadDevice (some ⟨remote,false⟩) (some serviceName)
              else hdiUnloadDevice (some ⟨remote,false⟩) (some serviceName)).meant K descriptor =
                none := by
            rw [means]
            simp
          have body := is.trans (if_neg buffer)
          cases sent : send (nameCode load) ((writeInterfaceToken P (remote.getD none)).andThen
              (P.writeString (some serviceName))) with
          | error status =>
            refine faithful_error P K descriptor out _ status ?_
              (send_error _ _ status sent).1 fun _ => silent
            rw [body,sent]
            rfl
          | ok message =>
            refine faithful_error P K descriptor out _ hdfErrInvalidObject ?_ object_ne
              fun _ => silent
            rw [body,sent]
            rfl

/-- The two queries, which differ in the status that they ask for. -/
def queryOf (usable : Bool) : Option HDIDeviceManager → Bool → DevmgrServiceRequest :=
  if usable then hdiQueryUsableDeviceInfo else hdiQueryUnusableDeviceInfo

def queried (usable : Bool) : UInt16 := if usable then K.hdfServiceUsable else K.hdfServiceUnusable

/-- The status is the lower half of its four bytes, and 0 where nothing was written. -/
theorem readUint16_type (status : UInt16) (sbuf : List UInt8) :
    (P.readUint16 (if P.accepts sbuf (P.int32.put status.toUInt32.toInt32) then
      P.int32.put status.toUInt32.toInt32 else [])).2.1 =
        if P.accepts sbuf (P.int32.put status.toUInt32.toInt32) then status else 0 := by
  cases taken : P.accepts sbuf (P.int32.put status.toUInt32.toInt32) with
  | true =>
    have number := P.uint16_int32 status.toUInt32.toInt32 []
    rw [List.append_nil,UInt32.toUInt32_toInt32] at number
    simp [Parcel.readUint16,number]
  | false => simp [Parcel.readUint16,P.uint16_nil]

theorem writeType_takes (type : Int32) (sbuf : List UInt8) :
    (P.writeInt32 type sbuf).2 =
      sbuf ++ if P.accepts sbuf (P.int32.put type) then P.int32.put type else [] := by
  unfold Parcel.writeInt32 Parcel.write
  split <;> simp

theorem faithful_query (usable : Bool) (self : Option HDIDeviceManager) (list : Bool) :
    (queryOf usable self list).Faithful P K descriptor out := by
  have malloc_ne : hdfErrMallocFail ≠ hdfSuccess := by decide
  have object_ne : hdfErrInvalidObject ≠ hdfSuccess := by decide
  have is : (queryOf usable self list).message P K out =
      queryInfo P out (queried K usable) self list := by
    cases usable <;> rfl
  have means : (queryOf usable self list).meant K descriptor = self.bind fun self =>
      if speaks descriptor self.remote ∧ self.dispatches ∧ list then
        some (.queryDevice (queried K usable))
      else none := by
    cases usable <;> rfl
  cases self with
  | none => exact faithful_error P K descriptor out _ _ is invalidParam_ne fun _ => means
  | some self =>
    cases list with
    | false =>
      refine faithful_error P K descriptor out _ _ is invalidParam_ne fun _ => means.trans ?_
      simp
    | true =>
      have body : (queryOf usable (some self) true).message P K out =
          devmgrQueryDeviceInfo P out self (queried K usable).toUInt32.toInt32 := is
      by_cases buffers : out.reply = false ∨ out.data = false
      · refine faithful_error P K descriptor out _ _ (body.trans (if_pos buffers)) malloc_ne
          fun calm => ?_
        simp [calm.data,calm.reply] at buffers
      · have written := body.trans (if_neg buffers)
        obtain ⟨remote,dispatches⟩ := self
        cases dispatches with
        | true =>
          refine faithful_token P K descriptor out _ .queryDevice (remote.getD none)
            (fun sbuf => (true,(P.writeInt32 (queried K usable).toUInt32.toInt32 sbuf).2)) _
            (.queryDevice (queried K usable)) ?_ ?_ (fun _ _ => writeType_takes P _ _)
            (fun _ _ => rfl) (fun data checked => .inl ?_)
            (stubCall_refused P descriptor out _ (by decide))
          · rw [written]
            cases send .queryDevice ((writeInterfaceToken P (remote.getD none)).andThen _) <;> rfl
          · rw [means]
            cases remote <;> simp [speaks]
          · simp only [stubCall,devmgrServiceStubCall,checked,Passage.hands]
            rw [readUint16_type]
        | false =>
          have silent : (queryOf usable (some ⟨remote,false⟩) true).meant K descriptor = none := by
            rw [means]
            simp
          cases sent : send .queryDevice ((writeInterfaceToken P (remote.getD none)).andThen
              fun sbuf => (true,(P.writeInt32 (queried K usable).toUInt32.toInt32 sbuf).2)) with
          | error status =>
            refine faithful_error P K descriptor out _ status ?_
              (send_error _ _ status sent).1 fun _ => silent
            rw [written,sent]
            rfl
          | ok message =>
            refine faithful_error P K descriptor out _ hdfErrInvalidObject ?_ object_ne
              fun _ => silent
            rw [written,sent]
            rfl

theorem faithful_listAllDevice (own : CString) :
    (listAllDevice own).Faithful P K descriptor out := by
  refine faithful_token P K descriptor out _ .listAllDevice (some own) .nothing (fun _ => [])
    .listAllDevice ?_ rfl (fun token _ => (List.append_nil _).symm) (fun _ _ => rfl)
    (fun data checked => .inl ?_) (stubCall_refused P descriptor out _ (by decide))
  · have alone : (writeInterfaceToken P (some own)).andThen .nothing =
        writeInterfaceToken P (some own) := by
      funext sbuf
      unfold Writer.andThen Writer.nothing
      split_ifs with refused
      · rfl
      · exact Prod.ext (Bool.not_eq_false _ ▸ refused).symm rfl
    rw [alone]
    rfl
  · simp [stubCall,devmgrServiceStubCall,checked,Passage.hands]

theorem faithful_delDevice (remote : Bool) (devid : UInt32) :
    (hostDelDevice remote devid).Faithful P K descriptor out := by
  cases remote with
  | false => exact faithful_error P K descriptor out _ hdfFailure rfl failure_ne fun _ => rfl
  | true =>
    by_cases buffer : out.data = false
    · refine faithful_error P K descriptor out _ hdfFailure ?_ failure_ne fun calm => ?_
      · exact if_pos (.inr buffer)
      · simp [calm.data] at buffer
    · have is : (hostDelDevice true devid).message P K out =
          .ok ⟨.delDevice,(P.writeUint32 devid []).2⟩ := if_neg (by simp [buffer])
      refine ⟨fun status failed => ?_,fun message sent => ?_⟩
      · rw [is] at failed
        contradiction
      · rw [is] at sent
        obtain rfl := Except.ok.inj sent
        cases taken : P.accepts [] (P.uint32.put devid) with
        | true =>
          have number := P.uint32.get_put devid []
          rw [List.append_nil] at number
          refine .inl ⟨.delDevice devid,rfl,?_⟩
          simp [stubCall,dispatchDelDevice,Parcel.writeUint32,Parcel.write,taken,number,
            Passage.hands]
        | false =>
          -- nothing was written, and the host's stub finds nothing
          refine .inr ⟨hdfFailure,failure_ne,?_,fun calm => ?_⟩
          · simp [stubCall,dispatchDelDevice,Parcel.writeUint32,Parcel.write,taken,P.uint32_nil]
          · simp [calm.accepts] at taken

theorem faithful (request : DevmgrServiceRequest) : request.Faithful P K descriptor out := by
  cases request with
  | proxyAttachDeviceHost remote hostId service =>
    exact faithful_attachDeviceHost P K descriptor out remote hostId service
  | proxyAttachDevice remote token => exact faithful_attachDevice P K descriptor out remote token
  | proxyDetachDevice remote devid => exact faithful_detachDevice P K descriptor out remote devid
  | proxyLoadDevice remote svcName =>
    exact faithful_proxyName P K descriptor out true remote svcName
  | proxyUnLoadDevice remote svcName =>
    exact faithful_proxyName P K descriptor out false remote svcName
  | hdiLoadDevice iDevMgr serviceName =>
    exact faithful_hdiName P K descriptor out true iDevMgr serviceName
  | hdiUnloadDevice iDevMgr serviceName =>
    exact faithful_hdiName P K descriptor out false iDevMgr serviceName
  | hdiQueryUsableDeviceInfo self list => exact faithful_query P K descriptor out true self list
  | hdiQueryUnusableDeviceInfo self list => exact faithful_query P K descriptor out false self list
  | listAllDevice own => exact faithful_listAllDevice P K descriptor out own
  | loadDevice own serviceName =>
    exact faithful_name P K descriptor out true _ (some own) (.upToNul serviceName) rfl rfl
  | unloadDevice own serviceName =>
    exact faithful_name P K descriptor out false _ (some own) (.upToNul serviceName) rfl rfl
  | hostDelDevice remote devid => exact faithful_delDevice P K descriptor out remote devid

end Wire

/-- What the other side may have seen of a request, and what the caller is told. -/
def Allows {σ : Type} (P : DevmgrParcel) (K : Constants) (descriptor : CString)
    (callee : DevmgrServiceCall → σ → Int × σ) (request : Passage × DevmgrServiceRequest)
    (status : Int) (s t : σ) : Prop :=
  (t = s ∧ status ≠ hdfSuccess ∧
      (request.1.Calm P → request.2.meant K descriptor = none)) ∨
    ∃ call, request.2.meant K descriptor = some call ∧
      t = (callee (request.1.hands P descriptor call) s).2 ∧
      (status = hdfSuccess → (callee (request.1.hands P descriptor call) s).1 = hdfSuccess) ∧
      (request.1.Calm P → status = (callee call s).1)

section Runs
variable {σ : Type} (P : DevmgrParcel) (K : Constants) (descriptor : CString)
variable (callee : DevmgrServiceCall → σ → Int × σ)

theorem hands_calm (out : Passage) (calm : out.Calm P) (call : DevmgrServiceCall) :
    out.hands P descriptor call = call := by
  cases call <;> simp [Passage.hands,calm.calloc,calm.accepts]

/-- A caller is told of every failure. -/
theorem told_refused (out : Passage) (request : DevmgrServiceRequest) (status : Int)
    (bad : status ≠ hdfSuccess) : request.told out status = status := by
  unfold told
  split
  · exact if_pos bad
  · exact if_pos bad
  · rfl

theorem told_success (out : Passage) (request : DevmgrServiceRequest) (status : Int)
    (ok : request.told out status = hdfSuccess) : status = hdfSuccess := by
  by_contra bad
  exact bad ((told_refused out request status bad).symm.trans ok)

theorem told_calm (out : Passage) (calm : out.Calm P) (request : DevmgrServiceRequest)
    (status : Int) : request.told out status = status := by
  by_cases bad : status ≠ hdfSuccess
  · exact told_refused out request status bad
  · obtain rfl := not_not.mp bad
    unfold told
    rw [calm.obtains]
    split <;> simp

theorem run_allows (request : Passage × DevmgrServiceRequest) (s : σ) :
    Allows P K descriptor callee request (run P K descriptor callee request s).1 s
      (run P K descriptor callee request s).2 := by
  obtain ⟨out,request⟩ := request
  obtain ⟨unsent,sent⟩ := faithful P K descriptor out request
  unfold run
  dsimp only
  cases written : request.message P K out with
  | error status =>
    obtain ⟨bad,excused⟩ := unsent status written
    exact .inl ⟨rfl,bad,excused⟩
  | ok message =>
    dsimp only
    rcases sent message written with ⟨call,means,read⟩ | ⟨status,bad,read,excused⟩
    · rw [read]
      cases delivered : out.delivery with
      | dropped status bad =>
        refine .inl ⟨rfl,bad,fun calm => ?_⟩
        rw [calm.answered] at delivered
        contradiction
      | lost status bad =>
        refine .inr ⟨call,means,rfl,fun done => absurd done bad,fun calm => ?_⟩
        rw [calm.answered] at delivered
        contradiction
      | answered =>
        refine .inr ⟨call,means,rfl,told_success out request _,fun calm => ?_⟩
        change request.told out (callee (out.hands P descriptor call) s).1 = _
        rw [told_calm P out calm,hands_calm P descriptor out calm]
    · rw [read]
      cases delivered : out.delivery with
      | dropped status bad => exact .inl ⟨rfl,bad,excused⟩
      | lost status bad => exact .inl ⟨rfl,bad,excused⟩
      | answered =>
        refine .inl ⟨rfl,?_,excused⟩
        change request.told out status ≠ _
        rwa [told_refused out request status bad]

/-- Where nothing fails a request is the call itself. -/
theorem run_calm (request : Passage × DevmgrServiceRequest) (call : DevmgrServiceCall)
    (calm : request.1.Calm P) (means : request.2.meant K descriptor = some call) (s : σ) :
    run P K descriptor callee request s = callee call s := by
  obtain ⟨out,request⟩ := request
  obtain ⟨unsent,sent⟩ := faithful P K descriptor out request
  dsimp only at calm means
  unfold run
  dsimp only
  cases written : request.message P K out with
  | error status =>
    have silent := (unsent status written).2 calm
    rw [means] at silent
    contradiction
  | ok message =>
    dsimp only
    rw [calm.answered]
    rcases sent message written with ⟨other,same,read⟩ | ⟨status,_,_,excused⟩
    · obtain rfl := Option.some.inj (means.symm.trans same)
      rw [read,hands_calm P descriptor out calm]
      exact Prod.ext (told_calm P out calm request _) rfl
    · rw [excused calm] at means
      contradiction

/-- Every run of requests is one of the calls that they mean, some of which failed on the way, and
where nothing fails it is just the run of those calls. -/
theorem requests_called (requests : List (Passage × DevmgrServiceRequest)) (s : σ) :
    let done := Machine.run (run P K descriptor callee) requests s
    Machine.History (Allows P K descriptor callee) requests done.1 s done.2 ∧
      ∀ calls : List DevmgrServiceCall, (∀ request ∈ requests, request.1.Calm P) →
        requests.map (fun request => request.2.meant K descriptor) = calls.map some →
          done = Machine.run callee calls s := by
  refine ⟨(Machine.run_history _ id _ (fun _ => True)
    (fun request s _ => ⟨trivial,run_allows P K descriptor callee request s⟩) requests s
      trivial).2,?_⟩
  induction requests generalizing s with
  | nil =>
    intro calls _ same
    obtain rfl := List.map_eq_nil_iff.mp same.symm
    rfl
  | cons request rest ih =>
    intro calls calm same
    cases calls with
    | nil => contradiction
    | cons call calls =>
      obtain ⟨means,later⟩ := List.cons.inj same
      have now := run_calm P K descriptor callee request call (calm request List.mem_cons_self) means
      simp only [Machine.run,now]
      rw [ih _ calls (fun other member => calm other (List.mem_cons_of_mem _ member)) later]

end Runs

end DevmgrServiceRequest

end DriversAdapter.Devmgr
