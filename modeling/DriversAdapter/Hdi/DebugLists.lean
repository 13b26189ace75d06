import DriversAdapter.Ipc.Parcel
import Mathlib.Algebra.GroupWithZero.Nat

/-! The lists of hosts and of services that the clients fill from a reply: the readers return a
default when nothing is left, and their counts are taken as they come. -/
namespace DriversAdapter.Hdi
open DriversAdapter.Semantics DriversAdapter.Ipc

structure HdiDevHostInfo where
  hostName : CString
  hostId : UInt32
  devId : List UInt32
  deriving DecidableEq

structure HdiServiceInfo where
  serviceName : CString
  devClass : UInt16
  deriving DecidableEq

section Fill
variable (P : Parcel)

/-- The `for` loop over the devices of a host. -/
def readDevIds : Nat → List UInt8 → List UInt32 × List UInt8
  | 0, reply => ([],reply)
  | devCnt + 1, reply =>
    let devId := P.readUint32 reply
    let later := readDevIds devCnt devId.2.2
    (devId.2.1::later.1,later.2)

def fillDeviceInfoLoop : Nat → List UInt8 → List HdiDevHostInfo → Option (List HdiDevHostInfo)
  | 0, _, _ => none
  | fuel + 1, reply, deviceInfos =>
    match P.cString.get reply with
    | none => some deviceInfos
    | some (hostName,reply) =>
      let hostId := P.readUint32 reply
      let devCnt := P.readUint32 hostId.2.2
      let devId := readDevIds P devCnt.2.1.toNat devCnt.2.2
      fillDeviceInfoLoop fuel devId.2 (deviceInfos ++ [⟨hostName,hostId.2.1,devId.1⟩])

/-- A name takes a byte at least, so that this many passes are enough. -/
def hdfDevMgrDbgFillDeviceInfo (deviceInfos : List HdiDevHostInfo) (reply : List UInt8) :
    Option (List HdiDevHostInfo) :=
  fillDeviceInfoLoop P (reply.length + 1) reply deviceInfos

def fillServiceInfoLoop : Nat → List UInt8 → List HdiServiceInfo → Option (List HdiServiceInfo)
  | 0, _, _ => none
  | fuel + 1, reply, serviceInfos =>
    match P.cString.get reply with
    | none => some serviceInfos
    | some (serviceName,reply) =>
      let devClass := P.readUint16 reply
      fillServiceInfoLoop fuel devClass.2.2 (serviceInfos ++ [⟨serviceName,devClass.2.1⟩])

def hdfDevMgrDbgFillServiceInfo (serviceInfos : List HdiServiceInfo) (reply : List UInt8) :
    Option (List HdiServiceInfo) :=
  fillServiceInfoLoop P (reply.length + 1) reply serviceInfos

/-! ### What it means that the values were read -/

/-- Every integer takes a whole word of a parcel. -/
structure WholeWords : Prop where
  uint16_word : ∀ bytes v rest, P.uint16.get bytes = some (v,rest) → rest.length + 4 ≤ bytes.length
  uint32_word : ∀ bytes v rest, P.uint32.get bytes = some (v,rest) → rest.length + 4 ≤ bytes.length

/-- So many words in front of the rest were read as these values. -/
inductive ReadIds : List UInt8 → List UInt32 → List UInt8 → Prop
  | done (reply) : ReadIds reply [] reply
  | next (reply devId later ids rest) : P.uint32.get reply = some (devId,later) →
      ReadIds later ids rest → ReadIds reply (devId::ids) rest

/-- All values of these hosts were read from the reply, one after the other. The count is no
such value: a host without one has no devices. -/
inductive ReadHosts : List UInt8 → List HdiDevHostInfo → Prop
  | done (reply) : P.cString.get reply = none → ReadHosts reply []
  | uncounted (reply hostName r1 hostId r2 infos) : P.cString.get reply = some (hostName,r1) →
      P.uint32.get r1 = some (hostId,r2) → P.uint32.get r2 = none → ReadHosts r2 infos →
        ReadHosts reply (⟨hostName,hostId,[]⟩::infos)
  | host (reply hostName r1 hostId r2 devCnt r3 devId r4 infos) :
      P.cString.get reply = some (hostName,r1) → P.uint32.get r1 = some (hostId,r2) →
      P.uint32.get r2 = some (devCnt,r3) → ReadIds P r3 devId r4 → devId.length = devCnt.toNat →
      ReadHosts r4 infos → ReadHosts reply (⟨hostName,hostId,devId⟩::infos)

inductive ReadServices : List UInt8 → List HdiServiceInfo → Prop
  | done (reply) : P.cString.get reply = none → ReadServices reply []
  | service (reply serviceName r1 devClass r2 infos) :
      P.cString.get reply = some (serviceName,r1) → P.uint16.get r1 = some (devClass,r2) →
      ReadServices r2 infos → ReadServices reply (⟨serviceName,devClass⟩::infos)

/-- Behind every name there is an identity, and behind every count as many integers as it says. -/
def HostsReadable (reply : List UInt8) : Prop := ∃ infos, ReadHosts P reply infos

/-- Behind every name there is a class. -/
def ServicesReadable (reply : List UInt8) : Prop := ∃ infos, ReadServices P reply infos

/-- The hosts and their devices. -/
def hostEntries (infos : List HdiDevHostInfo) : Nat :=
  (infos.map fun info => 1 + info.devId.length).sum

/-! ### What the loops do -/

theorem readUint32_some (reply rest : List UInt8) (v : UInt32)
    (got : P.uint32.get reply = some (v,rest)) : P.readUint32 reply = (true,v,rest) := by
  unfold Parcel.readUint32
  rw [got]

theorem readUint32_none (reply : List UInt8) (none_left : P.uint32.get reply = none) :
    P.readUint32 reply = (false,0,reply) := by
  unfold Parcel.readUint32
  rw [none_left]

theorem readUint16_some (reply rest : List UInt8) (v : UInt16)
    (got : P.uint16.get reply = some (v,rest)) : P.readUint16 reply = (true,v,rest) := by
  unfold Parcel.readUint16
  rw [got]

theorem readDevIds_read (reply rest : List UInt8) (ids : List UInt32)
    (read : ReadIds P reply ids rest) : readDevIds P ids.length reply = (ids,rest) := by
  induction read with
  | done reply => rfl
  | next reply devId later ids rest got _ ih =>
    rw [List.length_cons,readDevIds,readUint32_some P _ _ _ got,ih]

variable (words : WholeWords P)
include words

theorem readUint32_le (reply : List UInt8) : (P.readUint32 reply).2.2.length ≤ reply.length := by
  unfold Parcel.readUint32
  split
  next => exact Nat.le_refl _
  next v rest got => exact Nat.le_of_add_right_le (words.uint32_word _ _ _ got)

theorem readUint16_le (reply : List UInt8) : (P.readUint16 reply).2.2.length ≤ reply.length := by
  unfold Parcel.readUint16
  split
  next => exact Nat.le_refl _
  next v rest got => exact Nat.le_of_add_right_le (words.uint16_word _ _ _ got)

theorem readDevIds_le (n : Nat) (reply : List UInt8) :
    (readDevIds P n reply).2.length ≤ reply.length := by
  induction n generalizing reply with
  | zero => exact Nat.le_refl _
  | succ n ih => exact Nat.le_trans (ih _) (readUint32_le P words reply)

/-- Every pass takes a name, which is a word at least. -/
theorem fillDeviceInfoLoop_total (fuel : Nat) (reply : List UInt8)
    (deviceInfos : List HdiDevHostInfo) (enough : reply.length < fuel) :
    ∃ infos, fillDeviceInfoLoop P fuel reply deviceInfos = some (deviceInfos ++ infos) ∧
      ∀ hosts, ReadHosts P reply hosts → infos = hosts := by
  induction fuel generalizing reply deviceInfos with
  | zero => exact absurd enough (Nat.not_lt_zero _)
  | succ fuel ih =>
    unfold fillDeviceInfoLoop
    cases named : P.cString.get reply with
    | none =>
      refine ⟨[],by simp,fun hosts read => ?_⟩
      cases read with
      | done => rfl
      | uncounted _ _ _ _ _ _ got => simp [named] at got
      | host _ _ _ _ _ _ _ _ _ _ got => simp [named] at got
    | some got =>
      obtain ⟨hostName,r1⟩ := got
      have word := P.cString_word reply hostName r1 named
      have first := readUint32_le P words r1
      have second := readUint32_le P words (P.readUint32 r1).2.2
      have third := readDevIds_le P words (P.readUint32 (P.readUint32 r1).2.2).2.1.toNat
        (P.readUint32 (P.readUint32 r1).2.2).2.2
      obtain ⟨infos,filled,exact_infos⟩ := ih
        (readDevIds P (P.readUint32 (P.readUint32 r1).2.2).2.1.toNat
          (P.readUint32 (P.readUint32 r1).2.2).2.2).2 (deviceInfos ++ [⟨hostName,_,_⟩]) (by omega)
      refine ⟨_,filled.trans (by rw [List.append_assoc]),fun hosts read => ?_⟩
      cases read with
      | done _ none_left => simp [named] at none_left
      | uncounted _ _ _ hostId r2 later again identified uncounted rest =>
        rw [named,Option.some.injEq,Prod.mk.injEq] at again
        obtain ⟨rfl,rfl⟩ := again
        rw [readUint32_some P _ _ _ identified,readUint32_none P _ uncounted] at exact_infos ⊢
        rw [exact_infos later rest]
        rfl
      | host _ _ _ hostId r2 devCnt r3 devId r4 later again identified counted ids length rest =>
        rw [named,Option.some.injEq,Prod.mk.injEq] at again
        obtain ⟨rfl,rfl⟩ := again
        rw [readUint32_some P _ _ _ identified,readUint32_some P _ _ _ counted,← length,
          readDevIds_read P _ _ _ ids] at exact_infos ⊢
        rw [exact_infos later rest]
        rfl

theorem fillServiceInfoLoop_total (fuel : Nat) (reply : List UInt8)
    (serviceInfos : List HdiServiceInfo) (enough : reply.length < fuel) :
    ∃ infos, fillServiceInfoLoop P fuel reply serviceInfos = some (serviceInfos ++ infos) ∧
      ∀ services, ReadServices P reply services → infos = services := by
  induction fuel generalizing reply serviceInfos with
  | zero => exact absurd enough (Nat.not_lt_zero _)
  | succ fuel ih =>
    unfold fillServiceInfoLoop
    cases named : P.cString.get reply with
    | none =>
      refine ⟨[],by simp,fun services read => ?_⟩
      cases read with
      | done => rfl
      | service _ _ _ _ _ _ got => simp [named] at got
    | some got =>
      obtain ⟨serviceName,r1⟩ := got
      have word := P.cString_word reply serviceName r1 named
      have shorter := readUint16_le P words r1
      obtain ⟨infos,filled,exact_infos⟩ := ih _
        (serviceInfos ++ [⟨serviceName,(P.readUint16 r1).2.1⟩])
        (by omega : (P.readUint16 r1).2.2.length < fuel)
      refine ⟨_,filled.trans (by rw [List.append_assoc]),fun services read => ?_⟩
      cases read with
      | done _ none_left => simp [named] at none_left
      | service _ _ _ devClass r2 later again classed rest =>
        rw [named,Option.some.injEq,Prod.mk.injEq] at again
        obtain ⟨rfl,rfl⟩ := again
        rw [readUint16_some P _ _ _ classed] at exact_infos ⊢
        rw [exact_infos later rest]
        rfl

theorem readIds_words (reply rest : List UInt8) (ids : List UInt32) (read : ReadIds P reply ids rest) :
    rest.length + 4 * ids.length ≤ reply.length := by
  induction read with
  | done reply => simp
  | next reply devId later ids rest got _ ih =>
    have word := words.uint32_word _ _ _ got
    rw [List.length_cons]
    omega

theorem readHosts_words (reply : List UInt8) (infos : List HdiDevHostInfo)
    (read : ReadHosts P reply infos) : 4 * hostEntries infos ≤ reply.length := by
  unfold hostEntries
  induction read with
  | done => simp
  | uncounted reply hostName r1 hostId r2 infos named identified _ _ ih =>
    have name := P.cString_word _ _ _ named
    have word := words.uint32_word _ _ _ identified
    simp only [List.map_cons,List.sum_cons,List.length_nil]
    omega
  | host reply hostName r1 hostId r2 devCnt r3 devId r4 infos named identified counted ids _ _ ih =>
    have name := P.cString_word _ _ _ named
    have word := words.uint32_word _ _ _ identified
    have count := words.uint32_word _ _ _ counted
    have devices := readIds_words P words _ _ _ ids
    simp only [List.map_cons,List.sum_cons]
    omega

theorem readServices_words (reply : List UInt8) (infos : List HdiServiceInfo)
    (read : ReadServices P reply infos) : 4 * infos.length ≤ reply.length := by
  induction read with
  | done => simp
  | service reply serviceName r1 devClass r2 infos named classed _ ih =>
    have name := P.cString_word _ _ _ named
    have word := words.uint16_word _ _ _ classed
    rw [List.length_cons]
    omega

/-- What the clients append was read from the reply, and is no more than its words, exactly when
every name is followed by what belongs to it. -/
theorem lists_read_iff (reply : List UInt8) :
    (∀ deviceInfos, ∃ infos,
      hdfDevMgrDbgFillDeviceInfo P deviceInfos reply = some (deviceInfos ++ infos) ∧
        (ReadHosts P reply infos ∧ hostEntries infos ≤ reply.length / 4 ↔ HostsReadable P reply)) ∧
    ∀ serviceInfos, ∃ infos,
      hdfDevMgrDbgFillServiceInfo P serviceInfos reply = some (serviceInfos ++ infos) ∧
        (ReadServices P reply infos ∧ infos.length ≤ reply.length / 4 ↔
          ServicesReadable P reply) := by
  constructor
  · intro deviceInfos
    obtain ⟨infos,filled,same⟩ := fillDeviceInfoLoop_total P words (reply.length + 1) reply
      deviceInfos (Nat.lt_succ_self _)
    refine ⟨infos,filled,fun read => ⟨infos,read.1⟩,?_⟩
    rintro ⟨hosts,read⟩
    obtain rfl := same hosts read
    have bound := readHosts_words P words reply infos read
    exact ⟨read,by omega⟩
  · intro serviceInfos
    obtain ⟨infos,filled,same⟩ := fillServiceInfoLoop_total P words (reply.length + 1) reply
      serviceInfos (Nat.lt_succ_self _)
    refine ⟨infos,filled,fun read => ⟨infos,read.1⟩,?_⟩
    rintro ⟨services,read⟩
    obtain rfl := same services read
    have bound := readServices_words P words reply infos read
    exact ⟨read,by omega⟩

end Fill

theorem messageParcel_words : WholeWords messageParcel := by
  have word (bytes rest : List UInt8) (n : Nat) (got : readWord bytes = some (n,rest)) :
      rest.length + 4 ≤ bytes.length := by
    obtain ⟨_,rfl⟩ := readWord_some bytes rest n got
    rw [List.length_append]
    exact Nat.le_of_eq (Nat.add_comm _ _)
  constructor
  · intro bytes v rest got
    obtain ⟨⟨n,left⟩,found,same⟩ := Option.map_eq_some_iff.mp got
    obtain ⟨_,rfl⟩ := Prod.mk.inj same
    exact word bytes left n found
  · intro bytes v rest got
    obtain ⟨⟨n,left⟩,found,same⟩ := Option.map_eq_some_iff.mp got
    obtain ⟨_,rfl⟩ := Prod.mk.inj same
    exact word bytes left n found

/-- One name, the identity 7 and a count. -/
def oneHost (devCnt : UInt32) : List UInt8 :=
  messageParcel.cString.put (CString.upToNul [97]) ++
    (messageParcel.uint32.put 7 ++ messageParcel.uint32.put devCnt)

/-- A host with two devices, and two services. -/
def twoDevices : List UInt8 :=
  messageParcel.cString.put (CString.upToNul [97]) ++ (messageParcel.uint32.put 7 ++
    (messageParcel.uint32.put 2 ++ (messageParcel.uint32.put 5 ++ messageParcel.uint32.put 6)))

def twoServices : List UInt8 :=
  messageParcel.cString.put (CString.upToNul [98]) ++ (messageParcel.uint16.put 3 ++
    (messageParcel.cString.put (CString.upToNul [99,100]) ++ messageParcel.uint16.put 1))

theorem lists_read_oneHost :
    (∃ infos, hdfDevMgrDbgFillDeviceInfo messageParcel [] twoDevices = some ([] ++ infos) ∧
        ReadHosts messageParcel twoDevices infos ∧ hostEntries infos ≤ twoDevices.length / 4 ∧
        infos = [⟨CString.upToNul [97],7,[5,6]⟩]) ∧
      ∃ infos, hdfDevMgrDbgFillServiceInfo messageParcel [] twoServices = some ([] ++ infos) ∧
        ReadServices messageParcel twoServices infos ∧ infos.length ≤ twoServices.length / 4 ∧
        infos = [⟨CString.upToNul [98],3⟩,⟨CString.upToNul [99,100],1⟩] := by
  constructor
  · have readable : HostsReadable messageParcel twoDevices :=
      ⟨[⟨CString.upToNul [97],7,[5,6]⟩],.host _ _ _ _ _ _ _ _ _ _ (messageParcel.cString.get_put _ _)
        (messageParcel.uint32.get_put _ _) (messageParcel.uint32.get_put _ _)
        (.next _ _ _ _ _ (messageParcel.uint32.get_put _ _)
          (.next _ _ _ _ [] (messageParcel.uint32.get_put _ []) (.done _))) rfl
        (.done _ (by decide))⟩
    obtain ⟨infos,filled,read⟩ :=
      (lists_read_iff messageParcel messageParcel_words twoDevices).1 []
    have whole := read.mpr readable
    have computed : hdfDevMgrDbgFillDeviceInfo messageParcel [] twoDevices =
        some [⟨CString.upToNul [97],7,[5,6]⟩] := by decide +kernel
    exact ⟨infos,filled,whole.1,whole.2,Option.some.inj (filled.symm.trans computed)⟩
  · have readable : ServicesReadable messageParcel twoServices :=
      ⟨[⟨CString.upToNul [98],3⟩,⟨CString.upToNul [99,100],1⟩],
        .service _ _ _ _ _ _ (messageParcel.cString.get_put _ _) (messageParcel.uint16.get_put _ _)
          (.service _ _ _ _ [] _ (messageParcel.cString.get_put _ _)
            (messageParcel.uint16.get_put _ []) (.done _ (by decide)))⟩
    obtain ⟨infos,filled,read⟩ :=
      (lists_read_iff messageParcel messageParcel_words twoServices).2 []
    have whole := read.mpr readable
    have computed : hdfDevMgrDbgFillServiceInfo messageParcel [] twoServices =
        some [⟨CString.upToNul [98],3⟩,⟨CString.upToNul [99,100],1⟩] := by decide +kernel
    exact ⟨infos,filled,whole.1,whole.2,Option.some.inj (filled.symm.trans computed)⟩

/-- A count of 3 with nothing behind it makes three devices of identity 0, and a name with
nothing behind it a service of class 0. -/
theorem defaults_appended :
    hdfDevMgrDbgFillDeviceInfo messageParcel [] (oneHost 3) =
        some [⟨CString.upToNul [97],7,[0,0,0]⟩] ∧
      ¬ hostEntries [⟨CString.upToNul [97],7,[0,0,0]⟩] ≤ (oneHost 3).length / 4 ∧
      hdfDevMgrDbgFillServiceInfo messageParcel [] [97,0,0,0] =
        some [⟨CString.upToNul [97],0⟩] ∧
      ¬ ReadServices messageParcel [97,0,0,0] [⟨CString.upToNul [97],0⟩] := by
  refine ⟨by decide +kernel,by decide,by decide +kernel,fun read => ?_⟩
  cases read with
  | service _ _ r1 _ _ _ named classed _ =>
    have behind : messageParcel.cString.get [97,0,0,0] = some (CString.upToNul [97],[]) := by decide
    rw [behind,Option.some.injEq,Prod.mk.injEq] at named
    obtain ⟨_,rfl⟩ := named
    cases classed

end DriversAdapter.Hdi
