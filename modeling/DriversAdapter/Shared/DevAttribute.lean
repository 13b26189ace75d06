import DriversAdapter.Ipc.Parcel

/-! The wire format of device attributes: what is written reads back, and which of the
accepted parcels the writer could have written. -/
namespace DriversAdapter.Shared
open DriversAdapter.Semantics DriversAdapter.Ipc

structure HdfDeviceInfo where
  deviceId : UInt32
  policy : UInt16
  svcName : Option CString
  moduleName : Option CString
  deviceMatchAttr : Option CString
  deriving DecidableEq

def attributePrivateDataLengthNull : UInt32 := 0
def attributePrivateDataLengthNormal : UInt32 := 1

/-- The instance `HdfDeviceInfoNewInstance` makes, and which of the copies succeed. -/
structure Allocations where
  newInstance : Option HdfDeviceInfo
  svcName : Bool
  moduleName : Bool
  deviceMatchAttr : Bool
  unset : ∀ info ∈ newInstance, info.deviceMatchAttr = none

def strdup (granted : Bool) (s : CString) : Option CString := if granted then some s else none

theorem strdup_eq_some (granted : Bool) (s t : CString) :
    strdup granted s = some t ↔ granted = true ∧ s = t := by
  unfold strdup
  split_ifs with h <;> simp [h]

section Wire
variable (P : Parcel)

/-- The last part of `DeviceAttributeSerialize`. -/
def serializeMatchAttr : Option CString → Writer
  | some text => (P.writeUint32 attributePrivateDataLengthNormal).both (P.writeString (some text))
  | none => P.writeUint32 attributePrivateDataLengthNull

def deviceAttributeSerialize (attr : HdfDeviceInfo) : Writer :=
  (P.writeUint32 attr.deviceId).andThen <|
    (P.writeUint16 attr.policy).andThen <|
      (P.writeString attr.svcName).andThen <|
        (P.writeString attr.moduleName).andThen <|
          serializeMatchAttr P attr.deviceMatchAttr

def deviceAttributeDeserialize (out : Allocations) (sbuf : List UInt8) :
    Option (HdfDeviceInfo × List UInt8) := do
  let attr ← out.newInstance
  let (deviceId,sbuf) ← P.uint32.get sbuf
  let (policy,sbuf) ← P.uint16.get sbuf
  let (svcName,sbuf) ← P.cString.get sbuf
  let svcName ← strdup out.svcName svcName
  let (moduleName,sbuf) ← P.cString.get sbuf
  let moduleName ← strdup out.moduleName moduleName
  let (length,sbuf) ← P.uint32.get sbuf
  if length = attributePrivateDataLengthNormal then
    let (deviceMatchAttr,sbuf) ← P.cString.get sbuf
    -- the only copy whose failure is not checked
    some (⟨deviceId,policy,some svcName,some moduleName,
      strdup out.deviceMatchAttr deviceMatchAttr⟩,sbuf)
  else some (⟨deviceId,policy,some svcName,some moduleName,attr.deviceMatchAttr⟩,sbuf)

def header : Format UInt8 (UInt32 × UInt16 × CString × CString) :=
  P.uint32.seq (P.uint16.seq (P.cString.seq P.cString))

/-- The flag and the match attribute behind it. -/
def putMatchAttr : Option CString → List UInt8
  | some text => P.uint32.put attributePrivateDataLengthNormal ++ P.cString.put text
  | none => P.uint32.put attributePrivateDataLengthNull

theorem serialize_taken (attr : HdfDeviceInfo) (sbuf : List UInt8)
    (taken : (deviceAttributeSerialize P attr sbuf).1 = true) :
    ∃ svcName moduleName, attr.svcName = some svcName ∧ attr.moduleName = some moduleName ∧
      (deviceAttributeSerialize P attr sbuf).2 =
        sbuf ++ ((header P).put (attr.deviceId,attr.policy,svcName,moduleName) ++
          putMatchAttr P attr.deviceMatchAttr) := by
  obtain ⟨deviceId,policy,svcName,moduleName,deviceMatchAttr⟩ := attr
  have written := taken
  unfold deviceAttributeSerialize at taken
  obtain ⟨_,rest⟩ := Writer.andThen_taken _ _ _ taken
  rw [rest] at taken
  obtain ⟨_,rest⟩ := Writer.andThen_taken _ _ _ taken
  rw [rest] at taken
  obtain ⟨named,rest⟩ := Writer.andThen_taken _ _ _ taken
  rw [rest] at taken
  obtain ⟨modular,_⟩ := Writer.andThen_taken _ _ _ taken
  cases svcName with
  | none => cases named
  | some svcName =>
    cases moduleName with
    | none => cases modular
    | some moduleName =>
      refine ⟨svcName,moduleName,rfl,rfl,?_⟩
      have tail : (serializeMatchAttr P deviceMatchAttr).Takes (putMatchAttr P deviceMatchAttr) := by
        cases deviceMatchAttr with
        | none => exact P.write_taken _
        | some text => exact Writer.takes_both _ _ _ _ (P.write_taken _) (P.write_taken _)
      have all := Writer.takes_andThen _ _ _ _ (P.write_taken (P.uint32.put deviceId))
        (Writer.takes_andThen _ _ _ _ (P.write_taken (P.uint16.put policy))
          (Writer.takes_andThen _ _ _ _ (P.write_taken (P.cString.put svcName))
            (Writer.takes_andThen _ _ _ _ (P.write_taken (P.cString.put moduleName)) tail)))
      refine (all sbuf written).trans ?_
      simp only [header,Format.seq,List.append_assoc]

theorem serialize_unlimited (deviceId : UInt32) (policy : UInt16) (svcName moduleName : CString)
    (deviceMatchAttr : Option CString) :
    deviceAttributeSerialize P.unlimited
        ⟨deviceId,policy,some svcName,some moduleName,deviceMatchAttr⟩ [] =
      (true,(header P).put (deviceId,policy,svcName,moduleName) ++
        putMatchAttr P deviceMatchAttr) := by
  cases deviceMatchAttr <;>
    simp [deviceAttributeSerialize,serializeMatchAttr,Writer.andThen,Writer.both,Parcel.writeUint32,
      Parcel.writeUint16,Parcel.writeString,header,Format.seq,putMatchAttr,Parcel.unlimited,
      Parcel.write]

theorem deserialize_eq_some_iff (out : Allocations) (sbuf rest : List UInt8)
    (info : HdfDeviceInfo) :
    deviceAttributeDeserialize P out sbuf = some (info,rest) ↔
      out.newInstance.isSome ∧ out.svcName = true ∧ out.moduleName = true ∧
        ∃ deviceId policy svcName moduleName middle length later,
          (header P).get sbuf = some ((deviceId,policy,svcName,moduleName),middle) ∧
          P.uint32.get middle = some (length,later) ∧
          ((length = attributePrivateDataLengthNormal ∧ ∃ text,
              P.cString.get later = some (text,rest) ∧
              info = ⟨deviceId,policy,some svcName,some moduleName,
                strdup out.deviceMatchAttr text⟩) ∨
            length ≠ attributePrivateDataLengthNormal ∧ later = rest ∧
              info = ⟨deviceId,policy,some svcName,some moduleName,none⟩) := by
  unfold deviceAttributeDeserialize header
  simp only [Format.seq_get_iff,Option.bind_eq_bind,Option.bind_eq_some_iff,strdup_eq_some]
  constructor
  · rintro ⟨fresh,made,⟨deviceId,r1⟩,h1,⟨policy,r2⟩,h2,⟨svcName,r3⟩,h3,_,⟨granted,rfl⟩,
      ⟨moduleName,r4⟩,h4,_,⟨allowed,rfl⟩,⟨length,later⟩,h5,got⟩
    refine ⟨Option.isSome_iff_exists.mpr ⟨fresh,made⟩,granted,allowed,deviceId,policy,svcName,
      moduleName,r4,length,later,⟨r1,h1,r2,h2,r3,h3,h4⟩,h5,?_⟩
    dsimp only at got
    split_ifs at got with normal
    · obtain ⟨⟨text,left⟩,h6,same⟩ := Option.bind_eq_some_iff.mp got
      obtain ⟨rfl,rfl⟩ := Prod.mk.inj (Option.some.inj same)
      exact .inl ⟨normal,text,h6,rfl⟩
    · obtain ⟨rfl,rfl⟩ := Prod.mk.inj (Option.some.inj got)
      refine .inr ⟨normal,rfl,?_⟩
      rw [out.unset fresh made]
  · rintro ⟨made,granted,allowed,deviceId,policy,svcName,moduleName,r4,length,later,
      ⟨r1,h1,r2,h2,r3,h3,h4⟩,h5,read⟩
    obtain ⟨fresh,made⟩ := Option.isSome_iff_exists.mp made
    refine ⟨fresh,made,⟨deviceId,r1⟩,h1,⟨policy,r2⟩,h2,⟨svcName,r3⟩,h3,svcName,⟨granted,rfl⟩,
      ⟨moduleName,r4⟩,h4,moduleName,⟨allowed,rfl⟩,⟨length,later⟩,h5,?_⟩
    dsimp only
    rcases read with ⟨normal,text,h6,rfl⟩ | ⟨other,rfl,rfl⟩
    · rw [if_pos normal,h6,Option.bind_some]
    · rw [if_neg other,out.unset fresh made]

theorem deserialize_fields_iff (out : Allocations) (sbuf middle later rest : List UInt8)
    (info : HdfDeviceInfo) (deviceId : UInt32) (policy : UInt16) (svcName moduleName : CString)
    (length : UInt32)
    (fields : (header P).get sbuf = some ((deviceId,policy,svcName,moduleName),middle))
    (flag : P.uint32.get middle = some (length,later)) :
    deviceAttributeDeserialize P out sbuf = some (info,rest) ↔
      out.newInstance.isSome ∧ out.svcName = true ∧ out.moduleName = true ∧
        ((length = attributePrivateDataLengthNormal ∧ ∃ text,
            P.cString.get later = some (text,rest) ∧
            info = ⟨deviceId,policy,some svcName,some moduleName,
              strdup out.deviceMatchAttr text⟩) ∨
          length ≠ attributePrivateDataLengthNormal ∧ later = rest ∧
            info = ⟨deviceId,policy,some svcName,some moduleName,none⟩) := by
  rw [deserialize_eq_some_iff]
  refine and_congr_right fun _ => and_congr_right fun _ => and_congr_right fun _ => ⟨?_,?_⟩
  · rintro ⟨_,_,_,_,_,_,_,fields',flag',read⟩
    rw [fields,Option.some.injEq,Prod.mk.injEq,Prod.mk.injEq,Prod.mk.injEq,Prod.mk.injEq] at fields'
    obtain ⟨⟨rfl,rfl,rfl,rfl⟩,rfl⟩ := fields'
    rw [flag,Option.some.injEq,Prod.mk.injEq] at flag'
    obtain ⟨rfl,rfl⟩ := flag'
    exact read
  · intro read
    exact ⟨deviceId,policy,svcName,moduleName,middle,length,later,fields,flag,read⟩

/-- Every allocation that a parcel of this attribute needs succeeds. -/
def Allocations.Grants (out : Allocations) (attr : HdfDeviceInfo) : Prop :=
  out.newInstance.isSome ∧ out.svcName = true ∧ out.moduleName = true ∧
    (attr.deviceMatchAttr.isSome → out.deviceMatchAttr = true)

/-- The fields are as the writer pads them, the length flag is one of its two, and the copy
of a match attribute succeeds. -/
def AsWritten (out : Allocations) (sbuf : List UInt8) : Prop :=
  (header P).Canonical sbuf ∧ ∀ fields middle length later,
    (header P).get sbuf = some (fields,middle) → P.uint32.get middle = some (length,later) →
      length = attributePrivateDataLengthNull ∨
        length = attributePrivateDataLengthNormal ∧ out.deviceMatchAttr = true ∧
          P.cString.Canonical later

/-- The parcel of a serialization reads back exactly when the allocations succeed. -/
theorem serialized_read_back (out : Allocations) (attr : HdfDeviceInfo) (words rest : List UInt8)
    (written : deviceAttributeSerialize P attr [] = (true,words)) :
    deviceAttributeDeserialize P out (words ++ rest) = some (attr,rest) ↔ out.Grants attr := by
  obtain ⟨svcName,moduleName,named,modular,bytes⟩ :=
    serialize_taken P attr [] (congrArg Prod.fst written)
  obtain ⟨deviceId,policy,_,_,deviceMatchAttr⟩ := attr
  dsimp only at named modular
  subst named modular
  obtain rfl : words = _ := (congrArg Prod.snd written).symm.trans bytes
  rw [List.nil_append,List.append_assoc]
  have fields := (header P).get_put (deviceId,policy,svcName,moduleName)
    (putMatchAttr P deviceMatchAttr ++ rest)
  cases deviceMatchAttr with
  | none =>
    rw [deserialize_fields_iff P out _ _ rest rest _ _ _ _ _ _ fields (P.uint32.get_put _ rest)]
    simp [Allocations.Grants,attributePrivateDataLengthNull,attributePrivateDataLengthNormal]
  | some text =>
    have flag : P.uint32.get (putMatchAttr P (some text) ++ rest) =
        some (attributePrivateDataLengthNormal,P.cString.put text ++ rest) := by
      rw [putMatchAttr,List.append_assoc,P.uint32.get_put]
    rw [deserialize_fields_iff P out _ _ _ rest _ _ _ _ _ _ fields flag]
    have copied : some text = strdup out.deviceMatchAttr text ↔ out.deviceMatchAttr = true := by
      rw [eq_comm,strdup_eq_some]
      simp
    simp [Allocations.Grants,P.cString.get_put,copied]

/-- An accepted parcel is one the writer writes for the attribute exactly when it is as
written. -/
theorem accepted_serializable (out : Allocations) (info : HdfDeviceInfo)
    (sbuf rest : List UInt8) (got : deviceAttributeDeserialize P out sbuf = some (info,rest)) :
    (∃ words, deviceAttributeSerialize P.unlimited info [] = (true,words) ∧ sbuf = words ++ rest) ↔
      AsWritten P out sbuf := by
  obtain ⟨_,_,_,deviceId,policy,svcName,moduleName,middle,length,later,fields,flag,read⟩ :=
    (deserialize_eq_some_iff P out sbuf rest info).mp got
  obtain ⟨matchAttr,rfl⟩ : ∃ matchAttr,
      info = ⟨deviceId,policy,some svcName,some moduleName,matchAttr⟩ := by
    rcases read with ⟨_,text,_,rfl⟩ | ⟨_,_,rfl⟩
    · exact ⟨_,rfl⟩
    · exact ⟨_,rfl⟩
  have parts : (∃ words, deviceAttributeSerialize P.unlimited
        ⟨deviceId,policy,some svcName,some moduleName,matchAttr⟩ [] = (true,words) ∧
          sbuf = words ++ rest) ↔
      middle = putMatchAttr P matchAttr ++ rest ∧ (header P).Canonical sbuf := by
    rw [serialize_unlimited]
    simp only [Prod.mk.injEq,true_and,exists_eq_left',List.append_assoc]
    rw [(header P).eq_put_append_iff sbuf middle _ _ _ fields]
    simp
  have asWritten : AsWritten P out sbuf ↔ (length = attributePrivateDataLengthNull ∨
      length = attributePrivateDataLengthNormal ∧ out.deviceMatchAttr = true ∧
        P.cString.Canonical later) ∧ (header P).Canonical sbuf := by
    unfold AsWritten
    rw [and_comm]
    refine and_congr_left fun _ => ⟨fun all => all _ _ _ _ fields flag,?_⟩
    intro here _ _ _ _ fields' flag'
    rw [fields,Option.some.injEq,Prod.mk.injEq] at fields'
    obtain ⟨rfl,rfl⟩ := fields'
    rw [flag,Option.some.injEq,Prod.mk.injEq] at flag'
    obtain ⟨rfl,rfl⟩ := flag'
    exact here
  rw [parts,asWritten]
  refine and_congr_left fun _ => ?_
  have canonical := P.uint32_canonical middle
  have differ : attributePrivateDataLengthNormal ≠ attributePrivateDataLengthNull := by decide
  rcases read with ⟨rfl,text,reads,same⟩ | ⟨other,rfl,same⟩
  · obtain rfl : matchAttr = strdup out.deviceMatchAttr text := congrArg (·.deviceMatchAttr) same
    cases granted : out.deviceMatchAttr with
    | false =>
      change middle = P.uint32.put _ ++ rest ↔ _
      rw [P.uint32.eq_put_append_iff middle later rest _ _ flag]
      simp [differ]
    | true =>
      change middle = P.uint32.put _ ++ P.cString.put text ++ rest ↔ _
      rw [List.append_assoc,P.uint32.eq_put_append_iff middle later _ _ _ flag,
        P.cString.eq_put_append_iff later rest rest _ _ reads]
      simp [differ,canonical]
  · obtain rfl : matchAttr = none := congrArg (·.deviceMatchAttr) same
    change middle = P.uint32.put _ ++ later ↔ _
    rw [P.uint32.eq_put_append_iff middle later later _ _ flag]
    simp [other,canonical]

/-- A serialization reads back, with exactly its words consumed, when and only when the
allocations succeed, and an accepted parcel is one that can be written for the attribute it
is read as when and only when it is as written. -/
theorem attribute_wire_iff (out : Allocations) :
    (∀ attr words rest, deviceAttributeSerialize P attr [] = (true,words) →
      (deviceAttributeDeserialize P out (words ++ rest) = some (attr,rest) ↔ out.Grants attr)) ∧
    ∀ info sbuf rest, deviceAttributeDeserialize P out sbuf = some (info,rest) →
      ((∃ words, deviceAttributeSerialize P.unlimited info [] = (true,words) ∧
          sbuf = words ++ rest) ↔ AsWritten P out sbuf) :=
  ⟨fun attr words rest written => serialized_read_back P out attr words rest written,
    fun info sbuf rest got => accepted_serializable P out info sbuf rest got⟩

end Wire

def textA : CString := CString.upToNul [97]
def textB : CString := CString.upToNul [98]

def allGranted : Allocations := ⟨some ⟨0,0,none,none,none⟩,true,true,true,by simp⟩

/-- A parcel as the writer writes it, but for its length flag. -/
def flagged (length : UInt32) : List UInt8 :=
  (header messageParcel).put (7,1,textA,textB) ++ messageParcel.uint32.put length

theorem attribute_wire_flagged :
    deviceAttributeDeserialize messageParcel allGranted (flagged 0 ++ [5]) =
        some (⟨7,1,some textA,some textB,none⟩,[5]) ∧
      AsWritten messageParcel allGranted (flagged 0) := by
  obtain ⟨read_back,accepted⟩ := attribute_wire_iff messageParcel allGranted
  refine ⟨?_,?_⟩
  · refine (read_back ⟨7,1,some textA,some textB,none⟩ (flagged 0) [5] (by decide +kernel)).mpr ?_
    exact ⟨rfl,rfl,rfl,fun missing => nomatch missing⟩
  · refine (accepted ⟨7,1,some textA,some textB,none⟩ (flagged 0) [] (by decide +kernel)).mp ?_
    exact ⟨flagged 0,by decide +kernel,by decide +kernel⟩

/-- A flag of 2 is accepted, and the attribute it is read as is written with a flag of 0. -/
theorem foreign_flag_accepted :
    deviceAttributeDeserialize messageParcel allGranted (flagged 2) =
        some (⟨7,1,some textA,some textB,none⟩,[]) ∧
      deviceAttributeSerialize messageParcel.unlimited ⟨7,1,some textA,some textB,none⟩ [] =
        (true,flagged 0) ∧ flagged 2 ≠ flagged 0 := by
  decide +kernel

end DriversAdapter.Shared
