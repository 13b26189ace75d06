import DriversAdapter.Base.Memory
import DriversAdapter.Base.Word
import DriversAdapter.Devmgr.Registry

/-! The query for devices: the records the manager writes for its registry, and the list
that the client reads back from a reply and from a reply that is cut short. -/
namespace DriversAdapter.Devmgr
open DriversAdapter.Base DriversAdapter.Semantics DriversAdapter.Ipc

def HdfDeviceType.value : HdfDeviceType → Int32
  | .localService => 0
  | .remoteService => 1

def HdfDeviceType.ofValue (v : Int32) : Option HdfDeviceType :=
  if v = 0 then some .localService else if v = 1 then some .remoteService else none

theorem HdfDeviceType.ofValue_value (t : HdfDeviceType) : ofValue t.value = some t := by
  cases t <;> rfl

/-- Values that the driver framework defines. -/
structure Constants where
  servicePolicyPublic : UInt16
  servicePolicyCapacity : UInt16
  hdfServiceUnusable : UInt16
  hdfServiceUsable : UInt16

structure DeviceInfoNode where
  svcName : CString
  deviceType : HdfDeviceType
  deriving DecidableEq

structure DeviceInfoList where
  deviceCnt : UInt32
  list : List DeviceInfoNode
  deriving DecidableEq

def DeviceInfoList.insertTail (list : DeviceInfoList) (node : DeviceInfoNode) : DeviceInfoList :=
  ⟨list.deviceCnt + 1,list.list ++ [node]⟩

/-- `strcpy_s` of a string to a buffer of `destMax` bytes. -/
def strcpyS (destMax : Nat) (src : CString) : Int :=
  if destMax = 0 ∨ secureMemMaxLen < destMax then erange
  else if destMax ≤ src.strlen then erangeAndReset
  else eok

/-- The length with the NUL, as the `int32_t` it is kept in. -/
def svrNameLen (svrName : CString) : Int :=
  let len : Nat := (svrName.strlen + 1) % 2^32
  if len < 2^31 then (len : Int) else (len : Int) - 2^32

/-- An `int32_t` passed for a `size_t`. -/
def sizeT (n : Int) : Nat := (n % 2^64).toNat

theorem strcpyS_ok_iff (svrName : CString) :
    strcpyS (sizeT (svrNameLen svrName)) svrName = eok ↔ svrName.strlen + 1 < 2^31 := by
  unfold strcpyS sizeT svrNameLen secureMemMaxLen erange erangeAndReset eok
  dsimp only
  split_ifs <;> simp only [false_iff,true_iff,Int.reduceEq] <;> omega

section Query
variable (P : Parcel) (K : Constants)

/-- The entry passes the filter of the query. -/
def Asked (status : UInt16) (deviceInfo : HdfDeviceInfo) : Prop :=
  (deviceInfo.policy = K.servicePolicyCapacity ∨ deviceInfo.policy = K.servicePolicyPublic) ∧
    deviceInfo.status = status

instance (status : UInt16) (deviceInfo : HdfDeviceInfo) : Decidable (Asked K status deviceInfo) :=
  inferInstanceAs (Decidable (_ ∧ _))

def fillDevInfos (status : UInt16) : List HdfDeviceInfo → Writer
  | [] => Writer.nothing
  | deviceInfo::rest =>
    if Asked K status deviceInfo then
      (P.writeString deviceInfo.svcName).andThen <|
        (P.writeInt32 deviceInfo.deviceType.value).andThen (fillDevInfos status rest)
    else fillDevInfos status rest

def fillHosts (status : UInt16) : List DevHostServiceClnt → Writer
  | [] => Writer.nothing
  | hostClnt::rest => (fillDevInfos P K status hostClnt.unloadDevInfos).andThen (fillHosts status rest)

/-- The status the request asks for; it is 0 when it cannot be read. -/
def requested (data : List UInt8) : UInt16 := (P.readUint16 data).2.1

def devFillQueryDeviceInfo (hosts : List DevHostServiceClnt) (data reply : List UInt8) :
    Int × List UInt8 :=
  let status := requested P data
  if status ≠ K.hdfServiceUnusable ∧ status ≠ K.hdfServiceUsable then (hdfFailure,reply)
  else
    let filled := fillHosts P K status hosts reply
    (if filled.1 then hdfSuccess else hdfFailure,filled.2)

/-- `calloc` tells which of the allocations succeed, by their number. -/
def hdfObtainDeviceInfoLoop (calloc : Nat → Bool) :
    Nat → Nat → List UInt8 → DeviceInfoList → Option (Int × DeviceInfoList)
  | 0, _, _, _ => none
  | fuel + 1, i, reply, list =>
    match P.cString.get reply with
    | none => some (hdfSuccess,list)
    | some (svrName,reply) =>
      if calloc i = false then some (hdfFailure,⟨0,[]⟩)
      else if strcpyS (sizeT (svrNameLen svrName)) svrName ≠ eok then
        hdfObtainDeviceInfoLoop calloc fuel (i + 1) reply list
      else
        -- the result of the reader is not looked at, only the 0 it stores on failure
        let read := P.readInt32 reply
        match HdfDeviceType.ofValue read.2.1 with
        | none => hdfObtainDeviceInfoLoop calloc fuel (i + 1) read.2.2 list
        | some deviceType =>
          hdfObtainDeviceInfoLoop calloc fuel (i + 1) read.2.2
            (list.insertTail ⟨svrName,deviceType⟩)

/-- Every pass takes a byte at least, so that this many are enough. -/
def hdfObtainDeviceInfo (calloc : Nat → Bool) (reply : List UInt8) :
    Option (Int × DeviceInfoList) :=
  hdfObtainDeviceInfoLoop P calloc (reply.length + 1) 0 reply ⟨0,[]⟩

/-- What the query asks of the registry, in the order of its lists. -/
def reported (status : UInt16) (hosts : List DevHostServiceClnt) : List DeviceInfoNode :=
  hosts.flatMap fun hostClnt => hostClnt.unloadDevInfos.filterMap fun deviceInfo =>
    if Asked K status deviceInfo then deviceInfo.svcName.map (⟨·,deviceInfo.deviceType⟩)
    else none

def record : Format UInt8 DeviceInfoNode :=
  (P.cString.seq P.int32).via (fun node => (node.svcName,node.deviceType.value))
    (fun got => (HdfDeviceType.ofValue got.2).map fun deviceType => ⟨got.1,deviceType⟩)
    (fun node => by rw [HdfDeviceType.ofValue_value]; rfl)

theorem record_put (node : DeviceInfoNode) :
    (record P).put node = P.cString.put node.svcName ++ P.int32.put node.deviceType.value := rfl

theorem record_some (node : DeviceInfoNode) : (record P).put node ≠ [] := by
  intro none_put
  have four := P.int32_length node.deviceType.value
  rw [(List.append_eq_nil_iff.mp none_put).2] at four
  contradiction

theorem fillDevInfos_taken (status : UInt16) (infos : List HdfDeviceInfo) (reply : List UInt8)
    (taken : (fillDevInfos P K status infos reply).1 = true) :
    (fillDevInfos P K status infos reply).2 = reply ++ (record P).puts (infos.filterMap
      fun deviceInfo => if Asked K status deviceInfo then
        deviceInfo.svcName.map (⟨·,deviceInfo.deviceType⟩) else none) := by
  induction infos generalizing reply with
  | nil => exact (List.append_nil reply).symm
  | cons deviceInfo rest ih =>
    unfold fillDevInfos at taken ⊢
    rw [List.filterMap_cons]
    split_ifs at taken ⊢ with asked
    · obtain ⟨svcName,_,_,deviceType⟩ := deviceInfo
      obtain ⟨named,same⟩ := Writer.andThen_taken _ _ _ taken
      cases svcName with
      | none => cases named
      | some svcName =>
        rw [same] at taken ⊢
        obtain ⟨typed,same'⟩ := Writer.andThen_taken _ _ _ taken
        rw [same'] at taken ⊢
        have first : (P.writeString (some svcName) reply).2 = _ := P.write_taken _ reply named
        have second : (P.writeInt32 deviceType.value _).2 = _ := P.write_taken _ _ typed
        rw [ih _ taken,second,first]
        simp [record_put,List.append_assoc]
    · exact ih reply taken

theorem fillHosts_taken (status : UInt16) (hosts : List DevHostServiceClnt) (reply : List UInt8)
    (taken : (fillHosts P K status hosts reply).1 = true) :
    (fillHosts P K status hosts reply).2 = reply ++ (record P).puts (reported K status hosts) := by
  induction hosts generalizing reply with
  | nil => exact (List.append_nil reply).symm
  | cons hostClnt rest ih =>
    unfold fillHosts at taken ⊢
    obtain ⟨begun,same⟩ := Writer.andThen_taken _ _ _ taken
    rw [same] at taken ⊢
    rw [ih _ taken,fillDevInfos_taken P K status _ reply begun,List.append_assoc,
      ← Format.puts_append]
    rfl

theorem devFill_reply (hosts : List DevHostServiceClnt) (data reply : List UInt8)
    (filled : devFillQueryDeviceInfo P K hosts data [] = (hdfSuccess,reply)) :
    reply = (record P).puts (reported K (requested P data) hosts) := by
  unfold devFillQueryDeviceInfo at filled
  dsimp only at filled
  split_ifs at filled with foreign taken
  · have impossible : hdfFailure = hdfSuccess := congrArg Prod.fst filled
    exact absurd impossible (by decide)
  · obtain rfl := congrArg Prod.snd filled
    exact fillHosts_taken P K _ hosts [] taken
  · have impossible : hdfFailure = hdfSuccess := congrArg Prod.fst filled
    exact absurd impossible (by decide)

theorem int32_get_nil : P.int32.get [] = none := by
  refine P.int32_cut 0 [] List.nil_prefix (fun same => ?_)
  have four := P.int32_length 0
  rw [← same] at four
  contradiction

theorem record_cut (e : DeviceInfoNode) (part : List UInt8) (prefixed : part <+: (record P).put e)
    (short : part ≠ (record P).put e) :
    P.cString.get part = none ∨ ∃ left, P.cString.get part = some (e.svcName,left) ∧
      left.length < 4 ∧ P.int32.get left = none := by
  rw [record_put] at prefixed short
  rcases Format.cut_append _ _ part prefixed short with ⟨inside,proper⟩ | ⟨left,rfl,behind,proper⟩
  · rcases P.cString_cut e.svcName part inside proper with lost | padded
    · exact .inl lost
    · exact .inr ⟨[],padded,by simp,int32_get_nil P⟩
  · refine .inr ⟨left,P.cString.get_put _ _,?_,P.int32_cut _ left behind proper⟩
    have bound := behind.length_le
    have differs : left.length ≠ (P.int32.put e.deviceType.value).length :=
      fun same => proper (behind.eq_of_length same)
    rw [P.int32_length] at bound differs
    omega

section Loop
variable (calloc : Nat → Bool) (fuel i : Nat) (list : DeviceInfoList)

theorem loop_stop (reply : List UInt8) (unread : P.cString.get reply = none) :
    hdfObtainDeviceInfoLoop P calloc (fuel + 1) i reply list = some (hdfSuccess,list) := by
  unfold hdfObtainDeviceInfoLoop
  rw [unread]

theorem loop_refused (reply left : List UInt8) (name : CString)
    (named : P.cString.get reply = some (name,left)) (refused : calloc i = false) :
    hdfObtainDeviceInfoLoop P calloc (fuel + 1) i reply list = some (hdfFailure,⟨0,[]⟩) := by
  rw [hdfObtainDeviceInfoLoop,named]
  exact if_pos refused

/-- A name whose type cannot be read makes a local entry. -/
theorem loop_stranded (reply left : List UInt8) (name : CString)
    (named : P.cString.get reply = some (name,left)) (granted : calloc i = true)
    (short : name.strlen + 1 < 2^31) (untyped : P.int32.get left = none) :
    hdfObtainDeviceInfoLoop P calloc (fuel + 1) i reply list =
      hdfObtainDeviceInfoLoop P calloc fuel (i + 1) left
        (list.insertTail ⟨name,.localService⟩) := by
  rw [hdfObtainDeviceInfoLoop,named]
  dsimp only
  rw [if_neg (by simp [granted]),if_neg (not_not.mpr ((strcpyS_ok_iff name).mpr short)),
    Parcel.readInt32,untyped]
  rfl

theorem loop_record (e : DeviceInfoNode) (rest : List UInt8) (granted : calloc i = true)
    (short : e.svcName.strlen + 1 < 2^31) :
    hdfObtainDeviceInfoLoop P calloc (fuel + 1) i ((record P).put e ++ rest) list =
      hdfObtainDeviceInfoLoop P calloc fuel (i + 1) rest (list.insertTail e) := by
  rw [record_put,List.append_assoc,hdfObtainDeviceInfoLoop,P.cString.get_put]
  dsimp only
  rw [if_neg (by simp [granted]),if_neg (not_not.mpr ((strcpyS_ok_iff _).mpr short)),
    Parcel.readInt32,P.int32.get_put]
  dsimp only
  rw [HdfDeviceType.ofValue_value]

end Loop

/-- Whole records make their entries, as long as the allocations succeed. -/
theorem loop_records (calloc : Nat → Bool) (entries : List DeviceInfoNode)
    (short : ∀ e ∈ entries, e.svcName.strlen + 1 < 2^31) (fuel i : Nat) (part : List UInt8)
    (list : DeviceInfoList) :
    hdfObtainDeviceInfoLoop P calloc (fuel + entries.length) i ((record P).puts entries ++ part)
        list =
      if ∀ j < entries.length, calloc (i + j) = true then
        hdfObtainDeviceInfoLoop P calloc fuel (i + entries.length) part
          ⟨list.deviceCnt + .ofNat entries.length,list.list ++ entries⟩
      else some (hdfFailure,⟨0,[]⟩) := by
  induction entries generalizing i list with
  | nil => simp
  | cons e rest ih =>
    rw [Format.puts_cons,List.append_assoc,List.length_cons,← Nat.add_assoc]
    by_cases granted : calloc i = true
    · rw [loop_record P calloc _ i list e _ granted (short e List.mem_cons_self),
        ih (fun e member => short e (List.mem_cons_of_mem _ member))]
      have later : (∀ j < rest.length, calloc (i + 1 + j) = true) ↔
          ∀ j < rest.length + 1, calloc (i + j) = true := by
        constructor
        · intro all j bound
          cases j with
          | zero => exact granted
          | succ j =>
            rw [show i + (j + 1) = i + 1 + j by omega]
            exact all j (by omega)
        · intro all j bound
          rw [show i + 1 + j = i + (j + 1) by omega]
          exact all (j + 1) (by omega)
      have count : list.deviceCnt + 1 + UInt32.ofNat rest.length =
          list.deviceCnt + UInt32.ofNat (rest.length + 1) := by
        rw [UInt32.ofNat_add,UInt32.add_assoc,UInt32.add_comm 1]
        rfl
      have index : i + 1 + rest.length = i + (rest.length + 1) := by omega
      simp only [later,DeviceInfoList.insertTail,count,index,List.append_assoc,
        List.singleton_append]
    · rw [if_neg fun all => granted (all 0 (Nat.succ_pos _)),record_put,List.append_assoc]
      exact loop_refused P calloc _ i list _ _ _ (P.cString.get_put _ _) (Bool.not_eq_true _ ▸ granted)

theorem loop_short (calloc : Nat → Bool) (fuel i : Nat) (reply : List UInt8)
    (list result : DeviceInfoList) (ret : Int)
    (short : ∀ e ∈ list.list, e.svcName.strlen + 1 < 2^31)
    (returned : hdfObtainDeviceInfoLoop P calloc fuel i reply list = some (ret,result)) :
    ∀ e ∈ result.list, e.svcName.strlen + 1 < 2^31 := by
  induction fuel generalizing i reply list with
  | zero => cases returned
  | succ fuel ih =>
    unfold hdfObtainDeviceInfoLoop at returned
    split at returned
    next =>
      obtain ⟨rfl,rfl⟩ := Prod.mk.inj (Option.some.inj returned)
      exact short
    next svrName left named =>
      split_ifs at returned with refused long
      · obtain ⟨rfl,rfl⟩ := Prod.mk.inj (Option.some.inj returned)
        exact fun e member => nomatch member
      · exact ih _ _ _ short returned
      · rw [not_not,strcpyS_ok_iff] at long
        dsimp only at returned
        split at returned
        next => exact ih _ _ _ short returned
        next deviceType typed =>
          refine ih _ _ _ ?_ returned
          intro e member
          rcases List.mem_append.mp member with earlier | last
          · exact short e earlier
          · obtain rfl := List.mem_singleton.mp last
            exact long

/-- What is read from a cut record is the record itself: its name is lost, or its entry is
local and what is left of its type reads as no string, or as the name of the local entry
that follows. A list that is given up for want of memory holds nothing. -/
def CutSafe (calloc : Nat → Bool) (i : Nat) (e : DeviceInfoNode) (later : List DeviceInfoNode)
    (part : List UInt8) : Prop :=
  ∀ name left, P.cString.get part = some (name,left) →
    match P.cString.get left with
    | none => e.deviceType = .localService
    | some (text,_) => calloc (i + 1) = false ∨
        e.deviceType = .localService ∧ ∃ rest, later = ⟨text,.localService⟩ :: rest

/-- A full reply is read as what was asked exactly when the allocations succeed and no name
is over-long. -/
theorem full_obtained_iff (calloc : Nat → Bool) (entries : List DeviceInfoNode) :
    hdfObtainDeviceInfo P calloc ((record P).puts entries) =
        some (hdfSuccess,⟨.ofNat entries.length,entries⟩) ↔
      (∀ j < entries.length, calloc j = true) ∧
        ∀ e ∈ entries, e.svcName.strlen + 1 < 2^31 := by
  obtain ⟨k,fuel⟩ := Nat.exists_eq_add_of_le ((record P).puts_length (record_some P) entries)
  have loops (short : ∀ e ∈ entries, e.svcName.strlen + 1 < 2^31) :
      hdfObtainDeviceInfo P calloc ((record P).puts entries) =
        if ∀ j < entries.length, calloc j = true then
          some (hdfSuccess,⟨.ofNat entries.length,entries⟩) else some (hdfFailure,⟨0,[]⟩) := by
    have run := loop_records P calloc entries short (k + 1) 0 [] ⟨0,[]⟩
    simp only [List.append_nil,Nat.zero_add,List.nil_append,UInt32.zero_add,
      loop_stop P calloc k _ _ [] P.cString_get_nil] at run
    rw [← run,hdfObtainDeviceInfo,fuel]
    congr 1
    omega
  constructor
  · intro whole
    have short := loop_short P calloc _ 0 _ ⟨0,[]⟩ _ _ (fun e member => nomatch member) whole
    refine ⟨?_,short⟩
    rw [loops short] at whole
    by_contra refused
    rw [if_neg refused] at whole
    have impossible : hdfFailure = hdfSuccess := congrArg Prod.fst (Option.some.inj whole)
    exact absurd impossible (by decide)
  · rintro ⟨granted,short⟩
    rw [loops short,if_pos granted]

theorem loop_cut (calloc : Nat → Bool) (fuel i : Nat) (e : DeviceInfoNode) (part : List UInt8)
    (list : DeviceInfoList) (granted : calloc i = true) (short : e.svcName.strlen + 1 < 2^31)
    (prefixed : part <+: (record P).put e) (proper : part ≠ (record P).put e) :
    ∃ ret result,
      hdfObtainDeviceInfoLoop P calloc (fuel + part.length + 1) i part list = some (ret,result) ∧
        match P.cString.get part with
        | none => result.list = list.list
        | some (_,left) =>
          match P.cString.get left with
          | none => result.list = list.list ++ [⟨e.svcName,.localService⟩]
          | some (text,_) =>
            if calloc (i + 1) = false then result.list = []
            else result.list = list.list ++ [⟨e.svcName,.localService⟩,⟨text,.localService⟩] := by
  rcases record_cut P e part prefixed proper with lost | ⟨left,named,few,untyped⟩
  · refine ⟨hdfSuccess,list,loop_stop P calloc _ i list part lost,?_⟩
    rw [lost]
  · obtain ⟨taken,shorter⟩ := P.cString_word part e.svcName left named
    obtain ⟨m,size⟩ := Nat.exists_eq_add_of_lt taken
    rw [loop_stranded P calloc _ i list part left _ named granted short untyped]
    simp only [named]
    cases unread : P.cString.get left with
    | none =>
      rw [show fuel + part.length = fuel + (e.svcName.strlen + m) + 1 by omega,
        loop_stop P calloc _ _ _ left unread]
      exact ⟨_,_,rfl,rfl⟩
    | some found =>
      obtain ⟨text,behind⟩ := found
      obtain ⟨some_left,gone⟩ := P.cString_word left text behind unread
      obtain rfl : behind = [] := List.length_eq_zero_iff.mp (by omega)
      obtain ⟨l,rest⟩ : ∃ l, part.length = l + 2 := ⟨part.length - 2,by omega⟩
      rw [rest]
      by_cases refused : calloc (i + 1) = false
      · rw [← Nat.add_assoc,loop_refused P calloc _ _ _ left _ text unread refused]
        exact ⟨_,_,rfl,by simp [refused]⟩
      · rw [← Nat.add_assoc,loop_stranded P calloc _ _ _ left _ text unread
          (Bool.not_eq_false _ ▸ refused) (by omega) (int32_get_nil P),
          loop_stop P calloc _ _ _ [] P.cString_get_nil]
        refine ⟨_,_,rfl,?_⟩
        simp [refused,DeviceInfoList.insertTail]

/-- A cut reply is read as a prefix exactly when its last record is safe. -/
theorem cut_obtained_iff (calloc : Nat → Bool) (first later : List DeviceInfoNode)
    (e : DeviceInfoNode) (part : List UInt8)
    (granted : ∀ j < (first ++ e :: later).length, calloc j = true)
    (short : ∀ e' ∈ first ++ e :: later, e'.svcName.strlen + 1 < 2^31)
    (prefixed : part <+: (record P).put e) (proper : part ≠ (record P).put e) :
    (∃ ret list, hdfObtainDeviceInfo P calloc ((record P).puts first ++ part) = some (ret,list) ∧
        list.list <+: first ++ e :: later) ↔
      CutSafe P calloc first.length e later part := by
  rw [List.length_append,List.length_cons] at granted
  obtain ⟨k,fuel⟩ := Nat.exists_eq_add_of_le ((record P).puts_length (record_some P) first)
  obtain ⟨ret,result,returned,listed⟩ := loop_cut P calloc k first.length e part
    ⟨.ofNat first.length,first⟩ (granted _ (by omega)) (short e (by simp)) prefixed proper
  have run : hdfObtainDeviceInfo P calloc ((record P).puts first ++ part) = some (ret,result) := by
    have whole := loop_records P calloc first (fun e' member => short e' (by simp [member]))
      (k + part.length + 1) 0 part ⟨0,[]⟩
    rw [if_pos fun j bound => granted _ (by omega)] at whole
    simp only [Nat.zero_add,UInt32.zero_add,List.nil_append] at whole
    rw [← returned,← whole,hdfObtainDeviceInfo,List.length_append,fuel]
    congr 1
    omega
  have read : (∃ ret list, hdfObtainDeviceInfo P calloc ((record P).puts first ++ part) =
      some (ret,list) ∧ list.list <+: first ++ e :: later) ↔ result.list <+: first ++ e :: later := by
    rw [run]
    constructor
    · rintro ⟨_,_,same,inside⟩
      obtain ⟨rfl,rfl⟩ := Prod.mk.inj (Option.some.inj same)
      exact inside
    · exact fun inside => ⟨ret,result,rfl,inside⟩
  rw [read]
  unfold CutSafe
  cases named : P.cString.get part with
  | none =>
    simp only [named] at listed
    rw [listed]
    exact iff_of_true (List.prefix_append _ _) (fun _ _ impossible => nomatch impossible)
  | some found =>
    obtain ⟨name,left⟩ := found
    obtain ⟨svcName,deviceType⟩ := e
    have safe (holds : List UInt8 → Prop) :
        (∀ name' left', some (name,left) = some (name',left') → holds left') ↔ holds left := by
      constructor
      · exact fun all => all name left rfl
      · rintro here _ _ ⟨⟩
        exact here
    rw [safe fun left => match P.cString.get left with
      | none => deviceType = .localService
      | some (text,_) => calloc (first.length + 1) = false ∨
          deviceType = .localService ∧ ∃ rest, later = ⟨text,.localService⟩ :: rest]
    cases unread : P.cString.get left with
    | none =>
      simp only [named,unread] at listed
      rw [listed,List.prefix_append_right_inj,List.cons_prefix_cons]
      simp [eq_comm]
    | some behind =>
      obtain ⟨text,gone⟩ := behind
      simp only [named,unread] at listed
      dsimp only
      split_ifs at listed with refused
      · rw [listed]
        exact iff_of_true List.nil_prefix (.inl refused)
      · rw [listed,List.prefix_append_right_inj,List.cons_prefix_cons,or_iff_right refused,
          DeviceInfoNode.mk.injEq,and_iff_right rfl,eq_comm]
        refine and_congr_right fun _ => ?_
        cases later with
        | nil => simp
        | cons next rest =>
          rw [List.cons_prefix_cons]
          simp [eq_comm]

/-- A reply is read as exactly what the request asks of the registry, and cut anywhere as a
prefix of it, exactly when the allocations succeed, no name is over-long, and the record the
cut falls in is safe. -/
theorem reply_obtained_iff (calloc : Nat → Bool) (hosts : List DevHostServiceClnt)
    (data reply cut : List UInt8)
    (filled : devFillQueryDeviceInfo P K hosts data [] = (hdfSuccess,reply))
    (truncated : cut <+: reply) :
    let entries := reported K (requested P data) hosts
    (hdfObtainDeviceInfo P calloc reply = some (hdfSuccess,⟨.ofNat entries.length,entries⟩) ∧
        ∃ ret list, hdfObtainDeviceInfo P calloc cut = some (ret,list) ∧ list.list <+: entries) ↔
      (∀ j < entries.length, calloc j = true) ∧
        (∀ e ∈ entries, e.svcName.strlen + 1 < 2^31) ∧
          ∀ first e later part, entries = first ++ e :: later →
            cut = (record P).puts first ++ part → part <+: (record P).put e →
              part ≠ (record P).put e → CutSafe P calloc first.length e later part := by
  obtain rfl := devFill_reply P K hosts data reply filled
  generalize reported K (requested P data) hosts = entries at *
  dsimp only
  rw [full_obtained_iff,and_assoc]
  refine and_congr_right fun granted => and_congr_right fun short => ?_
  constructor
  · rintro inside first e later part split rfl prefixed proper
    rw [split] at inside granted short
    exact (cut_obtained_iff P calloc first later e part granted short prefixed proper).mp inside
  · intro safe
    rcases (record P).puts_cut entries cut truncated with
      rfl | ⟨first,e,later,part,split,rfl,prefixed,proper⟩
    · exact ⟨_,_,(full_obtained_iff P calloc entries).mpr ⟨granted,short⟩,List.prefix_rfl⟩
    · have here := safe first e later part split rfl prefixed proper
      rw [split] at granted short ⊢
      exact (cut_obtained_iff P calloc first later e part granted short prefixed proper).mpr here

end Query

section Sample

def constants : Constants := ⟨1,2,0,1⟩

def localA : DeviceInfoNode := ⟨CString.upToNul [97],.localService⟩
def remoteB : DeviceInfoNode := ⟨CString.upToNul [98],.remoteService⟩

/-- A host with a public device, another one that the query does not ask for behind it. -/
def hostOf (node : DeviceInfoNode) : DevHostServiceClnt :=
  ⟨0,"sample_host",0,none,[],[⟨some node.svcName,1,1,node.deviceType⟩,⟨none,0,1,.localService⟩],false⟩

def usable : List UInt8 := messageParcel.uint16.put 1

/-- The reply with the device a, cut behind its name. -/
theorem reply_obtained_iff_local :
    hdfObtainDeviceInfo messageParcel (fun _ => true) [97,0,0,0,0,0,0,0] =
        some (hdfSuccess,⟨1,[localA]⟩) ∧
      ∃ ret list, hdfObtainDeviceInfo messageParcel (fun _ => true) [97,0,0,0] =
        some (ret,list) ∧ list.list <+: [localA] := by
  refine (reply_obtained_iff messageParcel constants (fun _ => true) [hostOf localA] usable
    [97,0,0,0,0,0,0,0] [97,0,0,0] (by decide +kernel) (by decide)).mpr ⟨fun _ _ => rfl,?_,?_⟩
  · intro e member
    obtain rfl : e = localA := List.mem_singleton.mp member
    decide
  · intro first e later part split same _ _
    have only : [localA] = first ++ e :: later := split
    cases first with
    | cons v rest => simp at only
    | nil =>
      obtain ⟨rfl,rfl⟩ := List.cons.inj only
      obtain rfl : [97,0,0,0] = part := same
      intro name left read
      have named : messageParcel.cString.get [97,0,0,0] = some (localA.svcName,[]) := by
        decide +kernel
      rw [named,Option.some.injEq,Prod.mk.injEq] at read
      obtain ⟨rfl,rfl⟩ := read
      rfl

/-- Cut behind the name of the remote device b, which is read as a local one. -/
theorem remote_cut_local :
    devFillQueryDeviceInfo messageParcel constants [hostOf localA,hostOf remoteB] usable [] =
        (hdfSuccess,[97,0,0,0,0,0,0,0,98,0,0,0,1,0,0,0]) ∧
      reported constants (requested messageParcel usable) [hostOf localA,hostOf remoteB] =
        [localA,remoteB] ∧
      hdfObtainDeviceInfo messageParcel (fun _ => true) [97,0,0,0,0,0,0,0,98,0,0,0] =
        some (hdfSuccess,⟨2,[localA,⟨remoteB.svcName,.localService⟩]⟩) ∧
      ¬ [localA,⟨remoteB.svcName,.localService⟩] <+: [localA,remoteB] := by
  refine ⟨by decide +kernel,by decide +kernel,by decide +kernel,by decide⟩

end Sample

end DriversAdapter.Devmgr
