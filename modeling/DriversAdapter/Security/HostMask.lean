import DriversAdapter.Base.Word
import DriversAdapter.Semantics.Mask
import Mathlib.Data.List.Basic

/-! The security mask of a host: how it is gathered from the configuration tree, and when the
kernel gets to know it. -/
namespace DriversAdapter.Security
open DriversAdapter.Base DriversAdapter.Semantics

/-- A string of single-byte characters. -/
abbrev Text := List Char

inductive PalType
  | i2c
  | spi
  | gpio
  | pinctrl
  | clock
  | regulator
  | mipi
  | uart
  | sdio
  | mdio
  | apb
  | pcie
  | pcm
  | i2s
  | pwm
  | dma
  | efuse
  | flash
  | emmc
  | rtc
  | adc
  | wdt
  | i3c
  deriving DecidableEq

def PalType.all : List PalType :=
  [.i2c,.spi,.gpio,.pinctrl,.clock,.regulator,.mipi,.uart,.sdio,.mdio,.apb,.pcie,.pcm,.i2s,.pwm,
    .dma,.efuse,.flash,.emmc,.rtc,.adc,.wdt,.i3c]

def PalType.permission : PalType → Text
  | .i2c => "i2c".toList
  | .spi => "spi".toList
  | .gpio => "gpio".toList
  | .pinctrl => "pinctl".toList
  | .clock => "clock".toList
  | .regulator => "regulator".toList
  | .mipi => "mipi".toList
  | .uart => "uart".toList
  | .sdio => "sdio".toList
  | .mdio => "mdio".toList
  | .apb => "apb".toList
  | .pcie => "pcie".toList
  | .pcm => "pcm".toList
  | .i2s => "i2s".toList
  | .pwm => "pwm".toList
  | .dma => "dma".toList
  | .efuse => "efuse".toList
  | .flash => "flash".toList
  | .emmc => "emmc".toList
  | .rtc => "rtc".toList
  | .adc => "adc".toList
  | .wdt => "wdt".toList
  | .i3c => "i3c".toList

/-- The values of the platform's enumeration, which its own header gives. They number the bits
of one word. -/
structure PalEnum where
  index : PalType → Nat
  max : Nat
  index_injective : Function.Injective index
  index_lt : ∀ type, index type < max
  max_le : max ≤ 64

/-- `g_hdfSecStrArray`; a value without a name holds a null pointer. -/
def hdfSecStrArray (pal : PalEnum) (i : Nat) : Option Text :=
  (PalType.all.find? fun type => pal.index type = i).map PalType.permission

/-- The hash map of the utilities. A `set` may not get the memory for its entry; a null key is
neither stored nor found. -/
structure HdfMap (μ : Type) where
  init : μ
  set : Bool → μ → Option Text → Nat → μ
  get : μ → Option Text → Option Nat
  get_init : ∀ key, get init key = none
  get_null : ∀ m, get m none = none
  get_set : ∀ granted m key value name, get (set granted m key value) (some name) =
    if granted = true ∧ key = some name then some value else get m (some name)

/-- What a read of a string attribute does to the pointer it is given: it points it to the
value, or it fails and gives it the default, here null, or leaves it alone. -/
inductive HcsRead
  | value (text : Text)
  | defaulted
  | untouched

def HcsRead.store (pointer : Option Text) : HcsRead → Option Text
  | .value text => some text
  | .defaulted => none
  | .untouched => pointer

structure Hcs (α : Type) where
  getElemNum : α → Text → Int
  getStringArrayElem : α → Text → Nat → HcsRead
  getString : α → Text → HcsRead

/-- A node with what hangs on its two links. -/
inductive DeviceResourceNode (α : Type)
  | null
  | node (name : Text) (attrData : α) (child sibling : DeviceResourceNode α)

def permElemName : Text := "permission".toList
def hostNameAttr : Text := "hostName".toList

/-- Words of memory, counted from the one that holds the mask. -/
abbrev Words := Nat → BitVec 64

def bitsPerLong : Nat := 64
def bitMask (nr : Nat) : BitVec 64 := 1#64 <<< (nr % bitsPerLong)
def bitWord (nr : Nat) : Nat := nr / bitsPerLong

def hdfSetBit (nr : Nat) (addr : Words) : Words :=
  Function.update addr (bitWord nr) (addr (bitWord nr) ||| bitMask nr)

/-- What the loops carry along. -/
structure Gathering where
  permStr : Option Text
  perms : Words

section Gather
variable {μ α : Type} (pal : PalEnum) (map : HdfMap μ) (hcs : Hcs α) (granted : Nat → Bool)

/-- `granted i` tells whether the entry of the `i`-th name gets its memory. -/
def initStrToIndexMap : μ :=
  (List.range pal.max).foldl (fun m i => map.set (granted i) m (hdfSecStrArray pal i) i) map.init

def hdfCalculatePerms (indexMap : μ) (permStr : Option Text) (perms : Words) : Words :=
  match map.get indexMap permStr with
  | none => perms
  | some result => hdfSetBit result perms

/-- One round of the innermost loop; that the read may fail is not looked at. -/
def gatherEntry (indexMap : μ) (attrs : α) (g : Gathering) (i : Nat) : Gathering :=
  let permStr := (hcs.getStringArrayElem attrs permElemName i).store g.permStr
  ⟨permStr,hdfCalculatePerms map indexMap permStr g.perms⟩

def gatherNode (indexMap : μ) (attrs : α) (g : Gathering) : Gathering :=
  (List.range (hcs.getElemNum attrs permElemName).toNat).foldl (gatherEntry map hcs indexMap attrs) g

def gatherDevices (indexMap : μ) : DeviceResourceNode α → Gathering → Gathering
  | .null, g => g
  | .node _ attrs _ sibling, g => gatherDevices indexMap sibling (gatherNode map hcs indexMap attrs g)

def gatherDrivers (indexMap : μ) : DeviceResourceNode α → Gathering → Gathering
  | .null, g => g
  | .node _ _ child sibling, g =>
    gatherDrivers indexMap sibling (gatherDevices map hcs indexMap child g)

/-- The memory around `perms` when the loops are through with the drivers of a host. -/
def gatheredWords (stack : Words) (driverRoot : DeviceResourceNode α) : Words :=
  (gatherDrivers map hcs (initStrToIndexMap pal map granted) driverRoot
    ⟨none,Function.update stack 0 0⟩).perms

end Gather

inductive SecureCommand
  | setInfo
  | setCurrentId
  | deleteInfo
  deriving DecidableEq

/-- The words of the map behind the first one are zero. -/
structure SecInfo where
  secId : Text
  secMap : BitVec 64
  deriving DecidableEq

structure Ioctl where
  fd : Int
  command : SecureCommand
  info : SecInfo
  ret : Int
  deriving DecidableEq

/-- The random source, the file system and the kernel's driver. -/
structure System where
  randBytes : Bool
  realpath : Text → Option Text
  openFile : Text → Int
  ioctl : Int → SecureCommand → SecInfo → Int

def hdfSecurePath : Text := "/dev/hdf_secure".toList

def hdfSecCheckParameters (idMaxSize : Nat) : Option Text → Int
  | none => hdfFailure
  | some id => if idMaxSize - 1 ≤ id.length % 2^32 then hdfFailure else hdfSuccess

def commandOf (isSetCurrentSecId : Int) : SecureCommand :=
  if isSetCurrentSecId = 0 then .setInfo
  else if isSetCurrentSecId = 1 then .setCurrentId
  else .deleteInfo

/-- The status that is returned and the request that the kernel has got, if any. The copy of
the name takes what fits before the terminator. -/
def hdfUpdateSecurityId (system : System) (idMaxSize : Nat) (id : Option Text) (perms : BitVec 64)
    (isSetCurrentSecId : Int) : Int × Option Ioctl :=
  if hdfSecCheckParameters idMaxSize id ≠ hdfSuccess then (hdfFailure,none)
  else
    match system.realpath hdfSecurePath with
    | none => (hdfFailure,none)
    | some path =>
      let fd := system.openFile path
      if fd < 0 then (hdfFailure,none)
      else
        let info := ⟨(id.getD []).take (idMaxSize - 1),perms⟩
        let command := commandOf isSetCurrentSecId
        let ret := system.ioctl fd command info
        (if ret ≠ 0 then hdfFailure else hdfSuccess,some ⟨fd,command,info,ret⟩)

def hdfRegisterSecurityId (system : System) (idMaxSize : Nat) (id : Option Text)
    (perm : BitVec 64) : Int × Option Ioctl :=
  hdfUpdateSecurityId system idMaxSize id perm 0

section Register
variable {μ α : Type} (pal : PalEnum) (map : HdfMap μ) (hcs : Hcs α) (granted : Nat → Bool)
variable (system : System) (idMaxSize : Nat) (stack : Words)

/-- The mask as the test after the loops finds it. -/
def hostPerms (driverRoot : DeviceResourceNode α) : BitVec 64 :=
  gatheredWords pal map hcs granted stack driverRoot 0

def hdfRegisterAllDevSecId (hostRoot : DeviceResourceNode α) : Int × Option Ioctl :=
  match hostRoot with
  | .null => (hdfFailure,none)
  | .node _ attrs child _ =>
    if system.randBytes = false then (hdfFailure,none)
    else
      let perms := hostPerms pal map hcs granted stack child
      if perms ≠ 0 then
        let hostName := (hcs.getString attrs hostNameAttr).store none
        (hdfSuccess,(hdfRegisterSecurityId system idMaxSize hostName perms).2)
      else (hdfSuccess,none)

end Register

def PalType.ofPermission (name : Text) : Option PalType :=
  PalType.all.find? fun type => type.permission = name

theorem PalType.mem_all (type : PalType) : type ∈ PalType.all := by
  cases type <;> decide

theorem PalType.ofPermission_permission (type : PalType) :
    PalType.ofPermission type.permission = some type := by
  cases type <;> decide +kernel

theorem PalType.permission_of_ofPermission (name : Text) (type : PalType)
    (found : PalType.ofPermission name = some type) : type.permission = name := by
  simpa using List.find?_some found

section IndexMap
variable {μ : Type} (pal : PalEnum) (map : HdfMap μ) (granted : Nat → Bool)

theorem hdfSecStrArray_eq_some (i : Nat) (name : Text) :
    hdfSecStrArray pal i = some name ↔
      ∃ type, PalType.ofPermission name = some type ∧ pal.index type = i := by
  unfold hdfSecStrArray
  rw [Option.map_eq_some_iff]
  constructor
  · intro ⟨type,found,same⟩
    rw [← same]
    exact ⟨type,PalType.ofPermission_permission type,by simpa using List.find?_some found⟩
  · intro ⟨type,known,here⟩
    have found : (PalType.all.find? fun other => pal.index other = i).isSome := by
      rw [List.find?_isSome]
      exact ⟨type,type.mem_all,by simpa using here⟩
    obtain ⟨other,chosen⟩ := Option.isSome_iff_exists.1 found
    have there : pal.index other = i := by simpa using List.find?_some chosen
    have one : other = type := pal.index_injective (there.trans here.symm)
    subst one
    exact ⟨other,chosen,PalType.permission_of_ofPermission name other known⟩

/-- The entries that the first `n` rounds have stored. -/
theorem get_indexed (name : Text) (n : Nat) :
    map.get ((List.range n).foldl
      (fun m i => map.set (granted i) m (hdfSecStrArray pal i) i) map.init) (some name) =
    (PalType.ofPermission name).bind fun type =>
      if pal.index type < n ∧ granted (pal.index type) = true then some (pal.index type)
      else none := by
  induction n with
  | zero => cases PalType.ofPermission name <;> simp [map.get_init]
  | succ n ih =>
    rw [List.range_succ,List.foldl_append,List.foldl_cons,List.foldl_nil,map.get_set,ih]
    simp only [hdfSecStrArray_eq_some]
    cases known : PalType.ofPermission name with
    | none => simp
    | some type =>
      by_cases here : pal.index type = n
      · subst here
        by_cases stored : granted (pal.index type) = true
        · simp [stored]
        · simp [stored]
      · have bound : pal.index type < n + 1 ↔ pal.index type < n := by omega
        simp only [Option.bind_some,bound]
        simp [here]

/-- The bit that a permission string stands for; none if it is not one of the names, or if the
index map has had no memory for it. -/
def permissionBit (name : Text) : BitVec 64 :=
  match PalType.ofPermission name with
  | none => 0
  | some type => if granted (pal.index type) = true then 1#64 <<< pal.index type else 0

/-- A stored name stands for the bit of its own value and no other. -/
theorem permissionBit_positions (type : PalType) (stored : granted (pal.index type) = true) :
    Mask.positions (permissionBit pal granted type.permission) = {pal.index type} := by
  have below : pal.index type < 64 := lt_of_lt_of_le (pal.index_lt type) pal.max_le
  unfold permissionBit
  rw [PalType.ofPermission_permission]
  simp only [stored,if_true]
  exact Mask.positions_bit (pal.index type) below

theorem hdfCalculatePerms_null (perms : Words) :
    hdfCalculatePerms map (initStrToIndexMap pal map granted) none perms = perms := by
  simp [hdfCalculatePerms,map.get_null]

theorem hdfCalculatePerms_some (name : Text) (perms : Words) :
    hdfCalculatePerms map (initStrToIndexMap pal map granted) (some name) perms =
      Function.update perms 0 (perms 0 ||| permissionBit pal granted name) := by
  unfold hdfCalculatePerms permissionBit initStrToIndexMap
  rw [get_indexed]
  cases known : PalType.ofPermission name with
  | none => simp
  | some type =>
    have below : pal.index type < 64 := lt_of_lt_of_le (pal.index_lt type) pal.max_le
    by_cases stored : granted (pal.index type) = true
    · simp [stored,pal.index_lt,hdfSetBit,bitWord,bitMask,bitsPerLong,Nat.div_eq_of_lt below,
        Nat.mod_eq_of_lt below]
    · simp [stored]

end IndexMap

/-- The attributes and the children of a node and of those behind it on its level. -/
def siblings {α : Type} : DeviceResourceNode α → List (α × DeviceResourceNode α)
  | .null => []
  | .node _ attrs child sibling => (attrs,child)::siblings sibling

section Declared
variable {α : Type} (hcs : Hcs α)

/-- The readable permission strings of one device node. -/
def declared (attrs : α) : Set Text :=
  {s | ∃ i : Nat, (i : Int) < hcs.getElemNum attrs permElemName ∧
    hcs.getStringArrayElem attrs permElemName i = .value s}

/-- Those of the device nodes of every driver of a host. -/
def declaredUnder (driverRoot : DeviceResourceNode α) : Set Text :=
  {s | ∃ driver ∈ siblings driverRoot, ∃ device ∈ siblings driver.2, s ∈ declared hcs device.1}

end Declared

section Invariant
variable {μ α : Type} (pal : PalEnum) (map : HdfMap μ) (hcs : Hcs α) (granted : Nat → Bool)
variable (stack : Words)

/-- The mask is the union over the strings seen so far, and the string that a failed read may
leave behind is one of them. -/
structure Gathered (seen : Set Text) (g : Gathering) : Prop where
  mask : Mask.positions (g.perms 0) = ⋃ s ∈ seen, Mask.positions (permissionBit pal granted s)
  others : ∀ k, k ≠ 0 → g.perms k = stack k
  string : ∀ s, g.permStr = some s → s ∈ seen

variable {pal granted stack}

theorem Gathered.start : Gathered pal granted stack ∅ ⟨none,Function.update stack 0 0⟩ where
  mask := by simp [Mask.positions_zero]
  others := by
    intro k other
    simp [other]
  string := by simp

theorem Gathered.take {seen : Set Text} {g : Gathering} (gathered : Gathered pal granted stack seen g)
    (name : Text) : Gathered pal granted stack (insert name seen)
      ⟨some name,hdfCalculatePerms map (initStrToIndexMap pal map granted) (some name) g.perms⟩ where
  mask := by
    rw [hdfCalculatePerms_some]
    simpa using Mask.positions_or_iUnion (g.perms 0) (permissionBit pal granted) seen name gathered.mask
  others := by
    intro k other
    rw [hdfCalculatePerms_some]
    simpa [other] using gathered.others k other
  string := by
    intro s same
    exact .inl (Option.some_inj.1 same).symm

theorem Gathered.drop {seen : Set Text} {g : Gathering} (gathered : Gathered pal granted stack seen g) :
    Gathered pal granted stack seen
      ⟨none,hdfCalculatePerms map (initStrToIndexMap pal map granted) none g.perms⟩ where
  mask := by
    rw [hdfCalculatePerms_null]
    exact gathered.mask
  others := by
    rw [hdfCalculatePerms_null]
    exact gathered.others
  string := by simp

/-- A read that fails repeats the string before it, whose bit is there already, or has none. -/
theorem Gathered.entry {seen : Set Text} {g : Gathering} (gathered : Gathered pal granted stack seen g)
    (attrs : α) (i : Nat) : Gathered pal granted stack
      (seen ∪ {s | hcs.getStringArrayElem attrs permElemName i = .value s})
      (gatherEntry map hcs (initStrToIndexMap pal map granted) attrs g i) := by
  unfold gatherEntry
  cases outcome : hcs.getStringArrayElem attrs permElemName i with
  | value text =>
    have one : {s | HcsRead.value text = HcsRead.value s} = {text} := by
      ext s
      simp [eq_comm]
    rw [one,Set.union_singleton]
    exact gathered.take map text
  | defaulted =>
    simpa [HcsRead.store] using gathered.drop map
  | untouched =>
    cases stale : g.permStr with
    | none => simpa [HcsRead.store,stale] using gathered.drop map
    | some name =>
      have again := gathered.take map name
      rw [Set.insert_eq_of_mem (gathered.string name stale)] at again
      simpa [HcsRead.store,stale] using again

theorem Gathered.entries {seen : Set Text} {g : Gathering}
    (gathered : Gathered pal granted stack seen g) (attrs : α) (n : Nat) :
    Gathered pal granted stack
      (seen ∪ {s | ∃ i, i < n ∧ hcs.getStringArrayElem attrs permElemName i = .value s})
      ((List.range n).foldl (gatherEntry map hcs (initStrToIndexMap pal map granted) attrs) g) := by
  induction n with
  | zero => simpa using gathered
  | succ n ih =>
    rw [List.range_succ,List.foldl_append,List.foldl_cons,List.foldl_nil]
    have next := ih.entry map hcs attrs n
    have grown : {s | ∃ i, i < n + 1 ∧ hcs.getStringArrayElem attrs permElemName i = .value s} =
        {s | ∃ i, i < n ∧ hcs.getStringArrayElem attrs permElemName i = .value s} ∪
          {s | hcs.getStringArrayElem attrs permElemName n = .value s} := by
      ext s
      simp only [Set.mem_ofPred_eq,Set.mem_union]
      constructor
      · intro ⟨i,low,read⟩
        rcases Nat.lt_succ_iff_lt_or_eq.1 low with before | here
        · exact .inl ⟨i,before,read⟩
        · exact .inr (here ▸ read)
      · intro either
        rcases either with ⟨i,low,read⟩ | read
        · exact ⟨i,Nat.lt_succ_of_lt low,read⟩
        · exact ⟨n,Nat.lt_succ_self n,read⟩
    rw [grown,← Set.union_assoc]
    exact next

theorem Gathered.node {seen : Set Text} {g : Gathering}
    (gathered : Gathered pal granted stack seen g) (attrs : α) :
    Gathered pal granted stack (seen ∪ declared hcs attrs)
      (gatherNode map hcs (initStrToIndexMap pal map granted) attrs g) := by
  have all := gathered.entries map hcs attrs (hcs.getElemNum attrs permElemName).toNat
  have same : {s | ∃ i, i < (hcs.getElemNum attrs permElemName).toNat ∧
      hcs.getStringArrayElem attrs permElemName i = .value s} = declared hcs attrs := by
    ext s
    simp only [declared,Set.mem_ofPred_eq,Int.lt_toNat]
  rw [same] at all
  exact all

theorem Gathered.devices (deviceRoot : DeviceResourceNode α) {seen : Set Text} {g : Gathering}
    (gathered : Gathered pal granted stack seen g) :
    Gathered pal granted stack
      (seen ∪ {s | ∃ device ∈ siblings deviceRoot, s ∈ declared hcs device.1})
      (gatherDevices map hcs (initStrToIndexMap pal map granted) deviceRoot g) := by
  induction deviceRoot generalizing seen g with
  | null => simpa [siblings,gatherDevices] using gathered
  | node name attrs child sibling _ ih =>
    have rest := ih (gathered.node map hcs attrs)
    have split : {s | ∃ device ∈ siblings (.node name attrs child sibling),
        s ∈ declared hcs device.1} = declared hcs attrs ∪
          {s | ∃ device ∈ siblings sibling, s ∈ declared hcs device.1} := by
      ext s
      simp [siblings]
    rw [split,← Set.union_assoc]
    exact rest

theorem Gathered.drivers (driverRoot : DeviceResourceNode α) {seen : Set Text} {g : Gathering}
    (gathered : Gathered pal granted stack seen g) :
    Gathered pal granted stack (seen ∪ declaredUnder hcs driverRoot)
      (gatherDrivers map hcs (initStrToIndexMap pal map granted) driverRoot g) := by
  induction driverRoot generalizing seen g with
  | null => simpa [declaredUnder,siblings,gatherDrivers] using gathered
  | node name attrs child sibling _ ih =>
    have rest := ih (gathered.devices map hcs child)
    have split : declaredUnder hcs (.node name attrs child sibling) =
        {s | ∃ device ∈ siblings child, s ∈ declared hcs device.1} ∪
          declaredUnder hcs sibling := by
      ext s
      simp [declaredUnder,siblings]
    rw [split,← Set.union_assoc]
    exact rest

variable (pal granted stack)

theorem gatheredWords_gathered (driverRoot : DeviceResourceNode α) :
    Gathered pal granted stack (declaredUnder hcs driverRoot)
      (gatherDrivers map hcs (initStrToIndexMap pal map granted) driverRoot
        ⟨none,Function.update stack 0 0⟩) := by
  have start : Gathered pal granted stack ∅ ⟨none,Function.update stack 0 0⟩ := Gathered.start
  have all := start.drivers map hcs driverRoot
  rw [Set.empty_union] at all
  exact all

theorem hostPerms_positions (driverRoot : DeviceResourceNode α) :
    Mask.positions (hostPerms pal map hcs granted stack driverRoot) =
      ⋃ s ∈ declaredUnder hcs driverRoot, Mask.positions (permissionBit pal granted s) :=
  (gatheredWords_gathered pal map hcs granted stack driverRoot).mask

end Invariant

section Registered
variable {μ α : Type} (pal : PalEnum) (map : HdfMap μ) (hcs : Hcs α) (granted : Nat → Bool)
variable (system : System) (idMaxSize : Nat) (stack : Words)

/-- The kernel has taken `info` over as the security information of a host. -/
def Registered (outcome : Int × Option Ioctl) (info : SecInfo) : Prop :=
  ∃ fd, outcome.2 = some ⟨fd,.setInfo,info,0⟩

/-- The random source answers, the host has a name that fits, and the secure device is there
and takes `info`. -/
def Admitted (attrs : α) (perms : BitVec 64) (info : SecInfo) : Prop :=
  system.randBytes = true ∧
    ∃ hostName, hcs.getString attrs hostNameAttr = .value hostName ∧
      hostName.length % 2^32 < idMaxSize - 1 ∧ info = ⟨hostName.take (idMaxSize - 1),perms⟩ ∧
        ∃ path, system.realpath hdfSecurePath = some path ∧ 0 ≤ system.openFile path ∧
          system.ioctl (system.openFile path) .setInfo info = 0

theorem hdfSecCheckParameters_success (id : Option Text) :
    hdfSecCheckParameters idMaxSize id = hdfSuccess ↔
      ∃ name, id = some name ∧ name.length % 2^32 < idMaxSize - 1 := by
  cases id with
  | none => simp [hdfSecCheckParameters,hdfFailure,hdfSuccess]
  | some name =>
    simp only [hdfSecCheckParameters]
    split_ifs with long
    · simpa [hdfFailure,hdfSuccess] using long
    · have fits : name.length % 2^32 < idMaxSize - 1 := Nat.not_le.1 long
      exact iff_of_true rfl ⟨name,rfl,fits⟩

theorem registered_iff (id : Option Text) (perm : BitVec 64) (info : SecInfo) (status : Int) :
    Registered (status,(hdfRegisterSecurityId system idMaxSize id perm).2) info ↔
      ∃ name, id = some name ∧ name.length % 2^32 < idMaxSize - 1 ∧
        info = ⟨name.take (idMaxSize - 1),perm⟩ ∧
          ∃ path, system.realpath hdfSecurePath = some path ∧ 0 ≤ system.openFile path ∧
            system.ioctl (system.openFile path) .setInfo info = 0 := by
  unfold Registered hdfRegisterSecurityId hdfUpdateSecurityId
  by_cases checked : hdfSecCheckParameters idMaxSize id = hdfSuccess
  · rw [if_neg (not_not.2 checked)]
    obtain ⟨name,rfl,fits⟩ := (hdfSecCheckParameters_success idMaxSize id).1 checked
    cases resolved : system.realpath hdfSecurePath with
    | none => simp
    | some path =>
      by_cases unopened : system.openFile path < 0
      · simp [unopened,Int.not_le.2 unopened]
      · have opened : 0 ≤ system.openFile path := Int.not_lt.1 unopened
        simp only [if_neg unopened,Option.getD_some,commandOf,if_true,Option.some_inj,
          Ioctl.mk.injEq,true_and]
        constructor
        · intro ⟨fd,_,sent,taken⟩
          subst sent
          exact ⟨name,rfl,fits,rfl,path,rfl,opened,taken⟩
        · intro ⟨other,same,_,sent,there,found,_,taken⟩
          cases same
          cases found
          subst sent
          exact ⟨system.openFile path,rfl,rfl,taken⟩
  · rw [if_pos checked]
    constructor
    · intro ⟨_,nothing⟩
      cases nothing
    · intro ⟨name,same,fits,_⟩
      exact absurd ((hdfSecCheckParameters_success idMaxSize id).2 ⟨name,same,fits⟩) checked

theorem store_none (read : HcsRead) (name : Text) :
    read.store none = some name ↔ read = .value name := by
  cases read with
  | value text => simp [HcsRead.store]
  | defaulted => simp [HcsRead.store]
  | untouched => simp [HcsRead.store]

theorem registerAll_registered_iff (name : Text) (attrs : α)
    (child sibling : DeviceResourceNode α) (info : SecInfo) :
    Registered (hdfRegisterAllDevSecId pal map hcs granted system idMaxSize stack
        (.node name attrs child sibling)) info ↔
      hostPerms pal map hcs granted stack child ≠ 0 ∧
        Admitted hcs system idMaxSize attrs (hostPerms pal map hcs granted stack child) info := by
  unfold hdfRegisterAllDevSecId Admitted
  dsimp only
  by_cases answered : system.randBytes = true
  · rw [if_neg (by simp [answered])]
    by_cases empty : hostPerms pal map hcs granted stack child = 0
    · rw [if_neg (not_not.2 empty)]
      simp only [Registered,empty,ne_eq,not_true_eq_false,false_and,reduceCtorEq,exists_false]
    · rw [if_pos empty,registered_iff]
      simp only [store_none,answered,ne_eq,empty,not_false_eq_true,true_and]
  · rw [if_pos (by simpa using answered)]
    simp [Registered,answered]

/-- The mask of a host is the union of the bits of the permissions that its device nodes
declare; the kernel gets it if it is not empty and nothing on the way is missing. -/
theorem hostSecurity_registered_iff (name : Text) (attrs : α)
    (child sibling : DeviceResourceNode α) :
    Mask.positions (hostPerms pal map hcs granted stack child) =
        ⋃ s ∈ declaredUnder hcs child, Mask.positions (permissionBit pal granted s) ∧
      ∀ info, Registered (hdfRegisterAllDevSecId pal map hcs granted system idMaxSize stack
          (.node name attrs child sibling)) info ↔
        (⋃ s ∈ declaredUnder hcs child, Mask.positions (permissionBit pal granted s)).Nonempty ∧
          Admitted hcs system idMaxSize attrs (hostPerms pal map hcs granted stack child) info := by
  have union := hostPerms_positions pal map hcs granted stack child
  refine ⟨union,?_⟩
  intro info
  rw [registerAll_registered_iff,← union,Mask.positions_nonempty]
  rfl

end Registered

/-- The enumeration in the order of the names. -/
def orderedPal : PalEnum where
  index := fun type => PalType.all.idxOf type
  max := 23
  index_injective := by
    intro type other same
    exact (List.idxOf_inj type.mem_all).1 same
  index_lt := fun type => List.idxOf_lt_length_of_mem type.mem_all
  max_le := by decide

def tableMap : HdfMap (Text → Option Nat) where
  init := fun _ => none
  set := fun granted m key value name =>
    if granted = true ∧ key = some name then some value else m name
  get := fun m key => key.bind m
  get_init := by
    intro key
    cases key with
    | none => rfl
    | some name => rfl
  get_null := fun _ => rfl
  get_set := fun _ _ _ _ _ => rfl

/-- The attributes of a node: a host's name, and the entries of a device's permissions. -/
structure NodeAttributes where
  hostName : Option Text
  permission : List (Option Text)

def attributesHcs : Hcs NodeAttributes where
  getElemNum := fun attrs name => if name = permElemName then attrs.permission.length else -1
  getStringArrayElem := fun attrs name i =>
    if name = permElemName then
      match attrs.permission[i]? with
      | some (some text) => .value text
      | _ => .defaulted
    else .defaulted
  getString := fun attrs name =>
    match attrs.hostName with
    | some text => if name = hostNameAttr then .value text else .defaulted
    | none => .defaulted

def readySystem : System where
  randBytes := true
  realpath := some
  openFile := fun _ => 3
  ioctl := fun _ _ _ => 0

/-- One driver with one device node, which declares `i2c`. -/
def i2cDriver : DeviceResourceNode NodeAttributes :=
  .node "device_i2c".toList ⟨none,[]⟩
    (.node "device0".toList ⟨none,[some "i2c".toList]⟩ .null .null) .null

def i2cOutcome (granted : Bool) (system : System) (hostName : Option Text) : Int × Option Ioctl :=
  hdfRegisterAllDevSecId orderedPal tableMap attributesHcs (fun _ => granted) system 64 (fun _ => 0)
    (.node "host".toList ⟨hostName,[]⟩ i2cDriver .null)

/-- A host that declares a permission is not registered if it has no name, if the random source
is silent, if the secure device is not there or refuses, or if the index map has no memory. -/
theorem declared_unregistered :
    (⋃ s ∈ declaredUnder attributesHcs i2cDriver,
        Mask.positions (permissionBit orderedPal (fun _ => true) s)).Nonempty ∧
      (∀ info, ¬ Registered (i2cOutcome true readySystem none) info) ∧
        ∀ outcome ∈ [i2cOutcome true {readySystem with randBytes := false} (some "i2c_host".toList),
            i2cOutcome true {readySystem with realpath := fun _ => none} (some "i2c_host".toList),
            i2cOutcome true {readySystem with ioctl := fun _ _ _ => -1} (some "i2c_host".toList),
            i2cOutcome false readySystem (some "i2c_host".toList)],
          ∀ info, ¬ Registered outcome info := by
  refine ⟨?_,?_,?_⟩
  · rw [← hostPerms_positions orderedPal tableMap attributesHcs (fun _ => true) (fun _ => 0),
      Mask.positions_nonempty]
    decide +kernel
  · intro info
    unfold i2cOutcome
    rw [registerAll_registered_iff]
    intro ⟨_,_,hostName,read,_⟩
    cases read
  · intro outcome one info
    unfold i2cOutcome at one
    simp only [List.mem_cons,List.not_mem_nil,or_false] at one
    rcases one with rfl | rfl | rfl | rfl
    · rw [registerAll_registered_iff]
      intro ⟨_,answered,_⟩
      cases answered
    · rw [registerAll_registered_iff]
      intro ⟨_,_,_,_,_,_,path,resolved,_⟩
      cases resolved
    · rw [registerAll_registered_iff]
      intro ⟨_,_,_,_,_,_,path,_,_,taken⟩
      cases taken
    · rw [registerAll_registered_iff]
      intro ⟨some_bit,_⟩
      exact some_bit (by decide +kernel)

end DriversAdapter.Security
