import DriversAdapter.Smq.Copy
import DriversAdapter.Smq.Construct

/-! The memory layout of a created queue: where the zones lie in the file, and what is passed
to `mmap` for each of them, for every element size and count. -/
namespace DriversAdapter.Smq
open DriversAdapter.Base DriversAdapter.Semantics DriversAdapter.Semantics.Program

theorem and_high_mask (x k w : Nat) (le : k ≤ w) (small : x < 2^w) :
    x &&& (2^w - 2^k) = x / 2^k * 2^k := by
  have mask : 2^w - 2^k = (2^(w - k) - 1) * 2^k := by
    rw [Nat.sub_mul,← Nat.pow_add,Nat.sub_add_cancel le,Nat.one_mul]
  rw [mask]
  apply Nat.eq_of_testBit_eq
  intro i
  rw [Nat.testBit_and,Nat.testBit_mul_two_pow,Nat.testBit_mul_two_pow,Nat.testBit_div_two_pow,
    Nat.testBit_two_pow_sub_one]
  by_cases low : k ≤ i
  · rw [Nat.sub_add_cancel low]
    by_cases high : i < w
    · simp [low,show i - k < w - k by omega]
    · have clear : x.testBit i = false :=
        Nat.testBit_lt_two_pow (Nat.lt_of_lt_of_le small (Nat.pow_le_pow_right (by decide) (by omega)))
      simp [clear]
  · simp [low]

namespace SharedMemQueueMeta

theorem alignToWord_eq (num : Nat) (small : num + 7 < 2^32) :
    alignToWord num = (num + 7) / 8 * 8 := by
  unfold alignToWord
  rw [u64_of_lt _ (by omega)]
  exact and_high_mask (num + 7) 3 32 (by decide) small

theorem alignToWord_fixed_iff (num : Nat) : alignToWord num = num ↔ 8 ∣ num ∧ num < 2^32 := by
  constructor
  · intro fixed
    have le := alignToWord_le num
    exact ⟨fixed ▸ alignToWord_dvd num,by omega⟩
  · rintro ⟨whole,small⟩
    rw [alignToWord_eq num (by omega)]
    omega

end SharedMemQueueMeta

theorem le_align (num : Nat) (small : num < 2^32) : num ≤ SharedMemQueue.align num 4096 := by
  unfold SharedMemQueue.align
  rw [u64_of_lt _ (by omega)]
  have masked := and_high_mask (num + 4096 - 1) 12 64 (by decide) (by omega)
  have same : (2^64 - 4096 : Nat) = 2^64 - 2^12 := by norm_num
  rw [same,masked]
  omega

def SharedMemQueueMeta.fileSize (m : SharedMemQueueMeta) : Nat :=
  SharedMemQueue.align m.size.toNat pageSize.toNat

def MemZone.start (zone : MemZone) : Nat := zone.offset.toNat

def MemZone.ends (zone : MemZone) : Nat := zone.offset.toNat + zone.size.toNat

/-- The offset and the length that go to `mmap`, without a limit on the numbers. -/
def MemZone.exactOffset (zone : MemZone) : Nat := zone.start / 4096 * 4096
def MemZone.exactLength (zone : MemZone) : Nat := zone.ends - zone.exactOffset

/-- The zones of a queue lie apart from each other in the file, the data zone takes all
elements, and every zone is mapped as a whole. -/
structure SoundLayout (m : SharedMemQueueMeta) (bytes : Nat) : Prop where
  disjoint : ∀ a b, a ≠ b → Apart (m.memzone a).start (m.memzone a).size.toNat
    (m.memzone b).start (m.memzone b).size.toNat
  inside : ∀ zone, (m.memzone zone).ends ≤ m.fileSize
  room : bytes ≤ (m.memzone .data).size.toNat
  offset_exact : ∀ zone, (m.memzone zone).pageStart.toInt32.toInt = (m.memzone zone).exactOffset
  length_exact : ∀ zone, (m.memzone zone).mapLength = (m.memzone zone).exactLength
  covered : ∀ zone, (m.memzone zone).exactOffset ≤ (m.memzone zone).start ∧
    (m.memzone zone).ends ≤ (m.memzone zone).exactOffset + (m.memzone zone).exactLength

/-- `mmap` refuses a length of zero, and a negative length, which is a huge one to it. -/
def Platform.Maps (env : Platform) : Prop :=
  ∀ length fd offset, env.mmap length fd offset = true → 0 < length

namespace SharedMemQueue

/-- What a usable queue consists of. -/
theorem create_eq_some_iff {ι : Type} [DecidableEq ι] (env : Platform) (sizeofT : Nat)
    (sizeof_pos : 0 < sizeofT) (stale : MemZoneType → MemZone) (elementCount type : UInt32) (i : ι)
    (fresh : Shared ι) (q : SharedMemQueue) :
    ((create env sizeofT sizeof_pos stale elementCount type).run (serve type i) fresh).1 = some q ↔
      elementCount.toNat ≤ SharedMemQueueMeta.uint16Max ∧
      let metaData := SharedMemQueueMeta.make sizeofT stale (-1) elementCount.toUInt64 type
      let fd := env.ashmemCreate metaData.fileSize
      ¬ fd < 0 ∧ SharedMemQueueMeta.alignToWord sizeofT = sizeofT ∧
        q = ⟨sizeofT,sizeof_pos,{metaData with ashmemFd := fd}⟩ ∧ q.mapsZones env = true := by
  unfold create
  rw [run_ite]
  by_cases many : elementCount.toNat > SharedMemQueueMeta.uint16Max
  · rw [if_pos many]
    simp
    omega
  rw [if_neg many]
  have few : elementCount.toNat ≤ SharedMemQueueMeta.uint16Max := Nat.not_lt.mp many
  have sizes := SharedMemQueueMeta.make_elementSize sizeofT stale (-1) elementCount.toUInt64 type
  have types := (SharedMemQueueMeta.make_fields sizeofT stale (-1) elementCount.toUInt64 type).2
  unfold SharedMemQueueMeta.fileSize
  dsimp only
  generalize SharedMemQueueMeta.make sizeofT stale (-1) elementCount.toUInt64 type = metaData
    at sizes types
  generalize env.ashmemCreate _ = fd
  rw [run_ite]
  by_cases refused : fd < 0
  · simp [refused]
  rw [if_neg refused,run_bind]
  have init_eq := run_init ⟨sizeofT,sizeof_pos,{metaData with ashmemFd := fd}⟩ env true i fresh
  rw [show SharedMemQueueMeta.getType {metaData with ashmemFd := fd} = type from types,
    show SharedMemQueueMeta.getElementSize {metaData with ashmemFd := fd} =
      SharedMemQueueMeta.alignToWord sizeofT from sizes] at init_eq
  rw [init_eq]
  have failing : hdfFailure ≠ hdfSuccess := by decide
  by_cases sized : SharedMemQueueMeta.alignToWord sizeofT = sizeofT
  · rw [if_neg (not_not.mpr sized)]
    cases mapped : mapsZones ⟨sizeofT,sizeof_pos,{metaData with ashmemFd := fd}⟩ env
    · simp only [if_true,if_neg failing,pure_eq,run_done]
      constructor
      · intro none_made
        cases none_made
      · rintro ⟨_,_,_,rfl,also⟩
        rw [mapped] at also
        cases also
    · simp only [if_true,pure_eq,run_done,Bool.true_eq_false,if_false]
      constructor
      · rintro ⟨rfl⟩
        exact ⟨few,refused,sized,rfl,mapped⟩
      · rintro ⟨_,_,_,rfl,_⟩
        rfl
  · rw [if_pos sized]
    simp [failing,sized]

end SharedMemQueue

/-- The zones with so many bytes of data. -/
def zonesOf (dataSize : UInt32) : MemZoneType → MemZone
  | .rptr => ⟨8,0⟩
  | .wptr => ⟨8,8⟩
  | .syncer => ⟨4,16⟩
  | .data => ⟨dataSize,24⟩

namespace SharedMemQueueMeta

section Make
variable (sizeofT : Nat) (stale : MemZoneType → MemZone) (fd : Int) (elementCount : UInt64)
variable (type : UInt32) (sized : alignToWord sizeofT = sizeofT) (sizeof_pos : 0 < sizeofT)
include sized sizeof_pos

theorem make_overflow (much : 2^32 ≤ elementCount.toNat * sizeofT) :
    (make sizeofT stale fd elementCount type).memzone = stale ∧
      (make sizeofT stale fd elementCount type).size = 0 := by
  have small := (alignToWord_fixed_iff sizeofT).mp sized
  have element : (UInt64.ofNat (alignToWord sizeofT)).toNat = sizeofT := by
    rw [sized,UInt64.toNat_ofNat',Nat.mod_eq_of_lt (by omega)]
  have too_many : elementCount.toNat > uint32Max / (UInt64.ofNat (alignToWord sizeofT)).toNat := by
    rw [element,gt_iff_lt,Nat.div_lt_iff_lt_mul sizeof_pos]
    unfold uint32Max
    omega
  unfold make
  dsimp only
  rw [if_pos too_many]
  exact ⟨rfl,rfl⟩

theorem make_zones (enough : elementCount.toNat * sizeofT < 2^32) :
    (make sizeofT stale fd elementCount type).memzone =
        zonesOf (UInt32.ofNat (elementCount.toNat * sizeofT)) ∧
      (make sizeofT stale fd elementCount type).size.toNat =
        (24 + elementCount.toNat * sizeofT) % 2^32 := by
  have small := (alignToWord_fixed_iff sizeofT).mp sized
  have element : (UInt64.ofNat (alignToWord sizeofT)).toNat = sizeofT := by
    rw [sized,UInt64.toNat_ofNat',Nat.mod_eq_of_lt (by omega)]
  have under : ¬ elementCount.toNat > uint32Max / (UInt64.ofNat (alignToWord sizeofT)).toNat := by
    rw [element,gt_iff_lt,Nat.div_lt_iff_lt_mul sizeof_pos]
    unfold uint32Max
    omega
  unfold make
  dsimp only
  rw [if_neg under,element,u64_of_lt _ (by omega)]
  constructor
  · have starts : alignToWord 0 = 0 ∧ alignToWord 8 = 8 ∧ alignToWord (8 + 8) = 16 ∧
        alignToWord (8 + 8 + 4) = 24 := by decide
    obtain ⟨first,second,third,fourth⟩ := starts
    funext zone
    cases zone
    · exact congrArg (fun n => MemZone.mk 8 (UInt32.ofNat n)) first
    · exact congrArg (fun n => MemZone.mk 8 (UInt32.ofNat n)) second
    · exact congrArg (fun n => MemZone.mk 4 (UInt32.ofNat n)) third
    · exact congrArg (fun n => MemZone.mk _ (UInt32.ofNat n)) fourth
  · rw [UInt32.toNat_toUInt64,UInt32.toNat_add]
    have start : alignToWord (8 + 8 + 4) = 24 := by decide
    change ((UInt32.ofNat (alignToWord (8 + 8 + 4))).toNat +
      (UInt32.ofNat (elementCount.toNat * sizeofT)).toNat) % 2^32 = _
    rw [start,UInt32.toNat_ofNat',UInt32.toNat_ofNat',Nat.mod_eq_of_lt enough]

end Make

end SharedMemQueueMeta

theorem zonesOf_start (dataSize : UInt32) (zone : MemZoneType) :
    (zonesOf dataSize zone).start < 4096 := by
  cases zone <;> simp [zonesOf,MemZone.start]

theorem zonesOf_data_ends (bytes : Nat) (small : bytes < 2^32) :
    (zonesOf (UInt32.ofNat bytes) .data).ends = 24 + bytes := by
  unfold zonesOf MemZone.ends
  dsimp only
  rw [UInt32.toNat_ofNat',Nat.mod_eq_of_lt small]
  rfl

theorem page_zero (zone : MemZone) (first : zone.start < 4096) :
    zone.pageStart = 0 ∧ zone.exactOffset = 0 := by
  have page : zone.offset / pageSize = 0 := by
    apply UInt32.toNat_inj.mp
    rw [UInt32.toNat_div]
    exact Nat.div_eq_of_lt first
  constructor
  · unfold MemZone.pageStart
    rw [page,UInt32.zero_mul]
  · unfold MemZone.exactOffset
    rw [Nat.div_eq_of_lt first,Nat.zero_mul]

/-- The length that goes to `mmap` keeps the sign bit of a 32-bit sum. -/
theorem mapLength_eq (zone : MemZone) (first : zone.start < 4096) :
    zone.mapLength = if zone.ends % 2^32 < 2^31 then ((zone.ends % 2^32 : Nat) : Int)
      else ((zone.ends % 2^32 : Nat) : Int) - 2^32 := by
  have sum : (zone.offset - 0 + zone.size).toNat = zone.ends % 2^32 := by
    rw [UInt32.sub_zero,UInt32.toNat_add]
    rfl
  unfold MemZone.mapLength
  rw [(page_zero zone first).1,← sum]
  generalize zone.offset - 0 + zone.size = total
  change total.toBitVec.toInt = _
  rw [BitVec.toInt_eq_toNat_cond]
  change (if 2 * total.toNat < 2^32 then (total.toNat : Int) else (total.toNat : Int) - 2^32) = _
  congr 1
  apply propext
  omega

/-- A data zone that ends below the sign bit makes a sound layout. -/
theorem zonesOf_sound (m : SharedMemQueueMeta) (bytes : Nat)
    (zones : m.memzone = zonesOf (UInt32.ofNat bytes)) (size : m.size.toNat = 24 + bytes)
    (below : 24 + bytes < 2^31) : SoundLayout m bytes := by
  have data : (UInt32.ofNat bytes).toNat = bytes := by
    rw [UInt32.toNat_ofNat',Nat.mod_eq_of_lt (by omega)]
  have ends (zone : MemZoneType) : (m.memzone zone).ends ≤ 24 + bytes := by
    rw [zones]
    unfold MemZone.ends
    cases zone <;> simp [zonesOf] <;> omega
  have page (zone : MemZoneType) := page_zero (m.memzone zone)
    (by rw [zones]; exact zonesOf_start _ zone)
  refine ⟨?_,?_,?_,?_,?_,?_⟩
  · intro a b differ
    rw [zones]
    unfold Apart MemZone.start
    cases a <;> cases b <;> simp [zonesOf] at differ ⊢
  · intro zone
    have le := le_align m.size.toNat (by omega)
    have last := ends zone
    change _ ≤ SharedMemQueue.align m.size.toNat 4096
    omega
  · rw [zones]
    exact Nat.le_of_eq data.symm
  · intro zone
    rw [(page zone).1,(page zone).2]
    rfl
  · intro zone
    have last := ends zone
    unfold MemZone.exactLength
    rw [(page zone).2,mapLength_eq _ (by rw [zones]; exact zonesOf_start _ zone),
      Nat.mod_eq_of_lt (by omega),if_pos (by omega)]
    rfl
  · intro zone
    unfold MemZone.exactLength
    rw [(page zone).2]
    omega

theorem mapped_length (q : SharedMemQueue) (env : Platform) (maps : env.Maps)
    (mapped : q.mapsZones env = true) : 0 < (q.metaData.memzone .data).mapLength := by
  unfold SharedMemQueue.mapsZones at mapped
  rw [Bool.and_eq_true] at mapped
  exact maps _ _ _ mapped.2

/-- A system on which nothing fails but a mapping without a length. -/
def Platform.honest : Platform := ⟨fun _ => 3,id,fun length _ _ => decide (0 < length)⟩

theorem Platform.honest_maps : Platform.honest.Maps := fun _ _ _ granted => of_decide_eq_true granted

theorem honest_mapsZones (q : SharedMemQueue)
    (long : ∀ zone, 0 < (q.metaData.memzone zone).mapLength) : q.mapsZones .honest = true := by
  have maps (zone : MemZoneType) : q.mapMemZone .honest zone = true := decide_eq_true (long zone)
  unfold SharedMemQueue.mapsZones
  simp [maps]

/-- Elements of a size that is no whole number of words are refused, and any others make at most
three words less than the sizes of 32 bits. -/
def LayoutFits (sizeofT : Nat) (elementCount : UInt32) : Prop :=
  ¬ (8 ∣ sizeofT ∧ sizeofT < 2^32) ∨ elementCount.toNat * sizeofT ≤ 2^32 - 24

section Construct
variable {ι : Type} [DecidableEq ι] (sizeofT : Nat) (sizeof_pos : 0 < sizeofT)
variable (elementCount type : UInt32) (i : ι) (fresh : Shared ι)

theorem created_sound (env : Platform) (maps : env.Maps) (stale : MemZoneType → MemZone)
    (fits : LayoutFits sizeofT elementCount) (q : SharedMemQueue)
    (made : ((SharedMemQueue.create env sizeofT sizeof_pos stale elementCount type).run
      (serve type i) fresh).1 = some q) :
    SoundLayout q.metaData (elementCount.toNat * sizeofT) := by
  obtain ⟨_,_,sized,rfl,mapped⟩ :=
    (SharedMemQueue.create_eq_some_iff env sizeofT sizeof_pos stale elementCount type i fresh q).mp
      made
  have whole := (SharedMemQueueMeta.alignToWord_fixed_iff sizeofT).mp sized
  have bytes : elementCount.toNat * sizeofT ≤ 2^32 - 24 := by
    rcases fits with odd | le
    · exact absurd whole odd
    · exact le
  have count : elementCount.toUInt64.toNat = elementCount.toNat := UInt32.toNat_toUInt64 _
  have enough : elementCount.toUInt64.toNat * sizeofT < 2^32 := by
    rw [count]
    omega
  obtain ⟨zones,size⟩ := SharedMemQueueMeta.make_zones sizeofT stale (-1) elementCount.toUInt64 type
    sized sizeof_pos enough
  rw [count] at zones size
  -- the mapping of the data zone has a positive length, which rules a wrapped end out
  have length := mapped_length _ env maps mapped
  dsimp only at length
  rw [zones,mapLength_eq _ (zonesOf_start _ _)] at length
  rw [zonesOf_data_ends _ (by omega)] at length
  split_ifs at length with below
  · exact zonesOf_sound _ _ zones (by dsimp only; rw [size,Nat.mod_eq_of_lt (by omega)]) (by omega)
  · omega

theorem unsound_created (admitted : elementCount.toNat ≤ SharedMemQueueMeta.uint16Max)
    (wraps : ¬ LayoutFits sizeofT elementCount) :
    ∃ stale q, ((SharedMemQueue.create .honest sizeofT sizeof_pos stale elementCount type).run
      (serve type i) fresh).1 = some q ∧
        ¬ SoundLayout q.metaData (elementCount.toNat * sizeofT) := by
  unfold LayoutFits at wraps
  obtain ⟨whole,much⟩ := not_or.mp wraps
  rw [not_not] at whole
  have sized := (SharedMemQueueMeta.alignToWord_fixed_iff sizeofT).mpr whole
  have count : elementCount.toUInt64.toNat = elementCount.toNat := UInt32.toNat_toUInt64 _
  have multiple : 8 ∣ elementCount.toNat * sizeofT := Dvd.dvd.mul_left whole.1 _
  have opened (size : Nat) : ¬ Platform.honest.ashmemCreate size < 0 :=
    not_lt.mpr (by decide : (0 : Int) ≤ 3)
  refine ⟨fun _ => ⟨8,0⟩,_,(SharedMemQueue.create_eq_some_iff .honest sizeofT sizeof_pos _
    elementCount type i fresh _).mpr ⟨admitted,opened _,sized,rfl,honest_mapsZones _ ?_⟩,?_⟩
  · intro zone
    by_cases overflow : 2^32 ≤ elementCount.toUInt64.toNat * sizeofT
    · obtain ⟨zones,_⟩ := SharedMemQueueMeta.make_overflow sizeofT (fun _ => ⟨8,0⟩) (-1)
        elementCount.toUInt64 type sized sizeof_pos overflow
      dsimp only
      rw [zones]
      exact (by decide : 0 < (⟨8,0⟩ : MemZone).mapLength)
    · obtain ⟨zones,_⟩ := SharedMemQueueMeta.make_zones sizeofT (fun _ => ⟨8,0⟩) (-1)
        elementCount.toUInt64 type sized sizeof_pos (by omega)
      rw [count] at overflow zones
      dsimp only
      rw [zones,mapLength_eq _ (zonesOf_start _ zone)]
      have ends : (zonesOf (UInt32.ofNat (elementCount.toNat * sizeofT)) zone).ends % 2^32 < 2^31 ∧
          0 < (zonesOf (UInt32.ofNat (elementCount.toNat * sizeofT)) zone).ends % 2^32 := by
        unfold MemZone.ends
        cases zone <;> simp [zonesOf]
        omega
      rw [if_pos ends.1]
      exact Int.natCast_pos.mpr ends.2
  · intro sound
    by_cases overflow : 2^32 ≤ elementCount.toUInt64.toNat * sizeofT
    · obtain ⟨zones,_⟩ := SharedMemQueueMeta.make_overflow sizeofT (fun _ => ⟨8,0⟩) (-1)
        elementCount.toUInt64 type sized sizeof_pos overflow
      have room := sound.room
      dsimp only at room
      rw [zones] at room
      change _ ≤ 8 at room
      omega
    · obtain ⟨zones,size⟩ := SharedMemQueueMeta.make_zones sizeofT (fun _ => ⟨8,0⟩) (-1)
        elementCount.toUInt64 type sized sizeof_pos (by omega)
      rw [count] at overflow zones size
      have inside := sound.inside .data
      dsimp only at inside
      unfold SharedMemQueueMeta.fileSize at inside
      dsimp only at inside
      rw [zones,size] at inside
      have file : SharedMemQueue.align 8 4096 = 4096 ∧ SharedMemQueue.align 16 4096 = 4096 := by
        decide
      have wrapped : (24 + elementCount.toNat * sizeofT) % 2^32 = 8 ∨
          (24 + elementCount.toNat * sizeofT) % 2^32 = 16 := by omega
      change _ ≤ SharedMemQueue.align _ 4096 at inside
      rw [zonesOf_data_ends _ (by omega)] at inside
      rcases wrapped with eight | sixteen
      · rw [eight,file.1] at inside
        omega
      · rw [sixteen,file.2] at inside
        omega

/-- For every count that the constructor admits, whatever the memory of the description held
before, the queues that report success have a sound layout exactly when the layout fits. -/
theorem layout_sound_iff
    (admitted : elementCount.toNat ≤ SharedMemQueueMeta.uint16Max) :
    (∀ env : Platform, env.Maps → ∀ stale q,
      ((SharedMemQueue.create env sizeofT sizeof_pos stale elementCount type).run
        (serve type i) fresh).1 = some q →
        SoundLayout q.metaData (elementCount.toNat * sizeofT)) ↔
      LayoutFits sizeofT elementCount := by
  constructor
  · intro sound
    by_contra wraps
    obtain ⟨stale,q,made,unsound⟩ :=
      unsound_created sizeofT sizeof_pos elementCount type i fresh admitted wraps
    exact unsound (sound .honest Platform.honest_maps stale q made)
  · intro fits env maps stale q made
    exact created_sound sizeofT sizeof_pos elementCount type i fresh env maps stale fits q made

end Construct

def emptyShared : Shared Unit := ⟨0,0,fun _ => 0,fun _ => 0⟩

theorem layout_sound_four :
    ∃ q, ((SharedMemQueue.create .honest 8 (by decide) (fun _ => ⟨0,0⟩) 4 syncedSmq).run
      (serve syncedSmq ()) emptyShared).1 = some q ∧ SoundLayout q.metaData 32 := by
  have fits : LayoutFits 8 4 := .inr (by decide)
  have sound := (layout_sound_iff 8 (by decide) 4 syncedSmq () emptyShared (by decide)).mpr fits
  obtain ⟨q,made⟩ : ∃ q, ((SharedMemQueue.create .honest 8 (by decide) (fun _ => ⟨0,0⟩) 4
      syncedSmq).run (serve syncedSmq ()) emptyShared).1 = some q := ⟨_,rfl⟩
  exact ⟨q,made,sound .honest Platform.honest_maps _ q made⟩

/-- 16385 elements of 262128 bytes are sixteen bytes less than 2^32: the end of the data zone
wraps, the file is one page long, and the queue is usable. -/
theorem wrapped_layout :
    ∃ stale q, ((SharedMemQueue.create .honest 262128 (by decide) stale 16385 syncedSmq).run
      (serve syncedSmq ()) emptyShared).1 = some q ∧ ¬ SoundLayout q.metaData (16385 * 262128) :=
  unsound_created 262128 (by decide) 16385 syncedSmq () emptyShared (by decide)
    (by unfold LayoutFits; decide)

end DriversAdapter.Smq
