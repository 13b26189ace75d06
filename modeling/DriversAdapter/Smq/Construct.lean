import DriversAdapter.Smq.Outcome

/-! What the two constructors leave behind: the geometry a created queue is known to
have, and the offsets after creation and after an attach. -/
namespace DriversAdapter.Smq
open DriversAdapter.Base DriversAdapter.Semantics DriversAdapter.Semantics.Program

variable {ι : Type} [DecidableEq ι]

namespace Shared

@[simp] theorem readOffsetOf_set (type : UInt32) (i : ι) (offset : Nat) (s : Shared ι) :
    (s.setReadOffset type i offset).readOffsetOf type i = offset := by
  unfold setReadOffset readOffsetOf
  split <;> simp

/-- A synchronized queue has one read offset, any other queue one for each endpoint. -/
theorem readOffsetOf_setReadOffset (type : UInt32) (i j : ι) (offset : Nat) (s : Shared ι) :
    (s.setReadOffset type i offset).readOffsetOf type j =
      if type = syncedSmq ∨ j = i then offset else s.readOffsetOf type j := by
  unfold setReadOffset readOffsetOf
  by_cases synced : type = syncedSmq
  · simp [synced]
  · by_cases same : j = i <;> simp [synced,same]

@[simp] theorem setReadOffset_writeOffset (type : UInt32) (i : ι) (offset : Nat) (s : Shared ι) :
    (s.setReadOffset type i offset).writeOffset = s.writeOffset := by
  unfold setReadOffset
  split <;> rfl

@[simp] theorem setReadOffset_queueBuffer (type : UInt32) (i : ι) (offset : Nat) (s : Shared ι) :
    (s.setReadOffset type i offset).queueBuffer = s.queueBuffer := by
  unfold setReadOffset
  split <;> rfl

omit [DecidableEq ι] in
theorem readOffsetOf_synced (i j : ι) (s : Shared ι) :
    s.readOffsetOf syncedSmq i = s.readOffsetOf syncedSmq j := rfl

end Shared

namespace SharedMemQueueMeta

theorem alignToWord_le (num : Nat) : alignToWord num ≤ 2^32 - 8 := Nat.and_le_right

theorem alignToWord_dvd (num : Nat) : 8 ∣ alignToWord num := by
  apply Nat.dvd_of_mod_eq_zero
  have low := Nat.and_mod_two_pow (a := u64 (num + 8 - 1)) (b := 2^32 - 8) (n := 3)
  unfold alignToWord
  simpa using low

theorem make_elementSize (sizeofT : Nat) (stale : MemZoneType → MemZone) (fd : Int)
    (elementCount : UInt64) (type : UInt32) :
    (make sizeofT stale fd elementCount type).getElementSize = alignToWord sizeofT := by
  have le := alignToWord_le sizeofT
  have size : (UInt64.ofNat (alignToWord sizeofT)).toNat = alignToWord sizeofT := by
    rw [UInt64.toNat_ofNat']
    exact Nat.mod_eq_of_lt (by omega)
  unfold make getElementSize
  dsimp only
  split <;> exact size

theorem make_fields (sizeofT : Nat) (stale : MemZoneType → MemZone) (fd : Int)
    (elementCount : UInt64) (type : UInt32) :
    (make sizeofT stale fd elementCount type).getElementCount = elementCount.toNat ∧
      (make sizeofT stale fd elementCount type).getType = type := by
  unfold make getElementCount getType
  dsimp only
  split <;> exact ⟨rfl,rfl⟩

end SharedMemQueueMeta

namespace SharedMemQueue

theorem run_init (q : SharedMemQueue) (env : Platform) (reset : Bool) (i : ι) (s : Shared ι) :
    (q.init env reset).run (serve q.metaData.getType i) s =
      if q.metaData.getElementSize ≠ q.sizeofT then (hdfFailure,s)
      else if q.mapsZones env = false then (hdfFailure,s)
      else (hdfSuccess,(if reset then {s with writeOffset := 0} else s).setReadOffset
        q.metaData.getType i 0) := by
  unfold init
  rw [run_ite,run_ite]
  congr 1
  congr 1
  cases reset <;> rfl

/-- A queue that reports success has the asked geometry, and both offsets at zero. -/
theorem create_usable (env : Platform) (sizeofT : Nat) (sizeof_pos : 0 < sizeofT)
    (stale : MemZoneType → MemZone) (elementCount type : UInt32) (i : ι) (fresh start : Shared ι)
    (q : SharedMemQueue)
    (made : (create env sizeofT sizeof_pos stale elementCount type).run (serve type i) fresh =
      (some q,start)) :
    Constructed q ∧ q.sizeofT = sizeofT ∧ q.metaData.getElementCount = elementCount.toNat ∧
      q.metaData.getType = type ∧ q.metaData.getElementSize = q.sizeofT ∧ 8 ∣ sizeofT ∧
      start = ({fresh with writeOffset := 0} : Shared ι).setReadOffset type i 0 := by
  unfold create at made
  rw [run_ite] at made
  split at made
  next => simp at made
  next few =>
    dsimp only at made
    rw [run_ite] at made
    split at made
    next => simp at made
    next =>
      generalize fd_eq : env.ashmemCreate _ = fd at made
      obtain ⟨counts,types⟩ := SharedMemQueueMeta.make_fields sizeofT stale (-1)
        elementCount.toUInt64 type
      have sizes := SharedMemQueueMeta.make_elementSize sizeofT stale (-1)
        elementCount.toUInt64 type
      generalize SharedMemQueueMeta.make sizeofT stale (-1) elementCount.toUInt64 type = metaData
        at made counts types sizes
      have init_eq := run_init ⟨sizeofT,sizeof_pos,{metaData with ashmemFd := fd}⟩ env true i fresh
      rw [show SharedMemQueueMeta.getType {metaData with ashmemFd := fd} = type from types]
        at init_eq
      rw [run_bind,init_eq] at made
      split at made
      next => simp [hdfFailure,hdfSuccess] at made
      next same =>
        split at made
        next => simp [hdfFailure,hdfSuccess] at made
        next =>
          simp only [if_true,pure_eq,run_done,Prod.mk.injEq,Option.some.injEq] at made
          obtain ⟨rfl,rfl⟩ := made
          have size : SharedMemQueueMeta.alignToWord sizeofT = sizeofT := by
            rw [← sizes]
            exact not_not.mp same
          have le := SharedMemQueueMeta.alignToWord_le sizeofT
          have count_eq : elementCount.toUInt64.toNat = elementCount.toNat := by simp
          refine ⟨⟨?_,?_⟩,rfl,?_,types,not_not.mp same,?_,rfl⟩
          · change metaData.getElementCount ≤ _
            omega
          · change sizeofT < 2^32
            omega
          · exact counts.trans count_eq
          · rw [← size]
            exact SharedMemQueueMeta.alignToWord_dvd sizeofT

end SharedMemQueue

end DriversAdapter.Smq
