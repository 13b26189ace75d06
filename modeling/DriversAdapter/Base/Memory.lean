import Mathlib.Algebra.Group.Nat.Hom
import Mathlib.Data.List.Basic

/-! Memory as bytes at offsets, the copies between two memories, and the limits of the
bounds-checked copy functions. -/
namespace DriversAdapter.Base

abbrev Bytes := Nat → UInt8
abbrev Block := List UInt8

/-- The bytes at `start`, read as one block. -/
def chunk (memory : Bytes) (start len : Nat) : Block :=
  (List.range len).map (fun i => memory (start + i))

def copyBytes (memory : Bytes) (dst : Nat) (data : Bytes) (src len : Nat) : Bytes :=
  fun a => if dst ≤ a ∧ a < dst + len then data (src + (a - dst)) else memory a

def secureMemMaxLen : Nat := 2^31 - 1

def eok : Int := 0
def erange : Int := 34
def erangeAndReset : Int := 162

@[simp] theorem chunk_length (memory : Bytes) (start len : Nat) :
    (chunk memory start len).length = len := by
  simp [chunk]

theorem chunk_eq_iff (f g : Bytes) (a b len : Nat) :
    chunk f a len = chunk g b len ↔ ∀ i < len, f (a + i) = g (b + i) := by
  unfold chunk
  rw [List.map_inj_left]
  simp only [List.mem_range]

theorem chunk_congr (f g : Bytes) (a b len : Nat) (same : ∀ i < len, f (a + i) = g (b + i)) :
    chunk f a len = chunk g b len :=
  (chunk_eq_iff f g a b len).mpr same

/-- `memcpy_s` between two memories that do not overlap, with the destination it leaves. -/
def memcpyS (memory : Bytes) (dst destMax : Nat) (data : Bytes) (src count : Nat) : Int × Bytes :=
  if destMax = 0 ∨ secureMemMaxLen < destMax then (erange,memory)
  else if destMax < count then (erangeAndReset,copyBytes memory dst (fun _ => 0) 0 destMax)
  else (eok,copyBytes memory dst data src count)

theorem chunk_append (memory : Bytes) (start a b : Nat) :
    chunk memory start a ++ chunk memory (start + a) b = chunk memory start (a + b) := by
  unfold chunk
  rw [List.range_add,List.map_append,List.map_map]
  congr 1
  apply List.map_congr_left
  intro i _
  rw [Function.comp_apply,Nat.add_assoc]

theorem copyBytes_zero (memory : Bytes) (dst : Nat) (data : Bytes) (src : Nat) :
    copyBytes memory dst data src 0 = memory := by
  funext a
  unfold copyBytes
  rw [if_neg (by omega)]

theorem copyBytes_append (memory : Bytes) (dst : Nat) (data : Bytes) (src a b : Nat) :
    copyBytes (copyBytes memory dst data src a) (dst + a) data (src + a) b =
      copyBytes memory dst data src (a + b) := by
  funext i
  unfold copyBytes
  split_ifs with late early whole whole <;> first | rfl | omega | skip
  · rw [show src + a + (i - (dst + a)) = src + (i - dst) by omega]

/-- A copy is the copy of the first byte and that of the others. -/
theorem copyBytes_update (memory : Bytes) (dst : Nat) (data : Bytes) (src n : Nat) :
    copyBytes (Function.update memory dst (data src)) (dst + 1) data (src + 1) n =
      copyBytes memory dst data src (n + 1) := by
  have first : Function.update memory dst (data src) = copyBytes memory dst data src 1 := by
    funext a
    unfold copyBytes
    by_cases here : a = dst
    · rw [here,Function.update_self,if_pos (by omega),Nat.sub_self,Nat.add_zero]
    · rw [Function.update_of_ne here,if_neg (by omega)]
  rw [first,copyBytes_append,Nat.add_comm 1 n]

theorem chunk_copyBytes_before (memory data : Bytes) (start len dst src n : Nat)
    (before : start + len ≤ dst) :
    chunk (copyBytes memory dst data src n) start len = chunk memory start len := by
  apply chunk_congr
  intro i bound
  unfold copyBytes
  rw [if_neg (by omega)]

theorem chunk_copyBytes_self (memory data : Bytes) (dst src n : Nat) :
    chunk (copyBytes memory dst data src n) dst n = chunk data src n := by
  apply chunk_congr
  intro i bound
  unfold copyBytes
  rw [if_pos (by omega),Nat.add_sub_cancel_left]

theorem chunk_copyBytes_behind (memory data : Bytes) (start len dst src n : Nat)
    (behind : dst + n ≤ start) :
    chunk (copyBytes memory dst data src n) start len = chunk memory start len := by
  apply chunk_congr
  intro i bound
  unfold copyBytes
  rw [if_neg (by omega)]

theorem chunk_copyBytes_inside (memory data : Bytes) (start len dst src n : Nat) (late : dst ≤ start)
    (early : start + len ≤ dst + n) :
    chunk (copyBytes memory dst data src n) start len = chunk data (src + (start - dst)) len := by
  apply chunk_congr
  intro i bound
  unfold copyBytes
  rw [if_pos (by omega)]
  congr 1
  omega

theorem chunk_const (byte : UInt8) (start len : Nat) :
    chunk (fun _ => byte) start len = List.replicate len byte := by
  simp [chunk]

/-- A block with other bytes from a position on. -/
def patch (block : Block) (pos : Nat) (data : Block) : Block :=
  block.take pos ++ data ++ block.drop (pos + data.length)

theorem take_chunk (memory : Bytes) (start len n : Nat) (fits : n ≤ len) :
    (chunk memory start len).take n = chunk memory start n := by
  obtain ⟨rest,rfl⟩ := Nat.exists_eq_add_of_le fits
  rw [← chunk_append,List.take_left' (chunk_length _ _ _)]

theorem drop_chunk (memory : Bytes) (start len n : Nat) (fits : n ≤ len) :
    (chunk memory start len).drop n = chunk memory (start + n) (len - n) := by
  obtain ⟨rest,rfl⟩ := Nat.exists_eq_add_of_le fits
  rw [← chunk_append,List.drop_left' (chunk_length _ _ _),Nat.add_sub_cancel_left]

/-- A copy into a range is a patch of its bytes. -/
theorem chunk_copyBytes_within (memory data : Bytes) (start len pos src n : Nat)
    (fits : pos + n ≤ len) : chunk (copyBytes memory (start + pos) data src n) start len =
      patch (chunk memory start len) pos (chunk data src n) := by
  obtain ⟨rest,rfl⟩ := Nat.exists_eq_add_of_le fits
  unfold patch
  rw [← chunk_append,← chunk_append,chunk_copyBytes_before _ _ _ _ _ _ _ (Nat.le_refl _),
    chunk_copyBytes_self,chunk_copyBytes_behind _ _ _ _ _ _ _ (by omega),
    take_chunk _ _ _ _ (by omega),chunk_length,drop_chunk _ _ _ _ fits,Nat.add_sub_cancel_left]

theorem memcpyS_eok_iff (memory : Bytes) (dst destMax : Nat) (data : Bytes) (src count : Nat) :
    (memcpyS memory dst destMax data src count).1 = eok ↔
      0 < destMax ∧ destMax ≤ secureMemMaxLen ∧ count ≤ destMax := by
  have range : erange ≠ eok := by decide
  have reset : erangeAndReset ≠ eok := by decide
  unfold memcpyS
  split_ifs with limits short
  · simp only [range,false_iff]
    omega
  · simp only [reset,false_iff]
    omega
  · simp only [true_iff]
    omega

/-- A copy that has just the room it needs. -/
theorem memcpyS_whole (memory : Bytes) (dst : Nat) (data : Bytes) (src n : Nat) (some_byte : 0 < n)
    (limit : n ≤ secureMemMaxLen) :
    memcpyS memory dst n data src n = (eok,copyBytes memory dst data src n) := by
  unfold memcpyS
  rw [if_neg (by omega),if_neg (Nat.lt_irrefl n)]

end DriversAdapter.Base
