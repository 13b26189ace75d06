import DriversAdapter.Smq.Shared
import DriversAdapter.Semantics.Ring
import Mathlib.Tactic.Ring

/-! What the copies do to the ring, first byte by byte and then element by element, and
the result of `memcpy_s` when nothing interferes. -/
namespace DriversAdapter.Smq
open DriversAdapter.Base DriversAdapter.Semantics DriversAdapter.Semantics.Program

def slot (size : Nat) (memory : Bytes) (k : Nat) : Block := chunk memory (k * size) size

theorem writeBlock_chunk (memory : Bytes) (dst : Nat) (data : Bytes) (src len : Nat) :
    writeBlock memory dst (chunk data src len) = copyBytes memory dst data src len := by
  funext a
  unfold writeBlock copyBytes
  rw [chunk_length]
  split
  next inside =>
    have bound : 0 + (a - dst) < len := by omega
    simp [chunk,List.getD_eq_getElem?_getD,show a - dst < len by omega]
  next outside => rfl

theorem slot_copyBytes (size : Nat) (memory data : Bytes) (p q n k : Nat) :
    slot size (copyBytes memory (p * size) data (q * size) (n * size)) k =
      if p ≤ k ∧ k < p + n then slot size data (q + (k - p)) else slot size memory k := by
  unfold slot
  split
  next inside =>
    apply chunk_congr
    intro b bound
    have low : p * size ≤ k * size := Nat.mul_le_mul_right size inside.1
    have high : (k + 1) * size ≤ (p + n) * size := Nat.mul_le_mul_right size inside.2
    have shift : (q + (k - p)) * size = q * size + (k * size - p * size) := by
      rw [Nat.add_mul,Nat.sub_mul]
    rw [Nat.add_mul,Nat.add_mul,Nat.one_mul] at high
    unfold copyBytes
    rw [if_pos (by omega),shift]
    congr 1
    omega
  next outside =>
    apply chunk_congr
    intro b bound
    unfold copyBytes
    rw [if_neg]
    intro covered
    apply outside
    constructor
    · by_contra early
      have below : (k + 1) * size ≤ p * size := Nat.mul_le_mul_right size (by omega)
      rw [Nat.add_mul,Nat.one_mul] at below
      omega
    · by_contra late
      have above : (p + n) * size ≤ k * size := Nat.mul_le_mul_right size (by omega)
      rw [Nat.add_mul] at above
      omega

def Apart (a aLen b bLen : Nat) : Prop := a + aLen ≤ b ∨ b + bLen ≤ a

theorem apart_of_ne (size p q : Nat) (other : p ≠ q) : Apart (p * size) size (q * size) size := by
  unfold Apart
  rcases Nat.lt_or_gt_of_ne other with before | after
  · have le : (p + 1) * size ≤ q * size := Nat.mul_le_mul_right size before
    rw [Nat.succ_mul] at le
    exact .inl le
  · have le : (q + 1) * size ≤ p * size := Nat.mul_le_mul_right size after
    rw [Nat.succ_mul] at le
    exact .inr le

section Run
variable {ι : Type} [DecidableEq ι] (type : UInt32) (i : ι)

theorem run_copyElementsIn (size : Nat) (data : Bytes) (n dst src : Nat) (s : Shared ι) :
    (copyElementsIn size dst data src n).run (serve type i) s =
      ((),{s with queueBuffer := copyBytes s.queueBuffer dst data src (n * size)}) := by
  induction n generalizing dst src s with
  | zero => simp [copyElementsIn,copyBytes_zero]
  | succ n ih =>
    simp only [copyElementsIn,run_copyIn,ih,writeBlock_chunk]
    rw [copyBytes_append,Nat.succ_mul,Nat.add_comm size]

theorem run_copyElementsOut (size : Nat) (n src : Nat) (s : Shared ι) :
    (copyElementsOut size src n).run (serve type i) s =
      ((List.range n).map (fun k => chunk s.queueBuffer (src + k * size) size),s) := by
  induction n generalizing src with
  | zero => rfl
  | succ n ih =>
    simp only [copyElementsOut,run_copyOut,run_bind _ (copyElementsOut _ _ _),ih]
    simp only [pure_eq,run_done,List.range_succ_eq_map,List.map_cons,List.map_map,Nat.zero_mul,
      Nat.add_zero,Prod.mk.injEq,List.cons.injEq,true_and,and_true]
    apply List.map_congr_left
    intro k _
    simp only [Function.comp_apply,Nat.succ_mul]
    rw [Nat.add_assoc,Nat.add_comm size]

theorem run_memcpyIn (size dst destMax : Nat) (data : Bytes)
    (src count : Nat) (s : Shared ι) :
    (memcpyIn size dst destMax data src count).run (serve type i) s =
      if destMax = 0 ∨ secureMemMaxLen < destMax then (erange,s)
      else if destMax < count then
        (erangeAndReset,{s with queueBuffer := clearBytes s.queueBuffer dst destMax})
      else (eok,{s with queueBuffer := copyBytes s.queueBuffer dst data src count}) := by
  unfold memcpyIn
  rw [run_ite,run_ite]
  congr 1
  congr 1
  rw [run_bind,run_copyElementsIn,run_ite]
  have split_count : count / size * size + count % size = count := Nat.div_add_mod' count size
  split
  next whole =>
    rw [whole,Nat.add_zero] at split_count
    rw [split_count]
    rfl
  next part =>
    simp only [run_copyIn,writeBlock_chunk,pure_eq,run_done]
    rw [copyBytes_append,split_count]

theorem run_memcpyOut (size : Nat) (pos : 0 < size) (destMax src n : Nat) (s : Shared ι) :
    (memcpyOut size destMax src (n * size)).run (serve type i) s =
      if destMax = 0 ∨ secureMemMaxLen < destMax then ((erange,[]),s)
      else if destMax < n * size then ((erangeAndReset,[]),s)
      else ((eok,(List.range n).map (fun k => chunk s.queueBuffer (src + k * size) size)),s) := by
  unfold memcpyOut
  rw [run_ite,run_ite]
  congr 1
  congr 1
  rw [run_bind,Nat.mul_div_cancel _ pos,run_copyElementsOut,Nat.mul_mod_left,if_pos rfl]
  rfl

end Run

end DriversAdapter.Smq
