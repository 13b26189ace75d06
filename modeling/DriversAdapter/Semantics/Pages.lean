import Mathlib.Algebra.Order.Ring.Nat
import Mathlib.Tactic.Linarith

/-! Memory in pages of one size: which pages a run of pages or of bytes has, and when they all
lie in a region of whole pages. -/
namespace DriversAdapter.Semantics.Pages

variable {w start size : Nat}

def Within (w start size page : Nat) : Prop := start ≤ page * w ∧ (page + 1) * w ≤ start + size

/-- One of the `len` bytes from `addr` lies on the page. -/
def Meets (w addr len page : Nat) : Prop := ∃ i < len, (addr + i) / w = page

section Region
variable (some_page : 0 < w) (start_whole : w ∣ start) (size_whole : w ∣ size)

include some_page start_whole size_whole in
theorem within_iff (page : Nat) :
    Within w start size page ↔ start / w ≤ page ∧ page < start / w + size / w := by
  obtain ⟨a,rfl⟩ := start_whole
  obtain ⟨b,rfl⟩ := size_whole
  rw [Nat.mul_div_cancel_left _ some_page,Nat.mul_div_cancel_left _ some_page]
  unfold Within
  rw [← Nat.mul_add,Nat.mul_comm w a,Nat.mul_comm w (a + b)]
  constructor
  · rintro ⟨low,high⟩
    have first := Nat.le_of_mul_le_mul_right low some_page
    have last := Nat.le_of_mul_le_mul_right high some_page
    omega
  · rintro ⟨low,high⟩
    exact ⟨Nat.mul_le_mul_right w low,Nat.mul_le_mul_right w high⟩

include some_page start_whole size_whole in
theorem run_within_iff (addr n : Nat) :
    (∀ page, addr / w ≤ page → page < addr / w + n → Within w start size page) ↔
      n = 0 ∨ (start ≤ addr ∧ addr / w + n ≤ start / w + size / w) := by
  have begins : start / w ≤ addr / w ↔ start ≤ addr := by
    rw [Nat.le_div_iff_mul_le some_page,Nat.div_mul_cancel start_whole]
  simp only [within_iff some_page start_whole size_whole]
  constructor
  · intro inside
    cases n with
    | zero => exact .inl rfl
    | succ k =>
      have first := inside (addr / w) le_rfl (by omega)
      have last := inside (addr / w + k) (Nat.le_add_right _ k) (by omega)
      exact .inr ⟨begins.mp first.1,last.2⟩
  · rintro (rfl | ⟨low,high⟩) page from_first below
    · exact absurd below (by omega)
    · have first := begins.mpr low
      omega

include some_page start_whole size_whole in
theorem bytes_within_iff (addr len : Nat) :
    (∀ page, Meets w addr len page → Within w start size page) ↔
      len = 0 ∨ (start ≤ addr ∧ addr + len ≤ start + size) := by
  have begins (byte : Nat) : start / w ≤ byte / w ↔ start ≤ byte := by
    rw [Nat.le_div_iff_mul_le some_page,Nat.div_mul_cancel start_whole]
  have ends (byte : Nat) : byte / w < start / w + size / w ↔ byte < start + size := by
    rw [Nat.div_lt_iff_lt_mul some_page,Nat.add_mul,Nat.div_mul_cancel start_whole,
      Nat.div_mul_cancel size_whole]
  simp only [within_iff some_page start_whole size_whole]
  constructor
  · intro inside
    rcases Nat.eq_zero_or_pos len with rfl | some_byte
    · exact .inl rfl
    · have first := (begins _).mp (inside _ ⟨0,some_byte,rfl⟩).1
      have last := (ends _).mp (inside _ ⟨len - 1,by omega,rfl⟩).2
      exact .inr ⟨first,by omega⟩
  · rintro (rfl | ⟨low,high⟩) page ⟨i,bound,rfl⟩
    · exact absurd bound (by omega)
    · exact ⟨(begins _).mpr (by omega),(ends _).mpr (by omega)⟩

end Region

end DriversAdapter.Semantics.Pages
