import Mathlib.Algebra.Order.Floor.Semifield
import Mathlib.Data.Rat.Floor

/-! Arithmetic on 32-bit words that notes beside each value whether every step up to it was exact:
no division by zero, no wrap, no conversion of what does not fit. -/
namespace DriversAdapter.Semantics

@[ext]
structure Checked (α : Type) where
  value : α
  exact : Bool

namespace Checked
variable {α β : Type}

def bind (c : Checked α) (f : α → Checked β) : Checked β :=
  ⟨(f c.value).value,c.exact && (f c.value).exact⟩

instance : Monad Checked where
  pure value := ⟨value,true⟩
  bind := bind

@[simp] theorem value_pure (a : α) : (pure a : Checked α).value = a := rfl

@[simp] theorem exact_pure (a : α) : (pure a : Checked α).exact = true := rfl

@[simp] theorem value_bind (c : Checked α) (f : α → Checked β) :
    (c >>= f).value = (f c.value).value := rfl

@[simp] theorem exact_bind (c : Checked α) (f : α → Checked β) :
    (c >>= f).exact = (c.exact && (f c.value).exact) := rfl

def add (a b : UInt32) : Checked UInt32 := ⟨a + b,a.toNat + b.toNat < 2^32⟩

def sub (a b : UInt32) : Checked UInt32 := ⟨a - b,b ≤ a⟩

def mul (a b : UInt32) : Checked UInt32 := ⟨a * b,a.toNat * b.toNat < 2^32⟩

def div (a b : UInt32) : Checked UInt32 := ⟨a / b,b ≠ 0⟩

/-- A quotient of words that is not cut. -/
def quotient (a b : UInt32) : Checked ℚ := ⟨(a.toNat : ℚ) / b.toNat,b ≠ 0⟩

/-- The word that is left of a quantity without its fraction. -/
def trunc (q : ℚ) : Checked UInt32 := ⟨UInt32.ofNat ⌊q⌋₊,0 ≤ q ∧ q < 2^32⟩

section Values
variable {a b : UInt32}

theorem add_toNat (exact : (add a b).exact = true) :
    (add a b).value.toNat = a.toNat + b.toNat := by
  have fits : a.toNat + b.toNat < 2^32 := of_decide_eq_true exact
  exact (UInt32.toNat_add a b).trans (Nat.mod_eq_of_lt fits)

theorem mul_toNat (exact : (mul a b).exact = true) :
    (mul a b).value.toNat = a.toNat * b.toNat := by
  have fits : a.toNat * b.toNat < 2^32 := of_decide_eq_true exact
  exact (UInt32.toNat_mul a b).trans (Nat.mod_eq_of_lt fits)

@[simp] theorem div_toNat : (div a b).value.toNat = a.toNat / b.toNat := UInt32.toNat_div a b

/-- A quotient that is cut is that of the numbers. -/
theorem trunc_quotient_toNat :
    (trunc (quotient a b).value).value.toNat = a.toNat / b.toNat := by
  have small : a.toNat / b.toNat < 2^32 := Nat.lt_of_le_of_lt (Nat.div_le_self _ _) a.toNat_lt
  have floor : ⌊(a.toNat : ℚ) / b.toNat⌋₊ = a.toNat / b.toNat := Nat.floor_div_eq_div _ _
  simp only [trunc,quotient,floor]
  exact UInt32.toNat_ofNat_of_lt' small

theorem trunc_exact {q : ℚ} (nonneg : 0 ≤ q) (le : q ≤ a.toNat) : (trunc q).exact = true := by
  have small : (a.toNat : ℚ) < 2^32 := by exact_mod_cast a.toNat_lt
  exact decide_eq_true ⟨nonneg,lt_of_le_of_lt le small⟩

theorem trunc_le {q : ℚ} (le : q ≤ a.toNat) : (trunc q).value.toNat ≤ a.toNat := by
  have floor : ⌊q⌋₊ ≤ a.toNat := Nat.floor_le_of_le le
  have small : ⌊q⌋₊ < 2^32 := Nat.lt_of_le_of_lt floor a.toNat_lt
  simp only [trunc]
  rwa [UInt32.toNat_ofNat_of_lt' small]

theorem quotient_nonneg (a b : UInt32) : 0 ≤ (quotient a b).value := by
  unfold quotient
  positivity

theorem quotient_le (a b : UInt32) : (quotient a b).value ≤ a.toNat := by
  by_cases zero : b.toNat = 0
  · simp [quotient,zero]
  · have one : (1 : ℚ) ≤ b.toNat := by exact_mod_cast Nat.one_le_iff_ne_zero.mpr zero
    exact div_le_self (Nat.cast_nonneg _) one

theorem quotient_le_one (le : a ≤ b) : (quotient a b).value ≤ 1 := by
  have small : (a.toNat : ℚ) ≤ b.toNat := by exact_mod_cast UInt32.le_iff_toNat_le.mp le
  exact div_le_one_of_le₀ small (Nat.cast_nonneg _)

end Values

end Checked

end DriversAdapter.Semantics
