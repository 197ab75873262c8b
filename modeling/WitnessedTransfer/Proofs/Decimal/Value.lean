import Mathlib.Algebra.Order.Field.Rat
import Mathlib.Algebra.Order.Field.Basic
import WitnessedTransfer.Decimal.Basic

/-! What a decimal is worth, as a rational number. Decimals are compared by what they are worth. -/
namespace WitnessedTransfer.Decimal

def value (d : Decimal) : ℚ := d.units / pow10 d.scale

variable {a b : Decimal}

theorem pow10_cast_pos (n : Nat) : (0 : ℚ) < pow10 n := by exact_mod_cast pow10_pos n

theorem equiv_iff_value : a ≈ b ↔ a.value = b.value := by
  unfold value
  rw [div_eq_div_iff (pow10_cast_pos _).ne' (pow10_cast_pos _).ne']
  exact_mod_cast Iff.rfl

theorem equiv_refl (a : Decimal) : a ≈ a := equiv_iff_value.mpr rfl

theorem equiv_symm (h : a ≈ b) : b ≈ a :=
  equiv_iff_value.mpr (equiv_iff_value.mp h).symm

theorem equiv_trans {c : Decimal} (h : a ≈ b) (h' : b ≈ c) : a ≈ c :=
  equiv_iff_value.mpr ((equiv_iff_value.mp h).trans (equiv_iff_value.mp h'))

theorem le_iff_value : a ≤ b ↔ a.value ≤ b.value := by
  unfold value
  rw [div_le_div_iff₀ (pow10_cast_pos _) (pow10_cast_pos _)]
  exact_mod_cast Iff.rfl

theorem lt_iff_value : a < b ↔ a.value < b.value := by
  unfold value
  rw [div_lt_div_iff₀ (pow10_cast_pos _) (pow10_cast_pos _)]
  exact_mod_cast Iff.rfl

@[simp] theorem value_zero : (0 : Decimal).value = 0 := by
  simp [value, show (0 : Decimal).units = 0 from rfl]

end WitnessedTransfer.Decimal
