import Mathlib.Algebra.Order.Field.Power
import Mathlib.Data.Rat.Cast.Order
import Mathlib.Tactic.FieldSimp
import Mathlib.Tactic.Linarith
import Mathlib.Tactic.NormNum
import Mathlib.Tactic.Positivity
import Mathlib.Tactic.Ring
import StackManifest.Number.ExtendedDecimal

/-!
# What a decimal number is worth

A decimal number is a sign, a coefficient and a power of ten, and several of them have the same
**value**: `1.5` and `1.50` do. The value is a fraction, `StackManifest.Number.Decimal.toRat`,
and it is what the statements about quantities are about; the three parts only matter for how a
number is written.
-/

namespace StackManifest.Number

/-! ### Powers of ten -/

theorem tenTo_eq (k : ℕ) : tenTo k = 10 ^ k := rfl

theorem tenTo_pos (k : ℕ) : 0 < tenTo k := Nat.pow_pos (by norm_num)

@[simp] theorem cast_tenTo (k : ℕ) : (tenTo k : ℚ) = 10 ^ k := by
  rw [tenTo_eq]
  norm_cast

theorem twoTo_eq (k : ℕ) : twoTo k = 2 ^ k := rfl

@[simp] theorem cast_twoTo (k : ℕ) : (twoTo k : ℚ) = 2 ^ k := by
  rw [twoTo_eq]
  norm_cast

/-- A power with a whole exponent, as a quotient of two with a natural one. -/
theorem zpow_eq_div (b : ℚ) (e : ℤ) : b ^ e = b ^ e.toNat / b ^ (-e).toNat := by
  rcases le_total 0 e with h | h
  · rw [show (-e).toNat = 0 by omega, pow_zero, div_one, ← zpow_natCast, Int.toNat_of_nonneg h]
  · rw [show e.toNat = 0 by omega, pow_zero, one_div, ← zpow_natCast,
      Int.toNat_of_nonneg (by omega), ← zpow_neg, neg_neg]

theorem ten_zpow_eq (e : ℤ) : (10 : ℚ) ^ e = 10 ^ e.toNat / 10 ^ (-e).toNat := zpow_eq_div 10 e

namespace Decimal

variable {d : Decimal}

/-- The **value** of a decimal number. -/
def toRat (d : Decimal) : ℚ := d.signed * 10 ^ d.exponent

/-- The value of a decimal number without its sign. -/
def magnitude (d : Decimal) : ℚ := d.coefficient * 10 ^ d.exponent

theorem toRat_of_nonneg (h : d.negative = false) : d.toRat = d.magnitude := by
  simp [toRat, magnitude, signed, h]

theorem toRat_mk (c : ℕ) (e : ℤ) : toRat ⟨false, c, e⟩ = c * 10 ^ e := toRat_of_nonneg rfl

theorem magnitude_nonneg (d : Decimal) : 0 ≤ d.magnitude := by
  rw [magnitude]
  positivity

theorem isPositive_iff_toRat_pos : d.isPositive = true ↔ 0 < d.toRat := by
  have h10 : (0 : ℚ) < 10 ^ d.exponent := by positivity
  rw [isPositive, toRat, mul_pos_iff_of_pos_right h10, signed]
  cases d.negative with
  | true => simp
  | false => simp [Nat.pos_iff_ne_zero]

end Decimal

end StackManifest.Number
