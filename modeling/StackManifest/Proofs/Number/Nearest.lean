import StackManifest.Proofs.Number.Error
import StackManifest.Proofs.Number.Exact

/-!
# Results are nearest numbers

A result is not only near the exact number by its relative error: it is off by **half a unit** of
its last digit at most. So if it lies below a power of ten, it is off by half of what is 28 digits
below that power (`StackManifest.Number.Decimal.Approximates.abs_sub_le`). This also holds of a
quotient, which is cut off before it is rounded, since the bounds are multiples of five of the
units at which it is cut off (`StackManifest.Number.Decimal.abs_div_sub_le`).

A quotient is **exact** if and only if its value fits
(`StackManifest.Number.Decimal.exists_div_eq_iff`), as sums and products are.
-/

namespace StackManifest.Number

namespace Decimal

variable {a b c d r : Decimal} {x : ℚ} {k : ℤ}

/-! ### Half a unit -/

/-- The last digit that is kept of a number below a power of ten stands 28 places below it, if any
digit is dropped. -/
theorem keptExponent_le_of_lt (h : d.magnitude < 10 ^ k) (hk : minQuantum ≤ k - precision)
    (hdropped : d.dropped ≠ 0) : d.keptExponent ≤ k - precision := by
  by_cases h0 : d.coefficient = 0
  · have hone : digitCount d.coefficient = 1 := by
      rw [h0]
      decide +kernel
    rw [dropped, hone, precision] at hdropped
    rw [keptExponent, dropped, hone]
    rw [precision] at hk ⊢
    omega
  · have hlead : d.leadExponent < k :=
      (zpow_lt_zpow_iff_right₀ (by norm_num : (1 : ℚ) < 10)).mp ((le_magnitude h0).trans_lt h)
    rw [leadExponent] at hlead
    rw [dropped] at hdropped
    rw [keptExponent, dropped]
    omega

/-- A quotient in units, half to even, is off by **half a unit**. -/
theorem abs_magnitude_rounded_sub_le (d : Decimal) :
    |d.rounded.magnitude - d.magnitude| ≤ 10 ^ d.keptExponent / 2 := by
  have hunit : (0 : ℚ) < 10 ^ d.keptExponent := by positivity
  have herror := abs_roundHalfEven_sub_le (n := d.coefficient) (tenTo_pos d.dropped)
  rw [cast_tenTo] at herror
  rw [magnitude_rounded, magnitude_eq_kept, ← sub_mul, abs_mul, abs_of_pos hunit]
  linarith [mul_le_mul_of_nonneg_right herror hunit.le]

theorem abs_rounded_sub_le_of_lt (h : d.magnitude < 10 ^ k) (hk : minQuantum ≤ k - precision) :
    |d.rounded.magnitude - d.magnitude| ≤ 10 ^ (k - precision) / 2 := by
  by_cases hdropped : d.dropped = 0
  · rw [rounded, if_pos hdropped, sub_self, abs_zero]
    positivity
  · have hle : (10 : ℚ) ^ d.keptExponent ≤ 10 ^ (k - precision) :=
      zpow_le_zpow_right₀ (by norm_num) (keptExponent_le_of_lt h hk hdropped)
    linarith [abs_magnitude_rounded_sub_le d]

/-! ### Quotients -/

/-- Digits that are cut off at a unit, with the digit that says “and more”, lie on the same side of a
**multiple of five** units as the quotient. -/
theorem bounds_of_multiple {q c p u : ℕ} (hc : c = if q % 5 = 0 then q + 1 else q)
    (hlow : 2 * (10 * p) ≤ 2 * c + 10 * u) (hup : 2 * c ≤ 2 * (10 * p) + 10 * u) :
    10 * p ≤ q + 5 * u ∧ q + 1 ≤ 10 * p + 5 * u := by
  split_ifs at hc <;> omega

/-- **What is rounded in place of a quotient** is off from the quotient by half a unit. -/
theorem Approximates.abs_sub_le (h : d.Approximates x) (hlt : d.magnitude < 10 ^ k)
    (hk : minQuantum ≤ k - precision) :
    |d.rounded.magnitude - x| ≤ 10 ^ (k - precision) / 2 := by
  rcases h with rfl | ⟨q, hq, hlo, hhi, hc⟩
  · exact abs_rounded_sub_le_of_lt hlt hk
  · have hdigits : tenTo precision ≤ d.coefficient := by
      rw [tenTo_eq, hc]
      split_ifs <;> omega
    have hdropped : d.dropped ≠ 0 := by
      have hmore := mt (digitCount_le_iff (by decide)).mp (not_lt.mpr hdigits)
      rw [dropped]
      omega
    -- the unit of the result is ten times a unit at which the quotient may be cut off
    obtain ⟨j, hj⟩ := Nat.exists_eq_succ_of_ne_zero hdropped
    have hunit : tenTo d.dropped = 10 * 10 ^ j := by rw [tenTo_eq, hj, pow_succ, mul_comm]
    obtain ⟨p, hp⟩ : ∃ p, p = 10 ^ j * roundHalfEven d.coefficient (tenTo d.dropped) := ⟨_, rfl⟩
    have hbounds := roundHalfEven_bounds (n := d.coefficient) (tenTo_pos d.dropped)
    have hproduct : tenTo d.dropped * roundHalfEven d.coefficient (tenTo d.dropped) = 10 * p := by
      rw [hp, ← mul_assoc, ← hunit]
    rw [hproduct, hunit] at hbounds
    obtain ⟨hlow, hup⟩ := bounds_of_multiple hc hbounds.2 hbounds.1
    have hE : (0 : ℚ) < 10 ^ d.exponent := by positivity
    have hkept : (10 : ℚ) ^ d.keptExponent = 10 * 10 ^ j * 10 ^ d.exponent := by
      rw [keptExponent, zpow_add₀ (by norm_num), zpow_natCast, hj, pow_succ]
      ring
    have hrounded : d.rounded.magnitude = 10 * p * 10 ^ d.exponent := by
      rw [magnitude_rounded, hkept, hp]
      push_cast
      ring
    have hlowQ : 10 * (p : ℚ) ≤ q + 5 * 10 ^ j := by exact_mod_cast hlow
    have hupQ : (q : ℚ) + 1 ≤ 10 * p + 5 * 10 ^ j := by exact_mod_cast hup
    have hle : (10 : ℚ) ^ d.keptExponent ≤ 10 ^ (k - precision) :=
      zpow_le_zpow_right₀ (by norm_num) (keptExponent_le_of_lt hlt hk hdropped)
    have hlow' := mul_le_mul_of_nonneg_right hlowQ hE.le
    have hup' := mul_le_mul_of_nonneg_right hupQ hE.le
    rw [hrounded, abs_le]
    constructor <;> linarith

/-- **A quotient is off by half a unit** of the last digit that a number below a power of ten may
have. -/
theorem abs_div_sub_le (hb : b.coefficient ≠ 0) (hdiv : a.div b = .ok r) (hlt : r.magnitude < 10 ^ k)
    (hk : minQuantum ≤ k - precision) (htop : k ≤ maxExponent + 1) :
    |r.magnitude - a.magnitude / b.magnitude| ≤ 10 ^ (k - precision) / 2 := by
  obtain ⟨d, hd, -, happrox⟩ := exists_dividend (a := a) hb
  rw [hd] at hdiv
  obtain ⟨-, hrounded, -⟩ := of_finish hdiv
  have hbelow : d.magnitude < 10 ^ k := by
    have := (exists_finish_lt_iff hk htop).mp ⟨r, hdiv, hlt⟩
    have hhalf : (0 : ℚ) < 10 ^ (k - precision) := by positivity
    linarith
  rw [hrounded]
  exact happrox.abs_sub_le hbelow hk

/-- A quotient that **fits** is not cut off: its digits end before the unit at which it would be. -/
theorem Approximates.magnitude_eq_of_fits (h : d.Approximates c.magnitude)
    (hc : c.coefficient < tenTo precision) : d.magnitude = c.magnitude := by
  rcases h with h | ⟨q, hq, hlo, hhi, -⟩
  · exact h
  · exfalso
    have hE : (0 : ℚ) < 10 ^ d.exponent := by positivity
    have hqQ : (10 : ℚ) ^ precision ≤ q := by exact_mod_cast hq
    have hexponent : d.exponent < c.exponent := by
      have hle := mul_le_mul_of_nonneg_right hqQ hE.le
      have hlt := (hle.trans_lt hlo).trans (magnitude_lt_of_coefficient_lt hc)
      rw [← zpow_natCast, ← zpow_add₀ (by norm_num)] at hlt
      have := (zpow_lt_zpow_iff_right₀ (by norm_num : (1 : ℚ) < 10)).mp hlt
      omega
    -- the value is a whole number of units, and there is none between two of them
    obtain ⟨j, hj⟩ := Int.le.dest hexponent.le
    have hvalue : c.magnitude = (c.coefficient * 10 ^ j : ℕ) * 10 ^ d.exponent := by
      rw [magnitude, ← hj, zpow_add₀ (by norm_num), zpow_natCast]
      push_cast
      ring
    rw [hvalue, mul_lt_mul_iff_left₀ hE] at hlo
    rw [hvalue, mul_lt_mul_iff_left₀ hE] at hhi
    have hlo' : q < c.coefficient * 10 ^ j := by exact_mod_cast hlo
    have hhi' : c.coefficient * 10 ^ j < q + 1 := by exact_mod_cast hhi
    omega

theorem toRat_div (hd : d.negative = (a.negative != b.negative))
    (h : d.magnitude = a.magnitude / b.magnitude) : d.toRat = a.toRat / b.toRat := by
  rw [toRat_eq, toRat_eq a, toRat_eq b, hd, h]
  cases a.negative <;> cases b.negative <;> simp [neg_div, div_neg]

/-- **A quotient is exact** exactly when its value fits. -/
theorem exists_div_eq_iff (hb : b.coefficient ≠ 0) :
    (∃ r, a.div b = .ok r ∧ r.toRat = a.toRat / b.toRat) ↔ Fits (a.toRat / b.toRat) := by
  obtain ⟨d, hd, hnegative, happrox⟩ := exists_dividend (a := a) hb
  have habs : |a.toRat / b.toRat| = a.magnitude / b.magnitude := by
    rw [abs_div, abs_toRat, abs_toRat]
  rw [hd]
  constructor
  · rintro ⟨r, hr, hvalue⟩
    exact hvalue ▸ fits_of_finish hr
  · intro hfits
    have hmagnitude : d.magnitude = a.magnitude / b.magnitude := by
      obtain ⟨c, hvalue, hcoefficient, -⟩ := hfits
      have hc : c.magnitude = a.magnitude / b.magnitude := by rw [← abs_toRat, hvalue, habs]
      rw [← hc] at happrox ⊢
      exact happrox.magnitude_eq_of_fits hcoefficient
    rw [← toRat_div hnegative hmagnitude] at hfits ⊢
    exact exists_finish_eq_iff.mpr hfits

end Decimal

end StackManifest.Number
