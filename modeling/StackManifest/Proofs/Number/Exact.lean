import StackManifest.Proofs.Number.Rounding

/-!
# When nothing is rounded

Sums and products are rounded to the digits of the precision, and refused when they are too large.
Neither happens to a value that a number of the precision can have, and whether a value is one of
these, `StackManifest.Number.Decimal.Fits`, does not depend on how it is written. A result is
**exact** if and only if its value fits: `StackManifest.Number.Decimal.exists_finish_eq_iff`, and
from it `StackManifest.Number.Decimal.exists_mul_eq_iff` and
`StackManifest.Number.Decimal.exists_add_eq_iff`.
-/

namespace StackManifest.Number.Decimal

variable {a b c d r : Decimal} {q : ℚ}

/-- A value that a number **of the precision** can have, with exponents in their range. -/
def Fits (q : ℚ) : Prop :=
  ∃ c : Decimal, c.toRat = q ∧ c.coefficient < tenTo precision ∧ minQuantum ≤ c.exponent ∧
    c.magnitude < 10 ^ (maxExponent + 1)

theorem toRat_eq (d : Decimal) : d.toRat = if d.negative then -d.magnitude else d.magnitude := by
  rw [toRat, signed, magnitude]
  split <;> push_cast <;> ring

theorem abs_toRat (d : Decimal) : |d.toRat| = d.magnitude := by
  rw [toRat_eq]
  split
  · rw [abs_neg, abs_of_nonneg (magnitude_nonneg d)]
  · exact abs_of_nonneg (magnitude_nonneg d)

theorem toRat_ofInt (n : Int) : (ofInt n).toRat = n := by
  rw [toRat, signed, ofInt, zpow_zero, mul_one]
  by_cases h : n < 0
  · rw [decide_eq_true h, if_pos rfl, Int.ofNat_natAbs_of_nonpos h.le, neg_neg]
  · rw [decide_eq_false h, if_neg Bool.false_ne_true, Int.natAbs_of_nonneg (not_lt.mp h)]

theorem toRat_zero : (0 : Decimal).toRat = 0 := toRat_ofInt 0

theorem roundHalfEven_mul {m t : ℕ} (ht : 0 < t) : roundHalfEven (m * t) t = m := by
  rw [roundHalfEven, Nat.mul_div_cancel m ht, Nat.mul_mod_left, if_neg (by omega)]

theorem magnitude_lt_of_coefficient_lt (h : c.coefficient < tenTo precision) :
    c.magnitude < 10 ^ ((precision : ℤ) + c.exponent) := by
  rw [magnitude, zpow_add₀ (by norm_num), zpow_natCast, ← cast_tenTo]
  exact mul_lt_mul_of_pos_right (by exact_mod_cast h) (by positivity)

/-- **A number of the precision fits** if its exponent is in range. -/
theorem fits_of_exponent_le (hcoefficient : c.coefficient < tenTo precision)
    (hmin : minQuantum ≤ c.exponent) (hmax : precision + c.exponent ≤ maxExponent + 1) :
    Fits c.toRat := by
  have hlt := magnitude_lt_of_coefficient_lt hcoefficient
  exact ⟨c, rfl, hcoefficient, hmin, hlt.trans_le (zpow_le_zpow_right₀ (by norm_num) hmax)⟩

/-- A number whose value fits has its last digit **not below** the last one that is kept, unless
no digit is dropped. -/
theorem keptExponent_le_of_eq (h : d.magnitude = c.magnitude) (h0 : d.coefficient ≠ 0)
    (hc : c.coefficient < tenTo precision) (he : minQuantum ≤ c.exponent) (hd : d.dropped ≠ 0) :
    d.keptExponent ≤ c.exponent := by
  have hlead : d.leadExponent < precision + c.exponent := by
    have hlt := magnitude_lt_of_coefficient_lt hc
    exact (zpow_lt_zpow_iff_right₀ (by norm_num : (1 : ℚ) < 10)).mp
      ((le_magnitude h0).trans_lt (h ▸ hlt))
  rw [leadExponent] at hlead
  rw [dropped] at hd
  rw [keptExponent, dropped]
  omega

/-- **Nothing is dropped** from the value of a number that fits, however it is written. -/
theorem magnitude_rounded_of_eq (h : d.magnitude = c.magnitude)
    (hc : c.coefficient < tenTo precision) (he : minQuantum ≤ c.exponent) :
    d.rounded.magnitude = d.magnitude := by
  by_cases h0 : d.coefficient = 0
  · rw [magnitude_rounded_of_eq_zero h0, magnitude, h0, Nat.cast_zero, zero_mul]
  by_cases hd : d.dropped = 0
  · rw [magnitude_rounded, keptExponent, hd, tenTo_eq, pow_zero, roundHalfEven_one, Nat.cast_zero,
      add_zero, magnitude]
  · -- the digits that are dropped are zeros
    obtain ⟨k, hk⟩ := Int.le.dest (keptExponent_le_of_eq h h0 hc he hd)
    have hzeros : d.coefficient = c.coefficient * 10 ^ k * tenTo d.dropped := by
      have hvalue : (d.coefficient : ℚ) * 10 ^ d.exponent =
          (c.coefficient * 10 ^ k * tenTo d.dropped : ℕ) * 10 ^ d.exponent := by
        rw [show (d.coefficient : ℚ) * 10 ^ d.exponent = d.magnitude from rfl, h, magnitude, ← hk,
          keptExponent, zpow_add₀ (by norm_num), zpow_add₀ (by norm_num), zpow_natCast, zpow_natCast]
        push_cast
        rw [cast_tenTo]
        ring
      exact_mod_cast mul_right_cancel₀ (by positivity) hvalue
    rw [magnitude_rounded, hzeros, roundHalfEven_mul (tenTo_pos _), magnitude, hzeros, keptExponent,
      zpow_add₀ (by norm_num), zpow_natCast]
    push_cast
    rw [cast_tenTo]
    ring

/-- The value of a **result fits**. -/
theorem fits_of_finish (h : d.finish = .ok r) : Fits r.toRat := by
  obtain ⟨-, -, hcoefficient, hexponent⟩ := of_finish h
  obtain ⟨r', hr', hlt⟩ := (exists_finish_lt_iff (by decide) le_rfl).mpr
    (exists_finish_iff.mp ⟨r, h⟩)
  obtain rfl := Except.ok.inj (h.symm.trans hr')
  exact ⟨r, rfl, hcoefficient, hexponent, hlt⟩

/-- **A result is exact** exactly when the value fits. -/
theorem exists_finish_eq_iff : (∃ r, d.finish = .ok r ∧ r.toRat = d.toRat) ↔ Fits d.toRat := by
  constructor
  · rintro ⟨r, hr, hvalue⟩
    exact hvalue ▸ fits_of_finish hr
  · rintro ⟨c, hvalue, hcoefficient, hexponent, hlt⟩
    have hmagnitude : d.magnitude = c.magnitude := by rw [← abs_toRat, ← abs_toRat, hvalue]
    have hgap := lt_sub_iff_of_rounded_eq (rounded_of_fits hcoefficient hexponent)
      (k := maxExponent + 1) (by decide)
    obtain ⟨r, hr⟩ := exists_finish_iff.mpr (hmagnitude ▸ hgap.mpr hlt)
    obtain ⟨hnegative, hrounded, -⟩ := of_finish hr
    refine ⟨r, hr, ?_⟩
    rw [toRat_eq, toRat_eq, hnegative, hrounded,
      magnitude_rounded_of_eq hmagnitude hcoefficient hexponent]

/-! ### Operations -/

theorem mul_eq_finish (a b : Decimal) :
    ∃ d : Decimal, a.mul b = d.finish ∧ d.toRat = a.toRat * b.toRat := by
  refine ⟨⟨a.negative != b.negative, a.coefficient * b.coefficient, a.exponent + b.exponent⟩, rfl, ?_⟩
  have hmagnitude : magnitude ⟨a.negative != b.negative, a.coefficient * b.coefficient,
      a.exponent + b.exponent⟩ = a.magnitude * b.magnitude := by
    rw [magnitude, magnitude, magnitude, zpow_add₀ (by norm_num)]
    push_cast
    ring
  rw [toRat_eq, toRat_eq, toRat_eq, hmagnitude]
  cases a.negative <;> cases b.negative <;> simp

theorem signedAt_mul {e : ℤ} (h : e ≤ d.exponent) : (d.signedAt e : ℚ) * 10 ^ e = d.toRat := by
  have hexponent : d.exponent = ((d.exponent - e).toNat : ℤ) + e := by omega
  rw [signedAt, toRat, Int.cast_mul, Int.cast_natCast, cast_tenTo, mul_assoc, ← zpow_natCast,
    ← zpow_add₀ (by norm_num), ← hexponent]

theorem add_eq_finish (a b : Decimal) :
    ∃ d : Decimal, a.add b = d.finish ∧ d.toRat = a.toRat + b.toRat := by
  obtain ⟨e, he⟩ : ∃ e, e = min a.exponent b.exponent := ⟨_, rfl⟩
  obtain ⟨s, hs⟩ : ∃ s, s = a.signedAt e + b.signedAt e := ⟨_, rfl⟩
  refine ⟨_, rfl, ?_⟩
  rw [← he, ← hs, ← signedAt_mul (show e ≤ a.exponent by omega),
    ← signedAt_mul (show e ≤ b.exponent by omega), ← add_mul, ← Int.cast_add, ← hs, toRat, signed]
  refine congrArg (fun n : ℤ => (n : ℚ) * 10 ^ e) ?_
  rcases eq_or_ne s 0 with h0 | h0
  · simp [h0]
  · simp only [h0, if_false, decide_eq_true_eq]
    split <;> omega

/-- **A product is exact** exactly when its value fits. -/
theorem exists_mul_eq_iff :
    (∃ r, a.mul b = .ok r ∧ r.toRat = a.toRat * b.toRat) ↔ Fits (a.toRat * b.toRat) := by
  obtain ⟨d, hd, hvalue⟩ := mul_eq_finish a b
  rw [hd, ← hvalue]
  exact exists_finish_eq_iff

/-- **A sum is exact** exactly when its value fits. -/
theorem exists_add_eq_iff :
    (∃ r, a.add b = .ok r ∧ r.toRat = a.toRat + b.toRat) ↔ Fits (a.toRat + b.toRat) := by
  obtain ⟨d, hd, hvalue⟩ := add_eq_finish a b
  rw [hd, ← hvalue]
  exact exists_finish_eq_iff

end StackManifest.Number.Decimal
