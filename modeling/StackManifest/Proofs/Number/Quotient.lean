import StackManifest.Proofs.Number.Rounding

/-!
# Quotients

A quotient that is not exact is cut off after 29 digits at least, and then rounded like every
other result. Cutting off and rounding could round twice; the digit that says “and more” keeps
that from happening, and all that has to be known of it is in
`StackManifest.Number.Decimal.Approximates`: what is rounded is exact, or it lies within a unit
of the quotient and is **no multiple of five** units.

Since half a unit of a result is a multiple of five of the units that are cut off at, a quotient
is on the same side of it as what is rounded (`StackManifest.Number.Decimal.Approximates.lt_iff`).
So the exact quotient decides which powers of ten a result reaches
(`StackManifest.Number.Decimal.exists_div_lt_iff`).
-/

namespace StackManifest.Number

namespace Decimal

variable {a b d r : Decimal} {x : ℚ} {k : ℤ}

/-- What is rounded in place of a **quotient**: the quotient itself, or the first 29 digits or
more of it, of which the last is neither 0 nor 5. -/
def Approximates (d : Decimal) (x : ℚ) : Prop :=
  d.magnitude = x ∨
    ∃ q : ℕ, 10 ^ precision ≤ q ∧ q * 10 ^ d.exponent < x ∧ x < (q + 1) * 10 ^ d.exponent ∧
      d.coefficient = if q % 5 = 0 then q + 1 else q

/-! ### What is rounded -/

/-- Zeros at the end are dropped without a change of the value. -/
theorem stripZeros_value (fuel c : ℕ) (e limit : ℤ) :
    ((stripZeros fuel c e limit).1 : ℚ) * 10 ^ (stripZeros fuel c e limit).2 = c * 10 ^ e := by
  induction fuel generalizing c e with
  | zero => rfl
  | succ fuel ih =>
    rw [stripZeros]
    split_ifs with h
    · have hc : (c : ℚ) = (c / 10 : ℕ) * 10 := by
        have : c = c / 10 * 10 := by omega
        exact_mod_cast this
      rw [ih, hc, zpow_add₀ (by norm_num), zpow_one]
      ring
    · rfl

/-- The dividend is extended until the quotient has 29 digits. -/
theorem mul_le_dividend (ha : a.coefficient ≠ 0) {shift : ℤ}
    (hshift : shift =
      (digitCount b.coefficient : ℤ) - digitCount a.coefficient + precision + 1) :
    10 ^ precision * (b.coefficient * tenTo (-shift).toNat) ≤
      a.coefficient * tenTo shift.toNat := by
  have hone := one_le_digitCount a.coefficient
  have hb := (lt_tenTo_digitCount b.coefficient).le
  calc 10 ^ precision * (b.coefficient * tenTo (-shift).toNat)
      ≤ 10 ^ precision * (tenTo (digitCount b.coefficient) * tenTo (-shift).toNat) :=
        Nat.mul_le_mul_left _ (Nat.mul_le_mul_right _ hb)
    _ = tenTo (digitCount a.coefficient - 1) * tenTo shift.toNat := by
        rw [tenTo_eq, tenTo_eq, tenTo_eq, tenTo_eq, ← pow_add, ← pow_add, ← pow_add]
        congr 1
        omega
    _ ≤ a.coefficient * tenTo shift.toNat := Nat.mul_le_mul_right _ (tenTo_digitCount_le ha)

/-- A quotient does not change when one of its two sides is **shifted**. -/
theorem magnitude_div_magnitude (hb : b.coefficient ≠ 0) (shift : ℤ) :
    a.magnitude / b.magnitude =
      (a.coefficient * tenTo shift.toNat : ℕ) / (b.coefficient * tenTo (-shift).toNat : ℕ) *
        10 ^ (a.exponent - b.exponent - shift) := by
  have hbQ : (b.coefficient : ℚ) ≠ 0 := by exact_mod_cast hb
  rw [magnitude, magnitude, zpow_sub₀ (by norm_num), zpow_sub₀ (by norm_num), ten_zpow_eq shift]
  push_cast [cast_tenTo]
  field_simp

/-- **A quotient is rounded in one step**: there is a number that approximates it, and the
rounding of that number is the result. -/
theorem exists_dividend (hb : b.coefficient ≠ 0) :
    ∃ d : Decimal, a.div b = d.finish ∧ d.negative = (a.negative != b.negative) ∧
      d.Approximates (a.magnitude / b.magnitude) := by
  by_cases ha : a.coefficient = 0
  · refine ⟨_, by rw [div, if_pos ha], rfl, .inl ?_⟩
    simp [magnitude, ha]
  · obtain ⟨shift, hshift⟩ : ∃ s : ℤ, s =
      (digitCount b.coefficient : ℤ) - digitCount a.coefficient + precision + 1 := ⟨_, rfl⟩
    obtain ⟨n, hn⟩ : ∃ n, n = a.coefficient * tenTo shift.toNat := ⟨_, rfl⟩
    obtain ⟨m, hm⟩ : ∃ m, m = b.coefficient * tenTo (-shift).toNat := ⟨_, rfl⟩
    have hmpos : 0 < m := hm ▸ Nat.mul_pos (Nat.pos_of_ne_zero hb) (tenTo_pos _)
    have hmQ : (0 : ℚ) < m := by exact_mod_cast hmpos
    have hunit : (0 : ℚ) < 10 ^ (a.exponent - b.exponent - shift) := by positivity
    have hx : a.magnitude / b.magnitude = n / m * 10 ^ (a.exponent - b.exponent - shift) := by
      rw [hn, hm]
      exact magnitude_div_magnitude hb shift
    have hdiv : a.div b =
        if n % m = 0 then
          finish ⟨a.negative != b.negative,
            (stripZeros (digitCount (n / m)) (n / m) (a.exponent - b.exponent - shift)
              (a.exponent - b.exponent)).1,
            (stripZeros (digitCount (n / m)) (n / m) (a.exponent - b.exponent - shift)
              (a.exponent - b.exponent)).2⟩
        else
          finish ⟨a.negative != b.negative,
            if n / m % 5 = 0 then n / m + 1 else n / m, a.exponent - b.exponent - shift⟩ := by
      rw [div, if_neg ha, hn, hm, hshift]
    have hmod := Nat.div_add_mod n m
    have hlt := Nat.mod_lt n hmpos
    have hcast : (n : ℚ) = m * (n / m : ℕ) + (n % m : ℕ) := by exact_mod_cast hmod.symm
    by_cases hexact : n % m = 0
    · -- the division comes out even, and only zeros are dropped
      rw [if_pos hexact] at hdiv
      refine ⟨_, hdiv, rfl, .inl ?_⟩
      rw [magnitude, stripZeros_value, hx, hcast, hexact, Nat.cast_zero, add_zero,
        mul_div_cancel_left₀ _ hmQ.ne']
    · rw [if_neg hexact] at hdiv
      refine ⟨_, hdiv, rfl, .inr ⟨n / m, ?_, ?_, ?_, rfl⟩⟩
      · rw [Nat.le_div_iff_mul_le hmpos, hn, hm]
        exact mul_le_dividend ha hshift
      · have hpos : (0 : ℚ) < (n % m : ℕ) := by exact_mod_cast Nat.pos_of_ne_zero hexact
        rw [hx, mul_lt_mul_iff_left₀ hunit, lt_div_iff₀ hmQ]
        linarith
      · have hlt' : ((n % m : ℕ) : ℚ) < m := by exact_mod_cast hlt
        rw [hx, mul_lt_mul_iff_left₀ hunit, div_lt_iff₀ hmQ]
        linarith

/-- The **sign** of a quotient, and that it fits. -/
theorem of_div (hb : b.coefficient ≠ 0) (h : a.div b = .ok r) :
    r.negative = (a.negative != b.negative) ∧ r.rounded = r := by
  obtain ⟨d, hd, hneg, -⟩ := exists_dividend (a := a) hb
  rw [hd] at h
  exact ⟨(of_finish h).1.trans hneg, rounded_of_finish h⟩

/-! ### Which power of ten is reached -/

/-- Half a unit below a power of ten is a multiple of **five** of any unit that is smaller. -/
theorem exists_eq_five_mul {e : ℤ} (hk : e < k - precision) :
    ∃ t : ℕ, (10 : ℚ) ^ k - 10 ^ (k - precision) / 2 = (5 * t : ℕ) * 10 ^ e := by
  obtain ⟨j, hj⟩ := Int.eq_ofNat_of_zero_le (show 0 ≤ k - precision - 1 - e by omega)
  have hsub : 10 ^ j ≤ 2 * 10 ^ (precision + j) := by
    have : 10 ^ j ≤ 10 ^ (precision + j) :=
      Nat.pow_le_pow_right (by norm_num) (Nat.le_add_left _ _)
    omega
  have h1 : (10 : ℚ) ^ k = 10 ^ (precision + j) * 10 * 10 ^ e := by
    rw [← zpow_natCast, ← zpow_add_one₀ (by norm_num), ← zpow_add₀ (by norm_num)]
    congr 1
    push_cast
    omega
  have h2 : (10 : ℚ) ^ (k - precision) = 10 ^ j * 10 * 10 ^ e := by
    rw [← zpow_natCast, ← zpow_add_one₀ (by norm_num), ← zpow_add₀ (by norm_num)]
    congr 1
    omega
  refine ⟨2 * 10 ^ (precision + j) - 10 ^ j, ?_⟩
  rw [h1, h2]
  push_cast [hsub]
  ring

/-- **What is rounded lies below the power by half a unit exactly when the quotient does.** -/
theorem Approximates.lt_iff (h : d.Approximates x) :
    d.magnitude < 10 ^ k - 10 ^ (k - precision) / 2 ↔ x < 10 ^ k - 10 ^ (k - precision) / 2 := by
  rcases h with rfl | ⟨q, hq, hlo, hhi, hc⟩
  · exact Iff.rfl
  · have hunit : (0 : ℚ) < 10 ^ d.exponent := by positivity
    have hqQ : (10 : ℚ) ^ precision ≤ q := by exact_mod_cast hq
    have hle : (q : ℚ) ≤ d.coefficient := by
      have : q ≤ d.coefficient := by
        rw [hc]
        split_ifs <;> omega
      exact_mod_cast this
    rcases le_or_gt (k - precision) d.exponent with hk | hk
    · -- there are so many digits that both have reached the power
      have hpow : (10 : ℚ) ^ k ≤ 10 ^ precision * 10 ^ d.exponent := by
        rw [← zpow_natCast, ← zpow_add₀ (by norm_num)]
        exact zpow_le_zpow_right₀ (by norm_num) (by omega)
      have hx : (10 : ℚ) ^ k ≤ q * 10 ^ d.exponent :=
        hpow.trans (mul_le_mul_of_nonneg_right hqQ hunit.le)
      have hd : (q : ℚ) * 10 ^ d.exponent ≤ d.magnitude := mul_le_mul_of_nonneg_right hle hunit.le
      have hhalf : (0 : ℚ) < 10 ^ (k - precision) := by positivity
      exact iff_of_false (by linarith) (by linarith)
    · -- the last digit of what is rounded is never 0 or 5, so it does not meet the bound
      obtain ⟨s, hbound⟩ := exists_eq_five_mul hk
      obtain ⟨t, ht⟩ : ∃ t, t = 5 * s := ⟨_, rfl⟩
      rw [← ht] at hbound
      -- the quotient and what is rounded are compared with the same multiple of the unit
      have hxt : x < t * 10 ^ d.exponent ↔ q < t := by
        constructor
        · intro hlt
          have := (mul_lt_mul_iff_left₀ hunit).mp (hlo.trans hlt)
          exact_mod_cast this
        · intro hlt
          have hsucc : (q : ℚ) + 1 ≤ t := by exact_mod_cast hlt
          exact hhi.trans_le (mul_le_mul_of_nonneg_right hsucc hunit.le)
      have hdt : d.magnitude < t * 10 ^ d.exponent ↔ d.coefficient < t := by
        rw [magnitude, mul_lt_mul_iff_left₀ hunit]
        exact Nat.cast_lt
      rw [hbound, hxt, hdt, hc]
      split_ifs <;> omega

/-- **There is a quotient below a power of ten** exactly when the exact one lies below it by half
a unit of the last digit. -/
theorem exists_div_lt_iff (hb : b.coefficient ≠ 0) (hk : minQuantum ≤ k - precision)
    (htop : k ≤ maxExponent + 1) :
    (∃ r, a.div b = .ok r ∧ r.magnitude < 10 ^ k) ↔
      a.magnitude / b.magnitude < 10 ^ k - 10 ^ (k - precision) / 2 := by
  obtain ⟨d, hd, -, happrox⟩ := exists_dividend (a := a) hb
  rw [hd, exists_finish_lt_iff hk htop, happrox.lt_iff]

end Decimal

end StackManifest.Number
