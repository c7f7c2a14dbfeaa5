import StackManifest.Proofs.Number.Digits

/-!
# The rounding that ends every operation

Every operation on decimal numbers ends with `StackManifest.Number.Decimal.finish`, which keeps
28 digits. The number that comes out is `StackManifest.Number.Decimal.rounded`, unless it is too
large (`StackManifest.Number.Decimal.finish_of_ne_zero`), and its magnitude is that of the
coefficient rounded at the last digit that is kept
(`StackManifest.Number.Decimal.magnitude_rounded`).

Whether a result **reaches a power of ten** is decided half a unit of its last digit before that
power: `StackManifest.Number.Decimal.le_magnitude_rounded_iff`.
-/

namespace StackManifest.Number

/-! ### Rounding a quotient -/

section RoundHalfEven

variable {n d m : ℕ}

/-- A quotient that is reached is not rounded away. -/
theorem le_roundHalfEven_of_mul_le (hd : 0 < d) (h : m * d ≤ n) : m ≤ roundHalfEven n d := by
  have hq : m ≤ n / d := (Nat.le_div_iff_mul_le hd).mpr h
  rw [roundHalfEven]
  split
  · omega
  · exact hq

/-- A quotient that is not exceeded is not exceeded after rounding. -/
theorem roundHalfEven_le_of_le_mul (hd : 0 < d) (h : n ≤ m * d) : roundHalfEven n d ≤ m := by
  have hmod : n % d < d := Nat.mod_lt _ hd
  have hdiv : d * (n / d) + n % d = n := Nat.div_add_mod n d
  have hcomm : m * d = d * m := mul_comm _ _
  rcases Nat.lt_or_ge (n / d) m with hlt | hge
  · rw [roundHalfEven]
    split
    · omega
    · omega
  · -- the quotient is exact then, so nothing is left to be rounded
    have hmul : d * m ≤ d * (n / d) := Nat.mul_le_mul_left d hge
    have hzero : n % d = 0 := by omega
    have hq : n / d ≤ m := by
      have : d * (n / d) ≤ d * m := by omega
      exact Nat.le_of_mul_le_mul_left this hd
    simp only [roundHalfEven, hzero]
    rw [if_neg (by omega)]
    exact hq

/-- **An even number is reached from half below it on**: a tie goes to the even one. -/
theorem le_roundHalfEven_iff (hd : 0 < d) (hm : m % 2 = 0) :
    m ≤ roundHalfEven n d ↔ 2 * (m * d) ≤ 2 * n + d := by
  have hmod : n % d < d := Nat.mod_lt _ hd
  have hdiv : d * (n / d) + n % d = n := Nat.div_add_mod n d
  have hcomm : m * d = d * m := mul_comm _ _
  -- only for the first number above the quotient it matters how a tie is broken
  rcases Nat.lt_trichotomy m (n / d + 1) with hlt | heq | hgt
  · have hmul : d * m ≤ d * (n / d) := Nat.mul_le_mul_left d (by omega)
    refine iff_of_true (le_roundHalfEven_of_mul_le hd (by omega)) (by omega)
  · have hmul : d * m = d * (n / d) + d := by rw [heq, Nat.mul_succ]
    simp only [roundHalfEven]
    split <;> omega
  · have hmul : d * (n / d) + 2 * d ≤ d * m := by
      calc d * (n / d) + 2 * d = d * (n / d + 2) := by ring
        _ ≤ d * m := Nat.mul_le_mul_left d hgt
    refine iff_of_false ?_ (by omega)
    simp only [roundHalfEven]
    split <;> omega

end RoundHalfEven

namespace Decimal

variable {d r : Decimal} {k : ℤ}

/-! ### Leading digits -/

/-- **The leading digit** stands where its exponent says. -/
theorem magnitude_lt (d : Decimal) : d.magnitude < 10 ^ (d.leadExponent + 1) := by
  have hlt : (d.coefficient : ℚ) < 10 ^ digitCount d.coefficient := by
    have := lt_tenTo_digitCount d.coefficient
    rw [tenTo_eq] at this
    exact_mod_cast this
  have hexp : d.leadExponent + 1 = (digitCount d.coefficient : ℤ) + d.exponent := by
    rw [leadExponent]
    ring
  rw [magnitude, hexp, zpow_add₀ (by norm_num), zpow_natCast]
  exact mul_lt_mul_of_pos_right hlt (by positivity)

theorem le_magnitude (h : d.coefficient ≠ 0) : 10 ^ d.leadExponent ≤ d.magnitude := by
  have hle : (10 : ℚ) ^ (digitCount d.coefficient - 1) ≤ d.coefficient := by
    have := tenTo_digitCount_le h
    rw [tenTo_eq] at this
    exact_mod_cast this
  have hexp : d.leadExponent = ((digitCount d.coefficient - 1 : ℕ) : ℤ) + d.exponent := by
    have := one_le_digitCount d.coefficient
    rw [leadExponent]
    omega
  rw [magnitude, hexp, zpow_add₀ (by norm_num), zpow_natCast]
  exact mul_le_mul_of_nonneg_right hle (by positivity)

/-- **Which power of ten** a number reaches is read off its leading digit. -/
theorem le_leadExponent_iff (h : d.coefficient ≠ 0) :
    k ≤ d.leadExponent ↔ 10 ^ k ≤ d.magnitude := by
  constructor
  · exact fun hk => (zpow_le_zpow_right₀ (by norm_num) hk).trans (le_magnitude h)
  · intro hk
    have hlt := hk.trans_lt (magnitude_lt d)
    have := (zpow_lt_zpow_iff_right₀ (by norm_num : (1 : ℚ) < 10)).mp hlt
    omega

/-! ### The number that is kept -/

/-- How many digits of a number are **dropped**: those beyond the precision, and those below the
least quantum. -/
def dropped (d : Decimal) : ℕ :=
  max (digitCount d.coefficient - precision) (minQuantum - d.exponent).toNat

/-- The exponent of the last digit that is kept. -/
def keptExponent (d : Decimal) : ℤ := d.exponent + d.dropped

/-- The number that is **kept** of a number that is not zero. -/
def rounded (d : Decimal) : Decimal :=
  if d.dropped = 0 then d
  else if digitCount d.coefficient + 1 < d.dropped then
    { d with coefficient := 0, exponent := minQuantum }
  else if roundHalfEven d.coefficient (tenTo d.dropped) = tenTo precision then
    { d with coefficient := tenTo (precision - 1), exponent := d.keptExponent + 1 }
  else
    { d with coefficient := roundHalfEven d.coefficient (tenTo d.dropped),
             exponent := d.keptExponent }

theorem finish_of_ne_zero (h : d.coefficient ≠ 0) :
    d.finish =
      if d.rounded.coefficient ≠ 0 ∧ maxExponent < d.rounded.leadExponent then .error .overflow
      else .ok d.rounded := by
  rw [finish, if_neg h]
  rfl

theorem roundHalfEven_one (n : ℕ) : roundHalfEven n 1 = n := by
  simp [roundHalfEven, Nat.mod_one]

/-- **The magnitude that is kept** is that of the coefficient, rounded at the last digit that is
kept. -/
theorem magnitude_rounded (d : Decimal) :
    d.rounded.magnitude = roundHalfEven d.coefficient (tenTo d.dropped) * 10 ^ d.keptExponent := by
  rw [rounded]
  split_ifs with h0 hsmall htop
  · rw [magnitude, keptExponent, h0, tenTo_eq, pow_zero, roundHalfEven_one, Nat.cast_zero,
      add_zero]
  · -- less than a tenth of a unit is left
    have hlt : d.coefficient < tenTo (digitCount d.coefficient) := lt_tenTo_digitCount _
    have hle : tenTo (digitCount d.coefficient) * 2 ≤ tenTo d.dropped := by
      calc tenTo (digitCount d.coefficient) * 2 ≤ 10 ^ (digitCount d.coefficient + 1) := by
            rw [tenTo_eq, pow_succ]
            omega
        _ ≤ tenTo d.dropped := Nat.pow_le_pow_right (by norm_num) hsmall.le
    have hzero : roundHalfEven d.coefficient (tenTo d.dropped) = 0 := by
      rw [roundHalfEven, Nat.div_eq_of_lt (by omega), Nat.mod_eq_of_lt (by omega),
        if_neg (by omega)]
    rw [hzero, magnitude]
    simp
  · -- the digits run over into one more, and the last one, a zero, is dropped again
    rw [htop, magnitude, cast_tenTo, cast_tenTo, zpow_add₀ (by norm_num)]
    norm_num [precision]
    ring
  · rfl

/-- Enough digits are dropped for the others to fit. -/
theorem coefficient_lt (d : Decimal) : d.coefficient < tenTo precision * tenTo d.dropped := by
  refine (lt_tenTo_digitCount d.coefficient).trans_le ?_
  rw [tenTo_eq, tenTo_eq, tenTo_eq, ← pow_add]
  refine Nat.pow_le_pow_right (by norm_num) ?_
  rw [dropped]
  omega

/-- The magnitude in units of the last digit that is kept. -/
theorem magnitude_eq_kept (d : Decimal) :
    d.magnitude = d.coefficient / 10 ^ d.dropped * 10 ^ d.keptExponent := by
  rw [magnitude, keptExponent, zpow_add₀ (by norm_num), zpow_natCast]
  field_simp

/-- What is kept has no more digits than the precision. -/
theorem coefficient_rounded_lt (d : Decimal) : d.rounded.coefficient < tenTo precision := by
  rw [rounded]
  split_ifs with h0 hsmall htop
  · rw [dropped] at h0
    exact (digitCount_le_iff (by decide)).mp (by omega)
  · exact tenTo_pos _
  · exact Nat.pow_lt_pow_right (by norm_num) (by decide)
  · exact lt_of_le_of_ne (roundHalfEven_le_of_le_mul (tenTo_pos _) (coefficient_lt d).le) htop

/-- What is kept has no digit below the least quantum. -/
theorem minQuantum_le_exponent_rounded (d : Decimal) : minQuantum ≤ d.rounded.exponent := by
  have hkept : minQuantum ≤ d.keptExponent := by
    rw [keptExponent, dropped]
    omega
  rw [rounded]
  split_ifs with h0 hsmall htop
  · rwa [keptExponent, h0, Nat.cast_zero, add_zero] at hkept
  · exact le_rfl
  · exact hkept.trans (by simp)
  · exact hkept

/-- A number that fits is kept **as it is**. -/
theorem rounded_of_fits (hc : d.coefficient < tenTo precision) (he : minQuantum ≤ d.exponent) :
    d.rounded = d := by
  have hdigits := (digitCount_le_iff (by decide)).mpr hc
  rw [rounded, if_pos]
  rw [dropped]
  omega

/-! ### Reaching a power of ten -/

/-- The power is 10 to the precision in units of the last digit: an even number of them. -/
theorem le_magnitude_rounded_iff_of_eq (hk : d.keptExponent = k - precision) :
    10 ^ k ≤ d.rounded.magnitude ↔ 10 ^ k - 10 ^ (k - precision) / 2 ≤ d.magnitude := by
  have hD : (0 : ℚ) < 10 ^ d.dropped := by positivity
  have hE : (0 : ℚ) < 10 ^ d.keptExponent := by positivity
  have hpow : (10 : ℚ) ^ k = 10 ^ precision * 10 ^ d.keptExponent := by
    rw [hk, ← zpow_natCast, ← zpow_add₀ (by norm_num)]
    congr 1
    ring
  -- a tie goes to the even side, and that is the power
  have heven := le_roundHalfEven_iff (n := d.coefficient) (tenTo_pos d.dropped)
    (show tenTo precision % 2 = 0 by decide +kernel)
  have hcast : 2 * (tenTo precision * tenTo d.dropped) ≤ 2 * d.coefficient + tenTo d.dropped ↔
      2 * (10 ^ precision * 10 ^ d.dropped) ≤ 2 * (d.coefficient : ℚ) + 10 ^ d.dropped := by
    rw [tenTo_eq, tenTo_eq]
    exact_mod_cast Iff.rfl
  have hround : tenTo precision ≤ roundHalfEven d.coefficient (tenTo d.dropped) ↔
      (10 : ℚ) ^ precision ≤ roundHalfEven d.coefficient (tenTo d.dropped) := by
    rw [tenTo_eq precision]
    exact_mod_cast Iff.rfl
  rw [magnitude_rounded, magnitude_eq_kept, ← hk, hpow, mul_le_mul_iff_left₀ hE, ← hround, heven,
    hcast]
  constructor
  · intro h
    have : 10 ^ precision - 1 / 2 ≤ (d.coefficient : ℚ) / 10 ^ d.dropped := by
      rw [le_div_iff₀ hD]
      linarith
    have := mul_le_mul_of_nonneg_right this hE.le
    linarith
  · intro h
    have h' : (10 ^ precision - 1 / 2) * 10 ^ d.keptExponent ≤
        (d.coefficient : ℚ) / 10 ^ d.dropped * 10 ^ d.keptExponent := by linarith
    have := (le_div_iff₀ hD).mp ((mul_le_mul_iff_left₀ hE).mp h')
    linarith

/-- The number lies too far below the power. -/
theorem magnitude_lt_of_keptExponent_lt (hk : d.keptExponent < k - precision) :
    d.magnitude ≤ 10 ^ (k - 1) ∧ d.rounded.magnitude ≤ 10 ^ (k - 1) := by
  have hE : (0 : ℚ) < 10 ^ d.keptExponent := by positivity
  have hpow : (10 : ℚ) ^ precision * 10 ^ d.keptExponent ≤ 10 ^ (k - 1) := by
    rw [← zpow_natCast, ← zpow_add₀ (by norm_num)]
    exact zpow_le_zpow_right₀ (by norm_num) (by omega)
  have hc := (coefficient_lt d).le
  constructor
  · have hle : (d.coefficient : ℚ) / 10 ^ d.dropped ≤ 10 ^ precision := by
      rw [div_le_iff₀ (by positivity)]
      rw [tenTo_eq, tenTo_eq] at hc
      exact_mod_cast hc
    rw [magnitude_eq_kept]
    exact (mul_le_mul_of_nonneg_right hle hE.le).trans hpow
  · have hle : (roundHalfEven d.coefficient (tenTo d.dropped) : ℚ) ≤ 10 ^ precision := by
      have := roundHalfEven_le_of_le_mul (tenTo_pos _) hc
      rw [tenTo_eq precision] at this
      exact_mod_cast this
    rw [magnitude_rounded]
    exact (mul_le_mul_of_nonneg_right hle hE.le).trans hpow

/-- The number has so many digits that it lies beyond the power, before and after rounding. -/
theorem le_magnitude_of_dropped (hdrop : digitCount d.coefficient = precision + d.dropped)
    (hpos : 0 < d.dropped) (hk : k - precision < d.keptExponent) :
    10 ^ k ≤ d.magnitude ∧ 10 ^ k ≤ d.rounded.magnitude := by
  have hE : (0 : ℚ) < 10 ^ d.keptExponent := by positivity
  have hne : d.coefficient ≠ 0 := by
    intro h
    rw [h, show digitCount 0 = 1 by decide +kernel, precision] at hdrop
    omega
  have hc : tenTo (precision - 1) * tenTo d.dropped ≤ d.coefficient := by
    have h := tenTo_digitCount_le hne
    rw [hdrop, show precision + d.dropped - 1 = precision - 1 + d.dropped by
      rw [precision]; omega] at h
    rwa [tenTo_eq, tenTo_eq, ← pow_add]
  have hpow : (10 : ℚ) ^ k ≤ 10 ^ (precision - 1) * 10 ^ d.keptExponent := by
    rw [← zpow_natCast, ← zpow_add₀ (by norm_num)]
    refine zpow_le_zpow_right₀ (by norm_num) ?_
    rw [precision] at hk ⊢
    omega
  constructor
  · have hle : (10 : ℚ) ^ (precision - 1) ≤ d.coefficient / 10 ^ d.dropped := by
      rw [le_div_iff₀ (by positivity)]
      rw [tenTo_eq, tenTo_eq] at hc
      exact_mod_cast hc
    rw [magnitude_eq_kept]
    exact hpow.trans (mul_le_mul_of_nonneg_right hle hE.le)
  · have hle : (10 : ℚ) ^ (precision - 1) ≤ roundHalfEven d.coefficient (tenTo d.dropped) := by
      have := le_roundHalfEven_of_mul_le (tenTo_pos _) hc
      rw [tenTo_eq (precision - 1)] at this
      exact_mod_cast this
    rw [magnitude_rounded]
    exact hpow.trans (mul_le_mul_of_nonneg_right hle hE.le)

/-- A multiple of a unit that is less than the unit below a power of ten has reached it. -/
theorem le_magnitude_of_sub_lt (h : d.coefficient ≠ 0)
    (hlt : 10 ^ k - 10 ^ d.exponent < d.magnitude) : 10 ^ k ≤ d.magnitude := by
  have he : (0 : ℚ) < 10 ^ d.exponent := by positivity
  rcases le_total k d.exponent with hk | hk
  · have hone : (1 : ℚ) ≤ d.coefficient := by exact_mod_cast Nat.pos_of_ne_zero h
    calc (10 : ℚ) ^ k ≤ 10 ^ d.exponent := zpow_le_zpow_right₀ (by norm_num) hk
      _ ≤ d.magnitude := le_mul_of_one_le_left he.le hone
  · obtain ⟨m, hm⟩ := Int.eq_ofNat_of_zero_le (sub_nonneg.mpr hk)
    have hpow : (10 : ℚ) ^ k = (10 ^ m : ℕ) * 10 ^ d.exponent := by
      rw [show k = m + d.exponent by omega, zpow_add₀ (by norm_num), zpow_natCast]
      norm_num
    rw [hpow, magnitude] at hlt ⊢
    have hsub : ((10 ^ m : ℕ) : ℚ) - 1 < d.coefficient := by
      rw [← mul_lt_mul_iff_left₀ he]
      linarith
    have hle : 10 ^ m ≤ d.coefficient := by
      have : ((10 ^ m : ℕ) : ℚ) < ((d.coefficient + 1 : ℕ) : ℚ) := by
        push_cast at hsub ⊢
        linarith
      have := Nat.cast_lt.mp this
      omega
    exact mul_le_mul_of_nonneg_right (by exact_mod_cast hle) he.le

/-- **A result reaches a power of ten** from half a unit of its last digit below that power on:
the power is even there, so that a tie is rounded up to it. -/
theorem le_magnitude_rounded_iff (h : d.coefficient ≠ 0) (hk : minQuantum ≤ k - precision) :
    10 ^ k ≤ d.rounded.magnitude ↔ 10 ^ k - 10 ^ (k - precision) / 2 ≤ d.magnitude := by
  have hhalf : (0 : ℚ) < 10 ^ (k - precision) := by positivity
  -- by the place of the last digit that is kept, against the one that the bound is half a unit of
  rcases lt_trichotomy d.keptExponent (k - precision) with hlt | heq | hgt
  · obtain ⟨hx, hr⟩ := magnitude_lt_of_keptExponent_lt hlt
    have hpow : (10 : ℚ) ^ k = 10 * 10 ^ (k - 1) := by
      rw [← zpow_one_add₀ (by norm_num)]
      congr 1
      ring
    have hle : (10 : ℚ) ^ (k - precision) ≤ 10 ^ (k - 1) := by
      refine zpow_le_zpow_right₀ (by norm_num) ?_
      rw [precision]
      omega
    exact iff_of_false (by linarith) (by linarith)
  · exact le_magnitude_rounded_iff_of_eq heq
  · rcases Nat.eq_zero_or_pos d.dropped with h0 | hpos
    · -- nothing is dropped, so the number is kept as it is
      have hrounded : d.rounded = d := by rw [rounded, if_pos h0]
      rw [hrounded]
      refine ⟨fun hle => by linarith, fun hle => le_magnitude_of_sub_lt h ?_⟩
      rw [keptExponent, h0, Nat.cast_zero, add_zero] at hgt
      have : (10 : ℚ) ^ (k - precision) < 10 ^ d.exponent :=
        zpow_lt_zpow_right₀ (by norm_num) hgt
      linarith
    · -- the precision is what drops digits here: the least quantum lies far below the power
      have hdrop : digitCount d.coefficient = precision + d.dropped := by
        rw [keptExponent, dropped] at hgt
        rw [dropped] at hpos ⊢
        omega
      obtain ⟨hx, hr⟩ := le_magnitude_of_dropped hdrop hpos hgt
      exact iff_of_true hr (by linarith)

/-! ### Results -/

theorem magnitude_rounded_of_eq_zero (h : d.coefficient = 0) : d.rounded.magnitude = 0 := by
  have hzero : roundHalfEven 0 (tenTo d.dropped) = 0 := by
    rw [roundHalfEven, Nat.zero_div, Nat.zero_mod, if_neg]
    have := tenTo_pos d.dropped
    omega
  rw [magnitude_rounded, h, hzero, Nat.cast_zero, zero_mul]

/-- **A result has the magnitude that is kept**, and it fits. -/
theorem of_finish (h : d.finish = .ok r) :
    r.negative = d.negative ∧ r.magnitude = d.rounded.magnitude ∧
      r.coefficient < tenTo precision ∧ minQuantum ≤ r.exponent := by
  by_cases h0 : d.coefficient = 0
  · rw [finish, if_pos h0] at h
    obtain rfl := Except.ok.inj h
    refine ⟨rfl, ?_, h0 ▸ tenTo_pos _, ?_⟩
    · rw [magnitude_rounded_of_eq_zero h0, magnitude, h0, Nat.cast_zero, zero_mul]
    · exact le_min (by decide) (le_max_left _ _)
  · rw [finish_of_ne_zero h0] at h
    split at h
    · cases h
    · obtain rfl := Except.ok.inj h
      refine ⟨?_, rfl, coefficient_rounded_lt d, minQuantum_le_exponent_rounded d⟩
      rw [rounded]
      split_ifs <;> rfl

/-- A result that fits is not changed by rounding it again. -/
theorem rounded_of_finish (h : d.finish = .ok r) : r.rounded = r :=
  have hr := of_finish h
  rounded_of_fits hr.2.2.1 hr.2.2.2

/-- Between a power of ten and half a unit below it there is no number that fits. -/
theorem lt_sub_iff_of_rounded_eq (h : d.rounded = d) (hk : minQuantum ≤ k - precision) :
    d.magnitude < 10 ^ k - 10 ^ (k - precision) / 2 ↔ d.magnitude < 10 ^ k := by
  by_cases h0 : d.coefficient = 0
  · have hgap : (10 : ℚ) ^ (k - precision) < 10 ^ k :=
      zpow_lt_zpow_right₀ (by norm_num) (by rw [precision]; omega)
    have hpos : (0 : ℚ) < 10 ^ (k - precision) := by positivity
    rw [magnitude, h0, Nat.cast_zero, zero_mul]
    exact iff_of_true (by linarith) (by linarith)
  · rw [← not_le, ← le_magnitude_rounded_iff h0 hk, h, not_le]

/-- **There is a result below a power of ten** exactly when the number lies below it by half a
unit of the last digit. -/
theorem exists_finish_lt_iff (hk : minQuantum ≤ k - precision) (htop : k ≤ maxExponent + 1) :
    (∃ r, d.finish = .ok r ∧ r.magnitude < 10 ^ k) ↔
      d.magnitude < 10 ^ k - 10 ^ (k - precision) / 2 := by
  have hgap : (0 : ℚ) < 10 ^ k - 10 ^ (k - precision) / 2 := by
    have hlt : (10 : ℚ) ^ (k - precision) < 10 ^ k :=
      zpow_lt_zpow_right₀ (by norm_num) (by rw [precision]; omega)
    have : (0 : ℚ) < 10 ^ (k - precision) := by positivity
    linarith
  by_cases h0 : d.coefficient = 0
  · have hd : d.magnitude = 0 := by rw [magnitude, h0, Nat.cast_zero, zero_mul]
    refine iff_of_true ⟨_, by rw [finish, if_pos h0], ?_⟩ (hd ▸ hgap)
    rw [magnitude, h0, Nat.cast_zero, zero_mul]
    positivity
  · rw [← not_le, ← le_magnitude_rounded_iff h0 hk, not_le]
    constructor
    · rintro ⟨r, hr, hlt⟩
      rwa [← (of_finish hr).2.1]
    · intro hlt
      refine ⟨d.rounded, ?_, hlt⟩
      rw [finish_of_ne_zero h0, if_neg]
      rintro ⟨hne, hlead⟩
      have hle := (le_leadExponent_iff hne).mp (show k ≤ d.rounded.leadExponent by omega)
      exact absurd hlt (not_lt.mpr hle)

/-- **There is a result** exactly when the number lies below the greatest power of ten by half a
unit of the last digit. -/
theorem exists_finish_iff :
    (∃ r, d.finish = .ok r) ↔
      d.magnitude < 10 ^ (maxExponent + 1) - 10 ^ (maxExponent + 1 - precision) / 2 := by
  rw [← exists_finish_lt_iff (by decide) le_rfl]
  refine exists_congr fun r => (and_iff_left_of_imp fun hr => ?_).symm
  by_cases h0 : r.coefficient = 0
  · rw [magnitude, h0, Nat.cast_zero, zero_mul]
    positivity
  · -- a result that is not zero was not refused for its leading digit
    have hd : d.coefficient ≠ 0 := by
      intro hd
      rw [finish, if_pos hd] at hr
      exact h0 ((congrArg coefficient (Except.ok.inj hr)).symm.trans hd)
    rw [finish_of_ne_zero hd] at hr
    split at hr
    · cases hr
    · rename_i hfits
      obtain rfl := Except.ok.inj hr
      have hlead : d.rounded.leadExponent ≤ maxExponent := by
        by_contra hgt
        exact hfits ⟨h0, not_le.mp hgt⟩
      exact (magnitude_lt _).trans_le (zpow_le_zpow_right₀ (by norm_num) (by omega))

/-- **The fraction of a number is looked for** exactly when its whole part fits. -/
theorem exists_isWhole_iff : (∃ b, d.isWhole = .ok b) ↔ d.magnitude < 10 ^ (precision : ℤ) := by
  rw [isWhole]
  by_cases h0 : d.coefficient = 0
  · have hd : d.magnitude = 0 := by rw [magnitude, h0, Nat.cast_zero, zero_mul]
    rw [if_neg (by simp [h0]), hd]
    refine iff_of_true ?_ (by positivity)
    split <;> exact ⟨_, rfl⟩
  · rw [← not_le, ← le_leadExponent_iff h0]
    constructor
    · rintro ⟨b, hb⟩ hle
      rw [if_pos ⟨h0, hle⟩] at hb
      cases hb
    · intro hlt
      rw [if_neg fun h => hlt h.2]
      split <;> exact ⟨_, rfl⟩

end Decimal

end StackManifest.Number
