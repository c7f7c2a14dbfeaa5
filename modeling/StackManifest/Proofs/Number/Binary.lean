import StackManifest.Number.Binary64
import StackManifest.Proofs.Number.Error

/-!
# How far a binary number lies from a fraction

A fraction is turned into a binary number by rounding it at the exponent that leaves 53 binary
digits, `StackManifest.Number.Binary64.ratioExponent`. What comes out lies near the fraction, with
a relative error of `2 ^ (-53)` (`StackManifest.Number.Binary64.near_of_ofRatio`), unless the
fraction is so small that it has fewer digits.

Its comparisons with whole numbers and its decimal form are exact: they only depend on the value
`m * 2 ^ e` (`StackManifest.Number.Binary64.le_compareInt_iff`,
`StackManifest.Number.Binary64.exists_toDecimal?`).
-/

namespace StackManifest.Number.Binary64

variable {m num den : ℕ} {e : ℤ} {x : Binary64}

theorem two_zpow_eq (e : ℤ) : (2 : ℚ) ^ e = 2 ^ e.toNat / 2 ^ (-e).toNat := zpow_eq_div 2 e

/-! ### The exponent of a fraction -/

/-- How many binary digits a fraction has before the point, or one less. -/
def binarySize (num den : ℕ) : ℤ := (num.log2 : ℤ) - den.log2

/-- The **exponent** at which a fraction is rounded. -/
def ratioExponent (num den : ℕ) : ℤ :=
  let e := max (binarySize num den - 53) minExponent
  if twoTo 53 ≤ (scaled num den e).1 / (scaled num den e).2 then e + 1 else e

/-- The rounded significand of a fraction. -/
def ratioSignificand (num den : ℕ) : ℕ :=
  roundHalfEven (scaled num den (ratioExponent num den)).1
    (scaled num den (ratioExponent num den)).2

theorem ofRatio_eq (h : num ≠ 0) :
    ofRatio false num den =
      if ratioSignificand num den = twoTo 53 then
        if maxExponent < ratioExponent num den + 1 then .infinite false
        else .finite false (twoTo 52) (ratioExponent num den + 1)
      else if maxExponent < ratioExponent num den then .infinite false
      else .finite false (ratioSignificand num den) (ratioExponent num den) := by
  have hlet : ofRatio false num den =
      let p := if ratioSignificand num den = twoTo 53 then (twoTo 52, ratioExponent num den + 1)
        else (ratioSignificand num den, ratioExponent num den)
      if maxExponent < p.2 then .infinite false else .finite false p.1 p.2 := by
    rw [ofRatio, if_neg h]
    rfl
  rw [hlet]
  by_cases htop : ratioSignificand num den = twoTo 53
  · simp only [htop, if_true]
  · simp only [htop, if_false]

/-- Scaling divides a fraction by a power of two. -/
theorem scaled_div (hden : den ≠ 0) (e : ℤ) :
    ((scaled num den e).1 : ℚ) / (scaled num den e).2 = num / den / 2 ^ e := by
  have hdenQ : (den : ℚ) ≠ 0 := by exact_mod_cast hden
  rw [scaled, two_zpow_eq]
  push_cast [cast_twoTo]
  field_simp

theorem scaled_snd_pos (hden : den ≠ 0) (e : ℤ) : 0 < (scaled num den e).2 :=
  Nat.mul_pos (Nat.pos_of_ne_zero hden) (Nat.pow_pos (by norm_num))

/-- A fraction is at least half of what its binary digits say. -/
theorem two_zpow_le_ratio (hnum : num ≠ 0) (hden : den ≠ 0) :
    (2 : ℚ) ^ (binarySize num den - 1) ≤ num / den := by
  have hdenQ : (0 : ℚ) < den := by exact_mod_cast Nat.pos_of_ne_zero hden
  have hn : (2 : ℚ) ^ num.log2 ≤ num := by exact_mod_cast Nat.log2_self_le hnum
  have hd : (den : ℚ) ≤ 2 ^ (den.log2 + 1) := by exact_mod_cast (Nat.lt_log2_self).le
  have hpow : (2 : ℚ) ^ (binarySize num den - 1) = 2 ^ num.log2 / 2 ^ (den.log2 + 1) := by
    rw [binarySize, sub_sub, zpow_sub₀ (by norm_num)]
    norm_cast
  rw [hpow]
  exact div_le_div₀ (by positivity) hn hdenQ hd

/-- **All 53 digits are there** when the fraction is not too small. -/
theorem significand_le_ratio (hnum : num ≠ 0) (hden : den ≠ 0)
    (hrange : minExponent ≤ binarySize num den - 53) :
    (2 : ℚ) ^ 52 * 2 ^ ratioExponent num den ≤ num / den := by
  have hpow : ∀ e : ℤ, (2 : ℚ) ^ 52 * 2 ^ e = 2 ^ (52 + e) := by
    intro e
    rw [zpow_add₀ (by norm_num)]
    norm_cast
  rw [ratioExponent, max_eq_left hrange]
  split_ifs with htop
  · -- one digit more, so the exponent is one greater
    have hle : twoTo 53 * (scaled num den (binarySize num den - 53)).2 ≤
        (scaled num den (binarySize num den - 53)).1 :=
      (Nat.le_div_iff_mul_le (scaled_snd_pos hden _)).mp htop
    have hq : (2 : ℚ) ^ 53 ≤ num / den / 2 ^ (binarySize num den - 53) := by
      rw [← scaled_div hden, le_div_iff₀ (by exact_mod_cast scaled_snd_pos hden _)]
      rw [twoTo_eq] at hle
      exact_mod_cast hle
    rw [le_div_iff₀ (by positivity)] at hq
    refine le_trans (le_of_eq ?_) hq
    rw [zpow_add_one₀ (by norm_num)]
    ring
  · rw [hpow]
    refine le_trans (le_of_eq ?_) (two_zpow_le_ratio hnum hden)
    congr 1
    ring

/-! ### The relative error -/

/-- **A binary number lies near the fraction that it stands for.** -/
theorem near_of_ofRatio (hnum : num ≠ 0) (hden : den ≠ 0)
    (hrange : minExponent ≤ binarySize num den - 53) (h : ofRatio false num den = x)
    (hfin : ∀ s, x ≠ .infinite s) :
    ∃ m e, x = .finite false m e ∧ Near (1 / 2 ^ 53) (num / den) (m * 2 ^ e) := by
  have hE : (0 : ℚ) < 2 ^ ratioExponent num den := by positivity
  have hnear : Near (1 / 2 ^ 53) ((num : ℚ) / den)
      (ratioSignificand num den * 2 ^ ratioExponent num den) := by
    -- half a unit is not more than the error, since all 53 digits are there
    have hunit := significand_le_ratio hnum hden hrange
    have hpos : 0 < (scaled num den (ratioExponent num den)).2 := scaled_snd_pos hden _
    have herror := abs_roundHalfEven_sub_le (n := (scaled num den (ratioExponent num den)).1) hpos
    rw [← ratioSignificand, scaled_div hden, abs_le] at herror
    have hlow := mul_le_mul_of_nonneg_right herror.1 hE.le
    have hup := mul_le_mul_of_nonneg_right herror.2 hE.le
    rw [sub_mul, div_mul_cancel₀ _ hE.ne'] at hlow hup
    constructor <;> linarith
  rw [ofRatio_eq hnum] at h
  split_ifs at h with htop hinf hinf
  · exact absurd h.symm (hfin _)
  · -- the significand runs over into one more digit, and the exponent takes it up
    refine ⟨_, _, h.symm, ?_⟩
    rw [htop, cast_twoTo] at hnear
    rw [cast_twoTo, zpow_add_one₀ (by norm_num)]
    convert hnear using 1
    ring
  · exact absurd h.symm (hfin _)
  · exact ⟨_, _, h.symm, hnear⟩

/-- Half of a whole number is **not too small** for all its digits. -/
theorem minExponent_le_binarySize_two (n : ℕ) : minExponent ≤ binarySize n 2 - 53 := by
  have htwo : Nat.log2 2 = 1 := by decide +kernel
  rw [binarySize, minExponent, htwo]
  omega

/-- **Half of a whole number**, as a binary number. -/
theorem near_of_ofQuotient? {n : ℕ} (hn : n ≠ 0) (h : ofQuotient? n 2 = some x) :
    ∃ m e, x = .finite false m e ∧ Near (1 / 2 ^ 53) (n / 2) (m * 2 ^ e) := by
  rw [ofQuotient?, show decide ((n : ℤ) < 0) = false by simp, Int.natAbs_natCast] at h
  split at h
  · rename_i s m e hx
    obtain rfl := Option.some.inj h
    exact_mod_cast near_of_ofRatio hn two_ne_zero (minExponent_le_binarySize_two n) hx (by simp)
  · cases h

/-- The exponent of a fraction is **one above** that of its leading digits at most. -/
theorem ratioExponent_le (hrange : minExponent ≤ binarySize num den - 53) :
    ratioExponent num den ≤ binarySize num den - 52 := by
  rw [ratioExponent, max_eq_left hrange]
  split_ifs <;> omega

/-- **Half of a whole number** is a binary number, unless it is too large. -/
theorem exists_ofQuotient? {n : ℕ} (hn : n ≠ 0) (hlt : n < 2 ^ 200) :
    ∃ x, ofQuotient? n 2 = some x := by
  have htwo : Nat.log2 2 = 1 := by decide +kernel
  have hsize : n.log2 < 200 := (Nat.log2_lt hn).mpr hlt
  have hexponent := ratioExponent_le (minExponent_le_binarySize_two n)
  rw [binarySize, htwo] at hexponent
  rw [ofQuotient?, show decide ((n : ℤ) < 0) = false by simp, Int.natAbs_natCast, ofRatio_eq hn,
    if_neg (show ¬maxExponent < ratioExponent n 2 + 1 by rw [maxExponent]; omega),
    if_neg (show ¬maxExponent < ratioExponent n 2 by rw [maxExponent]; omega)]
  split_ifs <;> exact ⟨_, rfl⟩

/-! ### Exact operations -/

/-- A positive number is **compared** by its value. -/
theorem le_compareInt_iff {o : Ordering} {k : ℕ}
    (h : (Binary64.finite false m e).compareInt k = some o) :
    o ≠ .lt ↔ (k : ℚ) ≤ m * 2 ^ e := by
  have hpow : (0 : ℚ) < 2 ^ (-e).toNat := by positivity
  obtain rfl : compare ((m : ℤ) * twoTo e.toNat) (k * twoTo (-e).toNat) = o := Option.some.inj h
  rw [two_zpow_eq, ← mul_div_assoc, le_div_iff₀ hpow, ne_eq, compare_lt_iff_lt, not_lt,
    twoTo_eq, twoTo_eq]
  exact_mod_cast Iff.rfl

/-- The **decimal form** of a number has the same value. -/
theorem exists_toDecimal? (m : ℕ) (e : ℤ) :
    ∃ d, (Binary64.finite false m e).toDecimal? = some d ∧ d.negative = false ∧
      d.magnitude = m * 2 ^ e := by
  refine ⟨_, rfl, ?_, ?_⟩
  · split_ifs <;> rfl
  · split_ifs with he
    · rw [Decimal.magnitude, two_zpow_eq, show (-e).toNat = 0 by omega]
      push_cast [cast_twoTo]
      simp
    · have hten : (10 : ℚ) ^ (-e).toNat = 5 ^ (-e).toNat * 2 ^ (-e).toNat := by
        rw [← mul_pow]
        norm_num
      rw [Decimal.magnitude, two_zpow_eq, ten_zpow_eq, show e.toNat = 0 by omega, hten,
        show Nat.pow 5 (-e).toNat = 5 ^ (-e).toNat from rfl]
      push_cast
      field_simp

end StackManifest.Number.Binary64
