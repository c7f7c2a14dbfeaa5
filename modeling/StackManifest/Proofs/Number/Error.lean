import Mathlib.Algebra.Order.Floor.Ring
import Mathlib.Data.Rat.Floor
import StackManifest.Proofs.Number.Quotient

/-!
# How far a result lies from the exact number

Where it is not asked which powers of ten a result reaches, but only **how large** it is, the
relative error of the operations is enough: `StackManifest.Number.Near` says that a number lies
within a fraction of another one. Rounding to 28 digits stays within `10 ^ (-27)`
(`StackManifest.Number.Decimal.near_of_finish`), and so a quotient stays within `10 ^ (-26)` of
the exact one (`StackManifest.Number.Decimal.near_of_div`), as long as the numbers are not so
small that their digits are cut off at the least quantum.

The whole numbers around a decimal number are those around its value
(`StackManifest.Number.Decimal.ceil_eq`, `StackManifest.Number.Decimal.of_roundHalfUp`).
-/

namespace StackManifest.Number

/-! ### Relative errors -/

/-- A number within a **relative error** of another one. -/
structure Near (ε x y : ℚ) : Prop where
  lower : (1 - ε) * x ≤ y
  upper : y ≤ (1 + ε) * x

section Near

variable {ε δ x y z : ℚ}

theorem Near.refl (hε : 0 ≤ ε) (hx : 0 ≤ x) : Near ε x x := by
  have := mul_nonneg hε hx
  constructor <;> linarith

theorem Near.mono (h : Near ε x y) (hx : 0 ≤ x) (hle : ε ≤ δ) : Near δ x y := by
  have := mul_le_mul_of_nonneg_right hle hx
  have := h.lower
  have := h.upper
  constructor <;> linarith

/-- **Two errors**, one after the other, add up to little more than their sum. -/
theorem Near.trans (h : Near ε x y) (h' : Near δ y z) (hx : 0 ≤ x) (hε : 0 ≤ ε) (hδ : 0 ≤ δ)
    (hδ1 : δ ≤ 1) : Near (ε + δ + ε * δ) x z := by
  have hlow := mul_le_mul_of_nonneg_left h.lower (sub_nonneg.mpr hδ1)
  have hup := mul_le_mul_of_nonneg_left h.upper (show 0 ≤ 1 + δ by linarith)
  have hprod : 0 ≤ ε * δ * x := mul_nonneg (mul_nonneg hε hδ) hx
  have := h'.lower
  have := h'.upper
  constructor
  · nlinarith
  · nlinarith

/-- An error is the same in **every unit**. -/
theorem Near.div (h : Near ε x y) (hz : 0 < z) : Near ε (x / z) (y / z) := by
  constructor
  · rw [← mul_div_assoc]
    exact div_le_div_of_nonneg_right h.lower hz.le
  · rw [← mul_div_assoc]
    exact div_le_div_of_nonneg_right h.upper hz.le

end Near

/-- Both bounds of a rounded quotient, in halves of the denominator. -/
theorem roundHalfEven_bounds {n d : ℕ} (hd : 0 < d) :
    2 * n ≤ 2 * (d * roundHalfEven n d) + d ∧ 2 * (d * roundHalfEven n d) ≤ 2 * n + d := by
  have hmod : n % d < d := Nat.mod_lt _ hd
  have hdiv : d * (n / d) + n % d = n := Nat.div_add_mod n d
  simp only [roundHalfEven]
  split
  · rw [Nat.mul_succ]
    omega
  · omega

/-- **A rounded quotient** is off by half a unit at most. -/
theorem abs_roundHalfEven_sub_le {n d : ℕ} (hd : 0 < d) :
    |(roundHalfEven n d : ℚ) - n / d| ≤ 1 / 2 := by
  have hdQ : (0 : ℚ) < d := by exact_mod_cast hd
  have hcases := roundHalfEven_bounds (n := n) hd
  have hlow : 2 * (n : ℚ) ≤ 2 * (d * roundHalfEven n d) + d := by exact_mod_cast hcases.1
  have hup : 2 * (d * (roundHalfEven n d : ℚ)) ≤ 2 * n + d := by exact_mod_cast hcases.2
  have hx : (n : ℚ) = n / d * d := (div_mul_cancel₀ _ hdQ.ne').symm
  rw [abs_le]
  constructor
  · rw [neg_le_sub_iff_le_add, div_le_iff₀ hdQ]
    linarith
  · rw [sub_le_iff_le_add, ← mul_le_mul_iff_left₀ hdQ, add_mul, ← hx]
    linarith

namespace Decimal

variable {a b d q r : Decimal} {n : ℤ}

/-! ### Rounding -/

/-- A unit of the last digit is little compared with a number that is not tiny itself. -/
theorem unit_le_of_dropped (hpos : 0 < d.dropped) (h : 1 / 2 ≤ d.magnitude) :
    10 ^ 27 * 10 ^ d.keptExponent ≤ d.magnitude := by
  have hne : d.coefficient ≠ 0 := by
    intro h0
    rw [magnitude, h0, Nat.cast_zero, zero_mul] at h
    norm_num at h
  have hpow : (10 : ℚ) ^ 27 * 10 ^ d.keptExponent = 10 ^ (27 + d.keptExponent) := by
    rw [zpow_add₀ (by norm_num)]
    norm_cast
  rw [hpow]
  rcases le_total (minQuantum - d.exponent).toNat (digitCount d.coefficient - precision) with
    hle | hle
  · -- the digits that are kept begin with the leading one
    refine (zpow_le_zpow_right₀ (by norm_num) ?_).trans (le_magnitude hne)
    rw [dropped, max_eq_left hle, precision] at hpos
    rw [keptExponent, dropped, max_eq_left hle, leadExponent, precision]
    omega
  · -- the least quantum drops the digits, and it is tiny by itself
    refine le_trans ?_ h
    rw [dropped, max_eq_right hle] at hpos
    have hkept : 27 + d.keptExponent ≤ -1 := by
      rw [keptExponent, dropped, max_eq_right hle, minQuantum]
      rw [minQuantum] at hpos
      omega
    calc (10 : ℚ) ^ (27 + d.keptExponent) ≤ 10 ^ (-1 : ℤ) :=
          zpow_le_zpow_right₀ (by norm_num) hkept
      _ ≤ 1 / 2 := by norm_num

theorem near_rounded (h : 1 / 2 ≤ d.magnitude) :
    Near (1 / 10 ^ 27) d.magnitude d.rounded.magnitude := by
  rcases Nat.eq_zero_or_pos d.dropped with h0 | hpos
  · rw [rounded, if_pos h0]
    exact .refl (by positivity) (magnitude_nonneg d)
  · have hunit := unit_le_of_dropped hpos h
    have hE : (0 : ℚ) < 10 ^ d.keptExponent := by positivity
    have herror := abs_roundHalfEven_sub_le (n := d.coefficient) (tenTo_pos d.dropped)
    rw [cast_tenTo, abs_le] at herror
    have hlow := mul_le_mul_of_nonneg_right herror.1 hE.le
    have hup := mul_le_mul_of_nonneg_right herror.2 hE.le
    rw [sub_mul, ← magnitude_rounded, ← magnitude_eq_kept] at hlow hup
    constructor <;> linarith

/-- **A result lies near the number that it is rounded from.** -/
theorem near_of_finish (h : d.finish = .ok r) (hd : 1 / 2 ≤ d.magnitude) :
    Near (1 / 10 ^ 27) d.magnitude r.magnitude := by
  rw [(of_finish h).2.1]
  exact near_rounded hd

/-! ### Quotients -/

theorem Approximates.near {x : ℚ} (h : d.Approximates x) (hx : 0 ≤ x) :
    Near (1 / 10 ^ 27) x d.magnitude := by
  rcases h with rfl | ⟨q, hq, hlo, hhi, hc⟩
  · exact .refl (by positivity) hx
  · have hE : (0 : ℚ) < 10 ^ d.exponent := by positivity
    have hqQ : (10 : ℚ) ^ 28 ≤ q := by exact_mod_cast hq
    have hunit := mul_le_mul_of_nonneg_right hqQ hE.le
    -- the digit that says “and more” adds one unit at most
    have hcq : (q : ℚ) ≤ d.coefficient ∧ (d.coefficient : ℚ) ≤ q + 1 := by
      have : q ≤ d.coefficient ∧ d.coefficient ≤ q + 1 := by
        rw [hc]
        split_ifs <;> omega
      exact ⟨by exact_mod_cast this.1, by exact_mod_cast this.2⟩
    have hlow := mul_le_mul_of_nonneg_right hcq.1 hE.le
    have hup := mul_le_mul_of_nonneg_right hcq.2 hE.le
    rw [← magnitude] at hlow hup
    constructor <;> linarith

/-- **A quotient lies near the exact one.** -/
theorem near_of_div (hb : b.coefficient ≠ 0) (h : a.div b = .ok q)
    (hx : 1 ≤ a.magnitude / b.magnitude) :
    Near (1 / 10 ^ 26) (a.magnitude / b.magnitude) q.magnitude := by
  obtain ⟨d, hd, -, happrox⟩ := exists_dividend (a := a) hb
  have hnear := happrox.near (by linarith)
  have hhalf : 1 / 2 ≤ d.magnitude := by
    have := hnear.lower
    linarith
  -- cutting off and rounding are both off by `10 ^ (-27)` at most
  refine (hnear.trans (near_of_finish (hd ▸ h) hhalf) (by linarith) (by positivity)
    (by positivity) (by norm_num)).mono (by linarith) (by norm_num)

/-! ### Whole numbers around -/

theorem toRat_of_exponent_nonneg (h : 0 ≤ d.exponent) : d.toRat = (d.signedAt 0 : ℤ) := by
  rw [toRat, signedAt, Int.cast_mul, sub_zero, Int.cast_natCast, cast_tenTo, ← zpow_natCast,
    Int.toNat_of_nonneg h]

theorem toRat_of_exponent_neg (h : ¬0 ≤ d.exponent) :
    d.toRat = (d.signed : ℚ) / (tenTo (-d.exponent).toNat : ℕ) := by
  rw [toRat, cast_tenTo, ten_zpow_eq, show d.exponent.toNat = 0 by omega]
  ring

/-- **Rounding up** goes to the least whole number that is not below the value. -/
theorem ceil_eq (d : Decimal) : d.ceil = ⌈d.toRat⌉ := by
  rw [ceil]
  split_ifs with h
  · rw [toRat_of_exponent_nonneg h, Int.ceil_intCast]
  · -- what is computed is a floor, between two changes of the sign
    have hneg : (d.signed : ℚ) / (tenTo (-d.exponent).toNat : ℕ) =
        -((-d.signed : ℤ) / (tenTo (-d.exponent).toNat : ℕ) : ℚ) := by
      push_cast
      ring
    rw [toRat_of_exponent_neg h, hneg, Int.ceil_neg, Rat.floor_intCast_div_natCast,
      Int.fdiv_eq_ediv_of_nonneg _ (Int.natCast_nonneg _)]

/-- A number is **compared** by its value. -/
theorem compareInt_eq_gt_iff : d.compareInt n = .gt ↔ (n : ℚ) < d.toRat := by
  rw [compareInt]
  split_ifs with h
  · rw [toRat_of_exponent_nonneg h, compare_gt_iff_gt, Int.cast_lt]
  · have hpow : (0 : ℚ) < (tenTo (-d.exponent).toNat : ℕ) := by exact_mod_cast tenTo_pos _
    rw [toRat_of_exponent_neg h, compare_gt_iff_gt, lt_div_iff₀ hpow]
    exact_mod_cast Iff.rfl

/-- A half is rounded away from zero. -/
theorem halfUp_bounds {c u : ℕ} (hu : 0 < u) :
    (((2 * c + u) / (2 * u) : ℕ) : ℚ) ≤ c / u + 1 / 2 ∧
      (c : ℚ) / u < ((2 * c + u) / (2 * u) : ℕ) + 1 / 2 := by
  have huQ : (0 : ℚ) < u := by exact_mod_cast hu
  have hdiv := Nat.div_add_mod (2 * c + u) (2 * u)
  have hmod := Nat.mod_lt (2 * c + u) (show 0 < 2 * u by omega)
  obtain ⟨m, hm⟩ : ∃ m, m = (2 * c + u) / (2 * u) := ⟨_, rfl⟩
  rw [← hm] at hdiv ⊢
  have hlow : 2 * u * m ≤ 2 * c + u := by omega
  have hup : 2 * c + u < 2 * u * m + 2 * u := by omega
  have hlowQ : 2 * (u : ℚ) * m ≤ 2 * c + u := by exact_mod_cast hlow
  have hupQ : 2 * (c : ℚ) + u < 2 * u * m + 2 * u := by exact_mod_cast hup
  constructor
  · rw [← sub_le_iff_le_add, le_div_iff₀ huQ]
    linarith
  · rw [div_lt_iff₀ huQ]
    linarith

/-- **Rounding to a whole number** goes to one that is off by a half at most, if it fits. -/
theorem of_roundHalfUp (h : d.roundHalfUp = .ok n) (hd : d.negative = false) :
    ∃ m : ℕ, n = m ∧ digitCount m ≤ precision ∧ (m : ℚ) ≤ d.magnitude + 1 / 2 ∧
      d.magnitude < m + 1 / 2 := by
  obtain ⟨m, hm⟩ : ∃ m, m = if 0 ≤ d.exponent then d.coefficient * tenTo d.exponent.toNat
    else (2 * d.coefficient + tenTo (-d.exponent).toNat) / (2 * tenTo (-d.exponent).toNat) :=
    ⟨_, rfl⟩
  simp only [roundHalfUp, ← hm, hd, Bool.false_eq_true, if_false] at h
  split at h
  · cases h
  · rename_i hdigits
    refine ⟨m, (Except.ok.inj h).symm, by omega, ?_⟩
    rw [hm]
    split_ifs with he
    · have hvalue : d.magnitude = (d.coefficient * tenTo d.exponent.toNat : ℕ) := by
        rw [magnitude, Nat.cast_mul, cast_tenTo, ← zpow_natCast, Int.toNat_of_nonneg he]
      rw [hvalue]
      constructor <;> linarith
    · have hvalue : d.magnitude = d.coefficient / (tenTo (-d.exponent).toNat : ℕ) := by
        rw [magnitude, cast_tenTo, ten_zpow_eq, show d.exponent.toNat = 0 by omega]
        ring
      rw [hvalue]
      exact halfUp_bounds (tenTo_pos _)

end Decimal

end StackManifest.Number
