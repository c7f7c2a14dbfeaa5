import StackManifest.Proofs.Number.Binary
import StackManifest.Proofs.Quantity.Formatted
import StackManifest.Proofs.Quantity.Texts
import StackManifest.Proofs.RightSizing.Amounts

/-!
# How much is left after halving

Halving rounds more than once: cores are divided with 28 digits and rounded up to a whole number;
a size becomes a binary number, is divided by a unit, and is rounded to whole units. The units are
chosen by the half, so that a size just above a threshold may lose a third of itself by the last
rounding alone.

Two bounds hold all the same, and they are what users may rely on: what is left is **less than
before**, and it is **not less than a third**
(`StackManifest.RightSizing.exists_ceil_div_two`, `StackManifest.RightSizing.exists_bytes_format`).

A size in whole units stays below a limit, and below this limit every half can be written
(`StackManifest.RightSizing.exists_format_half`).
-/

namespace StackManifest.RightSizing

open StackManifest.Number

/-! ### Cores -/

/-- **Half of some cores**, rounded up: less than before, and not less than a third. -/
theorem exists_ceil_div_two {c q : Decimal} (hneg : c.negative = false)
    (hc : (coreThreshold : ℚ) < c.toRat) (hq : c.div 2 = .ok q) :
    ∃ n : ℕ, q.ceil = n ∧ (n : ℚ) < c.toRat ∧ c.toRat ≤ 3 * n := by
  have htwo : (2 : Decimal).coefficient ≠ 0 := by decide
  have hmag : (2 : Decimal).magnitude = 2 := by
    change ((2 : ℕ) : ℚ) * 10 ^ (0 : ℤ) = 2
    norm_num
  have hc2 : (2 : ℚ) < c.magnitude := by
    rw [← Decimal.toRat_of_nonneg hneg]
    exact_mod_cast hc
  have hqneg : q.negative = false := by
    rw [(Decimal.of_div htwo hq).1, hneg]
    rfl
  have hnear := Decimal.near_of_div htwo hq (by rw [hmag]; linarith)
  rw [hmag, ← Decimal.toRat_of_nonneg hqneg] at hnear
  have hlow := hnear.lower
  have hup := hnear.upper
  have hceil := Int.le_ceil q.toRat
  have hlt := Int.ceil_lt_add_one q.toRat
  rw [Decimal.ceil_eq, Decimal.toRat_of_nonneg hneg]
  obtain ⟨n, hn⟩ := Int.eq_ofNat_of_zero_le (show 0 ≤ ⌈q.toRat⌉ from Int.ceil_nonneg (by linarith))
  rw [hn] at hceil hlt ⊢
  rw [Int.cast_natCast] at hceil hlt
  refine ⟨n, rfl, ?_, by linarith⟩
  rcases le_or_gt c.magnitude 3 with hle | hgt
  · -- half of at most three, with its error, is not above two
    have hn2 : ⌈q.toRat⌉ ≤ 2 := Int.ceil_le.mpr (by push_cast; linarith)
    have : (n : ℚ) ≤ 2 := by exact_mod_cast hn ▸ hn2
    linarith
  · linarith

/-! ### Sizes -/

/-- **Half of a size** in whole units, when the half is a unit at least. -/
theorem units_bounds {n m u : ℕ} {v q : ℚ} (hu : u ≤ 2 ^ 30)
    (hv : Near (1 / 2 ^ 53) (n / 2) v) (huv : u ≤ v) (hupos : 0 < u)
    (hq : Near (1 / 10 ^ 26) (v / u) q) (hle : (m : ℚ) ≤ q + 1 / 2) (hlt : q < m + 1 / 2) :
    m * u < n ∧ n ≤ 3 * (m * u) := by
  have huQ : (0 : ℚ) < u := by exact_mod_cast hupos
  -- everything is counted in units
  obtain ⟨x, hx⟩ : ∃ x : ℚ, x = n / 2 / u := ⟨_, rfl⟩
  have hn : (n : ℚ) = 2 * x * u := by
    rw [hx]
    field_simp
  have hx0 : 0 ≤ x := by
    rw [hx]
    positivity
  have hvx : Near (1 / 2 ^ 53) x (v / u) := hx ▸ hv.div huQ
  have hone : 1 ≤ v / u := (one_le_div huQ).mpr huv
  have hqx : Near (1 / 10 ^ 15) x q :=
    (hvx.trans hq hx0 (by positivity) (by positivity) (by norm_num)).mono hx0 (by norm_num)
  have hlow := hqx.lower
  have hup := hqx.upper
  have hvup := hvx.upper
  constructor
  · have hmx : (m : ℚ) < 2 * x := by linarith
    have : (m : ℚ) * u < n := by
      rw [hn]
      exact mul_lt_mul_of_pos_right hmx huQ
    exact_mod_cast this
  · have hle3 : n ≤ 3 * (m * u) ↔ 2 * x ≤ 3 * m := by
      rw [← mul_le_mul_iff_left₀ huQ, ← hn, mul_assoc]
      exact_mod_cast Iff.rfl
    rcases le_or_gt n (3 * u) with h3 | h3
    · -- a half that is a unit at least is not rounded down to none
      have hm : 1 ≤ m := by
        have : (0 : ℚ) < m := by linarith
        exact_mod_cast this
      nlinarith
    · -- the sizes are whole numbers, so there is at least one byte more than three units
      have hx32 : 3 / 2 + 1 / 2 ^ 31 ≤ x := by
        have h1 : 3 * (u : ℚ) + 1 ≤ n := by exact_mod_cast h3
        have h2 : (u : ℚ) ≤ 2 ^ 30 := by exact_mod_cast hu
        rw [hx, div_div, le_div_iff₀ (by positivity)]
        linarith
      have hm : 2 ≤ m := by
        have : (1 : ℚ) < m := by linarith
        exact_mod_cast this
      rw [hle3]
      have hmQ : (2 : ℚ) ≤ m := by exact_mod_cast hm
      rcases le_or_gt x 3 with hx3 | hx3 <;> linarith

section Format

variable {m : ℕ} {e : ℤ}

theorem reaches_iff {k : ℕ} :
    Size.Amount.reaches (.real (.finite false m e)) k = true ↔ (k : ℚ) ≤ m * 2 ^ e := by
  obtain ⟨o, ho⟩ : ∃ o, (Binary64.finite false m e).compareInt k = some o := ⟨_, rfl⟩
  rw [← Binary64.le_compareInt_iff ho, Size.Amount.reaches, ho]
  cases o <;> decide

/-- The **unit** of a half that is a mebibyte at least. -/
theorem exists_unitFor? (h : (SizeUnit.mega.bytes : ℚ) ≤ m * 2 ^ e) :
    ∃ u letters, Size.unitFor? (.real (.finite false m e)) = some (u, String.ofList letters) ∧
      (letters, u) ∈ Size.unitLetters ∧ (u.bytes : ℚ) ≤ m * 2 ^ e ∧ 0 < u.bytes ∧
      u.bytes ≤ 2 ^ 30 ∧ (u.bytes = 2 ^ 30 ∨ (m : ℚ) * 2 ^ e < 2 ^ 30) := by
  by_cases hg : (SizeUnit.giga.bytes : ℚ) ≤ m * 2 ^ e
  · refine ⟨.giga, ['G', 'i'], ?_, by simp [Size.unitLetters], hg, by decide, by decide,
      .inl rfl⟩
    rw [Size.unitFor?, if_pos (reaches_iff.mpr hg)]
  · refine ⟨.mega, ['M', 'i'], ?_, by simp [Size.unitLetters], h, by decide, by decide,
      .inr ?_⟩
    · rw [Size.unitFor?, if_neg fun hr => hg (reaches_iff.mp hr), if_pos (reaches_iff.mpr h)]
    · rw [show SizeUnit.giga.bytes = 2 ^ 30 from rfl] at hg
      exact_mod_cast not_le.mp hg

/-- **How many units** there are in a half: a quotient, rounded to a whole number. -/
theorem of_inUnits {k : ℤ} {u : ℕ} (h : Size.Amount.inUnits (.real (.finite false m e)) u = .ok k)
    (hu : 0 < u) (huv : (u : ℚ) ≤ m * 2 ^ e) :
    ∃ c : ℕ, k = c ∧ digitCount c ≤ Decimal.precision ∧
      ∃ q : ℚ, Near (1 / 10 ^ 26) (m * 2 ^ e / u) q ∧ (c : ℚ) ≤ q + 1 / 2 ∧ q < c + 1 / 2 := by
  obtain ⟨d, hd, hneg, hvalue⟩ := Binary64.exists_toDecimal? m e
  have hdecimal : Size.Amount.toDecimal (.real (.finite false m e)) = .ok d := by
    rw [Size.Amount.toDecimal, hd]
  obtain ⟨q, hdiv, h⟩ := (Size.inUnits_eq_ok_iff hdecimal).mp h
  have hunit : Decimal.magnitude ⟨false, u, 0⟩ = u := by simp [Decimal.magnitude]
  have hu0 : (⟨false, u, 0⟩ : Decimal).coefficient ≠ 0 := hu.ne'
  have hqneg : q.negative = false := by
    rw [(Decimal.of_div hu0 hdiv).1, hneg]
    rfl
  have hone : 1 ≤ d.magnitude / Decimal.magnitude ⟨false, u, 0⟩ := by
    rw [hvalue, hunit, one_le_div (by exact_mod_cast hu)]
    exact huv
  have hnear := Decimal.near_of_div hu0 hdiv hone
  rw [hvalue, hunit] at hnear
  obtain ⟨c, hc, hdigits, hle, hlt⟩ := Decimal.of_roundHalfUp h hqneg
  exact ⟨c, hc, hdigits, q.magnitude, hnear, hle, hlt⟩

/-- **What a half is written as**: a number of whole units, with no more digits than the
precision. -/
theorem exists_units_of_format {s : String} (hmega : (SizeUnit.mega.bytes : ℚ) ≤ m * 2 ^ e)
    (hs : Size.format (.real (.finite false m e)) = .ok s) :
    ∃ (c u : ℕ) (q : ℚ), Size.bytes s = .ok (c * u) ∧ c < 10 ^ Decimal.precision ∧ 0 < u ∧
      u ≤ 2 ^ 30 ∧ (u : ℚ) ≤ m * 2 ^ e ∧ Near (1 / 10 ^ 26) (m * 2 ^ e / u) q ∧
      (c : ℚ) ≤ q + 1 / 2 ∧ q < c + 1 / 2 := by
  obtain ⟨u, letters, hunit, hmem, huv, hupos, hu, -⟩ := exists_unitFor? hmega
  rw [Size.format, hunit] at hs
  obtain ⟨k, hk, hs⟩ := bind_eq_ok_iff.mp hs
  obtain ⟨c, rfl, hdigits, q, hq, hle, hlt⟩ := of_inUnits hk hupos huv
  have hc : c < 10 ^ Decimal.precision := (digitCount_le_iff (by decide)).mp hdigits
  refine ⟨c, u.bytes, q, ?_, hc, hupos, hu, huv, hq, hle, hlt⟩
  have htext : s = String.ofList (Text.decimalDigits c) ++ String.ofList letters := by
    rw [← Except.ok.inj hs, Text.decimalDigits, ← Nat.repr_eq_ofList_toDigits]
    rfl
  have hlen : (Text.decimalDigits c).length ≤ digitLimit := by
    refine (Nat.length_toDigits_le_iff (by decide) (by decide)).mpr ?_
    exact hc.trans (Nat.pow_lt_pow_right (by norm_num) (by decide))
  rw [htext]
  exact Size.bytes_text hlen hmem

/-- Half of a size above a threshold is a **mebibyte** at least. -/
theorem mega_le_half {n : ℕ} (hn : memoryThreshold < n)
    (hv : Near (1 / 2 ^ 53) ((n : ℚ) / 2) (m * 2 ^ e)) :
    (SizeUnit.mega.bytes : ℚ) ≤ m * 2 ^ e := by
  have hn30 : (2 : ℚ) ^ 30 < n := by
    have : 2 ^ 30 < n := hn
    exact_mod_cast this
  rw [show SizeUnit.mega.bytes = 2 ^ 20 from rfl]
  have := hv.lower
  push_cast
  linarith

/-- The least number of bytes that a size in whole units **never reaches**. -/
def sizeLimit : Nat := 10 ^ Decimal.precision * 2 ^ 30

/-- **Half of a size**, written in whole units and read again: less than before, not less than
a third, and never as large as the limit. -/
theorem exists_bytes_format {n : ℕ} {half : Binary64} {s : String} (hn : memoryThreshold < n)
    (hhalf : Binary64.ofQuotient? n 2 = some half) (hs : Size.format (.real half) = .ok s) :
    ∃ k, Size.bytes s = .ok k ∧ k < n ∧ n ≤ 3 * k ∧ k < sizeLimit := by
  obtain ⟨m, e, rfl, hv⟩ := Binary64.near_of_ofQuotient? (by omega) hhalf
  obtain ⟨c, u, q, hbytes, hc, hupos, hu, huv, hq, hle, hlt⟩ :=
    exists_units_of_format (mega_le_half hn hv) hs
  obtain ⟨hless, hthird⟩ := units_bounds hu hv huv hupos hq hle hlt
  exact ⟨c * u, hbytes, hless, hthird, Nat.mul_lt_mul_of_lt_of_le hc hu (by norm_num)⟩

/-- **Half of a size can be written**, if the size is below the limit. -/
theorem exists_format_half {n : ℕ} {half : Binary64} (hn : memoryThreshold < n)
    (hlimit : n < sizeLimit) (hhalf : Binary64.ofQuotient? n 2 = some half) :
    ∃ s, Size.format (.real half) = .ok s := by
  obtain ⟨m, e, rfl, hv⟩ := Binary64.near_of_ofQuotient? (by omega) hhalf
  obtain ⟨u, letters, hunit, -, huv, hupos, -, htop⟩ := exists_unitFor? (mega_le_half hn hv)
  obtain ⟨d, hd, -, hvalue⟩ := Binary64.exists_toDecimal? m e
  have hdecimal : Size.Amount.toDecimal (.real (.finite false m e)) = .ok d := by
    rw [Size.Amount.toDecimal, hd]
  have huQ : (0 : ℚ) < u.bytes := by exact_mod_cast hupos
  have hfew : d.magnitude / u.bytes < 10 ^ 28 - 1 / 2 := by
    rw [hvalue, div_lt_iff₀ huQ]
    rcases htop with hgiga | hsmall
    · have hnQ : (n : ℚ) < 10 ^ 28 * 2 ^ 30 := by exact_mod_cast hlimit
      have := hv.upper
      rw [hgiga]
      push_cast
      linarith
    · have hone : (1 : ℚ) ≤ u.bytes := by exact_mod_cast hupos
      nlinarith
  obtain ⟨k, hk⟩ := (Size.exists_inUnits_iff_magnitude hdecimal hupos).mpr hfew
  exact ⟨_, Size.format_eq_ok_iff.mpr (by rw [hunit]; exact ⟨k, hk, rfl⟩)⟩

end Format

end StackManifest.RightSizing
