import StackManifest.Proofs.Number.Nearest
import StackManifest.Proofs.Quantity.Computable

/-!
# How many thousandths are counted

A text writes an exact number of cores, `StackManifest.Cores.written?`, but what is read of it is
rounded to 28 digits: once when a number of thousandths is divided by a thousand, and once when
cores are multiplied with a thousand, to see whether the thousandths are whole and to count them.
So a text with more digits can be found to write whole thousandths when it does not.

Whenever thousandths are found to be whole, the number that is counted is the **nearest** whole
number to the exact one (`StackManifest.Cores.Counts.near`): in the second case the product is
exact, since the quotient is small enough, and so both cases round only once. It is the exact
number if and only if this has no more digits than the precision, and no other whole number is
ever found to be whole (`StackManifest.Cores.exists_counts`).
-/

namespace StackManifest

open StackManifest.Number StackManifest.Text

namespace Number.Decimal

variable {d : Decimal}

/-- A number **without a fraction** is what is left of it without its fraction. -/
theorem toRat_of_isWhole (h : d.isWhole = .ok true) : d.toRat = d.truncate := by
  rw [isWhole] at h
  split at h
  · cases h
  rw [truncate]
  split_ifs at h ⊢ with he
  · exact toRat_of_exponent_nonneg he
  · have hdvd : tenTo (-d.exponent).toNat ∣ d.coefficient :=
      Nat.dvd_of_mod_eq_zero (by simpa using Except.ok.inj h)
    have hsigned : ((tenTo (-d.exponent).toNat : ℕ) : ℤ) ∣ d.signed := by
      rw [signed]
      split
      · exact (Int.natCast_dvd_natCast.mpr hdvd).neg_right
      · exact Int.natCast_dvd_natCast.mpr hdvd
    have hunit : ((tenTo (-d.exponent).toNat : ℕ) : ℚ) ≠ 0 := by
      exact_mod_cast (tenTo_pos _).ne'
    have hmul := Int.tdiv_mul_cancel hsigned
    rw [toRat_of_exponent_neg he, div_eq_iff hunit]
    exact_mod_cast hmul.symm

end Number.Decimal

namespace Cores

variable {s : String} {c n r : Decimal} {q : ℚ}

/-- The **exact number of cores** that a text writes, as a fraction. -/
def written? (s : String) : Option ℚ :=
  (split? (trim s.toList)).map fun p => if p.2 then p.1.toRat / 1000 else p.1.toRat

/-- Cores that are whole thousandths, and how many: their **product with a thousand**. -/
theorem exists_mul_of_whole (h : isWholeMillicores c = .ok true) :
    ∃ r, c.mul 1000 = .ok r ∧ Decimal.Fits r.truncate ∧ (r.truncate : ℚ) < 10 ^ 28 ∧
      r.toRat = r.truncate ∧ millicores (.finite c) = .ok r.truncate := by
  obtain ⟨r, hr, hwhole⟩ := bind_eq_ok_iff.mp h
  rw [mapError_eq_ok_iff] at hr hwhole
  have hmul : (ExtendedDecimal.finite c).mul 1000 = ExtendedDecimal.finite <$> c.mul 1000 := rfl
  have hlt : r.magnitude < 10 ^ 28 := by exact_mod_cast Decimal.exists_isWhole_iff.mp ⟨true, hwhole⟩
  have hvalue := Decimal.toRat_of_isWhole hwhole
  obtain ⟨e, hfinish, -⟩ := mul_thousand_eq_finish c
  refine ⟨r, hr, ?_, ?_, hvalue, ?_⟩
  · rw [← hvalue]
    exact Decimal.fits_of_finish (hfinish ▸ hr)
  · rw [← hvalue]
    exact (le_abs_self _).trans_lt (Decimal.abs_toRat r ▸ hlt)
  · rw [millicores, hmul, hr]
    rfl

/-- Thousandths that are found to be whole are **not too many** to be counted. -/
theorem magnitude_lt_of_whole (h : isWholeMillicores c = .ok true) :
    c.magnitude * 1000 < 10 ^ 28 := by
  have := exists_isWholeMillicores_iff.mp ⟨true, h⟩
  linarith

/-- What a text is **read as**: the number that it writes, or its quotient by a thousand. -/
theorem exists_of_read (h : read s = .ok (some c)) :
    (written? s = some c.toRat ∧ c.negative = false) ∨
      ∃ n : Decimal, written? s = some (n.toRat / 1000) ∧ n.negative = false ∧
        n.div 1000 = .ok c := by
  rw [read] at h
  rw [written?]
  cases hs : split? (trim s.toList) with
  | none =>
    rw [hs] at h
    cases h
  | some p =>
    obtain ⟨n, milli⟩ := p
    have hn := negative_of_split? hs
    rw [hs] at h
    cases milli with
    | false =>
      obtain rfl : n = c := Option.some.inj (Except.ok.inj h)
      exact .inl ⟨rfl, hn⟩
    | true =>
      obtain ⟨c', hc, heq⟩ := map_eq_ok_iff.mp h
      obtain rfl := Option.some.inj heq
      exact .inr ⟨n, rfl, hn, mapError_eq_ok_iff.mp hc⟩

/-! ### Nearest whole numbers -/

/-- The thousandths that are **counted** for an exact number of cores: the nearest whole number, and
the exact one if and only if this fits into the precision; and then only is the exact one whole. -/
structure Counts (m : ℤ) (q : ℚ) : Prop where
  near : |(m : ℚ) - 1000 * q| ≤ 1 / 2
  exact_iff : (m : ℚ) = 1000 * q ↔ Decimal.Fits (1000 * q)
  whole_iff : (∃ k : ℤ, (k : ℚ) = 1000 * q) ↔ Decimal.Fits (1000 * q)

/-- A product with a thousand is off by half a thousandth. -/
theorem abs_mul_sub_le (hc : c.negative = false) (hr : c.mul 1000 = .ok r)
    (hlt : c.magnitude * 1000 < 10 ^ 28) :
    |r.toRat - c.toRat * 1000| ≤ 1 / 2 := by
  obtain ⟨e, hmul, hnegative, hmagnitude⟩ := mul_thousand_eq_finish c
  obtain ⟨hsign, hrounded, -⟩ := Decimal.of_finish (hmul ▸ hr)
  have herror := Decimal.abs_rounded_sub_le_of_lt (d := e) (k := 28)
    (by rw [hmagnitude]; exact_mod_cast hlt) (by decide)
  rw [Decimal.toRat_of_nonneg (hsign.trans (hnegative.trans hc)), Decimal.toRat_of_nonneg hc,
    hrounded, ← hmagnitude]
  exact herror.trans (by norm_num [Decimal.precision])

/-- A product with a thousand that fits is exact. -/
theorem toRat_mul_of_fits (hr : c.mul 1000 = .ok r) (h : Decimal.Fits (c.toRat * 1000)) :
    r.toRat = c.toRat * 1000 := by
  have h1000 : (1000 : Decimal).toRat = 1000 := Decimal.toRat_ofInt 1000
  rw [← h1000] at h ⊢
  obtain ⟨r', hr', hvalue⟩ := Decimal.exists_mul_eq_iff.mpr h
  obtain rfl := Except.ok.inj (hr.symm.trans hr')
  exact hvalue

/-- A **whole number** of 28 digits fits. -/
theorem fits_intCast {k : ℤ} (h0 : 0 ≤ k) (hlt : k < 10 ^ 28) : Decimal.Fits k := by
  rw [← Decimal.toRat_ofInt k]
  have hexponent : (Decimal.ofInt k).exponent = 0 := rfl
  have hcoefficient : (Decimal.ofInt k).coefficient = k.natAbs := rfl
  refine Decimal.fits_of_exponent_le ?_ (hexponent ▸ by decide) (hexponent ▸ by decide)
  rw [hcoefficient, tenTo_eq, Decimal.precision]
  omega

/-- A whole number that is **near**, and the exact one if this fits, is what is counted. -/
theorem counts_of_near {m : ℤ} (hq : 0 ≤ q) (hfits : Decimal.Fits m) (hlt : (m : ℚ) < 10 ^ 28)
    (hnear : |(m : ℚ) - 1000 * q| ≤ 1 / 2)
    (hexact : Decimal.Fits (1000 * q) → (m : ℚ) = 1000 * q) : Counts m q where
  near := hnear
  exact_iff := ⟨fun h => h ▸ hfits, hexact⟩
  whole_iff := by
    refine ⟨?_, fun h => ⟨m, hexact h⟩⟩
    rintro ⟨k, hk⟩
    rw [← hk]
    refine fits_intCast ?_ ?_
    · have : (0 : ℚ) ≤ k := by linarith
      exact_mod_cast this
    · have hle : (k : ℚ) < (m + 1 : ℤ) := by
        rw [← hk] at hnear
        have := (abs_le.mp hnear).1
        push_cast
        linarith
      have hm : m < 10 ^ 28 := by exact_mod_cast hlt
      have : k < m + 1 := by exact_mod_cast hle
      omega

/-! ### A number of cores -/

/-- The thousandths of a number of cores **as it is written** are rounded once. -/
theorem counts_of_mul (hc : c.negative = false) (h : isWholeMillicores c = .ok true) :
    ∃ m, millicores (.finite c) = .ok m ∧ Counts m c.toRat := by
  obtain ⟨r, hr, hfits, hlt, hvalue, hm⟩ := exists_mul_of_whole h
  have hq : 0 ≤ c.toRat := by
    rw [Decimal.toRat_of_nonneg hc]
    exact Decimal.magnitude_nonneg c
  refine ⟨r.truncate, hm, counts_of_near hq hfits hlt ?_ ?_⟩
  · rw [← hvalue, mul_comm]
    exact abs_mul_sub_le hc hr (magnitude_lt_of_whole h)
  · rw [← hvalue, mul_comm]
    exact toRat_mul_of_fits hr

/-! ### A number of thousandths -/

/-- A quotient by a thousand is off by half of a thousandth of a thousandth. -/
theorem abs_div_sub_le (hn : n.negative = false) (hdiv : n.div 1000 = .ok c)
    (hlt : c.magnitude * 1000 < 10 ^ 28) : |c.toRat - n.toRat / 1000| ≤ 1 / 2000 := by
  have h1000 : (1000 : Decimal).magnitude = 1000 := by
    rw [← Decimal.toRat_of_nonneg rfl]
    exact Decimal.toRat_ofInt 1000
  have hc : c.negative = false := by
    rw [(Decimal.of_div (by decide) hdiv).1, hn]
    rfl
  have hbelow : c.magnitude < 10 ^ (25 : ℤ) := by
    norm_num
    linarith
  have herror := Decimal.abs_div_sub_le (by decide) hdiv hbelow (by decide) (by decide)
  rw [h1000] at herror
  rw [Decimal.toRat_of_nonneg hc, Decimal.toRat_of_nonneg hn]
  exact herror.trans (by norm_num [Decimal.precision])

/-- A number that fits still does when it is **multiplied with a thousand**, if it is small. -/
theorem fits_mul_thousand (hc : c.rounded = c) (hlt : c.magnitude * 1000 < 10 ^ 28) :
    Decimal.Fits (c.toRat * 1000) := by
  have hvalue : (⟨c.negative, c.coefficient, c.exponent + 3⟩ : Decimal).toRat = c.toRat * 1000 := by
    rw [Decimal.toRat, Decimal.toRat, zpow_add₀ (by norm_num), ← mul_assoc]
    norm_num [Decimal.signed]
  refine ⟨_, hvalue, ?_, ?_, ?_⟩
  · exact hc ▸ Decimal.coefficient_rounded_lt c
  · have := Decimal.minQuantum_le_exponent_rounded c
    rw [hc] at this
    exact this.trans (by simp)
  · rw [← Decimal.abs_toRat, hvalue, abs_mul, Decimal.abs_toRat]
    refine lt_of_lt_of_le (by norm_num; linarith)
      (zpow_le_zpow_right₀ (by norm_num) (show (28 : ℤ) ≤ _ by decide))

/-- A value that fits still does when it is **divided by a thousand**, unless it is tiny. -/
theorem fits_div_thousand {x : ℚ} (h : Decimal.Fits x) (hx : 1 / 2 ≤ x) :
    Decimal.Fits (x / 1000) := by
  obtain ⟨d, rfl, hcoefficient, -, hlt⟩ := h
  have hle : d.toRat ≤ d.magnitude := Decimal.abs_toRat d ▸ le_abs_self _
  have hexponent : -29 < d.exponent := by
    have hbelow := Decimal.magnitude_lt_of_coefficient_lt hcoefficient
    have hpow : (10 : ℚ) ^ (-1 : ℤ) < 10 ^ ((Decimal.precision : ℤ) + d.exponent) := by
      refine lt_of_lt_of_le (by norm_num) (hx.trans (hle.trans hbelow.le))
    have := (zpow_lt_zpow_iff_right₀ (by norm_num : (1 : ℚ) < 10)).mp hpow
    rw [Decimal.precision] at this
    omega
  have hvalue : (⟨d.negative, d.coefficient, d.exponent - 3⟩ : Decimal).toRat = d.toRat / 1000 := by
    rw [Decimal.toRat, Decimal.toRat, zpow_sub₀ (by norm_num), ← mul_div_assoc]
    norm_num [Decimal.signed]
  refine ⟨_, hvalue, hcoefficient, ?_, ?_⟩
  · change Decimal.minQuantum ≤ d.exponent - 3
    rw [Decimal.minQuantum]
    omega
  · rw [← Decimal.abs_toRat, hvalue, abs_div, Decimal.abs_toRat]
    refine (div_le_self (Decimal.magnitude_nonneg d) (by norm_num)).trans_lt hlt

/-- Thousandths that fit, unless they are tiny, are divided by a thousand **without an error**. -/
theorem toRat_mul_thousand_of_fits (hdiv : n.div 1000 = .ok c) (hfits : Decimal.Fits n.toRat)
    (hn : 1 / 2 ≤ n.toRat) : c.toRat * 1000 = n.toRat := by
  have h1000 : (1000 : Decimal).toRat = 1000 := Decimal.toRat_ofInt 1000
  obtain ⟨c', hc', hexact⟩ := (Decimal.exists_div_eq_iff (a := n) (b := 1000) (by decide)).mpr
    (h1000.symm ▸ fits_div_thousand hfits hn)
  obtain rfl := Except.ok.inj (hdiv.symm.trans hc')
  rw [hexact, h1000, div_mul_cancel₀ _ (by norm_num)]

/-- Thousandths are divided by a thousand and multiplied with it again: the product is exact, and so
the thousandths are rounded once here, too. -/
theorem counts_of_div (hn : n.negative = false) (hdiv : n.div 1000 = .ok c)
    (hpos : c.isPositive = true) (h : isWholeMillicores c = .ok true) :
    ∃ m, millicores (.finite c) = .ok m ∧ Counts m (n.toRat / 1000) := by
  obtain ⟨r, hr, hfits, hlt, hvalue, hm⟩ := exists_mul_of_whole h
  have hbound := magnitude_lt_of_whole h
  have hq : 0 ≤ n.toRat := by
    rw [Decimal.toRat_of_nonneg hn]
    exact Decimal.magnitude_nonneg n
  have hproduct : r.toRat = c.toRat * 1000 :=
    toRat_mul_of_fits hr (fits_mul_thousand (Decimal.of_div (by decide) hdiv).2 hbound)
  have hnear : |r.toRat - n.toRat| ≤ 1 / 2 := by
    have hscaled := mul_le_mul_of_nonneg_right (abs_div_sub_le hn hdiv hbound)
      (show (0 : ℚ) ≤ 1000 by norm_num)
    rw [← abs_of_pos (show (0 : ℚ) < 1000 by norm_num), ← abs_mul, sub_mul,
      abs_of_pos (show (0 : ℚ) < 1000 by norm_num), ← hproduct,
      div_mul_cancel₀ _ (by norm_num : (1000 : ℚ) ≠ 0)] at hscaled
    linarith
  have hthousand : 1000 * (n.toRat / 1000) = n.toRat := mul_div_cancel₀ _ (by norm_num)
  refine ⟨r.truncate, hm, counts_of_near (by positivity) hfits hlt ?_ ?_⟩
  · rwa [← hvalue, hthousand]
  · rw [hthousand, ← hvalue]
    intro hfits
    -- a positive whole number of thousandths is one at least, so that they are not tiny
    have hone : (1 : ℚ) ≤ r.toRat := by
      have hr0 : 0 < r.toRat := by
        rw [hproduct]
        have := Decimal.isPositive_iff_toRat_pos.mp hpos
        positivity
      rw [hvalue] at hr0 ⊢
      have : 0 < r.truncate := by exact_mod_cast hr0
      exact_mod_cast this
    have hhalf : 1 / 2 ≤ n.toRat := by
      have := (abs_le.mp hnear).2
      linarith
    rw [hproduct, toRat_mul_thousand_of_fits hdiv hfits hhalf]

/-- **The thousandths of a text** that writes a positive number of cores, when they are found to be
whole, are those of the exact number of cores up to half of one, and the exact ones if they have no
more digits than the precision. -/
theorem exists_counts (hread : read s = .ok (some c)) (hpos : c.isPositive = true)
    (h : isWholeMillicores c = .ok true) :
    ∃ q m, written? s = some q ∧ millicores (.finite c) = .ok m ∧ Counts m q := by
  rcases exists_of_read hread with ⟨hq, hc⟩ | ⟨n, hq, hn, hdiv⟩
  · obtain ⟨m, hm, hcounts⟩ := counts_of_mul hc h
    exact ⟨_, m, hq, hm, hcounts⟩
  · obtain ⟨m, hm, hcounts⟩ := counts_of_div hn hdiv hpos h
    exact ⟨_, m, hq, hm, hcounts⟩

end Cores

end StackManifest
