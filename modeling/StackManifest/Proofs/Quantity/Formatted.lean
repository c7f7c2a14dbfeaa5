import StackManifest.Proofs.Console.Marks
import StackManifest.Proofs.Number.Error
import StackManifest.Proofs.Quantity.Grammar
import StackManifest.Quantity.Size

/-!
# Sizes that can be shown

A number of bytes is shown in whole units, and the number of units is found by a division that keeps
the digits of the precision only. It is refused when it has more digits than that, so that not every
number of bytes can be shown: `StackManifest.Size.exists_format_iff` gives the least one that cannot,
which lies half a unit below `10 ^ 28` of the largest unit.
-/

namespace StackManifest

open StackManifest.Number StackManifest.Console

namespace Number.Decimal

variable {d : Decimal}

/-- **A number that fits is rounded to a whole one** exactly when it lies below the power of ten that
has one digit more than the precision. -/
theorem exists_roundHalfUp_iff (h : d.coefficient < tenTo precision) :
    (∃ n, d.roundHalfUp = .ok n) ↔ d.magnitude < 10 ^ (precision : ℤ) := by
  have hdigits : ∀ n : ℕ, ¬ precision < digitCount n ↔ n < tenTo precision := by
    intro n
    rw [Nat.not_lt, digitCount_le_iff (by decide)]
  obtain ⟨m, hm⟩ : ∃ m, m = if 0 ≤ d.exponent then d.coefficient * tenTo d.exponent.toNat
    else (2 * d.coefficient + tenTo (-d.exponent).toNat) / (2 * tenTo (-d.exponent).toNat) :=
    ⟨_, rfl⟩
  have hround : (∃ n, d.roundHalfUp = .ok n) ↔ m < tenTo precision := by
    rw [← hdigits]
    simp only [roundHalfUp, ← hm]
    split
    · rename_i hlarge
      refine iff_of_false ?_ (not_not.mpr hlarge)
      rintro ⟨_, hn⟩
      cases hn
    · rename_i hsmall
      exact iff_of_true ⟨_, rfl⟩ hsmall
  rw [hround, hm]
  split
  · rename_i he
    have hvalue : d.magnitude = (d.coefficient * tenTo d.exponent.toNat : ℕ) := by
      rw [magnitude, Nat.cast_mul, cast_tenTo, ← zpow_natCast, Int.toNat_of_nonneg he]
    rw [hvalue, zpow_natCast, ← cast_tenTo, Nat.cast_lt]
  · rename_i he
    -- there is a fraction, and so there is room for rounding up
    have hunit : 10 ≤ tenTo (-d.exponent).toNat := by
      rw [tenTo_eq]
      exact Nat.le_self_pow (by omega) 10
    have hlow : d.magnitude < 10 ^ (precision : ℤ) := by
      have hpower : (10 : ℚ) ^ d.exponent ≤ 1 := zpow_le_one_of_nonpos₀ (by norm_num) (by omega)
      have hcoefficient : (d.coefficient : ℚ) < 10 ^ (precision : ℤ) := by
        rw [zpow_natCast, ← cast_tenTo]
        exact_mod_cast h
      exact (mul_le_of_le_one_right (Nat.cast_nonneg _) hpower).trans_lt hcoefficient
    refine iff_of_true ?_ hlow
    rw [Nat.div_lt_iff_lt_mul (by omega)]
    have hprecision : tenTo precision = 10 ^ 28 := rfl
    rw [hprecision] at h ⊢
    omega

end Number.Decimal

namespace Size

variable {n u : ℕ}

/-- The number of units in an amount is a **quotient, rounded** to a whole number. -/
theorem inUnits_eq_ok_iff {a : Amount} {d : Decimal} {k : ℤ} (ha : a.toDecimal = .ok d) :
    a.inUnits u = .ok k ↔ ∃ q, d.div ⟨false, u, 0⟩ = .ok q ∧ q.roundHalfUp = .ok k := by
  rw [Amount.inUnits, ha, ok_bind, bind_eq_ok_iff]
  simp only [mapError_eq_ok_iff]

/-- **The number of units in an amount** is found when it has no more digits than the precision,
after rounding. -/
theorem exists_inUnits_iff_magnitude {a : Amount} {d : Decimal} (ha : a.toDecimal = .ok d)
    (hu : 0 < u) : (∃ k, a.inUnits u = .ok k) ↔ d.magnitude / u < 10 ^ 28 - 1 / 2 := by
  have hunit : (⟨false, u, 0⟩ : Decimal).coefficient ≠ 0 := hu.ne'
  have hmagnitude : Decimal.magnitude ⟨false, u, 0⟩ = u := by simp [Decimal.magnitude]
  have hdiv := Decimal.exists_div_lt_iff (k := 28) (a := d) hunit (by decide) (by decide)
  have hbound : (10 : ℚ) ^ (28 : ℤ) - 10 ^ ((28 : ℤ) - Decimal.precision) / 2 =
      10 ^ 28 - 1 / 2 := by
    norm_num [Decimal.precision]
  rw [hmagnitude, hbound] at hdiv
  rw [← hdiv]
  have hfits : ∀ q, d.div ⟨false, u, 0⟩ = .ok q →
      ((∃ k, q.roundHalfUp = .ok k) ↔ q.magnitude < 10 ^ (28 : ℤ)) := by
    intro q hq
    refine Decimal.exists_roundHalfUp_iff ?_
    rw [← (Decimal.of_div hunit hq).2]
    exact Decimal.coefficient_rounded_lt q
  simp only [inUnits_eq_ok_iff ha]
  constructor
  · rintro ⟨k, q, hq, hk⟩
    exact ⟨q, hq, (hfits q hq).mp ⟨k, hk⟩⟩
  · rintro ⟨q, hq, hlt⟩
    obtain ⟨k, hk⟩ := (hfits q hq).mpr hlt
    exact ⟨k, q, hq, hk⟩

/-- The number of units in a **whole number** of bytes. -/
theorem exists_inUnits_iff (hu : 0 < u) :
    (∃ k, Amount.inUnits (.whole n) u = .ok k) ↔ (n : ℚ) / u < 10 ^ 28 - 1 / 2 := by
  have hn : (Decimal.ofInt n).magnitude = n := by simp [Decimal.ofInt, Decimal.magnitude]
  rw [exists_inUnits_iff_magnitude rfl hu, hn]

theorem format_eq_ok_iff {a : Amount} {s : String} :
    format a = .ok s ↔ match unitFor? a with
      | some (u, name) => ∃ k, a.inUnits u.bytes = .ok k ∧ toString k ++ name = s
      | none => ∃ k, a.truncate = .ok k ∧ toString k = s := by
  rw [format]
  cases unitFor? a with
  | some p => exact bind_eq_ok_iff.trans (by simp [pure, Except.pure])
  | none => exact bind_eq_ok_iff.trans (by simp [pure, Except.pure])

theorem reaches_whole_iff {k : ℕ} : Amount.reaches (.whole n) k = true ↔ k ≤ n := by
  simp [Amount.reaches]

/-- **The unit in which a number of bytes is shown**, if it is not shown in bytes. -/
theorem unitFor?_whole (n : ℕ) :
    unitFor? (.whole n) =
      if 2 ^ 30 ≤ n then some (.giga, "Gi") else if 2 ^ 20 ≤ n then some (.mega, "Mi")
      else if 2 ^ 10 ≤ n then some (.kilo, "Ki") else none := by
  simp only [unitFor?, reaches_whole_iff]
  rfl

end Size

end StackManifest
