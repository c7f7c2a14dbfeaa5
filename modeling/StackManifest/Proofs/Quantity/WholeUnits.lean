import Mathlib.Algebra.Order.Floor.Semifield
import Mathlib.Data.Rat.Floor
import StackManifest.Proofs.Number.Nearest
import StackManifest.Proofs.Quantity.Formatted
import StackManifest.Proofs.Quantity.Texts

/-!
# Sizes in whole units

A number of bytes is shown in whole units of the largest unit that it reaches, a half rounded up.
The quotient is rounded twice on the way: to the digits of the precision when it is divided, and to
a whole number after that. Below `2 ^ 80` bytes the two roundings give what one gives
(`StackManifest.Size.inUnits_eq`): the first one moves the quotient by less than its distance to a
half, unless it is at a half already, and a half is not moved.

So what is shown is the number of units that is nearest, `StackManifest.SizeUnit.nearest`. It is a
written size, and read again it is this number of units
(`StackManifest.Size.format_rounds_half_up`). Where the unit changes, the smaller unit is rounded
to one of the larger at most, so that **no size is shown as more than a larger one**
(`StackManifest.Size.nearest_mul_le`).
-/

namespace StackManifest

open StackManifest.Number StackManifest.Text

/-! ### The nearest number of units -/

namespace SizeUnit

variable {u v : SizeUnit} {m n c : ℕ}

/-- The number of units that is **nearest** to a number of bytes, a half rounded up. -/
def nearest (u : SizeUnit) (n : ℕ) : ℕ := ⌊(n : ℚ) / u.bytes + 1 / 2⌋₊

theorem nearest_eq_div : u.nearest n = (2 * n + u.bytes) / (2 * u.bytes) := by
  have hu : (u.bytes : ℚ) ≠ 0 := by exact_mod_cast u.bytes_pos.ne'
  have hquotient : (n : ℚ) / u.bytes + 1 / 2 =
      (2 * n + u.bytes : ℕ) / (2 * u.bytes : ℕ) := by
    push_cast
    field_simp
  rw [nearest, hquotient, Nat.floor_div_eq_div]

theorem nearest_mono (h : m ≤ n) : u.nearest m ≤ u.nearest n := by
  rw [nearest_eq_div, nearest_eq_div]
  exact Nat.div_le_div_right (by omega)

/-- **Whole units are not rounded.** -/
theorem nearest_mul (c : ℕ) : u.nearest (c * u.bytes) = c := by
  have hu := u.bytes_pos
  have hhalf : 2 * (c * u.bytes) + u.bytes = u.bytes + c * (2 * u.bytes) := by ring
  rw [nearest_eq_div, hhalf, Nat.add_mul_div_right _ _ (by omega), Nat.div_eq_of_lt (by omega),
    zero_add]

theorem nearest_le_of_le_mul (h : m ≤ c * u.bytes) : u.nearest m ≤ c :=
  (nearest_mono h).trans_eq (nearest_mul c)

theorem le_nearest_of_mul_le (h : c * u.bytes ≤ m) : c ≤ u.nearest m :=
  (nearest_mul c).symm.trans_le (nearest_mono h)

/-- A unit that is not smaller is a **multiple**. -/
theorem bytes_dvd_bytes (h : u.bytes ≤ v.bytes) : u.bytes ∣ v.bytes :=
  pow_dvd_pow 1024 ((Nat.pow_le_pow_iff_right (by decide)).mp h)

end SizeUnit

namespace Size

variable {m n : ℕ} {u v : SizeUnit} {letters : List Char}

/-! ### Rounding once -/

/-- A quotient of whole numbers that is moved by less than half of a whole number of its fractions,
and **not moved from a half**, is rounded to the same whole number. -/
theorem halfUp_eq {q : ℚ} {k w : ℕ} (hw : 0 < w) (herror : 2 * w * |q - n / w| < 1)
    (htie : (n : ℚ) / w = k + 1 / 2 → q = n / w) (hle : (k : ℚ) ≤ q + 1 / 2)
    (hlt : q < k + 1 / 2) : k = (2 * n + w) / (2 * w) := by
  have hwQ : (0 : ℚ) < w := by exact_mod_cast hw
  obtain ⟨e, he⟩ : ∃ e, e = q - n / w := ⟨_, rfl⟩
  have hquotient : q = n / w + e := by rw [he]; ring
  rw [← he] at herror
  have hlow : -1 < 2 * w * e := by nlinarith [neg_abs_le e]
  have hup : 2 * w * e < 1 := by nlinarith [le_abs_self e]
  have hcancel : 2 * w * ((n : ℚ) / w) = 2 * n := by field_simp
  -- both bounds in whole numbers, since the error is less than one of them
  have hle' : 2 * w * k ≤ 2 * n + w := by
    have hmul : 2 * (w : ℚ) * k ≤ 2 * w * (n / w + e + 1 / 2) :=
      mul_le_mul_of_nonneg_left (hquotient ▸ hle) (by positivity)
    have : (2 * w * k : ℚ) < 2 * n + w + 1 := by linarith
    exact Nat.lt_succ_iff.mp (by exact_mod_cast this)
  have hlt' : 2 * n ≤ 2 * w * k + w := by
    have hmul : 2 * (w : ℚ) * (n / w + e) < 2 * w * (k + 1 / 2) :=
      mul_lt_mul_of_pos_left (hquotient ▸ hlt) (by positivity)
    have : (2 * n : ℚ) < 2 * w * k + w + 1 := by linarith
    exact Nat.lt_succ_iff.mp (by exact_mod_cast this)
  -- at a half there is no error, and then the half would have been rounded up
  have hne : 2 * n ≠ 2 * w * k + w := by
    intro heq
    have hhalf : (n : ℚ) / w = k + 1 / 2 := by
      rw [div_eq_iff hwQ.ne']
      have : (2 * n : ℚ) = 2 * w * k + w := by exact_mod_cast heq
      linarith
    rw [htie hhalf, hhalf] at hlt
    exact lt_irrefl _ hlt
  refine (Nat.div_eq_of_lt_le ?_ ?_).symm
  · rw [mul_comm]
    omega
  · have : (k + 1) * (2 * w) = 2 * w * k + 2 * w := by ring
    omega

/-- A whole number and a half **fits** if the whole number has some digits less than the
precision. -/
theorem fits_add_half {k : ℕ} (hk : k < 10 ^ 26) : Decimal.Fits (k + 1 / 2) := by
  have hvalue : Decimal.toRat ⟨false, 10 * k + 5, -1⟩ = k + 1 / 2 := by
    rw [Decimal.toRat_mk]
    push_cast
    norm_num
    ring
  rw [← hvalue]
  have hleast : Decimal.minQuantum ≤ -1 := by decide
  have hgreatest : Decimal.precision + (-1 : ℤ) ≤ Decimal.maxExponent + 1 := by decide
  refine Decimal.fits_of_exponent_le ?_ hleast hgreatest
  have hprecision : tenTo Decimal.precision = 10 ^ 28 := rfl
  rw [hprecision]
  change 10 * k + 5 < 10 ^ 28
  omega

/-- **The quotient** of a number of bytes by a unit is rounded to the digits of the precision. That
moves it by half of the twelfth digit after the point at most, and not at all from a half. -/
theorem exists_quotient (hn : n < 2 ^ 50 * u.bytes) :
    ∃ q, (Decimal.ofInt n).div ⟨false, u.bytes, 0⟩ = .ok q ∧ q.negative = false ∧
      |q.magnitude - n / u.bytes| ≤ 1 / (2 * 10 ^ 12) ∧
      ∀ c : ℕ, (n : ℚ) / u.bytes = c + 1 / 2 → q.magnitude = n / u.bytes := by
  have huQ : (0 : ℚ) < u.bytes := by exact_mod_cast u.bytes_pos
  have hmagnitude : (Decimal.ofInt n).magnitude = n := by simp [Decimal.ofInt, Decimal.magnitude]
  have hunit : Decimal.magnitude ⟨false, u.bytes, 0⟩ = u.bytes := by simp [Decimal.magnitude]
  have hne : (⟨false, u.bytes, 0⟩ : Decimal).coefficient ≠ 0 := u.bytes_pos.ne'
  have hsmall : (n : ℚ) / u.bytes < 2 ^ 50 := by
    rw [div_lt_iff₀ huQ]
    exact_mod_cast hn
  obtain ⟨q, hq, hq16⟩ := (Decimal.exists_div_lt_iff (k := 16) (a := Decimal.ofInt n) hne
    (by decide) (by decide)).mpr (by
      rw [hmagnitude, hunit]
      refine hsmall.trans ?_
      norm_num [Decimal.precision])
  have hnegative : q.negative = false := by
    rw [(Decimal.of_div hne hq).1, Decimal.ofInt]
    simp
  have hepsilon : (10 : ℚ) ^ ((16 : ℤ) - Decimal.precision) / 2 = 1 / (2 * 10 ^ 12) := by
    norm_num [Decimal.precision]
  have herror := Decimal.abs_div_sub_le hne hq hq16 (by decide) (by decide)
  rw [hmagnitude, hunit, hepsilon] at herror
  refine ⟨q, hq, hnegative, herror, fun c htie => ?_⟩
  -- a half fits, so a quotient that is one is not rounded at all
  have hc26 : c < 10 ^ 26 := by
    have : (c : ℚ) < 2 ^ 50 := by linarith
    have : c < 2 ^ 50 := by exact_mod_cast this
    omega
  have hvalue : (Decimal.ofInt n).toRat / Decimal.toRat ⟨false, u.bytes, 0⟩ = c + 1 / 2 := by
    rw [Decimal.toRat_ofInt, Decimal.toRat_of_nonneg rfl, hunit, Int.cast_natCast, htie]
  obtain ⟨r, hr, hexact⟩ := (Decimal.exists_div_eq_iff hne).mpr (hvalue ▸ fits_add_half hc26)
  obtain rfl := Except.ok.inj (hq.symm.trans hr)
  rw [← Decimal.toRat_of_nonneg hnegative, hexact, hvalue, htie]

/-- **The number of units in a number of bytes** is the nearest one, although the quotient is
rounded before. -/
theorem inUnits_eq (hu : u.bytes ≤ 2 ^ 30) (hn : n < 2 ^ 50 * u.bytes) :
    Amount.inUnits (.whole n) u.bytes = .ok (u.nearest n : ℤ) := by
  have huQ : (0 : ℚ) < u.bytes := by exact_mod_cast u.bytes_pos
  have hsmall : (n : ℚ) / u.bytes < 10 ^ 28 - 1 / 2 := by
    refine lt_trans ((div_lt_iff₀ huQ).mpr ?_) (by norm_num : (2 : ℚ) ^ 50 < 10 ^ 28 - 1 / 2)
    exact_mod_cast hn
  obtain ⟨q, hq, hnegative, herror, htie⟩ := exists_quotient hn
  obtain ⟨k, hk⟩ := (exists_inUnits_iff u.bytes_pos).mpr hsmall
  obtain ⟨q', hq', hround⟩ := (inUnits_eq_ok_iff rfl).mp hk
  obtain rfl := Except.ok.inj (hq.symm.trans hq')
  obtain ⟨c, rfl, -, hle, hlt⟩ := Decimal.of_roundHalfUp hround hnegative
  have hc : c = u.nearest n := by
    rw [SizeUnit.nearest_eq_div]
    refine halfUp_eq u.bytes_pos ?_ (htie c) hle hlt
    have hw : (u.bytes : ℚ) ≤ 2 ^ 30 := by exact_mod_cast hu
    calc 2 * (u.bytes : ℚ) * |q.magnitude - n / u.bytes|
        ≤ 2 * 2 ^ 30 * (1 / (2 * 10 ^ 12)) := by gcongr
      _ < 1 := by norm_num
  rw [hk, hc]

/-! ### What is shown -/

/-- The unit in which a number of bytes is **shown**, with its letters: the largest of those with
letters that the number reaches. -/
structure IsShownIn (n : ℕ) (letters : List Char) (u : SizeUnit) : Prop where
  mem : (letters, u) ∈ unitLetters
  le : u.bytes ≤ n
  largest : ∀ e ∈ unitLetters, e.2.bytes ≤ n → e.2.bytes ≤ u.bytes

theorem exists_isShownIn (hn : 1024 ≤ n) :
    ∃ letters u, IsShownIn n letters u ∧ unitFor? (.whole n) = some (u, String.ofList letters) := by
  have hgiga : SizeUnit.giga.bytes = 2 ^ 30 := by decide
  have hmega : SizeUnit.mega.bytes = 2 ^ 20 := by decide
  have hkilo : SizeUnit.kilo.bytes = 2 ^ 10 := by decide
  have hlargest : ∀ w, (2 ^ 30 ≤ n → 2 ^ 30 ≤ w) → (2 ^ 20 ≤ n → 2 ^ 20 ≤ w) →
      (2 ^ 10 ≤ n → 2 ^ 10 ≤ w) → ∀ e ∈ unitLetters, e.2.bytes ≤ n → e.2.bytes ≤ w := by
    intro w hg hm hk e he
    simp only [unitLetters, List.mem_cons, List.not_mem_nil, or_false] at he
    rcases he with rfl | rfl | rfl
    · exact hgiga ▸ hg
    · exact hmega ▸ hm
    · exact hkilo ▸ hk
  have hunit := unitFor?_whole n
  split_ifs at hunit with hg hm
  · refine ⟨['G', 'i'], .giga, ⟨by simp [unitLetters], hgiga ▸ hg, ?_⟩, hunit⟩
    rw [hgiga]
    exact hlargest _ (by omega) (by omega) (by omega)
  · refine ⟨['M', 'i'], .mega, ⟨by simp [unitLetters], hmega ▸ hm, ?_⟩, hunit⟩
    rw [hmega]
    exact hlargest _ (by omega) (by omega) (by omega)
  · refine ⟨['K', 'i'], .kilo, ⟨by simp [unitLetters], hkilo ▸ hn, ?_⟩, hunit⟩
    rw [hkilo]
    exact hlargest _ (by omega) (by omega) (by omega)
  · omega

/-- The units with letters go up to `2 ^ 30`, and below `2 ^ 80` there are less than `2 ^ 50` of the
one in which a number is shown. -/
theorem IsShownIn.bounds (h : IsShownIn n letters u) (hn : n < 2 ^ 80) :
    u.bytes ≤ 2 ^ 30 ∧ n < 2 ^ 50 * u.bytes := by
  have hgiga := h.largest (['G', 'i'], .giga) (by simp [unitLetters])
  have hmega := h.largest (['M', 'i'], .mega) (by simp [unitLetters])
  have hmem := h.mem
  simp only [unitLetters, List.mem_cons, Prod.mk.injEq, List.not_mem_nil, or_false] at hmem
  rcases hmem with ⟨-, rfl⟩ | ⟨-, rfl⟩ | ⟨-, rfl⟩ <;>
    simp only [SizeUnit.bytes, SizeUnit.power, Nat.pow_eq] at hgiga hmega ⊢ <;> omega

/-- **A number of bytes in its unit**, as it is shown and as it is read again. -/
theorem IsShownIn.format_eq (h : IsShownIn n letters u) (hn : n < 2 ^ 80)
    (hunit : unitFor? (.whole n) = some (u, String.ofList letters)) :
    format (.whole n) = .ok (toString (u.nearest n) ++ String.ofList letters) ∧
      isLiteral (toString (u.nearest n) ++ String.ofList letters) = true ∧
      bytes (toString (u.nearest n) ++ String.ofList letters) = .ok (u.nearest n * u.bytes) := by
  obtain ⟨hu, hlt⟩ := h.bounds hn
  have htext : toString (u.nearest n) = String.ofList (decimalDigits (u.nearest n)) := by
    rw [decimalDigits, ← Nat.repr_eq_ofList_toDigits]
    rfl
  have hdigits : (decimalDigits (u.nearest n)).length ≤ digitLimit := by
    refine (Nat.length_toDigits_le_iff (by decide) (by decide)).mpr ?_
    have hnearest : u.nearest n ≤ 2 ^ 50 := SizeUnit.nearest_le_of_le_mul hlt.le
    refine lt_of_le_of_lt hnearest (lt_of_lt_of_le (by norm_num : 2 ^ 50 < 10 ^ 16) ?_)
    exact Nat.pow_le_pow_right (by norm_num) (by decide)
  refine ⟨?_, ?_, ?_⟩
  · rw [format, hunit]
    simp only [inUnits_eq hu hlt]
    rfl
  · rw [htext, isLiteral_iff]
    exact ⟨_, _, _, isWritten_text h.mem⟩
  · rw [htext]
    exact bytes_text hdigits h.mem

/-- **No number of bytes is shown as more than a larger one**, in whatever units. -/
theorem nearest_mul_le {letters' : List Char} (hm : IsShownIn m letters u)
    (hn : IsShownIn n letters' v) (h : m ≤ n) :
    u.nearest m * u.bytes ≤ v.nearest n * v.bytes := by
  have huv : u.bytes ≤ v.bytes := hn.largest _ hm.mem (hm.le.trans h)
  by_cases hv : v.bytes ≤ m
  · have hbytes : u.bytes = v.bytes := le_antisymm huv (hm.largest _ hn.mem hv)
    have hnearest : v.nearest n = u.nearest n := by
      rw [SizeUnit.nearest_eq_div, SizeUnit.nearest_eq_div, hbytes]
    rw [hnearest, ← hbytes]
    exact Nat.mul_le_mul_right _ (SizeUnit.nearest_mono h)
  · -- what is less than a larger unit is rounded to one of it at most
    obtain ⟨c, hc⟩ := SizeUnit.bytes_dvd_bytes huv
    have hle : u.nearest m ≤ c := by
      refine SizeUnit.nearest_le_of_le_mul ?_
      rw [mul_comm, ← hc]
      omega
    have hone : 1 ≤ v.nearest n := SizeUnit.le_nearest_of_mul_le (by rw [one_mul]; exact hn.le)
    calc u.nearest m * u.bytes ≤ c * u.bytes := Nat.mul_le_mul_right _ hle
      _ = v.bytes := by rw [mul_comm, hc]
      _ ≤ v.nearest n * v.bytes := Nat.le_mul_of_pos_left _ hone

/-- **A size is shown rounded half up, and read again.** Less than 1024 bytes are shown as their
number. More are shown in whole units of the largest unit with letters that they reach, and the
number of units is the nearest one, a half rounded up; the text is a written size, which counts just
these units, and so just the bytes that were shown if they were whole units. What is shown never
counts more than what is shown of a larger number. -/
theorem format_rounds_half_up (hn : n < 2 ^ 80) :
    (n < 1024 → format (.whole n) = .ok (toString n)) ∧
      (1024 ≤ n → ∃ letters u s, IsShownIn n letters u ∧
        s = toString ⌊(n : ℚ) / u.bytes + 1 / 2⌋₊ ++ String.ofList letters ∧
        format (.whole n) = .ok s ∧ isLiteral s = true ∧
        bytes s = .ok (⌊(n : ℚ) / u.bytes + 1 / 2⌋₊ * u.bytes) ∧
        (u.bytes ∣ n → bytes s = .ok n)) ∧
      ∀ m, 1024 ≤ m → m ≤ n → ∃ s t j k, format (.whole m) = .ok s ∧ format (.whole n) = .ok t ∧
        bytes s = .ok j ∧ bytes t = .ok k ∧ j ≤ k := by
  refine ⟨fun hsmall => ?_, fun hlarge => ?_, fun m hm hmn => ?_⟩
  · have hunit := unitFor?_whole n
    rw [if_neg (by omega), if_neg (by omega), if_neg (by omega)] at hunit
    rw [format, hunit]
    rfl
  · obtain ⟨letters, u, hshown, hunit⟩ := exists_isShownIn hlarge
    obtain ⟨hformat, hliteral, hbytes⟩ := hshown.format_eq hn hunit
    refine ⟨letters, u, _, hshown, rfl, hformat, hliteral, hbytes, ?_⟩
    rintro ⟨c, rfl⟩
    have hexact : u.nearest (u.bytes * c) * u.bytes = u.bytes * c := by
      rw [mul_comm u.bytes c, SizeUnit.nearest_mul]
    exact hbytes.trans (by rw [hexact])
  · obtain ⟨letters, u, hshown, hunit⟩ := exists_isShownIn hm
    obtain ⟨letters', v, hshown', hunit'⟩ := exists_isShownIn (hm.trans hmn)
    obtain ⟨hformat, -, hbytes⟩ := hshown.format_eq (by omega) hunit
    obtain ⟨hformat', -, hbytes'⟩ := hshown'.format_eq hn hunit'
    exact ⟨_, _, _, _, hformat, hformat', hbytes, hbytes', nearest_mul_le hshown hshown' hmn⟩

/-- One byte less than a gibibyte is shown in mebibytes, as 1024 of them. -/
theorem format_below_gibibyte :
    2 ^ 30 - 1 < 2 ^ 80 ∧ format (.whole (2 ^ 30 - 1 : ℕ)) = .ok "1024Mi" ∧
      isLiteral "1024Mi" = true ∧ bytes "1024Mi" = .ok (2 ^ 30) := by
  have hsize : 2 ^ 30 - 1 < 2 ^ 80 := by decide
  obtain ⟨letters, u, s, hshown, hs, hformat, hliteral, hbytes, -⟩ :=
    (format_rounds_half_up hsize).2.1 (by decide)
  have hle := hshown.le
  have hlargest := hshown.largest (['M', 'i'], .mega) (by simp [unitLetters]) (by decide)
  have hmem := hshown.mem
  simp only [unitLetters, List.mem_cons, Prod.mk.injEq, List.not_mem_nil, or_false] at hmem
  rcases hmem with ⟨rfl, rfl⟩ | ⟨rfl, rfl⟩ | ⟨rfl, rfl⟩
  · exact absurd hle (by decide)
  · have hcount : ⌊((2 ^ 30 - 1 : ℕ) : ℚ) / SizeUnit.mega.bytes + 1 / 2⌋₊ = 1024 :=
      SizeUnit.nearest_eq_div.trans (by decide)
    have hshownAs : s = "1024Mi" := by
      rw [hs, hcount]
      rfl
    rw [hcount] at hbytes
    subst hshownAs
    exact ⟨hsize, hformat, hliteral, hbytes⟩
  · exact absurd hlargest (by decide)

end Size

end StackManifest
