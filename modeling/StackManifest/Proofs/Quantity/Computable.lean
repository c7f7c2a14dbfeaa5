import StackManifest.Proofs.Number.Quotient
import StackManifest.Proofs.Traversal
import StackManifest.Quantity.Cores
import StackManifest.Quantity.Size

/-!
# Which quantities can be computed

Not every text that has the form of a quantity is one that can be computed. This file says
**exactly which** are.

* `StackManifest.Size.IsComputable` – a size has 4300 digits at most, and its unit has neither of
  the two letters that pass for a letter of a unit without having its capital form: the sign of
  the kelvin and the capital I with a dot (`StackManifest.Size.isComputable_iff`);
* `StackManifest.Cores.IsComputable` – a number of cores is so small that its thousandths can be
  counted with 28 digits (`StackManifest.Cores.isComputable_iff`).

A text that does not have the form is no quantity, and this can be computed of it.
-/

namespace StackManifest

open StackManifest.Number StackManifest.Text

/-! ### Sizes -/

namespace Size

/-- A text that is no size, or a size whose **digits** can be read and whose **unit** is
known. -/
def IsComputable (s : String) : Prop :=
  ∀ digits letters, split? s = some (digits, letters) →
    digits.length ≤ digitLimit ∧ '\u212a' ∉ letters ∧ '\u0130' ∉ letters

/-- The letters of a written size are those of a unit, when case is ignored. -/
theorem letters_of_split? {s : String} {digits letters : List Char}
    (h : split? s = some (digits, letters)) :
    (∃ c, letters = [c] ∧ isUnitLetter c = true) ∨
      ∃ c d, letters = [c, d] ∧ isUnitLetter c = true ∧ isBinaryMark d = true := by
  simp only [split?] at h
  obtain ⟨hgood, heq⟩ := Option.ite_none_right_eq_some.mp h
  obtain ⟨rfl, rfl⟩ := Prod.mk.inj (Option.some.inj heq)
  obtain ⟨-, hgood⟩ := Bool.and_eq_true_iff.mp hgood
  split at hgood
  · rename_i c hc
    exact .inl ⟨c, hc, hgood⟩
  · rename_i c d hcd
    exact .inr ⟨c, d, hcd, Bool.and_eq_true_iff.mp hgood⟩
  · cases hgood

/-- **A unit is known** unless one of its letters has another capital form. -/
theorem isSome_ofName?_iff {s : String} {digits letters : List Char}
    (h : split? s = some (digits, letters)) :
    (SizeUnit.ofName? (upper (String.ofList letters))).isSome = true ↔
      '\u212a' ∉ letters ∧ '\u0130' ∉ letters := by
  -- the lists of letters are gone through, and not all characters
  have hone : ("KMGTkmgt\u212a".toList.all fun c =>
      decide ((SizeUnit.ofName? (upper (String.ofList [c]))).isSome = true ↔
        '\u212a' ∉ [c] ∧ '\u0130' ∉ [c])) = true := by decide +kernel
  have htwo : ("KMGTkmgt\u212a".toList.all fun c => "iI\u0130\u0131".toList.all fun d =>
      decide ((SizeUnit.ofName? (upper (String.ofList [c, d]))).isSome = true ↔
        '\u212a' ∉ [c, d] ∧ '\u0130' ∉ [c, d])) = true := by decide +kernel
  simp only [List.all_eq_true, decide_eq_true_eq] at hone htwo
  rcases letters_of_split? h with ⟨c, rfl, hc⟩ | ⟨c, d, rfl, hc, hd⟩
  · exact hone c (List.contains_iff_mem.mp hc)
  · exact htwo c (List.contains_iff_mem.mp hc) d (List.contains_iff_mem.mp hd)

/-- **The bytes of a text can be computed** exactly when its digits can be read and its unit is
known. -/
theorem isComputable_iff {s : String} : IsComputable s ↔ ∃ n, bytes s = .ok n := by
  rw [bytes, IsComputable]
  cases hs : split? s with
  | none => simp
  | some p =>
    obtain ⟨digits, letters⟩ := p
    have hname := isSome_ofName?_iff hs
    constructor
    · intro h
      obtain ⟨hlen, hletters⟩ := h digits letters rfl
      obtain ⟨u, hu⟩ := Option.isSome_iff_exists.mp (hname.mpr hletters)
      refine ⟨digitsValue digits * u.bytes, ?_⟩
      simp only [hu]
      rw [if_neg (by omega)]
    · rintro ⟨n, hn⟩ digits' letters' heq
      obtain ⟨rfl, rfl⟩ := Prod.mk.inj (Option.some.inj heq)
      simp only at hn
      split at hn
      · cases hn
      · rename_i hlen
        refine ⟨by omega, hname.mp ?_⟩
        cases hu : SizeUnit.ofName? (upper (String.ofList letters)) with
        | none =>
          rw [hu] at hn
          cases hn
        | some u => rfl

end Size

/-! ### Cores -/

namespace Cores

/-- A text that is no number of cores, or one of fewer **thousandths** than have 28 digits, by
half a thousandth. -/
def IsComputable (s : String) : Prop :=
  ∀ n milli, split? (trim s.toList) = some (n, milli) →
    n.toRat * (if milli then 1 else 1000) < 10 ^ 28 - 1 / 2

theorem negative_of_split? {cs : List Char} {n : Decimal} {milli : Bool}
    (h : split? cs = some (n, milli)) : n.negative = false := by
  simp only [split?] at h
  split at h
  · cases h
  · split at h
    · exact (Prod.mk.inj (Option.some.inj h)).1 ▸ rfl
    · split at h
      · exact (Prod.mk.inj (Option.some.inj h)).1 ▸ rfl
      · cases h

/-- The thousandths of a number of cores, **before they are rounded**. -/
theorem mul_thousand_eq_finish (c : Decimal) :
    ∃ e : Decimal, c.mul 1000 = e.finish ∧ e.negative = c.negative ∧
      e.magnitude = c.magnitude * 1000 := by
  refine ⟨⟨c.negative != false, c.coefficient * 1000, c.exponent + 0⟩, rfl, Bool.xor_false _, ?_⟩
  rw [Decimal.magnitude, Decimal.magnitude, add_zero]
  push_cast
  ring

/-- **Whether cores are whole thousandths can be asked** when the thousandths can be counted. -/
theorem exists_isWholeMillicores_iff {c : Decimal} :
    (∃ b, isWholeMillicores c = .ok b) ↔ c.magnitude * 1000 < 10 ^ 28 - 1 / 2 := by
  obtain ⟨e, hmul, -, hmagnitude⟩ := mul_thousand_eq_finish c
  have hfinish := Decimal.exists_finish_lt_iff (k := 28) (d := e) (by decide) (by decide)
  rw [hmagnitude, ← hmul] at hfinish
  have hbound : (10 : ℚ) ^ (28 : ℤ) - 10 ^ ((28 : ℤ) - Decimal.precision) / 2 =
      10 ^ 28 - 1 / 2 := by
    norm_num [Decimal.precision]
  rw [← hbound, ← hfinish]
  constructor
  · rintro ⟨b, hb⟩
    obtain ⟨m, hm, hb⟩ := bind_eq_ok_iff.mp hb
    exact ⟨m, mapError_eq_ok_iff.mp hm,
      Decimal.exists_isWhole_iff.mp ⟨b, mapError_eq_ok_iff.mp hb⟩⟩
  · rintro ⟨m, hm, hlt⟩
    obtain ⟨b, hb⟩ := Decimal.exists_isWhole_iff.mpr hlt
    exact ⟨b, bind_eq_ok_iff.mpr ⟨m, mapError_eq_ok_iff.mpr hm, mapError_eq_ok_iff.mpr hb⟩⟩

/-- **Thousandths of a core can be written as a whole number** for a number of cores, when they do
not exceed what any number can be; not for an infinity or for what is no number. -/
theorem exists_millicores_iff {x : ExtendedDecimal} :
    (∃ n, millicores x = .ok n) ↔
      ∃ c, x = .finite c ∧ c.magnitude * 1000 <
        10 ^ (Decimal.maxExponent + 1) - 10 ^ (Decimal.maxExponent + 1 - Decimal.precision) / 2 := by
  rw [millicores]
  cases x with
  | finite c =>
    obtain ⟨e, hmul, -, hmagnitude⟩ := mul_thousand_eq_finish c
    have hfinite : (ExtendedDecimal.finite c).mul 1000 = ExtendedDecimal.finite <$> c.mul 1000 := rfl
    rw [hfinite, hmul]
    constructor
    · rintro ⟨n, hn⟩
      obtain ⟨m, hm, -⟩ := bind_eq_ok_iff.mp hn
      obtain ⟨r, hr, -⟩ := map_eq_ok_iff.mp (mapError_eq_ok_iff.mp hm)
      exact ⟨c, rfl, hmagnitude ▸ Decimal.exists_finish_iff.mp ⟨r, hr⟩⟩
    · rintro ⟨c', hc, hlt⟩
      obtain rfl := ExtendedDecimal.finite.inj hc
      obtain ⟨r, hr⟩ := Decimal.exists_finish_iff.mpr (hmagnitude ▸ hlt)
      exact ⟨r.truncate, by rw [hr]; rfl⟩
  | infinite negative =>
    refine iff_of_false ?_ fun h => nomatch h
    rintro ⟨n, hn⟩
    cases hn
  | nan negative signals digits =>
    refine iff_of_false ?_ fun h => nomatch h
    rintro ⟨n, hn⟩
    cases signals with
    | false => cases hn
    | true => cases hn

/-- Thousandths are turned into cores and back **without an error**, as far as it matters here:
the quotient by 1000 has no more digits than the precision, so that its product with 1000 is
rounded once. -/
theorem exists_div_iff {n : Decimal} :
    (∃ c, n.div 1000 = .ok c ∧ c.magnitude * 1000 < 10 ^ 28 - 1 / 2) ↔
      n.magnitude < 10 ^ 28 - 1 / 2 := by
  have h1000 : (1000 : Decimal).magnitude = 1000 := by
    rw [Decimal.magnitude, show (1000 : Decimal).coefficient = 1000 from rfl,
      show (1000 : Decimal).exponent = 0 from rfl]
    norm_num
  have hdiv := Decimal.exists_div_lt_iff (k := 25) (a := n) (b := 1000) (by decide) (by decide)
    (by decide)
  have hbound : (10 : ℚ) ^ (25 : ℤ) - 10 ^ ((25 : ℤ) - Decimal.precision) / 2 =
      (10 ^ 28 - 1 / 2) / 1000 := by
    norm_num [Decimal.precision]
  rw [hbound, h1000, div_lt_div_iff_of_pos_right (by norm_num)] at hdiv
  rw [← hdiv]
  refine exists_congr fun c => and_congr_right fun hc => ?_
  -- a quotient that fits does not lie within half a unit below the power
  have hgap := Decimal.lt_sub_iff_of_rounded_eq (k := 25) (Decimal.of_div (by decide) hc).2
    (by decide)
  rwa [hbound, lt_div_iff₀ (by norm_num)] at hgap

/-- The check passes over **none at all**, whose thousandths can be counted anyway. -/
theorem isWholeMillicores_of_isPositive_iff {d : Decimal} (hd : d.negative = false) :
    (d.isPositive = true → ∃ b, isWholeMillicores d = .ok b) ↔
      d.magnitude * 1000 < 10 ^ 28 - 1 / 2 := by
  rw [exists_isWholeMillicores_iff, Decimal.isPositive, hd]
  by_cases h0 : d.coefficient = 0
  · have hzero : d.magnitude = 0 := by rw [Decimal.magnitude, h0, Nat.cast_zero, zero_mul]
    rw [hzero]
    exact iff_of_true (fun _ => by norm_num) (by norm_num)
  · simp [h0]

/-- **A number of cores can be checked** exactly when its thousandths can be counted. -/
theorem isComputable_iff {s : String} :
    IsComputable s ↔ ∃ c, read s = .ok c ∧
      ∀ d, c = some d → d.isPositive = true → ∃ b, isWholeMillicores d = .ok b := by
  rw [IsComputable, read]
  cases hs : split? (trim s.toList) with
  | none => simp
  | some p =>
    obtain ⟨n, milli⟩ := p
    have hn := negative_of_split? hs
    have hform : (∀ n' milli', some (n, milli) = some (n', milli') →
        n'.toRat * (if milli' then 1 else 1000) < 10 ^ 28 - 1 / 2) ↔
          n.magnitude * (if milli then 1 else 1000) < 10 ^ 28 - 1 / 2 := by
      rw [← Decimal.toRat_of_nonneg hn]
      constructor
      · exact fun h => h n milli rfl
      · rintro h n' milli' heq
        obtain ⟨rfl, rfl⟩ := Prod.mk.inj (Option.some.inj heq)
        exact h
    rw [hform]
    cases milli with
    | false =>
      rw [if_neg (by decide), ← isWholeMillicores_of_isPositive_iff hn]
      constructor
      · intro h
        refine ⟨some n, rfl, fun d hd => ?_⟩
        obtain rfl := Option.some.inj hd
        exact h
      · rintro ⟨c, hc, h⟩
        exact h n (Except.ok.inj hc).symm
    | true =>
      rw [if_pos rfl, mul_one, ← exists_div_iff]
      constructor
      · rintro ⟨c, hc, hlt⟩
        refine ⟨some c, by simp only [hc]; rfl, fun d hd => ?_⟩
        obtain rfl := Option.some.inj hd
        exact fun _ => exists_isWholeMillicores_iff.mpr hlt
      · rintro ⟨c, hc, h⟩
        cases hdiv : n.div 1000 with
        | error e =>
          simp only [hdiv] at hc
          cases hc
        | ok q =>
          simp only [hdiv] at hc
          have hq : q.negative = false := by
            rw [(Decimal.of_div (by decide) hdiv).1, hn]
            rfl
          exact ⟨q, rfl, (isWholeMillicores_of_isPositive_iff hq).mp (h q (Except.ok.inj hc).symm)⟩

end Cores

end StackManifest
