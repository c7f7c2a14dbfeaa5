import StackManifest.Proofs.Number.Quotient
import StackManifest.Proofs.Quantity.Computable
import StackManifest.Proofs.Quantity.Texts

/-!
# Cores that are given as numbers

Cores may be given as a number instead of a text, and then they are read from what the number is
written as. For a whole number that is the number itself
(`StackManifest.Cores.exists_of_ofValue_int`). A binary number gives cores only if it is written
without a power of ten, and so there are **fewer than ten to the sixteenth** of them
(`StackManifest.Cores.toRat_lt_of_ofValue_float`).
-/

namespace StackManifest

open StackManifest.Number StackManifest.Text

/-- Digits write a number that has **no more digits**. -/
theorem digitsValue_lt {cs : List Char} (h : ∀ c ∈ cs, c.isDigit = true) :
    digitsValue cs < 10 ^ cs.length := by
  have hfold : ∀ (cs : List Char) (m : Nat), (∀ c ∈ cs, c.isDigit = true) →
      cs.foldl (fun n c => 10 * n + (digitValue? c).getD 0) m < (m + 1) * 10 ^ cs.length := by
    intro cs
    induction cs with
    | nil => simp
    | cons c cs ih =>
      intro m hcs
      obtain ⟨hc, hcs⟩ := List.forall_mem_cons.mp hcs
      have hle : (digitValue? c).getD 0 ≤ 9 := by
        have : c.toNat ≤ 57 := (Char.isDigit_iff_toNat.mp hc).2
        rw [digitValue?_of_isBasic hc, Option.getD_some, show '0'.toNat = 48 from rfl]
        omega
      have hstep : 10 * m + (digitValue? c).getD 0 + 1 ≤ (m + 1) * 10 := by omega
      refine (ih _ hcs).trans_le ?_
      rw [List.length_cons, pow_succ', ← mul_assoc]
      exact Nat.mul_le_mul_right _ hstep
  simpa [digitsValue] using hfold cs 0 h

namespace Cores

variable {s : String} {c : Decimal} {x : Binary64}

/-- Cores are **never below zero**. -/
theorem negative_of_read (h : read s = .ok (some c)) : c.negative = false := by
  rw [read] at h
  split at h
  · cases h
  · rename_i n hs
    obtain rfl : n = c := Option.some.inj (Except.ok.inj h)
    exact negative_of_split? hs
  · rename_i n hs
    obtain ⟨q, hq, h⟩ := map_eq_ok_iff.mp h
    obtain rfl : q = c := Option.some.inj h
    rw [(Decimal.of_div (by decide) (mapError_eq_ok_iff.mp hq)).1, negative_of_split? hs]
    rfl

/-! ### Whole numbers -/

/-- **A whole number** of cores is that many. -/
theorem exists_of_ofValue_int {k : Int} (h : ofValue (.int k) = .ok (some c)) :
    ∃ n : Nat, k = n ∧ c = ⟨false, n, 0⟩ := by
  have hread := ofValue_eq_read h
  rcases Int.lt_or_le k 0 with hneg | hpos
  · exact absurd (by simp [Value.plain, Value.shown, Value.intText, hneg])
      (not_mem_plain_of_ofValue h (c := '-') (isAlien_of_mem (by decide)))
  · obtain ⟨n, rfl⟩ := Int.eq_ofNat_of_zero_le hpos
    have hplain : (Value.int n).plain = String.ofList (decimalDigits n) := by
      simp [Value.plain, Value.shown, Value.intText]
    rw [hplain, read_text] at hread
    exact ⟨n, rfl, (Option.some.inj (Except.ok.inj hread)).symm⟩

/-! ### Binary numbers -/

section Point

variable {before after : List Char}

/-- There is nothing around digits and a point that would be **trimmed**. -/
theorem trim_point (hdigits : ∀ ch ∈ before ++ after, ch.isDigit = true) :
    trim (before ++ '.' :: after) = before ++ '.' :: after := by
  refine trimBy_eq_self fun ch hch => ?_
  rcases List.mem_append.mp hch with hch | hch
  · exact isBlank_of_isBasic (hdigits ch (List.mem_append_left _ hch))
  · rcases List.mem_cons.mp hch with rfl | hch
    · decide +kernel
    · exact isBlank_of_isBasic (hdigits ch (List.mem_append_right _ hch))

/-- Digits around a point write **the number of all digits**, shifted by those after the point,
unless there are none after it. -/
theorem split?_point (hdigits : ∀ ch ∈ before ++ after, ch.isDigit = true) :
    split? (before ++ '.' :: after) =
      if after.isEmpty then none
      else some (⟨false, digitsValue (before ++ after), -(after.length : Int)⟩, false) := by
  have hbefore : ∀ ch ∈ before, isDigit ch = true := fun ch hch =>
    isDigit_of_isBasic (hdigits ch (List.mem_append_left _ hch))
  have hafter : ∀ ch ∈ after, isDigit ch = true := fun ch hch =>
    isDigit_of_isBasic (hdigits ch (List.mem_append_right _ hch))
  have hpoint : isDigit '.' = false := by decide +kernel
  have htake : (before ++ '.' :: after).takeWhile isDigit = before := by
    rw [List.takeWhile_append_of_pos hbefore, List.takeWhile_cons, hpoint]
    simp
  have hdrop : (before ++ '.' :: after).dropWhile isDigit = '.' :: after := by
    rw [List.dropWhile_append_of_pos hbefore, List.dropWhile_cons, hpoint]
    simp
  have htakeAfter : after.takeWhile isDigit = after := List.takeWhile_eq_self_iff.mpr hafter
  have hdropAfter : after.dropWhile isDigit = [] := List.dropWhile_eq_nil_iff.mpr hafter
  simp only [split?, htake, hdrop, splitFraction, htakeAfter, hdropAfter]
  cases after with
  | nil => simp
  | cons ch after => simp

/-- The digits **before the point** bound a number of cores. -/
theorem toRat_lt_of_point (hdigits : ∀ ch ∈ before ++ after, ch.isDigit = true)
    (h : read (String.ofList (before ++ '.' :: after)) = .ok (some c)) :
    c.toRat < 10 ^ before.length := by
  rw [read, String.toList_ofList, trim_point hdigits, split?_point hdigits] at h
  split at h
  · cases h
  · rename_i n hs
    obtain rfl : n = c := Option.some.inj (Except.ok.inj h)
    split at hs
    · cases hs
    · obtain ⟨rfl, -⟩ := Prod.mk.inj (Option.some.inj hs)
      have hlt : (digitsValue (before ++ after) : ℚ) < 10 ^ before.length * 10 ^ after.length := by
        have := digitsValue_lt hdigits
        rw [List.length_append, pow_add] at this
        exact_mod_cast this
      rw [Decimal.toRat_mk, zpow_neg, zpow_natCast, ← div_eq_mul_inv, div_lt_iff₀ (by positivity)]
      exact hlt
  · -- digits and a point have no suffix for thousandths
    rename_i n hs
    split at hs <;> cases hs

end Point

theorem isDigit_of_mem_digitsAndPlace {m : Nat} {e : Int} {ch : Char}
    (h : ch ∈ (Binary64.digitsAndPlace m e).1) : ch.isDigit = true := by
  have hmem : ch ∈ decimalDigits (Binary64.shortest m e).1 := by
    have := (List.dropWhile_sublist _).mem (List.mem_reverse.mp h)
    exact List.mem_reverse.mp this
  exact Nat.isDigit_of_mem_toDigits (by decide) (by decide) hmem

/-- The **positional form** of a number has a point, and sixteen digits before it at most. -/
theorem exists_positional {ds : List Char} {place : Int} (hds : ∀ ch ∈ ds, ch.isDigit = true)
    (hplace : place ≤ 16) :
    ∃ before after, Binary64.positional ds place = before ++ '.' :: after ∧
      (∀ ch ∈ before ++ after, ch.isDigit = true) ∧ before.length ≤ 16 := by
  have hzeros : ∀ n, ∀ ch ∈ List.replicate n '0', ch.isDigit = true := fun n ch hch =>
    (List.eq_of_mem_replicate hch) ▸ rfl
  rw [Binary64.positional]
  split_ifs with h0 hsize
  · refine ⟨['0'], List.replicate (-place).toNat '0' ++ ds, rfl, fun ch hch => ?_, by simp⟩
    simp only [List.mem_append, List.mem_singleton] at hch
    rcases hch with rfl | hch | hch
    · rfl
    · exact hzeros _ ch hch
    · exact hds ch hch
  · refine ⟨ds ++ List.replicate (place - ds.length).toNat '0', ['0'], by simp, fun ch hch => ?_,
      by simp; omega⟩
    simp only [List.mem_append, List.mem_singleton] at hch
    rcases hch with (hch | hch) | rfl
    · exact hds ch hch
    · exact hzeros _ ch hch
    · rfl
  · refine ⟨ds.take place.toNat, ds.drop place.toNat, rfl, fun ch hch => ?_, by simp; omega⟩
    rw [List.take_append_drop] at hch
    exact hds ch hch

/-- **A binary number** gives fewer cores than there are numbers of sixteen digits. -/
theorem toRat_lt_of_ofValue_float (h : ofValue (.float x) = .ok (some c)) :
    c.toRat < 10 ^ 16 := by
  have hplain : (Value.float x).plain = x.text := by simp [Value.plain, Value.shown]
  have hread : read x.text = .ok (some c) := hplain ▸ ofValue_eq_read h
  have hnot : ∀ ch, IsAlien ch → ch ∉ x.text.toList := fun ch hch =>
    hplain ▸ not_mem_plain_of_ofValue h hch
  have hbound : ∀ before after : List Char, before.length ≤ 16 →
      (∀ ch ∈ before ++ after, ch.isDigit = true) →
      x.text = String.ofList (before ++ '.' :: after) → c.toRat < 10 ^ 16 := by
    intro before after hlen hdigits htext
    rw [htext] at hread
    exact (toRat_lt_of_point hdigits hread).trans_le (pow_le_pow_right₀ (by norm_num) hlen)
  cases x with
  | nan mark => exact absurd (by simp [Binary64.text]) (hnot 'n' (isAlien_of_mem (by decide)))
  | infinite s =>
    exact absurd (by cases s <;> simp [Binary64.text]) (hnot 'i' (isAlien_of_mem (by decide)))
  | finite s m e =>
    have hs : s = false := by
      by_contra hs
      refine hnot '-' (isAlien_of_mem (by decide)) ?_
      simp only [Binary64.text, Bool.eq_true_of_not_eq_false hs]
      split <;> simp
    subst hs
    by_cases hm : m = 0
    · exact hbound ['0'] ['0'] (by simp) (by simp) (by simp [Binary64.text, hm])
    · by_cases hplace : -4 < (Binary64.digitsAndPlace m e).2 ∧ (Binary64.digitsAndPlace m e).2 ≤ 16
      · obtain ⟨before, after, hpos, hdigits, hlen⟩ :=
          exists_positional (fun ch hch => isDigit_of_mem_digitsAndPlace (m := m) (e := e) hch)
            hplace.2
        refine hbound before after hlen hdigits ?_
        rw [Binary64.text]
        simp only [hm, hplace, if_false, if_true, and_self, hpos, Bool.false_eq_true,
          String.empty_append]
      · refine absurd ?_ (hnot 'e' (isAlien_of_mem (by decide)))
        simp [Binary64.text, hm, hplace, Binary64.withPower]

end Cores

/-! ### The characters of a number -/

/-- The characters beside the digits that a number is **written with**. -/
def numberMarks : List Char := ['-', '+', '.', 'e', 'n', 'a', 'i', 'f']

/-- A whole number is written with digits, and perhaps a sign. -/
theorem mem_intText {n : Int} {ch : Char} (h : ch ∈ (Value.intText n).toList) :
    ch.isDigit = true ∨ ch ∈ numberMarks := by
  rw [Value.intText, String.toList_ofList, List.mem_append] at h
  rcases h with h | h
  · split at h
    · rw [List.mem_singleton.mp h]
      exact .inr (by decide)
    · cases h
  · exact .inl (Nat.isDigit_of_mem_toDigits (by decide) (by decide) h)

theorem mem_withPower {ds : List Char} {place : Int} {ch : Char}
    (hds : ∀ ch ∈ ds, ch.isDigit = true) (h : ch ∈ Binary64.withPower ds place) :
    ch.isDigit = true ∨ ch ∈ numberMarks := by
  have hpoint : (if ds.length ≤ 1 then [] else ['.']) ⊆ numberMarks := by
    split <;> decide
  have hmark : ['e', if place - 1 < 0 then '-' else '+'] ⊆ numberMarks := by
    split <;> decide
  simp only [Binary64.withPower, List.mem_append] at h
  rcases h with ((((h | h) | h) | h) | h) | h
  · exact .inl (hds ch (List.mem_of_mem_take h))
  · exact .inr (hpoint h)
  · exact .inl (hds ch (List.mem_of_mem_drop h))
  · exact .inr (hmark h)
  · rw [List.eq_of_mem_replicate h]
    exact .inl rfl
  · exact .inl (Nat.isDigit_of_mem_toDigits (by decide) (by decide) h)

/-- A binary number is written with digits, a sign, a point, a power of ten, or in letters. -/
theorem mem_text {x : Binary64} {ch : Char} (h : ch ∈ x.text.toList) :
    ch.isDigit = true ∨ ch ∈ numberMarks := by
  cases x with
  | nan mark =>
    have hmarks : "nan".toList ⊆ numberMarks := by decide
    exact .inr (hmarks (by simpa [Binary64.text] using h))
  | infinite s =>
    have hmarks : "-inf".toList ⊆ numberMarks := by decide
    refine .inr (hmarks ?_)
    cases s <;> simp [Binary64.text] at h ⊢ <;> tauto
  | finite s m e =>
    have hsign : (if s then "-" else "").toList ⊆ numberMarks := by cases s <;> decide
    rw [Binary64.text] at h
    split at h
    · rw [String.toList_append, List.mem_append] at h
      rcases h with h | h
      · exact .inr (hsign h)
      · have hzero : "0.0".toList ⊆ '0' :: numberMarks := by decide
        rcases List.mem_cons.mp (hzero h) with rfl | hmark
        · exact .inl rfl
        · exact .inr hmark
    · rw [String.toList_append, List.mem_append, String.toList_ofList] at h
      rcases h with h | h
      · exact .inr (hsign h)
      · split at h
        · rename_i hplace
          obtain ⟨before, after, hpos, hdigits, -⟩ := Cores.exists_positional
            (fun ch hch => Cores.isDigit_of_mem_digitsAndPlace (m := m) (e := e) hch) hplace.2
          rw [hpos] at h
          rcases List.mem_append.mp h with h | h
          · exact .inl (hdigits ch (List.mem_append_left _ h))
          · rcases List.mem_cons.mp h with rfl | h
            · exact .inr (by decide)
            · exact .inl (hdigits ch (List.mem_append_right _ h))
        · exact mem_withPower (fun ch hch => Cores.isDigit_of_mem_digitsAndPlace hch) h

/-- A written number is **not empty**. -/
theorem intText_ne_empty (n : Int) : Value.intText n ≠ "" := by
  intro h
  have hchars := congrArg String.toList h
  rw [Value.intText, String.toList_ofList] at hchars
  exact Nat.toDigits_ne_nil (List.append_eq_nil_iff.mp hchars).2

theorem text_ne_empty (x : Binary64) : x.text ≠ "" := by
  intro h
  have hchars := congrArg String.toList h
  cases x with
  | nan mark => exact absurd (show "nan".toList = "".toList from hchars) (by decide)
  | infinite s => cases s <;> exact absurd hchars (by decide)
  | finite s m e =>
    rw [Binary64.text] at hchars
    split at hchars
    · rw [String.toList_append] at hchars
      exact absurd (List.append_eq_nil_iff.mp hchars).2 (by decide)
    · rw [String.toList_append, String.toList_ofList] at hchars
      have hnil := (List.append_eq_nil_iff.mp hchars).2
      split at hnil
      · rename_i hplace
        obtain ⟨before, after, hpos, -⟩ := Cores.exists_positional
          (fun ch hch => Cores.isDigit_of_mem_digitsAndPlace (m := m) (e := e) hch) hplace.2
        rw [hpos] at hnil
        simp at hnil
      · simp [Binary64.withPower] at hnil

/-- What numbers are written with writes **no size**, since there is no unit among it. -/
theorem Size.bytes_of_marks {s : String}
    (h : ∀ ch ∈ s.toList, ch.isDigit = true ∨ ch ∈ numberMarks) : Size.bytes s = .ok 0 := by
  -- the letters of units are gone through, with the sign of the kelvin among them
  have hunit : ("KMGTkmgt\u212a".toList.all fun c =>
      !c.isDigit && !numberMarks.contains c) = true := by decide
  cases hs : Size.split? s with
  | none => rw [Size.bytes, hs]
  | some p =>
    obtain ⟨digits, letters⟩ := p
    obtain ⟨c, hc, hletter⟩ : ∃ c ∈ letters, Size.isUnitLetter c = true := by
      rcases Size.letters_of_split? hs with ⟨c, rfl, hc⟩ | ⟨c, d, rfl, hc, -⟩ <;>
        exact ⟨c, List.mem_cons_self .., hc⟩
    simp only [Size.split?] at hs
    obtain ⟨-, heq⟩ := Option.ite_none_right_eq_some.mp hs
    obtain ⟨-, rfl⟩ := Prod.mk.inj (Option.some.inj heq)
    have hno := List.all_eq_true.mp hunit c (List.contains_iff_mem.mp hletter)
    rcases h c ((List.dropWhile_sublist _).mem hc) with hdigit | hmark
    · simp [hdigit] at hno
    · simp [hmark] at hno

end StackManifest
