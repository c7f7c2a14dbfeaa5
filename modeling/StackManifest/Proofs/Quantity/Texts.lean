import Mathlib.Data.List.TakeWhile
import StackManifest.Proofs.Leaves
import StackManifest.Proofs.Quantity.Grammar
import StackManifest.Quantity.Cores
import StackManifest.Quantity.Size

/-!
# Quantities as texts

A quantity that is **written** is read back: a number of cores without a fraction
(`StackManifest.Cores.read_text`), and a number of units of a size
(`StackManifest.Size.bytes_text`).

A text with a character that no number of cores has is none
(`StackManifest.Cores.read_eq_none_of_mem`). This is how values that are shown between brackets,
in quotes or as dates are told from amounts.
-/

namespace StackManifest

open StackManifest.Number StackManifest.Text

namespace Text

/-! ### Digits -/

theorem digitValue?_of_isBasic {c : Char} (h : c.isDigit = true) :
    digitValue? c = some (c.toNat - '0'.toNat) := by
  have hle : c.toNat ≤ 57 := (Char.isDigit_iff_toNat.mp h).2
  rw [digitValue?, if_pos (by omega), if_pos h]
  rfl

theorem isDigit_of_isBasic {c : Char} (h : c.isDigit = true) : isDigit c = true := by
  rw [isDigit, digitValue?_of_isBasic h]
  rfl

theorem isDigit_of_mem_decimalDigits {n : Nat} {c : Char} (h : c ∈ decimalDigits n) :
    isDigit c = true :=
  isDigit_of_isBasic (Nat.isDigit_of_mem_toDigits (by decide) (by decide) h)

/-- **The digits of a number write the number.** -/
theorem digitsValue_decimalDigits (n : Nat) : digitsValue (decimalDigits n) = n := by
  have hdigits : ∀ (cs : List Char) (m : Nat), (∀ c ∈ cs, c.isDigit = true) →
      cs.foldl (fun n c => 10 * n + (digitValue? c).getD 0) m = Nat.ofDigitChars 10 cs m := by
    intro cs
    induction cs with
    | nil => exact fun m _ => Nat.ofDigitChars_nil.symm
    | cons c cs ih =>
      intro m h
      obtain ⟨hc, hcs⟩ := List.forall_mem_cons.mp h
      rw [List.foldl_cons, digitValue?_of_isBasic hc, ih _ hcs, Nat.ofDigitChars_cons]
      rfl
  rw [digitsValue, decimalDigits, hdigits _ _ fun c hc =>
    Nat.isDigit_of_mem_toDigits (by decide) (by decide) hc]
  exact Nat.ofDigitChars_ten_toDigits

/-! ### Blanks -/

/-- What is no blank is not cut off. -/
theorem mem_trimBy {p : Char → Bool} {cs : List Char} {c : Char} (hc : c ∈ cs)
    (hp : p c = false) : c ∈ trimBy p cs := by
  have hdrop : ∀ ds : List Char, c ∈ ds → c ∈ ds.dropWhile p := by
    intro ds hds
    rw [← List.takeWhile_append_dropWhile (p := p) (l := ds), List.mem_append] at hds
    rcases hds with hds | hds
    · rw [List.mem_takeWhile_imp hds] at hp
      cases hp
    · exact hds
  rw [trimBy, List.mem_reverse]
  exact hdrop _ (List.mem_reverse.mpr (hdrop _ hc))

/-- A text without blanks is not cut. -/
theorem trimBy_eq_self {p : Char → Bool} {cs : List Char} (h : ∀ c ∈ cs, p c = false) :
    trimBy p cs = cs := by
  have hdrop : ∀ ds : List Char, (∀ c ∈ ds, p c = false) → ds.dropWhile p = ds := by
    intro ds hds
    cases ds with
    | nil => rfl
    | cons d ds => rw [List.dropWhile_cons_of_neg (by simp [hds d (List.mem_cons_self ..)])]
  rw [trimBy, hdrop cs h, hdrop _ fun c hc => h c (List.mem_reverse.mp hc), List.reverse_reverse]

theorem isBlank_of_isBasic {c : Char} (h : c.isDigit = true) : isBlank c = false := by
  have hge : 48 ≤ c.toNat := (Char.isDigit_iff_toNat.mp h).1
  have hle : c.toNat ≤ 57 := (Char.isDigit_iff_toNat.mp h).2
  rw [Bool.eq_false_iff, ne_eq, isBlank, isSpace]
  simp only [spaceCodes, List.contains_eq_mem, List.mem_cons, List.not_mem_nil, or_false,
    Bool.or_eq_true, Bool.and_eq_true, decide_eq_true_eq]
  omega

end Text

/-! ### Cores -/

namespace Cores

/-- Behind the first digits stand **the point with its own digits**, and then what is left. -/
theorem mem_splitFraction {cs : List Char} {c : Char} (h : c ∈ cs) :
    isDigit c = true ∨ c = '.' ∨ c ∈ (splitFraction cs).2 := by
  rw [splitFraction.eq_def]
  split
  · rename_i rest
    rcases List.mem_cons.mp h with rfl | hc
    · exact .inr (.inl rfl)
    · dsimp only
      split
      · exact .inr (.inr (List.mem_cons_of_mem _ hc))
      · rw [← List.takeWhile_append_dropWhile (p := isDigit) (l := rest), List.mem_append] at hc
        rcases hc with hc | hc
        · exact .inl (List.mem_takeWhile_imp hc)
        · exact .inr (.inr hc)
  · exact .inr (.inr h)

/-- What is left is **the letter m**, or nothing. -/
theorem rest_of_split? {cs : List Char} {p : Decimal × Bool} (h : split? cs = some p) :
    ∀ c ∈ (splitFraction (cs.dropWhile isDigit)).2, c = 'm' := by
  intro c hc
  simp only [split?] at h
  split at h
  · cases h
  · split at h
    · rename_i hnil
      simp [hnil] at hc
    · split at h
      · rename_i hm
        simpa [hm] using hc
      · cases h

/-- The characters of a number of cores: **digits**, a point, and the letter m. -/
theorem mem_of_split? {cs : List Char} {p : Decimal × Bool} (h : split? cs = some p) :
    ∀ c ∈ cs, isDigit c = true ∨ c = '.' ∨ c = 'm' := by
  intro c hc
  rw [← List.takeWhile_append_dropWhile (p := isDigit) (l := cs), List.mem_append] at hc
  rcases hc with hc | hc
  · exact .inl (List.mem_takeWhile_imp hc)
  · exact (mem_splitFraction hc).imp_right (Or.imp_right (rest_of_split? h c))

/-- A character that stands in no number of cores. -/
def IsAlien (c : Char) : Prop :=
  isBlank c = false ∧ isDigit c = false ∧ c ≠ '.' ∧ c ≠ 'm'

instance (c : Char) : Decidable (IsAlien c) := inferInstanceAs (Decidable (_ ∧ _ ∧ _ ∧ _))

/-- **Brackets, dashes and most letters** stand in no number of cores. -/
theorem isAlien_of_mem {c : Char} (h : c ∈ "([\x7b-bsnie".toList) : IsAlien c := by
  have hall : ("([\x7b-bsnie".toList.all fun d => decide (IsAlien d)) = true := by decide +kernel
  exact of_decide_eq_true (List.all_eq_true.mp hall c h)

/-- A text with a character of **another sort** is no number of cores. -/
theorem read_eq_none_of_mem {s : String} {c : Char} (hc : c ∈ s.toList) (h : IsAlien c) :
    read s = .ok none := by
  obtain ⟨hblank, hdigit, hpoint, hm⟩ := h
  rw [read]
  cases hs : split? (trim s.toList) with
  | none => rfl
  | some p =>
    rcases mem_of_split? hs c (mem_trimBy hc hblank) with h | h | h
    · rw [hdigit] at h
      cases h
    · exact absurd h hpoint
    · exact absurd h hm

theorem ofValue_eq_read {v : Value} {d : Decimal} (h : ofValue v = .ok (some d)) :
    read v.plain = .ok (some d) := by
  rw [ofValue.eq_def] at h
  split at h
  · cases h
  · cases h
  · rw [Value.toText] at h
    split at h
    · exact h
    · cases h

theorem not_mem_plain_of_ofValue {v : Value} {d : Decimal} (h : ofValue v = .ok (some d))
    {c : Char} (hc : IsAlien c) : c ∉ v.plain.toList := by
  intro hmem
  have hread := ofValue_eq_read h
  rw [read_eq_none_of_mem hmem hc] at hread
  cases hread

theorem dash_mem_iso (d : Date) : '-' ∈ d.iso.toList := by
  simp only [Date.iso, String.toList_append, List.mem_append]
  exact .inl (.inl (.inl (.inr (by decide))))

/-- **What gives a number of cores is a leaf**: containers are shown between brackets, and dates with
dashes. -/
theorem isLeaf_of_ofValue {v : Value} {d : Decimal} (h : ofValue v = .ok (some d)) :
    v.isLeaf = true := by
  cases v with
  | tuple xs =>
    have hmem : '(' ∈ (Value.tuple xs).plain.toList := by
      rcases xs with _ | ⟨x, _ | ⟨y, ys⟩⟩ <;> simp [Value.plain, Value.shown]
    exact absurd hmem (not_mem_plain_of_ofValue h (c := '(') (isAlien_of_mem (by decide)))
  | list l xs =>
    exact absurd (by simp [Value.plain, Value.shown])
      (not_mem_plain_of_ofValue h (c := '[') (isAlien_of_mem (by decide)))
  | set l xs =>
    cases xs with
    | nil =>
      exact absurd (by simp [Value.plain, Value.shown])
        (not_mem_plain_of_ofValue h (c := 's') (isAlien_of_mem (by decide)))
    | cons x xs =>
      exact absurd (by simp [Value.plain, Value.shown])
        (not_mem_plain_of_ofValue h (c := '\x7b') (isAlien_of_mem (by decide)))
  | map l es =>
    exact absurd (by simp [Value.plain, Value.shown])
      (not_mem_plain_of_ofValue h (c := '\x7b') (isAlien_of_mem (by decide)))
  | date l d' =>
    exact absurd (dash_mem_iso d')
      (not_mem_plain_of_ofValue h (c := '-') (isAlien_of_mem (by decide)))
  | moment l m =>
    have hmem : '-' ∈ (Value.moment l m).plain.toList := by
      simp only [Value.plain, Moment.iso, String.toList_append, List.mem_append]
      exact .inl (.inl (.inl (.inl (dash_mem_iso m.date))))
    exact absurd hmem (not_mem_plain_of_ofValue h (c := '-') (isAlien_of_mem (by decide)))
  | _ => rfl

/-- Bytes are shown with the letter b, and give no number of cores. -/
theorem ofValue_bytes_ne_some (bs : List UInt8) (d : Decimal) :
    ofValue (.bytes bs) ≠ .ok (some d) := by
  intro h
  exact absurd (by simp [Value.plain, Value.shown, quotedBytes])
    (not_mem_plain_of_ofValue h (c := 'b') (isAlien_of_mem (by decide)))

/-- **A whole number is read back** from its digits. -/
theorem read_text (n : Nat) :
    read (String.ofList (decimalDigits n)) = .ok (some ⟨false, n, 0⟩) := by
  have hbasic : ∀ c ∈ decimalDigits n, c.isDigit = true := fun c hc =>
    Nat.isDigit_of_mem_toDigits (by decide) (by decide) hc
  have htrim : trim (decimalDigits n) = decimalDigits n :=
    trimBy_eq_self fun c hc => isBlank_of_isBasic (hbasic c hc)
  have htake : (decimalDigits n).takeWhile isDigit = decimalDigits n :=
    List.takeWhile_eq_self_iff.mpr fun c hc => isDigit_of_isBasic (hbasic c hc)
  have hdrop : (decimalDigits n).dropWhile isDigit = [] :=
    List.dropWhile_eq_nil_iff.mpr fun c hc => isDigit_of_isBasic (hbasic c hc)
  have hne : (decimalDigits n).isEmpty = false := by
    rw [List.isEmpty_eq_false_iff]
    exact Nat.toDigits_ne_nil
  have hsplit : split? (decimalDigits n) = some (⟨false, n, 0⟩, false) := by
    simp only [split?, htake, hdrop, splitFraction, hne, List.append_nil,
      digitsValue_decimalDigits]
    rfl
  rw [read, String.toList_ofList, htrim, hsplit]

end Cores

/-! ### Sizes -/

namespace Size

/-- The letters of the units that sizes are written in. -/
def unitLetters : List (List Char × SizeUnit) :=
  [(['G', 'i'], .giga), (['M', 'i'], .mega), (['K', 'i'], .kilo)]

/-- A number in digits and the letters of a unit are a **written size**. -/
theorem isWritten_text {n : Nat} {letters : List Char} {u : SizeUnit}
    (hu : (letters, u) ∈ unitLetters) :
    IsWritten (String.ofList (decimalDigits n) ++ String.ofList letters) (decimalDigits n) u
      letters := by
  have hspelled : u.IsSpelled letters := by
    simp only [unitLetters, List.mem_cons, Prod.mk.injEq, List.not_mem_nil, or_false] at hu
    rcases hu with ⟨rfl, rfl⟩ | ⟨rfl, rfl⟩ | ⟨rfl, rfl⟩ <;> exact .long (by decide) (by decide)
  exact ⟨String.ofList_append.symm, Nat.toDigits_ne_nil,
    fun c hc => isDigit_of_mem_decimalDigits hc, hspelled⟩

/-- **A number of units is read back** from its digits and the letters of the unit. -/
theorem bytes_text {n : Nat} {letters : List Char} {u : SizeUnit}
    (hn : (decimalDigits n).length ≤ digitLimit) (hu : (letters, u) ∈ unitLetters) :
    bytes (String.ofList (decimalDigits n) ++ String.ofList letters) = .ok (n * u.bytes) := by
  -- these letters are all of the basic alphabet
  have hbasic : ¬('\u212a' ∈ letters ∨ '\u0130' ∈ letters) := by
    have hall : (unitLetters.all fun e =>
        !(e.1.contains '\u212a' || e.1.contains '\u0130')) = true := by decide
    simpa using List.all_eq_true.mp hall _ hu
  rw [(isWritten_text hu).bytes_eq, if_neg (by omega), if_neg hbasic, digitsValue_decimalDigits]
  rfl

end Size

end StackManifest
