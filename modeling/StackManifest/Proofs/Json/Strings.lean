import Mathlib.Data.Nat.Digits.Defs
import StackManifest.Json.Reader
import StackManifest.Json.Writer

/-!
# Strings of the object notation

A string is written in basic characters only: any other character becomes a code, or two codes
beyond the first 65536. Such a string is read back **character by character**
(`StackManifest.Json.readString_escaped`), whatever follows its closing quote.

The codes of the two parts of a pair lie in a range where no character has its code, so that a
character that is written by one code is never taken for the first part of a pair.
-/

namespace StackManifest.Json

open StackManifest.Text

/-! ### Codes -/

theorem hexValue?_digitChar : ∀ d < 16, hexValue? d.digitChar = some d := by decide

/-- What all digits are is true of **the digits of a number**, and of the zeros in front of them. -/
theorem forall_mem_hexDigits {p : Char → Prop} (hp : ∀ d < 16, p d.digitChar) (width n : Nat) :
    ∀ c ∈ hexDigits width n, p c := by
  have hdigits : ∀ c ∈ Nat.toDigits 16 n, p c := by
    induction n using Nat.strong_induction_on with
    | _ n ih =>
      by_cases hn : n < 16
      · rw [Nat.toDigits_of_lt_base hn]
        exact List.forall_mem_singleton.mpr (hp n hn)
      · rw [Nat.toDigits_of_base_le (by decide) (Nat.not_lt.mp hn)]
        exact List.forall_mem_append.mpr
          ⟨ih (n / 16) (by omega), List.forall_mem_singleton.mpr (hp _ (by omega))⟩
  exact List.forall_mem_append.mpr
    ⟨fun _ hc => List.eq_of_mem_replicate hc ▸ hp 0 (by decide), hdigits⟩

theorem hexNumber?_append_singleton (cs : List Char) (c : Char) :
    hexNumber? (cs ++ [c]) = do return 16 * (← hexNumber? cs) + (← hexValue? c) := by
  rw [hexNumber?, List.foldl_append]
  rfl

theorem hexNumber?_toDigits (n : Nat) : hexNumber? (Nat.toDigits 16 n) = some n := by
  induction n using Nat.strong_induction_on with
  | _ n ih =>
    by_cases hn : n < 16
    · rw [Nat.toDigits_of_lt_base hn, ← List.nil_append [_], hexNumber?_append_singleton,
        hexValue?_digitChar n hn]
      simp [hexNumber?]
    · rw [Nat.toDigits_of_base_le (by decide) (Nat.not_lt.mp hn), hexNumber?_append_singleton,
        ih (n / 16) (by omega), hexValue?_digitChar (n % 16) (by omega)]
      simp only [Option.bind_eq_bind, Option.bind_some, Option.pure_def]
      congr 1
      omega

/-- **The digits of a code are read back**, with the zeros in front of them. -/
theorem hexNumber?_hexDigits (width n : Nat) : hexNumber? (hexDigits width n) = some n := by
  have hzeros : ∀ k : Nat, (List.replicate k '0').foldl
      (fun n c => do return 16 * (← n) + (← hexValue? c)) (some 0) = some 0 := by
    intro k
    induction k with
    | zero => rfl
    | succ k ih => exact ih
  rw [hexDigits, hexNumber?, List.foldl_append, hzeros]
  exact hexNumber?_toDigits n

theorem length_hexDigits {n : Nat} (h : n < 0x10000) : (hexDigits 4 n).length = 4 := by
  have hle : (Nat.toDigits 16 n).length ≤ 4 :=
    (Nat.length_toDigits_le_iff (by decide) (by decide)).mpr h
  rw [hexDigits, List.length_append, List.length_replicate]
  omega

/-- **A single code** is read as its character, unless it is the first of a pair. -/
theorem readCode_hexDigits {n : Nat} (h : n < 0x10000) (hpair : ¬ (0xD800 ≤ n ∧ n < 0xDC00))
    (rest : List Char) : readCode (hexDigits 4 n ++ rest) = some (Char.ofNat n, rest) := by
  have hlength := length_hexDigits h
  rw [readCode, List.take_left' hlength, List.drop_left' hlength, hexNumber?_hexDigits]
  simp [hlength, hpair]

/-- **A pair of codes** is read as one character. -/
theorem readCode_pair {c : Char} {high low : Nat} (hhigh : 0xD800 ≤ high ∧ high < 0xDC00)
    (hlow : 0xDC00 ≤ low ∧ low < 0xE000)
    (hc : 0x10000 + (high - 0xD800) * 0x400 + (low - 0xDC00) = c.toNat) (rest : List Char) :
    readCode (hexDigits 4 high ++ '\\' :: 'u' :: (hexDigits 4 low ++ rest)) = some (c, rest) := by
  have hlengthHigh : (hexDigits 4 high).length = 4 := length_hexDigits (by omega)
  have hlengthLow : (hexDigits 4 low).length = 4 := length_hexDigits (by omega)
  rw [readCode, List.take_left' hlengthHigh, List.drop_left' hlengthHigh, hexNumber?_hexDigits]
  simp only [hlengthHigh, guard_true, Option.bind_eq_bind, Option.pure_def, Option.bind_some,
    if_pos hhigh]
  rw [List.take_left' hlengthLow, List.drop_left' hlengthLow, hexNumber?_hexDigits]
  simp only [hlengthLow, guard_true]
  refine (if_pos hlow).trans ?_
  rw [hc, Char.ofNat_toNat]

/-! ### Characters -/

theorem toNat_lt (c : Char) : c.toNat < 0x110000 := by
  have hvalid : c.toNat.isValidChar := c.valid
  rcases hvalid with hlow | ⟨-, hhigh⟩ <;> omega

/-- The **codes of a character** lie outside the range of the codes of pairs. -/
theorem not_isPair (c : Char) : ¬ (0xD800 ≤ c.toNat ∧ c.toNat < 0xDC00) := by
  have hvalid : c.toNat.isValidChar := c.valid
  rcases hvalid with hlow | ⟨hhigh, -⟩
  · omega
  · omega

section Characters

variable {c : Char} {cs rest : List Char} {fuel : Nat}

theorem readString_short {letter : Char} (hletter : letter ≠ 'u')
    (h : shortEscape? letter = some c) :
    readString (fuel + 1) ('\\' :: letter :: rest) =
      (readString fuel rest).map fun p => (c :: p.1, p.2) := by
  rw [readString, h]
  · cases readString fuel rest <;> rfl
  · exact fun hu => hletter hu

theorem readString_code (h : readCode cs = some (c, rest)) :
    readString (fuel + 1) ('\\' :: 'u' :: cs) =
      (readString fuel rest).map fun p => (c :: p.1, p.2) := by
  rw [readString, h]
  simp only [Option.bind_eq_bind, Option.bind_some]
  cases readString fuel rest <;> rfl

theorem readString_plain (hquote : c ≠ '"') (hslash : c ≠ '\\') (h : 0x20 ≤ c.toNat) :
    readString (fuel + 1) (c :: rest) =
      (readString fuel rest).map fun p => (c :: p.1, p.2) := by
  have hnot : ¬ (c.toNat < 0x20 ∨ c = '\\') := by
    rintro (hc | hc)
    · omega
    · exact hslash hc
  rw [readString, if_neg hnot]
  · cases readString fuel rest <;> rfl
  · exact hquote
  · exact fun _ hc => absurd hc hslash
  · exact fun _ _ hc => absurd hc hslash

theorem codeEscape_append (n : Nat) :
    codeEscape n ++ rest = '\\' :: 'u' :: (hexDigits 4 n ++ rest) := rfl

/-- A character beyond the first 65536 is written by **two codes**. -/
theorem escapeChar_pair (h : 0x10000 ≤ c.toNat) :
    escapeChar c = codeEscape (0xD800 + (c.toNat - 0x10000) / 0x400) ++
      codeEscape (0xDC00 + (c.toNat - 0x10000) % 0x400) := by
  have hne : ∀ d : Char, d.toNat < 0x10000 → c ≠ d := by
    rintro d hd rfl
    omega
  rw [escapeChar, if_neg (not_or.mpr ⟨hne _ (by decide), hne _ (by decide)⟩),
    if_neg (hne _ (by decide)), if_neg (hne _ (by decide)), if_neg (hne _ (by decide)),
    if_neg (hne _ (by decide)), if_neg (hne _ (by decide)), if_neg (by omega),
    if_neg (by omega)]

theorem readString_escapeChar_pair (h : 0x10000 ≤ c.toNat) :
    readString (fuel + 1) (escapeChar c ++ rest) =
      (readString fuel rest).map fun p => (c :: p.1, p.2) := by
  have hlt := toNat_lt c
  rw [escapeChar_pair h]
  generalize hn : c.toNat - 0x10000 = n
  have hhigh : 0xD800 ≤ 0xD800 + n / 0x400 ∧ 0xD800 + n / 0x400 < 0xDC00 := by omega
  have hlow : 0xDC00 ≤ 0xDC00 + n % 0x400 ∧ 0xDC00 + n % 0x400 < 0xE000 := by omega
  have hwhole : 0x10000 + (0xD800 + n / 0x400 - 0xD800) * 0x400 +
      (0xDC00 + n % 0x400 - 0xDC00) = c.toNat := by omega
  have hread := readCode_pair hhigh hlow hwhole rest
  rw [List.append_assoc, codeEscape_append, codeEscape_append]
  exact readString_code hread

/-- **A character that was written is read back**, and the rest of the string after it. -/
theorem readString_escapeChar :
    readString (fuel + 1) (escapeChar c ++ rest) =
      (readString fuel rest).map fun p => (c :: p.1, p.2) := by
  rcases Nat.lt_or_ge c.toNat 0x10000 with hlt | hge
  · rw [escapeChar]
    split_ifs with hmark hbreak hreturn htab hpage hback hbasic
    · rcases hmark with rfl | rfl <;> exact readString_short (by decide) rfl
    · rw [hbreak]
      exact readString_short (by decide) rfl
    · rw [hreturn]
      exact readString_short (by decide) rfl
    · rw [htab]
      exact readString_short (by decide) rfl
    · rw [hpage]
      exact readString_short (by decide) rfl
    · rw [hback]
      exact readString_short (by decide) rfl
    · obtain ⟨hquote, hslash⟩ := not_or.mp hmark
      exact readString_plain hquote hslash hbasic.1
    · have hread := readCode_hexDigits hlt (not_isPair c) rest
      rw [Char.ofNat_toNat] at hread
      rw [codeEscape_append]
      exact readString_code hread
  · exact readString_escapeChar_pair hge

theorem length_escapeChar_pos (c : Char) : 0 < (escapeChar c).length := by
  rcases Nat.lt_or_ge c.toNat 0x10000 with hlt | hge
  · rw [escapeChar]
    split_ifs <;> exact Nat.succ_pos _
  · rw [escapeChar_pair hge]
    exact Nat.succ_pos _

end Characters

/-- **A string that was written is read back**, up to its closing quote. -/
theorem readString_escaped {s rest : List Char} {fuel : Nat}
    (h : (s.flatMap escapeChar).length < fuel) :
    readString fuel (s.flatMap escapeChar ++ '"' :: rest) = some (s, rest) := by
  induction s generalizing fuel with
  | nil =>
    obtain ⟨fuel, rfl⟩ : ∃ m, fuel = m + 1 := ⟨fuel - 1, by simp at h; omega⟩
    rw [List.flatMap_nil, List.nil_append, readString]
  | cons c s ih =>
    have hpos := length_escapeChar_pos c
    rw [List.flatMap_cons, List.length_append] at h
    obtain ⟨fuel, rfl⟩ : ∃ m, fuel = m + 1 := ⟨fuel - 1, by omega⟩
    rw [List.flatMap_cons, List.append_assoc, readString_escapeChar, ih (by omega)]
    rfl

/-! ### Basic characters -/

/-- A **basic character**: one that stands for itself everywhere, or a line break. -/
def IsBasic (c : Char) : Prop := c = '\n' ∨ 0x20 ≤ c.toNat ∧ c.toNat < 0x7F

instance {c : Char} : Decidable (IsBasic c) :=
  inferInstanceAs (Decidable (c = '\n' ∨ 0x20 ≤ c.toNat ∧ c.toNat < 0x7F))

/-- A text in basic characters only. -/
def IsBasicText (cs : List Char) : Prop := ∀ c ∈ cs, IsBasic c

instance {cs : List Char} : Decidable (IsBasicText cs) := List.decidableBAll (p := IsBasic) cs

theorem IsBasicText.append {cs ds : List Char} (hcs : IsBasicText cs) (hds : IsBasicText ds) :
    IsBasicText (cs ++ ds) :=
  fun c hc => (List.mem_append.mp hc).elim (hcs c) (hds c)

end StackManifest.Json
