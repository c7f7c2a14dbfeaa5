import Mathlib.Data.List.TakeWhile
import StackManifest.Proofs.Quantity.Computable

/-!
# The grammar of sizes and the table of units

A size is checked by a **grammar** and computed by a **table**: the grammar says which texts are
sizes, the table which unit a name in capitals stands for. The two were made from one list of
units, but they read letters differently. The grammar ignores case, and so it takes some letters
from outside the basic alphabet for a K or an i; the table asks for the capital form of a letter,
and that of two of these letters is another one.

`StackManifest.Size.IsWritten` says what the grammar describes, without the way it is scanned: some
digits of any script, and then the letters of a unit. `StackManifest.Size.bytes_of_grammar` says
what comes of every text: nothing but what is written so is a size, what is no size counts no
bytes, and a size counts its digits times its unit, unless it has one of those two letters or more
digits than are read.
-/

namespace StackManifest

open StackManifest.Number StackManifest.Text

/-! ### Units in letters -/

namespace SizeUnit

/-- The characters that are the **letter** of a unit when case is ignored. -/
def letters : SizeUnit → List Char
  | .kilo => ['K', 'k', '\u212a']
  | .mega => ['M', 'm']
  | .giga => ['G', 'g']
  | .tera => ['T', 't']

/-- The characters that are an **i** when case is ignored. -/
def marks : List Char := ['i', 'I', '\u0130', '\u0131']

/-- What **spells** a unit: its letter, and perhaps an i. -/
inductive IsSpelled (u : SizeUnit) : List Char → Prop
  /-- The letter alone. -/
  | short {c : Char} (hc : c ∈ u.letters) : IsSpelled u [c]
  /-- The letter and an i. -/
  | long {c d : Char} (hc : c ∈ u.letters) (hd : d ∈ marks) : IsSpelled u [c, d]

/-- The units in the order of their sizes. -/
def all : List SizeUnit := [.kilo, .mega, .giga, .tera]

theorem mem_all (u : SizeUnit) : u ∈ all := by
  cases u <;> simp [all]

/-- **What the table says of a spelling**: its unit, unless a letter has another capital form. -/
theorem ofName?_of_isSpelled {u : SizeUnit} {cs : List Char} (h : u.IsSpelled cs) :
    ofName? (upper (String.ofList cs)) =
      if '\u212a' ∈ cs ∨ '\u0130' ∈ cs then none else some u := by
  -- the spellings are gone through, unit by unit
  have hshort : (all.all fun u => u.letters.all fun c =>
      decide (ofName? (upper (String.ofList [c])) =
        if '\u212a' ∈ [c] ∨ '\u0130' ∈ [c] then none else some u)) = true := by decide +kernel
  have hlong : (all.all fun u => u.letters.all fun c => marks.all fun d =>
      decide (ofName? (upper (String.ofList [c, d])) =
        if '\u212a' ∈ [c, d] ∨ '\u0130' ∈ [c, d] then none else some u)) = true := by
    decide +kernel
  simp only [List.all_eq_true, decide_eq_true_eq] at hshort hlong
  rcases h with hc | ⟨hc, hd⟩
  · exact hshort u (mem_all u) _ hc
  · exact hlong u (mem_all u) _ hc _ hd

theorem bytes_pos (u : SizeUnit) : 0 < u.bytes := Nat.pow_pos (by decide)

end SizeUnit

/-! ### Sizes in letters -/

namespace Size

variable {s : String} {digits cs : List Char} {u : SizeUnit}

/-- The letters that may begin a unit are the letters of the units. -/
theorem isUnitLetter_iff {c : Char} : isUnitLetter c = true ↔ ∃ u : SizeUnit, c ∈ u.letters := by
  rw [isUnitLetter, List.contains_iff_mem]
  constructor
  · intro h
    have hall : ("KMGTkmgt\u212a".toList.all fun c =>
        SizeUnit.all.any fun u => u.letters.contains c) = true := by decide
    obtain ⟨u, -, hu⟩ := List.any_eq_true.mp (List.all_eq_true.mp hall c h)
    exact ⟨u, List.contains_iff_mem.mp hu⟩
  · rintro ⟨u, hu⟩
    have hall : (SizeUnit.all.all fun u => u.letters.all fun c =>
        "KMGTkmgt\u212a".toList.contains c) = true := by decide
    have hletters := List.all_eq_true.mp hall u u.mem_all
    exact List.contains_iff_mem.mp (List.all_eq_true.mp hletters c hu)

theorem isBinaryMark_iff {d : Char} : isBinaryMark d = true ↔ d ∈ SizeUnit.marks := by
  rw [isBinaryMark, List.contains_iff_mem]
  exact Iff.rfl

/-- No letter of a unit is a digit, so that the digits of a size **end** where its unit begins. -/
theorem isDigit_of_mem_letters {c : Char} (h : c ∈ u.letters) : isDigit c = false := by
  have hall : (SizeUnit.all.all fun u => u.letters.all fun c => !isDigit c) = true := by
    decide +kernel
  have hletters := List.all_eq_true.mp (List.all_eq_true.mp hall u u.mem_all) c h
  simpa using hletters

/-- **What the grammar of sizes describes**: a text of some digits, and then a spelling of a
unit. -/
structure IsWritten (s : String) (digits : List Char) (u : SizeUnit) (cs : List Char) : Prop where
  eq : s = String.ofList (digits ++ cs)
  nonempty : digits ≠ []
  digits : ∀ c ∈ digits, isDigit c = true
  unit : u.IsSpelled cs

/-- **A text is cut up as it is written.** -/
theorem IsWritten.split?_eq (h : IsWritten s digits u cs) : split? s = some (digits, cs) := by
  have hfirst : ∃ c rest, cs = c :: rest ∧ isDigit c = false := by
    rcases h.unit with hc | ⟨hc, -⟩
    · exact ⟨_, _, rfl, isDigit_of_mem_letters hc⟩
    · exact ⟨_, _, rfl, isDigit_of_mem_letters hc⟩
  have hcut : s.toList.takeWhile isDigit = digits ∧ s.toList.dropWhile isDigit = cs := by
    obtain ⟨c, rest, hcs, hc⟩ := hfirst
    rw [h.eq, String.toList_ofList, List.takeWhile_append_of_pos h.digits,
      List.dropWhile_append_of_pos h.digits, hcs]
    simp [hc]
  have hdigits : digits.isEmpty = false := List.isEmpty_eq_false_iff.mpr h.nonempty
  simp only [split?, hcut.1, hcut.2, hdigits]
  rcases h.unit with hc | ⟨hc, hd⟩
  · simp [isUnitLetter_iff.mpr ⟨u, hc⟩]
  · simp [isUnitLetter_iff.mpr ⟨u, hc⟩, isBinaryMark_iff.mpr hd]

/-- **A text that is cut up is written so.** -/
theorem exists_isWritten_of_split? (h : split? s = some (digits, cs)) :
    ∃ u, IsWritten s digits u cs := by
  have hunit : ∃ u : SizeUnit, u.IsSpelled cs := by
    rcases letters_of_split? h with ⟨c, rfl, hc⟩ | ⟨c, d, rfl, hc, hd⟩
    · obtain ⟨u, hu⟩ := isUnitLetter_iff.mp hc
      exact ⟨u, .short hu⟩
    · obtain ⟨u, hu⟩ := isUnitLetter_iff.mp hc
      exact ⟨u, .long hu (isBinaryMark_iff.mp hd)⟩
  obtain ⟨u, hu⟩ := hunit
  simp only [split?] at h
  obtain ⟨hgood, heq⟩ := Option.ite_none_right_eq_some.mp h
  obtain ⟨hdigits, hcs⟩ := Prod.mk.inj (Option.some.inj heq)
  have hne := (Bool.and_eq_true_iff.mp hgood).1
  refine ⟨u, ?_, ?_, ?_, hu⟩
  · rw [← hdigits, ← hcs, List.takeWhile_append_dropWhile, String.ofList_toList]
  · rw [← hdigits]
    rintro hnil
    rw [hnil] at hne
    cases hne
  · intro c hc
    rw [← hdigits] at hc
    exact List.mem_takeWhile_imp hc

/-- **The written sizes are what the grammar describes.** -/
theorem isLiteral_iff : isLiteral s = true ↔ ∃ digits u cs, IsWritten s digits u cs := by
  rw [isLiteral, Option.isSome_iff_exists]
  constructor
  · rintro ⟨⟨digits, cs⟩, h⟩
    obtain ⟨u, hu⟩ := exists_isWritten_of_split? h
    exact ⟨digits, u, cs, hu⟩
  · rintro ⟨digits, u, cs, h⟩
    exact ⟨_, h.split?_eq⟩

/-- **What a written size counts**, or which of its parts cannot be read. -/
theorem IsWritten.bytes_eq (h : IsWritten s digits u cs) :
    bytes s =
      if digitLimit < digits.length then .error (.tooManyDigits digits.length)
      else if '\u212a' ∈ cs ∨ '\u0130' ∈ cs then
        .error (.unknownKey (quoted (upper (String.ofList cs))))
      else .ok (digitsValue digits * 1024 ^ u.power) := by
  have hname := SizeUnit.ofName?_of_isSpelled h.unit
  rw [bytes, h.split?_eq]
  simp only [hname]
  split_ifs with hlong halien
  · rfl
  · rfl
  · rfl

/-- **The grammar of sizes and what comes of it.** A text is a size exactly when it is some digits
and a spelling of a unit. What is no size counts no bytes. A size counts the number that its digits
write times the power of 1024 that its unit is, and so it counts no bytes only if this number is
zero; but it has no number of bytes when it has more digits than are read, or when a letter of its
unit is the sign of the kelvin or the capital I with a dot. -/
theorem bytes_of_grammar (s : String) :
    (isLiteral s = true ↔ ∃ digits u cs, IsWritten s digits u cs) ∧
      (isLiteral s = false → bytes s = .ok 0) ∧
      ∀ digits u cs, IsWritten s digits u cs →
        (bytes s =
          if digitLimit < digits.length then .error (.tooManyDigits digits.length)
          else if '\u212a' ∈ cs ∨ '\u0130' ∈ cs then
            .error (.unknownKey (quoted (upper (String.ofList cs))))
          else .ok (digitsValue digits * 1024 ^ u.power)) ∧
        (bytes s = .ok 0 → digitsValue digits = 0) := by
  refine ⟨isLiteral_iff, fun h => ?_, fun digits u cs h => ⟨h.bytes_eq, fun hzero => ?_⟩⟩
  · rw [isLiteral, Option.isSome_eq_false_iff, Option.isNone_iff_eq_none] at h
    rw [bytes, h]
  · rw [h.bytes_eq] at hzero
    split_ifs at hzero
    have hpos : 0 < 1024 ^ u.power := Nat.pow_pos (by decide)
    exact (Nat.mul_eq_zero.mp (Except.ok.inj hzero)).resolve_right hpos.ne'

/-- Twelve gigabytes, with a small letter and a capital I; and without a unit there is no size. -/
theorem bytes_twelve_giga :
    IsWritten "12gI" ['1', '2'] .giga ['g', 'I'] ∧ bytes "12gI" = .ok (12 * 1024 ^ 3) ∧
      isLiteral "12" = false ∧ bytes "12" = .ok 0 := by
  have hdigits : ∀ c ∈ ['1', '2'], isDigit c = true :=
    List.forall_mem_cons.mpr ⟨by decide, List.forall_mem_singleton.mpr (by decide)⟩
  have hwritten : IsWritten "12gI" ['1', '2'] .giga ['g', 'I'] :=
    ⟨rfl, by simp, hdigits, .long (by decide) (by decide)⟩
  have hbare : isLiteral "12" = false := by decide
  obtain ⟨-, -, hbytes⟩ := bytes_of_grammar "12gI"
  obtain ⟨-, hzero, -⟩ := bytes_of_grammar "12"
  refine ⟨hwritten, ?_, hbare, hzero hbare⟩
  rw [(hbytes _ _ _ hwritten).1]
  rfl

/-- **The grammar and the table drift apart** at the sign of the kelvin, which is a letter K to the
one and no letter of a unit to the other; and 4301 zeros are a number that is not read. -/
theorem not_exists_bytes :
    (isLiteral "1\u212a" = true ∧ ¬∃ n, bytes "1\u212a" = .ok n) ∧
      isLiteral (String.ofList (List.replicate 4301 '0' ++ ['K'])) = true ∧
        ¬∃ n, bytes (String.ofList (List.replicate 4301 '0' ++ ['K'])) = .ok n := by
  have hkelvin : IsWritten "1\u212a" ['1'] .kilo ['\u212a'] :=
    ⟨rfl, by simp, List.forall_mem_singleton.mpr (by decide), .short (by decide)⟩
  have hzeros : IsWritten (String.ofList (List.replicate 4301 '0' ++ ['K']))
      (List.replicate 4301 '0') .kilo ['K'] := by
    refine ⟨rfl, ?_, ?_, .short (by decide)⟩
    · rw [Ne, List.replicate_eq_nil_iff]
      omega
    · intro c hc
      obtain rfl := List.eq_of_mem_replicate hc
      decide
  refine ⟨⟨isLiteral_iff.mpr ⟨_, _, _, hkelvin⟩, ?_⟩, isLiteral_iff.mpr ⟨_, _, _, hzeros⟩, ?_⟩
  · rw [hkelvin.bytes_eq]
    rintro ⟨n, hn⟩
    cases hn
  · rw [hzeros.bytes_eq, List.length_replicate]
    rintro ⟨n, hn⟩
    cases hn

end Size

end StackManifest
