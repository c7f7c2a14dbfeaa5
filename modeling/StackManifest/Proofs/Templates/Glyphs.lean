import StackManifest.Proofs.Markup.Escapes
import StackManifest.Template

/-!
# Texts between quotes in a page

A template writes a text as an object text, in which four more characters are written by their
codes, and the text is read as a scalar between double quotes. Which glyphs does the page have for a
text, and what are they read as?

* `charGlyphs`, `glyphs` – the **glyphs** of a character and of a text;
* `text_glyphs` – the glyphs are **what the page has** for the text;
* `readBack` – the text that they are **read as**;
* `readBack_eq_iff` – this is the text itself exactly if all its characters are among the first
  65536. Any other character is written by a pair of codes, which is read as two characters.
-/

namespace StackManifest

open Yaml StackManifest.Text

/-! ### The glyphs of a character -/

/-- The glyphs with a **letter** that object texts have. -/
def letterGlyphs : List Glyph :=
  [.short '"' '"' (by decide), .short '\\' '\\' (by decide), .short 'n' '\n' (by decide),
   .short 'r' '\r' (by decide), .short 't' '\t' (by decide), .short 'f' '\x0c' (by decide),
   .short 'b' '\x08' (by decide)]

/-- Whether a character stands for itself in a page. -/
def isPageOwn (c : Char) : Bool := isOwn c && pageChar c = [c]

/-- The first code of a pair. -/
def highCode (c : Char) : Nat := 0xD800 + (c.toNat - 0x10000) / 0x400

/-- The second code of a pair. -/
def lowCode (c : Char) : Nat := 0xDC00 + (c.toNat - 0x10000) % 0x400

theorem highCode_lt (c : Char) : highCode c < 0x10000 := by
  have hlt := Json.toNat_lt c
  rw [highCode]
  omega

theorem lowCode_lt (c : Char) : lowCode c < 0x10000 := by
  rw [lowCode]
  omega

/-- The **glyphs of a character** in a page. -/
def charGlyphs (c : Char) : List Glyph :=
  if h : isPageOwn c then [.own c (Bool.and_eq_true_iff.mp h).1]
  else match letterGlyphs.find? fun g => g.char = c with
    | some g => [g]
    | none =>
      if h : c.toNat < 0x10000 then [.code c.toNat h]
      else [.code (highCode c) (highCode_lt c), .code (lowCode c) (lowCode_lt c)]

/-- The **ways** in which a character is written in a page: as itself, with a letter, by its code, or
by a pair of codes. -/
inductive IsWrittenBy : Char → List Glyph → Prop
  | own {c : Char} (h : isPageOwn c) : IsWrittenBy c [.own c (Bool.and_eq_true_iff.mp h).1]
  | letter {g : Glyph} (h : g ∈ letterGlyphs) : IsWrittenBy g.char [g]
  | code {c : Char} (hown : ¬ isPageOwn c) (hletter : ∀ g ∈ letterGlyphs, g.char ≠ c)
      (h : c.toNat < 0x10000) : IsWrittenBy c [.code c.toNat h]
  | pair {c : Char} (h : 0x10000 ≤ c.toNat) :
      IsWrittenBy c [.code (highCode c) (highCode_lt c), .code (lowCode c) (lowCode_lt c)]

theorem charGlyphs_of_isPageOwn {c : Char} (h : isPageOwn c) :
    charGlyphs c = [.own c (Bool.and_eq_true_iff.mp h).1] := dif_pos h

theorem isWrittenBy_charGlyphs (c : Char) : IsWrittenBy c (charGlyphs c) := by
  unfold charGlyphs
  by_cases hown : isPageOwn c
  · rw [dif_pos hown]
    exact .own hown
  rw [dif_neg hown]
  cases hf : letterGlyphs.find? fun g => g.char = c with
  | some g =>
    obtain rfl : g.char = c := by simpa using List.find?_some hf
    exact .letter (List.mem_of_find?_eq_some hf)
  | none =>
    dsimp only
    split_ifs with hlt
    · exact .code hown (by simpa using hf) hlt
    · exact .pair (Nat.not_lt.mp hlt)

/-! ### What the page has for a character -/

theorem isOwn_iff {c : Char} :
    isOwn c ↔ (0x20 ≤ c.toNat ∧ c.toNat < 0x7F) ∧ c ≠ '"' ∧ c ≠ '\\' := by
  have hspace : c = ' ' ↔ c.toNat = 0x20 := Char.toNat_inj.symm
  simp only [isOwn, isVisible, Bool.and_eq_true, Bool.or_eq_true, decide_eq_true_eq, hspace]
  rw [and_assoc]
  refine and_congr_left fun _ => ?_
  omega

theorem lt_of_isOwn {c : Char} (h : isOwn c) : c.toNat < 0x10000 :=
  Nat.lt_trans (isOwn_iff.mp h).1.2 (by decide)

/-- No letter stands for a character that **stands for itself**. -/
theorem forall_ne_of_isOwn {c : Char} (h : isOwn c) : ∀ g ∈ letterGlyphs, g.char ≠ c := by
  have hall : ∀ g ∈ letterGlyphs, isOwn g.char = false := by decide
  rintro g hg rfl
  rw [hall g hg] at h
  exact Bool.noConfusion h

/-- A character that has **no letter** stands for itself in an object text, or is written by its
code. -/
theorem escapeChar_of_forall_ne {c : Char} (h : ∀ g ∈ letterGlyphs, g.char ≠ c)
    (hlt : c.toNat < 0x10000) :
    Json.escapeChar c = if isOwn c then [c] else Json.codeEscape c.toNat := by
  have hne : ∀ d ∈ ['"', '\\', '\n', '\r', '\t', '\x0c', '\x08'], c ≠ d :=
    fun d hd => (List.forall_mem_map (f := Glyph.char) (P := (· ≠ c)).mpr h d hd).symm
  simp only [List.forall_mem_cons] at hne
  obtain ⟨hquote, hslash, hbreak, hreturn, htab, hpage, hback, -⟩ := hne
  rw [Json.escapeChar, if_neg (not_or.mpr ⟨hquote, hslash⟩), if_neg hbreak, if_neg hreturn,
    if_neg htab, if_neg hpage, if_neg hback, if_pos hlt]
  exact if_congr (isOwn_iff.trans (and_iff_left ⟨hquote, hslash⟩)).symm rfl rfl

theorem flatMap_eq_self {cs : List Char} {f : Char → List Char} (h : ∀ c ∈ cs, f c = [c]) :
    cs.flatMap f = cs := by
  rw [List.flatMap_def, List.map_congr_left h, ← List.flatMap_def, List.flatMap_singleton']

/-- The characters of a code mean nothing more in a page. -/
theorem flatMap_pageChar_codeEscape (n : Nat) :
    (Json.codeEscape n).flatMap pageChar = Json.codeEscape n := by
  have hdigits : ∀ c ∈ hexDigits 4 n, pageChar c = [c] :=
    Json.forall_mem_hexDigits (by decide) 4 n
  exact flatMap_eq_self
    (List.forall_mem_cons.mpr ⟨rfl, List.forall_mem_cons.mpr ⟨rfl, hdigits⟩⟩)

/-- A character that means something in a page is written **by its code**. -/
theorem pageChar_of_not_isPageOwn {c : Char} (hown : isOwn c) (h : ¬ isPageOwn c) :
    pageChar c = Json.codeEscape c.toNat := by
  have hne : pageChar c ≠ [c] := fun heq => h (by rw [isPageOwn, hown, heq]; simp)
  rw [pageChar] at hne ⊢
  split_ifs at hne ⊢ with hmark
  · rfl
  · exact absurd rfl hne

/-- The glyphs of a character are **what the page has** for it. -/
theorem text_charGlyphs (c : Char) :
    (charGlyphs c).flatMap Glyph.text = (Json.escapeChar c).flatMap pageChar := by
  have hw := isWrittenBy_charGlyphs c
  generalize charGlyphs c = gs at hw ⊢
  cases hw with
  | own h =>
    obtain ⟨hown, hpage⟩ := Bool.and_eq_true_iff.mp h
    rw [escapeChar_of_forall_ne (forall_ne_of_isOwn hown) (lt_of_isOwn hown), if_pos hown,
      List.flatMap_singleton, List.flatMap_singleton]
    exact (of_decide_eq_true hpage).symm
  | letter h =>
    have hall : ∀ g ∈ letterGlyphs, g.text = (Json.escapeChar g.char).flatMap pageChar := by decide
    rw [List.flatMap_singleton, hall _ h]
  | code hown hletter hlt =>
    rw [escapeChar_of_forall_ne hletter hlt, List.flatMap_singleton]
    split_ifs with hbasic
    · rw [List.flatMap_singleton, pageChar_of_not_isPageOwn hbasic hown]
      rfl
    · rw [flatMap_pageChar_codeEscape]
      rfl
  | pair hle =>
    rw [Json.escapeChar_pair hle, List.flatMap_append, flatMap_pageChar_codeEscape,
      flatMap_pageChar_codeEscape]
    simp [Glyph.text, highCode, lowCode]

/-! ### The glyphs of a text -/

/-- The **glyphs of a text** in a page. -/
def glyphs (s : String) : List Glyph := s.toList.flatMap charGlyphs

/-- The glyphs of a text between quotes are **what the page has** for it. -/
theorem text_glyphs (s : String) :
    (Json.escapeString s).toList.flatMap pageChar
      = '"' :: ((glyphs s).flatMap Glyph.text ++ ['"']) := by
  have hquote : pageChar '"' = ['"'] := rfl
  rw [Json.escapeString, String.toList_ofList, List.cons_append, List.flatMap_cons,
    List.flatMap_append, List.flatMap_singleton, hquote, List.flatMap_assoc, glyphs,
    List.flatMap_assoc]
  simp only [text_charGlyphs]
  rfl

/-- A text of which all characters stand for themselves is **its own text** in a page. -/
theorem flatMap_text_glyphs {s : String} (h : s.toList.all isPageOwn) :
    (glyphs s).flatMap Glyph.text = s.toList := by
  rw [glyphs, List.flatMap_assoc]
  refine flatMap_eq_self fun c hc => ?_
  rw [charGlyphs_of_isPageOwn (List.all_eq_true.mp h c hc)]
  rfl

/-! ### What the glyphs are read as -/

/-- The text that the **glyphs of a text are read as**. -/
def readBack (s : String) : String := String.ofList ((glyphs s).map Glyph.char)

/-- A character is read back **as itself** if it is among the first 65536, and otherwise as two
characters. -/
theorem char_charGlyphs (c : Char) :
    c.toNat < 0x10000 ∧ (charGlyphs c).map Glyph.char = [c] ∨
      0x10000 ≤ c.toNat ∧ (charGlyphs c).length = 2 := by
  have hw := isWrittenBy_charGlyphs c
  generalize charGlyphs c = gs at hw ⊢
  cases hw with
  | own h => exact .inl ⟨lt_of_isOwn (Bool.and_eq_true_iff.mp h).1, rfl⟩
  | letter h =>
    have hall : ∀ g ∈ letterGlyphs, g.char.toNat < 0x10000 := by decide
    exact .inl ⟨hall _ h, rfl⟩
  | code _ _ hlt => exact .inl ⟨hlt, congrArg (fun d => [d]) (Char.ofNat_toNat c)⟩
  | pair hle => exact .inr ⟨hle, rfl⟩

/-- A text with characters **among the first 65536** only is read back as it is. -/
theorem readBack_of_lt {s : String} (h : ∀ c ∈ s.toList, c.toNat < 0x10000) : readBack s = s := by
  have hchars : ∀ c ∈ s.toList, (charGlyphs c).map Glyph.char = [c] := by
    intro c hc
    rcases char_charGlyphs c with ⟨-, heq⟩ | ⟨hle, -⟩
    · exact heq
    · exact absurd (h c hc) (Nat.not_lt.mpr hle)
  rw [readBack, glyphs, List.map_flatMap, flatMap_eq_self hchars, String.ofList_toList]

/-- For texts that are written out this can be decided. -/
theorem readBack_of_all {s : String} (h : s.toList.all fun c => c.toNat < 0x10000) :
    readBack s = s :=
  readBack_of_lt fun c hc => of_decide_eq_true (List.all_eq_true.mp h c hc)

/-- There are as many glyphs as characters, and **one more** for each character beyond the first
65536. -/
theorem length_flatMap_charGlyphs (cs : List Char) :
    (cs.flatMap charGlyphs).length = cs.length + cs.countP fun c => 0x10000 ≤ c.toNat := by
  induction cs with
  | nil => rfl
  | cons c cs ih =>
    rw [List.flatMap_cons, List.length_append, ih, List.countP_cons, List.length_cons]
    rcases char_charGlyphs c with ⟨hlt, heq⟩ | ⟨hle, hlength⟩
    · have hlength : (charGlyphs c).length = 1 := by
        rw [← List.length_map, heq, List.length_singleton]
      rw [hlength, if_neg (by simpa using hlt)]
      omega
    · rw [hlength, if_pos (by simpa using hle)]
      omega

/-- A text that is read back as it is has **no character beyond** the first 65536. -/
theorem lt_of_readBack {s : String} (h : readBack s = s) : ∀ c ∈ s.toList, c.toNat < 0x10000 := by
  have hlength : (s.toList.flatMap charGlyphs).length = s.toList.length := by
    rw [← glyphs, ← List.length_map, ← String.toList_ofList (l := (glyphs s).map _), ← readBack, h]
  rw [length_flatMap_charGlyphs, Nat.add_eq_left, List.countP_eq_zero] at hlength
  exact fun c hc => Nat.not_le.mp (by simpa using hlength c hc)

/-- A text is **read back as it is** exactly if its characters are among the first 65536. -/
theorem readBack_eq_iff {s : String} : readBack s = s ↔ ∀ c ∈ s.toList, c.toNat < 0x10000 :=
  ⟨lt_of_readBack, readBack_of_lt⟩

end StackManifest
