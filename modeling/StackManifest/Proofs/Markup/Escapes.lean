import StackManifest.Proofs.Json.Strings
import StackManifest.Proofs.Markup.Moves

/-!
# Scalars between double quotes

What does the reading make of the characters between two double quotes? It takes them to be
**glyphs**: characters that stand for themselves, a backslash with a letter, or a backslash with a
code. Every glyph is read as one character, and a scalar as the characters of its glyphs
(`StackManifest.Yaml.quoted_eq`).

The one thing to know about codes is that each stands for a character of its own. Two codes
that are a pair in the object notation are two characters here, and neither of them is the
character that the pair was written for.

The spaces of a scalar are read all at once, so that a glyph that is a space is put off until
the next glyph that is none: the induction is on the glyphs, with some spaces in front of them.
-/

namespace StackManifest.Yaml

open StackManifest.Text

/-! ### Glyphs -/

/-- Whether a character stands for itself between double quotes. -/
def isOwn (c : Char) : Bool := (isVisible c || c = ' ') && c ≠ '"' && c ≠ '\\'

/-- A **glyph** between double quotes: a character that stands for itself, a letter that stands for
a character, or a code of four digits. -/
inductive Glyph where
  | own (c : Char) (ok : isOwn c = true)
  | short (letter c : Char) (ok : isVisible letter = true ∧ Cursor.escaped? letter = some c)
  | code (n : Nat) (ok : n < 0x10000)

namespace Glyph

/-- The **text** of a glyph. -/
def text : Glyph → List Char
  | .own c _ => [c]
  | .short letter _ _ => ['\\', letter]
  | .code n _ => Json.codeEscape n

/-- The **character** that a glyph is read as. -/
def char : Glyph → Char
  | .own c _ => c
  | .short _ c _ => c
  | .code n _ => Char.ofNat n

theorem isVisible_of_mem_hexDigits (width n : Nat) : ∀ c ∈ hexDigits width n, isVisible c :=
  Json.forall_mem_hexDigits (by decide) width n

/-- The characters of a glyph are visible, unless it is a **space**. -/
theorem visible_or_space (g : Glyph) :
    (∀ c ∈ g.text, isVisible c) ∨ g.text = [' '] ∧ g.char = ' ' := by
  cases g with
  | own c ok =>
    simp only [isOwn, Bool.and_eq_true, Bool.or_eq_true, decide_eq_true_eq] at ok
    rcases ok.1.1 with hv | rfl
    · exact .inl (List.forall_mem_singleton.mpr hv)
    · exact .inr ⟨rfl, rfl⟩
  | short letter c ok =>
    exact .inl (List.forall_mem_cons.mpr ⟨rfl, List.forall_mem_singleton.mpr ok.1⟩)
  | code n ok =>
    exact .inl (List.forall_mem_cons.mpr
      ⟨rfl, List.forall_mem_cons.mpr ⟨rfl, isVisible_of_mem_hexDigits 4 n⟩⟩)

theorem allowed (g : Glyph) : ∀ c ∈ g.text, isAllowed c := by
  rcases g.visible_or_space with h | ⟨h, -⟩
  · exact fun c hc => isAllowed_of_isVisible (h c hc)
  · rw [h]
    exact List.forall_mem_singleton.mpr rfl

end Glyph

/-! ### The reading of a glyph -/

/-- What is left of a scalar between double quotes is **read** as some characters, up to a place. -/
def ReadsQuoted (c : Cursor) (cs : List Char) (d : Cursor) : Prop :=
  ∀ fuel, c.rest.length < fuel → Cursor.quotedFrom true fuel c = .ok (cs, d)

section ReadsQuoted

variable {c e : Cursor} {cs r : List Char}

theorem readsQuoted_end (hc : c.rest = '"' :: r) : ReadsQuoted c [] (c.onward 1 r) := by
  rintro (_ | fuel) hf
  · exact absurd hf (Nat.not_lt_zero _)
  · simp [Cursor.quotedFrom, Cursor.head_of_rest hc, Cursor.next_of_inline hc rfl]

/-- A character that is **visible** and has no other meaning is read as itself. -/
theorem ReadsQuoted.own {ch : Char} (hv : isVisible ch) (hq : ch ≠ '"') (hs : ch ≠ '\\')
    (hc : c.rest = ch :: r) (h : ReadsQuoted (c.onward 1 r) cs e) : ReadsQuoted c (ch :: cs) e := by
  rintro (_ | fuel) hf
  · exact absurd hf (Nat.not_lt_zero _)
  have hg := isGap_of_isVisible hv
  have hn := Cursor.next_of_inline hc (isInline_of_isVisible hv)
  have hrest := h fuel (by rw [hc] at hf; exact Nat.lt_of_succ_lt_succ hf)
  simp [Cursor.quotedFrom, Cursor.head_of_rest hc, hq, hs, hg, hn, hrest, bind, Except.bind, pure,
    Except.pure]

/-- An **escape** is read as its character. -/
theorem ReadsQuoted.escape {ch : Char} {n : Nat} {t : List Char} (hc : c.rest = '\\' :: t)
    (he : (c.onward 1 t).escape = .ok ([ch], c.onward (1 + n) r)) (hr : r.length ≤ t.length)
    (h : ReadsQuoted (c.onward (1 + n) r) cs e) : ReadsQuoted c (ch :: cs) e := by
  rintro (_ | fuel) hf
  · exact absurd hf (Nat.not_lt_zero _)
  have hrest := h fuel (by rw [hc] at hf; exact Nat.lt_of_le_of_lt hr (Nat.lt_of_succ_lt_succ hf))
  simp [Cursor.quotedFrom, Cursor.head_of_rest hc, Cursor.next_of_inline hc rfl, he, hrest, bind,
    Except.bind, pure, Except.pure]

/-- A letter after a backslash. -/
theorem escape_short {letter ch : Char} (hv : isVisible letter)
    (hl : Cursor.escaped? letter = some ch) (hc : c.rest = letter :: r) :
    c.escape = .ok ([ch], c.onward 1 r) := by
  rw [Cursor.escape, Cursor.head_of_rest hc, hl,
    Cursor.next_of_inline hc (isInline_of_isVisible hv)]

/-- A code after a backslash. -/
theorem escape_code {n : Nat} (hn : n < 0x10000) (hc : c.rest = 'u' :: (hexDigits 4 n ++ r)) :
    c.escape = .ok ([Char.ofNat n], c.onward 5 r) := by
  have hlength := Json.length_hexDigits hn
  have hnext := Cursor.next_of_inline hc rfl
  have hskip := Cursor.skip_eq (c := c.onward 1 (hexDigits 4 n ++ r))
    (fun ch hch => isInline_of_isVisible (Glyph.isVisible_of_mem_hexDigits 4 n ch hch)) rfl
  rw [hlength, Cursor.onward_onward] at hskip
  have hcode : Cursor.charOfCode n = .ok (Char.ofNat n) := if_pos (by omega)
  have hletter : Cursor.escaped? 'u' = none := rfl
  have hdigits : Cursor.codeLength? 'u' = some 4 := rfl
  simp [Cursor.escape, Cursor.head_of_rest hc, hletter, hdigits, hnext, hskip, hcode,
    List.take_left' hlength, hlength, Json.hexNumber?_hexDigits, require, bind, Except.bind, pure,
    Except.pure]

/-- A **glyph** that is no space is read as its character. -/
theorem ReadsQuoted.glyph {g : Glyph} (hv : ∀ ch ∈ g.text, isVisible ch)
    (hc : c.rest = g.text ++ r) (h : ReadsQuoted (c.onward g.text.length r) cs e) :
    ReadsQuoted c (g.char :: cs) e := by
  cases g with
  | own ch ok =>
    simp only [isOwn, Bool.and_eq_true, decide_eq_true_eq] at ok
    exact .own (hv ch List.mem_cons_self) ok.1.2 ok.2 hc h
  | short letter ch ok =>
    refine .escape hc ?_ (Nat.le_succ _) h
    rw [escape_short ok.1 ok.2 rfl, Cursor.onward_onward]
    rfl
  | code n ok =>
    have hlength : (Json.codeEscape n).length = 1 + 5 :=
      congrArg (· + 2) (Json.length_hexDigits ok)
    have hrest : r.length ≤ ('u' :: (hexDigits 4 n ++ r)).length := by
      simp only [List.length_cons, List.length_append]
      omega
    rw [Glyph.text, hlength] at h
    refine .escape hc ?_ hrest h
    rw [escape_code ok rfl, Cursor.onward_onward]
    rfl

/-- The space up to a visible character on the same line. -/
theorem quotedSpace_spaces {ch : Char} {n : Nat} (hv : isVisible ch)
    (hc : c.rest = List.replicate n ' ' ++ ch :: r) :
    c.quotedSpace = .ok (List.replicate n ' ', c.onward n (ch :: r)) := by
  have hspace : ∀ x ∈ List.replicate n ' ', x = ' ' := fun _ => List.eq_of_mem_replicate
  have hne : ∀ x, isVisible x = false → ch ≠ x := fun x => ne_of_isVisible hv
  have htake := Cursor.takeWhile_eq (p := fun x => x = ' ' || x = '\t') hc
    (fun x hx => by rw [hspace x hx]; rfl) (fun x hx => by simp [hspace x hx])
    (by simp [hne ' ' rfl, hne '\t' rfl])
  rw [List.length_replicate] at htake
  have hhead : (c.onward n (ch :: r)).head = ch := Cursor.head_of_rest rfl
  simp [Cursor.quotedSpace, htake, hhead, hne '\x00' rfl, isBreak_of_isVisible hv, require, bind,
    Except.bind, pure, Except.pure]

/-- **Spaces** within a line are read as themselves. -/
theorem ReadsQuoted.spaces {ch : Char} {n : Nat} {t : List Char} (ht : t = ch :: r)
    (hv : isVisible ch) (hc : c.rest = List.replicate n ' ' ++ t)
    (h : ReadsQuoted (c.onward n t) cs e) : ReadsQuoted c (List.replicate n ' ' ++ cs) e := by
  subst ht
  cases n with
  | zero => rwa [Cursor.onward_zero (show c.rest = ch :: r from hc)] at h
  | succ n =>
    rintro (_ | fuel) hf
    · exact absurd hf (Nat.not_lt_zero _)
    have hrest := h fuel (by
      rw [hc] at hf
      simp at hf ⊢
      omega)
    have hfirst : c.head = ' ' := Cursor.head_of_rest (by rw [hc, List.replicate_succ]; rfl)
    have hgap : isGap ' ' = true := rfl
    simp [Cursor.quotedFrom, hfirst, hgap, quotedSpace_spaces hv hc, hrest, bind, Except.bind, pure,
      Except.pure]

end ReadsQuoted

/-! ### The reading of a scalar -/

/-- Some **glyphs**, with some spaces in front of them, are read up to the closing quote. -/
theorem readsQuoted_glyphs {r : List Char} (gs : List Glyph) :
    ∀ {n : Nat} {c : Cursor}, c.rest = List.replicate n ' ' ++ (gs.flatMap Glyph.text ++ '"' :: r) →
      ReadsQuoted c (List.replicate n ' ' ++ gs.map Glyph.char)
        (c.onward (n + (gs.flatMap Glyph.text).length + 1) r) := by
  induction gs with
  | nil =>
    intro n c hc
    have hend := readsQuoted_end (c := c.onward n ('"' :: r)) rfl
    rw [Cursor.onward_onward] at hend
    exact .spaces rfl rfl hc hend
  | cons g gs ih =>
    intro n c hc
    rw [List.flatMap_cons, List.append_assoc] at hc
    rw [List.flatMap_cons, List.length_append, List.map_cons]
    rcases g.visible_or_space with hv | ⟨htext, hchar⟩
    · obtain ⟨ch, t, ht⟩ : ∃ ch t, g.text = ch :: t := by cases g <;> exact ⟨_, _, rfl⟩
      have hfirst : g.text ++ (gs.flatMap Glyph.text ++ '"' :: r)
          = ch :: (t ++ (gs.flatMap Glyph.text ++ '"' :: r)) := by rw [ht, List.cons_append]
      have hvisible : isVisible ch := hv ch (by rw [ht]; exact List.mem_cons_self)
      have hread := ReadsQuoted.spaces hfirst hvisible hc (.glyph hv rfl (ih (n := 0) rfl))
      simpa [Cursor.onward_onward, Nat.add_assoc] using hread
    · -- the space joins those in front of it
      have hread := ih (n := n + 1) (c := c)
        (by rw [hc, htext, List.replicate_succ', List.append_assoc])
      rw [List.replicate_succ', List.append_assoc] at hread
      simpa [htext, hchar, Nat.add_assoc, Nat.add_comm 1] using hread

/-- A scalar between double quotes is read as **the characters of its glyphs**. -/
theorem quoted_eq {gs : List Glyph} {r : List Char} {c : Cursor}
    (hc : c.rest = '"' :: (gs.flatMap Glyph.text ++ '"' :: r)) (hs : c.rest.length ≤ c.size) :
    c.quoted true = .ok (.scalar (String.ofList (gs.map Glyph.char)) false,
      c.onward ((gs.flatMap Glyph.text).length + 2) r) := by
  have hread := readsQuoted_glyphs gs (n := 0)
    (c := c.onward 1 (gs.flatMap Glyph.text ++ '"' :: r)) rfl (c.size + 1) (by
      rw [hc] at hs
      simp at hs ⊢
      omega)
  rw [Cursor.onward_onward] at hread
  simp [Cursor.quoted, Cursor.next_of_inline hc rfl, hread, bind, Except.bind, pure, Except.pure,
    Nat.add_comm 1]

end StackManifest.Yaml
