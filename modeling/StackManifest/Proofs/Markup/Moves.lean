import Mathlib.Data.List.TakeWhile
import StackManifest.Yaml.Token.Lexer

/-!
# Moving through a markup text

What the moves of the reading do where the text is plain: visible characters take one column each,
and the space between the parts of a text is made of line feeds and spaces.

* `isVisible` – the **visible** basic characters, among which are no gaps and breaks;
* `Cursor.onward` – the place some **columns** further, and `Cursor.skip_eq`, which leads there;
* `gap` – the **space** of some line feeds and some spaces, and `Cursor.below`, the place after it;
* `skipSpace_gap` and `plainSpace_gap` – the space between tokens and the space after a plain
  scalar are passed up to the same place.
-/

namespace StackManifest.Yaml

/-! ### Visible characters -/

/-- A **visible** basic character. -/
def isVisible (c : Char) : Bool := 0x21 ≤ c.toNat && c.toNat ≤ 0x7E

/-- A character within a line: it neither ends the line nor marks the order of the bytes. -/
def isInline (c : Char) : Bool := !isBreak c && c ≠ '\uFEFF'

theorem ne_of_isVisible {c d : Char} (h : isVisible c) (hd : isVisible d = false) : c ≠ d := by
  rintro rfl
  rw [h] at hd
  exact absurd hd (by decide)

theorem isBreak_of_isVisible {c : Char} (h : isVisible c) : isBreak c = false := by
  have ne : ∀ d, isVisible d = false → c ≠ d := fun d => ne_of_isVisible h
  simp [isBreak, ne '\r' rfl, ne '\n' rfl, ne '\u0085' rfl, ne '\u2028' rfl, ne '\u2029' rfl]

theorem isBreak_of_isInline {c : Char} (h : isInline c) : isBreak c = false := by
  simp only [isInline, Bool.and_eq_true, Bool.not_eq_true'] at h
  exact h.1

theorem isInline_of_isVisible {c : Char} (h : isVisible c) : isInline c := by
  simp [isInline, isBreak_of_isVisible h, ne_of_isVisible h (d := '\uFEFF') rfl]

theorem isGap_of_isVisible {c : Char} (h : isVisible c) : isGap c = false := by
  have ne : ∀ d, isVisible d = false → c ≠ d := fun d => ne_of_isVisible h
  simp [isGap, isSpaceOrEnd, isBreakOrEnd, isBreak_of_isVisible h, ne '\x00' rfl, ne ' ' rfl,
    ne '\t' rfl]

theorem isAllowed_of_isVisible {c : Char} (h : isVisible c) : isAllowed c := by
  simp only [isVisible, Bool.and_eq_true, decide_eq_true_eq] at h
  simp only [isAllowed, Bool.or_eq_true, Bool.and_eq_true, decide_eq_true_eq]
  omega

theorem isVisible_of_isAlphanum {c : Char} (h : c.isAlphanum) : isVisible c := by
  have hranges : ((decide ('A'.val ≤ c.val ∧ c.val ≤ 'Z'.val)
      || (decide ('a'.val ≤ c.val) && decide (c.val ≤ 'z'.val)))
      || (decide ('0'.val ≤ c.val) && decide (c.val ≤ '9'.val))) = true := h
  simp only [Bool.or_eq_true, Bool.and_eq_true, decide_eq_true_eq, isVisible,
    UInt32.le_iff_toNat_le, ← Char.toNat_val] at hranges ⊢
  have : 'A'.val.toNat = 65 ∧ 'Z'.val.toNat = 90 := ⟨rfl, rfl⟩
  have : 'a'.val.toNat = 97 ∧ 'z'.val.toNat = 122 := ⟨rfl, rfl⟩
  have : '0'.val.toNat = 48 ∧ '9'.val.toNat = 57 := ⟨rfl, rfl⟩
  omega

/-! ### Along a line -/

namespace Cursor

/-- The place some **columns** further on the same line, where some text is left. -/
def onward (c : Cursor) (n : Nat) (rest : List Char) : Cursor :=
  ⟨rest, c.size, c.index + n, c.line, c.column + n⟩

@[simp] theorem onward_rest (c : Cursor) (n : Nat) (r : List Char) : (c.onward n r).rest = r := rfl
@[simp] theorem onward_size (c : Cursor) (n : Nat) (r : List Char) :
    (c.onward n r).size = c.size := rfl
@[simp] theorem onward_index (c : Cursor) (n : Nat) (r : List Char) :
    (c.onward n r).index = c.index + n := rfl
@[simp] theorem onward_line (c : Cursor) (n : Nat) (r : List Char) :
    (c.onward n r).line = c.line := rfl
@[simp] theorem onward_column (c : Cursor) (n : Nat) (r : List Char) :
    (c.onward n r).column = c.column + n := rfl

theorem onward_onward (c : Cursor) (m n : Nat) (r r' : List Char) :
    (c.onward m r').onward n r = c.onward (m + n) r := by
  simp [onward, Nat.add_assoc]

theorem onward_zero {c : Cursor} {r : List Char} (h : c.rest = r) : c.onward 0 r = c := by
  subst h
  rfl

theorem head_of_rest {c : Cursor} {ch : Char} {r : List Char} (h : c.rest = ch :: r) :
    c.head = ch := by
  simp [head, peek, h]

theorem peek_one_of_rest {c : Cursor} {ch : Char} {r : List Char} (h : c.rest = ch :: r) :
    c.peek 1 = r.headD '\x00' := by
  cases r <;> simp [peek, h]

theorem next_of_inline {c : Cursor} {ch : Char} {r : List Char} (h : c.rest = ch :: r)
    (hi : isInline ch) : c.next = c.onward 1 r := by
  simp only [isInline, Bool.and_eq_true, Bool.not_eq_true', decide_eq_true_eq] at hi
  simp [next, h, hi.1, hi.2, onward]

/-- Characters within a line take one **column** each. -/
theorem skip_eq {cs : List Char} (hi : ∀ ch ∈ cs, isInline ch) {r : List Char} :
    ∀ {c : Cursor}, c.rest = cs ++ r → c.skip cs.length = c.onward cs.length r := by
  induction cs with
  | nil =>
    intro c h
    exact (onward_zero h).symm
  | cons ch cs ih =>
    intro c h
    have hn := next_of_inline (r := cs ++ r) h (hi ch List.mem_cons_self)
    rw [List.length_cons, skip, hn, ih (fun x hx => hi x (List.mem_cons_of_mem _ hx)) rfl,
      onward_onward, Nat.add_comm]

/-- The characters of a class up to one that is none of them, or up to the end. -/
theorem takeWhile_eq {p : Char → Bool} {c : Cursor} {cs r : List Char} (h : c.rest = cs ++ r)
    (hi : ∀ ch ∈ cs, isInline ch) (hp : ∀ ch ∈ cs, p ch) (hr : ∀ ch ∈ r.head?, p ch = false) :
    c.takeWhile p = (cs, c.onward cs.length r) := by
  have ht : r.takeWhile p = [] := by
    cases r with
    | nil => rfl
    | cons ch r => simp [hr ch rfl]
  have hc : c.rest.takeWhile p = cs := by
    rw [h, List.takeWhile_append_of_pos hp, ht, List.append_nil]
  simp only [takeWhile, hc, skip_eq hi h]

theorem skipSpaces_eq {c : Cursor} {k : Nat} {r : List Char} (h : c.rest = List.replicate k ' ' ++ r)
    (hr : r.head? ≠ some ' ') : c.skipSpaces = c.onward k r := by
  have space : ∀ ch ∈ List.replicate k ' ', ch = ' ' := fun _ => List.eq_of_mem_replicate
  have := takeWhile_eq (p := (· = ' ')) h (fun ch hc => by rw [space ch hc]; rfl)
    (fun ch hc => by simp [space ch hc]) (fun ch hc => by simpa using fun e : ch = ' ' => hr (e ▸ hc))
  rw [skipSpaces, skipWhile, this, List.length_replicate]

/-! ### Over line feeds -/

/-- The place after some **line feeds** and then some spaces, where some text is left. -/
def below (c : Cursor) (m k : Nat) (rest : List Char) : Cursor :=
  ⟨rest, c.size, c.index + m + k, c.line + m, if m = 0 then c.column + k else k⟩

@[simp] theorem below_rest (c : Cursor) (m k : Nat) (r : List Char) : (c.below m k r).rest = r := rfl
@[simp] theorem below_size (c : Cursor) (m k : Nat) (r : List Char) :
    (c.below m k r).size = c.size := rfl
@[simp] theorem below_line (c : Cursor) (m k : Nat) (r : List Char) :
    (c.below m k r).line = c.line + m := rfl
@[simp] theorem below_succ_column (c : Cursor) (m k : Nat) (r : List Char) :
    (c.below (m + 1) k r).column = k := rfl
@[simp] theorem below_zero (c : Cursor) (k : Nat) (r : List Char) :
    c.below 0 k r = c.onward k r := rfl

theorem lineBreak_of_rest {c : Cursor} {r : List Char} (h : c.rest = '\n' :: r) :
    c.lineBreak = (['\n'], c.below 1 0 r) := by
  have hh := head_of_rest h
  have hn : c.next = c.below 1 0 r := by simp [next, h, isBreak, below]
  simp [lineBreak, hh, hn, isBreak]

theorem below_below (c : Cursor) (m k : Nat) (r r' : List Char) :
    (c.below 1 0 r').below m k r = c.below (m + 1) k r := by
  cases m with
  | zero => simp [below]
  | succ m =>
    simp [below]
    omega

end Cursor

/-- The **space** of some line feeds and then some spaces. -/
def gap (m k : Nat) : List Char := List.replicate m '\n' ++ List.replicate k ' '

theorem gap_succ (m k : Nat) : gap (m + 1) k = '\n' :: gap m k := by
  simp [gap, List.replicate_succ]

@[simp] theorem length_gap (m k : Nat) : (gap m k).length = m + k := by simp [gap]

/-- A text that a line begins with after its indentation: no comment, and no mark between
documents. -/
structure IsContent (r : List Char) : Prop where
  head : ∀ ch ∈ r.head?, ch ≠ ' ' ∧ ch ≠ '#' ∧ ch ≠ '.' ∧ isInline ch
  marks : r.take 2 ≠ ['-', '-']

namespace IsContent

variable {r : List Char}

theorem head_ne_space (h : IsContent r) : r.head? ≠ some ' ' := fun e => (h.head ' ' e).1 rfl

theorem cursor_head (h : IsContent r) {c : Cursor} (hc : c.rest = r) :
    c.head ≠ ' ' ∧ c.head ≠ '#' ∧ isInline c.head := by
  cases r with
  | nil =>
    have : c.head = '\x00' := by simp [Cursor.head, Cursor.peek, hc]
    rw [this]
    decide
  | cons ch r =>
    rw [Cursor.head_of_rest hc]
    obtain ⟨h₁, h₂, -, h₄⟩ := h.head ch rfl
    exact ⟨h₁, h₂, h₄⟩

/-- No mark between documents stands in the space before the content of a line or at the
content. -/
theorem isDocumentMark_gap (h : IsContent r) {c : Cursor} {m k : Nat} (hc : c.rest = gap m k ++ r) :
    c.isDocumentMark = false := by
  have hyphens : ¬ ("---".toList <+: c.rest) := by
    rintro ⟨t, ht⟩
    have h2 : (gap m k ++ r).take 2 = ['-', '-'] := by
      rw [← hc, ← ht]
      rfl
    rcases m with _ | m
    · rcases k with _ | k
      · exact h.marks (by simpa [gap] using h2)
      · simp [gap, List.replicate_succ] at h2
    · simp [gap_succ] at h2
  have points : ¬ ("...".toList <+: c.rest) := by
    rintro ⟨t, ht⟩
    have h1 : (gap m k ++ r).head? = some '.' := by
      rw [← hc, ← ht]
      rfl
    rcases m with _ | m
    · rcases k with _ | k
      · exact (h.head '.' (by simpa [gap] using h1)).2.2.1 rfl
      · simp [gap, List.replicate_succ] at h1
    · simp [gap_succ] at h1
  simp only [Cursor.isDocumentMark, Cursor.startsWith, Bool.and_eq_false_imp, Bool.or_eq_true,
    List.isPrefixOf_iff_prefix]
  rintro (hp | hp)
  · exact absurd hp hyphens
  · exact absurd hp points

end IsContent

/-- The space **between tokens** is passed. -/
theorem skipSpace_gap {r : List Char} (hr : IsContent r) {k : Nat} :
    ∀ {m fuel : Nat} {c : Cursor} (broke : Bool), m < fuel → c.rest = gap m k ++ r →
      Lexer.skipSpace fuel c broke = (c.below m k r, broke || m ≠ 0) := by
  intro m
  induction m with
  | zero =>
    rintro (_ | fuel) c broke hf hc
    · exact absurd hf (Nat.lt_irrefl 0)
    have hs : c.skipSpaces = c.onward k r :=
      Cursor.skipSpaces_eq (by simpa [gap] using hc) hr.head_ne_space
    obtain ⟨-, h₂, h₃⟩ := hr.cursor_head (c := c.onward k r) rfl
    simp [Lexer.skipSpace, hs, h₂, isBreak_of_isInline h₃]
  | succ m ih =>
    rintro (_ | fuel) c broke hf hc
    · exact absurd hf (Nat.not_lt_zero _)
    have hn : c.rest = '\n' :: (gap m k ++ r) := by rw [hc, gap_succ, List.cons_append]
    have hs : c.skipSpaces = c := by
      rw [Cursor.skipSpaces_eq (k := 0) (r := c.rest) rfl (by simp [hn]), Cursor.onward_zero rfl]
    have hb : isBreak '\n' := rfl
    have := ih (c := c.below 1 0 (gap m k ++ r)) true (show m < fuel by omega) rfl
    simp [Lexer.skipSpace, hs, Cursor.head_of_rest hn, hb, Cursor.lineBreak_of_rest hn, this,
      Cursor.below_below]

namespace Cursor

/-- The line breaks and spaces within a plain scalar are passed up to the content of a line. -/
theorem plainBreaks_gap {r : List Char} (hr : IsContent r) :
    ∀ {m k fuel : Nat} {c : Cursor}, m + k < fuel → c.rest = gap m k ++ r →
      plainBreaks fuel c = some (List.replicate m '\n', c.below m k r) := by
  intro m
  induction m with
  | zero =>
    intro k
    induction k with
    | zero =>
      rintro (_ | fuel) c hf hc
      · exact absurd hf (Nat.not_lt_zero _)
      have hc' : c.rest = r := by simpa [gap] using hc
      obtain ⟨h₁, -, h₃⟩ := hr.cursor_head hc'
      simp [plainBreaks, h₁, isBreak_of_isInline h₃, onward_zero hc']
    | succ k ih =>
      rintro (_ | fuel) c hf hc
      · exact absurd hf (Nat.not_lt_zero _)
      have hn : c.rest = ' ' :: (gap 0 k ++ r) := by
        rw [hc]
        simp [gap, List.replicate_succ]
      have := ih (c := c.onward 1 (gap 0 k ++ r)) (show 0 + k < fuel by omega) rfl
      simp [plainBreaks, head_of_rest hn, next_of_inline hn rfl, this, onward_onward,
        Nat.add_comm]
  | succ m ih =>
    rintro k (_ | fuel) c hf hc
    · exact absurd hf (Nat.not_lt_zero _)
    have hn : c.rest = '\n' :: (gap m k ++ r) := by rw [hc, gap_succ, List.cons_append]
    have hb : isBreak '\n' := rfl
    have hm := hr.isDocumentMark_gap (c := c.below 1 0 (gap m k ++ r)) rfl
    have := ih (c := c.below 1 0 (gap m k ++ r)) (show m + k < fuel by omega) rfl
    simp [plainBreaks, head_of_rest hn, hb, lineBreak_of_rest hn, hm, this, below_below,
      List.replicate_succ]

/-- The space **after a plain scalar** is passed up to the content of the next line. -/
theorem plainSpace_gap {r : List Char} (hr : IsContent r) {m k : Nat} {c : Cursor}
    (hs : c.rest.length ≤ c.size) (hc : c.rest = gap (m + 1) k ++ r) :
    ∃ space, space ≠ [] ∧ c.plainSpace = (space, c.below (m + 1) k r, true) := by
  have hn : c.rest = '\n' :: (gap m k ++ r) := by rw [hc, gap_succ, List.cons_append]
  have hb : isBreak '\n' := rfl
  have ht : c.takeWhile (· = ' ') = ([], c) := by
    rw [takeWhile_eq (show c.rest = [] ++ c.rest from rfl) (by simp) (by simp) (by simp [hn])]
    exact congrArg _ (onward_zero rfl)
  have hm := hr.isDocumentMark_gap (c := c.below 1 0 (gap m k ++ r)) rfl
  have hp := plainBreaks_gap hr (c := c.below 1 0 (gap m k ++ r))
    (show m + k < c.size + 1 by rw [hn] at hs; simp at hs; omega) rfl
  refine ⟨foldBreaks ['\n'] (List.replicate m '\n'), ?_, ?_⟩
  · cases m <;> simp [foldBreaks, List.replicate_succ]
  · simp [plainSpace, ht, head_of_rest hn, hb, lineBreak_of_rest hn, hm, hp, below_below]

/-- There is no space after a plain scalar at the end of the text. -/
theorem plainSpace_end {c : Cursor} (h : c.rest = []) : c.plainSpace = ([], c, false) := by
  have ht : c.takeWhile (· = ' ') = ([], c) := by simp [takeWhile, h, skip]
  have hh : c.head = '\x00' := by simp [head, peek, h]
  have hb : isBreak '\x00' = false := rfl
  simp [plainSpace, ht, hh, hb]

end Cursor

end StackManifest.Yaml
