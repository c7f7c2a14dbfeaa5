import StackManifest.Proofs.Markup.Escapes

/-!
# Texts made of rows

A markup text without comments, brackets, anchors and tags is made of rows: a name with a colon
and perhaps a scalar after it, or the mark of an item with a name or a scalar after it. How far
a row is indented says which blocks it ends and begins. Here are the rows, the text that they
are, and the tokens that they amount to, given the columns of the blocks that are open.

* `Word`, `RowScalar`, `Row` – what **rows** are made of;
* `Row.text`, `laterText` – the text of a row, and of the rows that come after another one;
* `rowLines` – the **lines** of rows, and `rowsText_cons`, that their text consists of them;
* `innermost`, `ends`, `opened`, `opening` – the **blocks** that a column ends and begins;
* `Row.tokens`, `Row.stack` – the tokens of a row, and the columns of the blocks that are open
  after it;
* `rowsTokens?` – the **tokens of rows** that fit together: no name is too long for a key, and
  no row goes on with the scalar before it.
-/

namespace StackManifest.Yaml

/-! ### Rows -/

/-- Whether some characters make up a **word**: visible ones without colons, the first of them
a letter or a digit. -/
def isWord (cs : List Char) : Bool :=
  cs.head?.any Char.isAlphanum && cs.all fun c => isVisible c && c ≠ ':'

/-- A **word**. -/
structure Word where
  chars : List Char
  ok : isWord chars = true

/-- A **scalar** in a row: a word, or some glyphs between double quotes. -/
inductive RowScalar where
  | plain (w : Word)
  | quoted (gs : List Glyph)

/-- What stands in a row: a name, which may begin an item, with an optional scalar after its
colon, or an item that is a scalar. -/
inductive RowBody where
  | field (dash : Bool) (name : Word) (value : Option RowScalar)
  | item (value : RowScalar)

/-- A **row** of a text, after some empty lines. -/
structure Row where
  gap : Nat
  indent : Nat
  body : RowBody

namespace Word

theorem exists_cons (w : Word) : ∃ c cs, w.chars = c :: cs ∧ c.isAlphanum := by
  have h := w.ok
  simp only [isWord, Bool.and_eq_true] at h
  cases hc : w.chars with
  | nil => simp [hc] at h
  | cons c cs => exact ⟨c, cs, rfl, by simpa [hc] using h.1⟩

theorem visible (w : Word) : ∀ c ∈ w.chars, isVisible c ∧ c ≠ ':' := by
  have h := w.ok
  simp only [isWord, Bool.and_eq_true, List.all_eq_true, decide_eq_true_eq] at h
  exact h.2

/-- A word as a text. -/
def string (w : Word) : String := String.ofList w.chars

/-- The token of a word. -/
def token (w : Word) : Token := .scalar w.string true

end Word

namespace RowScalar

/-- The text of a scalar. -/
def text : RowScalar → List Char
  | .plain w => w.chars
  | .quoted gs => '"' :: (gs.flatMap Glyph.text ++ ['"'])

/-- What a scalar says, as a text. -/
def string : RowScalar → String
  | .plain w => w.string
  | .quoted gs => String.ofList (gs.map Glyph.char)

/-- Whether a scalar stands without quotes. -/
def isPlain : RowScalar → Bool
  | .plain _ => true
  | .quoted _ => false

/-- The token of a scalar. -/
def token (v : RowScalar) : Token := .scalar v.string v.isPlain

end RowScalar

/-! ### The text of rows -/

/-- What comes after a name: its colon, and a scalar after a space. -/
def valueText : Option RowScalar → List Char
  | none => [':']
  | some v => ':' :: ' ' :: v.text

/-- The text of what stands in a row. -/
def RowBody.text : RowBody → List Char
  | .field dash name value => (if dash then ['-', ' '] else []) ++ (name.chars ++ valueText value)
  | .item value => '-' :: ' ' :: value.text

/-- The text of a row without what comes before it. -/
def Row.text (r : Row) : List Char := r.body.text

/-- The text of the rows that come **after** another row. -/
def laterText : List Row → List Char
  | [] => []
  | r :: rs => StackManifest.Yaml.gap (r.gap + 1) r.indent ++ (r.text ++ laterText rs)

/-- The text of some **rows**. -/
def rowsText : List Row → List Char
  | [] => []
  | r :: rs => r.text ++ laterText rs

/-! ### The lines of rows -/

/-- The **lines** of a row, the empty ones in front of it among them. -/
def Row.lines (r : Row) : List (List Char) :=
  List.replicate r.gap [] ++ [List.replicate r.indent ' ' ++ r.text]

/-- The **lines** of some rows. -/
def rowLines (rs : List Row) : List (List Char) := rs.flatMap Row.lines

/-- Empty lines after a line are line breaks. -/
theorem intercalate_replicate_nil (n : Nat) (cs l : List Char) (ls : List (List Char)) :
    ['\n'].intercalate (cs :: (List.replicate n [] ++ l :: ls))
      = cs ++ (List.replicate (n + 1) '\n' ++ ['\n'].intercalate (l :: ls)) := by
  induction n generalizing cs with
  | zero => simp [List.intercalate_cons_cons]
  | succ n ih =>
    rw [List.replicate_succ, List.cons_append, List.intercalate_cons_cons, ih]
    simp [List.replicate_succ]

theorem append_laterText (rs : List Row) (cs : List Char) :
    cs ++ laterText rs = ['\n'].intercalate (cs :: rowLines rs) := by
  induction rs generalizing cs with
  | nil => simp [laterText, rowLines]
  | cons r rs ih =>
    have hrow := intercalate_replicate_nil r.gap cs (List.replicate r.indent ' ' ++ r.text)
      (rowLines rs)
    rw [← ih] at hrow
    simpa [rowLines, Row.lines, laterText, gap] using hrow.symm

/-- The text of rows consists of their **lines**; the first row has none in front of it. -/
theorem rowsText_cons {r : Row} (hi : r.indent = 0) (rs : List Row) :
    rowsText (r :: rs) = ['\n'].intercalate ((rowLines (r :: rs)).drop r.gap) := by
  rw [rowsText, append_laterText]
  simp [rowLines, Row.lines, hi]

/-! ### All characters of rows -/

theorem visible_of_alphanum {c : Char} (h : c.isAlphanum) :
    c ≠ ' ' ∧ c ≠ '#' ∧ c ≠ '.' ∧ c ≠ '-' ∧ isInline c := by
  have ne : ∀ d : Char, d.isAlphanum = false → c ≠ d := by
    rintro d hd rfl
    rw [h] at hd
    exact absurd hd (by decide)
  exact ⟨ne _ rfl, ne _ rfl, ne _ rfl, ne _ rfl, isInline_of_isVisible (isVisible_of_isAlphanum h)⟩

theorem Word.isContent (w : Word) (r : List Char) : IsContent (w.chars ++ r) := by
  obtain ⟨c, cs, hw, hc⟩ := w.exists_cons
  obtain ⟨h₁, h₂, h₃, h₄, h₅⟩ := visible_of_alphanum hc
  rw [hw]
  constructor
  · rintro ch ⟨⟩
    exact ⟨h₁, h₂, h₃, h₅⟩
  · simp [h₄]

theorem RowScalar.isContent (v : RowScalar) (r : List Char) : IsContent (v.text ++ r) := by
  cases v with
  | plain w => exact w.isContent r
  | quoted gs =>
    constructor
    · rintro ch ⟨⟩
      decide
    · simp [text]

theorem isContent_dash (r : List Char) : IsContent ('-' :: ' ' :: r) := by
  constructor
  · rintro ch ⟨⟩
    decide
  · simp

theorem Row.isContent (r : Row) (rest : List Char) : IsContent (r.text ++ rest) := by
  rcases h : r.body with ⟨_ | _, name, value⟩ | ⟨value⟩
  · simpa [text, RowBody.text, h] using name.isContent (valueText value ++ rest)
  · simpa [text, RowBody.text, h] using isContent_dash (name.chars ++ (valueText value ++ rest))
  · simpa [text, RowBody.text, h] using isContent_dash (value.text ++ rest)

/-! ### All characters are allowed -/

theorem Word.allowed (w : Word) : ∀ c ∈ w.chars, isAllowed c := fun c hc =>
  isAllowed_of_isVisible (w.visible c hc).1

theorem RowScalar.allowed (v : RowScalar) : ∀ c ∈ v.text, isAllowed c := by
  cases v with
  | plain w => exact w.allowed
  | quoted gs =>
    simp only [text, List.mem_cons, List.mem_append, List.mem_flatMap, List.not_mem_nil, or_false]
    rintro c (rfl | ⟨g, -, hc⟩ | rfl)
    · rfl
    · exact g.allowed c hc
    · rfl

theorem Row.allowed (r : Row) : ∀ c ∈ r.text, isAllowed c := by
  have values : ∀ v, ∀ c ∈ valueText v, isAllowed c := by
    rintro (_ | v) c hc
    · simp only [valueText, List.mem_singleton] at hc
      exact hc ▸ rfl
    · simp only [valueText, List.mem_cons] at hc
      rcases hc with rfl | rfl | hc
      · rfl
      · rfl
      · exact v.allowed c hc
  intro c hc
  rcases h : r.body with ⟨_ | _, name, value⟩ | ⟨value⟩ <;>
    simp only [text, RowBody.text, h, List.mem_append, List.mem_cons, if_true, if_false,
      Bool.false_eq_true, List.not_mem_nil, false_or, or_false] at hc
  · rcases hc with hc | hc
    · exact name.allowed c hc
    · exact values _ c hc
  · rcases hc with (rfl | rfl) | hc | hc
    · rfl
    · rfl
    · exact name.allowed c hc
    · exact values _ c hc
  · rcases hc with rfl | rfl | hc
    · rfl
    · rfl
    · exact value.allowed c hc

theorem allowed_laterText : ∀ rs : List Row, ∀ c ∈ laterText rs, isAllowed c
  | [] => by simp [laterText]
  | r :: rs => by
    intro c hc
    simp only [laterText, gap, List.mem_append, List.mem_replicate] at hc
    rcases hc with (⟨-, rfl⟩ | ⟨-, rfl⟩) | hc | hc
    · rfl
    · rfl
    · exact r.allowed c hc
    · exact allowed_laterText rs c hc

/-! ### Blocks -/

/-- The column of the innermost block, and a column before all others if no block is open. -/
def top : List Nat → Int
  | [] => -1
  | n :: _ => n

@[simp] theorem top_cons (n : Nat) (s : List Nat) : top (n :: s) = n := rfl

/-- The blocks that stay **open** at a column. -/
def innermost (column : Int) (s : List Nat) : List Nat := s.dropWhile fun n : Nat => column < (n : Int)

/-- The ends of the blocks that a column **ends**. -/
def ends (column : Int) (s : List Nat) : List Token :=
  List.replicate (s.takeWhile fun n : Nat => column < (n : Int)).length .blockEnd

/-- The open blocks after one that **begins** at a column, if one begins there. -/
def opened (column : Nat) (s : List Nat) : List Nat := if top s < column then column :: s else s

/-- The beginning of a block at a column, if one begins there. -/
def opening (t : Token) (column : Nat) (s : List Nat) : List Token :=
  if top s < column then [t] else []

theorem top_innermost_le (column : Nat) (s : List Nat) : top (innermost column s) ≤ column := by
  induction s with
  | nil => simp [innermost, top]
  | cons n s ih =>
    rw [innermost, List.dropWhile_cons]
    split
    · exact ih
    · rename_i h
      simpa [top] using h

theorem innermost_of_top_le {column : Int} {s : List Nat} (h : top s ≤ column) :
    innermost column s = s ∧ ends column s = [] := by
  cases s with
  | nil => exact ⟨rfl, rfl⟩
  | cons n s =>
    have : ¬ column < (n : Int) := by simpa [top] using h
    simp [innermost, ends, this]

theorem top_opened {column : Nat} {s : List Nat} (h : top s ≤ column) :
    top (opened column s) = column := by
  unfold opened
  split
  · rfl
  · omega

/-! ### The tokens of rows -/

/-- The tokens of a name and the scalar after it, in front of which a block may begin. -/
def fieldTokens (column : Nat) (s : List Nat) (name : Word) (value : Option RowScalar) :
    List Token :=
  opening .blockMappingStart column s ++ [.key, name.token, .value]
    ++ (value.map RowScalar.token).toList

/-- The **tokens** of what stands at a column. -/
def RowBody.tokens (column : Nat) (s : List Nat) : RowBody → List Token
  | .field false name value => fieldTokens column s name value
  | .field true name value =>
    opening .blockSequenceStart column s
      ++ .blockEntry :: fieldTokens (column + 2) (opened column s) name value
  | .item value => opening .blockSequenceStart column s ++ [.blockEntry, value.token]

/-- The open blocks after what stands at a column. -/
def RowBody.stack (column : Nat) (s : List Nat) : RowBody → List Nat
  | .field true _ _ => opened (column + 2) (opened column s)
  | _ => opened column s

/-- The **tokens** of a row. -/
def Row.tokens (s : List Nat) (r : Row) : List Token :=
  ends r.indent s ++ r.body.tokens r.indent (innermost r.indent s)

/-- The **open blocks** after a row. -/
def Row.stack (s : List Nat) (r : Row) : List Nat :=
  r.body.stack r.indent (innermost r.indent s)

/-- Whether a name is short enough for a key. -/
def RowBody.isShort : RowBody → Bool
  | .field _ name _ => name.chars.length ≤ 1024
  | .item _ => true

/-- Whether a scalar ends a row. -/
def RowBody.hasScalar : RowBody → Bool
  | .field _ _ value => value.isSome
  | .item _ => true

/-- Whether a row **fits** between the open blocks and the next row: its name is short enough, and
what comes after a scalar is not indented further than its block. -/
def Row.fits (s : List Nat) (next : Option Row) (r : Row) : Bool :=
  r.body.isShort && (!r.body.hasScalar || next.all fun n => n.indent ≤ top (r.stack s))

/-- The **tokens of rows** that fit together, with the ends of all blocks and of the text. -/
def rowsTokens? (s : List Nat) : List Row → Option (List Token)
  | [] => some (ends (-1) s ++ [.streamEnd])
  | r :: rs =>
    if r.fits s rs.head? then (rowsTokens? (r.stack s) rs).map (r.tokens s ++ ·) else none

theorem rowsTokens?_cons_eq_some_iff {s : List Nat} {r : Row} {rs : List Row} {ts : List Token} :
    rowsTokens? s (r :: rs) = some ts ↔
      r.fits s rs.head? ∧ ∃ us, rowsTokens? (r.stack s) rs = some us ∧ ts = r.tokens s ++ us := by
  rw [rowsTokens?]
  by_cases h : r.fits s rs.head? = true
  · rw [if_pos h, Option.map_eq_some_iff]
    exact ⟨fun ⟨us, hu, e⟩ => ⟨h, us, hu, e.symm⟩, fun ⟨_, us, hu, e⟩ => ⟨us, hu, e.symm⟩⟩
  · simp [h]

end StackManifest.Yaml
