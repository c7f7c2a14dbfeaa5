/-!
# Places in a markup text

Where the reading of a markup text stands: what is left of the text, and the place reached,
because the layout of the text carries its structure.

* `isBreak` and its companions – the **classes** of characters that end lines and words;
* `Cursor` – the rest of the text with the number of characters, lines and columns before it, and
  how long the whole text is;
* `Cursor.peek`, `Cursor.next`, `Cursor.skip`, `Cursor.takeWhile` – looking and moving ahead;
* `Cursor.lineBreak` – a line break, in its **normal form**.

The character zero stands for the end of the text: it cannot occur in a text.
-/

namespace StackManifest.Yaml

/-- A character that ends a line. -/
def isBreak (c : Char) : Bool :=
  c = '\r' || c = '\n' || c = '\u0085' || c = '\u2028' || c = '\u2029'

/-- The end of a line or of the text. -/
def isBreakOrEnd (c : Char) : Bool := c = '\x00' || isBreak c

/-- A space, or the end of a line or of the text. -/
def isSpaceOrEnd (c : Char) : Bool := c = ' ' || isBreakOrEnd c

/-- A space or a tab, or the end of a line or of the text: what **ends a word**. -/
def isGap (c : Char) : Bool := c = '\t' || isSpaceOrEnd c

/-- A character that a text may hold: tabs, line breaks and everything but the controls, the
surrogates and two code points that are no characters. -/
def isAllowed (c : Char) : Bool :=
  let n := c.toNat
  n = 0x09 || n = 0x0A || n = 0x0D || (0x20 ≤ n && n ≤ 0x7E) || n = 0x85
    || (0xA0 ≤ n && n ≤ 0xD7FF) || (0xE000 ≤ n && n ≤ 0xFFFD) || 0x10000 ≤ n

/-- A basic letter or digit, a hyphen or an underscore: what **names** are made of. -/
def isWordChar (c : Char) : Bool := c.isAlphanum || c = '-' || c = '_'

/-- A **place** in a text: the rest of the text, the number of characters in the whole text, and
what lies before the place. -/
structure Cursor where
  rest : List Char
  size : Nat
  index : Nat
  line : Nat
  column : Nat
  deriving Repr

namespace Cursor

/-- The beginning of a text. -/
def start (cs : List Char) : Cursor := ⟨cs, cs.length, 0, 0, 0⟩

/-- The character some places ahead, the character zero beyond the end. -/
def peek (c : Cursor) (k : Nat) : Char := c.rest.getD k '\x00'

/-- The next character. -/
def head (c : Cursor) : Char := c.peek 0

/-- The place after the next character. A line feed after a carriage return belongs to the
same line break, and a byte order mark takes no column. -/
def next (c : Cursor) : Cursor :=
  match c.rest with
  | [] => c
  | ch :: rest =>
    if isBreak ch ∧ ¬(ch = '\r' ∧ rest.head? = some '\n') then
      ⟨rest, c.size, c.index + 1, c.line + 1, 0⟩
    else
      ⟨rest, c.size, c.index + 1, c.line, if ch = '\uFEFF' then c.column else c.column + 1⟩

/-- The place some characters ahead. -/
def skip : Nat → Cursor → Cursor
  | 0, c => c
  | n + 1, c => skip n c.next

/-- The next characters as long as they belong to a class, and the place after them. -/
def takeWhile (p : Char → Bool) (c : Cursor) : List Char × Cursor :=
  let cs := c.rest.takeWhile p
  (cs, c.skip cs.length)

/-- The place after the next characters of a class. -/
def skipWhile (p : Char → Bool) (c : Cursor) : Cursor := (c.takeWhile p).2

/-- The place after the spaces. -/
def skipSpaces (c : Cursor) : Cursor := c.skipWhile (· = ' ')

/-- Whether the next characters are given ones. -/
def startsWith (c : Cursor) (s : String) : Bool := s.toList.isPrefixOf c.rest

/-- A **line break** at the place, if there is one, in its normal form: a line feed for the
usual ones, and the separators of lines and paragraphs as they are. -/
def lineBreak (c : Cursor) : List Char × Cursor :=
  let ch := c.head
  if ch = '\r' ∧ c.peek 1 = '\n' then (['\n'], c.skip 2)
  else if ch = '\u2028' ∨ ch = '\u2029' then ([ch], c.next)
  else if isBreak ch then (['\n'], c.next)
  else ([], c)

/-- Whether a mark between documents stands here: three hyphens or three points as a word
of their own. -/
def isDocumentMark (c : Cursor) : Bool :=
  (c.startsWith "---" || c.startsWith "...") && isGap (c.peek 3)

end Cursor

end StackManifest.Yaml
