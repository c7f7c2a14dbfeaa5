import StackManifest.Yaml.Cursor
import StackManifest.Yaml.Scalar

/-!
# How a scalar is written

A scalar is written without quotes if it can be read back so, between single quotes if it
holds only basic characters, and between double quotes otherwise.

* `Shape` – what in a text **matters** for its style, and `Shape.ofText`;
* `Style` and `Scalar.style` – the style of a scalar;
* `Scalar` – a scalar to be written: its tag and its text.
-/

namespace StackManifest.Yaml

/-- A scalar to be written: its tag, its text, and whether it is written **line by line**. -/
structure Scalar where
  tag : String
  text : String
  lines : Bool

/-- What in a text **matters** for its style. -/
structure Shape where
  empty : Bool
  /-- There is a line break. -/
  multiline : Bool
  /-- It can stand without quotes. -/
  plain : Bool
  /-- It can stand between single quotes. -/
  single : Bool
  /-- It can stand line by line. -/
  block : Bool
  deriving DecidableEq, Repr

/-- A character that breaks a written line. -/
def breaksLine (c : Char) : Bool :=
  c = '\n' || c = '\u0085' || c = '\u2028' || c = '\u2029'

/-- A character beyond the basic ones. -/
def isSpecial (c : Char) : Bool := c ≠ '\n' && !('\x20' ≤ c && c ≤ '\x7E')

/-- The characters with which no plain scalar begins. -/
def indicators : List Char := "#,[]\x7b\x7d&*!|>'\"%@\x60".toList

/-- A character with the one before and the one after it. -/
structure Neighbours where
  before : Option Char
  char : Char
  after : Option Char

/-- The characters of a text with those around them. -/
def neighbours (before : Option Char) : List Char → List Neighbours
  | [] => []
  | c :: cs => ⟨before, c, cs.head?⟩ :: neighbours (some c) cs

/-- Whether a character is followed by the end of a word. -/
def Neighbours.endsWord (n : Neighbours) : Bool := (n.after.map isGap).getD true

/-- Whether a character would mean something in a scalar without quotes. -/
def Neighbours.isMark (n : Neighbours) : Bool :=
  match n.before with
  | none =>
    indicators.contains n.char || (['?', ':', '-'].contains n.char && n.endsWord)
  | some b => (n.char = ':' && n.endsWord) || (n.char = '#' && isGap b)

/-- Whether a text is like a mark between documents at its beginning. -/
def beginsLikeMark (cs : List Char) : Bool :=
  "---".toList.isPrefixOf cs || "...".toList.isPrefixOf cs

namespace Shape

/-- The shape of a **text**. Blanks at an end, blanks beside a line break, and characters beyond
the basic ones each rule out some styles. -/
def ofText (cs : List Char) : Shape :=
  if cs.isEmpty then ⟨true, false, true, true, false⟩
  else
    let ns := neighbours none cs
    let special := cs.any isSpecial
    let broken := cs.any breaksLine
    let edge := fun (c : Option Char) => (c.map fun c => c = ' ' || breaksLine c).getD false
    let breakThenSpace := ns.any fun n => n.char = ' ' && (n.before.map breaksLine).getD false
    let spaceThenBreak := ns.any fun n => breaksLine n.char && n.before = some ' '
    { empty := false, multiline := broken,
      plain := !(special || broken || edge cs.head? || edge cs.getLast? || beginsLikeMark cs
        || ns.any Neighbours.isMark),
      single := !(special || spaceThenBreak || breakThenSpace),
      block := !(special || spaceThenBreak || cs.getLast? = some ' ') }

end Shape

/-- The **styles** of scalars. -/
inductive Style where
  | plain
  | single
  | double
  | block
  deriving DecidableEq, Repr

namespace Scalar

/-- Whether a scalar is read back as it is when it stands without quotes. -/
def readsPlain (s : Scalar) : Bool := plainTag s.text = s.tag

/-- The **style** of a scalar, as a key or elsewhere. -/
def style (s : Scalar) (asKey : Bool) : Style :=
  let shape := Shape.ofText s.text.toList
  if s.lines then (if !asKey && shape.block then .block else .double)
  else if s.readsPlain && shape.plain && !(asKey && (shape.empty || shape.multiline)) then .plain
  else if shape.single && !(asKey && shape.multiline) then .single
  else .double

/-- The short form of the tag. -/
def shortTag (s : Scalar) : String := "!!" ++ (s.tag.drop Tag.common.length).toString

/-- Whether the tag has to be written: the scalar would be read back under another one. -/
def needsTag (s : Scalar) (style : Style) : Bool :=
  if style = .plain then !s.readsPlain else s.tag ≠ Tag.str

end Scalar

end StackManifest.Yaml
