import StackManifest.Console.Colour

/-!
# Styles

How a part of a text looks on the console: which attributes are on or off, its colour, the colour
behind it, and where it links to. A style is written in words, and written back in their usual
order.

* `Style` and `Style.name` – a style, and its **usual name**;
* `Style.read` – the style that some words write, if they write one;
* `styleName` – the usual form of the name of a style, also of one that is not known.
-/

namespace StackManifest.Console

open StackManifest.Text

/-- A **style**. -/
structure Style where
  /-- The attributes that are set, and whether they are on. -/
  attributes : List (String × Bool)
  colour : Option String
  background : Option String
  link : Option String

namespace Style

/-- The style that changes nothing. -/
def plain : Style := ⟨[], none, none, none⟩

/-- The attributes, in the order in which they are named. -/
def attributeNames : List String :=
  ["bold", "dim", "italic", "underline", "blink", "blink2", "reverse", "conceal", "strike",
   "underline2", "frame", "encircle", "overline"]

/-- The short names of attributes. -/
def shortNames : List (String × String) :=
  [("d", "dim"), ("b", "bold"), ("i", "italic"), ("u", "underline"), ("r", "reverse"),
   ("c", "conceal"), ("s", "strike"), ("uu", "underline2"), ("o", "overline")]

/-- The attribute of a name. -/
def attribute? (word : String) : Option String :=
  if attributeNames.contains word then some word else shortNames.lookup word

/-- A style with an attribute on or off. -/
def set (s : Style) (name : String) (on : Bool) : Style :=
  { s with attributes := (name, on) :: s.attributes }

/-- The style of some words after those of a style, nothing if one of them cannot stand there. A
faulty colour is a fault. -/
def readFrom (s : Style) : List String → Except Fault (Option Style)
  | [] => .ok (some s)
  | word :: rest =>
    match lower word, rest with
    | "on", [] | "not", [] | "link", [] => .ok none
    | "on", next :: rest => do
      match ← readColour next with
      | some c => readFrom { s with background := some c } rest
      | none => return none
    | "not", next :: rest =>
      match attribute? next with
      | some a => readFrom (s.set a false) rest
      | none => .ok none
    | "link", next :: rest => readFrom { s with link := some next } rest
    | word, rest =>
      match attribute? word with
      | some a => readFrom (s.set a true) rest
      | none => do
        match ← readColour word with
        | some c => readFrom { s with colour := some c } rest
        | none => return none

/-- The words of a text. -/
def wordsOf (cs : List Char) : List String :=
  ((cs.splitBy fun c d => isBlank c = isBlank d).filter fun word =>
    !(word.head?.any isBlank)).map String.ofList

/-- The **style** that a text writes, nothing if it writes none. -/
def read (cs : List Char) : Except Fault (Option Style) :=
  if trim cs = "none".toList then .ok (some plain) else readFrom plain (wordsOf cs)

/-- The **usual name** of a style. -/
def name (s : Style) : String :=
  let attributes := attributeNames.flatMap fun a =>
    match s.attributes.lookup a with
    | some true => [a]
    | some false => ["not " ++ a]
    | none => []
  let words := attributes ++ s.colour.toList ++ (s.background.toList.map ("on " ++ ·))
    ++ (s.link.toList.map ("link " ++ ·))
  if words.isEmpty then "none" else " ".intercalate words

end Style

/-- The usual form of the **name of a style**: of one that is not known, in small letters. -/
def styleName (cs : List Char) : Except Fault String := do
  match ← Style.read cs with
  | some s => return s.name
  | none => return lower (String.ofList (trim cs))

end StackManifest.Console
