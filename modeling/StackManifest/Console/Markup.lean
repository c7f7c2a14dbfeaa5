import StackManifest.Console.Call
import StackManifest.Console.Emoji
import StackManifest.Console.Style

/-!
# Marks in console texts

A console text may hold marks between brackets that set a style from there on, and marks that
end one. Only the text without its marks is printed here, but a mark that ends nothing is a
fault all the same. A backslash before a mark makes it plain text, and the names of pictures
become pictures between the marks.

* `splitMark?` and `segments` – a mark at the beginning of a text, and the **segments** of it;
* `escape` – a text that is printed **as it is**, with all its brackets;
* `Marked` – a text without its marks, and the styles that they set;
* `Marked.plain` – the text, without the controls that would move the cursor.
-/

namespace StackManifest.Console

open StackManifest.Text

/-- A character with which a mark can begin, after its bracket. -/
def beginsMark (c : Char) : Bool :=
  ('a' ≤ c && c ≤ 'z') || c = '#' || c = '/' || c = '@'

/-- The inside of a **mark** at the beginning of a text, and the text after it. There is no
opening bracket in a mark. -/
def splitMark? (cs : List Char) : Option (List Char × List Char) :=
  match cs with
  | '[' :: c :: rest =>
    let inside := rest.takeWhile fun d => d ≠ '[' && d ≠ ']'
    match rest.dropWhile (fun d => d ≠ '[' && d ≠ ']') with
    | ']' :: after => if beginsMark c then some (c :: inside, after) else none
    | _ => none
  | _ => none

/-- A part of a console text: a character, or a mark with the number of backslashes before it. -/
inductive Segment where
  | char (c : Char)
  | mark (slashes : Nat) (inside : List Char)

/-- The **segments** of a text. Backslashes that no mark follows are characters. -/
def segments (fuel : Nat) (cs : List Char) : List Segment :=
  match fuel, cs with
  | 0, _ | _, [] => []
  | fuel + 1, c :: rest =>
    let slashes := cs.takeWhile (· = '\\')
    let after := cs.drop slashes.length
    match splitMark? after with
    | some (inside, tail) => .mark slashes.length inside :: segments fuel tail
    | none =>
      if slashes.isEmpty then .char c :: segments fuel rest
      else slashes.map .char ++ segments fuel after

/-- The text with a single backslash at its end doubled. -/
def closeSlash (cs : List Char) : List Char :=
  match cs.reverse with
  | '\\' :: '\\' :: _ => cs
  | '\\' :: _ => cs ++ ['\\']
  | _ => cs

/-- A text that is printed **as it is**: the backslashes before what looks like a mark are doubled
and one more is added, and a single backslash at the end is doubled. -/
def escape (s : String) : String :=
  let cs := (segments (s.length + 1) s.toList).flatMap fun
    | .char c => [c]
    | .mark n inside => List.replicate (2 * n + 1) '\\' ++ '[' :: inside ++ [']']
  String.ofList (closeSlash cs)

/-- The controls that are left out. -/
def isCursorControl (c : Char) : Bool :=
  c = '\x07' || c = '\x08' || c = '\x0b' || c = '\x0c' || c = '\r'

/-- The characters between two marks: a backslash before an opening bracket is left out. -/
def unescaped : List Char → List Char
  | [] => []
  | '\\' :: '[' :: cs => '[' :: unescaped cs
  | c :: cs => c :: unescaped cs

/-- A mark that sets a style: its name, and what comes after an equals sign. -/
structure Mark where
  name : String
  parameters : Option (List Char)

/-- The **mark** with some inside. -/
def Mark.read (inside : List Char) : Except Fault Mark := do
  let name := inside.takeWhile (· ≠ '=')
  return ⟨← styleName name,
    if name.length = inside.length then none else some (inside.drop (name.length + 1))⟩

/-- The style that a mark sets, in words. -/
def Mark.style (m : Mark) : List Char :=
  match m.parameters with
  | none => m.name.toList
  | some ps => m.name.toList ++ ' ' :: ps

/-- Whether a mark names a call. -/
def Mark.isCall (m : Mark) : Bool := m.name.startsWith "@"

/-- What is **printed** so far, and what is not closed yet. -/
structure Printing where
  /-- The place in the text. -/
  place : Nat
  /-- The characters since the last mark, last one first. -/
  chunk : List Char
  /-- The characters before them. -/
  done : List Char
  /-- The marks that are not closed, innermost first. -/
  opened : List Mark
  /-- The styles of the parts that are closed, last one first. -/
  styles : List (List Char)

/-- Ends a mark: a call has to be one, and any other mark sets its style. -/
def Printing.finish (p : Printing) (m : Mark) : Except Fault Printing :=
  if m.isCall then
    match (m.parameters.filter (!·.isEmpty)).bind Call.checkCall with
    | some message => .error (.badMark message)
    | none => .ok p
  else .ok { p with styles := m.style :: p.styles }

/-- Closes the innermost mark, or the innermost one with a name. -/
def Printing.close (p : Printing) (inside : List Char) : Except Fault Printing := do
  let name := trim ((inside.takeWhile (· ≠ '=')).drop 1)
  if name.isEmpty then
    match p.opened with
    | m :: opened => Printing.finish { p with opened } m
    | [] => .error (.badMark
        s!"closing tag '[/]' at position {p.place} has nothing to close")
  else
    let s ← styleName name
    match p.opened.find? (·.name = s) with
    | some m => Printing.finish { p with opened := p.opened.eraseP (·.name = s) } m
    | none => .error (.badMark
        (s!"closing tag '[" ++ String.ofList inside
          ++ s!"]' at position {p.place} doesn't match any open tag"))

/-- The characters of a chunk as they are printed. -/
def printedChunk (cs : List Char) : List Char :=
  (Emoji.withPictures (unescaped cs)).filter fun c => !isCursorControl c

/-- Prints a segment. -/
def Printing.add (p : Printing) (s : Segment) : Except Fault Printing :=
  match s with
  | .char c => .ok { p with place := p.place + 1, chunk := c :: p.chunk }
  | .mark n inside =>
    let done := p.done ++ printedChunk p.chunk.reverse ++ List.replicate (n / 2) '\\'
    let length := n + inside.length + 2
    if n % 2 = 1 then
      let mark := '[' :: inside ++ [']']
      .ok { p with place := p.place + length, chunk := [], done := done ++ printedChunk mark }
    else do
      let p := { p with place := p.place + n, chunk := [], done }
      let p ← if inside.head? = some '/' then p.close inside
        else pure { p with opened := (← Mark.read inside) :: p.opened }
      return { p with place := p.place + inside.length + 2 }

/-- A text **without its marks**, and the styles that they set, in words. -/
structure Marked where
  chars : List Char
  styles : List (List Char)

/-- A text without its marks. -/
def Marked.read (s : String) : Except Fault Marked := do
  let p ← (segments (s.length + 1) s.toList).foldlM Printing.add ⟨0, [], [], [], []⟩
  return ⟨p.done ++ printedChunk p.chunk.reverse, p.styles.reverse ++ p.opened.map Mark.style⟩

/-- The characters of a text as it is printed, once its styles are looked up. -/
def Marked.plain (m : Marked) : Except Fault (List Char) := do
  for s in m.styles do discard (Style.read s)
  return m.chars

/-- A text without marks as it is printed. -/
def bareText (s : String) : List Char :=
  (Emoji.withPictures s.toList).filter fun c => !isCursorControl c

end StackManifest.Console
