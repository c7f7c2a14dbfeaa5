/-!
# Lines of a text

* `unifyBreaks` – every line break of a text file becomes a single **line feed**;
* `firstLine` – the text up to its first line break;
* `splitLines` – the **lines** of a text, each without its line break.
-/

namespace StackManifest.Text

/-- The characters with each carriage return, and each carriage return followed by a line
feed, replaced by a **line feed**. -/
def unifyBreaks : List Char → List Char
  | [] => []
  | '\r' :: '\n' :: cs => '\n' :: unifyBreaks cs
  | '\r' :: cs => '\n' :: unifyBreaks cs
  | c :: cs => c :: unifyBreaks cs

/-- The text as a program reads it from a file. -/
def fileText (s : String) : String := String.ofList (unifyBreaks s.toList)

/-- The text up to its first line feed. -/
def firstLine (s : String) : String := String.ofList (s.toList.takeWhile (· ≠ '\n'))

/-- A character that ends a line of any text. -/
def endsLine (c : Char) : Bool :=
  c = '\n' || c = '\r' || c = '\x0b' || c = '\x0c' || (0x1C ≤ c.toNat && c.toNat ≤ 0x1E)
    || c = '\u0085' || c = '\u2028' || c = '\u2029'

/-- The lines of the rest of a text, after some characters of the first of them, last one
first. -/
def splitLinesFrom (before : List Char) : List Char → List (List Char)
  | [] => if before.isEmpty then [] else [before.reverse]
  | '\r' :: '\n' :: cs => before.reverse :: splitLinesFrom [] cs
  | c :: cs =>
    if endsLine c then before.reverse :: splitLinesFrom [] cs
    else splitLinesFrom (c :: before) cs

/-- The **lines** of a text. There is no line after a line break at the end. -/
def splitLines (cs : List Char) : List (List Char) := splitLinesFrom [] cs

end StackManifest.Text
