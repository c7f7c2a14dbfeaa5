import StackManifest.Fault
import StackManifest.Value.Basic

/-!
# The text of a value

How a value is written where a text is needed: a text stands for itself, a number is
written in its shortest form, and lists and mappings show their elements between brackets,
texts among them in quotes.

* `Value.shown` – a value as an **element**;
* `Value.plain` – a value by itself;
* `Value.toText` – a value by itself, refused when a whole number in it has too many digits.
-/

namespace StackManifest.Value

open StackManifest.Text StackManifest.Number

/-- The number in decimal digits. -/
def intText (n : Int) : String :=
  String.ofList ((if n < 0 then ['-'] else []) ++ decimalDigits n.natAbs)

mutual

/-- A value as an **element** of a list or in a message. -/
def shown : Value → String
  | .null => "None"
  | .bool b => if b then "True" else "False"
  | .int n => intText n
  | .float x => x.text
  | .text s => quoted s
  | .bytes bs => quotedBytes bs
  | .date _ d => d.shown
  | .moment _ m => m.shown
  | .tuple [x] => "(" ++ shown x ++ ",)"
  | .tuple xs => "(" ++ ", ".intercalate (shownList xs) ++ ")"
  | .list _ xs => "[" ++ ", ".intercalate (shownList xs) ++ "]"
  | .set _ [] => "set()"
  | .set _ xs => "\x7b" ++ ", ".intercalate (shownList xs) ++ "\x7d"
  | .map _ es => "\x7b" ++ ", ".intercalate (shownEntries es) ++ "\x7d"

/-- Several elements. -/
def shownList : List Value → List String
  | [] => []
  | x :: xs => shown x :: shownList xs

/-- The entries of a mapping. -/
def shownEntries : List (Value × Value) → List String
  | [] => []
  | (k, v) :: es => (shown k ++ ": " ++ shown v) :: shownEntries es

end

/-- A value **by itself**. -/
def plain : Value → String
  | .text s => s
  | .date _ d => d.iso
  | .moment _ m => m.iso " "
  | v => shown v

mutual

/-- Whether every whole number in a value has at most so many digits as are written. -/
def isWritable : Value → Bool
  | .int n => digitCount n.natAbs ≤ digitLimit
  | .tuple xs | .list _ xs | .set _ xs => isWritableList xs
  | .map _ es => isWritableEntries es
  | _ => true

/-- Whether several values are writable. -/
def isWritableList : List Value → Bool
  | [] => true
  | x :: xs => isWritable x && isWritableList xs

/-- Whether the entries of a mapping are writable. -/
def isWritableEntries : List (Value × Value) → Bool
  | [] => true
  | (k, v) :: es => isWritable k && isWritable v && isWritableEntries es

end

/-- The **text** of a value, if it is writable. -/
def toText (v : Value) : Except Fault String :=
  if v.isWritable then .ok v.plain else .error .unwritableNumber

end StackManifest.Value
