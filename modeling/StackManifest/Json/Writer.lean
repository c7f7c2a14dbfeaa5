import StackManifest.Json.Order
import StackManifest.Value.Text

/-!
# Writing the object notation

The writing of plain data in the object notation, in basic characters only: any other
character of a string is written by its code, or by two codes if it lies beyond the first
65536.

* `Json.escapeString` – a string between quotes;
* `Json.Layout` – on one line, or **indented**, one element a line;
* `Json.write` – a value; a value that the notation cannot hold is a fault.
-/

namespace StackManifest.Json

open StackManifest.Text StackManifest.Number

/-- A code of four hexadecimal digits. -/
def codeEscape (n : Nat) : List Char := '\\' :: 'u' :: hexDigits 4 n

/-- A character of a string. -/
def escapeChar (c : Char) : List Char :=
  if c = '"' ∨ c = '\\' then ['\\', c]
  else if c = '\n' then ['\\', 'n']
  else if c = '\r' then ['\\', 'r']
  else if c = '\t' then ['\\', 't']
  else if c = '\x0c' then ['\\', 'f']
  else if c = '\x08' then ['\\', 'b']
  else if 0x20 ≤ c.toNat ∧ c.toNat < 0x7F then [c]
  else if c.toNat < 0x10000 then codeEscape c.toNat
  else
    let n := c.toNat - 0x10000
    codeEscape (0xD800 + n / 0x400) ++ codeEscape (0xDC00 + n % 0x400)

/-- A **string** between quotes. -/
def escapeString (s : String) : String :=
  String.ofList ('"' :: s.toList.flatMap escapeChar ++ ['"'])

/-- How the elements of a value are laid out. -/
structure Layout where
  /-- The steps by which elements are indented, one line each; on one line if none. -/
  step : Option Nat
  /-- Whether the members of an object are sorted by name. -/
  sorted : Bool
  /-- Whether a whole number with too many digits is refused. -/
  limited : Bool

/-- The line break before an element at a depth, if each has its own line. -/
def Layout.lineBreak (l : Layout) (depth : Nat) : String :=
  match l.step with
  | none => ""
  | some n => String.ofList ('\n' :: List.replicate (n * depth) ' ')

/-- What stands between two elements at a depth. -/
def Layout.separator (l : Layout) (depth : Nat) : String :=
  match l.step with
  | none => ", "
  | some _ => "," ++ l.lineBreak depth

/-- The written form of a binary number. -/
def floatText : Binary64 → String
  | .nan _ => "NaN"
  | .infinite s => if s then "-Infinity" else "Infinity"
  | x => x.text

/-- The name of a kind of value as the notation's faults give it. -/
def shortKind (v : Value) : String :=
  match v with
  | .date .. => "date"
  | .moment .. => "datetime"
  | v => v.kind

/-- A key as the name of a member. -/
def keyName : Value → Except Fault String
  | .text s => .ok s
  | .null => .ok "null"
  | .bool b => .ok (if b then "true" else "false")
  | .int n => (Value.int n).toText
  | .float x => .ok (floatText x)
  | v => .error (.badMemberName (shortKind v))

/-- A member: its name, and then its value as written. -/
def memberText (e : Value × Except Fault String) : Except Fault String := do
  let name ← keyName e.1
  return escapeString name ++ ": " ++ (← e.2)

mutual

/-- A **value** at a depth. -/
def writeAt (l : Layout) (depth : Nat) : Value → Except Fault String
  | .null => .ok "null"
  | .bool b => .ok (if b then "true" else "false")
  | .int n => if l.limited then (Value.int n).toText else .ok (Value.intText n)
  | .float x => .ok (floatText x)
  | .text s => .ok (escapeString s)
  | .tuple xs | .list _ xs => do
    if xs.isEmpty then return "[]"
    let parts ← writeList l (depth + 1) xs
    return "[" ++ l.lineBreak (depth + 1) ++ (l.separator (depth + 1)).intercalate parts
      ++ l.lineBreak depth ++ "]"
  | .map _ es => do
    if es.isEmpty then return "\x7b\x7d"
    let members := writeEntries l (depth + 1) es
    -- keys without an order come before any fault of a member
    let members ← if l.sorted then sortMembers members else pure members
    return "\x7b" ++ l.lineBreak (depth + 1)
      ++ (l.separator (depth + 1)).intercalate (← members.mapM memberText)
      ++ l.lineBreak depth ++ "\x7d"
  | v => .error (.notSerializable (shortKind v))

/-- Several elements. -/
def writeList (l : Layout) (depth : Nat) : List Value → Except Fault (List String)
  | [] => .ok []
  | x :: xs => do return (← writeAt l depth x) :: (← writeList l depth xs)

/-- The members of an object: each key with the written form of its value. -/
def writeEntries (l : Layout) (depth : Nat) :
    List (Value × Value) → List (Value × Except Fault String)
  | [] => []
  | (k, v) :: es => (k, writeAt l depth v) :: writeEntries l depth es

end

/-- The **written form** of a value. -/
def write (l : Layout) (v : Value) : Except Fault String := writeAt l 0 v

/-- Indented by two, members in their order. -/
def Layout.indented : Layout := ⟨some 2, false, true⟩

/-- On one line, members sorted by name. -/
def Layout.oneLine : Layout := ⟨none, true, true⟩

end StackManifest.Json
