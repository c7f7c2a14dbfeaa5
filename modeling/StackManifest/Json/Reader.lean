import StackManifest.Fault
import StackManifest.Value.Basic

/-!
# Reading the object notation

The reading of a text in the notation of objects, arrays, strings and numbers that most
programs exchange data in. A text that departs from the notation anywhere has no value.

* `Json.readString` – a string after its opening quote;
* `Json.readNumber` – a number at the start of a text;
* `Json.readValue` – a value at the start of a text, and the rest of the text;
* `Json.read?` – the value of a **whole text**.
-/

namespace StackManifest.Json

open StackManifest.Number StackManifest.Text

/-- White space between the parts of a text. -/
def isGap (c : Char) : Bool := c = ' ' || c = '\t' || c = '\n' || c = '\r'

/-- The text after the white space in front. -/
def skipGap (cs : List Char) : List Char := cs.dropWhile isGap

/-- The value of a hexadecimal digit. -/
def hexValue? (c : Char) : Option Nat :=
  if '0' ≤ c ∧ c ≤ '9' then some (c.toNat - 0x30)
  else if 'a' ≤ c ∧ c ≤ 'f' then some (c.toNat - 0x61 + 10)
  else if 'A' ≤ c ∧ c ≤ 'F' then some (c.toNat - 0x41 + 10)
  else none

/-- The number that some hexadecimal digits write, if all of them are such digits. -/
def hexNumber? (cs : List Char) : Option Nat :=
  cs.foldl (fun n c => do return 16 * (← n) + (← hexValue? c)) (some 0)

/-- The character that a letter after a backslash stands for. -/
def shortEscape? (c : Char) : Option Char :=
  if c = '"' ∨ c = '\\' ∨ c = '/' then some c
  else if c = 'b' then some '\x08'
  else if c = 'f' then some '\x0c'
  else if c = 'n' then some '\n'
  else if c = 'r' then some '\r'
  else if c = 't' then some '\t'
  else none

/-- The **character** written by a code of four hexadecimal digits, together with a second
such code where two make up one character, and the rest of the text. -/
def readCode (cs : List Char) : Option (Char × List Char) := do
  let digits := cs.take 4
  guard (digits.length = 4)
  let high ← hexNumber? digits
  let rest := cs.drop 4
  if 0xD800 ≤ high ∧ high < 0xDC00 then
    match rest with
    | '\\' :: 'u' :: tail =>
      match guard ((tail.take 4).length = 4) *> hexNumber? (tail.take 4) with
      | some low =>
        if 0xDC00 ≤ low ∧ low < 0xE000 then
          some (Char.ofNat (0x10000 + (high - 0xD800) * 0x400 + (low - 0xDC00)), tail.drop 4)
        else some (Char.ofNat high, rest)
      | none => some (Char.ofNat high, rest)
    | _ => some (Char.ofNat high, rest)
  else some (Char.ofNat high, rest)

/-- The **string** after an opening quote, and the text after the closing one. Controls must
be written as escapes. -/
def readString (fuel : Nat) (cs : List Char) : Option (List Char × List Char) :=
  match fuel, cs with
  | fuel + 1, '"' :: rest => let _ := fuel; some ([], rest)
  | fuel + 1, '\\' :: 'u' :: rest => do
    let (c, rest) ← readCode rest
    let (s, rest) ← readString fuel rest
    return (c :: s, rest)
  | fuel + 1, '\\' :: c :: rest => do
    let c ← shortEscape? c
    let (s, rest) ← readString fuel rest
    return (c :: s, rest)
  | fuel + 1, c :: rest =>
    if c.toNat < 0x20 ∨ c = '\\' then none
    else do
      let (s, rest) ← readString fuel rest
      return (c :: s, rest)
  | _, _ => none

/-- A basic digit. -/
def isBasicDigit (c : Char) : Bool := '0' ≤ c && c ≤ '9'

/-- The digits after a point, if a point and a digit come first, and the rest. -/
def splitFraction (cs : List Char) : List Char × List Char :=
  match cs with
  | '.' :: d :: rest =>
    if isBasicDigit d then
      ('.' :: (d :: rest).takeWhile isBasicDigit, (d :: rest).dropWhile isBasicDigit)
    else ([], cs)
  | _ => ([], cs)

/-- The power of ten, if a mark, an optional sign and a digit come first, and the rest. -/
def splitPower (cs : List Char) : List Char × List Char :=
  match cs with
  | e :: rest =>
    if e = 'e' ∨ e = 'E' then
      let (sign, ds) := match rest with
        | '+' :: ds => (['+'], ds)
        | '-' :: ds => (['-'], ds)
        | ds => ([], ds)
      let digits := ds.takeWhile isBasicDigit
      if digits.isEmpty then ([], cs) else (e :: sign ++ digits, ds.dropWhile isBasicDigit)
    else ([], cs)
  | [] => ([], cs)

/-- The **number** at the start of a text, and the rest: a whole one without a point and a
power of ten, and a binary one otherwise. Whole numbers beyond the limit of digits are not
read. -/
def readNumber (cs : List Char) : Option (Value × List Char) :=
  let (sign, ds) := match cs with
    | '-' :: ds => (['-'], ds)
    | ds => ([], ds)
  let whole := match ds with
    | '0' :: _ => ['0']
    | ds => ds.takeWhile isBasicDigit
  if whole.isEmpty then none
  else
    let (fraction, rest) := splitFraction (ds.drop whole.length)
    let (power, rest) := splitPower rest
    if fraction.isEmpty && power.isEmpty then
      if digitLimit < whole.length then none
      else
        let n : Int := digitsValue whole
        some (.int (if sign.isEmpty then n else -n), rest)
    else
      (Binary64.read? (sign ++ whole ++ fraction ++ power)).map (.float ·, rest)

/-- The words that stand for values. -/
def words : List (List Char × Value) :=
  [("null".toList, .null), ("true".toList, .bool true), ("false".toList, .bool false),
   ("NaN".toList, .float (.nan 0)), ("Infinity".toList, .float (.infinite false)),
   ("-Infinity".toList, .float (.infinite true))]

/-- The value of a word at the start of a text, and the rest. -/
def readWord (cs : List Char) : Option (Value × List Char) :=
  words.findSome? fun w =>
    if w.1.isPrefixOf cs then some (w.2, cs.drop w.1.length) else none

mutual

/-- The **value** at the start of a text, and the rest of the text. -/
def readValue (fuel : Nat) (cs : List Char) : Option (Value × List Char) :=
  match fuel with
  | 0 => none
  | fuel + 1 =>
    match cs with
    | '"' :: rest => (readString (rest.length + 1) rest).map fun (s, rest) =>
        (.text (String.ofList s), rest)
    | '\x7b' :: rest =>
      match skipGap rest with
      | '\x7d' :: rest => some (.map 0 [], rest)
      | rest => (readMembers fuel rest).map fun (es, rest) => (.map 0 (Entries.ofList es), rest)
    | '[' :: rest =>
      match skipGap rest with
      | ']' :: rest => some (.list 0 [], rest)
      | rest => (readElements fuel rest).map fun (xs, rest) => (.list 0 xs, rest)
    | cs => (readWord cs).orElse fun _ => readNumber cs

/-- The elements of an array up to its closing bracket, one at least. -/
def readElements (fuel : Nat) (cs : List Char) : Option (List Value × List Char) :=
  match fuel with
  | 0 => none
  | fuel + 1 => do
    let (x, rest) ← readValue fuel cs
    match skipGap rest with
    | ',' :: rest =>
      let (xs, rest) ← readElements fuel (skipGap rest)
      return (x :: xs, rest)
    | ']' :: rest => return ([x], rest)
    | _ => none

/-- The members of an object up to its closing brace, one at least. -/
def readMembers (fuel : Nat) (cs : List Char) : Option (Entries × List Char) :=
  match fuel with
  | 0 => none
  | fuel + 1 =>
    match cs with
    | '"' :: rest => do
      let (k, rest) ← readString (rest.length + 1) rest
      match skipGap rest with
      | ':' :: rest =>
        let (v, rest) ← readValue fuel (skipGap rest)
        let e := (Value.text (String.ofList k), v)
        match skipGap rest with
        | ',' :: rest =>
          let (es, rest) ← readMembers fuel (skipGap rest)
          return (e :: es, rest)
        | '\x7d' :: rest => return ([e], rest)
        | _ => none
      | _ => none
    | _ => none

end

/-- The value of a **whole text**, if it keeps to the notation. -/
def read? (cs : List Char) : Option Value :=
  match readValue (cs.length + 1) (skipGap cs) with
  | some (v, rest) => if (skipGap rest).isEmpty then some v else none
  | none => none

end StackManifest.Json
