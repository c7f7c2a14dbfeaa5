import StackManifest.Document.Problem
import StackManifest.Json.Reader
import StackManifest.Text.Upper
import StackManifest.Value.Text

/-!
# The single values of a document

How a single value of plain data is read where a document has a text, a whole number or a
truth value. The reading is generous: a number may be written as a text, a truth value as
one of a few words.

* `Scalar.text` – a text, and `Scalar.named`, a text or a number by its text;
* `Scalar.integer` – a **whole number**, also from a text or a number without fraction;
* `Scalar.boolean` – a truth value.
-/

namespace StackManifest.Scalar

open StackManifest.Number StackManifest.Text

/-- A text, also from bytes that are one. -/
def text : Value → Checked String
  | .text s => .ok s
  | .bytes bs =>
    match decodeUtf8 bs with
    | .ok cs => .ok (String.ofList cs)
    | .error _ => .fail .notUtf8
  | _ => .fail .notText

/-- A number replaced by its **text**, any other value as it is. -/
def asText (v : Value) : Checked Value :=
  match v with
  | .int _ | .float _ =>
    match v.toText with
    | .ok s => .ok (.text s)
    | .error _ => .fail .unwritable
  | v => .ok v

/-- A text, or a number by its text. -/
def named (v : Value) : Checked String := (asText v).bind text

/-- The **whole number** that some characters are: an optional minus sign, and digits that begin
with a zero only if there are no others. A number is too long if its sign and its digits are more
than are read; this shows before what comes after them. -/
def numeral (cs : List Char) : Checked Int :=
  let negative := cs.head? == some '-'
  let body := if negative then cs.tail else cs
  let ds := body.takeWhile Json.isBasicDigit
  if ds.head? = some '0' then if body = ['0'] then .ok 0 else .fail .unreadableInteger
  else if !ds.isEmpty ∧ digitLimit < negative.toNat + ds.length then .fail .integerOutOfRange
  else if ds.isEmpty ∨ ds.length < body.length then .fail .unreadableInteger
  else .ok (Binary64.signed negative (digitsValue ds))

/-- A written number without the zeros at its beginning, which underscores may divide. The last of
them is kept before a point and at the end. Only a digit, a point or a sign may follow them. -/
def dropZeros? (cs : List Char) : Option (List Char) :=
  let starts := fun (c : Char) => c == '-' || Json.isBasicDigit c
  match cs with
  | '0' :: rest =>
    let zeros := rest.takeWhile fun c => c = '0' || c = '_'
    match rest.drop zeros.length with
    | [] => some [zeros.getLastD '0']
    | c :: tail =>
      if c = '.' then some (zeros.getLastD '0' :: c :: tail)
      else if starts c then some (c :: tail)
      else none
  | c :: _ => if starts c then some cs else none
  | [] => none

/-- A written number without a point and the zeros after it. -/
def dropPoint? (cs : List Char) : Option (List Char) :=
  match cs.dropWhile (· ≠ '.') with
  | [] => some cs
  | _ :: zeros =>
    if !zeros.isEmpty && zeros.all (· = '0') then some (cs.takeWhile (· ≠ '.')) else none

/-- A written number without the single underscores between its characters. -/
def dropUnderscores? (cs : List Char) : Option (List Char) :=
  let twice := (cs.zip cs.tail).any fun p => p.1 = '_' && p.2 = '_'
  if twice || cs.head? = some '_' || cs.getLast? = some '_' then none
  else some (cs.filter (· ≠ '_'))

/-- A written number in its **plain form**: without blanks around it, a plus sign, zeros at its
beginning, zeros after a point, and underscores. -/
def plainNumeral? (cs : List Char) : Option (List Char) := do
  let cs := trimBy isSpace cs
  let cs ← match cs with
    | '+' :: '-' :: _ => none
    | '+' :: cs => dropZeros? cs
    | '-' :: cs => (dropZeros? cs).map ('-' :: ·)
    | cs => dropZeros? cs
  dropUnderscores? (← dropPoint? cs)

/-- A whole number from a text, as it is or in its plain form. A number that is too long as it is
remains so. -/
def integerOfText (s : String) : Checked Int :=
  match numeral s.toList, plainNumeral? s.toList with
  | .ok n, _ => .ok n
  | .bad ps, none => .bad ps
  | .bad ps, some cs =>
    if ps.any (·.kind = .integerOutOfRange) then .bad ps else numeral cs

/-- A whole number from a binary one that has no fraction and fits into 64 bits. -/
def integerOfFloat (x : Binary64) : Checked Int :=
  match x with
  | .finite .. =>
    match x.toInt? with
    | none => .fail .fractionalInteger
    | some n => if n.natAbs < Number.twoTo 63 then .ok n else .fail .integerOutOfRange
  | _ => .fail .notFinite

/-- A **whole number**. -/
def integer : Value → Checked Int
  | .int n => .ok n
  | .bool b => .ok b.toNat
  | .float x => integerOfFloat x
  | .text s => integerOfText s
  | .bytes bs =>
    match decodeUtf8 bs with
    | .ok cs => integerOfText (String.ofList cs)
    | .error _ => .fail .unreadableInteger
  | _ => .fail .notInteger

/-- The words for yes and for no, in any case. -/
def booleanOfText (s : String) : Checked Bool :=
  let word := asciiLower s
  if ["1", "on", "t", "true", "y", "yes"].contains word then .ok true
  else if ["0", "off", "f", "false", "n", "no"].contains word then .ok false
  else .fail .unreadableBoolean

/-- The truth value that a whole number stands for. A number beyond 64 bits is none at all. -/
def booleanOfInt (n : Int) : Checked Bool :=
  if n = 0 then .ok false
  else if n = 1 then .ok true
  else if -(Number.twoTo 63 : Int) ≤ n ∧ n < Number.twoTo 63 then .fail .unreadableBoolean
  else .fail .notBoolean

/-- A **truth value**. -/
def boolean : Value → Checked Bool
  | .bool b => .ok b
  | .int n => booleanOfInt n
  | .float x =>
    match integerOfFloat x with
    | .ok n => booleanOfInt n
    | .bad _ => .fail .notBoolean
  | .text s => booleanOfText s
  | .bytes bs =>
    match decodeUtf8 bs with
    | .ok cs => booleanOfText (String.ofList cs)
    | .error _ => .fail .unreadableBoolean
  | _ => .fail .notBoolean

/-- A value that may be missing. -/
def optional (read : Value → Checked α) : Value → Checked (Option α)
  | .null => .ok none
  | v => (read v).map some

end StackManifest.Scalar
