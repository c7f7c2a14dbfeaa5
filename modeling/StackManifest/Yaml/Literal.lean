import StackManifest.Number.Whole
import StackManifest.Text.Base64
import StackManifest.Text.Lower
import StackManifest.Yaml.Scalar
import StackManifest.Yaml.Timestamp

/-!
# The values of scalars

What a scalar with a tag stands for. A scalar may carry a tag that its text does not fit;
then it stands for nothing at all, and the text has a fault.

* `intValue`, `floatValue`, `boolValue`, `binaryValue`, `timestampValue` – the **value** of a
  text as one of a sort;
* `scalarValue?` – the value of a text under a tag.
-/

namespace StackManifest.Yaml

open StackManifest.Number StackManifest.Text

/-- The characters of a number without the underscores in them, and the sign cut off. -/
def unsigned (cs : List Char) : Except Fault (Bool × List Char) :=
  match cs.filter (· ≠ '_') with
  | [] => .error .emptyText
  | cs => .ok (splitSign cs)

/-- The parts of a text between colons. -/
def colonParts (cs : List Char) : List (List Char) := cs.splitOn ':'

/-- The number made up of some **sixties**, the last of them the units. -/
def sixtiesValue (parts : List Int) : Int := parts.foldl (fun n d => 60 * n + d) 0

/-- The magnitude of a **whole number** without its sign. Its first characters tell its base. -/
def wholeMagnitude (cs : List Char) : Except Fault Int :=
  match cs with
  | [] => .error .emptyText
  | ['0'] => .ok 0
  | '0' :: 'b' :: ds => readWhole 2 ds
  | '0' :: 'x' :: ds => readWhole 16 ds
  | '0' :: _ => readWhole 8 cs
  | cs =>
    if cs.contains ':' then sixtiesValue <$> (colonParts cs).mapM (readWhole 10)
    else readWhole 10 cs

/-- A text as a **whole number**. -/
def intValue (s : String) : Except Fault Value := do
  let (negative, cs) ← unsigned s.toList
  let n ← wholeMagnitude cs
  return .int (if negative then -n else n)

/-- A text as a binary number. -/
def readReal (cs : List Char) : Except Fault Binary64 :=
  match Binary64.read? cs with
  | some x => .ok x
  | none => .error (.badReal (String.ofList cs))

/-- The binary number made up of some sixties, the units first. The power of sixty that goes with
a part is a whole number. -/
def sixtiesReal (sum : Binary64) (power : Nat) : List Binary64 → Except Fault Binary64
  | [] => .ok sum
  | d :: ds =>
    match Binary64.ofQuotient? power 1 with
    | some p => sixtiesReal (sum.add (d.mul p)) (power * 60) ds
    | none => .error .wholeTooLarge

/-- The magnitude of a **binary number** without its sign. What is no number gets a mark, unless
it is the constant. -/
def realMagnitude (mark : Nat) (cs : List Char) : Except Fault Binary64 :=
  if cs = ".inf".toList then .ok (.infinite false)
  else if cs = ".nan".toList then .ok (.nan 0)
  else if cs.contains ':' then do
    let parts ← (colonParts cs).mapM readReal
    return (← sixtiesReal (.zero false) 1 parts.reverse).marked mark
  else (·.marked mark) <$> readReal cs

/-- A text as a **binary number**, with the mark of what is none. -/
def floatValue (mark : Nat) (s : String) : Except Fault Value := do
  let (negative, cs) ← unsigned (lower s).toList
  let x ← realMagnitude mark cs
  return .float (if negative then x.neg else x)

/-- A text as a **truth value**. -/
def boolValue (s : String) : Except Fault Value :=
  let word := lower s
  if ["yes", "true", "on"].contains word then .ok (.bool true)
  else if ["no", "false", "off"].contains word then .ok (.bool false)
  else .error (.unknownKey (quoted word))

/-- A text as **bytes**. -/
def binaryValue (s : String) : Except Fault Value :=
  if s.toList.any fun c => 0x80 ≤ c.toNat then .error .markup
  else match decodeBase64 s.toList with
    | some bs => .ok (.bytes bs)
    | none => .error .markup

/-- A text as a **date**, with a label. -/
def timestampValue (label : Label) (s : String) : Except Fault Value :=
  match WrittenDate.read? s.toList with
  | some d => d.toValue label
  | none => .error (.noMember "NoneType" "groupdict")

/-- The **value** of a text under a tag, if the tag is one for scalars. -/
def scalarValue? (label : Label) (tag : String) (s : String) : Option (Except Fault Value) :=
  if tag = Tag.null then some (.ok .null)
  else if tag = Tag.bool then some (boolValue s)
  else if tag = Tag.int then some (intValue s)
  else if tag = Tag.float then some (floatValue label s)
  else if tag = Tag.binary then some (binaryValue s)
  else if tag = Tag.timestamp then some (timestampValue label s)
  else if tag = Tag.str then some (.ok (.text s))
  else none

end StackManifest.Yaml
