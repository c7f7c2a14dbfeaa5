import StackManifest.Text.Base64
import StackManifest.Value.Address
import StackManifest.Value.Text
import StackManifest.Yaml.Writer.Page

/-!
# Writing a markup text

Plain data as a markup text, in basic characters only: mappings and lists in blocks, indented
by two, lists in mappings not indented any further. A container that stands in several places
is written once, under a name, and its name stands in the other places.

* `Value.scalar?` – the scalar that stands for a value without elements;
* `anchored` – the labels of the containers that need **names**, in the order of their second
  places;
* `Writing` – the page, with the names, and the containers written so far;
* `writeNode` – a value at a place;
* `write` – the **text** of plain data.
-/

namespace StackManifest

open StackManifest.Yaml StackManifest.Text StackManifest.Number

/-- The text of a binary number, which has a point whenever it has digits. -/
def realScalarText : Binary64 → String
  | .nan _ => ".nan"
  | .infinite s => if s then "-.inf" else ".inf"
  | x =>
    let cs := x.text.toList
    if cs.contains '.' then x.text
    else String.ofList (cs.flatMap fun c => if c = 'e' then ['.', '0', 'e'] else [c])

/-- The letters for some bytes, in lines of 76. -/
def letterLines (fuel : Nat) (cs : List Char) : List Char :=
  match fuel with
  | 0 => []
  | fuel + 1 => if cs.isEmpty then [] else cs.take 76 ++ '\n' :: letterLines fuel (cs.drop 76)

/-- The **scalar** that stands for a value without elements. -/
def Value.scalar? : Value → Option Scalar
  | .null => some ⟨Tag.null, "null", false⟩
  | .bool b => some ⟨Tag.bool, if b then "true" else "false", false⟩
  | .int n => some ⟨Tag.int, Value.intText n, false⟩
  | .float x => some ⟨Tag.float, realScalarText x, false⟩
  | .text s => some ⟨Tag.str, s, false⟩
  | .bytes bs =>
    some ⟨Tag.binary, String.ofList (letterLines bs.length (encodeBase64 bs)), true⟩
  | .date _ d => some ⟨Tag.timestamp, d.iso, false⟩
  | .moment _ m => some ⟨Tag.timestamp, m.iso " ", false⟩
  | _ => none

namespace Yaml

/-! ### Names for containers in several places -/

/-- The labels **met** so far, and those met again, in order. -/
structure Labels where
  met : List Label
  again : List Label

/-- Meets a label: whether what carries it is to be looked into. -/
def Labels.meet (s : Labels) (l : Label) : Bool × Labels :=
  if l = 0 then (true, s)
  else if s.met.contains l then
    (false, if s.again.contains l then s else { s with again := s.again ++ [l] })
  else (true, { s with met := l :: s.met })

mutual

/-- The labels met in a value, after some others. -/
def meetValue (s : Labels) (v : Value) : Labels :=
  let (inside, s) := s.meet v.label
  if !inside then s
  else match v with
    | .tuple xs | .list _ xs | .set _ xs => meetList s xs
    | .map _ es => meetEntries s es
    | _ => s

/-- The labels met in several values. -/
def meetList (s : Labels) : List Value → Labels
  | [] => s
  | x :: xs => meetList (meetValue s x) xs

/-- The labels met in the entries of a mapping. -/
def meetEntries (s : Labels) : List (Value × Value) → Labels
  | [] => s
  | (k, v) :: es => meetEntries (meetValue (meetValue s k) v) es

end

/-- The labels of the containers that need **names**, in the order of their second places. -/
def anchored (v : Value) : List Label := (meetValue ⟨[], []⟩ v).again

/-- The name of the container with a label: numbered from one, with three digits at least. -/
def anchorName (labels : List Label) (l : Label) : Option String :=
  if l = 0 then none
  else (labels.findIdx? (· = l)).map fun i => "id" ++ Calendar.padded 3 (i + 1)

/-! ### Nodes -/

/-- The **page**, the labels that have names, and those written so far. -/
structure Sheet where
  page : Page
  anchors : List Label
  done : List Label

/-- A step of writing. -/
abbrev Writing (α : Type) := StateM Sheet α

/-- Changes the page. -/
def onPage (f : Page → Page) : Writing Unit := modify fun s => { s with page := f s.page }

/-- Where a node stands: by itself, in a list, as a key on its line, or elsewhere in a
mapping. -/
inductive Position where
  | root
  | item
  | key
  | entry
  deriving DecidableEq, Repr

/-- The indentation of what is in a node. -/
def deeper (indent : Option Nat) : Nat :=
  match indent with
  | none => 0
  | some n => n + 2

/-- The greatest length of a key on its line. -/
def keyLimit : Nat := 128

/-- Whether a value can be a **key on its line**: it is written as a name, or it is short and
without line breaks. -/
def isLineKey (s : Sheet) (k : Value) : Bool :=
  let name := anchorName s.anchors k.label
  let nameLength := (name.map String.length).getD 0
  if name.isSome && s.done.contains k.label then true
  else match k.scalar? with
    | some c =>
      let shape := Shape.ofText c.text.toList
      !shape.empty && !shape.multiline
        && nameLength + c.shortTag.length + c.text.length < keyLimit
    | none =>
      match k with
      | .tuple xs | .list _ xs | .set _ xs => xs.isEmpty
      | .map _ es => es.isEmpty
      | _ => false

/-- The name of a value, as a name for it when it is written first: whether it is still to be
written. -/
def writeAnchor (v : Value) : Writing Bool := do
  let s ← get
  match anchorName s.anchors v.label with
  | none => return true
  | some name =>
    if s.done.contains v.label then
      onPage (·.mark ("*" ++ name) true false)
      return false
    else
      set { s with page := s.page.mark ("&" ++ name) true false, done := v.label :: s.done }
      return true

/-- A scalar at a place. -/
def writeScalarNode (position : Position) (indent : Option Nat) (c : Scalar) : Writing Unit := do
  let style := c.style (position = .key)
  if c.needsTag style then onPage (·.mark c.shortTag true false)
  let indent := match indent with
    | none => 2
    | some n => n + 2
  onPage (Page.writeScalar style c.text.toList (position ≠ .key) indent)

/-- The mark of a list that goes on: a hyphen at the indentation. -/
def writeHyphen (indent : Nat) : Writing Unit :=
  onPage fun p => (p.indentTo indent).mark "-" true true

mutual

/-- A **node** at a place: after its name and tag, a scalar, an empty collection on the line, or
a block. -/
def writeNode (position : Position) (indent : Option Nat) (v : Value) : Writing Unit := do
  if ← writeAnchor v then
    match v with
    | .list _ xs | .tuple xs =>
      if xs.isEmpty then onPage (·.mark "[]" true false)
      else
        let flat := (position = .entry || position = .key) && !(← get).page.indented
        writeItems (if flat then indent.getD 0 else deeper indent) xs
    | .map _ es =>
      if es.isEmpty then onPage (·.mark "\x7b\x7d" true false)
      else writeEntries (deeper indent) es
    | .set _ xs =>
      onPage (·.mark "!!set" true false)
      if xs.isEmpty then onPage (·.mark "\x7b\x7d" true false)
      else writeMembers (deeper indent) xs
    | v =>
      match v.scalar? with
      | some c => writeScalarNode position indent c
      | none => return

/-- The items of a list. -/
def writeItems (indent : Nat) : List Value → Writing Unit
  | [] => return
  | x :: xs => do
    writeHyphen indent
    writeNode .item (some indent) x
    writeItems indent xs

/-- The entries of a mapping. -/
def writeEntries (indent : Nat) : List (Value × Value) → Writing Unit
  | [] => return
  | (k, v) :: es => do
    onPage (·.indentTo indent)
    if isLineKey (← get) k then
      writeNode .key (some indent) k
      onPage (·.mark ":" false false)
      writeNode .entry (some indent) v
    else
      onPage (·.mark "?" true true)
      writeNode .entry (some indent) k
      onPage fun p => (p.indentTo indent).mark ":" true true
      writeNode .entry (some indent) v
    writeEntries indent es

/-- The members of a set: keys with nothing under them. -/
def writeMembers (indent : Nat) : List Value → Writing Unit
  | [] => return
  | x :: xs => do
    onPage (·.indentTo indent)
    let c : Scalar := ⟨Tag.null, "null", false⟩
    if isLineKey (← get) x then
      writeNode .key (some indent) x
      onPage (·.mark ":" false false)
    else
      onPage (·.mark "?" true true)
      writeNode .entry (some indent) x
      onPage fun p => (p.indentTo indent).mark ":" true true
    writeScalarNode .entry (some indent) c
    writeMembers indent xs

end

/-- Whether plain data is a scalar that stands by itself without quotes: then the end of the text
is marked. -/
def endsOpen (v : Value) : Bool :=
  match v.scalar? with
  | some c => c.style false = .plain
  | none => false

/-- The **text** of plain data, refused when a whole number in it has too many digits. -/
def write (v : Value) : Except Fault String :=
  if !v.isWritable then .error .unwritableNumber
  else
    let sheet := ((writeNode .root none v).run ⟨.start, anchored v, []⟩).2
    let page := sheet.page.indentTo 0
    let page := if endsOpen v then (page.mark "..." true false).indentTo 0 else page
    .ok (String.ofList page.written.reverse)

end Yaml

end StackManifest
