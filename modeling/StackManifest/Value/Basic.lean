import StackManifest.Calendar
import StackManifest.Number.Shortest

/-!
# Plain data

What a document is before it is read as a stack: nothing, truth values, numbers, texts,
bytes, dates, and lists, sets and mappings of such values.

A container may stand in several places of a document. Such a container carries a **label**,
the same in all its places and different from that of any other container; the label zero
belongs to a container that stands in one place only. Labels tell containers apart and are
not part of their value.

* `Value` – the data, and `Value.kind`, the name of its kind;
* `Value.eqv` – equality of values, where numbers compare by what they count and mappings
  regardless of their order;
* `Value.isTruthy` – whether a value counts as given;
* `Entries.get?` and `Entries.put` – the entries of a mapping by key.
-/

namespace StackManifest

open StackManifest.Number

/-- The **label** of a container that stands in several places; zero for any other. -/
abbrev Label := Nat

/-- **Plain data.** -/
inductive Value where
  | null
  | bool (b : Bool)
  | int (n : Int)
  | float (x : Binary64)
  | text (s : String)
  | bytes (bs : List UInt8)
  | date (label : Label) (d : Date)
  | moment (label : Label) (m : Moment)
  | tuple (xs : List Value)
  | list (label : Label) (xs : List Value)
  | set (label : Label) (xs : List Value)
  | map (label : Label) (entries : List (Value × Value))
  deriving Inhabited, Repr

/-- The entries of a mapping, in order. -/
abbrev Entries := List (Value × Value)

namespace Value

/-- The name of the **kind** of a value. -/
def kind : Value → String
  | .null => "NoneType"
  | .bool _ => "bool"
  | .int _ => "int"
  | .float _ => "float"
  | .text _ => "str"
  | .bytes _ => "bytes"
  | .date .. => "datetime.date"
  | .moment .. => "datetime.datetime"
  | .tuple _ => "tuple"
  | .list .. => "list"
  | .set .. => "set"
  | .map .. => "dict"

/-- Whether a value counts as **given**: nothing, false, zero, and the empty texts and
containers do not. -/
def isTruthy : Value → Bool
  | .null => false
  | .bool b => b
  | .int n => n ≠ 0
  | .float x => x.isNonzero
  | .text s => s ≠ ""
  | .bytes bs => !bs.isEmpty
  | .date .. | .moment .. => true
  | .tuple xs | .list _ xs | .set _ xs => !xs.isEmpty
  | .map _ es => !es.isEmpty

/-- Whether a value is nothing. -/
def isNull : Value → Bool
  | .null => true
  | _ => false

/-- A whole number that a value counts as: truth values count as one and zero. -/
def count? : Value → Option Int
  | .bool b => some b.toNat
  | .int n => some n
  | _ => none

/-- Equality of two values that have no elements. Numbers and truth values are equal when
they count the same. -/
def eqvAtom (a b : Value) : Bool :=
  match a, b with
  | .null, .null => true
  | .text s, .text t => s == t
  | .bytes s, .bytes t => s == t
  | .date _ d, .date _ e => d == e
  | .moment _ m, .moment _ n => m.same n
  | .float x, .float y => x.eqv y
  | .float x, v | v, .float x =>
    match v.count? with
    | some n => x.compareInt n == some .eq
    | none => false
  | a, b =>
    match a.count?, b.count? with
    | some m, some n => m == n
    | _, _ => false

mutual

/-- **Equality** of values. Labels do not matter, nor does the order of a set or of a
mapping. -/
def eqv : Value → Value → Bool
  | .tuple xs, .tuple ys => eqvList xs ys
  | .list _ xs, .list _ ys => eqvList xs ys
  | .set _ xs, .set _ ys => xs.length == ys.length && eqvAmong xs ys
  | .map _ es, .map _ fs => es.length == fs.length && eqvEntries es fs
  | .tuple _, _ | .list .., _ | .set .., _ | .map .., _ => false
  | a, b => eqvAtom a b

/-- Equality of sequences, element by element. -/
def eqvList : List Value → List Value → Bool
  | [], [] => true
  | x :: xs, y :: ys => eqv x y && eqvList xs ys
  | _, _ => false

/-- Every value of the first list is equal to one of the second. -/
def eqvAmong : List Value → List Value → Bool
  | [], _ => true
  | x :: xs, ys => ys.any (eqv x) && eqvAmong xs ys

/-- Every entry of the first list is equal to one of the second. -/
def eqvEntries : List (Value × Value) → List (Value × Value) → Bool
  | [], _ => true
  | (k, v) :: es, fs => fs.any (fun e => eqv k e.1 && eqv v e.2) && eqvEntries es fs

end

/-- A value that can be a **key**: any but a list, a set or a mapping. -/
def isHashable : Value → Bool
  | .list .. | .set .. | .map .. => false
  | _ => true

end Value

namespace Entries

/-- The value under a **key** that is a text. -/
def get? (es : Entries) (key : String) : Option Value :=
  es.findSome? fun e =>
    match e.1 with
    | .text s => if s = key then some e.2 else none
    | _ => none

/-- The value under a key that is a text, nothing when there is none. -/
def get (es : Entries) (key : String) : Value := (get? es key).getD .null

/-- The entries with a value **put** under a key: an equal key keeps its place and its
spelling, any other goes to the end. -/
def put (es : Entries) (key v : Value) : Entries :=
  match es with
  | [] => [(key, v)]
  | e :: es => if e.1.eqv key then (e.1, v) :: es else e :: put es key v

/-- The entries of a mapping that is given entry by entry. -/
def ofList (es : List (Value × Value)) : Entries := es.foldl (fun es e => put es e.1 e.2) []

end Entries

namespace Value

/-- The entries of a mapping. -/
def entries? : Value → Option Entries
  | .map _ es => some es
  | _ => none

/-- A mapping with texts as keys that stands in one place only. -/
def record (fields : List (String × Value)) : Value :=
  .map 0 (fields.map fun f => (.text f.1, f.2))

/-- A list that stands in one place only. -/
def array (xs : List Value) : Value := .list 0 xs

/-- A text, or nothing. -/
def ofText? : Option String → Value
  | none => .null
  | some s => .text s

/-- A whole number, or nothing. -/
def ofInt? : Option Int → Value
  | none => .null
  | some n => .int n

end Value

end StackManifest
