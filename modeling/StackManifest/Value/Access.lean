import StackManifest.Fault
import StackManifest.Value.Basic

/-!
# Looking into plain data

Plain data that is expected to have some form is looked into part by part. Data of another
kind is a fault, and so nothing more is read from it.

* `Value.field?` and `Value.fieldOr` – the value under a name of a mapping;
* `Value.sectionEntries` – the entries of a mapping that may be left out;
* `Value.elements` – what a value consists of when it is gone through.
-/

namespace StackManifest.Value

/-- The value under a **name** of a mapping, if the mapping has it. -/
def field? (v : Value) (name : String) : Except Fault (Option Value) :=
  match v with
  | .map _ es => .ok (Entries.get? es name)
  | v => .error (.noMember v.kind "get")

/-- The value under a name of a mapping, or another one if the mapping does not have it. -/
def fieldOr (v : Value) (name : String) (default : Value) : Except Fault Value := do
  return (← v.field? name).getD default

/-- The value under a name of a mapping, nothing if the mapping does not have it. -/
def field (v : Value) (name : String) : Except Fault Value := v.fieldOr name .null

/-- A value, or an empty mapping if nothing is given. -/
def orEmpty (v : Value) : Value := if v.isTruthy then v else .map 0 []

/-- The entries of a mapping, where `member` names the way in which they are asked for. -/
def entriesBy (v : Value) (member : String) : Except Fault Entries :=
  match v with
  | .map _ es => .ok es
  | v => .error (.noMember v.kind member)

/-- The **entries of a section**, none if nothing is given for it. -/
def sectionEntries (v : Value) (name member : String) : Except Fault Entries := do
  (← v.field name).orEmpty.entriesBy member

/-- What a value consists of when it is **gone through**: the elements of a list, the keys of a
mapping, the characters of a text, the numbers of bytes. -/
def elements : Value → Except Fault (List Value)
  | .list _ xs | .tuple xs | .set _ xs => .ok xs
  | .map _ es => .ok (es.map (·.1))
  | .text s => .ok (s.toList.map fun c => .text c.toString)
  | .bytes bs => .ok (bs.map fun b => .int b.toNat)
  | v => .error (.notIterable v.kind)

end StackManifest.Value
