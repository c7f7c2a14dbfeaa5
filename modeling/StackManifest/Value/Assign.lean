import StackManifest.Value.Address
import StackManifest.Value.Text

/-!
# Assigning into plain data

A place in plain data can be named by the keys and positions on the way to it. What is assigned
there changes the container around it.

* `Value.step` – the position of an element that a **key** names;
* `Value.assignAt` – a container with a value assigned under a key;
* `Value.assigned` – the container at the end of a path, with a value **assigned** in it.
-/

namespace StackManifest.Value

/-- The position in a sequence that a key names; positions below zero count from the end. A fault
tells what the sequence is indexed by, and a position outside by what name it goes. -/
def index (bad : String → Fault) (outside : String) (size : Nat) (key : Value) :
    Except Fault Nat :=
  match key.count? with
  | none => .error (bad key.kind)
  | some n =>
    let i := if n < 0 then n + size else n
    if n < -Number.twoTo 63 ∨ (Number.twoTo 63 : Int) ≤ n then .error .indexTooLarge
    else if 0 ≤ i ∧ i < size then .ok i.toNat
    else .error (.beyondEnd outside)

/-- The position in a list that a key names. -/
def listIndex (size : Nat) (key : Value) : Except Fault Nat :=
  index (.badIndex "list") "list index" size key

/-- The position of the element that a **key** names: of the entry of a mapping, or in a
sequence. -/
def step (v key : Value) : Except Fault Nat :=
  match v with
  | .map _ es =>
    if !key.isHashable then .error (.unhashable key.kind)
    else match es.findIdx? fun e => e.1.eqv key with
      | some i => .ok i
      | none => .error (.unknownKey key.shown)
  | .list _ xs => listIndex xs.length key
  | .tuple xs => index (.badIndex "tuple") "tuple index" xs.length key
  | .text s => index .badTextIndex "string index" s.length key
  | .bytes bs => index (.badIndex "byte") "index" bs.length key
  | v => .error (.noElements v.kind)

/-- A container with a value **assigned** under a key: a mapping takes any new key, a list only
positions that it has. -/
def assignAt (v key new : Value) : Except Fault Value :=
  match v with
  | .map l es =>
    if key.isHashable then .ok (.map l (Entries.put es key new))
    else .error (.unhashable key.kind)
  | .list l xs => do
    return .list l
      (xs.set (← index (.badIndex "list") "list assignment index" xs.length key) new)
  | v => .error (.noAssignment v.kind)

/-- The address at the end of a path of keys. -/
def follow (v : Value) : List Value → Except Fault Address
  | [] => .ok []
  | k :: ks => do
    let i ← v.step k
    match v.children[i]? with
    | some c => return i :: (← follow c ks)
    | none => throw (.noElements v.kind)

/-- The container that is changed when a value is **assigned** under the last key of a path, which
is the container at the end of the other keys, and what becomes of it. -/
def assigned (v : Value) (path : List Value) (new : Value) : Except Fault (Value × Value) := do
  match path.getLast? with
  | none => throw (.beyondEnd "list index")
  | some key =>
    let container := (v.at? (← v.follow path.dropLast)).getD .null
    return (container, ← container.assignAt key new)

end StackManifest.Value
