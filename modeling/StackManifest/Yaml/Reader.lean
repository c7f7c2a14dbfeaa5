import Std.Data.HashMap
import StackManifest.Text.Utf16
import StackManifest.Value.Text
import StackManifest.Yaml.Literal
import StackManifest.Yaml.Node

/-!
# Reading a markup text

The plain data that a markup text stands for. Nodes become values by their tags: a scalar a
number, a date or a text, a collection a list, a mapping, a set or a list of pairs. The entries
of other mappings can be **merged** into a mapping. The nodes are read level by level, from
the outside in, and the fault of a text is the first one in that order.

* `Node.merged` – the entries of a mapping with the merges done;
* `Construction` – the reading of nodes, with the **first fault** so far and the values read;
* `construct` – the value of a node;
* `read`, `readBytes` – the plain data of a whole text and of the bytes of one.
-/

namespace StackManifest.Yaml

/-! ### Merging mappings -/

namespace Node

/-- The tag of a key, where the sign for the main value of a mapping is a text. -/
def plainKey : Node → Node
  | .scalar n t s => .scalar n (if t = Tag.value then Tag.str else t) s
  | .sequence n t xs => .sequence n (if t = Tag.value then Tag.str else t) xs
  | .mapping n t es => .mapping n (if t = Tag.value then Tag.str else t) es

mutual

/-- The entries of a mapping with the entries of the mappings that it asks to **merge** in
front, so that its own entries come later and win. Of several mappings merged at once, the
last comes first. None if something else than a mapping is to be merged. -/
def merged : Node → Option (List (Node × Node))
  | .mapping _ _ es => do
    let (others, own) ← splitMerges es
    return others ++ own
  | _ => none

/-- The entries that are merged into some entries, and the entries that are there already. -/
def splitMerges : List (Node × Node) → Option (List (Node × Node) × List (Node × Node))
  | [] => some ([], [])
  | (k, v) :: es => do
    let (others, own) ← splitMerges es
    if k.tag = Tag.merge then return ((← mergeSource v) ++ others, own)
    else return (others, (k.plainKey, v) :: own)

/-- The entries of a mapping, or of several mappings, that are to be merged. -/
def mergeSource : Node → Option (List (Node × Node))
  | .mapping n t es => merged (.mapping n t es)
  | .sequence _ _ xs => mergedAll xs
  | .scalar .. => none

/-- The entries of several mappings, those of the last mapping first. -/
def mergedAll : List Node → Option (List (Node × Node))
  | [] => some []
  | x :: xs => do
    let first ← merged x
    return (← mergedAll xs) ++ first

end

/-- The text of a scalar, or that of the main value of a mapping. -/
def scalarText? : Node → Option String
  | .scalar _ _ s => some s
  | .mapping _ _ es => mainText? es
  | .sequence .. => none
where
  /-- The text of the main value of some entries. -/
  mainText? : List (Node × Node) → Option String
    | [] => none
    | (k, v) :: es => if k.tag = Tag.value then scalarText? v else mainText? es

/-- Whether a node is a mapping. -/
def isMapping : Node → Bool
  | .mapping .. => true
  | _ => false

/-- The number of a node. -/
def number : Node → Nat
  | .scalar n _ _ | .sequence n _ _ | .mapping n _ _ => n

end Node

/-! ### Values of nodes -/

/-- How far the reading has come: the **first fault** with its level, and the values of the nodes
that were read, by their numbers, each with the level on which it was read. -/
structure Progress where
  first : Option (Nat × Fault)
  values : Std.HashMap Nat (Nat × Value)

/-- A step of the reading of nodes. -/
abbrev Construction (α : Type) := StateM Progress α

/-- Reports a fault on a level. It is the first fault if all faults so far lie deeper. -/
def report (level : Nat) (f : Fault) : Construction Unit :=
  modify fun p =>
    match p.first with
    | none => { p with first := some (level, f) }
    | some (l, _) => if level < l then { p with first := some (level, f) } else p

/-- The value of the node with a number, which is read **once**. It is read again only on a level
above the earlier one, since a fault in it may then be the first. -/
def readOnce (level number : Nat) (read : Construction Value) : Construction Value := do
  let earlier := (← get).values[number]?
  match earlier.filter (·.1 ≤ level) with
  | some (_, v) => return v
  | none =>
    let v ← read
    modify fun p => { p with values := p.values.insert number (level, v) }
    return v

/-- A value, or nothing and the report of a fault. -/
def orReport (level : Nat) (r : Except Fault Value) : Construction Value :=
  match r with
  | .ok v => return v
  | .error f => do report level f; return .null

/-- The items of a list node. -/
def items? : Node → Option (List Node)
  | .sequence _ _ xs => some xs
  | _ => none

/-- The pair that a mapping of a single entry is. -/
def pair? : Node → Option (Node × Node)
  | .mapping _ _ [e] => some e
  | _ => none

/-- The members of a set, in the order of their texts: a set has no order of its own. -/
def inTextOrder (xs : List Value) : List Value :=
  xs.mergeSort fun a b => decide (a.shown ≤ b.shown)

/-- A part, or nothing and the report of an ill-formed text. -/
def orIllFormed (level : Nat) (o : Option α) (f : α → Construction Value) :
    Construction Value :=
  match o with
  | some a => f a
  | none => do report level .markup; return .null

mutual

/-- The **value** of a node on a level. What is in a collection lies one level deeper. -/
def construct (fuel level : Nat) (n : Node) : Construction Value :=
  match fuel with
  | 0 => return .null
  | fuel + 1 => do
    let inner := level + 1
    if n.tag = Tag.seq then
      readOnce level n.number <| orIllFormed inner (items? n) fun xs =>
        return .list n.number (← constructList fuel inner xs)
    else if n.tag = Tag.map then
      readOnce level n.number <| orIllFormed inner n.merged fun es =>
        return .map n.number (← constructEntries fuel inner [] es)
    else if n.tag = Tag.set then
      readOnce level n.number <| orIllFormed inner n.merged fun es =>
        return .set n.number (inTextOrder ((← constructEntries fuel inner [] es).map (·.1)))
    else if n.tag = Tag.omap ∨ n.tag = Tag.pairs then
      readOnce level n.number <| orIllFormed inner (items? n) fun xs =>
        return .list n.number (← constructPairs fuel inner xs)
    else
      orIllFormed level n.scalarText? fun s =>
        if n.tag = Tag.timestamp ∧ n.isMapping then orReport level (.error (.notText "list"))
        else match scalarValue? n.number n.tag s with
        | some r => orReport level r
        | none => orReport level (.error .markup)

/-- The values of several nodes. -/
def constructList (fuel level : Nat) (xs : List Node) : Construction (List Value) :=
  match fuel with
  | 0 => return []
  | fuel + 1 => xs.mapM (construct fuel level)

/-- The entries of a mapping after some others. A key must be hashable. -/
def constructEntries (fuel level : Nat) (before : Entries) (es : List (Node × Node)) :
    Construction Entries :=
  match fuel with
  | 0 => return before
  | fuel + 1 =>
    es.foldlM (fun before (k, v) => do
      let key ← construct fuel level k
      if !key.isHashable then report level .markup
      let value ← construct fuel level v
      return before.put key value) before

/-- The pairs of a list of mappings with one entry each. -/
def constructPairs (fuel level : Nat) (xs : List Node) : Construction (List Value) :=
  match fuel with
  | 0 => return []
  | fuel + 1 => xs.mapM fun x =>
    orIllFormed level (pair? x) fun (k, v) => do
      let key ← construct fuel level k
      let value ← construct fuel level v
      return .tuple [key, value]

end

/-- The plain data of a node that is not deeper than a bound. -/
def Node.toValue (n : Node) (bound : Nat) : Except Fault Value :=
  let (v, p) := (construct (2 * bound + 2) 0 n).run ⟨none, ∅⟩
  match p.first with
  | none => .ok v
  | some (_, f) => .error f

/-- The **plain data** of a whole text. A text without a document stands for nothing. No node is
deeper than the text is long, but for an empty one. -/
def read (cs : List Char) : Except Fault Value := do
  match ← Node.read cs with
  | none => return .null
  | some n => n.toValue (cs.length + 1)

/-- The characters of the bytes of a text: in 16-bit units if they begin with the mark of the
order of the bytes. -/
def characters? (bs : List UInt8) : Option (List Char) :=
  match Text.decodeMarked? bs with
  | some cs => cs
  | none => (Text.decodeUtf8 bs).toOption

/-- The plain data of a text given as **bytes**. -/
def readBytes (bs : List UInt8) : Except Fault Value :=
  match characters? bs with
  | some cs => read cs
  | none => .error .markup

end StackManifest.Yaml
