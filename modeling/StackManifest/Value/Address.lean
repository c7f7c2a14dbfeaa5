import StackManifest.Value.Basic

/-!
# Places in plain data

A place in plain data is found by going down from the outside: to an element of a list, or to
the value of an entry of a mapping. A change in a container changes it in **all its places**.

* `Address` – the positions on the way down, and `Value.at?`, what lies there;
* `Value.maxLabel` – the greatest label or mark in use;
* `Value.inPlace` – the data with the value at an address changed, there only;
* `Value.replaced` – the data with a container replaced in all its places;
* `Value.updateAt` – the data with the value at an address **changed**, wherever the
  containers around it stand.
-/

namespace StackManifest

open StackManifest.Number

/-- The **positions** on the way down to a place, from the outside in. -/
abbrev Address := List Nat

namespace Value

/-- The elements of a list, the values of the entries of a mapping, the characters of a text, and
the numbers of bytes. -/
def children : Value → List Value
  | .list _ xs | .tuple xs => xs
  | .text s => s.toList.map fun c => .text c.toString
  | .bytes bs => bs.map fun b => .int b.toNat
  | .map _ es => es.map (·.2)
  | _ => []

/-- A list or a mapping with a child changed. -/
def modifyChild (i : Nat) (f : Value → Value) : Value → Value
  | .list l xs => .list l (xs.modify i f)
  | .tuple xs => .tuple (xs.modify i f)
  | .map l es => .map l (es.modify i fun e => (e.1, f e.2))
  | v => v

/-- The value at an **address**, if there is one. -/
def at? (v : Value) : Address → Option Value
  | [] => some v
  | i :: rest => v.children[i]?.bind fun c => c.at? rest

/-- The data with the value at an address changed, **there only**. -/
def inPlace (f : Value → Value) : Address → Value → Value
  | [], v => f v
  | i :: rest, v => v.modifyChild i (inPlace f rest)

/-- The label of a container, zero for any other value. -/
def label : Value → Label
  | .date l _ | .moment l _ | .list l _ | .set l _ | .map l _ => l
  | _ => 0

mutual

/-- The greatest label in some data, or mark of what is no number. -/
def maxLabel : Value → Label
  | .float (.nan mark) => mark
  | .tuple xs => maxLabelList xs
  | .list l xs | .set l xs => max l (maxLabelList xs)
  | .map l es => max l (maxLabelEntries es)
  | .date l _ | .moment l _ => l
  | _ => 0

/-- The greatest label in several values. -/
def maxLabelList : List Value → Label
  | [] => 0
  | x :: xs => max (maxLabel x) (maxLabelList xs)

/-- The greatest label in the entries of a mapping. -/
def maxLabelEntries : List (Value × Value) → Label
  | [] => 0
  | (k, v) :: es => max (max (maxLabel k) (maxLabel v)) (maxLabelEntries es)

end

mutual

/-- The data with the container with a label **replaced** in all its places. -/
def replaced (v : Value) (l : Label) (new : Value) : Value :=
  if v.label = l then new
  else match v with
    | .tuple xs => .tuple (replacedList xs l new)
    | .list k xs => .list k (replacedList xs l new)
    | .map k es => .map k (replacedEntries es l new)
    | v => v

/-- Several values with a container replaced. -/
def replacedList (xs : List Value) (l : Label) (new : Value) : List Value :=
  match xs with
  | [] => []
  | x :: xs => replaced x l new :: replacedList xs l new

/-- The entries of a mapping with a container replaced. -/
def replacedEntries (es : Entries) (l : Label) (new : Value) : Entries :=
  match es with
  | [] => []
  | (k, v) :: es => (k, replaced v l new) :: replacedEntries es l new

end

/-- How many positions of an address lead to the **innermost** container on the way that carries
a label. -/
def labelledPrefix (v : Value) (a : Address) : Option Nat :=
  ((List.range (a.length + 1)).reverse).find? fun n =>
    match v.at? (a.take n) with
    | some c => c.label ≠ 0
    | none => false

/-- The data with the value at an address **changed**, in all places of the containers around
it. -/
def updateAt (f : Value → Value) (a : Address) (v : Value) : Value :=
  match v.labelledPrefix a with
  | none => inPlace f a v
  | some n =>
    match v.at? (a.take n) with
    | none => v
    | some c => v.replaced c.label (inPlace f (a.drop n) c)

end Value

end StackManifest
