import StackManifest.Value.Address

/-!
# Labels for data that lives on

Data that is changed while other data still refers to it needs a label on every container, so that
a change is seen wherever the container stands. New data gets labels and marks that no other data
has.

* `Value.mapLabels` – the data with its **labels and marks** replaced;
* `Value.copied`, `Value.renewed` – the data as new data, with the same values or with new ones;
* `Value.labelled` – the data with a label on **every container**.
-/

namespace StackManifest.Value

open StackManifest.Number

mutual

/-- The data with its **labels**, and the numbers in it, replaced throughout. -/
def mapLabels (f : Label → Label) (g : Binary64 → Binary64) : Value → Value
  | .float x => .float (g x)
  | .date l d => .date (f l) d
  | .moment l m => .moment (f l) m
  | .tuple xs => .tuple (mapLabelsList f g xs)
  | .list l xs => .list (f l) (mapLabelsList f g xs)
  | .set l xs => .set (f l) (mapLabelsList f g xs)
  | .map l es => .map (f l) (mapLabelsEntries f g es)
  | v => v

/-- Several values with their labels and numbers replaced. -/
def mapLabelsList (f : Label → Label) (g : Binary64 → Binary64) : List Value → List Value
  | [] => []
  | x :: xs => mapLabels f g x :: mapLabelsList f g xs

/-- The entries of a mapping with their labels and numbers replaced. -/
def mapLabelsEntries (f : Label → Label) (g : Binary64 → Binary64) :
    List (Value × Value) → List (Value × Value)
  | [] => []
  | (k, v) :: es => (mapLabels f g k, mapLabels f g v) :: mapLabelsEntries f g es

end

/-- A label or a mark moved up, unless it is zero. -/
def movedUp (n l : Nat) : Nat := if l = 0 then 0 else l + n

/-- The data with its labels moved up: **new containers** with the same values in them. -/
def copied (n : Label) (v : Value) : Value := v.mapLabels (movedUp n) id

/-- The data with its labels and its marks moved up: nothing in it is part of other data. -/
def renewed (n : Label) (v : Value) : Value :=
  v.mapLabels (movedUp n) fun x =>
    match x with
    | .nan mark => .nan (movedUp n mark)
    | x => x

/-- A label that a container gets if it has none, and the next one. -/
def labelFrom (l : Label) (next : Label) : Label × Label :=
  if l = 0 then (next, next + 1) else (l, next)

mutual

/-- The data with a label on **every container**, from a label on, and the label after them. -/
def labelled : Value → Label → Value × Label
  | .tuple xs, next =>
    let (xs, next) := labelledList xs next
    (.tuple xs, next)
  | .list l xs, next =>
    let (l, next) := labelFrom l next
    let (xs, next) := labelledList xs next
    (.list l xs, next)
  | .set l xs, next =>
    let (l, next) := labelFrom l next
    let (xs, next) := labelledList xs next
    (.set l xs, next)
  | .map l es, next =>
    let (l, next) := labelFrom l next
    let (es, next) := labelledEntries es next
    (.map l es, next)
  | v, next => (v, next)

/-- Several values with a label on every container. -/
def labelledList : List Value → Label → List Value × Label
  | [], next => ([], next)
  | x :: xs, next =>
    let (x, next) := labelled x next
    let (xs, next) := labelledList xs next
    (x :: xs, next)

/-- The entries of a mapping with a label on every container. -/
def labelledEntries : List (Value × Value) → Label → List (Value × Value) × Label
  | [], next => ([], next)
  | (k, v) :: es, next =>
    let (k, next) := labelled k next
    let (v, next) := labelled v next
    let (es, next) := labelledEntries es next
    ((k, v) :: es, next)

end

end StackManifest.Value
