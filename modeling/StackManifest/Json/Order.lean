import StackManifest.Fault
import StackManifest.Value.Access

/-!
# The order of the members of an object

Members are sorted by their keys. Keys of different kinds have no order, and then the fault
names the two that were compared first, so the sort says which it compares: first the run
with which the members begin, rising or falling, and then, for each member after it, the
middle of those among which it still can stand.

* `Json.keyLess` – the order of two keys;
* `Json.sortMembers` – the members in order.
-/

namespace StackManifest.Json

open StackManifest.Number

/-- The order of two keys, where they have one. -/
def keyLess (a b : Value) : Except Fault Bool :=
  match a, b with
  | .text s, .text t => .ok (s < t)
  | .bytes s, .bytes t => .ok (s < t)
  | .float x, .float y => .ok (x.less y)
  | a, b =>
    match a, b, a.count?, b.count? with
    | _, _, some m, some n => .ok (m < n)
    | .float x, _, _, some n => .ok (x.compareInt n == some .lt)
    | _, .float y, some m, _ => .ok (y.compareInt m == some .gt)
    | a, b, _, _ => .error (.notComparable "<" a.kind b.kind)

variable {α : Type}

/-- How many members go on in a run after a key: each less than the one before it in a run
that falls, and none of them in one that rises. -/
def runLength (falling : Bool) (key : Value) : List (Value × α) → Except Fault Nat
  | [] => .ok 0
  | e :: es => do
    if (← keyLess e.1 key) == falling then return (← runLength falling e.1 es) + 1
    return 0

/-- Puts a member into its place among sorted ones, after those that are equal to it. -/
def insertMember (e : Value × α) (es : List (Value × α)) :
    Except Fault (List (Value × α)) :=
  match _h : es.drop (es.length / 2) with
  | [] => .ok [e]
  | f :: after => do
    let before := es.take (es.length / 2)
    if ← keyLess e.1 f.1 then return (← insertMember e before) ++ f :: after
    return before ++ f :: (← insertMember e after)
termination_by es.length
decreasing_by
  all_goals
    have := congrArg List.length _h
    simp only [List.length_drop, List.length_cons, List.length_take] at *
    omega

/-- The members of an object, **sorted** by key. -/
def sortMembers (es : List (Value × α)) : Except Fault (List (Value × α)) :=
  match es with
  | e :: f :: rest => do
    let falling ← keyLess f.1 e.1
    let n := (← runLength falling e.1 (f :: rest)) + 1
    let run := es.take n
    (es.drop n).foldlM (fun sorted e => insertMember e sorted)
      (if falling then run.reverse else run)
  | es => .ok es

end StackManifest.Json
