import StackManifest.Fault

/-!
# Written whole numbers

A whole number is written in one of four bases, with blanks around it, an optional sign and,
unless the base is ten, an optional mark of the base.

* `digitIn?` – the value of a digit in a base;
* `readWhole` – the number that a whole text writes, or the fault in it.
-/

namespace StackManifest.Number

open StackManifest.Text

/-- The value of a letter or digit as a **digit**, letters following the nine. -/
def digitIn? (base : Nat) (c : Char) : Option Nat :=
  let v :=
    if 'a' ≤ c ∧ c ≤ 'z' then some (c.toNat - 0x61 + 10)
    else if 'A' ≤ c ∧ c ≤ 'Z' then some (c.toNat - 0x41 + 10)
    else digitValue? c
  v.filter (· < base)

/-- The letter of the mark of a base. -/
def baseMark? (base : Nat) : Option Char :=
  if base = 2 then some 'b' else if base = 8 then some 'o' else if base = 16 then some 'x'
  else none

/-- Cuts the mark of the base off the front, if a digit follows it. -/
def dropBaseMark (base : Nat) (cs : List Char) : List Char :=
  match cs with
  | '0' :: m :: d :: rest =>
    if baseMark? base = some m.toLower ∧ (digitIn? base d).isSome then d :: rest else cs
  | _ => cs

/-- The **whole number** that a text writes in a base. Only numbers in base ten have a limit of
digits, which counts before what comes after the digits. -/
def readWhole (base : Nat) (cs : List Char) : Except Fault Int :=
  let bad := Fault.badInteger base (String.ofList cs)
  let (negative, body) := splitSign (trim cs)
  let body := dropBaseMark base body
  let ds := body.takeWhile fun c => (digitIn? base c).isSome
  if base = 10 ∧ digitLimit < ds.length then .error (.tooManyDigits ds.length)
  else if ds.isEmpty ∨ ds.length < body.length then .error bad
  else
    let n : Nat := ds.foldl (fun n c => base * n + (digitIn? base c).getD 0) 0
    .ok (if negative then -(n : Int) else n)

end StackManifest.Number
