import StackManifest.Console.Call.Expression

/-!
# Calls in marks

A mark may name a call: a name with points, and arguments in round brackets. The arguments are
values written out, not computed. Nothing is called here, but arguments that are no values are a
fault.

* `Expression.valueKind` – the kind of a **value** that an expression writes out;
* `argumentsOf` – the arguments of a call;
* `checkCall` – the fault in a call, if there is one.
-/

namespace StackManifest.Console.Call

open StackManifest.Text

/-- What a text writes that is no value. -/
inductive CallFault where
  | complaint (c : Complaint)
  /-- A value of a kind is no key. -/
  | unhashable (kind : String)
  /-- An expression is not written out; it begins in the first line, unless it is missing. -/
  | computed (isMissing : Bool)

/-- The wording of a fault that is no complaint. -/
def CallFault.message : CallFault → String
  | .complaint c => c.message
  | .unhashable kind => (Fault.unhashable kind).message
  | .computed isMissing =>
    "malformed node or string" ++ if isMissing then ": None" else " on line 1"

/-- A number with a sign, if it is to have one, and whether it is imaginary. -/
def signedNumber? : Expression → Option Bool
  | .number i => some i
  | .signed true (.number i) => some i
  | _ => none

/-- A value that is to be a key. -/
def asKey (kind : Option String) : Except CallFault Unit :=
  match kind with
  | some kind => .error (.unhashable kind)
  | none => .ok ()

mutual

/-- The kind of a **value** that an expression writes out, if it cannot be a key. -/
def valueKind : Expression → Except CallFault (Option String)
  | .constant _ | .number _ | .text false => .ok none
  | .tuple xs => valueKinds xs
  | .set xs => do
    elementKinds xs
    return some "set"
  | .mapping es => do
    entryKinds es
    return some "dict"
  | .signed s x =>
    if (signedNumber? (.signed s x)).isSome then .ok none else .error (.computed false)
  | .sum a b =>
    match signedNumber? a, b with
    | some false, .number true => .ok none
    | _, _ => .error (.computed false)
  | .call (.name "set") true => .ok (some "set")
  | _ => .error (.computed false)

/-- The first kind among those of several values. -/
def valueKinds : List Expression → Except CallFault (Option String)
  | [] => .ok none
  | x :: xs => do
    let kind ← valueKind x
    let kinds ← valueKinds xs
    return kind <|> kinds

/-- The values of a set are its keys. -/
def elementKinds : List Expression → Except CallFault Unit
  | [] => .ok ()
  | x :: xs => do
    asKey (← valueKind x)
    elementKinds xs

/-- The keys of a mapping have to be keys. -/
def entryKinds : List (Option Expression × Expression) → Except CallFault Unit
  | [] => .ok ()
  | (none, _) :: _ => .error (.computed true)
  | (some k, v) :: es => do
    let kind ← valueKind k
    let _ ← valueKind v
    asKey kind
    entryKinds es

end

/-- The **arguments** of a call: none after a name, those in brackets at its end, or the whole
text if it is no call. -/
def argumentsOf (cs : List Char) : List Char :=
  let rest := cs.dropWhile fun c => isWordChar c || c = '.'
  if rest.isEmpty then "()".toList
  else if 2 ≤ rest.length ∧ rest.head? = some '(' ∧ rest.getLast? = some ')' ∧ !rest.contains '\n'
  then rest
  else cs

/-- The wording of the **fault in a call**, if there is one. -/
def checkCall (parameters : List Char) : Option String :=
  let arguments := argumentsOf (trim parameters)
  let shown := fun (cs : List Char) => quoted (String.ofList cs)
  match (Expression.read arguments).mapError CallFault.complaint >>= valueKind with
  | .ok _ => none
  | .error (.complaint c) =>
    some ("error parsing " ++ shown arguments ++ " in " ++ shown parameters ++ "; " ++ c.message)
  | .error f => some ("error parsing " ++ shown parameters ++ "; " ++ f.message)

end StackManifest.Console.Call
