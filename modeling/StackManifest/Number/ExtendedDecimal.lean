import StackManifest.Number.Decimal
import StackManifest.Text.Upper

/-!
# Decimal numbers and what is none

Where a number is taken as it is written, it may also be written as an infinity or as no number
at all. What is no number goes through every operation, unless it **signals**: then every operation
on it is refused.

* `ExtendedDecimal` – a number, an infinity, or no number;
* `ExtendedDecimal.read` – what a text writes, or why it writes none of them;
* `ExtendedDecimal.add`, `ExtendedDecimal.mul` – the operations;
* `ExtendedDecimal.text` – the written form.
-/

namespace StackManifest.Number

open StackManifest.Text

/-- A **decimal number**, an infinity, or no number. What is no number has a sign and some digits
that say more about it, none of them if they are zero. -/
inductive ExtendedDecimal where
  | finite (d : Decimal)
  | infinite (negative : Bool)
  | nan (negative signals : Bool) (digits : Nat)
  deriving DecidableEq, Repr

namespace ExtendedDecimal

instance : OfNat ExtendedDecimal n := ⟨.finite (OfNat.ofNat n)⟩

/-- A text without an initial word, which may have letters of either case. -/
def dropWord? (word : String) (cs : List Char) : Option (List Char) :=
  if asciiLower (String.ofList (cs.take word.length)) = word then some (cs.drop word.length)
  else none

/-- An infinity or what is no number, as a word and perhaps digits write it. -/
def readSpecial? (cs : List Char) : Option ExtendedDecimal :=
  let (negative, body) := splitSign cs
  let noNumber := fun (signals : Bool) (rest : List Char) =>
    if rest.all isDigit then some (nan negative signals (digitsValue rest)) else none
  if dropWord? "inf" body = some [] ∨ dropWord? "infinity" body = some [] then
    some (.infinite negative)
  else match dropWord? "nan" body, dropWord? "snan" body with
    | some rest, _ => noNumber false rest
    | _, some rest => noNumber true rest
    | _, _ => none

/-- What a text **writes**: blanks around it and underscores anywhere are ignored. -/
def read (s : String) : Except DecimalFault ExtendedDecimal :=
  let cs := (trim s.toList).filter (· ≠ '_')
  match readSpecial? cs, Numeral.read? cs with
  | some x, _ => .ok x
  | none, none => .error .conversionSyntax
  | none, some n =>
    match Decimal.ofNumeral? n with
    | some d => .ok (.finite d)
    | none => .error .invalidOperation

/-- Whether something signals. -/
def isSignaling : ExtendedDecimal → Bool
  | .nan _ signals _ => signals
  | _ => false

/-- The result of an operation if one of its parts is no number: the first one that is none, with
no more digits than the precision. -/
def nanOf? : ExtendedDecimal → ExtendedDecimal → Option ExtendedDecimal
  | .nan s _ ds, _ | _, .nan s _ ds => some (.nan s false (ds % tenTo Decimal.precision))
  | _, _ => none

/-- An operation on what is a number: what signals is refused, what is no number goes through. -/
def unlessNan (a b : ExtendedDecimal) (r : Except DecimalFault ExtendedDecimal) :
    Except DecimalFault ExtendedDecimal :=
  if a.isSignaling || b.isSignaling then .error .invalidOperation
  else match nanOf? a b with
    | some x => .ok x
    | none => r

/-- The **sum**. Opposite infinities have none. -/
def add (a b : ExtendedDecimal) : Except DecimalFault ExtendedDecimal :=
  unlessNan a b <| match a, b with
    | .finite c, .finite d => finite <$> c.add d
    | .infinite s, .infinite t => if s = t then .ok (.infinite s) else .error .invalidOperation
    | .infinite s, _ | _, .infinite s => .ok (.infinite s)
    | a, _ => .ok a

/-- The **product** with a number. An infinity times zero has none. -/
def mul (a : ExtendedDecimal) (b : Decimal) : Except DecimalFault ExtendedDecimal :=
  unlessNan a (.finite b) <| match a with
    | .finite c => finite <$> c.mul b
    | .infinite s =>
      if b.coefficient = 0 then .error .invalidOperation else .ok (.infinite (s != b.negative))
    | a => .ok a

/-- Whether two are **equal**: numbers are when they have the same value, and what is no number
is equal to nothing. -/
def eqv : ExtendedDecimal → ExtendedDecimal → Bool
  | .finite c, .finite d =>
    let e := min c.exponent d.exponent
    c.signedAt e == d.signedAt e
  | .infinite s, .infinite t => s == t
  | _, _ => false

/-- The **written form**. -/
def text : ExtendedDecimal → String
  | .finite d => d.text
  | .infinite s => (if s then "-" else "") ++ "Infinity"
  | .nan s signals ds =>
    (if s then "-" else "") ++ (if signals then "sNaN" else "NaN")
      ++ (if ds = 0 then "" else String.ofList (decimalDigits ds))

end ExtendedDecimal

end StackManifest.Number
