import StackManifest.Fault
import StackManifest.Number.Shortest
import StackManifest.Text.Upper
import StackManifest.Value.Basic

/-!
# Sizes

A size is written as digits and a **unit**: one of the letters K, M, G and T, which stand
for the first four powers of 1024, and perhaps an i, which changes nothing. Letters may be
small or capital.

* `SizeUnit` – the units, and `SizeUnit.bytes`, what each counts;
* `Size.split?` – the digits and the unit letters of a written size;
* `Size.isLiteral` – whether a text is a written size;
* `Size.bytes` – the **number of bytes** that a text writes, zero when it writes none, and
  `Size.ofValue`, those that a value gives;
* `Size.format` – a number of bytes in the largest unit that fits, a half rounded up.
-/

namespace StackManifest

open StackManifest.Number StackManifest.Text

/-- A **unit** of size. -/
inductive SizeUnit where
  | kilo
  | mega
  | giga
  | tera
  deriving DecidableEq, Repr

namespace SizeUnit

/-- The power of 1024 that a unit is. -/
def power : SizeUnit → Nat
  | .kilo => 1
  | .mega => 2
  | .giga => 3
  | .tera => 4

/-- The number of bytes in a unit. -/
def bytes (u : SizeUnit) : Nat := Nat.pow 1024 u.power

/-- The unit that a capital name stands for. -/
def ofName? (name : String) : Option SizeUnit :=
  if name = "K" ∨ name = "KI" then some .kilo
  else if name = "M" ∨ name = "MI" then some .mega
  else if name = "G" ∨ name = "GI" then some .giga
  else if name = "T" ∨ name = "TI" then some .tera
  else none

end SizeUnit

namespace Size

/-- A letter that begins a unit, with every character that is the same letter when case is
ignored: the sign of the kelvin is a letter K. -/
def isUnitLetter (c : Char) : Bool := "KMGTkmgt\u212a".toList.contains c

/-- The letter that may follow, with every character that is the same letter when case is
ignored: the capital with a dot and the small one without. -/
def isBinaryMark (c : Char) : Bool := "iI\u0130\u0131".toList.contains c

/-- The **digits** and the **unit letters** of a written size. -/
def split? (s : String) : Option (List Char × List Char) :=
  let digits := s.toList.takeWhile isDigit
  let letters := s.toList.dropWhile isDigit
  let good := match letters with
    | [c] => isUnitLetter c
    | [c, d] => isUnitLetter c && isBinaryMark d
    | _ => false
  if !digits.isEmpty && good then some (digits, letters) else none

/-- Whether a text is a **written size**. -/
def isLiteral (s : String) : Bool := (split? s).isSome

/-- The **number of bytes** that a text writes, zero if it is no written size. -/
def bytes (s : String) : Except Fault Nat :=
  match split? s with
  | none => .ok 0
  | some (digits, letters) =>
    if digitLimit < digits.length then .error (.tooManyDigits digits.length)
    else
      let name := upper (String.ofList letters)
      match SizeUnit.ofName? name with
      | some u => .ok (digitsValue digits * u.bytes)
      | none => .error (.unknownKey (quoted name))

/-- Whether a value is a written size: only a text is one. -/
def isLiteralValue : Value → Bool
  | .text s => isLiteral s
  | _ => false

/-- The number of bytes that a value gives, zero if it is no written size. -/
def ofValue : Value → Except Fault Nat
  | .text s => bytes s
  | _ => .ok 0

/-- An amount of bytes to be written: a whole number, or a binary one as halving leaves. -/
inductive Amount where
  | whole (n : Int)
  | real (x : Binary64)

/-- The amount that a value gives: a number or a truth value. -/
def Amount.ofValue (v : Value) : Except Fault Amount :=
  match v, v.count? with
  | .float x, _ => .ok (.real x)
  | _, some n => .ok (.whole n)
  | v, none => .error (.notComparable ">=" v.kind "int")

/-- Whether an amount reaches a number of bytes. -/
def Amount.reaches : Amount → Nat → Bool
  | .whole n, k => (k : Int) ≤ n
  | .real x, k => x.compareInt k == some .gt || x.compareInt k == some .eq

/-- The amount as a decimal number. -/
def Amount.toDecimal : Amount → Except Fault Decimal
  | .whole n => .ok (Decimal.ofInt n)
  | .real x => match x.toDecimal? with
    | some d => .ok d
    | none => .error (.decimal .invalidOperation)

/-- The amount rounded towards zero. -/
def Amount.truncate : Amount → Except Fault Int
  | .whole n => .ok n
  | .real x => match x with
    | .nan _ => .error (.wholeOfNan "float NaN")
    | .infinite _ => .error (.wholeOfInfinity "float infinity")
    | x => .ok (x.truncate?.getD 0)

/-- The number of units in an amount, rounded to a whole one, a half up. -/
def Amount.inUnits (a : Amount) (unit : Nat) : Except Fault Int := do
  let d ← a.toDecimal
  let q ← (d.div ⟨false, unit, 0⟩).mapError .decimal
  q.roundHalfUp.mapError .decimal

/-- The largest unit with a name of its own in a **formatted** size that an amount
reaches. -/
def unitFor? (a : Amount) : Option (SizeUnit × String) :=
  if a.reaches SizeUnit.giga.bytes then some (.giga, "Gi")
  else if a.reaches SizeUnit.mega.bytes then some (.mega, "Mi")
  else if a.reaches SizeUnit.kilo.bytes then some (.kilo, "Ki")
  else none

/-- The **formatted** size: whole units of the largest unit that the amount reaches, or the
bytes if it reaches none. -/
def format (a : Amount) : Except Fault String :=
  match unitFor? a with
  | some (u, name) => do return toString (← a.inUnits u.bytes) ++ name
  | none => do return toString (← a.truncate)

end Size

end StackManifest
