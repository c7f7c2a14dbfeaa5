import StackManifest.Text.Blank
import StackManifest.Text.Digit

/-!
# Written decimal numbers

A number written with an optional sign, digits, at most one point and an optional power of
ten. The digits are those of any script.

* `Numeral` – a written number: its sign, its digits as a **coefficient** and the power of
  ten that goes with them;
* `Numeral.read?` – the number that a whole text writes;
* `readDigits?` – a text that is digits only.
-/

namespace StackManifest.Number

open StackManifest.Text

/-- A **written number**: plus or minus the coefficient times ten to the exponent. -/
structure Numeral where
  negative : Bool
  coefficient : Nat
  exponent : Int
  deriving DecidableEq, Repr

/-- Cuts an optional sign off the front: whether it is a minus, and the rest. -/
def splitSign : List Char → Bool × List Char
  | '-' :: cs => (true, cs)
  | '+' :: cs => (false, cs)
  | cs => (false, cs)

/-- The number that a non-empty text of digits writes. -/
def readDigits? (cs : List Char) : Option Nat :=
  if !cs.isEmpty && cs.all isDigit then some (digitsValue cs) else none

/-- The power of ten after the digits: none at all, or a mark, an optional sign and
digits. -/
def readExponent? : List Char → Option Int
  | [] => some 0
  | c :: cs =>
    if c = 'e' ∨ c = 'E' then
      let (negative, ds) := splitSign cs
      (readDigits? ds).map fun n => if negative then -(n : Int) else n
    else
      none

/-- The number that a text **writes**: a sign, digits with a point before, among or after
them, and a power of ten, where the sign, the point and the power may be missing. -/
def Numeral.read? (cs : List Char) : Option Numeral :=
  let (negative, cs) := splitSign cs
  let whole := cs.takeWhile isDigit
  let rest := cs.dropWhile isDigit
  let (fraction, rest) := match rest with
    | '.' :: rest => (rest.takeWhile isDigit, rest.dropWhile isDigit)
    | rest => ([], rest)
  if whole.isEmpty && fraction.isEmpty then
    none
  else
    (readExponent? rest).map fun e =>
      { negative, coefficient := digitsValue (whole ++ fraction),
        exponent := e - fraction.length }

end StackManifest.Number
