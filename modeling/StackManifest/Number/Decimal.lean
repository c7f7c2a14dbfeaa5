import StackManifest.Number.DigitCount
import StackManifest.Number.Numeral

/-!
# Decimal arithmetic

Numbers in the decimal system with a **limited precision**: a result keeps 28 significant
digits, a tie goes to the even digit, and a result beyond the greatest exponent is refused.
The exponent of a number is part of it, so that `1.50` and `1.5` are different numbers of
the same value.

* `Decimal` – a sign, a coefficient and a power of ten;
* `Decimal.finish` – the rounding that ends every operation;
* `Decimal.add`, `Decimal.mul`, `Decimal.div` – the operations;
* `Decimal.isWhole` – no fraction, refused when the whole part exceeds the precision;
* `Decimal.roundHalfUp` and `Decimal.ceil`, `Decimal.truncate` – the whole numbers around;
* `Decimal.read?` and `Decimal.text` – the written form.
-/

namespace StackManifest.Number

/-- A **decimal number**: plus or minus the coefficient times ten to the exponent. -/
structure Decimal where
  negative : Bool
  coefficient : Nat
  exponent : Int
  deriving DecidableEq, Repr

/-- Why an operation has no result. -/
inductive DecimalFault where
  /-- The result lies beyond the greatest exponent. -/
  | overflow
  /-- The whole part of a quotient has more digits than the precision. -/
  | divisionImpossible
  /-- The rounded number has more digits than the precision, or there is none. -/
  | invalidOperation
  /-- A text writes no number. -/
  | conversionSyntax
  deriving DecidableEq, Repr

namespace Decimal

/-- How many significant digits a result keeps. -/
def precision : Nat := 28

/-- The greatest exponent of a leading digit. -/
def maxExponent : Int := 999999

/-- The least exponent of a last digit. -/
def minQuantum : Int := -1000026

/-- A whole number. -/
def ofInt (n : Int) : Decimal := ⟨n < 0, n.natAbs, 0⟩

instance : OfNat Decimal n := ⟨⟨false, n, 0⟩⟩

/-- The number with its sign, as a multiple of ten to its exponent. -/
def signed (d : Decimal) : Int := if d.negative then -(d.coefficient : Int) else d.coefficient

/-- The exponent of the leading digit. -/
def leadExponent (d : Decimal) : Int := d.exponent + digitCount d.coefficient - 1

/-- The **rounding** at the end of an operation: digits beyond the precision or below the
least quantum are dropped, the exponent of a zero is brought into range, and a number
beyond the greatest exponent is refused. -/
def finish (d : Decimal) : Except DecimalFault Decimal :=
  if d.coefficient = 0 then
    .ok { d with exponent := min maxExponent (max minQuantum d.exponent) }
  else
    let size := digitCount d.coefficient
    let drop := max (size - precision) (minQuantum - d.exponent).toNat
    let r : Decimal :=
      if drop = 0 then d
      else if size + 1 < drop then { d with coefficient := 0, exponent := minQuantum }
      else
        let c := roundHalfEven d.coefficient (tenTo drop)
        let e := d.exponent + drop
        if c = tenTo precision then
          { d with coefficient := tenTo (precision - 1), exponent := e + 1 }
        else { d with coefficient := c, exponent := e }
    if r.coefficient ≠ 0 ∧ maxExponent < r.leadExponent then .error .overflow else .ok r

/-- The coefficient, with its sign, at a lower exponent. -/
def signedAt (d : Decimal) (e : Int) : Int := d.signed * tenTo (d.exponent - e).toNat

/-- The **sum** of two numbers, at the lower of their exponents. A sum that vanishes is
positive, unless both numbers are negative. -/
def add (a b : Decimal) : Except DecimalFault Decimal :=
  let e := min a.exponent b.exponent
  let s := a.signedAt e + b.signedAt e
  let negative := if s = 0 then a.negative && b.negative else decide (s < 0)
  finish ⟨negative, s.natAbs, e⟩

/-- The **product** of two numbers. -/
def mul (a b : Decimal) : Except DecimalFault Decimal :=
  finish ⟨a.negative != b.negative, a.coefficient * b.coefficient, a.exponent + b.exponent⟩

/-- Drops zeros at the end of a coefficient as long as the exponent stays at most the given
one. -/
def stripZeros (fuel : Nat) (c : Nat) (e limit : Int) : Nat × Int :=
  match fuel with
  | 0 => (c, e)
  | fuel + 1 =>
    if e < limit ∧ c % 10 = 0 then stripZeros fuel (c / 10) (e + 1) limit else (c, e)

/-- The **quotient** of a number by one that is not zero. An exact quotient has the
difference of the exponents, as far as its digits allow; any other one has the full
precision. -/
def div (a b : Decimal) : Except DecimalFault Decimal :=
  let negative := a.negative != b.negative
  let ideal := a.exponent - b.exponent
  if a.coefficient = 0 then finish ⟨negative, 0, ideal⟩
  else
    let shift : Int :=
      (digitCount b.coefficient : Int) - digitCount a.coefficient + precision + 1
    let n := a.coefficient * tenTo shift.toNat
    let m := b.coefficient * tenTo (-shift).toNat
    let q := n / m
    if n % m = 0 then
      let (c, e) := stripZeros (digitCount q) q (ideal - shift) ideal
      finish ⟨negative, c, e⟩
    else
      -- the digit that says "and more" keeps a tie from being seen where there is none
      finish ⟨negative, if q % 5 = 0 then q + 1 else q, ideal - shift⟩

/-- The number rounded towards zero. -/
def truncate (d : Decimal) : Int :=
  if 0 ≤ d.exponent then d.signedAt 0
  else Int.tdiv d.signed (tenTo (-d.exponent).toNat)

/-- The least whole number that is not below. -/
def ceil (d : Decimal) : Int :=
  if 0 ≤ d.exponent then d.signedAt 0
  else -(Int.fdiv (-d.signed) (tenTo (-d.exponent).toNat))

/-- The number rounded to a **whole number**, a half away from zero. Refused when it has
more digits than the precision. -/
def roundHalfUp (d : Decimal) : Except DecimalFault Int :=
  let n : Nat :=
    if 0 ≤ d.exponent then d.coefficient * tenTo d.exponent.toNat
    else
      let unit := tenTo (-d.exponent).toNat
      (2 * d.coefficient + unit) / (2 * unit)
  if precision < digitCount n then .error .invalidOperation
  else .ok (if d.negative then -(n : Int) else n)

/-- Whether a number has **no fraction**. Refused when its whole part has more digits than
the precision. -/
def isWhole (d : Decimal) : Except DecimalFault Bool :=
  if d.coefficient ≠ 0 ∧ (precision : Int) ≤ d.leadExponent then .error .divisionImpossible
  else if 0 ≤ d.exponent then .ok true
  else .ok (d.coefficient % tenTo (-d.exponent).toNat = 0)

/-- The order of a number and a whole number. -/
def compareInt (d : Decimal) (n : Int) : Ordering :=
  if 0 ≤ d.exponent then compare (d.signedAt 0) n
  else compare d.signed (n * tenTo (-d.exponent).toNat)

/-- A number above zero. -/
def isPositive (d : Decimal) : Bool := !d.negative && d.coefficient ≠ 0

/-- The greatest exponent of a number that is read. -/
def readLimit : Int := 999999999999999999

/-- The number that a numeral writes, with all its digits. None when its exponent is out
of the range of what can be read. -/
def ofNumeral? (n : Numeral) : Option Decimal :=
  let d : Decimal := ⟨n.negative, n.coefficient, n.exponent⟩
  let top := if n.coefficient = 0 then d.exponent else d.leadExponent
  if top ≤ readLimit ∧ -(2 * readLimit - 1) ≤ d.exponent then some d else none

/-- The **reading** of a written amount: blanks around it and underscores anywhere are
ignored. -/
def read? (s : String) : Option Decimal :=
  let cs := (StackManifest.Text.trim s.toList).filter (· ≠ '_')
  (Numeral.read? cs).bind ofNumeral?

/-- Whether the written form needs a power of ten: when the exponent is positive, or the
leading digit stands more than six places after the point. -/
def needsPower (d : Decimal) : Bool := 0 < d.exponent || d.leadExponent < -6

/-- The **written form**: all digits of the coefficient, with a point where the exponent
puts it or with a power of ten. -/
def text (d : Decimal) : String :=
  let ds := StackManifest.Text.decimalDigits d.coefficient
  let sign := if d.negative then "-" else ""
  if d.needsPower then
    let lead := ds.take 1
    let rest := ds.drop 1
    let point := if rest.isEmpty then [] else '.' :: rest
    let e := d.leadExponent
    let mark := if e < 0 then "E-" else "E+"
    sign ++ String.ofList (lead ++ point) ++ mark ++ toString e.natAbs
  else
    let places := (-d.exponent).toNat
    if places = 0 then sign ++ String.ofList ds
    else
      let padded := List.replicate (places + 1 - ds.length) '0' ++ ds
      let k := padded.length - places
      sign ++ String.ofList (padded.take k ++ '.' :: padded.drop k)

end Decimal

end StackManifest.Number
