import StackManifest.Number.Decimal

/-!
# Binary floating point

The numbers of 53 binary digits that a document may hold, as exact dyadic fractions: each
operation is a rounding of an exact fraction, so nothing depends on the machine.

* `Binary64` – a signed **significand** times a power of two, an infinity, or no number;
* `Binary64.ofRatio` – the nearest number to a fraction, a tie to the even significand;
* `Binary64.ofNumeral` – the nearest number to a written number;
* `Binary64.add`, `Binary64.mul`, `Binary64.neg` – the operations;
* `Binary64.compareInt`, `Binary64.less`, `Binary64.eqv` – comparison by value.
-/

namespace StackManifest.Number

/-- A **binary number**. A finite one is plus or minus the significand times two to the
exponent; the significand has 53 binary digits unless the exponent is the least one. What is no
number carries a **mark** that tells where it comes from: two of them count as the same value only
if they have the same mark. The mark zero belongs to the constant of the notations. -/
inductive Binary64 where
  | nan (mark : Nat)
  | infinite (negative : Bool)
  | finite (negative : Bool) (significand : Nat) (exponent : Int)
  deriving DecidableEq, Repr

namespace Binary64

/-- The least exponent. -/
def minExponent : Int := -1074

/-- The greatest exponent. -/
def maxExponent : Int := 971

/-- The number zero. -/
def zero (negative : Bool) : Binary64 := .finite negative 0 minExponent

/-- The fraction `num / den` times two to the power `-e`, as a quotient of numbers. -/
def scaled (num den : Nat) (e : Int) : Nat × Nat :=
  (num * twoTo (-e).toNat, den * twoTo e.toNat)

/-- The **nearest number** to the fraction `num / den`, with a sign; a tie goes to the even
significand, and what lies too far out becomes infinite. -/
def ofRatio (negative : Bool) (num den : Nat) : Binary64 :=
  if num = 0 then zero negative
  else
    let size : Int := (num.log2 : Int) - den.log2
    let e := max (size - 53) minExponent
    let (n, d) := scaled num den e
    let e := if twoTo 53 ≤ n / d then e + 1 else e
    let (n, d) := scaled num den e
    let m := roundHalfEven n d
    let (m, e) := if m = twoTo 53 then (twoTo 52, e + 1) else (m, e)
    if maxExponent < e then .infinite negative else .finite negative m e

/-- The nearest number to a **written number**. Powers of ten far out of range are not
computed. -/
def ofNumeral (n : Numeral) : Binary64 :=
  let lead := n.exponent + digitCount n.coefficient
  if n.coefficient = 0 then zero n.negative
  else if 400 < lead then .infinite n.negative
  else if lead < -400 then zero n.negative
  else ofRatio n.negative (n.coefficient * tenTo n.exponent.toNat) (tenTo (-n.exponent).toNat)

/-- The finite number nearest to a **whole number** divided by another; none when it is too
large to be finite. -/
def ofQuotient? (n : Int) (d : Nat) : Option Binary64 :=
  match ofRatio (n < 0) n.natAbs d with
  | .finite s m e => some (.finite s m e)
  | _ => none

/-- The magnitude of a finite number as a fraction. -/
def magnitude (m : Nat) (e : Int) : Nat × Nat := (m * twoTo e.toNat, twoTo (-e).toNat)

/-- What is no number with another mark; any number as it is. -/
def marked (mark : Nat) : Binary64 → Binary64
  | .nan _ => .nan mark
  | x => x

/-- The number with the other sign. -/
def neg : Binary64 → Binary64
  | .nan mark => .nan mark
  | .infinite s => .infinite !s
  | .finite s m e => .finite (!s) m e

/-- A significand with a sign. -/
def signed (s : Bool) (m : Nat) : Int := if s then -(m : Int) else m

/-- The **sum** of two numbers. -/
def add : Binary64 → Binary64 → Binary64
  | .nan mark, _ | _, .nan mark => .nan mark
  | .infinite s, .infinite t => if s = t then .infinite s else .nan 0
  | .infinite s, _ | _, .infinite s => .infinite s
  | .finite s m e, .finite t n f =>
    let g := min e f
    let sum := signed s m * twoTo (e - g).toNat + signed t n * twoTo (f - g).toNat
    if sum = 0 then zero (s && t)
    else
      let (a, b) := magnitude sum.natAbs g
      ofRatio (sum < 0) a b

/-- The **product** of two numbers. -/
def mul : Binary64 → Binary64 → Binary64
  | .nan mark, _ | _, .nan mark => .nan mark
  | .infinite s, x | x, .infinite s =>
    match x with
    | .finite t m _ => if m = 0 then .nan 0 else .infinite (s != t)
    | .infinite t => .infinite (s != t)
    | x => x
  | .finite s m e, .finite t n f =>
    let (a, b) := magnitude (m * n) (e + f)
    ofRatio (s != t) a b

/-- The order of a number and a whole number; none for what is no number. -/
def compareInt : Binary64 → Int → Option Ordering
  | .nan _, _ => none
  | .infinite s, _ => some (if s then .lt else .gt)
  | .finite s m e, n =>
    some (compare (signed s m * twoTo e.toNat) (n * twoTo (-e).toNat))

/-- Whether a number is **less** than another. -/
def less : Binary64 → Binary64 → Bool
  | .nan _, _ | _, .nan _ => false
  | .infinite s, .infinite t => s && !t
  | .infinite s, _ => s
  | _, .infinite t => !t
  | .finite s m e, .finite t n f =>
    let g := min e f
    signed s m * twoTo (e - g).toNat < signed t n * twoTo (f - g).toNat

/-- Whether two numbers have the same **value**: both zeros have, and what is no number has with its
own mark only. -/
def eqv : Binary64 → Binary64 → Bool
  | .finite s m e, .finite t n f => (m == 0 && n == 0) || (s == t && m == n && e == f)
  | .infinite s, .infinite t => s == t
  | .nan a, .nan b => a == b
  | _, _ => false

/-- A number other than the two zeros. -/
def isNonzero : Binary64 → Bool
  | .finite _ m _ => m ≠ 0
  | _ => true

/-- The whole number that a finite number is, if it has no fraction. -/
def toInt? : Binary64 → Option Int
  | .finite s m e =>
    if 0 ≤ e then some (signed s m * twoTo e.toNat)
    else if m % twoTo (-e).toNat = 0 then some (signed s (m / twoTo (-e).toNat)) else none
  | _ => none

/-- A finite number rounded towards zero. -/
def truncate? : Binary64 → Option Int
  | .finite s m e => some (signed s (m * twoTo e.toNat / twoTo (-e).toNat))
  | _ => none

/-- The decimal number of exactly the same value. -/
def toDecimal? : Binary64 → Option Decimal
  | .finite s m e =>
    some (if 0 ≤ e then ⟨s, m * twoTo e.toNat, 0⟩ else ⟨s, m * Nat.pow 5 (-e).toNat, e⟩)
  | _ => none

end Binary64

end StackManifest.Number
