import StackManifest.Number.Binary64

/-!
# The shortest decimal form of a binary number

A binary number is written with the **fewest digits** that read back as the same number.
Every real number in an interval around it reads back so; the ends of the interval belong
to it when the significand is even. On each decimal grid, from one digit to seventeen, only
the two grid points next to the number need a look.

* `Binary64.readsBack` – whether a decimal lies in that interval;
* `Binary64.shortest` – the digits, as a coefficient and a power of ten;
* `Binary64.text` – the written form, positional between one ten-thousandth and ten to the
  sixteenth and with a power of ten elsewhere;
* `Binary64.read?` – the number that a text writes.
-/

namespace StackManifest.Number.Binary64

/-- Whether the fraction `num / den` lies in the **interval** of the numbers that round to
the significand `m` with exponent `e`. The ends are taken in units of a quarter of the last
binary digit, because the interval is shorter below a power of two. -/
def readsBack (m : Nat) (e : Int) (num den : Nat) : Bool :=
  let low := if m = twoTo 52 ∧ minExponent < e then 4 * m - 1 else 4 * m - 2
  let high := 4 * m + 2
  let (n, d) := scaled num den (e - 2)
  if m % 2 = 0 then low * d ≤ n && n ≤ high * d else low * d < n && n < high * d

/-- The decimal exponent of the first place above a positive fraction: the fraction lies
from ten to the power below it up to, but not including, that power. -/
def placeAbove (num den : Nat) : Int :=
  let p : Int := (digitCount num : Int) - digitCount den
  -- the quotient has as many digits as the difference says, or one more
  if num * tenTo (-p).toNat < den * tenTo p.toNat then p else p + 1

/-- The better of the two points next to a fraction on the grid of multiples of ten to the
power `k`, if one reads back. -/
def onGrid? (m : Nat) (e : Int) (num den : Nat) (k : Int) : Option Nat :=
  let n := num * tenTo (-k).toNat
  let d := den * tenTo k.toNat
  let c := n / d
  let reads := fun c => readsBack m e (c * tenTo k.toNat) (tenTo (-k).toNat)
  match reads c, reads (c + 1) with
  | true, true => some (roundHalfEven n d)
  | true, false => some c
  | false, true => some (c + 1)
  | false, false => none

/-- The **shortest digits** of a positive number and the power of ten that goes with them. -/
def shortest (m : Nat) (e : Int) : Nat × Int :=
  let (num, den) := magnitude m e
  let p := placeAbove num den
  ((List.range 17).findSome? fun i =>
    let k := p - (i + 1 : Nat)
    (onGrid? m e num den k).map (·, k)).getD (0, 0)

/-- The digits of a positive number without zeros at the end, and the place of the point:
the number is zero, point, digits, times ten to that place. -/
def digitsAndPlace (m : Nat) (e : Int) : List Char × Int :=
  let (c, k) := shortest m e
  let ds := StackManifest.Text.decimalDigits c
  let kept := (ds.reverse.dropWhile (· = '0')).reverse
  (kept, k + ds.length)

/-- Digits in **positional** form. -/
def positional (ds : List Char) (place : Int) : List Char :=
  let size : Int := ds.length
  if place ≤ 0 then '0' :: '.' :: List.replicate (-place).toNat '0' ++ ds
  else if size ≤ place then ds ++ List.replicate (place - size).toNat '0' ++ ['.', '0']
  else ds.take place.toNat ++ '.' :: ds.drop place.toNat

/-- Digits with a **power of ten**, whose exponent has a sign and two digits at least. -/
def withPower (ds : List Char) (place : Int) : List Char :=
  let e := place - 1
  let es := StackManifest.Text.decimalDigits e.natAbs
  let point := if ds.length ≤ 1 then [] else ['.']
  ds.take 1 ++ point ++ ds.drop 1 ++ ['e', if e < 0 then '-' else '+']
    ++ List.replicate (2 - es.length) '0' ++ es

/-- The **written form** of a number. -/
def text : Binary64 → String
  | .nan _ => "nan"
  | .infinite s => if s then "-inf" else "inf"
  | .finite s m e =>
    let sign := if s then "-" else ""
    if m = 0 then sign ++ "0.0"
    else
      let (ds, place) := digitsAndPlace m e
      sign ++ String.ofList
        (if -4 < place ∧ place ≤ 16 then positional ds place else withPower ds place)

/-- The number that a text **writes**: a numeral, or the word for an infinity or for what
is no number, with blanks around. -/
def read? (cs : List Char) : Option Binary64 :=
  let cs := StackManifest.Text.trim cs
  match Numeral.read? cs with
  | some n => some (ofNumeral n)
  | none =>
    let (negative, word) := splitSign cs
    let word := String.ofList (word.map Char.toLower)
    if word = "inf" ∨ word = "infinity" then some (.infinite negative)
    else if word = "nan" then some (.nan 0)
    else none

end StackManifest.Number.Binary64
