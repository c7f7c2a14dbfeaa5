import StackManifest.Number.ExtendedDecimal
import StackManifest.Value.Text

/-!
# Processor shares

A share of the processors is written as a number of **cores**, such as `0.5` or `2`, or of
thousandths of a core with the letter m after it, such as `100m`.

* `Cores.read` – the number of cores that a text writes;
* `Cores.ofValue` – the number of cores that a value of a document gives;
* `Cores.isWholeMillicores` – whether it is a whole number of thousandths;
* `Cores.millicores` – that number, rounded towards zero.
-/

namespace StackManifest.Cores

open StackManifest.Number StackManifest.Text

/-- The digits after a point, one at least, and the rest. -/
def splitFraction (cs : List Char) : List Char × List Char :=
  match cs with
  | '.' :: rest =>
    let ds := rest.takeWhile isDigit
    if ds.isEmpty then ([], cs) else (ds, rest.dropWhile isDigit)
  | _ => ([], cs)

/-- The number before an optional letter m, and whether the letter is there. -/
def split? (cs : List Char) : Option (Decimal × Bool) :=
  let whole := cs.takeWhile isDigit
  let (fraction, rest) := splitFraction (cs.dropWhile isDigit)
  if whole.isEmpty && fraction.isEmpty then none
  else
    let number : Decimal := ⟨false, digitsValue (whole ++ fraction), -(fraction.length : Int)⟩
    if rest = [] then some (number, false)
    else if rest = ['m'] then some (number, true)
    else none

/-- The **number of cores** that a text writes, if it writes one. -/
def read (s : String) : Except Fault (Option Decimal) :=
  match split? (trim s.toList) with
  | none => .ok none
  | some (n, false) => .ok (some n)
  | some (n, true) => (n.div 1000).mapError .decimal |>.map some

/-- The number of cores that a value of a document gives. A truth value gives none. -/
def ofValue (v : Value) : Except Fault (Option Decimal) :=
  match v with
  | .null | .bool _ => .ok none
  | v => do read (← v.toText)

/-- Whether a number of cores is a **whole number of thousandths**. -/
def isWholeMillicores (d : Decimal) : Except Fault Bool := do
  let m ← (d.mul 1000).mapError .decimal
  m.isWhole.mapError .decimal

/-- The number of **thousandths** of a core, rounded towards zero. -/
def millicores (d : ExtendedDecimal) : Except Fault Int := do
  match ← (d.mul 1000).mapError .decimal with
  | .finite m => return m.truncate
  | .infinite _ => throw (.wholeOfInfinity "Infinity")
  | .nan .. => throw (.wholeOfNan "NaN")

end StackManifest.Cores
