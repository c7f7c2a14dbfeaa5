import StackManifest.Value.Text

/-!
# Price amounts

* `PriceAmount.read?` – the **amount** that a text writes: a finite number that is not
  below zero;
* `PriceAmount.ofValue` – the amount that a value gives.
-/

namespace StackManifest.PriceAmount

open StackManifest.Number

/-- The **amount** that a text writes, if it writes a number that is not below zero. -/
def read? (s : String) : Option Decimal :=
  (Decimal.read? s).filter fun d => !d.negative || d.coefficient = 0

/-- The amount that a value gives. Nothing and truth values give none. -/
def ofValue (v : Value) : Except Fault (Option Decimal) :=
  match v with
  | .null | .bool _ => .ok none
  | v => do return read? (← v.toText)

end StackManifest.PriceAmount
