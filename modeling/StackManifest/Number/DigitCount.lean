import StackManifest.Number.Power

/-!
# How many digits a number has

* `digitCount` – the number of decimal digits, one for zero, found from the number of
  binary digits so that numbers of any size are measured quickly;
* `roundHalfEven` – a quotient **rounded** to the nearest number, a tie to the even one.
-/

namespace StackManifest.Number

/-- The least number of digits, from `k` upwards, in which a number can be written. -/
def digitCountFrom (n k : Nat) : Nat :=
  if n < tenTo k then k else digitCountFrom n (k + 1)
termination_by n + 1 - k
decreasing_by
  have h : k < tenTo k := Nat.lt_pow_self (by decide)
  omega

/-- The number of **decimal digits** of a number. The search starts from a lower bound,
since two to the power 100000 is more than ten to the power 30102. -/
def digitCount (n : Nat) : Nat :=
  digitCountFrom n (max 1 (n.log2 * 30102 / 100000))

/-- The quotient of two numbers, **rounded** to the nearest one, and to the even one of
two that are equally near. -/
def roundHalfEven (n d : Nat) : Nat :=
  let q := n / d
  let r := n % d
  if d < 2 * r ∨ (2 * r = d ∧ q % 2 = 1) then q + 1 else q

end StackManifest.Number
