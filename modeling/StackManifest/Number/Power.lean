/-!
# Powers of two and of ten

* `twoTo` and `tenTo` – the **powers** by which numbers of binary and of decimal digits are
  shifted.
-/

namespace StackManifest.Number

/-- Two to the power `k`. -/
def twoTo (k : Nat) : Nat := Nat.pow 2 k

/-- Ten to the power `k`. -/
def tenTo (k : Nat) : Nat := Nat.pow 10 k

end StackManifest.Number
