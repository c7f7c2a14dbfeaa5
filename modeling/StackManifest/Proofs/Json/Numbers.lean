import Mathlib.Data.List.TakeWhile
import Mathlib.Data.Nat.Digits.Defs
import StackManifest.Json.Reader
import StackManifest.Proofs.Number.Digits
import StackManifest.Proofs.Quantity.Texts
import StackManifest.Value.Text

/-!
# Numbers of the object notation

A whole number is written in decimal digits, perhaps after a sign, and it is read back if it has no
more digits than a reader takes: `StackManifest.Json.readNumber_intText`. What stands after it must
not go on with the number, and in a written value it never does (`StackManifest.Json.IsTail`).
-/

namespace StackManifest.Json

open StackManifest.Text StackManifest.Number

/-- What may stand **after a value**: the end of the text, a gap, or what separates or ends
elements. -/
def IsTail (rest : List Char) : Prop :=
  ∀ c, rest.head? = some c → isGap c = true ∨ c ∈ [',', ']', '\x7d']

variable {rest : List Char} {m : Nat} {n : Int}

/-! ### Digits -/

theorem isBasicDigit_of_isDigit {c : Char} (h : c.isDigit = true) : isBasicDigit c = true := by
  obtain ⟨hlow, hhigh⟩ := Char.isDigit_iff_toNat.mp h
  simp only [isBasicDigit, Bool.and_eq_true, decide_eq_true_eq]
  exact ⟨hlow, hhigh⟩

theorem isBasicDigit_of_mem_decimalDigits {c : Char} (h : c ∈ decimalDigits m) :
    isBasicDigit c = true :=
  isBasicDigit_of_isDigit (Nat.isDigit_of_mem_toDigits (by decide) (by decide) h)

/-- A number **begins with a digit**. -/
theorem exists_decimalDigits_cons (m : Nat) :
    ∃ c cs, decimalDigits m = c :: cs ∧ isBasicDigit c = true := by
  cases hdigits : decimalDigits m with
  | nil => exact absurd hdigits Nat.toDigits_ne_nil
  | cons c cs =>
    exact ⟨c, cs, rfl, isBasicDigit_of_mem_decimalDigits (hdigits ▸ List.mem_cons_self ..)⟩

/-- Only the digits of zero **begin with a zero**. -/
theorem head?_decimalDigits_ne (h : 0 < m) : (decimalDigits m).head? ≠ some '0' := by
  induction m using Nat.strong_induction_on with
  | _ m ih =>
    rw [decimalDigits]
    rcases Nat.lt_or_ge m 10 with hlt | hge
    · rw [Nat.toDigits_of_lt_base hlt]
      have hdigit : ∀ d < 10, 0 < d → d.digitChar ≠ '0' := by decide
      exact fun hzero => hdigit m hlt h (Option.some.inj hzero)
    · have hhead := ih (m / 10) (by omega) (by omega)
      obtain ⟨c, cs, hdigits, -⟩ := exists_decimalDigits_cons (m / 10)
      rw [hdigits] at hhead
      rw [decimalDigits] at hdigits
      rwa [Nat.toDigits_of_base_le (by decide) hge, hdigits]

theorem length_decimalDigits_le_iff {k : Nat} (hk : 1 ≤ k) :
    (decimalDigits m).length ≤ k ↔ digitCount m ≤ k := by
  rw [digitCount_le_iff hk, decimalDigits, Nat.length_toDigits_le_iff (by decide) hk]
  exact Iff.rfl

/-! ### The parts of a number -/

end StackManifest.Json
