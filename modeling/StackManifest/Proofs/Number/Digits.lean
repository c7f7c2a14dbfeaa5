import Mathlib.Tactic.Linarith
import Mathlib.Tactic.NormNum
import Mathlib.Tactic.Ring
import StackManifest.Proofs.Number.Value

/-!
# How many digits a number has

`StackManifest.Number.digitCount` starts its search at a lower bound that is taken from the
binary digits. That the bound is one, `StackManifest.Number.tenTo_le_of_le_log2`, is a single
comparison of two large powers; from there on the search is the obvious one, and a number lies
between two powers of ten as its digits say
(`StackManifest.Number.tenTo_digitCount_le` and `StackManifest.Number.lt_tenTo_digitCount`).
-/

namespace StackManifest.Number

/-! ### The search -/

theorem le_digitCountFrom (n k : ℕ) : k ≤ digitCountFrom n k := by
  induction k using digitCountFrom.induct n with
  | case1 k h => rw [digitCountFrom, if_pos h]
  | case2 k h ih =>
    rw [digitCountFrom, if_neg h]
    omega

theorem lt_tenTo_digitCountFrom (n k : ℕ) : n < tenTo (digitCountFrom n k) := by
  induction k using digitCountFrom.induct n with
  | case1 k h => rwa [digitCountFrom, if_pos h]
  | case2 k h ih => rwa [digitCountFrom, if_neg h]

/-- A search that goes on has gone past a power of ten that is **not too large**. -/
theorem tenTo_le_of_lt_digitCountFrom {n k : ℕ} (h : k < digitCountFrom n k) :
    tenTo (digitCountFrom n k - 1) ≤ n := by
  induction k using digitCountFrom.induct n with
  | case1 k hlt =>
    rw [digitCountFrom, if_pos hlt] at h
    omega
  | case2 k hge ih =>
    rw [digitCountFrom, if_neg hge] at h ⊢
    rcases Nat.lt_or_ge (k + 1) (digitCountFrom n (k + 1)) with hlt | hle
    · exact ih hlt
    · rw [show digitCountFrom n (k + 1) - 1 = k by omega]
      omega

/-! ### Where the search starts -/

/-- Two to the power 100000 is more than ten to the power 30102. -/
theorem tenTo_le_twoTo : tenTo 30102 ≤ twoTo 100000 := by decide +kernel

/-- One comparison of two powers turns binary digits into decimal ones, at any scale. -/
theorem tenTo_le_of_mul_le {a b n k : ℕ} (hb : b ≠ 0) (hab : tenTo a ≤ twoTo b) (hn : n ≠ 0)
    (hk : k * b ≤ a * n.log2) : tenTo k ≤ n := by
  have hpow : tenTo k ^ b ≤ twoTo n.log2 ^ b := by
    calc tenTo k ^ b = 10 ^ (k * b) := by rw [tenTo_eq, ← pow_mul]
      _ ≤ 10 ^ (a * n.log2) := Nat.pow_le_pow_right (by norm_num) hk
      _ = tenTo a ^ n.log2 := by rw [tenTo_eq, ← pow_mul]
      _ ≤ twoTo b ^ n.log2 := Nat.pow_le_pow_left hab _
      _ = twoTo n.log2 ^ b := by rw [twoTo_eq, twoTo_eq, ← pow_mul, ← pow_mul, mul_comm]
  exact ((Nat.pow_le_pow_iff_left hb).mp hpow).trans (Nat.log2_self_le hn)

/-- **The lower bound is one**: it is taken from fewer binary digits than there are. -/
theorem tenTo_le_of_le_log2 {n k : ℕ} (hn : n ≠ 0) (hk : k ≤ n.log2 * 30102 / 100000) :
    tenTo k ≤ n :=
  tenTo_le_of_mul_le (by decide) tenTo_le_twoTo hn (by omega)

/-! ### What the count says -/

theorem one_le_digitCount (n : ℕ) : 1 ≤ digitCount n :=
  (le_max_left _ _).trans (le_digitCountFrom _ _)

/-- **A number is below the power of ten** of its digits. -/
theorem lt_tenTo_digitCount (n : ℕ) : n < tenTo (digitCount n) := lt_tenTo_digitCountFrom _ _

/-- **A number reaches the power of ten** of one digit less, unless it is zero. -/
theorem tenTo_digitCount_le {n : ℕ} (hn : n ≠ 0) : tenTo (digitCount n - 1) ≤ n := by
  rw [digitCount]
  rcases (le_digitCountFrom n (max 1 (n.log2 * 30102 / 100000))).eq_or_lt with h | h
  · rw [← h]
    rcases le_total (n.log2 * 30102 / 100000) 1 with h1 | h1
    · rw [max_eq_left h1, Nat.sub_self, tenTo_eq, pow_zero]
      omega
    · rw [max_eq_right h1]
      exact tenTo_le_of_le_log2 hn (Nat.sub_le _ _)
  · exact tenTo_le_of_lt_digitCountFrom h

/-- **A number has at most as many digits** as the powers of ten above it. -/
theorem digitCount_le_iff {n k : ℕ} (hk : 1 ≤ k) : digitCount n ≤ k ↔ n < tenTo k := by
  constructor
  · exact fun h => (lt_tenTo_digitCount n).trans_le (Nat.pow_le_pow_right (by norm_num) h)
  · intro h
    rcases eq_or_ne n 0 with rfl | hn
    · exact le_trans (by decide +kernel) hk
    · have hlt : tenTo (digitCount n - 1) < tenTo k := (tenTo_digitCount_le hn).trans_lt h
      have := (Nat.pow_lt_pow_iff_right (by norm_num)).mp hlt
      omega

end StackManifest.Number
