import StackManifest.Proofs.Traversal
import StackManifest.RightSizing

/-!
# When an amount is halved

`StackManifest.RightSizing.halvedCores` and `StackManifest.RightSizing.halvedSize` read an amount,
compare it with a threshold, and write half of it. Both outcomes are described here: the amount is
halved (`StackManifest.RightSizing.halvedCores_eq_some_iff`,
`StackManifest.RightSizing.halvedSize_eq_some_iff`), or it is **no amount above the threshold**
(`StackManifest.RightSizing.halvedCores_eq_none_iff`,
`StackManifest.RightSizing.halvedSize_eq_none_iff`).
-/

namespace StackManifest.RightSizing

open StackManifest.Number

variable {v w : Value} {t : Nat}

/-- How half of some cores is **written**: as a text if the cores are one. -/
inductive WritesHalf (half : Int) : Value → Value → Prop where
  | text {s s' : String} : (Value.int half).toText = .ok s' → WritesHalf half (.text s) (.text s')
  | number {v : Value} : (∀ s, v ≠ .text s) → WritesHalf half v (.int half)

/-- **Cores are halved** when they exceed the threshold. -/
theorem halvedCores_eq_some_iff :
    halvedCores v = .ok (some w) ↔
      ∃ c q, Cores.ofValue v = .ok (some c) ∧ c.compareInt coreThreshold = .gt ∧
        c.div 2 = .ok q ∧ WritesHalf q.ceil v w := by
  rw [halvedCores, bind_eq_ok_iff]
  constructor
  · rintro ⟨c, hc, h⟩
    cases c with
    | none => cases h
    | some c =>
      simp only at h
      split at h
      · rename_i hgt
        obtain ⟨q, hq, h⟩ := bind_eq_ok_iff.mp h
        refine ⟨c, q, hc, hgt, mapError_eq_ok_iff.mp hq, ?_⟩
        split at h
        · obtain ⟨s', hs', h⟩ := bind_eq_ok_iff.mp h
          cases h
          exact .text hs'
        · rename_i hne
          cases h
          exact .number hne
      · cases h
  · rintro ⟨c, q, hc, hgt, hq, hw⟩
    refine ⟨some c, hc, ?_⟩
    simp only [hgt, if_true, hq, Except.mapError, ok_bind]
    cases hw with
    | text hs' => simp only [hs', ok_bind]; rfl
    | number hne =>
      split
      · exact absurd rfl (hne _)
      · rfl

/-- **Nothing is halved** when the cores do not exceed the threshold, or there are none. -/
theorem halvedCores_eq_none_iff :
    halvedCores v = .ok none ↔
      ∃ c, Cores.ofValue v = .ok c ∧ ∀ d, c = some d → d.compareInt coreThreshold ≠ .gt := by
  rw [halvedCores, bind_eq_ok_iff]
  constructor
  · rintro ⟨c, hc, h⟩
    refine ⟨c, hc, ?_⟩
    rintro d rfl hgt
    simp only [hgt, if_true] at h
    obtain ⟨q, -, h⟩ := bind_eq_ok_iff.mp h
    split at h
    · obtain ⟨s', -, h⟩ := bind_eq_ok_iff.mp h
      cases h
    · cases h
  · rintro ⟨c, hc, hle⟩
    refine ⟨c, hc, ?_⟩
    cases c with
    | none => rfl
    | some d =>
      simp only [hle d rfl, if_false]
      rfl

/-- **A size is halved** when it exceeds the threshold. -/
theorem halvedSize_eq_some_iff :
    halvedSize t v = .ok (some w) ↔
      ∃ n half s, Size.ofValue v = .ok n ∧ t < n ∧ Binary64.ofQuotient? n 2 = some half ∧
        Size.format (.real half) = .ok s ∧ w = .text s := by
  rw [halvedSize, bind_eq_ok_iff]
  constructor
  · rintro ⟨n, hn, h⟩
    split at h
    · rename_i hlt
      split at h
      · rename_i half hhalf
        obtain ⟨s, hs, h⟩ := bind_eq_ok_iff.mp h
        cases h
        exact ⟨n, half, s, hn, hlt, hhalf, hs, rfl⟩
      · cases h
    · cases h
  · rintro ⟨n, half, s, hn, hlt, hhalf, hs, rfl⟩
    refine ⟨n, hn, ?_⟩
    simp only [hlt, if_true, hhalf, hs, ok_bind]
    rfl

/-- A size is **kept** when it does not exceed the threshold. -/
theorem halvedSize_eq_none_iff :
    halvedSize t v = .ok none ↔ ∃ n, Size.ofValue v = .ok n ∧ n ≤ t := by
  rw [halvedSize, bind_eq_ok_iff]
  constructor
  · rintro ⟨n, hn, h⟩
    refine ⟨n, hn, ?_⟩
    by_contra hlt
    simp only [show t < n by omega, if_true] at h
    split at h
    · obtain ⟨s, -, h⟩ := bind_eq_ok_iff.mp h
      cases h
    · cases h
  · rintro ⟨n, hn, hle⟩
    refine ⟨n, hn, ?_⟩
    simp only [show ¬t < n by omega, if_false]
    rfl

end StackManifest.RightSizing
