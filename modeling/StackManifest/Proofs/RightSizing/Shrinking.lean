import StackManifest.Proofs.Checks.Sound
import StackManifest.Proofs.Quantity.Numbers
import StackManifest.Proofs.Reading.Fields
import StackManifest.Proofs.RightSizing.Bounds
import StackManifest.Proofs.RightSizing.Local

/-!
# Amounts before and after

What an amount of a document becomes is a relation between two texts: the one that was read of
the data before it was made smaller, and the one that is read of it after. The second text is what
the first one is made, as if it had been the data itself (`StackManifest.RightSizing.Becomes`), and
it does not matter whether the amount was given as a text or as a number. Only bytes are **not
looked into**, and then the text is kept.

So either the text is kept, or both texts write amounts, and the second one is less than the first,
but not less than a third of it (`StackManifest.RightSizing.CoresShrink` and
`StackManifest.RightSizing.SizeShrinks`). These relations have a condition, under which nothing above
a threshold is kept.

* `StackManifest.RightSizing.exists_named_of_halvedCores` and
  `StackManifest.RightSizing.exists_named_of_halvedSize` – what is read of a halved amount;
* `StackManifest.RightSizing.CoresShrink.writesCores` and
  `StackManifest.RightSizing.SizeShrinks.writesBytes` – a sound amount stays sound.
-/

namespace StackManifest.RightSizing

open StackManifest.Number

/-- **What becomes of some cores.** Under a condition they are kept only if they do not exceed the
threshold. -/
inductive CoresShrink (p : Prop) (s : String) : String → Prop where
  | kept : (p → ∀ c, Cores.read s = .ok (some c) → c.toRat ≤ coreThreshold) → CoresShrink p s s
  | halved {c : Decimal} {n : Nat} {s' : String} :
    Cores.read s = .ok (some c) → (coreThreshold : ℚ) < c.toRat →
    Cores.read s' = .ok (some ⟨false, n, 0⟩) → (n : ℚ) < c.toRat → c.toRat ≤ 3 * n →
    CoresShrink p s s'

/-- **What becomes of a size.** Under a condition it is kept only if it does not exceed the
threshold. -/
inductive SizeShrinks (p : Prop) (t : Nat) (s : String) : String → Prop where
  | kept : (p → ∀ n, Size.bytes s = .ok n → n ≤ t) → SizeShrinks p t s s
  | halved {n n' : Nat} {s' : String} :
    Size.bytes s = .ok n → t < n → Size.bytes s' = .ok n' → n' < n → n ≤ 3 * n' →
    SizeShrinks p t s s'

/-- What an amount that is read as a text **becomes**: what the text itself is made, if the amount
is looked into. -/
def Becomes (half : Value → Except Fault (Option Value)) (p : Prop) (s s' : String) : Prop :=
  (p → halvedAmount half (.text s) = .ok (.text s')) ∧ (¬p → s' = s)

variable {p : Prop} {t : Nat} {s s' : String} {v w : Value}

theorem Becomes.of_halved {half : Value → Except Fault (Option Value)} (hp : p)
    (h : halvedAmount half (.text s) = .ok (.text s')) : Becomes half p s s' :=
  ⟨fun _ => h, fun hnot => absurd hp hnot⟩

theorem Becomes.of_kept {half : Value → Except Fault (Option Value)} (hp : ¬p) :
    Becomes half p s s :=
  ⟨fun h => absurd h hp, fun _ => rfl⟩

/-! ### Amounts that are read -/

/-- Where a **text** of a document comes from. -/
inductive IsNamed : Value → String → Prop where
  | text (s : String) : IsNamed (.text s) s
  | int {n : Int} {s : String} : (Value.int n).toText = .ok s → IsNamed (.int n) s
  | float {x : Binary64} {s : String} : (Value.float x).toText = .ok s → IsNamed (.float x) s
  | bytes {bs : List UInt8} {s : String} : IsNamed (.bytes bs) s

theorem isNamed_of_named (h : Scalar.named v = .ok s) : IsNamed v s := by
  obtain ⟨w, hw, hs⟩ := Checked.bind_eq_ok_iff.mp h
  cases v with
  | text t =>
    cases hw
    cases hs
    exact .text _
  | bytes bs => exact .bytes
  | int n =>
    obtain ⟨t, ht, rfl⟩ := Scalar.asText_int_eq_ok_iff.mp hw
    cases hs
    exact .int ht
  | float x =>
    obtain ⟨t, ht, rfl⟩ := Scalar.asText_float_eq_ok_iff.mp hw
    cases hs
    exact .float ht
  | _ =>
    cases hw
    cases hs

/-- What is not given as bytes is read **as it is looked into**. -/
theorem ofValue_eq_read_of_named (h : IsNamed v s) (hv : ∀ bs, v ≠ .bytes bs) :
    Cores.ofValue v = Cores.read s := by
  cases h with
  | text s => rfl
  | int h => simp only [Cores.ofValue, h, ok_bind]
  | float h => simp only [Cores.ofValue, h, ok_bind]
  | bytes => exact absurd rfl (hv _)

/-- A **number** is no size: it has no unit. -/
theorem bytes_of_isNamed (h : IsNamed v s) (hv : ∀ bs, v ≠ .bytes bs) (htext : ∀ s, v ≠ .text s) :
    Size.bytes s = .ok 0 := by
  cases h with
  | text s => exact absurd rfl (htext s)
  | bytes => exact absurd rfl (hv _)
  | int h =>
    obtain ⟨-, rfl⟩ := Value.toText_eq_ok_iff.mp h
    exact Size.bytes_of_marks fun ch hch =>
      mem_intText (by simpa [Value.plain, Value.shown] using hch)
  | float h =>
    obtain ⟨-, rfl⟩ := Value.toText_eq_ok_iff.mp h
    exact Size.bytes_of_marks fun ch hch =>
      mem_text (by simpa [Value.plain, Value.shown] using hch)

/-! ### Halved amounts -/

theorem named_text (s : String) :
    Scalar.optional Scalar.named (.text s) = .ok (some s) := rfl

/-- A whole number that can be written is written as its **digits**. -/
theorem toText_int {n : Nat} :
    (Value.int n).toText = .ok s ↔
      n < tenTo digitLimit ∧ String.ofList (Text.decimalDigits n) = s := by
  have hplain : (Value.int n).plain = String.ofList (Text.decimalDigits n) := by
    simp [Value.plain, Value.shown, Value.intText]
  have hwritable : (Value.int n).isWritable = true ↔ n < tenTo digitLimit := by
    rw [Value.isWritable, decide_eq_true_eq, Int.natAbs_natCast]
    exact digitCount_le_iff (by decide)
  rw [Value.toText, hplain, ← hwritable]
  split
  · rename_i h
    simp [h]
  · rename_i h
    simp [h]

theorem named_int {n : Nat} (h : n < tenTo digitLimit) :
    Scalar.optional Scalar.named (.int n) = .ok (some (String.ofList (Text.decimalDigits n))) := by
  refine Scalar.optional_eq_ok_iff.mpr (.inr ⟨by simp, _, ?_, rfl⟩)
  rw [Scalar.named, Scalar.asText, toText_int.mpr ⟨h, rfl⟩]
  rfl

/-- Cores that are given as a number are **not too many** to be written. -/
theorem lt_digitLimit_of_ofValue {c : Decimal} {n : Nat} (h : IsNamed v s)
    (hc : Cores.ofValue v = .ok (some c)) (hv : ∀ s, v ≠ .text s) (hn : (n : ℚ) < c.toRat) :
    n < tenTo digitLimit := by
  cases h with
  | text s => exact absurd rfl (hv s)
  | bytes => exact absurd hc (Cores.ofValue_bytes_ne_some _ _)
  | float h =>
    have hlt := hn.trans (Cores.toRat_lt_of_ofValue_float hc)
    have hlt' : n < 10 ^ 16 := by exact_mod_cast hlt
    have hpow : 10 ^ 16 ≤ tenTo digitLimit := by
      rw [tenTo_eq]
      exact Nat.pow_le_pow_right (by norm_num) (by decide)
    exact hlt'.trans_le hpow
  | int h =>
    obtain ⟨k, rfl, rfl⟩ := Cores.exists_of_ofValue_int hc
    rw [Decimal.toRat_mk, zpow_zero, mul_one, Nat.cast_lt] at hn
    exact hn.trans (toText_int.mp h).1

/-- Bytes are **not halved**. -/
theorem eq_none_of_halvedCores_bytes {bs : List UInt8} {x : Option Value}
    (h : halvedCores (.bytes bs) = .ok x) : x = none := by
  rcases Option.eq_none_or_eq_some x with hnone | ⟨w, rfl⟩
  · exact hnone
  · obtain ⟨c, -, hc, -⟩ := halvedCores_eq_some_iff.mp h
    exact absurd hc (Cores.ofValue_bytes_ne_some bs c)

/-- **What is read of halved cores.** Bytes are not looked into. -/
theorem exists_named_of_halvedCores {o : Option String} (hp : p ↔ ∀ bs, v ≠ .bytes bs)
    (hv : Scalar.optional Scalar.named v = .ok o) (hw : halvedAmount halvedCores v = .ok w) :
    ∃ o', Scalar.optional Scalar.named w = .ok o' ∧ Option.Rel (Becomes halvedCores p) o o' := by
  obtain ⟨x, hx, rfl⟩ := map_eq_ok_iff.mp hw
  rcases Scalar.optional_eq_ok_iff.mp hv with ⟨rfl, rfl⟩ | ⟨-, s, hs, rfl⟩
  · cases hx
    exact ⟨none, rfl, .none⟩
  · have hnamed := isNamed_of_named hs
    by_cases hbytes : ∀ bs, v ≠ .bytes bs
    · have hread : Cores.ofValue (.text s) = Cores.ofValue v :=
        (ofValue_eq_read_of_named hnamed hbytes).symm
      cases x with
      | none =>
        obtain ⟨c, hc, hle⟩ := halvedCores_eq_none_iff.mp hx
        refine ⟨some s, hv, .some (.of_halved (hp.mpr hbytes) ?_)⟩
        exact map_eq_ok_iff.mpr ⟨none, halvedCores_eq_none_iff.mpr ⟨c, hread.trans hc, hle⟩, rfl⟩
      | some w =>
        obtain ⟨c, q, hc, hgt, hq, hw⟩ := halvedCores_eq_some_iff.mp hx
        have hlt : (coreThreshold : ℚ) < c.toRat := by
          exact_mod_cast Decimal.compareInt_eq_gt_iff.mp hgt
        obtain ⟨n, hn, hless, -⟩ :=
          exists_ceil_div_two (Cores.negative_of_read (hread.trans hc)) hlt hq
        rw [hn] at hw
        -- half of the cores can be written, whether they are a text or a number
        obtain ⟨s', hs', hback⟩ : ∃ s', (Value.int n).toText = .ok s' ∧
            Scalar.optional Scalar.named w = .ok (some s') := by
          cases hw with
          | text hs' => exact ⟨_, hs', named_text _⟩
          | number hne =>
            have hlimit := lt_digitLimit_of_ofValue hnamed hc hne hless
            exact ⟨_, toText_int.mpr ⟨hlimit, rfl⟩, named_int hlimit⟩
        refine ⟨some s', hback, .some (.of_halved (hp.mpr hbytes) ?_)⟩
        refine map_eq_ok_iff.mpr ⟨some (.text s'), ?_, rfl⟩
        exact halvedCores_eq_some_iff.mpr ⟨c, q, hread.trans hc, hgt, hq, hn ▸ .text hs'⟩
    · obtain ⟨bs, rfl⟩ : ∃ bs, v = .bytes bs := by
        by_contra hne
        exact hbytes fun bs h => hne ⟨bs, h⟩
      rw [eq_none_of_halvedCores_bytes hx]
      exact ⟨some s, hv, .some (.of_kept fun h => hp.mp h bs rfl)⟩

/-- **What is read of a halved size.** Only a text is looked into, and any other value but bytes is
no size. -/
theorem exists_named_of_halvedSize {o : Option String} (hp : p ↔ ∀ bs, v ≠ .bytes bs)
    (hv : Scalar.optional Scalar.named v = .ok o) (hw : halvedAmount (halvedSize t) v = .ok w) :
    ∃ o', Scalar.optional Scalar.named w = .ok o' ∧
      Option.Rel (Becomes (halvedSize t) p) o o' := by
  obtain ⟨x, hx, rfl⟩ := map_eq_ok_iff.mp hw
  rcases Scalar.optional_eq_ok_iff.mp hv with ⟨rfl, rfl⟩ | ⟨-, s, hs, rfl⟩
  · cases hx
    exact ⟨none, rfl, .none⟩
  · by_cases htext : ∃ u, v = .text u
    · obtain ⟨u, rfl⟩ := htext
      cases hs
      have hplain : p := hp.mpr fun bs => nofun
      rcases Option.eq_none_or_eq_some x with rfl | ⟨w, rfl⟩
      · exact ⟨some s, hv, .some (.of_halved hplain hw)⟩
      · obtain ⟨n, half, s', -, -, -, -, rfl⟩ := halvedSize_eq_some_iff.mp hx
        exact ⟨some s', named_text s', .some (.of_halved hplain hw)⟩
    · -- what is no text has no bytes
      have hnone : x = none := by
        rcases Option.eq_none_or_eq_some x with hnone | ⟨w, rfl⟩
        · exact hnone
        · obtain ⟨n, half, s', hn, hlt, -⟩ := halvedSize_eq_some_iff.mp hx
          cases v with
          | text u => exact absurd ⟨u, rfl⟩ htext
          | _ =>
            cases hn
            omega
      rw [hnone]
      refine ⟨some s, hv, .some ?_⟩
      by_cases hbytes : ∀ bs, v ≠ .bytes bs
      · have hzero : Size.bytes s = .ok 0 :=
          bytes_of_isNamed (isNamed_of_named hs) hbytes fun u hu => htext ⟨u, hu⟩
        refine .of_halved (hp.mpr hbytes) (map_eq_ok_iff.mpr ⟨none, ?_, rfl⟩)
        exact halvedSize_eq_none_iff.mpr ⟨0, hzero, Nat.zero_le t⟩
      · exact .of_kept fun h => hbytes (hp.mp h)

/-- **Cores become less** than before if they exceed the threshold, and are kept otherwise. -/
theorem Becomes.coresShrink {q : Prop} (h : Becomes halvedCores p s s') (hq : q → p) :
    CoresShrink q s s' := by
  by_cases hp : p
  · obtain ⟨x, hx, hs'⟩ := map_eq_ok_iff.mp (h.1 hp)
    cases x with
    | none =>
      obtain rfl : s = s' := Value.text.inj hs'
      obtain ⟨c, hc, hle⟩ := halvedCores_eq_none_iff.mp hx
      refine .kept fun _ d hd => ?_
      have hnot := hle d (Except.ok.inj (hc.symm.trans hd))
      rw [ne_eq, Decimal.compareInt_eq_gt_iff, not_lt] at hnot
      exact_mod_cast hnot
    | some w =>
      obtain rfl : w = .text s' := hs'
      obtain ⟨c, q, hc, hgt, hq, hw⟩ := halvedCores_eq_some_iff.mp hx
      have hlt : (coreThreshold : ℚ) < c.toRat := by
        exact_mod_cast Decimal.compareInt_eq_gt_iff.mp hgt
      obtain ⟨n, hn, hless, hthird⟩ := exists_ceil_div_two (Cores.negative_of_read hc) hlt hq
      cases hw with
      | text htext =>
        rw [hn] at htext
        obtain ⟨-, rfl⟩ := toText_int.mp htext
        exact .halved hc hlt (Cores.read_text n) hless hthird
  · rw [h.2 hp]
    exact .kept fun hq' => absurd (hq hq') hp

/-- **A size becomes less** than before if it exceeds the threshold, and is kept otherwise. -/
theorem Becomes.sizeShrinks {q : Prop} (ht : memoryThreshold ≤ t)
    (h : Becomes (halvedSize t) p s s') (hq : q → p) : SizeShrinks q t s s' := by
  by_cases hp : p
  · obtain ⟨x, hx, hs'⟩ := map_eq_ok_iff.mp (h.1 hp)
    cases x with
    | none =>
      obtain rfl : s = s' := Value.text.inj hs'
      obtain ⟨n, hn, hle⟩ := halvedSize_eq_none_iff.mp hx
      refine .kept fun _ m hm => ?_
      obtain rfl : n = m := Except.ok.inj (hn.symm.trans hm)
      exact hle
    | some w =>
      obtain ⟨n, half, s₁, hn, hlt, hhalf, hs₁, rfl⟩ := halvedSize_eq_some_iff.mp hx
      obtain rfl : s₁ = s' := Value.text.inj hs'
      obtain ⟨k, hk, hless, hthird, -⟩ := exists_bytes_format (ht.trans_lt hlt) hhalf hs₁
      exact .halved hn hlt hk hless hthird
  · rw [h.2 hp]
    exact .kept fun hq' => absurd (hq hq') hp

/-! ### Sound amounts -/

/-- A whole number of cores is a **whole number of thousandths**, if it is not too large. -/
theorem isWholeMillicores_of_lt {n : Nat} (h : n * 1000 < tenTo Decimal.precision) :
    Cores.isWholeMillicores ⟨false, n, 0⟩ = .ok true := by
  obtain ⟨d, hd⟩ : ∃ d : Decimal, d = ⟨false, n * 1000, 0⟩ := ⟨_, rfl⟩
  have hmul : Decimal.mul ⟨false, n, 0⟩ 1000 = d.finish := by rw [hd]; rfl
  rcases Nat.eq_zero_or_pos n with rfl | hpos
  · rfl
  · have hne : d.coefficient ≠ 0 := by
      rw [hd]
      exact (Nat.mul_pos hpos (by norm_num)).ne'
    -- the product has no more digits than the precision, so that it is not rounded
    have hlead : d.leadExponent < Decimal.precision := by
      by_contra hle
      have hmag := (Decimal.le_leadExponent_iff hne).mp (not_lt.mp hle)
      rw [hd, Decimal.magnitude, zpow_zero, mul_one, zpow_natCast] at hmag
      rw [tenTo_eq] at h
      exact absurd (show 10 ^ Decimal.precision ≤ n * 1000 by exact_mod_cast hmag) (not_le.mpr h)
    have hfits : d.rounded = d := by
      subst hd
      exact Decimal.rounded_of_fits h (show Decimal.minQuantum ≤ 0 by decide)
    have hfinish : d.finish = .ok d := by
      rw [Decimal.finish_of_ne_zero hne, hfits, if_neg]
      rintro ⟨-, hmax⟩
      rw [Decimal.maxExponent] at hmax
      rw [Decimal.precision] at hlead
      omega
    have hwhole : d.isWhole = .ok true := by
      rw [Decimal.isWhole, if_neg (fun h => absurd h.2 (not_le.mpr hlead)), if_pos (by rw [hd])]
    rw [Cores.isWholeMillicores, hmul, hfinish]
    simp only [Except.mapError, ok_bind, hwhole]

/-- **Sound cores stay sound.** -/
theorem CoresShrink.writesCores (h : CoresShrink p s s') (hs : WritesCores (some s)) :
    WritesCores (some s') := by
  cases h with
  | kept => exact hs
  | @halved c n _ hread hlt hread' hless hthird =>
    obtain ⟨s₀, c₀, hs₀, hread₀, hpos, hwhole⟩ := hs
    obtain rfl := Option.some.inj hs₀
    obtain rfl : c = c₀ := Option.some.inj (Except.ok.inj (hread.symm.trans hread₀))
    have hbound := Cores.exists_isWholeMillicores_iff.mp ⟨_, hwhole⟩
    rw [← Decimal.toRat_of_nonneg (Cores.negative_of_read hread)] at hbound
    refine ⟨s', _, rfl, hread', ?_, isWholeMillicores_of_lt ?_⟩
    · have : (0 : ℚ) < n := by
        have : (0 : ℚ) ≤ coreThreshold := by positivity
        linarith
      simpa [Decimal.isPositive, Nat.pos_iff_ne_zero] using this
    · have : (n : ℚ) * 1000 < 10 ^ 28 := by linarith
      rw [tenTo_eq]
      exact_mod_cast this

/-- **A sound size stays sound.** -/
theorem SizeShrinks.writesBytes (h : SizeShrinks p t s s') (hs : WritesBytes (some s)) :
    WritesBytes (some s') := by
  cases h with
  | kept => exact hs
  | @halved n n' _ hn hlt hn' hless hthird => exact ⟨s', n', rfl, hn', by omega⟩

end StackManifest.RightSizing
