import StackManifest.Value.Basic

/-!
# Equal data

Two values are equal when they are alike in all their elements, where labels do not matter, nor does
the order of a set or of a mapping. Every value is equal to itself
(`StackManifest.Value.eqv_refl`); what is no number as well, since it carries a mark that tells
where it comes from.
-/

namespace StackManifest.Value

open StackManifest.Number

theorem eqvAtom_refl (v : Value) (h : v.isHashable = true) (ht : ∀ xs, v ≠ .tuple xs) :
    v.eqvAtom v = true := by
  cases v with
  | float x =>
    cases x with
    | nan mark => simp [eqvAtom, Binary64.eqv]
    | infinite s => simp [eqvAtom, Binary64.eqv]
    | finite s m e => simp [eqvAtom, Binary64.eqv]
  | moment l m => cases hm : m.offset <;> simp [eqvAtom, Moment.same, hm]
  | tuple xs => exact absurd rfl (ht xs)
  | list | set | map => cases h
  | _ => simp [eqvAtom, count?]

mutual

/-- **Every value is equal to itself.** -/
theorem eqv_refl : ∀ v : Value, v.eqv v = true
  | .tuple xs => by
    rw [eqv]
    exact eqvList_refl xs
  | .list _ xs => by
    rw [eqv]
    exact eqvList_refl xs
  | .set _ xs => by
    rw [eqv, eqvAmong_of_subset xs xs fun _ h => h]
    simp
  | .map _ es => by
    rw [eqv, eqvEntries_of_subset es es fun _ h => h]
    simp
  | .null | .bool _ | .int _ | .float _ | .text _ | .bytes _ | .date .. | .moment .. => by
    rw [eqv.eq_def]
    exact eqvAtom_refl _ rfl (by simp)

theorem eqvList_refl : ∀ xs : List Value, eqvList xs xs = true
  | [] => by rw [eqvList]
  | x :: xs => by
    rw [eqvList, eqv_refl x, eqvList_refl xs]
    rfl

/-- Values among others are **equal to some of them**. -/
theorem eqvAmong_of_subset : ∀ xs ys : List Value, (∀ x ∈ xs, x ∈ ys) → eqvAmong xs ys = true
  | [], _, _ => by rw [eqvAmong]
  | x :: xs, ys, h => by
    obtain ⟨hx, hxs⟩ := List.forall_mem_cons.mp h
    have hany : ys.any (eqv x) = true := List.any_eq_true.mpr ⟨x, hx, eqv_refl x⟩
    rw [eqvAmong, hany, eqvAmong_of_subset xs ys hxs]
    rfl

theorem eqvEntries_of_subset : ∀ es fs : List (Value × Value), (∀ e ∈ es, e ∈ fs) →
    eqvEntries es fs = true
  | [], _, _ => by rw [eqvEntries]
  | (k, v) :: es, fs, h => by
    obtain ⟨he, hes⟩ := List.forall_mem_cons.mp h
    have hany : (fs.any fun e => eqv k e.1 && eqv v e.2) = true :=
      List.any_eq_true.mpr ⟨(k, v), he, by rw [eqv_refl k, eqv_refl v]; rfl⟩
    rw [eqvEntries, hany, eqvEntries_of_subset es fs hes]
    rfl

end

end StackManifest.Value
