import StackManifest.Proofs.Reading.Fields

/-!
# Changed data, read again

When data is changed in some way, what is read of it changes in some way too. A reading
**carries** a relation between data over to one between its results if it succeeds on the changed
data whenever it did before, with a related result (`StackManifest.Carries`). The readings of a
document are put together from smaller ones, and so are the relations that they carry:

* `StackManifest.InField` – mappings that differ in the value under one name, and
  `StackManifest.Carries.part`, the parts that are read of them;
* `StackManifest.Carries.optional` – values that may be missing.

`StackManifest.AtField` says something of the value under a name, if there is one.
-/

namespace StackManifest

variable {α β : Type} {name other : String} {v v' : Value}

/-! ### Relations that are carried -/

/-- **A reading carries a relation over**: it also succeeds on the related data, with a related
result. -/
def Carries (D : Value → Value → Prop) (read : Value → Checked α) (R : α → α → Prop) : Prop :=
  ∀ v v' a, D v v' → read v = .ok a → ∃ a', read v' = .ok a' ∧ R a a'

section Carries

variable {D D' : Value → Value → Prop} {read : Value → Checked α} {R R' : α → α → Prop}

theorem Carries.mono (h : Carries D read R) (hD : ∀ v v', D' v v' → D v v')
    (hR : ∀ a a', R a a' → R' a a') : Carries D' read R' := by
  intro v v' a hv ha
  obtain ⟨a', ha', hr⟩ := h v v' a (hD v v' hv) ha
  exact ⟨a', ha', hR a a' hr⟩

/-- A value that **may be missing**, if it is not the change that makes it so. -/
theorem Carries.optional (h : Carries D read R)
    (hnull : ∀ v v', D v v' → (v' = .null ↔ v = .null)) :
    Carries D (Scalar.optional read) (Option.Rel R) := by
  intro v v' o hv ho
  rcases Scalar.optional_eq_ok_iff.mp ho with ⟨rfl, rfl⟩ | ⟨hne, a, ha, rfl⟩
  · rw [(hnull _ v' hv).mpr rfl]
    exact ⟨none, rfl, .none⟩
  · obtain ⟨a', ha', hr⟩ := h v v' a hv ha
    have hne' : v' ≠ .null := fun h => hne ((hnull v v' hv).mp h)
    exact ⟨some a', Scalar.optional_eq_ok_iff.mpr (.inr ⟨hne', a', ha', rfl⟩), .some hr⟩

/-- A reading **after another one**. -/
theorem Carries.bind {S : Value → Value → Prop} {first : Value → Checked Value}
    (h : Carries D first S) (h' : Carries S read R) :
    Carries D (fun v => (first v).bind read) R := by
  intro v v' a hv ha
  obtain ⟨u, hu, ha⟩ := Checked.bind_eq_ok_iff.mp ha
  obtain ⟨u', hu', hs⟩ := h v v' u hv hu
  obtain ⟨a', ha', hr⟩ := h' u u' a hs ha
  exact ⟨a', Checked.bind_eq_ok_iff.mpr ⟨u', hu', ha'⟩, hr⟩

end Carries

/-! ### A field that is changed -/

/-- Mappings that **differ under a name** only, in two values that are related. What has no such
name is not changed. -/
inductive InField (name : String) (D : Value → Value → Prop) : Value → Value → Prop where
  | absent {v : Value} : (∀ l es, v = .map l es → Entries.Lacks es name) → InField name D v v
  | present {l : Label} {es es' : Entries} {c w : Value} :
    Entries.Differ name c w es es' → D c w → InField name D (.map l es) (.map l es')

/-- Something that is said of the value **under a name**, if there is one. -/
def AtField (name : String) (P : Value → Prop) (v : Value) : Prop :=
  ∀ l es c, v = .map l es → Entries.get? es name = some c → P c

section InField

variable {D D' : Value → Value → Prop} {P : Value → Prop}

theorem InField.mono (h : InField name D v v') (hD : ∀ c w, D c w → D' c w) :
    InField name D' v v' := by
  cases h with
  | absent h => exact .absent h
  | present h hcw => exact .present h (hD _ _ hcw)

/-- What is said of the changed value may be **put into the relation**. -/
theorem InField.with_atField (h : InField name D v v') (hv : AtField name P v) :
    InField name (fun c w => P c ∧ D c w) v v' := by
  cases h with
  | absent h => exact .absent h
  | present h hcw => exact .present h ⟨hv _ _ _ rfl h.get?.1, hcw⟩

/-- What is said of the value under the name is said of **the value that is changed**. -/
theorem InField.with_iff (h : InField name D v v') :
    InField name (fun c w => (∀ P : Value → Prop, AtField name P v ↔ P c) ∧ D c w) v v' := by
  cases h with
  | absent h => exact .absent h
  | present h hcw =>
    refine .present h ⟨fun P => ⟨fun hv => hv _ _ _ rfl h.get?.1, ?_⟩, hcw⟩
    rintro hc l es c ⟨⟩ hget
    obtain rfl := Option.some.inj (h.get?.1.symm.trans hget)
    exact hc

/-- What is said of the value under a name can be put into a relation of the data **with itself**. -/
theorem AtField.inField (h : AtField name P v) : InField name (fun c _ => P c) v v := by
  cases v with
  | map l es =>
    rcases Entries.lacks_or_exists es name with hlacks | ⟨before, c, after, rfl, hlacks⟩
    · refine .absent ?_
      rintro - es' ⟨⟩
      exact hlacks
    · have hdiffer : Entries.Differ name c c (before ++ (.text name, c) :: after)
          (before ++ (.text name, c) :: after) := Entries.differ_of_lacks hlacks
      exact .present hdiffer (h l _ c rfl hdiffer.get?.1)
  | _ => exact .absent (by rintro - - ⟨⟩)

theorem InField.atField (h : InField name (fun c _ => P c) v v') : AtField name P v := by
  rintro l es c rfl hc
  cases h with
  | absent h =>
    rw [Entries.get?_of_lacks (h l es rfl)] at hc
    cases hc
  | present h hp =>
    obtain rfl := Option.some.inj (h.get?.1.symm.trans hc)
    exact hp

/-- Under any **other name** the same can be said as before. -/
theorem InField.atField_iff_of_ne (h : InField name D v v') (hne : other ≠ name) :
    AtField other P v' ↔ AtField other P v := by
  cases h with
  | absent => exact Iff.rfl
  | present h hcw =>
    constructor
    · rintro hv l es c ⟨⟩ hc
      exact hv _ _ c rfl ((h.get?_of_ne hne).trans hc)
    · rintro hv l es c ⟨⟩ hc
      exact hv _ _ c rfl (h.get?_of_ne hne ▸ hc)

theorem InField.null_iff (h : InField name D v v') : v' = .null ↔ v = .null := by
  cases h with
  | absent => exact Iff.rfl
  | present => simp

/-- **A part with a changed field** is read if its other fields are read as before. -/
theorem Carries.part {read : Entries → Checked α} {R : α → α → Prop}
    (habsent : ∀ es a, Entries.Lacks es name → read es = .ok a → R a a)
    (hpresent : ∀ es es' c w a, Entries.Differ name c w es es' → D c w → read es = .ok a →
      ∃ a', read es' = .ok a' ∧ R a a') :
    Carries (InField name D) (part read) R := by
  intro v v' a hv ha
  cases hv with
  | absent h =>
    cases v with
    | map l es => exact ⟨a, ha, habsent es a (h l es rfl) ha⟩
    | _ => cases ha
  | present h hcw => exact hpresent _ _ _ _ a h hcw ha

end InField

end StackManifest
