import StackManifest.Validation.Check

/-!
# What is found when nothing stops a check

Checks are put together from smaller ones, one after the other, and a check that is stopped
keeps the checks after it from being made. Two things are therefore said of every way to put
checks together: when the whole is **not stopped**, and what it has **found** then.

* `StackManifest.Findings.stopped_append_eq_none` and
  `StackManifest.Findings.stopped_join_eq_none` – the whole is not stopped exactly when no part
  is;
* `StackManifest.Findings.mem_found_append` and `StackManifest.Findings.mem_found_join` – it has
  found then what its parts have found;
* `StackManifest.Findings.IsClean` – a check that is not stopped and finds **no error**, part by
  part.

The report of a document is read off its two checks in
`StackManifest.Document.validate_eq_ok_iff` and `StackManifest.Document.mem_errors_iff`.
-/

namespace StackManifest

namespace Findings

variable {a b : Findings} {cs : List Findings} {f : Finding}

/-! ### Checks that are not stopped -/

theorem stopped_append (a b : Findings) : (a ++ b).stopped = a.stopped.or b.stopped := by
  change (a.append b).stopped = _
  rw [append]
  cases h : a.stopped with
  | none => rfl
  | some c => exact h

theorem stopped_append_eq_none :
    (a ++ b).stopped = .none ↔ a.stopped = .none ∧ b.stopped = .none := by
  rw [stopped_append, Option.or_eq_none_iff]

theorem mem_found_append (h : a.stopped = .none) :
    f ∈ (a ++ b).found ↔ f ∈ a.found ∨ f ∈ b.found := by
  change f ∈ (a.append b).found ↔ _
  simp only [append, h, List.mem_append]

theorem stopped_join_eq_none : (join cs).stopped = .none ↔ ∀ c ∈ cs, c.stopped = .none := by
  induction cs with
  | nil => simp [join, none]
  | cons c cs ih => rw [join, stopped_append_eq_none, ih, List.forall_mem_cons]

theorem mem_found_join (h : ∀ c ∈ cs, c.stopped = .none) :
    f ∈ (join cs).found ↔ ∃ c ∈ cs, f ∈ c.found := by
  induction cs with
  | nil => simp [join, none]
  | cons c cs ih =>
    obtain ⟨hc, hcs⟩ := List.forall_mem_cons.mp h
    rw [join, mem_found_append hc, ih hcs]
    simp

theorem stopped_when (p : Bool) (f : Finding) : (when p f).stopped = .none := by
  cases p <;> rfl

theorem mem_found_when {p : Bool} {g : Finding} : f ∈ (when p g).found ↔ p = true ∧ f = g := by
  cases p <;> simp [when, one, none]

theorem stopped_ofQuantity_eq_none {α : Type} {q : Except Fault α} {check : α → Findings} :
    (ofQuantity q check).stopped = .none ↔ ∃ x, q = .ok x ∧ (check x).stopped = .none := by
  cases q with
  | error e => simp [ofQuantity]
  | ok x => simp [ofQuantity]

/-! ### Checks that find no error -/

/-- A check that is not stopped and finds **no error**. Warnings do not count. -/
structure IsClean (c : Findings) : Prop where
  stopped : c.stopped = .none
  found : ∀ f ∈ c.found, f.isError = false

theorem isClean_none : none.IsClean := ⟨rfl, by simp [none]⟩

theorem isClean_one : (one f).IsClean ↔ f.isError = false :=
  ⟨fun h => h.found f (by simp [one]), fun h => ⟨rfl, by simpa [one] using h⟩⟩

theorem isClean_append : (a ++ b).IsClean ↔ a.IsClean ∧ b.IsClean := by
  constructor
  · rintro ⟨hs, hf⟩
    obtain ⟨ha, hb⟩ := stopped_append_eq_none.mp hs
    exact ⟨⟨ha, fun f h => hf f ((mem_found_append ha).mpr (.inl h))⟩,
      ⟨hb, fun f h => hf f ((mem_found_append ha).mpr (.inr h))⟩⟩
  · rintro ⟨ha, hb⟩
    refine ⟨stopped_append_eq_none.mpr ⟨ha.stopped, hb.stopped⟩, fun f h => ?_⟩
    rcases (mem_found_append ha.stopped).mp h with h | h
    · exact ha.found f h
    · exact hb.found f h

theorem isClean_join : (join cs).IsClean ↔ ∀ c ∈ cs, c.IsClean := by
  induction cs with
  | nil => simpa [join] using isClean_none
  | cons c cs ih => rw [join, isClean_append, ih, List.forall_mem_cons]

theorem isClean_when {p : Bool} (hf : f.isError = true) : (when p f).IsClean ↔ p = false := by
  cases p with
  | false => simpa [when] using isClean_none
  | true => simp [when, isClean_one, hf]

/-- A check that warns at most is clean. -/
theorem isClean_when_warning {p : Bool} (hf : f.isError = false) : (when p f).IsClean := by
  cases p with
  | false => exact isClean_none
  | true => exact isClean_one.mpr hf

theorem isClean_ofQuantity {α : Type} {q : Except Fault α} {check : α → Findings} :
    (ofQuantity q check).IsClean ↔ ∃ x, q = .ok x ∧ (check x).IsClean := by
  cases q with
  | error e =>
    refine iff_of_false (fun h => ?_) (by simp)
    cases h.stopped
  | ok x => simp [ofQuantity]

end Findings

/-! ### The report of a document -/

namespace Document

variable {d : Document} {r : Report}

/-- Everything that the two checks of a document find. -/
def allFindings (d : Document) : List Finding := d.structureFindings.found ++ d.referenceFindings

/-- **A document has a report exactly when nothing stops its structural check**, and then the
report has the findings of both checks. -/
theorem validate_eq_ok_iff :
    d.validate = .ok r ↔
      d.structureFindings.stopped = none ∧ r = Report.empty.addAll d.allFindings := by
  rw [validate, check]
  cases h : d.structureFindings.stopped with
  | some e => simp [checkStructure, h]
  | none =>
    simp only [checkStructure, checkReferences, h, Except.ok.injEq, true_and]
    rw [eq_comm (b := r), allFindings]
    simp [Report.addAll, Report.empty]

/-- **The errors of a report** are the wordings of the findings that are errors. -/
theorem mem_errors_iff (h : d.validate = .ok r) {m : String} :
    m ∈ r.errors ↔ ∃ f ∈ d.allFindings, f.isError = true ∧ f.message = m := by
  obtain ⟨-, rfl⟩ := validate_eq_ok_iff.mp h
  simp [Report.addAll, Report.empty, and_assoc]

/-- The wording of an error that is found is in the report. -/
theorem message_mem_errors (h : d.validate = .ok r) {f : Finding} (hf : f ∈ d.allFindings)
    (he : f.isError = true) : f.message ∈ r.errors :=
  (mem_errors_iff h).mpr ⟨f, hf, he, rfl⟩

/-- **A document is valid exactly when both its checks are clean**: nothing stops them, and
they find no error. -/
theorem exists_validate_isValid_iff :
    (∃ r, d.validate = .ok r ∧ r.isValid = true) ↔
      d.structureFindings.IsClean ∧ ∀ f ∈ d.referenceFindings, f.isError = false := by
  -- the report has a wording for each error that is found, and no others
  have hempty : ∀ r, d.validate = .ok r →
      (r.isValid = true ↔ ∀ f ∈ d.allFindings, f.isError = false) := by
    intro r hr
    rw [Report.isValid, List.isEmpty_iff, List.eq_nil_iff_forall_not_mem]
    constructor
    · intro h f hf
      cases he : f.isError with
      | false => rfl
      | true => exact absurd (message_mem_errors hr hf he) (h _)
    · intro h m hm
      obtain ⟨f, hf, he, -⟩ := (mem_errors_iff hr).mp hm
      rw [h f hf] at he
      cases he
  constructor
  · rintro ⟨r, hr, hv⟩
    have hf := (hempty r hr).mp hv
    obtain ⟨hs, -⟩ := validate_eq_ok_iff.mp hr
    exact ⟨⟨hs, fun f h => hf f (List.mem_append_left _ h)⟩,
      fun f h => hf f (List.mem_append_right _ h)⟩
  · rintro ⟨⟨hs, hf⟩, hrefs⟩
    have hr := validate_eq_ok_iff.mpr ⟨hs, rfl⟩
    refine ⟨_, hr, (hempty _ hr).mpr fun f h => ?_⟩
    rcases List.mem_append.mp h with h | h
    · exact hf f h
    · exact hrefs f h

end Document

end StackManifest
