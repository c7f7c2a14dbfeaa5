import StackManifest.Proofs.Checks.Parts
import StackManifest.Proofs.Quantity.Computable
import StackManifest.Validation.Check

/-!
# Which documents have a report

A check of a document is meant to answer with a report whatever the document says. It does so
**exactly** when every quantity in the compute profiles can be computed
(`StackManifest.exists_report_iff_isComputable`); nothing else that a document may hold, prices
included, can keep a report from being made.

The condition is not empty. The form of a size lets two letters pass of which the table of units
does not know the capital form, and the form of a number of cores does not bound it.
-/

namespace StackManifest

open StackManifest.Number

/-- Resources whose **quantities** can all be computed. -/
structure Resources.IsComputable (r : Resources) : Prop where
  cpu : ∀ s, r.cpu.bind (·.units) = some s → Cores.IsComputable s
  memory : ∀ s, r.memory.bind (·.size) = some s → Size.IsComputable s
  storage : ∀ v ∈ r.storage, ∀ s, v.size = some s → Size.IsComputable s

/-- A document all of whose compute profiles have quantities that can be **computed**. -/
def Document.IsComputable (d : Document) : Prop :=
  ∀ e ∈ d.computeProfiles.toList, ∀ r, e.2.resources = some r → r.IsComputable

/-! ### Quantities -/

theorem Size.isComputable_empty : Size.IsComputable "" :=
  Size.isComputable_iff.mpr ⟨0, bytes_empty⟩

theorem Cores.isComputable_empty : Cores.IsComputable "" :=
  Cores.isComputable_iff.mpr ⟨none, read_empty, by rintro _ ⟨⟩⟩

/-- The check of a written size is stopped exactly when its bytes cannot be computed. -/
theorem stopped_size_eq_none_iff {s : String} {bad zero : Finding} :
    (if Size.isLiteral s then Findings.ofQuantity (Size.bytes s) fun n => .when (n == 0) zero
      else Findings.one bad).stopped = none ↔ Size.IsComputable s := by
  rw [Size.isComputable_iff]
  cases hl : Size.isLiteral s with
  | true =>
    rw [if_pos rfl, Findings.stopped_ofQuantity_eq_none]
    exact exists_congr fun n => and_iff_left (Findings.stopped_when ..)
  | false =>
    rw [if_neg (by simp)]
    refine iff_of_true rfl ⟨0, ?_⟩
    rw [Size.isLiteral, Option.isSome_eq_false_iff, Option.isNone_iff_eq_none] at hl
    rw [Size.bytes, hl]

theorem stopped_cpuFindings_eq_none_iff {name : String} {r : Resources} :
    (cpuFindings name r).stopped = none ↔
      ∀ s, r.cpu.bind (·.units) = some s → Cores.IsComputable s := by
  rw [cpuFindings]
  cases h : given? (r.cpu.bind (·.units)) with
  | none =>
    rw [given?_eq_none_iff] at h
    exact iff_of_true rfl fun s hs => h s hs ▸ Cores.isComputable_empty
  | some s =>
    obtain ⟨hs, -⟩ := given?_eq_some_iff.mp h
    have hcheck : (∀ s', r.cpu.bind (·.units) = some s' → Cores.IsComputable s') ↔
        Cores.IsComputable s := by
      rw [hs]
      exact ⟨fun h => h s rfl, fun h s' hs' => Option.some.inj hs' ▸ h⟩
    rw [hcheck, Cores.isComputable_iff]
    simp only [Findings.stopped_ofQuantity_eq_none]
    -- the thousandths are asked for only if the number is positive
    refine exists_congr fun c => and_congr_right fun _ => ?_
    cases c with
    | none =>
      refine iff_of_true rfl ?_
      rintro _ ⟨⟩
    | some c =>
      simp only [Option.some.injEq, forall_eq']
      cases hp : c.isPositive with
      | false =>
        refine iff_of_true rfl ?_
        rintro ⟨⟩
      | true =>
        rw [if_pos rfl, Findings.stopped_ofQuantity_eq_none]
        constructor
        · rintro ⟨b, hb, -⟩ _
          exact ⟨b, hb⟩
        · intro h
          obtain ⟨b, hb⟩ := h rfl
          exact ⟨b, hb, Findings.stopped_when ..⟩

theorem stopped_memoryFindings_eq_none_iff {name : String} {r : Resources} :
    (memoryFindings name r).stopped = none ↔
      ∀ s, r.memory.bind (·.size) = some s → Size.IsComputable s := by
  rw [memoryFindings]
  cases h : given? (r.memory.bind (·.size)) with
  | none =>
    rw [given?_eq_none_iff] at h
    exact iff_of_true rfl fun s hs => h s hs ▸ Size.isComputable_empty
  | some s =>
    obtain ⟨hs, -⟩ := given?_eq_some_iff.mp h
    rw [hs]
    simp only [stopped_size_eq_none_iff, Option.some.injEq, forall_eq']

theorem stopped_volumeFindings_eq_none_iff {v : StorageVolume} :
    (volumeFindings v).stopped = none ↔ ∀ s, v.size = some s → Size.IsComputable s := by
  rw [volumeFindings]
  cases v.size with
  | none =>
    refine iff_of_true rfl ?_
    rintro _ ⟨⟩
  | some s => simp only [stopped_size_eq_none_iff, Option.some.injEq, forall_eq']

theorem stopped_computeFindings_eq_none_iff {name : String} {q : ComputeProfile} :
    (computeFindings name q).stopped = none ↔
      ∀ r, q.resources = some r → r.IsComputable := by
  rw [computeFindings]
  cases q.resources with
  | none =>
    refine iff_of_true rfl ?_
    rintro _ ⟨⟩
  | some r =>
    simp only [Findings.stopped_append_eq_none, Findings.stopped_join_eq_none,
      List.forall_mem_map, stopped_cpuFindings_eq_none_iff, stopped_memoryFindings_eq_none_iff,
      stopped_volumeFindings_eq_none_iff, Option.some.injEq, forall_eq']
    constructor
    · rintro ⟨⟨hc, hm⟩, hs⟩
      exact ⟨hc, hm, hs⟩
    · exact fun h => ⟨⟨h.cpu, h.memory⟩, h.storage⟩

/-! ### Documents -/

theorem Document.check_stopped (d : Document) : d.check.stopped = d.structureFindings.stopped := by
  rw [check]
  cases h : d.structureFindings.stopped with
  | none => simp only [checkStructure, h]; rfl
  | some e => simp only [checkStructure, h]

theorem Document.stopped_structureFindings_iff_isComputable {d : Document} :
    d.structureFindings.stopped = none ↔ d.IsComputable := by
  rw [stopped_structureFindings_eq_none_iff]
  exact forall₂_congr fun e _ => stopped_computeFindings_eq_none_iff

/-- **A document has a report exactly when its quantities can be computed**, and so has the
document of a source; a source that has no document has a report anyway. -/
theorem exists_report_iff_isComputable (d : Document) (s : Source) :
    ((∃ r, d.validate = .ok r) ↔ d.IsComputable) ∧
      (s.check.stopped = none ↔ ∀ d, Document.parse s = .ok d → d.IsComputable) := by
  constructor
  · rw [← Document.stopped_structureFindings_iff_isComputable]
    constructor
    · rintro ⟨r, hr⟩
      exact (Document.validate_eq_ok_iff.mp hr).1
    · exact fun h => ⟨_, Document.validate_eq_ok_iff.mpr ⟨h, rfl⟩⟩
  · rw [Source.check]
    cases hs : Document.parse s with
    | error e =>
      refine iff_of_true rfl ?_
      rintro _ ⟨⟩
    | ok d =>
      simp only [Except.ok.injEq, forall_eq']
      rw [Document.check_stopped, Document.stopped_structureFindings_iff_isComputable]

/-- A memory size whose unit is the **sign of the kelvin** has no report. -/
theorem not_exists_report_kelvin :
    ¬ ∃ r, (Document.oneService (.ofTexts "1" "1\u212a" []) "uakt" "100").validate = .ok r := by
  rintro ⟨r, hr⟩
  have hnone : (Document.oneService (.ofTexts "1" "1\u212a" []) "uakt" "100").validate.toOption =
      none := by decide +kernel
  rw [hr] at hnone
  cases hnone

end StackManifest
