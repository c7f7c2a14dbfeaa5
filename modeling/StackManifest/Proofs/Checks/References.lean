import StackManifest.Proofs.Checks.Sound
import StackManifest.Proofs.Traversal

/-!
# What the reference check reports

Nothing that a deployed pair refers to in vain goes unreported. The only thing that the check
leaves out is the second report of a service, which it has reported at an earlier pair
(`StackManifest.mem_referencesFrom_of_undefined`: by then the report is there). In the other
direction every report comes from some pair
(`StackManifest.exists_pair_of_mem_referenceFindings`).

With the structural check of `StackManifest.Proofs.Checks.Sound` this settles which documents
are **valid** (`StackManifest.Document.exists_validate_isValid_iff_isSound`), and what a report
without errors says about a document (`StackManifest.Document.errors_eq_nil_iff_isSound`).
-/

namespace StackManifest

variable {d : Document} {p : DeployedPair} {f : Finding}

/-! ### From a pair to the report -/

/-- **An undefined service is reported**, here or at an earlier pair. -/
theorem mem_referencesFrom_of_undefined (hs : d.services.contains p.service = false) :
    ∀ (ps : List DeployedPair) (reported : List String), p ∈ ps →
      p.service ∈ reported ∨ .undefinedService p.service ∈ referencesFrom d reported ps := by
  intro ps
  induction ps with
  | nil => simp
  | cons q ps ih =>
    intro reported hp
    rw [referencesFrom]
    rcases List.mem_cons.mp hp with rfl | hp
    · by_cases hr : p.service ∈ reported
      · exact .inl hr
      · exact .inr (by simp [pairReferences, serviceReference, hr, hs])
    · rcases ih (if d.services.contains q.service then reported else q.service :: reported) hp
        with hr | hr
      · split at hr
        · exact .inl hr
        · rename_i hq
          rcases List.mem_cons.mp hr with heq | hr
          · -- the same service was undefined at the pair `q` already
            by_cases hin : q.service ∈ reported
            · exact .inl (heq ▸ hin)
            · exact .inr (by simp [pairReferences, serviceReference, hin, hq, heq])
          · exact .inl hr
      · exact .inr (List.mem_append_right _ hr)

theorem mem_referencesFrom_of_mem_pairReferences
    (hf : ∀ reported, f ∈ pairReferences d reported p) :
    ∀ (ps : List DeployedPair) (reported : List String), p ∈ ps →
      f ∈ referencesFrom d reported ps := by
  intro ps
  induction ps with
  | nil => simp
  | cons q ps ih =>
    intro reported hp
    rw [referencesFrom]
    rcases List.mem_cons.mp hp with rfl | hp
    · exact List.mem_append_left _ (hf reported)
    · exact List.mem_append_right _ (ih _ hp)

variable (hp : p ∈ d.pairs)

include hp

/-- A service that is **not defined** is reported. -/
theorem undefinedService_mem_referenceFindings (hs : d.services.contains p.service = false) :
    .undefinedService p.service ∈ d.referenceFindings := by
  rcases mem_referencesFrom_of_undefined hs d.pairs [] hp with h | h
  · simp at h
  · exact h

/-- A placement that is not defined, or has **no price** for the service, is reported. -/
theorem placementReference_subset_referenceFindings (hf : f ∈ placementReference d p) :
    f ∈ d.referenceFindings :=
  mem_referencesFrom_of_mem_pairReferences (fun reported => by simp [pairReferences, hf]) _ _ hp

/-- A compute profile that is **not defined** is reported. -/
theorem profileReference_subset_referenceFindings (hf : f ∈ profileReference d p) :
    f ∈ d.referenceFindings :=
  mem_referencesFrom_of_mem_pairReferences (fun reported => by simp [pairReferences, hf]) _ _ hp

omit hp

/-! ### From the report to a pair -/

/-- **Every report comes from a pair** that refers to something in vain. -/
theorem exists_pair_of_mem_referenceFindings (hf : f ∈ d.referenceFindings) :
    ∃ p ∈ d.pairs,
      f ∈ serviceReference d p ∨ f ∈ placementReference d p ∨ f ∈ profileReference d p := by
  -- the induction is on the pairs, whatever has been reported before them
  have key : ∀ (ps : List DeployedPair) (reported : List String), f ∈ referencesFrom d reported ps →
      ∃ p ∈ ps,
        f ∈ serviceReference d p ∨ f ∈ placementReference d p ∨ f ∈ profileReference d p := by
    intro ps
    induction ps with
    | nil => simp [referencesFrom]
    | cons q ps ih =>
      intro reported h
      rw [referencesFrom] at h
      rcases List.mem_append.mp h with h | h
      · refine ⟨q, List.mem_cons_self .., ?_⟩
        rw [pairReferences] at h
        rcases List.mem_append.mp h with h | h
        · rcases List.mem_append.mp h with h | h
          · split at h
            · simp at h
            · exact .inl h
          · exact .inr (.inl h)
        · exact .inr (.inr h)
      · obtain ⟨p, hp, h⟩ := ih _ h
        exact ⟨p, List.mem_cons_of_mem _ hp, h⟩
  exact key _ _ hf

/-- What a pair refers to in vain is an **error**, never a warning. -/
theorem isError_of_mem_referenceFindings (hf : f ∈ d.referenceFindings) : f.isError = true := by
  obtain ⟨p, -, h | h | h⟩ := exists_pair_of_mem_referenceFindings hf
  · rw [serviceReference] at h
    split at h
    · simp at h
    · obtain rfl := List.mem_singleton.mp h
      rfl
  · rw [placementReference] at h
    split at h
    · obtain rfl := List.mem_singleton.mp h
      rfl
    · split at h
      · simp at h
      · obtain rfl := List.mem_singleton.mp h
        rfl
  · rw [profileReference] at h
    split at h
    · simp at h
    · split at h
      · simp at h
      · obtain rfl := List.mem_singleton.mp h
        rfl

/-! ### Valid documents -/

theorem isResolved_iff :
    p.IsResolved d ↔
      serviceReference d p = [] ∧ placementReference d p = [] ∧ profileReference d p = [] := by
  have hservice : serviceReference d p = [] ↔ d.services.contains p.service = true := by
    simp [serviceReference]
  have hplacement : placementReference d p = [] ↔
      ∃ q, d.placementProfiles.get? p.placement = some q ∧ q.pricing.contains p.service = true := by
    rw [placementReference]
    cases d.placementProfiles.get? p.placement with
    | none => simp
    | some q => simp
  have hprofile : profileReference d p = [] ↔
      ∀ n, p.entry.profile = some n → n ≠ "" → d.computeProfiles.contains n = true := by
    rw [profileReference]
    cases p.entry.profile with
    | none => simp
    | some n => simp [Classical.or_iff_not_imp_left]
  rw [hservice, hplacement, hprofile]
  exact ⟨fun h => ⟨h.service, h.price, h.profile⟩, fun h => ⟨h.1, h.2.1, h.2.2⟩⟩

/-- The reference check is **silent** exactly when every pair finds what it refers to. -/
theorem referenceFindings_eq_nil_iff :
    d.referenceFindings = [] ↔ ∀ p ∈ d.pairs, p.IsResolved d := by
  constructor
  · intro h p hp
    rw [isResolved_iff]
    refine ⟨?_, ?_, ?_⟩
    · rw [serviceReference]
      cases hs : d.services.contains p.service with
      | true => rfl
      | false =>
        have hmem := undefinedService_mem_referenceFindings hp hs
        rw [h] at hmem
        cases hmem
    · refine List.eq_nil_iff_forall_not_mem.mpr fun f hf => ?_
      have hmem := placementReference_subset_referenceFindings hp hf
      rw [h] at hmem
      cases hmem
    · refine List.eq_nil_iff_forall_not_mem.mpr fun f hf => ?_
      have hmem := profileReference_subset_referenceFindings hp hf
      rw [h] at hmem
      cases hmem
  · intro h
    refine List.eq_nil_iff_forall_not_mem.mpr fun f hf => ?_
    obtain ⟨p, hp, hf⟩ := exists_pair_of_mem_referenceFindings hf
    obtain ⟨h1, h2, h3⟩ := isResolved_iff.mp (h p hp)
    simp [h1, h2, h3] at hf

/-- **The checks decide soundness**: a document has a report without errors exactly when it is
sound. -/
theorem Document.exists_validate_isValid_iff_isSound :
    (∃ r, d.validate = .ok r ∧ r.isValid = true) ↔ d.IsSound := by
  -- the reference check never warns, so it is silent if it finds no error
  have hrefs : (∀ f ∈ d.referenceFindings, f.isError = false) ↔
      ∀ p ∈ d.pairs, p.IsResolved d := by
    rw [← referenceFindings_eq_nil_iff, List.eq_nil_iff_forall_not_mem]
    constructor
    · intro h f hf
      have := h f hf
      rw [isError_of_mem_referenceFindings hf] at this
      cases this
    · exact fun h f hf => absurd hf (h f)
  rw [exists_validate_isValid_iff, isClean_structureFindings_iff, isClean_profilesFindings_iff,
    hrefs]
  constructor
  · rintro ⟨⟨hv, hs, ⟨hc, hq⟩, hd⟩, hr⟩
    exact ⟨hv, hs.1, hs.2, hc.1, hc.2, hq.1, hq.2, hd.1, hd.2, hr⟩
  · intro h
    exact ⟨⟨h.version, ⟨h.services_nonempty, h.services⟩, ⟨⟨h.compute_nonempty, h.compute⟩,
      h.placement_nonempty, h.placement⟩, h.deployment_nonempty, h.pairs⟩, h.references⟩

end StackManifest
