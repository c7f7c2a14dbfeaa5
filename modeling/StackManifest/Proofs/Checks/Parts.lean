import StackManifest.Proofs.Checks.Sound

/-!
# The structural check, part by part

The only part of a structural check that can be stopped is the check of a compute profile, since
it is the only one that computes quantities
(`StackManifest.stopped_structureFindings_eq_none_iff`). When none of them is stopped, the
structural check finds whatever a part of it finds: the checks of the compute profiles
(`StackManifest.computeFindings_subset_allFindings`), of the prices
(`StackManifest.priceFindings_subset_allFindings`) and of the deployed pairs
(`StackManifest.pairFindings_subset_allFindings`).
-/

namespace StackManifest

open StackManifest.Number

variable {d : Document} {f : Finding}

/-! ### What can stop the check -/

theorem stopped_exposeFindings (name : String) (r : ExposeRule) :
    (exposeFindings d name r).stopped = none := by
  rw [exposeFindings, Findings.stopped_append_eq_none, Findings.stopped_append_eq_none]
  refine ⟨⟨Findings.stopped_when .., Findings.stopped_when ..⟩, ?_⟩
  rw [Findings.stopped_join_eq_none, List.forall_mem_map]
  intro t _
  cases given? t.service with
  | none => rfl
  | some s => exact Findings.stopped_when ..

theorem stopped_servicesFindings (d : Document) : (servicesFindings d).stopped = none := by
  rw [servicesFindings]
  split
  · rfl
  · rw [Findings.stopped_join_eq_none, List.forall_mem_map]
    intro e _
    rw [serviceFindings, Findings.stopped_append_eq_none, Findings.stopped_join_eq_none,
      List.forall_mem_map]
    exact ⟨Findings.stopped_when .., fun r _ => stopped_exposeFindings e.1 r⟩

theorem stopped_versionFindings (d : Document) : (versionFindings d).stopped = none := by
  rw [versionFindings]
  split
  · rfl
  · exact Findings.stopped_when ..

theorem stopped_priceFindings (d : Document) (name service : String) (p : Price) :
    (priceFindings d name service p).stopped = none := by
  rw [priceFindings, Findings.stopped_append_eq_none]
  refine ⟨Findings.stopped_when .., ?_⟩
  split
  · rfl
  · exact Findings.stopped_when ..

theorem stopped_placementFindings (d : Document) (name : String) (q : PlacementProfile) :
    (placementFindings d name q).stopped = none := by
  rw [placementFindings, Findings.stopped_join_eq_none, List.forall_mem_map]
  exact fun e _ => stopped_priceFindings d name e.1 e.2

theorem stopped_pairFindings (p : DeployedPair) : (pairFindings p).stopped = none := by
  rw [pairFindings, Findings.stopped_append_eq_none]
  refine ⟨Findings.stopped_when .., ?_⟩
  split
  · rfl
  · exact Findings.stopped_when ..

theorem stopped_deploymentFindings (d : Document) : (deploymentFindings d).stopped = none := by
  rw [deploymentFindings]
  split
  · rfl
  · rw [Findings.stopped_join_eq_none, List.forall_mem_map]
    exact fun p _ => stopped_pairFindings p

theorem stopped_sectionFindings_eq_none_iff {α : Type} {t : Option (Table α)} {missing : Finding}
    {check : String → α → Findings} :
    (sectionFindings t missing check).stopped = none ↔
      ∀ e ∈ (t.getD .empty).toList, (check e.1 e.2).stopped = none := by
  cases t with
  | none => simp [sectionFindings, Findings.one, Table.empty]
  | some t =>
    simp only [sectionFindings, Option.getD_some]
    cases he : t.isEmpty with
    | true =>
      have hnil : t.toList = [] := List.isEmpty_iff.mp he
      simp [hnil, Findings.one]
    | false =>
      rw [if_neg (by simp), Findings.stopped_join_eq_none, List.forall_mem_map]

theorem stopped_profilesFindings_eq_none_iff :
    (profilesFindings d).stopped = none ↔
      ∀ e ∈ d.computeProfiles.toList, (computeFindings e.1 e.2).stopped = none := by
  rw [profilesFindings, Document.computeProfiles]
  cases d.profiles with
  | none => simp [Findings.one, Table.empty]
  | some p =>
    rw [Findings.stopped_append_eq_none, stopped_sectionFindings_eq_none_iff,
      stopped_sectionFindings_eq_none_iff]
    exact and_iff_left fun e _ => stopped_placementFindings d e.1 e.2

/-- **Only a compute profile can stop the structural check.** -/
theorem stopped_structureFindings_eq_none_iff :
    d.structureFindings.stopped = none ↔
      ∀ e ∈ d.computeProfiles.toList, (computeFindings e.1 e.2).stopped = none := by
  rw [Document.structureFindings, Findings.stopped_append_eq_none,
    Findings.stopped_append_eq_none, Findings.stopped_append_eq_none,
    stopped_profilesFindings_eq_none_iff]
  constructor
  · rintro ⟨⟨-, h⟩, -⟩
    exact h
  · exact fun h => ⟨⟨⟨stopped_versionFindings d, stopped_servicesFindings d⟩, h⟩,
      stopped_deploymentFindings d⟩

/-! ### What the parts find -/

theorem mem_found_sectionFindings {α : Type} {t : Option (Table α)} {missing : Finding}
    {check : String → α → Findings} (h : (sectionFindings t missing check).stopped = none)
    {e : String × α} (he : e ∈ (t.getD .empty).toList) (hf : f ∈ (check e.1 e.2).found) :
    f ∈ (sectionFindings t missing check).found := by
  rw [stopped_sectionFindings_eq_none_iff] at h
  cases t with
  | none => simp [Table.empty] at he
  | some t =>
    rw [Option.getD_some] at h he
    rw [sectionFindings, Table.isEmpty_eq_false_of_mem he, if_neg (by simp),
      Findings.mem_found_join (List.forall_mem_map.mpr h)]
    exact ⟨_, List.mem_map_of_mem he, hf⟩

variable (h : d.structureFindings.stopped = none)

include h

/-- What the check of the **profiles** finds is found. -/
theorem profilesFindings_subset_allFindings (hf : f ∈ (profilesFindings d).found) :
    f ∈ d.allFindings := by
  refine List.mem_append_left _ ?_
  rw [Document.structureFindings, Findings.stopped_append_eq_none,
    Findings.stopped_append_eq_none] at h
  rw [Document.structureFindings, Findings.mem_found_append
    (Findings.stopped_append_eq_none.mpr h.1), Findings.mem_found_append h.1.1]
  exact .inl (.inr hf)

/-- What the check of a **compute profile** finds is found. -/
theorem computeFindings_subset_allFindings {n : String} {q : ComputeProfile}
    (hq : d.computeProfiles.get? n = some q) (hf : f ∈ (computeFindings n q).found) :
    f ∈ d.allFindings := by
  refine profilesFindings_subset_allFindings h ?_
  have hs := stopped_profilesFindings_eq_none_iff.mpr (stopped_structureFindings_eq_none_iff.mp h)
  rw [Table.get?_eq_some_iff, Document.computeProfiles] at hq
  rw [profilesFindings] at hs ⊢
  cases hp : d.profiles with
  | none => simp [hp, Table.empty] at hq
  | some p =>
    simp only [hp, Option.bind_some] at hq hs ⊢
    have hcompute := (Findings.stopped_append_eq_none.mp hs).1
    exact (Findings.mem_found_append hcompute).mpr (.inl (mem_found_sectionFindings hcompute hq hf))

/-- What the check of a **price** finds is found. -/
theorem priceFindings_subset_allFindings {n service : String} {q : PlacementProfile} {c : Price}
    (hq : d.placementProfiles.get? n = some q) (hc : q.pricing.get? service = some c)
    (hf : f ∈ (priceFindings d n service c).found) : f ∈ d.allFindings := by
  refine profilesFindings_subset_allFindings h ?_
  have hs := stopped_profilesFindings_eq_none_iff.mpr (stopped_structureFindings_eq_none_iff.mp h)
  rw [Table.get?_eq_some_iff] at hc
  rw [Table.get?_eq_some_iff, Document.placementProfiles] at hq
  have hplacement : f ∈ (placementFindings d n q).found := by
    rw [placementFindings, Findings.mem_found_join
      (List.forall_mem_map.mpr fun e _ => stopped_priceFindings d n e.1 e.2)]
    exact ⟨_, List.mem_map_of_mem hc, hf⟩
  rw [profilesFindings] at hs ⊢
  cases hp : d.profiles with
  | none => simp [hp, Table.empty] at hq
  | some p =>
    simp only [hp, Option.bind_some] at hq hs ⊢
    obtain ⟨hcompute, hsection⟩ := Findings.stopped_append_eq_none.mp hs
    exact (Findings.mem_found_append hcompute).mpr
      (.inr (mem_found_sectionFindings hsection hq hplacement))

/-- What the check of a **deployed pair** finds is found. -/
theorem pairFindings_subset_allFindings {p : DeployedPair} (hp : p ∈ d.pairs)
    (hf : f ∈ (pairFindings p).found) : f ∈ d.allFindings := by
  refine List.mem_append_left _ ?_
  rw [Document.structureFindings, Findings.stopped_append_eq_none] at h
  rw [Document.structureFindings, Findings.mem_found_append h.1]
  refine .inr ?_
  rw [deploymentFindings, Document.deployment_isEmpty_of_mem_pairs hp, if_neg (by simp),
    Findings.mem_found_join (List.forall_mem_map.mpr fun p _ => stopped_pairFindings p)]
  exact ⟨_, List.mem_map_of_mem hp, hf⟩

end StackManifest
