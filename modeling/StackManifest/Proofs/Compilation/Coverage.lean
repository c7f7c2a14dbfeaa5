import StackManifest.Proofs.Compilation.Groups

/-!
# What is deployed, and what comes of it

The deployment of a document names services, and for each of them the placements under which it is
deployed. The checks and the compilation see it pair by pair, and a service that is named without a
placement is in no pair. Nothing is said about it, then: it need not be a service of the document,
and no group comes of it.

That is all that is left out. In a document that is valid, the groups with the name of a service are
those of its placements, in order, and the services that are deployed under some placement are
defined (`StackManifest.Document.coverage_of_isValid`). A valid document may have no group at all
(`StackManifest.Document.compile_deployedNowhere`).
-/

namespace StackManifest

namespace Document

variable {d : Document} {gs : List Group} {service : String} {placements : Table DeploymentEntry}

/-- **The pairs of a service** are its placements, in order. -/
theorem map_placement_filter_pairs (h : (service, placements) ∈ d.deployment.toList) :
    (d.pairs.filter (·.service = service)).map DeployedPair.placement = placements.keys := by
  -- no other entry has this service, so the pairs before and after are those of others
  obtain ⟨before, after, hsplit, hbefore, hafter⟩ := Table.exists_split_of_mem h
  have hothers : ∀ es : List (String × Table DeploymentEntry), service ∉ es.map Prod.fst →
      (es.flatMap fun e => e.2.toList.map fun x => DeployedPair.mk e.1 x.1 x.2).filter
        (·.service = service) = [] := by
    intro es hes
    rw [List.filter_eq_nil_iff]
    rintro p hp hservice
    obtain ⟨e, he, hp⟩ := List.mem_flatMap.mp hp
    obtain ⟨x, -, rfl⟩ := List.mem_map.mp hp
    exact hes (List.mem_map.mpr ⟨e, he, by simpa using hservice⟩)
  have hown : ((placements.toList.map fun x => DeployedPair.mk service x.1 x.2).filter
      (·.service = service)).map DeployedPair.placement = placements.keys := by
    rw [List.filter_eq_self.mpr, List.map_map]
    · rfl
    · rintro p hp
      obtain ⟨x, -, rfl⟩ := List.mem_map.mp hp
      exact decide_eq_true rfl
  rw [pairs, hsplit, List.flatMap_append, List.flatMap_cons, List.filter_append,
    List.filter_append]
  rw [hothers before hbefore, hothers after hafter, List.nil_append, List.append_nil]
  exact hown

/-- **The groups with the name of a service** are those of its pairs. -/
theorem map_placement_filter_groups (h : List.Forall₂ (DeployedPair.Yields d) d.pairs gs)
    (he : (service, placements) ∈ d.deployment.toList) :
    (gs.filter (·.name = service)).map Group.placement = placements.keys := by
  have hgroups : List.Forall₂ (DeployedPair.Yields d) (d.pairs.filter (·.service = service))
      (gs.filter (·.name = service)) := by
    refine List.rel_filter ?_ h
    intro p g hyields
    simp [hyields.name]
  rw [← map_placement_filter_pairs he]
  exact (map_eq_map_of_forall₂ (fun p g hyields => hyields.placement.symm) hgroups).symm

/-- **A service has a group** exactly if it is deployed under some placement. -/
theorem exists_group_iff (h : List.Forall₂ (DeployedPair.Yields d) d.pairs gs)
    (he : (service, placements) ∈ d.deployment.toList) :
    (∃ g ∈ gs, g.name = service) ↔ placements.isEmpty = false := by
  have hempty : gs.filter (·.name = service) = [] ↔ placements.toList = [] := by
    rw [← List.map_eq_nil_iff (f := Group.placement), map_placement_filter_groups h he,
      Table.keys, List.map_eq_nil_iff]
  rw [Table.isEmpty_eq_false_iff, ne_eq, ← hempty, List.filter_eq_nil_iff]
  simp only [decide_eq_true_eq, not_forall, not_not, exists_prop]

/-- Groups are **groups of the deployment**, with a service and a placement that stand in it. -/
theorem get?_deployment_of_yields (h : List.Forall₂ (DeployedPair.Yields d) d.pairs gs)
    {g : Group} (hg : g ∈ gs) :
    ∃ placements, d.deployment.get? g.name = some placements ∧
      placements.contains g.placement = true := by
  obtain ⟨p, hp, hpg⟩ := exists_of_mem_forall₂ h hg
  obtain ⟨placements, hs, hq⟩ := mem_pairs_iff.mp hp
  refine ⟨placements, ?_, Table.contains_eq_true_iff.mpr ⟨p.entry, ?_⟩⟩
  · rw [hpg.name, Table.get?_eq_some_iff]
    exact hs
  · rw [hpg.placement, Table.get?_eq_some_iff]
    exact hq

/-- **What comes of a deployment.** A valid document is compiled. For every service that its
deployment names, the groups with its name are those of its placements, in order: there is one
exactly if there is a placement, and then the service is defined. There are no other groups, and
so there are groups exactly if some service is deployed under some placement. -/
theorem coverage_of_isValid {r : Report} (h : d.validate = .ok r) (hr : r.isValid = true) :
    ∃ gs, d.compile = .ok gs ∧
      (∀ e ∈ d.deployment.toList,
        (gs.filter (·.name = e.1)).map Group.placement = e.2.keys ∧
        ((∃ g ∈ gs, g.name = e.1) ↔ e.2.isEmpty = false) ∧
        (e.2.isEmpty = false → d.services.contains e.1 = true)) ∧
      (∀ g ∈ gs, ∃ placements, d.deployment.get? g.name = some placements ∧
        placements.contains g.placement = true) ∧
      (gs ≠ [] ↔ ∃ e ∈ d.deployment.toList, e.2.isEmpty = false) := by
  have hsound : d.IsSound := exists_validate_isValid_iff_isSound.mp ⟨r, h, hr⟩
  obtain ⟨gs, hgs, hyields⟩ := hsound.exists_compile
  refine ⟨gs, hgs, ?_, fun g hg => get?_deployment_of_yields hyields hg, ?_⟩
  · rintro ⟨service, placements⟩ he
    refine ⟨map_placement_filter_groups hyields he, exists_group_iff hyields he, fun hne => ?_⟩
    obtain ⟨⟨placement, entry⟩, hentry⟩ :=
      List.exists_mem_of_ne_nil _ (Table.isEmpty_eq_false_iff.mp hne)
    have hpair : ⟨service, placement, entry⟩ ∈ d.pairs := mem_pairs_iff.mpr ⟨placements, he, hentry⟩
    exact (hsound.references _ hpair).service
  · constructor
    · intro hne
      obtain ⟨g, hg⟩ := List.exists_mem_of_ne_nil _ hne
      obtain ⟨placements, hget, -⟩ := get?_deployment_of_yields hyields hg
      have he := Table.get?_eq_some_iff.mp hget
      exact ⟨_, he, (exists_group_iff hyields he).mp ⟨g, hg, rfl⟩⟩
    · rintro ⟨e, he, hne⟩
      obtain ⟨g, hg, -⟩ := (exists_group_iff hyields he).mpr hne
      exact List.ne_nil_of_mem hg

/-- The document with one service that is deployed under one placement has a group, for both. -/
theorem coverage_oneService :
    ∃ r gs, (oneService (.ofTexts "1" "1Gi" []) "uakt" "100").validate = .ok r ∧ r.isValid = true ∧
      (oneService (.ofTexts "1" "1Gi" []) "uakt" "100").compile = .ok gs ∧
      (gs.filter (·.name = "web")).map Group.placement = ["west"] := by
  have hvalid : (oneService (.ofTexts "1" "1Gi" []) "uakt" "100").validate = .ok ⟨[], []⟩ :=
    toOption_eq_some_iff.mp (by decide +kernel)
  obtain ⟨gs, hgs, hservices, -⟩ := coverage_of_isValid hvalid rfl
  exact ⟨_, gs, hvalid, rfl, hgs, (hservices _ (List.mem_singleton_self _)).1⟩

/-- The document whose deployment names **a service without a placement**. -/
def deployedNowhere (service : String) : Document :=
  { oneService (.ofTexts "1" "1Gi" []) "uakt" "100" with deployment := .single service .empty }

/-- **A valid document without groups**: the service that is named is not even defined. -/
theorem compile_deployedNowhere :
    (deployedNowhere "ghost").validate = .ok ⟨[], []⟩ ∧
      (deployedNowhere "ghost").deployment.contains "ghost" = true ∧
      (deployedNowhere "ghost").services.contains "ghost" = false ∧
      (deployedNowhere "ghost").compile = .ok [] := by
  refine ⟨toOption_eq_some_iff.mp (by decide +kernel), by decide, by decide, rfl⟩

end Document

end StackManifest
