import StackManifest.Proofs.Checks.Parts
import StackManifest.Proofs.Compilation.Groups

/-!
# Every refusal is explained by the report

A document that cannot be compiled has at least one pair that is refused, and the refusal says
little: the wording for an unknown profile is the same as the one for an unknown service. The
report says more. `StackManifest.Refusal.causes` lists the findings that can be **behind** a
refusal, and `StackManifest.Document.exists_cause_of_refused` says that one of them is in the
report of the document, and that the pair is the first one without a group.

The four sorts of refusals are traced back one by one. For three of them the test of the
compilation is the test of a check. The resources of a profile are tested in another order and in
another way; what relates them is that sound resources are never refused
(`StackManifest.exists_resolveResources`), so that refused resources have not been found clean.
-/

namespace StackManifest

open StackManifest.Number

/-- The findings that can be **behind** a refusal. -/
def Refusal.causes : Refusal → List Finding
  | .unresolved service placement profile =>
    .undefinedService service :: .undefinedPlacement placement :: .noProfile service placement ::
      (given? profile).toList.map .undefinedProfile
  | .noPrice service placement =>
    [.noPriceFor placement service, .incompletePrice placement service]
  | .badPrice service placement _ => [.badPriceAmount placement service]
  | .badResources _ profile =>
    [.noResources profile, .noCpuUnits profile, .noMemorySize profile, .cpuNotPositive,
      .cpuNotWhole, .badMemorySize, .zeroMemorySize, .badStorageSize, .zeroStorageSize]

/-- Whether a refusal **speaks of** a deployed pair. -/
def Refusal.IsAbout (p : DeployedPair) : Refusal → Prop
  | .unresolved service placement profile =>
    service = p.service ∧ placement = p.placement ∧ profile = p.entry.profile
  | .noPrice service placement => service = p.service ∧ placement = p.placement
  | .badPrice service placement _ => service = p.service ∧ placement = p.placement
  | .badResources service profile => service = p.service ∧ p.entry.profile = some profile

/-! ### Steps that are refused -/

/-- A quantity that cannot be computed is no refusal. -/
theorem orStop_bind_eq_refused_iff {α β : Type} {x : Except Fault α} {f : α → Except Stop β}
    {c : Refusal} :
    (orStop x >>= f) = .error (.refused c) ↔ ∃ a, x = .ok a ∧ f a = .error (.refused c) := by
  cases x with
  | error e => simp [orStop, Except.mapError, bind, Except.bind]
  | ok a => simp [orStop, Except.mapError, bind, Except.bind]

theorem bind_eq_refused_iff {α β : Type} {x : Except Stop α} {f : α → Except Stop β}
    {c : Refusal} :
    (x >>= f) = .error (.refused c) ↔
      x = .error (.refused c) ∨ ∃ a, x = .ok a ∧ f a = .error (.refused c) := by
  cases x with
  | error e => simp [bind, Except.bind]
  | ok a => simp [bind, Except.bind]

/-! ### Resources -/

theorem resolveVolumes_eq_refused {refusal c : Refusal} {vs : List StorageVolume}
    (h : resolveVolumes refusal vs = .error (.refused c)) : c = refusal := by
  induction vs with
  | nil => cases h
  | cons v vs ih =>
    obtain ⟨n, -, h⟩ := orStop_bind_eq_refused_iff.mp h
    by_cases hn : n = 0
    · rw [if_pos hn] at h
      exact (Stop.refused.inj (Except.error.inj h)).symm
    · rw [if_neg hn] at h
      rcases bind_eq_refused_iff.mp h with h | ⟨ws, -, h⟩
      · exact ih h
      · cases h

/-- Resources are refused **in one way** only. -/
theorem resolveResources_eq_refused {service name : String} {q : ComputeProfile} {c : Refusal}
    (h : resolveResources service name q = .error (.refused c)) :
    c = .badResources service name := by
  -- every way out throws the same refusal
  have key : ∀ {e : Except Stop GroupResources},
      e = throw (.refused (.badResources service name)) → e = .error (.refused c) →
        c = .badResources service name := by
    rintro e rfl h
    exact (Stop.refused.inj (Except.error.inj h)).symm
  rw [resolveResources] at h
  split at h
  · obtain ⟨cores, -, h⟩ := orStop_bind_eq_refused_iff.mp h
    obtain ⟨n, -, h⟩ := orStop_bind_eq_refused_iff.mp h
    obtain ⟨accepted, -, h⟩ := orStop_bind_eq_refused_iff.mp h
    cases cores with
    | none => exact key rfl h
    | some cores =>
      simp only at h
      split at h
      · exact key rfl h
      · rcases bind_eq_refused_iff.mp h with h | ⟨ws, -, h⟩
        · exact resolveVolumes_eq_refused h
        · cases h
  · exact key rfl h

theorem mem_found_size {s : String} {bad zero f : Finding}
    (h : f ∈ (if Size.isLiteral s then Findings.ofQuantity (Size.bytes s) fun n =>
      .when (n == 0) zero else Findings.one bad).found) : f = bad ∨ f = zero := by
  split at h
  · cases hb : Size.bytes s with
    | error e => simp [hb, Findings.ofQuantity] at h
    | ok n =>
      rw [hb] at h
      exact .inr (Findings.mem_found_when.mp h).2
  · exact .inl (List.mem_singleton.mp h)

theorem mem_found_cores {cores : Option Decimal} {f : Finding}
    (h : f ∈ (match cores with
      | some c =>
        if c.isPositive then
          Findings.ofQuantity (Cores.isWholeMillicores c) fun whole => .when (!whole) .cpuNotWhole
        else .one .cpuNotPositive
      | none => .one .cpuNotPositive).found) : f = .cpuNotPositive ∨ f = .cpuNotWhole := by
  cases cores with
  | none => exact .inl (List.mem_singleton.mp h)
  | some c =>
    simp only at h
    split at h
    · cases hw : Cores.isWholeMillicores c with
      | error e => simp [hw, Findings.ofQuantity] at h
      | ok w =>
        rw [hw] at h
        exact .inr (Findings.mem_found_when.mp h).2
    · exact .inl (List.mem_singleton.mp h)

/-- **Whatever is found of a compute profile** explains why its resources are refused. -/
theorem mem_causes_of_mem_computeFindings {service name : String} {q : ComputeProfile}
    {f : Finding} (hs : (computeFindings name q).stopped = none)
    (hf : f ∈ (computeFindings name q).found) : f ∈ (Refusal.badResources service name).causes := by
  rw [computeFindings] at hs hf
  cases hr : q.resources with
  | none =>
    rw [hr] at hf
    obtain rfl := List.mem_singleton.mp hf
    simp [Refusal.causes]
  | some r =>
    simp only [hr] at hs hf
    obtain ⟨h12, h3⟩ := Findings.stopped_append_eq_none.mp hs
    obtain ⟨h1, h2⟩ := Findings.stopped_append_eq_none.mp h12
    rw [Findings.mem_found_append h12, Findings.mem_found_append h1,
      Findings.mem_found_join (Findings.stopped_join_eq_none.mp h3)] at hf
    -- the cores, the memory and the volumes are checked by themselves
    rcases hf with (hf | hf) | ⟨c, hc, hf⟩
    · rw [cpuFindings] at hf
      split at hf
      · obtain rfl := List.mem_singleton.mp hf
        simp [Refusal.causes]
      · rename_i units hunits
        cases hcores : Cores.read units with
        | error e => simp [hcores, Findings.ofQuantity] at hf
        | ok cores =>
          rw [hcores] at hf
          rcases mem_found_cores hf with rfl | rfl <;> simp [Refusal.causes]
    · rw [memoryFindings] at hf
      split at hf
      · obtain rfl := List.mem_singleton.mp hf
        simp [Refusal.causes]
      · rcases mem_found_size hf with rfl | rfl <;> simp [Refusal.causes]
    · obtain ⟨v, -, rfl⟩ := List.mem_map.mp hc
      rw [volumeFindings] at hf
      split at hf
      · obtain rfl := List.mem_singleton.mp hf
        simp [Refusal.causes]
      · rcases mem_found_size hf with rfl | rfl <;> simp [Refusal.causes]

/-- **Refused resources have not been found clean.** -/
theorem exists_mem_computeFindings_of_refused {service name : String} {q : ComputeProfile}
    {c : Refusal} (hs : (computeFindings name q).stopped = none)
    (h : resolveResources service name q = .error (.refused c)) :
    ∃ f ∈ (computeFindings name q).found, f.isError = true := by
  rcases Classical.em (∃ f ∈ (computeFindings name q).found, f.isError = true) with hf | hf
  · exact hf
  · -- resources that are found clean are resolved, and never refused
    have hclean : (computeFindings name q).IsClean :=
      ⟨hs, fun f hmem => Bool.eq_false_iff.mpr fun he => hf ⟨f, hmem, he⟩⟩
    obtain ⟨r, hr, hsound⟩ := isClean_computeFindings_iff.mp hclean
    obtain ⟨g, hg, -⟩ := exists_resolveResources service name hr hsound
    rw [hg] at h
    cases h

/-! ### Prices -/

/-- **What is refused of a price**: that it is missing or incomplete, or that its amount cannot
be read. -/
theorem resolvePrice_eq_refused {service placement : String} {q : PlacementProfile} {c : Refusal}
    (h : resolvePrice service placement q = .error (.refused c)) :
    c = .noPrice service placement ∧
        (∀ p, q.pricing.get? service = some p → p.isComplete = false) ∨
      ∃ p a, q.pricing.get? service = some p ∧ p.isComplete = true ∧ p.amount = some a ∧
        PriceAmount.read? a = none ∧ c = .badPrice service placement a := by
  rw [resolvePrice] at h
  split at h
  · rename_i denom amount extra hget
    have hcomplete : Price.isComplete ⟨some denom, some amount, extra⟩ = true ↔
        ¬(denom = "" ∨ amount = "") := by
      simp [Price.isComplete, given?, Option.isSome_filter]
    by_cases hempty : denom = "" ∨ amount = ""
    · rw [if_pos hempty] at h
      refine .inl ⟨(Stop.refused.inj (Except.error.inj h)).symm, fun p hp => ?_⟩
      obtain rfl := Option.some.inj (hget.symm.trans hp)
      rw [Bool.eq_false_iff, ne_eq, hcomplete]
      exact fun hne => hne hempty
    · rw [if_neg hempty] at h
      cases hread : PriceAmount.read? amount with
      | none =>
        rw [hread] at h
        exact .inr ⟨_, amount, hget, hcomplete.mpr hempty, rfl, hread,
          (Stop.refused.inj (Except.error.inj h)).symm⟩
      | some a =>
        rw [hread] at h
        cases h
  · rename_i hget
    refine .inl ⟨(Stop.refused.inj (Except.error.inj h)).symm, fun p hp => ?_⟩
    obtain ⟨denom, amount, extra⟩ := p
    cases denom with
    | none => rfl
    | some denom =>
      cases amount with
      | none => simp [Price.isComplete, given?]
      | some amount => exact absurd hp (hget denom amount extra)

/-! ### Pairs -/

variable {d : Document} {p : DeployedPair} {c : Refusal}

/-- **What is refused of a pair**: that something is not defined that it refers to, its price, or
its resources. -/
theorem resolve_eq_refused (h : resolve d p = .error (.refused c)) :
    c = .unresolved p.service p.placement p.entry.profile ∧
        (d.services.get? p.service = none ∨
          (given? p.entry.profile).bind d.computeProfiles.get? = none ∨
          d.placementProfiles.get? p.placement = none) ∨
      (∃ s q, d.services.get? p.service = some s ∧ d.placementProfiles.get? p.placement = some q ∧
        resolvePrice p.service p.placement q = .error (.refused c)) ∨
      ∃ n q, given? p.entry.profile = some n ∧ d.computeProfiles.get? n = some q ∧
        resolveResources p.service n q = .error (.refused c) := by
  rw [resolve] at h
  -- the service is looked up first, then the profile, then the placement
  cases hs : d.services.get? p.service with
  | none =>
    simp only [hs] at h
    exact .inl ⟨(Stop.refused.inj (Except.error.inj h)).symm, .inl rfl⟩
  | some s =>
    cases hc : (given? p.entry.profile).bind d.computeProfiles.get? with
    | none =>
      simp only [hs, hc] at h
      exact .inl ⟨(Stop.refused.inj (Except.error.inj h)).symm, .inr (.inl rfl)⟩
    | some cp =>
      cases hq : d.placementProfiles.get? p.placement with
      | none =>
        simp only [hs, hc, hq] at h
        exact .inl ⟨(Stop.refused.inj (Except.error.inj h)).symm, .inr (.inr rfl)⟩
      | some q =>
        simp only [hs, hc, hq] at h
        obtain ⟨n, hn, hcp⟩ := Option.bind_eq_some_iff.mp hc
        rcases bind_eq_refused_iff.mp h with h | ⟨⟨denom, amount⟩, -, h⟩
        · exact .inr (.inl ⟨s, q, rfl, rfl, h⟩)
        · rw [hn, Option.getD_some] at h
          rcases bind_eq_refused_iff.mp h with h | ⟨g, -, h⟩
          · exact .inr (.inr ⟨n, cp, hn, hcp, h⟩)
          · cases h

/-! ### From a refusal to the report -/

theorem isError_of_mem_causes {f : Finding} (hf : f ∈ c.causes) : f.isError = true := by
  cases c with
  | unresolved service placement profile =>
    simp only [Refusal.causes, List.mem_cons, List.mem_map] at hf
    rcases hf with rfl | rfl | rfl | ⟨n, -, rfl⟩ <;> rfl
  | noPrice service placement =>
    simp only [Refusal.causes, List.mem_cons, List.not_mem_nil, or_false] at hf
    rcases hf with rfl | rfl <;> rfl
  | badPrice service placement amount =>
    obtain rfl := List.mem_singleton.mp hf
    rfl
  | badResources service profile =>
    simp only [Refusal.causes, List.mem_cons, List.not_mem_nil, or_false] at hf
    rcases hf with rfl | rfl | rfl | rfl | rfl | rfl | rfl | rfl | rfl <;> rfl

/-- **A pair that finds nothing under one of its names** has been reported. -/
theorem exists_cause_of_unresolved (hs : d.structureFindings.stopped = none) (hp : p ∈ d.pairs)
    (h : d.services.get? p.service = none ∨
      (given? p.entry.profile).bind d.computeProfiles.get? = none ∨
      d.placementProfiles.get? p.placement = none) :
    ∃ f ∈ (Refusal.unresolved p.service p.placement p.entry.profile).causes,
      f ∈ d.allFindings := by
  rcases h with h | h | h
  · refine ⟨.undefinedService p.service, by simp [Refusal.causes], List.mem_append_right _ ?_⟩
    exact undefinedService_mem_referenceFindings hp (Table.contains_eq_false_iff.mpr h)
  · cases hn : given? p.entry.profile with
    | none =>
      -- the structural check reports this one, the reference check passes it over
      refine ⟨.noProfile p.service p.placement, by simp [Refusal.causes],
        pairFindings_subset_allFindings hs hp ?_⟩
      rw [pairFindings, Findings.mem_found_append (Findings.stopped_when ..),
        Findings.mem_found_when, hn]
      exact .inl ⟨rfl, rfl⟩
    | some n =>
      obtain ⟨hprofile, hne⟩ := given?_eq_some_iff.mp hn
      rw [hn, Option.bind_some] at h
      refine ⟨.undefinedProfile n, by simp [Refusal.causes, hn], List.mem_append_right _ ?_⟩
      refine profileReference_subset_referenceFindings hp ?_
      simp [profileReference, hprofile, hne, Table.contains_eq_false_iff.mpr h]
  · refine ⟨.undefinedPlacement p.placement, by simp [Refusal.causes],
      List.mem_append_right _ ?_⟩
    refine placementReference_subset_referenceFindings hp ?_
    simp [placementReference, h]

/-- **A refused price** has been reported. -/
theorem exists_cause_of_price (hs : d.structureFindings.stopped = none) (hp : p ∈ d.pairs)
    {q : PlacementProfile} (hq : d.placementProfiles.get? p.placement = some q)
    (h : resolvePrice p.service p.placement q = .error (.refused c)) :
    c.IsAbout p ∧ ∃ f ∈ c.causes, f ∈ d.allFindings := by
  rcases resolvePrice_eq_refused h with ⟨rfl, hprice⟩ | ⟨e, a, he, hcomplete, ha, hread, rfl⟩
  · refine ⟨⟨rfl, rfl⟩, ?_⟩
    cases he : q.pricing.get? p.service with
    | none =>
      refine ⟨.noPriceFor p.placement p.service, by simp [Refusal.causes],
        List.mem_append_right _ ?_⟩
      refine placementReference_subset_referenceFindings hp ?_
      simp [placementReference, hq, Table.contains_eq_false_iff.mpr he]
    | some e =>
      refine ⟨.incompletePrice p.placement p.service, by simp [Refusal.causes],
        priceFindings_subset_allFindings hs hq he ?_⟩
      rw [priceFindings, Findings.mem_found_append (Findings.stopped_when ..), hprice e he]
      exact .inr (List.mem_singleton.mpr rfl)
  · refine ⟨⟨rfl, rfl⟩, .badPriceAmount p.placement p.service, by simp [Refusal.causes],
      priceFindings_subset_allFindings hs hq he ?_⟩
    rw [priceFindings, Findings.mem_found_append (Findings.stopped_when ..), hcomplete,
      if_neg (by simp), ha, Option.bind_some, hread]
    exact .inr (Findings.mem_found_when.mpr ⟨rfl, rfl⟩)

/-- **A refused pair** has been reported. -/
theorem exists_cause_of_resolve (hs : d.structureFindings.stopped = none) (hp : p ∈ d.pairs)
    (h : resolve d p = .error (.refused c)) :
    c.IsAbout p ∧ ∃ f ∈ c.causes, f ∈ d.allFindings := by
  rcases resolve_eq_refused h with ⟨rfl, hnone⟩ | ⟨s, q, -, hq, h⟩ | ⟨n, q, hn, hq, h⟩
  · exact ⟨⟨rfl, rfl, rfl⟩, exists_cause_of_unresolved hs hp hnone⟩
  · exact exists_cause_of_price hs hp hq h
  · obtain rfl := resolveResources_eq_refused h
    have hstopped := stopped_structureFindings_eq_none_iff.mp hs _ (Table.get?_eq_some_iff.mp hq)
    obtain ⟨f, hf, -⟩ := exists_mem_computeFindings_of_refused hstopped h
    exact ⟨⟨rfl, (given?_eq_some_iff.mp hn).1⟩, f, mem_causes_of_mem_computeFindings hstopped hf,
      computeFindings_subset_allFindings hs hq hf⟩

/-- **Every refusal is explained by the report.** The document is refused for the first of its
pairs that has no group, and the report has an error for one of the causes that can be behind
the refusal of that pair. -/
theorem Document.exists_cause_of_refused {r : Report} (hr : d.validate = .ok r)
    (h : d.compile = .error (.refused c)) :
    ∃ before p after, d.pairs = before ++ p :: after ∧
      (∀ q ∈ before, ∃ g, resolve d q = .ok g) ∧ resolve d p = .error (.refused c) ∧
      c.IsAbout p ∧ ∃ f ∈ c.causes, f.message ∈ r.errors := by
  obtain ⟨before, p, after, hpairs, hbefore, hp⟩ := mapM_eq_error_iff.mp h
  have hmem : p ∈ d.pairs := hpairs ▸ List.mem_append_right _ (List.mem_cons_self ..)
  obtain ⟨habout, f, hf, hfound⟩ := exists_cause_of_resolve (validate_eq_ok_iff.mp hr).1 hmem hp
  exact ⟨before, p, after, hpairs, hbefore, hp, habout, f, hf,
    message_mem_errors hr hfound (isError_of_mem_causes hf)⟩

/-- A price without a denomination is refused, and the report says why. -/
theorem Document.exists_cause_of_refused_oneService :
    ∃ r, (oneService (.ofTexts "1" "1Gi" []) "" "100").validate = .ok r ∧
      (oneService (.ofTexts "1" "1Gi" []) "" "100").compile =
        .error (.refused (.noPrice "web" "west")) ∧
      ∃ f ∈ (Refusal.noPrice "web" "west").causes, f.message ∈ r.errors := by
  have hr : (oneService (.ofTexts "1" "1Gi" []) "" "100").validate =
      .ok ⟨["Pricing for service 'web' in placement 'west' must specify denom and amount"], []⟩ :=
    toOption_eq_some_iff.mp (by decide +kernel)
  have hc : (oneService (.ofTexts "1" "1Gi" []) "" "100").compile =
      .error (.refused (.noPrice "web" "west")) := by rfl
  obtain ⟨-, -, -, -, -, -, -, f, hf, hmem⟩ := exists_cause_of_refused hr hc
  exact ⟨_, hr, hc, f, hf, hmem⟩

end StackManifest
