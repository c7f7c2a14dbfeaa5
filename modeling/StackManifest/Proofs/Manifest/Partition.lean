import StackManifest.Manifest.Provider
import StackManifest.Proofs.Compilation.Results
import StackManifest.Proofs.Quantity.Computable

/-!
# The manifest is a partition of the groups

A manifest is built group by group: the service of a group joins the part of its placement, or
starts a new part at the end. `StackManifest.IsPartition` says what this comes to: the parts are
the placements in the order in which they first occur, and each part has the services of exactly
its own groups, in their order. One more group keeps it (`StackManifest.IsPartition.add`), and so
it holds of every manifest (`StackManifest.ProviderManifest.isPartition_of_build`).

A part has the requirements of its **first** group only. Groups that a compilation has given all
have those of their placement, so that nothing is lost there.

There is a manifest unless the cores of some group are no number, or beyond all numbers:
`StackManifest.ProviderManifest.exists_build_iff`.
-/

namespace StackManifest

open StackManifest.Number

variable {g : Group} {s : ProviderService} {gs : List Group} {ps : List ProviderGroup}

/-! ### One more service -/

/-- A part, with a service **added** if it is the part of the placement. -/
def ProviderGroup.added (g : Group) (s : ProviderService) (p : ProviderGroup) : ProviderGroup :=
  if p.name = g.placement then { p with services := p.services ++ [s] } else p

@[simp] theorem ProviderGroup.name_added (p : ProviderGroup) : (p.added g s).name = p.name := by
  rw [added]
  split <;> rfl

@[simp] theorem ProviderGroup.requirements_added (p : ProviderGroup) :
    (p.added g s).requirements = p.requirements := by
  rw [added]
  split <;> rfl

/-- The service of a placement that has no part yet **starts a part**. -/
theorem addService_of_not_mem (h : g.placement ∉ ps.map ProviderGroup.name) :
    addService g s ps = ps ++ [⟨g.placement, g.requirements, [s]⟩] := by
  induction ps with
  | nil => rfl
  | cons p ps ih =>
    obtain ⟨hp, hps⟩ := not_or.mp (mt List.mem_cons.mpr h)
    rw [addService, if_neg (Ne.symm hp), ih hps, List.cons_append]

/-- The service of a placement that has a part **joins that part**. -/
theorem addService_of_mem (hd : (ps.map ProviderGroup.name).Nodup)
    (h : g.placement ∈ ps.map ProviderGroup.name) :
    addService g s ps = ps.map (ProviderGroup.added g s) := by
  induction ps with
  | nil => cases h
  | cons p ps ih =>
    obtain ⟨hp, hd⟩ := List.nodup_cons.mp hd
    rw [addService, List.map_cons, ProviderGroup.added]
    by_cases hname : p.name = g.placement
    · -- the names are distinct, so no other part takes the service
      have hrest : ps.map (ProviderGroup.added g s) = ps := by
        refine (List.map_congr_left fun q hq => if_neg fun hq' => hp ?_).trans (List.map_id _)
        rw [hname, ← hq']
        exact List.mem_map_of_mem hq
      rw [if_pos hname, if_pos hname, hrest]
    · have hmem := (List.mem_cons.mp h).resolve_left (Ne.symm hname)
      rw [if_neg hname, if_neg hname, ih hd hmem]

/-! ### All services -/

/-- All services of some parts, each **with the name** of its part. -/
def placedServices (ps : List ProviderGroup) : List (String × ProviderService) :=
  ps.flatMap fun p => p.services.map (p.name, ·)

/-- **One more service is one more service**, wherever its part stands. -/
theorem placedServices_addService (g : Group) (s : ProviderService) (ps : List ProviderGroup) :
    (placedServices (addService g s ps)).Perm (placedServices ps ++ [(g.placement, s)]) := by
  induction ps with
  | nil => exact .refl _
  | cons p ps ih =>
    rw [addService]
    split
    · rename_i hname
      simp only [placedServices, List.flatMap_cons, List.map_append, List.map_cons, List.map_nil,
        hname, List.append_assoc]
      exact List.perm_append_comm.append_left _
    · simp only [placedServices, List.flatMap_cons, List.append_assoc] at ih ⊢
      exact ih.append_left _

/-! ### One more group -/

theorem filter_append_own {n : String} (h : g.placement = n) :
    (gs ++ [g]).filter (·.placement = n) = gs.filter (·.placement = n) ++ [g] := by
  rw [List.filter_append, List.filter_cons_of_pos (by simpa using h), List.filter_nil]

theorem filter_append_other {n : String} (h : g.placement ≠ n) :
    (gs ++ [g]).filter (·.placement = n) = gs.filter (·.placement = n) := by
  rw [List.filter_append, List.filter_cons_of_neg (by simpa using h), List.filter_nil,
    List.append_nil]

theorem eraseDups_append_of_mem {n : String} {ns : List String} (h : n ∈ ns) :
    (ns ++ [n]).eraseDups = ns.eraseDups := by
  rw [List.eraseDups_append, List.removeAll, List.filter_cons_of_neg (by simpa using h),
    List.filter_nil, List.eraseDups_nil, List.append_nil]

theorem eraseDups_append_of_not_mem {n : String} {ns : List String} (h : n ∉ ns) :
    (ns ++ [n]).eraseDups = ns.eraseDups ++ [n] := by
  rw [List.eraseDups_append, List.removeAll, List.filter_cons_of_pos (by simpa using h),
    List.filter_nil, List.eraseDups_cons, List.filter_nil, List.eraseDups_nil]

/-! ### The partition -/

/-- **A partition of groups by placement**: a part for each placement, in the order in which they
first occur, with the services of its groups, in order, and the requirements of the first. -/
structure IsPartition (gs : List Group) (ps : List ProviderGroup) : Prop where
  distinct : (ps.map ProviderGroup.name).Nodup
  names : ps.map ProviderGroup.name = (gs.map Group.placement).eraseDups
  services : ∀ p ∈ ps, List.Forall₂ (fun g s => ProviderService.ofGroup g = .ok s)
    (gs.filter (·.placement = p.name)) p.services
  requirements : ∀ p ∈ ps,
    (gs.find? (·.placement = p.name)).map Group.requirements = some p.requirements
  size : (ps.map (·.services.length)).sum = gs.length

theorem isPartition_nil : IsPartition [] [] where
  distinct := List.nodup_nil
  names := rfl
  services _ hp := nomatch hp
  requirements _ hp := nomatch hp
  size := rfl

namespace IsPartition

theorem mem_names_iff (h : IsPartition gs ps) {n : String} :
    n ∈ ps.map ProviderGroup.name ↔ n ∈ gs.map Group.placement := by
  rw [h.names, List.mem_eraseDups]

/-- One more service makes the parts **larger by one** in all. -/
theorem size_addService (h : IsPartition gs ps) :
    ((addService g s ps).map (·.services.length)).sum = (gs ++ [g]).length := by
  have hlength : ∀ qs : List ProviderGroup,
      (qs.map (·.services.length)).sum = (placedServices qs).length := by
    intro qs
    simp [placedServices, List.length_flatMap]
  have hadded := (placedServices_addService g s ps).length_eq
  rw [List.length_append] at hadded
  rw [hlength, hadded, ← hlength, h.size, List.length_append]
  rfl

/-- A part keeps the requirements of its **first** group when one more group comes. -/
theorem requirements_append (h : IsPartition gs ps) {p : ProviderGroup} (hp : p ∈ ps) :
    ((gs ++ [g]).find? (·.placement = p.name)).map Group.requirements = some p.requirements := by
  obtain ⟨first, hfirst, hreq⟩ := Option.map_eq_some_iff.mp (h.requirements p hp)
  rw [List.find?_append, hfirst, Option.some_or, Option.map_some, hreq]

/-- A group of a placement that **has a part** joins it. -/
theorem add_of_mem (h : IsPartition gs ps) (hs : ProviderService.ofGroup g = .ok s)
    (hmem : g.placement ∈ ps.map ProviderGroup.name) :
    IsPartition (gs ++ [g]) (addService g s ps) := by
  have hseen : g.placement ∈ gs.map Group.placement := h.mem_names_iff.mp hmem
  have hadd := addService_of_mem (s := s) h.distinct hmem
  have hnames : (addService g s ps).map ProviderGroup.name = ps.map ProviderGroup.name := by
    rw [hadd, List.map_map]
    exact List.map_congr_left fun p _ => p.name_added
  refine ⟨hnames ▸ h.distinct, ?_, ?_, ?_, h.size_addService⟩
  · rw [hnames, h.names, List.map_append, List.map_singleton, eraseDups_append_of_mem hseen]
  · intro q hq
    rw [hadd] at hq
    obtain ⟨p, hp, rfl⟩ := List.mem_map.mp hq
    rw [ProviderGroup.name_added, ProviderGroup.added]
    by_cases hname : p.name = g.placement
    · rw [if_pos hname, filter_append_own hname.symm]
      exact List.rel_append (h.services p hp) (.cons hs .nil)
    · rw [if_neg hname, filter_append_other (Ne.symm hname)]
      exact h.services p hp
  · intro q hq
    rw [hadd] at hq
    obtain ⟨p, hp, rfl⟩ := List.mem_map.mp hq
    rw [ProviderGroup.name_added, ProviderGroup.requirements_added]
    exact h.requirements_append hp

/-- A group of a placement **without a part** starts one, at the end. -/
theorem add_of_not_mem (h : IsPartition gs ps) (hs : ProviderService.ofGroup g = .ok s)
    (hmem : g.placement ∉ ps.map ProviderGroup.name) :
    IsPartition (gs ++ [g]) (addService g s ps) := by
  have hnew : g.placement ∉ gs.map Group.placement := mt h.mem_names_iff.mpr hmem
  -- so the new part has this group only, and no other part has it
  have hnone : ∀ x ∈ gs, ¬x.placement = g.placement := by
    intro x hx heq
    exact hnew (heq ▸ List.mem_map_of_mem hx)
  have hother : ∀ p ∈ ps, ¬g.placement = p.name := by
    intro p hp heq
    exact hmem (heq ▸ List.mem_map_of_mem hp)
  have hadd := addService_of_not_mem (s := s) hmem
  have hnames : (addService g s ps).map ProviderGroup.name =
      ps.map ProviderGroup.name ++ [g.placement] := by
    rw [hadd, List.map_append, List.map_singleton]
  refine ⟨?_, ?_, ?_, ?_, h.size_addService⟩
  · rw [hnames, List.nodup_append_comm, List.singleton_append, List.nodup_cons]
    exact ⟨hmem, h.distinct⟩
  · rw [hnames, h.names, List.map_append, List.map_singleton, eraseDups_append_of_not_mem hnew]
  · intro q hq
    rw [hadd] at hq
    rcases List.mem_append.mp hq with hp | hq
    · rw [filter_append_other (hother q hp)]
      exact h.services q hp
    · obtain rfl := List.mem_singleton.mp hq
      have hempty : gs.filter (·.placement = g.placement) = [] := by
        simpa [List.filter_eq_nil_iff] using hnone
      rw [filter_append_own rfl, hempty]
      exact .cons hs .nil
  · intro q hq
    rw [hadd] at hq
    rcases List.mem_append.mp hq with hp | hq
    · exact h.requirements_append hp
    · obtain rfl := List.mem_singleton.mp hq
      have hempty : gs.find? (·.placement = g.placement) = none := by
        simpa [List.find?_eq_none] using hnone
      rw [List.find?_append, hempty]
      simp

/-- **One more group is put in its part**, and nothing else changes. -/
theorem add (h : IsPartition gs ps) (hs : ProviderService.ofGroup g = .ok s) :
    IsPartition (gs ++ [g]) (addService g s ps) := by
  by_cases hmem : g.placement ∈ ps.map ProviderGroup.name
  · exact h.add_of_mem hs hmem
  · exact h.add_of_not_mem hs hmem

/-- A part has the requirements of **one of its groups**. -/
theorem exists_requirements (h : IsPartition gs ps) {p : ProviderGroup} (hp : p ∈ ps) :
    ∃ g ∈ gs, g.placement = p.name ∧ p.requirements = g.requirements := by
  obtain ⟨g, hg, hreq⟩ := Option.map_eq_some_iff.mp (h.requirements p hp)
  exact ⟨g, List.mem_of_find?_eq_some hg, by simpa using List.find?_some hg, hreq.symm⟩

end IsPartition

/-! ### Every manifest is one -/

namespace ProviderManifest

variable {version : Option String} {m : ProviderManifest}

theorem build_eq_ok_iff :
    build version gs = .ok m ↔ m.version = version ∧
      gs.foldlM (fun ps g => do return addService g (← ProviderService.ofGroup g) ps) [] =
        .ok m.groups := by
  rw [build, bind_eq_ok_iff]
  constructor
  · rintro ⟨ps, hps, h⟩
    obtain rfl := Except.ok.inj h
    exact ⟨rfl, hps⟩
  · rintro ⟨rfl, hps⟩
    exact ⟨m.groups, hps, rfl⟩

/-- **A manifest is a partition of its groups.** -/
theorem isPartition_of_build (h : build version gs = .ok m) : IsPartition gs m.groups := by
  refine of_foldlM_eq_ok ?_ isPartition_nil (build_eq_ok_iff.mp h).2
  intro done ps g qs hps hstep
  obtain ⟨s, hs, hqs⟩ := bind_eq_ok_iff.mp hstep
  obtain rfl := Except.ok.inj hqs
  exact hps.add hs

/-- **There is a manifest** exactly when the thousandths of a core of each group can be written. -/
theorem exists_build_iff :
    (∃ m, build version gs = .ok m) ↔ ∀ g ∈ gs, ∃ n, g.millicores = .ok n := by
  rw [← exists_foldlM_eq_ok_iff (f := fun ps g => do
    return addService g (← ProviderService.ofGroup g) ps) (b := [])]
  · constructor
    · rintro ⟨m, hm⟩
      exact ⟨m.groups, (build_eq_ok_iff.mp hm).2⟩
    · rintro ⟨ps, hps⟩
      exact ⟨⟨version, ps⟩, build_eq_ok_iff.mpr ⟨rfl, hps⟩⟩
  · intro ps g
    constructor
    · rintro ⟨qs, hqs⟩
      obtain ⟨s, hs, -⟩ := bind_eq_ok_iff.mp hqs
      obtain ⟨n, hn, -⟩ := bind_eq_ok_iff.mp hs
      exact ⟨n, hn⟩
    · rintro ⟨n, hn⟩
      rw [ProviderService.ofGroup, hn]
      exact ⟨_, rfl⟩

end ProviderManifest

/-! ### The groups of a document -/

variable {d : Document}

/-- The groups that a document is compiled to **require what their placement declares**. -/
theorem requirements_of_compile (h : d.compile = .ok gs) (hg : g ∈ gs) :
    ∃ q, d.placementProfiles.get? g.placement = some q ∧ g.requirements = resolveRequirements q := by
  obtain ⟨pair, -, hpair⟩ := exists_of_mem_forall₂ (Document.compile_eq_ok_iff.mp h) hg
  have hyields := yields_of_resolve hpair
  obtain ⟨q, -, -, hq, hrequirements, -⟩ := hyields.price
  exact ⟨q, hyields.placement ▸ hq, hrequirements⟩

/-- The cores of these groups were found to be whole thousandths, so that their thousandths **can
be written**. -/
theorem exists_millicores_of_compile (h : d.compile = .ok gs) (hg : g ∈ gs) :
    ∃ n, g.millicores = .ok n := by
  obtain ⟨pair, -, hpair⟩ := exists_of_mem_forall₂ (Document.compile_eq_ok_iff.mp h) hg
  obtain ⟨c, hcpu, hwhole⟩ := isWhole_of_resolve hpair
  obtain ⟨m, hm, -⟩ := bind_eq_ok_iff.mp hwhole
  have hmul : (ExtendedDecimal.finite c).mul 1000 = ExtendedDecimal.finite <$> c.mul 1000 := rfl
  refine ⟨m.truncate, ?_⟩
  rw [Group.millicores, Cores.millicores, hcpu, hmul, mapError_eq_ok_iff.mp hm]
  rfl

/-- A group whose cores are a **number**, and not beyond all numbers when they are written in
thousandths. -/
def Group.HasThousandths (g : Group) : Prop :=
  ∃ c, g.resources.cpu = .finite c ∧ c.magnitude * 1000 <
    10 ^ (Decimal.maxExponent + 1) - 10 ^ (Decimal.maxExponent + 1 - Decimal.precision) / 2

namespace ProviderManifest

/-- **The manifest loses nothing**: it exists whenever the thousandths of every group can be
written, it is a partition of the groups by placement, and each part of the manifest of a document
requires what its placement declares, as all of its groups do. -/
theorem build_partitions (version : Option String) (gs : List Group) :
    ((∃ m, build version gs = .ok m) ↔ ∀ g ∈ gs, g.HasThousandths) ∧
      (∀ m, build version gs = .ok m → m.version = version ∧ IsPartition gs m.groups) ∧
      ∀ d : Document, d.compile = .ok gs → ∃ m, build version gs = .ok m ∧
        ∀ p ∈ m.groups, ∃ q, d.placementProfiles.get? p.name = some q ∧
          p.requirements = resolveRequirements q ∧
          ∀ g ∈ gs, g.placement = p.name → g.requirements = p.requirements := by
  refine ⟨?_, fun m hm => ⟨(build_eq_ok_iff.mp hm).1, isPartition_of_build hm⟩, fun d hd => ?_⟩
  · rw [exists_build_iff]
    exact forall₂_congr fun g _ => Cores.exists_millicores_iff
  · obtain ⟨m, hm⟩ := exists_build_iff.mpr fun g hg => exists_millicores_of_compile hd hg
    refine ⟨m, hm, fun p hp => ?_⟩
    obtain ⟨first, hfirst, hname, hrequirements⟩ :=
      (isPartition_of_build hm).exists_requirements hp
    obtain ⟨q, hq, hdeclared⟩ := requirements_of_compile hd hfirst
    rw [hname] at hq
    refine ⟨q, hq, hrequirements.trans hdeclared, fun g hg hplacement => ?_⟩
    obtain ⟨q', hq', hdeclared'⟩ := requirements_of_compile hd hg
    -- the placement is declared once
    obtain rfl : q = q' := Option.some.inj (hq.symm.trans (hplacement ▸ hq'))
    rw [hdeclared', hrequirements, hdeclared]

/-- The manifest of a document with one service. -/
theorem exists_build_oneService :
    ∃ gs m, (Document.oneService (.ofTexts "0.5" "512Mi" ["1Gi"]) "uakt" "100").compile = .ok gs ∧
      build (some "2.0") gs = .ok m ∧ IsPartition gs m.groups ∧
      ∀ p ∈ m.groups, ∀ g ∈ gs, g.placement = p.name → g.requirements = p.requirements := by
  have hcompiles : (Document.oneService (.ofTexts "0.5" "512Mi" ["1Gi"])
      "uakt" "100").compile.toOption.isSome = true := by decide +kernel
  obtain ⟨gs, hgs⟩ := Option.isSome_iff_exists.mp hcompiles
  have hgs := toOption_eq_some_iff.mp hgs
  obtain ⟨-, hpartition, hdocument⟩ := build_partitions (some "2.0") gs
  obtain ⟨m, hm, hparts⟩ := hdocument _ hgs
  refine ⟨gs, m, hgs, hm, (hpartition m hm).2, fun p hp => ?_⟩
  obtain ⟨q, -, -, hsame⟩ := hparts p hp
  exact hsame

/-- A group that was put together by hand, with cores that are **no number**. -/
def withoutNumber : Group :=
  { name := "a", placement := "p", image := none,
    resources := { cpu := .nan false false 0, memory := 1, storage := [] },
    count := .int 1, price := { denom := "u", amount := .text "1" },
    requirements := { attributes := [], allOf := [], anyOf := [] }, expose := [] }

/-- There is **no manifest** of such a group. -/
theorem not_exists_build_withoutNumber : ¬ ∃ m, build (some "2.0") [withoutNumber] = .ok m := by
  rintro ⟨m, hm⟩
  cases hm

end ProviderManifest

end StackManifest
