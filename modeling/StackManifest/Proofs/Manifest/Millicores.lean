import StackManifest.Proofs.Manifest.Partition
import StackManifest.Proofs.Quantity.Millicores

/-!
# Thousandths of a core in groups and in the manifest

A compute profile whose processors pass the check writes an exact number of cores, and every
group that is compiled with this profile, and every service of the manifest that comes of such a
group, has the thousandths that are counted for it: one number for all of them, which
`StackManifest.Cores.Counts` describes. This is `StackManifest.Document.exists_counts_of_clean`.

The check promises that thousandths are never cut off. They are not, for numbers of 28 digits; of
longer ones the check sees what is left after rounding
(`StackManifest.Document.not_whole_of_clean`).
-/

namespace StackManifest

open StackManifest.Number

variable {d : Document} {g : Group} {gs : List Group} {name : String} {c : Decimal}

/-- The **service of a group** stands in the part of its placement. -/
theorem ProviderManifest.exists_service_of_build {version : Option String} {m : ProviderManifest}
    (h : build version gs = .ok m) (hg : g ∈ gs) :
    ∃ part ∈ m.groups, part.name = g.placement ∧
      ∃ t ∈ part.services, ProviderService.ofGroup g = .ok t := by
  have hpartition := isPartition_of_build h
  obtain ⟨part, hpart, hname⟩ := List.mem_map.mp
    (hpartition.mem_names_iff.mpr (List.mem_map_of_mem (f := Group.placement) hg))
  have hown : g ∈ gs.filter (·.placement = part.name) :=
    List.mem_filter.mpr ⟨hg, by simpa using hname.symm⟩
  obtain ⟨t, ht, hof⟩ := exists_of_mem_forall₂ (hpartition.services part hpart).flip hown
  exact ⟨part, hpart, hname, t, ht, hof⟩

/-- A group **has the cores of its profile**, if these can be read. -/
theorem cpu_of_yields {pair : DeployedPair} {p : ComputeProfile} {r : Resources} {s : String}
    (h : pair.Yields d g) (hname : pair.entry.profile = some name)
    (hp : d.computeProfiles.get? name = some p) (hr : p.resources = some r)
    (hs : r.cpu.bind (·.units) = some s) (hread : Cores.read s = .ok (some c)) :
    g.resources.cpu = .finite c := by
  obtain ⟨n, q, r', hn, hq, hr', hmeasured⟩ := h.resources
  obtain rfl : name = n := Option.some.inj (hname.symm.trans hn)
  obtain rfl : p = q := Option.some.inj (hp.symm.trans hq)
  obtain rfl : r = r' := Option.some.inj (hr.symm.trans hr')
  obtain ⟨s', c', hs', hread', -, hcpu⟩ := hmeasured.cpu
  obtain rfl : s = s' := Option.some.inj (hs.symm.trans hs')
  obtain rfl : c = c' := Option.some.inj (Except.ok.inj (hread.symm.trans hread'))
  exact hcpu

namespace Document

/-- **The thousandths of a profile.** The processors of a profile that pass the check write an exact
number of cores, and there is one whole number of thousandths that is counted for it, in every
group of the profile and in the manifest. -/
theorem exists_counts_of_clean {p : ComputeProfile} {r : Resources}
    (hp : d.computeProfiles.get? name = some p) (hr : p.resources = some r)
    (hclean : (cpuFindings name r).IsClean) :
    ∃ s q m, r.cpu.bind (·.units) = some s ∧ Cores.written? s = some q ∧ Cores.Counts m q ∧
      ∀ gs, d.compile = .ok gs → ∀ x ∈ d.pairs.zip gs, x.1.entry.profile = some name →
        x.2.millicores = .ok m ∧ ∀ version, ∃ manifest,
          ProviderManifest.build version gs = .ok manifest ∧
          ∃ part ∈ manifest.groups, part.name = x.2.placement ∧
            ∃ t ∈ part.services, ProviderService.ofGroup x.2 = .ok t ∧ t.millicores = m := by
  obtain ⟨s, c, hs, hread, hpos, hwhole⟩ := isClean_cpuFindings_iff.mp hclean
  obtain ⟨q, m, hq, hm, hcounts⟩ := Cores.exists_counts hread hpos hwhole
  refine ⟨s, q, m, hs, hq, hcounts, ?_⟩
  rintro gs hgs ⟨pair, g⟩ hx hname
  have hresolve := (List.forall₂_iff_zip.mp (compile_eq_ok_iff.mp hgs)).2 hx
  have hg : g ∈ gs := (List.of_mem_zip hx).2
  have hmillicores : g.millicores = .ok m := by
    rw [Group.millicores, cpu_of_yields (yields_of_resolve hresolve) hname hp hr hs hread]
    exact hm
  refine ⟨hmillicores, fun version => ?_⟩
  obtain ⟨manifest, hbuild⟩ := ProviderManifest.exists_build_iff.mpr fun g hg =>
    exists_millicores_of_compile hgs hg
  obtain ⟨part, hpart, hplacement, t, ht, hof⟩ :=
    ProviderManifest.exists_service_of_build hbuild hg
  refine ⟨manifest, hbuild, part, hpart, hplacement, t, ht, hof, ?_⟩
  rw [ProviderService.ofGroup, hmillicores] at hof
  obtain rfl := Except.ok.inj hof
  rfl

/-- Half a core of one service is counted as 500 thousandths. -/
theorem exists_counts_half :
    (cpuFindings "small" (.ofTexts "0.5" "512Mi" [])).IsClean ∧
      ∃ g, (oneService (.ofTexts "0.5" "512Mi" []) "uakt" "100").compile = .ok [g] ∧
        g.millicores = .ok 500 := by
  have hnone : cpuFindings "small" (.ofTexts "0.5" "512Mi" []) = .none := by decide +kernel
  have hclean : (cpuFindings "small" (.ofTexts "0.5" "512Mi" [])).IsClean :=
    hnone ▸ Findings.isClean_none
  have hvalid : (oneService (.ofTexts "0.5" "512Mi" []) "uakt" "100").validate = .ok ⟨[], []⟩ :=
    toOption_eq_some_iff.mp (by decide +kernel)
  obtain ⟨gs, hgs, hyields⟩ :=
    (exists_validate_isValid_iff_isSound.mp ⟨_, hvalid, rfl⟩).exists_compile
  change List.Forall₂ _ [_] gs at hyields
  obtain ⟨g, _, -, hnil, rfl⟩ := List.forall₂_cons_left_iff.mp hyields
  obtain rfl := List.forall₂_nil_left_iff.mp hnil
  obtain ⟨s, q, m, hs, hq, hcounts, hgroups⟩ :=
    exists_counts_of_clean (d := oneService (.ofTexts "0.5" "512Mi" []) "uakt" "100") rfl rfl hclean
  obtain rfl := Option.some.inj hs
  have hm : (m : ℚ) = 500 := by
    have hhalf : 1000 * q = (500 : ℤ) := by
      rw [← show (5 : ℚ) * 10 ^ (-1 : ℤ) = q from Option.some.inj hq]
      norm_num
    rw [hcounts.exact_iff.mpr (hcounts.whole_iff.mp ⟨500, hhalf.symm⟩), hhalf]
    norm_num
  obtain rfl : m = 500 := by exact_mod_cast hm
  exact ⟨hclean, g, hgs, (hgroups _ hgs (_, g) (List.mem_singleton_self _) rfl).1⟩

/-- A text of 29 digits after the point whose thousandths are **found to be whole**, and are not. -/
theorem not_whole_of_clean :
    (cpuFindings "small" (.ofTexts "1.00000000000000000000000000001" "512Mi" [])).IsClean ∧
      ∃ q, Cores.written? "1.00000000000000000000000000001" = some q ∧
        ¬ ∃ k : ℤ, (k : ℚ) = 1000 * q := by
  have hnone : cpuFindings "small" (.ofTexts "1.00000000000000000000000000001" "512Mi" []) =
      .none := by decide +kernel
  refine ⟨hnone ▸ Findings.isClean_none, 100000000000000000000000000001 * 10 ^ (-29 : ℤ), rfl, ?_⟩
  rintro ⟨k, hk⟩
  have hwhole : k * 10 ^ 26 = 100000000000000000000000000001 := by
    have : (k : ℚ) * 10 ^ 26 = 100000000000000000000000000001 := by
      rw [hk]
      norm_num
    exact_mod_cast this
  omega

end Document

end StackManifest
