import StackManifest.Manifest.Compile
import StackManifest.Proofs.Checks.References
import StackManifest.Proofs.Traversal

/-!
# What a sound document is compiled to

Compiling looks everything up again that the checks have looked at, in its own order and with
its own tests. On a sound document none of these tests fails
(`StackManifest.Document.IsSound.exists_compile`), so a group comes of every deployed pair.

Which group that is, is said by `StackManifest.DeployedPair.Yields`: a relation between a pair
and a group that names, field by field, the part of the document that the field is taken from.
What is said about the groups of a document later is read off this relation, and never off the
compilation.
-/

namespace StackManifest

open StackManifest.Number

/-! ### Resources -/

/-- A volume with the **bytes** that its size writes. -/
structure StorageVolume.MeasuredBy (v : StorageVolume) (w : Volume) : Prop where
  name : w.name = v.name
  size : ∃ s n, v.size = some s ∧ Size.bytes s = .ok n ∧ n ≠ 0 ∧ w.size = n

/-- Resources with the **quantities** that they write. -/
structure Resources.MeasuredBy (r : Resources) (g : GroupResources) : Prop where
  cpu : ∃ s c, r.cpu.bind (·.units) = some s ∧ Cores.read s = .ok (some c) ∧
    c.isPositive = true ∧ g.cpu = .finite c
  memory : ∃ s n, r.memory.bind (·.size) = some s ∧ Size.bytes s = .ok n ∧ n ≠ 0 ∧ g.memory = n
  storage : List.Forall₂ StorageVolume.MeasuredBy r.storage g.storage

theorem exists_resolveVolumes (refusal : Refusal) {vs : List StorageVolume}
    (h : ∀ v ∈ vs, WritesBytes v.size) :
    ∃ ws, resolveVolumes refusal vs = .ok ws ∧ List.Forall₂ StorageVolume.MeasuredBy vs ws := by
  induction vs with
  | nil => exact ⟨[], rfl, .nil⟩
  | cons v vs ih =>
    obtain ⟨s, n, hs, hn, hne⟩ := h v (List.mem_cons_self ..)
    obtain ⟨ws, hws, hrel⟩ := ih fun w hw => h w (List.mem_cons_of_mem _ hw)
    refine ⟨⟨n, v.name⟩ :: ws, ?_, .cons ⟨rfl, s, n, hs, hn, hne, rfl⟩ hrel⟩
    simp only [resolveVolumes, hs, Option.map_some, Option.getD_some, hn, orStop,
      Except.mapError, ok_bind, hne, if_false, hws]
    rfl

/-- **Sound resources can be resolved.** -/
theorem exists_resolveResources (service name : String) {p : ComputeProfile} {r : Resources}
    (hp : p.resources = some r) (h : r.IsSound) :
    ∃ g, resolveResources service name p = .ok g ∧ r.MeasuredBy g := by
  obtain ⟨⟨units, c, hu, hc, hpos, hwhole⟩, ⟨size, n, hsize, hn, hne⟩, hstorage⟩ := h
  obtain ⟨ws, hws, hrel⟩ := exists_resolveVolumes (.badResources service name) hstorage
  obtain ⟨cpu, memory, storage, extra⟩ := r
  obtain ⟨cpu, rfl, hcpu⟩ := Option.bind_eq_some_iff.mp hu
  obtain ⟨memory, rfl, hmemory⟩ := Option.bind_eq_some_iff.mp hsize
  refine ⟨⟨.finite c, n, ws⟩, ?_, ⟨units, c, hu, hc, hpos, rfl⟩, ⟨size, n, hsize, hn, hne, rfl⟩,
    hrel⟩
  simp only [resolveResources, hp, hcpu, hmemory, Option.map_some, Option.getD_some, hc, hn,
    orStop, Except.mapError, ok_bind, coresAccepted, hpos, if_true, hwhole, hne, hws]
  rfl

/-! ### Prices -/

theorem read?_ne_empty {s : String} (h : (PriceAmount.read? s).isSome = true) : s ≠ "" := by
  rintro rfl
  rw [read?_empty] at h
  cases h

/-- **A sound price is complete.** -/
theorem resolvePrice_eq_ok {service placement denom amount : String} {q : PlacementProfile}
    {p : Price} (hget : q.pricing.get? service = some p) (hd : p.denom = some denom)
    (hdne : denom ≠ "") (ha : p.amount = some amount)
    (hread : (PriceAmount.read? amount).isSome = true) :
    resolvePrice service placement q = .ok (denom, amount) := by
  obtain ⟨d, a, extra⟩ := p
  obtain rfl : d = some denom := hd
  obtain rfl : a = some amount := ha
  have hnone : (PriceAmount.read? amount).isNone = false := by
    rw [Option.isNone_eq_false_iff]
    exact hread
  simp only [resolvePrice, hget, hdne, read?_ne_empty hread, or_self, if_false, hnone]
  rfl

/-! ### Pairs and their groups -/

/-- **What a deployed pair is compiled to**: each field of the group, with the part of the
document that it is taken from. -/
structure DeployedPair.Yields (d : Document) (p : DeployedPair) (g : Group) : Prop where
  name : g.name = p.service
  placement : g.placement = p.placement
  count : g.count = .ofInt? p.entry.count
  service : ∃ s, d.services.get? p.service = some s ∧ g.image = s.image ∧
    g.expose = s.expose.map resolvePort
  resources : ∃ n q r, p.entry.profile = some n ∧ d.computeProfiles.get? n = some q ∧
    q.resources = some r ∧ r.MeasuredBy g.resources
  price : ∃ q c a, d.placementProfiles.get? p.placement = some q ∧
    g.requirements = resolveRequirements q ∧ q.pricing.get? p.service = some c ∧
    c.denom = some g.price.denom ∧ c.amount = some a ∧ g.price.amount = .text a

namespace Document

variable {d : Document}

/-- **Every pair of a sound document yields a group.** -/
theorem IsSound.exists_resolve (h : d.IsSound) {p : DeployedPair} (hp : p ∈ d.pairs) :
    ∃ g, resolve d p = .ok g ∧ p.Yields d g := by
  have hr := h.references p hp
  obtain ⟨s, hs⟩ := Table.contains_eq_true_iff.mp hr.service
  obtain ⟨q, hq, hprice⟩ := hr.price
  obtain ⟨c, hc⟩ := Table.contains_eq_true_iff.mp hprice
  obtain ⟨n, hn, hne⟩ := (h.pairs p hp).profile
  obtain ⟨cp, hcp⟩ := Table.contains_eq_true_iff.mp (hr.profile n hn hne)
  obtain ⟨r, hres, hsound⟩ := h.compute _ (Table.get?_eq_some_iff.mp hcp)
  obtain ⟨-, ⟨denom, hd, hdne⟩, amount, ha, hread⟩ :=
    h.placement _ (Table.get?_eq_some_iff.mp hq) _ (Table.get?_eq_some_iff.mp hc)
  obtain ⟨g, hg, hmeasured⟩ := exists_resolveResources p.service n hres hsound
  -- the group, and where each of its fields is taken from
  refine ⟨⟨p.service, p.placement, s.image, g, .ofInt? p.entry.count, ⟨denom, .text amount⟩,
    resolveRequirements q, s.expose.map resolvePort⟩, ?_, rfl, rfl, rfl, ⟨s, hs, rfl, rfl⟩,
    ⟨n, cp, r, hn, hcp, hres, hmeasured⟩, ⟨q, c, amount, hq, rfl, hc, hd, ha, rfl⟩⟩
  have hgiven : given? p.entry.profile = some n := given?_eq_some_iff.mpr ⟨hn, hne⟩
  simp only [resolve, hgiven, Option.bind_some, hs, hcp, hq, resolvePrice_eq_ok hc hd hdne ha hread,
    ok_bind, Option.getD_some, hg]
  rfl

/-- **A sound document can be compiled**, with a group for every deployed pair, in order. -/
theorem IsSound.exists_compile (h : d.IsSound) :
    ∃ gs, d.compile = .ok gs ∧ List.Forall₂ (DeployedPair.Yields d) d.pairs gs :=
  exists_mapM_eq_ok fun _ hp => h.exists_resolve hp

end Document

end StackManifest
