import StackManifest.Manifest.Estimate
import StackManifest.Proofs.Manifest.Partition

/-!
# The manifest and the estimate agree

The manifest brings the services together by placement, the estimate adds them up one after the
other. That both speak of the same services, however the placements are mixed, is
`StackManifest.ProviderManifest.totals_eq_estimate`: the memory and the storage of all replicas of
the services in the manifest are the totals of the estimate, and the services are those that the
estimate lists.

Either side is brought to the list of the groups: the services of a manifest are, **up to their
order**, the services of the groups (`StackManifest.ProviderManifest.exists_placed_of_build`), and
the totals of an estimate are sums over the groups (`StackManifest.Estimate.sums_of_ofGroups`).
-/

namespace StackManifest

variable {g : Group} {gs : List Group}

/-! ### The services of a manifest -/

/-- A service **placed** for a group. -/
def Group.Places (g : Group) (x : String × ProviderService) : Prop :=
  x.1 = g.placement ∧ ProviderService.ofGroup g = .ok x.2

/-- **The services of a manifest are those of its groups**, up to their order. -/
theorem ProviderManifest.exists_placed_of_build {version : Option String} {m : ProviderManifest}
    (h : build version gs = .ok m) :
    ∃ placed, List.Forall₂ Group.Places gs placed ∧ (placedServices m.groups).Perm placed := by
  refine of_foldlM_eq_ok (I := fun done ps =>
    ∃ placed, List.Forall₂ Group.Places done placed ∧ (placedServices ps).Perm placed) ?_
    ⟨[], .nil, .refl _⟩ (build_eq_ok_iff.mp h).2
  rintro done ps g qs ⟨placed, hplaced, hperm⟩ hstep
  obtain ⟨s, hs, hqs⟩ := bind_eq_ok_iff.mp hstep
  obtain rfl := Except.ok.inj hqs
  exact ⟨placed ++ [(g.placement, s)], List.rel_append hplaced (.cons ⟨rfl, hs⟩ .nil),
    (placedServices_addService g s ps).trans (hperm.append_right _)⟩

/-! ### The totals of an estimate -/

/-- How many **replicas** a value asks for. A value that is no whole number asks for none. -/
def replicaCount (count : Value) : Int := count.count?.getD 0

/-- The entry of a group in the **list of services** of an estimate or of a manifest: the name,
the placement, how many there are, and in which denomination they are paid. -/
structure ListedService where
  name : String
  placement : String
  count : Value
  denom : String

def Group.listed (g : Group) : ListedService := ⟨g.name, g.placement, g.count, g.price.denom⟩

def GroupEstimate.listed (e : GroupEstimate) : ListedService :=
  ⟨e.service, e.placement, e.count, e.denom⟩

def ProviderService.listed (placement : String) (s : ProviderService) : ListedService :=
  ⟨s.name, placement, s.count, s.price.denom⟩

namespace Estimate

/-- The totals of an estimate as **sums over the groups**. -/
structure Sums (gs : List Group) (e : Estimate) : Prop where
  memory : e.memory = (gs.map fun g => replicaCount g.count * g.resources.memory).sum
  storage : e.storage = (gs.map fun g => replicaCount g.count * g.totalStorage).sum
  breakdown : e.breakdown.map GroupEstimate.listed = gs.map Group.listed

/-- **One more group adds its share** to every total. -/
theorem Sums.add {e e' : Estimate} (he : Sums gs e) (h : e.add g = .ok e') :
    Sums (gs ++ [g]) e' := by
  obtain ⟨cost, -, h⟩ := bind_eq_ok_iff.mp h
  obtain ⟨n, hn, h⟩ := bind_eq_ok_iff.mp h
  obtain ⟨cpu, -, h⟩ := bind_eq_ok_iff.mp h
  obtain ⟨cpuSum, -, h⟩ := bind_eq_ok_iff.mp h
  obtain ⟨totalCost, -, h⟩ := bind_eq_ok_iff.mp h
  obtain ⟨costSum, -, h⟩ := bind_eq_ok_iff.mp h
  obtain rfl := Except.ok.inj h
  have hcount : replicaCount g.count = n := by
    rw [replicas] at hn
    split at hn
    · rename_i k hk
      rw [replicaCount, hk, Option.getD_some]
      exact Except.ok.inj hn
    · cases hn
  constructor
  · rw [List.map_append, List.sum_append, List.map_singleton, List.sum_singleton, hcount,
      ← he.memory, Int.mul_comm n]
  · rw [List.map_append, List.sum_append, List.map_singleton, List.sum_singleton, hcount,
      ← he.storage, Int.mul_comm n]
  · rw [List.map_append, List.map_append, he.breakdown]
    rfl

/-- **The totals of an estimate are sums over its groups.** -/
theorem sums_of_ofGroups {e : Estimate} (h : ofGroups gs = .ok e) : Sums gs e := by
  have hempty : Sums [] empty := ⟨rfl, rfl, rfl⟩
  exact of_foldlM_eq_ok Sums.add hempty h

end Estimate

/-! ### Both together -/

/-- **A placed service counts as its group**: it is listed as the group is, and needs what the group
needs. -/
theorem Group.Places.agrees {x : String × ProviderService} (h : g.Places x) :
    x.2.listed x.1 = g.listed ∧ x.2.count = g.count ∧ x.2.memory = g.resources.memory ∧
      (x.2.storage.map Prod.snd).sum = g.totalStorage := by
  obtain ⟨placement, s⟩ := x
  obtain ⟨rfl, hs⟩ := h
  obtain ⟨n, -, hs⟩ := bind_eq_ok_iff.mp hs
  obtain rfl := Except.ok.inj hs
  refine ⟨rfl, rfl, rfl, ?_⟩
  rw [List.map_map, totalStorage]
  rfl

namespace ProviderManifest

variable {version : Option String} {m : ProviderManifest} {e : Estimate}

/-- **The manifest and the estimate agree** on the memory and the storage of all replicas, and on
the services. -/
theorem totals_eq_estimate (hm : build version gs = .ok m) (he : Estimate.ofGroups gs = .ok e) :
    ((placedServices m.groups).map fun x => replicaCount x.2.count * x.2.memory).sum = e.memory ∧
      ((placedServices m.groups).map fun x =>
        replicaCount x.2.count * (x.2.storage.map Prod.snd).sum).sum = e.storage ∧
      ((placedServices m.groups).map fun x => x.2.listed x.1).Perm
        (e.breakdown.map GroupEstimate.listed) := by
  obtain ⟨placed, hplaced, hperm⟩ := exists_placed_of_build hm
  have hsums := Estimate.sums_of_ofGroups he
  refine ⟨?_, ?_, ?_⟩
  · rw [(hperm.map _).sum_eq, hsums.memory]
    refine congrArg List.sum (map_eq_map_of_forall₂ (fun g x h => ?_) hplaced).symm
    obtain ⟨-, hcount, hmemory, -⟩ := h.agrees
    rw [hcount, hmemory]
  · rw [(hperm.map _).sum_eq, hsums.storage]
    refine congrArg List.sum (map_eq_map_of_forall₂ (fun g x h => ?_) hplaced).symm
    obtain ⟨-, hcount, -, hstorage⟩ := h.agrees
    rw [hcount, hstorage]
  · rw [hsums.breakdown, map_eq_map_of_forall₂ (fun g x h => h.agrees.1.symm) hplaced]
    exact hperm.map _

/-- A group of two replicas, under a placement, with a volume. -/
def replicated (placement : String) : Group :=
  { name := "a", placement, image := none,
    resources := { cpu := 1, memory := 3, storage := [⟨5, none⟩] },
    count := .int 2, price := { denom := "u", amount := .text "1" },
    requirements := { attributes := [], allOf := [], anyOf := [] }, expose := [] }

/-- Three groups, the first and the last **under one placement**: they are one part of the manifest
and two lines of the estimate. -/
theorem totals_eq_estimate_replicated :
    ∃ m e, build (some "2.0") [replicated "p", replicated "q", replicated "p"] = .ok m ∧
      Estimate.ofGroups [replicated "p", replicated "q", replicated "p"] = .ok e ∧
      m.groups.length = 2 ∧ e.breakdown.length = 3 ∧
      ((placedServices m.groups).map fun x => replicaCount x.2.count * x.2.memory).sum = 18 := by
  have hbuilt : (build (some "2.0") [replicated "p", replicated "q",
      replicated "p"]).toOption.map (·.groups.length) = some 2 := by decide +kernel
  have hestimated : (Estimate.ofGroups [replicated "p", replicated "q",
      replicated "p"]).toOption.map (fun e => (e.breakdown.length, e.memory)) = some (3, 18) := by
    decide +kernel
  obtain ⟨m, hm, hparts⟩ := Option.map_eq_some_iff.mp hbuilt
  obtain ⟨e, he, hlines⟩ := Option.map_eq_some_iff.mp hestimated
  obtain ⟨hlength, hmemory⟩ := Prod.mk.inj hlines
  have hm := toOption_eq_some_iff.mp hm
  have he := toOption_eq_some_iff.mp he
  exact ⟨m, e, hm, he, hparts, hlength, (totals_eq_estimate hm he).1.trans hmemory⟩

end ProviderManifest

end StackManifest
