import StackManifest.Proofs.Compilation.Groups

/-!
# What a compilation has given

A group that a compilation has given was taken from the document, whether the document is sound or
not: `StackManifest.DeployedPair.Yields` names the part that each field of the group comes from, and
`StackManifest.yields_of_resolve` reads it off the group. The cores of such a group have been found
to be whole thousandths on the way (`StackManifest.isWhole_of_resolve`).
-/

namespace StackManifest

open StackManifest.Number

/-! ### A single quantity -/

theorem orStop_eq_ok_iff {α : Type} {x : Except Fault α} {a : α} :
    orStop x = .ok a ↔ x = .ok a :=
  mapError_eq_ok_iff

/-- What is left of a step that **throws unless** something holds. -/
theorem ite_throw_eq_ok_iff {α β : Type} {p : Prop} [Decidable p] {e : Stop}
    {f : β → Except Stop α} {y : Except Stop α} {a : α} :
    (if p then (throw e : Except Stop β) >>= f else y) = .ok a ↔ ¬p ∧ y = .ok a := by
  by_cases hp : p
  · rw [if_pos hp]
    exact iff_of_false (fun h => nomatch h) fun h => h.1 hp
  · rw [if_neg hp]
    exact (and_iff_right hp).symm

/-- A quantity of a text that **may be missing**, when a missing one counts as another value. -/
theorem exists_of_getD_eq_ok {α : Type} {read : String → Except Fault α} {o : Option String}
    {a b : α} (h : (o.map read).getD (.ok a) = .ok b) (hne : b ≠ a) :
    ∃ s, o = some s ∧ read s = .ok b := by
  cases o with
  | none => exact absurd (Except.ok.inj h).symm hne
  | some s => exact ⟨s, rfl, h⟩

/-! ### Resources -/

/-- Cores are accepted when they are **positive and whole thousandths**. -/
theorem coresAccepted_eq_true_iff {c : Decimal} :
    coresAccepted (some c) = .ok true ↔
      c.isPositive = true ∧ Cores.isWholeMillicores c = .ok true := by
  by_cases hpos : c.isPositive = true
  · rw [coresAccepted, if_pos hpos]
    exact (and_iff_right hpos).symm
  · rw [coresAccepted, if_neg hpos]
    exact iff_of_false (by simp) fun h => hpos h.1

theorem measuredBy_of_resolveVolumes {refusal : Refusal} {vs : List StorageVolume}
    {ws : List Volume} (h : resolveVolumes refusal vs = .ok ws) :
    List.Forall₂ StorageVolume.MeasuredBy vs ws := by
  induction vs generalizing ws with
  | nil =>
    cases h
    exact .nil
  | cons v vs ih =>
    obtain ⟨n, hn, h⟩ := bind_eq_ok_iff.mp h
    obtain ⟨hne, h⟩ := ite_throw_eq_ok_iff.mp h
    obtain ⟨ws', hws, h⟩ := bind_eq_ok_iff.mp h
    cases h
    obtain ⟨s, hs, hread⟩ := exists_of_getD_eq_ok (orStop_eq_ok_iff.mp hn) hne
    exact .cons ⟨rfl, s, n, hs, hread, hne, rfl⟩ (ih hws)

/-- **Resources that were resolved** are those of the profile, with the quantities that they
write. -/
theorem measuredBy_of_resolveResources {service name : String} {p : ComputeProfile}
    {g : GroupResources} (h : resolveResources service name p = .ok g) :
    ∃ r c, p.resources = some r ∧ r.MeasuredBy g ∧ g.cpu = .finite c ∧
      Cores.isWholeMillicores c = .ok true := by
  rw [resolveResources] at h
  split at h
  · rename_i cpu memory storage extra hr
    obtain ⟨cores, hcores, h⟩ := bind_eq_ok_iff.mp h
    obtain ⟨bytes, hbytes, h⟩ := bind_eq_ok_iff.mp h
    obtain ⟨accepted, haccepted, h⟩ := bind_eq_ok_iff.mp h
    cases cores with
    | none => cases h
    | some c =>
      obtain ⟨hgood, h⟩ := ite_throw_eq_ok_iff.mp h
      obtain ⟨ws, hws, h⟩ := bind_eq_ok_iff.mp h
      cases h
      obtain ⟨haccept, hne⟩ := not_or.mp hgood
      obtain ⟨units, hunits, hread⟩ := exists_of_getD_eq_ok (orStop_eq_ok_iff.mp hcores) (by simp)
      obtain ⟨size, hsize, hsizeRead⟩ := exists_of_getD_eq_ok (orStop_eq_ok_iff.mp hbytes) hne
      obtain ⟨hpos, hwhole⟩ :=
        coresAccepted_eq_true_iff.mp ((orStop_eq_ok_iff.mp haccepted).trans (by simpa using haccept))
      refine ⟨_, c, hr, ⟨⟨units, c, hunits, hread, hpos, rfl⟩,
        ⟨size, bytes, hsize, hsizeRead, hne, rfl⟩, measuredBy_of_resolveVolumes hws⟩, rfl, hwhole⟩
  · cases h

/-! ### Prices -/

/-- **A price that was resolved** is the price of the service, and complete. -/
theorem get?_of_resolvePrice {service placement denom amount : String} {q : PlacementProfile}
    (h : resolvePrice service placement q = .ok (denom, amount)) :
    ∃ p, q.pricing.get? service = some p ∧ p.denom = some denom ∧ p.amount = some amount := by
  rw [resolvePrice] at h
  split at h
  · rename_i d a extra hget
    obtain ⟨-, h⟩ := ite_throw_eq_ok_iff.mp h
    obtain ⟨-, h⟩ := ite_throw_eq_ok_iff.mp h
    cases h
    exact ⟨_, hget, rfl, rfl⟩
  · cases h

/-! ### Pairs and their groups -/

variable {d : Document} {p : DeployedPair} {g : Group}

/-- **What a resolved pair has given**: its group, with whole thousandths of cores. -/
theorem exists_of_resolve (h : resolve d p = .ok g) :
    p.Yields d g ∧ ∃ c, g.resources.cpu = .finite c ∧ Cores.isWholeMillicores c = .ok true := by
  rw [resolve] at h
  split at h
  · rename_i s q e hs hq he
    obtain ⟨⟨denom, amount⟩, hprice, h⟩ := bind_eq_ok_iff.mp h
    obtain ⟨r, hr, h⟩ := bind_eq_ok_iff.mp h
    cases h
    obtain ⟨n, hn, hq⟩ := Option.bind_eq_some_iff.mp hq
    obtain ⟨c, hc, hdenom, hamount⟩ := get?_of_resolvePrice hprice
    obtain ⟨x, cores, hx, hmeasured, hcpu, hwhole⟩ := measuredBy_of_resolveResources hr
    exact ⟨⟨rfl, rfl, rfl, ⟨s, hs, rfl, rfl⟩,
      ⟨n, q, x, (given?_eq_some_iff.mp hn).1, hq, hx, hmeasured⟩,
      ⟨e, c, amount, he, rfl, hc, hdenom, hamount, rfl⟩⟩, cores, hcpu, hwhole⟩
  · cases h

theorem yields_of_resolve (h : resolve d p = .ok g) : p.Yields d g := (exists_of_resolve h).1

/-- The cores of a group are **whole thousandths**. -/
theorem isWhole_of_resolve (h : resolve d p = .ok g) :
    ∃ c, g.resources.cpu = .finite c ∧ Cores.isWholeMillicores c = .ok true :=
  (exists_of_resolve h).2

/-- **A compilation has given the groups of its pairs**, in order. -/
theorem Document.compile_eq_ok_iff {gs : List Group} :
    d.compile = .ok gs ↔ List.Forall₂ (fun p g => resolve d p = .ok g) d.pairs gs :=
  mapM_eq_ok_iff

end StackManifest
