import StackManifest.Proofs.Checks.Findings
import StackManifest.Proofs.Tables

/-!
# Sound documents

A document is **sound** when it says everything that a deployment needs, in words and numbers
that can be read, and when everything that it refers to is defined. This is said here of each
part of a document by itself, without mention of any check.

The two checks decide it: `StackManifest.Document.exists_validate_isValid_iff_isSound` says that
a document has a report without errors **exactly when** it is sound. One direction is what a
user of the checks needs, to trust their silence; the other one keeps the definition honest,
since a document that it leaves out has an error reported.

Section by section, the structural check is clean when the section is sound by itself
(`StackManifest.isClean_serviceFindings_iff` and its companions), and the reference check is
silent when every deployed pair finds what it refers to
(`StackManifest.referenceFindings_eq_nil_iff`).
-/

namespace StackManifest

open StackManifest.Number

/-! ### What each part must say -/

/-- A port that is **given** and not zero, with no protocol or a known one, in any case. -/
structure ExposeRule.IsSound (r : ExposeRule) : Prop where
  port : ∃ n, r.port = some n ∧ n ≠ 0
  protocol : ∀ p, r.protocol = some p → p ≠ "" → Text.upper p = "TCP" ∨ Text.upper p = "UDP"

/-- A service with an **image** and sound ports. -/
structure Service.IsSound (s : Service) : Prop where
  image : ∃ i, s.image = some i ∧ i ≠ ""
  expose : ∀ r ∈ s.expose, r.IsSound

/-- A text that writes a **number of bytes** other than zero. -/
def WritesBytes (size : Option String) : Prop :=
  ∃ s n, size = some s ∧ Size.bytes s = .ok n ∧ n ≠ 0

/-- A text that writes a **number of cores** above zero, a whole number of thousandths. -/
def WritesCores (units : Option String) : Prop :=
  ∃ s c, units = some s ∧ Cores.read s = .ok (some c) ∧ c.isPositive = true ∧
    Cores.isWholeMillicores c = .ok true

/-- Resources with readable **quantities**, none of them zero. -/
structure Resources.IsSound (r : Resources) : Prop where
  cpu : WritesCores (r.cpu.bind (·.units))
  memory : WritesBytes (r.memory.bind (·.size))
  storage : ∀ v ∈ r.storage, WritesBytes v.size

/-- A compute profile with sound resources. -/
def ComputeProfile.IsSound (p : ComputeProfile) : Prop := ∃ r, p.resources = some r ∧ r.IsSound

/-- A price with a denomination and a readable **amount**. -/
structure Price.IsSound (p : Price) : Prop where
  denom : ∃ s, p.denom = some s ∧ s ≠ ""
  amount : ∃ s, p.amount = some s ∧ (PriceAmount.read? s).isSome = true

/-- A placement that prices **defined** services, with sound prices. -/
def PlacementProfile.IsSound (d : Document) (q : PlacementProfile) : Prop :=
  ∀ e ∈ q.pricing.toList, d.services.contains e.1 = true ∧ e.2.IsSound

/-- A deployed pair with a profile and a positive number of replicas. -/
structure DeployedPair.IsSound (p : DeployedPair) : Prop where
  profile : ∃ n, p.entry.profile = some n ∧ n ≠ ""
  count : ∃ n, p.entry.count = some n ∧ 0 < n

/-- A deployed pair whose service, price and compute profile are **defined**. -/
structure DeployedPair.IsResolved (d : Document) (p : DeployedPair) : Prop where
  service : d.services.contains p.service = true
  price : ∃ q, d.placementProfiles.get? p.placement = some q ∧
    q.pricing.contains p.service = true
  profile : ∀ n, p.entry.profile = some n → n ≠ "" → d.computeProfiles.contains n = true

/-- A **sound** document. -/
structure Document.IsSound (d : Document) : Prop where
  version : ∃ v, d.version = some v ∧ v ≠ ""
  services_nonempty : d.services.isEmpty = false
  services : ∀ e ∈ d.services.toList, e.2.IsSound
  compute_nonempty : d.computeProfiles.isEmpty = false
  compute : ∀ e ∈ d.computeProfiles.toList, e.2.IsSound
  placement_nonempty : d.placementProfiles.isEmpty = false
  placement : ∀ e ∈ d.placementProfiles.toList, e.2.IsSound d
  deployment_nonempty : d.deployment.isEmpty = false
  pairs : ∀ p ∈ d.pairs, p.IsSound
  references : ∀ p ∈ d.pairs, p.IsResolved d

/-! ### Texts that are given -/

theorem given?_eq_some_iff {s : Option String} {x : String} :
    given? s = some x ↔ s = some x ∧ x ≠ "" := by
  simp [given?, Option.filter_eq_some_iff]

theorem given?_eq_none_iff {s : Option String} : given? s = none ↔ ∀ x, s = some x → x = "" := by
  simp [given?, Option.filter_eq_none_iff]

theorem isNone_given?_eq_false_iff {s : Option String} :
    (given? s).isNone = false ↔ ∃ x, s = some x ∧ x ≠ "" := by
  cases h : given? s with
  | none =>
    rw [given?_eq_none_iff] at h
    simp only [Option.isNone_none, Bool.true_eq_false, false_iff]
    rintro ⟨x, hx, hne⟩
    exact hne (h x hx)
  | some x => simpa using ⟨x, given?_eq_some_iff.mp h⟩

/-! ### Services -/

theorem hasPort_iff {r : ExposeRule} : r.hasPort = true ↔ ∃ n, r.port = some n ∧ n ≠ 0 := by
  cases h : r.port <;> simp [ExposeRule.hasPort, h, Option.isSome_filter]

theorem hasKnownProtocol_iff {r : ExposeRule} :
    r.hasKnownProtocol = true ↔
      ∀ p, r.protocol = some p → p ≠ "" → Text.upper p = "TCP" ∨ Text.upper p = "UDP" := by
  rw [ExposeRule.hasKnownProtocol]
  cases h : given? r.protocol with
  | none =>
    rw [given?_eq_none_iff] at h
    simpa using fun p hp hne => absurd (h p hp) hne
  | some x =>
    obtain ⟨hx, hne⟩ := given?_eq_some_iff.mp h
    simp [hx, hne, knownProtocols]

theorem isClean_exposeFindings_iff {d : Document} {name : String} {r : ExposeRule} :
    (exposeFindings d name r).IsClean ↔ r.IsSound := by
  rw [exposeFindings, Findings.isClean_append, Findings.isClean_append,
    Findings.isClean_when rfl, Findings.isClean_when rfl, Bool.not_eq_false', Bool.not_eq_false',
    hasPort_iff, hasKnownProtocol_iff]
  constructor
  · rintro ⟨⟨hport, hprotocol⟩, -⟩
    exact ⟨hport, hprotocol⟩
  · intro h
    refine ⟨⟨h.port, h.protocol⟩, ?_⟩
    -- a target that is not defined is warned of only, so nothing is asked of the targets
    rw [Findings.isClean_join, List.forall_mem_map]
    intro t _
    cases given? t.service with
    | none => exact Findings.isClean_none
    | some s => exact Findings.isClean_when_warning rfl

theorem isClean_serviceFindings_iff {d : Document} {name : String} {s : Service} :
    (serviceFindings d name s).IsClean ↔ s.IsSound := by
  rw [serviceFindings, Findings.isClean_append, Findings.isClean_when rfl,
    isNone_given?_eq_false_iff, Findings.isClean_join, List.forall_mem_map]
  simp only [isClean_exposeFindings_iff]
  exact ⟨fun h => ⟨h.1, h.2⟩, fun h => ⟨h.image, h.expose⟩⟩

/-! ### Resources -/

theorem read_empty : Cores.read "" = .ok none := by rfl

theorem bytes_empty : Size.bytes "" = .ok 0 := by rfl

theorem read?_empty : PriceAmount.read? "" = none := by decide +kernel

theorem isLiteral_of_bytes {s : String} {n : Nat} (h : Size.bytes s = .ok n) (hn : n ≠ 0) :
    Size.isLiteral s = true := by
  rw [Size.isLiteral]
  cases hs : Size.split? s with
  | none =>
    rw [Size.bytes, hs] at h
    exact absurd (Except.ok.inj h).symm hn
  | some _ => rfl

theorem isClean_cpuFindings_iff {name : String} {r : Resources} :
    (cpuFindings name r).IsClean ↔ WritesCores (r.cpu.bind (·.units)) := by
  rw [cpuFindings]
  cases h : given? (r.cpu.bind (·.units)) with
  | none =>
    rw [given?_eq_none_iff] at h
    simp only [Findings.isClean_one, Finding.isError, Bool.true_eq_false, false_iff]
    rintro ⟨s, c, hs, hc, -, -⟩
    rw [h s hs, read_empty] at hc
    cases hc
  | some s =>
    obtain ⟨hs, -⟩ := given?_eq_some_iff.mp h
    simp only [Findings.isClean_ofQuantity]
    constructor
    · rintro ⟨cores, hc, hclean⟩
      cases cores with
      | none => exact absurd (Findings.isClean_one.mp hclean) (by simp [Finding.isError])
      | some c =>
        simp only at hclean
        cases hp : c.isPositive with
        | false =>
          rw [hp] at hclean
          exact absurd (Findings.isClean_one.mp hclean) (by simp [Finding.isError])
        | true =>
          rw [hp, if_pos rfl, Findings.isClean_ofQuantity] at hclean
          obtain ⟨w, hw, hclean⟩ := hclean
          rw [Findings.isClean_when rfl, Bool.not_eq_false'] at hclean
          exact ⟨s, c, hs, hc, hp, hclean ▸ hw⟩
    · rintro ⟨s', c, hs', hc, hp, hw⟩
      obtain rfl : s = s' := Option.some.inj (hs.symm.trans hs')
      refine ⟨some c, hc, ?_⟩
      simp only [hp, if_true, Findings.isClean_ofQuantity]
      exact ⟨true, hw, (Findings.isClean_when rfl).mpr rfl⟩

/-- The check of a written size: what it finds when there is no size is an error, and so is
what it finds when the size is unreadable or zero. -/
theorem isClean_size_iff {s : String} {bad zero : Finding} (hb : bad.isError = true)
    (hz : zero.isError = true) :
    (if Size.isLiteral s then Findings.ofQuantity (Size.bytes s) fun n => .when (n == 0) zero
      else Findings.one bad).IsClean ↔ WritesBytes (some s) := by
  cases hl : Size.isLiteral s with
  | false =>
    rw [if_neg (by simp), Findings.isClean_one, hb]
    simp only [Bool.true_eq_false, false_iff]
    rintro ⟨s', n, hs, hn, hne⟩
    obtain rfl : s = s' := Option.some.inj hs
    rw [isLiteral_of_bytes hn hne] at hl
    cases hl
  | true =>
    rw [if_pos rfl, Findings.isClean_ofQuantity]
    constructor
    · rintro ⟨n, hn, hclean⟩
      exact ⟨s, n, rfl, hn, by simpa [Findings.isClean_when hz] using hclean⟩
    · rintro ⟨s', n, hs, hn, hne⟩
      obtain rfl : s = s' := Option.some.inj hs
      exact ⟨n, hn, (Findings.isClean_when hz).mpr (by simpa using hne)⟩

theorem isClean_memoryFindings_iff {name : String} {r : Resources} :
    (memoryFindings name r).IsClean ↔ WritesBytes (r.memory.bind (·.size)) := by
  rw [memoryFindings]
  cases h : given? (r.memory.bind (·.size)) with
  | none =>
    rw [given?_eq_none_iff] at h
    simp only [Findings.isClean_one, Finding.isError, Bool.true_eq_false, false_iff]
    rintro ⟨s, n, hs, hn, hne⟩
    rw [h s hs, bytes_empty] at hn
    exact hne (Except.ok.inj hn).symm
  | some s =>
    obtain ⟨hs, -⟩ := given?_eq_some_iff.mp h
    rw [hs]
    exact isClean_size_iff rfl rfl

theorem isClean_volumeFindings_iff {v : StorageVolume} :
    (volumeFindings v).IsClean ↔ WritesBytes v.size := by
  rw [volumeFindings]
  cases v.size with
  | none =>
    simp only [Findings.isClean_one, Finding.isError, Bool.true_eq_false, false_iff]
    rintro ⟨s, n, hs, -, -⟩
    cases hs
  | some s => exact isClean_size_iff rfl rfl

theorem isClean_computeFindings_iff {name : String} {p : ComputeProfile} :
    (computeFindings name p).IsClean ↔ p.IsSound := by
  rw [computeFindings, ComputeProfile.IsSound]
  cases p.resources with
  | none =>
    simp only [Findings.isClean_one, Finding.isError, Bool.true_eq_false, false_iff]
    rintro ⟨r, hr, -⟩
    cases hr
  | some r =>
    simp only [Findings.isClean_append, Findings.isClean_join, List.forall_mem_map,
      isClean_cpuFindings_iff, isClean_memoryFindings_iff, isClean_volumeFindings_iff]
    constructor
    · rintro ⟨⟨hc, hm⟩, hs⟩
      exact ⟨r, rfl, hc, hm, hs⟩
    · rintro ⟨r', hr, h⟩
      obtain rfl : r = r' := Option.some.inj hr
      exact ⟨⟨h.cpu, h.memory⟩, h.storage⟩

/-! ### Placements -/

theorem isClean_priceFindings_iff {d : Document} {name service : String} {p : Price} :
    (priceFindings d name service p).IsClean ↔
      d.services.contains service = true ∧ p.IsSound := by
  rw [priceFindings, Findings.isClean_append, Findings.isClean_when rfl, Bool.not_eq_false']
  refine and_congr_right fun _ => ?_
  rw [Price.isComplete]
  cases hd : given? p.denom with
  | none =>
    rw [given?_eq_none_iff] at hd
    simp only [Option.isSome_none, Bool.false_and, Bool.not_false, if_true, Findings.isClean_one,
      Finding.isError, Bool.true_eq_false, false_iff]
    rintro ⟨⟨s, hs, hne⟩, -⟩
    exact hne (hd s hs)
  | some x =>
    cases ha : given? p.amount with
    | none =>
      rw [given?_eq_none_iff] at ha
      simp only [Option.isSome_none, Bool.and_false, Bool.not_false, if_true,
        Findings.isClean_one, Finding.isError, Bool.true_eq_false, false_iff]
      rintro ⟨-, s, hs, hread⟩
      rw [ha s hs, read?_empty] at hread
      cases hread
    | some y =>
      obtain ⟨hx, hxne⟩ := given?_eq_some_iff.mp hd
      obtain ⟨hy, -⟩ := given?_eq_some_iff.mp ha
      simp only [Option.isSome_some, Bool.and_true, Bool.not_true, Bool.false_eq_true, if_false,
        hy, Option.bind_some]
      rw [Findings.isClean_when rfl, Option.isNone_eq_false_iff]
      constructor
      · exact fun h => ⟨⟨x, hx, hxne⟩, y, hy, h⟩
      · rintro ⟨-, s, hs, h⟩
        obtain rfl : y = s := Option.some.inj (hy.symm.trans hs)
        exact h

theorem isClean_placementFindings_iff {d : Document} {name : String} {q : PlacementProfile} :
    (placementFindings d name q).IsClean ↔ q.IsSound d := by
  rw [placementFindings, Findings.isClean_join, List.forall_mem_map]
  simp only [isClean_priceFindings_iff]
  rfl

theorem isClean_sectionFindings_iff {α : Type} {t : Option (Table α)} {missing : Finding}
    {check : String → α → Findings} (hm : missing.isError = true) :
    (sectionFindings t missing check).IsClean ↔
      (t.getD .empty).isEmpty = false ∧ ∀ e ∈ (t.getD .empty).toList, (check e.1 e.2).IsClean := by
  cases t with
  | none => simp [sectionFindings, Findings.isClean_one, hm, Table.isEmpty, Table.empty]
  | some t =>
    simp only [sectionFindings, Option.getD_some]
    cases he : t.isEmpty with
    | true => simp [Findings.isClean_one, hm]
    | false =>
      rw [if_neg (by simp), Findings.isClean_join, List.forall_mem_map]
      simp

theorem isClean_profilesFindings_iff {d : Document} :
    (profilesFindings d).IsClean ↔
      (d.computeProfiles.isEmpty = false ∧ ∀ e ∈ d.computeProfiles.toList, e.2.IsSound) ∧
      (d.placementProfiles.isEmpty = false ∧
        ∀ e ∈ d.placementProfiles.toList, e.2.IsSound d) := by
  rw [profilesFindings, Document.computeProfiles, Document.placementProfiles]
  cases d.profiles with
  | none => simp [Findings.isClean_one, Finding.isError, Table.isEmpty, Table.empty]
  | some p =>
    rw [Findings.isClean_append, isClean_sectionFindings_iff rfl, isClean_sectionFindings_iff rfl]
    simp only [isClean_computeFindings_iff, isClean_placementFindings_iff, Option.bind_some]

/-! ### The deployment -/

theorem isClean_pairFindings_iff {p : DeployedPair} : (pairFindings p).IsClean ↔ p.IsSound := by
  rw [pairFindings, Findings.isClean_append, Findings.isClean_when rfl,
    isNone_given?_eq_false_iff]
  cases hc : p.entry.count with
  | none =>
    simp only [Findings.isClean_one, Finding.isError, Bool.true_eq_false, and_false, false_iff]
    rintro ⟨-, n, hn, -⟩
    rw [hc] at hn
    cases hn
  | some n =>
    simp only
    rw [Findings.isClean_when rfl, decide_eq_false_iff_not, Int.not_le]
    constructor
    · rintro ⟨hp, hn⟩
      exact ⟨hp, n, hc, hn⟩
    · rintro ⟨hp, m, hm, hpos⟩
      obtain rfl : n = m := Option.some.inj (hc.symm.trans hm)
      exact ⟨hp, hpos⟩

theorem isClean_structureFindings_iff {d : Document} :
    d.structureFindings.IsClean ↔
      (∃ v, d.version = some v ∧ v ≠ "") ∧
      (d.services.isEmpty = false ∧ ∀ e ∈ d.services.toList, e.2.IsSound) ∧
      (profilesFindings d).IsClean ∧
      (d.deployment.isEmpty = false ∧ ∀ p ∈ d.pairs, p.IsSound) := by
  -- a version that is not known is warned of only
  have hversion : (versionFindings d).IsClean ↔ ∃ v, d.version = some v ∧ v ≠ "" := by
    rw [versionFindings, ← isNone_given?_eq_false_iff]
    cases given? d.version with
    | none => simp [Findings.isClean_one, Finding.isError]
    | some v => simpa using Findings.isClean_when_warning rfl
  have hservices : (servicesFindings d).IsClean ↔
      d.services.isEmpty = false ∧ ∀ e ∈ d.services.toList, e.2.IsSound := by
    rw [servicesFindings]
    cases d.services.isEmpty with
    | true => simp [Findings.isClean_one, Finding.isError]
    | false =>
      rw [if_neg (by simp), Findings.isClean_join, List.forall_mem_map]
      simp only [isClean_serviceFindings_iff, true_and]
  have hdeployment : (deploymentFindings d).IsClean ↔
      d.deployment.isEmpty = false ∧ ∀ p ∈ d.pairs, p.IsSound := by
    rw [deploymentFindings]
    cases d.deployment.isEmpty with
    | true => simp [Findings.isClean_one, Finding.isError]
    | false =>
      rw [if_neg (by simp), Findings.isClean_join, List.forall_mem_map]
      simp only [isClean_pairFindings_iff, true_and]
  rw [Document.structureFindings, Findings.isClean_append, Findings.isClean_append,
    Findings.isClean_append, hversion, hservices, hdeployment, and_assoc, and_assoc]

/-! ### A document to check -/

/-- Resources of a number of cores, a size of memory and the sizes of some volumes. -/
def Resources.ofTexts (units size : String) (volumes : List String) : Resources :=
  { cpu := some { units := some units, extra := .empty },
    memory := some { size := some size, extra := .empty },
    storage := volumes.map fun s => ⟨none, some s, .empty, .empty⟩,
    extra := .empty }

/-- The document that deploys **one service once**, with some resources, at a price. -/
def Document.oneService (r : Resources) (denom amount : String) : Document :=
  { version := some defaultVersion,
    services := .single "web" ⟨some "nginx", [⟨some 80, none, some "tcp", [], .empty⟩], [], none,
      none, .empty⟩,
    profiles := some
      { compute := some (.single "small" ⟨some r, .empty⟩),
        placement := some (.single "west"
          ⟨.empty, none, .single "web" ⟨some denom, some amount, .empty⟩, .empty⟩),
        extra := .empty },
    deployment := .single "web" (.single "west" ⟨some "small", some 1, .empty⟩),
    extra := .empty }

end StackManifest
