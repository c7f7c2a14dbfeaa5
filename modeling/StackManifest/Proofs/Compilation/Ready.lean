import StackManifest.Proofs.Compilation.Groups
import StackManifest.Proofs.Number.Value

/-!
# Valid documents compile to groups that are ready to bid

A user who has seen a report without errors expects that the document can be compiled, and that
a provider can work with what comes out. `StackManifest.Group.IsReady` says what the second
expectation amounts to, field by field, and
`StackManifest.Document.compile_of_validate_isValid` says that both are met: every deployed pair
has its group, in order, and every group is ready.
-/

namespace StackManifest

open StackManifest.Number

/-- A port that a provider can open: both numbers are there and not zero, and the protocol is one
of the two that there are. -/
structure OpenPort.IsReady (p : OpenPort) : Prop where
  port : ∃ n, p.port = some n ∧ n ≠ 0
  externalPort : ∃ n, p.externalPort = some n ∧ n ≠ 0
  protocol : p.protocol = "TCP" ∨ p.protocol = "UDP"

/-- A group that is **ready to bid**: nothing in it is missing, empty or zero. -/
structure Group.IsReady (g : Group) : Prop where
  image : ∃ i, g.image = some i ∧ i ≠ ""
  cpu : ∃ c, g.resources.cpu = .finite c ∧ 0 < c.toRat
  memory : 0 < g.resources.memory
  storage : ∀ v ∈ g.resources.storage, 0 < v.size
  count : ∃ n, g.count = .int n ∧ 1 ≤ n
  denom : g.price.denom ≠ ""
  amount : ∃ a, PriceAmount.ofValue g.price.amount = .ok (some a)
  expose : ∀ p ∈ g.expose, p.IsReady

/-- **A sound port is opened as it is meant**: without a protocol it is opened for TCP, and
without an external port, or with zero for it, under its own number. -/
theorem ExposeRule.IsSound.isReady_resolvePort {r : ExposeRule} (h : r.IsSound) :
    (resolvePort r).IsReady := by
  obtain ⟨n, hn, hne⟩ := h.port
  refine ⟨⟨n, hn, hne⟩, ?_, ?_⟩
  · simp only [resolvePort]
    cases he : r.externalPort.filter (· ≠ 0) with
    | none => exact ⟨n, hn, hne⟩
    | some m =>
      obtain ⟨-, hm⟩ := Option.filter_eq_some_iff.mp he
      exact ⟨m, rfl, by simpa using hm⟩
  · simp only [resolvePort]
    cases hp : given? r.protocol with
    | none => exact .inl (by decide)
    | some p =>
      obtain ⟨hp, hpne⟩ := given?_eq_some_iff.mp hp
      exact h.protocol p hp hpne

/-- **What a pair of a sound document yields is ready to bid.** -/
theorem DeployedPair.Yields.isReady {d : Document} {p : DeployedPair} {g : Group}
    (hg : p.Yields d g) (hp : p ∈ d.pairs) (h : d.IsSound) : g.IsReady := by
  obtain ⟨s, hs, himage, hexpose⟩ := hg.service
  have hsound := h.services _ (Table.get?_eq_some_iff.mp hs)
  obtain ⟨-, -, r, -, -, -, hmeasured⟩ := hg.resources
  obtain ⟨-, c, -, -, hpos, hcpu⟩ := hmeasured.cpu
  obtain ⟨-, n, -, -, hn, hmemory⟩ := hmeasured.memory
  obtain ⟨q, c', a, hq, -, hc, hdenom, hamount, hg'⟩ := hg.price
  have hprice := (h.placement _ (Table.get?_eq_some_iff.mp hq) _ (Table.get?_eq_some_iff.mp hc)).2
  constructor
  case image =>
    rw [himage]
    exact hsound.image
  case cpu => exact ⟨c, hcpu, Decimal.isPositive_iff_toRat_pos.mp hpos⟩
  case memory =>
    rw [hmemory]
    omega
  case storage =>
    intro v hv
    obtain ⟨w, -, hw⟩ := exists_of_mem_forall₂ hmeasured.storage hv
    obtain ⟨-, m, -, -, hm, hsize⟩ := hw.size
    rw [hsize]
    omega
  case count =>
    obtain ⟨m, hm, hpos⟩ := (h.pairs p hp).count
    exact ⟨m, by rw [hg.count, hm]; rfl, hpos⟩
  case denom =>
    obtain ⟨x, hx, hne⟩ := hprice.denom
    rw [hdenom] at hx
    exact Option.some.inj hx ▸ hne
  case amount =>
    obtain ⟨x, hx, hread⟩ := hprice.amount
    obtain rfl : a = x := Option.some.inj (hamount.symm.trans hx)
    obtain ⟨y, hy⟩ := Option.isSome_iff_exists.mp hread
    refine ⟨y, ?_⟩
    rw [hg', ← hy]
    rfl
  case expose =>
    intro o ho
    rw [hexpose] at ho
    obtain ⟨rule, hrule, rfl⟩ := List.mem_map.mp ho
    exact (hsound.expose rule hrule).isReady_resolvePort

/-- **A valid document can be compiled**: there is one group for each deployed pair, in the order
of the pairs, with the service, the placement and the number of replicas of the pair, and every
group is ready to bid. -/
theorem Document.compile_of_validate_isValid {d : Document} {r : Report}
    (hr : d.validate = .ok r) (hv : r.isValid = true) :
    ∃ gs, d.compile = .ok gs ∧
      List.Forall₂ (fun p g => g.name = p.service ∧ g.placement = p.placement ∧
        g.count = .ofInt? p.entry.count) d.pairs gs ∧
      ∀ g ∈ gs, g.IsReady := by
  have h := Document.exists_validate_isValid_iff_isSound.mp ⟨r, hr, hv⟩
  obtain ⟨gs, hgs, hrel⟩ := h.exists_compile
  refine ⟨gs, hgs, hrel.imp fun p g hg => ⟨hg.name, hg.placement, hg.count⟩, fun g hg => ?_⟩
  obtain ⟨p, hp, hyields⟩ := exists_of_mem_forall₂ hrel hg
  exact hyields.isReady hp h

/-- Half a core, 512 MiB of memory and a volume of 1 GiB can be bid for. -/
theorem Document.exists_compile_oneService :
    ∃ r gs, (oneService (.ofTexts "0.5" "512Mi" ["1Gi"]) "uakt" "100").validate = .ok r ∧
      r.isValid = true ∧
      (oneService (.ofTexts "0.5" "512Mi" ["1Gi"]) "uakt" "100").compile = .ok gs ∧
      gs.length = 1 ∧ ∀ g ∈ gs, g.IsReady := by
  have hr : (oneService (.ofTexts "0.5" "512Mi" ["1Gi"]) "uakt" "100").validate =
      .ok ⟨[], []⟩ := toOption_eq_some_iff.mp (by decide +kernel)
  obtain ⟨gs, hgs, hpairs, hready⟩ := compile_of_validate_isValid hr rfl
  exact ⟨_, gs, hr, rfl, hgs, hpairs.length_eq.symm, hready⟩

end StackManifest
