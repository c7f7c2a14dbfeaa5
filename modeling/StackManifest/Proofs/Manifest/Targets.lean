import StackManifest.Proofs.Manifest.Millicores

/-!
# To whom ports are open

A rule of a service opens a port to any number of targets, and a port of a group has room for one.
The ports of a group are the rules of its service, one by one (`StackManifest.resolvePort`), each
with what its rule opens (`StackManifest.ExposeRule.opening`) and with the **first** of its targets
(`StackManifest.ExposeRule.audience`). So a target is kept when it comes first, or when another rule
that opens the same has it first, and it is lost otherwise
(`StackManifest.Document.keepsTarget_iff`).

The loss is silent: a document whose port is open to another service and to everyone is valid, each
of its targets is checked, and its port is not compiled as open to everyone
(`StackManifest.Document.not_keepsTarget_second`).
-/

namespace StackManifest

/-! ### What a port opens, and to whom -/

/-- What a port **opens**: the port itself, the port that is seen from outside, and the protocol. -/
structure Opening where
  port : Option Int
  externalPort : Option Int
  protocol : String
  deriving DecidableEq

/-- To **whom** a port is open: to a service, and to everyone or not. -/
structure Audience where
  service : Option String
  isGlobal : Bool
  deriving DecidableEq

/-- What a rule opens. From outside the port is seen as itself unless another one is given, and the
protocol is TCP unless another one is given, in capital letters. -/
def ExposeRule.opening (r : ExposeRule) : Opening where
  port := r.port
  externalPort :=
    match r.externalPort with
    | some n => if n = 0 then r.port else some n
    | none => r.port
  protocol :=
    match r.protocol with
    | some s => if s = "" then "TCP" else Text.upper s
    | none => "TCP"

/-- To whom a target opens a port. -/
def ExposeTarget.audience (t : ExposeTarget) : Audience where
  service := t.service
  isGlobal := t.isGlobal.getD false

/-- To whom the **first target** of a rule opens its port; to nobody in particular without one. -/
def ExposeRule.audience (r : ExposeRule) : Audience :=
  match r.targets with
  | [] => ⟨none, false⟩
  | t :: _ => t.audience

/-- What a compiled port opens. -/
def OpenPort.opening (p : OpenPort) : Opening := ⟨p.port, p.externalPort, p.protocol⟩

/-- To whom a compiled port is open. -/
def OpenPort.audience (p : OpenPort) : Audience := ⟨p.service, p.isGlobal⟩

variable {r : ExposeRule} {t : ExposeTarget}

theorem opening_resolvePort (r : ExposeRule) : (resolvePort r).opening = r.opening := by
  have hexternal : (r.externalPort.filter (· ≠ 0)).orElse (fun _ => r.port) =
      r.opening.externalPort := by
    rw [ExposeRule.opening]
    cases r.externalPort with
    | none => rfl
    | some n => by_cases hn : n = 0 <;> simp [Option.filter, hn]
  have hprotocol : Text.upper ((given? r.protocol).getD "TCP") = r.opening.protocol := by
    have htcp : Text.upper "TCP" = "TCP" := by decide
    rw [ExposeRule.opening]
    cases r.protocol with
    | none => exact htcp
    | some s => by_cases hs : s = "" <;> simp [given?, Option.filter, hs, htcp]
  rw [OpenPort.opening, resolvePort, hexternal, hprotocol]
  rfl

theorem audience_resolvePort (r : ExposeRule) : (resolvePort r).audience = r.audience := by
  rw [OpenPort.audience, resolvePort, ExposeRule.audience]
  cases r.targets with
  | nil => rfl
  | cons t ts => rfl

/-! ### Targets that are kept -/

/-- Some ports **keep a target** of a rule: one of them opens what the rule opens, to whom the
target opens it. -/
def KeepsTarget (ports : List OpenPort) (r : ExposeRule) (t : ExposeTarget) : Prop :=
  ∃ p ∈ ports, p.opening = r.opening ∧ p.audience = t.audience

/-- The ports that rules are compiled to **keep what comes first** in one of the rules. -/
theorem keepsTarget_map_resolvePort_iff {rules : List ExposeRule} :
    KeepsTarget (rules.map resolvePort) r t ↔
      ∃ r' ∈ rules, r'.opening = r.opening ∧ r'.audience = t.audience := by
  constructor
  · rintro ⟨p, hp, hopening, haudience⟩
    obtain ⟨r', hr', rfl⟩ := List.mem_map.mp hp
    rw [opening_resolvePort] at hopening
    rw [audience_resolvePort] at haudience
    exact ⟨r', hr', hopening, haudience⟩
  · rintro ⟨r', hr', hopening, haudience⟩
    refine ⟨resolvePort r', List.mem_map_of_mem hr', ?_, ?_⟩
    · rw [opening_resolvePort, hopening]
    · rw [audience_resolvePort, haudience]

theorem ProviderService.of_ofGroup {g : Group} {x : ProviderService} (h : ofGroup g = .ok x) :
    x.name = g.name ∧ x.expose = g.expose := by
  obtain ⟨n, -, hx⟩ := bind_eq_ok_iff.mp h
  obtain rfl := Except.ok.inj hx
  exact ⟨rfl, rfl⟩

namespace Document

variable {d : Document} {gs : List Group} {pair : DeployedPair} {g : Group}

/-- **Which targets are kept.** Each group of a document has a port for each rule of its service, in
order, that opens what the rule opens, to whom its first target opens it. The ports keep a target of
a rule exactly when a rule of the service that opens the same has a first target for whom it opens
the same. The manifest has these ports for the service, under the placement of the group. -/
theorem keepsTarget_iff (h : d.compile = .ok gs) (hx : (pair, g) ∈ d.pairs.zip gs) :
    ∃ s, d.services.get? pair.service = some s ∧
      List.Forall₂ (fun r p => p.opening = r.opening ∧ p.audience = r.audience) s.expose
        g.expose ∧
      (∀ r ∈ s.expose, ∀ t ∈ r.targets, KeepsTarget g.expose r t ↔
        ∃ r' ∈ s.expose, r'.opening = r.opening ∧ r'.audience = t.audience) ∧
      ∀ version, ∃ m, ProviderManifest.build version gs = .ok m ∧
        ∃ part ∈ m.groups, part.name = pair.placement ∧
          ∃ x ∈ part.services, x.name = pair.service ∧ x.expose = g.expose := by
  have hresolve := (List.forall₂_iff_zip.mp (compile_eq_ok_iff.mp h)).2 hx
  have hyields := yields_of_resolve hresolve
  obtain ⟨s, hs, -, hexpose⟩ := hyields.service
  refine ⟨s, hs, ?_, fun r _ t _ => ?_, fun version => ?_⟩
  · rw [hexpose, List.forall₂_map_right_iff, List.forall₂_same]
    exact fun r _ => ⟨opening_resolvePort r, audience_resolvePort r⟩
  · rw [hexpose]
    exact keepsTarget_map_resolvePort_iff
  · obtain ⟨m, hm⟩ := ProviderManifest.exists_build_iff.mpr fun g hg =>
      exists_millicores_of_compile h hg
    obtain ⟨part, hpart, hplacement, x, hxmem, hof⟩ :=
      ProviderManifest.exists_service_of_build hm (List.of_mem_zip hx).2
    obtain ⟨hname, hports⟩ := ProviderService.of_ofGroup hof
    exact ⟨m, hm, part, hpart, hplacement.trans hyields.placement, x, hxmem,
      hname.trans hyields.name, hports⟩

/-- The rule that opens port 80 to some targets. -/
def portRule (targets : List ExposeTarget) : ExposeRule := ⟨some 80, none, none, targets, .empty⟩

/-- The document that deploys **one service with one port**, which is open to some targets. -/
def onePort (targets : List ExposeTarget) : Document :=
  { oneService (.ofTexts "1" "1Gi" []) "uakt" "100" with
    services := .single "web" ⟨some "nginx", [portRule targets], [], none, none, .empty⟩ }

/-- The target that opens a port to **everyone**. -/
def toEveryone : ExposeTarget := ⟨none, some true, .empty⟩

/-- The pair that such a document deploys. -/
def onePair : DeployedPair := ⟨"web", "west", ⟨some "small", some 1, .empty⟩⟩

theorem exists_compile_onePort {targets : List ExposeTarget}
    (h : (onePort targets).validate = .ok ⟨[], []⟩) :
    ∃ g, (onePort targets).compile = .ok [g] ∧
      (onePair, g) ∈ (onePort targets).pairs.zip [g] ∧
      g.expose = [resolvePort (portRule targets)] := by
  obtain ⟨gs, hgs, hyields⟩ :=
    (exists_validate_isValid_iff_isSound.mp ⟨_, h, rfl⟩).exists_compile
  change List.Forall₂ _ [onePair] gs at hyields
  obtain ⟨g, _, hg, hnil, rfl⟩ := List.forall₂_cons_left_iff.mp hyields
  obtain rfl := List.forall₂_nil_left_iff.mp hnil
  obtain ⟨s, hs, -, hexpose⟩ := hg.service
  obtain rfl := Option.some.inj hs
  exact ⟨g, hgs, List.mem_singleton_self _, hexpose⟩

/-- A port that is open to everyone, and to nobody else, is compiled as open to everyone. -/
theorem keepsTarget_toEveryone : ∃ g, (onePort [toEveryone]).compile = .ok [g] ∧
    (onePair, g) ∈ (onePort [toEveryone]).pairs.zip [g] ∧
    KeepsTarget g.expose (portRule [toEveryone]) toEveryone := by
  have hvalid : (onePort [toEveryone]).validate = .ok ⟨[], []⟩ :=
    toOption_eq_some_iff.mp (by decide +kernel)
  obtain ⟨g, hg, hx, -⟩ := exists_compile_onePort hvalid
  obtain ⟨s, hs, -, hkeeps, -⟩ := keepsTarget_iff hg hx
  obtain rfl := Option.some.inj hs
  have hrule := List.mem_singleton_self (portRule [toEveryone])
  exact ⟨g, hg, hx, (hkeeps _ hrule _ (List.mem_singleton_self _)).mpr ⟨_, hrule, rfl, rfl⟩⟩

/-- **A second target is lost**: a port that is open to a service and to everyone is compiled as
open to the service only, although the document is valid. -/
theorem not_keepsTarget_second :
    (onePort [⟨some "web", none, .empty⟩, toEveryone]).validate = .ok ⟨[], []⟩ ∧
      ∃ g, (onePort [⟨some "web", none, .empty⟩, toEveryone]).compile = .ok [g] ∧
        g.expose = [⟨some 80, some 80, "TCP", some "web", false⟩] ∧
        ¬ KeepsTarget g.expose (portRule [⟨some "web", none, .empty⟩, toEveryone]) toEveryone := by
  have hvalid : (onePort [⟨some "web", none, .empty⟩, toEveryone]).validate = .ok ⟨[], []⟩ :=
    toOption_eq_some_iff.mp (by decide +kernel)
  obtain ⟨g, hg, -, hexpose⟩ := exists_compile_onePort hvalid
  have hports : g.expose = [⟨some 80, some 80, "TCP", some "web", false⟩] :=
    hexpose.trans (by decide)
  refine ⟨hvalid, g, hg, hports, ?_⟩
  rintro ⟨p, hp, -, haudience⟩
  obtain rfl := List.mem_singleton.mp (hports ▸ hp)
  cases haudience

end Document

end StackManifest
