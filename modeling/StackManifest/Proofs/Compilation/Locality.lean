import Mathlib.Data.List.Nodup
import StackManifest.Proofs.Compilation.Results
import StackManifest.Proofs.Order.Verdicts

/-!
# What a group depends on

A group is compiled from one service, one compute profile and one placement with one price. Nothing
else of a document has a part in it: not the version, not a service that is not deployed, not the
price of another service, not the plain data that is kept, and not the pairs that were compiled
before. So two documents that agree on what a pair refers to
(`StackManifest.DeployedPair.AgreesIn`) give it the same group, or refuse it for the same reason.

One thing of an agreeing document still shows. Two mappings are equal whatever the order of their
entries, but a group lists the attributes of its placement **in the order of the document**
(`StackManifest.Document.not_forall_eqv_of_agree`). So the groups of documents that agree are the
same up to this order, and the same altogether when the order is.

* `StackManifest.resolveTelling_eq_map_of_agreesIn` – one pair in two documents;
* `StackManifest.sameOutcome_mapM` – pairs that agree **one by one**;
* `StackManifest.Document.compilation_isLocal` – **all pairs of a document**, and some pairs after
  others.
-/

namespace StackManifest

/-! ### Parts without the plain data kept in them -/

/-- A target without the plain data kept in it. -/
def ExposeTarget.withoutKept (t : ExposeTarget) : ExposeTarget := { t with extra := .empty }

/-- An open port without the plain data kept in it. -/
def ExposeRule.withoutKept (r : ExposeRule) : ExposeRule :=
  { r with targets := r.targets.map (·.withoutKept), extra := .empty }

/-- A service without the plain data kept in it. -/
def Service.withoutKept (s : Service) : Service :=
  { s with expose := s.expose.map (·.withoutKept), extra := .empty }

/-- A storage volume without the plain data kept in it. -/
def StorageVolume.withoutKept (v : StorageVolume) : StorageVolume :=
  { v with attributes := .empty, extra := .empty }

/-- Resources without the plain data kept in them. -/
def Resources.withoutKept (r : Resources) : Resources :=
  { cpu := r.cpu.map fun c => { c with extra := .empty },
    memory := r.memory.map fun m => { m with extra := .empty },
    storage := r.storage.map (·.withoutKept), extra := .empty }

/-- A compute profile without the plain data kept in it. -/
def ComputeProfile.withoutKept (p : ComputeProfile) : ComputeProfile :=
  { resources := p.resources.map (·.withoutKept), extra := .empty }

/-- The auditors of a placement without the plain data kept with them. -/
def SignedBy.withoutKept (s : SignedBy) : SignedBy := { s with extra := .empty }

/-- A price without the plain data kept in it. -/
def Price.withoutKept (p : Price) : Price := { p with extra := .empty }

/-- A deployed pair without the plain data kept in its entry. -/
def DeployedPair.withoutKept (p : DeployedPair) : DeployedPair :=
  { p with entry := { p.entry with extra := .empty } }

/-! ### Agreement -/

/-- Two tables are **equal as mappings**, whatever the order of their entries. -/
def Table.SameEntries {α : Type} (s t : Table α) : Prop := ∀ n, s.get? n = t.get? n

/-- Two documents **agree on what a pair refers to**: on its service, on its compute profile, and on
the attributes, the auditors and the price of its placement. Each is equal or missing in both. -/
structure DeployedPair.AgreesIn (d d' : Document) (p : DeployedPair) : Prop where
  service : (d.services.get? p.service).map Service.withoutKept =
    (d'.services.get? p.service).map Service.withoutKept
  profile : ∀ n, p.entry.profile = some n →
    (d.computeProfiles.get? n).map ComputeProfile.withoutKept =
      (d'.computeProfiles.get? n).map ComputeProfile.withoutKept
  attributes : Option.Rel Table.SameEntries
    ((d.placementProfiles.get? p.placement).map (·.attributes))
    ((d'.placementProfiles.get? p.placement).map (·.attributes))
  signedBy : ((d.placementProfiles.get? p.placement).bind (·.signedBy)).map SignedBy.withoutKept =
    ((d'.placementProfiles.get? p.placement).bind (·.signedBy)).map SignedBy.withoutKept
  price : ((d.placementProfiles.get? p.placement).bind (·.pricing.get? p.service)).map
      Price.withoutKept =
    ((d'.placementProfiles.get? p.placement).bind (·.pricing.get? p.service)).map
      Price.withoutKept

/-- The attributes of the placement of a pair, **in the order of the document**. -/
def Document.attributesOf (d : Document) (p : DeployedPair) : List (String × String) :=
  ((d.placementProfiles.get? p.placement).map (·.attributes.toList)).getD []

/-- A group with other attributes that are required. -/
def Group.withAttributes (as : List (String × String)) (g : Group) : Group :=
  { g with requirements := { g.requirements with attributes := as } }

/-- Two groups are the same **up to the order of the attributes** that are required. -/
structure Group.SameUpToOrder (g g' : Group) : Prop where
  attributes : g.requirements.attributes.Perm g'.requirements.attributes
  others : g' = g.withAttributes g'.requirements.attributes

/-- **How two compilations end alike**: both with groups that are related, or both for the same
reason. -/
inductive SameOutcome {α β : Type} (R : α → β → Prop) : Except Stop α → Except Stop β → Prop where
  | done {a : α} {b : β} : R a b → SameOutcome R (.ok a) (.ok b)
  | stopped (s : Stop) : SameOutcome R (.error s) (.error s)

variable {d d' : Document} {p p' : DeployedPair}

/-! ### The parts of a group -/

theorem resolvePort_withoutKept (r : ExposeRule) : resolvePort r.withoutKept = resolvePort r := by
  rw [resolvePort, resolvePort]
  cases h : r.targets with
  | nil => simp [ExposeRule.withoutKept, h]
  | cons t ts => simp [ExposeRule.withoutKept, ExposeTarget.withoutKept, h]

theorem map_resolvePort_eq {s s' : Service} (h : s.withoutKept = s'.withoutKept) :
    s.expose.map resolvePort = s'.expose.map resolvePort := by
  have hexpose : s.expose.map (·.withoutKept) = s'.expose.map (·.withoutKept) :=
    congrArg Service.expose h
  have hports := congrArg (List.map resolvePort) hexpose
  simpa only [List.map_map, Function.comp_def, resolvePort_withoutKept] using hports

theorem resolveVolumes_withoutKept (refusal : Refusal) (vs : List StorageVolume) :
    resolveVolumes refusal (vs.map (·.withoutKept)) = resolveVolumes refusal vs := by
  induction vs with
  | nil => rfl
  | cons v vs ih =>
    rw [List.map_cons, resolveVolumes, resolveVolumes, ih]
    rfl

theorem resolveResources_withoutKept (service name : String) (q : ComputeProfile) :
    resolveResources service name q.withoutKept = resolveResources service name q := by
  rw [resolveResources, resolveResources]
  obtain ⟨_ | ⟨cpu, memory, storage, extra⟩, extra'⟩ := q
  · rfl
  · cases cpu with
    | none => rfl
    | some cpu =>
      cases memory with
      | none => rfl
      | some memory =>
        simp only [ComputeProfile.withoutKept, Resources.withoutKept, Option.map_some,
          resolveVolumes_withoutKept]

theorem resolveResources_eq {q q' : ComputeProfile} (service name : String)
    (h : q.withoutKept = q'.withoutKept) :
    resolveResources service name q = resolveResources service name q' := by
  rw [← resolveResources_withoutKept, h, resolveResources_withoutKept]

/-- Agreement on what **may be missing**: it is missing in both, or there in both. -/
theorem map_eq_map_cases {α β : Type} {f : α → β} {o o' : Option α} (h : o.map f = o'.map f) :
    (o = none ∧ o' = none) ∨ ∃ a a', o = some a ∧ o' = some a' ∧ f a = f a' := by
  cases o with
  | none => exact .inl ⟨rfl, Option.map_eq_none_iff.mp h.symm⟩
  | some a =>
    obtain ⟨a', ha', heq⟩ := Option.map_eq_some_iff.mp h.symm
    exact .inr ⟨a, a', rfl, ha', heq.symm⟩

/-- The same for parts that are only **related**. -/
theorem rel_map_cases {α β : Type} {R : β → β → Prop} {f : α → β} {o o' : Option α}
    (h : Option.Rel R (o.map f) (o'.map f)) :
    (o = none ∧ o' = none) ∨ ∃ a a', o = some a ∧ o' = some a' ∧ R (f a) (f a') := by
  cases o with
  | none =>
    cases o' with
    | none => exact .inl ⟨rfl, rfl⟩
    | some a' => cases h
  | some a =>
    cases o' with
    | none => cases h
    | some a' =>
      cases h with
      | some hR => exact .inr ⟨a, a', rfl, rfl, hR⟩

/-- The price of a service depends on **its own price** only. -/
theorem resolvePrice_eq_of_price {q q' : PlacementProfile} (service placement : String)
    (h : (q.pricing.get? service).map Price.withoutKept =
      (q'.pricing.get? service).map Price.withoutKept) :
    resolvePrice service placement q = resolvePrice service placement q' := by
  rw [resolvePrice, resolvePrice]
  rcases map_eq_map_cases h with ⟨hp, hp'⟩ | ⟨e, e', hp, hp', heq⟩
  · rw [hp, hp']
  · obtain ⟨denom, amount, extra⟩ := e
    obtain ⟨denom', amount', extra'⟩ := e'
    obtain rfl : denom = denom' := congrArg Price.denom heq
    obtain rfl : amount = amount' := congrArg Price.amount heq
    rw [hp, hp']
    cases denom with
    | none => rfl
    | some denom => cases amount <;> rfl

/-! ### One pair -/

/-- What is required by two placements that agree on their auditors differs in the **attributes**
only. -/
theorem resolveRequirements_eq_of_signedBy {q q' : PlacementProfile}
    (h : q.signedBy.map SignedBy.withoutKept = q'.signedBy.map SignedBy.withoutKept) :
    resolveRequirements q' =
      { resolveRequirements q with attributes := q'.attributes.toList } := by
  rw [resolveRequirements, resolveRequirements]
  rcases map_eq_map_cases h with ⟨hnone, hnone'⟩ | ⟨a, a', ha, ha', heq⟩
  · rw [hnone, hnone']
  · obtain ⟨all, any, extra⟩ := a
    obtain ⟨all', any', extra'⟩ := a'
    obtain rfl : all = all' := congrArg SignedBy.allOf heq
    obtain rfl : any = any' := congrArg SignedBy.anyOf heq
    rw [ha, ha']
    rfl

/-- **The group of a pair in two documents that agree**: the same but for the order of the
attributes, or refused for the same reason in both. -/
theorem resolve_eq_map_of_agreesIn (h : p.AgreesIn d d') (hp : p.withoutKept = p'.withoutKept) :
    resolve d' p' = (resolve d p).map (Group.withAttributes (d'.attributesOf p)) := by
  obtain ⟨service, placement, profile, count, extra⟩ := p
  obtain ⟨service', placement', profile', count', extra'⟩ := p'
  obtain rfl : service = service' := congrArg DeployedPair.service hp
  obtain rfl : placement = placement' := congrArg DeployedPair.placement hp
  obtain rfl : profile = profile' := congrArg (·.entry.profile) hp
  obtain rfl : count = count' := congrArg (·.entry.count) hp
  have hprofile : ((given? profile).bind d.computeProfiles.get?).map ComputeProfile.withoutKept =
      ((given? profile).bind d'.computeProfiles.get?).map ComputeProfile.withoutKept := by
    cases hn : given? profile with
    | none => rfl
    | some n => exact h.profile n (given?_eq_some_iff.mp hn).1
  rw [resolve, resolve]
  -- in the order in which the compiler looks things up, each is missing in both or there in both
  rcases map_eq_map_cases h.service with ⟨hs, hs'⟩ | ⟨s, s', hs, hs', hservice⟩
  · simp only [hs, hs']
    rfl
  rcases map_eq_map_cases hprofile with ⟨hc, hc'⟩ | ⟨c, c', hc, hc', hcompute⟩
  · simp only [hs, hs', hc, hc']
    rfl
  rw [Document.attributesOf]
  rcases rel_map_cases h.attributes with ⟨hq, hq'⟩ | ⟨q, q', hq, hq', -⟩
  · simp only [hs, hs', hc, hc', hq, hq']
    rfl
  have hsignedBy := h.signedBy
  have hprice := h.price
  rw [hq, hq'] at hsignedBy hprice
  have himage : s.withoutKept.image = s'.withoutKept.image := congrArg _ hservice
  simp only [hs, hs', hc, hc', hq, hq', resolvePrice_eq_of_price service placement hprice,
    resolveResources_eq service ((given? profile).getD "") hcompute,
    map_resolvePort_eq hservice, resolveRequirements_eq_of_signedBy hsignedBy,
    show s.image = s'.image from himage]
  cases resolvePrice service placement q' with
  | error e => rfl
  | ok price =>
    cases resolveResources service ((given? profile).getD "") c' <;> rfl

theorem resolveTelling_eq_map_of_agreesIn (debug : Bool) (h : p.AgreesIn d d')
    (hp : p.withoutKept = p'.withoutKept) :
    resolveTelling d' debug p' =
      (resolveTelling d debug p).map (Group.withAttributes (d'.attributesOf p)) := by
  rw [resolveTelling, resolveTelling, resolve_eq_map_of_agreesIn h hp]
  cases resolve d p with
  | error e => rfl
  | ok g =>
    -- the line of a group does not show its attributes
    have hline : compiledLine (g.withAttributes (d'.attributesOf p)) = compiledLine g := rfl
    simp only [Except.map, ok_bind, hline]
    cases debug with
    | false => rfl
    | true => cases orStop (compiledLine g) <;> rfl

/-! ### All pairs -/

section SameOutcome

variable {α β γ δ : Type} {R : α → β → Prop} {S : γ → δ → Prop}

theorem SameOutcome.bind {x : Except Stop α} {y : Except Stop β} {f : α → Except Stop γ}
    {g : β → Except Stop δ} (h : SameOutcome R x y)
    (hfg : ∀ a b, R a b → SameOutcome S (f a) (g b)) : SameOutcome S (x >>= f) (y >>= g) := by
  cases h with
  | done hab => exact hfg _ _ hab
  | stopped s => exact .stopped s

/-- A pass through two lists **side by side**, where each step ends alike. -/
theorem sameOutcome_mapM {f : α → Except Stop γ} {g : β → Except Stop δ} {xs : List α}
    {ys : List β} (h : List.Forall₂ (fun x y => SameOutcome S (f x) (g y)) xs ys) :
    SameOutcome (List.Forall₂ S) (xs.mapM f) (ys.mapM g) := by
  induction h with
  | nil => exact .done .nil
  | cons hxy _ ih =>
    rw [List.mapM_cons, List.mapM_cons]
    exact hxy.bind fun a b hab => ih.bind fun as bs habs => .done (.cons hab habs)

theorem mapM_eq_mapM_of_forall₂ {ε : Type} {f : α → Except ε γ} {g : β → Except ε γ}
    {xs : List α} {ys : List β} (h : List.Forall₂ (fun x y => f x = g y) xs ys) :
    xs.mapM f = ys.mapM g := by
  induction h with
  | nil => rfl
  | cons hxy _ ih => rw [List.mapM_cons, List.mapM_cons, hxy, ih]

end SameOutcome

/-- Tables that are equal as mappings have the same entries, **in some order**. -/
theorem Table.SameEntries.perm {α : Type} {s t : Table α} (h : s.SameEntries t) :
    s.toList.Perm t.toList := by
  refine (List.perm_ext_iff_of_nodup (.of_map _ s.nodup) (.of_map _ t.nodup)).mpr ?_
  rintro ⟨n, a⟩
  rw [← Table.get?_eq_some_iff, ← Table.get?_eq_some_iff, h n]

/-- A group that was resolved **requires the attributes** of the placement of its pair. -/
theorem attributes_of_resolveTelling {debug : Bool} {g : Group}
    (h : resolveTelling d debug p = .ok g) : g.requirements.attributes = d.attributesOf p := by
  obtain ⟨g', hg', h⟩ := bind_eq_ok_iff.mp h
  obtain rfl : g' = g := by
    cases debug with
    | false => exact Except.ok.inj h
    | true =>
      obtain ⟨-, -, h⟩ := bind_eq_ok_iff.mp h
      exact Except.ok.inj h
  obtain ⟨e, -, -, he, hrequirements, -⟩ := (yields_of_resolve hg').price
  rw [hrequirements, Document.attributesOf, he]
  rfl

theorem DeployedPair.AgreesIn.perm_attributesOf (h : p.AgreesIn d d') :
    (d.attributesOf p).Perm (d'.attributesOf p) := by
  have hrel := h.attributes
  rw [Document.attributesOf, Document.attributesOf]
  cases hq : d.placementProfiles.get? p.placement with
  | none =>
    cases hq' : d'.placementProfiles.get? p.placement with
    | none => exact .nil
    | some q' =>
      rw [hq, hq'] at hrel
      cases hrel
  | some q =>
    cases hq' : d'.placementProfiles.get? p.placement with
    | none =>
      rw [hq, hq'] at hrel
      cases hrel
    | some q' =>
      rw [hq, hq'] at hrel
      cases hrel with
      | some hsame => exact hsame.perm

theorem sameOutcome_resolveTelling (debug : Bool) (h : p.AgreesIn d d')
    (hp : p.withoutKept = p'.withoutKept) :
    SameOutcome Group.SameUpToOrder (resolveTelling d debug p) (resolveTelling d' debug p') := by
  rw [resolveTelling_eq_map_of_agreesIn debug h hp]
  cases hg : resolveTelling d debug p with
  | error s => exact .stopped s
  | ok g =>
    refine .done ⟨?_, rfl⟩
    rw [attributes_of_resolveTelling hg]
    exact h.perm_attributesOf

/-- If the attributes are **in the same order** as well, a pair has the same group in both. -/
theorem resolveTelling_eq_of_agreesIn (debug : Bool) (h : p.AgreesIn d d')
    (hp : p.withoutKept = p'.withoutKept) (horder : d.attributesOf p = d'.attributesOf p) :
    resolveTelling d debug p = resolveTelling d' debug p' := by
  rw [resolveTelling_eq_map_of_agreesIn debug h hp]
  cases hg : resolveTelling d debug p with
  | error s => rfl
  | ok g =>
    have hattributes := (attributes_of_resolveTelling hg).trans horder
    rw [Except.map, ← hattributes]
    rfl

/-- Two documents **deploy the same pairs** in the same order. -/
def Document.DeploysAlike (d d' : Document) : Prop :=
  List.Forall₂ (fun p p' => p.withoutKept = p'.withoutKept) d.pairs d'.pairs

/-- **A compilation is local.** Documents that deploy the same pairs, and agree on what each of them
refers to, have the same groups up to the order of the attributes, or none for the same reason; and
the groups are the same altogether if the attributes are in the same order. **It is compositional**:
if the deployment is put together from two, the groups are those of the first one followed by those
of the second one, and what stops the first one comes first. -/
theorem Document.compilation_isLocal (debug : Bool) :
    (∀ d d' : Document, d.DeploysAlike d' → (∀ p ∈ d.pairs, p.AgreesIn d d') →
      SameOutcome (List.Forall₂ Group.SameUpToOrder) (d.compilation debug).groups
          (d'.compilation debug).groups ∧
        ((∀ p ∈ d.pairs, d.attributesOf p = d'.attributesOf p) →
          (d.compilation debug).groups = (d'.compilation debug).groups)) ∧
    ∀ (d : Document) (s t : Table (Table DeploymentEntry)),
      d.deployment.toList = s.toList ++ t.toList →
        (d.compilation debug).groups = do
          let gs ← ({ d with deployment := s }.compilation debug).groups
          let hs ← ({ d with deployment := t }.compilation debug).groups
          return gs ++ hs := by
  refine ⟨fun d d' hpairs hagree => ?_, fun d s t happend => ?_⟩
  · have hrel := (List.forall₂_and_left d.pairs d'.pairs).mpr ⟨fun p hp => hp, hpairs⟩
    rw [groups_compilation, groups_compilation]
    refine ⟨sameOutcome_mapM (hrel.imp fun p p' h => ?_), fun horder => ?_⟩
    · exact sameOutcome_resolveTelling debug (hagree p h.1) h.2
    · refine mapM_eq_mapM_of_forall₂ (hrel.imp fun p p' h => ?_)
      exact resolveTelling_eq_of_agreesIn debug (hagree p h.1) h.2 (horder p h.1)
  · have hsplit : d.pairs = ({ d with deployment := s } : Document).pairs ++
        ({ d with deployment := t } : Document).pairs := by
      rw [Document.pairs, happend, List.flatMap_append]
      rfl
    rw [groups_compilation, groups_compilation, groups_compilation, hsplit, List.mapM_append]
    rfl

/-! ### The order of attributes -/

namespace Document

/-- The document that deploys one service once, under a placement with some **attributes**. -/
def attributed (as : Table String) : Document :=
  { oneService (.ofTexts "1" "1Gi" []) "uakt" "100" with
    profiles := some
      { compute := some (.single "small" ⟨some (.ofTexts "1" "1Gi" []), .empty⟩),
        placement := some (.single "west"
          ⟨as, none, .single "web" ⟨some "uakt", some "100", .empty⟩, .empty⟩),
        extra := .empty } }

/-- Two attributes, in one order. -/
def regionAndTier : Table String := ⟨[("region", "us-west"), ("tier", "premium")], by decide⟩

/-- The same attributes, in the other order. -/
def tierAndRegion : Table String := ⟨[("tier", "premium"), ("region", "us-west")], by decide⟩

theorem sameEntries_regionAndTier : regionAndTier.SameEntries tierAndRegion := by
  intro n
  rw [Table.get?, Table.get?, regionAndTier, tierAndRegion]
  simp only [Table.lookup_cons]
  by_cases hregion : n = "region"
  · subst hregion
    rfl
  · simp [hregion]

theorem agreesIn_attributed {as as' : Table String} (h : as.SameEntries as') :
    ∀ p ∈ (attributed as).pairs, p.AgreesIn (attributed as) (attributed as') := by
  intro p hp
  obtain rfl : p = ⟨"web", "west", ⟨some "small", some 1, .empty⟩⟩ := List.mem_singleton.mp hp
  exact ⟨rfl, fun _ _ => rfl, .some h, rfl, rfl⟩

/-- The entry of a deployment with one replica, under the only placement. -/
def onWest : Table DeploymentEntry := .single "west" ⟨some "small", some 1, .empty⟩

/-- The deployment of a service that is not defined, and of one that is. -/
def apiAndWeb : Table (Table DeploymentEntry) := ⟨[("api", onWest), ("web", onWest)], by decide⟩

/-- Both orders of the attributes are compiled alike. A service that is **not defined** stops the
first half of a deployment, and with it the whole. -/
theorem compilation_isLocal_attributed :
    SameOutcome (List.Forall₂ Group.SameUpToOrder) (attributed regionAndTier).compile
        (attributed tierAndRegion).compile ∧
      ({ attributed regionAndTier with deployment := apiAndWeb } : Document).compile =
        .error (.refused (.unresolved "api" "west" (some "small"))) := by
  have hpairs : (attributed regionAndTier).DeploysAlike (attributed tierAndRegion) := .cons rfl .nil
  have hagree := agreesIn_attributed sameEntries_regionAndTier
  have happend : apiAndWeb.toList = (Table.single "api" onWest).toList ++
      (Table.single "web" onWest).toList := rfl
  refine ⟨((compilation_isLocal false).1 _ _ hpairs hagree).1, ?_⟩
  exact ((compilation_isLocal false).2 { attributed regionAndTier with deployment := apiAndWeb }
    _ _ happend).trans (by rfl)

/-- Whether two documents are compiled to **equal groups**. -/
def sameGroups? (d d' : Document) : Option Bool := do
  let gs ← d.compile.toOption
  let gs' ← d'.compile.toOption
  return (gs.zip gs').all fun g => g.1.eqv g.2

/-- **Documents that are equal may be compiled to groups that are not**: the attributes that are
required come in the order in which the placement lists them. -/
theorem not_forall_eqv_of_agree :
    ¬∀ (d d' : Document) (gs gs' : List Group), d.eqv d' = true → d.deployment = d'.deployment →
      (∀ p ∈ d.pairs, p.AgreesIn d d') → d.compile = .ok gs → d'.compile = .ok gs' →
      List.Forall₂ (fun g g' => g.eqv g' = true) gs gs' := by
  intro h
  have heqv : (attributed regionAndTier).eqv (attributed tierAndRegion) = true := by
    decide +kernel
  have hother : sameGroups? (attributed regionAndTier) (attributed tierAndRegion) = some false := by
    decide +kernel
  obtain ⟨gs, hgs, hrest⟩ := Option.bind_eq_some_iff.mp hother
  obtain ⟨gs', hgs', hall⟩ := Option.bind_eq_some_iff.mp hrest
  have hrel := h _ _ _ _ heqv rfl (agreesIn_attributed sameEntries_regionAndTier)
    (toOption_eq_some_iff.mp hgs) (toOption_eq_some_iff.mp hgs')
  have htrue : (gs.zip gs').all (fun g => g.1.eqv g.2) = true :=
    List.all_eq_true.mpr fun g hg => List.forall₂_zip hrel hg
  rw [Option.some.inj hall] at htrue
  cases htrue

end Document

end StackManifest
