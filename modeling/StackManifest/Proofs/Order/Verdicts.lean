import Mathlib.Data.List.Perm.Basic
import StackManifest.Proofs.Checks.Sound
import StackManifest.Proofs.Order.Documents
import StackManifest.Manifest.Compile

/-!
# The order of a document does not matter

A document is checked from the top to the bottom, and what was reported once is not reported again; it
is compiled until a pair is refused. Neither the verdict nor the groups depend on that order. The
question is what two runs have in common that go through the same things in different orders, and the
answers are

* `StackManifest.Findings.SameVerdict` – two checks that are stopped or not stopped alike and **find
  the same things**, each as often; it is kept by the ways in which checks are put together;
* `StackManifest.perm_referencesFrom` – the reference check, which carries along what it has reported:
  a service that is not defined is reported at its first pair, whichever pair that is;
* `StackManifest.exists_perm_of_mapM_eq_ok` – a pass through the same things in another order has the
  same results in that order, and fails if the other one does.

They are put together in `StackManifest.Document.verdict_of_reordered`.
-/

namespace StackManifest

variable {d e : Document}

/-! ### Checks that find the same -/

namespace Findings

variable {a b a' b' : Findings}

/-- Two checks with the **same verdict**: both are stopped or none of them is, and if none is, they
have found the same things, each as often. -/
structure SameVerdict (a b : Findings) : Prop where
  stopped : a.stopped = .none ↔ b.stopped = .none
  found : a.stopped = .none → a.found.Perm b.found

theorem SameVerdict.refl (a : Findings) : a.SameVerdict a := ⟨Iff.rfl, fun _ => .refl _⟩

theorem SameVerdict.trans {c : Findings} (hab : a.SameVerdict b) (hbc : b.SameVerdict c) :
    a.SameVerdict c :=
  ⟨hab.stopped.trans hbc.stopped, fun h => (hab.found h).trans (hbc.found (hab.stopped.mp h))⟩

theorem found_append (h : a.stopped = .none) : (a ++ b).found = a.found ++ b.found := by
  change (a.append b).found = _
  simp only [append, h]

theorem SameVerdict.append (ha : a.SameVerdict a') (hb : b.SameVerdict b') :
    (a ++ b).SameVerdict (a' ++ b') := by
  constructor
  · rw [stopped_append_eq_none, stopped_append_eq_none, ha.stopped, hb.stopped]
  · intro h
    obtain ⟨hsa, hsb⟩ := stopped_append_eq_none.mp h
    rw [found_append hsa, found_append (ha.stopped.mp hsa)]
    exact (ha.found hsa).append (hb.found hsb)

theorem found_join {cs : List Findings} (h : ∀ c ∈ cs, c.stopped = .none) :
    (join cs).found = cs.flatMap Findings.found := by
  induction cs with
  | nil => rfl
  | cons c cs ih =>
    obtain ⟨hc, hcs⟩ := List.forall_mem_cons.mp h
    rw [join, found_append hc, ih hcs, List.flatMap_cons]

/-- Several checks that are made **in another order**. -/
theorem sameVerdict_join_of_perm {cs cs' : List Findings} (h : cs.Perm cs') :
    (join cs).SameVerdict (join cs') := by
  constructor
  · rw [stopped_join_eq_none, stopped_join_eq_none]
    exact forall_congr' fun c => by rw [h.mem_iff]
  · intro hs
    rw [stopped_join_eq_none] at hs
    rw [found_join hs, found_join fun c hc => hs c (h.mem_iff.mpr hc)]
    exact h.flatMap_right _

theorem sameVerdict_join {cs cs' : List Findings} (h : List.Forall₂ SameVerdict cs cs') :
    (join cs).SameVerdict (join cs') := by
  induction h with
  | nil => exact .refl _
  | cons hc _ ih => exact hc.append ih

/-- The checks of the **entries of a table**, when each entry has the same verdict. -/
theorem sameVerdict_join_table {α β : Type} {R : α → β → Prop} {s : Table α} {t : Table β}
    (h : Table.Reordered R s t) {f : String × α → Findings} {g : String × β → Findings}
    (hfg : ∀ k a b, R a b → (f (k, a)).SameVerdict (g (k, b))) :
    (join (s.toList.map f)).SameVerdict (join (t.toList.map g)) := by
  obtain ⟨es, hperm, hes⟩ := h
  refine (sameVerdict_join_of_perm (hperm.map f)).trans (sameVerdict_join ?_)
  rw [List.forall₂_map_left_iff, List.forall₂_map_right_iff]
  refine hes.imp ?_
  rintro ⟨k, a⟩ ⟨_, b⟩ ⟨rfl, hR⟩
  exact hfg k a b hR

end Findings

open Findings (SameVerdict)

/-! ### The structural check, part by part -/

section Structure

variable (h : d.Reordered e)

include h

theorem exposeFindings_eq (service : String) (r : ExposeRule) :
    exposeFindings d service r = exposeFindings e service r := by
  have hcontains : d.services.contains = e.services.contains := funext h.services.contains_eq
  rw [exposeFindings, exposeFindings, hcontains]

theorem sameVerdict_servicesFindings :
    (servicesFindings d).SameVerdict (servicesFindings e) := by
  rw [servicesFindings, servicesFindings, h.services.isEmpty_eq]
  split
  · exact .refl _
  · refine Findings.sameVerdict_join_table h.services ?_
    rintro name s _ rfl
    simp only [serviceFindings, funext (exposeFindings_eq h name)]
    exact .refl _

theorem priceFindings_eq (placement service : String) (p : Price) :
    priceFindings d placement service p = priceFindings e placement service p := by
  rw [priceFindings, priceFindings, h.services.contains_eq]

theorem sameVerdict_placementFindings (name : String) {p q : PlacementProfile}
    (hpq : p.Reordered q) : (placementFindings d name p).SameVerdict (placementFindings e name q) := by
  refine Findings.sameVerdict_join_table hpq.pricing ?_
  rintro service c _ rfl
  rw [priceFindings_eq h]
  exact .refl _

omit h in
theorem sameVerdict_sectionFindings {α : Type} {R : α → α → Prop} {s t : Option (Table α)}
    (hst : Option.Rel (Table.Reordered R) s t) (missing : Finding)
    {check check' : String → α → Findings}
    (hcheck : ∀ n a b, R a b → (check n a).SameVerdict (check' n b)) :
    (sectionFindings s missing check).SameVerdict (sectionFindings t missing check') := by
  cases hst with
  | none => exact .refl _
  | some hst =>
    rw [sectionFindings, sectionFindings, hst.isEmpty_eq]
    split
    · exact .refl _
    · exact Findings.sameVerdict_join_table hst hcheck

theorem sameVerdict_profilesFindings :
    (profilesFindings d).SameVerdict (profilesFindings e) := by
  have hprofiles := h.profiles
  rw [profilesFindings, profilesFindings]
  generalize d.profiles = p at hprofiles
  generalize e.profiles = q at hprofiles
  cases hprofiles with
  | none => exact .refl _
  | some hpq =>
    refine .append (sameVerdict_sectionFindings hpq.compute _ ?_)
      (sameVerdict_sectionFindings hpq.placement _ fun n _ _ => sameVerdict_placementFindings h n)
    rintro n c _ rfl
    exact .refl _

theorem sameVerdict_deploymentFindings :
    (deploymentFindings d).SameVerdict (deploymentFindings e) := by
  rw [deploymentFindings, deploymentFindings, h.deployment.isEmpty_eq]
  split
  · exact .refl _
  · exact Findings.sameVerdict_join_of_perm (h.pairs_perm.map _)

/-- **The structural check** of a document does not depend on its order. -/
theorem sameVerdict_structureFindings :
    d.structureFindings.SameVerdict e.structureFindings := by
  have hversion : versionFindings d = versionFindings e := by
    rw [versionFindings, versionFindings, h.version]
  rw [Document.structureFindings, Document.structureFindings, hversion]
  exact (((SameVerdict.refl _).append (sameVerdict_servicesFindings h)).append
    (sameVerdict_profilesFindings h)).append (sameVerdict_deploymentFindings h)

end Structure

/-! ### The reference check -/

/-- The undefined service that is reported at a pair, unless it was reported before. -/
def announced (d : Document) (reported : List String) (p : DeployedPair) : List Finding :=
  if reported.contains p.service then [] else serviceReference d p

/-- The undefined services that were reported when a pair has been checked. -/
def reportedAfter (d : Document) (reported : List String) (p : DeployedPair) : List String :=
  if d.services.contains p.service then reported else p.service :: reported

theorem mem_reportedAfter {reported : List String} {p : DeployedPair} {s : String} :
    s ∈ reportedAfter d reported p ↔
      s ∈ reported ∨ d.services.contains p.service = false ∧ s = p.service := by
  rw [reportedAfter]
  split
  · rename_i h
    simp [h]
  · rename_i h
    rw [List.mem_cons, Bool.not_eq_true] at *
    simp only [h, true_and]
    exact or_comm

/-- What is reported depends on **which services** were reported before, not on their order. -/
theorem referencesFrom_congr {reported reported' : List String} (ps : List DeployedPair)
    (h : ∀ s, s ∈ reported ↔ s ∈ reported') :
    referencesFrom d reported ps = referencesFrom d reported' ps := by
  induction ps generalizing reported reported' with
  | nil => rfl
  | cons p ps ih =>
    have hcontains : reported.contains p.service = reported'.contains p.service := by
      rw [Bool.eq_iff_iff, List.contains_iff_mem, List.contains_iff_mem, h]
    have hafter : ∀ s, s ∈ reportedAfter d reported p ↔ s ∈ reportedAfter d reported' p :=
      fun s => by rw [mem_reportedAfter, mem_reportedAfter, h]
    rw [referencesFrom, referencesFrom, pairReferences, pairReferences, hcontains]
    exact congrArg _ (ih hafter)

/-- The pair that is checked **first** reports the service, if two pairs have the same one. -/
theorem perm_announced (reported : List String) (p q : DeployedPair) :
    (announced d reported p ++ announced d (reportedAfter d reported p) q).Perm
      (announced d reported q ++ announced d (reportedAfter d reported q) p) := by
  by_cases hs : p.service = q.service
  · simp only [announced, reportedAfter, serviceReference, hs]
    exact .refl _
  · have hother : ∀ p q : DeployedPair, p.service ≠ q.service →
        announced d (reportedAfter d reported p) q = announced d reported q := by
      intro p q hs
      have hcontains : (reportedAfter d reported p).contains q.service =
          reported.contains q.service := by
        rw [Bool.eq_iff_iff, List.contains_iff_mem, List.contains_iff_mem, mem_reportedAfter]
        exact or_iff_left fun h => hs h.2.symm
      rw [announced, announced, hcontains]
    rw [hother p q hs, hother q p (Ne.symm hs)]
    exact List.perm_append_comm

/-- Two pairs that follow each other can be **swapped**. -/
theorem perm_referencesFrom_swap (reported : List String) (p q : DeployedPair)
    (ps : List DeployedPair) :
    (referencesFrom d reported (p :: q :: ps)).Perm (referencesFrom d reported (q :: p :: ps)) := by
  have hstep : ∀ r p ps, referencesFrom d r (p :: ps) = announced d r p
      ++ (placementReference d p ++ profileReference d p)
      ++ referencesFrom d (reportedAfter d r p) ps := fun r p ps => by
    rw [← List.append_assoc]
    rfl
  have hrest : referencesFrom d (reportedAfter d (reportedAfter d reported p) q) ps =
      referencesFrom d (reportedAfter d (reportedAfter d reported q) p) ps :=
    referencesFrom_congr ps fun s => by simp only [mem_reportedAfter]; tauto
  have hannounced := perm_announced (d := d) reported p q
  rw [hstep, hstep, hstep, hstep, hrest]
  rw [List.perm_iff_count] at hannounced ⊢
  intro f
  have := hannounced f
  simp only [List.count_append] at this ⊢
  omega

/-- **The reference check** finds the same in any order of the pairs, whatever was reported before. -/
theorem perm_referencesFrom {ps qs : List DeployedPair} (h : ps.Perm qs) (reported : List String) :
    (referencesFrom d reported ps).Perm (referencesFrom d reported qs) := by
  induction h generalizing reported with
  | nil => exact .nil
  | cons p _ ih =>
    rw [referencesFrom, referencesFrom]
    exact (ih _).append_left _
  | swap p q ps => exact perm_referencesFrom_swap reported q p ps
  | trans _ _ ih ih' => exact (ih reported).trans (ih' reported)

section References

variable (h : d.Reordered e)

include h

theorem placementReference_eq (p : DeployedPair) :
    placementReference d p = placementReference e p := by
  have hrel := h.placementProfiles.rel_get? p.placement
  rw [placementReference, placementReference]
  generalize d.placementProfiles.get? p.placement = a at hrel
  generalize e.placementProfiles.get? p.placement = b at hrel
  cases hrel with
  | none => rfl
  | some hpq => simp only [hpq.pricing.contains_eq]

theorem pairReferences_eq (reported : List String) (p : DeployedPair) :
    pairReferences d reported p = pairReferences e reported p := by
  have hcompute : d.computeProfiles.contains = e.computeProfiles.contains :=
    funext h.computeProfiles.contains_eq
  rw [pairReferences, pairReferences, serviceReference, serviceReference, h.services.contains_eq,
    placementReference_eq h, profileReference, profileReference, hcompute]

theorem referencesFrom_eq (reported : List String) (ps : List DeployedPair) :
    referencesFrom d reported ps = referencesFrom e reported ps := by
  induction ps generalizing reported with
  | nil => rfl
  | cons p ps ih =>
    rw [referencesFrom, referencesFrom, pairReferences_eq h, ih, h.services.contains_eq]

/-- **The reference check** of a document does not depend on its order. -/
theorem perm_referenceFindings : d.referenceFindings.Perm e.referenceFindings := by
  rw [Document.referenceFindings, referencesFrom_eq h]
  exact perm_referencesFrom h.pairs_perm []

end References

/-! ### The report -/

/-- The wordings of the same findings are the same. -/
theorem perm_addAll {fs gs : List Finding} (h : fs.Perm gs) (r : Report) :
    (r.addAll fs).errors.Perm (r.addAll gs).errors ∧
      (r.addAll fs).warnings.Perm (r.addAll gs).warnings :=
  ⟨((h.filter _).map _).append_left _, ((h.filter _).map _).append_left _⟩

/-! ### The groups -/

/-- A pass through the same things **in another order** has the same results, in that order. -/
theorem exists_perm_of_mapM_eq_ok {α β ε : Type} {f : α → Except ε β} {xs ys : List α} {bs : List β}
    (h : xs.Perm ys) (hbs : xs.mapM f = .ok bs) : ∃ cs, ys.mapM f = .ok cs ∧ bs.Perm cs := by
  obtain ⟨cs, hcs, hperm⟩ := List.perm_comp_forall₂ h.symm (mapM_eq_ok_iff.mp hbs)
  exact ⟨cs, mapM_eq_ok_iff.mpr hcs, hperm.symm⟩

/-- The group of a pair, with the **line** that is printed for it if that is asked for. -/
def resolveTelling (d : Document) (debug : Bool) (p : DeployedPair) : Except Stop Group := do
  let g ← resolve d p
  if debug then
    let _ ← orStop (compiledLine g)
  return g

theorem groups_compileTelling (ps : List DeployedPair) :
    (compileTelling d ps).groups = ps.mapM (resolveTelling d true) := by
  induction ps with
  | nil => rfl
  | cons p ps ih =>
    rw [compileTelling, List.mapM_cons, ← ih, resolveTelling]
    cases resolve d p with
    | error s => rfl
    | ok g =>
      simp only [ok_bind, if_true]
      cases orStop (compiledLine g) with
      | error s => rfl
      | ok line =>
        simp only [ok_bind]
        change (compileTelling d ps).groups.map (g :: ·) = _
        cases (compileTelling d ps).groups with
        | error s => rfl
        | ok gs => rfl

theorem groups_compilation (d : Document) (debug : Bool) :
    (d.compilation debug).groups = d.pairs.mapM (resolveTelling d debug) := by
  cases debug with
  | true => exact groups_compileTelling _
  | false =>
    have hstep : resolveTelling d false = resolve d := funext fun p => by
      rw [resolveTelling]
      cases resolve d p <;> rfl
    rw [hstep]
    rfl

theorem resolvePrice_eq {p q : PlacementProfile} (h : p.Reordered q) (service placement : String) :
    resolvePrice service placement p = resolvePrice service placement q := by
  rw [resolvePrice, resolvePrice, h.pricing.get?_eq]

theorem resolveRequirements_eq {p q : PlacementProfile} (h : p.Reordered q) :
    resolveRequirements p = resolveRequirements q := by
  rw [resolveRequirements, resolveRequirements, h.attributes, h.signedBy]

/-- **The group of a pair** does not depend on the order of the document that it is looked up in. -/
theorem resolve_eq (h : d.Reordered e) (p : DeployedPair) : resolve d p = resolve e p := by
  have hcompute : d.computeProfiles.get? = e.computeProfiles.get? :=
    funext h.computeProfiles.get?_eq
  have hrel := h.placementProfiles.rel_get? p.placement
  rw [resolve, resolve, h.services.get?_eq, hcompute]
  generalize d.placementProfiles.get? p.placement = a at hrel
  generalize e.placementProfiles.get? p.placement = b at hrel
  cases hrel with
  | none => rfl
  | some hpq =>
    cases e.services.get? p.service with
    | none => rfl
    | some service =>
      cases (given? p.entry.profile).bind e.computeProfiles.get? with
      | none => rfl
      | some profile => simp only [resolvePrice_eq hpq, resolveRequirements_eq hpq]

theorem resolveTelling_eq (h : d.Reordered e) (debug : Bool) :
    resolveTelling d debug = resolveTelling e debug := by
  funext p
  rw [resolveTelling, resolveTelling, resolve_eq h]

/-! ### The verdict -/

namespace Document

/-- **The order of a document does not matter.** Of two documents that differ in the order of their
entries only, either both have a report or none has, and the reports have the same errors and the same
warnings, each as often; either both are compiled or none is, whether lines are printed on the way or
not, and then they have the same groups in some order. -/
theorem verdict_of_reordered (h : d.Reordered e) (debug : Bool) :
    ((∃ r, d.validate = .ok r) ↔ ∃ r, e.validate = .ok r) ∧
      (∀ r r', d.validate = .ok r → e.validate = .ok r' →
        r.errors.Perm r'.errors ∧ r.warnings.Perm r'.warnings) ∧
      ((∃ s, (d.compilation debug).groups = .error s) ↔
        ∃ s, (e.compilation debug).groups = .error s) ∧
      ∀ gs gs', (d.compilation debug).groups = .ok gs → (e.compilation debug).groups = .ok gs' →
        gs.Perm gs' := by
  have hstructure := sameVerdict_structureFindings h
  rw [groups_compilation, groups_compilation, resolveTelling_eq h]
  -- a pass fails exactly when it does not succeed
  have hfails : ∀ x : Except Stop (List Group), (∃ s, x = .error s) ↔ ¬∃ gs, x = .ok gs := by
    intro x
    cases x <;> simp
  refine ⟨?_, fun r r' hr hr' => ?_, ?_, fun gs gs' hgs hgs' => ?_⟩
  · simp only [validate_eq_ok_iff, exists_and_left, exists_eq, and_true]
    exact hstructure.stopped
  · obtain ⟨hs, rfl⟩ := validate_eq_ok_iff.mp hr
    obtain ⟨-, rfl⟩ := validate_eq_ok_iff.mp hr'
    exact perm_addAll ((hstructure.found hs).append (perm_referenceFindings h)) .empty
  · rw [hfails, hfails, not_iff_not]
    constructor
    · rintro ⟨gs, hgs⟩
      exact (exists_perm_of_mapM_eq_ok h.pairs_perm hgs).imp fun _ h => h.1
    · rintro ⟨gs, hgs⟩
      exact (exists_perm_of_mapM_eq_ok h.pairs_perm.symm hgs).imp fun _ h => h.1
  · obtain ⟨cs, hcs, hperm⟩ := exists_perm_of_mapM_eq_ok h.pairs_perm hgs
    rw [hgs'] at hcs
    exact Except.ok.inj hcs ▸ hperm

/-- A document with **two services**, each deployed once, at a price of its own. -/
def twoServices : Document :=
  let service := fun image => (⟨some image, [], [], none, none, .empty⟩ : Service)
  let price := fun amount => (⟨some "uakt", some amount, .empty⟩ : Price)
  { version := some defaultVersion,
    services := .ofList [("web", service "nginx"), ("api", service "node")],
    profiles := some
      { compute := some (.single "small" ⟨some (.ofTexts "1" "1Gi" []), .empty⟩),
        placement := some (.single "west"
          ⟨.empty, none, .ofList [("web", price "100"), ("api", price "50")], .empty⟩),
        extra := .empty },
    deployment := .ofList [("web", .single "west" ⟨some "small", some 1, .empty⟩),
      ("api", .single "west" ⟨some "small", some 2, .empty⟩)],
    extra := .empty }

/-- The document with two services and the same document turned round have the same two groups, in
turned order. -/
theorem verdict_twoServices :
    twoServices.Reordered twoServices.reversed ∧
      ∃ gs gs', (twoServices.compilation false).groups = .ok gs ∧
        (twoServices.reversed.compilation false).groups = .ok gs' ∧
        gs.map Group.name = ["web", "api"] ∧ gs'.map Group.name = ["api", "web"] ∧ gs.Perm gs' := by
  have hnames : ∀ (d : Document) (names : List String),
      (d.compilation false).groups.toOption.map (·.map Group.name) = some names →
      ∃ gs, (d.compilation false).groups = .ok gs ∧ gs.map Group.name = names := by
    intro d names h
    obtain ⟨gs, hgs, hnames⟩ := Option.map_eq_some_iff.mp h
    exact ⟨gs, toOption_eq_some_iff.mp hgs, hnames⟩
  obtain ⟨gs, hgs, hnames₁⟩ := hnames twoServices ["web", "api"]
    (by decide +kernel)
  obtain ⟨gs', hgs', hnames₂⟩ := hnames twoServices.reversed ["api", "web"]
    (by decide +kernel)
  have hverdict := verdict_of_reordered (reordered_reversed twoServices) false
  exact ⟨reordered_reversed _, gs, gs', hgs, hgs', hnames₁, hnames₂, hverdict.2.2.2 gs gs' hgs hgs'⟩

end Document

end StackManifest
