import StackManifest.Proofs.Checks.References

/-!
# Checks that share a report

Several checks can be made on one report, each on what the ones before have left there. Does what
a check says depend on what the report holds already, or on the checks before it? It does not: a
check **only adds** to a report (`StackManifest.OnlyAdds`), and whether it is stopped does not
depend on the report either. A run of checks that is not stopped therefore leaves the report of
the beginning, followed by the reports that its checks have alone
(`StackManifest.Recording.runAll_returned_iff`), and the report of a document is that of its
structural check followed by the errors of its reference check.

* `StackManifest.Recording` – what can be done to a report: a check of a document, or one message;
* `StackManifest.Recording.runAll` – several of them, up to the first that is stopped;
* `StackManifest.Findings.onto` – the findings of a check, added to a report. A check that is put
  together from others adds them as if each were made on the report that the others leave
  (`StackManifest.Findings.onto_append`, `StackManifest.Findings.onto_join`,
  `StackManifest.onto_referencesFrom_cons`).

The lines that are printed on the way are left out of all this. The line after a structural check
says how long the report is by then, so it does depend on what is there already.
-/

namespace StackManifest

/-! ### Reports, one after the other -/

namespace Report

/-- A report **followed by** another one: the errors one after the other, and the warnings. -/
def append (a b : Report) : Report := ⟨a.errors ++ b.errors, a.warnings ++ b.warnings⟩

instance : Append Report := ⟨append⟩

@[simp] theorem errors_append (a b : Report) : (a ++ b).errors = a.errors ++ b.errors := rfl

@[simp] theorem warnings_append (a b : Report) : (a ++ b).warnings = a.warnings ++ b.warnings := rfl

@[simp] theorem empty_append (r : Report) : Report.empty ++ r = r := rfl

@[simp] theorem append_empty (r : Report) : r ++ Report.empty = r := by
  change append r .empty = r
  simp [append, empty]

theorem append_assoc (a b c : Report) : a ++ b ++ c = a ++ (b ++ c) := by
  change append (append a b) c = append a (append b c)
  simp [append]

theorem eq_iff {a b : Report} : a = b ↔ a.errors = b.errors ∧ a.warnings = b.warnings := by
  cases a
  cases b
  rw [mk.injEq]

/-- Several reports, one **after the other**. -/
def join (rs : List Report) : Report := rs.foldr (· ++ ·) .empty

@[simp] theorem join_nil : join [] = .empty := rfl

@[simp] theorem join_cons (r : Report) (rs : List Report) : join (r :: rs) = r ++ join rs := rfl

theorem errors_join (rs : List Report) : (join rs).errors = rs.flatMap Report.errors := by
  induction rs with
  | nil => rfl
  | cons r rs ih => rw [join_cons, errors_append, ih, List.flatMap_cons]

theorem warnings_join (rs : List Report) : (join rs).warnings = rs.flatMap Report.warnings := by
  induction rs with
  | nil => rfl
  | cons r rs ih => rw [join_cons, warnings_append, ih, List.flatMap_cons]

theorem error_eq_append (r : Report) (m : String) : r.error m = r ++ Report.empty.error m := by
  change _ = append ..
  simp [error, append, empty]

theorem warn_eq_append (r : Report) (m : String) : r.warn m = r ++ Report.empty.warn m := by
  change _ = append ..
  simp [warn, append, empty]

theorem addAll_eq_append (r : Report) (fs : List Finding) :
    r.addAll fs = r ++ Report.empty.addAll fs := by
  change _ = append ..
  simp [addAll, append, empty]

theorem addAll_append (r : Report) (fs gs : List Finding) :
    r.addAll (fs ++ gs) = (r.addAll fs).addAll gs := by
  simp [addAll]

end Report

/-! ### Checks, one after the other -/

namespace Checking

/-- The report that a check **returns**, which it does unless a fault stops it. -/
def returned (c : Checking) : Except Fault Report :=
  match c.stopped with
  | none => .ok c.report
  | some f => .error f

theorem returned_eq_ok_iff {c : Checking} {r : Report} :
    c.returned = .ok r ↔ c.stopped = none ∧ c.report = r := by
  rw [returned]
  cases c.stopped <;> simp

/-- A check and **then** another one on the report that it leaves, unless it was stopped. -/
def andThen (c : Checking) (next : Report → Checking) : Checking :=
  match c.stopped with
  | some _ => c
  | none =>
    let second := next c.report
    { second with printed := c.printed ++ second.printed }

theorem andThen_of_stopped {c : Checking} {f : Fault} (h : c.stopped = some f)
    (next : Report → Checking) : c.andThen next = c := by
  rw [andThen, h]

theorem report_andThen {c : Checking} (h : c.stopped = none) (next : Report → Checking) :
    (c.andThen next).report = (next c.report).report := by
  rw [andThen, h]

theorem stopped_andThen {c : Checking} (h : c.stopped = none) (next : Report → Checking) :
    (c.andThen next).stopped = (next c.report).stopped := by
  rw [andThen, h]

/-- A check and another one return exactly when both do, the second on the report of the first. -/
theorem returned_andThen_eq_ok_iff {c : Checking} {next : Report → Checking} {r : Report} :
    (c.andThen next).returned = .ok r ↔ ∃ a, c.returned = .ok a ∧ (next a).returned = .ok r := by
  simp only [returned_eq_ok_iff]
  cases h : c.stopped with
  | some f => simp [andThen_of_stopped h, h]
  | none => simp [report_andThen h, stopped_andThen h]

/-- Several checks on one report, up to the first that is **stopped**. -/
def all : List (Report → Checking) → Report → Checking
  | [], r => { report := r, printed := [], stopped := none }
  | check :: checks, r => (check r).andThen (all checks)

end Checking

/-! ### Checks that only add -/

variable {check next : Report → Checking}

/-- A check that **only adds** to a report: what it adds, and what stops it, does not depend on
what the report holds. -/
structure OnlyAdds (check : Report → Checking) : Prop where
  report : ∀ r, (check r).report = r ++ (check .empty).report
  stopped : ∀ r, (check r).stopped = (check .empty).stopped

theorem OnlyAdds.returned_iff (h : OnlyAdds check) {r r' : Report} :
    (check r).returned = .ok r' ↔ ∃ a, (check .empty).returned = .ok a ∧ r' = r ++ a := by
  simp only [Checking.returned_eq_ok_iff, h.stopped r, h.report r, and_assoc]
  simp [eq_comm]

/-- Checks that only add, **one after the other**, only add. -/
theorem OnlyAdds.andThen (h : OnlyAdds check) (hn : OnlyAdds next) :
    OnlyAdds fun r => (check r).andThen next := by
  cases hs : (check .empty).stopped with
  | some f =>
    have hall : ∀ r, (check r).andThen next = check r := fun r =>
      Checking.andThen_of_stopped ((h.stopped r).trans hs) next
    exact ⟨fun r => by rw [hall, hall, h.report], fun r => by rw [hall, hall, h.stopped]⟩
  | none =>
    have hall : ∀ r, (check r).stopped = none := fun r => (h.stopped r).trans hs
    constructor <;> intro r
    · rw [Checking.report_andThen (hall r), Checking.report_andThen hs, hn.report (check r).report,
        hn.report (check .empty).report, h.report r, Report.append_assoc]
    · rw [Checking.stopped_andThen (hall r), Checking.stopped_andThen hs,
        hn.stopped (check r).report, hn.stopped (check .empty).report]

/-- **Several checks that only add**, one after the other, only add. -/
theorem OnlyAdds.all {checks : List (Report → Checking)} (h : ∀ c ∈ checks, OnlyAdds c) :
    OnlyAdds (Checking.all checks) := by
  induction checks with
  | nil => exact ⟨fun r => (Report.append_empty r).symm, fun _ => rfl⟩
  | cons c checks ih =>
    obtain ⟨hc, hchecks⟩ := List.forall_mem_cons.mp h
    exact hc.andThen (ih hchecks)

/-- **Several checks that only add** return exactly when each of them returns alone, and then the
report has what each has alone. -/
theorem OnlyAdds.returned_all_iff {checks : List (Report → Checking)}
    (h : ∀ c ∈ checks, OnlyAdds c) {r r' : Report} :
    (Checking.all checks r).returned = .ok r' ↔
      ∃ alone : List Report,
        List.Forall₂ (fun c a => (c .empty).returned = .ok a) checks alone ∧
          r' = r ++ Report.join alone := by
  induction checks generalizing r with
  | nil =>
    rw [Checking.all, Checking.returned_eq_ok_iff]
    constructor
    · rintro ⟨-, rfl⟩
      exact ⟨[], .nil, (Report.append_empty r).symm⟩
    · rintro ⟨_, ⟨⟩, rfl⟩
      exact ⟨rfl, (Report.append_empty r).symm⟩
  | cons c checks ih =>
    obtain ⟨hc, hchecks⟩ := List.forall_mem_cons.mp h
    rw [Checking.all, Checking.returned_andThen_eq_ok_iff]
    constructor
    · rintro ⟨b, hb, hrest⟩
      obtain ⟨a, ha, rfl⟩ := hc.returned_iff.mp hb
      obtain ⟨alone, hall, rfl⟩ := (ih hchecks).mp hrest
      exact ⟨a :: alone, .cons ha hall, Report.append_assoc ..⟩
    · rintro ⟨_, ha | ⟨ha, hall⟩, rfl⟩
      exact ⟨_, hc.returned_iff.mpr ⟨_, ha, rfl⟩,
        (ih hchecks).mpr ⟨_, hall, (Report.append_assoc ..).symm⟩⟩

/-! ### The findings of a check, on a report -/

namespace Findings

/-- The findings of a check, **added** to a report. -/
def onto (c : Findings) (r : Report) : Checking :=
  { report := r.addAll c.found, printed := [], stopped := c.stopped }

theorem onlyAdds_onto (c : Findings) : OnlyAdds c.onto :=
  ⟨fun r => r.addAll_eq_append c.found, fun _ => rfl⟩

/-- **A check after another one** is made on the report that the other one leaves, and not at all
if that one was stopped. -/
theorem onto_append (a b : Findings) (r : Report) :
    (a ++ b).onto r = (a.onto r).andThen b.onto := by
  change (a.append b).onto r = _
  rw [append]
  cases h : a.stopped with
  | some f => rw [Checking.andThen_of_stopped (c := a.onto r) h]
  | none => simp [onto, Checking.andThen, h, Report.addAll_append]

/-- **A loop of checks** is made on one report, each on what the ones before have left there. -/
theorem onto_join (cs : List Findings) (r : Report) :
    (join cs).onto r = Checking.all (cs.map onto) r := by
  induction cs generalizing r with
  | nil => simp [join, onto, none, Report.addAll, Checking.all]
  | cons c cs ih =>
    rw [join, onto_append, List.map_cons, Checking.all]
    congr 1
    exact funext ih

end Findings

/-- The structural check is made **section by section** on one report. -/
theorem Document.onto_structureFindings (d : Document) (r : Report) :
    d.structureFindings.onto r =
      ((((versionFindings d).onto r).andThen (servicesFindings d).onto).andThen
        (profilesFindings d).onto).andThen (deploymentFindings d).onto := by
  rw [Document.structureFindings, Findings.onto_append, Findings.onto_append,
    Findings.onto_append]

/-- The reference check is made **pair by pair** on one report. What it remembers from pair to pair
are the services that it has reported itself, and not what the report holds. -/
theorem onto_referencesFrom_cons (d : Document) (reported : List String) (p : DeployedPair)
    (ps : List DeployedPair) (r : Report) :
    Findings.onto ⟨referencesFrom d reported (p :: ps), none⟩ r =
      (Findings.onto ⟨pairReferences d reported p, none⟩ r).andThen
        (Findings.onto ⟨referencesFrom d
          (if d.services.contains p.service then reported else p.service :: reported) ps, none⟩) :=
  Findings.onto_append ⟨_, none⟩ ⟨_, none⟩ r

/-! ### Runs -/

/-- What can be **done to a report**: one of the two checks of some document, or one message. -/
inductive Recording where
  | structural (d : Document)
  | references (d : Document)
  | error (message : String)
  | warn (message : String)

namespace Recording

/-- What is done to a report, **done**. -/
def onto : Recording → Report → Checking
  | .structural d, r => d.checkStructure r
  | .references d, r => d.checkReferences r
  | .error m, r => { report := r.error m, printed := [], stopped := none }
  | .warn m, r => { report := r.warn m, printed := [], stopped := none }

/-- A **run**: several things done to one report, up to the first that is stopped. -/
def runAll (es : List Recording) : Report → Checking := Checking.all (es.map onto)

/-- **Whatever is done to a report only adds to it.** -/
theorem onlyAdds_onto (e : Recording) : OnlyAdds e.onto := by
  cases e with
  | structural d => exact ⟨d.structureFindings.onlyAdds_onto.report, fun _ => rfl⟩
  | references d => exact ⟨fun r => r.addAll_eq_append d.referenceFindings, fun _ => rfl⟩
  | error m => exact ⟨fun r => r.error_eq_append m, fun _ => rfl⟩
  | warn m => exact ⟨fun r => r.warn_eq_append m, fun _ => rfl⟩

/-- A run returns exactly when everything in it returns alone, and then it leaves the report of the
beginning with what each has alone after it. -/
theorem runAll_returned_iff_join {es : List Recording} {r r' : Report} :
    (runAll es r).returned = .ok r' ↔
      ∃ alone : List Report,
        List.Forall₂ (fun e a => (e.onto .empty).returned = .ok a) es alone ∧
          r' = r ++ Report.join alone := by
  rw [runAll, OnlyAdds.returned_all_iff (List.forall_mem_map.mpr fun e _ => e.onlyAdds_onto)]
  simp only [List.forall₂_map_left_iff]

end Recording

/-- The two checks of a document are a **run from the empty report**. -/
theorem Document.check_eq_runAll (d : Document) :
    d.check = Recording.runAll [.structural d, .references d] .empty := by
  rw [check, Recording.runAll]
  simp only [List.map_cons, List.map_nil, Checking.all, Recording.onto]
  cases h : (d.checkStructure .empty).stopped with
  | some f => rw [Checking.andThen_of_stopped h]
  | none => simp [Checking.andThen, h, checkReferences]

/-- The reference check **never warns**. -/
theorem Document.warnings_checkReferences (d : Document) :
    (d.checkReferences .empty).report.warnings = [] := by
  change (d.referenceFindings.filter fun f => !f.isError).map Finding.message = []
  rw [List.map_eq_nil_iff, List.filter_eq_nil_iff]
  intro f hf
  simp [isError_of_mem_referenceFindings hf]

/-- **Runs of checks are independent and only add.** A run on a report returns exactly when
everything that is done in it returns alone, on an empty report, and then the errors and the
warnings are those of the beginning followed by those that each has alone, in order. So a document
has a report exactly when its structural check has one, and it is the report of the structural
check with the errors of the reference check after it. -/
theorem Recording.runAll_returned_iff :
    (∀ (es : List Recording) (r r' : Report), (runAll es r).returned = .ok r' ↔
      ∃ alone : List Report,
        List.Forall₂ (fun e a => (onto e .empty).returned = .ok a) es alone ∧
          r'.errors = r.errors ++ alone.flatMap Report.errors ∧
          r'.warnings = r.warnings ++ alone.flatMap Report.warnings) ∧
    ∀ (d : Document) (r : Report), d.validate = .ok r ↔
      ∃ a, (d.checkStructure .empty).returned = .ok a ∧
        r.errors = a.errors ++ (d.checkReferences .empty).report.errors ∧
        r.warnings = a.warnings := by
  constructor
  · intro es r r'
    simp only [runAll_returned_iff_join, Report.eq_iff, Report.errors_append,
      Report.warnings_append, Report.errors_join, Report.warnings_join]
  · intro d r
    change d.check.returned = .ok r ↔ _
    rw [d.check_eq_runAll, runAll_returned_iff_join]
    constructor
    · rintro ⟨_, ha | ⟨ha, hb | ⟨hb, ⟨⟩⟩⟩, rfl⟩
      obtain ⟨-, rfl⟩ := Checking.returned_eq_ok_iff.mp hb
      refine ⟨_, ha, ?_⟩
      simp [onto, d.warnings_checkReferences]
    · rintro ⟨a, ha, herrors, hwarnings⟩
      refine ⟨[a, (d.checkReferences .empty).report], .cons ha (.cons rfl .nil), ?_⟩
      rw [Report.eq_iff]
      simp [herrors, hwarnings, d.warnings_checkReferences]

end StackManifest
