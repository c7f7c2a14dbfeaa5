import StackManifest.Proofs.Checks.Runs
import StackManifest.Session

/-!
# The report of a session

A session has one report, to which all its checks add. Does anything that a session does depend on
what the report holds by then? A session that has more at the beginning of its report takes the
same steps with the same answers and the same failures, and it has more at the beginning of its
report afterwards (`StackManifest.Session.run_after`). Only the four steps that answer with the
report itself answer with more at its beginning.

* `StackManifest.Session.after` – a session with more at the beginning of its report;
* `StackManifest.Step.carry` – what becomes of the answer to a step;
* `StackManifest.Overlooks` – what a session does **without a look at its report**. Everything
  that steps are put together from is of this sort, and so is every step
  (`StackManifest.Session.overlooks_take`).
-/

namespace StackManifest

variable {α β : Type} {r : Report}

/-- A session **after a report**: one with more at the beginning of its own. -/
def Session.after (s : Session) (r : Report) : Session := { s with report := r ++ s.report }

/-- An answer **after a report**: a report has more at its beginning. -/
def Answer.after (r : Report) : Answer → Answer
  | .report r' => .report (r ++ r')
  | a => a

/-- What becomes of the **answer to a step** in a session after a report. The report that is
answered is the one of the session for four steps; both checks together have a report of their
own. -/
def Step.carry (r : Report) : Step → Answer → Answer
  | .structural | .references | .error _ | .warn _ => Answer.after r
  | _ => id

/-- What a session does **without a look at its report**. After a report it fails in the same way
or has the same result, up to what becomes of it, and leaves the same session after the report. -/
def Overlooks (r : Report) (carry : α → α) (x : Taking α) : Prop :=
  ∀ s : Session, x.run.run (s.after r) = ((x.run.run s).1.map carry, (x.run.run s).2.after r)

/-! ### What steps are put together from -/

/-- What one thing after another comes to. -/
theorem Taking.run_bind (x : Taking α) (f : α → Taking β) (s : Session) :
    (x >>= f).run.run s =
      match x.run.run s with
      | (.ok a, s') => (f a).run.run s'
      | (.error e, s') => (.error e, s') := by
  rw [ExceptT.run_bind, StateT.run_bind]
  rcases x.run.run s with ⟨_ | a, s'⟩ <;> rfl

namespace Overlooks

variable {x : Taking α} {f : α → Taking β} {carry : β → β}

theorem pure (a : α) : Overlooks r id (Pure.pure a) := fun _ => rfl

theorem throw (e : Failure) (carry : α → α) : Overlooks r carry (MonadExcept.throw e) :=
  fun _ => rfl

theorem bind (hx : Overlooks r id x) (hf : ∀ a, Overlooks r carry (f a)) :
    Overlooks r carry (x >>= f) := by
  intro s
  rw [Taking.run_bind, Taking.run_bind, hx s]
  rcases x.run.run s with ⟨_ | a, s'⟩
  · rfl
  · exact hf a s'

/-- A look at a session, but not at its report. -/
theorem get_bind {f : Session → Taking β} (hf : ∀ s, Overlooks r carry (f s))
    (hafter : ∀ s, f (s.after r) = f s) : Overlooks r carry (get >>= f) := by
  intro s
  change (f (s.after r)).run.run (s.after r) = _
  rw [hafter]
  exact hf s s

theorem modifyGet {f : Session → α × Session}
    (hf : ∀ s, f (s.after r) = ((f s).1, (f s).2.after r)) : Overlooks r id (modifyGet f) := by
  intro s
  change (Except.ok (f (s.after r)).1, (f (s.after r)).2) = _
  rw [hf]
  rfl

theorem modify {f : Session → Session} (hf : ∀ s, f (s.after r) = (f s).after r) :
    Overlooks r id (modify f) := by
  intro s
  change (Except.ok PUnit.unit, f (s.after r)) = _
  rw [hf]
  rfl

theorem mapM {γ : Type} {g : γ → Taking α} (hg : ∀ a, Overlooks r id (g a)) (l : List γ) :
    Overlooks r id (l.mapM g) := by
  induction l with
  | nil => exact pure []
  | cons a l ih =>
    rw [List.mapM_cons]
    exact (hg a).bind fun _ => ih.bind fun _ => pure _

end Overlooks

namespace Session

theorem overlooks_orFault (x : Except Fault α) : Overlooks r id (orFault x) := by
  cases x with
  | ok a => exact .pure a
  | error e => exact .throw _ id

theorem overlooks_theDocument (member : String) : Overlooks r id (theDocument member) := by
  refine .get_bind (fun s => ?_) fun _ => rfl
  cases s.document with
  | some d => exact .pure d
  | none => exact .throw _ id

theorem overlooks_theGroups : Overlooks r id theGroups := by
  refine .get_bind (fun s => ?_) fun _ => rfl
  cases s.groups with
  | some gs => exact .pure gs
  | none => exact .throw _ id

theorem overlooks_renew (v : Value) : Overlooks r id (renew v) := .modifyGet fun _ => rfl

theorem overlooks_copy (v : Value) : Overlooks r id (copy v) := .modifyGet fun _ => rfl

theorem overlooks_takeData (v : Value) : Overlooks r id (takeData v) :=
  (Overlooks.modifyGet fun _ => rfl).bind fun _ =>
    (Overlooks.modify fun _ => rfl).bind fun _ => .pure _

theorem overlooks_assign (path : List Value) (value : Value) :
    Overlooks r id (assign path value) := by
  refine (Overlooks.mapM overlooks_renew path).bind fun path =>
    (overlooks_renew value).bind fun value =>
      .get_bind (fun s => (overlooks_orFault _).bind fun p => ?_) fun _ => rfl
  exact (Overlooks.modify fun _ => rfl).bind fun _ => .get_bind (fun s => .pure _) fun _ => rfl

theorem overlooks_parseData : Overlooks r id parseData := by
  refine .get_bind (fun s => ?_) fun _ => rfl
  dsimp only
  split
  · refine (Overlooks.pure _).bind fun v => ?_
    cases Document.ofData v with
    | ok d => exact .pure d
    | error e => exact .throw _ id
  · refine Overlooks.bind ?_ fun v => (overlooks_renew v).bind fun w => ?_
    · cases (Source.ofValue s.data).plainData with
      | ok v => exact .pure v
      | error e => exact .throw _ id
    · cases Document.ofData w with
      | ok d => exact .pure d
      | error e => exact .throw _ id

/-- **A check that only adds** is carried over, with the report in the answer. -/
theorem overlooks_runCheck {check : Report → Checking} (h : OnlyAdds check) :
    Overlooks r (Answer.after r) (get >>= fun s => runCheck (check s.report)) := by
  intro s
  change (runCheck (check (r ++ s.report))).run.run (s.after r) =
    Prod.map (Except.map (Answer.after r)) (Session.after · r)
      ((runCheck (check s.report)).run.run s)
  have hreport : (check (r ++ s.report)).report = r ++ (check s.report).report := by
    rw [h.report, h.report s.report, Report.append_assoc]
  have hstopped : (check (r ++ s.report)).stopped = (check s.report).stopped := by
    rw [h.stopped, h.stopped s.report]
  rw [runCheck, runCheck, hreport, hstopped]
  cases (check s.report).stopped <;> rfl

/-- **A message** is carried over, with the report in the answer. -/
theorem overlooks_addFinding {f : Report → Report} (h : ∀ r', f r' = r' ++ f .empty) :
    Overlooks r (Answer.after r) (addFinding f) := by
  intro s
  change (Except.ok (Answer.report (f (r ++ s.report))), { s with report := f (r ++ s.report) }) =
    (Except.ok (Answer.report (r ++ f s.report)), { s with report := r ++ f s.report })
  rw [h (r ++ s.report), Report.append_assoc, ← h]

theorem overlooks_compile : Overlooks r id compile := by
  refine (overlooks_theDocument _).bind fun d => ?_
  split
  · exact .throw _ id
  · exact .throw _ id
  · refine .get_bind (fun s => ?_) fun _ => rfl
    exact (Overlooks.modify fun _ => rfl).bind fun _ => .pure _

theorem overlooks_price (index : Int) (amount : Value) (denom : Option String) :
    Overlooks r id (price index amount denom) := by
  refine .get_bind (fun s => ?_) fun _ => rfl
  cases s.groups with
  | none => exact .throw _ id
  | some gs =>
    refine (overlooks_orFault _).bind fun i => ?_
    split
    · exact .throw _ id
    · exact (Overlooks.modify fun _ => rfl).bind fun _ => .pure _

/-- **A step does not look at the report** of its session. -/
theorem overlooks_take (t : Step) : Overlooks r (t.carry r) (take t) := by
  cases t with
  | load =>
    refine .get_bind (fun s => (overlooks_orFault _).bind fun v => ?_) fun _ => rfl
    exact (overlooks_renew v).bind overlooks_takeData
  | assign path value => exact overlooks_assign path value
  | convert => exact .get_bind (fun s => (overlooks_orFault _).bind overlooks_takeData) fun _ => rfl
  | resize =>
    refine .get_bind (fun s => (overlooks_copy _).bind fun v => ?_) fun _ => rfl
    exact (overlooks_orFault _).bind overlooks_takeData
  | render kind given => exact (overlooks_orFault _).bind fun _ => overlooks_takeData _
  | parse =>
    exact overlooks_parseData.bind fun d => (Overlooks.modify fun _ => rfl).bind fun _ => .pure _
  | reparse =>
    refine .get_bind (fun s => ?_) fun _ => rfl
    split
    · exact .throw _ id
    · exact overlooks_parseData.bind fun _ => .pure _
  | redump => exact (overlooks_theDocument _).bind fun _ => overlooks_takeData _
  | structural =>
    exact (overlooks_theDocument _).bind fun d =>
      overlooks_runCheck (Recording.onlyAdds_onto (.structural d))
  | references =>
    exact (overlooks_theDocument _).bind fun d =>
      overlooks_runCheck (Recording.onlyAdds_onto (.references d))
  | error m => exact overlooks_addFinding (Recording.onlyAdds_onto (.error m)).report
  | warn m => exact overlooks_addFinding (Recording.onlyAdds_onto (.warn m)).report
  | validate =>
    exact (overlooks_theDocument _).bind fun d => (overlooks_orFault _).bind fun _ => .pure _
  | compile => exact overlooks_compile
  | price index amount denom => exact overlooks_price index amount denom
  | build => exact overlooks_theGroups.bind fun gs => (overlooks_orFault _).bind fun _ => .pure _
  | estimate => exact overlooks_theGroups.bind fun gs => (overlooks_orFault _).bind fun _ => .pure _

/-! ### Steps and runs -/

/-- **One step after a report.** -/
theorem step_after (s : Session) (r : Report) (t : Step) :
    (s.after r).step t = ((s.step t).1.map (t.carry r), (s.step t).2.after r) :=
  overlooks_take t s

/-- **What a session does never depends on what its report holds.** Several steps after a report
have the same failures and the same answers, with more at the beginning of the reports that are
answered. -/
theorem run_after (s : Session) (r : Report) (ts : List Step) :
    (s.after r).run ts = List.zipWith (fun t a => a.map (t.carry r)) ts (s.run ts) := by
  induction ts generalizing s with
  | nil => rfl
  | cons t ts ih =>
    rw [run, run, step_after, List.zipWith_cons_cons]
    exact congrArg _ (ih _)

/-- **A step only adds** to the report of its session. -/
theorem exists_report_step (s : Session) (t : Step) :
    ∃ added, (s.step t).2.report = s.report ++ added := by
  have hs : Session.after { s with report := .empty } s.report = s := by
    rw [after, Report.append_empty]
  have hstep := congrArg (fun p => p.2.report) (step_after { s with report := .empty } s.report t)
  rw [hs] at hstep
  exact ⟨_, hstep⟩

end Session

end StackManifest
