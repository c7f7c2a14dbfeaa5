import StackManifest.Document.Source
import StackManifest.Validation.References
import StackManifest.Validation.Structure

/-!
# Checking a document

The structural check and then the reference check, into a report. What is printed while the
checks run is part of the result, in `Checking`.

* `Checking` – a report, the **lines printed** on the way and the fault that stopped the
  checks, if one did;
* `Document.checkStructure`, `Document.checkReferences` – one check, added to a report;
* `Document.check` – both checks, from an empty report;
* `Source.check` – the checks of the document of a source, where an error of reading is the
  only finding.
-/

namespace StackManifest

/-- A report, the lines printed on the way, and the fault that stopped the checks. -/
structure Checking where
  report : Report
  printed : List String
  stopped : Option Fault

namespace Document

/-- The line printed after the structural check. -/
def structureLine (r : Report) : String :=
  s!"Debug: Structural validation found {r.errors.length} errors, {r.warnings.length} warnings"

/-- The line printed before the references of a pair are checked. -/
def referenceLine (p : DeployedPair) : String :=
  s!"Debug: Checking deployment {p.service}.{p.placement} -> profile "
    ++ p.entry.profile.getD "None"

/-- The structural check, **added** to a report. -/
def checkStructure (d : Document) (r : Report) : Checking :=
  let fs := d.structureFindings
  let report := r.addAll fs.found
  { report, printed := if fs.stopped.isNone then [structureLine report] else [],
    stopped := fs.stopped }

/-- The reference check, **added** to a report. -/
def checkReferences (d : Document) (r : Report) : Checking :=
  { report := r.addAll d.referenceFindings, printed := d.pairs.map referenceLine,
    stopped := none }

/-- **Both checks**, from an empty report. -/
def check (d : Document) : Checking :=
  let first := d.checkStructure .empty
  match first.stopped with
  | some _ => first
  | none =>
    let second := d.checkReferences first.report
    { second with printed := first.printed ++ second.printed }

/-- The report of both checks, unless a fault stopped them. -/
def validate (d : Document) : Except Fault Report :=
  let c := d.check
  match c.stopped with
  | none => .ok c.report
  | some f => .error f

end Document

/-- The report when there is no document, with the description of the error printed. -/
def StackError.checking (e : StackError) : Checking :=
  { report := Report.empty.error e.message, printed := ["Debug: " ++ e.note.describe],
    stopped := none }

/-- The **checks of a source**: an error of reading is the only finding then. -/
def Source.check (s : Source) : Checking :=
  match Document.parse s with
  | .ok d => d.check
  | .error e => e.checking

end StackManifest
