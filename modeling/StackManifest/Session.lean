import StackManifest.Conversion
import StackManifest.Document.Kept
import StackManifest.Document.Source
import StackManifest.Manifest.Compile
import StackManifest.Manifest.Estimate
import StackManifest.Manifest.Provider
import StackManifest.RightSizing
import StackManifest.Template
import StackManifest.Validation.Check
import StackManifest.Value.Assign
import StackManifest.Value.Label

/-!
# Working sessions

A session takes a document through all stages, in any order: from data to a document, from a
document to groups, from groups to a manifest. It keeps what each stage made last, and one
report that all checks add to. A step that fails changes nothing, except that a check that is
stopped leaves what it found in the report.

* `Session` – the **data**, the document, the groups and the report at a time;
* `Step`, `Answer`, `Failure` – what can be done, and what comes of it;
* `Session.step` – one step;
* `Session.run` – several steps.
-/

namespace StackManifest

/-- What a session has at a time. -/
structure Session where
  data : Value
  document : Option Document
  groups : Option (List Group)
  report : Report
  /-- The first label and mark that no data has had yet. -/
  next : Label

/-- The **steps** of a session. -/
inductive Step where
  /-- Reads the data, a markup text. -/
  | load
  /-- Assigns a value into the data. -/
  | assign (path : List Value) (value : Value)
  | convert
  | resize
  /-- Takes a rendered template as the data. -/
  | render (kind : String) (given : Entries)
  | parse
  /-- Compares the document with that of the data. -/
  | reparse
  /-- Takes the data of the document as the data. -/
  | redump
  | structural
  | references
  | error (message : String)
  | warn (message : String)
  /-- Both checks of the document, with a report of their own. -/
  | validate
  | compile
  /-- Replaces the price of a group. -/
  | price (index : Int) (amount : Value) (denom : Option String)
  | build
  | estimate

/-- What comes of a step. -/
inductive Answer where
  | data (v : Value)
  | document (d : Document)
  /-- Whether the document is equal to that of the data. -/
  | equal (b : Bool)
  | report (r : Report)
  /-- The groups, and whether they differ from those before. -/
  | groups (gs : List Group) (changed : Bool)
  | group (g : Group)
  | manifest (m : ProviderManifest)
  | estimate (e : Estimate)

/-- Why a step fails. -/
inductive Failure where
  | fault (f : Fault)
  | error (e : StackError)

/-- A step as it is taken: what comes of it, and the session after it. -/
abbrev Taking (α : Type) := ExceptT Failure (StateM Session) α

namespace Session

/-- A session with a label on every container of some data, which is given by the first label that
is not in use. -/
def labelling (s : Session) (v : Value) : Value × Session :=
  let (v, next) := v.labelled s.next
  (v, { s with next })

/-- The session with new data taken in, where nothing in the data is part of other data. -/
def renewing (s : Session) (v : Value) : Value × Session :=
  let n := s.next
  { s with next := n + v.maxLabel + 1 }.labelling (v.renewed n)

/-- The session at the beginning. -/
def start (data : Value) : Session :=
  let (data, s) := renewing ⟨.null, none, none, .empty, 1⟩ data
  { s with data }

/-- A result, or the failure that its fault is. -/
def orFault (r : Except Fault α) : Taking α :=
  match r with
  | .ok a => return a
  | .error f => throw (.fault f)

/-- The document, where a member of it is asked for first. -/
def theDocument (member : String) : Taking Document := do
  match (← get).document with
  | some d => return d
  | none => throw (.fault (.noMember "NoneType" member))

/-- The groups, to go through them. -/
def theGroups : Taking (List Group) := do
  match (← get).groups with
  | some gs => return gs
  | none => throw (.fault (.notIterable "NoneType"))

/-- New data, with labels and marks of its own. -/
def renew (v : Value) : Taking Value := modifyGet fun s => s.renewing v

/-- Takes a value as the **data**, whose containers may be those of the data before. -/
def takeData (v : Value) : Taking Answer := do
  let v ← modifyGet fun s => s.labelling v
  modify fun s => { s with data := v }
  return .data v

/-- A copy of a value: new containers with the same values in them. -/
def copy (v : Value) : Taking Value :=
  modifyGet fun s => (v.copied s.next, { s with next := s.next + v.maxLabel + 1 })

/-- **Assigns** a value into the data. The container that changes may stand in several places, also
in those parts of the document that were kept as they are. -/
def assign (path : List Value) (value : Value) : Taking Answer := do
  let path ← path.mapM renew
  let value ← renew value
  let (old, new) ← orFault ((← get).data.assigned path value)
  let change := fun (v : Value) => v.replaced old.label new
  modify fun s => { s with data := change s.data, document := s.document.map (·.mapKept change) }
  return .data (← get).data

/-- The document of the data. A text is read anew each time. -/
def parseData : Taking Document := do
  let orError : {α : Type} → Except StackError α → Taking α := fun r =>
    match r with
    | .ok a => return a
    | .error e => throw (.error e)
  let v ← match Source.ofValue (← get).data with
    | .data v => pure v
    | source => renew (← orError source.plainData)
  orError (Document.ofData v)

/-- The value that a markup text stands for; other data is not read. -/
def readMarkup (v : Value) : Except Fault Value :=
  match v with
  | .text s => Yaml.read s.toList
  | .bytes bs => Yaml.readBytes bs
  | v => .error (.noMember v.kind "read")

/-- Adds a **check** to the report, also what it found before it was stopped. -/
def runCheck (c : Checking) : Taking Answer := do
  modify fun s => { s with report := c.report }
  match c.stopped with
  | none => return .report c.report
  | some f => throw (.fault f)

/-- Adds a finding to the report. -/
def addFinding (f : Report → Report) : Taking Answer := do
  modify fun s => { s with report := f s.report }
  return .report (← get).report

/-- Compiles the document. -/
def compile : Taking Answer := do
  let d ← theDocument "compute_profiles"
  match d.compile with
  | .error (.refused r) => throw (.error (.refused r))
  | .error (.fault f) => throw (.fault f)
  | .ok gs =>
    let changed := match (← get).groups with
      | none => true
      | some old => old.length != gs.length || !(old.zip gs).all fun p => p.1.eqv p.2
    modify fun s => { s with groups := some gs }
    return .groups gs changed

/-- Replaces the **price** of the group at a position. -/
def price (index : Int) (amount : Value) (denom : Option String) : Taking Answer := do
  match (← get).groups with
  | none => throw (.fault (.noElements "NoneType"))
  | some gs =>
    let i ← orFault (Value.listIndex gs.length (.int index))
    match gs[i]? with
    | none => throw (.fault (.beyondEnd "list index"))
    | some g =>
      let g := { g with price := { denom := denom.getD g.price.denom, amount } }
      modify fun s => { s with groups := some (gs.set i g) }
      return .group g

/-- Takes a **step**. -/
def take : Step → Taking Answer
  | .load => do takeData (← renew (← orFault (readMarkup (← get).data)))
  | .assign path value => assign path value
  | .convert => do takeData (← orFault (Conversion.convert (← get).data))
  | .resize => do takeData (← orFault (RightSizing.resize (← copy (← get).data)))
  | .render kind given => do takeData (.text (← orFault (StackManifest.render kind given).text))
  | .parse => do
    let d ← parseData
    modify fun s => { s with document := some d }
    return .document d
  | .reparse => do
    match (← get).document with
    | none => throw (.error .notMapping)
    | some d => return .equal (d.eqv (← parseData))
  | .redump => do takeData (← theDocument "model_dump").toValue
  | .structural => do runCheck ((← theDocument "version").checkStructure (← get).report)
  | .references => do runCheck ((← theDocument "compute_profiles").checkReferences (← get).report)
  | .error m => addFinding (·.error m)
  | .warn m => addFinding (·.warn m)
  | .validate => do return .report (← orFault (← theDocument "version").validate)
  | .compile => compile
  | .price index amount denom => price index amount denom
  | .build => do
    return .manifest
      (← orFault (ProviderManifest.build (some Document.defaultVersion) (← theGroups)))
  | .estimate => do return .estimate (← orFault (Estimate.ofGroups (← theGroups)))

/-- One **step**: what comes of it, and the session after it. -/
def step (s : Session) (t : Step) : Except Failure Answer × Session := (take t).run.run s

/-- Several steps, and what comes of each. -/
def run (s : Session) : List Step → List (Except Failure Answer)
  | [] => []
  | t :: ts =>
    let (a, s) := s.step t
    a :: run s ts

end Session

end StackManifest
