import StackManifest.Command.Action
import StackManifest.Command.Arguments
import StackManifest.Conversion
import StackManifest.Manifest.Compile
import StackManifest.Manifest.Estimate
import StackManifest.Manifest.Provider
import StackManifest.RightSizing
import StackManifest.Template
import StackManifest.Validation.Check
import StackManifest.Yaml.Writer

/-!
# The commands

What the program does: it checks a file, compiles it into groups, estimates what they cost,
writes a new file from a template, and converts and right-sizes existing ones.

* `validate`, `compile`, `estimate`, `init`, `convert`, `resize` – the **commands**;
* `Request.act` – the command that a request asks for;
* `run` – what comes of a whole command line.
-/

namespace StackManifest.Command

open StackManifest.Console StackManifest.Number

/-! ### Reading a document -/

/-- Why a file is no document. -/
inductive LoadFailure where
  | fault (f : Fault)
  | error (e : StackError)

/-- The wording of a failure. -/
def LoadFailure.message : LoadFailure → String
  | .fault f => f.message
  | .error e => e.message

/-- Which faults a command reports itself, besides errors about the document: that there is no
file, and perhaps those in a value. -/
def LoadFailure.isReported (values : Bool) : LoadFailure → Bool
  | .error _ => true
  | .fault f => f.family == .file || (values && f.isBadValue)

/-- Prints a failure as an **error**. -/
def printError (message : String) : Action Unit :=
  print s!"[bold red]Error: {escape message}[/]"

/-- A result, or an end after a failure: one that is reported ends the command with a status. -/
def orReport (values : Bool) (status : Nat) (r : Except LoadFailure α) : Action α :=
  match r with
  | .ok a => return a
  | .error f =>
    match f.isReported values, f with
    | true, f => do printError f.message; finish status
    | false, .fault f => throw (.stopped f)
    | false, .error _ => finish status

/-- The document of a file. -/
def loadDocument (config : String) : Action (Except LoadFailure Document) := do
  match ← readFile config with
  | .error f => return .error (.fault f)
  | .ok s =>
    match Document.parse (.text s.toList) with
    | .ok d => return .ok d
    | .error e => return .error (.error e)

/-- The **valid document** of a file, where a failure ends the command with a status. What a check
finds is printed, and errors end the command. -/
def loadValid (values : Bool) (status : Nat) (config : String) (debug : Bool) :
    Action Document := do
  let d ← orReport values status (← loadDocument config)
  let c := d.check
  printDebug debug c.printed
  match c.stopped with
  | some f => orReport values status (.error (.fault f))
  | none =>
    for w in c.report.warnings do print s!"[yellow]Warning: {escape w}[/]"
    if c.report.isValid then return d
    for e in c.report.errors do print s!"[red]✗ {escape e}[/]"
    finish 1

/-- The groups of a document, where a failure ends the command with a status. -/
def compileGroups (values : Bool) (status : Nat) (d : Document) (debug : Bool) :
    Action (List Group) := do
  let c := d.compilation debug
  printDebug true c.printed
  orReport values status <| match c.groups with
    | .ok gs => .ok gs
    | .error (.refused r) => .error (.error (.refused r))
    | .error (.fault f) => .error (.fault f)

/-! ### Checking -/

/-- **Checks** a file and lists what is found. -/
def validate (config : String) (debug : Bool) : Action Unit := do
  print s!"[bold blue]Validating {config}...[/]"
  let text ← orReport false 1 ((← readFile (Folder.usualPath config)).mapError .fault)
  let c := Source.check (.text text.toList)
  printDebug debug c.printed
  match c.stopped with
  | some f => throw (.stopped f)
  | none =>
    let r := c.report
    if !r.errors.isEmpty ∨ !r.warnings.isEmpty then
      printGrid {
        title := "SDL Validation", columns := [⟨"Level", .left⟩, ⟨"Message", .left⟩],
        rows := r.errors.map (fun e => ["[red]ERROR[/]", escape e])
          ++ r.warnings.map fun w => ["[yellow]WARNING[/]", escape w] }
    if !r.isValid then
      print s!"[bold red]✗ {r.errors.length} error(s) found[/]"
      finish 1
    print "[green]✓ SDL is valid[/]"

/-! ### Compiling -/

/-- A row of the grid of groups. -/
def groupRow (g : Group) : Except Fault (List String) := do
  let millicores ← g.millicores
  return [g.name, g.placement, s!"{millicores}m",
    ← Size.format (.whole g.resources.memory), ← Size.format (.whole g.totalStorage),
    ← g.count.toText, (← g.price.amount.toText) ++ g.price.denom]

/-- A text in one of the two formats. -/
def dump (format : String) (v : Value) : Except Fault String :=
  if format = "json" then Json.write .indented v else Yaml.write v

/-- **Compiles** a file into groups, and writes the manifest. -/
def compile (config : String) (output : Option String) (format : String) (debug : Bool) :
    Action Unit := do
  print s!"[bold blue]Compiling {config}...[/]"
  let d ← loadValid false 2 config debug
  let gs ← compileGroups false 2 d debug
  printGrid {
    title := "Manifest Groups",
    columns := [⟨"Service", .left⟩, ⟨"Placement", .left⟩, ⟨"CPU", .right⟩, ⟨"Memory", .right⟩,
      ⟨"Storage", .right⟩, ⟨"Count", .right⟩, ⟨"Price", .right⟩],
    rows := ← orStop (gs.mapM groupRow) }
  let manifest ← orStop (ProviderManifest.build d.version gs)
  let text ← orStop (dump format manifest.toValue)
  match output with
  | some path =>
    if path ≠ "" then
      writeFile path text
      print s!"[green]Manifest written to {path}[/]"
  | none => pure ()
  if debug then
    print "\n[bold blue]Generated Manifest:[/]"
    printBare text

/-! ### Estimating -/

/-- A row of the grid of costs. -/
def costRow (g : GroupEstimate) : Except Fault (List String) := do
  return [g.service, g.placement, ← g.count.toText, g.cpu.text,
    ← Size.format (.whole g.memory), ← Size.format (.whole g.storage),
    g.totalCost.text ++ g.denom]

/-- **Estimates** the resources and the cost of a deployment. -/
def estimate (config : String) (debug : Bool) : Action Unit := do
  let d ← loadValid true 2 config debug
  let gs ← compileGroups true 2 d debug
  let e ← orReport true 2 ((Estimate.ofGroups gs).mapError .fault)
  printGrid {
    title := "Resource Estimate",
    columns := [⟨"Service", .left⟩, ⟨"Placement", .left⟩, ⟨"Count", .right⟩, ⟨"CPU", .right⟩,
      ⟨"Memory", .right⟩, ⟨"Storage", .right⟩, ⟨"Cost", .right⟩],
    rows := ← orStop (e.breakdown.mapM costRow) }
  print s!"Total CPU: [bold]{e.cpu.text}[/]"
  let memory ← orStop (Size.format (.whole e.memory))
  print s!"Total memory: [bold]{memory}[/]"
  let storage ← orStop (Size.format (.whole e.storage))
  print s!"Total storage: [bold]{storage}[/]"
  for (denom, amount) in e.cost.toList do
    print s!"Total cost: [bold]{amount.text}{denom}[/] per block"

/-! ### New files -/

/-- Ends the command if a file is there that must not be written over. -/
def keepExisting (output : String) (force : Bool) : Action Unit := do
  if (← hasFile output) ∧ !force then
    print s!"[bold yellow]WARNING: {output} already exists.[/]"
    print "[yellow]Use --force to overwrite the existing file.[/]"
    finish 1

/-- Writes a **new file** from a template. -/
def init (template output : String) (name image : Option String) (count : Option Int)
    (force debug : Bool) : Action Unit := do
  keepExisting output force
  let given : Entries :=
    [(.text "name", .ofText? name), (.text "image", .ofText? image), (.text "count", .ofInt? count)]
  let r := render template given
  printDebug debug r.printed
  let text ← orReport true 1 (r.text.mapError .fault)
  discard (orReport true 1 ((Document.parse (.text text.toList)).mapError .error))
  writeFile output text
  print s!"[green]SDL template '{template}' written to {output}[/]"

/-- The mapping of a markup file. Its faults are reported, if they are about the markup. -/
def loadMapping (config : String) : Action Value := do
  let text ← orReport false 1 ((← readFile config).mapError .fault)
  match Yaml.read text.toList with
  | .error .markup => do printError ""; finish 1
  | .error f => throw (.stopped f)
  | .ok (.map l es) => return .map l es
  | .ok _ => do
    print "[bold red]Error: Invalid SDL syntax[/]"
    finish 1

/-- **Converts** a file of the first layout. -/
def convert (config output : String) : Action Unit := do
  let data ← loadMapping config
  writeFile output (← orStop (do Yaml.write (← Conversion.convert data)))
  print s!"[green]Converted SDL written to {output}[/]"
  print "[yellow]Add a 'default' placement profile with pricing before deploying.[/]"

/-- An amount of a mapping that may be missing, as it is shown. -/
def shownAmount (v : Value) (name : String) : Except Fault String := do
  return escape (← (← v.fieldOr name (.text "-")).toText)

/-- A row of the grid of compute profiles. -/
def profileRow (name profile : Value) : Except Fault (List String) := do
  let resources := (← profile.orEmpty.field "resources").orEmpty
  let storage ← resources.field "storage"
  let volume := match storage with
    | .list _ (v :: _) => v
    | v => v.orEmpty
  return [escape (← name.toText),
    ← shownAmount (← resources.field "cpu").orEmpty "units",
    ← shownAmount (← resources.field "memory").orEmpty "size",
    ← shownAmount volume "size"]

/-- **Right-sizes** the compute profiles of a file. -/
def resize (config output : String) (force : Bool) : Action Unit := do
  keepExisting output force
  let data ← loadMapping config
  let resized ← orStop (RightSizing.resize data)
  let rows ← orStop do
    let compute ← (← resized.field "profiles").orEmpty.sectionEntries "compute" "items"
    compute.mapM fun e => profileRow e.1 e.2
  printGrid {
    title := "Compute Profiles",
    columns := [⟨"Profile", .left⟩, ⟨"CPU", .right⟩, ⟨"Memory", .right⟩, ⟨"Storage", .right⟩],
    rows }
  writeFile output (← orStop (Yaml.write resized))
  print s!"[green]Optimized SDL written to {output}[/]"

/-! ### Command lines -/

/-- The **command** that a request asks for. -/
def Request.act : Request → Action Unit
  | .validate config debug => Command.validate config debug
  | .compile config output format debug => Command.compile config output format debug
  | .estimate config debug => Command.estimate config debug
  | .init template output name image count force debug =>
    Command.init template output name image count force debug
  | .convert config output => Command.convert config output
  | .resize config output force => Command.resize config output force

/-- What comes of a whole **command line**. -/
def run (args : List String) (folder : Folder) : Outcome :=
  match Request.read args with
  | .error m => { lines := [], status := m.status, stopped := none, folder }
  | .ok r => r.act.outcome folder

end StackManifest.Command
