import Mathlib
import StackManifest.Command.Check
import StackManifest.Proofs.Checks.Faults
import StackManifest.Proofs.Command.Actions
import StackManifest.Proofs.Compilation.Ready
import StackManifest.Proofs.Console.Grids
import StackManifest.Proofs.Folders

/-!
# What the commands say of one file

Three commands read the same file: `validate` and `compile`, and the single check that scripts call.
They load and check it in functions of their own, print as they go, and tell what they found by a
status. `StackManifest.Command.statuses_agree` says that the statuses fit together.

What a command tells about a document that could be read depends on the checks of the document alone,
and `StackManifest.Command.verdict` is what it has to tell. Each command is followed once for each
way in which the file can turn out; nothing that is printed on the way can stop it, since everything
that comes from the file is escaped.
-/

namespace StackManifest.Command

open StackManifest.Console StackManifest.Command.Action

variable {folder : Folder} {config text : String} {d : Document}

/-! ### Loading a document -/

/-- How `validate` ends after its list of findings. -/
def printVerdict (r : Report) : Action Unit :=
  if !r.isValid then do
    print s!"[bold red]✗ {r.errors.length} error(s) found[/]"
    finish 1
    print "[green]✓ SDL is valid[/]"
  else print "[green]✓ SDL is valid[/]"

theorem comesTo_printVerdict (r : Report) (f : Folder) :
    (printVerdict r).ComesTo f (if r.isValid then .ok () else .error (.status 1)) f := by
  rw [printVerdict]
  cases r.isValid with
  | true =>
    exact comesTo_print (printable_of_mem_fixedTexts (by decide)) f
  | false =>
    have hwords : "bold red" ∈ usedStyles := by decide
    have hplain : IsPlain ("✗ " ++ toString r.errors.length ++ " error(s) found").toList := by
      simp only [String.toList_append]
      exact (IsPlain.append (by decide) (isPlain_repr _)).append (by decide)
    have htext : "[bold red]✗ " ++ toString r.errors.length ++ " error(s) found[/]" =
        "[" ++ "bold red" ++ "]" ++ ("✗ " ++ toString r.errors.length ++ " error(s) found") ++ "[/]" := by
      have hbefore : "[bold red]✗ " = "[" ++ "bold red" ++ "]" ++ "✗ " := by decide
      have hafter : " error(s) found[/]" = " error(s) found" ++ "[/]" := by decide
      rw [hbefore, hafter]
      simp only [String.append_assoc]
    refine (comesTo_print (printable_styled hwords hplain htext) f).bind ?_
    exact (comesTo_finish 1 f).bind_error

/-- What `compile` does once it has the groups: it shows them, and writes the manifest. -/
def showAndWrite (d : Document) (output : Option String) (format : String) (debug : Bool)
    (gs : List Group) : Action Unit := do
  printGrid {
    title := "Manifest Groups",
    columns := [⟨"Service", .left⟩, ⟨"Placement", .left⟩, ⟨"CPU", .right⟩, ⟨"Memory", .right⟩,
      ⟨"Storage", .right⟩, ⟨"Count", .right⟩, ⟨"Price", .right⟩],
    rows := ← orStop (gs.mapM groupRow) }
  let manifest ← orStop (ProviderManifest.build d.version gs)
  let text ← orStop (dump format manifest.toValue)
  match output with
  | some path =>
    if path ≠ "" then
      writeFile path text
      print s!"[green]Manifest written to {path}[/]"
  | none => pure ()
  if debug then
    print "\n[bold blue]Generated Manifest:[/]"
    printBare text

theorem compile_eq (config : String) (output : Option String) (format : String) (debug : Bool) :
    compile config output format debug = (do
      print s!"[bold blue]Compiling {config}...[/]"
      let d ← loadValid false 2 config debug
      let gs ← compileGroups false 2 d debug
      showAndWrite d output format debug gs) := rfl

end StackManifest.Command
