import StackManifest.Command.Action
import StackManifest.Command.Run
import StackManifest.Proofs.Console.Marks

/-!
# What actions come to

A command is a sequence of actions, and how it ends depends on each of them: on what it prints,
since not everything can be printed, and on the files. `StackManifest.Command.Action.Meets` says
that an action ends as a condition on its result and on the files after it demands, whatever was
printed before. A sequence meets a condition by the rule `StackManifest.Command.Action.Meets.bind`,
so that a command is followed **step by step**, with one lemma for each kind of step.

The condition that names one result and one state of the files has its own name,
`StackManifest.Command.Action.ComesTo`; what comes of a whole command is then read off
(`StackManifest.Command.Action.ComesTo.outcome`).
-/

namespace StackManifest.Command

open StackManifest.Console

variable {α β : Type}

namespace Action

/-- An action whose result, and the files after it, are as a condition **demands**. -/
def Meets (a : Action α) (f : Folder) (Q : Except Ending α → Folder → Prop) : Prop :=
  ∀ ls, Q (a.run.run ⟨ls, f⟩).1 (a.run.run ⟨ls, f⟩).2.folder

/-- An action that **comes to** a result, and leaves some files. -/
def ComesTo (a : Action α) (f : Folder) (r : Except Ending α) (f' : Folder) : Prop :=
  a.Meets f fun r' g => r' = r ∧ g = f'

variable {a : Action α} {g : α → Action β} {f f' : Folder}

/-! ### Rules -/

theorem Meets.mono {P Q : Except Ending α → Folder → Prop} (h : a.Meets f P)
    (hQ : ∀ r f', P r f' → Q r f') : a.Meets f Q :=
  fun ls => hQ _ _ (h ls)

/-- **Two actions in sequence**: the second goes on from each result of the first, and an ending of
the first is the ending of both. -/
theorem Meets.bind {P : Except Ending α → Folder → Prop} {Q : Except Ending β → Folder → Prop}
    (h : a.Meets f P) (hok : ∀ x f', P (.ok x) f' → (g x).Meets f' Q)
    (herror : ∀ e f', P (.error e) f' → Q (.error e) f') : (a >>= g).Meets f Q := by
  intro ls
  have hfirst := h ls
  have hbind : (a >>= g).run.run ⟨ls, f⟩ = match a.run.run ⟨ls, f⟩ with
      | (.ok x, s) => (g x).run.run s
      | (.error e, s) => (.error e, s) := by
    rw [ExceptT.run_bind, StateT.run_bind]
    cases a.run.run ⟨ls, f⟩ with | mk r s => cases r <;> rfl
  rw [hbind]
  cases hrun : a.run.run ⟨ls, f⟩ with | mk r s =>
  rw [hrun] at hfirst
  cases r with
  | ok x => exact hok x s.folder hfirst s.lines
  | error e => exact herror e s.folder hfirst

theorem ComesTo.bind {x : α} {Q : Except Ending β → Folder → Prop} (h : a.ComesTo f (.ok x) f')
    (hg : (g x).Meets f' Q) : (a >>= g).Meets f Q := by
  refine Meets.bind h (fun y f'' hy => ?_) fun e f'' he => nomatch he.1
  obtain ⟨hxy, rfl⟩ := hy
  cases hxy
  exact hg

theorem ComesTo.bind_error {e : Ending} (h : a.ComesTo f (.error e) f') :
    (a >>= g).ComesTo f (.error e) f' := by
  refine Meets.bind h (fun y f'' hy => nomatch hy.1) fun e' f'' he => ?_
  obtain ⟨he, rfl⟩ := he
  cases he
  exact ⟨rfl, rfl⟩

/-! ### Single steps -/

theorem comesTo_pure (x : α) (f : Folder) : (pure x : Action α).ComesTo f (.ok x) f :=
  fun _ => ⟨rfl, rfl⟩

theorem comesTo_throw (e : Ending) (f : Folder) : (throw e : Action α).ComesTo f (.error e) f :=
  fun _ => ⟨rfl, rfl⟩

theorem comesTo_finish (n : Nat) (f : Folder) :
    (finish n : Action α).ComesTo f (.error (.status n)) f :=
  comesTo_throw _ f

theorem comesTo_modify {m : Screen → Screen} (h : ∀ ls, (m ⟨ls, f⟩).folder = f') :
    (modify m : Action Unit).ComesTo f (.ok ()) f' :=
  fun ls => ⟨rfl, h ls⟩

theorem Meets.get_bind {g : Screen → Action β} {Q : Except Ending β → Folder → Prop}
    (h : ∀ ls, (g ⟨ls, f⟩).Meets f Q) : (get >>= g : Action β).Meets f Q :=
  fun ls => h ls ls

theorem comesTo_putLines (ls : List (List Char)) (f : Folder) : (putLines ls).ComesTo f (.ok ()) f :=
  fun _ => ⟨rfl, rfl⟩

theorem comesTo_printDebug (debug : Bool) (ls : List String) (f : Folder) :
    (printDebug debug ls).ComesTo f (.ok ()) f := by
  rw [printDebug]
  split
  · exact comesTo_putLines _ f
  · exact comesTo_pure () f

theorem comesTo_orStop_ok (x : α) (f : Folder) :
    (orStop (.ok x)).ComesTo f (.ok x) f :=
  comesTo_pure x f

theorem comesTo_orStop_error (e : Fault) (f : Folder) :
    (orStop (.error e) : Action α).ComesTo f (.error (.stopped e)) f :=
  comesTo_throw _ f

theorem comesTo_print {s : String} (h : Printable s) (f : Folder) :
    (print s).ComesTo f (.ok ()) f := by
  obtain ⟨cs, hcs⟩ := h
  rw [print, hcs]
  exact (comesTo_orStop_ok cs f).bind (comesTo_putLines _ f)

/-- The **fixed texts** of the commands, which are printed whatever the files say. -/
def fixedTexts : List String :=
  ["[bold blue]Validating deploy.yaml...[/]", "[green]✓ SDL is valid[/]", "[red]ERROR[/]",
   "[yellow]WARNING[/]", "[bold blue]Compiling deploy.yaml...[/]",
   "[green]Manifest written to manifest.json[/]", "\n[bold blue]Generated Manifest:[/]",
   "[yellow]Add a 'default' placement profile with pricing before deploying.[/]"]

theorem printable_of_mem_fixedTexts {s : String} (h : s ∈ fixedTexts) : Printable s := by
  have hall : ∀ t ∈ fixedTexts, Printable t := by decide +kernel
  exact hall s h

theorem comesTo_readFile (path : String) (f : Folder) :
    (readFile path).ComesTo f (.ok (f.read path)) f :=
  fun _ => ⟨rfl, rfl⟩

theorem comesTo_writeFile {path text : String}
    (h : f.write (Folder.usualPath path) text = .ok f') :
    (writeFile path text).ComesTo f (.ok ()) f' := by
  refine Meets.get_bind fun ls => ?_
  rw [h]
  exact (comesTo_orStop_ok f' f).bind (comesTo_modify fun _ => rfl)

theorem comesTo_orReport_ok (values : Bool) (status : Nat) (x : α) (f : Folder) :
    (orReport values status (.ok x)).ComesTo f (.ok x) f :=
  comesTo_pure x f

/-- An action that **goes on**, or is stopped, but does not end the command with a status. -/
def GoesOn (a : Action α) : Prop := ∀ f, a.Meets f fun r _ => ∀ n, r ≠ .error (.status n)

theorem GoesOn.bind (h : a.GoesOn) (hg : ∀ x, (g x).GoesOn) : (a >>= g).GoesOn :=
  fun f => (h f).bind (fun x f' _ => hg x f')
    fun _ _ he n hn => he n (congrArg _ (Except.error.inj hn))

/-- The **status** of a command that has come to a result, and the fault that stopped it. -/
def closing : Except Ending Unit → Nat × Option Fault
  | .ok () => (0, none)
  | .error (.status n) => (n, none)
  | .error (.stopped e) => (1, some e)

/-- What comes of a command is as a condition on its result **demands**. -/
theorem Meets.outcome {a : Action Unit} {Q : Except Ending Unit → Folder → Prop}
    (h : a.Meets f Q) :
    ∃ r, Q r (a.outcome f).folder ∧ ((a.outcome f).status, (a.outcome f).stopped) = closing r := by
  refine ⟨(a.run.run ⟨[], f⟩).1, h [], ?_⟩
  rw [Action.outcome]
  cases a.run.run ⟨[], f⟩ with | mk r s =>
  cases r with
  | ok _ => rfl
  | error e => cases e <;> rfl

theorem ComesTo.outcome {a : Action Unit} {r : Except Ending Unit} (h : a.ComesTo f r f') :
    (a.outcome f).folder = f' ∧ (a.outcome f).status = (closing r).1 ∧
      (a.outcome f).stopped = (closing r).2 := by
  obtain ⟨r', ⟨rfl, hf⟩, hclosing⟩ := Meets.outcome h
  exact ⟨hf, congrArg Prod.fst hclosing, congrArg Prod.snd hclosing⟩

end Action
end StackManifest.Command
