import StackManifest.Proofs.Command.Agreement
import StackManifest.Proofs.FreePlaces
import StackManifest.Proofs.Templates.Generated

/-!
# What the commands leave of the files

A command reads, checks and prints a lot before it writes anything, and can end at each of these
steps. Most of them leave the files alone, however they end
(`StackManifest.Command.Action.LeavesFiles`), and this goes through sequences of steps. Only one
step of a command writes, and only two kinds of steps come after it: the line that tells of the file
is printed, and so are lines that can always be printed.

So a command that writes (`StackManifest.Command.Request.writing?`) has changed nothing if it ends
before, and ends well if it has come that far – provided that the line which tells of the file can be
printed. The path stands in this line as it is, and the console takes it for marks
(`StackManifest.Command.run_leaves_files`, `StackManifest.Command.not_run_leaves_files`). With a
path without brackets nothing of this happens (`StackManifest.Command.folder_run_of_isPlain`).

Two commands look first whether something is at the path
(`StackManifest.Command.Request.isCareful`). They write at a free place only, and a file at a free
place takes the place of no other.
-/

namespace StackManifest.Command

open StackManifest.Console StackManifest.Command.Action

variable {α β : Type} {f f' : Folder}

/-! ### Actions that leave the files alone -/

namespace Action

variable {a : Action α} {g : α → Action β}

/-- An action that **leaves the files alone**, however it ends. -/
def LeavesFiles (a : Action α) : Prop := ∀ f, a.Meets f fun _ f' => f' = f

/-- **What comes after an action that leaves the files alone** begins with the same files. -/
theorem LeavesFiles.bind_meets {Q : Except Ending β → Folder → Prop} (h : a.LeavesFiles)
    (hg : ∀ x, (g x).Meets f Q) (herror : ∀ e, Q (.error e) f) : (a >>= g).Meets f Q := by
  refine (h f).bind (fun x f' hf => ?_) fun e f' hf => ?_
  · rw [hf]
    exact hg x
  · rw [hf]
    exact herror e

theorem LeavesFiles.bind (h : a.LeavesFiles) (hg : ∀ x, (g x).LeavesFiles) :
    (a >>= g).LeavesFiles :=
  fun f => h.bind_meets (fun x => hg x f) fun _ => rfl

theorem leavesFiles_of_comesTo {r : Except Ending α} (h : ∀ f, a.ComesTo f r f) :
    a.LeavesFiles :=
  fun f => (h f).mono fun _ _ hr => hr.2

theorem leavesFiles_pure (x : α) : (pure x : Action α).LeavesFiles :=
  leavesFiles_of_comesTo (comesTo_pure x)

theorem leavesFiles_throw (e : Ending) : (throw e : Action α).LeavesFiles :=
  leavesFiles_of_comesTo (comesTo_throw e)

theorem leavesFiles_finish (n : Nat) : (finish n : Action α).LeavesFiles := leavesFiles_throw _

theorem leavesFiles_orStop (r : Except Fault α) : (orStop r).LeavesFiles := by
  cases r with
  | ok x => exact leavesFiles_pure x
  | error e => exact leavesFiles_throw _

theorem leavesFiles_putLines (ls : List (List Char)) : (putLines ls).LeavesFiles :=
  leavesFiles_of_comesTo (comesTo_putLines ls)

theorem leavesFiles_print (s : String) : (print s).LeavesFiles :=
  (leavesFiles_orStop _).bind fun _ => leavesFiles_putLines _

theorem leavesFiles_printDebug (debug : Bool) (ls : List String) :
    (printDebug debug ls).LeavesFiles :=
  leavesFiles_of_comesTo (comesTo_printDebug debug ls)

theorem leavesFiles_printGrid (t : Grid) : (printGrid t).LeavesFiles :=
  (leavesFiles_orStop _).bind fun _ => leavesFiles_putLines _

theorem leavesFiles_readFile (path : String) : (readFile path).LeavesFiles :=
  fun f => (comesTo_readFile path f).mono fun _ _ hr => hr.2

/-- **A loop of such actions** leaves the files alone. -/
theorem leavesFiles_forIn {body : α → β → Action (ForInStep β)} (h : ∀ x b, (body x b).LeavesFiles)
    (xs : List α) (b : β) : (forIn xs b body).LeavesFiles := by
  induction xs generalizing b with
  | nil => exact leavesFiles_pure b
  | cons x xs ih =>
    rw [List.forIn_cons]
    refine (h x b).bind fun next => ?_
    cases next with
    | done b => exact leavesFiles_pure b
    | yield b => exact ih b

end Action

/-! ### Reading and checking -/

theorem leavesFiles_orReport (values : Bool) (status : Nat) (r : Except LoadFailure α) :
    (orReport values status r).LeavesFiles := by
  cases r with
  | ok x => exact leavesFiles_pure x
  | error e =>
    unfold orReport
    dsimp only
    split
    · exact (leavesFiles_print _).bind fun _ => leavesFiles_finish status
    · exact leavesFiles_throw _
    · exact leavesFiles_finish status

theorem leavesFiles_loadDocument (config : String) : (loadDocument config).LeavesFiles := by
  refine (leavesFiles_readFile config).bind fun r => ?_
  cases r with
  | error e => exact leavesFiles_pure _
  | ok s =>
    dsimp only
    split <;> exact leavesFiles_pure _

theorem leavesFiles_loadValid (values : Bool) (status : Nat) (config : String) (debug : Bool) :
    (loadValid values status config debug).LeavesFiles := by
  have hloop : ∀ s, (do print s; pure (.yield PUnit.unit) : Action (ForInStep PUnit)).LeavesFiles :=
    fun s => (leavesFiles_print s).bind fun _ => leavesFiles_pure _
  refine (leavesFiles_loadDocument config).bind fun r =>
    (leavesFiles_orReport values status r).bind fun d =>
      (leavesFiles_printDebug debug _).bind fun _ => ?_
  cases d.check.stopped with
  | some e => exact leavesFiles_orReport values status _
  | none =>
    refine (leavesFiles_forIn (fun w _ => hloop _) _ _).bind fun _ => ?_
    split
    · exact leavesFiles_pure d
    · exact (leavesFiles_forIn (fun e _ => hloop _) _ _).bind fun _ => leavesFiles_finish 1

theorem leavesFiles_compileGroups (values : Bool) (status : Nat) (d : Document) (debug : Bool) :
    (compileGroups values status d debug).LeavesFiles :=
  (leavesFiles_printDebug true _).bind fun _ => leavesFiles_orReport values status _

theorem leavesFiles_loadMapping (config : String) : (loadMapping config).LeavesFiles := by
  refine (leavesFiles_readFile config).bind fun r => (leavesFiles_orReport false 1 _).bind fun s => ?_
  split
  · exact (leavesFiles_print _).bind fun _ => leavesFiles_finish 1
  · exact leavesFiles_throw _
  · exact leavesFiles_pure _
  · exact (leavesFiles_print _).bind fun _ => leavesFiles_finish 1

/-! ### Commands that write nothing -/

theorem leavesFiles_validate (config : String) (debug : Bool) :
    (validate config debug).LeavesFiles := by
  refine (leavesFiles_print _).bind fun _ => (leavesFiles_readFile _).bind fun r =>
    (leavesFiles_orReport false 1 _).bind fun text => (leavesFiles_printDebug debug _).bind fun _ => ?_
  have hverdict : ∀ r : Report, (printVerdict r).LeavesFiles := fun r f =>
    (comesTo_printVerdict r f).mono fun _ _ hr => hr.2
  split
  · exact leavesFiles_throw _
  · dsimp only
    split
    · exact (leavesFiles_printGrid _).bind fun _ => hverdict _
    · exact hverdict _

theorem leavesFiles_estimate (config : String) (debug : Bool) :
    (estimate config debug).LeavesFiles := by
  refine (leavesFiles_loadValid true 2 config debug).bind fun d =>
    (leavesFiles_compileGroups true 2 d debug).bind fun gs =>
      (leavesFiles_orReport true 2 _).bind fun e => (leavesFiles_orStop _).bind fun rows =>
        (leavesFiles_printGrid _).bind fun _ => (leavesFiles_print _).bind fun _ =>
          (leavesFiles_orStop _).bind fun memory => (leavesFiles_print _).bind fun _ =>
            (leavesFiles_orStop _).bind fun storage => (leavesFiles_print _).bind fun _ => ?_
  refine (leavesFiles_forIn (fun cost _ => ?_) _ _).bind fun _ => leavesFiles_pure ()
  exact (leavesFiles_print _).bind fun _ => leavesFiles_pure _

/-! ### Commands that write -/

/-- Where a request **writes**, and the line that tells of it. -/
def Request.writing? : Request → Option (String × String)
  | .compile _ (some path) _ _ =>
    if path ≠ "" then some (path, s!"[green]Manifest written to {path}[/]") else none
  | .init template output .. =>
    some (output, s!"[green]SDL template '{template}' written to {output}[/]")
  | .convert _ output => some (output, s!"[green]Converted SDL written to {output}[/]")
  | .resize _ output _ => some (output, s!"[green]Optimized SDL written to {output}[/]")
  | _ => none

/-- A request that must **keep what is there** already. -/
def Request.isCareful : Request → Bool
  | .init _ _ _ _ _ force _ | .resize _ _ force => !force
  | _ => false

/-- What a request **leaves of the files**: all of them as they were, or one of them written. Then it
ends well, if the line that tells of the file can be printed. -/
inductive Request.Leaves (r : Request) (f : Folder) : Except Ending Unit → Folder → Prop where
  | unchanged {e : Except Ending Unit} : r.Leaves f e f
  | written {e : Except Ending Unit} {f' : Folder} {path line text : String} :
    r.writing? = some (path, line) →
    (r.isCareful = true → f.has (Folder.usualPath path) = .ok false) →
    f.write (Folder.usualPath path) text = .ok f' → (Printable line → e = .ok ()) → r.Leaves f e f'

section Writing

variable {r : Request} {path line text : String} {tell : Action Unit}

theorem Action.LeavesFiles.meets_leaves {a : Action Unit} (h : a.LeavesFiles) :
    a.Meets f (r.Leaves f) := by
  refine (h f).mono fun e f' hf => ?_
  rw [hf]
  exact .unchanged

theorem comesTo_writeFile_error {e : Fault}
    (h : f.write (Folder.usualPath path) text = .error e) :
    (writeFile path text).ComesTo f (.error (.stopped e)) f := by
  refine Meets.get_bind fun ls => ?_
  rw [h]
  exact (comesTo_orStop_error e f).bind_error

/-- **Writing a file and telling of it**: it is not written, or all goes well that comes after it, if
the line can be printed. -/
theorem meets_writeFile_bind (hr : r.writing? = some (path, line))
    (hcareful : r.isCareful = true → f.has (Folder.usualPath path) = .ok false)
    (htell : Printable line → ∀ f, tell.ComesTo f (.ok ()) f) (hleaves : tell.LeavesFiles) :
    (writeFile path text >>= fun _ => tell).Meets f (r.Leaves f) := by
  cases hw : f.write (Folder.usualPath path) text with
  | error e =>
    refine (comesTo_writeFile_error hw).bind_error.mono fun e' f' h => ?_
    obtain ⟨-, rfl⟩ := h
    exact .unchanged
  | ok f' =>
    refine (comesTo_writeFile hw).bind ?_
    by_cases hline : Printable line
    · refine (htell hline f').mono fun e f'' h => ?_
      obtain ⟨rfl, rfl⟩ := h
      exact .written hr hcareful hw fun _ => rfl
    · refine (hleaves f').mono fun e f'' h => ?_
      rw [h]
      exact .written hr hcareful hw fun h => absurd h hline

theorem meets_writeFile_print (hr : r.writing? = some (path, line))
    (hcareful : r.isCareful = true → f.has (Folder.usualPath path) = .ok false) :
    (writeFile path text >>= fun _ => print line).Meets f (r.Leaves f) :=
  meets_writeFile_bind hr hcareful comesTo_print (leavesFiles_print line)

theorem comesTo_hasFile (path : String) (f : Folder) :
    (hasFile path).ComesTo f ((f.has (Folder.usualPath path)).mapError .stopped) f := by
  refine Meets.get_bind fun ls => ?_
  cases f.has (Folder.usualPath path) with
  | ok b => exact comesTo_orStop_ok b f
  | error e => exact comesTo_orStop_error e f

/-- **A careful command goes on** only if nothing is at the path. -/
theorem meets_keepExisting (output : String) (force : Bool) (f : Folder) :
    (keepExisting output force).Meets f fun e f' => f' = f ∧
      (e = .ok () → !force → f.has (Folder.usualPath output) = .ok false) := by
  have hfile := comesTo_hasFile output f
  cases hhas : f.has (Folder.usualPath output) with
  | error e =>
    rw [hhas] at hfile
    exact hfile.bind_error.mono fun e' f' he => ⟨he.2, fun hok => nomatch he.1.symm.trans hok⟩
  | ok b =>
    rw [hhas] at hfile
    refine hfile.bind ?_
    split
    · refine (leavesFiles_print _).bind_meets (fun _ => ?_) fun e => ⟨rfl, nofun⟩
      refine (leavesFiles_print _).bind_meets (fun _ => ?_) fun e => ⟨rfl, nofun⟩
      exact (comesTo_finish 1 f).mono fun e f' he => ⟨he.2, fun hok => nomatch he.1.symm.trans hok⟩
    · rename_i hcond
      refine (comesTo_pure () f).mono fun e f' he => ⟨he.2, fun _ hforce => ?_⟩
      rw [Bool.eq_false_iff.mpr fun hb => hcond ⟨hb, hforce⟩]

theorem meets_keepExisting_bind {output : String} {force : Bool} {g : Unit → Action Unit}
    (hok : (!force → f.has (Folder.usualPath output) = .ok false) → (g ()).Meets f (r.Leaves f)) :
    (keepExisting output force >>= g).Meets f (r.Leaves f) := by
  refine (meets_keepExisting output force f).bind (fun x f' h => ?_) fun e f' h => ?_
  · rw [h.1]
    exact hok (h.2 rfl)
  · rw [h.1]
    exact .unchanged

/-- A step that leaves the files alone **comes before** what is left of them. -/
theorem Action.LeavesFiles.bind_leaves {a : Action α} {g : α → Action Unit} (h : a.LeavesFiles)
    (hg : ∀ x, (g x).Meets f (r.Leaves f)) : (a >>= g).Meets f (r.Leaves f) :=
  h.bind_meets hg fun _ => .unchanged

/-! ### The commands -/

theorem meets_compile (config : String) (output : Option String) (format : String) (debug : Bool) :
    (compile config output format debug).Meets f
      ((Request.compile config output format debug).Leaves f) := by
  have hlast : ∀ text f, (if debug then do
      print "\n[bold blue]Generated Manifest:[/]"
      printBare text
    else pure () : Action Unit).ComesTo f (.ok ()) f := by
    intro text f
    split
    · have hprint : Printable "\n[bold blue]Generated Manifest:[/]" :=
        printable_of_mem_fixedTexts (by decide)
      exact (comesTo_print hprint f).bind (comesTo_putLines _ f)
    · exact comesTo_pure () f
  rw [compile_eq]
  -- nothing touches the files before the manifest has its text
  refine LeavesFiles.bind_leaves (leavesFiles_print _) fun _ =>
    LeavesFiles.bind_leaves (leavesFiles_loadValid false 2 config debug) fun d =>
      LeavesFiles.bind_leaves (leavesFiles_compileGroups false 2 d debug) fun gs =>
        LeavesFiles.bind_leaves (leavesFiles_orStop _) fun rows =>
          LeavesFiles.bind_leaves (leavesFiles_printGrid _) fun _ =>
            LeavesFiles.bind_leaves (leavesFiles_orStop _) fun manifest =>
              LeavesFiles.bind_leaves (leavesFiles_orStop _) fun text => ?_
  have hnone := (leavesFiles_of_comesTo (hlast text)).meets_leaves (f := f)
    (r := .compile config output format debug)
  cases output with
  | none => exact hnone
  | some path =>
    dsimp only
    split
    · rename_i hpath
      refine meets_writeFile_bind (if_pos hpath) (fun h => nomatch h) (fun hline f => ?_) ?_
      · exact (comesTo_print hline f).bind (hlast text f)
      · exact (leavesFiles_print _).bind fun _ => leavesFiles_of_comesTo (hlast text)
    · exact hnone

theorem meets_init (template output : String) (name image : Option String) (count : Option Int)
    (force debug : Bool) :
    (init template output name image count force debug).Meets f
      ((Request.init template output name image count force debug).Leaves f) := by
  refine meets_keepExisting_bind fun hcareful => ?_
  refine LeavesFiles.bind_leaves (leavesFiles_printDebug debug _) fun _ =>
    LeavesFiles.bind_leaves (leavesFiles_orReport true 1 _) fun text =>
      LeavesFiles.bind_leaves ?_ fun _ => meets_writeFile_print rfl hcareful
  exact (leavesFiles_orReport true 1 _).bind fun _ => leavesFiles_pure ()

theorem meets_convert (config output : String) :
    (convert config output).Meets f ((Request.convert config output).Leaves f) := by
  refine LeavesFiles.bind_leaves (leavesFiles_loadMapping config) fun data =>
    LeavesFiles.bind_leaves (leavesFiles_orStop _) fun text =>
      meets_writeFile_bind rfl (fun h => nomatch h) (fun hline f => ?_) ?_
  · have hprint : Printable
        "[yellow]Add a 'default' placement profile with pricing before deploying.[/]" :=
      printable_of_mem_fixedTexts (by decide)
    exact (comesTo_print hline f).bind (comesTo_print hprint f)
  · exact (leavesFiles_print _).bind fun _ => leavesFiles_print _

theorem meets_resize (config output : String) (force : Bool) :
    (resize config output force).Meets f ((Request.resize config output force).Leaves f) := by
  refine meets_keepExisting_bind fun hcareful => ?_
  refine LeavesFiles.bind_leaves (leavesFiles_loadMapping config) fun data =>
    LeavesFiles.bind_leaves (leavesFiles_orStop _) fun resized =>
      LeavesFiles.bind_leaves (leavesFiles_orStop _) fun rows =>
        LeavesFiles.bind_leaves (leavesFiles_printGrid _) fun _ =>
          LeavesFiles.bind_leaves (leavesFiles_orStop _) fun text => meets_writeFile_print rfl hcareful

/-- **Whatever is asked for**, the files are left as they were, or one of them is written. -/
theorem Request.meets_act (r : Request) (f : Folder) : r.act.Meets f (r.Leaves f) := by
  cases r with
  | validate config debug => exact (leavesFiles_validate config debug).meets_leaves
  | compile config output format debug => exact meets_compile config output format debug
  | estimate config debug => exact (leavesFiles_estimate config debug).meets_leaves
  | init template output name image count force debug =>
    exact meets_init template output name image count force debug
  | convert config output => exact meets_convert config output
  | resize config output force => exact meets_resize config output force

end Writing

/-! ### A file that is written, and not told of -/

section

variable {output template text : String} {name image : Option String} {count : Option Int}

theorem comesTo_keepExisting (h : f.has (Folder.usualPath output) = .ok false) (force : Bool) :
    (keepExisting output force).ComesTo f (.ok ()) f := by
  have hfile := comesTo_hasFile output f
  rw [h] at hfile
  refine hfile.bind ?_
  rw [if_neg fun hcond => Bool.noConfusion hcond.1]
  exact comesTo_pure () f

theorem exists_comesTo_print_error {s : String} (h : ¬Printable s) (f : Folder) :
    ∃ e, (print s).ComesTo f (.error (.stopped e)) f := by
  cases hs : Marked.read s >>= Marked.plain with
  | ok cs => exact absurd ⟨cs, hs⟩ h
  | error e =>
    refine ⟨e, ?_⟩
    rw [print, hs]
    exact (comesTo_orStop_error e f).bind_error

/-- A new file is **there already** when the line that tells of it stops the command. -/
theorem exists_comesTo_init_error (hfree : f.has (Folder.usualPath output) = .ok false)
    (htext : (render template [(.text "name", .ofText? name), (.text "image", .ofText? image),
      (.text "count", .ofInt? count)]).text = .ok text)
    {d : Document} (hd : Document.parse (.text text.toList) = .ok d)
    (hwrite : f.write (Folder.usualPath output) text = .ok f')
    (hline : ¬Printable s!"[green]SDL template '{template}' written to {output}[/]") (force : Bool) :
    ∃ e, (init template output name image count force false).ComesTo f (.error (.stopped e)) f' := by
  obtain ⟨e, he⟩ := exists_comesTo_print_error hline f'
  refine ⟨e, (comesTo_keepExisting hfree force).bind ?_⟩
  refine (comesTo_printDebug false _ f).bind ?_
  rw [htext]
  refine (comesTo_orReport_ok true 1 text f).bind ?_
  rw [hd]
  have hparsed : (discard (orReport true 1 (.ok d)) : Action PUnit).ComesTo f (.ok ()) f :=
    (comesTo_orReport_ok true 1 d f).bind (g := fun _ => pure ()) (comesTo_pure () f)
  exact hparsed.bind ((comesTo_writeFile hwrite).bind he)

end

/-- What is written when **nothing is given** for a template. -/
theorem exists_render_web :
    ∃ text d, (render "web-app" [(.text "name", .ofText? none), (.text "image", .ofText? none),
      (.text "count", .ofInt? none)]).text = .ok text ∧
      Document.parse (.text text.toList) = .ok d := by
  have hgenerate : generate TemplateKind.webApp.name (TemplateKind.given "web" 1) =
      .ok (.ok (TemplateKind.webApp.stack "web" 1)) :=
    TemplateKind.webApp.generate_eq_stack (by decide) (by decide) (by decide) (by decide)
      (by cbv)
  obtain ⟨text, htext, hd⟩ := bind_eq_ok_iff.mp hgenerate
  have hcontext : TemplateKind.webApp.context [(.text "name", .ofText? none),
      (.text "image", .ofText? none), (.text "count", .ofInt? none)] =
      TemplateKind.webApp.context (TemplateKind.given "web" 1) := by
    rw [(TemplateKind.webApp.gives_given "web" 1).context]
    rfl
  rw [TemplateKind.webApp.render_given, TemplateKind.render, ← hcontext] at htext
  exact ⟨text, _, htext, Except.ok.inj hd⟩

/-! ### Whole command lines -/

/-- What a command line that can be read **leaves of the files**. -/
theorem exists_leaves_of_run {args : List String} {r : Request} (hread : Request.read args = .ok r)
    (f : Folder) : ∃ e, r.Leaves f e (run args f).folder ∧
      ((run args f).status, (run args f).stopped) = closing e := by
  have hrun : run args f = r.act.outcome f := by
    simp only [run, hread]
  rw [hrun]
  exact (r.meets_act f).outcome

/-- A command that **fails or is stopped** has not ended well. -/
theorem ne_ok_of_closing {o : Outcome} {e : Except Ending Unit}
    (hclosing : (o.status, o.stopped) = closing e)
    (h : o.status ≠ 0 ∨ o.stopped.isSome = true) : e ≠ .ok () := by
  rintro rfl
  obtain ⟨hstatus, hstopped⟩ := Prod.mk.inj hclosing
  rw [hstatus, hstopped] at h
  rcases h with h | h
  · exact h rfl
  · cases h

/-- A request whose path and template are **plain**: nothing in the line that tells of a file is
taken for a mark, except the one it begins with. -/
def Request.IsPlain : Request → Prop
  | .compile _ output _ _ => ∀ path ∈ output, Console.IsPlain path.toList
  | .init template output .. => Console.IsPlain template.toList ∧ Console.IsPlain output.toList
  | .convert _ output | .resize _ output _ => Console.IsPlain output.toList
  | _ => True

theorem printable_green {before rest : String} (start : String) (hbefore : before = "[green]" ++ start)
    (hstart : Console.IsPlain start.toList) (hrest : Console.IsPlain rest.toList) :
    Printable (before ++ rest ++ "[/]") := by
  have hwords : "green" ∈ usedStyles := by decide
  have hmark : "[green]" = "[" ++ "green" ++ "]" := by decide
  have hplain : Console.IsPlain (start ++ rest).toList := by
    rw [String.toList_append]
    exact hstart.append hrest
  refine printable_styled hwords hplain ?_
  rw [hbefore, hmark]
  simp only [String.append_assoc]

/-- The line that tells of a file **can be printed** if the path is plain. -/
theorem Request.IsPlain.printable {r : Request} {path line : String} (h : r.IsPlain)
    (hr : r.writing? = some (path, line)) : Printable line := by
  cases r with
  | validate | estimate => cases hr
  | compile config output format debug =>
    cases output with
    | none => cases hr
    | some path =>
      simp only [Request.writing?] at hr
      split at hr
      · cases hr
        exact printable_green "Manifest written to " (by decide) (by decide) (h _ rfl)
      · cases hr
  | init template output name image count force debug =>
    cases hr
    have hrest : Console.IsPlain (template ++ "' written to " ++ path).toList := by
      simp only [String.toList_append]
      exact (h.1.append (by decide)).append h.2
    have hline : Printable
        ("[green]SDL template '" ++ (template ++ "' written to " ++ path) ++ "[/]") :=
      printable_green "SDL template '" (by decide) (by decide) hrest
    simp only [String.append_assoc] at hline ⊢
    exact hline
  | convert config output =>
    cases hr
    exact printable_green "Converted SDL written to " (by decide) (by decide) h
  | resize config output force =>
    cases hr
    exact printable_green "Optimized SDL written to " (by decide) (by decide) h

/-- **A failing command leaves the folder alone**, if its path and its template are plain. -/
theorem folder_run_of_isPlain {args : List String} {r : Request} (hread : Request.read args = .ok r)
    (hplain : r.IsPlain) (f : Folder)
    (hfailed : (run args f).status ≠ 0 ∨ (run args f).stopped.isSome = true) :
    (run args f).folder = f := by
  obtain ⟨e, hleaves, hclosing⟩ := exists_leaves_of_run hread f
  have he := ne_ok_of_closing hclosing hfailed
  generalize (run args f).folder = f' at hleaves
  cases hleaves with
  | unchanged => rfl
  | written hwriting _ _ hline => exact absurd (hline (hplain.printable hwriting)) he

/-- **A failing command leaves the files alone**, and so does a careful one with the files that were
there. The exception is a command that has written a file and is stopped by the line that tells of it,
where the path is taken for marks. -/
theorem run_leaves_files (args : List String) (f : Folder) :
    ((run args f).status ≠ 0 ∨ (run args f).stopped.isSome = true → (run args f).folder = f ∨
      ∃ r path line text, Request.read args = .ok r ∧ r.writing? = some (path, line) ∧
        ¬Printable line ∧ f.write (Folder.usualPath path) text = .ok (run args f).folder) ∧
    ∀ r, Request.read args = .ok r → r.isCareful = true → ∀ name text,
      f.files.lookup name = some text → (run args f).folder.files.lookup name = some text := by
  cases hread : Request.read args with
  | error m =>
    have hrun : (run args f).folder = f := by
      simp only [run, hread]
    refine ⟨fun _ => .inl hrun, fun r hr => ?_⟩
    cases hr
  | ok r =>
    obtain ⟨e, hleaves, hclosing⟩ := exists_leaves_of_run hread f
    constructor
    · intro hfailed
      have he := ne_ok_of_closing hclosing hfailed
      generalize (run args f).folder = f' at hleaves
      cases hleaves with
      | unchanged => exact .inl rfl
      | written hwriting _ hwrite hline =>
        exact .inr ⟨r, _, _, _, rfl, hwriting, fun h => he (hline h), hwrite⟩
    · intro r' hr' hcareful name text hlookup
      obtain rfl := Except.ok.inj hr'
      generalize (run args f).folder = f' at hleaves
      cases hleaves with
      | unchanged => exact hlookup
      | written _ hhas hwrite _ =>
        exact Folder.lookup_of_write_of_not_has (hhas hcareful) hwrite hlookup

/-- A new file is **not written over** one that is there. -/
theorem run_init_leaves_files :
    (run ["init"] ⟨[("deploy.yaml", "x")], []⟩).folder.files.lookup "deploy.yaml" = some "x" := by
  have hread : Request.read ["init"] =
      .ok (.init "web-app" "deploy.yaml" none none none false false) := by cbv
  exact (run_leaves_files ["init"] ⟨[("deploy.yaml", "x")], []⟩).2 _ hread rfl "deploy.yaml" "x" rfl

/-- A path with a **mark in it that cannot be read**: the command fails, and the file is there. -/
theorem not_run_leaves_files :
    (run ["init", "-o", "[@x=(]"] ⟨[], []⟩).status = 1 ∧
      ∃ text, (run ["init", "-o", "[@x=(]"] ⟨[], []⟩).folder.files = [("[@x=(]", text)] := by
  have hread : Request.read ["init", "-o", "[@x=(]"] =
      .ok (.init "web-app" "[@x=(]" none none none false false) := by cbv
  obtain ⟨text, d, htext, hd⟩ := exists_render_web
  have hplace : (⟨[], []⟩ : Folder).destination (Folder.usualPath "[@x=(]") =
      .free (Place.ofPath "[@x=(]") := by decide +kernel
  have hline : ¬Printable "[green]SDL template 'web-app' written to [@x=(][/]" := by
    decide +kernel
  have hfree : (⟨[], []⟩ : Folder).has (Folder.usualPath "[@x=(]") = .ok false := by
    rw [Folder.has, hplace]
  have hwrite : (⟨[], []⟩ : Folder).write (Folder.usualPath "[@x=(]") text =
      .ok ⟨Folder.put (Place.ofPath "[@x=(]").path text [], []⟩ := by
    rw [Folder.write, hplace]
  obtain ⟨e, he⟩ := exists_comesTo_init_error hfree htext hd hwrite hline false
  obtain ⟨hfolder, hstatus, -⟩ := he.outcome
  have hrun : run ["init", "-o", "[@x=(]"] ⟨[], []⟩ =
      (init "web-app" "[@x=(]" none none none false false).outcome ⟨[], []⟩ := by
    simp only [run, hread]
    rfl
  rw [hrun]
  have hpath : (Place.ofPath "[@x=(]").path = "[@x=(]" := by decide +kernel
  refine ⟨hstatus, text, ?_⟩
  rw [hfolder, hpath]
  rfl

end StackManifest.Command
