import StackManifest.Folder
import StackManifest.Proofs.Tables

/-!
# Free places

A path is followed name by name. Where it leads to nothing, a file can be put
(`StackManifest.Destination.free`), and the file is then known by the path of the place. That no
other file is known by this path is not plain: the files of a folder have paths of their own, and
several of them mean one place. What helps is that the path of a place means this very place again
(`StackManifest.Place.ofPath_path`), so that a file with this path would lie there.

So **a file that is put at a free place takes the place of no other**
(`StackManifest.Folder.lookup_of_write_of_not_has`).
-/

namespace StackManifest

namespace Place

variable {p : Place} {name : String} {names : List String}

/-! ### Names along a path -/

/-- A **step** of a path: it is not empty, and has no slashes. -/
def IsStep (s : String) : Prop := '/' ∉ s.toList ∧ s ≠ ""

/-- The steps of a path **put together** are the steps again. -/
theorem splitOn_intercalate_steps (h : ∀ s ∈ names, IsStep s) (hne : names ≠ []) :
    ("/".intercalate names).toList.splitOn '/' = names.map String.toList := by
  rw [String.toList_intercalate]
  refine List.splitOn_intercalate '/' (fun cs hcs => ?_) (by simpa using hne)
  obtain ⟨s, hs, rfl⟩ := List.mem_map.mp hcs
  exact (h s hs).1

theorem pathSteps_intercalate (h : ∀ s ∈ names, IsStep s) :
    pathSteps ("/".intercalate names) = names := by
  by_cases hne : names = []
  · subst hne
    rfl
  · have hall : ∀ s ∈ names, (decide (s ≠ "")) = true := fun s hs => decide_eq_true (h s hs).2
    rw [pathSteps, splitOn_intercalate_steps h hne, List.map_map,
      show String.ofList ∘ String.toList = id from funext fun _ => String.ofList_toList, List.map_id,
      List.filter_eq_self.mpr hall]

theorem pathSteps_slash (path : String) : pathSteps ("/" ++ path) = pathSteps path := by
  rw [pathSteps, String.toList_append, show "/".toList = ['/'] from rfl, List.singleton_append,
    List.splitOn_cons_eq_if_modifyHead, if_pos (by decide)]
  rfl

/-- Steps that are put together **begin with no slash**. -/
theorem ofStart_intercalate (h : ∀ s ∈ names, IsStep s) :
    ofStart ("/".intercalate names) = ⟨.here, []⟩ := by
  rw [ofStart, if_neg]
  rw [String.startsWith_string_iff]
  rintro ⟨rest, hrest⟩
  have hne : names ≠ [] := by
    rintro rfl
    cases hrest
  -- the first piece before a slash would be empty
  have hsplit := splitOn_intercalate_steps h hne
  rw [← hrest, show "/".toList = ['/'] from rfl, List.singleton_append,
    List.splitOn_cons_eq_if_modifyHead, if_pos (by decide)] at hsplit
  obtain ⟨s, names, rfl⟩ := List.exists_cons_of_ne_nil hne
  have hempty : [] = s.toList := (List.cons.inj hsplit).1
  exact (h s (List.mem_cons_self ..)).2 (String.toList_inj.mp hempty.symm)

theorem not_mem_of_mem_splitOn {c : Char} {cs piece : List Char} (h : piece ∈ cs.splitOn c) :
    c ∉ piece := by
  induction cs generalizing piece with
  | nil =>
    obtain rfl := List.mem_singleton.mp h
    exact List.not_mem_nil
  | cons d cs ih =>
    rw [List.splitOn_cons_eq_if_modifyHead] at h
    split at h
    · rcases List.mem_cons.mp h with rfl | h
      · exact List.not_mem_nil
      · exact ih h
    · rename_i hd
      obtain ⟨first, rest, hsplit⟩ := List.exists_cons_of_ne_nil (List.splitOn_ne_nil c cs)
      rw [hsplit, List.modifyHead_cons] at h
      rw [hsplit] at ih
      rcases List.mem_cons.mp h with rfl | h
      · have hne : c ≠ d := fun hcd => hd (by rw [hcd]; exact beq_self_eq_true d)
        exact fun hc => (List.mem_cons.mp hc).elim hne (ih (List.mem_cons_self ..))
      · exact ih (List.mem_cons_of_mem _ h)

theorem isStep_of_mem_pathSteps {path s : String} (h : s ∈ pathSteps path) : IsStep s := by
  obtain ⟨hs, hne⟩ := List.mem_filter.mp h
  obtain ⟨cs, hcs, rfl⟩ := List.mem_map.mp hs
  refine ⟨?_, of_decide_eq_true hne⟩
  rw [String.toList_ofList]
  exact not_mem_of_mem_splitOn hcs

/-! ### The path of a place -/

/-- A **name** of a file or a folder: a step that is no dots. -/
def IsProper (name : String) : Prop := IsStep name ∧ name ≠ "." ∧ name ≠ ".."

/-- A place that a path **leads to**: it is reached by names, and a start above is above by some
steps. -/
structure IsReached (p : Place) : Prop where
  names : ∀ name ∈ p.names, IsProper name
  start : p.start ≠ .above 0

theorem isReached_ofStart (path : String) : (ofStart path).IsReached := by
  refine ⟨List.forall_mem_nil _, ?_⟩
  rw [ofStart]
  split <;> exact nofun

theorem IsReached.parent (h : p.IsReached) : p.parent.IsReached := by
  obtain ⟨start, names⟩ := p
  cases names with
  | nil =>
    cases start with
    | here => exact ⟨List.forall_mem_nil _, by decide⟩
    | above n => exact ⟨List.forall_mem_nil _, fun hn => nomatch hn⟩
    | top => exact h
  | cons name names =>
    exact ⟨fun s hs => h.names s (List.dropLast_subset _ hs), h.start⟩

theorem IsReached.child (h : p.IsReached) (hname : IsProper name) : (p.child name).IsReached := by
  refine ⟨fun s hs => ?_, h.start⟩
  rcases List.mem_append.mp hs with hs | hs
  · exact h.names s hs
  · exact List.mem_singleton.mp hs ▸ hname

/-- One step along a path. -/
def step (p : Place) (s : String) : Place :=
  if s = "." then p else if s = ".." then p.parent else p.child s

theorem foldl_step_names (h : ∀ name ∈ names, IsProper name) (p : Place) :
    names.foldl step p = { p with names := p.names ++ names } := by
  induction names generalizing p with
  | nil => simp
  | cons name names ih =>
    obtain ⟨⟨-, hdot, hdots⟩, hnames⟩ := List.forall_mem_cons.mp h
    rw [List.foldl_cons, ih hnames, step, if_neg hdot, if_neg hdots, Place.child,
      List.append_assoc, List.singleton_append]

theorem foldl_step_above (n m : Nat) :
    (List.replicate n "..").foldl step ⟨.above m, []⟩ = ⟨.above (m + n), []⟩ := by
  induction n generalizing m with
  | zero => rfl
  | succ n ih =>
    have hparent : step ⟨.above m, []⟩ ".." = ⟨.above (m + 1), []⟩ := rfl
    rw [List.replicate_succ, List.foldl_cons, hparent, ih, Nat.add_assoc, Nat.add_comm 1 n]

/-- **The path of a place means this place.** -/
theorem ofPath_path (h : p.IsReached) : ofPath p.path = p := by
  obtain ⟨start, names⟩ := p
  have hnames : ∀ s ∈ names, IsStep s := fun s hs => (h.names s hs).1
  change (pathSteps _).foldl step (ofStart _) = _
  cases start with
  | here =>
    rw [path, pathSteps_intercalate hnames, ofStart_intercalate hnames, foldl_step_names h.names]
    rfl
  | above n =>
    obtain ⟨n, rfl⟩ := Nat.exists_eq_succ_of_ne_zero fun hn => h.start (congrArg Start.above hn)
    have hdots : ∀ s ∈ List.replicate (n + 1) ".." ++ names, IsStep s := by
      intro s hs
      rcases List.mem_append.mp hs with hs | hs
      · obtain rfl := List.eq_of_mem_replicate hs
        exact ⟨by decide, by decide⟩
      · exact hnames s hs
    have habove : step ⟨.here, []⟩ ".." = ⟨.above 1, []⟩ := rfl
    rw [path, pathSteps_intercalate hdots, ofStart_intercalate hdots, List.foldl_append,
      List.replicate_succ, List.foldl_cons, habove, foldl_step_above, foldl_step_names h.names,
      Nat.add_comm 1 n]
    rfl
  | top =>
    have hstart : ofStart ("/" ++ "/".intercalate names) = ⟨.top, []⟩ := by
      rw [ofStart, if_pos]
      rw [String.startsWith_string_iff, String.toList_append]
      exact List.prefix_append _ _
    rw [path, pathSteps_slash, pathSteps_intercalate hnames, hstart, foldl_step_names h.names]
    rfl

end Place

namespace Folder

variable {f f' : Folder} {p q : Place} {path text name s : String} {steps : List String}

/-! ### Where a path leads -/

/-- A path that leads to a **free place** has led there by names, and nothing is there. -/
theorem of_follow_eq_free (hp : p.IsReached) (hsteps : ∀ s ∈ steps, Place.IsStep s)
    (h : f.follow p steps = .free q) : q.IsReached ∧ f.thing q = .nothing := by
  fun_induction follow f p steps with
  | case1 => cases h
  | case2 p rest ih => exact ih hp (List.forall_mem_cons.mp hsteps).2 h
  | case3 p rest ih => exact ih hp.parent (List.forall_mem_cons.mp hsteps).2 h
  | case4 => cases h
  | case5 p name rest hdot hdots _ _ ih =>
    obtain ⟨hname, hrest⟩ := List.forall_mem_cons.mp hsteps
    exact ih (hp.child ⟨hname, hdot, hdots⟩) hrest h
  | case6 | case7 | case9 => cases h
  | case8 p name rest hdot hdots _ hthing =>
    obtain rfl : p.child name = q := Destination.free.inj h
    exact ⟨hp.child ⟨(List.forall_mem_cons.mp hsteps).1, hdot, hdots⟩, hthing⟩

theorem of_destination_eq_free (h : f.destination path = .free p) :
    p.IsReached ∧ f.thing p = .nothing := by
  have hsteps : ∀ s ∈ Place.pathSteps path ++ (if path.endsWith "/" then ["."] else []),
      Place.IsStep s := by
    intro s hs
    rcases List.mem_append.mp hs with hs | hs
    · exact Place.isStep_of_mem_pathSteps hs
    · split at hs
      · obtain rfl := List.mem_singleton.mp hs
        exact ⟨by decide, by decide⟩
      · cases hs
  rw [destination] at h
  split at h
  · cases h
  · split at h
    · cases h
    · split at h
      · cases h
      · exact of_follow_eq_free (Place.isReached_ofStart path) hsteps h

/-- Where nothing is, **no file lies**. -/
theorem ofPath_ne_of_thing_eq_nothing (h : f.thing p = .nothing) :
    ∀ e ∈ f.files, Place.ofPath e.1 ≠ p := by
  intro e he heq
  rw [thing] at h
  split at h
  · cases h
  · split at h
    · cases h
    · rename_i hnone
      exact absurd (decide_eq_true heq) (List.find?_eq_none.mp hnone e he)

/-! ### Files that are kept -/

theorem put_eq_putList (path text : String) (files : List (String × String)) :
    put path text files = Table.putList path text files := by
  induction files with
  | nil => rfl
  | cons e es ih => rw [put, Table.putList, ih]

/-- **A file that is written where none was** changes no other. -/
theorem lookup_of_write_of_not_has (hhas : f.has path = .ok false)
    (hwrite : f.write path text = .ok f') (hs : f.files.lookup name = some s) :
    f'.files.lookup name = some s := by
  cases hd : f.destination path with
  | free p =>
    obtain ⟨hreached, hthing⟩ := of_destination_eq_free hd
    rw [write, hd] at hwrite
    obtain rfl := Except.ok.inj hwrite
    have hne : name ≠ p.path := by
      rintro rfl
      obtain ⟨before, after, hfiles, -⟩ := List.lookup_eq_some_iff.mp hs
      have hmem : (p.path, s) ∈ f.files := by
        rw [hfiles]
        exact List.mem_append_right _ (List.mem_cons_self ..)
      exact ofPath_ne_of_thing_eq_nothing hthing _ hmem (Place.ofPath_path hreached)
    change (put p.path text f.files).lookup name = some s
    rw [put_eq_putList, Table.lookup_putList, if_neg hne, hs]
  | file | folder =>
    rw [has, hd] at hhas
    cases hhas
  | _ =>
    rw [write, hd] at hwrite
    cases hwrite

end Folder

end StackManifest
