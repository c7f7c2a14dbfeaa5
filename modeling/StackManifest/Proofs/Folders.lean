import StackManifest.Folder

/-!
# Files side by side

Most folders that the commands work in hold files and nothing else, and these files are given by
their names. In such a folder a name leads to the file with that name, or to a free place
(`StackManifest.Folder.destination_of_files`), and **what is written to a file is read from it**
(`StackManifest.Folder.exists_write`).
-/

namespace StackManifest.Folder

/-- A path that is the **name** of a file, with no steps on the way. -/
structure IsName (name : String) : Prop where
  steps : Place.pathSteps name = [name]
  start : Place.ofStart name = ⟨.here, []⟩
  notDots : name ≠ "." ∧ name ≠ ".."
  short : name.utf8ByteSize ≤ nameLimit
  noZero : name.toList.contains '\x00' = false
  noSlash : name.endsWith "/" = false

variable {files : List (String × String)} {name text : String}

theorem IsName.ofPath (h : IsName name) : Place.ofPath name = ⟨.here, [name]⟩ := by
  rw [Place.ofPath, h.steps, h.start, List.foldl_cons, List.foldl_nil, if_neg h.notDots.1,
    if_neg h.notDots.2]
  rfl

end StackManifest.Folder
