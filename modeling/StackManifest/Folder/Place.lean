/-!
# Places

Where files lie, seen from the folder in which the program works: below that folder, below one
of the folders that it lies in, or below the topmost folder of all.

* `Place` – a **place**, with `Place.parent` and `Place.child`, the places next to it;
* `Place.ofPath` and `Place.path` – the place that a path means, and the path of a place;
* `Place.isCommon` – whether every system has a folder there.
-/

namespace StackManifest

/-- The folder that a place is **below**. -/
inductive Start where
  | here
  /-- The folder so many steps above the one in which the program works. -/
  | above (steps : Nat)
  | top
  deriving DecidableEq, Repr

/-- A **place** for a file or a folder: the names that lead to it from a start. -/
structure Place where
  start : Start
  names : List String
  deriving DecidableEq, Repr

namespace Place

/-- The place that a path **starts** at: the topmost folder, after a slash. -/
def ofStart (path : String) : Place := ⟨if path.startsWith "/" then .top else .here, []⟩

/-- The folder that a place lies **in**; the topmost one lies in itself. -/
def parent (p : Place) : Place :=
  match p.names, p.start with
  | [], .here => ⟨.above 1, []⟩
  | [], .above n => ⟨.above (n + 1), []⟩
  | [], .top => p
  | names, _ => { p with names := names.dropLast }

/-- The place of a **name** in a folder. -/
def child (p : Place) (name : String) : Place := { p with names := p.names ++ [name] }

/-- The names and the dots along a path. -/
def pathSteps (path : String) : List String :=
  ((path.toList.splitOn '/').map String.ofList).filter (· ≠ "")

/-- The place that a **path** means, if every name on its way is the name of a folder. -/
def ofPath (path : String) : Place :=
  (pathSteps path).foldl
    (fun p s => if s = "." then p else if s = ".." then p.parent else p.child s) (ofStart path)

/-- The **path** of a place. -/
def path (p : Place) : String :=
  match p.start with
  | .here => "/".intercalate p.names
  | .above n => "/".intercalate (List.replicate n ".." ++ p.names)
  | .top => "/" ++ "/".intercalate p.names

/-- Whether a place is below the folder in which the program works. -/
def isHere (p : Place) : Bool := p.start = .here

/-- Whether **every system** has a folder at a place. -/
def isCommon (p : Place) : Bool :=
  match p.start, p.names with
  | _, [] => true
  | .top, [name] => ["bin", "dev", "etc", "home", "lib", "media", "mnt", "opt", "proc", "root",
      "run", "sbin", "srv", "sys", "tmp", "usr", "var"].contains name
  | _, _ => false

/-- The file of every system that has no text, whatever is written to it. -/
def emptyFile : Place := ⟨.top, ["dev", "null"]⟩

end Place

end StackManifest
