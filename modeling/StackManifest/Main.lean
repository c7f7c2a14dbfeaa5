import StackManifest.Command.Check
import StackManifest.Command.Run

/-!
# The program

The outermost layer: it reads the files that a command line names, runs the command, prints what
it printed, and writes the files that it changed. With the word `check` in front, the single
check is run instead.

* `namedFiles` – the **paths** that a command line may be about;
* `main` – the program.
-/

namespace StackManifest.Command

/-- The paths that are used by default. -/
def defaultFiles : List String := ["deploy.yaml", "deploy-v2.yaml", "deploy-optimized.yaml"]

/-- The **paths** that a command line may be about: every word of it, what follows an equals sign
or a letter in it, and the paths that are used by default. -/
def namedFiles (args : List String) : List String :=
  (defaultFiles ++ args.flatMap fun word =>
    let cs := word.toList
    [word, String.ofList ((cs.dropWhile (· ≠ '=')).drop 1), String.ofList (cs.drop 2)]).eraseDups

/-- The paths of the folders on the way along a path: all that ends before a slash. -/
def wayOf (path : String) : List String :=
  let steps := path.splitOn "/"
  (List.range steps.length).map fun n => "/".intercalate (steps.take n)

/-- The files of a command line that can be read, and the folders that can be gone into. -/
def readFolder (paths : List String) : IO Folder := do
  let mut files := []
  for path in paths do
    try
      let text ← IO.FS.readFile path
      files := (path, text) :: files
    catch _ => pure ()
  let mut folders := []
  for path in (paths ++ paths.flatMap wayOf).eraseDups do
    try
      if ← (← IO.FS.realPath path).isDir then folders := path :: folders
    catch _ => pure ()
  return ⟨files.reverse, folders.reverse⟩

/-- Runs a command, and gives its status. -/
def runCommand (args : List String) : IO UInt32 := do
  let before ← readFolder (namedFiles args)
  let outcome := run args before
  for line in outcome.lines do IO.println (String.ofList line)
  for (path, text) in outcome.folder.changes before do IO.FS.writeFile path text
  match outcome.stopped with
  | some f => IO.eprintln f.message
  | none => pure ()
  return outcome.status.toUInt32

/-- Runs the single check, and gives its status. -/
def runCheck (args : List String) : IO UInt32 := do
  let outcome := check args (← readFolder (namedFiles args))
  for line in outcome.output do IO.println line
  for line in outcome.errors do IO.eprintln line
  match outcome.status with
  | .ok n => return n.toUInt32
  | .error f => IO.eprintln f.message; return 1

end StackManifest.Command

/-- The **program**. -/
def main (args : List String) : IO UInt32 :=
  match args with
  | "check" :: rest => StackManifest.Command.runCheck rest
  | args => StackManifest.Command.runCommand args
