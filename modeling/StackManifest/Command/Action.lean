import StackManifest.Console.Grid
import StackManifest.Folder

/-!
# Actions of commands

A command prints lines on the console and writes files, until it ends: with a status, or with a
fault that nobody expected.

* `Screen` – the lines **printed** so far, and the files as they are;
* `Ending` and `Action` – how a command ends, and a step of it;
* `print`, `printBare`, `printDebug`, `printGrid` – printing;
* `readFile`, `writeFile` – the files;
* `Outcome` and `Action.outcome` – all that comes of a command.
-/

namespace StackManifest.Command

open StackManifest.Console

/-- The lines **printed** so far, last one first, and the files as they are. -/
structure Screen where
  lines : List (List Char)
  folder : Folder

/-- How a command ends early. -/
inductive Ending where
  | status (n : Nat)
  | stopped (f : Fault)

/-- A step of a command. -/
abbrev Action (α : Type) := ExceptT Ending (StateM Screen) α

/-- Ends the command with a status. -/
def finish (n : Nat) : Action α := throw (.status n)

/-- A result, or the end of the command. -/
def orStop (r : Except Fault α) : Action α :=
  match r with
  | .ok a => return a
  | .error f => throw (.stopped f)

/-- Puts lines on the console. -/
def putLines (ls : List (List Char)) : Action Unit :=
  modify fun s => { s with lines := ls.reverse ++ s.lines }

/-- Prints a text **without its marks**, as many lines as it needs. -/
def print (s : String) : Action Unit := do
  putLines (wrap lineWidth .fold (← orStop (Marked.read s >>= Marked.plain)))

/-- Prints a text in which nothing is a mark. -/
def printBare (s : String) : Action Unit := putLines (wrap lineWidth .fold (bareText s))

/-- Prints lines as they are. -/
def printDebug (debug : Bool) (ls : List String) : Action Unit :=
  if debug then putLines (ls.flatMap fun l => l.toList.splitOn '\n') else return

/-- Prints a **grid**. -/
def printGrid (g : Grid) : Action Unit := do putLines (← orStop g.lines)

/-- The text of a file, or the fault that there is none. -/
def readFile (path : String) : Action (Except Fault String) := do
  return (← get).folder.read path

/-- **Writes** a file. -/
def writeFile (path text : String) : Action Unit := do
  let folder ← orStop ((← get).folder.write (Folder.usualPath path) text)
  modify fun s => { s with folder }

/-- Whether there is something at a path. -/
def hasFile (path : String) : Action Bool := do
  orStop ((← get).folder.has (Folder.usualPath path))

/-- All that comes of a command: what it **printed**, its status, the fault that stopped it, if
one did, and the files after it. -/
structure Outcome where
  lines : List (List Char)
  status : Nat
  stopped : Option Fault
  folder : Folder

/-- What comes of an action. -/
def Action.outcome (a : Action Unit) (folder : Folder) : Outcome :=
  let (ending, screen) := a.run.run ⟨[], folder⟩
  let (status, stopped) := match ending with
    | .ok () => (0, none)
    | .error (.status n) => (n, none)
    | .error (.stopped f) => (1, some f)
  { lines := screen.lines.reverse, status, stopped, folder := screen.folder }

end StackManifest.Command
