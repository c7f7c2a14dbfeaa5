import StackManifest.Fault
import StackManifest.Folder.Place
import StackManifest.Text.Lines

/-!
# Folders

The files that the commands read and write, by their paths. A path is followed name by name, so
a folder on its way has to be there, even where two dots lead out of it again. A folder is there
as soon as a file lies in it.

* `Folder` – the files, in order;
* `Folder.destination` – where a path **leads**;
* `Folder.read` and `Folder.write` – the text of a file, and the folder with a file **written**;
* `Folder.has` – whether a path leads to a file or a folder;
* `Folder.changes` – the files that are new or have another text than before;
* `Folder.usualPath` – a path in its usual form.
-/

namespace StackManifest

/-- The **files** of a folder, with their paths and texts, and the paths of more folders. -/
structure Folder where
  files : List (String × String)
  folders : List String
  deriving Repr

/-- What is at a **place**. -/
inductive Thing where
  | folder
  /-- A file, with the path that it is known by. -/
  | file (path text : String)
  | nothing

/-- Where a **path** leads. -/
inductive Destination where
  | file (path text : String)
  | folder
  /-- There is nothing, but a file could be put there. -/
  | free (p : Place)
  | nowhere
  /-- A file is in the way. -/
  | blocked
  /-- A name on the way, or the path, is too long to be one. -/
  | tooLong
  /-- The path holds a character that no path can hold. -/
  | unreadable
  deriving DecidableEq, Repr

namespace Folder

/-- The most bytes that a name can have. -/
def nameLimit : Nat := 255

/-- The most bytes that a path can have. -/
def pathLimit : Nat := 4095

/-- Whether a place has another one below it. -/
def isAbove (p q : Place) : Bool :=
  p.start = q.start && p.names.length < q.names.length && p.names.isPrefixOf q.names

/-- Whether there is a **folder** at a place. -/
def isFolder (f : Folder) (p : Place) : Bool :=
  p.isCommon || (f.files.any fun e => isAbove p (Place.ofPath e.1))
    || f.folders.any fun path => Place.ofPath path = p || isAbove p (Place.ofPath path)

/-- What is at a **place**. -/
def thing (f : Folder) (p : Place) : Thing :=
  if f.isFolder p then .folder
  else match f.files.find? fun e => Place.ofPath e.1 = p with
    | some (path, text) => .file path text
    | none => if p = Place.emptyFile then .file p.path "" else .nothing

/-- Where some **steps** lead, from a folder at a place. -/
def follow (f : Folder) (p : Place) : List String → Destination
  | [] => .folder
  | "." :: rest => follow f p rest
  | ".." :: rest => follow f p.parent rest
  | name :: rest =>
    if nameLimit < name.utf8ByteSize then .tooLong
    else match f.thing (p.child name) with
      | .folder => follow f (p.child name) rest
      | .file path text => if rest.isEmpty then .file path text else .blocked
      | .nothing => if rest.isEmpty then .free (p.child name) else .nowhere

/-- Where a **path** leads. A slash at its end leads into a folder, like a point after it. -/
def destination (f : Folder) (path : String) : Destination :=
  if path.toList.contains '\x00' then .unreadable
  else if path = "" then .nowhere
  else if pathLimit < path.utf8ByteSize then .tooLong
  else follow f (Place.ofStart path)
    (Place.pathSteps path ++ if path.endsWith "/" then ["."] else [])

/-- Whether a path leads to a **file or a folder**. -/
def has (f : Folder) (path : String) : Except Fault Bool :=
  match f.destination path with
  | .file .. | .folder => .ok true
  | .tooLong => .error (.longName path)
  | .free _ | .nowhere | .blocked | .unreadable => .ok false

/-- The **text of a file**, its line breaks unified. -/
def read (f : Folder) (path : String) : Except Fault String :=
  match f.destination path with
  | .file _ text => .ok (Text.fileText text)
  | .folder => .error (.folder path)
  | .blocked => .error (.notFolder path)
  | .free _ | .nowhere => .error (.missingFile path)
  | .tooLong => .error (.longName path)
  | .unreadable => .error .zeroInPath

/-- The files with a text put at a path. -/
def put (name text : String) : List (String × String) → List (String × String)
  | [] => [(name, text)]
  | e :: es => if e.1 = name then (name, text) :: es else e :: put name text es

/-- The folder with a file **written**: a new one, or an old one with a new text. -/
def write (f : Folder) (path text : String) : Except Fault Folder :=
  match f.destination path with
  | .file name _ =>
    .ok (if Place.ofPath name = Place.emptyFile then f
      else { f with files := put name text f.files })
  | .free p => .ok { f with files := put p.path text f.files }
  | .folder => .error (.folder path)
  | .blocked => .error (.notFolder path)
  | .nowhere => .error (.missingFile path)
  | .tooLong => .error (.longName path)
  | .unreadable => .error .zeroInPath

/-- The files that are **new or changed** since before. -/
def changes (f before : Folder) : List (String × String) :=
  f.files.filter fun e => before.files.lookup e.1 ≠ some e.2

/-- The files of the folder itself that are new or changed since before. -/
def changesHere (f before : Folder) : List (String × String) :=
  (f.changes before).filter fun e => (Place.ofPath e.1).isHere

/-- The slashes that a path keeps at its start: two are kept as they are, and more are one. -/
def leadingSlashes (path : String) : String :=
  match (path.toList.takeWhile (· = '/')).length with
  | 0 => ""
  | 2 => "//"
  | _ => "/"

/-- A path in its **usual form**: without steps that stay where they are, and a point if
nothing is left. -/
def usualPath (path : String) : String :=
  let s := leadingSlashes path ++ "/".intercalate ((Place.pathSteps path).filter (· ≠ "."))
  if s = "" then "." else s

end Folder

end StackManifest
