import StackManifest.Document.Source
import StackManifest.Folder
import StackManifest.Manifest.Compile
import StackManifest.Validation.Check

/-!
# The single check

A smaller program, for scripts: it checks that one file is valid and can be compiled. What it
says goes to the output if all is well, and to the errors otherwise.

* `CheckRequest` and `CheckRequest.read` – what its command line **asks for**;
* `CheckOutcome` – what comes of it;
* `checkFile` and `check` – the check of a file, and of what a command line asks for.
-/

namespace StackManifest.Command

/-- What the command line of the check **asks for**. -/
structure CheckRequest where
  config : String
  debug : Bool

/-- The options of the check. -/
inductive CheckOption where
  | config
  | debug
  | help
  /-- The letter for help, with more letters after it. -/
  | helpAnd (letters : List Char)

namespace CheckRequest

/-- The options with their long names. -/
def longNames : List (String × CheckOption) :=
  [("--config", .config), ("--debug", .debug), ("--help", .help)]

/-- The options with a long name that **begins** with some characters. -/
def namesFrom (name : List Char) : List (String × CheckOption) :=
  longNames.filter fun o => name.isPrefixOf o.1.toList

/-- The characters up to an equals sign, and what comes after it. -/
def splitValue (cs : List Char) : List Char × Option String :=
  let name := cs.takeWhile (· ≠ '=')
  (name, if name.length = cs.length then none
    else some (String.ofList (cs.drop (name.length + 1))))

/-- The option that a word is, and the value that comes with it. A long name may be cut short
where only one option begins so. -/
def findOption (word : String) : Option (CheckOption × Option String) :=
  match word.toList with
  | '-' :: '-' :: cs =>
    let (name, value) := splitValue ('-' :: '-' :: cs)
    match namesFrom name with
    | [o] => some (o.2, value)
    | _ => none
  | ['-', 'c'] => some (.config, none)
  | '-' :: 'c' :: '=' :: value | '-' :: 'c' :: value => some (.config, some (String.ofList value))
  | '-' :: 'h' :: letters => some (.helpAnd letters, none)
  | _ => none

/-- Whether several options begin like a word: the two hyphens with a value. -/
def isAmbiguous (word : String) : Bool := word.startsWith "--="

/-- A number below zero, with a point perhaps, and perhaps a line break after it. -/
def isNegative (word : String) : Bool :=
  match word.toList with
  | '-' :: cs =>
    let cs := if cs.getLast? = some '\n' then cs.dropLast else cs
    let whole := cs.takeWhile Text.isDigit
    match cs.dropWhile Text.isDigit with
    | [] => !whole.isEmpty
    | '.' :: ds => !ds.isEmpty && ds.all Text.isDigit
    | _ => false
  | _ => false

/-- Whether a word can be the value of an option: one that begins like an option can not, unless it
is a number below zero or holds a space. -/
def isValue (word : String) : Bool :=
  !word.startsWith "-" || word = "-"
    || ((findOption word).isNone && (isNegative word || word.toList.contains ' '))

/-- Whether letters may stand after the letter for help, with the words after them: the last letter
of all may be an option that still needs a value. -/
def mayFollowHelp (words : List String) : List Char → Bool
  | [] => true
  | '=' :: _ | '-' :: _ => false
  | 'h' :: letters => mayFollowHelp words letters
  | ['c'] => words.head?.any isValue
  | _ => true

/-- What some words ask for, `none` inside when it is help, and `none` at all when the words cannot
be understood. Help may be asked for after words that are **not known**. -/
def readFrom (r : CheckRequest) (known : Bool) : List String → Option (Option CheckRequest)
  | [] => if known then some (some r) else none
  | word :: rest =>
    if word = "--" then none
    else match findOption word with
    | none => readFrom r false rest
    | some (.help, none) => some none
    | some (.helpAnd letters, _) => if mayFollowHelp rest letters then some none else none
    | some (.debug, none) => readFrom { r with debug := true } known rest
    | some (.help, some _) | some (.debug, some _) => none
    | some (.config, some v) => readFrom { r with config := v } known rest
    | some (.config, none) =>
      match rest with
      | v :: rest => if isValue v then readFrom { r with config := v } known rest else none
      | [] => none

/-- What a command line **asks for**, or the status of one that asks for nothing. -/
def read (args : List String) : Except Nat CheckRequest :=
  if (args.takeWhile (· ≠ "--")).any isAmbiguous then .error 2
  else match readFrom ⟨"deploy.yaml", false⟩ true args with
  | some (some r) => .ok r
  | some none => .error 0
  | none => .error 2

end CheckRequest

/-- What comes of the check: what it **says** on both sides, and its status, or the fault that
stopped it. -/
structure CheckOutcome where
  output : List String
  errors : List String
  status : Except Fault Nat

/-- The outcome of a check that cannot be made. -/
def CheckOutcome.failed (output errors : List String) (message : String) : CheckOutcome :=
  { output, errors := errors ++ ["Error checking SDL: " ++ message], status := .ok 2 }

/-- The outcome of a check of a valid document: whether it can be compiled. -/
def compileOutcome (r : CheckRequest) (d : Document) (output errors : List String) :
    CheckOutcome :=
  let c := d.compilation r.debug
  let output := output ++ c.printed
  match c.groups with
  | .ok gs =>
    { output := output ++ [s!"{r.config}: valid, {gs.length} manifest group(s)"], errors,
      status := .ok 0 }
  | .error (.refused refusal) => .failed output errors refusal.message
  | .error (.fault f) => { output, errors, status := .error f }

/-- The outcome of a check of a document. -/
def documentOutcome (r : CheckRequest) (d : Document) : CheckOutcome :=
  let c := d.check
  let output := if r.debug then c.printed else []
  match c.stopped with
  | some f => { output, errors := [], status := .error f }
  | none =>
    let warnings := c.report.warnings.map ("Warning: " ++ ·)
    if c.report.isValid then compileOutcome r d output warnings
    else { output, errors := warnings ++ c.report.errors.map ("Error: " ++ ·), status := .ok 1 }

/-- The check of a **file**. -/
def checkFile (r : CheckRequest) (folder : Folder) : CheckOutcome :=
  match folder.read r.config with
  | .error f =>
    if f.family = .file then .failed [] [] f.message
    else { output := [], errors := [], status := .error f }
  | .ok s =>
    match Document.parse (.text s.toList) with
    | .error e => .failed [] [] e.message
    | .ok d => documentOutcome r d

/-- What comes of a whole **command line** of the check. -/
def check (args : List String) (folder : Folder) : CheckOutcome :=
  match CheckRequest.read args with
  | .ok r => checkFile r folder
  | .error status => { output := [], errors := [], status := .ok status }

end StackManifest.Command
