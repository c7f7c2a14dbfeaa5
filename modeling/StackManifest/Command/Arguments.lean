import StackManifest.Document.Scalar
import StackManifest.Number.Whole

/-!
# Command lines

What a command line asks for: a command, its options and its arguments. An option has a long
name after two hyphens and perhaps a letter after one; a value follows it, after an equals sign
or as the next word, or as the rest of the word after a letter.

* `OptionForm` – an option that a command knows;
* `Given` and `Given.read?` – what a command line **gives**;
* `Request` and `Request.read` – what it asks for, unless it is a `Misuse`.
-/

namespace StackManifest.Command

/-- An option that a command knows. -/
structure OptionForm where
  name : String
  letter : Option Char
  takesValue : Bool

/-- What a command line **gives**: the options, the last one first, and the other words. -/
structure Given where
  options : List (String × String)
  words : List String

namespace Given

/-- Nothing. -/
def nothing : Given := ⟨[], []⟩

/-- The value of an option; the last one counts. -/
def value? (g : Given) (name : String) : Option String := g.options.lookup name

/-- The value of an option, or another one. -/
def value (g : Given) (name default : String) : String := (g.value? name).getD default

/-- Whether an option is given. -/
def has (g : Given) (name : String) : Bool := (g.value? name).isSome

/-- One more option. -/
def option (g : Given) (name value : String) : Given :=
  { g with options := (name, value) :: g.options }

/-- A word that can be an option: it begins with a hyphen and goes on. -/
def isOption (word : String) : Bool := word.startsWith "-" && 1 < word.length

/-- The long name of a word, and the value after an equals sign. -/
def splitValue (word : String) : String × Option String :=
  let cs := word.toList
  let name := cs.takeWhile (· ≠ '=')
  (String.ofList name,
    if name.length = cs.length then none else some (String.ofList (cs.drop (name.length + 1))))

/-- The option that a word is, and the value that comes with it. -/
def findOption (forms : List OptionForm) (word : String) :
    Option (OptionForm × Option String) :=
  let (name, value) := splitValue word
  match forms.find? fun f => "--" ++ f.name = name with
  | some f => some (f, value)
  | none =>
    if word.startsWith "--" then none
    else match word.toList with
      | _ :: c :: rest =>
        (forms.find? fun f => f.letter = some c).map fun f =>
          (f, if rest.isEmpty then none else some (String.ofList rest))
      | _ => none

/-- What some words give. Where options end at the first other word, the rest is for the
command. None if a word is no option that is known, or a value is missing or not wanted. -/
def read? (forms : List OptionForm) (mixed : Bool) (g : Given) : List String → Option Given
  | [] => some g
  | word :: rest =>
    if word = "--" then some { g with words := g.words ++ rest }
    else if !isOption word then
      let g := { g with words := g.words ++ [word] }
      if mixed then read? forms mixed g rest else some { g with words := g.words ++ rest }
    else match findOption forms word with
      | none => none
      | some (f, value) =>
        match f.takesValue, value, rest with
        | true, some v, rest => read? forms mixed (g.option f.name v) rest
        | true, none, v :: rest => read? forms mixed (g.option f.name v) rest
        | true, none, [] => none
        | false, none, rest => read? forms mixed (g.option f.name "") rest
        | false, some _, _ => none

end Given

/-- What a command line **asks for**. -/
inductive Request where
  | validate (config : String) (debug : Bool)
  | compile (config : String) (output : Option String) (format : String) (debug : Bool)
  | estimate (config : String) (debug : Bool)
  | init (template output : String) (name image : Option String) (count : Option Int)
      (force debug : Bool)
  | convert (config output : String)
  | resize (config output : String) (force : Bool)

/-- A command line that asks for nothing: it wants help, or it cannot be understood. -/
inductive Misuse where
  | help
  | unreadable
  deriving DecidableEq, Repr

/-- The status that a misused program ends with. -/
def Misuse.status : Misuse → Nat
  | .help => 0
  | .unreadable => 2

namespace Request

/-- An option that every command has. -/
def helpForm : OptionForm := ⟨"help", none, false⟩

/-- The option for the file that is read. -/
def configForm : OptionForm := ⟨"config", some 'c', true⟩

/-- The option for the file that is written. -/
def outputForm : OptionForm := ⟨"output", some 'o', true⟩

/-- The option for what is printed on the way. -/
def debugForm : OptionForm := ⟨"debug", none, false⟩

/-- The option for writing over a file. -/
def forceForm : OptionForm := ⟨"force", none, false⟩

/-- The number that a word is, with underscores between its digits if need be. -/
def readCount? (s : String) : Option Int :=
  let cs := s.toList
  let parts := (Text.trim cs).splitOn '_'
  let outer := fun (p : List Char) => !p.isEmpty
  let inner := parts.drop 1
  if parts.all outer && inner.all (fun p => (p.head?.map Text.isDigit).getD false)
      && parts.dropLast.all (fun p => (p.getLast?.map Text.isDigit).getD false) then
    (Number.readWhole 10 (cs.filter (· ≠ '_'))).toOption
  else none

/-- The options of a command, with the file that is read by default. -/
def theConfig (g : Given) : String := g.value "config" "deploy.yaml"

/-- The request of a command with an option that must be a number. -/
def initRequest (g : Given) : Except Misuse Request :=
  let request := fun (count : Option Int) =>
    Request.init (g.words.head?.getD "web-app") (g.value "output" "deploy.yaml")
      (g.value? "name") (g.value? "image") count (g.has "force") (g.has "debug")
  match g.value? "count" with
  | none => .ok (request none)
  | some s =>
    match readCount? s with
    | some n => .ok (request (some n))
    | none => .error .unreadable

/-- The options of a command, the number of words that it takes, and its request. -/
def command? (name : String) :
    Option (List OptionForm × Nat × (Given → Except Misuse Request)) :=
  match name with
  | "validate" => some ([configForm, debugForm], 0, fun g =>
      .ok (.validate (theConfig g) (g.has "debug")))
  | "compile" => some ([configForm, outputForm, ⟨"format", some 'f', true⟩, debugForm], 0,
      fun g => .ok (.compile (theConfig g) (g.value? "output") (g.value "format" "yaml")
        (g.has "debug")))
  | "estimate" => some ([configForm, debugForm], 0, fun g =>
      .ok (.estimate (theConfig g) (g.has "debug")))
  | "init" => some ([outputForm, ⟨"name", none, true⟩, ⟨"image", none, true⟩,
      ⟨"count", none, true⟩, forceForm, debugForm], 1, initRequest)
  | "convert" => some ([configForm, outputForm], 0, fun g =>
      .ok (.convert (theConfig g) (g.value "output" "deploy-v2.yaml")))
  | "optimize" => some ([configForm, outputForm, forceForm], 0, fun g =>
      .ok (.resize (theConfig g) (g.value "output" "deploy-optimized.yaml") (g.has "force")))
  | _ => none

/-- The **request** of the words after a command. -/
def readCommand (name : String) (words : List String) : Except Misuse Request :=
  match command? name with
  | none => .error .unreadable
  | some (forms, most, request) =>
    match Given.read? (helpForm :: forms) true .nothing words with
    | none => .error .unreadable
    | some g =>
      if g.has "help" then .error .help
      else if most < g.words.length then .error .unreadable
      else request g

/-- The **request** of a whole command line. -/
def read (args : List String) : Except Misuse Request :=
  match Given.read? [helpForm] false .nothing args with
  | none => .error .unreadable
  | some g =>
    if g.has "help" then .error .help
    else match g.words with
      | [] => .error .unreadable
      | name :: words => readCommand name words

end Request

end StackManifest.Command
