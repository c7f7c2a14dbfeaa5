import StackManifest.Document.Problem
import StackManifest.Fault
import StackManifest.Value.Text

/-!
# Errors about a document

Why a document cannot be read or compiled. Each error has a **wording**, a context of named
values and perhaps a cause; it is an error of reading or one of validation.

* `Refusal` – why a deployed pair cannot be compiled;
* `StackError` – the errors, with `StackError.message`, `StackError.context` and
  `StackError.kind`;
* `ErrorNote` and `ErrorNote.describe` – an error as it is shown to a person.
-/

namespace StackManifest

/-- Why a **deployed pair** cannot be compiled. -/
inductive Refusal where
  /-- The service, the placement or the compute profile is not defined. -/
  | unresolved (service placement : String) (profile : Option String)
  /-- The placement has no complete price for the service. -/
  | noPrice (service placement : String)
  /-- The price amount is no amount. -/
  | badPrice (service placement amount : String)
  /-- The resources of the profile are missing, unreadable or zero. -/
  | badResources (service profile : String)
  deriving DecidableEq, Repr

/-- The wording of a refusal. -/
def Refusal.message : Refusal → String
  | .unresolved service _ _ => s!"Missing service or compute profile for {service}"
  | .noPrice service placement => s!"Missing pricing for {service} in placement {placement}"
  | .badPrice service placement _ =>
    s!"Invalid price amount for {service} in placement {placement}"
  | .badResources service profile =>
    s!"Invalid resources in compute profile '{profile}' for {service}"

/-- The named values that go with a refusal. -/
def Refusal.context : Refusal → List (String × Value)
  | .unresolved _ placement profile =>
    [("placement", .text placement), ("profile", .ofText? profile)]
  | .noPrice _ placement => [("placement", .text placement)]
  | .badPrice _ placement amount => [("placement", .text placement), ("amount", .text amount)]
  | .badResources _ profile => [("profile", .text profile)]

/-- What an error is about. -/
inductive ErrorKind where
  | general
  | reading
  | validation
  deriving DecidableEq, Repr

/-- The name of an error kind. -/
def ErrorKind.name : ErrorKind → String
  | .general => "SDLError"
  | .reading => "ParseError"
  | .validation => "ValidationError"

/-- An **error about a document**. -/
inductive StackError where
  /-- The text is no well-formed markup. -/
  | illFormed
  /-- The data is no mapping. -/
  | notMapping
  /-- Fields that every document has are missing or empty. -/
  | missingFields (names : List String)
  /-- The text could not be read. -/
  | unreadable (cause : Fault)
  /-- The data is no document. -/
  | notDocument (problems : List Problem)
  /-- A deployed pair cannot be compiled. -/
  | refused (cause : Refusal)
  deriving DecidableEq, Repr

namespace StackError

/-- How a number of problems is announced. -/
def problemCount (n : Nat) : String :=
  s!"{n} validation error" ++ (if n = 1 then "" else "s") ++ " for ServiceDefinition"

/-- The **wording** of an error. -/
def message : StackError → String
  | .illFormed | .notMapping => "Invalid SDL syntax"
  | .missingFields _ => "Missing required SDL fields"
  | .unreadable f => "Failed to parse SDL: " ++ f.message
  | .notDocument ps => "Failed to parse SDL: " ++ problemCount ps.length
  | .refused r => r.message

/-- The named values that go with an error. -/
def context : StackError → List (String × Value)
  | .missingFields names => [("missing", .array (names.map .text))]
  | .refused r => r.context
  | _ => []

/-- What an error is about. -/
def kind : StackError → ErrorKind
  | .missingFields _ | .refused _ => .validation
  | _ => .reading

/-- The wording of the cause of an error, if it has one. -/
def causeMessage : StackError → Option String
  | .illFormed => some ""
  | .unreadable f => some f.message
  | .notDocument ps => some (problemCount ps.length)
  | _ => none

end StackError

/-- An error as it is **shown to a person**. -/
structure ErrorNote where
  kind : ErrorKind
  message : String
  context : Entries
  cause : Option String

/-- The lines that describe an error: its kind and wording, its context, its cause. -/
def ErrorNote.describe (n : ErrorNote) : String :=
  let context := n.context.map fun e => s!"  {e.1.plain}: {e.2.plain}"
  let cause := match n.cause with
    | none => []
    | some c => [s!"Caused by: {c}"]
  "\n".intercalate (s!"{n.kind.name}: {n.message}" :: context ++ cause)

/-- An error about a document, as it is shown. -/
def StackError.note (e : StackError) : ErrorNote :=
  { kind := e.kind, message := e.message,
    context := e.context.map fun c => (.text c.1, c.2), cause := e.causeMessage }

end StackManifest
