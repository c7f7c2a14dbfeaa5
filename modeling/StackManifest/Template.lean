import StackManifest.Document.Source
import StackManifest.Json.Writer
import StackManifest.Value.Text

/-!
# Templates

Starter documents for four kinds of stacks. A template has places for a name, an image, a port,
a count and a price, each with its usual value; what stands at a place is written as it is, or
as an object text where a text needs its quotes.

* `TemplateKind` – the **kinds**;
* `Piece` – a part of a line, and `Piece.render`, what it becomes;
* `TemplateKind.lines` – the lines of a template;
* `TemplateKind.context` – the values for its places: the usual ones, and those **given**;
* `checkNames` – which names values can be given under;
* `Rendering` and `render` – the text of a template, with the line printed before it;
* `generate` – the **document** that the text is read as.
-/

namespace StackManifest

/-- The **kinds** of templates. -/
inductive TemplateKind where
  | webApp
  | apiServer
  | database
  | worker
  deriving DecidableEq, Repr

/-- A **part of a line**. -/
inductive Piece where
  /-- Characters that stand for themselves. -/
  | text (s : String)
  /-- A place for a value, written as it is. -/
  | plain (name : String)
  /-- A place for a value, written as an object text. -/
  | object (name : String)

/-- A line of a template. -/
abbrev Line := List Piece

/-- What is different in each template: the usual values, and the lines in five places. -/
structure TemplateParts where
  name : String
  image : String
  port : Value
  count : Int
  amount : String
  service : List Line
  cpu : String
  memory : String
  volumes : List Line
  attributes : List Line

namespace TemplateKind

/-- All kinds, in order. -/
def all : List TemplateKind := [.webApp, .apiServer, .database, .worker]

/-- The name of a kind. -/
def name : TemplateKind → String
  | .webApp => "web-app"
  | .apiServer => "api-server"
  | .database => "database"
  | .worker => "worker"

/-- The kind with a name. -/
def ofName? (s : String) : Option TemplateKind := all.find? fun k => k.name = s

/-- The names of all kinds. -/
def names : List String := all.map name

/-- A line without places. -/
def fixed (s : String) : Line := [.text s]

/-- An open port, for everybody. -/
def publicPort : List Line :=
  [fixed "    expose:", [.text "      - port: ", .plain "port"], fixed "        as: 80",
   fixed "        proto: TCP", fixed "        to:", fixed "          - global: true"]

/-- What is different in a template. -/
def parts : TemplateKind → TemplateParts
  | .webApp =>
    { name := "web", image := "nginx:latest", port := .int 80, count := 1, amount := "1000",
      service := publicPort, cpu := "0.1", memory := "512Mi",
      volumes := [fixed "          - size: 1Gi"],
      attributes :=
        [fixed "      signedBy:", fixed "        anyOf:",
         fixed "          - akash1365yvmc4s7awdyj3n2sav7xfx76adc6dnmlx63"] }
  | .apiServer =>
    { name := "api", image := "node:18-alpine", port := .int 3000, count := 2, amount := "2000",
      service :=
        [fixed "    env:", fixed "      - NODE_ENV=production",
         [.text "      - PORT=", .plain "port"]] ++ publicPort,
      cpu := "0.25", memory := "1Gi", volumes := [fixed "          - size: 2Gi"],
      attributes := [] }
  | .database =>
    { name := "db", image := "postgres:15", port := .int 5432, count := 1, amount := "5000",
      service :=
        [fixed "    env:", fixed "      - POSTGRES_DB=myapp", fixed "      - POSTGRES_USER=user",
         fixed "      - POSTGRES_PASSWORD=password", fixed "    expose:",
         [.text "      - port: ", .plain "port"], fixed "        proto: TCP"],
      cpu := "0.5", memory := "2Gi",
      volumes :=
        [fixed "          - name: data", fixed "            size: 10Gi",
         fixed "            attributes:", fixed "              class: persistent"],
      attributes := [fixed "        datacenter: \"true\""] }
  | .worker =>
    { name := "worker", image := "python:3.11-slim", port := .null, count := 3,
      amount := "8000",
      service :=
        [fixed "    command:", fixed "      - python", fixed "      - worker.py",
         fixed "    env:", fixed "      - WORKER_CONCURRENCY=4"],
      cpu := "1.0", memory := "4Gi", volumes := [fixed "          - size: 5Gi"],
      attributes := [] }

/-- The place for the name, as the name of an entry. -/
def nameLine (indent : String) : Line := [.text indent, .plain "name", .text ":"]

/-- The **lines** of a template. -/
def lines (k : TemplateKind) : List Line :=
  let p := k.parts
  [[.text "version: \"", .plain "version", .text "\""], [],
   fixed "services:", nameLine "  ", [.text "    image: ", .object "image"]]
    ++ p.service
    ++ [[], fixed "profiles:", fixed "  compute:", nameLine "    ", fixed "      resources:",
        fixed "        cpu:", fixed s!"          units: \"{p.cpu}\"",
        fixed "        memory:", fixed s!"          size: {p.memory}", fixed "        storage:"]
    ++ p.volumes
    ++ [fixed "  placement:", fixed "    datacenter:", fixed "      attributes:",
        fixed "        host: akash"]
    ++ p.attributes
    ++ [fixed "      pricing:", nameLine "        ",
        [.text "          denom: ", .plain "denom"],
        [.text "          amount: ", .object "amount"], [],
        fixed "deployment:", nameLine "  ", fixed "    datacenter:",
        [.text "      profile: ", .plain "name"], [.text "      count: ", .plain "count"]]

/-- The usual values of a template. -/
def defaults (k : TemplateKind) : Entries :=
  let p := k.parts
  [(.text "version", .text Document.defaultVersion), (.text "denom", .text "uakt"),
   (.text "name", .text p.name), (.text "image", .text p.image), (.text "port", p.port),
   (.text "count", .int p.count), (.text "amount", .text p.amount)]

/-- The **values for the places** of a template: the usual ones, replaced by those that are
given. -/
def context (k : TemplateKind) (given : Entries) : Entries :=
  (given.filter fun e => !e.2.isNull).foldl (fun es e => Entries.put es e.1 e.2) k.defaults

/-- The line printed before a template is rendered. -/
def renderingLine (k : TemplateKind) (context : Entries) : Except Fault String := do
  return s!"Debug: Rendering template {k.name}.yaml.j2 with "
    ++ (← (Value.map 0 context).toText)

end TemplateKind

/-- A character of an object text, where the characters that mean something in a page are
written by their codes. -/
def pageChar (c : Char) : List Char :=
  if c = '<' ∨ c = '>' ∨ c = '&' ∨ c = '\'' then Json.codeEscape c.toNat else [c]

/-- What a piece **becomes**, with the values for the places. -/
def Piece.render (context : Entries) : Piece → Except Fault String
  | .text s => .ok s
  | .plain name => (Entries.get context name).toText
  | .object name => do
    let s ← Json.write .oneLine (Entries.get context name)
    return String.ofList (s.toList.flatMap pageChar)

/-- The text of a template, without a line break at the end, and the line printed before it. -/
structure Rendering where
  text : Except Fault String
  printed : List String

/-- The rendering of a template with some values. -/
def TemplateKind.render (k : TemplateKind) (given : Entries) : Rendering :=
  let context := k.context given
  let text := do
    let lines ← k.lines.mapM fun line => do return String.join (← line.mapM (·.render context))
    return "\n".intercalate lines
  { text, printed := (k.renderingLine context).toOption.toList }

/-- The names that no value for a place can be given under. -/
def takenNames : List String := ["self", "kind"]

/-- Checks the **names** of the values that are given: each is a text, and none is taken. -/
def checkNames (given : Entries) : Except Fault Unit := do
  let names ← given.mapM fun e => match e.1 with
    | .text s => .ok s
    | _ => .error .namelessValue
  match names.find? takenNames.contains with
  | some s => .error (.takenName s)
  | none => return

/-- The **rendering** of the template of a kind, given by its name. -/
def render (kind : String) (given : Entries) : Rendering :=
  match checkNames given, TemplateKind.ofName? kind with
  | .error f, _ => { text := .error f, printed := [] }
  | _, some k => k.render given
  | _, none => { text := .error (.unknownTemplate kind TemplateKind.names), printed := [] }

/-- The **document** that the rendering of a template is read as. A template that cannot be
rendered is a fault, and a rendering that is no document an error about it. -/
def generate (kind : String) (given : Entries) : Except Fault (Except StackError Document) := do
  return Document.parse (.text (← (render kind given).text).toList)

end StackManifest
