import StackManifest.Document.Basic
import StackManifest.Document.Scalar

/-!
# Reading a document from plain data

Plain data is read part by part, and every problem in it is reported. Names that were
written as numbers or truth values become texts first, and sections left empty count as
empty mappings, so that a careless document can still be checked.

* `keyText` and `normalize` – a mapping with its **keys as texts**, down to a depth;
* `Fields.read`, `Fields.extra` – a known field of a part, and the fields that it does not
  know;
* `listOf`, `tableOf`, `part` – the readings of lists, tables and parts;
* `Document.read` – the **document** that plain data is.
-/

namespace StackManifest

open Checked

/-! ### Names -/

/-- A key as the **text** that it is read as: a number by its text, a truth value by its
word. -/
def keyText (k : Value) : Checked Value :=
  match k with
  | .bool b => .ok (.text (if b then "true" else "false"))
  | k => Scalar.asText k

/-- The entries with their keys as texts. A text that occurs again keeps its place and takes
the later value. Of several values that cannot be written only the first is reported. -/
def renameKeys (es : Entries) (values : Value → Checked Value) : Checked Entries :=
  match Checked.all (es.map fun e => (keyText e.1).and (values e.2)) with
  | .ok es => .ok (Entries.ofList es)
  | .bad ps => .bad (ps.take 1)

/-- A mapping with its **keys as texts**, and so the mappings in it down to a depth. Nothing
becomes an empty mapping; what is no mapping is left as it is. -/
def normalize (depth : Nat) (v : Value) : Checked Value :=
  match v with
  | .null => .ok (.map 0 [])
  | .map l es =>
    match depth with
    | 0 => (renameKeys es .ok).map (.map l)
    | depth + 1 => (renameKeys es (normalize depth)).map (.map l)
  | v => .ok v

/-- How a key appears in the path of a problem. -/
def keyPath : Value → String
  | .text s => s
  | .bool b => if b then "1" else "0"
  | v => v.shown

/-! ### Lists, tables and parts -/

/-- A **list** of values of one sort. -/
def listOf (read : Value → Checked α) (v : Value) : Checked (List α) :=
  match v with
  | .list _ xs | .tuple xs | .set _ xs =>
    Checked.all ((List.range xs.length).zip xs |>.map fun (i, x) => (read x).inside (toString i))
  | _ => .fail .notList

/-- A **table** of values of one sort. -/
def tableOf (read : Value → Checked α) (v : Value) : Checked (Table α) :=
  match v with
  | .map _ es =>
    (Checked.all (es.map fun e =>
      (((Scalar.text e.1).inside "[key]").inside (keyPath e.1)).and
        ((read e.2).inside (keyPath e.1)))).map Table.ofList
  | _ => .fail .notMapping

/-- A **part** with fields. -/
def part (read : Entries → Checked α) (v : Value) : Checked α :=
  match v with
  | .map _ es => read es
  | _ => .fail .notPart

namespace Fields

/-- The name under which a field is given, of those it may have, and its value. -/
def find? (es : Entries) (names : List String) : Option (String × Value) :=
  names.findSome? fun n => (es.get? n).map (n, ·)

/-- A **known field** of a part, a default when it is not given. -/
def read (es : Entries) (names : List String) (default : α) (f : Value → Checked α) :
    Checked α :=
  match find? es names with
  | none => .ok default
  | some (n, v) => (f v).inside n

/-- The fields that a part **does not know**, kept as they are. Their names must be texts. -/
def extra (es : Entries) (known : List (List String)) : Checked (Table Value) :=
  let used := known.filterMap fun names => (find? es names).map Prod.fst
  let fields := es.filter fun e =>
    match e.1 with
    | .text s => !used.contains s
    | _ => true
  (Checked.all (fields.map fun e =>
    match e.1 with
    | .text s => .ok (s, e.2)
    | k => (Checked.fail .badKey).inside (keyPath k))).map Table.ofList

end Fields

/-- A value where nothing stands for an empty list. -/
def emptyIfNull (v : Value) : Value :=
  match v with
  | .null => .list 0 []
  | v => v

/-! ### The parts of a document -/

/-- The target of an exposed port. -/
def ExposeTarget.read : Value → Checked ExposeTarget :=
  part fun es => ExposeTarget.mk
    <$> Fields.read es ["service"] none (Scalar.optional Scalar.named)
    <*> Fields.read es ["global", "global_"] none (Scalar.optional Scalar.boolean)
    <*> Fields.extra es [["service"], ["global", "global_"]]

/-- A port that a service opens. -/
def ExposeRule.read : Value → Checked ExposeRule :=
  part fun es => ExposeRule.mk
    <$> Fields.read es ["port"] none (Scalar.optional Scalar.integer)
    <*> Fields.read es ["as", "as_"] none (Scalar.optional Scalar.integer)
    <*> Fields.read es ["proto"] none (Scalar.optional Scalar.text)
    <*> Fields.read es ["to"] [] (fun v => listOf ExposeTarget.read (emptyIfNull v))
    <*> Fields.extra es [["port"], ["as", "as_"], ["proto"], ["to"]]

/-- A service. -/
def Service.read : Value → Checked Service :=
  part fun es => Service.mk
    <$> Fields.read es ["image"] none (Scalar.optional Scalar.text)
    <*> Fields.read es ["expose"] [] (fun v => listOf ExposeRule.read (emptyIfNull v))
    <*> Fields.read es ["env"] [] (fun v => listOf Scalar.text (emptyIfNull v))
    <*> Fields.read es ["command"] none (Scalar.optional (listOf Scalar.text))
    <*> Fields.read es ["args"] none (Scalar.optional (listOf Scalar.text))
    <*> Fields.extra es [["image"], ["expose"], ["env"], ["command"], ["args"]]

/-- The processors that a profile asks for. -/
def CpuRequest.read : Value → Checked CpuRequest :=
  part fun es => CpuRequest.mk
    <$> Fields.read es ["units"] none (Scalar.optional Scalar.named)
    <*> Fields.extra es [["units"]]

/-- The memory that a profile asks for. -/
def MemoryRequest.read : Value → Checked MemoryRequest :=
  part fun es => MemoryRequest.mk
    <$> Fields.read es ["size"] none (Scalar.optional Scalar.named)
    <*> Fields.extra es [["size"]]

/-- A storage volume. -/
def StorageVolume.read : Value → Checked StorageVolume :=
  part fun es => StorageVolume.mk
    <$> Fields.read es ["name"] none (Scalar.optional Scalar.named)
    <*> Fields.read es ["size"] none (Scalar.optional Scalar.named)
    <*> Fields.read es ["attributes"] .empty (tableOf .ok)
    <*> Fields.extra es [["name"], ["size"], ["attributes"]]

/-- The volumes of a profile: a single volume need not be in a list. -/
def readVolumes (v : Value) : Checked (List StorageVolume) :=
  match v with
  | .null => .ok []
  | .map l es => listOf StorageVolume.read (.list 0 [.map l es])
  | v => listOf StorageVolume.read v

/-- The resources of a profile. -/
def Resources.read : Value → Checked Resources :=
  part fun es => Resources.mk
    <$> Fields.read es ["cpu"] none (Scalar.optional CpuRequest.read)
    <*> Fields.read es ["memory"] none (Scalar.optional MemoryRequest.read)
    <*> Fields.read es ["storage"] [] readVolumes
    <*> Fields.extra es [["cpu"], ["memory"], ["storage"]]

/-- A compute profile. -/
def ComputeProfile.read : Value → Checked ComputeProfile :=
  part fun es => ComputeProfile.mk
    <$> Fields.read es ["resources"] none (Scalar.optional Resources.read)
    <*> Fields.extra es [["resources"]]

/-- The auditors of a placement. -/
def SignedBy.read : Value → Checked SignedBy :=
  part fun es => SignedBy.mk
    <$> Fields.read es ["allOf", "all_of"] [] (listOf Scalar.text)
    <*> Fields.read es ["anyOf", "any_of"] [] (listOf Scalar.text)
    <*> Fields.extra es [["allOf", "all_of"], ["anyOf", "any_of"]]

/-- A price. -/
def Price.read : Value → Checked Price :=
  part fun es => Price.mk
    <$> Fields.read es ["denom"] none (Scalar.optional Scalar.text)
    <*> Fields.read es ["amount"] none (Scalar.optional Scalar.named)
    <*> Fields.extra es [["denom"], ["amount"]]

/-- The text of an attribute: a truth value by its word, any other value by its text. -/
def attributeText (v : Value) : Checked Value :=
  match v with
  | .bool b => .ok (.text (if b then "true" else "false"))
  | v => match v.toText with
    | .ok s => .ok (.text s)
    | .error _ => .fail .unwritable

/-- The attributes of a placement. -/
def readAttributes (v : Value) : Checked (Table String) :=
  match v with
  | .null => .ok .empty
  | .map l es => (renameKeys es attributeText).bind fun es => tableOf Scalar.text (.map l es)
  | v => tableOf Scalar.text v

/-- A placement profile. -/
def PlacementProfile.read : Value → Checked PlacementProfile :=
  part fun es => PlacementProfile.mk
    <$> Fields.read es ["attributes"] .empty readAttributes
    <*> Fields.read es ["signedBy", "signed_by"] none (Scalar.optional SignedBy.read)
    <*> Fields.read es ["pricing"] .empty
      (fun v => (normalize 0 v).bind (tableOf Price.read))
    <*> Fields.extra es [["attributes"], ["signedBy", "signed_by"], ["pricing"]]

/-- A section of named profiles, none when it is left empty. -/
def readSection (read : Value → Checked α) : Value → Checked (Option (Table α)) :=
  Scalar.optional fun v => (normalize 1 v).bind (tableOf read)

/-- The profiles of a document. -/
def Profiles.read : Value → Checked Profiles :=
  part fun es => Profiles.mk
    <$> Fields.read es ["compute"] none (readSection ComputeProfile.read)
    <*> Fields.read es ["placement"] none (readSection PlacementProfile.read)
    <*> Fields.extra es [["compute"], ["placement"]]

/-- An entry of the deployment. -/
def DeploymentEntry.read : Value → Checked DeploymentEntry :=
  part fun es => DeploymentEntry.mk
    <$> Fields.read es ["profile"] none (Scalar.optional Scalar.named)
    <*> Fields.read es ["count"] none (Scalar.optional Scalar.integer)
    <*> Fields.extra es [["profile"], ["count"]]

/-- The **document** that plain data is, or all problems that keep it from being one. -/
def Document.read : Value → Checked Document :=
  part fun es => Document.mk
    <$> Fields.read es ["version"] none (Scalar.optional Scalar.named)
    <*> Fields.read es ["services"] .empty
      (fun v => (normalize 1 v).bind (tableOf Service.read))
    <*> Fields.read es ["profiles"] none (Scalar.optional Profiles.read)
    <*> Fields.read es ["deployment"] .empty
      (fun v => (normalize 2 v).bind (tableOf (tableOf DeploymentEntry.read)))
    <*> Fields.extra es [["version"], ["services"], ["profiles"], ["deployment"]]

end StackManifest
