import StackManifest.Document.Basic

/-!
# Writing a document as plain data

A document becomes plain data with every known field given, nothing standing for what is
missing, and the unknown fields after them. Reading that data gives the document again.

* `Value.unshared` – data in which no container carries a label;
* `Document.toValue` – the **plain data** of a document, and the same for each part.
-/

namespace StackManifest

mutual

/-- The same data with every container **in one place only**. -/
def Value.unshared : Value → Value
  | .date _ d => .date 0 d
  | .moment _ m => .moment 0 m
  | .tuple xs => .tuple (unsharedList xs)
  | .list _ xs => .list 0 (unsharedList xs)
  | .set _ xs => .set 0 (unsharedList xs)
  | .map _ es => .map 0 (unsharedEntries es)
  | v => v

/-- Several values, unshared. -/
def unsharedList : List Value → List Value
  | [] => []
  | x :: xs => x.unshared :: unsharedList xs

/-- The entries of a mapping, unshared. -/
def unsharedEntries : List (Value × Value) → List (Value × Value)
  | [] => []
  | (k, v) :: es => (k.unshared, v.unshared) :: unsharedEntries es

end

/-- The plain data of a table. -/
def Table.toValue (f : α → Value) (t : Table α) : Value :=
  Value.record (t.toList.map fun e => (e.1, f e.2))

/-- The plain data of what may be missing. -/
def Value.ofOption (f : α → Value) : Option α → Value
  | none => .null
  | some a => f a

/-- A part with its known fields, and the unknown ones after them. -/
def Value.ofPart (fields : List (String × Value)) (extra : Table Value) : Value :=
  Value.record (fields ++ extra.toList.map fun e => (e.1, e.2.unshared))

/-- A list of texts. -/
def Value.ofTexts (xs : List String) : Value := Value.array (xs.map .text)

/-- The plain data of a target. -/
def ExposeTarget.toValue (t : ExposeTarget) : Value :=
  Value.ofPart [("service", .ofText? t.service), ("global", .ofOption .bool t.isGlobal)] t.extra

/-- The plain data of an open port. -/
def ExposeRule.toValue (r : ExposeRule) : Value :=
  Value.ofPart
    [("port", .ofInt? r.port), ("as", .ofInt? r.externalPort), ("proto", .ofText? r.protocol),
     ("to", .array (r.targets.map ExposeTarget.toValue))] r.extra

/-- The plain data of a service. -/
def Service.toValue (s : Service) : Value :=
  Value.ofPart
    [("image", .ofText? s.image), ("expose", .array (s.expose.map ExposeRule.toValue)),
     ("env", .ofTexts s.env), ("command", .ofOption .ofTexts s.command),
     ("args", .ofOption .ofTexts s.args)] s.extra

/-- The plain data of a processor request. -/
def CpuRequest.toValue (c : CpuRequest) : Value :=
  Value.ofPart [("units", .ofText? c.units)] c.extra

/-- The plain data of a memory request. -/
def MemoryRequest.toValue (m : MemoryRequest) : Value :=
  Value.ofPart [("size", .ofText? m.size)] m.extra

/-- The plain data of a storage volume. -/
def StorageVolume.toValue (v : StorageVolume) : Value :=
  Value.ofPart
    [("name", .ofText? v.name), ("size", .ofText? v.size),
     ("attributes", v.attributes.toValue Value.unshared)] v.extra

/-- The plain data of resources. -/
def Resources.toValue (r : Resources) : Value :=
  Value.ofPart
    [("cpu", .ofOption CpuRequest.toValue r.cpu),
     ("memory", .ofOption MemoryRequest.toValue r.memory),
     ("storage", .array (r.storage.map StorageVolume.toValue))] r.extra

/-- The plain data of a compute profile. -/
def ComputeProfile.toValue (p : ComputeProfile) : Value :=
  Value.ofPart [("resources", .ofOption Resources.toValue p.resources)] p.extra

/-- The plain data of the auditors of a placement. -/
def SignedBy.toValue (s : SignedBy) : Value :=
  Value.ofPart [("allOf", .ofTexts s.allOf), ("anyOf", .ofTexts s.anyOf)] s.extra

/-- The plain data of a price. -/
def Price.toValue (p : Price) : Value :=
  Value.ofPart [("denom", .ofText? p.denom), ("amount", .ofText? p.amount)] p.extra

/-- The plain data of a placement profile. -/
def PlacementProfile.toValue (p : PlacementProfile) : Value :=
  Value.ofPart
    [("attributes", p.attributes.toValue .text),
     ("signedBy", .ofOption SignedBy.toValue p.signedBy),
     ("pricing", p.pricing.toValue Price.toValue)] p.extra

/-- The plain data of the profiles. -/
def Profiles.toValue (p : Profiles) : Value :=
  Value.ofPart
    [("compute", .ofOption (Table.toValue ComputeProfile.toValue) p.compute),
     ("placement", .ofOption (Table.toValue PlacementProfile.toValue) p.placement)] p.extra

/-- The plain data of a deployment entry. -/
def DeploymentEntry.toValue (e : DeploymentEntry) : Value :=
  Value.ofPart [("profile", .ofText? e.profile), ("count", .ofInt? e.count)] e.extra

/-- The **plain data** of a document. -/
def Document.toValue (d : Document) : Value :=
  Value.ofPart
    [("version", .ofText? d.version), ("services", d.services.toValue Service.toValue),
     ("profiles", .ofOption Profiles.toValue d.profiles),
     ("deployment", d.deployment.toValue (Table.toValue DeploymentEntry.toValue))] d.extra

/-- Whether two documents are **equal**: their data are, regardless of the order of names. -/
def Document.eqv (d e : Document) : Bool := d.toValue.eqv e.toValue

end StackManifest
