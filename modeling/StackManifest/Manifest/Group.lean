import StackManifest.Document.Writer
import StackManifest.Quantity.Cores

/-!
# Manifest groups

A group is what a document asks of a provider for one service under one placement, with all
references resolved: the image, the resources of one replica, how many replicas, the price
bid for each, what is required of the provider, and the open ports.

* `Group` – the group, with its `GroupResources`, `GroupPrice`, `Requirements` and
  `OpenPort`s;
* `Group.millicores`, `Group.totalStorage` – two derived quantities;
* `Group.toValue` – the plain data of a group.

A group can also be put together by hand; its count and its amount are then whatever plain
data was given for them.
-/

namespace StackManifest

open StackManifest.Number

/-- A resolved storage volume, in bytes. -/
structure Volume where
  size : Int
  name : Option String
  deriving DecidableEq, Repr

/-- The resolved resources of one replica: cores, and bytes of memory and storage. -/
structure GroupResources where
  cpu : ExtendedDecimal
  memory : Int
  storage : List Volume
  deriving DecidableEq, Repr

/-- The price bid for one replica. -/
structure GroupPrice where
  denom : String
  amount : Value

/-- What is **required** of a provider. -/
structure Requirements where
  attributes : List (String × String)
  allOf : List String
  anyOf : List String
  deriving DecidableEq, Repr

/-- A port as the provider opens it. -/
structure OpenPort where
  port : Option Int
  externalPort : Option Int
  protocol : String
  service : Option String
  isGlobal : Bool
  deriving DecidableEq, Repr

/-- The **group** of one service under one placement. -/
structure Group where
  name : String
  placement : String
  image : Option String
  resources : GroupResources
  count : Value
  price : GroupPrice
  requirements : Requirements
  expose : List OpenPort

namespace Group

/-- The **thousandths** of a core that a replica needs. -/
def millicores (g : Group) : Except Fault Int := Cores.millicores g.resources.cpu

/-- The bytes of storage that a replica needs, all volumes together. -/
def totalStorage (g : Group) : Int := (g.resources.storage.map Volume.size).foldr (· + ·) 0

end Group

/-- The plain data of an open port. -/
def OpenPort.toValue (p : OpenPort) : Value :=
  Value.record
    [("port", .ofInt? p.port), ("externalPort", .ofInt? p.externalPort),
     ("proto", .text p.protocol), ("service", .ofText? p.service), ("global", .bool p.isGlobal)]

/-- The plain data of the auditors that are required. -/
def Requirements.signedBy (r : Requirements) : Value :=
  Value.record [("allOf", .ofTexts r.allOf), ("anyOf", .ofTexts r.anyOf)]

/-- The plain data of a price. -/
def GroupPrice.toValue (p : GroupPrice) : Value :=
  Value.record [("denom", .text p.denom), ("amount", p.amount)]

/-- The fields of the plain data of a group. An attribute that is given twice takes its later
value. -/
def Group.fields (g : Group) : List (String × Value) :=
  [("name", .text g.name), ("placement", .text g.placement), ("image", .ofText? g.image),
   ("resources", Value.record
     [("cpu", .text g.resources.cpu.text), ("memory", .int g.resources.memory),
      ("storage", .array (g.resources.storage.map fun v =>
        Value.record [("name", .ofText? v.name), ("size", .int v.size)]))]),
   ("count", g.count), ("price", g.price.toValue),
   ("requirements", Value.record
     [("attributes", (Table.ofList g.requirements.attributes).toValue .text),
      ("signedBy", g.requirements.signedBy)]),
   ("expose", .array (g.expose.map OpenPort.toValue))]

/-- The **plain data** of a group. -/
def Group.toValue (g : Group) : Value := Value.record g.fields

/-- Whether two groups are **equal** in all parts; numbers compare by what they count. -/
def Group.eqv (g h : Group) : Bool :=
  g.name == h.name && g.placement == h.placement && g.image == h.image
    && g.resources.memory == h.resources.memory && g.resources.storage == h.resources.storage
    && g.resources.cpu.eqv h.resources.cpu
    && g.count.eqv h.count && g.price.denom == h.price.denom
    && g.price.amount.eqv h.price.amount && g.requirements == h.requirements
    && g.expose == h.expose

end StackManifest
