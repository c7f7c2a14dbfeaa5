import StackManifest.Manifest.Group

/-!
# The manifest for providers

The groups of a document brought together by placement, in the form that providers take.

* `ProviderManifest`, with `ProviderGroup`s and `ProviderService`s – the **manifest**;
* `ProviderManifest.build` – the manifest of some groups: one part for each placement, in the
  order in which the placements first occur, with the requirements of its first group;
* `ProviderManifest.toValue` – the plain data of a manifest.
-/

namespace StackManifest

/-- A service in the manifest. -/
structure ProviderService where
  name : String
  image : Option String
  count : Value
  millicores : Int
  memory : Int
  storage : List (String × Int)
  price : GroupPrice
  expose : List OpenPort

/-- The services under one placement. -/
structure ProviderGroup where
  name : String
  requirements : Requirements
  services : List ProviderService

/-- The **manifest** for providers. -/
structure ProviderManifest where
  version : Option String
  groups : List ProviderGroup

/-- The service that a group becomes. A volume without a name is the default one. -/
def ProviderService.ofGroup (g : Group) : Except Fault ProviderService := do
  return {
    name := g.name, image := g.image, count := g.count, millicores := ← g.millicores,
    memory := g.resources.memory,
    storage := g.resources.storage.map fun v =>
      ((v.name.filter (· ≠ "")).getD "default", v.size),
    price := g.price, expose := g.expose }

/-- Some parts with the service of a group **added** to the part of its placement. -/
def addService (g : Group) (s : ProviderService) : List ProviderGroup → List ProviderGroup
  | [] => [{ name := g.placement, requirements := g.requirements, services := [s] }]
  | p :: ps =>
    if p.name = g.placement then { p with services := p.services ++ [s] } :: ps
    else p :: addService g s ps

/-- The **manifest** of some groups. -/
def ProviderManifest.build (version : Option String) (gs : List Group) :
    Except Fault ProviderManifest := do
  let parts ← gs.foldlM (fun ps g => do return addService g (← ProviderService.ofGroup g) ps) []
  return { version, groups := parts }

/-- The plain data of a service. -/
def ProviderService.toValue (s : ProviderService) : Value :=
  let quantity := fun (n : Int) => ("quantity", Value.record [("val", .int n)])
  Value.record
    [("name", .text s.name), ("image", .ofText? s.image), ("count", s.count),
     ("resources", Value.record
       [("cpu", Value.record [("units", Value.record [("val", .int s.millicores)])]),
        ("memory", Value.record [quantity s.memory]),
        ("storage", .array (s.storage.map fun v =>
          Value.record [("name", .text v.1), quantity v.2]))]),
     ("price", s.price.toValue), ("expose", .array (s.expose.map OpenPort.toValue))]

/-- The plain data of the services under one placement. -/
def ProviderGroup.toValue (g : ProviderGroup) : Value :=
  Value.record
    [("name", .text g.name),
     ("requirements", Value.record
       [("signedBy", g.requirements.signedBy),
        ("attributes", .array (g.requirements.attributes.map fun a =>
          Value.record [("key", .text a.1), ("value", .text a.2)]))]),
     ("services", .array (g.services.map ProviderService.toValue))]

/-- The **plain data** of a manifest. -/
def ProviderManifest.toValue (m : ProviderManifest) : Value :=
  Value.record
    [("version", .ofText? m.version), ("groups", .array (m.groups.map ProviderGroup.toValue))]

end StackManifest
