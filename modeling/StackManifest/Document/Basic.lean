import StackManifest.Table
import StackManifest.Value.Basic

/-!
# Stack documents

A document describes a stack: the services to run, the resources that they may have, the
placements where they may run and at what price, and which service is deployed where. Every
part that a check reports on is optional, so an incomplete document is still a document.

* `Service`, with its `ExposeRule`s and their `ExposeTarget`s – **what runs** and which ports
  are open to whom;
* `ComputeProfile`, with `Resources` – what a replica needs;
* `PlacementProfile`, with `SignedBy` and `Price` – **where** it may run;
* `DeploymentEntry` – which profile and how many replicas under one placement;
* `Document` – all of it, with `Document.pairs`, the deployed pairs in order.

Fields that no part knows are kept in the `extra` table of the part that they stand in.
-/

namespace StackManifest

/-- **Where** an exposed port can be reached from. -/
structure ExposeTarget where
  service : Option String
  isGlobal : Option Bool
  extra : Table Value

/-- A **port** that a service opens. -/
structure ExposeRule where
  port : Option Int
  externalPort : Option Int
  protocol : Option String
  targets : List ExposeTarget
  extra : Table Value

/-- **What runs**: an image, with its environment and its open ports. -/
structure Service where
  image : Option String
  expose : List ExposeRule
  env : List String
  command : Option (List String)
  args : Option (List String)
  extra : Table Value

/-- The processors that a replica needs. -/
structure CpuRequest where
  units : Option String
  extra : Table Value

/-- The memory that a replica needs. -/
structure MemoryRequest where
  size : Option String
  extra : Table Value

/-- A storage volume that a replica needs. -/
structure StorageVolume where
  name : Option String
  size : Option String
  attributes : Table Value
  extra : Table Value

/-- The **resources** that a replica needs. -/
structure Resources where
  cpu : Option CpuRequest
  memory : Option MemoryRequest
  storage : List StorageVolume
  extra : Table Value

/-- A named set of resources. -/
structure ComputeProfile where
  resources : Option Resources
  extra : Table Value

/-- The auditors that must have signed a provider: all of some, any of others. -/
structure SignedBy where
  allOf : List String
  anyOf : List String
  extra : Table Value

/-- The price bid for a replica. -/
structure Price where
  denom : Option String
  amount : Option String
  extra : Table Value

/-- **Where** replicas may run: what is asked of a provider, and a price for each service. -/
structure PlacementProfile where
  attributes : Table String
  signedBy : Option SignedBy
  pricing : Table Price
  extra : Table Value

/-- The named profiles of both sorts. -/
structure Profiles where
  compute : Option (Table ComputeProfile)
  placement : Option (Table PlacementProfile)
  extra : Table Value

/-- The compute profile and the number of replicas of a service under one placement. -/
structure DeploymentEntry where
  profile : Option String
  count : Option Int
  extra : Table Value

/-- A stack **document**. -/
structure Document where
  version : Option String
  services : Table Service
  profiles : Option Profiles
  deployment : Table (Table DeploymentEntry)
  extra : Table Value

/-- A service deployed under a placement. -/
structure DeployedPair where
  service : String
  placement : String
  entry : DeploymentEntry

namespace Document

/-- The version of a document that names none. -/
def defaultVersion : String := "2.0"

/-- The versions that are known. -/
def supportedVersions : List String := ["2.0", "2.1"]

/-- The compute profiles, none when the section is missing. -/
def computeProfiles (d : Document) : Table ComputeProfile :=
  (d.profiles.bind Profiles.compute).getD .empty

/-- The placement profiles, none when the section is missing. -/
def placementProfiles (d : Document) : Table PlacementProfile :=
  (d.profiles.bind Profiles.placement).getD .empty

/-- The **deployed pairs** of service and placement, in the order of the document. -/
def pairs (d : Document) : List DeployedPair :=
  d.deployment.toList.flatMap fun (service, placements) =>
    placements.toList.map fun (placement, entry) => { service, placement, entry }

end Document

end StackManifest
