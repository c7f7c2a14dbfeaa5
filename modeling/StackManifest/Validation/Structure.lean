import StackManifest.Document.Basic
import StackManifest.Quantity.Cores
import StackManifest.Quantity.Price
import StackManifest.Quantity.Size
import StackManifest.Validation.Finding

/-!
# The structural check

The check of each section by itself: whether it is there, and whether its entries say all
that they must, in words and numbers that can be read. A quantity that cannot be computed
stops the check, and then the findings so far are all there are.

* `Findings` – the **findings of a check**, with the fault that stopped it, if one did;
* `Document.structureFindings` – the structural check, section by section.
-/

namespace StackManifest

open StackManifest.Number

/-- The **findings** of a check in order, and the fault that stopped it, if one did. -/
structure Findings where
  found : List Finding
  stopped : Option Fault
  deriving DecidableEq, Repr

namespace Findings

/-- A check that finds nothing. -/
def none : Findings := ⟨[], .none⟩

/-- A check that finds one thing. -/
def one (f : Finding) : Findings := ⟨[f], .none⟩

/-- A check that finds one thing if a condition holds. -/
def when (b : Bool) (f : Finding) : Findings := if b then one f else none

/-- A check after another one, unless that one was stopped. -/
def append (a b : Findings) : Findings :=
  match a.stopped with
  | .none => ⟨a.found ++ b.found, b.stopped⟩
  | some _ => a

instance : Append Findings := ⟨append⟩

/-- Several checks, one after the other. -/
def join : List Findings → Findings
  | [] => none
  | c :: cs => c ++ join cs

/-- A check of a quantity, stopped if the quantity cannot be computed. -/
def ofQuantity (q : Except Fault α) (check : α → Findings) : Findings :=
  match q with
  | .ok a => check a
  | .error f => ⟨[], some f⟩

end Findings

/-- A text that is given and not empty. -/
def given? (s : Option String) : Option String := s.filter (· ≠ "")

/-- The protocols that a port may have. -/
def knownProtocols : List String := ["TCP", "UDP"]

/-- The check of the version. -/
def versionFindings (d : Document) : Findings :=
  match given? d.version with
  | none => .one .noVersion
  | some v => .when (!Document.supportedVersions.contains v) (.unknownVersion v)

/-- Whether a port is given and not zero. -/
def ExposeRule.hasPort (r : ExposeRule) : Bool := (r.port.filter (· ≠ 0)).isSome

/-- Whether the protocol of a port is missing or known, in any case. -/
def ExposeRule.hasKnownProtocol (r : ExposeRule) : Bool :=
  match given? r.protocol with
  | none => true
  | some p => knownProtocols.contains (Text.upper p)

/-- The check of an open port of a service. -/
def exposeFindings (d : Document) (service : String) (r : ExposeRule) : Findings :=
  .when (!r.hasPort) (.noPort service)
    ++ .when (!r.hasKnownProtocol) (.badProtocol service)
    ++ .join (r.targets.map fun t =>
      match given? t.service with
      | none => .none
      | some s => .when (!d.services.contains s) (.undefinedTarget service s))

/-- The check of a service. -/
def serviceFindings (d : Document) (name : String) (s : Service) : Findings :=
  .when (given? s.image).isNone (.noImage name) ++ .join (s.expose.map (exposeFindings d name))

/-- The check of all services. -/
def servicesFindings (d : Document) : Findings :=
  if d.services.isEmpty then .one .noServices
  else .join (d.services.toList.map fun e => serviceFindings d e.1 e.2)

/-- The check of the processors of a profile. -/
def cpuFindings (profile : String) (r : Resources) : Findings :=
  match given? (r.cpu.bind (·.units)) with
  | none => .one (.noCpuUnits profile)
  | some units => .ofQuantity (Cores.read units) fun cores =>
    match cores with
    | some c =>
      if c.isPositive then
        .ofQuantity (Cores.isWholeMillicores c) fun whole => .when (!whole) .cpuNotWhole
      else .one .cpuNotPositive
    | none => .one .cpuNotPositive

/-- The check of the memory of a profile. -/
def memoryFindings (profile : String) (r : Resources) : Findings :=
  match given? (r.memory.bind (·.size)) with
  | none => .one (.noMemorySize profile)
  | some size =>
    if Size.isLiteral size then
      .ofQuantity (Size.bytes size) fun n => .when (n == 0) .zeroMemorySize
    else .one .badMemorySize

/-- The check of a storage volume. -/
def volumeFindings (v : StorageVolume) : Findings :=
  match v.size with
  | none => .one .badStorageSize
  | some size =>
    if Size.isLiteral size then
      .ofQuantity (Size.bytes size) fun n => .when (n == 0) .zeroStorageSize
    else .one .badStorageSize

/-- The check of a compute profile. -/
def computeFindings (name : String) (p : ComputeProfile) : Findings :=
  match p.resources with
  | none => .one (.noResources name)
  | some r => cpuFindings name r ++ memoryFindings name r ++ .join (r.storage.map volumeFindings)

/-- Whether a price says its denomination and its amount. -/
def Price.isComplete (p : Price) : Bool := (given? p.denom).isSome && (given? p.amount).isSome

/-- The check of a price of a placement. -/
def priceFindings (d : Document) (placement service : String) (p : Price) : Findings :=
  .when (!d.services.contains service) (.priceOfUndefined placement service)
    ++ (if !p.isComplete then .one (.incompletePrice placement service)
      else .when (p.amount.bind PriceAmount.read?).isNone (.badPriceAmount placement service))

/-- The check of a placement profile. -/
def placementFindings (d : Document) (name : String) (p : PlacementProfile) : Findings :=
  .join (p.pricing.toList.map fun e => priceFindings d name e.1 e.2)

/-- The check of a section of named profiles. -/
def sectionFindings (section_ : Option (Table α)) (missing : Finding)
    (check : String → α → Findings) : Findings :=
  match section_ with
  | none => .one missing
  | some t => if t.isEmpty then .one missing else .join (t.toList.map fun e => check e.1 e.2)

/-- The check of the profiles. -/
def profilesFindings (d : Document) : Findings :=
  match d.profiles with
  | none => .one .noProfiles
  | some p => sectionFindings p.compute .noComputeProfiles computeFindings
      ++ sectionFindings p.placement .noPlacementProfiles (placementFindings d)

/-- The check of a deployed pair. -/
def pairFindings (p : DeployedPair) : Findings :=
  .when (given? p.entry.profile).isNone (.noProfile p.service p.placement)
    ++ match p.entry.count with
      | none => .one (.noCount p.service p.placement)
      | some n => .when (n ≤ 0) (.countNotPositive p.service p.placement)

/-- The check of the deployment. -/
def deploymentFindings (d : Document) : Findings :=
  if d.deployment.isEmpty then .one .noDeployment
  else .join (d.pairs.map pairFindings)

/-- The **structural check** of a document: version, services, profiles, deployment. -/
def Document.structureFindings (d : Document) : Findings :=
  versionFindings d ++ servicesFindings d ++ profilesFindings d ++ deploymentFindings d

end StackManifest
