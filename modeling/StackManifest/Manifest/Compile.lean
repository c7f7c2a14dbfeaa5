import StackManifest.Manifest.Group
import StackManifest.Quantity.Price
import StackManifest.Quantity.Size
import StackManifest.StackError
import StackManifest.Validation.Structure

/-!
# Compiling a document

Each deployed pair becomes a group: its service, its placement, its compute profile and its
price are looked up, and the quantities are computed. The first pair that cannot be resolved
stops the compilation, and then there are no groups at all.

* `Stop` – why a compilation stops: a **refusal**, or a quantity that cannot be computed;
* `resolve` – the group of one pair;
* `Document.compile` – the groups of a document, and `Document.compilation`, with the lines
  printed on the way.
-/

namespace StackManifest

open StackManifest.Number

/-- Why a compilation **stops**. -/
inductive Stop where
  | refused (cause : Refusal)
  | fault (cause : Fault)
  deriving DecidableEq, Repr

/-- The value of a quantity, or the fault as the reason to stop. -/
def orStop (q : Except Fault α) : Except Stop α := q.mapError .fault

/-- The sizes of storage volumes; a volume without a size, or of size zero, is refused. -/
def resolveVolumes (refusal : Refusal) : List StorageVolume → Except Stop (List Volume)
  | [] => .ok []
  | v :: vs => do
    let size ← orStop ((v.size.map Size.bytes).getD (.ok 0))
    if size = 0 then throw (.refused refusal)
    return { size, name := v.name } :: (← resolveVolumes refusal vs)

/-- Whether a number of cores is positive and a whole number of thousandths. -/
def coresAccepted (cores : Option Decimal) : Except Fault Bool :=
  match cores with
  | none => .ok false
  | some c => if c.isPositive then Cores.isWholeMillicores c else .ok false

/-- The **resources** of a compute profile, for a service that uses it. -/
def resolveResources (service profile : String) (p : ComputeProfile) :
    Except Stop GroupResources := do
  let refusal := Refusal.badResources service profile
  match p.resources with
  | some { cpu := some cpu, memory := some memory, storage, .. } =>
    let cores ← orStop ((cpu.units.map Cores.read).getD (.ok none))
    let bytes ← orStop ((memory.size.map Size.bytes).getD (.ok 0))
    let accepted ← orStop (coresAccepted cores)
    match cores with
    | some cores =>
      if !accepted ∨ bytes = 0 then throw (.refused refusal)
      let volumes ← resolveVolumes refusal storage
      return { cpu := .finite cores, memory := bytes, storage := volumes }
    | none => throw (.refused refusal)
  | _ => throw (.refused refusal)

/-- What a placement **requires** of a provider. -/
def resolveRequirements (p : PlacementProfile) : Requirements :=
  { attributes := p.attributes.toList,
    allOf := (p.signedBy.map SignedBy.allOf).getD [],
    anyOf := (p.signedBy.map SignedBy.anyOf).getD [] }

/-- A port as the provider opens it: the external port is the port itself when none is given
or it is zero, the protocol is TCP when none is given, and the first target says to whom the
port is open. -/
def resolvePort (r : ExposeRule) : OpenPort :=
  let target := r.targets.head?
  { port := r.port,
    externalPort := (r.externalPort.filter (· ≠ 0)).orElse fun _ => r.port,
    protocol := Text.upper ((given? r.protocol).getD "TCP"),
    service := target.bind ExposeTarget.service,
    isGlobal := (target.bind ExposeTarget.isGlobal).getD false }

/-- The complete **price** of a service under a placement. -/
def resolvePrice (service placement : String) (p : PlacementProfile) :
    Except Stop (String × String) := do
  match p.pricing.get? service with
  | some { denom := some denom, amount := some amount, .. } =>
    if denom = "" ∨ amount = "" then throw (.refused (.noPrice service placement))
    if (PriceAmount.read? amount).isNone then
      throw (.refused (.badPrice service placement amount))
    return (denom, amount)
  | _ => throw (.refused (.noPrice service placement))

/-- The **group** of a deployed pair. -/
def resolve (d : Document) (p : DeployedPair) : Except Stop Group := do
  let profileName := given? p.entry.profile
  match d.services.get? p.service, profileName.bind d.computeProfiles.get?,
      d.placementProfiles.get? p.placement with
  | some service, some profile, some placement =>
    let (denom, amount) ← resolvePrice p.service p.placement placement
    let resources ← resolveResources p.service (profileName.getD "") profile
    return {
      name := p.service, placement := p.placement, image := service.image, resources,
      count := .ofInt? p.entry.count, price := { denom, amount := .text amount },
      requirements := resolveRequirements placement,
      expose := service.expose.map resolvePort }
  | _, _, _ => throw (.refused (.unresolved p.service p.placement p.entry.profile))

/-- The line printed when a group is compiled. -/
def compiledLine (g : Group) : Except Fault String := do
  let millicores ← (Value.int (← g.millicores)).toText
  let memory ← (Value.int g.resources.memory).toText
  let count ← g.count.toText
  return s!"Debug: Compiled {g.name} on {g.placement}: {millicores}m cpu, "
    ++ s!"{memory} bytes memory, count {count}"

/-- The groups of a document, or why there are none, and the lines printed on the way. -/
structure Compilation where
  groups : Except Stop (List Group)
  printed : List String

/-- A compilation with one more group in front, and the line printed for it. -/
def Compilation.after (g : Group) (line : String) (c : Compilation) : Compilation :=
  { groups := c.groups.map (g :: ·), printed := line :: c.printed }

/-- The compilation of several pairs, with a line for each group, up to the first pair that
**stops** it. A group whose line cannot be written stops it too. -/
def compileTelling (d : Document) : List DeployedPair → Compilation
  | [] => { groups := .ok [], printed := [] }
  | p :: ps =>
    match (do let g ← resolve d p; return (g, ← orStop (compiledLine g))) with
    | .ok (g, line) => (compileTelling d ps).after g line
    | .error s => { groups := .error s, printed := [] }

namespace Document

/-- The **groups** of a document, one for each deployed pair, in order. -/
def compile (d : Document) : Except Stop (List Group) := d.pairs.mapM (resolve d)

/-- The compilation of a document, with the **lines printed** if they are asked for. -/
def compilation (d : Document) (debug : Bool) : Compilation :=
  if debug then compileTelling d d.pairs else { groups := d.compile, printed := [] }

end Document

end StackManifest
