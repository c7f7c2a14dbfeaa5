import StackManifest.Document.Basic

/-!
# The plain data kept in a document

A document keeps the fields that it does not know, and the attributes of storage volumes, as the
plain data that they were given as. A change in that data is a change of the document.

* `Document.mapKept` – the document with the **plain data in it** replaced, and the same for each
  part.
-/

namespace StackManifest

variable (f : Value → Value)

/-- A target with the plain data in it replaced. -/
def ExposeTarget.mapKept (t : ExposeTarget) : ExposeTarget := { t with extra := t.extra.map f }

/-- An open port with the plain data in it replaced. -/
def ExposeRule.mapKept (r : ExposeRule) : ExposeRule :=
  { r with targets := r.targets.map (·.mapKept f), extra := r.extra.map f }

/-- A service with the plain data in it replaced. -/
def Service.mapKept (s : Service) : Service :=
  { s with expose := s.expose.map (·.mapKept f), extra := s.extra.map f }

/-- A storage volume with the plain data in it replaced. -/
def StorageVolume.mapKept (v : StorageVolume) : StorageVolume :=
  { v with attributes := v.attributes.map f, extra := v.extra.map f }

/-- Resources with the plain data in them replaced. -/
def Resources.mapKept (r : Resources) : Resources :=
  { cpu := r.cpu.map fun c => { c with extra := c.extra.map f },
    memory := r.memory.map fun m => { m with extra := m.extra.map f },
    storage := r.storage.map (·.mapKept f), extra := r.extra.map f }

/-- A compute profile with the plain data in it replaced. -/
def ComputeProfile.mapKept (p : ComputeProfile) : ComputeProfile :=
  { resources := p.resources.map (·.mapKept f), extra := p.extra.map f }

/-- A placement profile with the plain data in it replaced. -/
def PlacementProfile.mapKept (p : PlacementProfile) : PlacementProfile :=
  { p with
    signedBy := p.signedBy.map fun s => { s with extra := s.extra.map f },
    pricing := p.pricing.map fun c => { c with extra := c.extra.map f },
    extra := p.extra.map f }

/-- The profiles with the plain data in them replaced. -/
def Profiles.mapKept (p : Profiles) : Profiles :=
  { compute := p.compute.map (·.map (·.mapKept f)),
    placement := p.placement.map (·.map (·.mapKept f)), extra := p.extra.map f }

/-- A document with the **plain data in it** replaced. -/
def Document.mapKept (d : Document) : Document :=
  { d with
    services := d.services.map (·.mapKept f), profiles := d.profiles.map (·.mapKept f),
    deployment := d.deployment.map (·.map fun e => { e with extra := e.extra.map f }),
    extra := d.extra.map f }

end StackManifest
