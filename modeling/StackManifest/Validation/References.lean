import StackManifest.Document.Basic
import StackManifest.Validation.Finding

/-!
# The reference check

The check of the deployment against the other sections: every deployed pair names a service,
a placement that prices the service, and a compute profile.

* `pairReferences` – what one pair refers to in vain;
* `Document.referenceFindings` – the check of all pairs; an undefined service is reported at
  its **first pair** only.
-/

namespace StackManifest

/-- What the service of a pair refers to in vain. -/
def serviceReference (d : Document) (p : DeployedPair) : List Finding :=
  if d.services.contains p.service then [] else [.undefinedService p.service]

/-- What the placement of a pair refers to in vain. -/
def placementReference (d : Document) (p : DeployedPair) : List Finding :=
  match d.placementProfiles.get? p.placement with
  | none => [.undefinedPlacement p.placement]
  | some placement =>
    if placement.pricing.contains p.service then [] else [.noPriceFor p.placement p.service]

/-- What the compute profile of a pair refers to in vain. -/
def profileReference (d : Document) (p : DeployedPair) : List Finding :=
  match p.entry.profile with
  | none => []
  | some name =>
    if name = "" ∨ d.computeProfiles.contains name then [] else [.undefinedProfile name]

/-- What one pair refers to in vain, where some undefined services were **reported** before. -/
def pairReferences (d : Document) (reported : List String) (p : DeployedPair) : List Finding :=
  (if reported.contains p.service then [] else serviceReference d p)
    ++ placementReference d p ++ profileReference d p

/-- What several pairs refer to in vain, after some services were reported. -/
def referencesFrom (d : Document) (reported : List String) : List DeployedPair → List Finding
  | [] => []
  | p :: ps =>
    let reported' := if d.services.contains p.service then reported else p.service :: reported
    pairReferences d reported p ++ referencesFrom d reported' ps

/-- The **reference check** of a document. -/
def Document.referenceFindings (d : Document) : List Finding := referencesFrom d [] d.pairs

end StackManifest
