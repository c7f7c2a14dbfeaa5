/-!
# Findings

What the checks of a document find: **errors**, which make it invalid, and warnings. A
finding is a cause with the names that its wording needs.

* `Finding` – the causes, in the order in which a document is checked;
* `Finding.message` – the wording, and `Finding.isError` – whether it is an error;
* `Report` – the wordings of errors and warnings so far.
-/

namespace StackManifest

/-- What a check of a document **finds**. -/
inductive Finding where
  | noVersion
  | unknownVersion (version : String)
  | noServices
  | noImage (service : String)
  | noPort (service : String)
  | badProtocol (service : String)
  | undefinedTarget (service target : String)
  | noProfiles
  | noComputeProfiles
  | noResources (profile : String)
  | noCpuUnits (profile : String)
  | cpuNotPositive
  | cpuNotWhole
  | noMemorySize (profile : String)
  | badMemorySize
  | zeroMemorySize
  | badStorageSize
  | zeroStorageSize
  | noPlacementProfiles
  | priceOfUndefined (placement service : String)
  | incompletePrice (placement service : String)
  | badPriceAmount (placement service : String)
  | noDeployment
  | noProfile (service placement : String)
  | noCount (service placement : String)
  | countNotPositive (service placement : String)
  | undefinedService (service : String)
  | undefinedPlacement (placement : String)
  | noPriceFor (placement service : String)
  | undefinedProfile (profile : String)
  deriving DecidableEq, Repr

namespace Finding

/-- Whether a finding makes a document invalid. -/
def isError : Finding → Bool
  | .unknownVersion _ | .undefinedTarget .. => false
  | _ => true

/-- The **wording** of a finding. -/
def message : Finding → String
  | .noVersion => "SDL version is required"
  | .unknownVersion v => s!"SDL version {v} may not be supported"
  | .noServices => "At least one service must be defined"
  | .noImage s => s!"Service '{s}' must specify an image"
  | .noPort s => s!"Service '{s}' expose configuration must specify a port"
  | .badProtocol s => s!"Service '{s}' expose protocol must be TCP or UDP"
  | .undefinedTarget s t => s!"Service '{s}' exposes to undefined service '{t}'"
  | .noProfiles => "Profiles section is required"
  | .noComputeProfiles => "Compute profiles are required"
  | .noResources p => s!"Compute profile '{p}' must specify resources"
  | .noCpuUnits p => s!"Compute profile '{p}' must specify cpu units"
  | .cpuNotPositive => "Invalid CPU units: must be positive"
  | .cpuNotWhole => "Invalid CPU units: must be a whole number of millicores"
  | .noMemorySize p => s!"Compute profile '{p}' must specify memory size"
  | .badMemorySize => "Invalid memory size format"
  | .zeroMemorySize => "Invalid memory size: must be greater than 0"
  | .badStorageSize => "Invalid storage size format"
  | .zeroStorageSize => "Invalid storage size: must be greater than 0"
  | .noPlacementProfiles => "Placement profiles are required"
  | .priceOfUndefined p s => s!"Placement '{p}' has pricing for undefined service '{s}'"
  | .incompletePrice p s =>
    s!"Pricing for service '{s}' in placement '{p}' must specify denom and amount"
  | .badPriceAmount p s =>
    s!"Pricing for service '{s}' in placement '{p}' must have a non-negative numeric amount"
  | .noDeployment => "Deployment section is required"
  | .noProfile s p => s!"Deployment '{s}.{p}' must specify a profile"
  | .noCount s p => s!"Deployment '{s}.{p}' must specify a count"
  | .countNotPositive s p => s!"Deployment count must be positive for '{s}.{p}'"
  | .undefinedService s => s!"Deployment references undefined service '{s}'"
  | .undefinedPlacement p => s!"Deployment references undefined placement profile '{p}'"
  | .noPriceFor p s => s!"Placement '{p}' has no pricing for service '{s}'"
  | .undefinedProfile p => s!"Deployment references undefined compute profile '{p}'"

end Finding

/-- The **wordings** of the errors and of the warnings so far, each in order. -/
structure Report where
  errors : List String
  warnings : List String
  deriving DecidableEq, Repr

namespace Report

/-- The report before any check. -/
def empty : Report := ⟨[], []⟩

/-- Whether a document with this report is **valid**: there are no errors. -/
def isValid (r : Report) : Bool := r.errors.isEmpty

/-- The report with one more error. -/
def error (r : Report) (message : String) : Report := { r with errors := r.errors ++ [message] }

/-- The report with one more warning. -/
def warn (r : Report) (message : String) : Report :=
  { r with warnings := r.warnings ++ [message] }

/-- The report with the findings of a check after it. -/
def addAll (r : Report) (fs : List Finding) : Report :=
  { errors := r.errors ++ (fs.filter Finding.isError).map Finding.message,
    warnings := r.warnings ++ (fs.filter fun f => !f.isError).map Finding.message }

end Report

end StackManifest
