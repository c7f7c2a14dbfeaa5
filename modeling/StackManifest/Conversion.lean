import StackManifest.Document.Basic
import StackManifest.Value.Access
import StackManifest.Value.Address
import StackManifest.Value.Text

/-!
# Converting the first layout

Documents of the first layout have flat profiles, and their deployment names one profile for
each service. A conversion nests the resources, and puts every deployment under the placement
`default`. What the first layout does not know is not converted.

* `convertService`, `convertProfile`, `convertDeployment` – one entry of each section;
* `convert` – the whole data in the **current layout**.
-/

namespace StackManifest.Conversion

/-- The name of the placement of every converted deployment. -/
def defaultPlacement : String := "default"

/-- A mapping of names to values. -/
def named (es : Entries) : Value := .map 0 es

/-- A step of a conversion, with the greatest **label** in use. -/
abbrev Converting (α : Type) := StateT Label (Except Fault) α

/-- A container in a second place carries a label; other values need none. -/
def shared (v : Value) : Converting Value := do
  let next := (← get) + 1
  let labelled := match v with
    | .list 0 xs => Value.list next xs
    | .set 0 xs => .set next xs
    | .map 0 es => .map next es
    | v => v
  if labelled.label = next then set next
  return labelled

/-- An open port: the outer port is the inner one. -/
def convertRule (rule : Value) : Converting Value := do
  let port ← shared (← rule.field "port")
  let open_ ← rule.fieldOr "global" (.bool false)
  return .record [("port", port), ("as", port), ("to", .array [.record [("global", open_)]])]

/-- A **service**: its image and, if it has any, its open ports. -/
def convertService (service : Value) : Converting Value := do
  let image ← service.field "image"
  let rules ← service.field "expose"
  if rules.isTruthy then
    let ports ← (← rules.elements).mapM convertRule
    return .record [("image", image), ("expose", .array ports)]
  else
    return .record [("image", image)]

/-- A **profile**, with its amounts among the resources. An amount that is not given has its
usual value; the processors become a text. -/
def convertProfile (profile : Value) : Converting Value := do
  let cpu ← (← profile.fieldOr "cpu" (.int 1)).toText
  let memory ← profile.fieldOr "memory" (.text "512Mi")
  let storage ← profile.fieldOr "storage" (.text "1Gi")
  return .record
    [("resources", .record
      [("cpu", .record [("units", .text cpu)]), ("memory", .record [("size", memory)]),
       ("storage", .array [.record [("size", storage)]])])]

/-- A **deployment**, under the default placement. The profile is named like the service, and
there is one replica, unless something else is given. -/
def convertDeployment (name deployment : Value) : Converting Value := do
  let profile ← deployment.fieldOr "profile" name
  let count ← deployment.fieldOr "count" (.int 1)
  return .record [(defaultPlacement, .record [("profile", profile), ("count", count)])]

/-- A section with each of its entries converted. -/
def convertSection (data : Value) (name : String) (f : Value → Value → Converting Value) :
    Converting Value := do
  let es ← data.sectionEntries name "items"
  return named (← es.mapM fun e => do return (e.1, ← f e.1 e.2))

/-- The whole data, section by section. -/
def convertAll (data : Value) : Converting Value := do
  let services ← convertSection data "services" fun _ => convertService
  let profiles ← convertSection data "profiles" fun _ => convertProfile
  let deployment ← convertSection data "deployment" convertDeployment
  return .record
    [("version", .text Document.defaultVersion), ("services", services),
     ("profiles", .record [("compute", profiles), ("placement", named [])]),
     ("deployment", deployment)]

/-- Data of the first layout in the **current layout**. -/
def convert (data : Value) : Except Fault Value := do
  return (← (convertAll data).run data.maxLabel).1

end StackManifest.Conversion
