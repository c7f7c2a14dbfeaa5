import StackManifest.Quantity.Cores
import StackManifest.Quantity.Size
import StackManifest.Value.Access
import StackManifest.Value.Address

/-!
# Right-sizing

Compute profiles that ask for much are made to ask for half of it: more than two cores, more
than one gibibyte of memory, and more than five of the first storage volume. The rest of the
data stays as it is. A profile in several places is halved once for each of them, since every
place is visited.

* `halvedCores` and `halvedSize` – half of an amount, if it exceeds its **threshold**;
* `resizeProfile` – one profile, at its place in the data;
* `resize` – all profiles of some data.
-/

namespace StackManifest.RightSizing

open StackManifest.Number

/-- The number of cores that a profile may keep. -/
def coreThreshold : Nat := 2

/-- The bytes of memory that a profile may keep. -/
def memoryThreshold : Nat := SizeUnit.giga.bytes

/-- The bytes of storage that a profile may keep. -/
def storageThreshold : Nat := 5 * SizeUnit.giga.bytes

/-- **Half of some cores**, rounded up to a whole number, if they exceed the threshold. It is
a text if the cores are one. -/
def halvedCores (units : Value) : Except Fault (Option Value) := do
  match ← Cores.ofValue units with
  | none => return none
  | some cores =>
    if cores.compareInt coreThreshold = .gt then
      let half := Value.int (← (cores.div 2).mapError .decimal).ceil
      match units with
      | .text _ => return some (.text (← half.toText))
      | _ => return some half
    else return none

/-- **Half of a size**, if it exceeds a threshold. What is no size counts as nothing. -/
def halvedSize (threshold : Nat) (size : Value) : Except Fault (Option Value) := do
  let n ← Size.ofValue size
  if threshold < n then
    match Binary64.ofQuotient? n 2 with
    | some half => return some (.text (← Size.format (.real half)))
    | none => throw .quotientTooLarge
  else return none

/-- The position of the entry under a name. -/
def position? (v : Value) (name : String) : Option Nat :=
  (v.entries?.getD []).findIdx? fun e => e.1.eqv (.text name)

/-- The address of the value under a name of a mapping at an address. -/
def below? (data : Value) (a : Address) (name : String) : Option Address := do
  return a ++ [← position? (← data.at? a) name]

/-- The data with the amount under a name of a mapping at an address **halved**, if there is a
mapping with that name. -/
def resizeAmount (half : Value → Except Fault (Option Value)) (name : String) (a : Address)
    (data : Value) : Except Fault Value := do
  match below? data a name with
  | none => return data
  | some b =>
    match ← half ((data.at? b).getD .null) with
    | some new => return data.updateAt (fun _ => new) b
    | none => return data

/-- The data with an amount of the resources at an address halved. -/
def resizePart (half : Value → Except Fault (Option Value)) (part name : String) (a : Address)
    (data : Value) : Except Fault Value :=
  match below? data a part with
  | some b => resizeAmount half name b data
  | none => .ok data

/-- The address of the first storage volume of the resources at an address: the storage
itself, or the first element of it. -/
def volume? (data : Value) (a : Address) : Option Address := do
  let b ← below? data a "storage"
  match ← data.at? b with
  | .list _ (_ :: _) => return b ++ [0]
  | _ => return b

/-- The data with the **profile** at an address made smaller. -/
def resizeProfile (data : Value) (a : Address) : Except Fault Value := do
  discard (((data.at? a).getD .null).orEmpty.field? "resources")
  match below? data a "resources" with
  | none => return data
  | some r =>
    let data ← resizePart halvedCores "cpu" "units" r data
    let data ← resizePart (halvedSize memoryThreshold) "memory" "size" r data
    match volume? data r with
    | some v => resizeAmount (halvedSize storageThreshold) "size" v data
    | none => return data

/-- The data with **all its compute profiles** made smaller. -/
def resize (data : Value) : Except Fault Value := do
  let profiles := (← data.field "profiles").orEmpty
  let compute ← profiles.sectionEntries "compute" "values"
  match (below? data [] "profiles").bind fun a => below? data a "compute" with
  | some a => (List.range compute.length).foldlM (fun d i => resizeProfile d (a ++ [i])) data
  | none => return data

end StackManifest.RightSizing
