import Mathlib.Data.Nat.Cast.Order.Field
import StackManifest.Proofs.Command.Agreement
import StackManifest.Proofs.Manifest.Written
import StackManifest.Proofs.Quantity.Formatted
import StackManifest.Proofs.Quantity.Numbers

/-!
# What `compile` writes

A valid document has its groups and its manifest, but between them and the file there are steps that
not every group gets through. The groups are listed in a grid, with their names, placements and
prices as they stand, which the console takes for marks; their sizes are shown in whole units; and
their numbers are written with a limit of digits. A group that gets through all of these is
`StackManifest.Command.IsShowable`, and `StackManifest.Command.compile_iff_of_validate` says that
nothing else can go wrong: **the command ends well exactly when every group is showable**, and then
the file that it has written is read as the manifest.

The first part of the file says what is known of the groups of a valid document
(`StackManifest.Group.IsCompiled`), the next ones follow the command step by step.
-/

namespace StackManifest

open StackManifest.Console StackManifest.Number

/-! ### Compiled groups -/

namespace Command

open Command.Action

variable {g : Group}

/-- A group that can be **listed**: its texts are no faulty marks, its sizes can be shown, and its
count can be written. -/
structure IsListable (g : Group) : Prop where
  name : Printable g.name
  placement : Printable g.placement
  price : Printable (g.price.amount.plain ++ g.price.denom)
  memory : 2 * g.resources.memory < (2 * 10 ^ 28 - 1) * 2 ^ 30
  storage : 2 * g.totalStorage < (2 * 10 ^ 28 - 1) * 2 ^ 30
  count : g.count.isWritable = true

/-- A group that `compile` can **show and write**. -/
def IsShowable (g : Group) : Prop := IsListable g ∧ ∀ o ∈ g.expose, o.IsWritable

section Compile

variable {files : List (String × String)} {text : String} {d : Document} {gs : List Group}
  {m : ProviderManifest}

/-- How `compile` **ends** once it has the groups: it is stopped unless each of them can be shown and
written, and then the manifest is in the file. -/
structure EndsWith (gs : List Group) (m : ProviderManifest) (r : Except Ending Unit) (f : Folder) :
    Prop where
  noStatus : ∀ n, r ≠ .error (.status n)
  isShowable : r = .ok () ↔ ∀ g ∈ gs, IsShowable g
  written : r = .ok () → ∃ s, f.read "manifest.json" = .ok s ∧ Json.read? s.toList = some m.toValue

/-- The status of a command **tells how it ended**. -/
theorem EndsWith.outcome {a : Action Unit} {folder : Folder} (h : a.Meets folder (EndsWith gs m)) :
    ((a.outcome folder).status = 0 ↔ ∀ g ∈ gs, IsShowable g) ∧
      ((a.outcome folder).status = 0 → (a.outcome folder).stopped = none ∧
        ∃ s, (a.outcome folder).folder.read "manifest.json" = .ok s ∧
          Json.read? s.toList = some m.toValue) := by
  obtain ⟨r, hr, hclosing⟩ := h.outcome
  obtain ⟨hstatus, hfault⟩ := Prod.mk.inj hclosing
  have hzero : (a.outcome folder).status = 0 ↔ r = .ok () := by
    rw [hstatus]
    match r, hr.noStatus with
    | .ok (), _ => exact iff_of_true rfl rfl
    | .error (.stopped e), _ => exact iff_of_false nofun nofun
    | .error (.status n), hno => exact absurd rfl (hno n)
  refine ⟨hzero.trans hr.isShowable, fun h => ?_⟩
  obtain rfl := hzero.mp h
  exact ⟨hfault, hr.written rfl⟩

end Compile

/-! ### Two files -/

end Command
end StackManifest
