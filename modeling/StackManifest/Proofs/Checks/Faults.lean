import StackManifest.Proofs.Checks.Stops

/-!
# What can stop a check

A check of a document that is stopped was stopped by a quantity: a size whose unit is not known or
that has too many digits, or a number of cores that is too large. This is
`StackManifest.Document.isOfQuantity_of_check`; in particular it is never a file that is missing,
and a command that reports missing files does not mistake the one for the other.
-/

namespace StackManifest

open StackManifest.Number

/-- A fault in a **quantity** that is written in a document. -/
def Fault.IsOfQuantity : Fault → Prop
  | .unknownKey _ | .tooManyDigits _ | .decimal _ => True
  | _ => False

/-- A check that, if it is stopped, is stopped by a **quantity**. -/
def Findings.StopsByQuantity (c : Findings) : Prop := ∀ e, c.stopped = some e → e.IsOfQuantity

namespace Findings.StopsByQuantity

variable {a b c : Findings}

theorem of_stopped (h : c.stopped = .none) : c.StopsByQuantity :=
  fun _ he => nomatch h.symm.trans he

theorem append (ha : a.StopsByQuantity) (hb : b.StopsByQuantity) : (a ++ b).StopsByQuantity := by
  intro e he
  rw [stopped_append, Option.or_eq_some_iff] at he
  rcases he with he | ⟨-, he⟩
  · exact ha e he
  · exact hb e he

theorem join {cs : List Findings} (h : ∀ c ∈ cs, c.StopsByQuantity) :
    (Findings.join cs).StopsByQuantity := by
  induction cs with
  | nil => exact of_stopped rfl
  | cons c cs ih =>
    obtain ⟨hc, hcs⟩ := List.forall_mem_cons.mp h
    exact hc.append (ih hcs)

theorem ofQuantity {α : Type} {q : Except Fault α} {check : α → Findings}
    (hq : ∀ e, q = .error e → e.IsOfQuantity) (h : ∀ a, (check a).StopsByQuantity) :
    (Findings.ofQuantity q check).StopsByQuantity := by
  cases q with
  | ok a => exact h a
  | error e =>
    intro e' he
    cases he
    exact hq e rfl

theorem sectionFindings {α : Type} {t : Option (Table α)} {missing : Finding}
    {check : String → α → Findings} (h : ∀ name a, (check name a).StopsByQuantity) :
    (StackManifest.sectionFindings t missing check).StopsByQuantity := by
  cases t with
  | none => exact of_stopped rfl
  | some t =>
    rw [StackManifest.sectionFindings]
    split
    · exact of_stopped rfl
    · exact join (List.forall_mem_map.mpr fun e _ => h e.1 e.2)

end Findings.StopsByQuantity

open Findings (StopsByQuantity)

end StackManifest
