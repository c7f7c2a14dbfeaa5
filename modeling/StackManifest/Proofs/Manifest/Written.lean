import StackManifest.Proofs.Json.RoundTrip
import StackManifest.Proofs.Manifest.Totals

/-!
# Manifests that can be written

The plain data of a manifest is made of records, lists and texts, and of the numbers of its services.
It is held by the object notation (`StackManifest.ProviderManifest.holds_toValue`), and it is written
unless some number of a service has too many digits. Which numbers these are is said of the groups
that the manifest was built from: `StackManifest.ProviderManifest.isWritable_toValue_iff`.
-/

namespace StackManifest

open Json (Holds)

variable {s : ProviderService} {p : ProviderGroup} {gs : List Group} {m : ProviderManifest}

/-! ### Data that the notation holds -/

theorem OpenPort.holds_toValue (p : OpenPort) : Holds p.toValue :=
  .record (by simp) (by simp)

theorem Requirements.holds_signedBy (r : Requirements) : Holds r.signedBy :=
  .record (by simp) (by simp)

/-- A service whose count and amount are data that the notation **holds**. -/
def ProviderService.IsHeld (s : ProviderService) : Prop := Holds s.count ∧ Holds s.price.amount

theorem ProviderService.IsHeld.holds_toValue (h : s.IsHeld) : Holds s.toValue := by
  have hquantity : ∀ n : Int, Holds (.record [("val", .int n)]) :=
    fun n => .record (by simp) (by simp)
  have hcpu : Holds (.record [("units", .record [("val", .int s.millicores)])]) :=
    .record (by simp) (by simp [hquantity])
  have hmemory : Holds (.record [("quantity", .record [("val", .int s.memory)])]) :=
    .record (by simp) (by simp [hquantity])
  have hstorage : Holds (.array (s.storage.map fun v =>
      .record [("name", .text v.1), ("quantity", .record [("val", .int v.2)])])) :=
    .array_map fun v _ => .record (by simp) (by simp [hquantity])
  have hprice : Holds s.price.toValue := .record (by simp) (by simp [h.2])
  refine .record (by simp) ?_
  simp only [List.forall_mem_cons]
  refine ⟨.text _, .ofText? _, h.1, .record (by simp) ?_, hprice,
    .array_map fun p _ => p.holds_toValue, nofun⟩
  simp only [List.forall_mem_cons]
  exact ⟨hcpu, hmemory, hstorage, nofun⟩

theorem ProviderGroup.holds_toValue (h : ∀ s ∈ p.services, s.IsHeld) : Holds p.toValue := by
  have hattributes : Holds (.array (p.requirements.attributes.map fun a =>
      .record [("key", .text a.1), ("value", .text a.2)])) :=
    .array_map fun a _ => .record (by simp) (by simp)
  refine .record (by simp) ?_
  simp only [List.forall_mem_cons]
  refine ⟨.text _, .record (by simp) ?_, .array_map fun s hs => (h s hs).holds_toValue, nofun⟩
  simp only [List.forall_mem_cons]
  exact ⟨p.requirements.holds_signedBy, hattributes, nofun⟩

/-- **The data of a manifest is held by the notation.** -/
theorem ProviderManifest.holds_toValue (h : ∀ p ∈ m.groups, ∀ s ∈ p.services, s.IsHeld) :
    Holds m.toValue := by
  refine .record (by simp) ?_
  simp only [List.forall_mem_cons]
  exact ⟨.ofText? _, .array_map fun p hp => ProviderGroup.holds_toValue (h p hp), nofun⟩

/-! ### Numbers that can be written -/

/-- A port whose numbers can be **written**. -/
def OpenPort.IsWritable (p : OpenPort) : Prop :=
  (Value.ofInt? p.port).isWritable = true ∧ (Value.ofInt? p.externalPort).isWritable = true

/-- A service whose numbers can be **written**. -/
structure ProviderService.IsWritable (s : ProviderService) : Prop where
  count : s.count.isWritable = true
  millicores : (Value.int s.millicores).isWritable = true
  memory : (Value.int s.memory).isWritable = true
  storage : ∀ v ∈ s.storage, (Value.int v.2).isWritable = true
  amount : s.price.amount.isWritable = true
  expose : ∀ p ∈ s.expose, p.IsWritable

theorem OpenPort.isWritable_toValue_iff {p : OpenPort} :
    p.toValue.isWritable = true ↔ p.IsWritable := by
  simp [OpenPort.toValue, OpenPort.IsWritable]

theorem ProviderService.isWritable_toValue_iff : s.toValue.isWritable = true ↔ s.IsWritable := by
  simp only [ProviderService.toValue, GroupPrice.toValue, OpenPort.isWritable_toValue_iff,
    Json.isWritable_record_iff, Json.isWritable_array_map_iff, Json.isWritable_text,
    Json.isWritable_ofText?, List.forall_mem_cons, List.not_mem_nil, false_implies, implies_true,
    true_and, and_true]
  constructor
  · rintro ⟨hcount, ⟨hcpu, hmemory, hstorage⟩, hamount, hexpose⟩
    exact ⟨hcount, hcpu, hmemory, hstorage, hamount, hexpose⟩
  · rintro ⟨hcount, hcpu, hmemory, hstorage, hamount, hexpose⟩
    exact ⟨hcount, ⟨hcpu, hmemory, hstorage⟩, hamount, hexpose⟩

theorem ProviderGroup.isWritable_toValue_iff :
    p.toValue.isWritable = true ↔ ∀ s ∈ p.services, s.IsWritable := by
  simp [ProviderGroup.toValue, Requirements.signedBy, ProviderService.isWritable_toValue_iff]

/-- **A manifest can be written** exactly when the numbers of all services can. -/
theorem ProviderManifest.isWritable_toValue_iff :
    m.toValue.isWritable = true ↔ ∀ p ∈ m.groups, ∀ s ∈ p.services, s.IsWritable := by
  simp [ProviderManifest.toValue, ProviderGroup.isWritable_toValue_iff]

/-! ### Services and groups -/

end StackManifest
