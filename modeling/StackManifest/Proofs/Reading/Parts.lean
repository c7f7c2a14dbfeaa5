import StackManifest.Document.Source
import StackManifest.Proofs.Reading.Names

/-!
# Parts of a document with a changed field

Each part of a document is read exactly when each of its fields is, and the fields of the part are
what was read of them (`StackManifest.Resources.read_eq_ok_iff` and its companions). So when one
field of the data is changed, the part changes in that field and in no other
(`StackManifest.Carries.field`), and this goes on from the amounts of the resources up to the
profiles of the document.
-/

namespace StackManifest

open Checked

/-! ### A part and its fields -/

section Field

variable {α β : Type} {name : String} {default : β} {f : Value → Checked β}
  {D : Value → Value → Prop} {S : β → β → Prop}

/-- **A part with one changed field.** The field is read into one component of the part, and the
others do not depend on it. -/
theorem Carries.field {read : Entries → Checked α} (get : α → β) (set : α → β → α)
    (others : Entries → α → Prop)
    (hread : ∀ es a, read es = .ok a ↔ Fields.read es [name] default f = .ok (get a) ∧ others es a)
    (hothers : ∀ es es' c w a b, Entries.Differ name c w es es' → others es a →
      others es' (set a b))
    (hget : ∀ a b, get (set a b) = b) (hset : ∀ a, set a (get a) = a)
    (h : Carries D f S) (hdefault : S default default) :
    Carries (InField name D) (StackManifest.part read)
      fun a a' => ∃ b, a' = set a b ∧ S (get a) b := by
  refine Carries.part (fun es a hes ha => ?_) fun es es' c w a hes hcw ha => ?_
  · obtain ⟨hfield, -⟩ := (hread es a).mp ha
    rw [Fields.read_of_lacks hes] at hfield
    refine ⟨get a, (hset a).symm, ?_⟩
    rwa [← Checked.ok.inj hfield]
  · obtain ⟨hfield, hrest⟩ := (hread es a).mp ha
    rw [(Fields.read_of_differ hes).1, inside_eq_ok_iff] at hfield
    obtain ⟨b, hb, hs⟩ := h c w _ hcw hfield
    refine ⟨set a b, (hread es' _).mpr ⟨?_, hothers _ _ _ _ a b hes hrest⟩, b, rfl, hs⟩
    rw [(Fields.read_of_differ hes).2, inside_eq_ok_iff, hget]
    exact hb

end Field

variable {l : Label} {es : Entries}

theorem CpuRequest.read_eq_ok_iff {a : CpuRequest} :
    CpuRequest.read (.map l es) = .ok a ↔
      Fields.read es ["units"] none (Scalar.optional Scalar.named) = .ok a.units ∧
      Fields.extra es [["units"]] = .ok a.extra := by
  simp only [CpuRequest.read, part, seq_eq_ok_iff, functor_map_eq_ok_iff]
  constructor
  · rintro ⟨_, ⟨u, hu, rfl⟩, x, hx, rfl⟩
    exact ⟨hu, hx⟩
  · rintro ⟨hu, hx⟩
    exact ⟨_, ⟨_, hu, rfl⟩, _, hx, rfl⟩

theorem CpuRequest.carries {D : Value → Value → Prop} {S : Option String → Option String → Prop}
    (h : Carries D (Scalar.optional Scalar.named) S) (hnone : S none none) :
    Carries (InField "units" D) CpuRequest.read
      fun a a' => ∃ u, a' = { a with units := u } ∧ S a.units u :=
  Carries.field CpuRequest.units (fun a u => { a with units := u })
    (fun es a => Fields.extra es [["units"]] = .ok a.extra)
    (fun es a => CpuRequest.read_eq_ok_iff (l := 0))
    (fun es es' c w a b hes ha => (Fields.extra_eq_of_differ hes (by simp)).trans ha)
    (fun a b => rfl) (fun a => rfl) h hnone

theorem MemoryRequest.read_eq_ok_iff {a : MemoryRequest} :
    MemoryRequest.read (.map l es) = .ok a ↔
      Fields.read es ["size"] none (Scalar.optional Scalar.named) = .ok a.size ∧
      Fields.extra es [["size"]] = .ok a.extra := by
  simp only [MemoryRequest.read, part, seq_eq_ok_iff, functor_map_eq_ok_iff]
  constructor
  · rintro ⟨_, ⟨s, hs, rfl⟩, x, hx, rfl⟩
    exact ⟨hs, hx⟩
  · rintro ⟨hs, hx⟩
    exact ⟨_, ⟨_, hs, rfl⟩, _, hx, rfl⟩

theorem MemoryRequest.carries {D : Value → Value → Prop}
    {S : Option String → Option String → Prop} (h : Carries D (Scalar.optional Scalar.named) S)
    (hnone : S none none) :
    Carries (InField "size" D) MemoryRequest.read
      fun a a' => ∃ s, a' = { a with size := s } ∧ S a.size s :=
  Carries.field MemoryRequest.size (fun a s => { a with size := s })
    (fun es a => Fields.extra es [["size"]] = .ok a.extra)
    (fun es a => MemoryRequest.read_eq_ok_iff (l := 0))
    (fun es es' c w a b hes ha => (Fields.extra_eq_of_differ hes (by simp)).trans ha)
    (fun a b => rfl) (fun a => rfl) h hnone

/-- What is read of a volume **beside its size**. -/
def StorageVolume.ReadsOthers (es : Entries) (a : StorageVolume) : Prop :=
  Fields.read es ["name"] none (Scalar.optional Scalar.named) = .ok a.name ∧
  Fields.read es ["attributes"] .empty (tableOf .ok) = .ok a.attributes ∧
  Fields.extra es [["name"], ["size"], ["attributes"]] = .ok a.extra

theorem StorageVolume.read_eq_ok_iff {a : StorageVolume} :
    StorageVolume.read (.map l es) = .ok a ↔
      Fields.read es ["size"] none (Scalar.optional Scalar.named) = .ok a.size ∧
      StorageVolume.ReadsOthers es a := by
  simp only [StorageVolume.read, part, seq_eq_ok_iff, functor_map_eq_ok_iff]
  constructor
  · rintro ⟨_, ⟨_, ⟨_, ⟨n, hn, rfl⟩, s, hs, rfl⟩, t, ht, rfl⟩, x, hx, rfl⟩
    exact ⟨hs, hn, ht, hx⟩
  · rintro ⟨hs, hn, ht, hx⟩
    exact ⟨_, ⟨_, ⟨_, ⟨_, hn, rfl⟩, _, hs, rfl⟩, _, ht, rfl⟩, _, hx, rfl⟩

theorem StorageVolume.carries {D : Value → Value → Prop}
    {S : Option String → Option String → Prop} (h : Carries D (Scalar.optional Scalar.named) S)
    (hnone : S none none) :
    Carries (InField "size" D) StorageVolume.read
      fun a a' => ∃ s, a' = { a with size := s } ∧ S a.size s := by
  refine Carries.field StorageVolume.size (fun a s => { a with size := s })
    StorageVolume.ReadsOthers (fun es a => StorageVolume.read_eq_ok_iff (l := 0))
    (fun es es' c w a b hes ha => ?_) (fun a b => rfl) (fun a => rfl) h hnone
  rw [StorageVolume.ReadsOthers, Fields.read_eq_of_differ hes (by simp),
    Fields.read_eq_of_differ hes (by simp), Fields.extra_eq_of_differ hes (by simp)]
  exact ha

theorem Resources.read_eq_ok_iff {a : Resources} :
    Resources.read (.map l es) = .ok a ↔
      Fields.read es ["cpu"] none (Scalar.optional CpuRequest.read) = .ok a.cpu ∧
      Fields.read es ["memory"] none (Scalar.optional MemoryRequest.read) = .ok a.memory ∧
      Fields.read es ["storage"] [] readVolumes = .ok a.storage ∧
      Fields.extra es [["cpu"], ["memory"], ["storage"]] = .ok a.extra := by
  simp only [Resources.read, part, seq_eq_ok_iff, functor_map_eq_ok_iff]
  constructor
  · rintro ⟨_, ⟨_, ⟨_, ⟨c, hc, rfl⟩, m, hm, rfl⟩, s, hs, rfl⟩, x, hx, rfl⟩
    exact ⟨hc, hm, hs, hx⟩
  · rintro ⟨hc, hm, hs, hx⟩
    exact ⟨_, ⟨_, ⟨_, ⟨_, hc, rfl⟩, _, hm, rfl⟩, _, hs, rfl⟩, _, hx, rfl⟩

/-- Resources whose **processors** are changed. -/
theorem Resources.carries_cpu {D : Value → Value → Prop}
    {S : Option CpuRequest → Option CpuRequest → Prop}
    (h : Carries D (Scalar.optional CpuRequest.read) S) (hnone : S none none) :
    Carries (InField "cpu" D) Resources.read
      fun a a' => ∃ c, a' = { a with cpu := c } ∧ S a.cpu c := by
  refine Carries.field Resources.cpu (fun a c => { a with cpu := c })
    (fun es a =>
      Fields.read es ["memory"] none (Scalar.optional MemoryRequest.read) = .ok a.memory ∧
      Fields.read es ["storage"] [] readVolumes = .ok a.storage ∧
      Fields.extra es [["cpu"], ["memory"], ["storage"]] = .ok a.extra)
    (fun es a => Resources.read_eq_ok_iff (l := 0))
    (fun es es' c w a b hes ha => ?_) (fun a b => rfl) (fun a => rfl) h hnone
  rw [Fields.read_eq_of_differ hes (by simp), Fields.read_eq_of_differ hes (by simp),
    Fields.extra_eq_of_differ hes (by simp)]
  exact ha

/-- Resources whose **memory** is changed. -/
theorem Resources.carries_memory {D : Value → Value → Prop}
    {S : Option MemoryRequest → Option MemoryRequest → Prop}
    (h : Carries D (Scalar.optional MemoryRequest.read) S) (hnone : S none none) :
    Carries (InField "memory" D) Resources.read
      fun a a' => ∃ m, a' = { a with memory := m } ∧ S a.memory m := by
  refine Carries.field Resources.memory (fun a m => { a with memory := m })
    (fun es a =>
      Fields.read es ["cpu"] none (Scalar.optional CpuRequest.read) = .ok a.cpu ∧
      Fields.read es ["storage"] [] readVolumes = .ok a.storage ∧
      Fields.extra es [["cpu"], ["memory"], ["storage"]] = .ok a.extra)
    (fun es a => (Resources.read_eq_ok_iff (l := 0)).trans (by tauto))
    (fun es es' c w a b hes ha => ?_) (fun a b => rfl) (fun a => rfl) h hnone
  rw [Fields.read_eq_of_differ hes (by simp), Fields.read_eq_of_differ hes (by simp),
    Fields.extra_eq_of_differ hes (by simp)]
  exact ha

/-- Resources whose **storage** is changed. -/
theorem Resources.carries_storage {D : Value → Value → Prop}
    {S : List StorageVolume → List StorageVolume → Prop} (h : Carries D readVolumes S)
    (hnil : S [] []) :
    Carries (InField "storage" D) Resources.read
      fun a a' => ∃ vs, a' = { a with storage := vs } ∧ S a.storage vs := by
  refine Carries.field Resources.storage (fun a vs => { a with storage := vs })
    (fun es a =>
      Fields.read es ["cpu"] none (Scalar.optional CpuRequest.read) = .ok a.cpu ∧
      Fields.read es ["memory"] none (Scalar.optional MemoryRequest.read) = .ok a.memory ∧
      Fields.extra es [["cpu"], ["memory"], ["storage"]] = .ok a.extra)
    (fun es a => (Resources.read_eq_ok_iff (l := 0)).trans (by tauto))
    (fun es es' c w a b hes ha => ?_) (fun a b => rfl) (fun a => rfl) h hnil
  rw [Fields.read_eq_of_differ hes (by simp), Fields.read_eq_of_differ hes (by simp),
    Fields.extra_eq_of_differ hes (by simp)]
  exact ha

theorem ComputeProfile.read_eq_ok_iff {a : ComputeProfile} :
    ComputeProfile.read (.map l es) = .ok a ↔
      Fields.read es ["resources"] none (Scalar.optional Resources.read) = .ok a.resources ∧
      Fields.extra es [["resources"]] = .ok a.extra := by
  simp only [ComputeProfile.read, part, seq_eq_ok_iff, functor_map_eq_ok_iff]
  constructor
  · rintro ⟨_, ⟨r, hr, rfl⟩, x, hx, rfl⟩
    exact ⟨hr, hx⟩
  · rintro ⟨hr, hx⟩
    exact ⟨_, ⟨_, hr, rfl⟩, _, hx, rfl⟩

theorem ComputeProfile.carries {D : Value → Value → Prop}
    {S : Option Resources → Option Resources → Prop}
    (h : Carries D (Scalar.optional Resources.read) S) (hnone : S none none) :
    Carries (InField "resources" D) ComputeProfile.read
      fun a a' => ∃ r, a' = { a with resources := r } ∧ S a.resources r :=
  Carries.field ComputeProfile.resources (fun a r => { a with resources := r })
    (fun es a => Fields.extra es [["resources"]] = .ok a.extra)
    (fun es a => ComputeProfile.read_eq_ok_iff (l := 0))
    (fun es es' c w a b hes ha => (Fields.extra_eq_of_differ hes (by simp)).trans ha)
    (fun a b => rfl) (fun a => rfl) h hnone

/-- What is read of the profiles **beside the compute profiles**. -/
def Profiles.ReadsOthers (es : Entries) (a : Profiles) : Prop :=
  Fields.read es ["placement"] none (readSection PlacementProfile.read) = .ok a.placement ∧
  Fields.extra es [["compute"], ["placement"]] = .ok a.extra

theorem Profiles.read_eq_ok_iff {a : Profiles} :
    Profiles.read (.map l es) = .ok a ↔
      Fields.read es ["compute"] none (readSection ComputeProfile.read) = .ok a.compute ∧
      Profiles.ReadsOthers es a := by
  simp only [Profiles.read, part, seq_eq_ok_iff, functor_map_eq_ok_iff]
  constructor
  · rintro ⟨_, ⟨_, ⟨c, hc, rfl⟩, p, hp, rfl⟩, x, hx, rfl⟩
    exact ⟨hc, hp, hx⟩
  · rintro ⟨hc, hp, hx⟩
    exact ⟨_, ⟨_, ⟨_, hc, rfl⟩, _, hp, rfl⟩, _, hx, rfl⟩

theorem Profiles.carries {D : Value → Value → Prop}
    {S : Option (Table ComputeProfile) → Option (Table ComputeProfile) → Prop}
    (h : Carries D (readSection ComputeProfile.read) S) (hnone : S none none) :
    Carries (InField "compute" D) Profiles.read
      fun a a' => ∃ c, a' = { a with compute := c } ∧ S a.compute c := by
  refine Carries.field Profiles.compute (fun a c => { a with compute := c })
    Profiles.ReadsOthers (fun es a => Profiles.read_eq_ok_iff (l := 0))
    (fun es es' c w a b hes ha => ?_) (fun a b => rfl) (fun a => rfl) h hnone
  rw [Profiles.ReadsOthers, Fields.read_eq_of_differ hes (by simp),
    Fields.extra_eq_of_differ hes (by simp)]
  exact ha

/-- What is read of a document **beside its profiles**. -/
def Document.ReadsOthers (es : Entries) (a : Document) : Prop :=
  Fields.read es ["version"] none (Scalar.optional Scalar.named) = .ok a.version ∧
  Fields.read es ["services"] .empty (fun v => (normalize 1 v).bind (tableOf Service.read)) =
    .ok a.services ∧
  Fields.read es ["deployment"] .empty
    (fun v => (normalize 2 v).bind (tableOf (tableOf DeploymentEntry.read))) = .ok a.deployment ∧
  Fields.extra es [["version"], ["services"], ["profiles"], ["deployment"]] = .ok a.extra

theorem Document.read_eq_ok_iff {a : Document} :
    Document.read (.map l es) = .ok a ↔
      Fields.read es ["profiles"] none (Scalar.optional Profiles.read) = .ok a.profiles ∧
      Document.ReadsOthers es a := by
  simp only [Document.read, part, seq_eq_ok_iff, functor_map_eq_ok_iff]
  constructor
  · rintro ⟨_, ⟨_, ⟨_, ⟨_, ⟨v, hv, rfl⟩, s, hs, rfl⟩, p, hp, rfl⟩, d, hd, rfl⟩, x, hx, rfl⟩
    exact ⟨hp, hv, hs, hd, hx⟩
  · rintro ⟨hp, hv, hs, hd, hx⟩
    exact ⟨_, ⟨_, ⟨_, ⟨_, ⟨_, hv, rfl⟩, _, hs, rfl⟩, _, hp, rfl⟩, _, hd, rfl⟩, _, hx, rfl⟩

theorem Document.carries {D : Value → Value → Prop}
    {S : Option Profiles → Option Profiles → Prop}
    (h : Carries D (Scalar.optional Profiles.read) S) (hnone : S none none) :
    Carries (InField "profiles" D) Document.read
      fun a a' => ∃ p, a' = { a with profiles := p } ∧ S a.profiles p := by
  refine Carries.field Document.profiles (fun a p => { a with profiles := p })
    Document.ReadsOthers (fun es a => Document.read_eq_ok_iff (l := 0))
    (fun es es' c w a b hes ha => ?_) (fun a b => rfl) (fun a => rfl) h hnone
  rw [Document.ReadsOthers, Fields.read_eq_of_differ hes (by simp),
    Fields.read_eq_of_differ hes (by simp), Fields.read_eq_of_differ hes (by simp),
    Fields.extra_eq_of_differ hes (by simp)]
  exact ha

/-- **Data is a document** when no required field is missing and each of its parts is read. -/
theorem ofData_eq_ok_iff {v : Value} {d : Document} :
    Document.ofData v = .ok d ↔
      ∃ l es, v = .map l es ∧ missingFields es = [] ∧ Document.read v = .ok d := by
  constructor
  · intro h
    cases v with
    | map l es =>
      refine ⟨l, es, rfl, ?_⟩
      simp only [Document.ofData] at h
      split at h
      · rename_i hmissing
        refine ⟨List.isEmpty_iff.mp hmissing, ?_⟩
        split at h
        · rename_i hd
          cases h
          exact hd
        · cases h
      · cases h
    | _ => cases h
  · rintro ⟨l, es, rfl, hmissing, hd⟩
    simp only [Document.ofData, hmissing, hd, List.isEmpty_nil, if_true]

theorem read_of_parse {v : Value} {d : Document} (h : Document.parse (.data v) = .ok d) :
    Document.read v = .ok d := by
  obtain ⟨-, -, -, -, hd⟩ := ofData_eq_ok_iff.mp h
  exact hd

/-! ### The other parts and their fields -/

theorem ExposeTarget.read_eq_ok_iff {a : ExposeTarget} :
    ExposeTarget.read (.map l es) = .ok a ↔
      Fields.read es ["service"] none (Scalar.optional Scalar.named) = .ok a.service ∧
      Fields.read es ["global", "global_"] none (Scalar.optional Scalar.boolean) =
        .ok a.isGlobal ∧
      Fields.extra es [["service"], ["global", "global_"]] = .ok a.extra := by
  simp only [ExposeTarget.read, part, seq_eq_ok_iff, functor_map_eq_ok_iff]
  constructor
  · rintro ⟨_, ⟨_, ⟨s, hs, rfl⟩, g, hg, rfl⟩, x, hx, rfl⟩
    exact ⟨hs, hg, hx⟩
  · rintro ⟨hs, hg, hx⟩
    exact ⟨_, ⟨_, ⟨_, hs, rfl⟩, _, hg, rfl⟩, _, hx, rfl⟩

theorem ExposeRule.read_eq_ok_iff {a : ExposeRule} :
    ExposeRule.read (.map l es) = .ok a ↔
      Fields.read es ["port"] none (Scalar.optional Scalar.integer) = .ok a.port ∧
      Fields.read es ["as", "as_"] none (Scalar.optional Scalar.integer) = .ok a.externalPort ∧
      Fields.read es ["proto"] none (Scalar.optional Scalar.text) = .ok a.protocol ∧
      Fields.read es ["to"] [] (fun v => listOf ExposeTarget.read (emptyIfNull v)) =
        .ok a.targets ∧
      Fields.extra es [["port"], ["as", "as_"], ["proto"], ["to"]] = .ok a.extra := by
  simp only [ExposeRule.read, part, seq_eq_ok_iff, functor_map_eq_ok_iff]
  constructor
  · rintro ⟨_, ⟨_, ⟨_, ⟨_, ⟨p, hp, rfl⟩, e, he, rfl⟩, q, hq, rfl⟩, t, ht, rfl⟩, x, hx, rfl⟩
    exact ⟨hp, he, hq, ht, hx⟩
  · rintro ⟨hp, he, hq, ht, hx⟩
    exact ⟨_, ⟨_, ⟨_, ⟨_, ⟨_, hp, rfl⟩, _, he, rfl⟩, _, hq, rfl⟩, _, ht, rfl⟩, _, hx, rfl⟩

theorem Service.read_eq_ok_iff {a : Service} :
    Service.read (.map l es) = .ok a ↔
      Fields.read es ["image"] none (Scalar.optional Scalar.text) = .ok a.image ∧
      Fields.read es ["expose"] [] (fun v => listOf ExposeRule.read (emptyIfNull v)) =
        .ok a.expose ∧
      Fields.read es ["env"] [] (fun v => listOf Scalar.text (emptyIfNull v)) = .ok a.env ∧
      Fields.read es ["command"] none (Scalar.optional (listOf Scalar.text)) = .ok a.command ∧
      Fields.read es ["args"] none (Scalar.optional (listOf Scalar.text)) = .ok a.args ∧
      Fields.extra es [["image"], ["expose"], ["env"], ["command"], ["args"]] = .ok a.extra := by
  simp only [Service.read, part, seq_eq_ok_iff, functor_map_eq_ok_iff]
  constructor
  · rintro ⟨_, ⟨_, ⟨_, ⟨_, ⟨_, ⟨i, hi, rfl⟩, e, he, rfl⟩, v, hv, rfl⟩, c, hc, rfl⟩, r, hr, rfl⟩,
      x, hx, rfl⟩
    exact ⟨hi, he, hv, hc, hr, hx⟩
  · rintro ⟨hi, he, hv, hc, hr, hx⟩
    exact ⟨_, ⟨_, ⟨_, ⟨_, ⟨_, ⟨_, hi, rfl⟩, _, he, rfl⟩, _, hv, rfl⟩, _, hc, rfl⟩, _, hr, rfl⟩, _,
      hx, rfl⟩

theorem SignedBy.read_eq_ok_iff {a : SignedBy} :
    SignedBy.read (.map l es) = .ok a ↔
      Fields.read es ["allOf", "all_of"] [] (listOf Scalar.text) = .ok a.allOf ∧
      Fields.read es ["anyOf", "any_of"] [] (listOf Scalar.text) = .ok a.anyOf ∧
      Fields.extra es [["allOf", "all_of"], ["anyOf", "any_of"]] = .ok a.extra := by
  simp only [SignedBy.read, part, seq_eq_ok_iff, functor_map_eq_ok_iff]
  constructor
  · rintro ⟨_, ⟨_, ⟨o, ho, rfl⟩, n, hn, rfl⟩, x, hx, rfl⟩
    exact ⟨ho, hn, hx⟩
  · rintro ⟨ho, hn, hx⟩
    exact ⟨_, ⟨_, ⟨_, ho, rfl⟩, _, hn, rfl⟩, _, hx, rfl⟩

theorem Price.read_eq_ok_iff {a : Price} :
    Price.read (.map l es) = .ok a ↔
      Fields.read es ["denom"] none (Scalar.optional Scalar.text) = .ok a.denom ∧
      Fields.read es ["amount"] none (Scalar.optional Scalar.named) = .ok a.amount ∧
      Fields.extra es [["denom"], ["amount"]] = .ok a.extra := by
  simp only [Price.read, part, seq_eq_ok_iff, functor_map_eq_ok_iff]
  constructor
  · rintro ⟨_, ⟨_, ⟨d, hd, rfl⟩, m, hm, rfl⟩, x, hx, rfl⟩
    exact ⟨hd, hm, hx⟩
  · rintro ⟨hd, hm, hx⟩
    exact ⟨_, ⟨_, ⟨_, hd, rfl⟩, _, hm, rfl⟩, _, hx, rfl⟩

theorem PlacementProfile.read_eq_ok_iff {a : PlacementProfile} :
    PlacementProfile.read (.map l es) = .ok a ↔
      Fields.read es ["attributes"] .empty readAttributes = .ok a.attributes ∧
      Fields.read es ["signedBy", "signed_by"] none (Scalar.optional SignedBy.read) =
        .ok a.signedBy ∧
      Fields.read es ["pricing"] .empty (fun v => (normalize 0 v).bind (tableOf Price.read)) =
        .ok a.pricing ∧
      Fields.extra es [["attributes"], ["signedBy", "signed_by"], ["pricing"]] = .ok a.extra := by
  simp only [PlacementProfile.read, part, seq_eq_ok_iff, functor_map_eq_ok_iff]
  constructor
  · rintro ⟨_, ⟨_, ⟨_, ⟨t, ht, rfl⟩, s, hs, rfl⟩, p, hp, rfl⟩, x, hx, rfl⟩
    exact ⟨ht, hs, hp, hx⟩
  · rintro ⟨ht, hs, hp, hx⟩
    exact ⟨_, ⟨_, ⟨_, ⟨_, ht, rfl⟩, _, hs, rfl⟩, _, hp, rfl⟩, _, hx, rfl⟩

theorem DeploymentEntry.read_eq_ok_iff {a : DeploymentEntry} :
    DeploymentEntry.read (.map l es) = .ok a ↔
      Fields.read es ["profile"] none (Scalar.optional Scalar.named) = .ok a.profile ∧
      Fields.read es ["count"] none (Scalar.optional Scalar.integer) = .ok a.count ∧
      Fields.extra es [["profile"], ["count"]] = .ok a.extra := by
  simp only [DeploymentEntry.read, part, seq_eq_ok_iff, functor_map_eq_ok_iff]
  constructor
  · rintro ⟨_, ⟨_, ⟨p, hp, rfl⟩, c, hc, rfl⟩, x, hx, rfl⟩
    exact ⟨hp, hc, hx⟩
  · rintro ⟨hp, hc, hx⟩
    exact ⟨_, ⟨_, ⟨_, hp, rfl⟩, _, hc, rfl⟩, _, hx, rfl⟩

end StackManifest
