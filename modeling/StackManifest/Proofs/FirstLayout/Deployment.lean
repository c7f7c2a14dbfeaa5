import StackManifest.Document.Source
import StackManifest.Proofs.Compilation.Groups
import StackManifest.Proofs.FirstLayout.Conversion
import StackManifest.Proofs.Order.Documents
import StackManifest.Proofs.Reading.Parts
import StackManifest.Proofs.Reading.Records

/-!
# Converted documents are deployed as they were

A converted document has no placement, and therefore it cannot be deployed by itself. Given one that
prices its services, it can: `StackManifest.FlatDocument.Writes.exists_groups` says that it is read,
that nothing is wrong with it, and that there is one group for each deployment of the first layout, in
order, which has everything that the deployment asks for (`StackManifest.FlatDocument.IsDeployedAs`).

Each part of the converted data is read as the part of a document that it stands for
(`StackManifest.FlatService.read_converted` and its companions), the document of these parts is sound
(`StackManifest.FlatDocument.isSound`), and sound documents have their groups.
-/

namespace StackManifest

/-! ### Placements that price the services -/

/-- A **price** that can be bid. -/
structure GivenPrice where
  denom : String
  amount : String
  denom_ne : denom ≠ ""
  amount_reads : (PriceAmount.read? amount).isSome = true

/-- A **placement** with its prices. -/
structure PricedPlacement where
  attributes : Table String
  signedBy : Option SignedBy
  prices : Table GivenPrice

/-- Data that writes a price: the text of its denomination, and an amount as a text or a number. -/
inductive GivenPrice.Writes : Value → GivenPrice → Prop where
  | mk {l : Label} {es : Entries} {c : GivenPrice} {v : Value}
    (names : ∀ e ∈ es, ∃ n, e.1 = .text n) (denom : es.get? "denom" = some (.text c.denom))
    (hasAmount : es.get? "amount" = some v)
    (kind : v.kind = "str" ∨ v.kind = "int" ∨ v.kind = "float") (amount : v.toText = .ok c.amount) :
    Writes (.map l es) c

/-- Data that writes a placement: its prices under the names of services, and whatever else is asked
of a provider, in fields that are as they should be. -/
inductive PricedPlacement.Writes : Value → PricedPlacement → Prop where
  | mk {l : Label} {fields : List (String × Value)} {q : PricedPlacement} {v : Value}
    (nodup : (fields.map Prod.fst).Nodup)
    (attributes : Fields.read (Entries.named fields) ["attributes"] .empty readAttributes =
      .ok q.attributes)
    (signedBy : Fields.read (Entries.named fields) ["signedBy", "signed_by"] none
      (Scalar.optional SignedBy.read) = .ok q.signedBy)
    (hasPrices : ("pricing", v) ∈ fields)
    (prices : WritesTable (fun _ => GivenPrice.Writes) v q.prices) :
    Writes (.map l (Entries.named fields)) q

/-- A mapping with the value under a name **changed**. -/
def Value.changedAt (name : String) (f : Value → Value) : Value → Value
  | .map l es => .map l (Entries.put es (.text name) (f (Entries.get es name)))
  | v => v

/-- The data of a document with a **placement** put under the name that converted deployments use. -/
def Value.withPlacement (v placement : Value) : Value :=
  v.changedAt "profiles" (·.changedAt "placement"
    (·.changedAt Conversion.defaultPlacement fun _ => placement))

/-! ### The parts of a converted document -/

/-- An open port as it is read. -/
def FlatPort.toRule (p : FlatPort) : ExposeRule :=
  ⟨some p.number, some p.number, none, [⟨none, some p.isGlobal, .empty⟩], .empty⟩

/-- A service as it is read. -/
def FlatService.toService (s : FlatService) : Service :=
  ⟨some s.image, s.ports.map FlatPort.toRule, [], none, none, .empty⟩

/-- A profile as it is read. -/
def FlatProfile.toProfile (p : FlatProfile) : ComputeProfile :=
  ⟨some (.ofTexts p.cpu p.memory [p.storage]), .empty⟩

/-- A deployment as it is read. -/
def FlatDeployment.toEntries (d : FlatDeployment) : Table DeploymentEntry :=
  .single Conversion.defaultPlacement ⟨some d.profile, some d.count, .empty⟩

theorem FlatPort.read_converted (p : FlatPort) : ExposeRule.read p.converted = .ok p.toRule := rfl

theorem FlatService.read_converted (s : FlatService) : Service.read s.converted = .ok s.toService := by
  obtain ⟨image, ports, hne⟩ := s
  cases ports with
  | nil => rfl
  | cons p ps =>
    have hports : listOf ExposeRule.read (.list 0 ((p :: ps).map FlatPort.converted)) =
        .ok ((p :: ps).map FlatPort.toRule) := by
      rw [listOf_eq_ok_iff, List.forall₂_map_left_iff, List.forall₂_map_right_iff, List.forall₂_same]
      exact fun p _ => p.read_converted
    exact Service.read_eq_ok_iff.mpr ⟨rfl, Checked.inside_eq_ok_iff.mpr hports, rfl, rfl, rfl, rfl⟩

theorem FlatProfile.read_converted (p : FlatProfile) :
    ComputeProfile.read p.converted = .ok p.toProfile := rfl

theorem FlatDeployment.read_converted (d : FlatDeployment) :
    tableOf DeploymentEntry.read d.converted = .ok d.toEntries := rfl

/-! ### Tables -/

section Tables

variable {α β : Type}

/-- A mapping of names is **normal** when its values are. -/
theorem isNormal_toValue {depth : Nat} {write : α → Value} (t : Table α)
    (h : ∀ a, IsNormal depth (write a)) : IsNormal (depth + 1) (t.toValue write) := by
  refine isNormal_record_succ ?_ fun f hf => ?_
  · rw [List.map_map]
    exact t.nodup
  · obtain ⟨e, -, rfl⟩ := List.mem_map.mp hf
    exact h e.2

/-- A table of which each value is **read as** what it is written for. -/
theorem tableOf_toValue {read : Value → Checked β} {write : α → Value} {f : α → β} (t : Table α)
    (h : ∀ a, read (write a) = .ok (f a)) : tableOf read (t.toValue write) = .ok (t.map f) := by
  refine tableOf_eq_ok_iff.mpr ⟨(t.map f).toList, ?_, Table.ext (Table.toList_ofList (t.map f).nodup)⟩
  rw [List.map_map, List.forall₂_map_left_iff]
  change List.Forall₂ _ t.toList (t.toList.map fun e => (e.1, f e.2))
  rw [List.forall₂_map_right_iff, List.forall₂_same]
  exact fun e _ => ⟨rfl, h e.2⟩

/-- A mapping of names is read as a **table with the same names**. -/
theorem WritesTable.exists_tableOf {Writes : String → Value → α → Prop} {read : Value → Checked β}
    {R : α → β → Prop} {v : Value} {t : Table α} (hv : WritesTable Writes v t)
    (h : ∀ n w a, Writes n w a → ∃ b, read w = .ok b ∧ R a b) :
    ∃ u, tableOf read v = .ok u ∧ Table.Reordered R t u := by
  obtain @⟨l, es, t, hes⟩ := hv
  -- what is read of each entry, in order
  have hread : ∀ (es : Entries) (as : List (String × α)),
      List.Forall₂ (fun e a => e.1 = .text a.1 ∧ Writes a.1 e.2 a.2) es as →
      ∃ bs : List (String × β),
        List.Forall₂ (fun e b => Scalar.text e.1 = .ok b.1 ∧ read e.2 = .ok b.2) es bs ∧
        List.Forall₂ (fun a b => a.1 = b.1 ∧ R a.2 b.2) as bs := by
    intro es as hes
    induction hes with
    | nil => exact ⟨[], .nil, .nil⟩
    | @cons e a es as he _ ih =>
      obtain ⟨bs, hbs, hrel⟩ := ih
      obtain ⟨b, hb, hR⟩ := h _ _ _ he.2
      exact ⟨(a.1, b) :: bs, .cons ⟨he.1 ▸ rfl, hb⟩ hbs, .cons ⟨rfl, hR⟩ hrel⟩
  obtain ⟨bs, hbs, hrel⟩ := hread es t.toList hes
  have hnames : bs.map Prod.fst = t.toList.map Prod.fst :=
    (map_eq_map_of_forall₂ (fun a b hab => hab.1) hrel).symm
  refine ⟨.ofList bs, tableOf_eq_ok_iff.mpr ⟨bs, hbs, rfl⟩, t.toList, .refl _, ?_⟩
  rwa [Table.toList_ofList (hnames ▸ t.nodup)]

theorem WritesTable.isNormal {Writes : String → Value → α → Prop} {v : Value} {t : Table α}
    (hv : WritesTable Writes v t) : IsNormal 0 v := by
  obtain @⟨l, es, t, hes⟩ := hv
  have hnamed : ∀ (es : Entries) (as : List (String × α)),
      List.Forall₂ (fun e a => e.1 = .text a.1 ∧ Writes a.1 e.2 a.2) es as →
      ∃ fields, es = Entries.named fields ∧ fields.map Prod.fst = as.map Prod.fst := by
    intro es as hes
    induction hes with
    | nil => exact ⟨[], rfl, rfl⟩
    | @cons e a es as he _ ih =>
      obtain ⟨fields, rfl, hnames⟩ := ih
      refine ⟨(a.1, e.2) :: fields, ?_, by rw [List.map_cons, List.map_cons, hnames]⟩
      rw [Entries.named, Entries.named, List.map_cons, ← he.1]
  obtain ⟨fields, rfl, hnames⟩ := hnamed es t.toList hes
  rw [IsNormal, normalize]
  exact Checked.map_eq_ok_iff.mpr ⟨_, renameKeys_named (hnames ▸ t.nodup) fun _ _ => rfl, rfl⟩

end Tables

/-! ### Placements -/

/-- Unknown fields are read if all of them have **names**. -/
theorem exists_extra (es : Entries) (h : ∀ e ∈ es, ∃ n, e.1 = .text n) (known : List (List String)) :
    ∃ t, Fields.extra es known = .ok t := by
  have hall : ∀ (f : Value × Value → Checked (String × Value)) (fields : Entries),
      (∀ e ∈ fields, ∃ a, f e = .ok a) → ∃ xs, Checked.all (fields.map f) = .ok xs := by
    intro f fields hfields
    induction fields with
    | nil => exact ⟨[], rfl⟩
    | cons e fields ih =>
      obtain ⟨⟨a, ha⟩, hfields⟩ := List.forall_mem_cons.mp hfields
      obtain ⟨xs, hxs⟩ := ih hfields
      exact ⟨a :: xs, Checked.all_eq_ok_iff.mpr (.cons ha (Checked.all_eq_ok_iff.mp hxs))⟩
  suffices hread : ∃ xs, _ = Checked.ok xs by
    obtain ⟨xs, hxs⟩ := hread
    exact ⟨.ofList xs, Checked.map_eq_ok_iff.mpr ⟨xs, hxs, rfl⟩⟩
  refine hall _ _ fun e he => ?_
  obtain ⟨n, hn⟩ := h e (List.mem_filter.mp he).1
  exact ⟨(n, e.2), by rw [hn]⟩

/-- What is read of a price that can be bid. -/
def GivenPrice.ReadAs (c : GivenPrice) (p : Price) : Prop :=
  p.denom = some c.denom ∧ p.amount = some c.amount

theorem GivenPrice.Writes.exists_read {v : Value} {c : GivenPrice} (h : c.Writes v) :
    ∃ p, Price.read v = .ok p ∧ c.ReadAs p := by
  obtain @⟨l, es, c, v, hnames, hdenom, hamount, hkind, htext⟩ := h
  obtain ⟨x, hx⟩ := exists_extra es hnames [["denom"], ["amount"]]
  have hnamed : Scalar.optional Scalar.named v = .ok (some c.amount) := by
    cases v with
    | text s =>
      obtain rfl : s = c.amount := Except.ok.inj htext
      rfl
    | int n =>
      refine Scalar.optional_eq_ok_iff.mpr (.inr ⟨nofun, c.amount, ?_, rfl⟩)
      rw [Scalar.named, Scalar.asText_int_eq_ok_iff.mpr ⟨_, htext, rfl⟩]
      rfl
    | float x =>
      refine Scalar.optional_eq_ok_iff.mpr (.inr ⟨nofun, c.amount, ?_, rfl⟩)
      rw [Scalar.named, Scalar.asText_float_eq_ok_iff.mpr ⟨_, htext, rfl⟩]
      rfl
    | _ => simp [Value.kind] at hkind
  refine ⟨⟨some c.denom, some c.amount, x⟩, Price.read_eq_ok_iff.mpr ⟨?_, ?_, hx⟩, rfl, rfl⟩
  · rw [Fields.read_of_get? hdenom]
    rfl
  · rw [Fields.read_of_get? hamount, hnamed]
    rfl

/-- What is read of a placement with its prices. -/
structure PricedPlacement.ReadAs (q : PricedPlacement) (p : PlacementProfile) : Prop where
  attributes : p.attributes = q.attributes
  signedBy : p.signedBy = q.signedBy
  prices : Table.Reordered GivenPrice.ReadAs q.prices p.pricing

theorem PricedPlacement.Writes.exists_read {v : Value} {q : PricedPlacement} (h : q.Writes v) :
    ∃ p, PlacementProfile.read v = .ok p ∧ q.ReadAs p := by
  obtain @⟨l, fields, q, v, hnodup, hattributes, hsigned, hmem, hprices⟩ := h
  obtain ⟨t, ht, hrel⟩ := hprices.exists_tableOf fun _ _ _ hc => GivenPrice.Writes.exists_read hc
  obtain ⟨x, hx⟩ := exists_extra (Entries.named fields) (fun e he => by
    obtain ⟨f, -, rfl⟩ := List.mem_map.mp he
    exact ⟨f.1, rfl⟩) [["attributes"], ["signedBy", "signed_by"], ["pricing"]]
  refine ⟨⟨q.attributes, q.signedBy, t, x⟩,
    PlacementProfile.read_eq_ok_iff.mpr ⟨hattributes, hsigned, ?_, hx⟩, rfl, rfl, hrel⟩
  rw [Fields.read_of_get? (Entries.get?_named hnodup hmem), Checked.inside_eq_ok_iff]
  exact Checked.bind_eq_ok_iff.mpr ⟨v, hprices.isNormal, ht⟩

/-- A placement is **normal**, so that it stands in a document as it is. -/
theorem PricedPlacement.Writes.isNormal {v : Value} {q : PricedPlacement} (h : q.Writes v) :
    IsNormal 0 v := by
  obtain ⟨hnodup, -, -, -, -⟩ := h
  rw [IsNormal, normalize]
  exact Checked.map_eq_ok_iff.mpr ⟨_, renameKeys_named hnodup fun _ _ => rfl, rfl⟩

/-! ### The document -/

/-- The document that converted data with a placement is read as. -/
def FlatDocument.toDocument (f : FlatDocument) (p : PlacementProfile) : Document :=
  { version := some Document.defaultVersion,
    services := f.services.map FlatService.toService,
    profiles := some
      { compute := some (f.profiles.map FlatProfile.toProfile),
        placement := some (.single Conversion.defaultPlacement p), extra := .empty },
    deployment := f.deployment.map FlatDeployment.toEntries, extra := .empty }

section Document

variable {f : FlatDocument} {q : PricedPlacement} {p : PlacementProfile} {placement : Value}

theorem FlatDocument.withPlacement_converted (f : FlatDocument) (placement : Value) :
    f.converted.withPlacement placement = .map 0 (Entries.named
      [("version", .text Document.defaultVersion),
        ("services", f.services.toValue FlatService.converted),
        ("profiles", .record [("compute", f.profiles.toValue FlatProfile.converted),
          ("placement", .record [(Conversion.defaultPlacement, placement)])]),
        ("deployment", f.deployment.toValue FlatDeployment.converted)]) := by
  simp [Value.withPlacement, Value.changedAt, FlatDocument.converted, Value.record, Entries.named,
    Entries.get, Entries.get?, Entries.put, Value.eqv_text_iff]

/-! The sections are normal, and each is read as a table of its parts. -/

theorem FlatDocument.read_services (f : FlatDocument) :
    (normalize 1 (f.services.toValue FlatService.converted)).bind (tableOf Service.read) =
      .ok (f.services.map FlatService.toService) := by
  refine Checked.bind_eq_ok_iff.mpr ⟨_, isNormal_toValue _ fun s => ?_,
    tableOf_toValue _ FlatService.read_converted⟩
  rw [FlatService.converted]
  split <;> exact isNormal_record (by simp)

theorem FlatDocument.read_compute (f : FlatDocument) :
    (normalize 1 (f.profiles.toValue FlatProfile.converted)).bind (tableOf ComputeProfile.read) =
      .ok (f.profiles.map FlatProfile.toProfile) :=
  Checked.bind_eq_ok_iff.mpr ⟨_, isNormal_toValue _ fun c => isNormal_record (by simp),
    tableOf_toValue _ FlatProfile.read_converted⟩

theorem FlatDocument.read_deployment (f : FlatDocument) :
    (normalize 2 (f.deployment.toValue FlatDeployment.converted)).bind
        (tableOf (tableOf DeploymentEntry.read)) =
      .ok (f.deployment.map FlatDeployment.toEntries) :=
  Checked.bind_eq_ok_iff.mpr ⟨_, isNormal_toValue _ fun d => isNormal_record_succ (by simp)
    (by simpa using isNormal_record (by simp)), tableOf_toValue _ FlatDeployment.read_converted⟩

theorem FlatDocument.read_profiles (f : FlatDocument)
    (hread : PlacementProfile.read placement = .ok p) (hnormal : IsNormal 0 placement) :
    Profiles.read (.record
        [("compute", f.profiles.toValue FlatProfile.converted),
          ("placement", .record [(Conversion.defaultPlacement, placement)])]) =
      .ok ⟨some (f.profiles.map FlatProfile.toProfile),
        some (.single Conversion.defaultPlacement p), .empty⟩ := by
  have hplacement : (normalize 1 (.record [(Conversion.defaultPlacement, placement)])).bind
      (tableOf PlacementProfile.read) = .ok (.single Conversion.defaultPlacement p) :=
    Checked.bind_eq_ok_iff.mpr ⟨_, isNormal_record_succ (by simp) (by simpa using hnormal),
      tableOf_eq_ok_iff.mpr ⟨[(_, p)], .cons ⟨rfl, hread⟩ .nil, rfl⟩⟩
  refine Profiles.read_eq_ok_iff.mpr ⟨?_, ?_, rfl⟩
  · refine Checked.inside_eq_ok_iff.mpr (Scalar.optional_eq_ok_iff.mpr (.inr ⟨nofun, _, ?_, rfl⟩))
    exact f.read_compute
  · refine Checked.inside_eq_ok_iff.mpr (Scalar.optional_eq_ok_iff.mpr (.inr ⟨nofun, _, ?_, rfl⟩))
    exact hplacement

theorem FlatDocument.read_converted (f : FlatDocument)
    (hread : PlacementProfile.read placement = .ok p) (hnormal : IsNormal 0 placement) :
    Document.read (f.converted.withPlacement placement) = .ok (f.toDocument p) := by
  rw [FlatDocument.withPlacement_converted]
  refine Document.read_eq_ok_iff.mpr ⟨?_, rfl, ?_, ?_, rfl⟩
  · refine Checked.inside_eq_ok_iff.mpr (Scalar.optional_eq_ok_iff.mpr (.inr ⟨nofun, _, ?_, rfl⟩))
    exact f.read_profiles hread hnormal
  · exact Checked.inside_eq_ok_iff.mpr f.read_services
  · exact Checked.inside_eq_ok_iff.mpr f.read_deployment

/-- **Converted data with a placement is read** as the document of its parts. -/
theorem FlatDocument.parse_converted (f : FlatDocument)
    (hread : PlacementProfile.read placement = .ok p) (hnormal : IsNormal 0 placement) :
    Document.parse (.data (f.converted.withPlacement placement)) = .ok (f.toDocument p) := by
  have hmissing : ∀ es : Entries, es.get? "version" = some (.text Document.defaultVersion) →
      es.get? "services" = some (f.services.toValue FlatService.converted) →
      es.get? "deployment" = some (f.deployment.toValue FlatDeployment.converted) →
      missingFields es = [] := by
    intro es hv hs hd
    simp [missingFields, requiredFields, Entries.get, hv, hs, hd, Value.isMissing, Table.toValue,
      Value.record, Document.defaultVersion]
  have hdocument := f.read_converted hread hnormal
  rw [Document.parse, Source.plainData, ok_bind]
  rw [FlatDocument.withPlacement_converted] at hdocument ⊢
  rw [Document.ofData, hmissing _ rfl rfl rfl, hdocument]
  rfl

/-- The **deployed pair** of a deployment. -/
def FlatDeployment.toPair (name : String) (d : FlatDeployment) : DeployedPair :=
  ⟨name, Conversion.defaultPlacement, ⟨some d.profile, some d.count, .empty⟩⟩

theorem FlatDocument.pairs_toDocument (f : FlatDocument) (p : PlacementProfile) :
    (f.toDocument p).pairs = f.deployment.toList.map fun e => e.2.toPair e.1 := by
  change (f.deployment.toList.map fun e => (e.1, e.2.toEntries)).flatMap _ = _
  rw [List.flatMap_map, List.map_eq_flatMap]
  rfl

theorem FlatDocument.forall_pairs_toDocument {P : DeployedPair → Prop}
    (h : ∀ e ∈ f.deployment.toList, P (e.2.toPair e.1)) : ∀ x ∈ (f.toDocument p).pairs, P x := by
  intro x hx
  rw [pairs_toDocument] at hx
  obtain ⟨e, he, rfl⟩ := List.mem_map.mp hx
  exact h e he

/-- A placement with prices is **sound** as it is read, if what it prices are the services. -/
theorem PricedPlacement.ReadAs.isSound (hq : q.ReadAs p)
    (hprices : ∀ n, q.prices.contains n = f.services.contains n) : p.IsSound (f.toDocument p) := by
  intro x hx
  obtain ⟨price, hprice, hdenom, hamount⟩ := hq.prices.exists_mem' hx
  refine ⟨?_, ⟨_, hdenom, price.denom_ne⟩, _, hamount, price.amount_reads⟩
  rw [FlatDocument.toDocument, Table.contains_map, ← hprices]
  exact Table.contains_eq_true_iff.mpr ⟨price, Table.get?_eq_some_iff.mpr hprice⟩

/-- **The document of its parts is sound**, if the placement prices its services. -/
theorem FlatDocument.isSound (f : FlatDocument) (hq : q.ReadAs p)
    (hprices : ∀ n, q.prices.contains n = f.services.contains n) : (f.toDocument p).IsSound := by
  -- a deployment shows that no section is empty
  obtain ⟨e, he⟩ := List.exists_mem_of_ne_nil _ (Table.isEmpty_eq_false_iff.mp f.deployment_ne)
  constructor
  case version => exact ⟨_, rfl, by decide⟩
  case services_nonempty =>
    exact Table.isEmpty_eq_false_of_contains (n := e.1)
      ((Table.contains_map ..).trans (f.service_mem e he))
  case services =>
    intro s hs
    obtain ⟨s, -, rfl⟩ := List.mem_map.mp hs
    refine ⟨⟨_, rfl, s.2.image_ne⟩, fun r hr => ?_⟩
    obtain ⟨port, -, rfl⟩ := List.mem_map.mp hr
    exact ⟨⟨_, rfl, port.pos.ne'⟩, nofun⟩
  case compute_nonempty =>
    exact Table.isEmpty_eq_false_of_contains (n := e.2.profile)
      ((Table.contains_map ..).trans (f.profile_mem e he))
  case compute =>
    intro c hc
    obtain ⟨c, -, rfl⟩ := List.mem_map.mp hc
    refine ⟨_, rfl, c.2.cpu_writes, c.2.memory_writes, fun v hv => ?_⟩
    obtain rfl := List.mem_singleton.mp hv
    exact c.2.storage_writes
  case placement_nonempty => rfl
  case placement =>
    intro c hc
    obtain rfl : c = (Conversion.defaultPlacement, p) := List.mem_singleton.mp hc
    exact hq.isSound hprices
  case deployment_nonempty =>
    exact Table.isEmpty_eq_false_of_mem (List.mem_map_of_mem he)
  case pairs =>
    exact forall_pairs_toDocument fun e _ => ⟨⟨_, rfl, e.2.profile_ne⟩, _, rfl, e.2.pos⟩
  case references =>
    refine forall_pairs_toDocument fun e he => ⟨?_, ?_, ?_⟩
    · exact (Table.contains_map ..).trans (f.service_mem e he)
    · refine ⟨p, rfl, ?_⟩
      rw [← hq.prices.contains_eq, hprices]
      exact f.service_mem e he
    · intro n hn _
      obtain rfl := Option.some.inj hn
      exact (Table.contains_map ..).trans (f.profile_mem e he)

/-! ### The groups -/

/-- A **group that has what a deployment asks for**: the image and the ports of its service, the
amounts of its profile, with a single volume, its number of replicas, and the price of the service. -/
structure FlatDocument.IsDeployedAs (f : FlatDocument) (q : PricedPlacement) (n : String)
    (d : FlatDeployment) (g : Group) : Prop where
  name : g.name = n
  placement : g.placement = Conversion.defaultPlacement
  count : g.count = .int d.count
  service : ∃ s, f.services.get? n = some s ∧ g.image = some s.image ∧
    g.expose = s.ports.map fun p => ⟨some p.number, some p.number, "TCP", none, p.isGlobal⟩
  resources : ∃ c cores memory storage, f.profiles.get? d.profile = some c ∧
    Cores.read c.cpu = .ok (some cores) ∧ Size.bytes c.memory = .ok memory ∧
    Size.bytes c.storage = .ok storage ∧
    g.resources = ⟨.finite cores, memory, [⟨storage, none⟩]⟩
  price : ∃ c, q.prices.get? n = some c ∧ g.price = ⟨c.denom, .text c.amount⟩
  requirements : g.requirements = ⟨q.attributes.toList, (q.signedBy.map SignedBy.allOf).getD [],
    (q.signedBy.map SignedBy.anyOf).getD []⟩

/-- A port of the first layout is **opened under its own number**, for TCP. -/
theorem FlatPort.resolvePort_toRule (p : FlatPort) :
    resolvePort p.toRule = ⟨some p.number, some p.number, "TCP", none, p.isGlobal⟩ := by
  have htcp : Text.upper "TCP" = "TCP" := by decide
  have hnumber : (some p.number).filter (· ≠ 0) = some p.number :=
    Option.filter_eq_some_iff.mpr ⟨rfl, by simpa using p.pos.ne'⟩
  simp only [resolvePort, toRule, given?, Option.filter_none, Option.getD_none, htcp, hnumber]
  rfl

theorem FlatDocument.isDeployedAs_of_yields (hq : q.ReadAs p) {name : String} {d : FlatDeployment}
    {g : Group} (h : (d.toPair name).Yields (f.toDocument p) g) : f.IsDeployedAs q name d g := by
  obtain ⟨_, _, _, ⟨cpu, memory, volumes⟩, _, ⟨denom, amount⟩, _, _⟩ := g
  constructor
  case name => exact h.name
  case placement => exact h.placement
  case count => exact h.count
  case service =>
    obtain ⟨s, hs, himage, hexpose⟩ := h.service
    rw [FlatDocument.toDocument, Table.get?_map] at hs
    obtain ⟨s, hservice, rfl⟩ := Option.map_eq_some_iff.mp hs
    refine ⟨s, hservice, himage, ?_⟩
    rw [hexpose, FlatService.toService, List.map_map]
    exact List.map_congr_left fun port _ => port.resolvePort_toRule
  case resources =>
    obtain ⟨n, c, r, hn, hc, hr, ⟨_, cores, hs, hcores, -, rfl⟩, ⟨_, bytes, hs', hbytes, -, rfl⟩,
      hvolumes⟩ := h.resources
    obtain rfl : d.profile = n := Option.some.inj hn
    change (f.profiles.map FlatProfile.toProfile).get? d.profile = some c at hc
    rw [Table.get?_map] at hc
    obtain ⟨c, hprofile, rfl⟩ := Option.map_eq_some_iff.mp hc
    obtain rfl := Option.some.inj hr
    obtain rfl := Option.some.inj hs
    obtain rfl := Option.some.inj hs'
    -- the storage is a single volume, without a name
    obtain ⟨⟨size, volume⟩, _, hvolume, hnil, rfl⟩ := List.forall₂_cons_left_iff.mp hvolumes
    obtain rfl := List.forall₂_nil_left_iff.mp hnil
    obtain ⟨rfl, _, storage, hs'', hstorage, -, rfl⟩ := hvolume
    obtain rfl := Option.some.inj hs''
    exact ⟨c, cores, bytes, storage, hprofile, hcores, hbytes, hstorage, rfl⟩
  case price =>
    obtain ⟨_, c, a, hplacement, -, hc, hdenom, ha, rfl⟩ := h.price
    obtain rfl : p = _ := Option.some.inj hplacement
    obtain ⟨price, hprice, hd, hread⟩ := hq.prices.exists_mem' (Table.get?_eq_some_iff.mp hc)
    obtain rfl := Option.some.inj (hread.symm.trans ha)
    obtain rfl := Option.some.inj (hd.symm.trans hdenom)
    exact ⟨price, Table.get?_eq_some_iff.mpr hprice, rfl⟩
  case requirements =>
    obtain ⟨_, -, -, hplacement, hrequirements, -⟩ := h.price
    obtain rfl : p = _ := Option.some.inj hplacement
    rw [hrequirements, resolveRequirements, hq.attributes, hq.signedBy]

/-- **Converted documents are deployed as they were.** Data of the first layout is converted, and with
a placement that prices its services it is read as a document that is valid and compiled to one group
for each deployment, in order, with all that the deployment asks for. -/
theorem FlatDocument.Writes.exists_groups {v : Value} (h : f.Writes v) (hq : q.Writes placement)
    (hprices : ∀ n, q.prices.contains n = f.services.contains n) :
    ∃ w d r gs, Conversion.convert v = .ok w ∧
      Document.parse (.data (w.withPlacement placement)) = .ok d ∧
      d.validate = .ok r ∧ r.isValid = true ∧ d.compile = .ok gs ∧
      List.Forall₂ (fun e g => f.IsDeployedAs q e.1 e.2 g) f.deployment.toList gs := by
  obtain ⟨p, hread, hp⟩ := hq.exists_read
  have hsound := f.isSound hp hprices
  obtain ⟨r, hr, hvalid⟩ := Document.exists_validate_isValid_iff_isSound.mpr hsound
  obtain ⟨gs, hgs, hyields⟩ := hsound.exists_compile
  refine ⟨_, _, r, gs, h.convert_eq, f.parse_converted hread hq.isNormal, hr, hvalid, hgs, ?_⟩
  rw [FlatDocument.pairs_toDocument, List.forall₂_map_left_iff] at hyields
  exact hyields.imp fun e g hg => isDeployedAs_of_yields hp hg

end Document

/-- A document of the first layout with **two deployments**, one of them with everything as usual. -/
def FlatDocument.twoDeployments : FlatDocument where
  services := .ofList [("web", ⟨"nginx", [⟨80, true, by decide⟩], by decide⟩),
    ("worker", ⟨"busybox", [], by decide⟩)]
  profiles := .ofList [("web", ⟨"2", "1Gi", "2Gi",
      ⟨_, ⟨false, 2, 0⟩, rfl, toOption_eq_some_iff.mp (by decide +kernel), by decide,
        toOption_eq_some_iff.mp (by decide +kernel)⟩,
      ⟨_, 2 ^ 30, rfl, toOption_eq_some_iff.mp (by decide +kernel), by decide⟩,
      ⟨_, 2 ^ 31, rfl, toOption_eq_some_iff.mp (by decide +kernel), by decide⟩⟩),
    ("worker", ⟨"1", "512Mi", "1Gi",
      ⟨_, ⟨false, 1, 0⟩, rfl, toOption_eq_some_iff.mp (by decide +kernel), by decide,
        toOption_eq_some_iff.mp (by decide +kernel)⟩,
      ⟨_, 2 ^ 29, rfl, toOption_eq_some_iff.mp (by decide +kernel), by decide⟩,
      ⟨_, 2 ^ 30, rfl, toOption_eq_some_iff.mp (by decide +kernel), by decide⟩⟩)]
  deployment := .ofList [("web", ⟨"web", 2, by decide, by decide⟩),
    ("worker", ⟨"worker", 1, by decide, by decide⟩)]
  deployment_ne := rfl
  service_mem := by decide
  profile_mem := by decide

/-- Data that writes this document, with the processors of a profile as a number. -/
def FlatDocument.twoDeploymentsData : Value :=
  .record
    [("services", .record
      [("web", .record [("image", .text "nginx"),
        ("expose", .array [.record [("port", .int 80), ("global", .bool true)]])]),
       ("worker", .record [("image", .text "busybox")])]),
     ("profiles", .record
      [("web", .record [("cpu", .int 2), ("memory", .text "1Gi"), ("storage", .text "2Gi")]),
       ("worker", .record [])]),
     ("deployment", .record [("web", .record [("count", .int 2)]), ("worker", .record [])])]

/-- Data that writes a placement with prices for both services. -/
def FlatDocument.twoPricesData : Value :=
  .record [("pricing", .record
    [("web", .record [("denom", .text "uakt"), ("amount", .int 100)]),
     ("worker", .record [("denom", .text "uakt"), ("amount", .text "50")])])]

/-- The placement with these prices. -/
def PricedPlacement.twoPrices : PricedPlacement where
  attributes := .empty
  signedBy := none
  prices := .ofList [("web", ⟨"uakt", "100", by decide, by decide +kernel⟩),
    ("worker", ⟨"uakt", "50", by decide, by decide +kernel⟩)]

theorem FlatDocument.exists_groups_twoDeployments :
    twoDeployments.Writes twoDeploymentsData ∧ PricedPlacement.twoPrices.Writes twoPricesData ∧
      ∃ w d gs, Conversion.convert twoDeploymentsData = .ok w ∧
        Document.parse (.data (w.withPlacement twoPricesData)) = .ok d ∧ d.compile = .ok gs ∧
        gs.length = 2 := by
  have hwrites : twoDeployments.Writes twoDeploymentsData := by
    refine .mk rfl (.mk (.cons ⟨rfl, .mk rfl (.given rfl ⟨_, _, rfl, .cons (.mk rfl
      (.given rfl rfl)) .nil⟩)⟩ (.cons ⟨rfl, .mk rfl (.missing rfl)⟩ .nil))) rfl
      (.mk (.cons ⟨rfl, .mk (.given rfl ?_) (.given rfl rfl) (.given rfl rfl)⟩ (.cons ⟨rfl,
        .mk (.missing rfl) (.missing rfl) (.missing rfl)⟩ .nil))) rfl
      (.mk (.cons ⟨rfl, .mk (.missing rfl) (.given rfl rfl)⟩ (.cons ⟨rfl,
        .mk (.missing rfl) (.missing rfl)⟩ .nil)))
    exact toOption_eq_some_iff.mp (by decide +kernel)
  have hplacement : PricedPlacement.twoPrices.Writes twoPricesData := by
    refine @PricedPlacement.Writes.mk _ [("pricing", _)] _ _ (by simp) rfl rfl
      (List.mem_singleton.mpr rfl)
      (.mk (.cons ⟨rfl, .mk ?_ rfl rfl (.inr (.inl rfl)) ?_⟩ (.cons ⟨rfl,
        .mk ?_ rfl rfl (.inl rfl) rfl⟩ .nil)))
    · simp
    · exact toOption_eq_some_iff.mp (by decide +kernel)
    · simp
  have hprices : ∀ n, PricedPlacement.twoPrices.prices.contains n =
      twoDeployments.services.contains n := by
    intro n
    change (List.lookup n [_, _]).isSome = (List.lookup n [_, _]).isSome
    simp only [Table.lookup_cons, List.lookup_nil]
    split
    · rfl
    · split <;> rfl
  obtain ⟨w, d, r, gs, hw, hd, -, -, hgs, hrel⟩ := hwrites.exists_groups hplacement hprices
  exact ⟨hwrites, hplacement, w, d, gs, hw, hd, hgs, hrel.length_eq.symm⟩

end StackManifest
