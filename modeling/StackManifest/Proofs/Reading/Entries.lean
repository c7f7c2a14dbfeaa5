import StackManifest.Proofs.Reading.Records
import StackManifest.Proofs.Reading.References
import StackManifest.Proofs.RightSizing.Groups

/-!
# Whether every entry is kept

A section of a document is a mapping from names, and what is read of it is a table. The table should
have one entry for each entry of the mapping, in the same order, with the name that the key is read
as and with what the value is read as: the table **keeps** the entries (`StackManifest.Keeps`).

What can go wrong is that two keys are read as one name: the number `1` and the text `"1"`, or the
truth value `true` and the text `"true"`. The later of the two entries then takes the place of the
earlier one, without a word. This is all that can go wrong: a table that is read of a mapping keeps
its entries exactly when the keys are read as different names
(`StackManifest.ReadsTable.keeps_iff`).

A document has such tables at several depths. Its services, compute profiles and placement profiles
are tables; a placement profile has a table of attributes and one of prices; and a deployment is a
table of tables. All of them keep their entries exactly when no two keys of one mapping are read as
the same name (`StackManifest.Document.keepsEntries_iff_hasApartNames`).
-/

namespace StackManifest

variable {α : Type}

/-! ### Mappings and the tables that keep them -/

/-- The **entries** of a mapping, none of what is no mapping. -/
def Value.entries (v : Value) : Entries := v.entries?.getD []

/-- The value **under a name** of a mapping, nothing if there is none. -/
def Value.under (v : Value) (name : String) : Value := v.entries.get name

theorem Value.under_map {l : Label} {es : Entries} {name : String} :
    (Value.map l es).under name = (Entries.get? es name).getD .null :=
  rfl

/-- A mapping whose keys are read as **different names**. -/
def Value.IsApart (v : Value) : Prop := (v.entries.map fun e => keyName e.1).Nodup

deriving instance DecidableEq for Checked

instance {v : Value} : Decidable v.IsApart := inferInstanceAs (Decidable (List.Nodup _))

/-- A table that **keeps every entry** of a mapping, in order: the name that its key is read as, and
what becomes of its value. -/
def Keeps (R : Value → α → Prop) (v : Value) (t : Table α) : Prop :=
  List.Forall₂ (fun e x => keyName e.1 = .ok x.1 ∧ R e.2 x.2) v.entries t.toList

/-- What a value **becomes** when it is changed in a first step and read in a second one. -/
def Becomes (values : Value → Checked Value) (read : Value → Checked α) (w : Value) (a : α) :
    Prop :=
  (values w).bind read = .ok a

/-- A table that is **read of a mapping**: the keys become texts, the values are changed, and then
all of them are read. -/
def ReadsTable (values : Value → Checked Value) (read : Value → Checked α) (v : Value)
    (t : Table α) : Prop :=
  ∃ fs xs, List.Forall₂ (BecomesEntry values) v.entries fs ∧
    List.Forall₂ (ReadsEntry read) (Entries.ofList fs) xs ∧ Table.ofList xs = t

section Mappings

variable {values : Value → Checked Value} {read : Value → Checked α} {v : Value} {t : Table α}
  {depth : Nat}

/-- **Equal keys** are read as the same text, if as any. -/
theorem text_eq_of_eqv {k k' : Value} (h : k.eqv k' = true) : Scalar.text k = Scalar.text k' := by
  cases k with
  | text s => rw [Value.text_eqv_iff.mp h]
  | bytes bs => cases k' <;> simp_all [Value.eqv, Value.eqvAtom, Value.count?]
  | _ => cases k' <;> simp_all [Scalar.text, Value.eqv, Value.eqvAtom, Value.count?]

/-- Keys that are read as different texts are **distinct**. -/
theorem Entries.isDistinct_of_nodup {fs : Entries}
    (h : (fs.map fun f => Scalar.text f.1).Nodup) : fs.IsDistinct :=
  (List.pairwise_map.mp h).imp fun hne => Bool.eq_false_iff.mpr fun heqv =>
    hne (text_eq_of_eqv heqv)

/-- A table that keeps the entries of a mapping **has different names** for its keys. -/
theorem Keeps.isApart {R : Value → α → Prop} (h : Keeps R v t) : v.IsApart := by
  have hnames : (v.entries.map fun e => keyName e.1) = t.toList.map fun x => .ok x.1 :=
    map_eq_map_of_forall₂ (fun e x hx => hx.1) h
  rw [Value.IsApart, hnames]
  exact List.pairwise_map.mpr ((List.pairwise_map.mp t.nodup).imp fun hne heq =>
    hne (Checked.ok.inj heq))

/-- It has **as many entries** as the mapping. -/
theorem Keeps.size_eq {R : Value → α → Prop} (h : Keeps R v t) : t.size = v.entries.length :=
  h.length_eq.symm

/-- **What is read keeps every entry** if the keys are read as different names. -/
theorem ReadsTable.keeps (h : ReadsTable values read v t) (hv : v.IsApart) :
    Keeps (Becomes values read) v t := by
  obtain ⟨fs, xs, hfs, hxs, rfl⟩ := h
  have htexts : (v.entries.map fun e => keyName e.1) = fs.map fun f => Scalar.text f.1 :=
    map_eq_map_of_forall₂ (fun e f hf => by rw [keyName, hf.1, Checked.bind]) hfs
  have hnodup : (fs.map fun f => Scalar.text f.1).Nodup := htexts ▸ hv
  rw [Entries.ofList_of_isDistinct (Entries.isDistinct_of_nodup hnodup)] at hxs
  have hnames : (fs.map fun f => Scalar.text f.1) = xs.map fun x => .ok x.1 :=
    map_eq_map_of_forall₂ (fun f x hx => hx.1) hxs
  have hlist : (Table.ofList xs).toList = xs := by
    refine Table.toList_ofList (List.pairwise_map.mpr ?_)
    exact (List.pairwise_map.mp (hnames ▸ hnodup)).imp fun hne heq => hne (congrArg _ heq)
  rw [Keeps, hlist]
  refine forall₂_of_common (fun f e x he hx => ⟨?_, ?_⟩) hfs.flip hxs
  · exact keyName_eq_ok_iff.mpr ⟨f.1, he.1, hx.1⟩
  · exact Checked.bind_eq_ok_iff.mpr ⟨f.2, he.2, hx.2⟩

/-- **Whether a table keeps its entries.** If what becomes of a value is what is read of it, under a
condition on the value, it does exactly when the keys are read as different names and the condition
is true of each value. -/
theorem ReadsTable.keeps_iff {R : Value → α → Prop} {Q : Value → Prop}
    (h : ReadsTable values read v t)
    (hR : ∀ e ∈ v.entries, ∀ a, R e.2 a ↔ Becomes values read e.2 a ∧ Q e.2) :
    Keeps R v t ↔ v.IsApart ∧ ∀ e ∈ v.entries, Q e.2 := by
  constructor
  · intro hkeeps
    refine ⟨hkeeps.isApart, fun e he => ?_⟩
    obtain ⟨x, -, -, hx⟩ := exists_of_mem_forall₂ hkeeps.flip he
    exact ((hR e he x.2).mp hx).2
  · rintro ⟨hv, hQ⟩
    have hall := (List.forall₂_and_left _ _).mpr
      ⟨fun e he => And.intro (hR e he) (hQ e he), h.keeps hv⟩
    exact hall.imp fun e x hx => ⟨hx.2.1, (hx.1.1 x.2).mpr ⟨hx.2.2, hx.1.2⟩⟩

/-- **An entry that is put together with others** has a value that was given, under an equal key. -/
theorem Entries.exists_of_mem_ofList {fs : Entries} {f : Value × Value} (h : f ∈ ofList fs) :
    ∃ g ∈ fs, f.1.eqv g.1 = true ∧ f.2 = g.2 := by
  have hput : ∀ (acc : Entries) (k v : Value), f ∈ acc.put k v →
      f ∈ acc ∨ f.1.eqv k = true ∧ f.2 = v := by
    intro acc k v
    induction acc with
    | nil =>
      intro hf
      obtain rfl := List.mem_singleton.mp hf
      exact .inr ⟨Value.eqv_refl k, rfl⟩
    | cons e acc ih =>
      rw [put]
      split
      · rename_i hkey
        intro hf
        rcases List.mem_cons.mp hf with rfl | hf
        · exact .inr ⟨hkey, rfl⟩
        · exact .inl (List.mem_cons_of_mem _ hf)
      · intro hf
        rcases List.mem_cons.mp hf with rfl | hf
        · exact .inl (List.mem_cons_self ..)
        · exact (ih hf).imp_left (List.mem_cons_of_mem _)
  induction fs using List.reverseRecOn with
  | nil => cases h
  | append_singleton fs g ih =>
    rw [ofList, List.foldl_append, List.foldl_cons, List.foldl_nil, ← ofList] at h
    rcases hput _ _ _ h with hf | hf
    · obtain ⟨g', hg', hf⟩ := ih hf
      exact ⟨g', List.mem_append_left _ hg', hf⟩
    · exact ⟨g, by simp, hf⟩

/-- **What is found under a name** of a table is read of an entry whose key is read as the name. -/
theorem ReadsTable.exists_of_get? {name : String} {a : α} (h : ReadsTable values read v t)
    (ha : t.get? name = some a) :
    ∃ e ∈ v.entries, keyName e.1 = .ok name ∧ Becomes values read e.2 a := by
  obtain ⟨fs, xs, hfs, hxs, rfl⟩ := h
  obtain ⟨f, hf, hname, hread⟩ := exists_of_mem_forall₂ hxs
    (Table.mem_of_mem_ofList (Table.get?_eq_some_iff.mp ha))
  obtain ⟨g, hg, hkey, hvalue⟩ := Entries.exists_of_mem_ofList hf
  obtain ⟨e, he, hek, hev⟩ := exists_of_mem_forall₂ hfs hg
  exact ⟨e, he, keyName_eq_ok_iff.mpr ⟨g.1, hek, text_eq_of_eqv hkey ▸ hname⟩,
    Checked.bind_eq_ok_iff.mpr ⟨g.2, hev, hvalue ▸ hread⟩⟩

/-! ### Mappings that are read -/

theorem readsTable_nothing : ReadsTable values read .null .empty := ⟨[], [], .nil, .nil, rfl⟩

theorem renameKeys_bind_tableOf_eq_ok_iff {l : Label} {es : Entries} :
    ((renameKeys es values).bind fun fs => tableOf read (.map l fs)) = .ok t ↔
      ReadsTable values read (.map l es) t := by
  rw [Checked.bind_eq_ok_iff]
  constructor
  · rintro ⟨gs, hgs, ht⟩
    obtain ⟨fs, hfs, rfl⟩ := renameKeys_eq_ok_iff.mp hgs
    obtain ⟨xs, hxs, ht⟩ := tableOf_eq_ok_iff.mp ht
    exact ⟨fs, xs, hfs, hxs, ht⟩
  · rintro ⟨fs, xs, hfs, hxs, ht⟩
    exact ⟨_, renameKeys_eq_ok_iff.mpr ⟨fs, hfs, rfl⟩, tableOf_eq_ok_iff.mpr ⟨xs, hxs, ht⟩⟩

/-- **Prices**, whose own fields are not renamed. -/
theorem normalize_zero_bind_tableOf_eq_ok_iff {l : Label} {es : Entries} :
    (normalize 0 (.map l es)).bind (tableOf read) = .ok t ↔ ReadsTable .ok read (.map l es) t := by
  rw [← renameKeys_bind_tableOf_eq_ok_iff, normalize]
  cases renameKeys es .ok <;> exact Iff.rfl

/-- **A section** of names. -/
theorem readsTable_of_readNamed (h : readNamed depth read v = .ok t) :
    ReadsTable (normalize depth) read v t := by
  cases v with
  | null =>
    cases h
    exact readsTable_nothing
  | map l es => exact readNamed_eq_ok_iff.mp h
  | _ => cases h

/-- A section that **may be missing**. -/
theorem readsTable_of_readSection {o : Option (Table α)} (h : readSection read v = .ok o) :
    ReadsTable (normalize 0) read v (o.getD .empty) := by
  rcases Scalar.optional_eq_ok_iff.mp h with ⟨rfl, rfl⟩ | ⟨-, t, ht, rfl⟩
  · exact readsTable_nothing
  · exact readsTable_of_readNamed ht

theorem readsTable_of_normalize_zero (h : (normalize 0 v).bind (tableOf read) = .ok t) :
    ReadsTable .ok read v t := by
  cases v with
  | null =>
    cases h
    exact readsTable_nothing
  | map l es => exact normalize_zero_bind_tableOf_eq_ok_iff.mp h
  | _ => cases h

/-- **Attributes**, whose values become texts as well. -/
theorem readsTable_of_readAttributes {t : Table String} (h : readAttributes v = .ok t) :
    ReadsTable attributeText Scalar.text v t := by
  cases v with
  | null =>
    cases h
    exact readsTable_nothing
  | map l es => exact renameKeys_bind_tableOf_eq_ok_iff.mp h
  | _ => cases h

/-- A field that is **nothing by default** is read of what stands under its name. -/
theorem Fields.read_eq_ok_iff_under {name : String} {default a : α} {f : Value → Checked α}
    {l : Label} {es : Entries} (hdefault : f .null = .ok default) :
    Fields.read es [name] default f = .ok a ↔ f ((Value.map l es).under name) = .ok a := by
  rw [Value.under_map]
  rcases hget : Entries.get? es name with _ | c
  · have hread : Fields.read es [name] default f = .ok default := by
      simp only [Fields.read, Fields.find?, List.findSome?_cons, hget]
      rfl
    rw [hread, Option.getD_none, hdefault]
  · rw [Fields.read_of_get? hget, Checked.inside_eq_ok_iff, Option.getD_some]

/-- **A field stays the same** when the keys around it become texts. -/
theorem under_of_normalize {u : Value} {name : String} (hname : IsWord name)
    (hv : RightSizing.IsDistinct v) (h : normalize 0 v = .ok u) : u.under name = v.under name := by
  cases v with
  | map l es =>
    obtain ⟨gs, hgs, rfl⟩ := Checked.map_eq_ok_iff.mp h
    obtain ⟨fs, hfs, rfl⟩ := renameKeys_eq_ok_iff.mp hgs
    rw [Value.under_map, Value.under_map, Entries.get?_ofList_of_renamed hname (hv l es rfl) hfs]
  | _ =>
    cases h
    rfl

end Mappings

/-! ### The parts of a document -/

/-- A placement profile that **keeps the attributes and the prices** of what it is read from. -/
structure PlacementProfile.KeepsEntries (w : Value) (p : PlacementProfile) : Prop where
  read : Becomes (normalize 0) PlacementProfile.read w p
  attributes : Keeps (Becomes attributeText Scalar.text) (w.under "attributes") p.attributes
  pricing : Keeps (Becomes .ok Price.read) (w.under "pricing") p.pricing

/-- A table of a deployment that **keeps the entries** of what it is read from. -/
structure KeepsPlaces (w : Value) (places : Table DeploymentEntry) : Prop where
  read : Becomes (normalize 1) (tableOf DeploymentEntry.read) w places
  entries : Keeps (Becomes (normalize 0) DeploymentEntry.read) w places

/-- The **pairs of keys** under which the entries of a deployment are given, with the entries. -/
def sourcePairs (v : Value) : List (Value × Value × Value) :=
  v.entries.flatMap fun e => e.2.entries.map fun f => (e.1, f.1, f.2)

/-- A deployed pair that is read of **a pair of keys**. -/
structure DeployedPair.IsOf (s : Value × Value × Value) (p : DeployedPair) : Prop where
  service : keyName s.1 = .ok p.service
  placement : keyName s.2.1 = .ok p.placement
  entry : Becomes (normalize 0) DeploymentEntry.read s.2.2 p.entry

/-- A document that **keeps every entry** of the data that it is read from. -/
structure Document.KeepsEntries (data : Value) (d : Document) : Prop where
  services : Keeps (Becomes (normalize 0) Service.read) (data.under "services") d.services
  compute : Keeps (Becomes (normalize 0) ComputeProfile.read)
    ((data.under "profiles").under "compute") d.computeProfiles
  placement : Keeps PlacementProfile.KeepsEntries ((data.under "profiles").under "placement")
    d.placementProfiles
  deployment : Keeps KeepsPlaces (data.under "deployment") d.deployment
  pairs : List.Forall₂ DeployedPair.IsOf (sourcePairs (data.under "deployment")) d.pairs

/-- Data in which the keys of each mapping of names are read as **different names**. -/
@[mk_iff]
structure HasApartNames (data : Value) : Prop where
  services : (data.under "services").IsApart
  compute : ((data.under "profiles").under "compute").IsApart
  placement : ((data.under "profiles").under "placement").IsApart
  attributes : ∀ e ∈ ((data.under "profiles").under "placement").entries,
    (e.2.under "attributes").IsApart
  pricing : ∀ e ∈ ((data.under "profiles").under "placement").entries, (e.2.under "pricing").IsApart
  deployment : (data.under "deployment").IsApart
  places : ∀ e ∈ (data.under "deployment").entries, e.2.IsApart

instance {data : Value} : Decidable (HasApartNames data) :=
  decidable_of_iff _ (hasApartNames_iff data).symm

section Parts

variable {v w data : Value} {l : Label} {es : Entries} {d : Document}

theorem keepsPlaces_iff {places : Table DeploymentEntry} :
    KeepsPlaces w places ↔
      Becomes (normalize 1) (tableOf DeploymentEntry.read) w places ∧ w.IsApart := by
  constructor
  · rintro ⟨hread, hentries⟩
    exact ⟨hread, hentries.isApart⟩
  · rintro ⟨hread, hw⟩
    have htable : ReadsTable (normalize 0) DeploymentEntry.read w places :=
      readsTable_of_readNamed hread
    exact ⟨hread, htable.keeps hw⟩

/-- **The parts whose sections are tables**, with their fields by name. -/
theorem PlacementProfile.read_eq_ok_iff_under {p : PlacementProfile} :
    PlacementProfile.read (.map l es) = .ok p ↔
      readAttributes ((Value.map l es).under "attributes") = .ok p.attributes ∧
      Fields.read es ["signedBy", "signed_by"] none (Scalar.optional SignedBy.read) =
        .ok p.signedBy ∧
      (normalize 0 ((Value.map l es).under "pricing")).bind (tableOf Price.read) = .ok p.pricing ∧
      Fields.extra es [["attributes"], ["signedBy", "signed_by"], ["pricing"]] = .ok p.extra := by
  rw [PlacementProfile.read_eq_ok_iff, Fields.read_eq_ok_iff_under (l := l) (by rfl),
    Fields.read_eq_ok_iff_under (l := l) (by rfl)]

theorem Profiles.read_eq_ok_iff_under {ps : Profiles} :
    Profiles.read (.map l es) = .ok ps ↔
      readSection ComputeProfile.read ((Value.map l es).under "compute") = .ok ps.compute ∧
      readSection PlacementProfile.read ((Value.map l es).under "placement") = .ok ps.placement ∧
      Fields.extra es [["compute"], ["placement"]] = .ok ps.extra := by
  rw [Profiles.read_eq_ok_iff, Profiles.ReadsOthers,
    Fields.read_eq_ok_iff_under (l := l) (by rfl), Fields.read_eq_ok_iff_under (l := l) (by rfl)]

theorem Document.read_eq_ok_iff_under {d : Document} :
    Document.read (.map l es) = .ok d ↔
      Scalar.optional Profiles.read ((Value.map l es).under "profiles") = .ok d.profiles ∧
      Scalar.optional Scalar.named ((Value.map l es).under "version") = .ok d.version ∧
      readNamed 0 Service.read ((Value.map l es).under "services") = .ok d.services ∧
      readNamed 1 (tableOf DeploymentEntry.read) ((Value.map l es).under "deployment") =
        .ok d.deployment ∧
      Fields.extra es [["version"], ["services"], ["profiles"], ["deployment"]] = .ok d.extra := by
  rw [Document.read_eq_ok_iff, Document.ReadsOthers,
    Fields.read_eq_ok_iff_under (l := l) (by rfl), Fields.read_eq_ok_iff_under (l := l) (by rfl),
    Fields.read_eq_ok_iff_under (l := l) (by rfl), Fields.read_eq_ok_iff_under (l := l) (by rfl)]
  rfl

/-- The attributes and the prices of a placement profile are **read of their fields**. -/
theorem PlacementProfile.keepsEntries_iff {p : PlacementProfile} (hw : RightSizing.IsDistinct w) :
    PlacementProfile.KeepsEntries w p ↔ Becomes (normalize 0) PlacementProfile.read w p ∧
      (w.under "attributes").IsApart ∧ (w.under "pricing").IsApart := by
  constructor
  · rintro ⟨hread, hattributes, hpricing⟩
    exact ⟨hread, hattributes.isApart, hpricing.isApart⟩
  · rintro ⟨hread, hattributes, hpricing⟩
    obtain ⟨u, hu, hp⟩ := Checked.bind_eq_ok_iff.mp hread
    have hattr : u.under "attributes" = w.under "attributes" :=
      under_of_normalize (by decide) hw hu
    have hprice : u.under "pricing" = w.under "pricing" := under_of_normalize (by decide) hw hu
    cases u with
    | map l es =>
      obtain ⟨ha, -, hpr, -⟩ := PlacementProfile.read_eq_ok_iff_under.mp hp
      have ha := readsTable_of_readAttributes ha
      have hpr := readsTable_of_normalize_zero hpr
      rw [hattr] at ha
      rw [hprice] at hpr
      exact ⟨hread, ha.keeps hattributes, hpr.keeps hpricing⟩
    | _ => cases hp

/-- The **profiles** of a document are read of the fields of a section that may be missing. -/
theorem readSection_of_readProfiles {o : Option Profiles}
    (h : Scalar.optional Profiles.read v = .ok o) :
    readSection ComputeProfile.read (v.under "compute") = .ok (o.bind Profiles.compute) ∧
      readSection PlacementProfile.read (v.under "placement") = .ok (o.bind Profiles.placement) := by
  rcases Scalar.optional_eq_ok_iff.mp h with ⟨rfl, rfl⟩ | ⟨-, ps, hps, rfl⟩
  · exact ⟨rfl, rfl⟩
  · cases v with
    | map l es =>
      obtain ⟨hcompute, hplacement, -⟩ := Profiles.read_eq_ok_iff_under.mp hps
      exact ⟨hcompute, hplacement⟩
    | _ => cases hps

/-- **Each section** of a document is read of the field with its name. -/
theorem Document.readsTable_of_read (h : Document.read (.map l es) = .ok d) :
    ReadsTable (normalize 0) Service.read ((Value.map l es).under "services") d.services ∧
    ReadsTable (normalize 0) ComputeProfile.read
      (((Value.map l es).under "profiles").under "compute") d.computeProfiles ∧
    ReadsTable (normalize 0) PlacementProfile.read
      (((Value.map l es).under "profiles").under "placement") d.placementProfiles ∧
    ReadsTable (normalize 1) (tableOf DeploymentEntry.read)
      ((Value.map l es).under "deployment") d.deployment := by
  obtain ⟨hprofiles, -, hservices, hdeployment, -⟩ := Document.read_eq_ok_iff_under.mp h
  obtain ⟨hcompute, hplacement⟩ := readSection_of_readProfiles hprofiles
  exact ⟨readsTable_of_readNamed hservices, readsTable_of_readSection hcompute,
    readsTable_of_readSection hplacement, readsTable_of_readNamed hdeployment⟩

/-- **The deployed pairs** come in the order of their keys. -/
theorem isOf_pairs_of_keeps (h : Keeps KeepsPlaces v d.deployment) :
    List.Forall₂ DeployedPair.IsOf (sourcePairs v) d.pairs := by
  refine List.rel_flatMap h fun e x hx => ?_
  rw [List.forall₂_map_left_iff, List.forall₂_map_right_iff]
  exact hx.2.entries.imp fun f y hy => ⟨hx.1, hy.1, hy.2⟩

/-- No key occurs twice in a **value under a name**. -/
theorem hasDistinctKeys_under {name : String} (h : RightSizing.HasDistinctKeys v) :
    RightSizing.HasDistinctKeys (v.under name) := by
  have hnull : RightSizing.HasDistinctKeys .null := RightSizing.hasDistinctKeys_of_atom nofun nofun
  cases v with
  | map l es =>
    rw [Value.under_map]
    rcases hget : Entries.get? es name with _ | c
    · exact hnull
    · exact h.of_get? hget
  | _ => exact hnull

theorem isDistinct_of_mem_entries (h : RightSizing.HasDistinctKeys v) {e : Value × Value}
    (he : e ∈ v.entries) : RightSizing.IsDistinct e.2 := by
  cases v with
  | map l es => exact (h.of_mem he).isDistinct
  | _ => cases he

end Parts

namespace Document

variable {data : Value} {d : Document}

/-- **A document keeps every entry of its data** exactly when the keys of each mapping are read as
different names: there are as many services, profiles, attributes, prices and deployed pairs as
entries are given for them, and each of them is what is read of the entry in its place. -/
theorem keepsEntries_iff_hasApartNames (hkeys : RightSizing.HasDistinctKeys data)
    (h : parse (.data data) = .ok d) : d.KeepsEntries data ↔ HasApartNames data := by
  obtain ⟨l, es, rfl, -, hd⟩ := ofData_eq_ok_iff.mp h
  obtain ⟨hservices, hcompute, hplacement, hdeployment⟩ := readsTable_of_read hd
  have hplacements := hplacement.keeps_iff (R := PlacementProfile.KeepsEntries)
    (Q := fun w => (w.under "attributes").IsApart ∧ (w.under "pricing").IsApart)
    fun e he p => PlacementProfile.keepsEntries_iff
      (isDistinct_of_mem_entries (hasDistinctKeys_under (hasDistinctKeys_under hkeys)) he)
  have hplaces := hdeployment.keeps_iff (R := KeepsPlaces) (Q := Value.IsApart)
    fun e _ places => keepsPlaces_iff
  constructor
  · intro hkeeps
    obtain ⟨hp, hfields⟩ := hplacements.mp hkeeps.placement
    obtain ⟨hdep, hinner⟩ := hplaces.mp hkeeps.deployment
    exact ⟨hkeeps.services.isApart, hkeeps.compute.isApart, hp, fun e he => (hfields e he).1,
      fun e he => (hfields e he).2, hdep, hinner⟩
  · intro hapart
    have hdep := hplaces.mpr ⟨hapart.deployment, hapart.places⟩
    exact ⟨hservices.keeps hapart.services, hcompute.keeps hapart.compute,
      hplacements.mpr ⟨hapart.placement, fun e he =>
        ⟨hapart.attributes e he, hapart.pricing e he⟩⟩,
      hdep, isOf_pairs_of_keeps hdep⟩

/-- Nothing is lost of the data that deploys **one service**. -/
theorem keepsEntries_oneService : ∃ data d, RightSizing.HasDistinctKeys data ∧
    parse (.data data) = .ok d ∧ HasApartNames data ∧ d.KeepsEntries data := by
  have htext : ∀ s, RightSizing.HasDistinctKeys (.text s) := fun s =>
    RightSizing.hasDistinctKeys_of_atom nofun nofun
  have hkeys := RightSizing.hasDistinctKeys_oneService (htext "1") (htext "1Gi") (htext "1Gi")
  have hparse : (parse (.data (RightSizing.oneService (.text "1") (.text "1Gi")
      (.text "1Gi")))).toOption.isSome = true := by decide +kernel
  obtain ⟨d, hd⟩ := Option.isSome_iff_exists.mp hparse
  rw [toOption_eq_some_iff] at hd
  have hapart : HasApartNames (RightSizing.oneService (.text "1") (.text "1Gi") (.text "1Gi")) := by
    decide +kernel
  exact ⟨_, d, hkeys, hd, hapart, (keepsEntries_iff_hasApartNames hkeys hd).mpr hapart⟩

/-- Data with two services, one under the **truth value** `true` and one under the text `"true"`. -/
def sameNamed : Value :=
  RightSizing.ofFields
    [("version", .text defaultVersion),
      ("services", .map 0
        [(.bool true, RightSizing.ofFields [("image", .text "nginx")]),
          (.text "true", RightSizing.ofFields [("image", .text "redis")])]),
      ("deployment", RightSizing.ofFields [])]

/-- **A service can be lost** without a word: of two of them one is left. -/
theorem not_keepsEntries_sameNamed : ∃ d, RightSizing.HasDistinctKeys sameNamed ∧
    parse (.data sameNamed) = .ok d ∧ d.services.size = 1 ∧ ¬d.KeepsEntries sameNamed := by
  have htext : ∀ s, RightSizing.HasDistinctKeys (.text s) := fun s =>
    RightSizing.hasDistinctKeys_of_atom nofun nofun
  have hkeys : RightSizing.HasDistinctKeys sameNamed := by
    simp [sameNamed, RightSizing.hasDistinctKeys_ofFields_iff,
      RightSizing.hasDistinctKeys_map_iff, htext, Entries.IsDistinct, Value.eqv, Value.eqvAtom,
      Value.count?]
  have hparse : (parse (.data sameNamed)).toOption.map (fun d => d.services.size) = some 1 := by
    decide +kernel
  obtain ⟨d, hd, hsize⟩ := Option.map_eq_some_iff.mp hparse
  rw [toOption_eq_some_iff] at hd
  refine ⟨d, hkeys, hd, hsize, fun h => ?_⟩
  have hlength := h.services.size_eq
  rw [hsize] at hlength
  exact absurd hlength (by decide)

end Document

end StackManifest
