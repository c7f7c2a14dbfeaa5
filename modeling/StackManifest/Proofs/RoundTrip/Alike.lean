import StackManifest.Proofs.RoundTrip.Parts

/-!
# Parts that are written alike

Two documents are equal when the data that is written of them is, and this does not depend on the
order of the names in a mapping. `StackManifest.Alike` says this of any two parts with a way of
writing them, and what it means for a part is said field by field: the known fields are alike, each
with the one of the same name, and so are the unknown fields.

* `StackManifest.alike_table_iff` – **tables**: as many entries, and alike under each name;
* `StackManifest.alike_part_iff` – **parts**: each field for itself;
* `StackManifest.Document.alike_iff` and its companions – the parts of a document that lead to the
  amounts of its compute profiles.

A part is written with its unknown fields beside the known ones, so nothing can be said of parts
with an unknown field that has the name of a known one. Such parts are never read
(`StackManifest.Table.Avoids`, `StackManifest.Document.isProper_of_read`).
-/

namespace StackManifest

variable {α : Type} {write : α → Value}

/-- Two values of some sort that are **written alike**. -/
def Alike (write : α → Value) (a b : α) : Prop := (write a).eqv (write b) = true

/-! ### Mappings -/

/-- Fields that have an **equal one** under the same name among others. -/
def HasEqualIn (ys : List (String × Value)) (f : String × Value) : Prop :=
  ∃ g ∈ ys, f.1 = g.1 ∧ f.2.eqv g.2 = true

theorem eqvEntries_iff {xs ys : List (String × Value)} :
    Value.eqvEntries (xs.map fun f => (Value.text f.1, f.2)) (ys.map fun f => (Value.text f.1, f.2)) =
      true ↔ ∀ f ∈ xs, HasEqualIn ys f := by
  have hany : ∀ f : String × Value, ((ys.map fun f => (Value.text f.1, f.2)).any fun e =>
      (Value.text f.1).eqv e.1 && f.2.eqv e.2) = true ↔ HasEqualIn ys f := by
    intro f
    simp only [List.any_eq_true, List.mem_map, Bool.and_eq_true, Value.text_eqv_iff]
    constructor
    · rintro ⟨_, ⟨g, hg, rfl⟩, hname, hvalue⟩
      exact ⟨g, hg, Value.text.inj hname, hvalue⟩
    · rintro ⟨g, hg, hname, hvalue⟩
      exact ⟨_, ⟨g, hg, rfl⟩, congrArg Value.text hname, hvalue⟩
  induction xs with
  | nil => simp [Value.eqvEntries]
  | cons f xs ih =>
    rw [List.map_cons, Value.eqvEntries, Bool.and_eq_true, List.forall_mem_cons]
    exact and_congr (hany f) ih

/-- **Mappings of names are equal** if there are as many names, and each value is equal to the one
under the same name. -/
theorem record_eqv_iff {xs ys : List (String × Value)} :
    (Value.record xs).eqv (Value.record ys) = true ↔
      xs.length = ys.length ∧ ∀ f ∈ xs, HasEqualIn ys f := by
  rw [Value.record, Value.record, Value.eqv, Bool.and_eq_true, eqvEntries_iff, beq_iff_eq,
    List.length_map, List.length_map]

/-- **Tables are alike** if they have as many entries and are alike under each name. -/
theorem alike_table_iff {s t : Table α} :
    Alike (Table.toValue write) s t ↔ s.toList.length = t.toList.length ∧
      ∀ n a, s.get? n = some a → ∃ b, t.get? n = some b ∧ Alike write a b := by
  rw [Alike, Table.toValue, Table.toValue, record_eqv_iff, List.length_map, List.length_map]
  simp only [Table.get?_eq_some_iff, HasEqualIn, List.forall_mem_map]
  refine and_congr Iff.rfl ⟨fun h n a ha => ?_, fun h e he => ?_⟩
  · obtain ⟨g, hg, hname, hvalue⟩ := h (n, a) ha
    obtain ⟨e, he, rfl⟩ := List.mem_map.mp hg
    obtain rfl : n = e.1 := hname
    exact ⟨e.2, he, hvalue⟩
  · obtain ⟨b, hb, halike⟩ := h e.1 e.2 he
    exact ⟨_, List.mem_map_of_mem hb, rfl, halike⟩

/-! ### Parts -/

/-- Unknown fields that **avoid the names** of the known ones. -/
def Table.Avoids (t : Table Value) (names : List String) : Prop :=
  ∀ n ∈ names, n ∉ t.toList.map Prod.fst

theorem Table.Avoids.not_mem_map {t : Table Value} {names : List String} (h : t.Avoids names)
    (g : Value → Value) : ∀ f ∈ t.toList.map fun e => (e.1, g e.2), f.1 ∉ names := by
  intro f hf hmem
  obtain ⟨e, he, rfl⟩ := List.mem_map.mp hf
  exact h e.1 hmem (List.mem_map_of_mem he)

/-- **Unknown fields that were read** avoid the first names of the known ones. -/
theorem Fields.avoids_of_extra {es : Entries} {known : List (List String)} {t : Table Value}
    (h : Fields.extra es known = .ok t) : t.Avoids (known.filterMap List.head?) := by
  intro n hn
  obtain ⟨names, hnames, hhead⟩ := List.mem_filterMap.mp hn
  exact Fields.not_mem_keys_of_extra h hnames hhead

/-- With each name there is **one field** only, so that fields in the same order are equal one by
one. -/
theorem forall₂_of_hasEqualIn {xs ys : List (String × Value)}
    (hnames : xs.map Prod.fst = ys.map Prod.fst) (hnodup : (ys.map Prod.fst).Nodup)
    (h : ∀ f ∈ xs, HasEqualIn ys f) :
    List.Forall₂ (fun f g => f.1 = g.1 ∧ f.2.eqv g.2 = true) xs ys := by
  induction xs generalizing ys with
  | nil =>
    obtain rfl : ys = [] := List.map_eq_nil_iff.mp hnames.symm
    exact .nil
  | cons f xs ih =>
    cases ys with
    | nil => cases hnames
    | cons y ys =>
      obtain ⟨hname, hrest⟩ := List.cons.inj hnames
      obtain ⟨hy, hys⟩ := List.nodup_cons.mp hnodup
      obtain ⟨hf, hxs⟩ := List.forall_mem_cons.mp h
      refine .cons ?_ (ih hrest hys fun g hg => ?_)
      · obtain ⟨g, hg, hgname, hvalue⟩ := hf
        rcases List.mem_cons.mp hg with rfl | hg
        · exact ⟨hgname, hvalue⟩
        · exact absurd (hname ▸ hgname ▸ List.mem_map_of_mem hg) hy
      · obtain ⟨z, hz, hzname, hvalue⟩ := hxs g hg
        rcases List.mem_cons.mp hz with rfl | hz
        · exact absurd (hzname ▸ hrest ▸ List.mem_map_of_mem hg) hy
        · exact ⟨z, hz, hzname, hvalue⟩

/-- **Parts are alike** if their known fields are, one by one, and their unknown ones. -/
theorem alike_part_iff {xs ys : List (String × Value)} (names : List String) {s t : Table Value}
    (hxs : xs.map Prod.fst = names) (hys : ys.map Prod.fst = names) (hnames : names.Nodup)
    (hs : s.Avoids names) (ht : t.Avoids names) :
    (Value.ofPart xs s).eqv (Value.ofPart ys t) = true ↔
      List.Forall₂ (fun f g => f.1 = g.1 ∧ f.2.eqv g.2 = true) xs ys ∧
        Alike (Table.toValue Value.unshared) s t := by
  have hlength : xs.length = ys.length := by
    rw [← List.length_map (f := Prod.fst), hxs, ← hys, List.length_map]
  obtain ⟨us, hus⟩ : ∃ us, us = s.toList.map fun e => (e.1, e.2.unshared) := ⟨_, rfl⟩
  obtain ⟨vs, hvs⟩ : ∃ vs, vs = t.toList.map fun e => (e.1, e.2.unshared) := ⟨_, rfl⟩
  have hus' : ∀ f ∈ us, f.1 ∉ names := hus ▸ hs.not_mem_map Value.unshared
  have hvs' : ∀ f ∈ vs, f.1 ∉ names := hvs ▸ ht.not_mem_map Value.unshared
  rw [Alike, Value.ofPart, Value.ofPart, Table.toValue, Table.toValue, ← hus, ← hvs, record_eqv_iff,
    record_eqv_iff, List.length_append, List.length_append]
  constructor
  · rintro ⟨hlen, h⟩
    refine ⟨forall₂_of_hasEqualIn (hxs.trans hys.symm) (hys ▸ hnames) fun f hf => ?_, by omega,
      fun f hf => ?_⟩
    · -- an equal field under a known name is no unknown one
      obtain ⟨g, hg, hname, hvalue⟩ := h f (List.mem_append_left _ hf)
      rcases List.mem_append.mp hg with hg | hg
      · exact ⟨g, hg, hname, hvalue⟩
      · exact absurd (hname ▸ hxs ▸ List.mem_map_of_mem hf) (hvs' g hg)
    · obtain ⟨g, hg, hname, hvalue⟩ := h f (List.mem_append_right _ hf)
      rcases List.mem_append.mp hg with hg | hg
      · exact absurd (hname ▸ hys ▸ List.mem_map_of_mem hg) (hus' f hf)
      · exact ⟨g, hg, hname, hvalue⟩
  · rintro ⟨h, hlen, hrest⟩
    refine ⟨by omega, fun f hf => ?_⟩
    rcases List.mem_append.mp hf with hf | hf
    · obtain ⟨g, hg, hname, hvalue⟩ := exists_of_mem_forall₂ h.flip hf
      exact ⟨g, List.mem_append_left _ hg, hname, hvalue⟩
    · obtain ⟨g, hg, hname, hvalue⟩ := hrest f hf
      exact ⟨g, List.mem_append_right _ hg, hname, hvalue⟩

/-! ### What may be missing, and lists -/

theorem alike_text?_iff {o o' : Option String} : Alike Value.ofText? o o' ↔ o = o' := by
  cases o <;> cases o' <;> simp [Alike, Value.ofText?, Value.eqv, Value.eqvAtom, Value.count?]

/-- Values that **may be missing** are alike if they are both missing or alike. -/
theorem alike_option_iff (hwrite : ∀ a, ∃ fields, write a = Value.record fields)
    {o o' : Option α} :
    Alike (Value.ofOption write) o o' ↔ Option.Rel (Alike write) o o' := by
  cases o with
  | none =>
    cases o' with
    | none => simp [Alike, Value.ofOption, Value.eqv, Value.eqvAtom]
    | some b =>
      obtain ⟨fields, hb⟩ := hwrite b
      simp [Alike, Value.ofOption, hb, Value.record, Value.eqv, Value.eqvAtom, Value.count?]
  | some a =>
    cases o' with
    | none =>
      obtain ⟨fields, ha⟩ := hwrite a
      simp [Alike, Value.ofOption, ha, Value.record, Value.eqv]
    | some b =>
      rw [Option.rel_some_some]
      rfl

/-- **Lists are alike** element by element. -/
theorem alike_list_iff {as bs : List α} :
    Alike (fun as => Value.array (as.map write)) as bs ↔ List.Forall₂ (Alike write) as bs := by
  rw [Alike, Value.array, Value.array, Value.eqv]
  induction as generalizing bs with
  | nil => cases bs <;> simp [Value.eqvList]
  | cons a as ih =>
    cases bs with
    | nil => simp [Value.eqvList]
    | cons b bs =>
      rw [List.map_cons, List.map_cons, Value.eqvList, Bool.and_eq_true, ih, List.forall₂_cons]
      rfl

/-! ### The parts of a document -/

/-- What is written of an unknown field. -/
abbrev KeptAlike (s t : Table Value) : Prop := Alike (Table.toValue Value.unshared) s t

/-- Resources in which no unknown field has the **name of a known one**. -/
structure Resources.IsProper (r : Resources) : Prop where
  cpu : ∀ c, r.cpu = some c → c.extra.Avoids ["units"]
  memory : ∀ m, r.memory = some m → m.extra.Avoids ["size"]
  storage : ∀ v ∈ r.storage, v.extra.Avoids ["name", "size", "attributes"]
  extra : r.extra.Avoids ["cpu", "memory", "storage"]

/-- The same for **a compute profile**. -/
structure ComputeProfile.IsProper (p : ComputeProfile) : Prop where
  resources : ∀ r, p.resources = some r → r.IsProper
  extra : p.extra.Avoids ["resources"]

/-- The same for the **profiles** of a document. -/
structure Profiles.IsProper (ps : Profiles) : Prop where
  compute : ∀ t n p, ps.compute = some t → t.get? n = some p → p.IsProper
  extra : ps.extra.Avoids ["compute", "placement"]

/-- The same for **a document**. -/
structure Document.IsProper (d : Document) : Prop where
  profiles : ∀ ps, d.profiles = some ps → ps.IsProper
  extra : d.extra.Avoids ["version", "services", "profiles", "deployment"]

theorem CpuRequest.alike_iff {c d : CpuRequest} (hc : c.extra.Avoids ["units"])
    (hd : d.extra.Avoids ["units"]) :
    Alike CpuRequest.toValue c d ↔ c.units = d.units ∧ KeptAlike c.extra d.extra := by
  refine (alike_part_iff ["units"] rfl rfl (by decide) hc hd).trans ?_
  simp only [List.forall₂_cons, List.forall₂_nil_left_iff, and_true, true_and]
  exact and_congr alike_text?_iff Iff.rfl

theorem MemoryRequest.alike_iff {m k : MemoryRequest} (hm : m.extra.Avoids ["size"])
    (hk : k.extra.Avoids ["size"]) :
    Alike MemoryRequest.toValue m k ↔ m.size = k.size ∧ KeptAlike m.extra k.extra := by
  refine (alike_part_iff ["size"] rfl rfl (by decide) hm hk).trans ?_
  simp only [List.forall₂_cons, List.forall₂_nil_left_iff, and_true, true_and]
  exact and_congr alike_text?_iff Iff.rfl

theorem StorageVolume.alike_iff {v w : StorageVolume}
    (hv : v.extra.Avoids ["name", "size", "attributes"])
    (hw : w.extra.Avoids ["name", "size", "attributes"]) :
    Alike StorageVolume.toValue v w ↔ v.size = w.size ∧ v.name = w.name ∧
      KeptAlike v.attributes w.attributes ∧ KeptAlike v.extra w.extra := by
  refine (alike_part_iff ["name", "size", "attributes"] rfl rfl (by decide) hv hw).trans ?_
  simp only [List.forall₂_cons, List.forall₂_nil_left_iff, and_true, true_and]
  rw [← alike_text?_iff (o := v.size), ← alike_text?_iff (o := v.name)]
  simp only [Alike]
  tauto

theorem Resources.alike_iff {r s : Resources} (hr : r.IsProper) (hs : s.IsProper) :
    Alike Resources.toValue r s ↔ Option.Rel (Alike CpuRequest.toValue) r.cpu s.cpu ∧
      Option.Rel (Alike MemoryRequest.toValue) r.memory s.memory ∧
      List.Forall₂ (Alike StorageVolume.toValue) r.storage s.storage ∧
      KeptAlike r.extra s.extra := by
  refine (alike_part_iff ["cpu", "memory", "storage"] rfl rfl (by decide) hr.extra hs.extra).trans ?_
  simp only [List.forall₂_cons, List.forall₂_nil_left_iff, and_true, true_and, and_assoc]
  exact and_congr (alike_option_iff fun _ => ⟨_, rfl⟩)
    (and_congr (alike_option_iff fun _ => ⟨_, rfl⟩) (and_congr alike_list_iff Iff.rfl))

theorem ComputeProfile.alike_iff {p q : ComputeProfile} (hp : p.IsProper) (hq : q.IsProper) :
    Alike ComputeProfile.toValue p q ↔
      Option.Rel (Alike Resources.toValue) p.resources q.resources ∧
        KeptAlike p.extra q.extra := by
  refine (alike_part_iff ["resources"] rfl rfl (by decide) hp.extra hq.extra).trans ?_
  simp only [List.forall₂_cons, List.forall₂_nil_left_iff, and_true, true_and]
  exact and_congr (alike_option_iff fun _ => ⟨_, rfl⟩) Iff.rfl

theorem Profiles.alike_iff {p q : Profiles} (hp : p.IsProper) (hq : q.IsProper) :
    Alike Profiles.toValue p q ↔
      Option.Rel (Alike (Table.toValue ComputeProfile.toValue)) p.compute q.compute ∧
        Alike (Value.ofOption (Table.toValue PlacementProfile.toValue)) p.placement q.placement ∧
        KeptAlike p.extra q.extra := by
  refine (alike_part_iff ["compute", "placement"] rfl rfl (by decide) hp.extra hq.extra).trans ?_
  simp only [List.forall₂_cons, List.forall₂_nil_left_iff, and_true, true_and, and_assoc]
  exact and_congr (alike_option_iff fun _ => ⟨_, rfl⟩) Iff.rfl

theorem Document.alike_iff {d e : Document} (hd : d.IsProper) (he : e.IsProper) :
    d.eqv e = true ↔ Option.Rel (Alike Profiles.toValue) d.profiles e.profiles ∧
      d.version = e.version ∧ Alike (Table.toValue Service.toValue) d.services e.services ∧
      Alike (Table.toValue (Table.toValue DeploymentEntry.toValue)) d.deployment e.deployment ∧
      KeptAlike d.extra e.extra := by
  refine (alike_part_iff ["version", "services", "profiles", "deployment"] rfl rfl (by decide)
    hd.extra he.extra).trans ?_
  simp only [List.forall₂_cons, List.forall₂_nil_left_iff, and_true, true_and, and_assoc]
  have hprofiles : Alike (Value.ofOption Profiles.toValue) d.profiles e.profiles ↔
      Option.Rel (Alike Profiles.toValue) d.profiles e.profiles :=
    alike_option_iff fun _ => ⟨_, rfl⟩
  rw [← alike_text?_iff, ← hprofiles]
  simp only [Alike]
  tauto

/-! ### Parts that were read -/

section Read

variable {v : Value}

/-- A field that is there **was read** of some value. -/
theorem Fields.exists_read {read : Value → Checked α} {es : Entries} {names : List String}
    {a : α} (h : Fields.read es names none (Scalar.optional read) = .ok (some a)) :
    ∃ w, read w = .ok a := by
  rw [Fields.read] at h
  split at h
  · cases h
  · rcases Scalar.optional_eq_ok_iff.mp (Checked.inside_eq_ok_iff.mp h) with
      ⟨-, hnone⟩ | ⟨-, b, hb, heq⟩
    · cases hnone
    · exact ⟨_, Option.some.inj heq ▸ hb⟩

theorem Resources.isProper_of_read {r : Resources} (h : Resources.read v = .ok r) :
    r.IsProper := by
  obtain ⟨es, h⟩ := Resources.isLaidOut.exists_entries h
  obtain ⟨hcpu, hmemory, hstorage, hextra⟩ := Resources.read_eq_ok_iff.mp h
  refine ⟨fun c hc => ?_, fun m hm => ?_, fun w hw => ?_, Fields.avoids_of_extra hextra⟩
  · obtain ⟨u, hu⟩ := Fields.exists_read (hc ▸ hcpu)
    obtain ⟨es', hu⟩ := CpuRequest.isLaidOut.exists_entries hu
    exact Fields.avoids_of_extra (CpuRequest.read_eq_ok_iff.mp hu).2
  · obtain ⟨u, hu⟩ := Fields.exists_read (hm ▸ hmemory)
    obtain ⟨es', hu⟩ := MemoryRequest.isLaidOut.exists_entries hu
    exact Fields.avoids_of_extra (MemoryRequest.read_eq_ok_iff.mp hu).2
  · obtain ⟨u, hu⟩ : ∃ u, StorageVolume.read u = .ok w := by
      rw [Fields.read] at hstorage
      split at hstorage
      · rw [← Checked.ok.inj hstorage] at hw
        cases hw
      · obtain ⟨xs, hxs⟩ := exists_elements_of_readVolumes (Checked.inside_eq_ok_iff.mp hstorage)
        obtain ⟨x, -, hx⟩ := exists_of_mem_forall₂ hxs hw
        exact ⟨x, hx⟩
    obtain ⟨es', hu⟩ := StorageVolume.isLaidOut.exists_entries hu
    exact Fields.avoids_of_extra (StorageVolume.read_eq_ok_iff.mp hu).2.2.2

theorem ComputeProfile.isProper_of_read {p : ComputeProfile} (h : ComputeProfile.read v = .ok p) :
    p.IsProper := by
  obtain ⟨es, h⟩ := ComputeProfile.isLaidOut.exists_entries h
  obtain ⟨hresources, hextra⟩ := ComputeProfile.read_eq_ok_iff.mp h
  refine ⟨fun r hr => ?_, Fields.avoids_of_extra hextra⟩
  obtain ⟨u, hu⟩ := Fields.exists_read (hr ▸ hresources)
  exact Resources.isProper_of_read hu

theorem Profiles.isProper_of_read {ps : Profiles} (h : Profiles.read v = .ok ps) :
    ps.IsProper := by
  obtain ⟨es, h⟩ := Profiles.isLaidOut.exists_entries h
  obtain ⟨hcompute, -, hextra⟩ := Profiles.read_eq_ok_iff.mp h
  refine ⟨fun t n p ht hp => ?_, Fields.avoids_of_extra hextra⟩
  obtain ⟨u, hu⟩ := Fields.exists_read (ht ▸ hcompute)
  obtain ⟨w, -, hw⟩ := Checked.bind_eq_ok_iff.mp hu
  obtain ⟨x, hx⟩ := exists_of_tableOf hw (Table.get?_eq_some_iff.mp hp)
  exact ComputeProfile.isProper_of_read hx

/-- **A document that was read** has no unknown field with the name of a known one. -/
theorem Document.isProper_of_read {d : Document} (h : Document.read v = .ok d) : d.IsProper := by
  obtain ⟨es, h⟩ := Document.isLaidOut.exists_entries h
  obtain ⟨hprofiles, -, -, -, hextra⟩ := Document.read_eq_ok_iff.mp h
  refine ⟨fun ps hps => ?_, Fields.avoids_of_extra hextra⟩
  obtain ⟨u, hu⟩ := Fields.exists_read (hps ▸ hprofiles)
  exact Profiles.isProper_of_read hu

end Read

end StackManifest
