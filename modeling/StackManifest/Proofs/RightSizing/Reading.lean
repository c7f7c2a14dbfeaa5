import StackManifest.Proofs.Reading.Parts
import StackManifest.Proofs.RightSizing.Shrinking

/-!
# The document of data that was made smaller

What right-sizing does to data is followed here through the reading of the data, from the amounts
up to the document. The document that is read afterwards has the same parts as the one before,
except for the amounts in its compute profiles, and these become what their texts are made
(`StackManifest.RightSizing.exists_becomes_resize`).

At each level there is one relation between the data before and after,
`StackManifest.RightSizing.Made`, and one between what is read of it:

* `StackManifest.RightSizing.VolumesBecome` and `StackManifest.RightSizing.ResourcesBecome` – the
  **amounts** of resources;
* `StackManifest.RightSizing.DocumentBecomes` – a document with other amounts in its **compute
  profiles**.

Amounts that are given as bytes, or in a storage that is no list and no mapping, are not looked
into. `StackManifest.RightSizing.Reaches` says of an amount of a compute profile that the profile
with this name is given otherwise, and `StackManifest.RightSizing.LooksInto` that all profiles are
whose keys are read as this name. Of several keys with a name only the last one counts for the
document, but all of them are made smaller.

That amounts become less is said by a second family of relations, up to
`StackManifest.RightSizing.DocumentShrinks`.
-/

namespace StackManifest.RightSizing

open StackManifest.Number

variable {p : Prop} {P : Value → Prop} {name : String} {v v' w data data' : Value}
  {op : Value → Except Fault Value}

/-! ### Data whose amounts are looked into -/

/-- A value that is **not given as bytes**. -/
def NotBytes (v : Value) : Prop := ∀ bs, v ≠ .bytes bs

/-- Storage that is a **list or a mapping**, with the size of its first volume not in bytes. -/
def HasPlainStorage : Value → Prop
  | .tuple _ | .set .. => False
  | .list _ (x :: _) => AtField "size" NotBytes x
  | v => AtField "size" NotBytes v

/-- The **amounts** of a compute profile that may be made smaller. -/
inductive Amount where
  | cpu
  | memory
  | volume

/-- Resources in which an amount is **looked into**. -/
def IsPlain (r : Value) : Amount → Prop
  | .cpu => AtField "cpu" (AtField "units" NotBytes) r
  | .memory => AtField "memory" (AtField "size" NotBytes) r
  | .volume => AtField "storage" HasPlainStorage r

/-- The **name** that a key of a section is read as. -/
def IsKeyOf (n : String) (k : Value) : Prop := ∃ t, keyText k = .ok t ∧ Scalar.text t = .ok n

/-- Something that is said of the key and the value of **every entry** of a mapping. -/
def InSection (P : Value → Value → Prop) (v : Value) : Prop :=
  ∀ l es, v = .map l es → ∀ e ∈ es, P e.1 e.2

/-- Data in which an amount of the compute profile with a name is **looked into**. -/
def LooksInto (data : Value) (n : String) (a : Amount) : Prop :=
  AtField "profiles" (AtField "compute" (InSection fun k v =>
    IsKeyOf n k → AtField "resources" (IsPlain · a) v)) data

/-- A compute profile **with the value** that it is read from. -/
def readGiven (v : Value) : Checked (Value × ComputeProfile) :=
  (ComputeProfile.read v).map (Prod.mk v)

/-- Compute profiles of which the one with a name is **given with an amount** that is looked into. -/
def ReachesIn (n : String) (a : Amount) (c : Value) : Prop :=
  ∀ t g, readSection readGiven c = .ok (some t) → t.get? n = some g →
    AtField "resources" (IsPlain · a) g.1

/-- Data in which an amount of the compute profile that a document finds under a name is **reached**
by right-sizing. -/
def Reaches (data : Value) (n : String) (a : Amount) : Prop :=
  AtField "profiles" (AtField "compute" (ReachesIn n a)) data

/-- A mapping in which **no key occurs twice**. -/
def IsDistinct (v : Value) : Prop := ∀ l es, v = .map l es → Entries.IsDistinct es

/-- Data in which **no key occurs twice** in any mapping. -/
def HasDistinctKeys (data : Value) : Prop := ∀ a v, data.Holds a v → IsDistinct v

theorem HasDistinctKeys.isDistinct (h : HasDistinctKeys v) : IsDistinct v := h [] v (.here v)

theorem HasDistinctKeys.of_mem {l : Label} {es : Entries} {e : Value × Value}
    (h : HasDistinctKeys (.map l es)) (he : e ∈ es) : HasDistinctKeys e.2 := by
  obtain ⟨i, hi⟩ := List.mem_iff_getElem?.mp he
  exact fun a v hv => h (i :: a) v (.entry (k := e.1) hi hv)

theorem HasDistinctKeys.of_get? {l : Label} {es : Entries} {c : Value}
    (h : HasDistinctKeys (.map l es)) (hc : Entries.get? es name = some c) :
    HasDistinctKeys c := by
  obtain ⟨e, he, hc⟩ := List.exists_of_findSome?_eq_some hc
  have hvalue : e.2 = c := by
    split at hc
    · split at hc
      · exact Option.some.inj hc
      · cases hc
    · cases hc
  exact hvalue ▸ h.of_mem he

/-! ### What is made of data -/

/-- What an operation **makes of a value** of which something holds just under a condition. -/
def Made (p : Prop) (P : Value → Prop) (op : Value → Except Fault Value) (v w : Value) : Prop :=
  (p ↔ P v) ∧ op v = .ok w

/-- An operation on a value under a name changes **that value** by itself. -/
theorem inField_of_ok (h : inField name op v = .ok v') :
    InField name (fun c w => op c = .ok w) v v' := by
  rcases position?_cases v name with ⟨hnone, hlacks⟩ | ⟨l, before, c, after, rfl, hb⟩
  · rw [inField_of_position? hnone] at h
    cases h
    exact .absent hlacks
  · rw [inField_of_split hb] at h
    obtain ⟨w, hw, rfl⟩ := map_eq_ok_iff.mp h
    exact .present (Entries.differ_of_lacks hb) hw

theorem Made.inField (h : Made p (AtField name P) (RightSizing.inField name op) v v') :
    InField name (Made p P op) v v' :=
  (inField_of_ok h.2).with_iff.mono fun _ _ hcw => ⟨h.1.trans (hcw.1 P), hcw.2⟩

/-- An operation on the value of every entry changes **each of them** by itself. -/
theorem inEntries_of_ok {P : Value → Value → Prop} (hP : InSection P v)
    (h : inEntries op v = .ok v') : InEntries (fun k c w => P k c ∧ op c = .ok w) v v' := by
  cases v with
  | map l es =>
    obtain ⟨es', hes, rfl⟩ := map_eq_ok_iff.mp h
    have hmem : ∀ e ∈ es, P e.1 e.2 := hP l es rfl
    refine .entries ?_
    rw [mapM_eq_ok_iff] at hes
    -- the induction is on the entries, apart from the mapping that they stand in
    clear hP h
    induction hes with
    | nil => exact .nil
    | cons he _ ih =>
      obtain ⟨w, hw, rfl⟩ := map_eq_ok_iff.mp he
      obtain ⟨hp, hmem⟩ := List.forall_mem_cons.mp hmem
      exact .cons ⟨rfl, hp, hw⟩ (ih hmem)
  | _ =>
    cases h
    exact .other (by simp)

/-- What is said of every entry can be put into a relation of the data **with itself**. -/
theorem InSection.inEntries {P : Value → Value → Prop} (h : InSection P v) :
    InEntries (fun k c w => w = c ∧ P k c) v v := by
  cases v with
  | map l es => exact .entries (List.forall₂_same.mpr fun e he => ⟨rfl, rfl, h l es rfl e he⟩)
  | _ => exact .other (by simp)

/-! ### What becomes of resources -/

/-- What becomes of **volumes**: the first one may have another size. -/
inductive VolumesBecome (p : Prop) : List StorageVolume → List StorageVolume → Prop where
  | nil : VolumesBecome p [] []
  | cons {v : StorageVolume} {vs : List StorageVolume} {s : Option String} :
    Option.Rel (Becomes (halvedSize storageThreshold) p) v.size s →
    VolumesBecome p (v :: vs) ({ v with size := s } :: vs)

/-- What becomes of **resources**, with a condition for each of the amounts. -/
structure ResourcesBecome (p : Amount → Prop) (r r' : Resources) : Prop where
  cpu : Option.Rel (fun c c' => ∃ u, c' = { c with units := u } ∧
    Option.Rel (Becomes halvedCores (p .cpu)) c.units u) r.cpu r'.cpu
  memory : Option.Rel (fun m m' => ∃ s, m' = { m with size := s } ∧
    Option.Rel (Becomes (halvedSize memoryThreshold) (p .memory)) m.size s) r.memory r'.memory
  storage : VolumesBecome (p .volume) r.storage r'.storage
  extra : r'.extra = r.extra

/-- What becomes of **a compute profile**. -/
structure ProfileBecomes (p : Amount → Prop) (a a' : ComputeProfile) : Prop where
  resources : Option.Rel (ResourcesBecome p) a.resources a'.resources
  extra : a'.extra = a.extra

/-- What is not looked into is **kept**. -/
theorem VolumesBecome.refl (hp : ¬p) (vs : List StorageVolume) : VolumesBecome p vs vs := by
  cases vs with
  | nil => exact .nil
  | cons v vs =>
    refine .cons (s := v.size) ?_
    cases v.size with
    | none => exact .none
    | some s => exact .some (.of_kept hp)

theorem carries_units :
    Carries (Made p NotBytes (halvedAmount halvedCores)) (Scalar.optional Scalar.named)
      (Option.Rel (Becomes halvedCores p)) :=
  fun _ _ _ h hv => exists_named_of_halvedCores h.1 hv h.2

theorem carries_size {t : Nat} :
    Carries (Made p NotBytes (halvedAmount (halvedSize t))) (Scalar.optional Scalar.named)
      (Option.Rel (Becomes (halvedSize t) p)) :=
  fun _ _ _ h hv => exists_named_of_halvedSize h.1 hv h.2

theorem carries_volume :
    Carries (Made p (AtField "size" NotBytes)
      (inField "size" (halvedAmount (halvedSize storageThreshold)))) StorageVolume.read
      fun a a' => ∃ s, a' = { a with size := s } ∧
        Option.Rel (Becomes (halvedSize storageThreshold) p) a.size s :=
  (StorageVolume.carries carries_size .none).mono (fun _ _ h => h.inField) fun _ _ h => h

theorem readVolumes_list {l : Label} {xs : List Value} {vs : List StorageVolume} :
    readVolumes (.list l xs) = .ok vs ↔
      List.Forall₂ (fun x v => StorageVolume.read x = .ok v) xs vs :=
  listOf_eq_ok_iff (l := l)

theorem readVolumes_map {l : Label} {es : Entries} {vs : List StorageVolume} :
    readVolumes (.map l es) = .ok vs ↔ ∃ v, StorageVolume.read (.map l es) = .ok v ∧ [v] = vs := by
  rw [readVolumes, listOf_eq_ok_iff, List.forall₂_cons_left_iff]
  simp only [List.forall₂_nil_left_iff, exists_and_left, exists_eq_left, eq_comm]

/-- **The first volume** of storage, which may be the storage itself. -/
theorem carries_volumes :
    Carries (Made p HasPlainStorage
      (inVolume (inField "size" (halvedAmount (halvedSize storageThreshold)))))
      readVolumes (VolumesBecome p) := by
  rintro v w vs ⟨hp, hw⟩ hvs
  cases v with
  | null =>
    cases hw
    cases hvs
    exact ⟨[], rfl, .nil⟩
  | list l xs =>
    cases xs with
    | nil =>
      cases hw
      cases hvs
      exact ⟨[], rfl, .nil⟩
    | cons x xs =>
      obtain ⟨y, hy, rfl⟩ := map_eq_ok_iff.mp hw
      cases readVolumes_list.mp hvs with
      | cons ha hrest =>
        obtain ⟨_, ha', s, rfl, hs⟩ := carries_volume x y _ ⟨hp, hy⟩ ha
        exact ⟨_, readVolumes_list.mpr (.cons ha' hrest), .cons hs⟩
  | map l es =>
    have hmade : Made p (AtField "size" NotBytes)
        (inField "size" (halvedAmount (halvedSize storageThreshold))) (.map l es) w := ⟨hp, hw⟩
    obtain ⟨es', rfl⟩ : ∃ es', w = .map l es' := by
      cases hmade.inField with
      | absent => exact ⟨es, rfl⟩
      | present => exact ⟨_, rfl⟩
    obtain ⟨a, ha, rfl⟩ := readVolumes_map.mp hvs
    obtain ⟨_, ha', s, rfl, hs⟩ := carries_volume _ _ _ hmade ha
    exact ⟨_, readVolumes_map.mpr ⟨_, ha', rfl⟩, .cons hs⟩
  | tuple xs =>
    cases hw
    exact ⟨vs, hvs, .refl hp.mp vs⟩
  | set l xs =>
    cases hw
    exact ⟨vs, hvs, .refl hp.mp vs⟩
  | _ => cases hvs

/-- What is made of **resources** with just some amounts that are looked into. -/
def ResourcesMade (p : Amount → Prop) (v w : Value) : Prop :=
  (∀ a, p a ↔ IsPlain v a) ∧ halvedResources v = .ok w

/-- **Resources** are changed in three fields, one after the other. -/
theorem carries_resources {p : Amount → Prop} :
    Carries (ResourcesMade p) Resources.read (ResourcesBecome p) := by
  rintro v w a ⟨hp, hw⟩ ha
  obtain ⟨v₁, hv₁, hw⟩ := bind_eq_ok_iff.mp hw
  obtain ⟨v₂, hv₂, hw⟩ := bind_eq_ok_iff.mp hw
  have hcpu := Made.inField ⟨hp .cpu, hv₁⟩
  -- what is said of one field is still true after the others have been changed
  have hmemory := Made.inField ⟨(hp .memory).trans (hcpu.atField_iff_of_ne (by decide)).symm, hv₂⟩
  have hstorage := Made.inField ⟨(hp .volume).trans ((hcpu.atField_iff_of_ne (by decide)).symm.trans
    (hmemory.atField_iff_of_ne (by decide)).symm), hw⟩
  obtain ⟨_, ha₁, c, rfl, hc⟩ := Resources.carries_cpu ((CpuRequest.carries carries_units
    .none).optional fun _ _ => InField.null_iff) .none v v₁ a
    (hcpu.mono fun _ _ => Made.inField) ha
  obtain ⟨_, ha₂, m, rfl, hm⟩ := Resources.carries_memory ((MemoryRequest.carries carries_size
    .none).optional fun _ _ => InField.null_iff) .none v₁ v₂ _
    (hmemory.mono fun _ _ => Made.inField) ha₁
  obtain ⟨_, ha₃, vs, rfl, hvs⟩ := Resources.carries_storage carries_volumes .nil v₂ w _
    hstorage ha₂
  exact ⟨_, ha₃, hc, hm, hvs, rfl⟩

theorem null_iff_of_halvedResources (h : halvedResources v = .ok w) : w = .null ↔ v = .null := by
  obtain ⟨v₁, hv₁, hw⟩ := bind_eq_ok_iff.mp h
  obtain ⟨v₂, hv₂, hw⟩ := bind_eq_ok_iff.mp hw
  rw [(inField_of_ok hw).null_iff, (inField_of_ok hv₂).null_iff, (inField_of_ok hv₁).null_iff]

/-! ### What becomes of profiles -/

variable {q : String → Amount → Prop}

/-- What is made of **a profile**: its resources are changed, if no key of it occurs twice. -/
def ProfileMade (v w : Value) : Prop :=
  IsDistinct v ∧ InField "resources" (fun c w => halvedResources c = .ok w) v w

/-- What is made of **all profiles**, with just some amounts that are reached. -/
def SectionMade (q : String → Amount → Prop) (v w : Value) : Prop :=
  (∀ n a, q n a ↔ ReachesIn n a v) ∧ InEntries (fun _ => ProfileMade) v w

/-- What becomes of **the profiles** of a document. -/
structure ProfilesBecome (q : String → Amount → Prop) (ps ps' : Profiles) : Prop where
  compute : Option.Rel (Table.Related fun n => ProfileBecomes (q n)) ps.compute ps'.compute
  placement : ps'.placement = ps.placement
  extra : ps'.extra = ps.extra

/-- What becomes of **a document**: the amounts of its compute profiles may be others. The
conditions on them depend on the name of the profile. -/
structure DocumentBecomes (q : String → Amount → Prop) (d d' : Document) : Prop where
  version : d'.version = d.version
  services : d'.services = d.services
  profiles : Option.Rel (ProfilesBecome q) d.profiles d'.profiles
  deployment : d'.deployment = d.deployment
  extra : d'.extra = d.extra

theorem carries_profile {p : Amount → Prop} :
    Carries (fun v w => (∀ a, p a ↔ AtField "resources" (IsPlain · a) v) ∧
        InField "resources" (fun c w => halvedResources c = .ok w) v w)
      ComputeProfile.read (ProfileBecomes p) := by
  refine (ComputeProfile.carries ((carries_resources (p := p)).optional
    fun _ _ h => null_iff_of_halvedResources h.2) .none).mono ?_ ?_
  · rintro v w ⟨hp, hw⟩
    exact hw.with_iff.mono fun c c' h => ⟨fun a => (hp a).trans (h.1 _), h.2⟩
  · rintro a _ ⟨r, rfl, hr⟩
    exact ⟨hr, rfl⟩

/-- **All compute profiles**, with their names as texts, beside the values that they are read
from. -/
theorem carries_given :
    Carries (InEntries fun _ => ProfileMade) (readSection readGiven)
      (Option.Rel (Table.Related fun _ g g' =>
        ProfileBecomes (fun a => AtField "resources" (IsPlain · a) g.1) g.2 g'.2)) := by
  have hkeys : RespectsKeys fun _ => InField "resources" fun c w => halvedResources c = .ok w :=
    fun _ _ _ _ _ h => h
  refine Carries.section hkeys (fun _ _ _ => Carries.normalize_zero (by decide)) fun _ _ _ => ?_
  rintro v w _ hw hg
  obtain ⟨a, ha, rfl⟩ := Checked.map_eq_ok_iff.mp hg
  obtain ⟨a', ha', hbecomes⟩ := carries_profile v w a ⟨fun _ => Iff.rfl, hw⟩ ha
  exact ⟨(w, a'), Checked.map_eq_ok_iff.mpr ⟨a', ha', rfl⟩, hbecomes⟩

/-- A section is read as its profiles are read **beside their values**. -/
theorem readSection_given_iff {o : Option (Table ComputeProfile)} :
    readSection ComputeProfile.read v = .ok o ↔
      ∃ o', readSection readGiven v = .ok o' ∧ o'.map (Table.map Prod.snd) = o := by
  have hread : ComputeProfile.read = fun v => (readGiven v).map Prod.snd := by
    funext v
    rw [readGiven]
    cases ComputeProfile.read v <;> rfl
  rw [hread]
  exact readSection_map_eq_ok_iff

/-- **All compute profiles**, with the conditions under which their amounts are reached. -/
theorem carries_compute :
    Carries (SectionMade q) (readSection ComputeProfile.read)
      (Option.Rel (Table.Related fun n => ProfileBecomes (q n))) := by
  rintro v w _ ⟨hq, hw⟩ hread
  obtain ⟨o, ho, rfl⟩ := readSection_given_iff.mp hread
  obtain ⟨o', ho', hrel⟩ := carries_given v w o hw ho
  refine ⟨_, readSection_given_iff.mpr ⟨o', ho', rfl⟩, ?_⟩
  cases hrel with
  | none => exact .none
  | @some t t' hrel =>
    refine .some ?_
    -- each profile is found under its name, and so the condition is the one of its own value
    have hcond : ∀ e ∈ t.toList, (fun a => AtField "resources" (IsPlain · a) e.2.1) = q e.1 := by
      intro e he
      refine funext fun a => propext ⟨fun h => (hq e.1 a).mpr fun t₁ g ht hg => ?_, fun h => ?_⟩
      · obtain rfl := Option.some.inj (Checked.ok.inj (ho.symm.trans ht))
        obtain rfl := Option.some.inj ((Table.get?_eq_some_iff.mpr he).symm.trans hg)
        exact h
      · exact (hq e.1 a).mp h t e.2 ho (Table.get?_eq_some_iff.mpr he)
    refine List.forall₂_map_left_iff.mpr (List.forall₂_map_right_iff.mpr ?_)
    refine ((List.forall₂_and_left _ _).mpr ⟨hcond, hrel⟩).imp ?_
    rintro e e' ⟨hcond, hname, hbecomes⟩
    refine ⟨hname, ?_⟩
    change ProfileBecomes (q e.1) e.2.2 e'.2.2
    rw [← hcond]
    exact hbecomes

/-- **The document** is changed in its compute profiles. -/
theorem carries_document :
    Carries (InField "profiles" (InField "compute" (SectionMade q))) Document.read
      (DocumentBecomes q) := by
  have hprofiles : Carries (InField "compute" (SectionMade q)) Profiles.read
      (ProfilesBecome q) := by
    refine (Profiles.carries carries_compute .none).mono (fun _ _ h => h) ?_
    rintro ps _ ⟨c, rfl, hc⟩
    exact ⟨hc, rfl, rfl⟩
  refine (Document.carries (hprofiles.optional fun _ _ => InField.null_iff) .none).mono
    (fun _ _ h => h) ?_
  rintro d _ ⟨ps, rfl, hps⟩
  exact ⟨rfl, rfl, hps, rfl, rfl⟩

/-! ### Right-sizing and reading -/

/-- Right-sizing changes the compute profiles, **each by itself**. -/
theorem inField_of_halved (hkeys : HasDistinctKeys data) (h : halved data = .ok data') :
    InField "profiles" (InField "compute" (SectionMade (Reaches data))) data data' := by
  obtain ⟨profiles, -, h⟩ := bind_eq_ok_iff.mp h
  obtain ⟨-, -, h⟩ := bind_eq_ok_iff.mp h
  -- what is assumed of the whole data is said of each profile by itself
  have hsection : AtField "profiles" (AtField "compute" (InSection fun _ => IsDistinct)) data := by
    rintro l es ps rfl hps l' es' c rfl hc l'' es'' rfl e he
    exact (((hkeys.of_get? hps).of_get? hc).of_mem he).isDistinct
  refine ((inField_of_ok h).with_atField hsection).with_iff.mono fun ps ps' hps => ?_
  refine ((inField_of_ok hps.2.2).with_atField hps.2.1).with_iff.mono fun c c' hc => ?_
  refine ⟨fun n a => (hps.1 _).trans (hc.1 _), ?_⟩
  refine (inEntries_of_ok hc.2.1 hc.2.2).mono fun k v w hv => ⟨hv.1, ?_⟩
  obtain ⟨-, -, hw⟩ := bind_eq_ok_iff.mp hv.2
  exact inField_of_ok hw

theorem missingFields_of_differ {es es' : Entries} {c w : Value}
    (h : Entries.Differ "profiles" c w es es') : missingFields es' = missingFields es := by
  refine List.filter_congr fun f hf => ?_
  have hne : f ≠ "profiles" := by
    rintro rfl
    exact absurd hf (by decide)
  rw [Entries.get, Entries.get, h.get?_of_ne hne]

/-- **Data that was made smaller is read** if it was read before, and the amounts of its document
become what their texts are made, as far as they are reached. -/
theorem exists_becomes_resize {d : Document} (hshared : data.Unshared)
    (hkeys : HasDistinctKeys data) (hd : Document.parse (.data data) = .ok d)
    (h : resize data = .ok data') :
    ∃ d', Document.parse (.data data') = .ok d' ∧ DocumentBecomes (Reaches data) d d' := by
  -- since nothing is shared, each amount is halved where it stands
  rw [resize_eq_halved hshared] at h
  have hfield := inField_of_halved hkeys h
  change Document.ofData data = .ok d at hd
  change ∃ d', Document.ofData data' = .ok d' ∧ DocumentBecomes (Reaches data) d d'
  obtain ⟨l, es, rfl, hmissing, hread⟩ := ofData_eq_ok_iff.mp hd
  obtain ⟨d', hd', hbecomes⟩ := carries_document _ _ d hfield hread
  refine ⟨d', ?_, hbecomes⟩
  cases hfield with
  | absent => exact ofData_eq_ok_iff.mpr ⟨l, es, rfl, hmissing, hd'⟩
  | present hdiffer =>
    exact ofData_eq_ok_iff.mpr ⟨l, _, rfl, (missingFields_of_differ hdiffer).trans hmissing, hd'⟩

/-! ### Amounts that become less -/

/-- Volumes of which the **first one** may have become smaller. -/
inductive VolumesShrink (p : Prop) : List StorageVolume → List StorageVolume → Prop where
  | nil : VolumesShrink p [] []
  | cons {v : StorageVolume} {vs : List StorageVolume} {s : Option String} :
    Option.Rel (SizeShrinks p storageThreshold) v.size s →
    VolumesShrink p (v :: vs) ({ v with size := s } :: vs)

/-- Resources with **smaller amounts**, with a condition for each of them. -/
structure ResourcesShrink (p : Amount → Prop) (r r' : Resources) : Prop where
  cpu : Option.Rel (CoresShrink (p .cpu)) (r.cpu.bind (·.units)) (r'.cpu.bind (·.units))
  memory : Option.Rel (SizeShrinks (p .memory) memoryThreshold) (r.memory.bind (·.size))
    (r'.memory.bind (·.size))
  storage : VolumesShrink (p .volume) r.storage r'.storage

/-- A compute profile with **smaller resources**. -/
def ProfileShrinks (p : Amount → Prop) (a a' : ComputeProfile) : Prop :=
  Option.Rel (ResourcesShrink p) a.resources a'.resources

/-- A document whose **compute profiles** are smaller, with everything else as before. The
conditions on the amounts depend on the name of the profile. -/
structure DocumentShrinks (p : String → Amount → Prop) (d d' : Document) : Prop where
  version : d'.version = d.version
  services : d'.services = d.services
  deployment : d'.deployment = d.deployment
  placement : d'.placementProfiles = d.placementProfiles
  compute : Table.Related (fun n => ProfileShrinks (p n)) d.computeProfiles d'.computeProfiles

/-- A text **of a part** that may be missing. -/
theorem rel_bind {α : Type} {R : α → α → Prop} {T : String → String → Prop}
    {f : α → Option String} {o o' : Option α} (h : Option.Rel R o o')
    (hR : ∀ a a', R a a' → Option.Rel T (f a) (f a')) :
    Option.Rel T (o.bind f) (o'.bind f) := by
  cases h with
  | none => exact .none
  | some h => exact hR _ _ h

theorem rel_mono {α : Type} {R S : α → α → Prop} {o o' : Option α} (h : Option.Rel R o o')
    (hR : ∀ a a', R a a' → S a a') : Option.Rel S o o' := by
  cases h with
  | none => exact .none
  | some h => exact .some (hR _ _ h)

theorem VolumesBecome.shrink {p' : Prop} {vs vs' : List StorageVolume} (h : VolumesBecome p vs vs')
    (hp : p' → p) : VolumesShrink p' vs vs' := by
  cases h with
  | nil => exact .nil
  | cons h => exact .cons (rel_mono h fun _ _ hs => hs.sizeShrinks (by decide) hp)

theorem ResourcesBecome.shrink {p p' : Amount → Prop} {r r' : Resources}
    (h : ResourcesBecome p r r') (hp : ∀ a, p' a → p a) : ResourcesShrink p' r r' := by
  refine ⟨rel_bind h.cpu ?_, rel_bind h.memory ?_, h.storage.shrink (hp .volume)⟩
  · rintro c _ ⟨u, rfl, hu⟩
    exact rel_mono hu fun _ _ hs => hs.coresShrink (hp .cpu)
  · rintro m _ ⟨s, rfl, hs⟩
    exact rel_mono hs fun _ _ hs => hs.sizeShrinks le_rfl (hp .memory)

theorem ProfileBecomes.shrinks {p p' : Amount → Prop} {a a' : ComputeProfile}
    (h : ProfileBecomes p a a') (hp : ∀ a, p' a → p a) : ProfileShrinks p' a a' :=
  rel_mono h.resources fun _ _ hr => hr.shrink hp

theorem DocumentBecomes.shrinks {q' : String → Amount → Prop} {d d' : Document}
    (h : DocumentBecomes q d d') (hq : ∀ n a, q' n a → q n a) : DocumentShrinks q' d d' := by
  obtain ⟨version, services, profiles, deployment, extra⟩ := d
  obtain ⟨version', services', profiles', deployment', extra'⟩ := d'
  obtain ⟨hversion, hservices, hps, hdeployment, -⟩ := h
  refine ⟨hversion, hservices, hdeployment, ?_, ?_⟩
  · cases hps with
    | none => rfl
    | some h => exact congrArg (Option.getD · .empty) h.placement
  · cases hps with
    | none => exact List.Forall₂.nil
    | @some ps ps' h =>
      obtain ⟨compute, placement, extra⟩ := ps
      obtain ⟨compute', placement', extra'⟩ := ps'
      cases h.compute with
      | none => exact List.Forall₂.nil
      | some hc => exact hc.imp fun e e' he => ⟨he.1, he.2.shrinks (hq e.1)⟩

/-- What is said of an amount under **all keys with a name** is said of the profile that is found
under it. -/
theorem LooksInto.reaches (hkeys : HasDistinctKeys data) {n : String} {a : Amount}
    (h : LooksInto data n a) : Reaches data n a := by
  rintro l es ps rfl hps l' es' c rfl hc t g ht hg
  have hsection : InSection (fun k v => IsDistinct v ∧
      (IsKeyOf n k → AtField "resources" (IsPlain · a) v)) c := by
    rintro l'' es'' rfl e he
    exact ⟨(((hkeys.of_get? hps).of_get? hc).of_mem he).isDistinct,
      h l es _ rfl hps l' es' _ rfl hc l'' es'' rfl e he⟩
  -- the section is related to itself, by what is said of its entries
  have hcarries : Carries (InEntries fun k v w => w = v ∧ IsDistinct v ∧
      (IsKeyOf n k → AtField "resources" (IsPlain · a) v)) (readSection readGiven)
      (Option.Rel (Table.Related fun m g _ => m = n → AtField "resources" (IsPlain · a) g.1)) := by
    have hkeys : RespectsKeys fun k v w => w = v ∧
        (Scalar.text k = .ok n → AtField "resources" (IsPlain · a) v) := by
      rintro k k' v _ hk ⟨rfl, hv⟩
      exact ⟨rfl, fun hn => hv (text_of_eqv hk hn)⟩
    refine Carries.section hkeys ?_ ?_
    · rintro k t hk v _ u ⟨rfl, hdistinct, hv⟩ hu
      exact ⟨u, hu, rfl, fun hn => (hv ⟨t, hk, hn⟩).normalize (by decide) hdistinct hu⟩
    · rintro k m hk v _ b ⟨rfl, hv⟩ hb
      refine ⟨b, hb, ?_⟩
      rintro rfl
      obtain ⟨r, -, rfl⟩ := Checked.map_eq_ok_iff.mp hb
      exact hv hk
  obtain ⟨o, -, hrel⟩ := hcarries c c _ hsection.inEntries ht
  cases hrel with
  | some hrel =>
    obtain ⟨-, -, hplain⟩ := hrel.exists_get? hg
    exact hplain rfl

end StackManifest.RightSizing
