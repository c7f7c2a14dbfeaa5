import StackManifest.Proofs.Reading.Superseded

/-!
# Entries that are left empty

An entry of a document may be left empty, as a service is of which nothing has been said yet. Such
an entry should count as an **empty mapping**, so that the checks can report what it lacks, and it
should not keep the document from being read. There are eight sorts of named entries
(`StackManifest.NamedPlace`), and nothing is read like an empty mapping in all of them but one: a
**price** that is nothing is no price, and a document with such a price is not read
(`StackManifest.Document.parse_eq_ok_iff_filled`). Nothing else can make a difference, and neither can
a price that is superseded by one under an equal name, or stands in a placement profile that is.

* `StackManifest.Value.inEntry` – a mapping with the value of **one entry** changed, by its
  position;
* `StackManifest.Entries.ChangesOne` – when entries are put together of which one is changed, one
  entry is changed at the end, or none is if that one is superseded;
* `StackManifest.ReadsAlike.inEntry` – a section is read like the section with one entry changed;
* `StackManifest.NamedPlace.change`, `StackManifest.NamedPlace.fill` – data with the value at a
  place changed, or with an empty mapping there instead of nothing.
-/

namespace StackManifest

variable {α β : Type}

/-! ### One entry of a mapping -/

/-- Entries with the value of the one at a **position** changed. -/
def Entries.inEntry (i : Nat) (q : Value → Value) (es : Entries) : Entries :=
  es.modify i fun e => (e.1, q e.2)

/-- A mapping with the value of the entry at a **position** changed. -/
def Value.inEntry (i : Nat) (q : Value → Value) : Value → Value
  | .map l es => .map l (Entries.inEntry i q es)
  | v => v

namespace Entries

variable {i n : Nat} {q : Value → Value} {es : Entries} {k v : Value}

@[simp] theorem inEntry_nil (i : Nat) (q : Value → Value) : inEntry i q [] = [] := by
  cases i <;> rfl

@[simp] theorem inEntry_zero_cons (q : Value → Value) (e : Value × Value) (es : Entries) :
    inEntry 0 q (e :: es) = (e.1, q e.2) :: es := rfl

@[simp] theorem inEntry_succ_cons (i : Nat) (q : Value → Value) (e : Value × Value)
    (es : Entries) : inEntry (i + 1) q (e :: es) = e :: inEntry i q es := rfl

theorem inEntry_id (i : Nat) (es : Entries) : inEntry i id es = es := List.modify_id ..

theorem forall_inEntry_iff {P : Value × Value → Prop} (h : ∀ k w, P (k, q w) ↔ P (k, w)) :
    (∀ e ∈ inEntry i q es, P e) ↔ ∀ e ∈ es, P e := by
  induction es generalizing i with
  | nil => rw [inEntry_nil]
  | cons e es ih =>
    cases i with
    | zero => rw [inEntry_zero_cons, List.forall_mem_cons, List.forall_mem_cons, h]
    | succ i => rw [inEntry_succ_cons, List.forall_mem_cons, List.forall_mem_cons, ih]

theorem quotedKeys_inEntry (i : Nat) (q : Value → Value) (es : Entries) :
    quotedKeys (inEntry i q es) = inEntry i q (quotedKeys es) := by
  induction es generalizing i with
  | nil => simp [quotedKeys]
  | cons e es ih =>
    cases i with
    | zero => rfl
    | succ i => exact congrArg _ (ih i)

/-- Entries that depend on what becomes of one value: **one entry is changed**, the same one
whatever becomes of it, or none is. -/
def ChangesOne (F : (Value → Value) → Entries) : Prop :=
  ∃ G, (∀ q, F q = G) ∨ ∃ n, ∀ q, F q = inEntry n q G

/-- Another entry that is **put among them** takes the place of the one that is changed, or leaves
it as it is. -/
theorem put_inEntry (G : Entries) (n : Nat) (k v : Value) :
    (∀ q, (inEntry n q G).put k v = G.put k v) ∨
      ∀ q, (inEntry n q G).put k v = inEntry n q (G.put k v) := by
  induction G generalizing n with
  | nil => exact .inl fun q => by rw [inEntry_nil]
  | cons e G ih =>
    by_cases he : e.1.eqv k = true
    · cases n with
      | zero => exact .inl fun q => by simp [Entries.put, he]
      | succ n => exact .inr fun q => by simp [Entries.put, he]
    · cases n with
      | zero => exact .inr fun q => by simp [Entries.put, he]
      | succ n =>
        rcases ih n with h | h
        · exact .inl fun q => by simp [Entries.put, he, h q]
        · exact .inr fun q => by simp [Entries.put, he, h q]

theorem ChangesOne.put {F : (Value → Value) → Entries} (h : ChangesOne F) (k v : Value) :
    ChangesOne fun q => (F q).put k v := by
  obtain ⟨G, h | ⟨n, h⟩⟩ := h
  · exact ⟨G.put k v, .inl fun q => congrArg (Entries.put · k v) (h q)⟩
  · have hF : ∀ q, (F q).put k v = (inEntry n q G).put k v := fun q =>
      congrArg (Entries.put · k v) (h q)
    refine ⟨G.put k v, ?_⟩
    rcases put_inEntry G n k v with hput | hput
    · exact .inl fun q => (hF q).trans (hput q)
    · exact .inr ⟨n, fun q => (hF q).trans (hput q)⟩

/-- The changed value itself, **put among other entries**. -/
theorem changesOne_put (G : Entries) (k v : Value) : ChangesOne fun q => G.put k (q v) := by
  have hput : ∃ n, ∀ q : Value → Value, G.put k (q v) = inEntry n q (G.put k v) := by
    induction G with
    | nil => exact ⟨0, fun q => rfl⟩
    | cons e G ih =>
      by_cases he : e.1.eqv k = true
      · exact ⟨0, fun q => by simp [Entries.put, he]⟩
      · obtain ⟨n, h⟩ := ih
        exact ⟨n + 1, fun q => by simp [Entries.put, he, h q]⟩
  exact ⟨_, .inr hput⟩

/-- **Entries that are put together**, of which one is changed. -/
theorem changesOne_ofList (i : Nat) (es : Entries) :
    ChangesOne fun q => ofList (inEntry i q es) := by
  -- once the changed entry has been put, the others follow it one by one
  have hrest : ∀ (es : Entries) (F : (Value → Value) → Entries), ChangesOne F →
      ChangesOne fun q => es.foldl (fun es e => es.put e.1 e.2) (F q) := by
    intro es
    induction es with
    | nil => exact fun F h => h
    | cons e es ih => exact fun F h => ih _ (h.put e.1 e.2)
  have hfold : ∀ (i : Nat) (acc : Entries),
      ChangesOne fun q => (inEntry i q es).foldl (fun es e => es.put e.1 e.2) acc := by
    induction es with
    | nil => exact fun i acc => ⟨acc, .inl fun q => by simp⟩
    | cons e es ih =>
      intro i acc
      cases i with
      | zero => exact hrest es _ (changesOne_put acc e.1 e.2)
      | succ i => exact ih i (acc.put e.1 e.2)
  exact hfold i []

/-- **A changed entry is superseded, or it stands somewhere** in what is put together. -/
theorem ofList_inEntry (i : Nat) (es : Entries) :
    (∀ q, ofList (inEntry i q es) = ofList es) ∨
      ∃ n, ∀ q, ofList (inEntry i q es) = inEntry n q (ofList es) := by
  have hid : ofList (inEntry i id es) = ofList es := by rw [inEntry_id]
  obtain ⟨G, h | ⟨n, h⟩⟩ := changesOne_ofList i es
  · exact .inl fun q => (h q).trans ((h id).symm.trans hid)
  · have hG : G = ofList es := (inEntry_id n G).symm.trans ((h id).symm.trans hid)
    exact .inr ⟨n, fun q => (h q).trans (congrArg _ hG)⟩

end Entries

/-- Values that are related one by one stay so if one of them is **changed within the relation**. -/
theorem forall₂_modify_iff {γ : Type} {R : β → γ → Prop} {f : β → β} {l : List β} {xs : List γ}
    (h : ∀ b ∈ l, ∀ x, R (f b) x ↔ R b x) (n : Nat) :
    List.Forall₂ R (l.modify n f) xs ↔ List.Forall₂ R l xs := by
  induction l generalizing n xs with
  | nil => rw [List.modify_nil]
  | cons b l ih =>
    obtain ⟨hb, hl⟩ := List.forall_mem_cons.mp h
    cases n with
    | zero =>
      rw [List.modify_zero_cons]
      simp only [List.forall₂_cons_left_iff, hb]
    | succ n =>
      rw [List.modify_succ_cons]
      simp only [List.forall₂_cons_left_iff, ih hl]

/-! ### Sections with one entry changed -/

section Sections

variable {values : Value → Checked Value} {read : Value → Checked α} {q : Value → Value}
  {v : Value} {t : Table α} {f : Value → Checked (Table α)} {W : Value → Prop} {i : Nat}

theorem Value.entries_inEntry (v : Value) :
    (v.inEntry i q).entries = Entries.inEntry i q v.entries := by
  cases v with
  | map l es => rfl
  | _ => exact (Entries.inEntry_nil i q).symm

theorem inEntry_eq_null_iff (v : Value) : v.inEntry i q = .null ↔ v = .null := by
  cases v <;> simp [Value.inEntry]

/-- **A table is read of the values that are kept**, and all values can be changed. -/
theorem readsTable_iff_entries : ReadsTable values read v t ↔
    (∀ e ∈ v.entries, ∃ u, values e.2 = .ok u) ∧
    ∃ xs, List.Forall₂ (fun s x => Scalar.text s.1 = .ok x.1 ∧ Becomes values read s.2 x.2)
      (Entries.ofList (Entries.quotedKeys v.entries)) xs ∧ Table.ofList xs = t := by
  have hperm := v.superseded_append_kept_perm
  rw [readsTable_iff_kept]
  constructor
  · rintro ⟨hlost, xs, hxs, rfl⟩
    refine ⟨fun e he => ?_, xs, hxs, rfl⟩
    rcases List.mem_append.mp (hperm.symm.subset (List.mem_map_of_mem he)) with hmem | hmem
    · exact hlost _ hmem
    · obtain ⟨s, hs, hvalue⟩ := List.mem_map.mp hmem
      obtain ⟨x, -, -, hx⟩ := exists_of_mem_forall₂ hxs.flip hs
      obtain ⟨u, hu, -⟩ := Checked.bind_eq_ok_iff.mp hx
      exact ⟨u, hvalue ▸ hu⟩
  · rintro ⟨hall, hkept⟩
    refine ⟨fun w hw => ?_, hkept⟩
    obtain ⟨e, he, rfl⟩ := List.mem_map.mp (hperm.subset (List.mem_append_left _ hw))
    exact hall e he

/-- **A table is read of a section with one entry changed** if its values are read like the changed
ones, on the condition that this is so of the values that are kept. -/
theorem readsTable_iff_inEntry (h : ReadsAlike (fun v => (values v).bind read) q W)
    (hvalues : ∀ w, (∃ u, values (q w) = .ok u) ↔ ∃ u, values w = .ok u) :
    ReadsTable values read v t ↔
      ReadsTable values read (v.inEntry i q) t ∧ ∀ w ∈ v.kept, W w := by
  have hall : (∀ e ∈ (v.inEntry i q).entries, ∃ u, values e.2 = .ok u) ↔
      ∀ e ∈ v.entries, ∃ u, values e.2 = .ok u := by
    rw [Value.entries_inEntry]
    exact Entries.forall_inEntry_iff fun _ w => hvalues w
  -- the changed entry is among those that are kept, or it is superseded
  have hkept : (∀ w ∈ v.kept, W w) → ∀ xs : List (String × α),
      List.Forall₂ (fun s x => Scalar.text s.1 = .ok x.1 ∧ Becomes values read s.2 x.2)
        (Entries.ofList (Entries.quotedKeys (v.inEntry i q).entries)) xs ↔
      List.Forall₂ (fun s x => Scalar.text s.1 = .ok x.1 ∧ Becomes values read s.2 x.2)
        (Entries.ofList (Entries.quotedKeys v.entries)) xs := by
    intro hW xs
    rw [Value.kept, List.forall_mem_map] at hW
    rw [Value.entries_inEntry, Entries.quotedKeys_inEntry]
    rcases Entries.ofList_inEntry i (Entries.quotedKeys v.entries) with hsame | ⟨n, hchanged⟩
    · rw [hsame]
    · rw [hchanged]
      refine forall₂_modify_iff ?_ n
      intro s hs x
      exact and_congr_right fun _ => (and_iff_left (hW s hs)).symm.trans (h s.2 x.2).symm
  rw [readsTable_iff_entries, readsTable_iff_entries, hall]
  constructor
  · rintro ⟨hentries, xs, hxs, rfl⟩
    have hW : ∀ w ∈ v.kept, W w := by
      rw [Value.kept, List.forall_mem_map]
      intro s hs
      obtain ⟨x, -, -, hx⟩ := exists_of_mem_forall₂ hxs.flip hs
      exact ((h s.2 x.2).mp hx).2
    exact ⟨⟨hentries, xs, (hkept hW xs).mpr hxs, rfl⟩, hW⟩
  · rintro ⟨⟨hentries, xs, hxs, rfl⟩, hW⟩
    exact ⟨hentries, xs, (hkept hW xs).mp hxs, rfl⟩

/-- **A section is read like the section with one entry changed**, on this condition. -/
theorem ReadsAlike.inEntry (hf : ∀ v, f v = sectionOf values read v)
    (h : ReadsAlike (fun v => (values v).bind read) q W)
    (hvalues : ∀ w, (∃ u, values (q w) = .ok u) ↔ ∃ u, values w = .ok u) (i : Nat) :
    ReadsAlike f (Value.inEntry i q) fun v => ∀ w ∈ v.kept, W w := by
  intro v t
  rw [hf, hf]
  cases v with
  | null => exact (and_iff_left (List.forall_mem_nil _)).symm
  | map l es =>
    rw [Value.inEntry, sectionOf, sectionOf, renameKeys_bind_tableOf_eq_ok_iff,
      renameKeys_bind_tableOf_eq_ok_iff]
    exact readsTable_iff_inEntry h hvalues
  | _ =>
    refine iff_of_false (fun h => ?_) fun h => ?_
    · cases h
    · cases h.1

end Sections

/-! ### Nothing, and an empty mapping -/

/-- An **empty mapping** in the place of nothing. -/
def Value.filled (l : Label) : Value → Value
  | .null => .map l []
  | v => v

section Filled

variable {l : Label} {v : Value} {read : Value → Checked α} {q : Value → Value} {depth i : Nat}
  {changes : List (String × (Value → Value))}

/-- Nothing is a part like an empty mapping **when its keys have become texts**. -/
theorem normalize_filled_bind_part {read : Entries → Checked α} (v : Value) :
    (normalize 0 (v.filled l)).bind (part read) = (normalize 0 v).bind (part read) := by
  cases v <;> rfl

theorem normalize_filled_bind_tableOf (v : Value) :
    (normalize depth (v.filled l)).bind (tableOf read) =
      (normalize depth v).bind (tableOf read) := by
  cases v <;> cases depth <;> rfl

theorem readAttributes_filled (v : Value) :
    readAttributes (v.filled l) = readAttributes v := by
  cases v <;> rfl

/-- **Under any other name** stands what stood there. -/
theorem Value.under_inFields_of_forall_ne {name : String} {es : Entries}
    (h : ∀ c ∈ changes, c.1 ≠ name) :
    (Value.map l (Entries.inFields changes es)).under name = (Value.map l es).under name := by
  rw [under_map, under_map, get?_inFields, changeAt_of_forall_ne h, Option.map_id, id]

theorem hasWritableKeys_filled : (v.filled l).HasWritableKeys depth ↔ v.HasWritableKeys depth := by
  cases v with
  | null => cases depth <;> simp [Value.filled, Value.HasWritableKeys]
  | _ => rfl

theorem hasWritableKeys_inFields :
    (v.inFields changes).HasWritableKeys 0 ↔ v.HasWritableKeys 0 := by
  cases v with
  | map l es =>
    rw [Value.inFields, Entries.inFields, Value.HasWritableKeys, Value.HasWritableKeys,
      List.forall_mem_map]
  | _ => rfl

theorem hasWritableKeys_inEntry
    (h : ∀ w, (q w).HasWritableKeys depth ↔ w.HasWritableKeys depth) :
    (v.inEntry i q).HasWritableKeys (depth + 1) ↔ v.HasWritableKeys (depth + 1) := by
  cases v with
  | map l es =>
    exact Entries.forall_inEntry_iff (P := fun e => e.1.isWritableKey = true ∧
      Value.HasWritableKeys depth e.2) fun k w => and_congr_right fun _ => h w
  | _ => rfl

end Filled

/-! ### Places -/

/-- The **named entries** of a document, by their positions in the mappings where they stand. -/
inductive NamedPlace where
  | service (i : Nat)
  | computeProfile (i : Nat)
  | placementProfile (i : Nat)
  /-- The attributes of a placement profile. -/
  | attributes (i : Nat)
  /-- The prices of a placement profile. -/
  | pricing (i : Nat)
  /-- One of the prices of a placement profile. -/
  | price (i j : Nat)
  /-- The placements of a service in the deployment. -/
  | placements (i : Nat)
  | deploymentEntry (i j : Nat)
  deriving DecidableEq

namespace NamedPlace

/-- Whether a place is that of a **price**. -/
def isPrice : NamedPlace → Bool
  | .price .. => true
  | _ => false

/-- The services with the value at a place changed, if it is one of them. -/
def inServices (q : Value → Value) : NamedPlace → Value → Value
  | .service i => Value.inEntry i q
  | _ => id

/-- The compute profiles with the value at a place changed, if it is one of them. -/
def inCompute (q : Value → Value) : NamedPlace → Value → Value
  | .computeProfile i => Value.inEntry i q
  | _ => id

/-- The placement profiles with the value at a place changed, if it is in them. -/
def inPlacement (q : Value → Value) : NamedPlace → Value → Value
  | .placementProfile i => Value.inEntry i q
  | .attributes i => Value.inEntry i (Value.inFields [("attributes", q)])
  | .pricing i => Value.inEntry i (Value.inFields [("pricing", q)])
  | .price i j => Value.inEntry i (Value.inFields [("pricing", Value.inEntry j q)])
  | _ => id

/-- The deployment with the value at a place changed, if it is in it. -/
def inDeployment (q : Value → Value) : NamedPlace → Value → Value
  | .placements i => Value.inEntry i q
  | .deploymentEntry i j => Value.inEntry i (Value.inEntry j q)
  | _ => id

/-- Data with the value at a place **changed**. -/
def change (q : Value → Value) (p : NamedPlace) : Value → Value :=
  Value.inFields [("services", p.inServices q),
    ("profiles", Value.inFields [("compute", p.inCompute q), ("placement", p.inPlacement q)]),
    ("deployment", p.inDeployment q)]

end NamedPlace

/-- Whether a price of a placement profile is **nothing**. -/
def Value.HasEmptyPrice (v : Value) : Prop := .null ∈ (v.under "pricing").kept

/-- Placement profiles of which none has a price that is **nothing**. Those that are superseded do
not count, and neither do prices that are. -/
def Value.HasPrices (v : Value) : Prop := ∀ w ∈ v.kept, ¬(w.quotedSection id).HasEmptyPrice

section Parts

variable {l : Label} {p : NamedPlace}

theorem ReadsAlike.congr {read : Value → Checked α} {q : Value → Value} {W W' : Value → Prop}
    (h : ReadsAlike read q W) (hW : ∀ v, W v ↔ W' v) : ReadsAlike read q W' :=
  fun v a => by rw [h v a, hW v]

/-- A **price** that is nothing is not read. -/
theorem Price.readsAlike_filled :
    ReadsAlike (fun v => (Checked.ok v).bind Price.read) (Value.filled l) (· ≠ .null) := by
  intro v a
  cases v with
  | null => exact iff_of_false nofun fun h => h.2 rfl
  | _ => exact (and_iff_left nofun).symm

/-- Attributes and prices that are nothing are **none at all**. -/
theorem PlacementProfile.read_filled (v : Value) :
    PlacementProfile.read (v.inFields [("attributes", Value.filled l)]) =
        PlacementProfile.read v ∧
      PlacementProfile.read (v.inFields [("pricing", Value.filled l)]) =
        PlacementProfile.read v := by
  constructor
  · refine part_inFields (fun es => ?_) v
    rw [Fields.read_inFields (by simpa using readAttributes_filled),
      Fields.read_inFields (by simp), Fields.read_inFields (by simp),
      Fields.extra_inFields (by simp)]
  · refine part_inFields (fun es => ?_) v
    rw [Fields.read_inFields (by simp), Fields.read_inFields (by simp),
      Fields.read_inFields (by simpa using normalize_filled_bind_tableOf),
      Fields.extra_inFields (by simp)]

/-- A **placement profile** is read as if a price were an empty mapping, unless it is nothing. -/
theorem PlacementProfile.readsAlike_filled (j : Nat) :
    ReadsAlike PlacementProfile.read
      (Value.inFields [("pricing", Value.inEntry j (Value.filled l))])
      fun v => ¬v.HasEmptyPrice := by
  have hpricing : ReadsAlike (fun v => (normalize 0 v).bind (tableOf Price.read))
      (Value.inEntry j (Value.filled l)) fun v => .null ∉ v.kept :=
    (ReadsAlike.inEntry readPrices_eq_sectionOf Price.readsAlike_filled
      (fun w => iff_of_true ⟨_, rfl⟩ ⟨_, rfl⟩) j).congr fun v => List.forall_mem_ne'
  intro v a
  cases v with
  | map l' es =>
    rw [Value.inFields, PlacementProfile.read_eq_ok_iff_under,
      PlacementProfile.read_eq_ok_iff_under, Fields.read_inFields (by simp),
      Fields.extra_inFields (by simp), Value.under_inFields_of_forall_ne (by simp),
      Value.under_inFields (by rfl) (by rfl), hpricing _ _]
    unfold Value.HasEmptyPrice
    tauto
  | _ =>
    refine iff_of_false (fun h => ?_) fun h => ?_
    · cases h
    · cases h.1

/-- What can become texts **before and after** nothing is replaced. -/
theorem exists_normalize_filled_iff {depth : Nat} (w : Value) :
    (∃ u, normalize depth (w.filled l) = .ok u) ↔ ∃ u, normalize depth w = .ok u := by
  rw [exists_normalize_iff, exists_normalize_iff, hasWritableKeys_filled]

theorem exists_normalize_inFields_iff {changes : List (String × (Value → Value))} (w : Value) :
    (∃ u, normalize 0 (w.inFields changes) = .ok u) ↔ ∃ u, normalize 0 w = .ok u := by
  rw [exists_normalize_iff, exists_normalize_iff, hasWritableKeys_inFields]

/-- **A section of parts**, each of which is nothing like an empty mapping. -/
theorem readsAlike_inEntry_filled {read : Entries → Checked α} (i : Nat) :
    ReadsAlike (readNamed 0 (part read)) (Value.inEntry i (Value.filled l)) fun _ => True :=
  (ReadsAlike.inEntry (readNamed_eq_sectionOf 0 (part read))
    (.of_eq normalize_filled_bind_part) exists_normalize_filled_iff i).congr fun _ =>
      iff_of_true (fun _ _ => trivial) trivial

namespace NamedPlace

theorem readsAlike_services :
    ReadsAlike (readNamed 0 Service.read) (p.inServices (Value.filled l)) fun _ => True := by
  cases p with
  | service i => exact readsAlike_inEntry_filled i
  | _ => exact .of_eq fun _ => rfl

theorem readsAlike_compute :
    ReadsAlike (readSection ComputeProfile.read) (p.inCompute (Value.filled l))
      fun _ => True := by
  cases p with
  | computeProfile i => exact (readsAlike_inEntry_filled i).optional inEntry_eq_null_iff trivial
  | _ => exact .of_eq fun _ => rfl

/-- **The placement profiles** are read as before, but for a price that is nothing. -/
theorem readsAlike_placement :
    ReadsAlike (readSection PlacementProfile.read) (p.inPlacement (Value.filled l))
      fun v => p.isPrice = true → v.HasPrices := by
  have hother : ∀ v : Value, True ↔ (false = true → v.HasPrices) := fun v => by simp
  have hfield : ∀ (name : String) (i : Nat), IsWord name →
      (∀ v : Value, PlacementProfile.read (v.inFields [(name, Value.filled l)]) =
        PlacementProfile.read v) →
      ReadsAlike (readSection PlacementProfile.read)
        (Value.inEntry i (Value.inFields [(name, Value.filled l)])) fun _ => True := by
    intro name i hname hread
    exact ((ReadsAlike.inEntry (readNamed_eq_sectionOf 0 PlacementProfile.read)
      (.of_eq (normalize_inFields_bind hread (by simpa using hname)))
      exists_normalize_inFields_iff i).congr fun _ =>
        iff_of_true (fun _ _ => trivial) trivial).optional inEntry_eq_null_iff trivial
  cases p with
  | placementProfile i =>
    exact ((readsAlike_inEntry_filled i).optional inEntry_eq_null_iff trivial).congr hother
  | attributes i =>
    exact (hfield "attributes" i (by decide) fun v =>
      (PlacementProfile.read_filled v).1).congr hother
  | pricing i =>
    exact (hfield "pricing" i (by decide) fun v => (PlacementProfile.read_filled v).2).congr hother
  | price i j =>
    -- two sections deep, and the only place where a condition comes in
    have hkeys : ∀ v u, normalize 0 v = .ok u →
        (¬u.HasEmptyPrice ↔ ¬(v.quotedSection id).HasEmptyPrice) := by
      intro v u hu
      rw [Value.HasEmptyPrice, Value.HasEmptyPrice, under_of_normalize_zero hu]
    have hpricing : IsWord "pricing" := by decide
    refine ((ReadsAlike.inEntry (readNamed_eq_sectionOf 0 PlacementProfile.read)
      ((PlacementProfile.readsAlike_filled j).normalized (by simpa using hpricing) hkeys)
      exists_normalize_inFields_iff i).optional inEntry_eq_null_iff
        (List.forall_mem_nil _)).congr fun v => ?_
    simp [isPrice, Value.HasPrices]
  | _ => exact (ReadsAlike.of_eq fun _ => rfl).congr hother

theorem readsAlike_deployment :
    ReadsAlike (readNamed 1 (tableOf DeploymentEntry.read)) (p.inDeployment (Value.filled l))
      fun _ => True := by
  have htrue : ∀ v : Value, (∀ w ∈ v.kept, True) ↔ True := fun _ =>
    iff_of_true (fun _ _ => trivial) trivial
  cases p with
  | placements i =>
    exact (ReadsAlike.inEntry (readNamed_eq_sectionOf 1 (tableOf DeploymentEntry.read))
      (.of_eq normalize_filled_bind_tableOf) exists_normalize_filled_iff i).congr htrue
  | deploymentEntry i j =>
    refine (ReadsAlike.inEntry (readNamed_eq_sectionOf 1 (tableOf DeploymentEntry.read))
      (readsAlike_inEntry_filled j) (fun w => ?_) i).congr htrue
    rw [exists_normalize_iff, exists_normalize_iff,
      hasWritableKeys_inEntry fun _ => hasWritableKeys_filled]
  | _ => exact .of_eq fun _ => rfl

end NamedPlace

/-- **The profiles** are read as before, but for a price that is nothing. -/
theorem Profiles.readsAlike_filled :
    ReadsAlike Profiles.read (Value.inFields [("compute", p.inCompute (Value.filled l)),
        ("placement", p.inPlacement (Value.filled l))])
      fun v => p.isPrice = true → (v.under "placement").HasPrices := by
  intro v ps
  cases v with
  | map l' es =>
    rw [Value.inFields, Profiles.read_eq_ok_iff_under, Profiles.read_eq_ok_iff_under,
      Fields.extra_inFields (by simp), Value.under_inFields (by rfl) (by cases p <;> rfl),
      Value.under_inFields (by rfl) (by cases p <;> rfl), p.readsAlike_compute _ _,
      p.readsAlike_placement _ _]
    tauto
  | _ =>
    refine iff_of_false (fun h => ?_) fun h => ?_
    · cases h
    · cases h.1

/-- **A document** is read as before, but for a price that is nothing. -/
theorem Document.readsAlike_filled :
    ReadsAlike Document.read (p.change (Value.filled l))
      fun v => p.isPrice = true → ((v.under "profiles").under "placement").HasPrices := by
  have hprofiles := (Profiles.readsAlike_filled (l := l) (p := p)).optional inFields_eq_null_iff
    fun _ => List.forall_mem_nil _
  intro v d
  cases v with
  | map l' es =>
    rw [NamedPlace.change, Value.inFields, Document.read_eq_ok_iff_under,
      Document.read_eq_ok_iff_under, Fields.extra_inFields (by simp),
      Value.under_inFields (by rfl) (by rfl), Value.under_inFields_of_forall_ne (by simp),
      Value.under_inFields (by rfl) (by cases p <;> rfl),
      Value.under_inFields (by rfl) (by cases p <;> rfl), hprofiles _ _,
      p.readsAlike_services _ _, p.readsAlike_deployment _ _]
    tauto
  | _ =>
    refine iff_of_false (fun h => ?_) fun h => ?_
    · cases h
    · cases h.1

end Parts

/-! ### Documents -/

theorem isMissing_inEntry {i : Nat} {q : Value → Value} (v : Value) :
    (v.inEntry i q).isMissing = v.isMissing := by
  cases v <;> rfl

namespace NamedPlace

/-- Data with an **empty mapping at a place** where there was nothing. -/
def fill (p : NamedPlace) (l : Label) : Value → Value := p.change (Value.filled l)

end NamedPlace

namespace Document

/-- **An entry left empty is like an empty mapping, unless it is a price.** Data is accepted exactly
when the data with an empty mapping in the place of nothing is, with the same document, and if the
place is that of a price, no placement profile has a price that is nothing. -/
theorem parse_eq_ok_iff_filled (p : NamedPlace) (l : Label) (data : Value) (d : Document) :
    parse (.data data) = .ok d ↔
      parse (.data (p.fill l data)) = .ok d ∧
        (p.isPrice = true → ((data.under "profiles").under "placement").HasPrices) := by
  refine parse_eq_ok_iff_inFields readsAlike_filled (fun name hname v => ?_) data d
  simp only [requiredFields, List.mem_cons, List.not_mem_nil, or_false] at hname
  obtain rfl | rfl | rfl := hname
  · rfl
  · cases p with
    | service i => exact isMissing_inEntry v
    | _ => rfl
  · cases p with
    | placements i => exact isMissing_inEntry v
    | deploymentEntry i j => exact isMissing_inEntry v
    | _ => rfl

/-- Data in which the **price** of a service is left empty. -/
def unpriced : Value :=
  .record
    [("version", .text defaultVersion),
      ("services", .record [("web", .record [("image", .text "nginx")])]),
      ("profiles", .record
        [("placement", .record [("west", .record [("pricing", .record [("web", .null)])])])]),
      ("deployment", .record [])]

/-- **A price left empty keeps the document from being read**, and an empty mapping does not. -/
theorem not_forall_parse_filled : ¬∀ p l data d, parse (.data data) = .ok d ↔
    parse (.data (NamedPlace.fill p l data)) = .ok d := by
  intro h
  have hfilled : (parse (.data (NamedPlace.fill (.price 0 0) 0 unpriced))).toOption.isSome =
      true := by decide +kernel
  have hrefused : (parse (.data unpriced)).toOption.isSome = false := by decide +kernel
  obtain ⟨d, hd⟩ := Option.isSome_iff_exists.mp hfilled
  rw [toOption_eq_some_iff, ← h, ← toOption_eq_some_iff] at hd
  rw [hd] at hrefused
  cases hrefused

end Document

end StackManifest
