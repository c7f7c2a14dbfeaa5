import StackManifest.Proofs.Reading.Entries
import StackManifest.Proofs.Reading.Quoting

/-!
# Superseded entries

When the keys of a section are quoted (`StackManifest.Value.quotedSection`), two of them can become
equal, the number `1` and the text `"1"` for instance. The value of the earlier entry is
**superseded** then (`StackManifest.Value.superseded`) and not there any more, and the other values
are **kept** (`StackManifest.Value.kept`). The same happens when the section is read. There is one
difference: a section is read only if the texts of all that is in it can be made, also of what is
superseded later. A whole number with too many digits has no text.

So a section is read like the quoted section, on the condition that the superseded values have texts
(`StackManifest.ReadsAlike.section`). A document is read like the quoted document on this
condition for each of its sections (`StackManifest.Value.HasWritableLosses`), and nothing else can
make a difference (`StackManifest.Document.parse_eq_ok_iff_quoted`).
-/

namespace StackManifest

variable {α : Type}

/-! ### Values that are displaced -/

namespace Entries

variable {acc es : Entries}

/-- The values that are **displaced** when entries are put among others, one after the other. -/
def displaced : Entries → Entries → List Value
  | _, [] => []
  | acc, e :: es =>
    ((acc.find? fun f => f.1.eqv e.1).map Prod.snd).toList ++ displaced (acc.put e.1 e.2) es

/-- Nothing but the displaced value is lost when **one entry** is put among others. -/
theorem perm_put (acc : Entries) (k v : Value) :
    (((acc.find? fun f => f.1.eqv k).map Prod.snd).toList ++ (acc.put k v).map Prod.snd).Perm
      (acc.map Prod.snd ++ [v]) := by
  induction acc with
  | nil => exact .refl _
  | cons e acc ih =>
    by_cases he : e.1.eqv k = true
    · rw [put, if_pos he, List.find?_cons_of_pos (by exact he)]
      exact ((List.perm_append_singleton v (acc.map Prod.snd)).symm).cons e.2
    · rw [put, if_neg he, List.find?_cons_of_neg (by exact he)]
      exact List.perm_middle.trans (ih.cons e.2)

/-- **Every value is kept or displaced.** -/
theorem perm_displaced (acc es : Entries) :
    (displaced acc es ++ (es.foldl (fun es e => es.put e.1 e.2) acc).map Prod.snd).Perm
      (acc.map Prod.snd ++ es.map Prod.snd) := by
  induction es generalizing acc with
  | nil => simp [displaced]
  | cons e es ih =>
    -- what the first entry displaces is accounted for by the one put, the others by induction
    rw [displaced, List.append_assoc, List.foldl_cons]
    refine ((ih (acc.put e.1 e.2)).append_left _).trans ?_
    rw [← List.append_assoc, List.map_cons, ← List.singleton_append, ← List.append_assoc]
    exact (perm_put acc e.1 e.2).append_right _

theorem IsDistinct.put (h : acc.IsDistinct) (k v : Value) : (acc.put k v).IsDistinct := by
  induction acc with
  | nil => exact List.pairwise_singleton _ _
  | cons e acc ih =>
    obtain ⟨he, hacc⟩ := List.pairwise_cons.mp h
    rw [Entries.put]
    split
    · exact List.pairwise_cons.mpr ⟨he, hacc⟩
    · rename_i hk
      refine List.pairwise_cons.mpr ⟨?_, ih hacc⟩
      exact forall_key_put (P := fun κ => e.1.eqv κ = false) he (Bool.eq_false_iff.mpr hk) v

/-- Entries that are put together **have distinct keys**. -/
theorem isDistinct_ofList (es : Entries) : (ofList es).IsDistinct := by
  have hfold : ∀ (es acc : Entries), acc.IsDistinct →
      (es.foldl (fun es e => es.put e.1 e.2) acc).IsDistinct := by
    intro es
    induction es with
    | nil => exact fun acc h => h
    | cons e es ih => exact fun acc h => ih _ (h.put e.1 e.2)
  exact hfold es [] .nil

/-- Entries with distinct keys **displace nothing**. -/
theorem displaced_of_isDistinct (h : (acc ++ es).IsDistinct) : displaced acc es = [] := by
  induction es generalizing acc with
  | nil => rfl
  | cons e es ih =>
    obtain ⟨-, -, hcross⟩ := List.pairwise_append.mp h
    -- no key before is equal, so the entry displaces nothing and goes to the end
    have hnot : ∀ f ∈ acc, f.1.eqv e.1 = false := fun f hf => hcross f hf e (List.mem_cons_self ..)
    have hnone : (acc.find? fun f => f.1.eqv e.1) = none := by
      simpa [List.find?_eq_none] using fun k v hf => hnot (k, v) hf
    rw [displaced, hnone, put_of_forall_not_eqv hnot, ih (by rwa [List.append_assoc])]
    rfl

/-- Keys that are quoted already **stay as they are**. -/
theorem quotedKeys_of_forall (h : ∀ e ∈ es, e.1.quotedKey = e.1) : quotedKeys es = es :=
  (List.map_congr_left fun e he => by rw [h e he]; rfl).trans (List.map_id _)

theorem quotedKey_of_mem_ofList {e : Value × Value} (h : e ∈ ofList (quotedKeys es)) :
    e.1.quotedKey = e.1 := by
  refine forall_key_foldl_put (P := fun k => k.quotedKey = k) (List.forall_mem_nil _) ?_ e h
  intro g hg
  obtain ⟨f, -, rfl⟩ := List.mem_map.mp hg
  exact quotedKey_quotedKey f.1

end Entries

/-! ### Values that are kept and values that are superseded -/

namespace Value

variable {q : Value → Value} {changes : List (String × (Value → Value))}

/-- The values of a section that are **superseded** when its keys are quoted: a later key is equal
then. -/
def superseded (v : Value) : List Value := Entries.displaced [] (Entries.quotedKeys v.entries)

/-- The values of a section that are **kept** when its keys are quoted. -/
def kept (v : Value) : List Value :=
  (Entries.ofList (Entries.quotedKeys v.entries)).map Prod.snd

/-- **Every value is superseded or kept.** -/
theorem superseded_append_kept_perm (v : Value) :
    (v.superseded ++ v.kept).Perm (v.entries.map Prod.snd) := by
  have hperm := Entries.perm_displaced [] (Entries.quotedKeys v.entries)
  rwa [List.map_nil, List.nil_append, Entries.quotedKeys, List.map_map] at hperm

theorem entries_quotedSection (v : Value) : (v.quotedSection q).entries =
    (Entries.ofList (Entries.quotedKeys v.entries)).map fun e => (e.1, q e.2) := by
  cases v <;> rfl

/-- **A quoted section is quoted already**: its keys stay as they are, and they are distinct. -/
theorem quotedKeys_quotedSection (v : Value) :
    Entries.quotedKeys (v.quotedSection q).entries = (v.quotedSection q).entries ∧
      Entries.IsDistinct (v.quotedSection q).entries := by
  rw [entries_quotedSection]
  constructor
  · refine Entries.quotedKeys_of_forall ?_
    intro e he
    obtain ⟨f, hf, rfl⟩ := List.mem_map.mp he
    exact Entries.quotedKey_of_mem_ofList (e := f) hf
  · exact List.pairwise_map.mpr (Entries.isDistinct_ofList _)

/-- In a quoted section **nothing is superseded**. -/
theorem superseded_quotedSection (v : Value) : (v.quotedSection q).superseded = [] := by
  obtain ⟨hkeys, hdistinct⟩ := quotedKeys_quotedSection (q := q) v
  rw [superseded, hkeys, Entries.displaced_of_isDistinct hdistinct]

/-- **Under a name** stands the changed value. -/
theorem under_inFields {name : String} {l : Label} {es : Entries}
    (hq : changes.lookup name = some q) (hnull : q .null = .null) :
    (Value.map l (Entries.inFields changes es)).under name = q ((Value.map l es).under name) := by
  rw [under_map, under_map, get?_inFields, changeAt, hq, Option.getD_some]
  cases Entries.get? es name with
  | none => exact hnull.symm
  | some c => rfl

/-- Whether a key **has a text**: only a whole number may be too long for it. -/
def isWritableKey : Value → Bool
  | .int n => (Value.int n).isWritable
  | _ => true

/-- A mapping whose **keys have texts**, and those of the mappings in it, down to a depth. -/
def HasWritableKeys : Nat → Value → Prop
  | 0, .map _ es => ∀ e ∈ es, e.1.isWritableKey = true
  | depth + 1, .map _ es => ∀ e ∈ es, e.1.isWritableKey = true ∧ HasWritableKeys depth e.2
  | _, _ => True

end Value

theorem exists_keyText_iff {k : Value} : (∃ t, keyText k = .ok t) ↔ k.isWritableKey = true := by
  cases k with
  | int n =>
    change (∃ t, Scalar.asText (.int n) = .ok t) ↔ _
    simp [Scalar.asText_int_eq_ok_iff, Value.toText_eq_ok_iff, Value.isWritableKey]
  | float x =>
    change (∃ t, Scalar.asText (.float x) = .ok t) ↔ _
    simp [Scalar.asText_float_eq_ok_iff, Value.toText_eq_ok_iff, Value.isWritableKey,
      Value.isWritable]
  | _ => exact iff_of_true ⟨_, rfl⟩ rfl

/-- The keys become texts if **all of them have texts** and the values can be changed. -/
theorem exists_renameKeys_iff {es : Entries} {values : Value → Checked Value} :
    (∃ fs, renameKeys es values = .ok fs) ↔
      ∀ e ∈ es, e.1.isWritableKey = true ∧ ∃ w, values e.2 = .ok w := by
  simp only [renameKeys_eq_ok_iff, ← exists_keyText_iff]
  constructor
  · rintro ⟨-, gs, hgs, -⟩ e he
    obtain ⟨g, -, hkey, hvalue⟩ := exists_of_mem_forall₂ hgs.flip he
    exact ⟨⟨g.1, hkey⟩, g.2, hvalue⟩
  · intro h
    obtain ⟨gs, hgs⟩ := exists_forall₂_of_forall_mem (R := BecomesEntry values) fun e he =>
      let ⟨⟨t, ht⟩, w, hw⟩ := h e he
      ⟨(t, w), ht, hw⟩
    exact ⟨_, gs, hgs, rfl⟩

/-- **Which mappings become mappings with texts as keys.** -/
theorem exists_normalize_iff {depth : Nat} {v : Value} :
    (∃ u, normalize depth v = .ok u) ↔ v.HasWritableKeys depth := by
  induction depth generalizing v with
  | zero =>
    cases v with
    | map l es =>
      simp [normalize, Checked.map_eq_ok_iff, exists_renameKeys_iff, Value.HasWritableKeys]
    | _ => simp [normalize, Value.HasWritableKeys]
  | succ depth ih =>
    cases v with
    | map l es =>
      simp [normalize, Checked.map_eq_ok_iff, exists_renameKeys_iff, Value.HasWritableKeys, ih]
    | _ => simp [normalize, Value.HasWritableKeys]

/-! ### Sections -/

section Sections

variable {values : Value → Checked Value} {read : Value → Checked α} {q : Value → Value}
  {v u : Value} {t : Table α} {f : Value → Checked (Table α)} {W : Value → Prop}

/-- If the keys that are left when they are quoted are names, **all keys have texts**. -/
theorem keyText_of_forall_text {es : Entries} {e : Value × Value}
    (h : ∀ s ∈ Entries.ofList (Entries.quotedKeys es), ∃ name, Scalar.text s.1 = .ok name)
    (he : e ∈ es) : keyText e.1 = .ok e.1.quotedKey := by
  have hmem : (e.1.quotedKey, e.2) ∈ Entries.quotedKeys es := List.mem_map.mpr ⟨e, he, rfl⟩
  obtain ⟨s, hs, heqv⟩ := Entries.exists_key_ofList hmem
  obtain ⟨name, hname⟩ := h s hs
  exact keyText_of_text_quotedKey (text_of_eqv heqv hname)

/-- **A table is read of the values that are kept.** Of those that are superseded it is only known
that they can be changed. -/
theorem readsTable_iff_kept : ReadsTable values read v t ↔
    (∀ w ∈ v.superseded, ∃ u, values w = .ok u) ∧
    ∃ xs, List.Forall₂ (fun s x => Scalar.text s.1 = .ok x.1 ∧ Becomes values read s.2 x.2)
      (Entries.ofList (Entries.quotedKeys v.entries)) xs ∧ Table.ofList xs = t := by
  -- what is put together is changed value by value, with quoted keys
  have hrelated : ∀ fs, List.Forall₂ (BecomesEntry values) v.entries fs →
      Entries.Related (fun _ c w => values c = .ok w)
        (Entries.ofList (Entries.quotedKeys v.entries)) (Entries.ofList fs) := by
    intro fs hfs
    refine Entries.Related.ofList (fun _ _ _ _ _ h => h) ?_
    rw [Entries.Related, Entries.quotedKeys, List.forall₂_map_left_iff]
    exact hfs.imp fun e f h => ⟨quotedKey_of_keyText h.1, h.2⟩
  constructor
  · rintro ⟨fs, xs, hfs, hxs, rfl⟩
    constructor
    · intro w hw
      obtain ⟨e, he, rfl⟩ := List.mem_map.mp
        ((v.superseded_append_kept_perm).subset (List.mem_append_left _ hw))
      obtain ⟨f, -, -, hf⟩ := exists_of_mem_forall₂ hfs.flip he
      exact ⟨f.2, hf⟩
    · refine ⟨xs, forall₂_of_common (fun f s x hs hx => ?_) (hrelated fs hfs).flip hxs, rfl⟩
      exact ⟨hs.1 ▸ hx.1, Checked.bind_eq_ok_iff.mpr ⟨f.2, hs.2, hx.2⟩⟩
  · rintro ⟨hlost, xs, hxs, rfl⟩
    have hentry : ∀ e ∈ v.entries, ∃ f, BecomesEntry values e f := by
      intro e he
      -- a value is superseded, or it is kept and has been read
      have hvalue : ∃ w, values e.2 = .ok w := by
        rcases List.mem_append.mp ((v.superseded_append_kept_perm).symm.subset
          (List.mem_map_of_mem he)) with hlost' | hkept
        · exact hlost _ hlost'
        · obtain ⟨s, hs, hvalue⟩ := List.mem_map.mp hkept
          obtain ⟨x, -, -, hx⟩ := exists_of_mem_forall₂ hxs.flip hs
          obtain ⟨w, hw, -⟩ := Checked.bind_eq_ok_iff.mp hx
          exact ⟨w, hvalue ▸ hw⟩
      obtain ⟨w, hw⟩ := hvalue
      refine ⟨(e.1.quotedKey, w), keyText_of_forall_text (fun s hs => ?_) he, hw⟩
      obtain ⟨x, -, hname, -⟩ := exists_of_mem_forall₂ hxs.flip hs
      exact ⟨x.1, hname⟩
    obtain ⟨fs, hfs⟩ := exists_forall₂_of_forall_mem hentry
    refine ⟨fs, xs, hfs, forall₂_of_common (fun s f x hf hx => ?_) (hrelated fs hfs) hxs, rfl⟩
    obtain ⟨w, hw, hread⟩ := Checked.bind_eq_ok_iff.mp hx.2
    obtain rfl := Checked.ok.inj (hf.2.symm.trans hw)
    exact ⟨hf.1 ▸ hx.1, hread⟩

/-- A reading that is **the same for other values**, on a condition on the values. -/
def ReadsAlike (read : Value → Checked α) (q : Value → Value) (W : Value → Prop) : Prop :=
  ∀ v a, read v = .ok a ↔ read (q v) = .ok a ∧ W v

theorem ReadsAlike.of_eq (h : ∀ v, read (q v) = read v) : ReadsAlike read q fun _ => True :=
  fun v a => by rw [h v, and_iff_left trivial]

/-- What **may be missing** is nothing after it if it was nothing before. -/
theorem ReadsAlike.optional (h : ReadsAlike read q W) (hnull : ∀ v, q v = .null ↔ v = .null)
    (hW : W .null) : ReadsAlike (Scalar.optional read) q W := by
  intro v o
  by_cases hv : v = .null
  · rw [hv, (hnull .null).mpr rfl, and_iff_left hW]
  · simp only [Scalar.optional_of_ne_null hv, Scalar.optional_of_ne_null (mt (hnull v).mp hv),
      Checked.map_eq_ok_iff, h v]
    constructor
    · rintro ⟨a, ⟨ha, hv⟩, rfl⟩
      exact ⟨⟨a, ha, rfl⟩, hv⟩
    · rintro ⟨⟨a, ha, rfl⟩, hv⟩
      exact ⟨a, ⟨ha, hv⟩, rfl⟩

/-- How **every section** is read: nothing, or a mapping whose keys become texts while its values
are changed. -/
def sectionOf (values : Value → Checked Value) (read : Value → Checked α) :
    Value → Checked (Table α)
  | .null => .ok .empty
  | .map l es => (renameKeys es values).bind fun fs => tableOf read (.map l fs)
  | v => tableOf read v

theorem readNamed_eq_sectionOf (depth : Nat) (read : Value → Checked α) (v : Value) :
    readNamed depth read v = sectionOf (normalize depth) read v := by
  cases v with
  | map l es =>
    rw [readNamed, sectionOf, normalize]
    cases renameKeys es (normalize depth) <;> rfl
  | _ => rfl

theorem readPrices_eq_sectionOf (v : Value) :
    (normalize 0 v).bind (tableOf Price.read) = sectionOf .ok Price.read v := by
  cases v with
  | map l es =>
    rw [sectionOf, normalize]
    cases renameKeys es .ok <;> rfl
  | _ => rfl

theorem readAttributes_eq_sectionOf (v : Value) :
    readAttributes v = sectionOf attributeText Scalar.text v := by
  cases v <;> rfl

/-- **A table is read of the quoted section** if its values are read like the changed ones, on the
condition that the superseded values can be changed as well. -/
theorem readsTable_iff_quoted (h : ReadsAlike (fun v => (values v).bind read) q W) :
    ReadsTable values read v t ↔ ReadsTable values read (v.quotedSection q) t ∧
      (∀ w ∈ v.superseded, ∃ u, values w = .ok u) ∧ ∀ w ∈ v.kept, W w := by
  -- of the quoted section, all values are kept, and the keys are those of the kept ones
  obtain ⟨hkeys, hdistinct⟩ := Value.quotedKeys_quotedSection (q := q) v
  rw [readsTable_iff_kept, readsTable_iff_kept, Value.superseded_quotedSection, hkeys,
    Entries.ofList_of_isDistinct hdistinct, Value.entries_quotedSection]
  simp only [List.forall₂_map_left_iff, Value.kept, List.forall_mem_map]
  constructor
  · rintro ⟨hlost, xs, hxs, rfl⟩
    refine ⟨⟨List.forall_mem_nil _, xs, ?_, rfl⟩, hlost, fun s hs => ?_⟩
    · exact hxs.imp fun s x hx => ⟨hx.1, ((h s.2 x.2).mp hx.2).1⟩
    · obtain ⟨x, -, -, hx⟩ := exists_of_mem_forall₂ hxs.flip hs
      exact ((h s.2 x.2).mp hx).2
  · rintro ⟨⟨-, xs, hxs, rfl⟩, hlost, hkept⟩
    refine ⟨hlost, xs, ?_, rfl⟩
    exact ((List.forall₂_and_left _ _).mpr ⟨hkept, hxs⟩).imp fun s x hx =>
      ⟨hx.2.1, (h s.2 x.2).mpr ⟨hx.2.2, hx.1⟩⟩

/-- **A section is read like the quoted section** on this condition. -/
theorem ReadsAlike.section {D : Value → Prop} (hf : ∀ v, f v = sectionOf values read v)
    (h : ReadsAlike (fun v => (values v).bind read) q W)
    (hD : ∀ w, (∃ u, values w = .ok u) ↔ D w) :
    ReadsAlike f (Value.quotedSection q)
      fun v => (∀ w ∈ v.superseded, D w) ∧ ∀ w ∈ v.kept, W w := by
  intro v t
  rw [hf, hf]
  cases v with
  | null => exact (and_iff_left ⟨List.forall_mem_nil _, List.forall_mem_nil _⟩).symm
  | map l es =>
    rw [sectionOf, renameKeys_bind_tableOf_eq_ok_iff, readsTable_iff_quoted h]
    simp only [hD]
    exact and_congr_left' renameKeys_bind_tableOf_eq_ok_iff.symm
  | _ =>
    -- what is no section is not read, and it is not quoted either
    refine iff_of_false (fun h => ?_) fun h => ?_
    · cases h
    · cases h.1

/-- The case of values that are **read the same** when they are changed. -/
theorem ReadsAlike.section_of_eq {D : Value → Prop} (hf : ∀ v, f v = sectionOf values read v)
    (h : ∀ v, (values (q v)).bind read = (values v).bind read)
    (hD : ∀ w, (∃ u, values w = .ok u) ↔ D w) :
    ReadsAlike f (Value.quotedSection q) fun v => ∀ w ∈ v.superseded, D w := by
  intro v t
  rw [ReadsAlike.section hf (ReadsAlike.of_eq h) hD v t]
  simp only [imp_true_iff, and_true]

end Sections

/-! ### Fields and keys of a part -/

section Fields

variable {read : Value → Checked α} {q : Value → Value} {W : Value → Prop} {v u : Value}
  {changes : List (String × (Value → Value))} {l : Label} {es : Entries}

/-- A mapping whose keys have become texts **has its keys quoted**. -/
theorem under_of_normalize_zero (h : normalize 0 v = .ok u) (name : String) :
    u.under name = (v.quotedSection id).under name := by
  cases v with
  | map l es =>
    obtain ⟨gs, hgs, rfl⟩ := Checked.map_eq_ok_iff.mp h
    obtain ⟨fs, hfs, rfl⟩ := renameKeys_eq_ok_iff.mp hgs
    have hquoted : Entries.quotedKeys es = fs := by
      rw [Entries.quotedKeys, ← List.forall₂_eq_eq_eq, List.forall₂_map_left_iff]
      exact hfs.imp fun e f hf => Prod.ext (quotedKey_of_keyText hf.1) (Checked.ok.inj hf.2)
    rw [Value.quotedSection, hquoted]
    simp
  | _ =>
    cases h
    rfl

/-- **A part whose own keys become texts first**: the condition is on the part with quoted keys. -/
theorem ReadsAlike.normalized (h : ReadsAlike read (Value.inFields changes) W)
    (hnames : ∀ c ∈ changes, IsWord c.1) {W' : Value → Prop}
    (hW : ∀ v u, normalize 0 v = .ok u → (W u ↔ W' v)) :
    ReadsAlike (fun v => (normalize 0 v).bind read) (Value.inFields changes) W' := by
  intro v a
  simp only [normalize_inFields hnames, Checked.bind_eq_ok_iff, Checked.map_eq_ok_iff]
  constructor
  · rintro ⟨u, hu, ha⟩
    obtain ⟨ha, hw⟩ := (h u a).mp ha
    exact ⟨⟨_, ⟨u, hu, rfl⟩, ha⟩, (hW v u hu).mp hw⟩
  · rintro ⟨⟨-, ⟨u, hu, rfl⟩, ha⟩, hw⟩
    exact ⟨u, hu, (h u a).mpr ⟨ha, (hW v u hu).mpr hw⟩⟩

/-- The case of a part that is **read the same** when its fields are changed. -/
theorem normalize_inFields_bind (h : ∀ v, read (v.inFields changes) = read v)
    (hnames : ∀ c ∈ changes, IsWord c.1) (v : Value) :
    (normalize 0 (v.inFields changes)).bind read = (normalize 0 v).bind read := by
  rw [normalize_inFields hnames]
  cases normalize 0 v with
  | bad ps => rfl
  | ok u => exact h u

end Fields

/-! ### Documents -/

section Documents

variable {l : Label} {es : Entries}

/-- The text of an attribute that is no truth value **is its text**. -/
theorem attributeText_eq_ok_iff {v u : Value} (h : ∀ b, v ≠ .bool b) :
    attributeText v = .ok u ↔ ∃ s, v.toText = .ok s ∧ .text s = u := by
  unfold attributeText
  split
  · exact absurd rfl (h _)
  · split
    · rename_i s hs
      simp [hs]
    · rename_i hs
      simp [hs, Checked.fail]

theorem attributeText_quoted (v : Value) : attributeText v.quoted = attributeText v := by
  rcases quoted_eq v with h | ⟨s, hs, h, -⟩
  · rw [h]
  · have hbool : ∀ b, v ≠ .bool b := by
      rintro b rfl
      cases h
    rw [h, (attributeText_eq_ok_iff hbool).mpr ⟨s, hs, rfl⟩]
    rfl

theorem exists_attributeText_iff {v : Value} :
    (∃ u, attributeText v = .ok u) ↔ v.isWritable = true := by
  by_cases hbool : ∀ b, v ≠ .bool b
  · simp [attributeText_eq_ok_iff hbool, Value.toText_eq_ok_iff]
  · obtain ⟨b, hb⟩ := not_forall.mp hbool
    obtain rfl := not_not.mp hb
    exact iff_of_true ⟨_, rfl⟩ rfl

/-- The **superseded attributes** of a placement profile have texts. -/
def Value.HasWritableAttributes (v : Value) : Prop :=
  ∀ w ∈ (v.under "attributes").superseded, w.isWritable = true

/-- Profiles in which whatever is **superseded when the keys are quoted** has the texts that are
made of it: those of the keys of a profile, and those of attributes. -/
@[mk_iff]
structure Value.HasWritableProfiles (v : Value) : Prop where
  compute : ∀ w ∈ (v.under "compute").superseded, w.HasWritableKeys 0
  placement : ∀ w ∈ (v.under "placement").superseded, w.HasWritableKeys 0
  attributes : ∀ w ∈ (v.under "placement").kept, (w.quotedSection id).HasWritableAttributes

/-- Data in which whatever is **superseded when the keys are quoted** has the texts that are made of
it: those of the keys of a service or a profile, of a table of the deployment or an entry of it, and
those of attributes. -/
@[mk_iff]
structure Value.HasWritableLosses (data : Value) : Prop where
  services : ∀ w ∈ (data.under "services").superseded, w.HasWritableKeys 0
  profiles : (data.under "profiles").HasWritableProfiles
  deployment : ∀ w ∈ (data.under "deployment").superseded, w.HasWritableKeys 1
  places : ∀ w ∈ (data.under "deployment").kept, ∀ c ∈ w.superseded, c.HasWritableKeys 0

/-- A **placement profile** is read like the quoted one if its superseded attributes have texts. -/
theorem PlacementProfile.readsAlike :
    ReadsAlike PlacementProfile.read Value.quotedPlacement Value.HasWritableAttributes := by
  have hattributes : ReadsAlike readAttributes (Value.quotedSection Value.quoted)
      fun v => ∀ w ∈ v.superseded, w.isWritable = true :=
    ReadsAlike.section_of_eq readAttributes_eq_sectionOf
      (fun v => by rw [attributeText_quoted]) fun w => exists_attributeText_iff
  have hpricing : ReadsAlike (fun v => (normalize 0 v).bind (tableOf Price.read))
      (Value.quotedSection Value.quotedPrice) fun v => ∀ w ∈ v.superseded, True :=
    ReadsAlike.section_of_eq readPrices_eq_sectionOf Price.read_quoted
      fun w => iff_of_true ⟨w, rfl⟩ trivial
  intro v p
  cases v with
  | map l es =>
    rw [Value.quotedPlacement, Value.inFields, PlacementProfile.read_eq_ok_iff_under,
      PlacementProfile.read_eq_ok_iff_under, Fields.read_inFields (by simp),
      Fields.extra_inFields (by simp), Value.under_inFields (by rfl) (by rfl),
      Value.under_inFields (by rfl) (by rfl), hattributes _ _, hpricing _ _,
      Value.HasWritableAttributes]
    simp only [imp_true_iff, and_true]
    tauto
  | _ =>
    refine iff_of_false (fun h => ?_) fun h => ?_
    · cases h
    · cases h.1

/-- Nothing is superseded where **nothing is there**. -/
theorem hasWritableProfiles_null : Value.null.HasWritableProfiles :=
  ⟨List.forall_mem_nil _, List.forall_mem_nil _, List.forall_mem_nil _⟩

theorem Profiles.readsAlike :
    ReadsAlike Profiles.read Value.quotedProfiles Value.HasWritableProfiles := by
  have hcompute : ReadsAlike (readSection ComputeProfile.read)
      (Value.quotedSection Value.quotedProfile)
      fun v => ∀ w ∈ v.superseded, w.HasWritableKeys 0 :=
    (ReadsAlike.section_of_eq (readNamed_eq_sectionOf 0 ComputeProfile.read)
      (normalize_inFields_bind ComputeProfile.read_quoted (by decide))
      fun w => exists_normalize_iff).optional quotedSection_eq_null_iff (List.forall_mem_nil _)
  have hkeys : ∀ v u, normalize 0 v = .ok u →
      (u.HasWritableAttributes ↔ (v.quotedSection id).HasWritableAttributes) := by
    intro v u hu
    rw [Value.HasWritableAttributes, Value.HasWritableAttributes, under_of_normalize_zero hu]
  have hplacement : ReadsAlike (readSection PlacementProfile.read)
      (Value.quotedSection Value.quotedPlacement)
      fun v => (∀ w ∈ v.superseded, w.HasWritableKeys 0) ∧
        ∀ w ∈ v.kept, (w.quotedSection id).HasWritableAttributes :=
    (ReadsAlike.section (readNamed_eq_sectionOf 0 PlacementProfile.read)
      (PlacementProfile.readsAlike.normalized (by decide) hkeys)
      fun w => exists_normalize_iff).optional quotedSection_eq_null_iff
        ⟨List.forall_mem_nil _, List.forall_mem_nil _⟩
  intro v ps
  cases v with
  | map l es =>
    rw [Value.quotedProfiles, Value.inFields, Profiles.read_eq_ok_iff_under,
      Profiles.read_eq_ok_iff_under, Fields.extra_inFields (by simp),
      Value.under_inFields (by rfl) (by rfl), Value.under_inFields (by rfl) (by rfl),
      hcompute _ _, hplacement _ _, Value.hasWritableProfiles_iff]
    tauto
  | _ =>
    refine iff_of_false (fun h => ?_) fun h => ?_
    · cases h
    · cases h.1

/-- A **document** is read like the quoted one if whatever is superseded has texts. -/
theorem Document.readsAlike :
    ReadsAlike Document.read Value.quotedDocument Value.HasWritableLosses := by
  have hservices : ReadsAlike (readNamed 0 Service.read)
      (Value.quotedSection Value.quotedService)
      fun v => ∀ w ∈ v.superseded, w.HasWritableKeys 0 :=
    ReadsAlike.section_of_eq (readNamed_eq_sectionOf 0 Service.read)
      (normalize_inFields_bind Service.read_quoted (by decide)) fun w => exists_normalize_iff
  have hprofiles := Profiles.readsAlike.optional inFields_eq_null_iff hasWritableProfiles_null
  have hplaces : ReadsAlike (readNamed 0 DeploymentEntry.read)
      (Value.quotedSection Value.quotedEntry)
      fun v => ∀ w ∈ v.superseded, w.HasWritableKeys 0 :=
    ReadsAlike.section_of_eq (readNamed_eq_sectionOf 0 DeploymentEntry.read)
      (normalize_inFields_bind DeploymentEntry.read_quoted (by decide))
      fun w => exists_normalize_iff
  have hdeployment : ReadsAlike (readNamed 1 (tableOf DeploymentEntry.read))
      (Value.quotedSection (Value.quotedSection Value.quotedEntry))
      fun v => (∀ w ∈ v.superseded, w.HasWritableKeys 1) ∧
        ∀ w ∈ v.kept, ∀ c ∈ w.superseded, c.HasWritableKeys 0 :=
    ReadsAlike.section (readNamed_eq_sectionOf 1 (tableOf DeploymentEntry.read)) hplaces
      fun w => exists_normalize_iff
  intro v d
  cases v with
  | map l es =>
    rw [Value.quotedDocument, Value.inFields, Document.read_eq_ok_iff_under,
      Document.read_eq_ok_iff_under, Fields.extra_inFields (by simp),
      Value.under_inFields (by rfl) (by rfl), Value.under_inFields (by rfl) (by rfl),
      Value.under_inFields (by rfl) (by rfl), Value.under_inFields (by rfl) (by rfl),
      optional_named_quoted, hprofiles _ _, hservices _ _, hdeployment _ _,
      Value.hasWritableLosses_iff]
    tauto
  | _ =>
    refine iff_of_false (fun h => ?_) fun h => ?_
    · cases h
    · cases h.1

theorem isMissing_quoted (v : Value) : v.quoted.isMissing = v.isMissing := by
  rcases quoted_eq v with h | ⟨s, hs, h, -⟩
  · rw [h]
  · obtain ⟨-, htext⟩ := Value.toText_eq_ok_iff.mp hs
    rw [h, ← htext]
    cases v with
    | int n => simpa [Value.isMissing, Value.plain, Value.shown] using intText_ne_empty n
    | float x => simpa [Value.isMissing, Value.plain, Value.shown] using text_ne_empty x
    | text t => rfl
    | _ => cases h

theorem isMissing_quotedSection (q : Value → Value) (v : Value) :
    (v.quotedSection q).isMissing = v.isMissing := by
  cases v <;> rfl

/-- **The required fields** are missing where they were missing before. -/
theorem missingFields_inFields {changes : List (String × (Value → Value))}
    (h : ∀ name ∈ requiredFields, ∀ v, (changeAt changes (.text name) v).isMissing = v.isMissing) :
    missingFields (Entries.inFields changes es) = missingFields es := by
  refine List.filter_congr fun name hname => ?_
  rw [Entries.get, Entries.get, get?_inFields]
  cases Entries.get? es name with
  | none => rfl
  | some v => exact h name hname v

namespace Document

/-- Data is **accepted like the changed data** if it is read like it and lacks the same fields. -/
theorem parse_eq_ok_iff_inFields {changes : List (String × (Value → Value))} {W : Value → Prop}
    (h : ReadsAlike Document.read (Value.inFields changes) W)
    (hmissing : ∀ name ∈ requiredFields, ∀ v,
      (changeAt changes (.text name) v).isMissing = v.isMissing) (data : Value) (d : Document) :
    parse (.data data) = .ok d ↔ parse (.data (data.inFields changes)) = .ok d ∧ W data := by
  change ofData data = .ok d ↔ ofData (data.inFields changes) = .ok d ∧ _
  rw [ofData_eq_ok_iff, ofData_eq_ok_iff, h data d]
  constructor
  · rintro ⟨l, es, rfl, hlacks, hd, hW⟩
    exact ⟨⟨l, _, rfl, (missingFields_inFields hmissing).trans hlacks, hd⟩, hW⟩
  · rintro ⟨⟨l', fs', hfs', hlacks, hd⟩, hW⟩
    cases data with
    | map l es =>
      obtain ⟨rfl, rfl⟩ := Value.map.inj hfs'
      exact ⟨l, es, rfl, (missingFields_inFields hmissing).symm.trans hlacks, hd, hW⟩
    | _ => cases hfs'

/-- **Quoting changes a document only by what it supersedes.** Data is accepted exactly when the
quoted data is, with the same document, and whatever is superseded has the texts that are made of
it. -/
theorem parse_eq_ok_iff_quoted (data : Value) (d : Document) :
    parse (.data data) = .ok d ↔
      parse (.data data.quotedDocument) = .ok d ∧ data.HasWritableLosses := by
  -- no text of a number is empty, and a section that is empty stays so
  refine parse_eq_ok_iff_inFields Document.readsAlike (fun name hname v => ?_) data d
  simp only [requiredFields, List.mem_cons, List.not_mem_nil, or_false] at hname
  obtain rfl | rfl | rfl := hname
  · exact isMissing_quoted v
  · exact isMissing_quotedSection _ v
  · exact isMissing_quotedSection _ v

/-- Data in which the service under the number `1` is superseded by the one under the text `"1"`,
and has **a key that is too long** to have a text. -/
def superseding : Value :=
  .record
    [("version", .text defaultVersion),
      ("services", .map 0
        [(.int 1, .map 0 [(.int (Number.tenTo digitLimit), .null)]),
          (.text "1", .record [("image", .text "nginx")])]),
      ("deployment", .record [])]

/-- **Quoting can change a document**: the quoted data has nothing of the key that is too long. -/
theorem not_forall_parse_quoted : ¬∀ data d, parse (.data data) = .ok d ↔
    parse (.data data.quotedDocument) = .ok d := by
  intro h
  have hquoted : (parse (.data superseding.quotedDocument)).toOption.isSome = true := by
    decide +kernel
  have hrefused : (parse (.data superseding)).toOption.isSome = false := by decide +kernel
  obtain ⟨d, hd⟩ := Option.isSome_iff_exists.mp hquoted
  rw [toOption_eq_some_iff, ← h, ← toOption_eq_some_iff] at hd
  rw [hd] at hrefused
  cases hrefused

end Document

end Documents

end StackManifest
