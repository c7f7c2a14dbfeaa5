import StackManifest.Proofs.Quantity.Numbers
import StackManifest.Proofs.Reading.Parts

/-!
# Numbers in quotes

Where a document has a name or an amount, a number may stand for its text, and where a section has a
name as a key, a number or a truth value may. To **quote** them is to put the texts there
(`StackManifest.Value.quotedDocument`). What is read does not change by this, part by part: the
reading of a part takes the text of a number itself (`StackManifest.Service.read_quoted`,
`StackManifest.ComputeProfile.read_quoted`, `StackManifest.DeploymentEntry.read_quoted`).

Every part is changed in some of its fields (`StackManifest.Value.inFields`), and the reading of the
part goes through its fields. Making texts of the keys of the part itself comes before its reading,
and it does not matter whether the fields are changed before it or after it
(`StackManifest.normalize_inFields`).

What quoting does to a whole section is the subject of
`StackManifest.Proofs.Reading.Superseded`.
-/

namespace StackManifest

variable {α : Type} {v w : Value}

namespace Value

/-! ### What is quoted -/

/-- A number as its **text**, if it can be written; any other value as it is. -/
def quoted (v : Value) : Value :=
  match v with
  | .int _ | .float _ =>
    match v.toText with
    | .ok s => .text s
    | .error _ => v
  | v => v

/-- A **key** as its text: a number, if it can be written, or a truth value by its word. -/
def quotedKey : Value → Value
  | .bool b => .text (if b then "true" else "false")
  | k => k.quoted

end Value

/-- What is done to the value under a key, where values under some **names** are changed. -/
def changeAt (changes : List (String × (Value → Value))) (k : Value) : Value → Value :=
  match k with
  | .text s => (changes.lookup s).getD id
  | _ => id

/-- Entries with the values under some **names** changed. -/
def Entries.inFields (changes : List (String × (Value → Value))) (es : Entries) : Entries :=
  es.map fun e => (e.1, changeAt changes e.1 e.2)

/-- Entries with their **keys quoted**, also if keys are the same then. -/
def Entries.quotedKeys (es : Entries) : Entries := es.map fun e => (e.1.quotedKey, e.2)

namespace Value

/-- A mapping with the values under some **names** changed. -/
def inFields (changes : List (String × (Value → Value))) : Value → Value
  | .map l es => .map l (Entries.inFields changes es)
  | v => v

/-- A list, or what is read like one, with all its **elements** changed. -/
def inElements (q : Value → Value) : Value → Value
  | .list l xs => .list l (xs.map q)
  | .tuple xs => .tuple (xs.map q)
  | .set l xs => .set l (xs.map q)
  | v => v

/-- Storage with all its **volumes** changed: a mapping is a single volume. -/
def inVolumes (q : Value → Value) : Value → Value
  | .map l es => q (.map l es)
  | v => v.inElements q

/-- A section with its **keys quoted** and its values changed. Of values with equal keys the last
one is kept, in the place of the first one. -/
def quotedSection (q : Value → Value) : Value → Value
  | .map l es => .map l ((Entries.ofList (Entries.quotedKeys es)).map fun e => (e.1, q e.2))
  | v => v

/-- A target of an exposed port, quoted. -/
def quotedTarget : Value → Value := inFields [("service", quoted)]

/-- An exposed port, quoted. -/
def quotedRule : Value → Value := inFields [("to", inElements quotedTarget)]

/-- A service, quoted. -/
def quotedService : Value → Value := inFields [("expose", inElements quotedRule)]

/-- A storage volume, quoted. -/
def quotedVolume : Value → Value := inFields [("name", quoted), ("size", quoted)]

/-- The resources of a profile, quoted. -/
def quotedResources : Value → Value :=
  inFields [("cpu", inFields [("units", quoted)]), ("memory", inFields [("size", quoted)]),
    ("storage", inVolumes quotedVolume)]

/-- A compute profile, quoted. -/
def quotedProfile : Value → Value := inFields [("resources", quotedResources)]

/-- A price, quoted. -/
def quotedPrice : Value → Value := inFields [("amount", quoted)]

/-- A placement profile, quoted. -/
def quotedPlacement : Value → Value :=
  inFields [("attributes", quotedSection quoted), ("pricing", quotedSection quotedPrice)]

/-- The profiles of a document, quoted. -/
def quotedProfiles : Value → Value :=
  inFields [("compute", quotedSection quotedProfile), ("placement", quotedSection quotedPlacement)]

/-- An entry of the deployment, quoted. -/
def quotedEntry : Value → Value := inFields [("profile", quoted)]

/-- A **document**, quoted: the version, the amounts, the names that refer to something, and the
names of sections, whether they were given as numbers or not, are texts. -/
def quotedDocument : Value → Value :=
  inFields [("version", quoted), ("services", quotedSection quotedService),
    ("profiles", quotedProfiles), ("deployment", quotedSection (quotedSection quotedEntry))]

end Value

/-! ### Numbers and keys -/

theorem toText_cases (v : Value) : (∃ s, v.toText = .ok s) ∨ ∃ e, v.toText = .error e := by
  cases v.toText with
  | ok s => exact .inl ⟨s, rfl⟩
  | error e => exact .inr ⟨e, rfl⟩

/-- A quoted number is a text, **or it is as it was**. -/
theorem quoted_eq (v : Value) :
    v.quoted = v ∨
      ∃ s, v.toText = .ok s ∧ v.quoted = .text s ∧ Scalar.asText v = .ok (.text s) := by
  cases v with
  | int n =>
    rcases toText_cases (.int n) with ⟨s, hs⟩ | ⟨e, he⟩
    · exact .inr ⟨s, hs, by simp only [Value.quoted, hs], by simp only [Scalar.asText, hs]⟩
    · exact .inl (by simp only [Value.quoted, he])
  | float x =>
    rcases toText_cases (.float x) with ⟨s, hs⟩ | ⟨e, he⟩
    · exact .inr ⟨s, hs, by simp only [Value.quoted, hs], by simp only [Scalar.asText, hs]⟩
    · exact .inl (by simp only [Value.quoted, he])
  | _ => exact .inl rfl

theorem asText_quoted (v : Value) : Scalar.asText v.quoted = Scalar.asText v := by
  rcases quoted_eq v with h | ⟨s, -, h, hs⟩
  · rw [h]
  · rw [h, hs]
    rfl

theorem quoted_of_asText (h : Scalar.asText v = .ok w) : v.quoted = w := by
  cases v with
  | int n =>
    obtain ⟨s, hs, rfl⟩ := Scalar.asText_int_eq_ok_iff.mp h
    simp only [Value.quoted, hs]
  | float x =>
    obtain ⟨s, hs, rfl⟩ := Scalar.asText_float_eq_ok_iff.mp h
    simp only [Value.quoted, hs]
  | _ => exact Checked.ok.inj h

theorem quoted_eq_null_iff (v : Value) : v.quoted = .null ↔ v = .null := by
  rcases quoted_eq v with h | ⟨s, -, h, hs⟩
  · rw [h]
  · rw [h]
    refine iff_of_false nofun ?_
    rintro rfl
    cases hs

/-- A key that is no truth value is **quoted like any other value**. -/
theorem keyText_of_ne_bool {k : Value} (h : ∀ b, k ≠ .bool b) :
    keyText k = Scalar.asText k ∧ k.quotedKey = k.quoted := by
  cases k with
  | bool b => exact absurd rfl (h b)
  | _ => exact ⟨rfl, rfl⟩

/-- A quoted key is **what the key is read as**. -/
theorem quotedKey_of_keyText {k t : Value} (h : keyText k = .ok t) : k.quotedKey = t := by
  by_cases hbool : ∀ b, k ≠ .bool b
  · obtain ⟨hkey, hquoted⟩ := keyText_of_ne_bool hbool
    rw [hquoted]
    exact quoted_of_asText (hkey ▸ h)
  · obtain ⟨b, hb⟩ := not_forall.mp hbool
    obtain rfl := not_not.mp hb
    exact Checked.ok.inj h

/-- A quoted key is **quoted already**. -/
theorem quotedKey_quotedKey (k : Value) : k.quotedKey.quotedKey = k.quotedKey := by
  by_cases hbool : ∀ b, k ≠ .bool b
  · rw [(keyText_of_ne_bool hbool).2]
    rcases quoted_eq k with h | ⟨s, -, h, -⟩
    · rw [h, (keyText_of_ne_bool hbool).2, h]
    · rw [h]
      rfl
  · obtain ⟨b, hb⟩ := not_forall.mp hbool
    obtain rfl := not_not.mp hb
    rfl

/-- A key that is a text when it is quoted **can be written**. -/
theorem keyText_of_text_quotedKey {k : Value} {name : String}
    (h : Scalar.text k.quotedKey = .ok name) : keyText k = .ok k.quotedKey := by
  cases k with
  | int | float =>
    rw [(keyText_of_ne_bool (by simp)).2] at h ⊢
    rcases quoted_eq _ with heq | ⟨s, -, heq, hs⟩
    · rw [heq] at h
      cases h
    · rw [heq]
      exact hs
  | _ => rfl

theorem Scalar.optional_of_ne_null {read : Value → Checked α} (h : v ≠ .null) :
    Scalar.optional read v = (read v).map some := by
  cases v with
  | null => exact absurd rfl h
  | _ => rfl

/-- What may be missing is read as before if it is read as before **when it is there**. -/
theorem Scalar.optional_congr {read : Value → Checked α} {q : Value → Value}
    (hnull : ∀ v, q v = .null ↔ v = .null) (h : ∀ v, read (q v) = read v) (v : Value) :
    Scalar.optional read (q v) = Scalar.optional read v := by
  by_cases hv : v = .null
  · rw [hv, (hnull .null).mpr rfl]
  · rw [optional_of_ne_null hv, optional_of_ne_null (mt (hnull v).mp hv), h]

/-- A **quoted number** is read as the number. -/
theorem optional_named_quoted (v : Value) :
    Scalar.optional Scalar.named v.quoted = Scalar.optional Scalar.named v :=
  Scalar.optional_congr quoted_eq_null_iff
    (fun v => by rw [Scalar.named, Scalar.named, asText_quoted]) v

/-! ### Changes in some fields -/

section Changes

variable {changes : List (String × (Value → Value))} {es : Entries} {names : List String}
  {default : α} {f : Value → Checked α} {k : Value}

@[simp] theorem changeAt_nil (k : Value) : changeAt [] k = id := by
  cases k <;> rfl

@[simp] theorem changeAt_cons (c : String × (Value → Value)) (s : String) :
    changeAt (c :: changes) (.text s) = if s = c.1 then c.2 else changeAt changes (.text s) := by
  rw [changeAt, changeAt, Table.lookup_cons]
  split <;> rfl

/-- The value under a key that is **no text** is not changed. -/
theorem changeAt_of_ne_text (h : ∀ s, k ≠ .text s) : changeAt changes k = id := by
  cases k with
  | text s => exact absurd rfl (h s)
  | _ => rfl

/-- The value under **any other name** is not changed. -/
theorem changeAt_of_forall_ne {s : String} (h : ∀ c ∈ changes, c.1 ≠ s) :
    changeAt changes (.text s) = id := by
  have hnone : changes.lookup s = none := by
    rw [List.lookup_eq_none_iff]
    exact fun c hc => bne_iff_ne.mpr (h c hc).symm
  rw [changeAt, hnone, Option.getD_none]

theorem inFields_eq_null_iff (v : Value) : v.inFields changes = .null ↔ v = .null := by
  cases v <;> simp [Value.inFields]

theorem quotedSection_eq_null_iff {q : Value → Value} (v : Value) :
    v.quotedSection q = .null ↔ v = .null := by
  cases v <;> simp [Value.quotedSection]

theorem get?_inFields (name : String) :
    Entries.get? (es.inFields changes) name =
      (Entries.get? es name).map (changeAt changes (.text name)) := by
  induction es with
  | nil => rfl
  | cons e es ih =>
    by_cases he : e.1 = .text name
    · rw [show e = (.text name, e.2) by rw [← he]]
      change Entries.get? ((.text name, _) :: Entries.inFields changes es) name = _
      rw [Entries.get?_cons_text, Entries.get?_cons_text, if_pos rfl, if_pos rfl]
      rfl
    · rw [Entries.get?_cons_of_ne he, ← ih]
      exact Entries.get?_cons_of_ne he

theorem find?_inFields (names : List String) :
    Fields.find? (es.inFields changes) names =
      (Fields.find? es names).map fun p => (p.1, changeAt changes (.text p.1) p.2) := by
  induction names with
  | nil => rfl
  | cons n names ih =>
    simp only [Fields.find?, List.findSome?_cons, get?_inFields] at ih ⊢
    cases Entries.get? es n with
    | none => exact ih
    | some c => rfl

/-- A field is **read as before** if its values are. -/
theorem Fields.read_inFields (h : ∀ n ∈ names, ∀ v, f (changeAt changes (.text n) v) = f v) :
    Fields.read (es.inFields changes) names default f = Fields.read es names default f := by
  rw [Fields.read, Fields.read, find?_inFields]
  cases hfind : Fields.find? es names with
  | none => rfl
  | some p =>
    obtain ⟨n, hn, hp⟩ := List.exists_of_findSome?_eq_some hfind
    obtain ⟨c, -, rfl⟩ := Option.map_eq_some_iff.mp hp
    simp only [Option.map_some, h n hn]

/-- **Entries that are not changed** are left by a filter of keys as before. -/
theorem filter_inFields {p : Value × Value → Bool} (hkey : ∀ k c c', p (k, c) = p (k, c'))
    (h : ∀ c ∈ changes, ∀ e ∈ es, e.1 = .text c.1 → p e = false) :
    (es.inFields changes).filter p = es.filter p := by
  rw [Entries.inFields, List.filter_map,
    show p ∘ (fun e : Value × Value => (e.1, changeAt changes e.1 e.2)) = p from
      funext fun e => hkey _ _ _]
  refine (List.map_congr_left fun e he => ?_).trans (List.map_id _)
  obtain ⟨hmem, hkept⟩ := List.mem_filter.mp he
  have hid : changeAt changes e.1 = id := by
    by_cases htext : ∃ s, e.1 = .text s
    · obtain ⟨s, hs⟩ := htext
      rw [hs]
      refine changeAt_of_forall_ne fun c hc => ?_
      rintro rfl
      rw [h c hc e hmem hs] at hkept
      cases hkept
    · exact changeAt_of_ne_text (not_exists.mp htext)
  rw [hid]
  rfl

/-- The **unknown fields** are as before if only known ones are changed. -/
theorem Fields.extra_inFields {known : List (List String)} (h : ∀ c ∈ changes, [c.1] ∈ known) :
    Fields.extra (es.inFields changes) known = Fields.extra es known := by
  have hused : (known.filterMap fun names => (find? (es.inFields changes) names).map Prod.fst) =
      known.filterMap fun names => (find? es names).map Prod.fst :=
    List.filterMap_congr fun names _ => by
      rw [find?_inFields]
      cases find? es names <;> rfl
  simp only [Fields.extra, hused]
  rw [filter_inFields fun k c c' => rfl]
  -- a field that is changed is a known one that is given
  rintro c hc ⟨k, d⟩ hd rfl
  obtain ⟨u, hu⟩ : ∃ u, Entries.get? es c.1 = some u := by
    rcases Entries.lacks_or_exists es c.1 with hlacks | ⟨before, u, after, rfl, hlacks⟩
    · exact absurd rfl (hlacks _ hd)
    · exact ⟨u, (Entries.differ_of_lacks (w := u) hlacks).get?.1⟩
  have hin : c.1 ∈ known.filterMap fun names => (find? es names).map Prod.fst :=
    List.mem_filterMap.mpr ⟨[c.1], h c hc, by simp [find?, hu]⟩
  simpa using hin

theorem part_inFields {read : Entries → Checked α} (h : ∀ es, read (es.inFields changes) = read es)
    (v : Value) : part read (v.inFields changes) = part read v := by
  cases v with
  | map l es => exact h es
  | _ => rfl

/-- A list of values is **read as before** if the values are. -/
theorem listOf_inElements {read : Value → Checked α} {q : Value → Value}
    (h : ∀ v, read (q v) = read v) (v : Value) : listOf read (v.inElements q) = listOf read v := by
  have hall : ∀ xs : List Value,
      ((List.range (xs.map q).length).zip (xs.map q)).map
          (fun p => (read p.2).inside (toString p.1)) =
        ((List.range xs.length).zip xs).map fun p => (read p.2).inside (toString p.1) := by
    intro xs
    rw [List.length_map, List.zip_map_right, List.map_map]
    exact List.map_congr_left fun p _ => by simp [h]
  cases v with
  | list l xs => exact congrArg Checked.all (hall xs)
  | tuple xs => exact congrArg Checked.all (hall xs)
  | set l xs => exact congrArg Checked.all (hall xs)
  | _ => rfl

theorem listOf_emptyIfNull_inElements {read : Value → Checked α} {q : Value → Value}
    (h : ∀ v, read (q v) = read v) (v : Value) :
    listOf read (emptyIfNull (v.inElements q)) = listOf read (emptyIfNull v) := by
  have hempty : emptyIfNull (v.inElements q) = (emptyIfNull v).inElements q := by cases v <;> rfl
  rw [hempty, listOf_inElements h]

/-! ### Changes before and after making texts of the keys -/

/-- Equal keys are changed **alike**. -/
theorem changeAt_of_eqv {k' : Value} (h : k.eqv k' = true) :
    changeAt changes k = changeAt changes k' := by
  by_cases hk : ∃ s, k = .text s
  · obtain ⟨s, rfl⟩ := hk
    rw [Value.text_eqv_iff.mp h]
  · have hk' : ∀ s, k' ≠ .text s := by
      rintro s rfl
      exact hk ⟨s, Value.eqv_text_iff.mp h⟩
    rw [changeAt_of_ne_text (not_exists.mp hk), changeAt_of_ne_text hk']

/-- A key and **what it is read as** are changed alike: no number and no truth value is read as the
name of a field. -/
theorem changeAt_of_keyText {t : Value} (hnames : ∀ c ∈ changes, IsWord c.1)
    (h : keyText k = .ok t) : changeAt changes k = changeAt changes t := by
  by_cases hk : ∃ s, k = .text s
  · obtain ⟨s, rfl⟩ := hk
    rw [Checked.ok.inj h]
  · rw [changeAt_of_ne_text (not_exists.mp hk)]
    by_cases ht : ∃ s, t = .text s
    · obtain ⟨s, rfl⟩ := ht
      refine (changeAt_of_forall_ne fun c hc => ?_).symm
      rintro rfl
      exact hk ⟨c.1, eq_text_of_keyText (hnames c hc) h⟩
    · rw [changeAt_of_ne_text (not_exists.mp ht)]

theorem put_inFields (k v : Value) :
    Entries.put (es.inFields changes) k (changeAt changes k v) =
      (es.put k v).inFields changes := by
  induction es with
  | nil => rfl
  | cons e es ih =>
    have hcons : ∀ (e : Value × Value) (es : Entries), Entries.inFields changes (e :: es) =
        (e.1, changeAt changes e.1 e.2) :: es.inFields changes := fun _ _ => rfl
    rw [hcons, Entries.put, Entries.put]
    by_cases he : e.1.eqv k = true
    · rw [if_pos he, if_pos he, hcons, changeAt_of_eqv he]
    · rw [if_neg he, if_neg he, hcons, ih]

theorem ofList_inFields (es : Entries) :
    Entries.ofList (es.inFields changes) = (Entries.ofList es).inFields changes := by
  have hfold : ∀ acc : Entries,
      (es.inFields changes).foldl (fun es e => es.put e.1 e.2) (acc.inFields changes) =
        (es.foldl (fun es e => es.put e.1 e.2) acc).inFields changes := by
    induction es with
    | nil => exact fun acc => rfl
    | cons e es ih =>
      intro acc
      change (Entries.inFields changes es).foldl _ ((acc.inFields changes).put e.1 _) = _
      rw [put_inFields, ih, List.foldl_cons]
  exact hfold []

theorem Checked.all_map {β γ : Type} (g : β → γ) (cs : List (Checked β)) :
    Checked.all (cs.map (Checked.map g)) = (Checked.all cs).map (List.map g) := by
  induction cs with
  | nil => rfl
  | cons c cs ih =>
    rw [List.map_cons, Checked.all, Checked.all, ih]
    cases c <;> cases Checked.all cs <;> rfl

/-- **The keys and the fields** of a mapping are changed independently of each other. -/
theorem normalize_inFields (hnames : ∀ c ∈ changes, IsWord c.1) (v : Value) :
    normalize 0 (v.inFields changes) = (normalize 0 v).map (Value.inFields changes) := by
  cases v with
  | map l es =>
    -- entry by entry, since a key and its text are changed alike
    have hentries : ((Entries.inFields changes es).map fun e => (keyText e.1).and (.ok e.2)) =
        (es.map fun e => (keyText e.1).and (.ok e.2)).map
          (Checked.map fun e => (e.1, changeAt changes e.1 e.2)) := by
      rw [Entries.inFields, List.map_map, List.map_map]
      refine List.map_congr_left fun e _ => ?_
      simp only [Function.comp_apply]
      cases ht : keyText e.1 with
      | bad ps => rfl
      | ok t =>
        rw [changeAt_of_keyText hnames ht]
        rfl
    rw [Value.inFields, normalize, normalize, renameKeys, renameKeys, hentries, Checked.all_map]
    cases Checked.all (es.map fun e => (keyText e.1).and (.ok e.2)) with
    | bad ps => rfl
    | ok fs => exact congrArg (fun gs => Checked.ok (Value.map l gs)) (ofList_inFields fs)
  | _ => rfl

end Changes

/-! ### Parts of a document -/

theorem ExposeTarget.read_quoted (v : Value) :
    ExposeTarget.read v.quotedTarget = ExposeTarget.read v := by
  refine part_inFields (fun es => ?_) v
  rw [Fields.read_inFields (by simpa using optional_named_quoted),
    Fields.read_inFields (by simp), Fields.extra_inFields (by simp)]

theorem ExposeRule.read_quoted (v : Value) : ExposeRule.read v.quotedRule = ExposeRule.read v := by
  refine part_inFields (fun es => ?_) v
  rw [Fields.read_inFields (by simp), Fields.read_inFields (by simp),
    Fields.read_inFields (by simp),
    Fields.read_inFields (by simpa using listOf_emptyIfNull_inElements ExposeTarget.read_quoted),
    Fields.extra_inFields (by simp)]

/-- A **quoted service** is read as the service. -/
theorem Service.read_quoted (v : Value) : Service.read v.quotedService = Service.read v := by
  refine part_inFields (fun es => ?_) v
  rw [Fields.read_inFields (by simp),
    Fields.read_inFields (by simpa using listOf_emptyIfNull_inElements ExposeRule.read_quoted),
    Fields.read_inFields (by simp), Fields.read_inFields (by simp),
    Fields.read_inFields (by simp), Fields.extra_inFields (by simp)]

theorem CpuRequest.read_quoted (v : Value) :
    CpuRequest.read (v.inFields [("units", Value.quoted)]) = CpuRequest.read v := by
  refine part_inFields (fun es => ?_) v
  rw [Fields.read_inFields (by simpa using optional_named_quoted), Fields.extra_inFields (by simp)]

theorem MemoryRequest.read_quoted (v : Value) :
    MemoryRequest.read (v.inFields [("size", Value.quoted)]) = MemoryRequest.read v := by
  refine part_inFields (fun es => ?_) v
  rw [Fields.read_inFields (by simpa using optional_named_quoted), Fields.extra_inFields (by simp)]

theorem StorageVolume.read_quoted (v : Value) :
    StorageVolume.read v.quotedVolume = StorageVolume.read v := by
  refine part_inFields (fun es => ?_) v
  rw [Fields.read_inFields (by simpa using optional_named_quoted),
    Fields.read_inFields (by simpa using optional_named_quoted),
    Fields.read_inFields (by simp), Fields.extra_inFields (by simp)]

/-- **Quoted storage** is read as the storage, whether it is one volume or several. -/
theorem readVolumes_quoted (v : Value) :
    readVolumes (v.inVolumes Value.quotedVolume) = readVolumes v := by
  have hlist := listOf_inElements StorageVolume.read_quoted
  cases v with
  | map l es => exact hlist (.list 0 [.map l es])
  | list l xs => exact hlist (.list l xs)
  | tuple xs => exact hlist (.tuple xs)
  | set l xs => exact hlist (.set l xs)
  | _ => rfl

theorem Resources.read_quoted (v : Value) :
    Resources.read v.quotedResources = Resources.read v := by
  have hcpu := Scalar.optional_congr inFields_eq_null_iff CpuRequest.read_quoted
  have hmemory := Scalar.optional_congr inFields_eq_null_iff MemoryRequest.read_quoted
  refine part_inFields (fun es => ?_) v
  rw [Fields.read_inFields (by simpa using hcpu), Fields.read_inFields (by simpa using hmemory),
    Fields.read_inFields (by simpa using readVolumes_quoted),
    Fields.extra_inFields (by simp)]

/-- A **quoted compute profile** is read as the profile. -/
theorem ComputeProfile.read_quoted (v : Value) :
    ComputeProfile.read v.quotedProfile = ComputeProfile.read v := by
  have hresources : ∀ v : Value,
      Scalar.optional Resources.read v.quotedResources = Scalar.optional Resources.read v :=
    Scalar.optional_congr inFields_eq_null_iff Resources.read_quoted
  refine part_inFields (fun es => ?_) v
  rw [Fields.read_inFields (by simpa using hresources), Fields.extra_inFields (by simp)]

/-- A **quoted price** is read as the price. -/
theorem Price.read_quoted (v : Value) : Price.read v.quotedPrice = Price.read v := by
  refine part_inFields (fun es => ?_) v
  rw [Fields.read_inFields (by simp),
    Fields.read_inFields (by simpa using optional_named_quoted),
    Fields.extra_inFields (by simp)]

/-- A **quoted entry** of the deployment is read as the entry. -/
theorem DeploymentEntry.read_quoted (v : Value) :
    DeploymentEntry.read v.quotedEntry = DeploymentEntry.read v := by
  refine part_inFields (fun es => ?_) v
  rw [Fields.read_inFields (by simpa using optional_named_quoted),
    Fields.read_inFields (by simp), Fields.extra_inFields (by simp)]

end StackManifest
