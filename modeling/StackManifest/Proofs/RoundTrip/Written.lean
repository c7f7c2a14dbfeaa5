import StackManifest.Proofs.Reading.Records

/-!
# Reading what was written

A document that is written as plain data and read again should be the same document. Not everything
about it is: the data that it keeps loses its labels. What is meant by “the same” is that **the same
is written of it**, and `StackManifest.ReadsBack` says of a reading and a way of writing that what is
written of a result is read as something of which the same is written.

The statement is about results of the reading only, since not every document is one: a text among
the unknown fields may have the name of a known one, and this would be written over it. That no
reading gives such a document is `StackManifest.Fields.not_mem_keys_of_extra`.

The readings of a document are put together from smaller ones, and so are these statements:

* `StackManifest.ReadsBack.optional`, `StackManifest.ReadsBack.listOf` and
  `StackManifest.ReadsBack.tableOf` – what may be missing, lists, and tables;
* `StackManifest.ReadsBack.normalized` – sections that are made normal first;
* `StackManifest.IsLaidOut.readsBack` – **parts**, with known fields and unknown ones.
-/

namespace StackManifest

/-! ### Data without labels -/

mutual

/-- Data that was **unshared** once stays as it is. -/
theorem Value.unshared_unshared : ∀ v : Value, v.unshared.unshared = v.unshared
  | .tuple xs => by
    rw [Value.unshared, Value.unshared, unsharedList_unsharedList xs]
  | .list _ xs => by
    rw [Value.unshared, Value.unshared, unsharedList_unsharedList xs]
  | .set _ xs => by
    rw [Value.unshared, Value.unshared, unsharedList_unsharedList xs]
  | .map _ es => by
    rw [Value.unshared, Value.unshared, unsharedEntries_unsharedEntries es]
  | .date .. | .moment .. | .null | .bool _ | .int _ | .float _ | .text _ | .bytes _ => rfl

theorem unsharedList_unsharedList : ∀ xs : List Value,
    unsharedList (unsharedList xs) = unsharedList xs
  | [] => rfl
  | x :: xs => by
    rw [unsharedList, unsharedList, Value.unshared_unshared x, unsharedList_unsharedList xs]

theorem unsharedEntries_unsharedEntries : ∀ es : Entries,
    unsharedEntries (unsharedEntries es) = unsharedEntries es
  | [] => rfl
  | (k, v) :: es => by
    rw [unsharedEntries, unsharedEntries, Value.unshared_unshared k, Value.unshared_unshared v,
      unsharedEntries_unsharedEntries es]

end

/-! ### Readings that take back what is written -/

section ReadsBack

variable {α : Type} {read : Value → Checked α} {write : α → Value}

/-- **A reading takes back what is written** of its results: it reads something of which the same is
written. -/
def ReadsBack (read : Value → Checked α) (write : α → Value) : Prop :=
  ∀ v a, read v = .ok a → ∃ a', read (write a) = .ok a' ∧ write a' = write a

theorem readsBack_text : ReadsBack Scalar.text .text := fun _ s _ => ⟨s, rfl, rfl⟩

theorem readsBack_named : ReadsBack Scalar.named .text := fun _ s _ => ⟨s, rfl, rfl⟩

theorem readsBack_integer : ReadsBack Scalar.integer .int := fun _ n _ => ⟨n, rfl, rfl⟩

theorem readsBack_boolean : ReadsBack Scalar.boolean .bool := fun _ b _ => ⟨b, rfl, rfl⟩

/-- Data that is **kept** as it is. -/
theorem readsBack_kept : ReadsBack .ok Value.unshared :=
  fun _ v _ => ⟨v.unshared, rfl, v.unshared_unshared⟩

/-- A value that **may be missing**, if nothing is only written of what is missing. -/
theorem ReadsBack.optional (h : ReadsBack read write) (hne : ∀ a, write a ≠ .null) :
    ReadsBack (Scalar.optional read) (Value.ofOption write) := by
  intro v o ho
  rcases Scalar.optional_eq_ok_iff.mp ho with ⟨-, rfl⟩ | ⟨-, a, ha, rfl⟩
  · exact ⟨none, rfl, rfl⟩
  · obtain ⟨a', ha', hw⟩ := h v a ha
    exact ⟨some a', Scalar.optional_eq_ok_iff.mpr (.inr ⟨hne a, a', ha', rfl⟩), hw⟩

theorem Value.ofText?_eq : Value.ofText? = Value.ofOption .text := by
  funext o
  cases o <;> rfl

theorem Value.ofInt?_eq : Value.ofInt? = Value.ofOption .int := by
  funext o
  cases o <;> rfl

theorem readsBack_text? : ReadsBack (Scalar.optional Scalar.text) Value.ofText? :=
  Value.ofText?_eq ▸ readsBack_text.optional fun _ => nofun

theorem readsBack_named? : ReadsBack (Scalar.optional Scalar.named) Value.ofText? :=
  Value.ofText?_eq ▸ readsBack_named.optional fun _ => nofun

theorem readsBack_integer? : ReadsBack (Scalar.optional Scalar.integer) Value.ofInt? :=
  Value.ofInt?_eq ▸ readsBack_integer.optional fun _ => nofun

/-- What was read **one by one** of some values is read back one by one. -/
theorem ReadsBack.forall₂ (h : ReadsBack read write) {xs : List Value} {as : List α}
    (has : List.Forall₂ (fun x a => read x = .ok a) xs as) :
    ∃ as', List.Forall₂ (fun x a => read x = .ok a) (as.map write) as' ∧
      as'.map write = as.map write := by
  induction has with
  | nil => exact ⟨[], .nil, rfl⟩
  | cons ha _ ih =>
    obtain ⟨a', ha', hw⟩ := h _ _ ha
    obtain ⟨as', has', hws⟩ := ih
    exact ⟨a' :: as', .cons ha' has', by rw [List.map_cons, List.map_cons, hw, hws]⟩

/-- **A list** is written as a list, whatever sort of sequence it was read of. -/
theorem ReadsBack.listOf (h : ReadsBack read write) :
    ReadsBack (StackManifest.listOf read) fun as => .array (as.map write) := by
  intro v as has
  obtain ⟨xs, hxs⟩ := exists_elements_of_listOf has
  obtain ⟨as', has', hw⟩ := h.forall₂ hxs
  exact ⟨as', listOf_eq_ok_iff.mpr has', congrArg Value.array hw⟩

/-- A list that **may be left empty**. -/
theorem ReadsBack.listOrEmpty (h : ReadsBack read write) :
    ReadsBack (fun v => StackManifest.listOf read (emptyIfNull v))
      fun as => .array (as.map write) :=
  fun v as has => h.listOf (emptyIfNull v) as has

/-- Every entry of a table has a value that **was read**. -/
theorem exists_of_tableOf {v : Value} {t : Table α} (h : tableOf read v = .ok t)
    {e : String × α} (he : e ∈ t.toList) : ∃ w, read w = .ok e.2 := by
  cases v with
  | map l es =>
    obtain ⟨xs, hxs, rfl⟩ := tableOf_eq_ok_iff.mp h
    obtain ⟨f, -, -, hf⟩ := exists_of_mem_forall₂ hxs (Table.mem_of_mem_ofList he)
    exact ⟨f.2, hf⟩
  | _ => cases h

/-- **A table** is written under its names, which are distinct. -/
theorem ReadsBack.tableOf (h : ReadsBack read write) :
    ReadsBack (StackManifest.tableOf read) (Table.toValue write) := by
  intro v t ht
  -- what is read back of the entries, under the same names
  have hentries : ∀ xs : List (String × α), (∀ e ∈ xs, ∃ w, read w = .ok e.2) →
      ∃ ys : List (String × α),
        List.Forall₂ (fun e y => Scalar.text (.text e.1) = .ok y.1 ∧ read (write e.2) = .ok y.2)
          xs ys ∧
        ys.map Prod.fst = xs.map Prod.fst ∧
        (ys.map fun e => (e.1, write e.2)) = xs.map fun e => (e.1, write e.2) := by
    intro xs
    induction xs with
    | nil => exact fun _ => ⟨[], .nil, rfl, rfl⟩
    | cons e xs ih =>
      intro hxs
      obtain ⟨⟨w, hw⟩, hxs⟩ := List.forall_mem_cons.mp hxs
      obtain ⟨a', ha', hwrite⟩ := h _ _ hw
      obtain ⟨ys, hys, hnames, hvalues⟩ := ih hxs
      refine ⟨(e.1, a') :: ys, .cons ⟨rfl, ha'⟩ hys, ?_, ?_⟩
      · rw [List.map_cons, List.map_cons, hnames]
      · rw [List.map_cons, List.map_cons, hvalues, hwrite]
  obtain ⟨ys, hys, hnames, hvalues⟩ := hentries t.toList fun e he => exists_of_tableOf ht he
  have hlist : (Table.ofList ys).toList = ys := Table.toList_ofList (hnames ▸ t.nodup)
  refine ⟨Table.ofList ys, tableOf_eq_ok_iff.mpr ⟨ys, ?_, rfl⟩, ?_⟩
  · rw [List.map_map, List.forall₂_map_left_iff]
    exact hys
  · rw [Table.toValue, hlist, hvalues]
    rfl

/-! ### Sections that are made normal first -/

/-- What is written of the results of a reading is **normal** to some depth. -/
def WritesNormal (depth : Nat) (read : Value → Checked α) (write : α → Value) : Prop :=
  ∀ v a, read v = .ok a → IsNormal depth (write a)

theorem writesNormal_tableOf : WritesNormal 0 (tableOf read) (Table.toValue write) := by
  intro v t _
  refine isNormal_record ?_
  rw [List.map_map]
  exact t.nodup

theorem WritesNormal.tableOf {depth : Nat} (h : WritesNormal depth read write) :
    WritesNormal (depth + 1) (StackManifest.tableOf read) (Table.toValue write) := by
  intro v t ht
  refine isNormal_record_succ ?_ ?_
  · rw [List.map_map]
    exact t.nodup
  · intro f hf
    obtain ⟨e, he, rfl⟩ := List.mem_map.mp hf
    obtain ⟨w, hw⟩ := exists_of_tableOf ht he
    exact h w e.2 hw

/-- **A section** is written in normal form, so that it need not be made normal again. -/
theorem ReadsBack.normalized {depth : Nat} (h : ReadsBack read write)
    (hn : WritesNormal depth read write) :
    ReadsBack (fun v => (normalize depth v).bind read) write := by
  intro v a ha
  obtain ⟨u, -, ha⟩ := Checked.bind_eq_ok_iff.mp ha
  obtain ⟨a', ha', hw⟩ := h u a ha
  exact ⟨a', Checked.bind_eq_ok_iff.mpr ⟨write a, hn u a ha, ha'⟩, hw⟩

/-- A section of **named profiles**, which may be missing. -/
theorem ReadsBack.readSection (h : ReadsBack read write) (hn : WritesNormal 0 read write) :
    ReadsBack (StackManifest.readSection read) (Value.ofOption (Table.toValue write)) :=
  (h.tableOf.normalized hn.tableOf).optional fun _ => nofun

/-! ### Fields -/

/-- **A field** is written under its first name, also if it was read under another one or not
given. -/
theorem ReadsBack.field (h : ReadsBack read write) {v : Value} {default a : α}
    (hdefault : read v = .ok default) {es es' : Entries} {n : String} {names : List String}
    (ha : Fields.read es (n :: names) default read = .ok a)
    (hes : Entries.get? es' n = some (write a)) :
    ∃ a', Fields.read es' (n :: names) default read = .ok a' ∧ write a' = write a := by
  have hgiven : ∃ w, read w = .ok a := by
    rw [Fields.read] at ha
    split at ha
    · exact ⟨v, Checked.ok.inj ha ▸ hdefault⟩
    · exact ⟨_, Checked.inside_eq_ok_iff.mp ha⟩
  obtain ⟨w, hw⟩ := hgiven
  obtain ⟨a', ha', hwrite⟩ := h w a hw
  exact ⟨a', by rw [Fields.read_of_get? hes, ha']; rfl, hwrite⟩

end ReadsBack

/-! ### Unknown fields -/

section Extra

variable {es : Entries} {known : List (List String)} {t : Table Value}

/-- **An unknown field does not have the first name of a known one**: under this name the known
field would have been given. -/
theorem Fields.not_mem_keys_of_extra (h : Fields.extra es known = .ok t) {names : List String}
    {n : String} (hnames : names ∈ known) (hn : names.head? = some n) :
    n ∉ t.toList.map Prod.fst := by
  intro hmem
  obtain ⟨e, he, rfl⟩ := List.mem_map.mp hmem
  rw [Fields.extra, Checked.map_eq_ok_iff] at h
  obtain ⟨xs, hxs, rfl⟩ := h
  rw [Checked.all_eq_ok_iff, List.forall₂_map_left_iff] at hxs
  obtain ⟨f, hf, hread⟩ := exists_of_mem_forall₂ hxs (Table.mem_of_mem_ofList he)
  obtain ⟨hmem, hunused⟩ := List.mem_filter.mp hf
  -- the entry that it was read of has the name as its key
  have hkey : f.1 = .text e.1 := by
    split at hread
    · rename_i s hs
      obtain rfl := Checked.ok.inj hread
      exact hs
    · cases hread
  simp only [hkey, Bool.not_eq_true', List.contains_eq_mem, decide_eq_false_iff_not] at hunused
  obtain ⟨rest, rfl⟩ : ∃ rest, names = e.1 :: rest := by
    cases names with
    | nil => cases hn
    | cons m rest => exact ⟨rest, by rw [Option.some.inj hn]⟩
  obtain ⟨v, hv⟩ : ∃ v, Entries.get? es e.1 = some v := by
    by_contra hnone
    rcases Entries.lacks_or_exists es e.1 with hlacks | ⟨before, c, after, rfl, hbefore⟩
    · exact hlacks f hmem hkey
    · refine hnone ⟨c, ?_⟩
      rw [Entries.get?_append_of_lacks hbefore, Entries.get?_cons_text, if_pos rfl]
  exact hunused (List.mem_filterMap.mpr ⟨_, hnames, by simp [Fields.find?, hv]⟩)

/-- Known fields that are given under their **first names** are used up under these names. -/
theorem Fields.used_eq {fields : List (String × Value)}
    (hknown : List.Forall₂ (fun names f => names.head? = some f.1) known fields)
    (hget : ∀ f ∈ fields, Entries.get? es f.1 = some f.2) :
    (known.filterMap fun names => (Fields.find? es names).map Prod.fst) =
      fields.map Prod.fst := by
  induction hknown with
  | nil => rfl
  | @cons names f _ _ hf _ ih =>
    obtain ⟨hfirst, hrest⟩ := List.forall_mem_cons.mp hget
    obtain ⟨rest, rfl⟩ : ∃ rest, names = f.1 :: rest := by
      cases names with
      | nil => cases hf
      | cons m rest => exact ⟨rest, by rw [Option.some.inj hf]⟩
    rw [List.filterMap_cons_some (b := f.1) (by simp [Fields.find?, hfirst]), ih hrest,
      List.map_cons]

/-- Without the names of some fields, what is left of all entries is **the others**. -/
theorem Entries.filter_named_append {fields others : List (String × Value)}
    (hd : ((fields ++ others).map Prod.fst).Nodup) {p : Value × Value → Bool}
    (hp : ∀ s v, p (.text s, v) = !(fields.map Prod.fst).contains s) :
    (Entries.named (fields ++ others)).filter p = Entries.named others := by
  rw [List.map_append, List.nodup_append] at hd
  obtain ⟨-, -, hdisjoint⟩ := hd
  have hfields : (Entries.named fields).filter p = [] := by
    refine List.filter_eq_nil_iff.mpr fun e he => ?_
    obtain ⟨f, hf, rfl⟩ := List.mem_map.mp he
    have hmem : f.1 ∈ fields.map Prod.fst := List.mem_map_of_mem hf
    simpa [hp] using hmem
  have hothers : (Entries.named others).filter p = Entries.named others := by
    refine List.filter_eq_self.mpr fun e he => ?_
    obtain ⟨f, hf, rfl⟩ := List.mem_map.mp he
    have hne : f.1 ∉ fields.map Prod.fst := fun hmem =>
      hdisjoint f.1 hmem f.1 (List.mem_map_of_mem hf) rfl
    simpa [hp] using hne
  have happend : Entries.named (fields ++ others) =
      Entries.named fields ++ Entries.named others := by
    rw [Entries.named, List.map_append]
    rfl
  rw [happend, List.filter_append, hfields, hothers, List.nil_append]

/-- **Unknown fields are read as they are** of what they were written to, beside the known ones. -/
theorem Fields.extra_named {fields : List (String × Value)}
    (hknown : List.Forall₂ (fun names f => names.head? = some f.1) known fields)
    (hd : ((fields ++ t.toList).map Prod.fst).Nodup) :
    Fields.extra (Entries.named (fields ++ t.toList)) known = .ok t := by
  have hused := Fields.used_eq hknown fun f hf =>
    Entries.get?_named hd (List.mem_append_left t.toList hf)
  rw [Fields.extra, Checked.map_eq_ok_iff]
  simp only [hused]
  rw [Entries.filter_named_append hd fun s v => rfl]
  refine ⟨t.toList, ?_, Table.ext (Table.toList_ofList t.nodup)⟩
  rw [Checked.all_eq_ok_iff, Entries.named, List.map_map, List.forall₂_map_left_iff,
    List.forall₂_same]
  exact fun f _ => rfl

end Extra

/-! ### Parts -/

section Parts

variable {α : Type} {known : List (List String)} {read : Value → Checked α}
  {fields : α → List (String × Value)} {extra : α → Table Value}

/-- **How a part is laid out**: it is written with its known fields, each under its first name, and
the unknown ones after them. What is read of such data has the same fields. -/
structure IsLaidOut (known : List (List String)) (read : Value → Checked α)
    (fields : α → List (String × Value)) (extra : α → Table Value) : Prop where
  part : ∃ ofEntries, read = StackManifest.part ofEntries
  heads : ∀ a, List.Forall₂ (fun names f => names.head? = some f.1) known (fields a)
  nodup : (known.map List.head?).Nodup
  unknown : ∀ es a, read (.map 0 es) = .ok a → Fields.extra es known = .ok (extra a)
  back : ∀ es es' a, read (.map 0 es) = .ok a →
    (fields a).Forall (fun f => Entries.get? es' f.1 = some f.2) →
    Fields.extra es' known = .ok ((extra a).map Value.unshared) →
    ∃ a', read (.map 0 es') = .ok a' ∧ fields a' = fields a ∧
      extra a' = (extra a).map Value.unshared

namespace IsLaidOut

/-- A part is read of **entries**, whatever label they carry. -/
theorem exists_entries (h : IsLaidOut known read fields extra) {v : Value} {a : α}
    (ha : read v = .ok a) : ∃ es, read (.map 0 es) = .ok a := by
  obtain ⟨ofEntries, rfl⟩ := h.part
  cases v with
  | map l es => exact ⟨es, ha⟩
  | _ => cases ha

/-- The names of a part that was read are **distinct**. -/
theorem nodup_names (h : IsLaidOut known read fields extra) {es : Entries} {a : α}
    (ha : read (.map 0 es) = .ok a) :
    ((fields a ++ ((extra a).map Value.unshared).toList).map Prod.fst).Nodup := by
  have hheads : ((fields a).map Prod.fst).map some = known.map List.head? := by
    rw [List.map_map]
    exact (map_eq_map_of_forall₂ (fun _ _ hf => hf) (h.heads a)).symm
  rw [List.map_append, List.nodup_append]
  refine ⟨List.Nodup.of_map some (hheads ▸ h.nodup), Table.nodup _, ?_⟩
  rintro n hn m hm rfl
  obtain ⟨names, hnames, hhead⟩ : ∃ names ∈ known, names.head? = some n :=
    List.mem_map.mp (hheads ▸ List.mem_map_of_mem hn)
  refine Fields.not_mem_keys_of_extra (h.unknown es a ha) hnames hhead ?_
  simpa [Table.map] using hm

theorem ofPart_eq (fields : List (String × Value)) (t : Table Value) :
    Value.ofPart fields t = .map 0 (Entries.named (fields ++ (t.map Value.unshared).toList)) := rfl

/-- Under each name of a known field of a part that is written stands **its value**. -/
theorem forall_get? (h : IsLaidOut known read fields extra) {es : Entries} {a : α}
    (ha : read (.map 0 es) = .ok a) :
    (fields a).Forall fun f => Entries.get?
      (Entries.named (fields a ++ ((extra a).map Value.unshared).toList)) f.1 = some f.2 :=
  List.forall_iff_forall_mem.mpr fun _ hf =>
    Entries.get?_named (h.nodup_names ha) (List.mem_append_left _ hf)

/-- **A part is read back.** -/
theorem readsBack (h : IsLaidOut known read fields extra) :
    ReadsBack read fun a => Value.ofPart (fields a) (extra a) := by
  intro v a ha
  obtain ⟨es, ha⟩ := h.exists_entries ha
  obtain ⟨a', ha', hfields, hextra⟩ := h.back es _ a ha (h.forall_get? ha)
    (Fields.extra_named (h.heads a) (h.nodup_names ha))
  have hkept : ((extra a).map Value.unshared).map Value.unshared =
      (extra a).map Value.unshared := by
    refine Table.ext ?_
    simp [Table.map, Value.unshared_unshared]
  refine ⟨a', ha', ?_⟩
  change Value.ofPart (fields a') (extra a') = Value.ofPart (fields a) (extra a)
  rw [ofPart_eq, ofPart_eq, hfields, hextra, hkept]

theorem writesNormal (h : IsLaidOut known read fields extra) :
    WritesNormal 0 read fun a => Value.ofPart (fields a) (extra a) := by
  intro v a ha
  obtain ⟨es, ha⟩ := h.exists_entries ha
  exact isNormal_record (h.nodup_names ha)

end IsLaidOut

end Parts

end StackManifest
