import StackManifest.Proofs.Places
import StackManifest.Proofs.Quantity.Numbers
import StackManifest.Proofs.Reading.Changes
import StackManifest.Proofs.Tables
import StackManifest.Proofs.Traversal

/-!
# Sections with changed entries

A section of a document is a mapping whose keys become names: they are replaced by texts, and an
entry whose name has been there before takes the place of that entry. What is read is a table. All
of this looks at the keys only, so that entries which are related **one by one** before are so
after it (`StackManifest.Carries.section`), whether some of them were dropped or not.

One step looks into the entries: their own keys become texts as well. A value under a name is not
lost by that if no key occurs twice (`StackManifest.Entries.IsDistinct`), since only a text becomes
a name that is no number and no truth value (`StackManifest.eq_text_of_keyText`).
-/

namespace StackManifest

open StackManifest.Number

variable {α : Type}

/-! ### Entries that are related one by one -/

/-- Entries with the same keys and **related values**. How the values are related may depend on
the key. -/
def Entries.Related (D : Value → Value → Value → Prop) (es es' : Entries) : Prop :=
  List.Forall₂ (fun e e' => e.1 = e'.1 ∧ D e.1 e.2 e'.2) es es'

/-- A relation between values that is **the same for equal keys**. -/
def RespectsKeys (D : Value → Value → Value → Prop) : Prop :=
  ∀ k k' v v', k'.eqv k = true → D k v v' → D k' v v'

/-- Tables with the same names and **related values**. -/
def Table.Related (R : String → α → α → Prop) (t t' : Table α) : Prop :=
  List.Forall₂ (fun e e' => e.1 = e'.1 ∧ R e.1 e.2 e'.2) t.toList t'.toList

section Related

variable {D : Value → Value → Value → Prop} {R : String → α → α → Prop} {es es' : Entries}
  {t t' : Table α}

theorem Entries.Related.put (hD : RespectsKeys D) (h : Entries.Related D es es') (k : Value)
    {v v' : Value} (hv : D k v v') : Entries.Related D (es.put k v) (es'.put k v') := by
  induction h with
  | nil => exact .cons ⟨rfl, hv⟩ .nil
  | @cons e e' es es' he hes ih =>
    rw [Entries.put, Entries.put, ← he.1]
    split
    · rename_i hkey
      exact .cons ⟨rfl, hD _ _ _ _ hkey hv⟩ hes
    · exact .cons he ih

theorem Entries.Related.ofList (hD : RespectsKeys D) (h : Entries.Related D es es') :
    Entries.Related D (Entries.ofList es) (Entries.ofList es') := by
  have hfold : ∀ fs fs' : Entries, Entries.Related D fs fs' →
      Entries.Related D (es.foldl (fun es e => es.put e.1 e.2) fs)
        (es'.foldl (fun es e => es.put e.1 e.2) fs') := by
    induction h with
    | nil => exact fun fs fs' h => h
    | @cons e e' es es' he _ ih =>
      intro fs fs' hfs
      rw [List.foldl_cons, List.foldl_cons, ← he.1]
      exact ih _ _ (hfs.put hD e.1 he.2)
  exact hfold [] [] .nil

theorem Table.Related.put (h : Table.Related R t t') (k : String) {a a' : α} (ha : R k a a') :
    Table.Related R (t.put k a) (t'.put k a') := by
  have hput : ∀ xs ys : List (String × α),
      List.Forall₂ (fun e e' => e.1 = e'.1 ∧ R e.1 e.2 e'.2) xs ys →
      List.Forall₂ (fun e e' => e.1 = e'.1 ∧ R e.1 e.2 e'.2) (putList k a xs)
        (putList k a' ys) := by
    intro xs ys h
    induction h with
    | nil => exact .cons ⟨rfl, ha⟩ .nil
    | @cons e e' xs ys he hes ih =>
      rw [putList, putList, ← he.1]
      split
      · exact .cons ⟨rfl, ha⟩ hes
      · exact .cons he ih
  exact hput _ _ h

theorem Table.related_ofList {xs ys : List (String × α)}
    (h : List.Forall₂ (fun e e' => e.1 = e'.1 ∧ R e.1 e.2 e'.2) xs ys) :
    Table.Related R (Table.ofList xs) (Table.ofList ys) := by
  have hfold : ∀ t t' : Table α, Table.Related R t t' →
      Table.Related R (xs.foldl (fun t e => t.put e.1 e.2) t)
        (ys.foldl (fun t e => t.put e.1 e.2) t') := by
    induction h with
    | nil => exact fun t t' h => h
    | @cons e e' xs ys he _ ih =>
      intro t t' ht
      rw [List.foldl_cons, List.foldl_cons, ← he.1]
      exact ih _ _ (ht.put e.1 he.2)
  exact hfold .empty .empty .nil

/-- **Related tables have related values** under every name. -/
theorem Table.Related.exists_get? (h : Table.Related R t t') {k : String} {a : α}
    (ha : t.get? k = some a) : ∃ a', t'.get? k = some a' ∧ R k a a' := by
  rw [Table.get?_eq_some_iff] at ha
  have hmem : ∀ xs ys : List (String × α),
      List.Forall₂ (fun e e' => e.1 = e'.1 ∧ R e.1 e.2 e'.2) xs ys → (k, a) ∈ xs →
      ∃ a', (k, a') ∈ ys ∧ R k a a' := by
    intro xs ys h
    induction h with
    | nil => simp
    | @cons e e' xs ys he _ ih =>
      intro hmem
      rcases List.mem_cons.mp hmem with rfl | hmem
      · exact ⟨e'.2, List.mem_cons.mpr (.inl (Prod.ext he.1 rfl)), he.2⟩
      · obtain ⟨a', ha', hr⟩ := ih hmem
        exact ⟨a', List.mem_cons_of_mem _ ha', hr⟩
  obtain ⟨a', ha', hr⟩ := hmem _ _ h ha
  exact ⟨a', Table.get?_eq_some_iff.mpr ha', hr⟩

/-- The relation **the other way round**. -/
theorem Table.Related.flip (h : Table.Related R t t') :
    Table.Related (fun n a' a => R n a a') t' t := by
  refine (List.Forall₂.flip h).imp ?_
  rintro e' e ⟨hname, hrel⟩
  exact ⟨hname.symm, hname ▸ hrel⟩

end Related

/-- Mappings with **related values** under the same keys. What is no mapping is not changed. -/
inductive InEntries (D : Value → Value → Value → Prop) : Value → Value → Prop where
  | other {v : Value} : (∀ l es, v ≠ .map l es) → InEntries D v v
  | entries {l : Label} {es es' : Entries} : Entries.Related D es es' →
    InEntries D (.map l es) (.map l es')

section Sections

variable {D D' : Value → Value → Value → Prop} {R : String → α → α → Prop}
  {read : Value → Checked α}

theorem InEntries.null_iff {v v' : Value} (h : InEntries D v v') : v' = .null ↔ v = .null := by
  cases h with
  | other => exact Iff.rfl
  | entries => simp

theorem InEntries.mono {v v' : Value} (h : InEntries D v v') (hD : ∀ k c w, D k c w → D' k c w) :
    InEntries D' v v' := by
  cases h with
  | other h => exact .other h
  | entries h => exact .entries (h.imp fun e e' he => ⟨he.1, hD _ _ _ he.2⟩)

/-- What a table is read from: a name and a value of **every entry**. -/
theorem tableOf_eq_ok_iff {l : Label} {es : Entries} {t : Table α} :
    tableOf read (.map l es) = .ok t ↔
      ∃ xs, List.Forall₂ (fun e x => Scalar.text e.1 = .ok x.1 ∧ read e.2 = .ok x.2) es xs ∧
        Table.ofList xs = t := by
  rw [tableOf, Checked.map_eq_ok_iff]
  simp only [Checked.all_eq_ok_iff, List.forall₂_map_left_iff, Checked.and_eq_ok_iff,
    Checked.inside_eq_ok_iff]

theorem Table.ofList_map {β : Type} (f : α → β) (xs : List (String × α)) :
    Table.ofList (xs.map fun x => (x.1, f x.2)) = (Table.ofList xs).map f := by
  induction xs using List.reverseRecOn with
  | nil => rfl
  | append_singleton xs x ih =>
    rw [List.map_append, List.map_singleton, Table.ofList, List.foldl_append, ← Table.ofList, ih,
      Table.ofList, Table.ofList, List.foldl_append, ← Table.ofList]
    exact (Table.map_put (Table.ofList xs) f x.1 x.2).symm

/-- **A function of what is read** can be read, entry by entry. -/
theorem tableOf_map_eq_ok_iff {β : Type} {f : α → β} {v : Value} {t : Table β} :
    tableOf (fun v => (read v).map f) v = .ok t ↔ ∃ s, tableOf read v = .ok s ∧ s.map f = t := by
  cases v with
  | map l es =>
    rw [tableOf_eq_ok_iff]
    constructor
    · rintro ⟨ys, hys, rfl⟩
      obtain ⟨xs, hxs, rfl⟩ : ∃ xs : List (String × α),
          List.Forall₂ (fun e x => Scalar.text e.1 = .ok x.1 ∧ read e.2 = .ok x.2) es xs ∧
            (xs.map fun x => (x.1, f x.2)) = ys := by
        induction hys with
        | nil => exact ⟨[], .nil, rfl⟩
        | @cons e y es ys he _ ih =>
          obtain ⟨a, ha, hy⟩ := Checked.map_eq_ok_iff.mp he.2
          obtain ⟨xs, hxs, rfl⟩ := ih
          exact ⟨(y.1, a) :: xs, .cons ⟨he.1, ha⟩ hxs, by rw [List.map_cons, hy]⟩
      exact ⟨_, tableOf_eq_ok_iff.mpr ⟨xs, hxs, rfl⟩, (Table.ofList_map f xs).symm⟩
    · rintro ⟨s, hs, rfl⟩
      obtain ⟨xs, hxs, rfl⟩ := tableOf_eq_ok_iff.mp hs
      refine ⟨xs.map fun x => (x.1, f x.2), ?_, Table.ofList_map f xs⟩
      rw [List.forall₂_map_right_iff]
      exact hxs.imp fun e x hx => ⟨hx.1, Checked.map_eq_ok_iff.mpr ⟨x.2, hx.2, rfl⟩⟩
  | _ => simp [tableOf, Checked.fail]

/-- The same for a **section**, which may be missing. -/
theorem readSection_map_eq_ok_iff {β : Type} {f : α → β} {v : Value} {o : Option (Table β)} :
    readSection (fun v => (read v).map f) v = .ok o ↔
      ∃ o', readSection read v = .ok o' ∧ o'.map (Table.map f) = o := by
  simp only [readSection, Scalar.optional_eq_ok_iff, Checked.bind_eq_ok_iff, tableOf_map_eq_ok_iff]
  constructor
  · rintro (⟨rfl, rfl⟩ | ⟨hne, t, ⟨u, hu, s, hs, rfl⟩, rfl⟩)
    · exact ⟨none, .inl ⟨rfl, rfl⟩, rfl⟩
    · exact ⟨some s, .inr ⟨hne, s, ⟨u, hu, hs⟩, rfl⟩, rfl⟩
  · rintro ⟨o', ⟨rfl, rfl⟩ | ⟨hne, s, ⟨u, hu, hs⟩, rfl⟩, rfl⟩
    · exact .inl ⟨rfl, rfl⟩
    · exact .inr ⟨hne, _, ⟨u, hu, s, hs, rfl⟩, rfl⟩

/-- What the entries with their keys as texts come from: a key and a value of **every entry**. -/
theorem renameKeys_eq_ok_iff {es fs : Entries} {values : Value → Checked Value} :
    renameKeys es values = .ok fs ↔
      ∃ gs, List.Forall₂ (fun e g => keyText e.1 = .ok g.1 ∧ values e.2 = .ok g.2) es gs ∧
        Entries.ofList gs = fs := by
  have hall : ∀ gs, Checked.all (es.map fun e => (keyText e.1).and (values e.2)) = .ok gs ↔
      List.Forall₂ (fun e g => keyText e.1 = .ok g.1 ∧ values e.2 = .ok g.2) es gs := by
    intro gs
    rw [Checked.all_eq_ok_iff, List.forall₂_map_left_iff]
    simp only [Checked.and_eq_ok_iff]
  simp only [← hall, renameKeys]
  cases Checked.all (es.map fun e => (keyText e.1).and (values e.2)) <;> simp

/-- **One by one**, entries that are related are read with related results under the same names. -/
theorem Carries.entries {κ : Type} {key : Value → Checked κ} {R : κ → α → α → Prop}
    (h : ∀ k x, key k = .ok x → Carries (D k) read (R x)) {es es' : Entries}
    {xs : List (κ × α)} (hes : Entries.Related D es es')
    (hxs : List.Forall₂ (fun e x => key e.1 = .ok x.1 ∧ read e.2 = .ok x.2) es xs) :
    ∃ ys : List (κ × α),
      List.Forall₂ (fun e y => key e.1 = .ok y.1 ∧ read e.2 = .ok y.2) es' ys ∧
      List.Forall₂ (fun x y => x.1 = y.1 ∧ R x.1 x.2 y.2) xs ys := by
  refine exists_forall₂ (fun e e' x he hx => ?_) hes hxs
  obtain ⟨a', ha', hr⟩ := h _ _ hx.1 _ _ _ he.2 hx.2
  exact ⟨(x.1, a'), ⟨he.1 ▸ hx.1, ha'⟩, rfl, hr⟩

/-- **A table** is read entry by entry. -/
theorem Carries.tableOf (h : ∀ k n, Scalar.text k = .ok n → Carries (D k) read (R n)) :
    Carries (InEntries D) (StackManifest.tableOf read) (Table.Related R) := by
  intro v v' t hv ht
  cases hv with
  | other hv =>
    cases v with
    | map l es => exact absurd rfl (hv l es)
    | _ => cases ht
  | entries hes =>
    obtain ⟨xs, hxs, rfl⟩ := tableOf_eq_ok_iff.mp ht
    obtain ⟨ys, hys, hrel⟩ := Carries.entries h hes hxs
    exact ⟨_, tableOf_eq_ok_iff.mpr ⟨ys, hys, rfl⟩, Table.related_ofList hrel⟩

/-- The keys of a section become texts **whatever its values are**. -/
theorem Carries.normalize {values : Nat} (hD' : RespectsKeys D')
    (h : ∀ k t, keyText k = .ok t → Carries (D k) (StackManifest.normalize values) (D' t)) :
    Carries (InEntries D) (StackManifest.normalize (values + 1)) (InEntries D') := by
  intro v v' u hv hu
  cases hv with
  | other hv =>
    cases v with
    | map l es => exact absurd rfl (hv l es)
    | null =>
      cases hu
      exact ⟨_, rfl, .entries .nil⟩
    | _ =>
      cases hu
      exact ⟨_, rfl, .other (by simp)⟩
  | @entries l es es' hes =>
    obtain ⟨fs, hfs, rfl⟩ := Checked.map_eq_ok_iff.mp hu
    obtain ⟨gs, hgs, rfl⟩ := renameKeys_eq_ok_iff.mp hfs
    obtain ⟨gs', hgs', hrel⟩ := Carries.entries h hes hgs
    exact ⟨_, Checked.map_eq_ok_iff.mpr ⟨_, renameKeys_eq_ok_iff.mpr ⟨gs', hgs', rfl⟩, rfl⟩,
      .entries (Entries.Related.ofList hD' hrel)⟩

/-- **A section** is read entry by entry. -/
theorem Carries.section (hD' : RespectsKeys D')
    (h : ∀ k t, keyText k = .ok t → Carries (D k) (StackManifest.normalize 0) (D' t))
    (h' : ∀ k n, Scalar.text k = .ok n → Carries (D' k) read (R n)) :
    Carries (InEntries D) (readSection read) (Option.Rel (Table.Related R)) :=
  ((Carries.normalize hD' h).bind (Carries.tableOf h')).optional fun _ _ => InEntries.null_iff

end Sections

/-! ### A name among the keys -/

section Keys

variable {name : String} {k c w : Value} {es es' before after : Entries}

/-- A name that is written as **no number and no truth value**. -/
def IsWord (name : String) : Prop :=
  (∃ ch ∈ name.toList, ch.isDigit = false ∧ ch ∉ numberMarks) ∧ name ≠ "true" ∧ name ≠ "false"

instance : Decidable (IsWord name) :=
  @instDecidableAnd _ _ (List.decidableBEx _ _) inferInstance

/-- A name that is **no number and no truth value** is the text of a key only if it is the key. -/
theorem eq_text_of_keyText (hname : IsWord name) (h : keyText k = .ok (.text name)) :
    k = .text name := by
  obtain ⟨⟨letter, hmem, hdigit, hmark⟩, htrue, hfalse⟩ := hname
  -- the letter stands in no number
  have hnumber : ∀ s : String, (∀ ch ∈ s.toList, ch.isDigit = true ∨ ch ∈ numberMarks) →
      s ≠ name := by
    rintro s hs rfl
    rcases hs letter hmem with hl | hl
    · exact Bool.noConfusion (hdigit.symm.trans hl)
    · exact hmark hl
  cases k with
  | text s =>
    cases h
    rfl
  | bool b =>
    have hbool : (if b then "true" else "false") = name := by
      cases h
      rfl
    cases b
    · exact absurd hbool.symm hfalse
    · exact absurd hbool.symm htrue
  | int n =>
    obtain ⟨s, hs, hname⟩ := Scalar.asText_int_eq_ok_iff.mp h
    obtain ⟨-, rfl⟩ := Value.toText_eq_ok_iff.mp hs
    refine absurd (Value.text.inj hname) (hnumber _ fun ch hch => mem_intText (n := n) ?_)
    simpa [Value.plain, Value.shown] using hch
  | float x =>
    obtain ⟨s, hs, hname⟩ := Scalar.asText_float_eq_ok_iff.mp h
    obtain ⟨-, rfl⟩ := Value.toText_eq_ok_iff.mp hs
    refine absurd (Value.text.inj hname) (hnumber _ fun ch hch => mem_text (x := x) ?_)
    simpa [Value.plain, Value.shown] using hch
  | _ => cases h

/-- **Equal keys** are read as the same text. -/
theorem text_of_eqv {k' : Value} (h : k.eqv k' = true) (hk : Scalar.text k = .ok name) :
    Scalar.text k' = .ok name := by
  cases k with
  | text s => exact Value.text_eqv_iff.mp h ▸ hk
  | bytes bs =>
    have heq : Value.bytes bs = k' := by
      cases k' <;> simp_all [Value.eqv, Value.eqvAtom, Value.count?]
    exact heq ▸ hk
  | _ => cases hk

/-- What is said of all keys **stays true** when another key is put among them. -/
theorem Entries.forall_key_put {P : Value → Prop} (h : ∀ e ∈ es, P e.1) (hk : P k) (v : Value) :
    ∀ e ∈ es.put k v, P e.1 := by
  induction es with
  | nil => simpa [Entries.put] using hk
  | cons e es ih =>
    obtain ⟨he, hes⟩ := List.forall_mem_cons.mp h
    rw [Entries.put]
    split
    · exact List.forall_mem_cons.mpr ⟨he, hes⟩
    · exact List.forall_mem_cons.mpr ⟨he, ih hes⟩

theorem Entries.forall_key_foldl_put {P : Value → Prop} {fs acc : Entries}
    (hacc : ∀ e ∈ acc, P e.1) (hfs : ∀ f ∈ fs, P f.1) :
    ∀ e ∈ fs.foldl (fun es e => es.put e.1 e.2) acc, P e.1 := by
  induction fs generalizing acc with
  | nil => exact hacc
  | cons f fs ih =>
    obtain ⟨hf, hfs⟩ := List.forall_mem_cons.mp hfs
    exact ih (Entries.forall_key_put hacc hf f.2) hfs

/-- Entries **without a name** still lack it when another key is put among them. -/
theorem Entries.Lacks.put (h : Entries.Lacks es name) (hk : k ≠ .text name) (v : Value) :
    Entries.Lacks (es.put k v) name :=
  Entries.forall_key_put (P := fun k => k ≠ .text name) h hk v

/-- A key that is **equal to no key** among some is put at the end. -/
theorem Entries.put_of_forall_not_eqv (h : ∀ e ∈ es, e.1.eqv k = false) (v : Value) :
    es.put k v = es ++ [(k, v)] := by
  induction es with
  | nil => rfl
  | cons e es ih =>
    obtain ⟨he, hes⟩ := List.forall_mem_cons.mp h
    rw [Entries.put, he, if_neg Bool.false_ne_true, ih hes, List.cons_append]

/-- The first entry with a name is put **at the end**. -/
theorem Entries.put_of_lacks (h : Entries.Lacks es name) (v : Value) :
    es.put (.text name) v = es ++ [(.text name, v)] :=
  Entries.put_of_forall_not_eqv
    (fun e he => Bool.eq_false_iff.mpr fun heqv => h e he (Value.eqv_text_iff.mp heqv)) v

/-- Entries that differ under a name still do when **another key** is put among them. -/
theorem Entries.Differ.put (h : Entries.Differ name c w es es') (hk : k ≠ .text name)
    (v : Value) : Entries.Differ name c w (es.put k v) (es'.put k v) := by
  induction h with
  | here =>
    have hne : ¬(Value.text name).eqv k = true := fun heq => hk (Value.text_eqv_iff.mp heq).symm
    rw [Entries.put, Entries.put, if_neg hne, if_neg hne]
    exact .here
  | there he hes ih =>
    rw [Entries.put, Entries.put]
    split
    · exact .there he hes
    · exact .there he ih

/-- An entry with its key as a text, and its value as it is. -/
def IsRenamed (e g : Value × Value) : Prop := keyText e.1 = .ok g.1 ∧ Checked.ok e.2 = .ok g.2

theorem lacks_of_isRenamed (hname : IsWord name) {fs : Entries}
    (h : List.Forall₂ IsRenamed es fs) (hes : Entries.Lacks es name) :
    Entries.Lacks fs name := by
  intro g hg hk
  obtain ⟨e, he, hkey, -⟩ := exists_of_mem_forall₂ h hg
  exact hes e he (eq_text_of_keyText hname (hk ▸ hkey))

theorem lacks_foldl_put {fs acc : Entries} (hacc : Entries.Lacks acc name)
    (hfs : Entries.Lacks fs name) :
    Entries.Lacks (fs.foldl (fun es e => es.put e.1 e.2) acc) name :=
  Entries.forall_key_foldl_put (P := fun k => k ≠ .text name) hacc hfs

theorem differ_foldl_put {fs acc acc' : Entries} (hacc : Entries.Differ name c w acc acc')
    (hfs : Entries.Lacks fs name) :
    Entries.Differ name c w (fs.foldl (fun es e => es.put e.1 e.2) acc)
      (fs.foldl (fun es e => es.put e.1 e.2) acc') := by
  induction fs generalizing acc acc' with
  | nil => exact hacc
  | cons g fs ih =>
    obtain ⟨hg, hfs⟩ := List.forall_mem_cons.mp hfs
    exact ih (hacc.put hg g.2) hfs

/-- Entries in which **no key occurs twice**. -/
def Entries.IsDistinct (es : Entries) : Prop := es.Pairwise fun e f => e.1.eqv f.1 = false

/-- **Entries with distinct keys put one after the other** stay as they are. -/
theorem Entries.ofList_of_isDistinct (h : es.IsDistinct) : Entries.ofList es = es := by
  induction es using List.reverseRecOn with
  | nil => rfl
  | append_singleton es f ih =>
    obtain ⟨hes, -, hf⟩ := List.pairwise_append.mp h
    rw [Entries.ofList, List.foldl_append, List.foldl_cons, List.foldl_nil, ← Entries.ofList, ih hes]
    exact Entries.put_of_forall_not_eqv (fun e he => hf e he f (List.mem_singleton_self f)) f.2

/-- **A name stays a name**: entries that differ under it still do when their keys are texts. -/
theorem Entries.Differ.exists_renamed (hname : IsWord name)
    (h : Entries.Differ name c w es es') (hes : es.IsDistinct) {fs : Entries}
    (hfs : List.Forall₂ IsRenamed es fs) :
    ∃ fs', List.Forall₂ IsRenamed es' fs' ∧ ∀ acc, Entries.Lacks acc name →
      Entries.Differ name c w (fs.foldl (fun es e => es.put e.1 e.2) acc)
        (fs'.foldl (fun es e => es.put e.1 e.2) acc) := by
  induction h generalizing fs with
  | @here es =>
    obtain ⟨hkey, -⟩ := List.pairwise_cons.mp hes
    -- the other keys are not this name, so their texts are not this name either
    have hlacks : Entries.Lacks es name := by
      intro e he hk
      have := hkey e he
      rw [hk, Value.eqv_text_iff.mpr rfl] at this
      cases this
    cases hfs with
    | @cons _ g _ fs hg hfs =>
      obtain ⟨k, v⟩ := g
      cases hg.1
      cases hg.2
      refine ⟨(.text name, w) :: fs, .cons ⟨rfl, rfl⟩ hfs, fun acc hacc => ?_⟩
      rw [List.foldl_cons, List.foldl_cons]
      refine differ_foldl_put ?_ (lacks_of_isRenamed hname hfs hlacks)
      rw [Entries.put_of_lacks hacc, Entries.put_of_lacks hacc]
      exact Entries.differ_of_lacks hacc
  | there he _ ih =>
    obtain ⟨-, hes⟩ := List.pairwise_cons.mp hes
    cases hfs with
    | @cons _ g _ fs hg hfs =>
      obtain ⟨fs', hfs', hdiffer⟩ := ih hes hfs
      have hne : g.1 ≠ .text name := fun hk => he (eq_text_of_keyText hname (hk ▸ hg.1))
      exact ⟨g :: fs', .cons hg hfs', fun acc hacc => hdiffer _ (hacc.put hne g.2)⟩

/-- **What stands under a name** still does when the keys are texts. -/
theorem Entries.get?_ofList_of_renamed (hname : IsWord name) (hes : es.IsDistinct) {fs : Entries}
    (hfs : List.Forall₂ IsRenamed es fs) :
    Entries.get? (Entries.ofList fs) name = Entries.get? es name := by
  rcases Entries.lacks_or_exists es name with hlacks | ⟨before, c, after, rfl, hlacks⟩
  · have hlacks' : Entries.Lacks (Entries.ofList fs) name :=
      lacks_foldl_put (List.forall_mem_nil _) (lacks_of_isRenamed hname hfs hlacks)
    rw [Entries.get?_of_lacks hlacks, Entries.get?_of_lacks hlacks']
  · have hsame : Entries.Differ name c c (before ++ (.text name, c) :: after)
        (before ++ (.text name, c) :: after) := Entries.differ_of_lacks hlacks
    obtain ⟨fs', -, hdiffer⟩ := hsame.exists_renamed hname hes hfs
    exact (hdiffer [] (List.forall_mem_nil _)).get?.1.trans hsame.get?.1.symm

/-- **The field of an entry** is still there when the keys of the entry are texts. -/
theorem Carries.normalize_zero {D : Value → Value → Prop} (hname : IsWord name) :
    Carries (fun v v' => (∀ l es, v = .map l es → Entries.IsDistinct es) ∧ InField name D v v')
      (StackManifest.normalize 0) (InField name D) := by
  rintro v v' u ⟨hdistinct, hv⟩ hu
  cases hv with
  | absent hv =>
    refine ⟨u, hu, .absent ?_⟩
    cases v with
    | map l es =>
      obtain ⟨fs, hfs, rfl⟩ := Checked.map_eq_ok_iff.mp hu
      obtain ⟨gs, hgs, rfl⟩ := renameKeys_eq_ok_iff.mp hfs
      have hlacks := lacks_of_isRenamed hname hgs (hv l es rfl)
      rintro - - ⟨⟩
      exact lacks_foldl_put (by simp [Entries.Lacks]) hlacks
    | null =>
      cases hu
      rintro - - ⟨⟩
      simp [Entries.Lacks]
    | _ =>
      cases hu
      rintro - - ⟨⟩
  | @present l es es' c w hdiffer hcw =>
    obtain ⟨fs, hfs, rfl⟩ := Checked.map_eq_ok_iff.mp hu
    obtain ⟨gs, hgs, rfl⟩ := renameKeys_eq_ok_iff.mp hfs
    obtain ⟨gs', hgs', hrel⟩ := hdiffer.exists_renamed hname (hdistinct l es rfl) hgs
    exact ⟨_, Checked.map_eq_ok_iff.mpr ⟨_, renameKeys_eq_ok_iff.mpr ⟨gs', hgs', rfl⟩, rfl⟩,
      .present (hrel [] (by simp [Entries.Lacks])) hcw⟩

/-- What is said of the value **under a name** stays true when the keys are texts. -/
theorem AtField.normalize {P : Value → Prop} {v u : Value} (hname : IsWord name)
    (hv : ∀ l es, v = .map l es → Entries.IsDistinct es) (h : AtField name P v)
    (hu : StackManifest.normalize 0 v = .ok u) : AtField name P u := by
  obtain ⟨u', -, hfield⟩ := Carries.normalize_zero hname v v u ⟨hv, h.inField⟩ hu
  exact hfield.atField

end Keys

end StackManifest
