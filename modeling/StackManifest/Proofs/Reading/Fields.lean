import Mathlib.Data.List.Forall2
import StackManifest.Document.Reader

/-!
# Reading a part whose field is changed

A part is read field by field, and what is read of the fields does not depend on how they are
arranged. So when the value under **one name** is changed
(`StackManifest.Entries.Differ`), the field with this name is read from the new value
(`StackManifest.Fields.read_of_differ`), and everything else is read as before: the other known
fields (`StackManifest.Fields.read_eq_of_differ`) and the unknown ones
(`StackManifest.Fields.extra_eq_of_differ`).

Whether a reading succeeds is decided part by part, by the statements about
`StackManifest.Checked` that come first.
-/

namespace StackManifest

/-! ### Readings that succeed -/

namespace Checked

variable {α β : Type} {c : Checked α} {b : β}

theorem map_eq_ok_iff {f : α → β} : c.map f = .ok b ↔ ∃ a, c = .ok a ∧ f a = b := by
  cases c <;> simp [Checked.map]

theorem bind_eq_ok_iff {f : α → Checked β} : c.bind f = .ok b ↔ ∃ a, c = .ok a ∧ f a = .ok b := by
  cases c <;> simp [Checked.bind]

theorem and_eq_ok_iff {d : Checked β} {p : α × β} :
    c.and d = .ok p ↔ c = .ok p.1 ∧ d = .ok p.2 := by
  cases c <;> cases d <;> simp [Checked.and, Prod.ext_iff]

theorem inside_eq_ok_iff {name : String} {a : α} : c.inside name = .ok a ↔ c = .ok a := by
  cases c <;> simp [Checked.inside]

theorem functor_map_eq_ok_iff {f : α → β} : f <$> c = .ok b ↔ ∃ a, c = .ok a ∧ f a = b :=
  map_eq_ok_iff

theorem seq_eq_ok_iff {f : Checked (α → β)} :
    f <*> c = .ok b ↔ ∃ g, f = .ok g ∧ ∃ a, c = .ok a ∧ g a = b := by
  change f.ap c = .ok b ↔ _
  rw [ap, map_eq_ok_iff]
  constructor
  · rintro ⟨p, hp, rfl⟩
    obtain ⟨hf, hc⟩ := and_eq_ok_iff.mp hp
    exact ⟨p.1, hf, p.2, hc, rfl⟩
  · rintro ⟨g, hf, a, hc, rfl⟩
    exact ⟨(g, a), and_eq_ok_iff.mpr ⟨hf, hc⟩, rfl⟩

/-- **Several parts** are read exactly when each of them is. -/
theorem all_eq_ok_iff {cs : List (Checked α)} {as : List α} :
    all cs = .ok as ↔ List.Forall₂ (fun c a => c = .ok a) cs as := by
  induction cs generalizing as with
  | nil =>
    rw [all, List.forall₂_nil_left_iff, Checked.ok.injEq]
    exact eq_comm
  | cons c cs ih =>
    rw [all, map_eq_ok_iff]
    constructor
    · rintro ⟨p, hp, rfl⟩
      obtain ⟨hc, hcs⟩ := and_eq_ok_iff.mp hp
      exact .cons hc (ih.mp hcs)
    · intro h
      cases h with
      | cons hc hcs => exact ⟨(_, _), and_eq_ok_iff.mpr ⟨hc, ih.mpr hcs⟩, rfl⟩

end Checked

/-- A value that **may be missing** is nothing, or it is read. -/
theorem Scalar.optional_eq_ok_iff {α : Type} {read : Value → Checked α} {v : Value} {o : Option α} :
    Scalar.optional read v = .ok o ↔
      (v = .null ∧ none = o) ∨ (v ≠ .null ∧ ∃ a, read v = .ok a ∧ some a = o) := by
  cases v with
  | null => simp [Scalar.optional]
  | _ => simp [Scalar.optional, Checked.map_eq_ok_iff]

/-- A list is read **element by element**. -/
theorem listOf_eq_ok_iff {α : Type} {read : Value → Checked α} {l : Label} {xs : List Value}
    {as : List α} :
    listOf read (.list l xs) = .ok as ↔ List.Forall₂ (fun x a => read x = .ok a) xs as := by
  have hzip : ((List.range xs.length).zip xs).map Prod.snd = xs :=
    List.map_snd_zip (by simp)
  conv_rhs => rw [← hzip]
  rw [listOf, Checked.all_eq_ok_iff, List.forall₂_map_left_iff, List.forall₂_map_left_iff]
  simp only [Checked.inside_eq_ok_iff]

/-- What is read as a list has elements, **whatever sort of sequence** it is. -/
theorem exists_elements_of_listOf {α : Type} {read : Value → Checked α} {v : Value} {as : List α}
    (h : listOf read v = .ok as) : ∃ xs, List.Forall₂ (fun x a => read x = .ok a) xs as := by
  cases v with
  | list l xs => exact ⟨xs, listOf_eq_ok_iff.mp h⟩
  | tuple xs => exact ⟨xs, listOf_eq_ok_iff (l := 0).mp h⟩
  | set l xs => exact ⟨xs, listOf_eq_ok_iff (l := 0).mp h⟩
  | _ => cases h

/-- A number that stands for its text is **the text that it has**. -/
theorem Scalar.asText_int_eq_ok_iff {n : Int} {w : Value} :
    Scalar.asText (.int n) = .ok w ↔ ∃ s, (Value.int n).toText = .ok s ∧ .text s = w := by
  simp only [Scalar.asText]
  cases (Value.int n).toText <;> simp [Checked.fail]

theorem Scalar.asText_float_eq_ok_iff {x : Number.Binary64} {w : Value} :
    Scalar.asText (.float x) = .ok w ↔ ∃ s, (Value.float x).toText = .ok s ∧ .text s = w := by
  simp only [Scalar.asText]
  cases (Value.float x).toText <;> simp [Checked.fail]

theorem Value.toText_eq_ok_iff {v : Value} {s : String} :
    v.toText = .ok s ↔ v.isWritable = true ∧ v.plain = s := by
  rw [Value.toText]
  split <;> simp_all

/-! ### Entries that differ in one value -/

/-- Only a text is equal to a text. -/
theorem Value.eqv_text_iff {k : Value} {name : String} :
    k.eqv (.text name) = true ↔ k = .text name := by
  cases k <;> simp [Value.eqv, Value.eqvAtom, Value.count?]

theorem Value.text_eqv_iff {k : Value} {name : String} :
    (Value.text name).eqv k = true ↔ .text name = k := by
  cases k <;> simp [Value.eqv, Value.eqvAtom, Value.count?]

namespace Entries

variable {es es' before after : Entries} {name other : String} {c w : Value}

/-- Entries without a text as a **key**. -/
def Lacks (es : Entries) (name : String) : Prop := ∀ e ∈ es, e.1 ≠ .text name

/-- Entries that **differ in one value** only: the first one under a name. -/
inductive Differ (name : String) (c w : Value) : Entries → Entries → Prop where
  | here {es : Entries} : Differ name c w ((.text name, c) :: es) ((.text name, w) :: es)
  | there {e : Value × Value} {es es' : Entries} : e.1 ≠ .text name → Differ name c w es es' →
    Differ name c w (e :: es) (e :: es')

theorem differ_of_lacks (h : Lacks before name) :
    Differ name c w (before ++ (.text name, c) :: after) (before ++ (.text name, w) :: after) := by
  induction before with
  | nil => exact .here
  | cons e before ih =>
    obtain ⟨he, hbefore⟩ := List.forall_mem_cons.mp h
    exact .there he (ih hbefore)

/-- A name is not there, or it is **the first** of its kind somewhere. -/
theorem lacks_or_exists (es : Entries) (name : String) :
    Lacks es name ∨
      ∃ before c after, es = before ++ (.text name, c) :: after ∧ Lacks before name := by
  induction es with
  | nil => exact .inl (List.forall_mem_nil _)
  | cons e es ih =>
    by_cases he : e.1 = .text name
    · exact .inr ⟨[], e.2, es, by rw [← he]; rfl, List.forall_mem_nil _⟩
    · rcases ih with h | ⟨before, c, after, rfl, h⟩
      · exact .inl (List.forall_mem_cons.mpr ⟨he, h⟩)
      · exact .inr ⟨e :: before, c, after, rfl, List.forall_mem_cons.mpr ⟨he, h⟩⟩

theorem get?_cons_text (s : String) (v : Value) (es : Entries) :
    get? ((.text s, v) :: es) name = if s = name then some v else get? es name := by
  simp only [get?, List.findSome?_cons]
  split <;> split <;> simp_all

theorem get?_cons_of_ne {e : Value × Value} (h : e.1 ≠ .text name) :
    get? (e :: es) name = get? es name := by
  obtain ⟨k, v⟩ := e
  cases k with
  | text s => rw [get?_cons_text, if_neg fun hs => h (congrArg Value.text hs)]
  | _ => rfl

theorem get?_append_of_lacks (h : Lacks before name) :
    get? (before ++ es) name = get? es name := by
  induction before with
  | nil => rfl
  | cons e before ih =>
    obtain ⟨he, hbefore⟩ := List.forall_mem_cons.mp h
    rw [List.cons_append, get?_cons_of_ne he, ih hbefore]

theorem get?_of_lacks (h : Lacks es name) : get? es name = none := by
  rw [← List.append_nil es, get?_append_of_lacks h]
  rfl

/-- **Under the name** stand the two values. -/
theorem Differ.get? (h : Differ name c w es es') :
    Entries.get? es name = some c ∧ Entries.get? es' name = some w := by
  induction h with
  | here => simp [get?_cons_text]
  | there he _ ih => rwa [get?_cons_of_ne he, get?_cons_of_ne he]

/-- Under any other name stands the same. -/
theorem Differ.get?_of_ne (h : Differ name c w es es') (hn : other ≠ name) :
    Entries.get? es' other = Entries.get? es other := by
  induction h with
  | here => rw [get?_cons_text, get?_cons_text, if_neg hn.symm, if_neg hn.symm]
  | @there e es es' _ _ ih =>
    by_cases ho : e.1 = .text other
    · rw [show e = (.text other, e.2) by rw [← ho], get?_cons_text, get?_cons_text, if_pos rfl,
        if_pos rfl]
    · rw [get?_cons_of_ne ho, get?_cons_of_ne ho, ih]

theorem Differ.isSome_get? (h : Differ name c w es es') :
    (Entries.get? es' other).isSome = (Entries.get? es other).isSome := by
  by_cases hn : other = name
  · subst hn
    rw [h.get?.1, h.get?.2]
    rfl
  · rw [h.get?_of_ne hn]

end Entries

/-! ### Fields -/

namespace Fields

open Checked

variable {α : Type} {es es' : Entries} {name : String} {names : List String} {c w : Value}
  {default : α} {f : Value → Checked α}

/-- A field is read from what is given under its **first name**. -/
theorem read_of_get? (h : Entries.get? es name = some c) :
    read es (name :: names) default f = (f c).inside name := by
  simp [read, find?, h]

/-- The field that is changed is read from the **new value**. -/
theorem read_of_differ (h : Entries.Differ name c w es es') :
    read es [name] default f = (f c).inside name ∧
      read es' [name] default f = (f w).inside name :=
  ⟨read_of_get? h.get?.1, read_of_get? h.get?.2⟩

theorem read_of_lacks (h : Entries.Lacks es name) : read es [name] default f = .ok default := by
  simp [read, find?, Entries.get?_of_lacks h]

/-- **Any other field** is read as before. -/
theorem read_eq_of_differ (h : Entries.Differ name c w es es') (hn : name ∉ names) :
    read es' names default f = read es names default f := by
  have hfind : find? es' names = find? es names := by
    induction names with
    | nil => rfl
    | cons n names ih =>
      obtain ⟨hne, hn⟩ := not_or.mp fun h => hn (List.mem_cons.mpr h)
      simp only [find?, List.findSome?_cons] at ih ⊢
      rw [h.get?_of_ne (Ne.symm hne), ih hn]
  rw [read, read, hfind]

/-- Under which name a field is given is not changed. -/
theorem find?_fst_of_differ (h : Entries.Differ name c w es es') (names : List String) :
    (find? es' names).map Prod.fst = (find? es names).map Prod.fst := by
  induction names with
  | nil => rfl
  | cons n names ih =>
    have hsome : (Entries.get? es' n).isSome = (Entries.get? es n).isSome := h.isSome_get?
    simp only [find?, List.findSome?_cons] at ih ⊢
    cases h1 : Entries.get? es n <;> cases h2 : Entries.get? es' n <;> simp_all

/-- **The unknown fields** are read as before. -/
theorem extra_eq_of_differ {known : List (List String)} (h : Entries.Differ name c w es es')
    (hn : [name] ∈ known) : extra es' known = extra es known := by
  have hused : (known.filterMap fun names => (find? es' names).map Prod.fst) =
      known.filterMap fun names => (find? es names).map Prod.fst :=
    List.filterMap_congr fun names _ => find?_fst_of_differ h names
  have hmem : name ∈ known.filterMap fun names => (find? es names).map Prod.fst :=
    List.mem_filterMap.mpr ⟨[name], hn, by simp [find?, h.get?.1]⟩
  -- the two entries are both known fields, so neither is among the others
  have hfilter : ∀ p : Value × Value → Bool, p (.text name, c) = false →
      p (.text name, w) = false → es'.filter p = es.filter p := by
    intro p hc hw
    clear hused hmem
    induction h with
    | here => simp [hc, hw]
    | there _ _ ih => rw [List.filter_cons, List.filter_cons, ih]
  simp only [extra, hused]
  rw [hfilter _ (by simp [hmem]) (by simp [hmem])]

end Fields

end StackManifest
