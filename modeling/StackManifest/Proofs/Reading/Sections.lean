import StackManifest.Proofs.Equality
import StackManifest.Proofs.Reading.Names

/-!
# A section and one of its entries

A key of a section is read as a **name** (`StackManifest.keyName`): it becomes a text, and the table
that is read has the text as a name. Different keys can become one text, and then the last of them
counts. The last entry with its name (`StackManifest.Entries.IsLast`) has nothing to do with the
others. What is found under the name is what the value is read as
(`StackManifest.get?_of_readNamed`), and whether the section is read, with the entry and without it
or with another value, depends on the value only
(`StackManifest.exists_readNamed_of_rest`, `StackManifest.exists_readNamed_of_changed`).

All of this comes from one observation about putting entries together one after the other
(`StackManifest.Entries.exists_ofList_around`): the last key with its name stands among what the
other entries would be without it.
-/

namespace StackManifest

variable {α β γ : Type}

/-! ### Keys and names -/

/-- The **name** that a key is read as. -/
def keyName (k : Value) : Checked String := (keyText k).bind Scalar.text

theorem keyName_eq_ok_iff {k : Value} {name : String} :
    keyName k = .ok name ↔ ∃ t, keyText k = .ok t ∧ Scalar.text t = .ok name :=
  Checked.bind_eq_ok_iff

/-- A number or a text is read as **the same name** as a key and as a reference. -/
theorem keyName_of_named {k : Value} {name : String} (h : Scalar.named k = .ok name) :
    keyName k = .ok name := by
  cases k with
  | bool b => cases h
  | _ => exact h

/-- **A key that is equal** to one with a name is read as this name. -/
theorem text_of_eqv_right {k k' : Value} {name : String} (h : k'.eqv k = true)
    (hk : Scalar.text k = .ok name) : Scalar.text k' = .ok name := by
  cases k with
  | text s => exact Value.eqv_text_iff.mp h ▸ hk
  | bytes bs =>
    have heq : k' = Value.bytes bs := by
      cases k' <;> simp_all [Value.eqv, Value.eqvAtom, Value.count?]
    exact heq ▸ hk
  | _ => cases hk

/-- The entries around **the last key with its name**: no key after it is read as this name, and a
key before it only if it becomes the same text. No key occurs twice. -/
structure Entries.IsLast (before : Entries) (k : Value) (after : Entries) : Prop where
  distinct : ∀ e ∈ before, e.1 ≠ k
  earlier : ∀ e ∈ before, ∀ name, keyName k = .ok name → keyName e.1 = .ok name →
    keyText e.1 = keyText k
  later : ∀ e ∈ after, ∀ name, keyName k = .ok name → keyName e.1 ≠ .ok name

/-! ### Entries put together -/

namespace Entries

variable {es fs before after : Entries} {k κ v : Value} {name : String}

/-- **Keys are only ever added**: what is equal to a key still is when an entry is put. -/
theorem exists_key_put (h : ∃ e ∈ es, e.1.eqv k = true) (k' v : Value) :
    ∃ e ∈ es.put k' v, e.1.eqv k = true := by
  obtain ⟨e, he, hk⟩ := h
  induction es with
  | nil => cases he
  | cons f es ih =>
    rw [put]
    split
    · rcases List.mem_cons.mp he with rfl | he
      · exact ⟨_, List.mem_cons_self .., hk⟩
      · exact ⟨e, List.mem_cons_of_mem _ he, hk⟩
    · rcases List.mem_cons.mp he with rfl | he
      · exact ⟨_, List.mem_cons_self .., hk⟩
      · obtain ⟨g, hg, hk⟩ := ih he
        exact ⟨g, List.mem_cons_of_mem _ hg, hk⟩

theorem exists_key_put_self (es : Entries) (k v : Value) : ∃ e ∈ es.put k v, e.1.eqv k = true := by
  induction es with
  | nil => exact ⟨_, List.mem_singleton_self _, Value.eqv_refl k⟩
  | cons f es ih =>
    rw [put]
    split
    · exact ⟨_, List.mem_cons_self .., ‹_›⟩
    · obtain ⟨g, hg, hk⟩ := ih
      exact ⟨g, List.mem_cons_of_mem _ hg, hk⟩

/-- **A key that is put** among others is there afterwards, or one that is equal to it. -/
theorem exists_key_ofList (h : (k, v) ∈ fs) : ∃ e ∈ ofList fs, e.1.eqv k = true := by
  have hfold : ∀ (fs acc : Entries), (∃ e ∈ acc, e.1.eqv k = true) →
      ∃ e ∈ fs.foldl (fun es e => es.put e.1 e.2) acc, e.1.eqv k = true := by
    intro fs
    induction fs with
    | nil => exact fun acc h => h
    | cons f fs ih => exact fun acc h => ih _ (exists_key_put h f.1 f.2)
  obtain ⟨before, after, rfl⟩ := List.append_of_mem h
  rw [ofList, List.foldl_append, List.foldl_cons]
  exact hfold after _ (exists_key_put_self _ k v)

/-- An entry that is put **around a key** that is not equal to its own. -/
theorem exists_put_around (h : κ.eqv k = false) (w : Value) (before after : Entries) :
    ∃ before' after', (before ++ after).put k w = before' ++ after' ∧
      ∀ v, (before ++ (κ, v) :: after).put k w = before' ++ (κ, v) :: after' := by
  induction before with
  | nil =>
    refine ⟨[], after.put k w, rfl, fun v => ?_⟩
    rw [List.nil_append, put, h, if_neg Bool.false_ne_true, List.nil_append]
  | cons e before ih =>
    by_cases he : e.1.eqv k = true
    · refine ⟨(e.1, w) :: before, after, ?_, fun v => ?_⟩
      · rw [List.cons_append, put, if_pos he, List.cons_append]
      · rw [List.cons_append, put, if_pos he, List.cons_append]
    · obtain ⟨before', after', hwithout, hwith⟩ := ih
      refine ⟨e :: before', after', ?_, fun v => ?_⟩
      · rw [List.cons_append, put, if_neg he, hwithout, List.cons_append]
      · rw [List.cons_append, put, if_neg he, hwith, List.cons_append]

theorem exists_foldl_put_around (h : ∀ f ∈ fs, κ.eqv f.1 = false) (before after : Entries) :
    ∃ before' after', fs.foldl (fun es e => es.put e.1 e.2) (before ++ after) = before' ++ after' ∧
      ∀ v, fs.foldl (fun es e => es.put e.1 e.2) (before ++ (κ, v) :: after) =
        before' ++ (κ, v) :: after' := by
  induction fs generalizing before after with
  | nil => exact ⟨before, after, rfl, fun v => rfl⟩
  | cons f fs ih =>
    obtain ⟨hf, hfs⟩ := List.forall_mem_cons.mp h
    obtain ⟨before₁, after₁, hwithout₁, hwith₁⟩ := exists_put_around hf f.2 before after
    obtain ⟨before₂, after₂, hwithout₂, hwith₂⟩ := ih hfs before₁ after₁
    refine ⟨before₂, after₂, ?_, fun v => ?_⟩
    · rw [List.foldl_cons, hwithout₁, hwithout₂]
    · rw [List.foldl_cons, hwith₁, hwith₂]

theorem put_around_self (h : ∀ e ∈ before, e.1.eqv κ = false) (w v : Value) (after : Entries) :
    put (before ++ (κ, w) :: after) κ v = before ++ (κ, v) :: after := by
  induction before with
  | nil => rw [List.nil_append, put, if_pos (Value.eqv_refl κ), List.nil_append]
  | cons e before ih =>
    obtain ⟨he, hbefore⟩ := List.forall_mem_cons.mp h
    rw [List.cons_append, put, he, if_neg Bool.false_ne_true, ih hbefore, List.cons_append]

/-- Entries of which **at most one** is read as a name, and this one has a certain key. -/
def HasAtMost (κ : Value) (name : String) (es : Entries) : Prop :=
  (∀ e ∈ es, Scalar.text e.1 ≠ .ok name) ∨
    ∃ before w after, es = before ++ (κ, w) :: after ∧
      ∀ e ∈ before ++ after, Scalar.text e.1 ≠ .ok name

/-- **Keys that become the same text** are one key afterwards. -/
theorem hasAtMost_ofList (hκ : Scalar.text κ = .ok name)
    (h : ∀ e ∈ es, Scalar.text e.1 = .ok name → e.1 = κ) : HasAtMost κ name (ofList es) := by
  induction es using List.reverseRecOn with
  | nil => exact .inl (List.forall_mem_nil _)
  | append_singleton es f ih =>
    have hf := h f (by simp)
    rw [ofList, List.foldl_append, List.foldl_cons, List.foldl_nil, ← ofList]
    rcases ih fun e he => h e (List.mem_append_left _ he) with hnone | ⟨before, w, after, heq, hother⟩
    · by_cases hname : Scalar.text f.1 = .ok name
      · rw [hf hname, put_of_forall_not_eqv fun e he =>
          Bool.eq_false_iff.mpr fun heqv => hnone e he (text_of_eqv_right heqv hκ)]
        exact .inr ⟨ofList es, f.2, [], rfl, by simpa using hnone⟩
      · exact .inl (forall_key_put (P := fun k => Scalar.text k ≠ .ok name) hnone hname f.2)
    · rw [heq]
      by_cases hname : Scalar.text f.1 = .ok name
      · have hbefore : ∀ e ∈ before, e.1.eqv κ = false := fun e he =>
          Bool.eq_false_iff.mpr fun heqv =>
            hother e (List.mem_append_left _ he) (text_of_eqv_right heqv hκ)
        rw [hf hname, put_around_self hbefore]
        exact .inr ⟨before, f.2, after, rfl, hother⟩
      · obtain ⟨before', after', hwithout, hwith⟩ := exists_put_around (κ := κ)
          (Bool.eq_false_iff.mpr fun heqv => hname (text_of_eqv heqv hκ)) f.2 before after
        refine .inr ⟨before', w, after', hwith w, ?_⟩
        rw [← hwithout]
        exact forall_key_put (P := fun k => Scalar.text k ≠ .ok name) hother hname f.2

/-- **The last key with its name** stands among what the other entries are without it. -/
theorem exists_ofList_around (hκ : Scalar.text κ = .ok name)
    (hbefore : ∀ e ∈ before, Scalar.text e.1 = .ok name → e.1 = κ)
    (hafter : ∀ e ∈ after, Scalar.text e.1 ≠ .ok name) :
    ∃ before' after', (∀ v, ofList (before ++ (κ, v) :: after) = before' ++ (κ, v) :: after') ∧
      (∀ e ∈ before' ++ after', Scalar.text e.1 ≠ .ok name) ∧
      (ofList (before ++ after) = before' ++ after' ∨
        ∃ w, ofList (before ++ after) = before' ++ (κ, w) :: after') := by
  have hrest : ∀ e ∈ after, κ.eqv e.1 = false := fun e he => Bool.eq_false_iff.mpr fun heqv =>
    hafter e he (text_of_eqv heqv hκ)
  have hkeys : ∀ (b a b' a' : Entries), (∀ e ∈ b ++ a, Scalar.text e.1 ≠ .ok name) →
      after.foldl (fun es e => es.put e.1 e.2) (b ++ a) = b' ++ a' →
      ∀ e ∈ b' ++ a', Scalar.text e.1 ≠ .ok name := by
    intro b a b' a' hba heq
    rw [← heq]
    exact forall_key_foldl_put (P := fun k => Scalar.text k ≠ .ok name) hba hafter
  -- the name is new where it stands last, or takes the place of the key before it
  rcases hasAtMost_ofList hκ hbefore with hnone | ⟨b, w, a, heq, hother⟩
  · obtain ⟨before', after', hwithout, hwith⟩ := exists_foldl_put_around hrest (ofList before) []
    have hend : ∀ v, (ofList before).put κ v = ofList before ++ [(κ, v)] :=
      put_of_forall_not_eqv fun e he =>
        Bool.eq_false_iff.mpr fun heqv => hnone e he (text_of_eqv_right heqv hκ)
    refine ⟨before', after', fun v => ?_, hkeys _ _ _ _ (by simpa using hnone) hwithout, .inl ?_⟩
    · rw [ofList, List.foldl_append, List.foldl_cons, ← ofList, hend v]
      exact hwith v
    · rw [ofList, List.foldl_append, ← ofList, ← hwithout, List.append_nil]
  · obtain ⟨before', after', hwithout, hwith⟩ := exists_foldl_put_around hrest b a
    have hb : ∀ e ∈ b, e.1.eqv κ = false := fun e he => Bool.eq_false_iff.mpr fun heqv =>
      hother e (List.mem_append_left _ he) (text_of_eqv_right heqv hκ)
    refine ⟨before', after', fun v => ?_, hkeys _ _ _ _ hother hwithout, .inr ⟨w, ?_⟩⟩
    · rw [ofList, List.foldl_append, List.foldl_cons, ← ofList, heq, put_around_self hb]
      exact hwith v
    · rw [ofList, List.foldl_append, ← ofList, heq]
      exact hwith w

end Entries

/-! ### Lists that are related one by one -/

theorem forall₂_append_iff {R : α → β → Prop} {before after : List α} {ys : List β} :
    List.Forall₂ R (before ++ after) ys ↔ ∃ before' after', ys = before' ++ after' ∧
      List.Forall₂ R before before' ∧ List.Forall₂ R after after' := by
  constructor
  · intro h
    induction before generalizing ys with
    | nil => exact ⟨[], ys, rfl, .nil, h⟩
    | cons x before ih =>
      obtain ⟨y, ys, hy, hys, rfl⟩ := List.forall₂_cons_left_iff.mp h
      obtain ⟨before', after', rfl, hbefore, hafter⟩ := ih hys
      exact ⟨y :: before', after', rfl, .cons hy hbefore, hafter⟩
  · rintro ⟨before', after', rfl, hbefore, hafter⟩
    exact List.rel_append hbefore hafter

theorem exists_of_forall₂_around {R : α → β → Prop} {x : α} {before after : List α} {ys : List β}
    (h : List.Forall₂ R (before ++ x :: after) ys) :
    ∃ before' y after', ys = before' ++ y :: after' ∧
      List.Forall₂ R before before' ∧ R x y ∧ List.Forall₂ R after after' := by
  obtain ⟨before', rest, rfl, hbefore, hrest⟩ := forall₂_append_iff.mp h
  obtain ⟨y, after', hy, hafter, rfl⟩ := List.forall₂_cons_left_iff.mp hrest
  exact ⟨before', y, after', rfl, hbefore, hy, hafter⟩

/-! ### Sections -/

/-- **What is found** in a table under a name that no later entry has. -/
theorem Table.get?_ofList {before after : List (String × α)} {name : String} {a : α}
    (h : ∀ e ∈ after, e.1 ≠ name) :
    (Table.ofList (before ++ (name, a) :: after)).get? name = some a := by
  have hafter : ∀ (es : List (String × α)) (t : Table α), (∀ e ∈ es, e.1 ≠ name) →
      (es.foldl (fun t e => t.put e.1 e.2) t).get? name = t.get? name := by
    intro es
    induction es with
    | nil => exact fun t _ => rfl
    | cons e es ih =>
      intro t hes
      obtain ⟨he, hes⟩ := List.forall_mem_cons.mp hes
      rw [List.foldl_cons, ih _ hes, Table.get?_put, if_neg (Ne.symm he)]
  rw [Table.ofList, List.foldl_append, List.foldl_cons, hafter _ _ h, Table.get?_put, if_pos rfl]

/-- The reading of a **section**: of values under names, with the keys of the values as texts down
to a depth. -/
def readNamed (depth : Nat) (read : Value → Checked α) (v : Value) : Checked (Table α) :=
  (normalize (depth + 1) v).bind (tableOf read)

section Sections

variable {depth : Nat} {read : Value → Checked α} {l : Label} {es before after : Entries}
  {k w : Value} {t : Table α} {values : Value → Checked Value}

/-- What an entry **becomes** when its key becomes a text. -/
def BecomesEntry (values : Value → Checked Value) (e f : Value × Value) : Prop :=
  keyText e.1 = .ok f.1 ∧ values e.2 = .ok f.2

/-- What an entry is **read as** in a table. -/
def ReadsEntry (read : Value → Checked α) (f : Value × Value) (x : String × α) : Prop :=
  Scalar.text f.1 = .ok x.1 ∧ read f.2 = .ok x.2

theorem readNamed_eq_ok_iff :
    readNamed depth read (.map l es) = .ok t ↔
      ∃ fs xs, List.Forall₂ (BecomesEntry (normalize depth)) es fs ∧
        List.Forall₂ (ReadsEntry read) (Entries.ofList fs) xs ∧ Table.ofList xs = t := by
  rw [readNamed, Checked.bind_eq_ok_iff]
  constructor
  · rintro ⟨u, hu, ht⟩
    obtain ⟨gs, hgs, rfl⟩ := Checked.map_eq_ok_iff.mp hu
    obtain ⟨fs, hfs, rfl⟩ := renameKeys_eq_ok_iff.mp hgs
    obtain ⟨xs, hxs, ht⟩ := tableOf_eq_ok_iff.mp ht
    exact ⟨fs, xs, hfs, hxs, ht⟩
  · rintro ⟨fs, xs, hfs, hxs, ht⟩
    exact ⟨_, Checked.map_eq_ok_iff.mpr ⟨_, renameKeys_eq_ok_iff.mpr ⟨fs, hfs, rfl⟩, rfl⟩,
      tableOf_eq_ok_iff.mpr ⟨xs, hxs, ht⟩⟩

/-- **The keys of a section that is read have names.** -/
theorem exists_keyName_of_readNamed (h : readNamed depth read (.map l es) = .ok t)
    {e : Value × Value} (he : e ∈ es) : ∃ name, keyName e.1 = .ok name := by
  obtain ⟨fs, xs, hfs, hxs, -⟩ := readNamed_eq_ok_iff.mp h
  obtain ⟨f, hf, hkey, -⟩ := exists_of_mem_forall₂ hfs.flip he
  obtain ⟨g, hg, heqv⟩ := Entries.exists_key_ofList (k := f.1) (v := f.2) hf
  obtain ⟨x, -, hname, -⟩ := exists_of_mem_forall₂ hxs.flip hg
  exact ⟨x.1, keyName_eq_ok_iff.mpr ⟨f.1, hkey, text_of_eqv heqv hname⟩⟩

/-- **Around the last entry with its name**, the others become what they are without it. -/
theorem exists_becomes_around {before' after' : Entries} {κ : Value} {name : String}
    (hlast : before.IsLast k after) (hk : keyText k = .ok κ) (hname : Scalar.text κ = .ok name)
    (hbefore : List.Forall₂ (BecomesEntry values) before before')
    (hafter : List.Forall₂ (BecomesEntry values) after after') :
    ∃ before'' after'',
      (∀ v, Entries.ofList (before' ++ (κ, v) :: after') = before'' ++ (κ, v) :: after'') ∧
      (∀ f ∈ before'' ++ after'', Scalar.text f.1 ≠ .ok name) ∧
      (Entries.ofList (before' ++ after') = before'' ++ after'' ∨
        ∃ w, Entries.ofList (before' ++ after') = before'' ++ (κ, w) :: after'') := by
  have hkname : keyName k = .ok name := keyName_eq_ok_iff.mpr ⟨κ, hk, hname⟩
  refine Entries.exists_ofList_around hname (fun f hf hfname => ?_) fun f hf hfname => ?_
  · obtain ⟨e, he, hkey, -⟩ := exists_of_mem_forall₂ hbefore hf
    have hsame := hlast.earlier e he name hkname (keyName_eq_ok_iff.mpr ⟨f.1, hkey, hfname⟩)
    exact Checked.ok.inj (hkey.symm.trans (hsame.trans hk))
  · obtain ⟨e, he, hkey, -⟩ := exists_of_mem_forall₂ hafter hf
    exact hlast.later e he name hkname (keyName_eq_ok_iff.mpr ⟨f.1, hkey, hfname⟩)

/-- **One entry of a section** that is read: its name, and what its value is read as. -/
theorem get?_of_readNamed (hlast : before.IsLast k after)
    (h : readNamed depth read (.map l (before ++ (k, w) :: after)) = .ok t) :
    ∃ name a, keyName k = .ok name ∧ (normalize depth w).bind read = .ok a ∧
      t.get? name = some a := by
  obtain ⟨name, hk⟩ := exists_keyName_of_readNamed h (e := (k, w)) (by simp)
  obtain ⟨κ, hκ, hname⟩ := keyName_eq_ok_iff.mp hk
  obtain ⟨fs, xs, hfs, hxs, rfl⟩ := readNamed_eq_ok_iff.mp h
  obtain ⟨fb, ⟨κ', u⟩, fa, rfl, hfb, ⟨hκ', hu⟩, hfa⟩ := exists_of_forall₂_around hfs
  obtain rfl := Checked.ok.inj (hκ.symm.trans hκ')
  obtain ⟨gb, ga, haround, hnone, -⟩ := exists_becomes_around hlast hκ hname hfb hfa
  rw [haround u] at hxs
  obtain ⟨xb, ⟨name', a⟩, xa, rfl, -, ⟨hname', ha⟩, hxa⟩ := exists_of_forall₂_around hxs
  obtain rfl := Checked.ok.inj (hname.symm.trans hname')
  refine ⟨name, a, hk, Checked.bind_eq_ok_iff.mpr ⟨u, hu, ha⟩, Table.get?_ofList ?_⟩
  intro x hx hxname
  obtain ⟨g, hg, hgname, -⟩ := exists_of_mem_forall₂ hxa hx
  exact hnone g (List.mem_append_right _ hg) (hxname ▸ hgname)

/-- **A section with an entry more** is read if the key has a name and the value is read. -/
theorem exists_readNamed_of_rest {a : α} {name : String} (hlast : before.IsLast k after)
    (h : readNamed depth read (.map l (before ++ after)) = .ok t) (hk : keyName k = .ok name)
    (ha : (normalize depth w).bind read = .ok a) :
    ∃ t', readNamed depth read (.map l (before ++ (k, w) :: after)) = .ok t' := by
  obtain ⟨κ, hκ, hname⟩ := keyName_eq_ok_iff.mp hk
  obtain ⟨u, hu, ha⟩ := Checked.bind_eq_ok_iff.mp ha
  obtain ⟨fs, xs, hfs, hxs, -⟩ := readNamed_eq_ok_iff.mp h
  obtain ⟨fb, fa, rfl, hfb, hfa⟩ := forall₂_append_iff.mp hfs
  obtain ⟨gb, ga, haround, -, hwithout⟩ := exists_becomes_around hlast hκ hname hfb hfa
  -- an entry with this name is replaced, and the others are read in any case
  obtain ⟨xb, xa, hxb, hxa⟩ : ∃ xb xa, List.Forall₂ (ReadsEntry read) gb xb ∧
      List.Forall₂ (ReadsEntry read) ga xa := by
    rcases hwithout with hwithout | ⟨v, hwithout⟩
    · rw [hwithout] at hxs
      obtain ⟨xb, xa, -, hxb, hxa⟩ := forall₂_append_iff.mp hxs
      exact ⟨xb, xa, hxb, hxa⟩
    · rw [hwithout] at hxs
      obtain ⟨xb, -, xa, -, hxb, -, hxa⟩ := exists_of_forall₂_around hxs
      exact ⟨xb, xa, hxb, hxa⟩
  refine ⟨_, readNamed_eq_ok_iff.mpr ⟨fb ++ (κ, u) :: fa, xb ++ (name, a) :: xa,
    List.rel_append hfb (.cons ⟨hκ, hu⟩ hfa), ?_, rfl⟩⟩
  rw [haround u]
  exact List.rel_append hxb (.cons ⟨hname, ha⟩ hxa)

/-- **A section with a changed value** is read if the new value is. -/
theorem exists_readNamed_of_changed {a : α} {c : Value} (hlast : before.IsLast k after)
    (h : readNamed depth read (.map l (before ++ (k, c) :: after)) = .ok t)
    (ha : (normalize depth w).bind read = .ok a) :
    ∃ t', readNamed depth read (.map l (before ++ (k, w) :: after)) = .ok t' := by
  obtain ⟨name, hk⟩ := exists_keyName_of_readNamed h (e := (k, c)) (by simp)
  obtain ⟨κ, hκ, hname⟩ := keyName_eq_ok_iff.mp hk
  obtain ⟨u, hu, ha⟩ := Checked.bind_eq_ok_iff.mp ha
  obtain ⟨fs, xs, hfs, hxs, -⟩ := readNamed_eq_ok_iff.mp h
  obtain ⟨fb, ⟨κ', u'⟩, fa, rfl, hfb, ⟨hκ', -⟩, hfa⟩ := exists_of_forall₂_around hfs
  obtain rfl := Checked.ok.inj (hκ.symm.trans hκ')
  obtain ⟨gb, ga, haround, -, -⟩ := exists_becomes_around hlast hκ hname hfb hfa
  rw [haround u'] at hxs
  obtain ⟨xb, x, xa, rfl, hxb, -, hxa⟩ := exists_of_forall₂_around hxs
  refine ⟨_, readNamed_eq_ok_iff.mpr ⟨fb ++ (κ, u) :: fa, xb ++ (name, a) :: xa,
    List.rel_append hfb (.cons ⟨hκ, hu⟩ hfa), ?_, rfl⟩⟩
  rw [haround u]
  exact List.rel_append hxb (.cons ⟨hname, ha⟩ hxa)

/-- **A field of a mapping** whose keys become texts: it stays where it is among the others. -/
theorem exists_normalize_zero_around {name : String} {c u : Value}
    (hlast : before.IsLast (.text name) after)
    (h : normalize 0 (.map l (before ++ (.text name, c) :: after)) = .ok u) :
    ∃ before' after', u = .map l (before' ++ (.text name, c) :: after') ∧
      Entries.Lacks before' name ∧
      ∀ w, normalize 0 (.map l (before ++ (.text name, w) :: after)) =
        .ok (.map l (before' ++ (.text name, w) :: after')) := by
  obtain ⟨gs, hgs, rfl⟩ := Checked.map_eq_ok_iff.mp h
  obtain ⟨fs, hfs, rfl⟩ := renameKeys_eq_ok_iff.mp hgs
  obtain ⟨fb, ⟨κ, v⟩, fa, rfl, hfb, ⟨hκ, hv⟩, hfa⟩ := exists_of_forall₂_around
    (R := BecomesEntry .ok) hfs
  obtain rfl := Checked.ok.inj hκ
  obtain rfl := Checked.ok.inj hv
  obtain ⟨gb, ga, haround, hnone, -⟩ := exists_becomes_around hlast rfl rfl hfb hfa
  refine ⟨gb, ga, congrArg _ (haround c), fun g hg hname => ?_, fun w => ?_⟩
  · exact hnone g (List.mem_append_left _ hg) (by rw [hname]; rfl)
  · exact Checked.map_eq_ok_iff.mpr ⟨_, renameKeys_eq_ok_iff.mpr ⟨fb ++ (.text name, w) :: fa,
      List.rel_append hfb (.cons ⟨rfl, rfl⟩ hfa), rfl⟩, congrArg _ (haround w)⟩

end Sections

end StackManifest
