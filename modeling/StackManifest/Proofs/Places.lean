import StackManifest.Value.Address

/-!
# Changes in one place

A change in a container is a change in all its places. If every container around an address stands
in one place only, `StackManifest.Value.Alone`, then `StackManifest.Value.updateAt` changes the value
at the address and nothing else (`StackManifest.Value.Alone.updateAt_eq`). In data in which no
container stands in two places, `StackManifest.Value.Unshared`, this is so at every address.

Places are followed here by `StackManifest.Value.Holds`, which goes through the elements of lists
and the values of mappings only: these are the places where something can be changed. A change
that brings in no new labels (`StackManifest.Value.Keeps`) leaves alone what was alone before.
-/

namespace StackManifest.Value

/-! ### Places -/

/-- The value at an **address** below which everything is in a list or a mapping. -/
inductive Holds : Value → Address → Value → Prop where
  | here (v : Value) : Holds v [] v
  | element {l : Label} {xs : List Value} {i : Nat} {c x : Value} {a : Address} :
    xs[i]? = some c → Holds c a x → Holds (.list l xs) (i :: a) x
  | entry {l : Label} {es : Entries} {i : Nat} {k c x : Value} {a : Address} :
    es[i]? = some (k, c) → Holds c a x → Holds (.map l es) (i :: a) x

section Holds

variable {v x y : Value} {a b : Address} {f g : Value → Value}

theorem Holds.at? (h : v.Holds a x) : v.at? a = some x := by
  induction h with
  | here v => rfl
  | element hc _ ih => simp [Value.at?, children, hc, ih]
  | entry hc _ ih => simp [Value.at?, children, hc, ih]

theorem Holds.append (h : v.Holds a x) (h' : x.Holds b y) : v.Holds (a ++ b) y := by
  induction h with
  | here v => exact h'
  | element hc _ ih => exact .element hc (ih h')
  | entry hc _ ih => exact .entry hc (ih h')

/-- A place below another one is reached **through** it. -/
theorem exists_holds_of_append (h : v.Holds (a ++ b) y) : ∃ x, v.Holds a x ∧ x.Holds b y := by
  induction a generalizing v with
  | nil => exact ⟨v, .here v, h⟩
  | cons i a ih =>
    cases h with
    | element hc h =>
      obtain ⟨x, hx, hy⟩ := ih h
      exact ⟨x, .element hc hx, hy⟩
    | entry hc h =>
      obtain ⟨x, hx, hy⟩ := ih h
      exact ⟨x, .entry hc hx, hy⟩

/-- What is put in a place is **held** there. -/
theorem Holds.inPlace (h : v.Holds a x) : (inPlace f a v).Holds a (f x) := by
  induction h with
  | here v => exact .here _
  | element hc _ ih =>
    refine .element (c := Value.inPlace f _ _) ?_ ih
    rw [List.getElem?_modify_eq, hc]
    rfl
  | @entry l es i k c x a hc _ ih =>
    refine .entry (k := k) (c := Value.inPlace f _ _) ?_ ih
    rw [List.getElem?_modify_eq, hc]
    rfl

theorem modify_congr {α : Type} {xs : List α} {i : Nat} {f g : α → α} {c : α}
    (hc : xs[i]? = some c) (h : f c = g c) : xs.modify i f = xs.modify i g := by
  refine List.ext_getElem? fun j => ?_
  rw [List.getElem?_modify, List.getElem?_modify]
  by_cases hij : i = j
  · subst hij
    simp [hc, h]
  · simp [hij]

/-- A change is the same as **putting** the changed value there. -/
theorem Holds.inPlace_congr (h : v.Holds a x) (hfg : f x = g x) :
    Value.inPlace f a v = Value.inPlace g a v := by
  induction h with
  | here v => exact hfg
  | element hc _ ih => exact congrArg (Value.list _) (modify_congr hc (ih hfg))
  | entry hc _ ih =>
    refine congrArg (Value.map _) (modify_congr hc ?_)
    exact congrArg (Prod.mk _) (ih hfg)

theorem modify_eq_self {α : Type} {xs : List α} {i : Nat} {f : α → α} {c : α}
    (hc : xs[i]? = some c) (h : f c = c) : xs.modify i f = xs :=
  (modify_congr (g := id) hc h).trans (List.modify_id i xs)

/-- Putting a value **where it is** changes nothing. -/
theorem Holds.inPlace_self (h : v.Holds a x) : Value.inPlace (fun _ => x) a v = v := by
  induction h with
  | here v => rfl
  | element hc _ ih => exact congrArg (Value.list _) (modify_eq_self hc ih)
  | entry hc _ ih => exact congrArg (Value.map _) (modify_eq_self hc (congrArg (Prod.mk _) ih))

theorem inPlace_append (f : Value → Value) (a b : Address) (v : Value) :
    Value.inPlace f (a ++ b) v = Value.inPlace (Value.inPlace f b) a v := by
  induction a generalizing v with
  | nil => rfl
  | cons i a ih =>
    rw [List.cons_append, Value.inPlace, Value.inPlace]
    congr 1
    exact funext ih

/-- A change **below a place** puts there what it makes of the value. -/
theorem Holds.inPlace_append_eq {y : Value} {b : Address} (h : v.Holds a x)
    (hput : Value.inPlace f b x = y) :
    Value.inPlace f (a ++ b) v = Value.inPlace (fun _ => y) a v := by
  rw [inPlace_append]
  exact h.inPlace_congr hput

theorem inPlace_inPlace (f g : Value → Value) (a : Address) (v : Value) :
    Value.inPlace g a (Value.inPlace f a v) = Value.inPlace (g ∘ f) a v := by
  induction a generalizing v with
  | nil => rfl
  | cons i a ih =>
    rw [Value.inPlace, Value.inPlace, Value.inPlace]
    have hcomp : Value.inPlace g a ∘ Value.inPlace f a = Value.inPlace (g ∘ f) a := funext ih
    cases v with
    | list l xs => simp [modifyChild, List.modify_modify_eq, hcomp]
    | tuple xs => simp [modifyChild, List.modify_modify_eq, hcomp]
    | map l es =>
      simp only [modifyChild, List.modify_modify_eq]
      congr 2
      exact funext fun e => congrArg (Prod.mk e.1) (ih e.2)
    | _ => rfl

end Holds

/-! ### Containers that stand in one place -/

/-- Whether a value is a list, a set or a mapping. -/
def IsContainer : Value → Prop
  | .list .. | .set .. | .map .. => True
  | _ => False

/-- Data in which **no container stands in two places**: its label is found in one only. -/
def Unshared (v : Value) : Prop :=
  ∀ a b x y, v.at? a = some x → v.at? b = some y → x.IsContainer → x.label ≠ 0 →
    y.label = x.label → a = b

/-- **The containers around an address** stand in one place only, and so does what is there: their
labels are found in these places only. -/
def Alone (v : Value) (a : Address) : Prop :=
  ∀ p b x y, p <+: a → v.at? p = some x → v.at? b = some y → x.IsContainer → x.label ≠ 0 →
    y.label = x.label → p = b

/-- A change after which every label stands where the **same label** stood before. -/
def Keeps (v v' : Value) : Prop :=
  ∀ a x', v'.at? a = some x' → x'.label ≠ 0 →
    ∃ x, v.at? a = some x ∧ x.label = x'.label ∧ (x'.IsContainer → x.IsContainer)

variable {v v' x x' : Value} {a : Address} {l : Label}

theorem Unshared.alone (h : v.Unshared) (a : Address) : v.Alone a :=
  fun p b x y _ hx hy => h p b x y hx hy

theorem Alone.of_keeps (h : v.Alone a) (hk : v.Keeps v') : v'.Alone a := by
  intro p b x' y' hp hx' hy' hcontainer hlabel heq
  obtain ⟨x, hx, hxl, hxc⟩ := hk p x' hx' hlabel
  obtain ⟨y, hy, hyl, -⟩ := hk b y' hy' (heq ▸ hlabel)
  exact h p b x y hp hx hy (hxc hcontainer) (hxl ▸ hlabel) (hyl.trans (heq.trans hxl.symm))

theorem Unshared.of_keeps (h : v.Unshared) (hk : v.Keeps v') : v'.Unshared :=
  fun a b x y hx hy => (h.alone a).of_keeps hk a b x y (List.prefix_refl a) hx hy

theorem Keeps.refl (v : Value) : v.Keeps v := fun _ x hx _ => ⟨x, hx, rfl, id⟩

theorem Keeps.trans {w : Value} (h : v.Keeps v') (h' : v'.Keeps w) : v.Keeps w := by
  intro a y hy hlabel
  obtain ⟨x', hx', hl', hc'⟩ := h' a y hy hlabel
  obtain ⟨x, hx, hl, hc⟩ := h a x' hx' (hl'.symm ▸ hlabel)
  exact ⟨x, hx, hl.trans hl', hc ∘ hc'⟩

/-- What is said of **every place** is said of the value itself, and of every place in its parts. -/
theorem forall_at?_iff {P : Value → Prop} :
    (∀ a x, v.at? a = some x → P x) ↔
      P v ∧ ∀ c ∈ v.children, ∀ a x, c.at? a = some x → P x := by
  constructor
  · refine fun h => ⟨h [] v rfl, fun c hc a x hx => ?_⟩
    obtain ⟨i, hi⟩ := List.mem_iff_getElem?.mp hc
    exact h (i :: a) x (by rw [Value.at?, hi]; exact hx)
  · rintro ⟨hv, h⟩ (_ | ⟨i, a⟩) x hx
    · exact Option.some.inj hx ▸ hv
    · obtain ⟨c, hc, hx⟩ := Option.bind_eq_some_iff.mp hx
      exact h c (List.mem_of_getElem? hc) a x hx

/-- Data **without labels**. -/
def Unlabelled (v : Value) : Prop := ∀ a x, v.at? a = some x → x.label = 0

theorem unlabelled_iff : v.Unlabelled ↔ v.label = 0 ∧ ∀ c ∈ v.children, c.Unlabelled :=
  forall_at?_iff

theorem unlabelled_int (n : Int) : (int n).Unlabelled :=
  unlabelled_iff.mpr ⟨rfl, by simp [children]⟩

theorem unlabelled_bytes (bs : List UInt8) : (bytes bs).Unlabelled := by
  refine unlabelled_iff.mpr ⟨rfl, fun c hc => ?_⟩
  obtain ⟨b, -, rfl⟩ := List.mem_map.mp hc
  exact unlabelled_int _

/-- In a text there are only texts. -/
theorem unlabelled_text (s : String) : (text s).Unlabelled := by
  intro a
  induction a generalizing s with
  | nil => exact fun x hx => Option.some.inj hx ▸ rfl
  | cons i a ih =>
    intro x hx
    obtain ⟨c, hc, hx⟩ := Option.bind_eq_some_iff.mp hx
    obtain ⟨ch, -, rfl⟩ := List.mem_map.mp (List.mem_of_getElem? hc)
    exact ih _ x hx

/-- Data without labels is not shared. -/
theorem Unlabelled.unshared (h : v.Unlabelled) : v.Unshared :=
  fun a _ x _ hx _ _ hlabel _ => absurd (h a x hx) hlabel

/-- A value **without labels** may take the place of any other. -/
theorem Keeps.of_unlabelled (h : v'.Unlabelled) : v.Keeps v' :=
  fun a x hx hlabel => absurd (h a x hx) hlabel

/-- A change of **one child** that brings in no labels in the child brings in none at all. -/
theorem Keeps.modifyChild {i : Nat} {c : Value} {f : Value → Value} (hc : v.children[i]? = some c)
    (hlabel : (v.modifyChild i f).label = v.label)
    (hcontainer : (v.modifyChild i f).IsContainer → v.IsContainer)
    (hchildren : (v.modifyChild i f).children = v.children.modify i f) (hk : c.Keeps (f c)) :
    v.Keeps (v.modifyChild i f) := by
  rintro (_ | ⟨j, b⟩) y' hy' hl
  · obtain rfl := Option.some.inj hy'
    exact ⟨v, rfl, hlabel.symm, hcontainer⟩
  · simp only [Value.at?, hchildren, List.getElem?_modify] at hy' ⊢
    by_cases hij : i = j
    · subst hij
      simp only [hc, if_true, Option.map_eq_map, Option.map_some, Option.bind_some] at hy' ⊢
      exact hk b y' hy' hl
    · simp only [hij, if_false, id_map'] at hy'
      exact ⟨y', hy', rfl, id⟩

/-- A change in a place that brings in no labels **there** brings in none at all. -/
theorem Keeps.inPlace (h : v.Holds a x) (hk : x.Keeps x') :
    v.Keeps (Value.inPlace (fun _ => x') a v) := by
  induction h with
  | here v => exact hk
  | element hc _ ih => exact .modifyChild (v := .list _ _) hc rfl id rfl (ih hk)
  | @entry l es i k c x a hc _ ih =>
    refine .modifyChild (v := .map l es) (by simp [children, hc]) rfl id ?_ (ih hk)
    refine List.ext_getElem? fun j => ?_
    by_cases hij : i = j <;> simp [children, Value.modifyChild, hij, Function.comp_def]

/-! ### Replacing a container -/

theorem replacedList_eq_map (xs : List Value) (l : Label) (new : Value) :
    replacedList xs l new = xs.map (·.replaced l new) := by
  induction xs with
  | nil => rfl
  | cons x xs ih => rw [replacedList, ih, List.map_cons]

theorem replacedEntries_eq_map (es : Entries) (l : Label) (new : Value) :
    replacedEntries es l new = es.map fun e => (e.1, e.2.replaced l new) := by
  induction es with
  | nil => rfl
  | cons e es ih => rw [replacedEntries, ih, List.map_cons]

/-- Where a label **does not stand**, nothing is replaced. -/
theorem replaced_of_absent (l : Label) (new : Value) :
    ∀ v : Value, (∀ a x, v.at? a = some x → x.label ≠ l) → v.replaced l new = v
  | .list k xs, h => by
    have hxs : ∀ x ∈ xs, x.replaced l new = x := fun x hx =>
      replaced_of_absent l new x fun a y hy => by
        obtain ⟨i, hi⟩ := List.mem_iff_getElem?.mp hx
        exact h (i :: a) y (by simp [Value.at?, children, hi, hy])
    rw [replaced, if_neg (h [] _ rfl), replacedList_eq_map]
    exact congrArg (Value.list k) ((List.map_congr_left hxs).trans (List.map_id' xs))
  | .tuple xs, h => by
    have hxs : ∀ x ∈ xs, x.replaced l new = x := fun x hx =>
      replaced_of_absent l new x fun a y hy => by
        obtain ⟨i, hi⟩ := List.mem_iff_getElem?.mp hx
        exact h (i :: a) y (by simp [Value.at?, children, hi, hy])
    rw [replaced, if_neg (h [] _ rfl), replacedList_eq_map]
    exact congrArg Value.tuple ((List.map_congr_left hxs).trans (List.map_id' xs))
  | .map k es, h => by
    have hes : ∀ e ∈ es, (e.1, e.2.replaced l new) = e := fun e he =>
      congrArg (Prod.mk e.1) <| replaced_of_absent l new e.2 fun a y hy => by
        obtain ⟨i, hi⟩ := List.mem_iff_getElem?.mp he
        exact h (i :: a) y (by simp [Value.at?, children, hi, hy])
    rw [replaced, if_neg (h [] _ rfl), replacedEntries_eq_map]
    exact congrArg (Value.map k) ((List.map_congr_left hes).trans (List.map_id' es))
  | .null, h | .bool _, h | .int _, h | .float _, h | .text _, h | .bytes _, h | .date .., h
  | .moment .., h | .set .., h => by
    rw [replaced.eq_def]
    exact if_neg (h [] _ rfl)
termination_by v => sizeOf v
decreasing_by
  · have := List.sizeOf_lt_of_mem hx
    simp only [list.sizeOf_spec]
    omega
  · have := List.sizeOf_lt_of_mem hx
    simp only [tuple.sizeOf_spec]
    omega
  · have := List.sizeOf_lt_of_mem he
    obtain ⟨k', y⟩ := e
    simp only [map.sizeOf_spec, Prod.mk.sizeOf_spec] at this ⊢
    omega

theorem replaced_of_label_eq {new : Value} (h : v.label = l) : v.replaced l new = new := by
  rw [replaced.eq_def]
  exact if_pos h

section OnlyPlace

variable {i j : Nat} {c w new : Value}
  (honly : ∀ b x, v.at? b = some x → x.label = l → b = i :: a)

include honly

/-- A label that stands in one place only stands in one place of **the child** on the way. -/
theorem only_in_child (hc : v.children[i]? = some c) (b : Address) (x : Value)
    (hx : c.at? b = some x) (hlabel : x.label = l) : b = a :=
  (List.cons.inj (honly (i :: b) x (by rw [Value.at?, hc]; exact hx) hlabel)).2

/-- In **any other child** nothing is replaced. -/
theorem replaced_of_other_child (hij : i ≠ j) (hw : v.children[j]? = some w) :
    w.replaced l new = w :=
  replaced_of_absent l new w fun b x hx hlabel =>
    hij (List.cons.inj (honly (j :: b) x (by rw [Value.at?, hw]; exact hx) hlabel)).1.symm

end OnlyPlace

/-- Where a label stands **in one place only**, it is replaced there. -/
theorem replaced_eq_inPlace {new c : Value} (h : v.Holds a c) (hl : c.label = l)
    (honly : ∀ b x, v.at? b = some x → x.label = l → b = a) :
    v.replaced l new = inPlace (fun _ => new) a v := by
  induction h with
  | here v => exact replaced_of_label_eq hl
  | @element k xs i c x a hc _ ih =>
    have hroot : (list k xs).label ≠ l := fun hk =>
      List.cons_ne_nil _ _ (honly [] _ rfl hk).symm
    have hchild : c.replaced l new = inPlace (fun _ => new) a c := ih hl (only_in_child honly hc)
    rw [replaced, if_neg hroot, replacedList_eq_map, inPlace, modifyChild]
    refine congrArg (Value.list k) (List.ext_getElem? fun j => ?_)
    rw [List.getElem?_map, List.getElem?_modify]
    by_cases hij : i = j
    · subst hij
      simp [hc, hchild]
    · cases hj : xs[j]? with
      | none => rfl
      | some w => simp [hij, replaced_of_other_child honly hij hj]
  | @entry k es i key c x a hc _ ih =>
    have hroot : (map k es).label ≠ l := fun hk =>
      List.cons_ne_nil _ _ (honly [] _ rfl hk).symm
    have hvalue : (map k es).children[i]? = some c := by simp [children, hc]
    have hchild : c.replaced l new = inPlace (fun _ => new) a c :=
      ih hl (only_in_child honly hvalue)
    rw [replaced, if_neg hroot, replacedEntries_eq_map, inPlace, modifyChild]
    refine congrArg (Value.map k) (List.ext_getElem? fun j => ?_)
    rw [List.getElem?_map, List.getElem?_modify]
    by_cases hij : i = j
    · subst hij
      simp [hc, hchild]
    · cases hj : es[j]? with
      | none => rfl
      | some e =>
        have hother : (map k es).children[j]? = some e.2 := by simp [children, hj]
        simp [hij, replaced_of_other_child honly hij hother]

/-- Only lists and mappings hold anything below them. -/
theorem Holds.isContainer (h : v.Holds a x) (ha : a ≠ []) : v.IsContainer := by
  cases h with
  | here => exact absurd rfl ha
  | element => trivial
  | entry => trivial

/-- **Where the containers around it stand alone, a change is made in one place.** -/
theorem Alone.updateAt_eq (h : v.Alone a) (hx : v.Holds a x) (hl : x.label = 0)
    (f : Value → Value) : v.updateAt f a = Value.inPlace f a v := by
  rw [updateAt]
  cases hn : v.labelledPrefix a with
  | none => rfl
  | some n =>
    have hsplit : v.Holds (a.take n ++ a.drop n) x := by rwa [List.take_append_drop]
    obtain ⟨c, hc, hcx⟩ := exists_holds_of_append hsplit
    have hlabel : c.label ≠ 0 := by
      have := List.find?_some hn
      simp only [hc.at?] at this
      exact of_decide_eq_true this
    -- the value itself has no label, so the container with one is above it
    have hbelow : a.drop n ≠ [] := by
      intro hnil
      rw [hnil] at hcx
      cases hcx
      exact hlabel hl
    -- that container stands in one place only, so replacing it is a change there
    have honly : ∀ b y, v.at? b = some y → y.label = c.label → b = a.take n := fun b y hy heq =>
      (h _ b c y (List.take_prefix n a) hc.at? hy (hcx.isContainer hbelow) hlabel heq).symm
    simp only [hc.at?]
    rw [replaced_eq_inPlace hc rfl honly, ← hc.inPlace_append_eq rfl, List.take_append_drop]

end StackManifest.Value
