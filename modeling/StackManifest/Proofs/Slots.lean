import StackManifest.Document.Writer
import StackManifest.Proofs.Leaves

/-!
# Changes in all places

A container may stand in several places, and then so do the leaves in it. Which leaves are one and
the same is told by their **slot** (`StackManifest.Value.slot`): the label of the innermost
container around them that carries one, and the address in it. Where a label stands for one value
only (`StackManifest.Value.Coherent`), leaves with one slot are equal
(`StackManifest.Value.Coherent.leaf?_eq`).

In such data a leaf is changed by changing **all leaves with its slot**
(`StackManifest.Value.Coherent.updateAt_eq`), and what comes out is such data again
(`StackManifest.Value.Coherent.mapLeaves`). This is how the places of
`StackManifest.Proofs.Places` are left behind: the slots are those of the data at the beginning,
whatever is changed later.
-/

namespace StackManifest.Value

variable {v x y c : Value} {a b p q s : Address} {i : Nat} {l : Label}

/-! ### Slots -/

/-- The **slot** of an address: the label of the innermost container on the way that carries one,
and the rest of the way. Without such a container it is the whole way. -/
def slot : Value → Address → Label × Address
  | v, [] => (v.label, [])
  | v, i :: a =>
    match v.children[i]? with
    | some c => if (c.slot a).1 = 0 then (v.label, i :: a) else c.slot a
    | none => (v.label, i :: a)

theorem slot_cons (hc : v.children[i]? = some c) :
    v.slot (i :: a) = if (c.slot a).1 = 0 then (v.label, i :: a) else c.slot a := by
  rw [slot, hc]

/-- **No label is left out** that is on the way. -/
theorem label_eq_zero_of_slot (h : (v.slot a).1 = 0) : v.label = 0 ∧ (v.slot a).2 = a := by
  cases a with
  | nil => exact ⟨h, rfl⟩
  | cons i a =>
    rw [slot] at h ⊢
    split at h
    · split at h
      · rename_i hc h0
        exact ⟨h, by simp [h0]⟩
      · rename_i h0
        exact absurd h h0
    · exact ⟨h, rfl⟩

theorem slot_of_isLeaf (h : v.isLeaf = true) : v.slot a = (0, a) := by
  induction a generalizing v with
  | nil => rw [slot, label_of_isLeaf h]
  | cons i a ih =>
    cases hc : v.children[i]? with
    | none => rw [slot, hc, label_of_isLeaf h]
    | some c => rw [slot_cons hc, ih (isLeaf_of_children h hc), if_pos rfl, label_of_isLeaf h]

/-- The slot of an address **leads to the container** with its label, and from there on it is the
same slot. -/
theorem exists_of_slot (h : v.slot a = (l, s)) :
    ∃ p c, a = p ++ s ∧ v.at? p = some c ∧ c.label = l ∧ c.slot s = (l, s) := by
  induction a generalizing v with
  | nil =>
    obtain ⟨hlabel, rfl⟩ := Prod.mk.inj h
    exact ⟨[], v, rfl, rfl, hlabel, h⟩
  | cons i a ih =>
    have hslot := h
    rw [slot] at h
    split at h
    · rename_i c hc
      split at h
      · obtain ⟨hlabel, rfl⟩ := Prod.mk.inj h
        exact ⟨[], v, rfl, rfl, hlabel, hslot⟩
      · obtain ⟨p, d, rfl, hd, hlabel, hs⟩ := ih h
        exact ⟨i :: p, d, rfl, by rw [at?, hc]; exact hd, hlabel, hs⟩
    · obtain ⟨hlabel, rfl⟩ := Prod.mk.inj h
      exact ⟨[], v, rfl, rfl, hlabel, hslot⟩

/-- Below a container with a label, slots are **slots of this container**. -/
theorem slot_append (hx : v.at? a = some x) (hl : x.label ≠ 0) : v.slot (a ++ b) = x.slot b := by
  induction a generalizing v with
  | nil =>
    obtain rfl := Option.some.inj hx
    rfl
  | cons i a ih =>
    obtain ⟨c, hc, hx⟩ := Option.bind_eq_some_iff.mp hx
    have hne : (x.slot b).1 ≠ 0 := fun h => hl (label_eq_zero_of_slot h).1
    rw [List.cons_append, slot_cons hc, ih hx, if_neg hne]

theorem slot_mapLeaves {f : Address → Value → Value}
    (hf : KeepsLeaves f) : (mapLeaves f v).slot a = v.slot a := by
  induction a generalizing v f with
  | nil => rw [slot, slot, label_mapLeaves hf]
  | cons i a ih =>
    cases hv : v.isLeaf with
    | true => rw [slot_of_isLeaf hv, slot_of_isLeaf ((isLeaf_mapLeaves hf).trans hv)]
    | false =>
      have hchild : (mapLeaves f v).children[i]? =
          v.children[i]?.map (mapLeaves fun a => f (i :: a)) := by
        rw [mapLeaves_of_inner hv, children_mapChildren hv]
      rw [slot, slot, hchild, label_mapLeaves hf]
      cases v.children[i]? with
      | none => rfl
      | some c => simp only [Option.map_some, ih (hf.comp (i :: ·))]

/-- What carries a label after a change of the leaves is **what was there**, with its leaves
changed. -/
theorem exists_of_at?_mapLeaves {f : Address → Value → Value}
    (hf : KeepsLeaves f) (hx : (mapLeaves f v).at? a = some x)
    (hl : x.label ≠ 0) : ∃ y, v.at? a = some y ∧ x = y.mapLeaves fun b => f (a ++ b) := by
  induction a generalizing v f with
  | nil => exact ⟨v, rfl, (Option.some.inj hx).symm⟩
  | cons i a ih =>
    cases hv : v.isLeaf with
    | true => exact absurd (unlabelled_of_isLeaf ((isLeaf_mapLeaves hf).trans hv) _ _ hx) hl
    | false =>
      rw [at?, mapLeaves_of_inner hv, children_mapChildren hv] at hx
      cases hc : v.children[i]? with
      | none =>
        rw [hc] at hx
        cases hx
      | some c =>
        rw [hc] at hx
        obtain ⟨y, hy, rfl⟩ := ih (hf.comp (i :: ·)) hx
        exact ⟨y, by rw [at?, hc]; exact hy, rfl⟩

/-! ### Labels that stand for one value -/

/-- Data in which **a label stands for one value**. -/
def Coherent (v : Value) : Prop :=
  ∀ a b x y, v.at? a = some x → v.at? b = some y → x.label ≠ 0 → x.label = y.label → x = y

/-- A container with a label is larger than any that is **below it**. -/
theorem sizeOf_lt_of_at? (hx : v.at? a = some x) (ha : a ≠ []) (hl : x.label ≠ 0) :
    sizeOf x < sizeOf v := by
  induction a generalizing v with
  | nil => exact absurd rfl ha
  | cons i a ih =>
    cases hv : v.isLeaf with
    | true => exact absurd (unlabelled_of_isLeaf hv _ _ hx) hl
    | false =>
      obtain ⟨c, hc, hx⟩ := Option.bind_eq_some_iff.mp hx
      have hlt := sizeOf_lt_of_children hv hc
      cases a with
      | nil =>
        obtain rfl := Option.some.inj hx
        exact hlt
      | cons j a => exact Nat.lt_trans (ih hx (List.cons_ne_nil j a)) hlt

namespace Coherent

theorem of_at? (h : v.Coherent) (hx : v.at? a = some x) : x.Coherent := by
  intro b b' y z hy hz
  rw [← at?_append hx] at hy hz
  exact h _ _ y z hy hz

/-- **One slot, one leaf.** -/
theorem leaf?_eq (h : v.Coherent) (hslot : v.slot a = v.slot b) : v.leaf? a = v.leaf? b := by
  obtain ⟨⟨l, s⟩, hs⟩ : ∃ ls, v.slot a = ls := ⟨_, rfl⟩
  by_cases hl : l = 0
  · subst hl
    have ha := (label_eq_zero_of_slot (congrArg Prod.fst hs)).2
    have hb := (label_eq_zero_of_slot (congrArg Prod.fst (hslot.symm.trans hs))).2
    rw [← hslot] at hb
    rw [ha.symm.trans hb]
  · obtain ⟨p, c, rfl, hc, hlabel, -⟩ := exists_of_slot hs
    obtain ⟨q, d, rfl, hd, hlabel', -⟩ := exists_of_slot (hslot.symm.trans hs)
    obtain rfl := h p q c d hc hd (hlabel ▸ hl) (hlabel.trans hlabel'.symm)
    have hleaf := isLeaf_of_label (hlabel ▸ hl)
    rw [leaf?_append hc hleaf, leaf?_append hd hleaf]

/-- A container with a label does not stand **in itself**. -/
theorem eq_nil_of_label (h : v.Coherent) (hx : v.at? a = some x) (hl : v.label ≠ 0)
    (hlabel : x.label = v.label) : a = [] := by
  refine Decidable.byContradiction fun ha => ?_
  have hlt := sizeOf_lt_of_at? hx ha (hlabel ▸ hl)
  obtain rfl := h [] a v x rfl hx hl hlabel.symm
  exact Nat.lt_irrefl _ hlt

/-- **After a change of the leaves that looks at their slots only**, a label still stands for one
value. -/
theorem mapLeaves (h : v.Coherent) {g : Label × Address → Value → Value} (hg : KeepsLeaves g) :
    (v.mapLeaves fun a => g (v.slot a)).Coherent := by
  -- what carries a label is changed by its own slots
  have hat : ∀ a x', (v.mapLeaves fun a => g (v.slot a)).at? a = some x' → x'.label ≠ 0 →
      ∃ x, v.at? a = some x ∧ x.label = x'.label ∧ x' = x.mapLeaves fun b => g (x.slot b) := by
    intro a x' hx' hl
    obtain ⟨x, hx, rfl⟩ := exists_of_at?_mapLeaves (hg.comp v.slot) hx' hl
    have hlabel : (x.mapLeaves fun b => g (v.slot (a ++ b))).label = x.label :=
      label_mapLeaves (hg.comp fun b => v.slot (a ++ b))
    refine ⟨x, hx, hlabel.symm, mapLeaves_congr fun b y _ => ?_⟩
    rw [slot_append hx (hlabel ▸ hl)]
  intro a b x' y' hx' hy' hl hlabel
  obtain ⟨x, hx, hlx, rfl⟩ := hat a x' hx' hl
  obtain ⟨y, hy, hly, rfl⟩ := hat b y' hy' (hlabel ▸ hl)
  obtain rfl := h a b x y hx hy (hlx ▸ hl) (hlx.trans (hlabel.trans hly.symm))
  rfl

end Coherent

/-! ### Changing a leaf -/

theorem labelledPrefix_cons (hc : v.children[i]? = some c) :
    v.labelledPrefix (i :: a) =
      ((c.labelledPrefix a).map (· + 1)).or (if v.label = 0 then none else some 0) := by
  rw [labelledPrefix, labelledPrefix, List.length_cons, List.range_succ_eq_map, List.reverse_cons,
    List.find?_append, ← List.map_reverse, List.find?_map]
  congr 1
  · refine congrArg (Option.map _) (congrArg (List.find? · _) (funext fun n => ?_))
    simp [at?, hc]
  · by_cases hl : v.label = 0
    · simp [at?, hl]
    · simp [at?, hl]

/-- The innermost container with a label is the one that the **slot** names. -/
theorem labelledPrefix_eq (hx : v.at? a = some x) :
    v.labelledPrefix a =
      if (v.slot a).1 = 0 then none else some (a.length - (v.slot a).2.length) := by
  induction a generalizing v with
  | nil =>
    by_cases hl : v.label = 0
    · simp [labelledPrefix, slot, at?, hl]
    · simp [labelledPrefix, slot, at?, hl]
  | cons i a ih =>
    obtain ⟨c, hc, hx⟩ := Option.bind_eq_some_iff.mp hx
    rw [labelledPrefix_cons hc, slot_cons hc, ih hx]
    by_cases h0 : (c.slot a).1 = 0
    · simp [h0]
    · obtain ⟨p, -, ha, -⟩ := exists_of_slot (v := c) (a := a) rfl
      have hlength := congrArg List.length ha
      rw [List.length_append] at hlength
      simp only [if_neg h0, Option.map_some, Option.some_or, List.length_cons]
      exact congrArg some (by omega)

/-- A change is made **in the container that the slot names**, in all its places. -/
theorem exists_updateAt_eq {f : Value → Value} (hx : v.at? a = some x) (hs : v.slot a = (l, s))
    (hl : l ≠ 0) : ∃ p c, a = p ++ s ∧ v.at? p = some c ∧ c.label = l ∧ c.slot s = (l, s) ∧
      v.updateAt f a = v.replaced l (c.inPlace f s) := by
  obtain ⟨p, c, rfl, hc, hlabel, hslot⟩ := exists_of_slot hs
  refine ⟨p, c, rfl, hc, hlabel, hslot, ?_⟩
  rw [updateAt, labelledPrefix_eq hx, hs, if_neg hl, List.length_append, Nat.add_sub_cancel]
  simp only [List.take_left, List.drop_left, hc, hlabel]

/-- In a container that does not stand in itself, the slots with **its own label** are its
addresses. -/
theorem Coherent.slot_eq_iff (hc : c.Coherent) (hl : l ≠ 0) (hlabel : c.label = l)
    (hs : c.slot s = (l, s)) {b : Address} : c.slot b = (l, s) ↔ b = s := by
  constructor
  · intro hb
    obtain ⟨p, d, rfl, hd, hdl, -⟩ := exists_of_slot hb
    obtain rfl := hc.eq_nil_of_label hd (hlabel ▸ hl) (hdl.trans hlabel.symm)
    rfl
  · rintro rfl
    exact hs

/-- A slot with the label of **another container** is one of what stands in the value. -/
theorem slot_cons_eq_iff (hl : l ≠ 0) (hv : v.label ≠ l) {d : Value} {i : Nat} {b : Address}
    (hd : v.children[i]? = some d) : v.slot (i :: b) = (l, s) ↔ d.slot b = (l, s) := by
  rw [slot_cons hd]
  split
  · rename_i h0
    refine iff_of_false (fun h => hv (Prod.mk.inj h).1) fun h => hl ?_
    rw [← h0, h]
  · exact Iff.rfl

/-- **Replacing a container** whose label stands for it, by what it becomes when one leaf of it is
changed, changes all leaves with the slot of this one. -/
theorem replaced_eq_mapLeaves (hl : l ≠ 0) (hlabel : c.label = l) (hc : c.Coherent)
    (hs : c.slot s = (l, s)) (honly : ∀ b z, v.at? b = some z → z.label = l → z = c) :
    v.replaced l (c.mapLeaves fun b z => if b = s then y else z) =
      v.mapLeaves fun b z => if v.slot b = (l, s) then y else z := by
  induction v using inner_induction with
  | h v ih =>
    by_cases hv : v.label = l
    · obtain rfl := honly [] v rfl hv
      rw [replaced_of_label_eq hv]
      exact mapLeaves_congr fun b z hz => by simp only [hc.slot_eq_iff hl hlabel hs]
    · rw [replaced_eq_mapChildren hv]
      cases hleaf : v.isLeaf with
      | true =>
        have hne : v.slot [] ≠ (l, s) := fun h => hv (Prod.mk.inj h).1
        rw [mapLeaves_of_isLeaf hleaf, if_neg hne]
        cases v with
        | null | bool | int | float | text | bytes => rfl
        | _ => cases hleaf
      | false =>
        rw [mapLeaves_of_inner hleaf]
        refine mapChildren_congr fun i d hd => ?_
        have honly' : ∀ b z, d.at? b = some z → z.label = l → z = c := fun b z hz =>
          honly (i :: b) z (by rw [at?, hd]; exact hz)
        rw [ih hleaf i d hd honly']
        exact mapLeaves_congr fun b z _ => by simp only [slot_cons_eq_iff hl hv hd]

/-- **A leaf is changed by changing all leaves with its slot.** -/
theorem Coherent.updateAt_eq (h : v.Coherent) (hx : v.leaf? a = some x) :
    v.updateAt (fun _ => y) a = v.mapLeaves fun b z => if v.slot b = v.slot a then y else z := by
  obtain ⟨hat, -⟩ := at?_of_leaf? hx
  obtain ⟨⟨l, s⟩, hs⟩ : ∃ ls, v.slot a = ls := ⟨_, rfl⟩
  by_cases hl : l = 0
  · subst hl
    -- no container around the leaf carries a label, so that its address is its slot
    obtain rfl : s = a := (hs ▸ label_eq_zero_of_slot (congrArg Prod.fst hs)).2
    have hslot : ∀ b, v.slot b = (0, s) ↔ b = s := by
      intro b
      constructor
      · intro hb
        have := (label_eq_zero_of_slot (congrArg Prod.fst hb)).2
        rw [hb] at this
        exact this.symm
      · rintro rfl
        exact hs
    rw [updateAt, labelledPrefix_eq hat, hs, if_pos rfl]
    simp only [hslot]
    exact inPlace_eq_mapLeaves hx
  · obtain ⟨p, c, rfl, hc, hlabel, hcs, hupdate⟩ := exists_updateAt_eq (f := fun _ => y) hat hs hl
    have hcx : c.leaf? s = some x := by rwa [← leaf?_append hc (isLeaf_of_label (hlabel ▸ hl))]
    rw [hupdate, hs, inPlace_eq_mapLeaves hcx]
    exact replaced_eq_mapLeaves hl hlabel (h.of_at? hc) hcs fun b z hz hzl =>
      h b p z c hz hc (hzl ▸ hl) (hzl.trans hlabel.symm)

/-! ### Data without labels -/

theorem unsharedList_eq_map (xs : List Value) : unsharedList xs = xs.map unshared := by
  induction xs with
  | nil => rfl
  | cons x xs ih => rw [unsharedList, ih, List.map_cons]

theorem unsharedEntries_eq_map (es : Entries) :
    unsharedEntries es = es.map fun e => (e.1.unshared, e.2.unshared) := by
  induction es with
  | nil => rfl
  | cons e es ih => rw [unsharedEntries, ih, List.map_cons]

theorem unshared_of_isLeaf (h : v.isLeaf = true) : v.unshared = v := by
  cases v with
  | date | moment | tuple | list | set | map => cases h
  | _ => rfl

theorem isLeaf_unshared (v : Value) : v.unshared.isLeaf = v.isLeaf := by
  cases v <;> rfl

theorem label_unshared (v : Value) : v.unshared.label = 0 := by
  cases v <;> rfl

theorem children_unshared (h : v.isLeaf = false) :
    v.unshared.children[i]? = v.children[i]?.map unshared := by
  cases v with
  | tuple xs => simp [unshared, children, unsharedList_eq_map]
  | list l xs => simp [unshared, children, unsharedList_eq_map]
  | map l es => simp [unshared, children, unsharedEntries_eq_map, Function.comp_def]
  | date | moment | set => rfl
  | _ => cases h

/-- Data without labels has **the same leaves**. -/
theorem leaf?_unshared : v.unshared.leaf? a = v.leaf? a := by
  induction a generalizing v with
  | nil =>
    rw [leaf?, leaf?, isLeaf_unshared]
    split
    · rename_i hv
      rw [unshared_of_isLeaf hv]
    · rfl
  | cons i a ih =>
    rw [leaf?, leaf?, isLeaf_unshared]
    split
    · rfl
    · rename_i hv
      rw [children_unshared (Bool.eq_false_iff.mpr hv), Option.bind_map]
      exact congrArg (Option.bind _) (funext fun c => ih)

theorem unshared_mapChildren {g g' : Nat → Value → Value}
    (h : ∀ i c, v.children[i]? = some c → (g i c).unshared = g' i c.unshared) :
    (v.mapChildren g).unshared = v.unshared.mapChildren g' := by
  have hlist : ∀ xs : List Value, (∀ i c, xs[i]? = some c → (g i c).unshared = g' i c.unshared) →
      (xs.mapIdx g).map unshared = (xs.map unshared).mapIdx g' := by
    intro xs hxs
    refine List.ext_getElem? fun i => ?_
    rw [List.getElem?_map, List.getElem?_mapIdx, List.getElem?_mapIdx, List.getElem?_map,
      Option.map_map, Option.map_map]
    exact Option.map_congr fun c hc => hxs i c hc
  cases v with
  | tuple xs =>
    rw [mapChildren, unshared, unshared, mapChildren, unsharedList_eq_map, unsharedList_eq_map,
      hlist xs h]
  | list l xs =>
    rw [mapChildren, unshared, unshared, mapChildren, unsharedList_eq_map, unsharedList_eq_map,
      hlist xs h]
  | map l es =>
    rw [mapChildren, unshared, unshared, mapChildren, unsharedEntries_eq_map,
      unsharedEntries_eq_map]
    refine congrArg (map 0) (List.ext_getElem? fun i => ?_)
    rw [List.getElem?_map, List.getElem?_mapIdx, List.getElem?_mapIdx, List.getElem?_map,
      Option.map_map, Option.map_map]
    exact Option.map_congr fun e he =>
      congrArg (Prod.mk e.1.unshared) (h i e.2 (by simp [children, he]))
  | _ => rfl

/-- It has the same leaves **to be changed**. -/
theorem unshared_mapLeaves {f : Address → Value → Value} (hf : KeepsLeaves f) :
    (v.mapLeaves f).unshared = v.unshared.mapLeaves f := by
  induction v using inner_induction generalizing f with
  | h v ih =>
    cases hv : v.isLeaf with
    | true =>
      rw [unshared_of_isLeaf ((isLeaf_mapLeaves hf).trans hv), unshared_of_isLeaf hv]
    | false =>
      have hinner := (isLeaf_unshared v).trans hv
      rw [mapLeaves_of_inner hv, mapLeaves_of_inner hinner]
      exact unshared_mapChildren fun i c hc => ih hv i c hc (hf.comp (i :: ·))

/-- Data without labels is **unlabelled** throughout. -/
theorem unlabelled_unshared (v : Value) : v.unshared.Unlabelled := by
  induction v using inner_induction with
  | h v ih =>
    intro a x hx
    cases a with
    | nil => exact Option.some.inj hx ▸ label_unshared v
    | cons i a =>
      cases hv : v.isLeaf with
      | true => exact unlabelled_of_isLeaf ((isLeaf_unshared v).trans hv) _ _ hx
      | false =>
        obtain ⟨c, hc, hx⟩ := Option.bind_eq_some_iff.mp hx
        rw [children_unshared hv] at hc
        obtain ⟨d, hd, rfl⟩ := Option.map_eq_some_iff.mp hc
        exact ih hv i d hd a x hx

/-- Without labels a leaf is **the only one** with its slot. -/
theorem Unlabelled.slot_eq (h : v.Unlabelled) (a : Address) : v.slot a = (0, a) := by
  obtain ⟨⟨l, s⟩, hs⟩ : ∃ ls, v.slot a = ls := ⟨_, rfl⟩
  obtain ⟨p, c, -, hc, hlabel, -⟩ := exists_of_slot hs
  obtain rfl : l = 0 := hlabel.symm.trans (h p c hc)
  have ha := (label_eq_zero_of_slot (congrArg Prod.fst hs)).2
  rw [hs] at ha ⊢
  exact congrArg (Prod.mk 0) ha

theorem Unlabelled.coherent (h : v.Unlabelled) : v.Coherent :=
  fun a _ x _ hx _ hl _ => absurd (h a x hx) hl

end StackManifest.Value
