import StackManifest.Proofs.Places

/-!
# The leaves of some data

Numbers, texts and the like are the **leaves** of some data: they have no parts that could be
changed, and they carry no label. What is done to them depends on where they are, and
`StackManifest.Value.mapLeaves` does so to all of them, while the containers around them stay as
they are. Changing a leaf in its place only is of this form
(`StackManifest.Value.inPlace_eq_mapLeaves`).

The proofs go down to the children of a value, which `StackManifest.Value.mapChildren` changes, each
by its position (`StackManifest.Value.mapLeaves_of_inner`). A text has its characters as children,
which are texts in turn: this is why `StackManifest.Value.inner_induction` stops at the leaves.
-/

namespace StackManifest.Value

variable {v x y : Value} {a b : Address} {i : Nat}

/-! ### Leaves and children -/

/-- Whether a value is a **leaf**: no container, no date, and no moment. -/
def isLeaf : Value → Bool
  | .null | .bool _ | .int _ | .float _ | .text _ | .bytes _ => true
  | _ => false

/-- The **leaf** at an address. -/
def leaf? : Value → Address → Option Value
  | v, [] => if v.isLeaf then some v else none
  | v, i :: a => if v.isLeaf then none else v.children[i]?.bind fun c => c.leaf? a

theorem label_of_isLeaf (h : v.isLeaf = true) : v.label = 0 := by
  cases v with
  | date | moment | list | set | map => cases h
  | _ => rfl

theorem isLeaf_of_label (h : v.label ≠ 0) : v.isLeaf = false :=
  Bool.eq_false_iff.mpr fun hv => h (label_of_isLeaf hv)

/-- Below a leaf there are only leaves. -/
theorem isLeaf_of_children (h : v.isLeaf = true) (hx : v.children[i]? = some x) :
    x.isLeaf = true := by
  have hmem := List.mem_of_getElem? hx
  cases v with
  | text s =>
    obtain ⟨c, -, rfl⟩ := List.mem_map.mp hmem
    rfl
  | bytes bs =>
    obtain ⟨b, -, rfl⟩ := List.mem_map.mp hmem
    rfl
  | null | bool | int | float => cases hmem
  | _ => cases h

theorem sizeOf_lt_of_children (h : v.isLeaf = false) (hx : v.children[i]? = some x) :
    sizeOf x < sizeOf v := by
  have hmem := List.mem_of_getElem? hx
  cases v with
  | tuple xs =>
    have := List.sizeOf_lt_of_mem hmem
    simp only [children] at this
    simp only [tuple.sizeOf_spec]
    omega
  | list l xs =>
    have := List.sizeOf_lt_of_mem hmem
    simp only [children] at this
    simp only [list.sizeOf_spec]
    omega
  | map l es =>
    obtain ⟨e, he, rfl⟩ := List.mem_map.mp hmem
    have := List.sizeOf_lt_of_mem he
    obtain ⟨k, x⟩ := e
    simp only [map.sizeOf_spec, Prod.mk.sizeOf_spec] at this ⊢
    omega
  | date | moment | set => cases hmem
  | _ => cases h

/-- What holds of a value **if it holds of its children**, where a leaf has none, holds of every
value. -/
theorem inner_induction {motive : Value → Prop}
    (h : ∀ v : Value, (v.isLeaf = false → ∀ (i : Nat) (c : Value), v.children[i]? = some c →
      motive c) → motive v)
    (v : Value) : motive v :=
  h v fun hv _ c hc =>
    have := sizeOf_lt_of_children hv hc
    inner_induction h c
termination_by sizeOf v

theorem leaf?_cons (h : v.isLeaf = false) :
    v.leaf? (i :: a) = v.children[i]?.bind fun c => c.leaf? a := by
  rw [leaf?, if_neg (by simp [h])]

/-- A **leaf** is what lies at its address. -/
theorem at?_of_leaf? (h : v.leaf? a = some x) : v.at? a = some x ∧ x.isLeaf = true := by
  induction a generalizing v with
  | nil =>
    rw [leaf?] at h
    split at h
    · rename_i hv
      obtain rfl := Option.some.inj h
      exact ⟨rfl, hv⟩
    · cases h
  | cons i a ih =>
    rw [leaf?] at h
    split at h
    · cases h
    · obtain ⟨c, hc, h⟩ := Option.bind_eq_some_iff.mp h
      obtain ⟨hx, hleaf⟩ := ih h
      exact ⟨by rw [at?, hc]; exact hx, hleaf⟩

theorem at?_append (hx : v.at? a = some x) : v.at? (a ++ b) = x.at? b := by
  induction a generalizing v with
  | nil =>
    obtain rfl := Option.some.inj hx
    rfl
  | cons i a ih =>
    obtain ⟨c, hc, hx⟩ := Option.bind_eq_some_iff.mp hx
    rw [List.cons_append, at?, hc]
    exact ih hx

theorem isLeaf_of_at? (h : v.isLeaf = true) (hx : v.at? a = some x) : x.isLeaf = true := by
  induction a generalizing v with
  | nil => exact Option.some.inj hx ▸ h
  | cons i a ih =>
    obtain ⟨c, hc, hx⟩ := Option.bind_eq_some_iff.mp hx
    exact ih (isLeaf_of_children h hc) hx

/-- In a leaf there are **no labels**. -/
theorem unlabelled_of_isLeaf (h : v.isLeaf = true) : v.Unlabelled :=
  fun _ _ hx => label_of_isLeaf (isLeaf_of_at? h hx)

/-- Below what is no leaf, leaves are **leaves of it**. -/
theorem leaf?_append (hx : v.at? a = some x) (h : x.isLeaf = false) :
    v.leaf? (a ++ b) = x.leaf? b := by
  induction a generalizing v with
  | nil =>
    obtain rfl := Option.some.inj hx
    rfl
  | cons i a ih =>
    have hv : v.isLeaf = false :=
      Bool.eq_false_iff.mpr fun hv => Bool.eq_false_iff.mp h (isLeaf_of_at? hv hx)
    obtain ⟨c, hc, hx⟩ := Option.bind_eq_some_iff.mp hx
    rw [List.cons_append, leaf?_cons hv, hc]
    exact ih hx

/-! ### Changing the children -/

/-- A value with **every child changed**, by its position. -/
def mapChildren (g : Nat → Value → Value) : Value → Value
  | .tuple xs => .tuple (xs.mapIdx g)
  | .list l xs => .list l (xs.mapIdx g)
  | .map l es => .map l (es.mapIdx fun i e => (e.1, g i e.2))
  | v => v

section Children

variable {g g' : Nat → Value → Value}

theorem mapChildren_congr (h : ∀ i c, v.children[i]? = some c → g i c = g' i c) :
    v.mapChildren g = v.mapChildren g' := by
  cases v with
  | tuple xs =>
    refine congrArg tuple (List.ext_getElem? fun i => ?_)
    rw [List.getElem?_mapIdx, List.getElem?_mapIdx]
    exact Option.map_congr fun c hc => h i c hc
  | list l xs =>
    refine congrArg (list l) (List.ext_getElem? fun i => ?_)
    rw [List.getElem?_mapIdx, List.getElem?_mapIdx]
    exact Option.map_congr fun c hc => h i c hc
  | map l es =>
    refine congrArg (map l) (List.ext_getElem? fun i => ?_)
    rw [List.getElem?_mapIdx, List.getElem?_mapIdx]
    exact Option.map_congr fun e he => congrArg (Prod.mk e.1) (h i e.2 (by simp [children, he]))
  | _ => rfl

theorem mapChildren_id (v : Value) : v.mapChildren (fun _ c => c) = v := by
  cases v <;> simp [mapChildren, List.mapIdx_eq_iff]

theorem mapChildren_mapChildren :
    (v.mapChildren g).mapChildren g' = v.mapChildren fun i c => g' i (g i c) := by
  cases v with
  | tuple | list | map => simp [mapChildren, Function.comp_def]
  | _ => rfl

theorem children_mapChildren (h : v.isLeaf = false) :
    (v.mapChildren g).children[i]? = v.children[i]?.map (g i) := by
  cases v with
  | tuple xs => simp [mapChildren, children]
  | list l xs => simp [mapChildren, children]
  | map l es => simp [mapChildren, children, Function.comp_def]
  | date | moment | set => rfl
  | _ => cases h

theorem isLeaf_mapChildren : (v.mapChildren g).isLeaf = v.isLeaf := by
  cases v <;> rfl

theorem label_mapChildren : (v.mapChildren g).label = v.label := by
  cases v <;> rfl

theorem modifyChild_eq_mapChildren (i : Nat) (f : Value → Value) (v : Value) :
    v.modifyChild i f = v.mapChildren fun j c => if j = i then f c else c := by
  cases v with
  | tuple xs =>
    refine congrArg tuple (List.ext_getElem? fun j => ?_)
    rw [List.getElem?_modify, List.getElem?_mapIdx]
    by_cases hij : i = j
    · simp [hij]
    · simp [hij, Ne.symm hij]
  | list l xs =>
    refine congrArg (list l) (List.ext_getElem? fun j => ?_)
    rw [List.getElem?_modify, List.getElem?_mapIdx]
    by_cases hij : i = j
    · simp [hij]
    · simp [hij, Ne.symm hij]
  | map l es =>
    refine congrArg (map l) (List.ext_getElem? fun j => ?_)
    rw [List.getElem?_modify, List.getElem?_mapIdx]
    by_cases hij : i = j
    · simp [hij]
    · simp [hij, Ne.symm hij]
  | _ => rfl

theorem replaced_eq_mapChildren {l : Label} {new : Value} (h : v.label ≠ l) :
    v.replaced l new = v.mapChildren fun _ c => c.replaced l new := by
  rw [replaced.eq_def, if_neg h]
  cases v with
  | tuple xs => exact congrArg tuple (List.ext_getElem? fun i => by simp [replacedList_eq_map])
  | list k xs => exact congrArg (list k) (List.ext_getElem? fun i => by simp [replacedList_eq_map])
  | map k es => exact congrArg (map k) (List.ext_getElem? fun i => by simp [replacedEntries_eq_map])
  | _ => rfl

end Children

/-! ### Changing the leaves -/

mutual

/-- The data with **every leaf changed**, by its address. -/
def mapLeaves (f : Address → Value → Value) : Value → Value
  | .tuple xs => .tuple (mapLeavesList f 0 xs)
  | .list l xs => .list l (mapLeavesList f 0 xs)
  | .map l es => .map l (mapLeavesEntries f 0 es)
  | v => if v.isLeaf then f [] v else v

/-- Several values, from a position on, with every leaf changed. -/
def mapLeavesList (f : Address → Value → Value) (i : Nat) : List Value → List Value
  | [] => []
  | x :: xs => mapLeaves (fun a => f (i :: a)) x :: mapLeavesList f (i + 1) xs

/-- The entries of a mapping, from a position on, with every leaf changed. -/
def mapLeavesEntries (f : Address → Value → Value) (i : Nat) :
    List (Value × Value) → List (Value × Value)
  | [] => []
  | (k, v) :: es => (k, mapLeaves (fun a => f (i :: a)) v) :: mapLeavesEntries f (i + 1) es

end

/-- A change, in whatever it depends on, after which leaves **are leaves**. -/
def KeepsLeaves {ι : Type} (f : ι → Value → Value) : Prop :=
  ∀ i x, x.isLeaf = true → (f i x).isLeaf = true

theorem KeepsLeaves.comp {ι κ : Type} {f : ι → Value → Value} (h : KeepsLeaves f) (g : κ → ι) :
    KeepsLeaves fun k => f (g k) :=
  fun k => h (g k)

section Leaves

variable {f g : Address → Value → Value}

theorem mapLeavesList_eq_mapIdx (f : Address → Value → Value) (i : Nat) (xs : List Value) :
    mapLeavesList f i xs = xs.mapIdx fun j => mapLeaves fun a => f ((i + j) :: a) := by
  induction xs generalizing i with
  | nil => rfl
  | cons x xs ih =>
    rw [mapLeavesList, ih, List.mapIdx_cons]
    simp only [Nat.add_zero, Nat.add_assoc, Nat.add_comm 1]

theorem mapLeavesEntries_eq_mapIdx (f : Address → Value → Value) (i : Nat) (es : Entries) :
    mapLeavesEntries f i es =
      es.mapIdx fun j e => (e.1, mapLeaves (fun a => f ((i + j) :: a)) e.2) := by
  induction es generalizing i with
  | nil => rfl
  | cons e es ih =>
    rw [mapLeavesEntries, ih, List.mapIdx_cons]
    simp only [Nat.add_zero, Nat.add_assoc, Nat.add_comm 1]

theorem mapLeaves_of_isLeaf (h : v.isLeaf = true) : mapLeaves f v = f [] v := by
  cases v with
  | null | bool | int | float | text | bytes => rfl
  | _ => cases h

/-- What is no leaf has the leaves of its **children**. -/
theorem mapLeaves_of_inner (h : v.isLeaf = false) :
    mapLeaves f v = v.mapChildren fun i => mapLeaves fun a => f (i :: a) := by
  cases v with
  | tuple xs => simp only [mapLeaves, mapChildren, mapLeavesList_eq_mapIdx, Nat.zero_add]
  | list l xs => simp only [mapLeaves, mapChildren, mapLeavesList_eq_mapIdx, Nat.zero_add]
  | map l es => simp only [mapLeaves, mapChildren, mapLeavesEntries_eq_mapIdx, Nat.zero_add]
  | date | moment | set => rfl
  | _ => cases h

/-- Changes that agree **on the leaves** are the same. -/
theorem mapLeaves_congr (h : ∀ a x, v.leaf? a = some x → f a x = g a x) :
    mapLeaves f v = mapLeaves g v := by
  induction v using inner_induction generalizing f g with
  | h v ih =>
    cases hv : v.isLeaf with
    | true =>
      rw [mapLeaves_of_isLeaf hv, mapLeaves_of_isLeaf hv]
      exact h [] v (by rw [leaf?, if_pos hv])
    | false =>
      rw [mapLeaves_of_inner hv, mapLeaves_of_inner hv]
      refine mapChildren_congr fun i c hc => ih hv i c hc fun a x hx => h (i :: a) x ?_
      rw [leaf?_cons hv, hc]
      exact hx

theorem mapLeaves_id (v : Value) : mapLeaves (fun _ x => x) v = v := by
  induction v using inner_induction with
  | h v ih =>
    cases hv : v.isLeaf with
    | true => exact mapLeaves_of_isLeaf hv
    | false =>
      rw [mapLeaves_of_inner hv]
      exact (mapChildren_congr fun i c hc => ih hv i c hc).trans (mapChildren_id v)

theorem label_mapLeaves (hf : KeepsLeaves f) : (mapLeaves f v).label = v.label := by
  cases hv : v.isLeaf with
  | true =>
    rw [mapLeaves_of_isLeaf hv, label_of_isLeaf hv, label_of_isLeaf (hf [] v hv)]
  | false => rw [mapLeaves_of_inner hv, label_mapChildren]

theorem isLeaf_mapLeaves (hf : KeepsLeaves f) : (mapLeaves f v).isLeaf = v.isLeaf := by
  cases hv : v.isLeaf with
  | true => rw [mapLeaves_of_isLeaf hv, hf [] v hv]
  | false => rw [mapLeaves_of_inner hv, isLeaf_mapChildren, hv]

/-- **One change of the leaves after the other.** -/
theorem mapLeaves_mapLeaves (hf : KeepsLeaves f) :
    mapLeaves g (mapLeaves f v) = mapLeaves (fun a x => g a (f a x)) v := by
  induction v using inner_induction generalizing f g with
  | h v ih =>
    cases hv : v.isLeaf with
    | true =>
      rw [mapLeaves_of_isLeaf hv, mapLeaves_of_isLeaf hv, mapLeaves_of_isLeaf (hf [] v hv)]
    | false =>
      have hinner : (mapLeaves f v).isLeaf = false := (isLeaf_mapLeaves hf).trans hv
      rw [mapLeaves_of_inner hinner, mapLeaves_of_inner hv, mapLeaves_of_inner hv,
        mapChildren_mapChildren]
      exact mapChildren_congr fun i c hc => ih hv i c hc (hf.comp (i :: ·))

/-- The **leaf at an address** after a change. -/
theorem leaf?_mapLeaves (hf : KeepsLeaves f) : (mapLeaves f v).leaf? a = (v.leaf? a).map (f a) := by
  induction a generalizing v f with
  | nil =>
    rw [leaf?, leaf?, isLeaf_mapLeaves hf]
    cases hv : v.isLeaf with
    | true => simp [mapLeaves_of_isLeaf hv]
    | false => rfl
  | cons i a ih =>
    cases hv : v.isLeaf with
    | true => rw [leaf?, leaf?, isLeaf_mapLeaves hf, hv]; rfl
    | false =>
      rw [leaf?_cons ((isLeaf_mapLeaves hf).trans hv), leaf?_cons hv, mapLeaves_of_inner hv,
        children_mapChildren hv]
      cases v.children[i]? with
      | none => rfl
      | some c => exact ih (hf.comp (i :: ·))

/-- Changes are the same **only if they agree on the leaves**. -/
theorem mapLeaves_eq_iff (hf : KeepsLeaves f) (hg : KeepsLeaves g) :
    mapLeaves f v = mapLeaves g v ↔ ∀ a x, v.leaf? a = some x → f a x = g a x := by
  refine ⟨fun h a x hx => ?_, mapLeaves_congr⟩
  have hleaf := congrArg (·.leaf? a) h
  simp only [leaf?_mapLeaves hf, leaf?_mapLeaves hg, hx, Option.map_some] at hleaf
  exact Option.some.inj hleaf

/-- **Putting a value in the place of a leaf** changes this leaf only. -/
theorem inPlace_eq_mapLeaves (h : v.leaf? a = some x) :
    v.inPlace (fun _ => y) a = mapLeaves (fun b z => if b = a then y else z) v := by
  induction a generalizing v with
  | nil =>
    rw [leaf?] at h
    split at h
    · rename_i hv
      rw [mapLeaves_of_isLeaf hv]
      rfl
    · cases h
  | cons i a ih =>
    have hv : v.isLeaf = false := by
      refine Bool.eq_false_iff.mpr fun hv => ?_
      rw [leaf?, if_pos hv] at h
      cases h
    rw [leaf?_cons hv] at h
    obtain ⟨c, hc, hx⟩ := Option.bind_eq_some_iff.mp h
    rw [inPlace, modifyChild_eq_mapChildren, mapLeaves_of_inner hv]
    refine mapChildren_congr fun j d hd => ?_
    by_cases hij : j = i
    · subst hij
      obtain rfl : c = d := Option.some.inj (hc.symm.trans hd)
      simpa using ih hx
    · simp [hij, mapLeaves_id]

end Leaves

end StackManifest.Value
