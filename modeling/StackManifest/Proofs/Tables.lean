import StackManifest.Document.Basic

/-!
# Looking things up

Since no name occurs twice in a table, what is found under a name is **the** entry with that
name (`StackManifest.Table.get?_eq_some_iff`). The deployed pairs of a document are its
deployment, entry by entry (`StackManifest.Document.mem_pairs_iff`).
-/

namespace StackManifest

namespace Table

variable {α : Type} {t : Table α} {k : String} {v : α}

/-- The table with one entry. -/
def single (k : String) (v : α) : Table α := ⟨[(k, v)], by simp⟩

/-- **An entry is the only one with its name**: the names of the entries before it and after it are
others. -/
theorem exists_split_of_mem (h : (k, v) ∈ t.toList) :
    ∃ before after, t.toList = before ++ (k, v) :: after ∧ k ∉ before.map Prod.fst ∧
      k ∉ after.map Prod.fst := by
  obtain ⟨before, after, hsplit⟩ := List.append_of_mem h
  have hnodup := t.nodup
  rw [hsplit, List.map_append, List.map_cons, List.nodup_append, List.nodup_cons] at hnodup
  obtain ⟨-, ⟨hafter, -⟩, hdisjoint⟩ := hnodup
  exact ⟨before, after, hsplit, fun hk => hdisjoint _ hk _ (List.mem_cons_self ..) rfl, hafter⟩

/-- **What is found under a name is the entry with that name.** -/
theorem get?_eq_some_iff : t.get? k = some v ↔ (k, v) ∈ t.toList := by
  rw [get?, List.lookup_eq_some_iff]
  constructor
  · rintro ⟨before, after, h, -⟩
    rw [h]
    exact List.mem_append_right _ (List.mem_cons_self ..)
  · intro h
    obtain ⟨before, after, hsplit, hbefore, -⟩ := exists_split_of_mem h
    refine ⟨before, after, hsplit, fun e he => ?_⟩
    rw [bne_iff_ne]
    rintro rfl
    exact hbefore (List.mem_map_of_mem he)

theorem lookup_cons {n : String} {e : String × α} {es : List (String × α)} :
    (e :: es).lookup n = if n = e.1 then some e.2 else es.lookup n := by
  rw [List.lookup_cons]
  by_cases h : n = e.1
  · simp [h]
  · simp [beq_false_of_ne h, h]

theorem lookup_putList {n : String} {es : List (String × α)} :
    (putList k v es).lookup n = if n = k then some v else es.lookup n := by
  induction es with
  | nil => exact lookup_cons
  | cons e es ih =>
    rw [putList]
    by_cases he : e.1 = k
    · rw [if_pos he, lookup_cons, lookup_cons, he]
      by_cases hn : n = k
      · rw [if_pos hn, if_pos hn]
      · rw [if_neg hn, if_neg hn, if_neg hn]
    · rw [if_neg he, lookup_cons, lookup_cons, ih]
      by_cases hn : n = k
      · rw [if_neg (hn ▸ Ne.symm he), if_pos hn, if_pos hn]
      · rw [if_neg hn, if_neg hn]

/-- **What is found** after a value was put under a name. -/
theorem get?_put {n : String} : (t.put k v).get? n = if n = k then some v else t.get? n :=
  lookup_putList

theorem contains_eq_true_iff : t.contains k = true ↔ ∃ v, t.get? k = some v := by
  rw [contains, Option.isSome_iff_exists]

theorem contains_eq_false_iff : t.contains k = false ↔ t.get? k = none := by
  rw [contains, Option.isSome_eq_false_iff, Option.isNone_iff_eq_none]

/-- **What is found** when every value is replaced by a function of it. -/
theorem get?_map {β : Type} (t : Table α) (f : α → β) (k : String) :
    (t.map f).get? k = (t.get? k).map f := by
  change (t.toList.map fun e => (e.1, f e.2)).lookup k = (t.toList.lookup k).map f
  induction t.toList with
  | nil => rfl
  | cons e es ih =>
    rw [List.map_cons, lookup_cons, lookup_cons, ih]
    split <;> rfl

theorem map_put {β : Type} (t : Table α) (f : α → β) (k : String) (v : α) :
    (t.put k v).map f = (t.map f).put k (f v) := by
  have hlist : ∀ es : List (String × α), (putList k v es).map (fun e => (e.1, f e.2)) =
      putList k (f v) (es.map fun e => (e.1, f e.2)) := by
    intro es
    induction es with
    | nil => rfl
    | cons e es ih =>
      rw [List.map_cons, putList, putList]
      split
      · rfl
      · rw [List.map_cons, ih]
  exact Table.ext (hlist t.toList)

theorem contains_map {β : Type} (t : Table α) (f : α → β) (k : String) :
    (t.map f).contains k = t.contains k := by
  rw [contains, contains, get?_map, Option.isSome_map]

theorem isEmpty_eq_false_iff : t.isEmpty = false ↔ t.toList ≠ [] := by
  rw [isEmpty, List.isEmpty_eq_false_iff]

theorem isEmpty_eq_false_of_mem {e : String × α} (h : e ∈ t.toList) : t.isEmpty = false :=
  isEmpty_eq_false_iff.mpr (List.ne_nil_of_mem h)

theorem isEmpty_eq_false_of_contains {n : String} (h : t.contains n = true) :
    t.isEmpty = false := by
  obtain ⟨a, ha⟩ := contains_eq_true_iff.mp h
  exact isEmpty_eq_false_of_mem (get?_eq_some_iff.mp ha)

end Table

namespace Document

variable {d : Document} {p : DeployedPair}

/-- **The deployed pairs** are the entries under the placements under the services of the
deployment. -/
theorem mem_pairs_iff :
    p ∈ d.pairs ↔ ∃ placements, (p.service, placements) ∈ d.deployment.toList ∧
      (p.placement, p.entry) ∈ placements.toList := by
  simp only [pairs, List.mem_flatMap, List.mem_map]
  constructor
  · rintro ⟨⟨s, placements⟩, hs, ⟨q, e⟩, hq, rfl⟩
    exact ⟨placements, hs, hq⟩
  · rintro ⟨placements, hs, hq⟩
    exact ⟨(p.service, placements), hs, (p.placement, p.entry), hq, rfl⟩

/-- A document with a deployed pair has a deployment. -/
theorem deployment_isEmpty_of_mem_pairs (h : p ∈ d.pairs) : d.deployment.isEmpty = false := by
  obtain ⟨placements, hs, -⟩ := mem_pairs_iff.mp h
  exact Table.isEmpty_eq_false_of_mem hs

end Document

end StackManifest
