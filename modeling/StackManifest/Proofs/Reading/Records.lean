import StackManifest.Document.Writer
import StackManifest.Proofs.Reading.Names

/-!
# Reading records

What is written is written as **records**: mappings whose keys are texts, each of them once. Such a
mapping is simple to read, and this file collects how. Under each name stands its value
(`StackManifest.Entries.get?_named`), the names are texts already, so that making texts of them
changes nothing (`StackManifest.renameKeys_named`), and putting the entries together again gives the
same entries (`StackManifest.Entries.ofList_named`, `StackManifest.Table.toList_ofList`).

A record whose values are records in turn, down to a depth, is **normal** to that depth
(`StackManifest.IsNormal`): it is what a careless section becomes.
-/

namespace StackManifest

variable {α : Type} {fields : List (String × Value)} {n : String} {v : Value}

/-- Entries with **names** as keys. -/
def Entries.named (fields : List (String × Value)) : Entries :=
  fields.map fun f => (.text f.1, f.2)

namespace Entries

/-- **Under each name stands its value.** -/
theorem get?_named (h : (fields.map Prod.fst).Nodup) (hmem : (n, v) ∈ fields) :
    get? (named fields) n = some v := by
  induction fields with
  | nil => cases hmem
  | cons f fields ih =>
    obtain ⟨hf, h⟩ := List.nodup_cons.mp h
    rw [named, List.map_cons, get?_cons_text]
    rcases List.mem_cons.mp hmem with rfl | hmem
    · exact if_pos rfl
    · have hne : f.1 ≠ n := fun hn => hf (hn ▸ List.mem_map_of_mem (f := Prod.fst) hmem)
      rw [if_neg hne]
      exact ih h hmem

/-- **Entries with names put one after the other** stay as they are. -/
theorem ofList_named (h : (fields.map Prod.fst).Nodup) : ofList (named fields) = named fields := by
  refine ofList_of_isDistinct (List.pairwise_map.mpr ((List.pairwise_map.mp h).imp ?_))
  intro f g hne
  exact Bool.eq_false_iff.mpr fun heqv => hne (Value.text.inj (Value.eqv_text_iff.mp heqv))

end Entries

/-! ### Tables -/

namespace Table

theorem putList_of_not_mem {k : String} {a : α} {xs : List (String × α)}
    (h : k ∉ xs.map Prod.fst) : putList k a xs = xs ++ [(k, a)] := by
  induction xs with
  | nil => rfl
  | cons x xs ih =>
    obtain ⟨hx, hxs⟩ := not_or.mp (mt List.mem_cons.mpr h)
    rw [putList, if_neg (Ne.symm hx), ih hxs, List.cons_append]

/-- **A table of entries whose names are distinct** has just these. -/
theorem toList_ofList {xs : List (String × α)} (h : (xs.map Prod.fst).Nodup) :
    (ofList xs).toList = xs := by
  have hfold : ∀ (rest : List (String × α)) (t : Table α),
      ((t.toList ++ rest).map Prod.fst).Nodup →
      (rest.foldl (fun t e => t.put e.1 e.2) t).toList = t.toList ++ rest := by
    intro rest
    induction rest with
    | nil => exact fun t _ => (List.append_nil _).symm
    | cons f rest ih =>
      intro t hd
      have hnew : f.1 ∉ t.toList.map Prod.fst := by
        rw [List.map_append, List.map_cons, List.nodup_middle, List.nodup_cons] at hd
        exact fun hmem => hd.1 (List.mem_append_left _ hmem)
      have hstep : (t.put f.1 f.2).toList = t.toList ++ [f] := putList_of_not_mem hnew
      rw [List.foldl_cons, ih _ (by rwa [hstep, List.append_assoc]), hstep, List.append_assoc]
      rfl
  exact hfold xs empty h

theorem mem_putList {k : String} {a : α} {xs : List (String × α)} {e : String × α}
    (h : e ∈ putList k a xs) : e = (k, a) ∨ e ∈ xs := by
  induction xs with
  | nil => exact .inl (List.mem_singleton.mp h)
  | cons x xs ih =>
    rw [putList] at h
    split at h
    · exact (List.mem_cons.mp h).imp_right (List.mem_cons_of_mem _)
    · rcases List.mem_cons.mp h with rfl | h
      · exact .inr (List.mem_cons_self ..)
      · exact (ih h).imp_right (List.mem_cons_of_mem _)

/-- Every entry of a table is one that **was given**. -/
theorem mem_of_mem_ofList {xs : List (String × α)} {e : String × α} (h : e ∈ (ofList xs).toList) :
    e ∈ xs := by
  have hfold : ∀ (rest : List (String × α)) (t : Table α),
      e ∈ (rest.foldl (fun t e => t.put e.1 e.2) t).toList → e ∈ t.toList ∨ e ∈ rest := by
    intro rest
    induction rest with
    | nil => exact fun t h => .inl h
    | cons f rest ih =>
      intro t h
      rcases ih _ h with h | h
      · exact (mem_putList h).elim (fun heq => .inr (heq ▸ List.mem_cons_self ..)) .inl
      · exact .inr (List.mem_cons_of_mem _ h)
  exact (hfold xs empty h).resolve_left (by simp [empty])

end Table

/-! ### Sections that are normal already -/

/-- **Names stay the names that they are**, and so do values that are not changed. -/
theorem renameKeys_named {values : Value → Checked Value} (h : (fields.map Prod.fst).Nodup)
    (hv : ∀ f ∈ fields, values f.2 = .ok f.2) :
    renameKeys (Entries.named fields) values = .ok (Entries.named fields) := by
  refine renameKeys_eq_ok_iff.mpr ⟨Entries.named fields, ?_, Entries.ofList_named h⟩
  rw [Entries.named, List.forall₂_map_left_iff, List.forall₂_map_right_iff, List.forall₂_same]
  exact fun f hf => ⟨rfl, hv f hf⟩

/-- A value that is **as a section becomes**, down to a depth. -/
def IsNormal (depth : Nat) (v : Value) : Prop := normalize depth v = .ok v

theorem isNormal_record (h : (fields.map Prod.fst).Nodup) : IsNormal 0 (.record fields) := by
  rw [IsNormal, Value.record, normalize]
  exact Checked.map_eq_ok_iff.mpr ⟨_, renameKeys_named h fun _ _ => rfl, rfl⟩

theorem isNormal_record_succ {depth : Nat} (h : (fields.map Prod.fst).Nodup)
    (hv : ∀ f ∈ fields, IsNormal depth f.2) : IsNormal (depth + 1) (.record fields) := by
  rw [IsNormal, Value.record, normalize]
  exact Checked.map_eq_ok_iff.mpr ⟨_, renameKeys_named h hv, rfl⟩

end StackManifest
