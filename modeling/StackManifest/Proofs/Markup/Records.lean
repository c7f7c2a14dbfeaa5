import StackManifest.Proofs.Markup.Data
import StackManifest.Proofs.Reading.Records

/-!
# Trees that are records

A tree in which every name stands for itself and every plain scalar for a text, a truth value or
a whole number is the simplest to read: whatever its place in a text, its data is the same. And
where the names of entries are different, the data of the entries is a record, which stands
under its names and needs no normalising.

* `Block.isBasic` – the trees with **basic** scalars and names, and `readable_of_isBasic`;
* `Block.isRecord` – the entries that are a **record**, and `Block.value_record`, their data;
* `Block.normalize_record` – a record is **normal** already.
-/

namespace StackManifest.Yaml

/-- Whether a plain scalar stands for a text, a truth value or a whole number. -/
def isBasic (s : String) : Bool :=
  [Tag.str, Tag.int, Tag.bool].contains (plainTag s) && !(plainData s).isNull

theorem isPlainData_of_isBasic {s : String} (h : isBasic s) : IsPlainData s := by
  simp only [isBasic, Bool.and_eq_true, List.contains_iff_mem, List.mem_cons, List.not_mem_nil,
    or_false, Bool.not_eq_true'] at h
  -- what these tags make of a text does not depend on its place
  have hsame : ∀ n, scalarValue? n (plainTag s) s = scalarValue? 0 (plainTag s) s := by
    intro n
    rcases h.1 with ht | ht | ht <;> rw [ht] <;> rfl
  intro n
  have hv := h.2
  rw [hsame, plainData]
  rw [plainData] at hv
  split at hv
  · assumption
  · cases hv

namespace Block

mutual

/-- Whether every name in a tree stands for itself, and every plain scalar for something
**basic**. -/
def isBasic : Block → Bool
  | .scalar v => !v.isPlain || Yaml.isBasic v.string
  | .items xs => itemsBasic xs
  | .entries es => entriesBasic es

/-- Whether some items are basic. -/
def itemsBasic : List Block → Bool
  | [] => true
  | x :: xs => x.isBasic && itemsBasic xs

/-- Whether some entries are basic. -/
def entriesBasic : List (Word × Block) → Bool
  | [] => true
  | (k, x) :: es => plainTag k.string == Tag.str && (x.isBasic && entriesBasic es)

end

/-- A name that **stands for itself** can be a key. -/
theorem readable_key {k : Word} (h : plainTag k.string = Tag.str) :
    IsPlainData k.string ∧ plainTag k.string ≠ Tag.merge ∧ plainTag k.string ≠ Tag.value
      ∧ (plainData k.string).isHashable := by
  obtain ⟨hp, hd⟩ := isPlainData_of_tag_str h
  rw [h, hd]
  exact ⟨hp, by decide, by decide, rfl⟩

mutual

/-- A basic tree is **readable**. -/
theorem readable_of_isBasic : ∀ x : Block, x.isBasic → x.Readable
  | .scalar v, h => fun hv => by
    rw [isBasic, hv] at h
    exact isPlainData_of_isBasic h
  | .items xs, h => itemsReadable_of_itemsBasic xs h
  | .entries es, h => entriesReadable_of_entriesBasic es h

/-- Basic items are readable. -/
theorem itemsReadable_of_itemsBasic : ∀ xs : List Block, itemsBasic xs → ItemsReadable xs
  | [], _ => trivial
  | x :: xs, h => by
    rw [itemsBasic, Bool.and_eq_true] at h
    exact ⟨readable_of_isBasic x h.1, itemsReadable_of_itemsBasic xs h.2⟩

/-- Basic entries are readable. -/
theorem entriesReadable_of_entriesBasic :
    ∀ es : List (Word × Block), entriesBasic es → EntriesReadable es
  | [], _ => trivial
  | (k, x) :: es, h => by
    simp only [entriesBasic, Bool.and_eq_true, beq_iff_eq] at h
    exact ⟨readable_key h.1, readable_of_isBasic x h.2.1, entriesReadable_of_entriesBasic es h.2.2⟩

end

/-! ### Records -/

/-- The names of entries. -/
def names (es : List (Word × Block)) : List String := es.map fun e => e.1.string

/-- Whether entries are a **record**: their names stand for themselves, each of them once. -/
def isRecord (es : List (Word × Block)) : Bool :=
  (names es).all (fun s => plainTag s == Tag.str) && decide (names es).Nodup

theorem isRecord_of_names (es : List (Word × Block)) (ns : List String) (h : names es = ns)
    (hns : (ns.all (fun s => plainTag s == Tag.str) && decide ns.Nodup) = true) : isRecord es := by
  rwa [isRecord, h]

/-- The **fields** of a record, given the number of the first name. -/
def fields (n : Nat) : List (Word × Block) → List (String × Value)
  | [] => []
  | (k, x) :: es => (k.string, x.value (n + 1)) :: fields (n + 1 + x.size) es

theorem map_fst_fields (n : Nat) (es : List (Word × Block)) :
    (fields n es).map Prod.fst = names es := by
  induction es generalizing n with
  | nil => rfl
  | cons e es ih => rw [fields, List.map_cons, ih, names, names, List.map_cons]

theorem nodup_fields {es : List (Word × Block)} (h : isRecord es) (n : Nat) :
    ((fields n es).map Prod.fst).Nodup := by
  simp only [isRecord, Bool.and_eq_true, decide_eq_true_eq] at h
  rw [map_fst_fields]
  exact h.2

/-- The **data of a record** has its fields, in order. -/
theorem value_record {es : List (Word × Block)} (h : isRecord es) (n : Nat) :
    (Block.entries es).value n = .map n (Entries.named (fields (n + 1) es)) := by
  -- putting the fields one after the other is putting the entries one after the other
  have hput : ∀ (es : List (Word × Block)) (before : Entries) (n : Nat),
      (names es).all (fun s => plainTag s == Tag.str) →
      entriesValues before n es
        = (Entries.named (fields n es)).foldl (fun es e => es.put e.1 e.2) before := by
    intro es
    induction es with
    | nil => exact fun _ _ _ => rfl
    | cons e es ih =>
      intro before n hes
      simp only [names, List.map_cons, List.all_cons, Bool.and_eq_true, beq_iff_eq] at hes
      rw [entriesValues, (isPlainData_of_tag_str hes.1).2, ih _ _ hes.2]
      rfl
  have hnodup := nodup_fields h (n + 1)
  simp only [isRecord, Bool.and_eq_true] at h
  rw [value, hput es [] (n + 1) h.1]
  exact congrArg _ (Entries.ofList_named hnodup)

/-- A record is **normal**: its keys are texts already. -/
theorem normalize_record {es : List (Word × Block)} (h : isRecord es) (n : Nat) :
    IsNormal 0 ((Block.entries es).value n) := by
  rw [IsNormal, value_record h, normalize, renameKeys_named (nodup_fields h _) fun _ _ => rfl]
  rfl

end Block

end StackManifest.Yaml
