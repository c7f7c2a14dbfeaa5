/-!
# Tables

A table holds values under **names**, each name once, in the order in which the names were
first given. The services of a document, its profiles and its prices are tables.

* `Table` – the entries, with the proof that no name occurs twice;
* `Table.get?`, `Table.contains`, `Table.keys` – what is under a name, and the names;
* `Table.put` and `Table.ofList` – a table with one more entry, and one given entry by entry:
  a name that is given again keeps its place and takes the new value.
-/

namespace StackManifest

/-- Values under **names**, each name once, in order. -/
structure Table (α : Type) where
  toList : List (String × α)
  nodup : (toList.map Prod.fst).Nodup

namespace Table

variable {α β : Type}

/-- The table without entries. -/
def empty : Table α := ⟨[], List.nodup_nil⟩

instance : Inhabited (Table α) := ⟨empty⟩
instance [Repr α] : Repr (Table α) := ⟨fun t => reprPrec t.toList⟩

@[ext] theorem ext {s t : Table α} (h : s.toList = t.toList) : s = t := by
  cases s; cases t; cases h; rfl

instance [DecidableEq α] : DecidableEq (Table α) := fun s t =>
  if h : s.toList = t.toList then isTrue (ext h) else isFalse fun e => h (e ▸ rfl)

/-- The names, in order. -/
def keys (t : Table α) : List String := t.toList.map Prod.fst

/-- Whether a table has no entries. -/
def isEmpty (t : Table α) : Bool := t.toList.isEmpty

/-- The number of entries. -/
def size (t : Table α) : Nat := t.toList.length

/-- The value under a **name**. -/
def get? (t : Table α) (k : String) : Option α := t.toList.lookup k

/-- Whether there is a value under a name. -/
def contains (t : Table α) (k : String) : Bool := (t.get? k).isSome

/-- The entries of a list with a value put under a name. -/
def putList (k : String) (v : α) : List (String × α) → List (String × α)
  | [] => [(k, v)]
  | e :: es => if e.1 = k then (k, v) :: es else e :: putList k v es

theorem keys_putList (k : String) (v : α) (es : List (String × α)) :
    (putList k v es).map Prod.fst =
      if k ∈ es.map Prod.fst then es.map Prod.fst else es.map Prod.fst ++ [k] := by
  induction es with
  | nil => simp [putList]
  | cons e es ih =>
    by_cases h : e.1 = k
    · simp [putList, h]
    · have h' : k ≠ e.1 := fun hk => h hk.symm
      by_cases hm : k ∈ es.map Prod.fst <;> simp_all [putList]

theorem nodup_putList (k : String) (v : α) {es : List (String × α)}
    (h : (es.map Prod.fst).Nodup) : ((putList k v es).map Prod.fst).Nodup := by
  rw [keys_putList]
  split
  · exact h
  · rename_i hk
    rw [List.nodup_append]
    refine ⟨h, by simp, ?_⟩
    intro a ha b hb hab
    rw [List.mem_singleton] at hb
    exact hk (hb ▸ hab ▸ ha)

/-- The table with a value **put** under a name. A name that is there already keeps its
place. -/
def put (t : Table α) (k : String) (v : α) : Table α :=
  ⟨putList k v t.toList, nodup_putList k v t.nodup⟩

/-- The table that is given entry by entry. -/
def ofList (es : List (String × α)) : Table α := es.foldl (fun t e => t.put e.1 e.2) empty

/-- The table with every value replaced by a function of it. -/
def map (f : α → β) (t : Table α) : Table β :=
  ⟨t.toList.map fun e => (e.1, f e.2), by simpa [Function.comp_def] using t.nodup⟩

end Table

end StackManifest
