import StackManifest.Proofs.Markup.Blocks

/-!
# The data of trees

The node of a tree becomes the data of the tree: each scalar what it stands for, items a list,
and entries a mapping. A node is read once, and its value is kept by its number; since the
numbers of a tree are all different, nothing that was kept is ever used.

* `plainData` – what a **plain scalar** stands for, and `IsPlainData`, that it stands for something;
* `Block.value` – the **data** of a tree;
* `Block.Readable` – every scalar in a tree stands for something;
* `run_construct` – the node of a tree becomes its data;
* `read_of_tokens` – so does a **whole text** with the tokens of a tree.
-/

namespace StackManifest.Yaml

/-- What a **plain scalar** stands for, nothing if it has a fault. -/
def plainData (s : String) : Value :=
  match scalarValue? 0 (plainTag s) s with
  | some (.ok v) => v
  | _ => .null

/-- Whether a plain scalar **stands for something**, wherever it stands. -/
def IsPlainData (s : String) : Prop :=
  ∀ n, scalarValue? n (plainTag s) s = some (.ok (plainData s))

theorem isPlainData_of_tag_str {s : String} (h : plainTag s = Tag.str) :
    IsPlainData s ∧ plainData s = .text s := by
  have hv : ∀ n, scalarValue? n Tag.str s = some (.ok (.text s)) := fun _ => rfl
  have hd : plainData s = .text s := by simp [plainData, h, hv]
  exact ⟨fun n => by rw [h, hv, hd], hd⟩

namespace Block

mutual

/-- The **data** of a tree, given the number of its node. -/
def value (n : Nat) : Block → Value
  | .scalar v => if v.isPlain then plainData v.string else .text v.string
  | .items xs => .list n (itemsValues (n + 1) xs)
  | .entries es => .map n (entriesValues [] (n + 1) es)

/-- The data of items. -/
def itemsValues (n : Nat) : List Block → List Value
  | [] => []
  | x :: xs => x.value n :: itemsValues (n + x.size) xs

/-- The data of entries, after some others. -/
def entriesValues (before : Entries) (n : Nat) : List (Word × Block) → Entries
  | [] => before
  | (k, x) :: es =>
    entriesValues (before.put (plainData k.string) (x.value (n + 1))) (n + 1 + x.size) es

end

mutual

/-- Every scalar in a tree **stands for something**, and every name for a key. -/
def Readable : Block → Prop
  | .scalar v => v.isPlain → IsPlainData v.string
  | .items xs => ItemsReadable xs
  | .entries es => EntriesReadable es

/-- Every scalar in some items stands for something. -/
def ItemsReadable : List Block → Prop
  | [] => True
  | x :: xs => x.Readable ∧ ItemsReadable xs

/-- Every scalar in some entries stands for something, and every name for a key. -/
def EntriesReadable : List (Word × Block) → Prop
  | [] => True
  | (k, x) :: es =>
    (IsPlainData k.string ∧ plainTag k.string ≠ Tag.merge ∧ plainTag k.string ≠ Tag.value
        ∧ (plainData k.string).isHashable)
      ∧ x.Readable ∧ EntriesReadable es

end

mutual

/-- **How deep** a tree is. -/
def depth : Block → Nat
  | .scalar _ => 0
  | .items xs => 1 + itemsDepth xs
  | .entries es => 1 + entriesDepth es

/-- How deep the deepest item is. -/
def itemsDepth : List Block → Nat
  | [] => 0
  | x :: xs => max x.depth (itemsDepth xs)

/-- How deep the deepest entry is. -/
def entriesDepth : List (Word × Block) → Nat
  | [] => 0
  | (_, x) :: es => max x.depth (entriesDepth es)

end

end Block

open Block

/-! ### Scalars -/

/-- A scalar with a value has none of the tags of collections. -/
theorem ne_of_scalarValue? {n : Nat} {t s : String} {r : Except Fault Value}
    (h : scalarValue? n t s = some r) {u : String} (hu : scalarValue? n u s = none) : t ≠ u := by
  rintro rfl
  rw [h] at hu
  exact absurd hu (by simp)

theorem run_construct_scalar (fuel level : Nat) {n : Nat} {t s : String} {v : Value}
    (h : scalarValue? n t s = some (.ok v)) (p : Progress) :
    (construct (fuel + 1) level (.scalar n t s)).run p = (v, p) := by
  have ne : ∀ u, scalarValue? n u s = none → t ≠ u := fun u => ne_of_scalarValue? h
  have h₁ := ne Tag.seq rfl
  have h₂ := ne Tag.map rfl
  have h₃ := ne Tag.set rfl
  have h₄ := ne Tag.omap rfl
  have h₅ := ne Tag.pairs rfl
  simp [construct, Node.tag, h₁, h₂, h₃, h₄, h₅, Node.scalarText?, orIllFormed, Node.isMapping,
    Node.number, h, orReport]
  rfl

/-! ### Collections -/

/-- What a reading does with its result. -/
theorem run_bind_eq {α β : Type} {r : Construction α} {f : α → Construction β} {p p' : Progress}
    {a : α} (h : r.run p = (a, p')) : (r >>= f).run p = (f a).run p' := by
  change (f (r.run p).1).run (r.run p).2 = _
  rw [h]

/-- No value is kept for a number or for any number after it. -/
def Fresh (n : Nat) (m : Std.HashMap Nat (Nat × Value)) : Prop := ∀ k, n ≤ k → m[k]? = none

theorem Fresh.mono {n n' : Nat} {m : Std.HashMap Nat (Nat × Value)} (h : Fresh n m) (hn : n ≤ n') :
    Fresh n' m := fun k hk => h k (Nat.le_trans hn hk)

theorem Fresh.insert {n n' : Nat} {m : Std.HashMap Nat (Nat × Value)} (h : Fresh n' m)
    (hn : n < n') (v : Nat × Value) : Fresh n' (m.insert n v) := by
  intro k hk
  rw [Std.HashMap.getElem?_insert]
  have : (n == k) = false := by simp; omega
  simp [this, h k hk]

/-- A node whose number is new is read, and its value is kept. -/
theorem run_readOnce (level : Nat) {n : Nat} {read : Construction Value}
    {m m' : Std.HashMap Nat (Nat × Value)} {v : Value} (hn : m[n]? = none)
    (h : read.run ⟨none, m⟩ = (v, ⟨none, m'⟩)) :
    (readOnce level n read).run ⟨none, m⟩ = (v, ⟨none, m'.insert n (level, v)⟩) := by
  simp [readOnce, hn, h]
  rfl

/-- There is nothing to merge into the entries of a tree. -/
theorem splitMerges_entriesNodes {n : Nat} {es : List (Word × Block)} (h : EntriesReadable es) :
    Node.splitMerges (entriesNodes n es) = some ([], entriesNodes n es) := by
  induction es generalizing n with
  | nil => simp [entriesNodes, Node.splitMerges]
  | cons e es ih =>
    obtain ⟨k, x⟩ := e
    obtain ⟨⟨-, hm, hv, -⟩, -, hes⟩ := h
    simp [entriesNodes, Node.splitMerges, ih hes, Node.tag, Node.plainKey, hm, hv]

theorem merged_entries {n : Nat} {es : List (Word × Block)} (h : EntriesReadable es) :
    ((Block.entries es).node n).merged = some (entriesNodes (n + 1) es) := by
  simp [Block.node, Node.merged, splitMerges_entriesNodes h]

theorem run_construct_items {fuel level n : Nat} {xs : List Block}
    {m m' : Std.HashMap Nat (Nat × Value)} {vs : List Value} (hn : m[n]? = none)
    (h : ((itemsNodes (n + 1) xs).mapM (construct fuel (level + 1))).run ⟨none, m⟩
      = (vs, ⟨none, m'⟩)) :
    (construct (fuel + 2) level ((Block.items xs).node n)).run ⟨none, m⟩
      = (.list n vs, ⟨none, m'.insert n (level, .list n vs)⟩) := by
  have hread : (orIllFormed (level + 1) (items? ((Block.items xs).node n)) fun xs' =>
      return .list n (← constructList (fuel + 1) (level + 1) xs')).run ⟨none, m⟩
      = (.list n vs, ⟨none, m'⟩) := by
    simp [orIllFormed, items?, Block.node, constructList, h]
    rfl
  have := run_readOnce level hn hread
  simpa [construct, Block.node, Node.tag, Node.number] using this

theorem run_construct_entries {fuel level n : Nat} {es : List (Word × Block)}
    {m m' : Std.HashMap Nat (Nat × Value)} {vs : Entries} (hn : m[n]? = none)
    (hes : EntriesReadable es)
    (h : (constructEntries (fuel + 1) (level + 1) [] (entriesNodes (n + 1) es)).run ⟨none, m⟩
      = (vs, ⟨none, m'⟩)) :
    (construct (fuel + 2) level ((Block.entries es).node n)).run ⟨none, m⟩
      = (.map n vs, ⟨none, m'.insert n (level, .map n vs)⟩) := by
  have hread : (orIllFormed (level + 1) ((Block.entries es).node n).merged fun es' =>
      return .map n (← constructEntries (fuel + 1) (level + 1) [] es')).run ⟨none, m⟩
      = (.map n vs, ⟨none, m'⟩) := by
    simp [orIllFormed, merged_entries hes, h]
    rfl
  have := run_readOnce level hn hread
  have hmap : Tag.map ≠ Tag.seq := by decide
  simpa [construct, Block.node, Node.tag, Node.number, hmap] using this

/-! ### Trees -/

mutual

/-- The node of a tree becomes the **data** of the tree. -/
theorem run_construct (fuel level : Nat) {n : Nat} {m : Std.HashMap Nat (Nat × Value)}
    (hm : Fresh n m) :
    ∀ b : Block, b.Readable → 2 * b.depth + 1 ≤ fuel →
      ∃ m', (construct fuel level (b.node n)).run ⟨none, m⟩ = (b.value n, ⟨none, m'⟩) ∧
        Fresh (n + b.size) m'
  | .scalar v, hr, hf => by
    obtain ⟨fuel, rfl⟩ : ∃ f, fuel = f + 1 := ⟨fuel - 1, by omega⟩
    have hs : scalarValue? n (Stream.scalarTag none v.isPlain v.string) v.string
        = some (.ok ((Block.scalar v).value n)) := by
      cases v with
      | plain w => exact hr rfl n
      | quoted gs => rfl
    exact ⟨m, run_construct_scalar _ _ hs _, hm.mono (Nat.le_add_right ..)⟩
  | .items xs, hr, hf => by
    simp only [Block.depth] at hf
    obtain ⟨fuel, rfl⟩ : ∃ f, fuel = f + 2 := ⟨fuel - 2, by omega⟩
    obtain ⟨m', hrun, hm'⟩ := run_itemsNodes fuel (level + 1)
      (hm.mono (Nat.le_succ n)) xs hr (by omega)
    refine ⟨_, run_construct_items (hm n (Nat.le_refl n)) hrun, ?_⟩
    rw [Block.size, ← Nat.add_assoc]
    exact hm'.insert (by omega) _
  | .entries es, hr, hf => by
    simp only [Block.depth] at hf
    obtain ⟨fuel, rfl⟩ : ∃ f, fuel = f + 2 := ⟨fuel - 2, by omega⟩
    obtain ⟨m', hrun, hm'⟩ := run_entriesNodes fuel (level + 1)
      (hm.mono (Nat.le_succ n)) es [] hr (by omega)
    refine ⟨_, run_construct_entries (hm n (Nat.le_refl n)) hr hrun, ?_⟩
    rw [Block.size, ← Nat.add_assoc]
    exact hm'.insert (by omega) _

/-- The nodes of items become the data of the items. -/
theorem run_itemsNodes (fuel level : Nat) {n : Nat} {m : Std.HashMap Nat (Nat × Value)}
    (hm : Fresh n m) :
    ∀ xs : List Block, ItemsReadable xs → 2 * itemsDepth xs + 1 ≤ fuel →
      ∃ m', ((itemsNodes n xs).mapM (construct fuel level)).run ⟨none, m⟩
          = (itemsValues n xs, ⟨none, m'⟩) ∧ Fresh (n + itemsSize xs) m'
  | [], _, _ => ⟨m, rfl, hm⟩
  | x :: xs, hr, hf => by
    simp only [itemsDepth] at hf
    obtain ⟨m₁, hx, hm₁⟩ := run_construct fuel level hm x hr.1 (by omega)
    obtain ⟨m₂, hxs, hm₂⟩ := run_itemsNodes fuel level hm₁ xs hr.2 (by omega)
    refine ⟨m₂, ?_, by rwa [itemsSize, ← Nat.add_assoc]⟩
    rw [itemsNodes, List.mapM_cons, run_bind_eq hx, run_bind_eq hxs]
    rfl

/-- The nodes of entries become the data of the entries, after some others. -/
theorem run_entriesNodes (fuel level : Nat) {n : Nat} {m : Std.HashMap Nat (Nat × Value)}
    (hm : Fresh n m) :
    ∀ (es : List (Word × Block)) (before : Entries), EntriesReadable es →
      2 * entriesDepth es + 1 ≤ fuel →
      ∃ m', (constructEntries (fuel + 1) level before (entriesNodes n es)).run ⟨none, m⟩
          = (entriesValues before n es, ⟨none, m'⟩) ∧ Fresh (n + entriesSize es) m'
  | [], _, _, _ => ⟨m, by simp [entriesNodes, entriesValues, constructEntries]; rfl, hm⟩
  | (k, x) :: es, before, hr, hf => by
    obtain ⟨⟨hk, -, -, hh⟩, hx, hes⟩ := hr
    simp only [entriesDepth] at hf
    obtain ⟨f, rfl⟩ : ∃ f, fuel = f + 1 := ⟨fuel - 1, by omega⟩
    have hkey := run_construct_scalar f level (hk n) ⟨none, m⟩
    obtain ⟨m₁, hx₁, hm₁⟩ := run_construct (f + 1) level
      (hm.mono (Nat.le_succ n)) x hx (by omega)
    obtain ⟨m₂, hes₂, hm₂⟩ := run_entriesNodes (f + 1) level hm₁ es
      (before.put (plainData k.string) (x.value (n + 1))) hes (by omega)
    refine ⟨m₂, ?_, by rwa [entriesSize, ← Nat.add_assoc, ← Nat.add_assoc]⟩
    simp only [constructEntries] at hes₂ ⊢
    rw [entriesNodes, List.foldlM_cons]
    refine (run_bind_eq (a := before.put (plainData k.string) (x.value (n + 1))) ?_).trans hes₂
    rw [run_bind_eq hkey]
    simp only [hh, Bool.not_true, Bool.false_eq_true, if_false]
    rw [run_bind_eq hx₁]
    rfl

end

/-- A **whole text** with the tokens of a tree stands for the data of the tree. -/
theorem read_of_tokens {cs : List Char} {es : List (Word × Block)}
    (ht : tokens cs = ((Block.entries es).tokens ++ [.streamEnd], none))
    (hr : (Block.entries es).Readable) (hd : (Block.entries es).depth ≤ cs.length + 1) :
    read cs = .ok ((Block.entries es).value 1) := by
  have hm : Fresh 1 (∅ : Std.HashMap Nat (Nat × Value)) := fun k _ => by simp
  obtain ⟨m, hrun, -⟩ := run_construct (2 * (cs.length + 1) + 2) 0 hm
    (Block.entries es) hr (by omega)
  simp [read, Node.read_of_tokens ht, bind, Except.bind, Node.toValue, hrun]

end StackManifest.Yaml
