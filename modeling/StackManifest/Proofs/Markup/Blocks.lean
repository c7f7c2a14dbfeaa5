import StackManifest.Proofs.Markup.Rows
import StackManifest.Yaml.Reader

/-!
# Blocks and their nodes

What a markup text without brackets, anchors and tags says is a tree: a scalar, or a block of
items or of named entries, each of them such a tree. The tokens of a tree are read as the node
of the tree, in which the nodes are numbered in the order of the text.

* `Block` – the **trees**;
* `Block.tokens`, `Block.size`, `Block.node` – the tokens of a tree, how many nodes it has, and
  its **node**, given its number;
* `Stream.run_node` – the tokens of a tree are **read** as its node;
* `Stream.run_document` – so are those of a whole text.
-/

namespace StackManifest.Yaml

/-- A **tree** of scalars, items and entries, which have words as names. -/
inductive Block where
  | scalar (v : RowScalar)
  | items (xs : List Block)
  | entries (es : List (Word × Block))

namespace Block

mutual

/-- The **tokens** of a tree. -/
def tokens : Block → List Token
  | .scalar v => [v.token]
  | .items xs => .blockSequenceStart :: (itemsTokens xs ++ [.blockEnd])
  | .entries es => .blockMappingStart :: (entriesTokens es ++ [.blockEnd])

/-- The tokens of items. -/
def itemsTokens : List Block → List Token
  | [] => []
  | x :: xs => .blockEntry :: (x.tokens ++ itemsTokens xs)

/-- The tokens of entries. -/
def entriesTokens : List (Word × Block) → List Token
  | [] => []
  | (k, x) :: es => .key :: k.token :: .value :: (x.tokens ++ entriesTokens es)

end

mutual

/-- **How many nodes** a tree has. -/
def size : Block → Nat
  | .scalar _ => 1
  | .items xs => 1 + itemsSize xs
  | .entries es => 1 + entriesSize es

/-- How many nodes items have. -/
def itemsSize : List Block → Nat
  | [] => 0
  | x :: xs => x.size + itemsSize xs

/-- How many nodes entries have. -/
def entriesSize : List (Word × Block) → Nat
  | [] => 0
  | (_, x) :: es => 1 + x.size + entriesSize es

end

mutual

/-- The **node** of a tree, given its number. -/
def node (n : Nat) : Block → Node
  | .scalar v => .scalar n (Stream.scalarTag none v.isPlain v.string) v.string
  | .items xs => .sequence n Tag.seq (itemsNodes (n + 1) xs)
  | .entries es => .mapping n Tag.map (entriesNodes (n + 1) es)

/-- The nodes of items, given the first number. -/
def itemsNodes (n : Nat) : List Block → List Node
  | [] => []
  | x :: xs => x.node n :: itemsNodes (n + x.size) xs

/-- The nodes of entries, given the first number. -/
def entriesNodes (n : Nat) : List (Word × Block) → List (Node × Node)
  | [] => []
  | (k, x) :: es =>
    (.scalar n (plainTag k.string) k.string, x.node (n + 1)) :: entriesNodes (n + 1 + x.size) es

end

theorem tokens_pos (b : Block) : 0 < b.tokens.length := by
  cases b <;> simp [tokens]

end Block

/-! ### Reading the tokens of a tree -/

namespace Stream

open Block

/-- The state of the reading **in front of** some tokens, where nodes have no names and a number
comes next. -/
def standing (ts : List Token) (n : Nat) : Stream :=
  { tokens := ts, fault := none, handles := defaultHandles, named := [], next := n }

theorem run_scalar (fuel : Nat) (place : Place) (s : String) (p : Bool) (ts : List Token)
    (n : Nat) :
    (Stream.node (fuel + 2) place).run (standing (.scalar s p :: ts) n)
      = .ok (.scalar n (scalarTag none p s) s, standing ts (n + 1)) :=
  rfl

theorem run_items {fuel : Nat} {i : Bool} {ts ts' : List Token} {n m : Nat} {xs : List Node}
    (h : (blockItems fuel).run (standing ts (n + 1)) = .ok (xs, standing ts' m)) :
    (Stream.node (fuel + 2) ⟨true, i⟩).run (standing (.blockSequenceStart :: ts) n)
      = .ok (.sequence n Tag.seq xs, standing ts' m) := by
  change Except.bind ((blockItems fuel).run (standing ts (n + 1))) _ = _
  rw [h]
  rfl

theorem run_entries {fuel : Nat} {i : Bool} {ts ts' : List Token} {n m : Nat}
    {es : List (Node × Node)}
    (h : (blockEntries fuel).run (standing ts (n + 1)) = .ok (es, standing ts' m)) :
    (Stream.node (fuel + 2) ⟨true, i⟩).run (standing (.blockMappingStart :: ts) n)
      = .ok (.mapping n Tag.map es, standing ts' m) := by
  change Except.bind ((blockEntries fuel).run (standing ts (n + 1))) _ = _
  rw [h]
  rfl

/-- A tree does not begin with the mark or the end of an entry. -/
theorem run_nodeUnless {fuel : Nat} {place : Place} (b : Block) {ends : List Token}
    (h : ends ⊆ [.blockEntry, .key, .value, .blockEnd]) (ts : List Token) (n : Nat) :
    (nodeUnless (fuel + 1) place ends).run (standing (b.tokens ++ ts) n)
      = (Stream.node fuel place).run (standing (b.tokens ++ ts) n) := by
  obtain ⟨t, us, hb, ht⟩ : ∃ t us, b.tokens = t :: us
      ∧ t ∉ [Token.blockEntry, .key, .value, .blockEnd] := by
    cases b <;> exact ⟨_, _, rfl, by simp [RowScalar.token]⟩
  have hc : ends.contains t = false := by
    simp only [List.contains_eq_mem, decide_eq_false_iff_not]
    exact fun hm => ht (h hm)
  rw [hb]
  change (if ends.contains t = true then emptyNode else Stream.node fuel place).run _ = _
  rw [hc]
  rfl

mutual

/-- The tokens of a tree are **read** as its node. -/
theorem run_node (fuel : Nat) {i : Bool} (ts : List Token) (n : Nat) :
    ∀ b : Block, 2 * b.tokens.length ≤ fuel →
      (Stream.node fuel ⟨true, i⟩).run (standing (b.tokens ++ ts) n)
        = .ok (b.node n, standing ts (n + b.size))
  | .scalar v, hf => by
    obtain ⟨fuel, rfl⟩ : ∃ f, fuel = f + 2 := ⟨fuel - 2, by simp [Block.tokens] at hf; omega⟩
    exact run_scalar fuel _ v.string v.isPlain ts n
  | .items xs, hf => by
    simp only [Block.tokens, List.length_cons, List.length_append] at hf
    obtain ⟨fuel, rfl⟩ : ∃ f, fuel = f + 2 := ⟨fuel - 2, by omega⟩
    have := run_itemsTokens fuel ts (n + 1) xs (by simp at hf; omega)
    simpa [Block.tokens, Block.node, Block.size, Nat.add_assoc] using run_items (i := i) this
  | .entries es, hf => by
    simp only [Block.tokens, List.length_cons, List.length_append] at hf
    obtain ⟨fuel, rfl⟩ : ∃ f, fuel = f + 2 := ⟨fuel - 2, by omega⟩
    have := run_entriesTokens fuel ts (n + 1) es (by simp at hf; omega)
    simpa [Block.tokens, Block.node, Block.size, Nat.add_assoc] using run_entries (i := i) this

/-- The tokens of items are read as their nodes, up to the end of the block. -/
theorem run_itemsTokens (fuel : Nat) (ts : List Token) (n : Nat) :
    ∀ xs : List Block, 2 * (itemsTokens xs).length + 2 ≤ fuel →
      (blockItems fuel).run (standing (itemsTokens xs ++ .blockEnd :: ts) n)
        = .ok (itemsNodes n xs, standing ts (n + itemsSize xs))
  | [], hf => by
    obtain ⟨fuel, rfl⟩ : ∃ f, fuel = f + 1 := ⟨fuel - 1, by omega⟩
    rfl
  | x :: xs, hf => by
    simp only [itemsTokens, List.length_cons, List.length_append] at hf
    obtain ⟨fuel, rfl⟩ : ∃ f, fuel = f + 2 := ⟨fuel - 2, by omega⟩
    have hx := run_node fuel (i := false) (itemsTokens xs ++ .blockEnd :: ts) n x
      (by omega)
    have hxs := run_itemsTokens (fuel + 1) ts (n + x.size) xs (by omega)
    rw [← run_nodeUnless x (show [.blockEntry, .blockEnd] ⊆ _ by simp)] at hx
    have ht : itemsTokens (x :: xs) ++ .blockEnd :: ts
        = .blockEntry :: (x.tokens ++ (itemsTokens xs ++ .blockEnd :: ts)) := by
      simp [itemsTokens]
    rw [ht]
    change Except.bind ((nodeUnless (fuel + 1) ⟨true, false⟩ [.blockEntry, .blockEnd]).run
      (standing (x.tokens ++ (itemsTokens xs ++ .blockEnd :: ts)) n)) _ = _
    rw [hx]
    change Except.bind ((blockItems (fuel + 1)).run
      (standing (itemsTokens xs ++ .blockEnd :: ts) (n + x.size))) _ = _
    rw [hxs]
    simp [itemsNodes, itemsSize, Nat.add_assoc, Except.bind]
    rfl

/-- The tokens of entries are read as their nodes, up to the end of the block. -/
theorem run_entriesTokens (fuel : Nat) (ts : List Token) (n : Nat) :
    ∀ es : List (Word × Block), 2 * (entriesTokens es).length + 2 ≤ fuel →
      (blockEntries fuel).run (standing (entriesTokens es ++ .blockEnd :: ts) n)
        = .ok (entriesNodes n es, standing ts (n + entriesSize es))
  | [], hf => by
    obtain ⟨fuel, rfl⟩ : ∃ f, fuel = f + 1 := ⟨fuel - 1, by omega⟩
    rfl
  | (k, x) :: es, hf => by
    simp only [entriesTokens, List.length_cons, List.length_append] at hf
    obtain ⟨fuel, rfl⟩ : ∃ f, fuel = f + 4 := ⟨fuel - 4, by omega⟩
    have hx := run_node (fuel + 2) (i := true) (entriesTokens es ++ .blockEnd :: ts) (n + 1)
      x (by omega)
    have hes := run_entriesTokens (fuel + 3) ts (n + 1 + x.size) es (by omega)
    rw [← run_nodeUnless x (show [.key, .value, .blockEnd] ⊆ _ by simp)] at hx
    have ht : entriesTokens ((k, x) :: es) ++ .blockEnd :: ts
        = .key :: k.token :: .value
          :: (x.tokens ++ (entriesTokens es ++ .blockEnd :: ts)) := by
      simp [entriesTokens]
    rw [ht]
    change Except.bind ((nodeUnless (fuel + 3) ⟨true, true⟩ [.key, .value, .blockEnd]).run
      (standing (x.tokens ++ (entriesTokens es ++ .blockEnd :: ts)) (n + 1))) _ = _
    rw [hx]
    change Except.bind ((blockEntries (fuel + 3)).run
      (standing (entriesTokens es ++ .blockEnd :: ts) (n + 1 + x.size))) _ = _
    rw [hes]
    simp [entriesNodes, entriesSize, Nat.add_assoc, Except.bind, scalarTag]
    rfl

end

/-- The tokens of a **whole text** are read as the node of its tree. -/
theorem run_document (fuel : Nat) (es : List (Word × Block))
    (hf : 2 * (Block.entries es).tokens.length ≤ fuel) :
    (Stream.document fuel).run
        { tokens := (Block.entries es).tokens ++ [.streamEnd], fault := none, handles := [],
          named := [], next := 1 }
      = .ok (some ((Block.entries es).node 1), standing [] (1 + (Block.entries es).size)) := by
  obtain ⟨fuel, rfl⟩ : ∃ f, fuel = f + 1 := ⟨fuel - 1, by
    have := (Block.entries es).tokens_pos
    omega⟩
  have h := run_node (fuel + 1) (i := false) [.streamEnd] 1 (Block.entries es) hf
  change Except.bind ((Stream.node (fuel + 1) ⟨true, false⟩).run
    (standing ((Block.entries es).tokens ++ [.streamEnd]) 1)) _ = _
  rw [h]
  rfl

end Stream

/-- A text with the **tokens of a tree** is read as the node of the tree. -/
theorem Node.read_of_tokens {cs : List Char} {es : List (Word × Block)}
    (h : Yaml.tokens cs = ((Block.entries es).tokens ++ [.streamEnd], none)) :
    Node.read cs = .ok (some ((Block.entries es).node 1)) := by
  have := Stream.run_document
    (4 * ((Block.entries es).tokens ++ [Token.streamEnd]).length + 4) es (by simp; omega)
  simp only [Node.read, h, this, bind, Except.bind]
  rfl

end StackManifest.Yaml
