import StackManifest.Proofs.Markup.Cutting
import StackManifest.Proofs.Markup.Data

/-!
# The layout of trees

A tree is written with a row for each name and each item: what belongs to a name stands after
it if it is a scalar, and below it, two columns further, if it is not. What is written so is
read back: its rows fit together, and their tokens are those of the tree.

* `Block.rows`, `Block.entriesRows` – the **rows** of a tree and of entries;
* `Block.IsWritable` – the trees that **can be written**: no block is empty, no item consists of
  items, and no name is too long;
* `rowsTokens?_rows` – the tokens of the rows are those of the tree;
* `read_rowsText` – a **written tree is read back** as its data.
-/

namespace StackManifest.Yaml

namespace Block

/-- The scalar that a tree is, if it is one. -/
def scalar? : Block → Option RowScalar
  | .scalar v => some v
  | _ => none

mutual

/-- The **rows** of a tree that stands below a name; a scalar stands after it. -/
def rows (indent : Nat) : Block → List Row
  | .scalar _ => []
  | .items xs => itemsRows indent xs
  | .entries es => entriesRows 0 indent es

/-- The rows of **entries**, with some empty lines in front of each. -/
def entriesRows (gap indent : Nat) : List (Word × Block) → List Row
  | [] => []
  | (k, x) :: es =>
    ⟨gap, indent, .field false k x.scalar?⟩ :: (x.rows (indent + 2) ++ entriesRows gap indent es)

/-- The rows of items. -/
def itemsRows (indent : Nat) : List Block → List Row
  | [] => []
  | x :: xs => x.itemRows indent ++ itemsRows indent xs

/-- The rows of an item. An item that consists of items is not written. -/
def itemRows (indent : Nat) : Block → List Row
  | .scalar v => [⟨0, indent, .item v⟩]
  | .items _ => []
  | .entries es => itemEntriesRows indent es

/-- The rows of an item of entries: its mark stands in front of the first entry. -/
def itemEntriesRows (indent : Nat) : List (Word × Block) → List Row
  | [] => []
  | (k, x) :: es =>
    ⟨0, indent, .field true k x.scalar?⟩
      :: (x.rows (indent + 4) ++ entriesRows 0 (indent + 2) es)

end

/-- Whether a tree consists of items. -/
def isItems : Block → Bool
  | .items _ => true
  | _ => false

mutual

/-- The trees that **can be written**. -/
def IsWritable : Block → Prop
  | .scalar _ => True
  | .items xs => xs ≠ [] ∧ ItemsWritable xs
  | .entries es => es ≠ [] ∧ EntriesWritable es

/-- Items that can be written: none of them consists of items. -/
def ItemsWritable : List Block → Prop
  | [] => True
  | x :: xs => (x.isItems = false ∧ x.IsWritable) ∧ ItemsWritable xs

/-- Entries that can be written: their names are short enough for keys. -/
def EntriesWritable : List (Word × Block) → Prop
  | [] => True
  | (k, x) :: es => (k.chars.length ≤ 1024 ∧ x.IsWritable) ∧ EntriesWritable es

end

end Block

open Block

theorem entriesRows_append (gap indent : Nat) (es fs : List (Word × Block)) :
    entriesRows gap indent (es ++ fs) = entriesRows gap indent es ++ entriesRows gap indent fs := by
  induction es with
  | nil => rfl
  | cons e es ih => simp [entriesRows, ih]

/-! ### Rows after a block -/

/-- Rows that do not go on with a block at a column. -/
def Ends (column : Nat) (rs : List Row) : Prop := ∀ r ∈ rs.head?, r.indent < column

theorem Ends.mono {m n : Nat} {rs : List Row} (h : Ends m rs) (hmn : m ≤ n) : Ends n rs :=
  fun r hr => Nat.lt_of_lt_of_le (h r hr) hmn

theorem Ends.all_head? {column : Nat} {rs : List Row} {s : List Nat} (h : Ends (column + 1) rs)
    (ht : top s = column) : rs.head?.all (fun r => (r.indent : Int) ≤ top s) = true := by
  cases hr : rs.head? with
  | none => rfl
  | some r =>
    have := h r hr
    simp only [Option.all_some, ht, decide_eq_true_eq]
    omega

/-- Two stacks with which a row fits alike and leaves the same blocks open differ in **one
token** in front of it. -/
theorem rowsTokens?_of_tokens {s s' : List Nat} {r : Row} {rs : List Row} {t : Token}
    (hs : r.stack s = r.stack s') (ht : r.tokens s = t :: r.tokens s') :
    rowsTokens? s (r :: rs) = (rowsTokens? s' (r :: rs)).map (t :: ·) := by
  rw [rowsTokens?, rowsTokens?, Row.fits, Row.fits, hs, ht]
  split
  · cases rowsTokens? _ rs <;> rfl
  · rfl

/-- A row at an earlier column **ends the innermost block**. -/
theorem rowsTokens?_ends {column : Nat} {s : List Nat} {rs : List Row} (h : Ends column rs) :
    rowsTokens? (column :: s) rs = (rowsTokens? s rs).map (.blockEnd :: ·) := by
  cases rs with
  | nil =>
    have : (-1 : Int) < (column : Int) := by omega
    simp [rowsTokens?, ends, this, List.replicate_succ]
  | cons r rs =>
    have hc : r.indent < column := h r rfl
    have hi : innermost r.indent (column :: s) = innermost r.indent s := by
      simp [innermost, hc]
    have he : ends r.indent (column :: s) = .blockEnd :: ends r.indent s := by
      simp [ends, hc, List.replicate_succ]
    refine rowsTokens?_of_tokens ?_ ?_
    · rw [Row.stack, Row.stack, hi]
    · rw [Row.tokens, Row.tokens, hi, he, List.cons_append]

theorem innermost_same (column : Nat) (s : List Nat) :
    innermost column (column :: s) = column :: s ∧ ends column (column :: s) = [] :=
  innermost_of_top_le (Int.le_refl _)

theorem opened_same (column : Nat) (s : List Nat) : opened column (column :: s) = column :: s := by
  simp [opened]

section Rows

variable (gap : Nat) {column : Nat} {s : List Nat} {k : Word} {v : Option RowScalar} {rs : List Row}

/-! ### Rows within a block -/

/-- A field **fits**, if its name is short and the next row ends what its scalar is in. -/
theorem fits_field {dash : Bool} {s₀ : List Nat} {n : Nat} (hk : k.chars.length ≤ 1024)
    (hst : (⟨gap, column, .field dash k v⟩ : Row).stack s₀ = n :: s)
    (hr : v.isSome → Ends (n + 1) rs) :
    (⟨gap, column, .field dash k v⟩ : Row).fits s₀ rs.head? = true := by
  rw [Row.fits, hst]
  cases v with
  | none => simp [RowBody.isShort, RowBody.hasScalar, hk]
  | some v =>
    simp only [RowBody.isShort, hk, decide_true, Bool.true_and, Bool.or_eq_true]
    exact Or.inr ((hr rfl).all_head? rfl)

/-- A **field** in the innermost block, and the rows after it. -/
theorem rowsTokens?_field (hk : k.chars.length ≤ 1024) (hr : v.isSome → Ends (column + 1) rs) :
    rowsTokens? (column :: s) (⟨gap, column, .field false k v⟩ :: rs)
      = (rowsTokens? (column :: s) rs).map
          (.key :: k.token :: .value :: (v.map RowScalar.token).toList ++ ·) := by
  obtain ⟨hi, he⟩ := innermost_same column s
  have hst : (⟨gap, column, .field false k v⟩ : Row).stack (column :: s) = column :: s := by
    simp [Row.stack, RowBody.stack, hi, opened_same]
  have ht : (⟨gap, column, .field false k v⟩ : Row).tokens (column :: s)
      = .key :: k.token :: .value :: (v.map RowScalar.token).toList := by
    simp [Row.tokens, RowBody.tokens, hi, he, fieldTokens, opening]
  rw [rowsTokens?, hst, ht, if_pos (fits_field gap hk hst hr)]

/-- An **item** that is a scalar, and the rows after it. -/
theorem rowsTokens?_item {v : RowScalar} (hr : Ends (column + 1) rs) :
    rowsTokens? (column :: s) (⟨gap, column, .item v⟩ :: rs)
      = (rowsTokens? (column :: s) rs).map (.blockEntry :: v.token :: ·) := by
  obtain ⟨hi, he⟩ := innermost_same column s
  have hst : (⟨gap, column, .item v⟩ : Row).stack (column :: s) = column :: s := by
    simp [Row.stack, RowBody.stack, hi, opened_same]
  have ht : (⟨gap, column, .item v⟩ : Row).tokens (column :: s) = [.blockEntry, v.token] := by
    simp [Row.tokens, RowBody.tokens, hi, he, opening]
  have hf : (⟨gap, column, .item v⟩ : Row).fits (column :: s) rs.head? = true := by
    rw [Row.fits, hst]
    simp only [RowBody.isShort, Bool.true_and, Bool.or_eq_true]
    exact Or.inr (hr.all_head? rfl)
  rw [rowsTokens?, hst, ht, if_pos hf]
  rfl

/-- An item that begins with a **field**, and the rows after it. -/
theorem rowsTokens?_itemField (hk : k.chars.length ≤ 1024)
    (hr : v.isSome → Ends (column + 3) rs) :
    rowsTokens? (column :: s) (⟨gap, column, .field true k v⟩ :: rs)
      = (rowsTokens? ((column + 2) :: column :: s) rs).map
          (.blockEntry :: .blockMappingStart :: .key :: k.token :: .value
            :: (v.map RowScalar.token).toList ++ ·) := by
  obtain ⟨hi, he⟩ := innermost_same column s
  have htop : top (column :: s) < ((column + 2 : Nat) : Int) := by
    rw [top_cons]
    omega
  have hop : opened (column + 2) (column :: s) = (column + 2) :: column :: s := if_pos htop
  have hst : (⟨gap, column, .field true k v⟩ : Row).stack (column :: s)
      = (column + 2) :: column :: s := by
    simp only [Row.stack, RowBody.stack, hi, opened_same, hop]
  have ht : (⟨gap, column, .field true k v⟩ : Row).tokens (column :: s)
      = .blockEntry :: .blockMappingStart :: .key :: k.token :: .value
        :: (v.map RowScalar.token).toList := by
    simp only [Row.tokens, RowBody.tokens, hi, he, fieldTokens, opening, opened_same, if_pos htop]
    simp
  rw [rowsTokens?, hst, ht, if_pos (fits_field gap hk hst hr)]

variable (rs) in
/-- The first field at a column **begins a block** of entries there. -/
theorem rowsTokens?_beginEntries (hs : top s < column) :
    rowsTokens? s (⟨gap, column, .field false k v⟩ :: rs)
      = (rowsTokens? (column :: s) (⟨gap, column, .field false k v⟩ :: rs)).map
          (.blockMappingStart :: ·) := by
  obtain ⟨hi, he⟩ := innermost_same column s
  obtain ⟨hi', he'⟩ := innermost_of_top_le (Int.le_of_lt hs)
  refine rowsTokens?_of_tokens ?_ ?_
  · simp [Row.stack, RowBody.stack, hi, hi', opened, hs]
  · simp [Row.tokens, RowBody.tokens, hi, he, hi', he', fieldTokens, opening, hs]

variable (rs) in
/-- The first item at a column **begins a block** of items there. -/
theorem rowsTokens?_beginItems {b : RowBody} (hb : ∀ k v, b ≠ .field false k v)
    (hs : top s < column) :
    rowsTokens? s (⟨gap, column, b⟩ :: rs)
      = (rowsTokens? (column :: s) (⟨gap, column, b⟩ :: rs)).map (.blockSequenceStart :: ·) := by
  obtain ⟨hi, he⟩ := innermost_same column s
  obtain ⟨hi', he'⟩ := innermost_of_top_le (Int.le_of_lt hs)
  have hop : opened column s = column :: s := by simp [opened, hs]
  rcases b with ⟨_ | _, k, v⟩ | v
  · exact absurd rfl (hb k v)
  · refine rowsTokens?_of_tokens ?_ ?_
    · simp only [Row.stack, RowBody.stack, hi, hi', hop, opened_same]
    · simp only [Row.tokens, RowBody.tokens, hi, he, hi', he', hop, opened_same]
      simp [opening, hs]
  · refine rowsTokens?_of_tokens ?_ ?_
    · simp only [Row.stack, RowBody.stack, hi, hi', hop, opened_same]
    · simp [Row.tokens, RowBody.tokens, hi, he, hi', he', opening, hs]

end Rows

/-! ### The tokens of the rows of a tree -/

theorem ends_entriesRows (gap : Nat) {column : Nat} (es : List (Word × Block)) {rs : List Row}
    (hr : Ends (column + 1) rs) : Ends (column + 1) (entriesRows gap column es ++ rs) := by
  cases es with
  | nil => exact hr
  | cons e es =>
    rintro r ⟨⟩
    exact Nat.lt_succ_self column

theorem ends_itemRows {column : Nat} (x : Block) {rs : List Row} (hr : Ends (column + 1) rs) :
    Ends (column + 1) (x.itemRows column ++ rs) := by
  cases x with
  | scalar v =>
    rintro r ⟨⟩
    exact Nat.lt_succ_self column
  | items xs => exact hr
  | entries es =>
    cases es with
    | nil => exact hr
    | cons e es =>
      rintro r ⟨⟩
      exact Nat.lt_succ_self column

theorem ends_itemsRows {column : Nat} (xs : List Block) {rs : List Row}
    (hr : Ends (column + 1) rs) : Ends (column + 1) (itemsRows column xs ++ rs) := by
  induction xs with
  | nil => exact hr
  | cons x xs ih =>
    rw [itemsRows, List.append_assoc]
    exact ends_itemRows x ih

/-- An item that can be written begins with its mark. -/
theorem exists_itemRows (x : Block) (column : Nat) (hx : x.isItems = false ∧ x.IsWritable) :
    ∃ b, (∀ k v, b ≠ .field false k v) ∧ ∃ us, x.itemRows column = ⟨0, column, b⟩ :: us := by
  cases x with
  | scalar v => exact ⟨.item v, by simp, [], rfl⟩
  | items xs => exact absurd hx.1 (by simp [isItems])
  | entries es =>
    cases es with
    | nil => exact absurd rfl hx.2.1
    | cons e es => exact ⟨.field true e.1 e.2.scalar?, by simp, _, rfl⟩

theorem rows_of_scalar? {x : Block} (h : x.scalar?.isSome) (column : Nat) : x.rows column = [] := by
  cases x <;> first | rfl | exact absurd h (by simp [scalar?])

/-- A **block of entries** has the tokens of its entries between its beginning and its end. -/
theorem rowsTokens?_entriesBlock {gap column : Nat} {s : List Nat} {rs : List Row}
    {es : List (Word × Block)} (hne : es ≠ []) (hs : top s < column) (hr : Ends column rs)
    (h : rowsTokens? (column :: s) (entriesRows gap column es ++ rs)
      = (rowsTokens? (column :: s) rs).map (entriesTokens es ++ ·)) :
    rowsTokens? s (entriesRows gap column es ++ rs)
      = (rowsTokens? s rs).map ((Block.entries es).tokens ++ ·) := by
  rcases es with _ | ⟨⟨k, x⟩, es⟩
  · exact absurd rfl hne
  have hbegin := rowsTokens?_beginEntries gap (k := k) (v := x.scalar?)
    (x.rows (column + 2) ++ entriesRows gap column es ++ rs) hs
  have he : entriesRows gap column ((k, x) :: es) ++ rs
      = ⟨gap, column, .field false k x.scalar?⟩
        :: (x.rows (column + 2) ++ entriesRows gap column es ++ rs) := by
    simp [entriesRows]
  rw [← he, h, rowsTokens?_ends hr] at hbegin
  simp only [hbegin, Option.map_map, Block.tokens]
  congr 1
  funext ts
  simp

/-- A **block of items** has the tokens of its items between its beginning and its end. -/
theorem rowsTokens?_itemsBlock {column : Nat} {s : List Nat} {rs : List Row} {xs : List Block}
    (hw : (Block.items xs).IsWritable) (hs : top s < column) (hr : Ends column rs)
    (h : rowsTokens? (column :: s) (itemsRows column xs ++ rs)
      = (rowsTokens? (column :: s) rs).map (itemsTokens xs ++ ·)) :
    rowsTokens? s (itemsRows column xs ++ rs)
      = (rowsTokens? s rs).map ((Block.items xs).tokens ++ ·) := by
  rcases xs with _ | ⟨x, xs⟩
  · exact absurd rfl hw.1
  obtain ⟨b, hb, us, hrow⟩ := exists_itemRows x column hw.2.1
  have hbegin := rowsTokens?_beginItems 0 (us ++ (itemsRows column xs ++ rs)) hb hs
  have he : itemsRows column (x :: xs) ++ rs
      = ⟨0, column, b⟩ :: (us ++ (itemsRows column xs ++ rs)) := by
    simp [itemsRows, hrow]
  rw [← he, h, rowsTokens?_ends hr] at hbegin
  simp only [hbegin, Option.map_map, Block.tokens]
  congr 1
  funext ts
  simp

mutual

/-- The rows of a tree below a name have the tokens of the tree; a scalar has no rows of its own. -/
theorem rowsTokens?_rows (column : Nat) {s : List Nat} {rs : List Row} (hs : top s < column)
    (hr : Ends column rs) :
    ∀ x : Block, x.IsWritable →
      (rowsTokens? s (x.rows column ++ rs)).map ((x.scalar?.map RowScalar.token).toList ++ ·)
        = (rowsTokens? s rs).map (x.tokens ++ ·)
  | .scalar v, _ => rfl
  | .items xs, hx => by
    have h := rowsTokens?_itemsRows (s := s) (hr.mono (Nat.le_succ column)) xs hx.2
    simp only [Block.rows, rowsTokens?_itemsBlock hx hs hr h, Option.map_map]
    rfl
  | .entries es, hx => by
    have h := rowsTokens?_entriesRows 0 column (s := s) (hr.mono (Nat.le_succ column)) es hx.2
    simp only [Block.rows, rowsTokens?_entriesBlock hx.1 hs hr h, Option.map_map]
    rfl

/-- The rows of **entries** within a block have the tokens of the entries. -/
theorem rowsTokens?_entriesRows (gap column : Nat) {s : List Nat} {rs : List Row}
    (hr : Ends (column + 1) rs) :
    ∀ es : List (Word × Block), EntriesWritable es →
      rowsTokens? (column :: s) (entriesRows gap column es ++ rs)
        = (rowsTokens? (column :: s) rs).map (entriesTokens es ++ ·)
  | [], _ => by simp [entriesRows, entriesTokens]
  | (k, x) :: es, hw => by
    obtain ⟨⟨hk, hx⟩, hes⟩ := hw
    have hlater := ends_entriesRows gap es hr
    have hvalue := rowsTokens?_rows (column + 2) (s := column :: s)
      (by rw [top_cons]; omega) (hlater.mono (by omega)) x hx
    rw [rowsTokens?_entriesRows gap column hr es hes] at hvalue
    have hrest : x.scalar?.isSome → Ends (column + 1)
        (x.rows (column + 2) ++ (entriesRows gap column es ++ rs)) := by
      intro hsc
      rw [rows_of_scalar? hsc]
      exact hlater
    have hfield := rowsTokens?_field gap (s := s) hk hrest
    rw [entriesRows, List.cons_append, List.append_assoc, hfield]
    simp only [List.cons_append]
    have hmap := congrArg (Option.map fun ts => Token.key :: k.token :: Token.value :: ts) hvalue
    simp only [Option.map_map] at hmap ⊢
    refine hmap.trans ?_
    congr 1
    funext ts
    simp [entriesTokens]

/-- The rows of **items** within a block have the tokens of the items. -/
theorem rowsTokens?_itemsRows {column : Nat} {s : List Nat} {rs : List Row}
    (hr : Ends (column + 1) rs) :
    ∀ xs : List Block, ItemsWritable xs →
      rowsTokens? (column :: s) (itemsRows column xs ++ rs)
        = (rowsTokens? (column :: s) rs).map (itemsTokens xs ++ ·)
  | [], _ => by simp [itemsRows, itemsTokens]
  | x :: xs, hw => by
    have hitem := rowsTokens?_itemRows (s := s) (ends_itemsRows xs hr) x hw.1
    rw [itemsRows, List.append_assoc, hitem, rowsTokens?_itemsRows hr xs hw.2, Option.map_map]
    congr 1
    funext ts
    simp [itemsTokens]

/-- The rows of an **item** have the tokens of the item. -/
theorem rowsTokens?_itemRows {column : Nat} {s : List Nat} {rs : List Row}
    (hr : Ends (column + 1) rs) :
    ∀ x : Block, x.isItems = false ∧ x.IsWritable →
      rowsTokens? (column :: s) (x.itemRows column ++ rs)
        = (rowsTokens? (column :: s) rs).map (.blockEntry :: x.tokens ++ ·)
  | .scalar v, _ => rowsTokens?_item 0 hr
  | .items xs, hx => absurd hx.1 (by simp [isItems])
  | .entries [], hx => absurd rfl hx.2.1
  | .entries ((k, x) :: es), hx => by
    obtain ⟨-, -, ⟨hk, hx⟩, hes⟩ := hx
    have hlater := ends_entriesRows 0 es
      (hr.mono (show column + 1 ≤ column + 2 + 1 by omega))
    have hvalue := rowsTokens?_rows (column + 4) (s := (column + 2) :: column :: s)
      (by rw [top_cons]; omega) (hlater.mono (by omega)) x hx
    rw [rowsTokens?_entriesRows 0 (column + 2) (hr.mono (by omega)) es hes,
      rowsTokens?_ends (hr.mono (by omega))] at hvalue
    have hrest : x.scalar?.isSome → Ends (column + 3)
        (x.rows (column + 4) ++ (entriesRows 0 (column + 2) es ++ rs)) := by
      intro hsc
      rw [rows_of_scalar? hsc]
      exact hlater
    have hfield := rowsTokens?_itemField 0 (s := s) hk hrest
    rw [itemRows, itemEntriesRows, List.cons_append, List.append_assoc, hfield]
    simp only [List.cons_append]
    have hmap := congrArg (Option.map fun ts => Token.blockEntry :: Token.blockMappingStart
      :: Token.key :: k.token :: Token.value :: ts) hvalue
    simp only [Option.map_map] at hmap ⊢
    refine hmap.trans ?_
    congr 1
    funext ts
    simp [Block.tokens, entriesTokens]

end

/-! ### Written trees are read back -/

theorem two_le_length_text (r : Row) : 2 ≤ r.text.length := by
  rcases h : r.body with ⟨dash, k, v⟩ | v
  · obtain ⟨c, cs, hk, -⟩ := k.exists_cons
    cases v <;> simp [Row.text, RowBody.text, h, valueText, hk] <;> omega
  · simp [Row.text, RowBody.text, h]

theorem two_mul_length_le_laterText (rs : List Row) : 2 * rs.length ≤ (laterText rs).length := by
  induction rs with
  | nil => simp
  | cons r rs ih =>
    have := two_le_length_text r
    simp only [laterText, List.length_append, List.length_cons]
    omega

theorem two_mul_length_le_rowsText (rs : List Row) : 2 * rs.length ≤ (rowsText rs).length := by
  cases rs with
  | nil => simp
  | cons r rs =>
    have h₁ := two_le_length_text r
    have h₂ := two_mul_length_le_laterText rs
    simp only [rowsText, List.length_append, List.length_cons]
    omega

mutual

/-- A tree is at most twice as deep as it has rows. -/
theorem depth_le_rows (column : Nat) :
    ∀ x : Block, x.IsWritable → x.depth ≤ 2 * (x.rows column).length
  | .scalar _, _ => Nat.zero_le _
  | .items xs, hx => itemsDepth_lt_itemsRows column xs hx
  | .entries es, hx => entriesDepth_lt_entriesRows 0 column es hx

/-- A block of items is at most twice as deep as it has rows. -/
theorem itemsDepth_lt_itemsRows (column : Nat) :
    ∀ xs : List Block, (Block.items xs).IsWritable →
      1 + itemsDepth xs ≤ 2 * (itemsRows column xs).length
  | [], hx => absurd rfl hx.1
  | [x], hx => by
    have h := depth_lt_itemRows column x hx.2.1
    simpa [itemsDepth, itemsRows] using h
  | x :: y :: xs, hx => by
    have h₁ := depth_lt_itemRows column x hx.2.1
    have h₂ := itemsDepth_lt_itemsRows column (y :: xs) ⟨by simp, hx.2.2⟩
    rw [itemsDepth, itemsRows, List.length_append]
    omega

/-- An item is less than twice as deep as it has rows. -/
theorem depth_lt_itemRows (column : Nat) :
    ∀ x : Block, x.isItems = false ∧ x.IsWritable → 1 + x.depth ≤ 2 * (x.itemRows column).length
  | .scalar v, _ => by simp [Block.depth, itemRows]
  | .items xs, hx => absurd hx.1 (by simp [isItems])
  | .entries [], hx => absurd rfl hx.2.1
  | .entries ((k, x) :: es), hx => by
    have h₁ := depth_le_rows (column + 4) x hx.2.2.1.2
    have h₂ := entriesDepth_le_entriesRows 0 (column + 2) es hx.2.2.2
    simp only [Block.depth, entriesDepth, itemRows, itemEntriesRows, List.length_cons,
      List.length_append]
    omega

/-- Entries are at most twice as deep as they have rows. -/
theorem entriesDepth_le_entriesRows (gap column : Nat) :
    ∀ es : List (Word × Block), EntriesWritable es →
      entriesDepth es ≤ 2 * (entriesRows gap column es).length
  | [], _ => Nat.zero_le _
  | (k, x) :: es, hes => by
    have h₁ := depth_le_rows (column + 2) x hes.1.2
    have h₂ := entriesDepth_le_entriesRows gap column es hes.2
    simp only [entriesDepth, entriesRows, List.length_cons, List.length_append]
    omega

/-- A block of entries is at most twice as deep as it has rows. -/
theorem entriesDepth_lt_entriesRows (gap column : Nat) :
    ∀ es : List (Word × Block), (Block.entries es).IsWritable →
      1 + entriesDepth es ≤ 2 * (entriesRows gap column es).length
  | [], hx => absurd rfl hx.1
  | (k, x) :: es, hx => by
    have h₁ := depth_le_rows (column + 2) x hx.2.1.2
    have h₂ := entriesDepth_le_entriesRows gap column es hx.2.2
    simp only [entriesDepth, entriesRows, List.length_cons, List.length_append]
    omega

end

/-- A **written tree is read back**: the text of its rows stands for its data, however many
empty lines there are between its outermost entries. -/
theorem read_rowsText {gap : Nat} {es : List (Word × Block)}
    (hw : (Block.entries es).IsWritable) (hr : (Block.entries es).Readable) :
    read (rowsText (entriesRows gap 0 es)) = .ok ((Block.entries es).value 1) := by
  have hnil : Ends 0 [] := by simp [Ends]
  have hes := rowsTokens?_entriesRows gap 0 (s := []) (show Ends 1 [] by simp [Ends]) es hw.2
  have htokens := rowsTokens?_entriesBlock hw.1 (by decide) hnil hes
  rw [List.append_nil] at htokens
  have hdepth := entriesDepth_lt_entriesRows gap 0 es hw
  have hlength := two_mul_length_le_rowsText (entriesRows gap 0 es)
  refine read_of_tokens ?_ hr (by rw [Block.depth]; omega)
  rcases es with _ | ⟨⟨k, x⟩, es⟩
  · exact absurd rfl hw.1
  · exact tokens_rowsText rfl htokens

end StackManifest.Yaml
