import StackManifest.Proofs.Markup.Rows

/-!
# Cutting rows into tokens

A text made of rows is cut into the tokens of its rows. The proof follows the reading token by
token: from a place in front of a row, the reading comes to the place in front of the next row,
and the blocks open there are those that the row leaves open.

* `placed` – a **state** of the reading outside of brackets, where the columns of the open
  blocks are natural numbers;
* `Awaits` – a state in front of some rows, with the space before them still to be passed;
* `Reaches` – the reading comes **from one state to another** in some steps;
* `exists_reaches_row`, `exists_reaches_rows` – the reading of a **row** and of all rows;
* `tokens_rowsText` – the **tokens of a text** made of rows.
-/

namespace StackManifest.Yaml

open Lexer

/-! ### States between tokens -/

/-- The columns of the blocks **around** the innermost one. -/
def around : List Nat → List Int
  | [] => []
  | _ :: s => s.map (fun n : Nat => (n : Int)) ++ [-1]

theorem around_cons (n : Nat) (s : List Nat) : around (n :: s) = top s :: around s := by
  cases s <;> rfl

/-- A **state** of the reading outside of brackets. -/
def placed (c : Cursor) (ts : List Token) (s : List Nat) (allow : Bool) (k : Option KeyPlace) :
    Lexer :=
  { cursor := c, tokens := ts, count := ts.length, indent := top s, indents := around s,
    allowKey := allow, keyPlace := k, outer := [] }

section Placed

variable (c : Cursor) (ts : List Token) (s : List Nat) (a : Bool) (k : Option KeyPlace)

@[simp] theorem placed_cursor : (placed c ts s a k).cursor = c := rfl
@[simp] theorem placed_tokens : (placed c ts s a k).tokens = ts := rfl
@[simp] theorem placed_indent : (placed c ts s a k).indent = top s := rfl
@[simp] theorem placed_allowKey : (placed c ts s a k).allowKey = a := rfl
@[simp] theorem placed_keyPlace : (placed c ts s a k).keyPlace = k := rfl
@[simp] theorem placed_inFlow : (placed c ts s a k).inFlow = false := rfl

theorem openBlock_placed (column : Nat) :
    (placed c ts s a k).openBlock column
      = (decide (top s < column), placed c ts (opened column s) a k) := by
  unfold openBlock opened
  by_cases h : top s < column
  · simp only [placed_indent, h, if_true, decide_true]
    simp [placed, around_cons, top]
  · simp [h]

theorem beginBlock_placed (t : Token) :
    (placed c ts s a k).beginBlock t
      = placed c ((opening t c.column s).reverse ++ ts) (opened c.column s) a k := by
  unfold beginBlock opening
  rw [placed_cursor, openBlock_placed]
  by_cases h : top s < c.column
  · simp [h, placed, emit]
  · simp [h]

variable {s} in
/-- The blocks **end** that are indented further than a column. -/
theorem unwind_placed {column : Int} (hc : -1 ≤ column) :
    ∀ (ts : List Token) {fuel : Nat}, s.length < fuel →
      unwind column fuel (placed c ts s a k)
        = placed c (ends column s ++ ts) (innermost column s) a k := by
  induction s with
  | nil =>
    rintro ts (_ | fuel) hf
    · exact absurd hf (Nat.lt_irrefl 0)
    have : ¬ column < top [] := by simpa [top] using hc
    simp [unwind, this, ends, innermost]
  | cons n s ih =>
    rintro ts (_ | fuel) hf
    · exact absurd hf (Nat.not_lt_zero _)
    by_cases h : column < (n : Int)
    · have hi := ih (.blockEnd :: ts) (Nat.lt_of_succ_lt_succ hf)
      have hn : ({ (placed c ts (n :: s) a k).emit .blockEnd with
          indent := (placed c ts (n :: s) a k).indents.headD (-1),
          indents := (placed c ts (n :: s) a k).indents.tail } : Lexer)
          = placed c (.blockEnd :: ts) s a k := by
        simp [placed, emit, around_cons]
      have he : ends column (n :: s) ++ ts = ends column s ++ .blockEnd :: ts := by
        simp [ends, h, List.replicate_succ']
      rw [unwind, placed_indent, if_pos (by simpa [top] using h), hn, hi, he]
      simp [innermost, h]
    · simp [unwind, top, h, ends, innermost]

theorem unwindTo_placed {column : Int} (hc : -1 ≤ column) :
    (placed c ts s a k).unwindTo column
      = placed c (ends column s ++ ts) (innermost column s) a k := by
  have hl : (around s).length = s.length := by cases s <;> simp [around]
  exact unwind_placed c a k hc ts (by simp [placed, hl])

theorem dropStale_placed :
    (placed c ts s a k).dropStale
      = (freshKey c k).map fun k => placed c ts s a k := by
  cases h : freshKey c k with
  | error f => simp [dropStale, h, bind, Except.bind, Except.map]
  | ok k' => simp [dropStale, h, bind, Except.bind, Except.map, placed, pure, Except.pure]

/-- The space in front of a token is passed, and a key may begin after a line feed. -/
theorem toNextToken_placed {m n : Nat} {r : List Char} (hr : IsContent r)
    (hc : c.rest = gap m n ++ r) (hs : c.rest.length ≤ c.size) :
    (placed c ts s a k).toNextToken = placed (c.below m n r) ts s (a || m ≠ 0) k := by
  have hh : c.head ≠ '\uFEFF' := by
    rcases m with _ | m
    · rcases n with _ | n
      · have := (hr.cursor_head (c := c) (by simpa [gap] using hc)).2.2
        intro e
        simp [e, isInline] at this
      · have h : c.rest = ' ' :: (List.replicate n ' ' ++ r) := by
          simp [hc, gap, List.replicate_succ]
        rw [Cursor.head_of_rest h]
        decide
    · have h : c.rest = '\n' :: (gap m n ++ r) := by rw [hc, gap_succ, List.cons_append]
      rw [Cursor.head_of_rest h]
      decide
  have hm : m < c.size + 1 := by
    rw [hc, List.length_append, length_gap] at hs
    omega
  have := skipSpace_gap hr false hm hc
  simp [toNextToken, hh, this]
  simp [placed]

/-- Nothing is passed in front of the content of a line. -/
theorem toNextToken_content {r : List Char} (hr : IsContent r) (hc : c.rest = r)
    (hs : c.rest.length ≤ c.size) : (placed c ts s a k).toNextToken = placed c ts s a k := by
  have := toNextToken_placed c ts s a k (m := 0) (n := 0) hr hc hs
  simpa [Cursor.onward_zero hc] using this

/-- A single space is passed. -/
theorem toNextToken_space {r : List Char} (hr : IsContent r) (hc : c.rest = ' ' :: r)
    (hs : c.rest.length ≤ c.size) :
    (placed c ts s a k).toNextToken = placed (c.onward 1 r) ts s a k := by
  simpa using toNextToken_placed c ts s a k (m := 0) (n := 1) hr hc hs

end Placed

/-! ### Steps -/

-- Left to itself, Lean would look into the step to see how the match on it goes on.
attribute [local irreducible] Lexer.step in
theorem run_succ (fuel : Nat) (l : Lexer) :
    run (fuel + 1) l = match l.step with
      | .error f => (l.settled, some f)
      | .ok l' =>
        if l'.tokens.head? = some .streamEnd then (l'.tokens.reverse, none) else run fuel l' :=
  rfl

/-- The reading comes from one state to **another** in some steps. -/
def Reaches (n : Nat) (l l' : Lexer) : Prop := ∀ fuel, run (fuel + n) l = run fuel l'

theorem reaches_of_step {l l' : Lexer} (h : l.step = .ok l')
    (ht : l'.tokens.head? ≠ some .streamEnd) : Reaches 1 l l' := by
  intro fuel
  rw [run_succ, h]
  exact if_neg ht

theorem Reaches.trans {m n : Nat} {l₁ l₂ l₃ : Lexer} (h₁ : Reaches m l₁ l₂)
    (h₂ : Reaches n l₂ l₃) : Reaches (n + m) l₁ l₃ := by
  intro fuel
  rw [← Nat.add_assoc, h₁, h₂]

/-- A step cuts off the next token, after the ends of blocks in front of it. -/
theorem step_eq_token {l : Lexer} {c : Cursor} {ts : List Token} {s : List Nat} {a : Bool}
    {k : Option KeyPlace} (h : l.toNextToken.dropStale = .ok (placed c ts s a k))
    (hc : c.rest ≠ []) :
    l.step = (placed c (ends c.column s ++ ts) (innermost c.column s) a k).token := by
  have hu := unwindTo_placed c ts s a k (show -1 ≤ (c.column : Int) by omega)
  simp [step, h, bind, Except.bind, hu, hc]

/-- Unless it stands left of the innermost block, the next token has **no ends** in front of it. -/
theorem step_eq_token_of_top_le {l : Lexer} {c : Cursor} {ts : List Token} {s : List Nat}
    {a : Bool} {k : Option KeyPlace} (h : l.toNextToken.dropStale = .ok (placed c ts s a k))
    (hc : c.rest ≠ []) (ht : top s ≤ c.column) : l.step = (placed c ts s a k).token := by
  obtain ⟨hi, he⟩ := innermost_of_top_le ht
  rw [step_eq_token h hc, hi, he, List.nil_append]

/-! ### Which token comes next -/

theorem isDocumentMark_of_head {c : Cursor} (h₁ : c.head ≠ '-') (h₂ : c.head ≠ '.') :
    c.isDocumentMark = false := by
  cases hr : c.rest with
  | nil => simp [Cursor.isDocumentMark, Cursor.startsWith, hr]
  | cons ch r =>
    rw [Cursor.head_of_rest hr] at h₁ h₂
    simp [Cursor.isDocumentMark, Cursor.startsWith, hr, h₁.symm, h₂.symm]

theorem token_of_alphanum {l : Lexer} (h : l.cursor.head.isAlphanum) :
    l.token = l.plainScalar := by
  have hg := isGap_of_isVisible (isVisible_of_isAlphanum h)
  have ne : ∀ d : Char, d.isAlphanum = false → l.cursor.head ≠ d := by
    rintro d hd he
    rw [he, hd] at h
    exact absurd h (by decide)
  have hm := isDocumentMark_of_head (ne '-' rfl) (ne '.' rfl)
  have hb : beginsPlain l.inFlow l.cursor.head (l.cursor.peek 1) = true := by
    simp (disch := decide) [beginsPlain, hg, ne]
  dsimp only [token]
  split
  all_goals try exact absurd ‹_› (ne _ rfl)
  simp (disch := decide) [ne, hm, hb]

theorem token_of_colon {l : Lexer} (h : l.cursor.head = ':') (hg : isGap (l.cursor.peek 1)) :
    l.token = l.colon := by
  have hm := isDocumentMark_of_head (c := l.cursor) (by simp [h]) (by simp [h])
  simp [token, h, hg, hm]

theorem token_of_dash {l : Lexer} {r : List Char} (h : l.cursor.rest = '-' :: ' ' :: r) :
    l.token = l.blockEntry := by
  have hh := Cursor.head_of_rest h
  have hp : l.cursor.peek 1 = ' ' := Cursor.peek_one_of_rest h
  have hm : l.cursor.isDocumentMark = false := by
    simp [Cursor.isDocumentMark, Cursor.startsWith, h]
  have hg : isGap ' ' = true := rfl
  simp [token, hh, hp, hm, hg]

theorem token_of_quote {l : Lexer} (h : l.cursor.head = '"') :
    l.token = l.nodeToken (Cursor.quoted true) := by
  simp [token, h]

/-! ### Plain scalars -/

/-- What ends a word: the end of the text, a gap, or a colon before a gap. -/
def EndsWord (r : List Char) : Prop := ∀ ch ∈ r.head?, Cursor.endsPlain false ch (r.tail.headD '\x00')

theorem plainStretch_word {r : List Char} (hr : EndsWord r) :
    ∀ {cs : List Char}, (∀ c ∈ cs, isVisible c ∧ c ≠ ':') → Cursor.plainStretch false (cs ++ r) = cs
  | [], _ => by
    cases r with
    | nil => rfl
    | cons ch r =>
      have := hr ch rfl
      simp only [List.tail_cons] at this
      simp only [List.nil_append, Cursor.plainStretch, this, if_true]
  | c :: cs, h => by
    obtain ⟨hv, hc⟩ := h c List.mem_cons_self
    have hg := isGap_of_isVisible hv
    have := plainStretch_word hr fun x hx => h x (List.mem_cons_of_mem _ hx)
    simp [Cursor.plainStretch, Cursor.endsPlain, hg, hc, this]

/-- A **word** is read as a plain scalar, up to a place that does not go on with it. -/
theorem plain_word {w : Word} {c : Cursor} {r : List Char} (hc : c.rest = w.chars ++ r)
    (hr : EndsWord r) {indent : Int} {space : List Char} {d : Cursor} {broke : Bool}
    (hs : (c.onward w.chars.length r).plainSpace = (space, d, broke))
    (hd : space = [] ∨ (d.column : Int) ≤ indent) :
    c.plain false indent = (w.token, d, broke) := by
  obtain ⟨ch, cs, hw, ha⟩ := w.exists_cons
  have hh : c.head ≠ '#' := by
    rw [Cursor.head_of_rest (by rw [hc, hw, List.cons_append])]
    exact (visible_of_alphanum ha).2.1
  have hst : Cursor.plainStretch false c.rest = w.chars := by rw [hc, plainStretch_word hr w.visible]
  have hsk := Cursor.skip_eq (fun x hx => isInline_of_isVisible (w.visible x hx).1) hc
  have hne : w.chars.isEmpty = false := by simp [hw]
  have hend : space.isEmpty ∨ d.head = '#' ∨ (!false ∧ (d.column : Int) < indent + 1) := by
    rcases hd with rfl | hd
    · exact Or.inl rfl
    · exact Or.inr (Or.inr ⟨rfl, by omega⟩)
  simp only [Cursor.plain, Cursor.plainFrom, hst, hsk, hs, if_neg hh, hne, if_pos hend]
  rfl

/-! ### Keys -/

/-- The **possible key** at a place. -/
def keyHere (c : Cursor) (ts : List Token) (s : List Nat) : KeyPlace :=
  { before := ts.length, index := c.index, line := c.line, column := c.column,
    required := top s == c.column }

/-- The possible key at a place where a key may begin or may not. -/
def keyIf (a : Bool) (c : Cursor) (ts : List Token) (s : List Nat) : Option KeyPlace :=
  if a then some (keyHere c ts s) else none

theorem saveKey_placed (c : Cursor) (ts : List Token) (s : List Nat) (a : Bool) :
    (placed c ts s a none).saveKey = .ok (placed c ts s a (keyIf a c ts s)) := by
  cases a <;> rfl

theorem plainScalar_placed {c d : Cursor} {ts : List Token} {s : List Nat} {a broke : Bool}
    {t : Token} (h : c.plain false (top s) = (t, d, broke)) :
    (placed c ts s a none).plainScalar
      = .ok (placed d (t :: ts) s broke (keyIf a c ts s)) := by
  simp only [plainScalar, saveKey_placed, bind, Except.bind, placed_cursor, placed_inFlow,
    placed_indent, h]
  rfl

theorem nodeToken_placed {c d : Cursor} {ts : List Token} {s : List Nat} {a : Bool} {t : Token}
    {cut : Cursor → Except Fault (Token × Cursor)} (h : cut c = .ok (t, d)) :
    (placed c ts s a none).nodeToken cut
      = .ok (placed d (t :: ts) s false (keyIf a c ts s)) := by
  simp only [nodeToken, saveKey_placed, bind, Except.bind, placed_cursor, h]
  rfl

theorem insertAfter_placed (c : Cursor) (t : Token) (ts us : List Token) (s : List Nat) (a : Bool)
    (k : Option KeyPlace) :
    (placed c (t :: ts) s a k).insertAfter ts.length us
      = placed c (t :: (us.reverse ++ ts)) s a k := by
  simp [insertAfter, placed]
  omega

/-- A **colon** puts the tokens of a key in front of the last token. -/
theorem colon_placed {c : Cursor} {t : Token} {ts : List Token} {s : List Nat} {k : KeyPlace}
    (hk : k.before = ts.length) :
    (placed c (t :: ts) s false (some k)).colon
      = .ok (placed c.next
          (.value :: t :: .key :: ((opening .blockMappingStart k.column s).reverse ++ ts))
          (opened k.column s) false none) := by
  by_cases h : top s < k.column <;>
  · simp only [colon, placed_keyPlace, placed_inFlow, openBlock_placed, hk, insertAfter_placed,
      opening, h, decide_true, decide_false, if_true, if_false, Bool.false_eq_true]
    rfl

/-! ### In front of rows -/

/-- A state **in front of rows**, after some tokens: once the space is passed and the keys that have
been passed are given up, the next row begins at its column, or the text ends. -/
def Awaits (l : Lexer) (ts : List Token) (s : List Nat) : List Row → Prop
  | [] => ∃ c a k, c.rest = [] ∧ (∀ p ∈ k, p.required = false) ∧
      l.toNextToken.dropStale = .ok (placed c ts s a k)
  | r :: rs => ∃ c, c.rest = r.text ++ laterText rs ∧ c.rest.length ≤ c.size ∧
      c.column = r.indent ∧ l.toNextToken.dropStale = .ok (placed c ts s true none)

theorem isContent_nil : IsContent [] := ⟨by simp, by simp⟩

/-- A possible key that need not be there is given up, or kept. -/
theorem freshKey_of_optional (c : Cursor) {k : Option KeyPlace} (hk : ∀ p ∈ k, p.required = false) :
    ∃ k', freshKey c k = .ok k' ∧ ∀ p ∈ k', p.required = false := by
  cases k with
  | none => exact ⟨none, rfl, hk⟩
  | some p =>
    have hp := hk p rfl
    by_cases h : isStale c p
    · exact ⟨none, by simp [freshKey, h, hp, require, bind, Except.bind, pure, Except.pure],
        by simp⟩
    · exact ⟨some p, by simp [freshKey, h], hk⟩

/-- A possible key on an earlier line is given up. -/
theorem freshKey_of_line {c : Cursor} {k : Option KeyPlace}
    (hk : ∀ p ∈ k, p.required = false ∧ p.line ≠ c.line) : freshKey c k = .ok none := by
  cases k with
  | none => rfl
  | some p =>
    obtain ⟨hp, hl⟩ := hk p rfl
    simp [freshKey, isStale, hl, hp, require, bind, Except.bind, pure, Except.pure]

theorem freshKey_below {d : Cursor} {k : Option KeyPlace} (gap indent : Nat) (cs : List Char)
    (hk : ∀ p ∈ k, p.required = false ∧ p.line = d.line) :
    freshKey (d.below (gap + 1) indent cs) k = .ok none :=
  freshKey_of_line fun p hp => ⟨(hk p hp).1, by
    rw [(hk p hp).2, Cursor.below_line]
    omega⟩

/-- At the end of a row the space in front of the next one is **still to be passed**. -/
theorem awaits_of_rest {d : Cursor} (ts : List Token) {s : List Nat} {a : Bool}
    {k : Option KeyPlace} {rs : List Row} (hd : d.rest = laterText rs)
    (hs : d.rest.length ≤ d.size) (hk : ∀ p ∈ k, p.required = false ∧ p.line = d.line) :
    Awaits (placed d ts s a k) ts s rs := by
  cases rs with
  | nil =>
    have hd : d.rest = [] := hd
    have hn := toNextToken_content d ts s a k isContent_nil hd hs
    obtain ⟨k', hk', ho⟩ := freshKey_of_optional d fun p hp => (hk p hp).1
    exact ⟨d, _, k', hd, ho, by rw [hn, dropStale_placed, hk']; rfl⟩
  | cons r rs =>
    have hn := toNextToken_placed d ts s a k (r.isContent (laterText rs)) hd hs
    have hf := freshKey_below r.gap r.indent (r.text ++ laterText rs) hk
    refine ⟨d.below (r.gap + 1) r.indent (r.text ++ laterText rs), rfl, ?_, rfl, ?_⟩
    · rw [hd] at hs
      simp only [laterText, List.length_append] at hs
      simp only [Cursor.below_rest, Cursor.below_size, List.length_append]
      omega
    · rw [hn, dropStale_placed, hf]
      simp [Except.map]

/-- After a plain scalar the space in front of the next row **has been passed**. -/
theorem awaits_of_below {d : Cursor} {ts : List Token} {s : List Nat} {k : Option KeyPlace}
    {r : Row} {rs : List Row} (hd : d.rest = laterText (r :: rs))
    (hs : d.rest.length ≤ d.size) (hk : ∀ p ∈ k, p.required = false ∧ p.line = d.line) :
    Awaits (placed (d.below (r.gap + 1) r.indent (r.text ++ laterText rs)) ts s true k) ts s
      (r :: rs) := by
  have hl : (r.text ++ laterText rs).length ≤ d.size := by
    rw [hd] at hs
    simp only [laterText, List.length_append] at hs ⊢
    omega
  have hn := toNextToken_content (d.below (r.gap + 1) r.indent (r.text ++ laterText rs)) ts s true
    k (r.isContent (laterText rs)) rfl hl
  have hf := freshKey_below r.gap r.indent (r.text ++ laterText rs) hk
  refine ⟨d.below (r.gap + 1) r.indent (r.text ++ laterText rs), rfl, hl, rfl, ?_⟩
  rw [hn, dropStale_placed, hf]
  simp [Except.map]

/-! ### The reading of a row -/

theorem head_laterText (rs : List Row) : ∀ ch ∈ (laterText rs).head?, ch = '\n' := by
  cases rs with
  | nil => simp [laterText]
  | cons r rs => simp [laterText, gap_succ]

theorem endsWord_laterText (rs : List Row) : EndsWord (laterText rs) := by
  intro ch hc
  rw [head_laterText rs ch hc]
  rfl

theorem keyIf_optional {a : Bool} {c : Cursor} (ts : List Token) {s : List Nat}
    (h : top s < c.column) : ∀ p ∈ keyIf a c ts s, p.required = false ∧ p.line = c.line := by
  cases a with
  | false => simp [keyIf]
  | true =>
    have : (top s == (c.column : Int)) = false := by simpa using Int.ne_of_lt h
    simp [keyIf, keyHere, this]

/-- A **word** that ends a row is read together with the space in front of the next row. -/
theorem exists_step_plain {l : Lexer} {c : Cursor} {ts : List Token} {s : List Nat} {a : Bool}
    {w : Word} {rs : List Row} (hl : l.toNextToken.dropStale = .ok (placed c ts s a none))
    (hc : c.rest = w.chars ++ laterText rs) (hs : c.rest.length ≤ c.size) (ht : top s < c.column)
    (hr : ∀ next ∈ rs.head?, (next.indent : Int) ≤ top s) :
    ∃ l', l.step = .ok l' ∧ l'.tokens.head? = some w.token ∧ Awaits l' (w.token :: ts) s rs := by
  obtain ⟨ch, cs, hw, ha⟩ := w.exists_cons
  have hcons : c.rest = ch :: (cs ++ laterText rs) := by rw [hc, hw, List.cons_append]
  have hstep := step_eq_token_of_top_le hl (by simp [hcons]) (Int.le_of_lt ht)
  rw [token_of_alphanum (by rw [placed_cursor, Cursor.head_of_rest hcons]; exact ha)] at hstep
  have hk := keyIf_optional (a := a) ts ht
  have hlen : (laterText rs).length ≤ c.size := by
    rw [hc, List.length_append] at hs
    omega
  cases rs with
  | nil =>
    have hp := plain_word hc (endsWord_laterText []) (Cursor.plainSpace_end rfl)
      (Or.inl rfl : _ ∨ _ ≤ top s)
    rw [plainScalar_placed hp] at hstep
    exact ⟨_, hstep, rfl, awaits_of_rest _ rfl hlen hk⟩
  | cons r rs =>
    -- the next row is not indented further, so the word does not go on there
    obtain ⟨space, -, hsp⟩ := Cursor.plainSpace_gap (r.isContent (laterText rs))
      (c := c.onward w.chars.length (laterText (r :: rs))) hlen rfl
    have hp := plain_word hc (endsWord_laterText (r :: rs)) hsp (Or.inr (hr r rfl))
    rw [plainScalar_placed hp] at hstep
    exact ⟨_, hstep, rfl, awaits_of_below rfl hlen hk⟩

/-- A **scalar** that ends a row is read, up to the next row. -/
theorem exists_reaches_scalar {l : Lexer} {c : Cursor} {ts : List Token} {s : List Nat} {a : Bool}
    {v : RowScalar} {rs : List Row} (hl : l.toNextToken.dropStale = .ok (placed c ts s a none))
    (hc : c.rest = v.text ++ laterText rs) (hs : c.rest.length ≤ c.size) (ht : top s < c.column)
    (hr : ∀ next ∈ rs.head?, (next.indent : Int) ≤ top s) :
    ∃ l', Reaches 1 l l' ∧ Awaits l' (v.token :: ts) s rs := by
  cases v with
  | plain w =>
    obtain ⟨l', hstep, hhead, hawait⟩ := exists_step_plain hl hc hs ht hr
    exact ⟨l', reaches_of_step hstep (by simp [hhead, Word.token]), hawait⟩
  | quoted gs =>
    have hquote : c.rest = '"' :: (gs.flatMap Glyph.text ++ '"' :: laterText rs) := by
      rw [hc, RowScalar.text, List.cons_append, List.append_assoc]
      rfl
    have hstep := step_eq_token_of_top_le hl (by simp [hquote]) (Int.le_of_lt ht)
    rw [token_of_quote (Cursor.head_of_rest hquote), nodeToken_placed (quoted_eq hquote hs)]
      at hstep
    refine ⟨_, reaches_of_step hstep (by simp),
      awaits_of_rest _ rfl ?_ (keyIf_optional (a := a) ts ht)⟩
    rw [hquote] at hs
    simp at hs ⊢
    omega

theorem plainSpace_none {c : Cursor} {ch : Char} {r : List Char} (hc : c.rest = ch :: r)
    (h : ch ≠ ' ') (hb : isBreak ch = false) : c.plainSpace = ([], c, false) := by
  have ht := Cursor.takeWhile_eq (p := (· = ' ')) (show c.rest = [] ++ c.rest from rfl)
    (by simp) (by simp) (by simp [hc, h])
  rw [List.length_nil, Cursor.onward_zero rfl] at ht
  simp [Cursor.plainSpace, ht, Cursor.head_of_rest hc, hb]

/-- A **word** at the beginning of a line is read as a possible key. -/
theorem step_word {l : Lexer} {c : Cursor} {ts : List Token} {s : List Nat} {w : Word}
    {r : List Char} (hl : l.toNextToken.dropStale = .ok (placed c ts s true none))
    (hc : c.rest = w.chars ++ ':' :: r) (hr : EndsWord (':' :: r)) :
    l.step = .ok (placed (c.onward w.chars.length (':' :: r))
      (w.token :: (ends c.column s ++ ts)) (innermost c.column s) false
      (some (keyHere c (ends c.column s ++ ts) (innermost c.column s)))) := by
  obtain ⟨ch, cs, hcs, ha⟩ := w.exists_cons
  have hch : c.rest = ch :: (cs ++ ':' :: r) := by rw [hc, hcs, List.cons_append]
  have hsp := plainSpace_none (c := c.onward w.chars.length (':' :: r)) rfl (by decide) rfl
  have hp := plain_word hc hr hsp (Or.inl rfl : _ ∨ _ ≤ top (innermost c.column s))
  rw [step_eq_token hl (by simp [hch]),
    token_of_alphanum (by rw [placed_cursor, Cursor.head_of_rest hch]; exact ha),
    plainScalar_placed hp]
  rfl

/-- The **colon** after a word makes it a key, unless the word is too long. -/
theorem step_colon {c : Cursor} {t : Token} {ts : List Token} {s : List Nat} {n : Nat}
    {r : List Char} (hg : isGap (r.headD '\x00')) (hs : (':' :: r).length ≤ c.size)
    (hn : n ≤ 1024) (ht : top s ≤ c.column) :
    (placed (c.onward n (':' :: r)) (t :: ts) s false (some (keyHere c ts s))).step
      = .ok (placed (c.onward (n + 1) r)
          (.value :: t :: .key :: ((opening .blockMappingStart c.column s).reverse ++ ts))
          (opened c.column s) false none) := by
  have hcontent : IsContent (':' :: r) := by
    constructor
    · rintro ch ⟨⟩
      decide
    · simp
  have hfresh : isStale (c.onward n (':' :: r)) (keyHere c ts s) = false := by
    simpa [isStale, keyHere] using hn
  have hl : (placed (c.onward n (':' :: r)) (t :: ts) s false
      (some (keyHere c ts s))).toNextToken.dropStale
      = .ok (placed (c.onward n (':' :: r)) (t :: ts) s false (some (keyHere c ts s))) := by
    rw [toNextToken_content _ _ _ _ _ hcontent rfl hs, dropStale_placed, freshKey, hfresh]
    rfl
  rw [step_eq_token_of_top_le hl (by simp) (by rw [Cursor.onward_column]; omega),
    token_of_colon (Cursor.head_of_rest rfl)
      (by rw [placed_cursor, Cursor.peek_one_of_rest rfl]; exact hg),
    colon_placed rfl, Cursor.next_of_inline rfl rfl, Cursor.onward_onward]
  rfl

theorem exists_valueText (v : Option RowScalar) (rs : List Row) :
    ∃ r, valueText v ++ laterText rs = ':' :: r ∧ isGap (r.headD '\x00') := by
  cases v with
  | some v => exact ⟨_, rfl, rfl⟩
  | none =>
    refine ⟨laterText rs, rfl, ?_⟩
    cases h : laterText rs with
    | nil => rfl
    | cons ch r =>
      rw [head_laterText rs ch (by rw [h]; rfl)]
      rfl

/-- A **field** is read, up to the next row. -/
theorem exists_reaches_field {l : Lexer} {c : Cursor} {ts : List Token} {s : List Nat} {w : Word}
    {v : Option RowScalar} {rs : List Row}
    (hl : l.toNextToken.dropStale = .ok (placed c ts s true none))
    (hc : c.rest = w.chars ++ (valueText v ++ laterText rs)) (hs : c.rest.length ≤ c.size)
    (hw : w.chars.length ≤ 1024)
    (hr : v.isSome → ∀ next ∈ rs.head?, next.indent ≤ c.column) :
    ∃ n l', n ≤ (w.chars ++ valueText v).length ∧ Reaches n l l' ∧
      Awaits l' ((fieldTokens c.column (innermost c.column s) w v).reverse
        ++ (ends c.column s ++ ts)) (opened c.column (innermost c.column s)) rs := by
  obtain ⟨r, hv, hg⟩ := exists_valueText v rs
  have hpos : 1 ≤ w.chars.length := by
    obtain ⟨ch, cs, hcs, -⟩ := w.exists_cons
    simp [hcs]
  have hlen : (':' :: r).length ≤ c.size := by
    rw [hc, hv, List.length_append] at hs
    omega
  have hle := top_innermost_le c.column s
  have hends : EndsWord (':' :: r) := by
    rintro ch ⟨⟩
    simpa [Cursor.endsPlain] using Or.inr hg
  -- the name and its colon, and then the value, if there is one in the row
  have hkey := (reaches_of_step (step_word hl (by rw [hc, hv]) hends) (by simp [Word.token])).trans
    (reaches_of_step (step_colon hg hlen hw hle) (by simp))
  have htop := top_opened hle
  cases v with
  | none =>
    have hrest : laterText rs = r := (List.cons.inj hv).2
    refine ⟨2, _, by simp [valueText]; omega, hkey, ?_⟩
    have := awaits_of_rest (.value :: w.token :: .key ::
        ((opening .blockMappingStart c.column (innermost c.column s)).reverse
          ++ (ends c.column s ++ ts))) (s := opened c.column (innermost c.column s)) (a := false)
      (d := c.onward (w.chars.length + 1) r) (k := none) hrest.symm
      (by simp at hlen ⊢; omega) (by simp)
    simpa [fieldTokens] using this
  | some v =>
    have hrest : ' ' :: (v.text ++ laterText rs) = r := (List.cons.inj hv).2
    subst hrest
    have hsp := toNextToken_space (c.onward (w.chars.length + 1) (' ' :: (v.text ++ laterText rs)))
      (.value :: w.token :: .key ::
        ((opening .blockMappingStart c.column (innermost c.column s)).reverse
          ++ (ends c.column s ++ ts))) (opened c.column (innermost c.column s)) false none
      (v.isContent (laterText rs)) rfl (by simp at hlen ⊢; omega)
    obtain ⟨l', hreach, hawait⟩ := exists_reaches_scalar (v := v)
      (by rw [hsp, dropStale_placed]; rfl) rfl (by simp at hlen ⊢; omega)
      (by rw [htop]; simp; omega) (by rw [htop]; intro next hn; exact_mod_cast hr rfl next hn)
    refine ⟨_, l', ?_, hkey.trans hreach, ?_⟩
    · simp [valueText]
      omega
    · simpa [fieldTokens] using hawait

/-- The **mark of an item** is read, and the space after it. -/
theorem exists_reaches_dash {l : Lexer} {c : Cursor} {ts : List Token} {s : List Nat}
    {r : List Char} (hl : l.toNextToken.dropStale = .ok (placed c ts s true none))
    (hc : c.rest = '-' :: ' ' :: r) (hs : c.rest.length ≤ c.size) (hr : IsContent r) :
    ∃ l', Reaches 1 l l' ∧ r.length ≤ (c.onward 2 r).size ∧
      l'.toNextToken.dropStale = .ok (placed (c.onward 2 r)
        (.blockEntry :: ((opening .blockSequenceStart c.column (innermost c.column s)).reverse
          ++ (ends c.column s ++ ts))) (opened c.column (innermost c.column s)) true none) := by
  have hstep : l.step = .ok (placed (c.onward 1 (' ' :: r))
      (.blockEntry :: ((opening .blockSequenceStart c.column (innermost c.column s)).reverse
        ++ (ends c.column s ++ ts))) (opened c.column (innermost c.column s)) true none) := by
    rw [step_eq_token hl (by simp [hc]), token_of_dash (by rw [placed_cursor, hc]), blockEntry,
      placed_inFlow, placed_allowKey, if_neg (by decide), beginBlock_placed]
    simp only [dropKey, placed_keyPlace, Option.any_none, Bool.not_false, require, if_true, bind,
      Except.bind, ← Cursor.next_of_inline hc rfl]
    rfl
  rw [hc] at hs
  refine ⟨_, reaches_of_step hstep (by simp), ?_, ?_⟩
  · simp at hs ⊢
    omega
  · rw [toNextToken_space _ _ _ _ _ hr rfl (by simp at hs ⊢; omega), Cursor.onward_onward,
      dropStale_placed]
    rfl

/-- An item that is a **scalar** is read, up to the next row. -/
theorem exists_reaches_item {l : Lexer} {c : Cursor} {ts : List Token} {s : List Nat}
    {v : RowScalar} {rs : List Row}
    (hl : l.toNextToken.dropStale = .ok (placed c ts s true none))
    (hc : c.rest = '-' :: ' ' :: (v.text ++ laterText rs)) (hs : c.rest.length ≤ c.size)
    (hr : ∀ next ∈ rs.head?, next.indent ≤ c.column) :
    ∃ l', Reaches 2 l l' ∧
      Awaits l' (v.token :: .blockEntry ::
        ((opening .blockSequenceStart c.column (innermost c.column s)).reverse
          ++ (ends c.column s ++ ts))) (opened c.column (innermost c.column s)) rs := by
  obtain ⟨l₁, hdash, hlen, hl₁⟩ := exists_reaches_dash hl hc hs (v.isContent _)
  have htop := top_opened (top_innermost_le c.column s)
  obtain ⟨l', hscalar, hawait⟩ := exists_reaches_scalar hl₁ rfl hlen
    (by rw [htop, Cursor.onward_column]; omega)
    (by rw [htop]; intro next hn; exact_mod_cast hr next hn)
  exact ⟨l', hdash.trans hscalar, hawait⟩

/-- An item that **begins with a field** is read, up to the next row: the field is in a block of
its own, two columns further. -/
theorem exists_reaches_itemField {l : Lexer} {c : Cursor} {ts : List Token} {s : List Nat}
    {w : Word} {v : Option RowScalar} {rs : List Row}
    (hl : l.toNextToken.dropStale = .ok (placed c ts s true none))
    (hc : c.rest = '-' :: ' ' :: (w.chars ++ (valueText v ++ laterText rs)))
    (hs : c.rest.length ≤ c.size) (hw : w.chars.length ≤ 1024)
    (hr : v.isSome → ∀ next ∈ rs.head?, next.indent ≤ c.column + 2) :
    ∃ n l', n ≤ (w.chars ++ valueText v).length ∧ Reaches (n + 1) l l' ∧
      Awaits l' ((fieldTokens (c.column + 2) (opened c.column (innermost c.column s)) w v).reverse
        ++ .blockEntry :: ((opening .blockSequenceStart c.column (innermost c.column s)).reverse
          ++ (ends c.column s ++ ts)))
        (opened (c.column + 2) (opened c.column (innermost c.column s))) rs := by
  obtain ⟨l₁, hdash, hlen, hl₁⟩ := exists_reaches_dash hl hc hs (w.isContent _)
  have htop := top_opened (top_innermost_le c.column s)
  -- the field stands right of the mark, so no block ends in front of it
  obtain ⟨hi, he⟩ := innermost_of_top_le
    (show top (opened c.column (innermost c.column s)) ≤ ((c.column + 2 : Nat) : Int) by
      rw [htop]; omega)
  obtain ⟨n, l', hn, hfield, hawait⟩ := exists_reaches_field hl₁ rfl hlen hw
    (by rwa [Cursor.onward_column])
  rw [Cursor.onward_column, hi, he, List.nil_append] at hawait
  exact ⟨n, l', hn, hdash.trans hfield, hawait⟩

theorem le_of_top_eq {s : List Nat} {column : Nat} {rs : List Row} (h : top s = column)
    (hr : rs.head?.all fun next => (next.indent : Int) ≤ top s) :
    ∀ next ∈ rs.head?, next.indent ≤ column := by
  intro next hn
  rw [h] at hr
  cases hrs : rs.head? with
  | none => simp [hrs] at hn
  | some x =>
    rw [hrs] at hn hr
    cases hn
    simpa using hr

/-- What comes after a row with a scalar is not indented further than the **innermost block** that
the row leaves open. -/
theorem Row.indent_le_of_fits {s : List Nat} {r : Row} {rs : List Row} (hf : r.fits s rs.head?)
    (hv : r.body.hasScalar) {column : Nat} (ht : top (r.stack s) = column) :
    ∀ next ∈ rs.head?, next.indent ≤ column := by
  simp only [Row.fits, Bool.and_eq_true, Bool.or_eq_true, Bool.not_eq_true', hv,
    Bool.true_eq_false, false_or] at hf
  exact le_of_top_eq ht hf.2

/-- A **row** is read, up to the next one. -/
theorem exists_reaches_row {l : Lexer} {ts : List Token} {s : List Nat} {r : Row} {rs : List Row}
    (hl : Awaits l ts s (r :: rs)) (hf : r.fits s rs.head?) :
    ∃ n l', n ≤ r.text.length ∧ Reaches n l l' ∧
      Awaits l' ((r.tokens s).reverse ++ ts) (r.stack s) rs := by
  obtain ⟨c, hc, hs, hcol, hl⟩ := hl
  have hshort : r.body.isShort := (Bool.and_eq_true_iff.mp hf).1
  have htop := top_opened (top_innermost_le r.indent s)
  rcases hb : r.body with ⟨_ | _, name, value⟩ | ⟨value⟩ <;>
    simp only [hb, RowBody.isShort, decide_eq_true_eq] at hshort <;>
    simp only [Row.text, RowBody.text, hb, if_true, if_false, Bool.false_eq_true, List.nil_append,
      List.append_assoc, List.cons_append] at hc
  · -- a field
    obtain ⟨n, l', hn, hreach, hawait⟩ := exists_reaches_field hl hc hs hshort fun hv => by
      rw [hcol]
      exact Row.indent_le_of_fits hf (by simpa [hb, RowBody.hasScalar] using hv)
        (by simpa [Row.stack, RowBody.stack, hb] using htop)
    refine ⟨n, l', by simpa [Row.text, RowBody.text, hb] using hn, hreach, ?_⟩
    rw [hcol] at hawait
    simpa [Row.tokens, Row.stack, RowBody.tokens, RowBody.stack, hb, ends] using hawait
  · -- an item with a field
    have htop₂ : top (opened (r.indent + 2) (opened r.indent (innermost r.indent s)))
        = (r.indent + 2 : Nat) := top_opened (by rw [htop]; omega)
    obtain ⟨n, l', hn, hreach, hawait⟩ := exists_reaches_itemField hl hc hs hshort fun hv => by
      rw [hcol]
      exact Row.indent_le_of_fits hf (by simpa [hb, RowBody.hasScalar] using hv)
        (by simpa [Row.stack, RowBody.stack, hb] using htop₂)
    refine ⟨n + 1, l', ?_, hreach, ?_⟩
    · simp [Row.text, RowBody.text, hb] at hn ⊢
      omega
    · rw [hcol] at hawait
      simpa [Row.tokens, Row.stack, RowBody.tokens, RowBody.stack, hb, ends] using hawait
  · -- an item that is a scalar
    obtain ⟨l', hreach, hawait⟩ := exists_reaches_item hl hc hs <| by
      rw [hcol]
      exact Row.indent_le_of_fits hf (by simp [hb, RowBody.hasScalar])
        (by simpa [Row.stack, RowBody.stack, hb] using htop)
    refine ⟨2, l', by simp [Row.text, RowBody.text, hb], hreach, ?_⟩
    rw [hcol] at hawait
    simpa [Row.tokens, Row.stack, RowBody.tokens, RowBody.stack, hb, ends] using hawait

/-! ### The reading of all rows -/

theorem ends_neg_one (s : List Nat) : ends (-1) s = List.replicate s.length .blockEnd := by
  have : s.takeWhile (fun n : Nat => (-1 : Int) < (n : Int)) = s :=
    List.takeWhile_eq_self_iff.mpr fun n _ => by simp; omega
  rw [ends, this]

theorem ends_append (column : Int) (s : List Nat) :
    ends (-1) (innermost column s) ++ ends column s = ends (-1) s := by
  have := congrArg List.length (List.takeWhile_append_dropWhile
    (p := fun n : Nat => decide (column < (n : Int))) (l := s))
  rw [List.length_append] at this
  rw [ends_neg_one, ends_neg_one, ends, List.replicate_append_replicate, innermost, Nat.add_comm,
    this]

theorem finish_placed {c : Cursor} {ts : List Token} {s : List Nat} {a : Bool}
    {k : Option KeyPlace} (hk : ∀ p ∈ k, p.required = false) :
    (placed c ts s a k).finish
      = .ok (placed c (.streamEnd :: (ends (-1) s ++ ts)) (innermost (-1) s) false none) := by
  have ho : k.any (·.required) = false := by
    cases k with
    | none => rfl
    | some p => simpa using hk p rfl
  simp only [finish, unwindTo_placed c ts s a k (Int.le_refl (-1)), dropKey, placed_keyPlace, ho,
    Bool.not_false, require, if_true, bind, Except.bind]
  rfl

/-- At the **end of the text** all blocks end. -/
theorem step_end {l : Lexer} {ts : List Token} {s : List Nat} (hl : Awaits l ts s []) :
    ∃ l', l.step = .ok l' ∧ l'.tokens = .streamEnd :: (ends (-1) s ++ ts) := by
  obtain ⟨c, a, k, hc, hk, hl⟩ := hl
  have hu := unwindTo_placed c ts s a k (show -1 ≤ (c.column : Int) by omega)
  have hstep : l.step = (placed c (ends c.column s ++ ts) (innermost c.column s) a k).finish := by
    simp [step, hl, bind, Except.bind, hu, hc]
  rw [finish_placed hk, ← List.append_assoc, ends_append] at hstep
  exact ⟨_, hstep, rfl⟩

/-- All **rows** are read, and their tokens come out. -/
theorem exists_reaches_rows {rs : List Row} :
    ∀ {l : Lexer} {ts us : List Token} {s : List Nat}, Awaits l ts s rs →
      rowsTokens? s rs = some us →
      ∃ n, n ≤ (laterText rs).length ∧ ∀ fuel, run (fuel + 1 + n) l = (ts.reverse ++ us, none) := by
  induction rs with
  | nil =>
    intro l ts us s hl hu
    obtain rfl : ends (-1) s ++ [.streamEnd] = us := by simpa [rowsTokens?] using hu
    obtain ⟨l', hstep, htokens⟩ := step_end hl
    refine ⟨0, Nat.zero_le _, fun fuel => ?_⟩
    rw [Nat.add_zero, run_succ, hstep]
    simp [htokens, ends]
  | cons r rs ih =>
    intro l ts us s hl hu
    obtain ⟨hf, vs, hv, rfl⟩ := rowsTokens?_cons_eq_some_iff.mp hu
    obtain ⟨m, l', hm, hreach, hawait⟩ := exists_reaches_row hl hf
    obtain ⟨n, hn, hrun⟩ := ih hawait hv
    refine ⟨n + m, ?_, fun fuel => ?_⟩
    · simp only [laterText, List.length_append]
      omega
    · rw [← Nat.add_assoc, hreach, hrun]
      simp

theorem all_isAllowed_rowsText (r : Row) (rs : List Row) : (rowsText (r :: rs)).all isAllowed := by
  simp only [rowsText, List.all_append, Bool.and_eq_true, List.all_eq_true]
  exact ⟨r.allowed, allowed_laterText rs⟩

/-- The reading of a text begins **in front of its first row**. -/
theorem awaits_start {r : Row} (rs : List Row) (hi : r.indent = 0) :
    Awaits (Lexer.start (rowsText (r :: rs))) [] [] (r :: rs) := by
  refine ⟨Cursor.start (rowsText (r :: rs)), rfl, Nat.le_refl _, hi.symm, ?_⟩
  have := toNextToken_content (Cursor.start (rowsText (r :: rs))) [] [] true none
    (r.isContent (laterText rs)) rfl (Nat.le_refl _)
  exact congrArg Lexer.dropStale this

/-- The **tokens of a text** made of rows that fit together are those of its rows. -/
theorem tokens_rowsText {r : Row} {rs : List Row} {ts : List Token} (hi : r.indent = 0)
    (hu : rowsTokens? [] (r :: rs) = some ts) : tokens (rowsText (r :: rs)) = (ts, none) := by
  obtain ⟨hf, us, hv, rfl⟩ := rowsTokens?_cons_eq_some_iff.mp hu
  obtain ⟨m, l', hm, hreach, hawait⟩ := exists_reaches_row (awaits_start rs hi) hf
  obtain ⟨n, hn, hrun⟩ := exists_reaches_rows hawait hv
  have hlen : (rowsText (r :: rs)).length = r.text.length + (laterText rs).length :=
    List.length_append
  have hfuel : (rowsText (r :: rs)).length + 2
      = (rowsText (r :: rs)).length + 1 - n - m + 1 + n + m := by omega
  rw [tokens, if_pos (all_isAllowed_rowsText r rs), hfuel, hreach, hrun]
  simp

end StackManifest.Yaml
