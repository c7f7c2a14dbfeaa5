import StackManifest.Proofs.Markup.Cutting

/-!
# Names that are too long

A key is recognised at its colon, and only if it began not too far back. A name of more than
1024 characters is therefore no key: the reading stops at its colon with a fault, whatever
comes after it.

* `step_colon_of_long` – the **colon** after a long name is a fault;
* `tokens_rowsText_of_long` – the tokens of a text up to the **first long name**.
-/

namespace StackManifest.Yaml

open Lexer

theorem isStale_of_long {c : Cursor} {ts : List Token} {s : List Nat} {n : Nat} {r : List Char}
    (hn : 1024 < n) : isStale (c.onward n r) (keyHere c ts s) = true := by
  simpa [isStale, keyHere] using hn

/-- Once the possible key has been passed, nothing is put in front of a token any more. -/
theorem settled_of_isStale {c : Cursor} {ts : List Token} {s : List Nat} {a : Bool} {k : KeyPlace}
    (hk : isStale c k) : (placed c ts s a (some k)).settled = ts.reverse := by
  have : List.take ts.length ts.reverse = ts.reverse :=
    List.take_of_length_le (Nat.le_of_eq List.length_reverse)
  simpa [settled, placed, hk] using this

/-- The **colon** after a name that is too long is a fault, also where no key need be. -/
theorem step_colon_of_long {c : Cursor} (t : Token) (ts : List Token) {s : List Nat} {n : Nat}
    {r : List Char} (hg : isGap (r.headD '\x00')) (hs : (':' :: r).length ≤ c.size)
    (hn : 1024 < n) (ht : top s ≤ c.column) :
    (placed (c.onward n (':' :: r)) (t :: ts) s false (some (keyHere c ts s))).step
      = .error .markup := by
  have hcontent : IsContent (':' :: r) := by
    constructor
    · rintro ch ⟨⟩
      decide
    · simp
  have hnext : (placed (c.onward n (':' :: r)) (t :: ts) s false
      (some (keyHere c ts s))).toNextToken.dropStale
      = (require (!(keyHere c ts s).required)).map fun _ =>
          placed (c.onward n (':' :: r)) (t :: ts) s false none := by
    rw [toNextToken_content _ _ _ _ _ hcontent rfl hs, dropStale_placed, freshKey,
      if_pos (isStale_of_long hn)]
    cases require (!(keyHere c ts s).required) <;> rfl
  cases hk : (keyHere c ts s).required with
  | true => simp [step, hnext, hk, require, illFormed, Except.map, bind, Except.bind]
  | false =>
    rw [hk] at hnext
    obtain ⟨hi, he⟩ := innermost_of_top_le (show top s ≤ ((c.column + n : Nat) : Int) by omega)
    rw [step_eq_token hnext (by simp), Cursor.onward_column, hi, he, List.nil_append,
      token_of_colon (Cursor.head_of_rest rfl)
        (by rw [placed_cursor, Cursor.peek_one_of_rest rfl]; exact hg)]
    rfl

/-- The reading of rows **stops** at a name that is too long. -/
theorem run_of_long {l : Lexer} {ts : List Token} {s : List Nat} {gap indent : Nat} {w : Word}
    {v : Option RowScalar} {rs : List Row}
    (hl : Awaits l ts s (⟨gap, indent, .field false w v⟩ :: rs)) (hw : 1024 < w.chars.length)
    (fuel : Nat) :
    run (fuel + 2) l = ((w.token :: (ends indent s ++ ts)).reverse, some .markup) := by
  obtain ⟨c, hc, hs, hcol, hl⟩ := hl
  obtain rfl : c.column = indent := hcol
  obtain ⟨r, hv, hg⟩ := exists_valueText v rs
  have hc : c.rest = w.chars ++ ':' :: r := by
    rw [hc, ← hv]
    simp [Row.text, RowBody.text]
  have hends : EndsWord (':' :: r) := by
    rintro ch ⟨⟩
    simpa [Cursor.endsPlain] using Or.inr hg
  have hlen : (':' :: r).length ≤ c.size := by
    rw [hc, List.length_append] at hs
    omega
  have hword := step_word hl hc hends
  have hcolon := step_colon_of_long w.token (ends c.column s ++ ts) hg hlen hw
    (top_innermost_le c.column s)
  have hreach := reaches_of_step hword (by simp [Word.token])
  rw [show fuel + 2 = fuel + 1 + 1 from rfl, hreach, run_succ, hcolon,
    ← settled_of_isStale (isStale_of_long hw)]

/-! ### Texts with a name that is too long -/

/-- The **tokens of rows in front of another row**, and the blocks that are open after them, if the
rows fit together. -/
def rowsBefore? (next : Row) (s : List Nat) : List Row → Option (List Token × List Nat)
  | [] => some ([], s)
  | r :: rs =>
    if r.fits s (rs ++ [next]).head? then
      (rowsBefore? next (r.stack s) rs).map fun p => (r.tokens s ++ p.1, p.2)
    else none

theorem exists_reaches_before {next : Row} {later rs : List Row} :
    ∀ {l : Lexer} {ts us : List Token} {s s' : List Nat}, Awaits l ts s (rs ++ next :: later) →
      rowsBefore? next s rs = some (us, s') →
      ∃ n l', n ≤ (laterText rs).length ∧ Reaches n l l' ∧
        Awaits l' (us.reverse ++ ts) s' (next :: later) := by
  induction rs with
  | nil =>
    rintro l ts us s s' hl ⟨⟩
    exact ⟨0, l, Nat.zero_le _, fun _ => rfl, hl⟩
  | cons r rs ih =>
    intro l ts us s s' hl hu
    rw [rowsBefore?] at hu
    split at hu
    · rename_i hf
      obtain ⟨p, hp, e⟩ := Option.map_eq_some_iff.mp hu
      cases e
      have hf' : r.fits s (rs ++ next :: later).head? := by
        cases rs <;> exact hf
      obtain ⟨m, l₁, hm, hreach, hawait⟩ := exists_reaches_row hl hf'
      obtain ⟨n, l₂, hn, hreach₂, hawait₂⟩ := ih hawait hp
      refine ⟨n + m, l₂, ?_, hreach.trans hreach₂, ?_⟩
      · simp only [laterText, List.length_append]
        omega
      · simpa using hawait₂
    · cases hu

theorem length_laterText_append (rs ss : List Row) :
    (laterText (rs ++ ss)).length = (laterText rs).length + (laterText ss).length := by
  induction rs with
  | nil => simp [laterText]
  | cons r rs ih =>
    simp only [List.cons_append, laterText, List.length_append, ih]
    omega

/-- The **tokens of a text** end with the first name that is too long, and there is a fault. -/
theorem tokens_rowsText_of_long {r : Row} {rs later : List Row} {gap indent : Nat} {w : Word}
    {v : Option RowScalar} {us : List Token} {s : List Nat} (hi : r.indent = 0)
    (hu : rowsBefore? ⟨gap, indent, .field false w v⟩ [] (r :: rs) = some (us, s))
    (hw : 1024 < w.chars.length) :
    tokens (rowsText (r :: (rs ++ ⟨gap, indent, .field false w v⟩ :: later)))
      = (us ++ (ends indent s ++ [w.token]), some .markup) := by
  rw [rowsBefore?] at hu
  split at hu
  · rename_i hf
    obtain ⟨⟨us', s'⟩, hp, e⟩ := Option.map_eq_some_iff.mp hu
    cases e
    have hf' : r.fits [] (rs ++ ⟨gap, indent, .field false w v⟩ :: later).head? := by
      cases rs <;> exact hf
    obtain ⟨m, l₁, hm, hreach, hawait⟩ := exists_reaches_row (awaits_start _ hi) hf'
    obtain ⟨n, l₂, hn, hreach₂, hawait₂⟩ := exists_reaches_before hawait hp
    have hrun := run_of_long hawait₂ hw
    have hlen : r.text.length + (laterText rs).length + w.chars.length
        ≤ (rowsText (r :: (rs ++ ⟨gap, indent, .field false w v⟩ :: later))).length := by
      rw [rowsText, List.length_append, length_laterText_append]
      simp [laterText, Row.text, RowBody.text]
      omega
    have hfuel : (rowsText (r :: (rs ++ ⟨gap, indent, .field false w v⟩ :: later))).length + 2
        = (rowsText (r :: (rs ++ ⟨gap, indent, .field false w v⟩ :: later))).length - n - m + 2
          + n + m := by omega
    rw [tokens, if_pos (all_isAllowed_rowsText r _), hfuel, hreach, hreach₂, hrun]
    simp [ends]
  · cases hu

end StackManifest.Yaml
