import StackManifest.Proofs.Json.Numbers
import StackManifest.Proofs.Markup.Data
import StackManifest.Proofs.Quantity.Texts

/-!
# What words stand for

A name in lower-case letters, digits and hyphens stands for itself, unless it is one of the few
words that stand for truth values or for nothing. The digits of a positive number stand for the
number.

* `Pattern.mem_rests_seq` and its companions – what may be left of a text after a **pattern**;
* `Pattern.Needs` – a pattern that matches no text without a certain **character**;
* `isServiceName`, `reservedWords` – names, and the words among them that mean something else;
* `plainTag_eq_str_iff` – which **names** stand for themselves;
* `isPlainData_intText` – a positive **number** is read back.
-/

namespace StackManifest.Yaml

namespace Pattern

variable {a b : Pattern} {cs x : List Char} {p : Char → Bool} {c : Char}

/-! ### What is left after a pattern -/

theorem mem_rests_one : x ∈ (one p).rests cs ↔ ∃ c, cs = c :: x ∧ p c := by
  cases cs with
  | nil => simp [rests]
  | cons c cs =>
    by_cases h : p c
    · simp only [rests, h, if_true, List.mem_singleton, List.cons.injEq]
      constructor
      · rintro rfl
        exact ⟨c, ⟨rfl, rfl⟩, h⟩
      · rintro ⟨d, ⟨-, rfl⟩, -⟩
        rfl
    · simp only [rests, h, Bool.false_eq_true, if_false, List.not_mem_nil, List.cons.injEq,
        false_iff]
      rintro ⟨d, ⟨rfl, -⟩, hd⟩
      exact h hd

theorem mem_rests_char : x ∈ (char c).rests cs ↔ cs = c :: x := by
  simp only [char, mem_rests_one, decide_eq_true_eq]
  constructor
  · rintro ⟨d, rfl, rfl⟩
    rfl
  · rintro rfl
    exact ⟨c, rfl, rfl⟩

theorem mem_rests_nothing : x ∈ nothing.rests cs ↔ x = cs := by simp [rests]

theorem mem_rests_seq : x ∈ (seq a b).rests cs ↔ ∃ y ∈ a.rests cs, x ∈ b.rests y := by
  simp [rests]

theorem mem_rests_alt : x ∈ (alt a b).rests cs ↔ x ∈ a.rests cs ∨ x ∈ b.rests cs := by
  simp [rests]

theorem mem_rests_word {s : String} : x ∈ (word s).rests cs ↔ cs = s.toList ++ x := by
  rw [word]
  induction s.toList generalizing cs with
  | nil => simp only [List.foldr_nil, mem_rests_nothing, List.nil_append, eq_comm]
  | cons d ds ih =>
    simp only [List.foldr_cons, mem_rests_seq, mem_rests_char, ih]
    constructor
    · rintro ⟨y, rfl, rfl⟩
      rfl
    · rintro rfl
      exact ⟨ds ++ x, rfl, rfl⟩

theorem mem_rests_anyWord {ss : List String} :
    x ∈ (anyWord ss).rests cs ↔ ∃ s ∈ ss, cs = s.toList ++ x := by
  rw [anyWord]
  induction ss with
  | nil => simp [mem_rests_one]
  | cons s ss ih => simp [mem_rests_alt, mem_rests_word, ih]

theorem matches?_iff : a.matches? cs = true ↔ [] ∈ a.rests cs ∨ ['\n'] ∈ a.rests cs := by
  simp only [matches?, List.any_eq_true, Bool.or_eq_true, decide_eq_true_eq]
  constructor
  · rintro ⟨y, hy, rfl | rfl⟩
    · exact Or.inl hy
    · exact Or.inr hy
  · rintro (h | h)
    · exact ⟨_, h, Or.inl rfl⟩
    · exact ⟨_, h, Or.inr rfl⟩

/-- A text of one line matches some **words** exactly if it is one of them. -/
theorem matches?_anyWord_iff {ss : List String} {s : String} (h : '\n' ∉ s.toList) :
    (anyWord ss).matches? s.toList = true ↔ s ∈ ss := by
  simp only [matches?_iff, mem_rests_anyWord, List.append_nil]
  constructor
  · rintro (⟨w, hw, hs⟩ | ⟨w, -, hs⟩)
    · rwa [String.toList_inj.mp hs]
    · rw [hs] at h
      simp at h
  · exact fun hs => Or.inl ⟨s, hs, rfl⟩

/-! ### Characters that a pattern needs -/

theorem exists_append_of_mem_tails : ∀ {cs x : List Char}, x ∈ rests.tails p cs → ∃ t, cs = t ++ x
  | [], x, h => ⟨[], (List.mem_singleton.mp h).symm⟩
  | c :: cs, x, h => by
    rw [rests.tails] at h
    split at h
    · rcases List.mem_append.mp h with h | h
      · obtain ⟨t, rfl⟩ := exists_append_of_mem_tails h
        exact ⟨c :: t, rfl⟩
      · exact ⟨[], (List.mem_singleton.mp h).symm⟩
    · exact ⟨[], (List.mem_singleton.mp h).symm⟩

theorem exists_append_of_mem_repeated {f : List Char → List (List Char)}
    (hf : ∀ cs x, x ∈ f cs → ∃ t, cs = t ++ x) :
    ∀ {n : Nat} {cs x : List Char}, x ∈ rests.repeated f n cs → ∃ t, cs = t ++ x
  | 0, cs, x, h => ⟨[], (List.mem_singleton.mp h).symm⟩
  | n + 1, cs, x, h => by
    rw [rests.repeated, List.mem_cons, List.mem_flatMap] at h
    rcases h with rfl | ⟨y, hy, hx⟩
    · exact ⟨[], rfl⟩
    · obtain ⟨t, rfl⟩ := hf cs y hy
      split at hx
      · obtain ⟨u, rfl⟩ := exists_append_of_mem_repeated hf hx
        exact ⟨t ++ u, by simp⟩
      · exact absurd hx List.not_mem_nil

/-- What is left after a pattern is an **end** of the text. -/
theorem exists_append_of_mem_rests (h : x ∈ a.rests cs) : ∃ t, cs = t ++ x := by
  induction a generalizing cs x with
  | one p =>
    obtain ⟨c, rfl, -⟩ := mem_rests_one.mp h
    exact ⟨[c], rfl⟩
  | nothing => exact ⟨[], (mem_rests_nothing.mp h).symm⟩
  | seq a b iha ihb =>
    obtain ⟨y, hy, hx⟩ := mem_rests_seq.mp h
    obtain ⟨t, rfl⟩ := iha hy
    obtain ⟨u, rfl⟩ := ihb hx
    exact ⟨t ++ u, by simp⟩
  | alt a b iha ihb =>
    rcases mem_rests_alt.mp h with h | h
    · exact iha h
    · exact ihb h
  | many p => exact exists_append_of_mem_tails h
  | upTo n a ih => exact exists_append_of_mem_repeated (fun _ _ => ih) h

/-- A pattern that passes over a certain **character** wherever it matches. -/
def Needs (c : Char) (a : Pattern) : Prop := ∀ cs x, x ∈ a.rests cs → c ∈ cs

theorem needs_char (c : Char) : Needs c (char c) := by
  intro cs x h
  rw [mem_rests_char.mp h]
  exact List.mem_cons_self

theorem Needs.seq_left (h : Needs c a) : Needs c (seq a b) := by
  intro cs x hx
  obtain ⟨y, hy, -⟩ := mem_rests_seq.mp hx
  exact h cs y hy

theorem Needs.seq_right (h : Needs c b) : Needs c (seq a b) := by
  intro cs x hx
  obtain ⟨y, hy, hb⟩ := mem_rests_seq.mp hx
  obtain ⟨t, rfl⟩ := exists_append_of_mem_rests hy
  exact List.mem_append_right t (h y x hb)

/-- A row needs what one of its patterns needs. -/
theorem Needs.row {as : List Pattern} (ha : a ∈ as) (h : Needs c a) : Needs c (row as) := by
  induction as with
  | nil => exact absurd ha List.not_mem_nil
  | cons b as ih =>
    rcases List.mem_cons.mp ha with rfl | ha
    · exact h.seq_left
    · exact (ih ha).seq_right

theorem mem_rests_anyOf {as : List Pattern} :
    x ∈ (anyOf as).rests cs ↔ ∃ a ∈ as, x ∈ a.rests cs := by
  rw [anyOf]
  induction as with
  | nil => simp [mem_rests_one]
  | cons a as ih => simp [mem_rests_alt, ih]

/-- One of some patterns needs what all of them need. -/
theorem Needs.anyOf {as : List Pattern} (h : ∀ a ∈ as, Needs c a) : Needs c (anyOf as) := by
  intro cs x hx
  obtain ⟨a, ha, hx⟩ := mem_rests_anyOf.mp hx
  exact h a ha cs x hx

theorem Needs.matches?_eq_false (h : Needs c a) (hc : c ∉ cs) : a.matches? cs = false := by
  rw [Bool.eq_false_iff]
  intro hm
  rcases matches?_iff.mp hm with hx | hx
  · exact hc (h _ _ hx)
  · exact hc (h _ _ hx)

/-- A number with a point needs its **point**. -/
theorem needs_floatPattern (size : Nat) : Needs '.' (floatPattern size) := by
  refine Needs.anyOf fun a ha => ?_
  simp only [List.mem_cons, List.not_mem_nil, or_false] at ha
  rcases ha with rfl | rfl | rfl | rfl | rfl <;>
    exact Needs.row (by simp) (needs_char '.')

end Pattern

/-! ### Names -/

/-- Whether a text is a **name** in basic lower-case letters, digits and hyphens, beginning with a
letter. -/
def isServiceName (s : String) : Bool :=
  s.toList.head?.any Char.isLower
    && s.toList.all fun c => c.isLower || c.isDigit || c = '-'

/-- The names that stand for a **truth value** or for nothing. -/
def reservedWords : List String := ["true", "false", "yes", "no", "on", "off", "null"]

theorem exists_of_isServiceName {s : String} (h : isServiceName s) :
    (∃ c cs, s.toList = c :: cs ∧ c.isLower) ∧
      ∀ c ∈ s.toList, c.isLower ∨ c.isDigit ∨ c = '-' := by
  simp only [isServiceName, Bool.and_eq_true, List.all_eq_true, Bool.or_eq_true,
    decide_eq_true_eq, or_assoc] at h
  refine ⟨?_, h.2⟩
  cases hs : s.toList with
  | nil => simp [hs] at h
  | cons c cs => exact ⟨c, cs, rfl, by simpa [hs] using h.1⟩

theorem not_mem_of_isServiceName {s : String} (h : isServiceName s) {c : Char}
    (hc : (c.isLower || c.isDigit || c = '-') = false) : c ∉ s.toList := by
  intro hm
  rcases (exists_of_isServiceName h).2 c hm with hl | hd | rfl
  · simp [hl] at hc
  · simp [hd] at hc
  · simp at hc

/-- A name that is a word of one of the patterns is one of the **reserved** words. -/
theorem mem_reservedWords {s : String} (h : isServiceName s)
    (hs : boolPattern.matches? s.toList = true ∨ nullPattern.matches? s.toList = true) :
    s ∈ reservedWords := by
  have hn : '\n' ∉ s.toList := not_mem_of_isServiceName h rfl
  rw [boolPattern, nullPattern, Pattern.matches?_anyWord_iff hn, Pattern.matches?_anyWord_iff hn] at hs
  simp only [List.mem_cons, List.not_mem_nil, or_false] at hs
  rcases hs with hs | hs
  · rcases hs with rfl | rfl | rfl | rfl | rfl | rfl | rfl | rfl | rfl | rfl | rfl | rfl | rfl | rfl
      | rfl | rfl | rfl | rfl <;> first | exact absurd h (by decide) | decide
  · rcases hs with rfl | rfl | rfl | rfl | rfl <;> first | exact absurd h (by decide) | decide

/-- A scalar that is spelled like nothing else **stands for itself**. -/
theorem plainTag_eq_str {s : String} {c : Char} {cs : List Char} (hs : s.toList = c :: cs)
    (h : ∀ e ∈ plainSorts cs.length, c ∉ e.1.toList ∨ e.2.1.matches? (c :: cs) = false) :
    plainTag s = Tag.str := by
  rw [plainTag, hs]
  dsimp only
  rw [List.findSome?_eq_none_iff.mpr, Option.getD_none]
  intro e he
  have hno : (e.1.toList.contains c && e.2.1.matches? (c :: cs)) = false := by
    rcases h e he with h | h
    · simp [h]
    · rw [h, Bool.and_false]
  rw [hno]
  rfl

/-- A name **stands for itself** unless it is reserved. -/
theorem plainTag_eq_str_iff {s : String} (h : isServiceName s) :
    plainTag s = Tag.str ↔ s ∉ reservedWords := by
  constructor
  · intro ht hm
    simp only [reservedWords, List.mem_cons, List.not_mem_nil, or_false] at hm
    rcases hm with rfl | rfl | rfl | rfl | rfl | rfl | rfl <;> exact absurd ht (by decide)
  · intro hm
    have hb : boolPattern.matches? s.toList = false :=
      Bool.eq_false_iff.mpr fun hb => hm (mem_reservedWords h (Or.inl hb))
    have hn : nullPattern.matches? s.toList = false :=
      Bool.eq_false_iff.mpr fun hn => hm (mem_reservedWords h (Or.inr hn))
    obtain ⟨⟨c, cs, hs, hc⟩, -⟩ := exists_of_isServiceName h
    have no : ∀ t : String, (t.toList.all fun d => !d.isLower) = true → c ∉ t.toList := by
      intro t ht hm
      have := List.all_eq_true.mp ht c hm
      simp [hc] at this
    rw [hs] at hb hn
    refine plainTag_eq_str hs fun e he => ?_
    simp only [plainSorts, List.mem_cons, List.not_mem_nil, or_false] at he
    rcases he with rfl | rfl | rfl | rfl | rfl | rfl | rfl | rfl
    · exact Or.inr hb
    · exact Or.inl (no "-+0123456789." (by decide))
    · exact Or.inl (no "-+0123456789" (by decide))
    · exact Or.inl (no "<" (by decide))
    · exact Or.inr hn
    · exact Or.inl (no "0123456789" (by decide))
    · exact Or.inl (no "=" (by decide))
    · exact Or.inl (no "!&*" (by decide))

/-! ### Numbers -/

open StackManifest.Text StackManifest.Number

theorem exists_intText {n : Int} (hn : 0 < n) :
    (Value.intText n).toList = decimalDigits n.natAbs ∧
      ∃ c cs, decimalDigits n.natAbs = c :: cs ∧ c ≠ '0' ∧ Json.isBasicDigit c ∧
        ∀ d ∈ cs, Json.isBasicDigit d := by
  have hneg : ¬ n < 0 := by omega
  refine ⟨by simp [Value.intText, hneg], ?_⟩
  have hall : ∀ d ∈ decimalDigits n.natAbs, Json.isBasicDigit d :=
    fun d => Json.isBasicDigit_of_mem_decimalDigits
  have hhead := Json.head?_decimalDigits_ne (m := n.natAbs) (by omega)
  obtain ⟨c, cs, hdigits, hc⟩ := Json.exists_decimalDigits_cons n.natAbs
  rw [hdigits] at hall hhead
  exact ⟨c, cs, hdigits, fun e => hhead (by rw [e]; rfl), hc,
    fun d hd => hall d (List.mem_cons_of_mem _ hd)⟩

theorem mem_digits {c : Char} (h : Json.isBasicDigit c) : c ∈ "0123456789".toList := by
  simp only [Json.isBasicDigit, Bool.and_eq_true, decide_eq_true_eq, Char.le_def,
    UInt32.le_iff_toNat_le] at h
  have hc : Char.ofNat c.toNat = c := Char.ofNat_toNat c
  have hn : c.toNat = 48 ∨ c.toNat = 49 ∨ c.toNat = 50 ∨ c.toNat = 51 ∨ c.toNat = 52 ∨
      c.toNat = 53 ∨ c.toNat = 54 ∨ c.toNat = 55 ∨ c.toNat = 56 ∨ c.toNat = 57 := by
    have h₁ : 48 ≤ c.toNat := h.1
    have h₂ : c.toNat ≤ 57 := h.2
    omega
  rcases hn with hn | hn | hn | hn | hn | hn | hn | hn | hn | hn <;>
  · rw [← hc, hn]
    decide

theorem mem_tails_nil {p : Char → Bool} {cs : List Char} (h : ∀ c ∈ cs, p c) :
    [] ∈ Pattern.rests.tails p cs := by
  induction cs with
  | nil => exact List.mem_singleton_self []
  | cons c cs ih =>
    rw [Pattern.rests.tails, if_pos (h c List.mem_cons_self)]
    exact List.mem_append_left _ (ih fun d hd => h d (List.mem_cons_of_mem _ hd))

/-- Digits that do not begin with a zero are spelled like a **whole number**. -/
theorem intPattern_matches? {c : Char} {cs : List Char} {size : Nat} (h0 : c ≠ '0')
    (hc : Json.isBasicDigit c) (hcs : ∀ d ∈ cs, Json.isBasicDigit d) :
    (intPattern size).matches? (c :: cs) = true := by
  open Pattern in
  have hfirst : c ∈ "123456789".toList := by
    have : c ∈ '0' :: "123456789".toList := mem_digits hc
    exact (List.mem_cons.mp this).resolve_left h0
  have hdigits : [] ∈ digits_.rests cs := mem_tails_nil fun d hd => by simp [hcs d hd]
  have hrow : [] ∈ (row [oneOf "123456789", digits_]).rests (c :: cs) := by
    refine mem_rests_seq.mpr ⟨cs, mem_rests_one.mpr ⟨c, rfl, by simpa using hfirst⟩, ?_⟩
    exact mem_rests_seq.mpr ⟨[], hdigits, mem_rests_nothing.mpr rfl⟩
  have hsign : (c :: cs) ∈ sign.rests (c :: cs) :=
    mem_rests_alt.mpr (Or.inr (mem_rests_nothing.mpr rfl))
  refine matches?_iff.mpr (Or.inl (mem_rests_anyOf.mpr ⟨_, List.mem_cons_of_mem _
    (List.mem_cons_of_mem _ List.mem_cons_self), mem_rests_seq.mpr ⟨_, hsign, ?_⟩⟩))
  exact mem_rests_seq.mpr ⟨[], mem_rests_alt.mpr (Or.inr hrow), mem_rests_nothing.mpr rfl⟩

theorem ne_of_isBasicDigit {c d : Char} (h : Json.isBasicDigit c)
    (hd : Json.isBasicDigit d = false) : c ≠ d := by
  rintro rfl
  rw [h] at hd
  exact absurd hd (by decide)

/-- Digits that do not begin with a zero are tagged as a **whole number**. -/
theorem plainTag_digits {s : String} {c : Char} {cs : List Char} (hs : s.toList = c :: cs)
    (h0 : c ≠ '0') (hc : Json.isBasicDigit c) (hcs : ∀ d ∈ cs, Json.isBasicDigit d) :
    plainTag s = Tag.int := by
  have hall : ∀ d ∈ c :: cs, Json.isBasicDigit d := by
    rintro d (_ | ⟨_, hd⟩)
    · exact hc
    · exact hcs d hd
  have hbool : "yYnNtTfFoO".toList.contains c = false := by
    have ne : ∀ d, Json.isBasicDigit d = false → c ≠ d := fun d => ne_of_isBasicDigit hc
    simp (disch := decide) [ne]
  have hfloat : (floatPattern cs.length).matches? (c :: cs) = false :=
    (Pattern.needs_floatPattern _).matches?_eq_false fun hm =>
      absurd (hall '.' hm) (by decide)
  have hint : "-+0123456789".toList.contains c = true := by
    have := mem_digits hc
    simp only [List.contains_iff_mem]
    exact List.mem_cons_of_mem _ (List.mem_cons_of_mem _ this)
  rw [plainTag, hs]
  simp only [plainSorts, List.findSome?_cons, hbool, hfloat, hint, intPattern_matches? h0 hc hcs,
    Bool.false_and, Bool.and_false, Bool.and_self, if_true, Bool.false_eq_true, if_false,
    Option.getD_some]

theorem digit_facts : ∀ c ∈ "0123456789".toList, isBlank c = false ∧
    digitIn? 10 c = digitValue? c ∧ (digitIn? 10 c).isSome ∧ c ≠ '-' ∧ c ≠ '+' ∧ c ≠ '_' ∧
      c ≠ ':' :=
  List.forall_iff_forall_mem.mp (by decide)

theorem splitSign_of_ne {c : Char} {cs : List Char} (h₁ : c ≠ '-') (h₂ : c ≠ '+') :
    splitSign (c :: cs) = (false, c :: cs) := by
  rw [splitSign]
  · exact fun ds e => h₁ (List.cons.inj e).1
  · exact fun ds e => h₂ (List.cons.inj e).1

/-- Digits that do not begin with a zero write their **number**. -/
theorem readWhole_digits {c : Char} {cs : List Char} (h0 : c ≠ '0')
    (hall : ∀ d ∈ c :: cs, Json.isBasicDigit d) (hl : (c :: cs).length ≤ digitLimit) :
    readWhole 10 (c :: cs) = .ok (digitsValue (c :: cs) : Int) := by
  have facts := fun d hd => digit_facts d (mem_digits (hall d hd))
  obtain ⟨-, -, -, h₁, h₂, -⟩ := facts c List.mem_cons_self
  have htrim : trim (c :: cs) = c :: cs := trimBy_eq_self fun d hd => (facts d hd).1
  have hsign : splitSign (c :: cs) = (false, c :: cs) := splitSign_of_ne h₁ h₂
  have hmark : dropBaseMark 10 (c :: cs) = c :: cs := by
    rw [dropBaseMark]
    exact fun m d rest e => h0 (List.cons.inj e).1
  have htake : (c :: cs).takeWhile (fun d => (digitIn? 10 d).isSome) = c :: cs :=
    List.takeWhile_eq_self_iff.mpr fun d hd => (facts d hd).2.2.1
  have hfold : ∀ (ds : List Char) (m : Nat), (∀ d ∈ ds, d ∈ c :: cs) →
      ds.foldl (fun n d => 10 * n + (digitIn? 10 d).getD 0) m
        = ds.foldl (fun n d => 10 * n + (digitValue? d).getD 0) m := by
    intro ds
    induction ds with
    | nil => exact fun m _ => rfl
    | cons d ds ih =>
      intro m hd
      rw [List.foldl_cons, List.foldl_cons, (facts d (hd d List.mem_cons_self)).2.1]
      exact ih _ fun e he => hd e (List.mem_cons_of_mem _ he)
  simp only [readWhole, htrim, hsign, hmark, htake, Nat.not_lt.mpr hl, and_false, if_false,
    List.isEmpty_cons, Bool.false_eq_true, Nat.lt_irrefl, false_or, hfold _ _ fun d hd => hd]
  rfl

theorem intValue_digits {s : String} {c : Char} {cs : List Char} (hs : s.toList = c :: cs)
    (h0 : c ≠ '0') (hall : ∀ d ∈ c :: cs, Json.isBasicDigit d)
    (hl : (c :: cs).length ≤ digitLimit) :
    intValue s = .ok (.int (digitsValue (c :: cs))) := by
  have facts := fun d hd => digit_facts d (mem_digits (hall d hd))
  obtain ⟨-, -, -, h₁, h₂, -⟩ := facts c List.mem_cons_self
  have hfilter : (c :: cs).filter (· ≠ '_') = c :: cs :=
    List.filter_eq_self.mpr fun d hd => by simpa using (facts d hd).2.2.2.2.2.1
  have hsign : splitSign (c :: cs) = (false, c :: cs) := splitSign_of_ne h₁ h₂
  have hcolon : (c :: cs).contains ':' = false := by
    simp only [List.contains_eq_mem, decide_eq_false_iff_not]
    exact fun hm => (facts ':' hm).2.2.2.2.2.2 rfl
  have hwhole : wholeMagnitude (c :: cs) = .ok (digitsValue (c :: cs) : Int) := by
    rw [wholeMagnitude]
    · rw [hcolon]
      exact readWhole_digits h0 hall hl
    · exact fun e => List.cons_ne_nil c cs e
    · exact fun e => h0 (List.cons.inj e).1
    · exact fun ds e => h0 (List.cons.inj e).1
    · exact fun ds e => h0 (List.cons.inj e).1
    · exact fun ds e => h0 (List.cons.inj e).1
  simp only [intValue, unsigned, hs, hfilter, hsign, hwhole, bind, Except.bind]
  rfl

/-- A positive **number** that can be written is read back. -/
theorem isPlainData_intText {n : Int} (hn : 0 < n) (hw : (Value.int n).isWritable) :
    IsPlainData (Value.intText n) ∧ plainData (Value.intText n) = .int n := by
  obtain ⟨hs, c, cs, hd, h0, hc, hcs⟩ := exists_intText hn
  rw [hd] at hs
  have hall : ∀ d ∈ c :: cs, Json.isBasicDigit d := by
    rintro d (_ | ⟨_, hd⟩)
    · exact hc
    · exact hcs d hd
  have hl : (c :: cs).length ≤ digitLimit := by
    rw [← hd, Json.length_decimalDigits_le_iff (by decide)]
    simpa [Value.isWritable] using hw
  have hvalue : ((digitsValue (c :: cs) : Nat) : Int) = n := by
    rw [← hd, digitsValue_decimalDigits]
    omega
  have hint := intValue_digits hs h0 hall hl
  rw [hvalue] at hint
  have hv : ∀ m, scalarValue? m (plainTag (Value.intText n)) (Value.intText n)
      = some (.ok (.int n)) := by
    intro m
    rw [plainTag_digits hs h0 hc hcs, ← hint]
    rfl
  have hdata : plainData (Value.intText n) = .int n := by rw [plainData, hv]
  exact ⟨fun m => by rw [hv, hdata], hdata⟩

end StackManifest.Yaml
