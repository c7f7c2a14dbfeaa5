import Mathlib.Data.List.TakeWhile
import StackManifest.Console.Markup
import StackManifest.Proofs.Traversal

/-!
# Texts that can be printed

A console text is not always printed: a mark that closes nothing, or that sets a style with a
faulty colour, is a fault. `StackManifest.Console.Printable` says that a text is printed.

Texts from a document are meant to be escaped before they are put into a console text, and this
file says what that is good for: an **escaped text is printable whatever it says**
(`StackManifest.Console.printable_escape`), also between marks that set a style and end it again
(`StackManifest.Console.printable_styled_escape`). A text without opening brackets needs no escape
(`StackManifest.Console.printable_of_not_mem`).

The parts of a text are described by a relation, `StackManifest.Console.Splits`, without the
counter that `StackManifest.Console.segments` runs on. Escaping turns every mark into one with an
**odd** number of backslashes before it, which is no mark any more, and the point of the proof is
that it makes no new ones: a bracket that began no mark before begins none afterwards, since only
backslashes are added (`StackManifest.Console.splitMark?_escaped`).
-/

namespace StackManifest.Console

/-! ### A mark at the beginning of a text -/

/-- The first **bracket** of a text, of either kind. -/
def firstBracket (cs : List Char) : Option Char := cs.find? fun d => d = '[' || d = ']'

theorem firstBracket_append {cs ds : List Char} :
    firstBracket (cs ++ ds) = (firstBracket cs).or (firstBracket ds) :=
  List.find?_append

theorem firstBracket_cons {c : Char} {cs : List Char} :
    firstBracket (c :: cs) = (firstBracket [c]).or (firstBracket cs) :=
  (firstBracket_append : firstBracket ([c] ++ cs) = _)

theorem firstBracket_replicate {n : Nat} : firstBracket (List.replicate n '\\') = none :=
  List.find?_eq_none.mpr fun d hd => by simp [List.eq_of_mem_replicate hd]

/-- The characters after the first ones that are no brackets begin with the **first bracket**. -/
theorem head?_dropWhile_eq_firstBracket {cs : List Char} :
    (cs.dropWhile fun d => d ≠ '[' && d ≠ ']').head? = firstBracket cs := by
  induction cs with
  | nil => rfl
  | cons d ds ih =>
    by_cases hd : d = '[' ∨ d = ']'
    · rcases hd with rfl | rfl <;> rfl
    · obtain ⟨hopen, hclose⟩ := not_or.mp hd
      rw [List.dropWhile_cons_of_pos (by simp [hopen, hclose]), ih, firstBracket, firstBracket,
        List.find?_cons_of_neg (by simp [hopen, hclose])]

theorem splitMark?_cons_of_ne {c : Char} {cs : List Char} (h : c ≠ '[') :
    splitMark? (c :: cs) = none := by
  rw [splitMark?]
  rintro _ _ ⟨⟩
  exact h rfl

/-- A bracket begins **no mark** if no letter follows it, or if the next bracket after that opens
another one. -/
theorem splitMark?_eq_none_iff {c : Char} {cs : List Char} :
    splitMark? ('[' :: c :: cs) = none ↔ beginsMark c = true → firstBracket cs ≠ some ']' := by
  rw [splitMark?, ← head?_dropWhile_eq_firstBracket]
  cases hd : cs.dropWhile (fun d => d ≠ '[' && d ≠ ']') with
  | nil => simp
  | cons d ds =>
    by_cases hclose : d = ']'
    · subst hclose
      cases hb : beginsMark c <;> simp
    · have : ∀ after, d :: ds = ']' :: after → False := by
        rintro _ ⟨⟩
        exact hclose rfl
      split
      · exact (this _ ‹_›).elim
      · simp [hclose]

/-- **A mark is a mark whatever comes after it.** -/
theorem splitMark?_eq_some {cs inside tail : List Char} (h : splitMark? cs = some (inside, tail)) :
    cs = '[' :: inside ++ ']' :: tail ∧
      ∀ rest, splitMark? ('[' :: inside ++ ']' :: rest) = some (inside, rest) := by
  unfold splitMark? at h
  split at h
  · rename_i c rest
    split at h
    · rename_i after hdrop
      obtain ⟨hbegins, h⟩ := Option.ite_none_right_eq_some.mp h
      cases h
      have hrest := List.takeWhile_append_dropWhile
        (p := fun d => d ≠ '[' && d ≠ ']') (l := rest)
      have hinside : ∀ d ∈ rest.takeWhile (fun d => d ≠ '[' && d ≠ ']'),
          (d ≠ '[' && d ≠ ']') = true := fun d => List.mem_takeWhile_imp (p := _)
      rw [hdrop] at hrest
      refine ⟨congrArg (fun ds => '[' :: c :: ds) hrest.symm, fun tail => ?_⟩
      rw [List.cons_append, List.cons_append, splitMark?]
      rw [List.dropWhile_append_of_pos hinside, List.takeWhile_append_of_pos hinside]
      simp [hbegins]
    · cases h
  · cases h

/-! ### The parts of a text -/

/-- The **parts** of a text, as they follow on each other: a character, backslashes that no mark
follows, or a mark with the backslashes before it. -/
inductive Splits : List Char → List Segment → Prop
  | nil : Splits [] []
  | char {c : Char} {cs : List Char} {ss : List Segment} : c ≠ '\\' →
      splitMark? (c :: cs) = none → Splits cs ss → Splits (c :: cs) (.char c :: ss)
  | slashes {n : Nat} {cs : List Char} {ss : List Segment} : cs.head? ≠ some '\\' →
      splitMark? cs = none → Splits cs ss →
      Splits (List.replicate (n + 1) '\\' ++ cs) (List.replicate (n + 1) (.char '\\') ++ ss)
  | mark {n : Nat} {cs inside tail : List Char} {ss : List Segment} :
      splitMark? cs = some (inside, tail) → Splits tail ss →
      Splits (List.replicate n '\\' ++ cs) (.mark n inside :: ss)

/-- The backslashes at the beginning of a text, and what comes after them. -/
theorem exists_replicate_append (cs : List Char) :
    ∃ n rest, cs = List.replicate n '\\' ++ rest ∧ rest.head? ≠ some '\\' := by
  refine ⟨(cs.takeWhile (· = '\\')).length, cs.dropWhile (· = '\\'), ?_, fun h => ?_⟩
  · rw [← List.eq_replicate_of_mem fun d hd => by simpa using List.mem_takeWhile_imp hd,
      List.takeWhile_append_dropWhile]
  · have := List.head?_dropWhile_not (p := (· = '\\')) cs
    simp [h] at this

theorem takeWhile_replicate_append {n : Nat} {cs : List Char} (h : cs.head? ≠ some '\\') :
    (List.replicate n '\\' ++ cs).takeWhile (· = '\\') = List.replicate n '\\' := by
  rw [List.takeWhile_append_of_pos fun d hd => by simp [List.eq_of_mem_replicate hd]]
  cases cs with
  | nil => simp
  | cons c cs => simp [show c ≠ '\\' from fun hc => h (congrArg some hc)]

section Segments

variable {fuel n : Nat} {c : Char} {cs inside tail : List Char} {ss : List Segment}

theorem segments_char (hc : c ≠ '\\') (h : splitMark? (c :: cs) = none) :
    segments (fuel + 1) (c :: cs) = .char c :: segments fuel cs := by
  simp [segments, hc, h]

theorem segments_slashes (hcs : cs.head? ≠ some '\\') (h : splitMark? cs = none) :
    segments (fuel + 1) (List.replicate (n + 1) '\\' ++ cs) =
      List.replicate (n + 1) (.char '\\') ++ segments fuel cs := by
  rw [List.replicate_succ, List.cons_append, segments, ← List.cons_append, ← List.replicate_succ,
    takeWhile_replicate_append hcs, List.drop_left' rfl, h]
  simp [List.replicate_succ]

theorem segments_mark (h : splitMark? cs = some (inside, tail)) :
    segments (fuel + 1) (List.replicate n '\\' ++ cs) = .mark n inside :: segments fuel tail := by
  obtain ⟨hcs, -⟩ := splitMark?_eq_some h
  have hhead : cs.head? ≠ some '\\' := by simp [hcs]
  cases htext : List.replicate n '\\' ++ cs with
  | nil => simp [hcs] at htext
  | cons c rest =>
    rw [segments, ← htext, takeWhile_replicate_append hhead, List.drop_left' rfl, h]
    simp

/-- **The segments of a text are its parts**, when the counter is large enough. -/
theorem splits_segments (h : cs.length < fuel) : Splits cs (segments fuel cs) := by
  induction fuel generalizing cs with
  | zero => omega
  | succ fuel ih =>
    obtain ⟨n, after, rfl, hafter⟩ := exists_replicate_append cs
    rw [List.length_append, List.length_replicate] at h
    cases hmark : splitMark? after with
    | some p =>
      obtain ⟨hshape, -⟩ := splitMark?_eq_some hmark
      rw [segments_mark hmark]
      refine .mark hmark (ih ?_)
      have := congrArg List.length hshape
      simp only [List.length_append, List.length_cons] at this
      omega
    | none =>
      cases n with
      | succ n =>
        rw [segments_slashes hafter hmark]
        exact .slashes hafter hmark (ih (by omega))
      | zero =>
        cases after with
        | nil => exact .nil
        | cons c rest =>
          have hc : c ≠ '\\' := fun hc => hafter (congrArg some hc)
          rw [List.replicate_zero, List.nil_append, segments_char hc hmark]
          refine .char hc hmark (ih ?_)
          rw [List.length_cons] at h
          omega

/-- A text has its parts in **one way** only. -/
theorem Splits.segments_eq (h : Splits cs ss) (hfuel : cs.length < fuel) :
    segments fuel cs = ss := by
  induction h generalizing fuel with
  | nil => cases fuel <;> rfl
  | char hc hmark _ ih =>
    rw [List.length_cons] at hfuel
    obtain ⟨fuel, rfl⟩ : ∃ m, fuel = m + 1 := ⟨fuel - 1, by omega⟩
    rw [segments_char hc hmark, ih (by omega)]
  | slashes hhead hmark _ ih =>
    rw [List.length_append, List.length_replicate] at hfuel
    obtain ⟨fuel, rfl⟩ : ∃ m, fuel = m + 1 := ⟨fuel - 1, by omega⟩
    rw [segments_slashes hhead hmark, ih (by omega)]
  | mark hmark _ ih =>
    have hlength := congrArg List.length (splitMark?_eq_some hmark).1
    simp only [List.length_append, List.length_cons] at hlength
    rw [List.length_append, List.length_replicate] at hfuel
    obtain ⟨fuel, rfl⟩ : ∃ m, fuel = m + 1 := ⟨fuel - 1, by omega⟩
    rw [segments_mark hmark, ih (by omega)]

end Segments

/-! ### Escaped texts -/

/-- A segment as it is **escaped**. -/
def Segment.escaped : Segment → List Char
  | .char c => [c]
  | .mark n inside => List.replicate (2 * n + 1) '\\' ++ '[' :: inside ++ [']']

/-- A segment that sets no style and ends none: a character, or a mark with an **odd** number of
backslashes before it. -/
def Segment.IsInert : Segment → Prop
  | .char _ => True
  | .mark n _ => n % 2 = 1

/-- What may stand **after** an escaped text, and the segments that it may have there: nothing, or
the mark that ends the innermost style. -/
inductive Ends : List Char → List Segment → Prop
  | nothing : Ends [] []
  | close {n : Nat} : Ends ['[', '/', ']'] [.mark n ['/']]

theorem exists_closeSlash (cs : List Char) :
    ∃ k, closeSlash cs = cs ++ List.replicate k '\\' := by
  rw [closeSlash]
  split
  · exact ⟨0, (List.append_nil _).symm⟩
  · exact ⟨1, rfl⟩
  · exact ⟨0, (List.append_nil _).symm⟩

variable {cs ending : List Char} {ss : List Segment}

theorem flatMap_escaped_replicate {n : Nat} :
    (List.replicate n (Segment.char '\\')).flatMap Segment.escaped = List.replicate n '\\' := by
  rw [List.flatMap_replicate]
  exact List.flatten_replicate_singleton

/-- Escaping **keeps the first bracket** of a text. -/
theorem Splits.firstBracket_escaped (h : Splits cs ss) :
    firstBracket (ss.flatMap Segment.escaped) = firstBracket cs := by
  induction h with
  | nil => rfl
  | @char c _ _ _ _ _ ih =>
    rw [firstBracket_cons, ← ih]
    exact firstBracket_append
  | slashes _ _ _ ih =>
    rw [List.flatMap_append, flatMap_escaped_replicate, firstBracket_append, firstBracket_append, ih]
  | mark hmark _ _ =>
    obtain ⟨hcs, -⟩ := splitMark?_eq_some hmark
    rw [List.flatMap_cons, Segment.escaped, hcs]
    simp only [List.append_assoc, firstBracket_append, firstBracket_replicate, Option.none_or]
    rfl

/-- **A bracket that began no mark begins none** after the text is escaped, since only backslashes
are added to it. -/
theorem splitMark?_escaped {c : Char} {us : List Segment} (hc : splitMark? (c :: cs) = none)
    (h : Splits cs ss) (hend : Ends ending us) (k : Nat) :
    splitMark? (c :: (ss.flatMap Segment.escaped ++ (List.replicate k '\\' ++ ending))) = none := by
  by_cases hopen : c = '['
  · subst hopen
    have hslash : ∀ ds, splitMark? ('[' :: '\\' :: ds) = none := fun ds =>
      splitMark?_eq_none_iff.mpr fun hb => absurd hb (by decide)
    cases h with
    | nil =>
      cases k with
      | succ k => exact hslash _
      | zero =>
        cases hend with
        | nothing => rfl
        | close => rfl
    | char hne hmark htail =>
      rw [List.flatMap_cons, Segment.escaped, List.singleton_append, List.cons_append]
      refine splitMark?_eq_none_iff.mpr fun hb hclose => ?_
      have hfirst := splitMark?_eq_none_iff.mp hc hb
      rw [firstBracket_append, htail.firstBracket_escaped, firstBracket_append,
        firstBracket_replicate, Option.none_or] at hclose
      cases hfound : firstBracket _ with
      | some b => exact hfirst (by rwa [hfound] at hclose ⊢)
      | none =>
        rw [hfound, Option.none_or] at hclose
        cases hend with
        | nothing => cases hclose
        | close => cases hclose
    | slashes => exact hslash _
    | mark => exact hslash _
  · exact splitMark?_cons_of_ne hopen

/-- Backslashes at the **end** of a text, and what may stand after them. -/
theorem exists_splits_ending {us : List Segment} (hend : Ends ending us) (k : Nat) :
    ∃ ts us, Splits (List.replicate k '\\' ++ ending) (ts ++ us) ∧ (∀ t ∈ ts, t.IsInert) ∧
      Ends ending us := by
  cases hend with
  | close => exact ⟨[], [.mark k ['/']], .mark rfl .nil, by simp, .close⟩
  | nothing =>
    cases k with
    | zero => exact ⟨[], [], .nil, by simp, .nothing⟩
    | succ k =>
      refine ⟨List.replicate (k + 1) (.char '\\'), [], ?_, fun t ht => ?_, .nothing⟩
      · exact .slashes nofun rfl .nil
      · rw [List.eq_of_mem_replicate ht]
        trivial

/-- **There is no mark in an escaped text**: all its parts are inert, up to what stands after it. -/
theorem Splits.exists_splits_escaped {us : List Segment} (h : Splits cs ss)
    (hend : Ends ending us) (k : Nat) :
    ∃ ts us, Splits (ss.flatMap Segment.escaped ++ (List.replicate k '\\' ++ ending)) (ts ++ us) ∧
      (∀ t ∈ ts, t.IsInert) ∧ Ends ending us := by
  induction h with
  | nil => exact exists_splits_ending hend k
  | @char c _ _ hne hmark htail ih =>
    -- a bracket in a text must not become the beginning of a mark
    obtain ⟨ts, us, hts, hinert, hus⟩ := ih
    exact ⟨.char c :: ts, us, .char hne (splitMark?_escaped hmark htail hend k) hts,
      List.forall_mem_cons.mpr ⟨trivial, hinert⟩, hus⟩
  | @slashes n cs _ hhead hmark htail ih =>
    rw [List.flatMap_append, flatMap_escaped_replicate, List.append_assoc]
    -- they join the backslashes of the end when there is nothing in between
    cases htail with
    | nil =>
      rw [List.flatMap_nil, List.nil_append, ← List.append_assoc, List.replicate_append_replicate]
      exact exists_splits_ending hend _
    | @char c _ _ hne _ htail =>
      obtain ⟨ts, us, hts, hinert, hus⟩ := ih
      refine ⟨List.replicate (n + 1) (.char '\\') ++ ts, us, ?_, fun t ht => ?_, hus⟩
      · rw [List.append_assoc]
        exact .slashes (fun h => hne (Option.some.inj h)) (splitMark?_escaped hmark htail hend k) hts
      · rcases List.mem_append.mp ht with ht | ht
        · rw [List.eq_of_mem_replicate ht]
          trivial
        · exact hinert t ht
    | slashes => exact absurd rfl hhead
    | @mark m _ _ _ _ hmark' =>
      cases m with
      | zero => exact absurd (hmark.symm.trans hmark') (by simp)
      | succ m => exact absurd rfl hhead
  | @mark n _ inside _ _ hmark _ ih =>
    obtain ⟨ts, us, hts, hinert, hus⟩ := ih
    refine ⟨.mark (2 * n + 1) inside :: ts, us, ?_,
      List.forall_mem_cons.mpr ⟨show (2 * n + 1) % 2 = 1 by omega, hinert⟩, hus⟩
    simpa [Segment.escaped] using Splits.mark ((splitMark?_eq_some hmark).2 _) hts

/-! ### Printing -/

/-- A text that is **printed**: every mark in it closes something or sets a style that there is. -/
def Printable (s : String) : Prop := ∃ cs, (Marked.read s >>= Marked.plain) = .ok cs

/-- **Printing it** tells whether a text is printable. -/
theorem printable_iff {s : String} :
    Printable s ↔ (Marked.read s >>= Marked.plain).toOption.isSome = true := by
  simp only [Printable, Option.isSome_iff_exists, toOption_eq_some_iff]

instance {s : String} : Decidable (Printable s) := decidable_of_iff _ printable_iff.symm

/-- A style in words that can be **looked up**. -/
def IsLookedUp (words : List Char) : Prop := ∃ style, Style.read words = .ok style

theorem Marked.exists_plain_iff {m : Marked} :
    (∃ cs, m.plain = .ok cs) ↔ ∀ words ∈ m.styles, IsLookedUp words := by
  obtain ⟨chars, styles⟩ := m
  induction styles with
  | nil => exact iff_of_true ⟨chars, rfl⟩ fun _ hm => nomatch hm
  | cons words rest ih =>
    have hstep : plain ⟨chars, words :: rest⟩ = Style.read words >>= fun _ => plain ⟨chars, rest⟩ := by
      simp only [plain, List.forIn_cons]
      cases Style.read words <;> rfl
    rw [List.forall_mem_cons, ← ih, hstep]
    cases h : Style.read words with
    | ok style => exact (and_iff_right ⟨style, h⟩).symm
    | error f =>
      refine iff_of_false (fun ⟨_, hcs⟩ => nomatch hcs) fun ⟨⟨style, hstyle⟩, _⟩ => ?_
      exact nomatch h.symm.trans hstyle

/-- A text is **printable** when its parts can be read and every style that they set can be looked
up. -/
theorem Splits.printable {s : String} {p : Printing} (h : Splits s.toList ss)
    (hp : ss.foldlM Printing.add ⟨0, [], [], [], []⟩ = .ok p)
    (hstyles : ∀ words ∈ p.styles, IsLookedUp words)
    (hopened : ∀ m ∈ p.opened, IsLookedUp m.style) : Printable s := by
  have hread : Marked.read s =
      .ok ⟨p.done ++ printedChunk p.chunk.reverse, p.styles.reverse ++ p.opened.map Mark.style⟩ := by
    have hsegments : segments (s.length + 1) s.toList = ss := h.segments_eq (Nat.lt_succ_self _)
    rw [Marked.read, hsegments, hp]
    rfl
  rw [Printable, hread]
  refine Marked.exists_plain_iff.mpr fun words hwords => ?_
  rcases List.mem_append.mp hwords with hwords | hwords
  · exact hstyles words (List.mem_reverse.mp hwords)
  · obtain ⟨m, hm, rfl⟩ := List.mem_map.mp hwords
    exact hopened m hm

/-- **Inert segments change no styles**, whatever they print. -/
theorem exists_foldlM_add {ts : List Segment} (h : ∀ t ∈ ts, t.IsInert) (p : Printing) :
    ∃ q, ts.foldlM Printing.add p = .ok q ∧ q.opened = p.opened ∧ q.styles = p.styles := by
  induction ts generalizing p with
  | nil => exact ⟨p, rfl, rfl, rfl⟩
  | cons t ts ih =>
    obtain ⟨ht, hts⟩ := List.forall_mem_cons.mp h
    have hstep : ∃ q, Printing.add p t = .ok q ∧ q.opened = p.opened ∧ q.styles = p.styles := by
      cases t with
      | char c => exact ⟨_, rfl, rfl, rfl⟩
      | mark n inside =>
        rw [Printing.add, if_pos (show n % 2 = 1 from ht)]
        exact ⟨_, rfl, rfl, rfl⟩
    obtain ⟨q, hq, hopened, hstyles⟩ := hstep
    obtain ⟨r, hr, hopened', hstyles'⟩ := ih hts q
    refine ⟨r, ?_, hopened'.trans hopened, hstyles'.trans hstyles⟩
    rw [List.foldlM_cons, hq]
    exact hr

/-- **A text without marks is printable.** -/
theorem Splits.printable_of_inert {s : String} (h : Splits s.toList ss)
    (hinert : ∀ t ∈ ss, t.IsInert) : Printable s := by
  obtain ⟨p, hp, hopened, hstyles⟩ := exists_foldlM_add hinert ⟨0, [], [], [], []⟩
  refine h.printable hp ?_ ?_
  · rw [hstyles]
    exact fun _ hm => nomatch hm
  · rw [hopened]
    exact fun _ hm => nomatch hm

theorem Splits.isInert_of_not_mem (h : Splits cs ss) (hcs : '[' ∉ cs) : ∀ t ∈ ss, t.IsInert := by
  induction h with
  | nil => exact fun _ ht => nomatch ht
  | char _ _ _ ih => exact List.forall_mem_cons.mpr ⟨trivial, ih (List.not_mem_of_not_mem_cons hcs)⟩
  | slashes _ _ _ ih =>
    intro t ht
    rcases List.mem_append.mp ht with ht | ht
    · rw [List.eq_of_mem_replicate ht]
      trivial
    · exact ih (fun hmem => hcs (List.mem_append_right _ hmem)) t ht
  | mark hmark _ _ =>
    refine absurd (List.mem_append_right _ ?_) hcs
    simp [(splitMark?_eq_some hmark).1]

/-- **A text without opening brackets is printable.** -/
theorem printable_of_not_mem {s : String} (h : '[' ∉ s.toList) : Printable s :=
  (splits_segments (Nat.lt_succ_self _)).printable_of_inert
    ((splits_segments (Nat.lt_succ_self _)).isInert_of_not_mem h)

/-- The parts of an **escaped text** with something after it. -/
theorem exists_splits_escape (s : String) {us : List Segment} (hend : Ends ending us) :
    ∃ ts us, Splits ((escape s).toList ++ ending) (ts ++ us) ∧ (∀ t ∈ ts, t.IsInert) ∧
      Ends ending us := by
  obtain ⟨k, hk⟩ :=
    exists_closeSlash ((segments (s.length + 1) s.toList).flatMap Segment.escaped)
  have hescape : (escape s).toList =
      (segments (s.length + 1) s.toList).flatMap Segment.escaped ++ List.replicate k '\\' := by
    rw [← hk, escape, String.toList_ofList]
    refine congrArg (fun f => closeSlash ((segments (s.length + 1) s.toList).flatMap f)) ?_
    funext t
    cases t <;> rfl
  rw [hescape, List.append_assoc]
  exact (splits_segments (Nat.lt_succ_self _)).exists_splits_escaped hend k

/-- **An escaped text is printable**, whatever it says. -/
theorem printable_escape (s : String) : Printable (escape s) := by
  obtain ⟨ts, us, hsplits, hinert, hend⟩ := exists_splits_escape s .nothing
  cases hend
  rw [List.append_nil, List.append_nil] at hsplits
  exact hsplits.printable_of_inert hinert

/-! ### Texts between two marks -/

/-- The inside of a mark that **sets a style** that can be looked up. -/
structure SetsStyle (inside : List Char) : Prop where
  isMark : splitMark? ('[' :: inside ++ [']']) = some (inside, [])
  opens : inside.head? ≠ some '/'
  style : ∃ m, Mark.read inside = .ok m ∧ m.isCall = false ∧ IsLookedUp m.style

/-- The styles that the commands set for what they print. -/
def usedStyles : List String := ["red", "yellow", "green", "bold red", "bold blue"]

theorem setsStyle_of_mem {words : String} (h : words ∈ usedStyles) : SetsStyle words.toList := by
  have hname : ∀ name : String, Mark.read words.toList = .ok ⟨name, none⟩ →
      (Mark.mk name none).isCall = false → IsLookedUp name.toList →
      ∃ m, Mark.read words.toList = .ok m ∧ m.isCall = false ∧ IsLookedUp m.style :=
    fun name hread hcall hstyle => ⟨⟨name, none⟩, hread, hcall, hstyle⟩
  simp only [usedStyles, List.mem_cons, List.not_mem_nil, or_false] at h
  rcases h with rfl | rfl | rfl | rfl | rfl
  all_goals exact ⟨rfl, by decide +kernel, hname _ rfl (by decide +kernel) ⟨_, rfl⟩⟩

/-- Characters that are **no part of a mark**, nor a backslash before one. -/
def IsPlain (cs : List Char) : Prop := ∀ c ∈ cs, c ≠ '[' ∧ c ≠ '\\'

instance {cs : List Char} : Decidable (IsPlain cs) :=
  List.decidableBAll (p := fun c => c ≠ '[' ∧ c ≠ '\\') cs

theorem Splits.append_plain {plain : List Char} (hplain : IsPlain plain) (h : Splits cs ss) :
    Splits (plain ++ cs) (plain.map .char ++ ss) := by
  induction plain with
  | nil => exact h
  | cons c plain ih =>
    obtain ⟨⟨hopen, hslash⟩, hplain⟩ := List.forall_mem_cons.mp hplain
    exact .char hslash (splitMark?_cons_of_ne hopen) (ih hplain)

/-- **A mark that sets a style opens it.** -/
theorem SetsStyle.exists_add {inside : List Char} {m : Mark} (h : SetsStyle inside)
    (hm : Mark.read inside = .ok m) :
    ∃ p, Printing.add ⟨0, [], [], [], []⟩ (.mark 0 inside) = .ok p ∧ p.opened = [m] ∧
      p.styles = [] := by
  simp only [Printing.add, if_neg h.opens, hm]
  exact ⟨_, rfl, rfl, rfl⟩

/-- **The end of a style** can be printed wherever a style is set: it ends that one, or is no mark
if there is an odd number of backslashes before it. -/
theorem exists_add_close {p : Printing} {m : Mark} (hp : p.opened = [m]) (hcall : m.isCall = false)
    (n : Nat) : ∃ q, Printing.add p (.mark n ['/']) = .ok q ∧
      (∀ words ∈ q.styles, words ∈ p.styles ∨ words = m.style) ∧ ∀ m' ∈ q.opened, m' = m := by
  rw [Printing.add]
  by_cases hodd : n % 2 = 1
  · rw [if_pos hodd]
    exact ⟨_, rfl, fun _ hwords => .inl hwords, fun m' hm => by simpa [hp] using hm⟩
  · rw [if_neg hodd]
    simp only [Printing.close, hp, Printing.finish, hcall]
    refine ⟨_, rfl, fun words hwords => ?_, fun _ hm => nomatch hm⟩
    exact (List.mem_cons.mp hwords).symm

/-- **An escaped text between a mark that sets a style and the mark that ends it is printable**, with
some plain text in front of it. -/
theorem SetsStyle.printable_escape {words plain : String} (hstyle : SetsStyle words.toList)
    (hplain : IsPlain plain.toList) (s : String) :
    Printable ("[" ++ words ++ "]" ++ plain ++ escape s ++ "[/]") := by
  obtain ⟨m, hread, hcall, hlookup⟩ := hstyle.style
  obtain ⟨ts, us, hsplits, hinert, hend⟩ := exists_splits_escape s (.close : Ends _ [.mark 0 _])
  cases hend with | @close n
  have hmark := (splitMark?_eq_some hstyle.isMark).2
  have hall : Splits ("[" ++ words ++ "]" ++ plain ++ escape s ++ "[/]").toList
      (.mark 0 words.toList :: (plain.toList.map .char ++ (ts ++ [.mark n ['/']]))) := by
    simpa using Splits.mark (n := 0) (hmark _) (hsplits.append_plain hplain)
  have hinert' : ∀ t ∈ plain.toList.map .char ++ ts, t.IsInert := by
    intro t ht
    rcases List.mem_append.mp ht with ht | ht
    · obtain ⟨c, -, rfl⟩ := List.mem_map.mp ht
      trivial
    · exact hinert t ht
  obtain ⟨p₀, hfirst, hopened₀, hstyles₀⟩ := hstyle.exists_add hread
  obtain ⟨p, hp, hopened, hstyles⟩ := exists_foldlM_add hinert' p₀
  obtain ⟨q, hq, hqstyles, hqopened⟩ := exists_add_close (hopened.trans hopened₀) hcall n
  refine hall.printable (p := q) ?_ (fun words hwords => ?_) fun m' hm => ?_
  · rw [List.foldlM_cons, hfirst, ok_bind, ← List.append_assoc, List.foldlM_append, hp, ok_bind,
      List.foldlM_cons, hq]
    rfl
  · rcases hqstyles words hwords with hwords | rfl
    · rw [hstyles, hstyles₀] at hwords
      cases hwords
    · exact hlookup
  · rw [hqopened m' hm]
    exact hlookup

section Used

variable {before text words plain : String} (hwords : words ∈ usedStyles)
  (hplain : IsPlain plain.toList)

include hwords hplain

theorem printable_styled_escape (hbefore : before = "[" ++ words ++ "]" ++ plain) (s : String) :
    Printable (before ++ escape s ++ "[/]") := by
  rw [hbefore]
  exact (setsStyle_of_mem hwords).printable_escape hplain s

theorem printable_styled (htext : text = "[" ++ words ++ "]" ++ plain ++ "[/]") :
    Printable text := by
  have hempty : escape "" = "" := by decide
  have hall : text = ("[" ++ words ++ "]" ++ plain) ++ escape "" ++ "[/]" := by
    rw [hempty, String.append_empty, htext]
  rw [hall]
  exact printable_styled_escape hwords hplain rfl ""

end Used

theorem IsPlain.printable {s : String} (h : IsPlain s.toList) : Printable s :=
  printable_of_not_mem fun hmem => (h _ hmem).1 rfl

theorem isPlain_repr (n : Nat) : IsPlain (toString n).toList := by
  intro c hc
  rw [show (toString n).toList = Nat.toDigits 10 n from Nat.toList_repr] at hc
  have hdigit : c.isDigit = true := Nat.isDigit_of_mem_toDigits (by decide) (by decide) hc
  constructor
  · rintro rfl
    cases hdigit
  · rintro rfl
    cases hdigit

theorem IsPlain.append {cs ds : List Char} (hcs : IsPlain cs) (hds : IsPlain ds) :
    IsPlain (cs ++ ds) :=
  fun c hc => (List.mem_append.mp hc).elim (hcs c) (hds c)

end StackManifest.Console
