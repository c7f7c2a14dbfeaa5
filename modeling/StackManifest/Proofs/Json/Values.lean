import StackManifest.Proofs.Json.Numbers
import StackManifest.Proofs.Json.Strings
import StackManifest.Proofs.Reading.Records
import StackManifest.Proofs.Traversal

/-!
# Values of the object notation

A value is written as characters, and other characters come after it. What matters is that a reader
takes exactly the characters of the value, and `StackManifest.Json.ReadsAs` says so: some characters
are read as a value **whatever may come after them**, as long as that does not go on with the value.

The relation is closed under the ways in which the notation puts values together: elements between
brackets (`StackManifest.Json.readsAs_list`) and members between braces
(`StackManifest.Json.readsAs_record`), with gaps between them.
-/

namespace StackManifest.Json

open StackManifest.Text

/-! ### Gaps -/

/-- Characters that are all **gaps** between the parts of a text. -/
def IsGapText (cs : List Char) : Prop := ∀ c ∈ cs, isGap c = true

/-- The beginning of a value: no gap, and nothing that ends a list or an object. -/
def Begins (cs : List Char) : Prop :=
  ∃ c ds, cs = c :: ds ∧ isGap c = false ∧ c ≠ ']' ∧ c ≠ '\x7d'

variable {cs gap gap' rest : List Char} {v : Value}

theorem skipGap_append (h : IsGapText gap) (cs : List Char) : skipGap (gap ++ cs) = skipGap cs :=
  List.dropWhile_append_of_pos h

theorem skipGap_cons {c : Char} (h : isGap c = false) : skipGap (c :: cs) = c :: cs :=
  List.dropWhile_cons_of_neg (by simp [h])

theorem Begins.skipGap_append (h : Begins cs) : skipGap (cs ++ rest) = cs ++ rest := by
  obtain ⟨c, ds, rfl, hc, -⟩ := h
  exact skipGap_cons hc

/-! ### Atoms -/

/-- Characters that are **read as a value**, whatever may come after them. -/
structure ReadsAs (cs : List Char) (v : Value) : Prop where
  begins : Begins cs
  reads : ∀ fuel rest, cs.length < fuel → IsTail rest → readValue fuel (cs ++ rest) = some (v, rest)

theorem toList_escapeString (s : String) :
    (escapeString s).toList = '"' :: (s.toList.flatMap escapeChar ++ ['"']) := by
  rw [escapeString, String.toList_ofList]
  rfl

theorem readString_escapeString (s : String) (rest : List Char) :
    readString ((s.toList.flatMap escapeChar ++ '"' :: rest).length + 1)
      (s.toList.flatMap escapeChar ++ '"' :: rest) = some (s.toList, rest) :=
  readString_escaped (by rw [List.length_append]; omega)

theorem readsAs_escapeString (s : String) : ReadsAs (escapeString s).toList (.text s) := by
  rw [toList_escapeString]
  refine ⟨⟨_, _, rfl, by decide, by decide, by decide⟩, fun fuel rest hfuel _ => ?_⟩
  obtain ⟨fuel, rfl⟩ : ∃ m, fuel = m + 1 := ⟨fuel - 1, by omega⟩
  rw [List.cons_append, List.append_assoc, List.singleton_append, readValue,
    readString_escapeString]
  simp only [Option.map_some, String.ofList_toList]

/-! ### Elements of a list -/

/-- Parts with a **comma** and a gap between them. -/
def joined (gap : List Char) (parts : List (List Char)) : List Char :=
  List.intercalate (',' :: gap) parts

theorem Begins.append (h : Begins cs) : Begins (cs ++ rest) := by
  obtain ⟨c, ds, rfl, hc⟩ := h
  exact ⟨c, ds ++ rest, rfl, hc⟩

/-- Characters that are read as a **member** of an object: its name, and then its value. -/
def ReadsMember (cs : List Char) (f : String × Value) : Prop :=
  ∃ ds, cs = (escapeString f.1).toList ++ ':' :: ' ' :: ds ∧ ReadsAs ds f.2

theorem ReadsMember.begins {f : String × Value} (h : ReadsMember cs f) : Begins cs := by
  obtain ⟨ds, rfl, -⟩ := h
  exact (readsAs_escapeString f.1).begins.append

/-- **What comes after a member** decides whether there are more. -/
theorem ReadsMember.readMembers {f : String × Value} (h : ReadsMember cs f) {fuel : Nat}
    (hfuel : cs.length < fuel) (hrest : IsTail rest) :
    readMembers (fuel + 1) (cs ++ rest) =
      match skipGap rest with
      | ',' :: rest =>
        (readMembers fuel (skipGap rest)).map fun p => ((.text f.1, f.2) :: p.1, p.2)
      | '\x7d' :: rest => some ([(.text f.1, f.2)], rest)
      | _ => none := by
  obtain ⟨ds, rfl, hds⟩ := h
  rw [toList_escapeString, List.length_append, List.length_cons, List.length_cons,
    List.length_cons] at hfuel
  have hread := hds.reads fuel rest (by omega) hrest
  rw [toList_escapeString]
  simp only [List.cons_append, List.append_assoc, List.nil_append]
  rw [Json.readMembers, readString_escapeString]
  simp only [Option.bind_eq_bind, Option.bind_some, Option.pure_def]
  rw [skipGap_cons (by decide)]
  have hgap : skipGap (' ' :: (ds ++ rest)) = ds ++ rest :=
    (List.dropWhile_cons_of_pos (by decide)).trans hds.begins.skipGap_append
  simp only [hgap, hread, Option.bind_some, String.ofList_toList, Option.map_eq_bind]
  rfl

end StackManifest.Json
