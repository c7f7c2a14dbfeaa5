import StackManifest.Proofs.Equality
import StackManifest.Proofs.RoundTrip.Parts
import StackManifest.Value.Access

/-!
# A document, written and read again

A document that was read of plain data can be written as plain data, and this is plain data in
**normal form**: reading it gives the same document, of which the same is written again. There is one
exception. A document has a version, and data without one, or with an empty text for it, is not
read. But bytes are a text too, and empty bytes are not looked at as an empty text: such data is read
as a document whose version is empty, and this is written as data that is not read any more.

* `StackManifest.version_eq_empty_iff` – when the version of a document is **empty**;
* `StackManifest.Document.missingFields_toValue` – which required fields the data that is written
  lacks;
* `StackManifest.Document.parse_toValue_iff` – a document is read back **exactly when** its version
  was not given as empty bytes.
-/

namespace StackManifest

open StackManifest.Text

/-! ### Empty texts -/

/-- **No character** is what no byte writes. -/
theorem decodeUtf8_eq_nil_iff {bs : List UInt8} : decodeUtf8 bs = .ok [] ↔ bs = [] := by
  have hnext : ∀ (c : Char) (x : Except Utf8Fault (List Char)), (c :: ·) <$> x ≠ .ok [] := by
    intro c x
    cases x <;> simp [Functor.map, Except.map]
  constructor
  · intro h
    cases bs with
    | nil => rfl
    | cons b rest =>
      rw [decodeUtf8, decodeUtf8From.eq_def] at h
      simp only at h
      -- whatever is decoded begins with a character
      repeat' split at h
      all_goals first
        | cases h
        | exact absurd h (hnext _ _)
  · rintro rfl
    rfl

/-- A text is read as **empty** when it is, or of no bytes. -/
theorem named_eq_empty_iff {v : Value} :
    Scalar.named v = .ok "" ↔ v = .text "" ∨ v = .bytes [] := by
  cases v with
  | text s =>
    have hnamed : Scalar.named (.text s) = .ok s := rfl
    simp [hnamed]
  | bytes bs =>
    have hnamed : Scalar.named (.bytes bs) = Scalar.text (.bytes bs) := rfl
    rw [hnamed, Scalar.text]
    cases hbs : decodeUtf8 bs with
    | error e =>
      have hne : bs ≠ [] := by
        rintro rfl
        cases hbs
      simp [Checked.fail, hne]
    | ok cs =>
      have hempty : cs = [] ↔ bs = [] := by
        rw [← decodeUtf8_eq_nil_iff, hbs, Except.ok.injEq]
      simp [hempty]
  | int n =>
    refine iff_of_false (fun h => ?_) (by simp)
    obtain ⟨w, hw, htext⟩ := Checked.bind_eq_ok_iff.mp h
    obtain ⟨s, hs, rfl⟩ := Scalar.asText_int_eq_ok_iff.mp hw
    obtain ⟨-, rfl⟩ := Value.toText_eq_ok_iff.mp hs
    exact intText_ne_empty n (Checked.ok.inj htext)
  | float x =>
    refine iff_of_false (fun h => ?_) (by simp)
    obtain ⟨w, hw, htext⟩ := Checked.bind_eq_ok_iff.mp h
    obtain ⟨s, hs, rfl⟩ := Scalar.asText_float_eq_ok_iff.mp hw
    obtain ⟨-, rfl⟩ := Value.toText_eq_ok_iff.mp hs
    exact text_ne_empty x (Checked.ok.inj htext)
  | _ => exact iff_of_false (by simp [Scalar.named, Scalar.asText, Scalar.text, Checked.bind,
      Checked.fail]) (by simp)

/-! ### The version of a document -/

section Version

variable {es : Entries} {l : Label} {d : Document}

theorem isMissing_eq_true_iff {v : Value} : v.isMissing = true ↔ v = .null ∨ v = .text "" := by
  cases v <;> simp [Value.isMissing]

/-- **The version of a document is given**, and read. -/
theorem exists_version (hm : missingFields es = []) (hd : Document.read (.map l es) = .ok d) :
    ∃ v s, Entries.get? es "version" = some v ∧ v ≠ .text "" ∧ Scalar.named v = .ok s ∧
      d.version = some s := by
  have hgiven : (Entries.get es "version").isMissing ≠ true := by
    intro h
    have hmem : "version" ∈ missingFields es := List.mem_filter.mpr ⟨by decide, h⟩
    rw [hm] at hmem
    cases hmem
  obtain ⟨hnull, hempty⟩ := not_or.mp (mt isMissing_eq_true_iff.mpr hgiven)
  cases hv : Entries.get? es "version" with
  | none => exact absurd (by rw [Entries.get, hv]; rfl) hnull
  | some v =>
    rw [Entries.get, hv, Option.getD_some] at hnull hempty
    obtain ⟨-, hread, -⟩ := Document.read_eq_ok_iff.mp hd
    rw [Fields.read_of_get? hv, Checked.inside_eq_ok_iff] at hread
    rcases Scalar.optional_eq_ok_iff.mp hread with ⟨h, -⟩ | ⟨-, s, hs, hversion⟩
    · exact absurd h hnull
    · exact ⟨v, s, rfl, hempty, hs, hversion.symm⟩

/-- The version of a document is **empty** when it is given as empty bytes. -/
theorem version_eq_empty_iff (hm : missingFields es = [])
    (hd : Document.read (.map l es) = .ok d) :
    d.version = some "" ↔ Entries.get? es "version" = some (.bytes []) := by
  obtain ⟨v, s, hv, hempty, hs, hversion⟩ := exists_version hm hd
  rw [hv, hversion, Option.some.injEq, Option.some.injEq]
  constructor
  · rintro rfl
    exact (named_eq_empty_iff.mp hs).resolve_left hempty
  · rintro rfl
    exact Checked.ok.inj (hs.symm.trans (named_eq_empty_iff.mpr (.inr rfl)))

end Version

/-! ### The document of what was written -/

namespace Document

variable {v : Value} {d : Document}

theorem missingFields_of_get? {es : Entries} {version services deployment : Value}
    (hv : Entries.get? es "version" = some version)
    (hs : Entries.get? es "services" = some services) (hs' : services.isMissing = false)
    (hd : Entries.get? es "deployment" = some deployment) (hd' : deployment.isMissing = false) :
    missingFields es = if version.isMissing then ["version"] else [] := by
  simp [missingFields, requiredFields, List.filter_cons, Entries.get, hv, hs, hs', hd, hd']

/-- Of a document **only the version may be missing** where it is written. -/
theorem missingFields_toValue (h : Document.read v = .ok d) :
    ∃ es, d.toValue = .map 0 es ∧
      missingFields es = if (Value.ofText? d.version).isMissing then ["version"] else [] := by
  obtain ⟨es, hes⟩ := Document.isLaidOut.exists_entries h
  obtain ⟨hversion, hservices, -, hdeployment⟩ := Document.isLaidOut.forall_get? hes
  exact ⟨_, rfl, missingFields_of_get? hversion hservices rfl hdeployment rfl⟩

/-- **A document is read back** from the data that is written of it, exactly when its version was not
given as empty bytes. What is read is the same document, and the same is written of it. -/
theorem parse_toValue_iff (h : Document.parse (.data v) = .ok d) :
    (∃ d', Document.parse (.data d.toValue) = .ok d' ∧ d.eqv d' = true ∧
      d'.toValue = d.toValue) ↔ v.field "version" ≠ .ok (.bytes []) := by
  obtain ⟨l, es, rfl, hm, hd⟩ := ofData_eq_ok_iff.mp h
  obtain ⟨w, s, hw, -, -, hversion⟩ := exists_version hm hd
  have hfield : Value.field (.map l es) "version" = .ok (.bytes []) ↔ d.version = some "" := by
    have hgiven : Value.field (.map l es) "version" = .ok w := by
      change Except.ok ((Entries.get? es "version").getD .null) = .ok w
      rw [hw]
      rfl
    rw [version_eq_empty_iff hm hd, hgiven, hw, Except.ok.injEq, Option.some.injEq]
  obtain ⟨fs, hfs, hmissing⟩ := missingFields_toValue hd
  rw [ne_eq, hfield]
  constructor
  · rintro ⟨d', hd', -⟩ hempty
    obtain ⟨l', fs', heq, hm', -⟩ := ofData_eq_ok_iff.mp (show ofData d.toValue = .ok d' from hd')
    obtain ⟨-, rfl⟩ := Value.map.inj (hfs.symm.trans heq)
    rw [hmissing, hempty] at hm'
    cases hm'
  · intro hempty
    obtain ⟨d', hd', hwrite⟩ := Document.readsBack _ d hd
    refine ⟨d', ofData_eq_ok_iff.mpr ⟨0, fs, hfs, ?_, hd'⟩, ?_, hwrite⟩
    · have hgiven : (Value.ofText? d.version).isMissing ≠ true := by
        rw [ne_eq, isMissing_eq_true_iff, hversion]
        rintro (hnull | htext)
        · cases hnull
        · exact hempty (hversion.trans (congrArg some (Value.text.inj htext)))
      rw [hmissing, if_neg hgiven]
    · rw [Document.eqv, hwrite]
      exact Value.eqv_refl _

/-- Data with a **number for a name** and with an unknown field. -/
def numbered : Value :=
  .record
    [("version", .text defaultVersion),
      ("services", .map 0 [(.int 7, .record [("image", .text "nginx"), ("restart", .null)])]),
      ("deployment", .record [])]

/-- It is written with the name as a text, and all known fields, and read back. -/
theorem parse_toValue_numbered :
    ∃ d d', Document.parse (.data numbered) = .ok d ∧
      Document.parse (.data d.toValue) = .ok d' ∧ d.eqv d' = true ∧ d'.toValue = d.toValue := by
  have hread : (Document.parse (.data numbered)).toOption.isSome = true := by decide +kernel
  obtain ⟨d, hd⟩ := Option.isSome_iff_exists.mp hread
  have hd := toOption_eq_some_iff.mp hd
  have hversion : numbered.field "version" = .ok (.text defaultVersion) := rfl
  obtain ⟨d', hback⟩ := (parse_toValue_iff hd).mpr (by rw [hversion]; simp)
  exact ⟨d, d', hd, hback⟩

/-- Data whose version is given as **empty bytes**. -/
def unversioned : Value :=
  .record [("version", .bytes []), ("services", .record []), ("deployment", .record [])]

/-- It is read, but what is written of it **lacks the version** and is not read any more. -/
theorem parse_toValue_unversioned :
    ∃ d, Document.parse (.data unversioned) = .ok d ∧
      Document.parse (.data d.toValue) = .error (.missingFields ["version"]) := by
  have hversion : (Document.parse (.data unversioned)).toOption.map Document.version =
      some (some "") := by decide +kernel
  obtain ⟨d, hd, hversion⟩ := Option.map_eq_some_iff.mp hversion
  have hd := toOption_eq_some_iff.mp hd
  obtain ⟨l, es, -, -, hread⟩ := ofData_eq_ok_iff.mp (show ofData unversioned = .ok d from hd)
  obtain ⟨fs, hfs, hmissing⟩ := missingFields_toValue hread
  refine ⟨d, hd, ?_⟩
  change ofData d.toValue = _
  rw [hversion] at hmissing
  simp only [hfs, ofData, hmissing]
  rfl

end Document

end StackManifest
