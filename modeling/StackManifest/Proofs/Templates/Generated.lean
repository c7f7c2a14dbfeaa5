import StackManifest.Proofs.Markup.LongNames
import StackManifest.Proofs.Reading.Sections
import StackManifest.Proofs.Templates.Verdict

/-!
# The documents that are generated

A template is a text, and the document that is generated is what this text is read as. So
whether the document is the one that the template is meant to give depends on the reading
of the name, which stands in the text as it is: as a key four times, and as a reference. Most
names stand for themselves, but

* a **reserved** word such as `true` or `null` stands for a truth value or for nothing, which is
  no name as a reference, or as a key (`StackManifest.TemplateKind.generate_of_reserved`);
* a name of more than 1024 characters is **too long** for a key, and the text is not read at all
  (`StackManifest.TemplateKind.read_of_long`);
* a **count** that cannot be written leaves no text to be read.

For all other names and counts the data of the text is that of the outline of the template
(`StackManifest.TemplateKind.generate_of_short`), and the document is its stack. The whole is
`StackManifest.TemplateKind.exists_generate_iff`.
-/

namespace StackManifest

open Yaml

/-! ### Names and counts are words -/

theorem isAlphanum_of_isLower {c : Char} (h : c.isLower) : c.isAlphanum :=
  Bool.or_eq_true_iff.mpr (.inl (Bool.or_eq_true_iff.mpr (.inr h)))

theorem isAlphanum_of_isDigit {c : Char} (h : c.isDigit) : c.isAlphanum :=
  Bool.or_eq_true_iff.mpr (.inr h)

/-- A **name** is a word. -/
theorem isWord_of_isServiceName {s : String} (h : isServiceName s) : isWord s.toList = true := by
  obtain ⟨⟨c, cs, hs, hc⟩, hall⟩ := exists_of_isServiceName h
  simp only [isWord, Bool.and_eq_true, List.all_eq_true, decide_eq_true_eq]
  refine ⟨by simp [hs, isAlphanum_of_isLower hc], fun d hd => ?_⟩
  rcases hall d hd with hl | hn | rfl
  · refine ⟨isVisible_of_isAlphanum (isAlphanum_of_isLower hl), ?_⟩
    rintro rfl
    exact absurd hl (by decide)
  · refine ⟨isVisible_of_isAlphanum (isAlphanum_of_isDigit hn), ?_⟩
    rintro rfl
    exact absurd hn (by decide)
  · decide

/-- The text of a positive **count** is a word. -/
theorem isWord_intText {n : Int} (hn : 0 < n) : isWord (Value.intText n).toList = true := by
  obtain ⟨hs, c, cs, hd, -, hc, hcs⟩ := exists_intText hn
  have hall : ∀ d ∈ "0123456789".toList, d.isAlphanum ∧ isVisible d ∧ d ≠ ':' :=
    List.forall_iff_forall_mem.mp (by decide)
  have hdigits : ∀ d ∈ c :: cs, d.isAlphanum ∧ isVisible d ∧ d ≠ ':' := by
    rintro d (_ | ⟨_, hd⟩)
    · exact hall c (mem_digits hc)
    · exact hall d (mem_digits (hcs d hd))
  rw [hs, hd]
  simp only [isWord, Bool.and_eq_true, List.all_eq_true, decide_eq_true_eq]
  exact ⟨(hdigits c List.mem_cons_self).1, fun d hd => (hdigits d hd).2⟩

/-- No object text begins with the letter of the first name of a template. -/
theorem read?_of_head {cs : List Char} : Json.read? ('v' :: cs) = none := by
  rfl

namespace TemplateKind

variable (k : TemplateKind) {image amount : String}

/-! ### The outline can be written and read -/

/-- An outline **can be written** if the name is short enough for a key. -/
theorem isWritable_outline {w c : Word} (hw : w.chars.length ≤ 1024) :
    (Block.entries (k.outline image amount w c)).IsWritable := by
  cases k <;>
    simp [outline, serviceOutline, serviceRest, resourcesOutline, volumeOutline, placementOutline,
      attributesOutline, signedOutline, priceOutline, deploymentOutline, publicPortBlock,
      Block.IsWritable, Block.EntriesWritable, Block.ItemsWritable, Block.isItems, plain, quoted,
      cpuOutline, memoryOutline, word, hw]

theorem entriesReadable_append {es fs : List (Word × Block)} (hes : Block.EntriesReadable es)
    (hfs : Block.EntriesReadable fs) : Block.EntriesReadable (es ++ fs) := by
  induction es with
  | nil => exact hfs
  | cons e es ih => exact ⟨hes.1, hes.2.1, ih hes.2.2⟩

theorem readable_word (s : String) (ok : isWord s.toList = true) (h : plainTag s = Tag.str) :
    IsPlainData (word s ok).string ∧ plainTag (word s ok).string ≠ Tag.merge ∧
      plainTag (word s ok).string ≠ Tag.value ∧ (plainData (word s ok).string).isHashable :=
  Block.readable_key (by rwa [string_word])

/-- An outline **can be read** if the name and the count stand for something, and the name for a
key. -/
theorem readable_outline {w c : Word}
    (hw : IsPlainData w.string ∧ plainTag w.string ≠ Tag.merge ∧ plainTag w.string ≠ Tag.value ∧
      (plainData w.string).isHashable) (hc : IsPlainData c.string) :
    (Block.entries (k.outline image amount w c)).Readable := by
  have key := fun s ok h => readable_word s ok h
  have hservice : Block.EntriesReadable (k.serviceOutline image) :=
    ⟨key _ _ (by decide), fun h => Bool.noConfusion h,
      Block.entriesReadable_of_entriesBasic _ (by cases k <;> decide)⟩
  have hresources : Block.EntriesReadable k.resourcesOutline :=
    Block.entriesReadable_of_entriesBasic _ (by cases k <;> decide)
  have hattributes : Block.EntriesReadable k.attributesOutline :=
    Block.entriesReadable_of_entriesBasic _ (by cases k <;> decide)
  have hsigned : Block.EntriesReadable k.signedOutline :=
    Block.entriesReadable_of_entriesBasic _ (by cases k <;> decide)
  have hdenom : Block.EntriesReadable [(word "denom", plain "uakt")] :=
    Block.entriesReadable_of_entriesBasic _ (by decide)
  have hprice : Block.EntriesReadable (priceOutline amount) :=
    entriesReadable_append hdenom ⟨key _ _ (by decide), fun h => Bool.noConfusion h, trivial⟩
  have hplacement : Block.EntriesReadable (k.placementOutline amount w) :=
    ⟨key _ _ (by decide), hattributes, entriesReadable_append hsigned
      ⟨key _ _ (by decide), ⟨hw, hprice, trivial⟩, trivial⟩⟩
  have hdeployment : Block.EntriesReadable (deploymentOutline w c) :=
    ⟨key _ _ (by decide), fun _ => hw.1, key _ _ (by decide), fun _ => hc, trivial⟩
  refine ⟨key _ _ (by decide), fun h => Bool.noConfusion h, key _ _ (by decide), ⟨hw, hservice, trivial⟩,
    key _ _ (by decide), ⟨key _ _ (by decide), ⟨hw, ⟨key _ _ (by decide), hresources, trivial⟩,
      trivial⟩, key _ _ (by decide), ⟨key _ _ (by decide), hplacement, trivial⟩, trivial⟩,
    key _ _ (by decide), ⟨hw, ⟨key _ _ (by decide), hdeployment, trivial⟩, trivial⟩, trivial⟩

/-! ### From the text to the document -/

/-- The rendering of a kind, given by its name. -/
theorem render_of_gives {es : Entries} {name : String} {count : Int}
    (hes : k.Gives es image amount name count) : StackManifest.render k.name es = k.render es := by
  have hkind : ofName? k.name = some k := by cases k <;> decide
  simp only [StackManifest.render, hkind, hes.names]

theorem render_given (name : String) (count : Int) :
    StackManifest.render k.name (given name count) = k.render (given name count) :=
  k.render_of_gives (k.gives_given name count)

/-- A template begins with a letter that begins no object text. -/
theorem read?_rowsText (w c : Word) :
    Json.read? (rowsText (Block.entriesRows 1 0 (k.outline image amount w c))) = none := by
  rw [entriesRows_outline]
  exact read?_of_head

section

variable {es : Entries} {w c : Word} {count : Int}

/-- The **document that is generated** is that of the text of the outline. -/
theorem generate_of_gives (hes : k.Gives es image amount w.string count)
    (hc : c.string = Value.intText count) (hcount : (Value.int count).isWritable) :
    generate k.name es
      = .ok (((read (rowsText (Block.entriesRows 1 0 (k.outline image amount w c)))).mapError
          StackError.ofFault).bind Document.ofData) := by
  obtain ⟨s, hs, htext⟩ := k.exists_text hes hc hcount
  simp only [generate, k.render_of_gives hes, hs, htext, bind, Except.bind, Document.parse,
    Source.plainData, textData, read?_rowsText]
  rfl

theorem generate_eq (hc : c.string = Value.intText count) (hcount : (Value.int count).isWritable) :
    generate k.name (given w.string count)
      = .ok (((read (rowsText (Block.entriesRows 1 0
          (k.outline k.parts.image k.parts.amount w c)))).mapError
            StackError.ofFault).bind Document.ofData) :=
  k.generate_of_gives (k.gives_given w.string count) hc hcount

/-- With a name that is **short enough** and can be a key, the document is that of the data of the
outline. -/
theorem generate_of_short (hes : k.Gives es image amount w.string count)
    (hc : c.string = Value.intText count) (hpos : 0 < count)
    (hcount : (Value.int count).isWritable) (hshort : w.chars.length ≤ 1024)
    (hw : IsPlainData w.string ∧ plainTag w.string ≠ Tag.merge ∧ plainTag w.string ≠ Tag.value ∧
      (plainData w.string).isHashable) :
    generate k.name es
      = .ok (Document.ofData ((Block.entries (k.outline image amount w c)).value 1)) := by
  have hdata : IsPlainData c.string := hc ▸ (isPlainData_intText hpos hcount).1
  rw [k.generate_of_gives hes hc hcount,
    read_rowsText (k.isWritable_outline hshort) (k.readable_outline hw hdata)]
  rfl

end

variable {w c : Word} {count : Int}

/-! ### Names that are too long -/

/-- The tokens of a template up to its name. -/
def tokensBefore : List Token :=
  [.blockMappingStart, .key, .scalar "version" true, .value, .scalar "2.0" false, .key,
    .scalar "services" true, .value]

/-- After a name that is not followed by its colon, the reading of the entries goes no further. -/
theorem run_tokensBefore (w : Word) :
    (Stream.document 40).run
        { tokens := tokensBefore ++ [w.token], fault := some .markup, handles := [], named := [],
          next := 1 }
      = .error .markup := by
  rfl

theorem exists_entriesRows_outline (w c : Word) :
    ∃ later, Block.entriesRows 1 0 (k.outline image amount w c)
      = versionRow :: ([nameRow 1 0 (word "services")] ++ nameRow 0 2 w :: later) :=
  ⟨_, k.entriesRows_outline image amount w c⟩

/-- A name that is **too long** for a key leaves the text unread. -/
theorem read_of_long (hlong : 1024 < w.chars.length) :
    read (rowsText (Block.entriesRows 1 0 (k.outline image amount w c))) = .error .markup := by
  obtain ⟨later, hrows⟩ := k.exists_entriesRows_outline w c
  have hbefore : rowsBefore? (nameRow 0 2 w) [] [versionRow, nameRow 1 0 (word "services")]
      = some (tokensBefore, [0]) := rfl
  have htokens : tokens (rowsText
        (versionRow :: ([nameRow 1 0 (word "services")] ++ nameRow 0 2 w :: later)))
      = (tokensBefore ++ [w.token], some .markup) :=
    tokens_rowsText_of_long rfl hbefore hlong
  have hnode : Node.read (rowsText
        (versionRow :: ([nameRow 1 0 (word "services")] ++ nameRow 0 2 w :: later)))
      = .error .markup := by
    rw [Node.read, htokens]
    change Except.bind ((Stream.document 40).run _) _ = _
    rw [run_tokensBefore]
    rfl
  rw [hrows, Yaml.read, hnode]
  rfl

/-! ### Names that stand for something else -/

/-- A mapping with **one name** that is read has a key that is a name, and a value that is read. -/
theorem exists_of_read_single {α : Type} {read : Value → Checked α} {depth : Nat} {l : Label}
    {key x : Value} {t : Table α}
    (h : (normalize (depth + 1) (.map l [(key, x)])).bind (tableOf read) = .ok t) :
    (∃ name, keyName key = .ok name) ∧ ∃ y a, normalize depth x = .ok y ∧ read y = .ok a := by
  obtain ⟨v, hv, ht⟩ := Checked.bind_eq_ok_iff.mp h
  obtain ⟨fs, hfs, rfl⟩ := Checked.map_eq_ok_iff.mp hv
  obtain ⟨gs, hgs, rfl⟩ := renameKeys_eq_ok_iff.mp hfs
  obtain ⟨g, _, ⟨hkey, hx⟩, hnil, rfl⟩ := List.forall₂_cons_left_iff.mp hgs
  obtain rfl := List.forall₂_nil_left_iff.mp hnil
  obtain ⟨xs, hxs, -⟩ := tableOf_eq_ok_iff.mp ht
  obtain ⟨a, _, ⟨hname, ha⟩, -, -⟩ := List.forall₂_cons_left_iff.mp hxs
  exact ⟨⟨a.1, keyName_eq_ok_iff.mpr ⟨g.1, hkey, hname⟩⟩, g.2, a.2, hx, ha⟩

/-- A document that the data of an outline is read as needs a name that is **one as a key and as a
reference**. -/
theorem exists_named_of_ofData {d : Document}
    (h : Document.ofData ((Block.entries (k.outline image amount w c)).value 1) = .ok d) :
    (∃ name, keyName (plainData w.string) = .ok name) ∧
      ∃ p, Scalar.optional Scalar.named (plainData w.string) = .ok p := by
  have hrecord := Block.isRecord_of_names (k.outline image amount w c)
    ["version", "services", "profiles", "deployment"] (by simp [Block.names, outline]) (by decide)
  have hentry := Block.isRecord_of_names (deploymentOutline w c)
    ["profile", "count"] (by simp [Block.names, deploymentOutline]) (by decide)
  rw [Block.value_record hrecord] at h
  simp only [outline, Block.fields, string_word, value_quoted] at h
  obtain ⟨-, -, -, -, hread⟩ := ofData_eq_ok_iff.mp h
  obtain ⟨-, -, -, hdeployment, -⟩ := Document.read_eq_ok_iff.mp hread
  rw [Fields.read_of_get? rfl, Checked.inside_eq_ok_iff, value_single, value_single] at hdeployment
  obtain ⟨hkey, y, t, hy, ht⟩ := exists_of_read_single hdeployment
  obtain ⟨-, z, e, hz, he⟩ := exists_of_read_single (Checked.bind_eq_ok_iff.mpr ⟨y, hy, ht⟩)
  obtain rfl := Checked.ok.inj ((Block.normalize_record hentry _).symm.trans hz)
  rw [Block.value_record hentry] at he
  simp only [deploymentOutline, Block.fields, string_word, Block.value, RowScalar.isPlain,
    RowScalar.string, if_true] at he
  obtain ⟨hprofile, -, -⟩ := DeploymentEntry.read_eq_ok_iff.mp he
  rw [Fields.read_of_get? rfl, Checked.inside_eq_ok_iff] at hprofile
  exact ⟨hkey, e.profile, hprofile⟩

/-- What a **reserved word** stands for, wherever it stands. -/
theorem exists_plainData_of_reserved {s : String} (hs : s ∈ reservedWords) :
    IsPlainData s ∧ (plainTag s ≠ Tag.merge ∧ plainTag s ≠ Tag.value) ∧
      (plainData s = .null ∨ ∃ b, plainData s = .bool b) := by
  simp only [reservedWords, List.mem_cons, List.not_mem_nil, or_false] at hs
  rcases hs with rfl | rfl | rfl | rfl | rfl | rfl | rfl
  · exact ⟨fun _ => rfl, by decide, .inr ⟨true, rfl⟩⟩
  · exact ⟨fun _ => rfl, by decide, .inr ⟨false, rfl⟩⟩
  · exact ⟨fun _ => rfl, by decide, .inr ⟨true, rfl⟩⟩
  · exact ⟨fun _ => rfl, by decide, .inr ⟨false, rfl⟩⟩
  · exact ⟨fun _ => rfl, by decide, .inr ⟨true, rfl⟩⟩
  · exact ⟨fun _ => rfl, by decide, .inr ⟨false, rfl⟩⟩
  · exact ⟨fun _ => rfl, by decide, .inl rfl⟩

/-- A **reserved word** can be a key, but is no name. -/
theorem generate_of_reserved {d : Document} (hc : c.string = Value.intText count) (hpos : 0 < count)
    (hcount : (Value.int count).isWritable) (hshort : w.chars.length ≤ 1024)
    (hw : w.string ∈ reservedWords) : generate k.name (given w.string count) ≠ .ok (.ok d) := by
  obtain ⟨hplain, ⟨hmerge, hvalue⟩, hdata⟩ := exists_plainData_of_reserved hw
  have hhash : (plainData w.string).isHashable := by
    rcases hdata with h | ⟨b, h⟩ <;> rw [h] <;> rfl
  rw [k.generate_of_short (k.gives_given w.string count) hc hpos hcount hshort
    ⟨hplain, hmerge, hvalue, hhash⟩]
  intro h
  obtain ⟨⟨name, hkey⟩, p, hprofile⟩ := k.exists_named_of_ofData (Except.ok.inj h)
  rcases hdata with h | ⟨b, h⟩
  · rw [h] at hkey
    cases hkey
  · rw [h] at hprofile
    cases hprofile

end TemplateKind

/-! ### The documents of templates -/

/-- What a document is that **deploys a single service**: the service, its profile, its price and its
deployment have the name, the document is reported without errors and warnings, and it is compiled
to one group with the name and the count. -/
structure Document.DeploysOnly (d : Document) (name : String) (count : Int) : Prop where
  services : d.services.keys = [name]
  compute : d.computeProfiles.keys = [name]
  pricing : (d.placementProfiles.toList.flatMap fun p => p.2.pricing.keys) = [name]
  deployment : d.deployment.keys = [name]
  report : d.validate = .ok .empty
  group : ∃ g, d.compile = .ok [g] ∧ g.name = name ∧ g.count = .int count

/-- The stack of a template deploys a single service. -/
theorem TemplateKind.deploysOnly_stack (k : TemplateKind) {name : String} {count : Int}
    (hname : name ≠ "") (hcount : 0 < count) : (k.stack name count).DeploysOnly name count where
  services := rfl
  compute := rfl
  pricing := rfl
  deployment := rfl
  report := k.validate_stack hname hcount
  group := k.compile_stack hname hcount

/-- With a name that is **no reserved word** and short enough for a key, a template generates the
stack of its kind, with the image and the amount that are read back. -/
theorem TemplateKind.generate_eq_stackWith (k : TemplateKind) {es : Entries}
    {image amount name : String} {count : Int} (hes : k.Gives es image amount name count)
    (hname : isServiceName name) (hcount : 0 < count) (hmem : name ∉ reservedWords)
    (hshort : name.length ≤ 1024) (hwritable : (Value.int count).isWritable) :
    generate k.name es
      = .ok (.ok (k.stackWith (readBack image) (readBack amount) name count)) := by
  let w : Word := ⟨name.toList, isWord_of_isServiceName hname⟩
  let c : Word := ⟨(Value.intText count).toList, isWord_intText hcount⟩
  have hw : w.string = name := String.ofList_toList
  have hc : c.string = Value.intText count := String.ofList_toList
  have hstr : plainTag w.string = Tag.str := by
    rw [hw]
    exact (plainTag_eq_str_iff hname).mpr hmem
  have hdata : plainData w.string = .text name := by
    rw [(isPlainData_of_tag_str hstr).2, hw]
  have hnumber : plainData c.string = .int count := by
    rw [hc]
    exact (isPlainData_intText hcount hwritable).2
  have hchars : w.chars.length ≤ 1024 := by
    rw [String.length_toList]
    exact hshort
  rw [← hw] at hes
  rw [k.generate_of_short hes hc hcount hwritable hchars (Block.readable_key hstr),
    k.ofData_outline image amount hdata hnumber]

/-- The **usual** image and amount of a template are read back as they are. -/
theorem TemplateKind.readBack_usual (k : TemplateKind) :
    readBack k.parts.image = k.parts.image ∧ readBack k.parts.amount = k.parts.amount := by
  cases k <;> exact ⟨readBack_of_all (by decide), readBack_of_all (by decide)⟩

theorem TemplateKind.generate_eq_stack (k : TemplateKind) {name : String} {count : Int}
    (hname : isServiceName name) (hcount : 0 < count) (hmem : name ∉ reservedWords)
    (hshort : name.length ≤ 1024) (hwritable : (Value.int count).isWritable) :
    generate k.name (given name count) = .ok (.ok (k.stack name count)) := by
  rw [k.generate_eq_stackWith (k.gives_given name count) hname hcount hmem hshort hwritable,
    k.readBack_usual.1, k.readBack_usual.2, k.stackWith_usual]

/-- A template generates a document that **deploys a single service** with the name that is given
exactly if the name stands for itself, is short enough for a key, and the count can be written. -/
theorem TemplateKind.exists_generate_iff (k : TemplateKind) {name : String} {count : Int}
    (hname : isServiceName name) (hcount : 0 < count) :
    (∃ d, generate k.name (given name count) = .ok (.ok d) ∧ d.DeploysOnly name count) ↔
      name ∉ reservedWords ∧ name.length ≤ 1024 ∧ (Value.int count).isWritable := by
  constructor
  · rintro ⟨d, hd, -⟩
    let w : Word := ⟨name.toList, isWord_of_isServiceName hname⟩
    let c : Word := ⟨(Value.intText count).toList, isWord_intText hcount⟩
    have hw : w.string = name := String.ofList_toList
    have hc : c.string = Value.intText count := String.ofList_toList
    have hlength : w.string.length = w.chars.length := String.length_ofList
    rw [← hw] at hd
    rw [← hw, hlength]
    have hwritable : (Value.int count).isWritable := by
      obtain ⟨s, hs, -⟩ := bind_eq_ok_iff.mp hd
      rw [k.render_given] at hs
      exact k.isWritable_of_text hs
    have hshort : w.chars.length ≤ 1024 := by
      by_contra hlong
      rw [k.generate_eq hc hwritable, k.read_of_long (Nat.lt_of_not_le hlong)] at hd
      cases hd
    exact ⟨fun hmem => k.generate_of_reserved hc hcount hwritable hshort hmem hd,
      hshort, hwritable⟩
  · rintro ⟨hmem, hshort, hwritable⟩
    have hne : name ≠ "" := by
      rintro rfl
      exact absurd hname (by decide)
    exact ⟨_, k.generate_eq_stack hname hcount hmem hshort hwritable, k.deploysOnly_stack hne hcount⟩

/-- The first template with its usual name. -/
theorem TemplateKind.exists_generate_web :
    isServiceName "web" ∧ (0 : Int) < 1 ∧
      ∃ d, generate "web-app" (given "web" 1) = .ok (.ok d) ∧ d.DeploysOnly "web" 1 :=
  ⟨by decide, by decide, (webApp.exists_generate_iff (by decide) (by decide)).mpr
    ⟨by decide, by decide, by cbv⟩⟩

/-- The first template with a **truth value** for a name gives no document. -/
theorem TemplateKind.not_generate_true :
    isServiceName "true" ∧ (0 : Int) < 1 ∧
      ¬ ∃ d, generate "web-app" (given "true" 1) = .ok (.ok d) ∧ d.DeploysOnly "true" 1 := by
  refine ⟨by decide, by decide, ?_⟩
  rintro ⟨d, hd, -⟩
  exact webApp.generate_of_reserved (w := ⟨"true".toList, by decide⟩)
    (c := ⟨"1".toList, by decide⟩) (by decide) (by decide) (by cbv) (by decide)
    (by decide) hd

end StackManifest
