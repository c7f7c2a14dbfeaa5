import StackManifest.Proofs.Markup.Layout
import StackManifest.Proofs.Markup.Words
import StackManifest.Proofs.Reading.Fields
import StackManifest.Proofs.Templates.Glyphs
import StackManifest.Proofs.Traversal

/-!
# The outlines of templates

The text of a template is that of a tree, its outline, which has the name in five places, and the
image, the amount and the count in one place each. The image and the amount stand there by their
glyphs.

* `TemplateKind.outline` – the **outline** of a kind of templates;
* `TemplateKind.Gives` – which image, amount, name and count come of the values that are given;
* `TemplateKind.exists_text` – the text of a template is that of its outline.
-/

namespace StackManifest

open Yaml

/-! ### Outlines -/

/-- A word that is written out. -/
def word (s : String) (ok : isWord s.toList = true := by decide) : Word := ⟨s.toList, ok⟩

/-- A plain scalar that is written out. -/
def plain (s : String) (ok : isWord s.toList = true := by decide) : Block :=
  .scalar (.plain (word s ok))

/-- A text between quotes. -/
def quoted (s : String) : Block := .scalar (.quoted (glyphs s))

namespace TemplateKind

/-- An open port, for everybody. -/
def publicPortBlock (port : Block) : Block :=
  .items [.entries [(word "port", port), (word "as", plain "80"), (word "proto", plain "TCP"),
    (word "to", .items [.entries [(word "global", plain "true")]])]]

/-- The entries of the service after its image. -/
def serviceRest : TemplateKind → List (Word × Block)
  | .webApp => [(word "expose", publicPortBlock (plain "80"))]
  | .apiServer =>
    [(word "env", .items [plain "NODE_ENV=production", plain "PORT=3000"]),
     (word "expose", publicPortBlock (plain "3000"))]
  | .database =>
    [(word "env", .items [plain "POSTGRES_DB=myapp", plain "POSTGRES_USER=user",
       plain "POSTGRES_PASSWORD=password"]),
     (word "expose", .items [.entries [(word "port", plain "5432"), (word "proto", plain "TCP")]])]
  | .worker =>
    [(word "command", .items [plain "python", plain "worker.py"]),
     (word "env", .items [plain "WORKER_CONCURRENCY=4"])]

/-- The entries of the service, with an image. -/
def serviceOutline (k : TemplateKind) (image : String) : List (Word × Block) :=
  (word "image", quoted image) :: k.serviceRest

/-- The volume of the compute profile. -/
def volumeOutline : TemplateKind → List (Word × Block)
  | .webApp => [(word "size", plain "1Gi")]
  | .apiServer => [(word "size", plain "2Gi")]
  | .database =>
    [(word "name", plain "data"), (word "size", plain "10Gi"),
     (word "attributes", .entries [(word "class", plain "persistent")])]
  | .worker => [(word "size", plain "5Gi")]

/-- The processors of the compute profile. -/
def cpuOutline : TemplateKind → Block
  | .webApp => quoted "0.1"
  | .apiServer => quoted "0.25"
  | .database => quoted "0.5"
  | .worker => quoted "1.0"

/-- The memory of the compute profile. -/
def memoryOutline : TemplateKind → Block
  | .webApp => plain "512Mi"
  | .apiServer => plain "1Gi"
  | .database => plain "2Gi"
  | .worker => plain "4Gi"

/-- The resources of the compute profile. -/
def resourcesOutline (k : TemplateKind) : List (Word × Block) :=
  [(word "cpu", .entries [(word "units", k.cpuOutline)]),
   (word "memory", .entries [(word "size", k.memoryOutline)]),
   (word "storage", .items [.entries k.volumeOutline])]

/-- The attributes of the placement. -/
def attributesOutline : TemplateKind → List (Word × Block)
  | .database => [(word "host", plain "akash"), (word "datacenter", quoted "true")]
  | _ => [(word "host", plain "akash")]

/-- Who must have signed a provider, where the placement says it. -/
def signedOutline : TemplateKind → List (Word × Block)
  | .webApp =>
    [(word "signedBy", .entries
       [(word "anyOf", .items [plain "akash1365yvmc4s7awdyj3n2sav7xfx76adc6dnmlx63"])])]
  | _ => []

/-- The price, with an amount. -/
def priceOutline (amount : String) : List (Word × Block) :=
  [(word "denom", plain "uakt"), (word "amount", quoted amount)]

/-- The placement, with a price under a name. -/
def placementOutline (k : TemplateKind) (amount : String) (name : Word) : List (Word × Block) :=
  (word "attributes", .entries k.attributesOutline)
    :: (k.signedOutline ++ [(word "pricing", .entries [(name, .entries (priceOutline amount))])])

/-- The only deployment of a service, with a profile under a name. -/
def deploymentOutline (name count : Word) : List (Word × Block) :=
  [(word "profile", .scalar (.plain name)), (word "count", .scalar (.plain count))]

/-- The **outline** of a template, for an image, an amount, a name and a count. -/
def outline (k : TemplateKind) (image amount : String) (name count : Word) : List (Word × Block) :=
  [(word "version", quoted "2.0"),
   (word "services", .entries [(name, .entries (k.serviceOutline image))]),
   (word "profiles", .entries
     [(word "compute", .entries
        [(name, .entries [(word "resources", .entries k.resourcesOutline)])]),
      (word "placement", .entries
        [(word "datacenter", .entries (k.placementOutline amount name))])]),
   (word "deployment", .entries
     [(name, .entries [(word "datacenter", .entries (deploymentOutline name count))])])]

/-! ### The lines of a template -/

/-- The text of the port. -/
def portText : TemplateKind → String
  | .webApp => "80"
  | .apiServer => "3000"
  | .database => "5432"
  | .worker => "None"

/-- What stands at a **place** that is written as it is, for a name and a count. -/
def plainPlace (k : TemplateKind) (name count : List Char) : String → List Char
  | "version" => "2.0".toList
  | "name" => name
  | "port" => k.portText.toList
  | "denom" => "uakt".toList
  | "count" => count
  | _ => []

/-- What a page has for an object text. -/
def objectText (s : String) : List Char := '"' :: ((glyphs s).flatMap Glyph.text ++ ['"'])

/-- What stands at a place that is written as an object text. -/
def objectPlace (image amount : String) : String → List Char
  | "image" => objectText image
  | "amount" => objectText amount
  | _ => []

/-- What a **piece** becomes, for an image, an amount, a name and a count. -/
def pieceChars (k : TemplateKind) (image amount : String) (name count : List Char) :
    Piece → List Char
  | .text s => s.toList
  | .plain p => k.plainPlace name count p
  | .object p => objectPlace image amount p

/-- The lines of a template, for an image, an amount, a name and a count. -/
def linesChars (k : TemplateKind) (image amount : String) (name count : List Char)
    (ls : List Line) : List (List Char) :=
  ls.map fun l => l.flatMap (k.pieceChars image amount name count)

variable (k : TemplateKind) (image amount : String) (name count : Word)

theorem linesChars_service :
    k.linesChars image amount name.chars count.chars
        ([.text "    image: ", .object "image"] :: k.parts.service)
      = rowLines (Block.entriesRows 0 4 (k.serviceOutline image)) := by
  cases k <;>
    simp [linesChars, parts, fixed, publicPort, pieceChars, plainPlace, portText, objectPlace,
      objectText, serviceOutline, serviceRest, publicPortBlock, plain, quoted, word,
      Block.entriesRows, Block.rows, Block.scalar?, Block.itemsRows, Block.itemRows,
      Block.itemEntriesRows, rowLines, Row.lines, Row.text, RowBody.text, valueText,
      RowScalar.text]

theorem linesChars_volumes :
    k.linesChars image amount name.chars count.chars k.parts.volumes
      = rowLines (Block.itemEntriesRows 10 k.volumeOutline) := by
  cases k <;>
    simp [linesChars, parts, fixed, pieceChars, volumeOutline, plain, word, Block.entriesRows,
      Block.rows, Block.scalar?, Block.itemEntriesRows, rowLines, Row.lines, Row.text, RowBody.text,
      valueText, RowScalar.text]

theorem linesChars_attributes :
    k.linesChars image amount name.chars count.chars
        ([fixed "      attributes:", fixed "        host: akash"] ++ k.parts.attributes)
      = rowLines (Block.entriesRows 0 6
          ((word "attributes", .entries k.attributesOutline) :: k.signedOutline)) := by
  cases k <;>
    simp (disch := decide) [linesChars, parts, fixed, pieceChars, attributesOutline, signedOutline,
      plain, quoted, word, Block.entriesRows, Block.rows, Block.scalar?, Block.itemsRows,
      Block.itemRows, rowLines, Row.lines, Row.text, RowBody.text, valueText, RowScalar.text,
      flatMap_text_glyphs]

theorem linesChars_quantities :
    k.linesChars image amount name.chars count.chars
        [fixed "        cpu:", fixed s!"          units: \"{k.parts.cpu}\"",
         fixed "        memory:", fixed s!"          size: {k.parts.memory}"]
      = rowLines (Block.entriesRows 0 8
          [(word "cpu", .entries [(word "units", k.cpuOutline)]),
           (word "memory", .entries [(word "size", k.memoryOutline)])]) := by
  cases k <;>
    simp (disch := decide) [linesChars, parts, fixed, pieceChars, cpuOutline, memoryOutline, plain,
      quoted, word, Block.entriesRows, Block.rows, Block.scalar?, rowLines, Row.lines, Row.text,
      RowBody.text, valueText, RowScalar.text, toString, flatMap_text_glyphs]

theorem linesChars_price :
    k.linesChars image amount name.chars count.chars
        [[.text "          denom: ", .plain "denom"],
         [.text "          amount: ", .object "amount"]]
      = rowLines (Block.entriesRows 0 10 (priceOutline amount)) := by
  simp [linesChars, pieceChars, plainPlace, objectPlace, objectText, priceOutline, plain, quoted,
    word, Block.entriesRows, Block.rows, Block.scalar?, rowLines, Row.lines, Row.text, RowBody.text,
    valueText, RowScalar.text]

/-- A row with a name and nothing after it. -/
def nameRow (gap indent : Nat) (name : Word) : Row := ⟨gap, indent, .field false name none⟩

/-- The first row of a template. -/
def versionRow : Row :=
  ⟨1, 0, .field false (word "version") (some (.quoted (glyphs "2.0")))⟩

theorem entriesRows_outline :
    Block.entriesRows 1 0 (k.outline image amount name count) =
      versionRow :: nameRow 1 0 (word "services") :: nameRow 0 2 name
        :: (Block.entriesRows 0 4 (k.serviceOutline image)
          ++ nameRow 1 0 (word "profiles") :: nameRow 0 2 (word "compute") :: nameRow 0 4 name
            :: nameRow 0 6 (word "resources")
            :: (Block.entriesRows 0 8
                [(word "cpu", .entries [(word "units", k.cpuOutline)]),
                 (word "memory", .entries [(word "size", k.memoryOutline)])]
              ++ nameRow 0 8 (word "storage") :: (Block.itemEntriesRows 10 k.volumeOutline
              ++ nameRow 0 2 (word "placement") :: nameRow 0 4 (word "datacenter")
                :: (Block.entriesRows 0 6
                  ((word "attributes", .entries k.attributesOutline) :: k.signedOutline)
              ++ nameRow 0 6 (word "pricing") :: nameRow 0 8 name
                :: (Block.entriesRows 0 10 (priceOutline amount)
              ++ [nameRow 1 0 (word "deployment"), nameRow 0 2 name, nameRow 0 4 (word "datacenter"),
                  ⟨0, 6, .field false (word "profile") (some (.plain name))⟩,
                  ⟨0, 6, .field false (word "count") (some (.plain count))⟩]))))) := by
  simp [outline, resourcesOutline, placementOutline, deploymentOutline, Block.entriesRows,
    Block.rows, Block.itemsRows, Block.itemRows, Block.scalar?, entriesRows_append, versionRow, nameRow,
    quoted]

theorem linesChars_append (ls ms : List Line) (cs ds : List Char) :
    k.linesChars image amount cs ds (ls ++ ms)
      = k.linesChars image amount cs ds ls ++ k.linesChars image amount cs ds ms :=
  List.map_append

theorem lines_eq :
    k.lines =
      [[.text "version: \"", .plain "version", .text "\""], [], fixed "services:", nameLine "  "]
        ++ ([.text "    image: ", .object "image"] :: k.parts.service)
        ++ [[], fixed "profiles:", fixed "  compute:", nameLine "    ", fixed "      resources:"]
        ++ [fixed "        cpu:", fixed s!"          units: \"{k.parts.cpu}\"",
            fixed "        memory:", fixed s!"          size: {k.parts.memory}"]
        ++ [fixed "        storage:"] ++ k.parts.volumes
        ++ [fixed "  placement:", fixed "    datacenter:"]
        ++ ([fixed "      attributes:", fixed "        host: akash"] ++ k.parts.attributes)
        ++ [fixed "      pricing:", nameLine "        "]
        ++ [[.text "          denom: ", .plain "denom"],
            [.text "          amount: ", .object "amount"]]
        ++ [[], fixed "deployment:", nameLine "  ",
            fixed "    datacenter:", [.text "      profile: ", .plain "name"],
            [.text "      count: ", .plain "count"]] := by
  simp [lines]

theorem linesChars_lines :
    k.linesChars image amount name.chars count.chars k.lines
      = (rowLines (Block.entriesRows 1 0 (k.outline image amount name count))).drop 1 := by
  rw [lines_eq, entriesRows_outline]
  rw [linesChars_append, linesChars_append, linesChars_append, linesChars_append, linesChars_append,
    linesChars_append, linesChars_append, linesChars_append, linesChars_append, linesChars_append,
    linesChars_service, linesChars_volumes, linesChars_attributes, linesChars_quantities,
    linesChars_price]
  simp (disch := decide) [linesChars, rowLines, Row.lines, versionRow, nameRow, Row.text,
    RowBody.text, nameLine, fixed, pieceChars, plainPlace, valueText, RowScalar.text, word,
    flatMap_text_glyphs]

/-! ### The values for the places -/

/-- The **values** that are given for a template: a name and a count. -/
def given (name : String) (count : Int) : Entries :=
  [(.text "name", .text name), (.text "count", .int count)]

/-- The values that are given for a template: an image and an **amount**. -/
def givenTexts (image amount : String) : Entries :=
  [(.text "image", .text image), (.text "amount", .text amount)]

/-- The values for the places, among them an image, an amount, a name and a count. -/
def placeValues (k : TemplateKind) (image amount name : String) (count : Int) : Entries :=
  [(.text "version", .text "2.0"), (.text "denom", .text "uakt"), (.text "name", .text name),
   (.text "image", .text image), (.text "port", k.parts.port), (.text "count", .int count),
   (.text "amount", .text amount)]

/-- The values that are given have names of their own, and **come to** an image, an amount, a name
and a count. -/
structure Gives (k : TemplateKind) (es : Entries) (image amount name : String) (count : Int) :
    Prop where
  names : checkNames es = .ok ()
  context : k.context es = k.placeValues image amount name count

theorem gives_given (name : String) (count : Int) :
    k.Gives (given name count) k.parts.image k.parts.amount name count where
  names := rfl
  context := by
    simp [TemplateKind.context, given, defaults, placeValues, Document.defaultVersion, Entries.put,
      Value.eqv_text_iff, Value.isNull]

theorem gives_givenTexts :
    k.Gives (givenTexts image amount) image amount k.parts.name k.parts.count where
  names := rfl
  context := by
    simp [TemplateKind.context, givenTexts, defaults, placeValues, Document.defaultVersion,
      Entries.put, Value.eqv_text_iff, Value.isNull]

/-! ### The text of a template -/

/-- Whether a piece has one of the places of a template. -/
def isKnown : Piece → Bool
  | .text _ => true
  | .plain p => ["version", "name", "port", "denom", "count"].contains p
  | .object p => ["image", "amount"].contains p

theorem isKnown_lines : k.lines.all (·.all isKnown) = true := by
  cases k <;> rfl

section

variable (name : String) {count : Int}

/-- A **piece is rendered** when the count can be written. -/
theorem exists_render_piece {p : Piece} (hw : (Value.int count).isWritable) (hp : isKnown p) :
    ∃ s, p.render (k.placeValues image amount name count) = .ok s ∧
      s.toList = k.pieceChars image amount name.toList (Value.intText count).toList p := by
  cases p with
  | text s => exact ⟨s, rfl, rfl⟩
  | plain p =>
    simp only [isKnown, List.contains_iff_mem, List.mem_cons, List.not_mem_nil, or_false] at hp
    rcases hp with rfl | rfl | rfl | rfl | rfl
    · exact ⟨_, rfl, rfl⟩
    · exact ⟨_, rfl, rfl⟩
    · have hport : k.parts.port.toText = .ok k.portText := by cases k <;> decide +kernel
      exact ⟨_, hport, rfl⟩
    · exact ⟨_, rfl, rfl⟩
    · exact ⟨_, if_pos hw, rfl⟩
  | object p =>
    simp only [isKnown, List.contains_iff_mem, List.mem_cons, List.not_mem_nil, or_false] at hp
    rcases hp with rfl | rfl
    · exact ⟨_, rfl, String.toList_ofList.trans (text_glyphs image)⟩
    · exact ⟨_, rfl, String.toList_ofList.trans (text_glyphs amount)⟩

/-- What a **line** becomes. -/
def renderLine (context : Entries) (l : Line) : Except Fault String := do
  return String.join (← l.mapM (·.render context))

theorem exists_renderLine {l : Line} (hw : (Value.int count).isWritable) (hl : l.all isKnown) :
    ∃ s, renderLine (k.placeValues image amount name count) l = .ok s ∧
      s.toList
        = l.flatMap (k.pieceChars image amount name.toList (Value.intText count).toList) := by
  obtain ⟨ss, hss, hrel⟩ := exists_mapM_eq_ok fun p hp =>
    k.exists_render_piece image amount name hw (List.all_eq_true.mp hl p hp)
  refine ⟨String.join ss, bind_eq_ok_iff.mpr ⟨ss, hss, rfl⟩, ?_⟩
  rw [String.toList_join, List.flatMap_def, List.flatMap_def,
    map_eq_map_of_forall₂ (fun p s h => h.symm) hrel]

end

variable {image amount}

/-- The **text of a template** is that of its outline. -/
theorem exists_text {es : Entries} {w c : Word} {count : Int}
    (hes : k.Gives es image amount w.string count) (hc : c.string = Value.intText count)
    (hw : (Value.int count).isWritable) :
    ∃ s, (k.render es).text = .ok s ∧
      s.toList = rowsText (Block.entriesRows 1 0 (k.outline image amount w c)) := by
  obtain ⟨ss, hss, hrel⟩ := exists_mapM_eq_ok fun l hl =>
    k.exists_renderLine image amount w.string hw (List.all_eq_true.mp k.isKnown_lines l hl)
  rw [← hes.context] at hss
  refine ⟨"\n".intercalate ss, bind_eq_ok_iff.mpr ⟨ss, hss, rfl⟩, ?_⟩
  have hlines := map_eq_map_of_forall₂ (fun l s h => h.symm) hrel
  rw [← hc, Word.string, String.toList_ofList, Word.string, String.toList_ofList] at hlines
  rw [String.toList_intercalate, ← hlines]
  have := k.linesChars_lines image amount w c
  rw [linesChars] at this
  rw [this, entriesRows_outline, rowsText_cons rfl]
  rfl

/-- A template is rendered **only if the count can be written**. -/
theorem isWritable_of_text {name s : String} {count : Int}
    (h : (k.render (given name count)).text = .ok s) : (Value.int count).isWritable := by
  obtain ⟨ss, hss, -⟩ := bind_eq_ok_iff.mp h
  have hline : [.text "      count: ", .plain "count"] ∈ k.lines := by simp [lines]
  obtain ⟨cs, -, hcs⟩ := exists_of_mem_forall₂ (mapM_eq_ok_iff.mp hss).flip hline
  obtain ⟨ps, hps, -⟩ := bind_eq_ok_iff.mp hcs
  obtain ⟨p, -, hp⟩ := exists_of_mem_forall₂ (mapM_eq_ok_iff.mp hps).flip
    (List.mem_cons_of_mem _ List.mem_cons_self)
  rw [Piece.render, (k.gives_given name count).context] at hp
  exact (Value.toText_eq_ok_iff.mp hp).1

end TemplateKind

end StackManifest
