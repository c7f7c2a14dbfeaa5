import StackManifest.Proofs.Markup.Records
import StackManifest.Proofs.Reading.Parts
import StackManifest.Proofs.Tables
import StackManifest.Proofs.Templates.Outline

/-!
# The stacks of templates

What the outline of a template says is a document with one service, which is deployed once.

* `TemplateKind.stack` – the **document** of a template, for a name and a count;
* `TemplateKind.stackWith` – the same document with another image and another **amount**;
* `TemplateKind.ofData_outline` – the data of the outline is read as this document, with the image
  and the amount that are read back.
-/

namespace StackManifest

open Yaml

namespace TemplateKind

/-! ### The parts of the document -/

/-- A port that is open for everybody. -/
def publicRule (port : Int) : ExposeRule :=
  { port := some port, externalPort := some 80, protocol := some "TCP",
    targets := [{ service := none, isGlobal := some true, extra := .empty }], extra := .empty }

/-- The service of a template. -/
def service : TemplateKind → Service
  | .webApp =>
    { image := some "nginx:latest", expose := [publicRule 80], env := [], command := none,
      args := none, extra := .empty }
  | .apiServer =>
    { image := some "node:18-alpine", expose := [publicRule 3000],
      env := ["NODE_ENV=production", "PORT=3000"], command := none, args := none,
      extra := .empty }
  | .database =>
    { image := some "postgres:15",
      expose := [{ port := some 5432, externalPort := none, protocol := some "TCP", targets := [],
                   extra := .empty }],
      env := ["POSTGRES_DB=myapp", "POSTGRES_USER=user", "POSTGRES_PASSWORD=password"],
      command := none, args := none, extra := .empty }
  | .worker =>
    { image := some "python:3.11-slim", expose := [], env := ["WORKER_CONCURRENCY=4"],
      command := some ["python", "worker.py"], args := none, extra := .empty }

/-- The volume of a template. -/
def volume : TemplateKind → StorageVolume
  | .webApp => { name := none, size := some "1Gi", attributes := .empty, extra := .empty }
  | .apiServer => { name := none, size := some "2Gi", attributes := .empty, extra := .empty }
  | .database =>
    { name := some "data", size := some "10Gi", attributes := .single "class" (.text "persistent"),
      extra := .empty }
  | .worker => { name := none, size := some "5Gi", attributes := .empty, extra := .empty }

/-- The resources of a template. -/
def resources (k : TemplateKind) : Resources :=
  { cpu := some { units := some k.parts.cpu, extra := .empty },
    memory := some { size := some k.parts.memory, extra := .empty },
    storage := [k.volume], extra := .empty }

/-- The compute profile of a template. -/
def computeProfile (k : TemplateKind) : ComputeProfile :=
  { resources := some k.resources, extra := .empty }

/-- The price of a template. -/
def price (k : TemplateKind) : Price :=
  { denom := some "uakt", amount := some k.parts.amount, extra := .empty }

/-- The attributes of the placement of a template. -/
def attributes : TemplateKind → Table String
  | .database => ⟨[("host", "akash"), ("datacenter", "true")], by decide⟩
  | _ => .single "host" "akash"

/-- Who must have signed a provider. -/
def signedBy : TemplateKind → Option SignedBy
  | .webApp =>
    some { allOf := [], anyOf := ["akash1365yvmc4s7awdyj3n2sav7xfx76adc6dnmlx63"], extra := .empty }
  | _ => none

/-- The placement of a template, with a price for a name. -/
def placement (k : TemplateKind) (name : String) : PlacementProfile :=
  { attributes := k.attributes, signedBy := k.signedBy, pricing := .single name k.price,
    extra := .empty }

/-- The **document** of a template, for a name and a count. -/
def stack (k : TemplateKind) (name : String) (count : Int) : Document :=
  { version := some "2.0",
    services := .single name k.service,
    profiles := some
      { compute := some (.single name k.computeProfile),
        placement := some (.single "datacenter" (k.placement name)), extra := .empty },
    deployment := .single name (.single "datacenter"
      { profile := some name, count := some count, extra := .empty }),
    extra := .empty }

/-! ### Another image and another amount -/

/-- The service of a template with another image. -/
def serviceWith (k : TemplateKind) (image : String) : Service :=
  { k.service with image := some image }

/-- The price of a template with another amount. -/
def priceWith (k : TemplateKind) (amount : String) : Price :=
  { k.price with amount := some amount }

/-- The placement of a template with another amount. -/
def placementWith (k : TemplateKind) (amount name : String) : PlacementProfile :=
  { k.placement name with pricing := .single name (k.priceWith amount) }

/-- The **document** of a template with another image and another amount. -/
def stackWith (k : TemplateKind) (image amount name : String) (count : Int) : Document :=
  { k.stack name count with
    services := .single name (k.serviceWith image),
    profiles := some
      { compute := some (.single name k.computeProfile),
        placement := some (.single "datacenter" (k.placementWith amount name)), extra := .empty } }

/-- With the **usual** image and amount the document stays as it is. -/
theorem stackWith_usual (k : TemplateKind) (name : String) (count : Int) :
    k.stackWith k.parts.image k.parts.amount name count = k.stack name count := by
  cases k <;> rfl

/-! ### The data of the outline -/

@[simp] theorem string_word (s : String) (ok : isWord s.toList = true) : (word s ok).string = s :=
  String.ofList_toList

theorem value_plain (n : Nat) (s : String) (ok : isWord s.toList = true) :
    (plain s ok).value n = plainData s := by
  simp [plain, Block.value, RowScalar.isPlain, RowScalar.string]

theorem value_quoted (n : Nat) (s : String) : (quoted s).value n = .text (readBack s) := rfl

theorem value_items (n : Nat) (xs : List Block) :
    (Block.items xs).value n = .list n (Block.itemsValues (n + 1) xs) := rfl

theorem plainData_text {s : String} (h : plainTag s = Tag.str) : plainData s = .text s :=
  (isPlainData_of_tag_str h).2

/-! ### The reading of the parts -/

theorem read_field {α : Type} {es : Entries} {name : String} {v : Value} {default a : α}
    {f : Value → Checked α} (h : es.get? name = some v) (hf : f v = .ok a) :
    Fields.read es [name] default f = .ok a := by
  rw [Fields.read_of_get? h, hf]
  rfl

theorem optional_entries {α : Type} {read : Value → Checked α} {a : α} {es : List (Word × Block)}
    {n : Nat} (h : read ((Block.entries es).value n) = .ok a) :
    Scalar.optional read ((Block.entries es).value n) = .ok (some a) :=
  Scalar.optional_eq_ok_iff.mpr (.inr ⟨Value.noConfusion, a, h, rfl⟩)

theorem ofData_of_read {l : Label} {es : Entries} {d : Document} (hm : missingFields es = [])
    (h : Document.read (.map l es) = .ok d) : Document.ofData (.map l es) = .ok d := by
  simp [Document.ofData, hm, h]

/-- A mapping with **one name** is normal when what it has under the name is. -/
theorem normalize_single {depth : Nat} {l : Label} {name : String} {x : Value}
    (h : IsNormal depth x) : IsNormal (depth + 1) (.map l [(.text name, x)]) :=
  Checked.map_eq_ok_iff.mpr
    ⟨_, renameKeys_eq_ok_iff.mpr ⟨[(.text name, x)], .cons ⟨rfl, h⟩ .nil, rfl⟩, rfl⟩

/-- A mapping with one name is read as a **table** with one name. -/
theorem tableOf_single {α : Type} {read : Value → Checked α} {l : Label} {name : String}
    {x : Value} {a : α} (h : read x = .ok a) :
    tableOf read (.map l [(.text name, x)]) = .ok (.single name a) :=
  tableOf_eq_ok_iff.mpr ⟨[(name, a)], .cons ⟨rfl, h⟩ .nil, rfl⟩

/-- Attributes that are **texts** already are read as these texts. -/
theorem readAttributes_texts {l : Label} (ts : List (String × String))
    (h : (ts.map Prod.fst).Nodup) :
    readAttributes (.map l (Entries.named (ts.map fun t => (t.1, .text t.2))))
      = .ok (Table.ofList ts) := by
  have hnames : ((ts.map fun t => (t.1, Value.text t.2)).map Prod.fst).Nodup := by
    rwa [List.map_map]
  have htexts : ∀ f ∈ ts.map fun t => (t.1, Value.text t.2), attributeText f.2 = .ok f.2 := by
    intro f hf
    obtain ⟨t, -, rfl⟩ := List.mem_map.mp hf
    rfl
  refine Checked.bind_eq_ok_iff.mpr ⟨_, renameKeys_named hnames htexts, ?_⟩
  refine tableOf_eq_ok_iff.mpr ⟨ts, ?_, rfl⟩
  rw [Entries.named, List.map_map, List.forall₂_map_left_iff, List.forall₂_same]
  exact fun t _ => ⟨rfl, rfl⟩

variable (k : TemplateKind)

theorem isRecord_service (image : String) : Block.isRecord (k.serviceOutline image) = true := by
  cases k <;>
    exact Block.isRecord_of_names _ _ (by simp [Block.names, serviceOutline, serviceRest]; rfl)
      (by decide)

theorem isRecord_volume : Block.isRecord k.volumeOutline = true := by cases k <;> decide

theorem isRecord_resources : Block.isRecord k.resourcesOutline = true :=
  Block.isRecord_of_names _ ["cpu", "memory", "storage"]
    (by simp [Block.names, resourcesOutline]) (by decide)

theorem isRecord_attributes : Block.isRecord k.attributesOutline = true := by cases k <;> decide

theorem isRecord_placement (amount : String) (w : Word) :
    Block.isRecord (k.placementOutline amount w) = true := by
  cases k <;>
    exact Block.isRecord_of_names _ _ (by simp [Block.names, placementOutline, signedOutline]; rfl)
      (by decide)

theorem read_service (image : String) (n : Nat) :
    Service.read ((Block.entries (k.serviceOutline image)).value n)
      = .ok (k.serviceWith (readBack image)) := by
  rw [Block.value_record (k.isRecord_service image)]
  cases k <;>
  · simp (disch := decide) only [serviceOutline, serviceRest, Block.fields, publicPortBlock,
      value_items, Block.itemsValues, Block.value_record, value_quoted, value_plain, string_word,
      plainData_text]
    rfl

theorem read_volume (n : Nat) :
    StorageVolume.read ((Block.entries k.volumeOutline).value n) = .ok k.volume := by
  rw [Block.value_record k.isRecord_volume]
  cases k <;>
  · simp (disch := decide) only [volumeOutline, Block.fields, Block.value_record, value_plain,
      string_word, plainData_text]
    rfl

theorem read_cpu (n : Nat) :
    CpuRequest.read ((Block.entries [(word "units", k.cpuOutline)]).value n)
      = .ok { units := some k.parts.cpu, extra := .empty } := by
  rw [Block.value_record (Block.isRecord_of_names _ ["units"] (by simp [Block.names]) (by decide))]
  cases k <;>
  · simp (disch := decide) only [cpuOutline, Block.fields, value_quoted, readBack_of_all,
      string_word]
    rfl

theorem read_memory (n : Nat) :
    MemoryRequest.read ((Block.entries [(word "size", k.memoryOutline)]).value n)
      = .ok { size := some k.parts.memory, extra := .empty } := by
  rw [Block.value_record (Block.isRecord_of_names _ ["size"] (by simp [Block.names]) (by decide))]
  cases k <;>
  · simp (disch := decide) only [memoryOutline, Block.fields, value_plain, string_word,
      plainData_text]
    rfl

theorem read_resources (n : Nat) :
    Resources.read ((Block.entries k.resourcesOutline).value n) = .ok k.resources := by
  have hcpu := fun m => optional_entries (k.read_cpu m)
  have hmemory := fun m => optional_entries (k.read_memory m)
  have hstorage : ∀ m l, readVolumes (.list l [(Block.entries k.volumeOutline).value m])
      = .ok [k.volume] := fun m l =>
    (listOf_eq_ok_iff (l := l)).mpr (.cons (k.read_volume m) .nil)
  rw [Block.value_record k.isRecord_resources]
  simp only [resourcesOutline, Block.fields, string_word]
  exact Resources.read_eq_ok_iff.mpr ⟨read_field rfl (hcpu _), read_field rfl (hmemory _),
    read_field rfl (hstorage _ _), rfl⟩

theorem read_computeProfile (n : Nat) :
    ComputeProfile.read ((Block.entries [(word "resources", .entries k.resourcesOutline)]).value n)
      = .ok k.computeProfile := by
  have hresources := fun m => optional_entries (k.read_resources m)
  rw [Block.value_record
    (Block.isRecord_of_names _ ["resources"] (by simp [Block.names]) (by decide))]
  simp only [Block.fields, string_word]
  exact ComputeProfile.read_eq_ok_iff.mpr ⟨read_field rfl (hresources _), rfl⟩

theorem read_price (amount : String) (n : Nat) :
    Price.read ((Block.entries (priceOutline amount)).value n)
      = .ok (k.priceWith (readBack amount)) := by
  rw [Block.value_record
    (Block.isRecord_of_names _ ["denom", "amount"] (by simp [Block.names, priceOutline]) (by decide))]
  simp (disch := decide) only [priceOutline, Block.fields, value_plain, value_quoted, string_word,
    plainData_text]
  rfl

theorem read_attributes (n : Nat) :
    readAttributes ((Block.entries k.attributesOutline).value n) = .ok k.attributes := by
  rw [Block.value_record k.isRecord_attributes]
  cases k
  case database =>
    simp (disch := decide) only [attributesOutline, Block.fields, value_plain, value_quoted,
      readBack_of_all, string_word, plainData_text]
    exact readAttributes_texts [("host", "akash"), ("datacenter", "true")] (by decide)
  all_goals
    simp (disch := decide) only [attributesOutline, Block.fields, value_plain, string_word,
      plainData_text]
    exact readAttributes_texts [("host", "akash")] (by decide)

/-! ### The reading of the whole document -/

section

variable (image amount : String) {w c : Word} {name : String} {count : Int}
  (hw : plainData w.string = .text name)

include hw

theorem read_placement (n : Nat) :
    PlacementProfile.read ((Block.entries (k.placementOutline amount w)).value n)
      = .ok (k.placementWith (readBack amount) name) := by
  have hattributes := k.read_attributes
  have hpricing : ∀ m, (normalize 0
      ((Block.entries [(w, .entries (priceOutline amount))]).value m)).bind (tableOf Price.read)
        = .ok (.single name (k.priceWith (readBack amount))) := by
    intro m
    change (normalize 0 (.map m [(plainData w.string, _)])).bind (tableOf Price.read) = _
    rw [hw]
    exact tableOf_single (l := m) (k.read_price amount _)
  rw [Block.value_record (k.isRecord_placement amount w)]
  cases k
  case webApp =>
    simp only [placementOutline, signedOutline, Block.fields, string_word, List.cons_append,
      List.nil_append]
    exact PlacementProfile.read_eq_ok_iff.mpr ⟨read_field rfl (hattributes _), rfl,
      read_field rfl (hpricing _), rfl⟩
  all_goals
    simp only [placementOutline, signedOutline, Block.fields, string_word, List.nil_append]
    exact PlacementProfile.read_eq_ok_iff.mpr ⟨read_field rfl (hattributes _), rfl,
      read_field rfl (hpricing _), rfl⟩

omit hw in
/-- The value of a tree under **one name**. -/
theorem value_single (n : Nat) (x : Block) :
    (Block.entries [(w, x)]).value n = .map n [(plainData w.string, x.value (n + 2))] := rfl

theorem read_services (n : Nat) :
    (normalize 1 ((Block.entries [(w, .entries (k.serviceOutline image))]).value n)).bind
      (tableOf Service.read) = .ok (.single name (k.serviceWith (readBack image))) := by
  rw [value_single, hw]
  refine Checked.bind_eq_ok_iff.mpr
    ⟨_, normalize_single ?_, tableOf_single (k.read_service image _)⟩
  exact Block.normalize_record (k.isRecord_service image) _

theorem read_compute (n : Nat) :
    readSection ComputeProfile.read
      ((Block.entries [(w, .entries [(word "resources", .entries k.resourcesOutline)])]).value n)
      = .ok (some (.single name k.computeProfile)) := by
  have hrecord := Block.isRecord_of_names [(word "resources", .entries k.resourcesOutline)]
    ["resources"] (by simp [Block.names]) (by decide)
  refine optional_entries ?_
  rw [value_single, hw]
  exact Checked.bind_eq_ok_iff.mpr ⟨_, normalize_single (Block.normalize_record hrecord _),
    tableOf_single (k.read_computeProfile _)⟩

theorem read_placements (n : Nat) :
    readSection PlacementProfile.read
      ((Block.entries [(word "datacenter", .entries (k.placementOutline amount w))]).value n)
      = .ok (some (.single "datacenter" (k.placementWith (readBack amount) name))) := by
  have hplace : plainData (word "datacenter").string = .text "datacenter" := by
    rw [string_word]
    exact plainData_text (by decide)
  refine optional_entries ?_
  rw [value_single, hplace]
  exact Checked.bind_eq_ok_iff.mpr
    ⟨_, normalize_single (Block.normalize_record (k.isRecord_placement amount w) _),
      tableOf_single (k.read_placement amount hw _)⟩

theorem read_profiles (n : Nat) :
    Profiles.read ((Block.entries
      [(word "compute", .entries
          [(w, .entries [(word "resources", .entries k.resourcesOutline)])]),
        (word "placement", .entries
          [(word "datacenter", .entries (k.placementOutline amount w))])]).value n)
      = .ok
        { compute := some (.single name k.computeProfile),
          placement := some (.single "datacenter" (k.placementWith (readBack amount) name)),
          extra := .empty } := by
  have hcompute := k.read_compute hw
  have hplacement := k.read_placements amount hw
  rw [Block.value_record
    (Block.isRecord_of_names _ ["compute", "placement"] (by simp [Block.names]) (by decide))]
  simp only [Block.fields, string_word]
  exact Profiles.read_eq_ok_iff.mpr ⟨read_field rfl (hcompute _), read_field rfl (hplacement _), rfl⟩

theorem read_deployment (hc : plainData c.string = .int count) (n : Nat) :
    (normalize 2 ((Block.entries
        [(w, .entries [(word "datacenter", .entries (deploymentOutline w c))])]).value n)).bind
      (tableOf (tableOf DeploymentEntry.read))
      = .ok (.single name (.single "datacenter"
        { profile := some name, count := some count, extra := .empty })) := by
  have hplace : plainData (word "datacenter").string = .text "datacenter" := by
    rw [string_word]
    exact plainData_text (by decide)
  have hrecord := Block.isRecord_of_names (deploymentOutline w c)
    ["profile", "count"] (by simp [Block.names, deploymentOutline]) (by decide)
  have hentry : ∀ m, DeploymentEntry.read ((Block.entries (deploymentOutline w c)).value m)
      = .ok { profile := some name, count := some count, extra := .empty } := by
    intro m
    rw [Block.value_record hrecord]
    simp only [deploymentOutline, Block.fields, string_word, Block.value, RowScalar.isPlain,
      RowScalar.string, if_true, hw, hc]
    exact DeploymentEntry.read_eq_ok_iff.mpr ⟨read_field rfl rfl, read_field rfl rfl, rfl⟩
  rw [value_single, hw, value_single, hplace]
  exact Checked.bind_eq_ok_iff.mpr
    ⟨_, normalize_single (normalize_single (Block.normalize_record hrecord _)),
      tableOf_single (tableOf_single (hentry _))⟩

/-- The **data of an outline** is read as the document of its template, with the image and the
amount that are read back. -/
theorem ofData_outline (hc : plainData c.string = .int count) :
    Document.ofData ((Block.entries (k.outline image amount w c)).value 1)
      = .ok (k.stackWith (readBack image) (readBack amount) name count) := by
  have hrecord := Block.isRecord_of_names (k.outline image amount w c)
    ["version", "services", "profiles", "deployment"] (by simp [Block.names, outline]) (by decide)
  have hservices := k.read_services image hw
  have hprofiles := fun m => optional_entries (k.read_profiles amount hw m)
  have hdeployment := read_deployment hw hc
  rw [Block.value_record hrecord]
  simp (disch := decide) only [outline, Block.fields, string_word, value_quoted, readBack_of_all]
  refine ofData_of_read rfl (Document.read_eq_ok_iff.mpr ?_)
  exact ⟨read_field rfl (hprofiles _), read_field rfl rfl, read_field rfl (hservices _),
    read_field rfl (hdeployment _), rfl⟩

end

end TemplateKind

end StackManifest
