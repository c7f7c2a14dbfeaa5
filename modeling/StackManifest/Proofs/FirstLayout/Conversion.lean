import Mathlib.Data.List.Forall2
import StackManifest.Conversion
import StackManifest.Document.Writer
import StackManifest.Proofs.Checks.Sound
import StackManifest.Proofs.Traversal

/-!
# What a document of the first layout says

In the first layout a profile gives its amounts directly and a deployment names one profile, so that
much less is written than in a document of today. What is written can nevertheless be deployed, and
`StackManifest.FlatDocument` is what it says: services, profiles and deployments, each with all that
it needs. What is left out has a usual value, and `StackManifest.FlatDocument.Writes` says which data
writes which document.

* `StackManifest.WritesOr` – a field that **may be left out**;
* `StackManifest.Conversion.Gives` – a conversion that succeeds, and gives no container a label; it is
  kept by the ways in which conversions are put together;
* `StackManifest.FlatDocument.Writes.convert_eq` – data that writes a document is converted, and to
  what depends on the document only.
-/

namespace StackManifest

/-! ### Flat documents -/

/-- A **port** that a service opens. -/
structure FlatPort where
  number : Int
  isGlobal : Bool
  pos : 0 < number

/-- A **service**: its image and its open ports. -/
structure FlatService where
  image : String
  ports : List FlatPort
  image_ne : image ≠ ""

/-- A **profile** with its amounts, each in words that can be read. -/
structure FlatProfile where
  cpu : String
  memory : String
  storage : String
  cpu_writes : WritesCores (some cpu)
  memory_writes : WritesBytes (some memory)
  storage_writes : WritesBytes (some storage)

/-- A **deployment**: a profile and a number of replicas. -/
structure FlatDeployment where
  profile : String
  count : Int
  profile_ne : profile ≠ ""
  pos : 0 < count

/-- A **document of the first layout**, with at least one deployment, each of a service and with a
profile that there are. -/
structure FlatDocument where
  services : Table FlatService
  profiles : Table FlatProfile
  deployment : Table FlatDeployment
  deployment_ne : deployment.isEmpty = false
  service_mem : ∀ e ∈ deployment.toList, services.contains e.1 = true
  profile_mem : ∀ e ∈ deployment.toList, profiles.contains e.2.profile = true

/-! ### Data that writes them -/

/-- A field that **may be left out** and has its usual value then. -/
inductive WritesOr {α : Type} (es : Entries) (name : String) (Writes : Value → α → Prop)
    (usual : α) : α → Prop where
  | missing : es.get? name = none → WritesOr es name Writes usual usual
  | given {v : Value} {a : α} : es.get? name = some v → Writes v a →
    WritesOr es name Writes usual a

/-- A mapping of **names**, each with what is written under it. -/
inductive WritesTable {α : Type} (Writes : String → Value → α → Prop) : Value → Table α → Prop where
  | mk {l : Label} {es : Entries} {t : Table α} :
    List.Forall₂ (fun e a => e.1 = .text a.1 ∧ Writes a.1 e.2 a.2) es t.toList →
    WritesTable Writes (.map l es) t

/-- Data that writes an open port: its number, and perhaps a truth value. -/
inductive FlatPort.Writes : Value → FlatPort → Prop where
  | mk {l : Label} {es : Entries} {p : FlatPort} (port : es.get? "port" = some (.int p.number))
    (isGlobal : WritesOr es "global" (fun v b => v = .bool b) false p.isGlobal) :
    Writes (.map l es) p

/-- Data that writes a service: the text of its image, and perhaps a list of open ports. -/
inductive FlatService.Writes : Value → FlatService → Prop where
  | mk {l : Label} {es : Entries} {s : FlatService} (image : es.get? "image" = some (.text s.image))
    (ports : WritesOr es "expose"
      (fun v ps => ∃ l xs, v = .list l xs ∧ List.Forall₂ FlatPort.Writes xs ps) [] s.ports) :
    Writes (.map l es) s

/-- Data that writes a profile: perhaps the processors, whose text is taken, and perhaps the texts of
the memory and of the storage. -/
inductive FlatProfile.Writes : Value → FlatProfile → Prop where
  | mk {l : Label} {es : Entries} {p : FlatProfile}
    (cpu : WritesOr es "cpu" (fun v s => v.toText = .ok s) "1" p.cpu)
    (memory : WritesOr es "memory" (fun v s => v = .text s) "512Mi" p.memory)
    (storage : WritesOr es "storage" (fun v s => v = .text s) "1Gi" p.storage) :
    Writes (.map l es) p

/-- Data that writes a deployment with a **name**: perhaps the text of a profile, which is named like
the deployment otherwise, and perhaps a number of replicas. -/
inductive FlatDeployment.Writes (name : String) : Value → FlatDeployment → Prop where
  | mk {l : Label} {es : Entries} {d : FlatDeployment}
    (profile : WritesOr es "profile" (fun v s => v = .text s) name d.profile)
    (count : WritesOr es "count" (fun v n => v = .int n) 1 d.count) :
    Writes name (.map l es) d

/-- **Data that writes a document** of the first layout, with its three sections. -/
inductive FlatDocument.Writes : Value → FlatDocument → Prop where
  | mk {l : Label} {es : Entries} {f : FlatDocument} {services profiles deployment : Value}
    (hasServices : es.get? "services" = some services)
    (services : WritesTable (fun _ => FlatService.Writes) services f.services)
    (hasProfiles : es.get? "profiles" = some profiles)
    (profiles : WritesTable (fun _ => FlatProfile.Writes) profiles f.profiles)
    (hasDeployment : es.get? "deployment" = some deployment)
    (deployment : WritesTable FlatDeployment.Writes deployment f.deployment) :
    Writes (.map l es) f

/-! ### What they are converted to -/

/-- An open port in the current layout. -/
def FlatPort.converted (p : FlatPort) : Value :=
  .record [("port", .int p.number), ("as", .int p.number),
    ("to", .array [.record [("global", .bool p.isGlobal)]])]

/-- A service in the current layout: a service without ports says nothing of them. -/
def FlatService.converted (s : FlatService) : Value :=
  if s.ports.isEmpty then .record [("image", .text s.image)]
  else .record [("image", .text s.image), ("expose", .array (s.ports.map FlatPort.converted))]

/-- A profile in the current layout. -/
def FlatProfile.converted (p : FlatProfile) : Value :=
  .record [("resources", .record
    [("cpu", .record [("units", .text p.cpu)]), ("memory", .record [("size", .text p.memory)]),
     ("storage", .array [.record [("size", .text p.storage)]])])]

/-- A deployment in the current layout. -/
def FlatDeployment.converted (d : FlatDeployment) : Value :=
  .record [(Conversion.defaultPlacement,
    .record [("profile", .text d.profile), ("count", .int d.count)])]

/-- A document in the **current layout**, but for its placements. -/
def FlatDocument.converted (f : FlatDocument) : Value :=
  .record [("version", .text Document.defaultVersion),
    ("services", f.services.toValue FlatService.converted),
    ("profiles", .record [("compute", f.profiles.toValue FlatProfile.converted),
      ("placement", .map 0 [])]),
    ("deployment", f.deployment.toValue FlatDeployment.converted)]

/-! ### Conversions that succeed -/

namespace Conversion

variable {α β : Type}

/-- A conversion that **gives** a result and no label. -/
def Gives (x : Converting α) (a : α) : Prop := ∀ l, x.run l = .ok (a, l)

theorem gives_pure (a : α) : Gives (pure a) a := fun _ => rfl

theorem Gives.bind {x : Converting α} {f : α → Converting β} {a : α} {b : β} (h : Gives x a)
    (hf : Gives (f a) b) : Gives (x >>= f) b := by
  intro l
  rw [StateT.run_bind, h l, ok_bind]
  exact hf l

/-- A step that does not look at the labels. -/
theorem gives_lift {x : Except Fault α} {a : α} (h : x = .ok a) : Gives (liftM x) a := by
  intro l
  rw [h]
  rfl

/-- **Several conversions**, one after the other. -/
theorem gives_mapM {f : α → Converting β} {xs : List α} (bs : List β)
    (h : List.Forall₂ (fun x b => Gives (f x) b) xs bs) : Gives (xs.mapM f) bs := by
  induction h with
  | nil => exact gives_pure []
  | cons hx _ ih =>
    rw [List.mapM_cons]
    exact hx.bind (ih.bind (gives_pure _))

/-- A number needs **no label** in its second place. -/
theorem gives_shared (n : Int) : Gives (shared (.int n)) (.int n) := by
  intro l
  have hlabel : ¬(Value.int n).label = l + 1 := Nat.ne_of_lt (Nat.succ_pos l)
  simp only [shared, StateT.run_bind, StateT.run_get, pure_bind, hlabel, if_false]
  rfl

/-! ### Fields and sections -/

variable {l : Label} {es : Entries} {name : String}

theorem gives_field {v : Value} (h : es.get? name = some v) :
    Gives (liftM ((Value.map l es).field name) : Converting Value) v := by
  refine gives_lift ?_
  rw [Value.field, Value.fieldOr, Value.field?, h]
  rfl

/-- A field that may be left out is **looked up with its usual value**. -/
theorem exists_gives_fieldOr {Writes : Value → α → Prop} {usual a : α} (default : Value)
    (h : WritesOr es name Writes usual a) (hdefault : Writes default usual) :
    ∃ v, Gives (liftM ((Value.map l es).fieldOr name default) : Converting Value) v ∧
      Writes v a := by
  cases h with
  | missing hnone =>
    refine ⟨default, gives_lift ?_, hdefault⟩
    rw [Value.fieldOr, Value.field?, hnone]
    rfl
  | @given v a hv hwrites =>
    refine ⟨v, gives_lift ?_, hwrites⟩
    rw [Value.fieldOr, Value.field?, hv]
    rfl

/-- A **section** is converted name by name. -/
theorem gives_convertSection {Writes : String → Value → α → Prop}
    {f : Value → Value → Converting Value} {converted : α → Value} {v : Value} {t : Table α}
    (hv : es.get? name = some v) (ht : WritesTable Writes v t)
    (h : ∀ n w a, Writes n w a → Gives (f (.text n) w) (converted a)) :
    Gives (convertSection (.map l es) name f) (t.toValue converted) := by
  obtain @⟨l', fs, t, hes⟩ := ht
  have hentries : Gives (liftM ((Value.map l es).sectionEntries name "items") : Converting Entries)
      fs := by
    have hfield : (Value.map l es).field name = .ok (.map l' fs) := by
      rw [Value.field, Value.fieldOr, Value.field?, hv]
      rfl
    refine gives_lift ?_
    rw [Value.sectionEntries, hfield, ok_bind]
    cases fs <;> rfl
  refine hentries.bind (Gives.bind (gives_mapM (t.toList.map fun e =>
    (Value.text e.1, converted e.2)) ?_) ?_)
  · rw [List.forall₂_map_right_iff]
    refine hes.imp ?_
    rintro ⟨k, w⟩ ⟨n, a⟩ ⟨rfl, hw⟩
    exact (h n w a hw).bind (gives_pure _)
  · rw [Table.toValue, Value.record, List.map_map]
    exact gives_pure _

/-! ### The parts of a document -/

theorem gives_convertRule {v : Value} {p : FlatPort} (h : p.Writes v) :
    Gives (convertRule v) p.converted := by
  obtain ⟨hport, hglobal⟩ := h
  obtain ⟨w, hw, rfl⟩ := exists_gives_fieldOr (.bool false) hglobal rfl
  exact (gives_field hport).bind ((gives_shared _).bind (hw.bind (gives_pure _)))

/-- A service without open ports, or with **none in the list**, says nothing of them. -/
theorem gives_convertService {v : Value} {s : FlatService} (h : s.Writes v) :
    Gives (convertService v) s.converted := by
  obtain @⟨l, es, s, himage, hports⟩ := h
  obtain ⟨image, ports, hne⟩ := s
  refine (gives_field himage).bind ?_
  cases hports with
  | missing hnone =>
    have hnull : Gives (liftM ((Value.map l es).field "expose") : Converting Value) .null := by
      refine gives_lift ?_
      rw [Value.field, Value.fieldOr, Value.field?, hnone]
      rfl
    exact hnull.bind (gives_pure _)
  | given hv hwrites =>
    obtain ⟨l', xs, rfl, hxs⟩ := hwrites
    refine (gives_field hv).bind ?_
    cases hxs with
    | nil => exact gives_pure _
    | cons hx hxs =>
      refine (gives_lift rfl).bind (Gives.bind (gives_mapM ((_ :: _).map FlatPort.converted) ?_)
        (gives_pure _))
      rw [List.forall₂_map_right_iff]
      exact (List.Forall₂.cons hx hxs).imp fun _ _ => gives_convertRule

theorem gives_convertProfile {v : Value} {p : FlatProfile} (h : p.Writes v) :
    Gives (convertProfile v) p.converted := by
  obtain ⟨hcpu, hmemory, hstorage⟩ := h
  obtain ⟨c, hc, htext⟩ := exists_gives_fieldOr (.int 1) hcpu
    (toOption_eq_some_iff.mp (by cbv))
  obtain ⟨m, hm, rfl⟩ := exists_gives_fieldOr (.text "512Mi") hmemory rfl
  obtain ⟨n, hn, rfl⟩ := exists_gives_fieldOr (.text "1Gi") hstorage rfl
  exact hc.bind ((gives_lift htext).bind (hm.bind (hn.bind (gives_pure _))))

theorem gives_convertDeployment {name : String} {v : Value} {d : FlatDeployment}
    (h : d.Writes name v) : Gives (convertDeployment (.text name) v) d.converted := by
  obtain ⟨hprofile, hcount⟩ := h
  obtain ⟨p, hp, rfl⟩ := exists_gives_fieldOr (.text name) hprofile rfl
  obtain ⟨n, hn, rfl⟩ := exists_gives_fieldOr (.int 1) hcount rfl
  exact hp.bind (hn.bind (gives_pure _))

end Conversion

open Conversion in
/-- **Data of the first layout is converted** to what the document that it writes is converted to. -/
theorem FlatDocument.Writes.convert_eq {v : Value} {f : FlatDocument} (h : f.Writes v) :
    convert v = .ok f.converted := by
  obtain @⟨l, es, f, _, _, _, hservices, hss, hprofiles, hps, hdeployment, hds⟩ := h
  have hall : Gives (convertAll (.map l es)) f.converted :=
    (gives_convertSection hservices hss fun _ _ _ => gives_convertService).bind
      ((gives_convertSection hprofiles hps fun _ _ _ => gives_convertProfile).bind
        ((gives_convertSection hdeployment hds fun _ _ _ => gives_convertDeployment).bind
          (gives_pure _)))
  rw [convert, hall]
  rfl

end StackManifest
