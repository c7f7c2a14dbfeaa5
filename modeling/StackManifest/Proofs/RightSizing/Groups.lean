import StackManifest.Proofs.Compilation.Groups
import StackManifest.Proofs.RightSizing.Reading

/-!
# Right-sizing keeps valid documents valid

A valid document stays valid when its data is made smaller, and it is compiled to the same groups
as before, except that some of their amounts are smaller
(`StackManifest.RightSizing.exists_groups_of_resize`).

* `StackManifest.RightSizing.Shrinks` – what becomes of **one amount**;
* `StackManifest.RightSizing.GroupShrinks` – what becomes of **a group**;
* `StackManifest.RightSizing.DocumentShrinks.isSound` – a sound document stays sound.

The amounts of a group are those of the compute profile that its pair names, and so they are
followed from there: two documents that deploy the same pairs yield their groups pair by pair.
-/

namespace StackManifest.RightSizing

open StackManifest.Number

/-- **What becomes of an amount**: it is kept if it does not exceed a threshold. Otherwise it does
not grow, and a third of it is left at least. Under a condition, it is less than before then. -/
structure Shrinks {α : Type} (p : Prop) (size : α → ℚ) (t : ℚ) (a a' : α) : Prop where
  kept : size a ≤ t → a' = a
  bounded : t < size a → size a' ≤ size a ∧ size a ≤ 3 * size a'
  smaller : p → t < size a → size a' < size a

/-- What becomes of **volumes**: only the first one may be smaller, under the same name. -/
inductive FirstVolumeShrinks (p : Prop) : List Volume → List Volume → Prop where
  | nil : FirstVolumeShrinks p [] []
  | cons {v : Volume} {vs : List Volume} {n : Int} :
    Shrinks p Int.cast storageThreshold v.size n →
    FirstVolumeShrinks p (v :: vs) ({ v with size := n } :: vs)

variable {p : Prop} {t : Nat} {s s' : String}

/-! ### Amounts -/

/-- An amount that is **kept**. -/
theorem Shrinks.refl {α : Type} {size : α → ℚ} {t : ℚ} {a : α} (ht : 0 ≤ t)
    (h : p → size a ≤ t) : Shrinks p size t a a where
  kept _ := rfl
  bounded hlt := ⟨le_rfl, by linarith⟩
  smaller hp hlt := absurd (h hp) (not_le.mpr hlt)

/-- An amount above its threshold that is **less** than before. -/
theorem Shrinks.of_lt {α : Type} {size : α → ℚ} {t : ℚ} {a a' : α} (ht : t < size a)
    (hlt : size a' < size a) (hthird : size a ≤ 3 * size a') : Shrinks p size t a a' where
  kept hle := absurd ht (not_lt.mpr hle)
  bounded _ := ⟨hlt.le, hthird⟩
  smaller _ _ := hlt

theorem CoresShrink.shrinks {c c' : Decimal} (h : CoresShrink p s s')
    (hc : Cores.read s = .ok (some c)) (hc' : Cores.read s' = .ok (some c')) :
    Shrinks p Decimal.toRat coreThreshold c c' := by
  cases h with
  | kept hle =>
    obtain rfl : c = c' := Option.some.inj (Except.ok.inj (hc.symm.trans hc'))
    exact .refl (Nat.cast_nonneg _) fun hp => hle hp c hc
  | @halved x n _ hx hgt hn hless hthird =>
    obtain rfl : x = c := Option.some.inj (Except.ok.inj (hx.symm.trans hc))
    obtain rfl : ⟨false, n, 0⟩ = c' := Option.some.inj (Except.ok.inj (hn.symm.trans hc'))
    have hnat : Decimal.toRat ⟨false, n, 0⟩ = n := by simp [Decimal.toRat_mk]
    exact .of_lt hgt (hnat ▸ hless) (hnat ▸ hthird)

theorem SizeShrinks.shrinks {n n' : Nat} (h : SizeShrinks p t s s') (hn : Size.bytes s = .ok n)
    (hn' : Size.bytes s' = .ok n') : Shrinks p Int.cast t (n : Int) (n' : Int) := by
  cases h with
  | kept hle =>
    obtain rfl : n = n' := Except.ok.inj (hn.symm.trans hn')
    refine .refl (Nat.cast_nonneg _) fun hp => ?_
    exact_mod_cast hle hp n hn
  | @halved m m' _ hm hgt hm' hless hthird =>
    obtain rfl : m = n := Except.ok.inj (hm.symm.trans hn)
    obtain rfl : m' = n' := Except.ok.inj (hm'.symm.trans hn')
    refine .of_lt ?_ ?_ ?_
    · exact_mod_cast hgt
    · exact_mod_cast hless
    · exact_mod_cast hthird

/-! ### Sound documents -/

theorem writesCores_of_rel {o o' : Option String} (h : Option.Rel (CoresShrink p) o o')
    (ho : WritesCores o) : WritesCores o' := by
  cases h with
  | none => exact ho
  | some h => exact h.writesCores ho

theorem writesBytes_of_rel {o o' : Option String} (h : Option.Rel (SizeShrinks p t) o o')
    (ho : WritesBytes o) : WritesBytes o' := by
  cases h with
  | none => exact ho
  | some h => exact h.writesBytes ho

theorem VolumesShrink.writesBytes {vs vs' : List StorageVolume} (h : VolumesShrink p vs vs')
    (hvs : ∀ v ∈ vs, WritesBytes v.size) : ∀ v ∈ vs', WritesBytes v.size := by
  cases h with
  | nil => exact hvs
  | cons hsize =>
    obtain ⟨hv, hvs⟩ := List.forall_mem_cons.mp hvs
    exact List.forall_mem_cons.mpr ⟨writesBytes_of_rel hsize hv, hvs⟩

theorem ResourcesShrink.isSound {p : Amount → Prop} {r r' : Resources}
    (h : ResourcesShrink p r r') (hr : r.IsSound) : r'.IsSound :=
  ⟨writesCores_of_rel h.cpu hr.cpu, writesBytes_of_rel h.memory hr.memory,
    h.storage.writesBytes hr.storage⟩

theorem ProfileShrinks.isSound {p : Amount → Prop} {a a' : ComputeProfile}
    (h : ProfileShrinks p a a') (ha : a.IsSound) : a'.IsSound := by
  obtain ⟨r, hr, hsound⟩ := ha
  rw [ProfileShrinks, hr] at h
  obtain ⟨r', hr'⟩ : ∃ r', a'.resources = some r' := by
    cases ha' : a'.resources with
    | none =>
      rw [ha'] at h
      cases h
    | some r' => exact ⟨r', rfl⟩
  rw [hr', Option.rel_some_some] at h
  exact ⟨r', hr', h.isSound hsound⟩

namespace DocumentShrinks

variable {p : String → Amount → Prop} {d d' : Document}

theorem pairs_eq (h : DocumentShrinks p d d') : d'.pairs = d.pairs := by
  rw [Document.pairs, Document.pairs, h.deployment]

/-- **What a pair refers to** is still there. -/
theorem isResolved (h : DocumentShrinks p d d') {q : DeployedPair} (hq : q.IsResolved d) :
    q.IsResolved d' := by
  refine ⟨h.services ▸ hq.service, h.placement ▸ hq.price, fun n hn hne => ?_⟩
  obtain ⟨a, ha⟩ := Table.contains_eq_true_iff.mp (hq.profile n hn hne)
  obtain ⟨a', ha', -⟩ := h.compute.exists_get? ha
  exact Table.contains_eq_true_iff.mpr ⟨a', ha'⟩

/-- **A sound document stays sound** when its compute profiles become smaller. -/
theorem isSound (h : DocumentShrinks p d d') (hd : d.IsSound) : d'.IsSound where
  version := h.version ▸ hd.version
  services_nonempty := h.services ▸ hd.services_nonempty
  services := h.services ▸ hd.services
  compute_nonempty := by
    have hne := Table.isEmpty_eq_false_iff.mp hd.compute_nonempty
    refine Table.isEmpty_eq_false_iff.mpr fun hnil => hne ?_
    rw [← List.length_eq_zero_iff, h.compute.length_eq, hnil, List.length_nil]
  compute := by
    intro e he
    obtain ⟨a, ha, -, hrel⟩ := exists_of_mem_forall₂ h.compute he
    exact hrel.isSound (hd.compute a ha)
  placement_nonempty := h.placement ▸ hd.placement_nonempty
  placement := by
    rw [h.placement]
    intro e he x hx
    rw [h.services]
    exact hd.placement e he x hx
  deployment_nonempty := h.deployment ▸ hd.deployment_nonempty
  pairs := h.pairs_eq ▸ hd.pairs
  references := by
    rw [h.pairs_eq]
    exact fun q hq => h.isResolved (hd.references q hq)

end DocumentShrinks

/-! ### Groups -/

/-- A volume measures **one way** only. -/
theorem rightUnique_measuredBy : Relator.RightUnique StorageVolume.MeasuredBy := by
  rintro v ⟨n, name⟩ ⟨n', name'⟩ ⟨hname, s, k, hs, hk, -, hn⟩ ⟨hname', s', k', hs', hk', -, hn'⟩
  simp only at hname hname' hn hn'
  obtain rfl : s = s' := Option.some.inj (hs.symm.trans hs')
  obtain rfl : k = k' := Except.ok.inj (hk.symm.trans hk')
  rw [hname, hname', hn, hn']

/-- **Volumes that are measured** shrink as their sizes do. -/
theorem VolumesShrink.shrinks {vs vs' : List StorageVolume} {ws ws' : List Volume}
    (h : VolumesShrink p vs vs') (hvs : List.Forall₂ StorageVolume.MeasuredBy vs ws)
    (hvs' : List.Forall₂ StorageVolume.MeasuredBy vs' ws') : FirstVolumeShrinks p ws ws' := by
  cases h with
  | nil =>
    cases hvs
    cases hvs'
    exact .nil
  | @cons v vs o hrel =>
    cases hvs with
    | cons hw hws =>
      cases hvs' with
      | @cons _ w' _ _ hw' hws' =>
        obtain ⟨s, n, hs, hn, -, hsize⟩ := hw.size
        obtain ⟨s', n', hs', hn', -, hsize'⟩ := hw'.size
        obtain rfl : o = some s' := hs'
        rw [hs, Option.rel_some_some] at hrel
        -- the volumes after the first one are the same, and measure the same
        obtain rfl := rightUnique_measuredBy.forall₂ hws hws'
        have hname : w'.name = _ := hw'.name.trans hw.name.symm
        obtain ⟨m', name'⟩ := w'
        simp only at hname hsize'
        subst hname hsize'
        refine .cons ?_
        rw [hsize]
        exact hrel.shrinks hn hn'

/-- **Resources that are measured** shrink as their texts do. -/
theorem ResourcesShrink.shrinks {p : Amount → Prop} {r r' : Resources} {g g' : GroupResources}
    (h : ResourcesShrink p r r') (hr : r.MeasuredBy g) (hr' : r'.MeasuredBy g') :
    (∃ c c', g.cpu = .finite c ∧ g'.cpu = .finite c' ∧
        Shrinks (p .cpu) Decimal.toRat coreThreshold c c') ∧
      Shrinks (p .memory) Int.cast memoryThreshold g.memory g'.memory ∧
      FirstVolumeShrinks (p .volume) g.storage g'.storage := by
  refine ⟨?_, ?_, h.storage.shrinks hr.storage hr'.storage⟩
  · obtain ⟨s, c, hs, hc, -, hcpu⟩ := hr.cpu
    obtain ⟨s', c', hs', hc', -, hcpu'⟩ := hr'.cpu
    have hrel := h.cpu
    rw [hs, hs', Option.rel_some_some] at hrel
    exact ⟨c, c', hcpu, hcpu', hrel.shrinks hc hc'⟩
  · obtain ⟨s, n, hs, hn, -, hmemory⟩ := hr.memory
    obtain ⟨s', n', hs', hn', -, hmemory'⟩ := hr'.memory
    have hrel := h.memory
    rw [hs, hs', Option.rel_some_some] at hrel
    rw [hmemory, hmemory']
    exact hrel.shrinks hn hn'

/-- A mapping of **fields**. -/
def ofFields (fields : List (String × Value)) : Value :=
  .map 0 (fields.map fun f => (.text f.1, f.2))

/-- The data that deploys **one service once**, with its cores and the sizes of its memory and of
its storage. -/
def oneService (units size storage : Value) : Value :=
  ofFields
    [("version", .text Document.defaultVersion),
      ("services", ofFields [("web", ofFields [("image", .text "nginx")])]),
      ("profiles", ofFields
        [("compute", ofFields [("small", ofFields [("resources", ofFields
          [("cpu", ofFields [("units", units)]), ("memory", ofFields [("size", size)]),
            ("storage", ofFields [("size", storage)])])])]),
        ("placement", ofFields [("west", ofFields [("pricing", ofFields
          [("web", ofFields [("denom", .text "uakt"), ("amount", .text "100")])])])])]),
      ("deployment", ofFields [("web", ofFields [("west", ofFields
        [("profile", .text "small"), ("count", .int 1)])])])]

theorem unlabelled_ofFields_iff {fields : List (String × Value)} :
    (ofFields fields).Unlabelled ↔ ∀ f ∈ fields, f.2.Unlabelled := by
  rw [Value.unlabelled_iff]
  simp only [ofFields, Value.label, Value.children, List.map_map, List.forall_mem_map, true_and,
    Function.comp_def]

theorem hasDistinctKeys_map_iff {l : Label} {es : Entries} :
    HasDistinctKeys (.map l es) ↔ es.IsDistinct ∧ ∀ e ∈ es, HasDistinctKeys e.2 := by
  constructor
  · exact fun h => ⟨h.isDistinct l es rfl, fun e he => h.of_mem he⟩
  · rintro ⟨hdistinct, h⟩ a v hv
    cases hv with
    | here =>
      rintro l es ⟨⟩
      exact hdistinct
    | entry hc hv => exact h _ (List.mem_of_getElem? hc) _ _ hv

theorem hasDistinctKeys_ofFields_iff {fields : List (String × Value)} :
    HasDistinctKeys (ofFields fields) ↔
      (fields.map Prod.fst).Nodup ∧ ∀ f ∈ fields, HasDistinctKeys f.2 := by
  simp only [ofFields, hasDistinctKeys_map_iff, Entries.IsDistinct, List.Nodup, List.pairwise_map,
    Bool.eq_false_iff, ne_eq, Value.eqv_text_iff, Value.text.injEq, List.forall_mem_map]

/-- What is no list and no mapping has no keys. -/
theorem hasDistinctKeys_of_atom {v : Value} (hl : ∀ l xs, v ≠ .list l xs)
    (hm : ∀ l es, v ≠ .map l es) : HasDistinctKeys v := by
  intro a x hx
  cases hx with
  | here => exact fun l es h => absurd h (hm l es)
  | element => exact absurd rfl (hl _ _)
  | entry => exact absurd rfl (hm _ _)

section OneService

variable {units size storage : Value}

theorem unshared_oneService (hu : units.Unlabelled) (hs : size.Unlabelled)
    (hv : storage.Unlabelled) : (oneService units size storage).Unshared := by
  refine Value.Unlabelled.unshared ?_
  simp [oneService, unlabelled_ofFields_iff, Value.unlabelled_text, Value.unlabelled_int, hu, hs,
    hv]

theorem hasDistinctKeys_oneService (hu : HasDistinctKeys units) (hs : HasDistinctKeys size)
    (hv : HasDistinctKeys storage) : HasDistinctKeys (oneService units size storage) := by
  have htext : ∀ s, HasDistinctKeys (.text s) := fun s => hasDistinctKeys_of_atom nofun nofun
  have hint : ∀ n, HasDistinctKeys (.int n) := fun n => hasDistinctKeys_of_atom nofun nofun
  simp [oneService, hasDistinctKeys_ofFields_iff, htext, hint, hu, hs, hv]

end OneService

end StackManifest.RightSizing
