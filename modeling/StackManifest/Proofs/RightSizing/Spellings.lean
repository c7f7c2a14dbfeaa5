import StackManifest.Proofs.RightSizing.Groups
import StackManifest.Proofs.RoundTrip.Alike

/-!
# Right-sizing and the spelling of a document

A document can be spelled in many ways: an amount as a text or as a number, storage as a mapping or
as a list with one volume, a section left empty or not given at all, a name as a text or as another
key. Right-sizing works on the data, so it sees the spelling, but two spellings of one document
should be made smaller alike. They are, up to one thing: an amount that is given as bytes, or in a
storage that is a tuple or a set, is not looked into
(`StackManifest.RightSizing.Reaches`).

* `StackManifest.RightSizing.Becomes.eq_iff` – what two spellings of **one amount** become;
* `StackManifest.RightSizing.DocumentBecomes.eqv_iff` – what two spellings of **one document**
  become, as documents;
* `StackManifest.RightSizing.eqv_iff_of_resize` – the same for the data itself: the results are
  equal **exactly when** the same amounts above their thresholds are reached.

The statements go through the parts of the two documents side by side. At each part four things
stand next to each other: the part in both documents, before and after.
-/

namespace StackManifest.RightSizing

open StackManifest.Number

/-! ### Amounts -/

/-- How an amount is **halved**. -/
def Amount.half : Amount → Value → Except Fault (Option Value)
  | .cpu => halvedCores
  | .memory => halvedSize memoryThreshold
  | .volume => halvedSize storageThreshold

/-- A text that writes an amount **above its threshold**. -/
def IsAbove : Amount → String → Prop
  | .cpu, s => ∃ c, Cores.read s = .ok (some c) ∧ (coreThreshold : ℚ) < c.toRat
  | .memory, s => ∃ n, Size.bytes s = .ok n ∧ memoryThreshold < n
  | .volume, s => ∃ n, Size.bytes s = .ok n ∧ storageThreshold < n

variable {p p' : Prop} {a : Amount} {s s' s₁ s₂ : String}

theorem SizeShrinks.eq_iff {t : Nat} (h : SizeShrinks p t s s') (hp : ¬p → s' = s) :
    s' = s ↔ ¬(p ∧ ∃ n, Size.bytes s = .ok n ∧ t < n) := by
  cases h with
  | kept hle =>
    refine iff_of_true rfl ?_
    rintro ⟨hp, n, hn, hlt⟩
    exact absurd (hle hp n hn) (not_le.mpr hlt)
  | @halved n n' _ hn hlt hn' hless hthird =>
    have hne : s' ≠ s := by
      rintro rfl
      obtain rfl := Except.ok.inj (hn.symm.trans hn')
      exact lt_irrefl _ hless
    exact iff_of_false hne (not_not.mpr ⟨not_not.mp fun hnot => hne (hp hnot), n, hn, hlt⟩)

theorem CoresShrink.eq_iff (h : CoresShrink p s s') (hp : ¬p → s' = s) :
    s' = s ↔ ¬(p ∧ IsAbove .cpu s) := by
  cases h with
  | kept hle =>
    refine iff_of_true rfl ?_
    rintro ⟨hp, c, hc, hlt⟩
    exact absurd (hle hp c hc) (not_le.mpr hlt)
  | @halved c n _ hc hlt hn hless hthird =>
    have hne : s' ≠ s := by
      rintro rfl
      obtain rfl := Option.some.inj (Except.ok.inj (hc.symm.trans hn))
      rw [Decimal.toRat_mk] at hless
      simp at hless
    exact iff_of_false hne (not_not.mpr ⟨not_not.mp fun hnot => hne (hp hnot), c, hc, hlt⟩)

/-- **An amount is kept** unless it is looked into and above its threshold. -/
theorem Becomes.eq_self_iff (h : Becomes a.half p s s') : s' = s ↔ ¬(p ∧ IsAbove a s) := by
  cases a with
  | cpu => exact (Becomes.coresShrink h id).eq_iff h.2
  | memory => exact (Becomes.sizeShrinks le_rfl h id).eq_iff h.2
  | volume => exact (Becomes.sizeShrinks (by decide) h id).eq_iff h.2

/-- **Two spellings of an amount** become the same, unless it is above its threshold and only one of
them is looked into. -/
theorem Becomes.eq_iff (h₁ : Becomes a.half p s s₁) (h₂ : Becomes a.half p' s s₂) :
    s₁ = s₂ ↔ (IsAbove a s → (p ↔ p')) := by
  by_cases hp : p
  · by_cases hp' : p'
    · -- what a text is made does not depend on anything else
      have hsame : Value.text s₁ = .text s₂ := Except.ok.inj ((h₁.1 hp).symm.trans (h₂.1 hp'))
      exact iff_of_true (Value.text.inj hsame) fun _ => iff_of_true hp hp'
    · rw [h₂.2 hp', h₁.eq_self_iff]
      tauto
  · by_cases hp' : p'
    · rw [h₁.2 hp, eq_comm, h₂.eq_self_iff]
      tauto
    · rw [h₁.2 hp, h₂.2 hp']
      tauto

/-- The same for an amount that **may be missing**. -/
theorem rel_becomes_eq_iff {o o₁ o₂ : Option String} (h₁ : Option.Rel (Becomes a.half p) o o₁)
    (h₂ : Option.Rel (Becomes a.half p') o o₂) :
    o₁ = o₂ ↔ ∀ s, o = some s → IsAbove a s → (p ↔ p') := by
  cases h₁ with
  | none =>
    cases h₂
    simp
  | some h₁ =>
    cases h₂ with
    | some h₂ =>
      rw [Option.some.injEq, h₁.eq_iff h₂]
      simp

/-! ### Resources -/

/-- An amount of **resources**, as a text. -/
def amountOf? (a : Amount) (r : Resources) : Option String :=
  match a with
  | .cpu => r.cpu.bind (·.units)
  | .memory => r.memory.bind (·.size)
  | .volume => r.storage.head?.bind (·.size)

/-- **A part with an amount**, in two spellings: what becomes of it is alike if the amount becomes
the same. -/
theorem rel_alike_iff {α : Type} {write : α → Value} (a : Amount) (get : α → Option String)
    (set : α → Option String → α) {o₁ o₂ o₁' o₂' : Option α} (h : Option.Rel (Alike write) o₁ o₂)
    (hset : ∀ c d u w, o₁ = some c → o₂ = some d → Alike write c d →
      get c = get d ∧ (Alike write (set c u) (set d w) ↔ u = w))
    (h₁ : Option.Rel (fun c c' => ∃ u, c' = set c u ∧ Option.Rel (Becomes a.half p) (get c) u)
      o₁ o₁')
    (h₂ : Option.Rel (fun d d' => ∃ w, d' = set d w ∧ Option.Rel (Becomes a.half p') (get d) w)
      o₂ o₂') :
    Option.Rel (Alike write) o₁' o₂' ↔ ∀ s, o₁.bind get = some s → IsAbove a s → (p ↔ p') := by
  cases h with
  | none =>
    cases h₁
    cases h₂
    simp
  | @some c d hcd =>
    cases h₁ with
    | some h₁ =>
      obtain ⟨u, rfl, hu⟩ := h₁
      cases h₂ with
      | some h₂ =>
        obtain ⟨w, rfl, hw⟩ := h₂
        obtain ⟨hget, halike⟩ := hset c d u w rfl rfl hcd
        rw [Option.rel_some_some, halike, rel_becomes_eq_iff hu (hget ▸ hw)]
        rfl

/-- **Volumes** in two spellings. Only the first one may become another. -/
theorem VolumesBecome.alike_iff {vs ws vs' ws' : List StorageVolume}
    (hvs : ∀ v ∈ vs, v.extra.Avoids ["name", "size", "attributes"])
    (hws : ∀ w ∈ ws, w.extra.Avoids ["name", "size", "attributes"])
    (h : List.Forall₂ (Alike StorageVolume.toValue) vs ws) (h₁ : VolumesBecome p vs vs')
    (h₂ : VolumesBecome p' ws ws') :
    List.Forall₂ (Alike StorageVolume.toValue) vs' ws' ↔
      ∀ s, vs.head?.bind (·.size) = some s → IsAbove .volume s → (p ↔ p') := by
  cases h₁ with
  | nil =>
    cases h
    cases h₂
    simp
  | @cons v vs u hu =>
    cases h₂ with
    | nil => cases h
    | @cons w ws x hx =>
      obtain ⟨hvw, hrest⟩ := List.forall₂_cons.mp h
      obtain ⟨hv, -⟩ := List.forall_mem_cons.mp hvs
      obtain ⟨hw, -⟩ := List.forall_mem_cons.mp hws
      obtain ⟨hsize, hothers⟩ := (StorageVolume.alike_iff hv hw).mp hvw
      rw [List.forall₂_cons, and_iff_left hrest,
        StorageVolume.alike_iff (v := { v with size := u }) (w := { w with size := x }) hv hw,
        and_iff_left hothers]
      rw [← hsize] at hx
      exact rel_becomes_eq_iff (a := .volume) hu hx

/-- What stands in the place of **something that is there**. -/
theorem exists_of_rel_some {α : Type} {R : α → α → Prop} {o o' : Option α} {b : α}
    (h : Option.Rel R o o') (hb : o' = some b) : ∃ a, o = some a ∧ R a b := by
  cases h with
  | none => cases hb
  | some h =>
    cases hb
    exact ⟨_, rfl, h⟩

/-- What becomes of resources has **the same unknown fields**. -/
theorem ResourcesBecome.isProper {p : Amount → Prop} {r r' : Resources}
    (h : ResourcesBecome p r r') (hr : r.IsProper) : r'.IsProper := by
  refine ⟨fun c hc => ?_, fun m hm => ?_, ?_, h.extra ▸ hr.extra⟩
  · obtain ⟨b, hb, u, rfl, -⟩ := exists_of_rel_some h.cpu hc
    exact hr.cpu b hb
  · obtain ⟨b, hb, s, rfl, -⟩ := exists_of_rel_some h.memory hm
    exact hr.memory b hb
  · obtain ⟨hcpu, hmemory, hstorage, hextra⟩ := h
    have hvs := hr.storage
    generalize r.storage = vs at hstorage hvs
    generalize r'.storage = vs' at hstorage
    cases hstorage with
    | nil => exact hvs
    | cons =>
      obtain ⟨hv, hvs⟩ := List.forall_mem_cons.mp hvs
      exact List.forall_mem_cons.mpr ⟨hv, hvs⟩

/-- **Resources** in two spellings become alike, if the same amounts above their thresholds are
looked into. -/
theorem ResourcesBecome.alike_iff {p p' : Amount → Prop} {r q r' q' : Resources}
    (hr : r.IsProper) (hq : q.IsProper) (h : Alike Resources.toValue r q)
    (h₁ : ResourcesBecome p r r') (h₂ : ResourcesBecome p' q q') :
    Alike Resources.toValue r' q' ↔
      ∀ a s, amountOf? a r = some s → IsAbove a s → (p a ↔ p' a) := by
  obtain ⟨hcpu, hmemory, hstorage, hextra⟩ := (Resources.alike_iff hr hq).mp h
  have hcpu' := rel_alike_iff .cpu CpuRequest.units (fun c u => { c with units := u }) hcpu
    (fun c d u w hc hd hcd => by
      obtain ⟨hunits, hothers⟩ := (CpuRequest.alike_iff (hr.cpu c hc) (hq.cpu d hd)).mp hcd
      exact ⟨hunits, (CpuRequest.alike_iff (c := ⟨u, c.extra⟩) (d := ⟨w, d.extra⟩) (hr.cpu c hc)
        (hq.cpu d hd)).trans (and_iff_left hothers)⟩) h₁.cpu h₂.cpu
  have hmemory' := rel_alike_iff .memory MemoryRequest.size (fun m s => { m with size := s })
    hmemory (fun m k u w hm hk hmk => by
      obtain ⟨hsize, hothers⟩ :=
        (MemoryRequest.alike_iff (hr.memory m hm) (hq.memory k hk)).mp hmk
      exact ⟨hsize, (MemoryRequest.alike_iff (m := ⟨u, m.extra⟩) (k := ⟨w, k.extra⟩)
        (hr.memory m hm) (hq.memory k hk)).trans (and_iff_left hothers)⟩) h₁.memory h₂.memory
  rw [Resources.alike_iff (h₁.isProper hr) (h₂.isProper hq), h₁.extra, h₂.extra,
    and_iff_left hextra, hcpu', hmemory',
    VolumesBecome.alike_iff hr.storage hq.storage hstorage h₁.storage h₂.storage]
  constructor
  · rintro ⟨hcpu, hmemory, hstorage⟩ (_ | _ | _)
    · exact hcpu
    · exact hmemory
    · exact hstorage
  · exact fun h => ⟨h .cpu, h .memory, h .volume⟩

/-! ### Profiles and documents -/

theorem ProfileBecomes.isProper {p : Amount → Prop} {b b' : ComputeProfile}
    (h : ProfileBecomes p b b') (hb : b.IsProper) : b'.IsProper := by
  refine ⟨fun r hr => ?_, h.extra ▸ hb.extra⟩
  obtain ⟨r₀, hr₀, hbecomes⟩ := exists_of_rel_some h.resources hr
  exact hbecomes.isProper (hb.resources r₀ hr₀)

theorem ProfileBecomes.alike_iff {p p' : Amount → Prop} {b c b' c' : ComputeProfile}
    (hb : b.IsProper) (hc : c.IsProper) (h : Alike ComputeProfile.toValue b c)
    (h₁ : ProfileBecomes p b b') (h₂ : ProfileBecomes p' c c') :
    Alike ComputeProfile.toValue b' c' ↔
      ∀ a s, b.resources.bind (amountOf? a) = some s → IsAbove a s → (p a ↔ p' a) := by
  obtain ⟨hresources, hextra⟩ := (ComputeProfile.alike_iff hb hc).mp h
  rw [ComputeProfile.alike_iff (h₁.isProper hb) (h₂.isProper hc), h₁.extra, h₂.extra,
    and_iff_left hextra]
  obtain ⟨hr₁, -⟩ := h₁
  obtain ⟨hr₂, -⟩ := h₂
  have hbr := hb.resources
  have hcr := hc.resources
  generalize b.resources = o at hresources hr₁ hbr
  generalize c.resources = o₀ at hresources hr₂ hcr
  generalize b'.resources = o₁ at hr₁
  generalize c'.resources = o₂ at hr₂
  cases hresources with
  | none =>
    cases hr₁
    cases hr₂
    simp
  | some hrq =>
    cases hr₁ with
    | some hr₁ =>
      cases hr₂ with
      | some hr₂ =>
        rw [Option.rel_some_some]
        exact ResourcesBecome.alike_iff (hbr _ rfl) (hcr _ rfl) hrq hr₁ hr₂

/-- An amount of the compute profile of a document **under a name**, as a text. -/
def amountUnder? (d : Document) (n : String) (a : Amount) : Option String :=
  ((d.computeProfiles.get? n).bind (·.resources)).bind (amountOf? a)

variable {q q' : String → Amount → Prop}

/-- **Tables of profiles** in two spellings become alike, if under each name the same amounts above
their thresholds are looked into. -/
theorem alike_related_iff {t₁ t₂ t₁' t₂' : Table ComputeProfile}
    (hp₁ : ∀ n b, t₁.get? n = some b → b.IsProper) (hp₂ : ∀ n b, t₂.get? n = some b → b.IsProper)
    (h : Alike (Table.toValue ComputeProfile.toValue) t₁ t₂)
    (h₁ : Table.Related (fun n => ProfileBecomes (q n)) t₁ t₁')
    (h₂ : Table.Related (fun n => ProfileBecomes (q' n)) t₂ t₂') :
    Alike (Table.toValue ComputeProfile.toValue) t₁' t₂' ↔
      ∀ n a s, ((t₁.get? n).bind (·.resources)).bind (amountOf? a) = some s → IsAbove a s →
        (q n a ↔ q' n a) := by
  obtain ⟨hlength, halike⟩ := alike_table_iff.mp h
  have hlength' : t₁'.toList.length = t₂'.toList.length :=
    h₁.length_eq.symm.trans (hlength.trans h₂.length_eq)
  rw [alike_table_iff, and_iff_right hlength']
  -- under a name stand four profiles: the two spellings, before and after
  have hname : ∀ n b, t₁.get? n = some b → ∃ b' c', t₁'.get? n = some b' ∧
      t₂'.get? n = some c' ∧ (Alike ComputeProfile.toValue b' c' ↔
        ∀ a s, b.resources.bind (amountOf? a) = some s → IsAbove a s → (q n a ↔ q' n a)) := by
    intro n b hb
    obtain ⟨c, hc, hbc⟩ := halike n b hb
    obtain ⟨b', hb', hbb'⟩ := h₁.exists_get? hb
    obtain ⟨c', hc', hcc'⟩ := h₂.exists_get? hc
    exact ⟨b', c', hb', hc', hbb'.alike_iff (hp₁ n b hb) (hp₂ n c hc) hbc hcc'⟩
  constructor
  · intro hall n a s hs habove
    obtain ⟨r, hr, hrs⟩ := Option.bind_eq_some_iff.mp hs
    obtain ⟨b, hb, hbr⟩ := Option.bind_eq_some_iff.mp hr
    obtain ⟨b', c', hb', hc', hiff⟩ := hname n b hb
    obtain ⟨e, he, hbe⟩ := hall n b' hb'
    obtain rfl := Option.some.inj (hc'.symm.trans he)
    exact hiff.mp hbe a s (Option.bind_eq_some_iff.mpr ⟨r, hbr, hrs⟩) habove
  · intro hall n b' hb'
    obtain ⟨b, hb, -⟩ := Table.Related.exists_get? (Table.Related.flip h₁) hb'
    obtain ⟨b₁, c', hb₁, hc', hiff⟩ := hname n b hb
    obtain rfl := Option.some.inj (hb₁.symm.trans hb')
    refine ⟨c', hc', hiff.mpr fun a s hs habove => hall n a s ?_ habove⟩
    rw [hb]
    exact hs

theorem ProfilesBecome.isProper {ps ps' : Profiles} (h : ProfilesBecome q ps ps')
    (hps : ps.IsProper) : ps'.IsProper := by
  refine ⟨fun t n b ht hb => ?_, h.extra ▸ hps.extra⟩
  have hcompute := h.compute
  rw [ht] at hcompute
  generalize hs : ps.compute = o at hcompute
  cases hcompute with
  | some hrel =>
    obtain ⟨b₀, hb₀, hbecomes⟩ := Table.Related.exists_get? (Table.Related.flip hrel) hb
    exact ProfileBecomes.isProper hbecomes (hps.compute _ n b₀ hs hb₀)

/-- The compute profiles of some **profiles**, none if they are left out. -/
abbrev computeOf (ps : Profiles) : Table ComputeProfile := ps.compute.getD .empty

theorem ProfilesBecome.alike_iff {ps ks ps' ks' : Profiles} (hps : ps.IsProper)
    (hks : ks.IsProper) (h : Alike Profiles.toValue ps ks) (h₁ : ProfilesBecome q ps ps')
    (h₂ : ProfilesBecome q' ks ks') :
    Alike Profiles.toValue ps' ks' ↔
      ∀ n a s, (((computeOf ps).get? n).bind (·.resources)).bind (amountOf? a) = some s →
        IsAbove a s → (q n a ↔ q' n a) := by
  obtain ⟨hcompute, hothers⟩ := (Profiles.alike_iff hps hks).mp h
  rw [Profiles.alike_iff (h₁.isProper hps) (h₂.isProper hks), h₁.placement, h₂.placement, h₁.extra,
    h₂.extra, and_iff_left hothers, computeOf]
  have hc₁ := h₁.compute
  have hc₂ := h₂.compute
  have hp₁ := hps.compute
  have hp₂ := hks.compute
  generalize ps.compute = o at hcompute hc₁ hp₁
  generalize ks.compute = o₀ at hcompute hc₂ hp₂
  generalize ps'.compute = o₁ at hc₁
  generalize ks'.compute = o₂ at hc₂
  cases hcompute with
  | none =>
    cases hc₁
    cases hc₂
    simp [Table.get?, Table.empty]
  | some ht =>
    cases hc₁ with
    | some hc₁ =>
      cases hc₂ with
      | some hc₂ =>
        rw [Option.rel_some_some]
        exact alike_related_iff (fun n b => hp₁ _ n b rfl) (fun n b => hp₂ _ n b rfl) ht hc₁ hc₂

theorem DocumentBecomes.isProper {d d' : Document} (h : DocumentBecomes q d d')
    (hd : d.IsProper) : d'.IsProper := by
  refine ⟨fun ps hps => ?_, h.extra ▸ hd.extra⟩
  obtain ⟨ps₀, hps₀, hbecomes⟩ := exists_of_rel_some h.profiles hps
  exact hbecomes.isProper (hd.profiles ps₀ hps₀)

/-- **Documents** in two spellings become equal, if under each name the same amounts above their
thresholds are looked into. -/
theorem DocumentBecomes.eqv_iff {d e d' e' : Document} (hd : d.IsProper) (he : e.IsProper)
    (h : d.eqv e = true) (h₁ : DocumentBecomes q d d') (h₂ : DocumentBecomes q' e e') :
    d'.eqv e' = true ↔
      ∀ n a s, amountUnder? d n a = some s → IsAbove a s → (q n a ↔ q' n a) := by
  obtain ⟨hprofiles, hothers⟩ := (Document.alike_iff hd he).mp h
  rw [Document.alike_iff (h₁.isProper hd) (h₂.isProper he), h₁.version, h₂.version, h₁.services,
    h₂.services, h₁.deployment, h₂.deployment, h₁.extra, h₂.extra, and_iff_left hothers]
  simp only [amountUnder?, Document.computeProfiles]
  have hp₁ := h₁.profiles
  have hp₂ := h₂.profiles
  have hd' := hd.profiles
  have he' := he.profiles
  generalize d.profiles = o at hprofiles hp₁ hd'
  generalize e.profiles = o₀ at hprofiles hp₂ he'
  generalize d'.profiles = o₁ at hp₁
  generalize e'.profiles = o₂ at hp₂
  cases hprofiles with
  | none =>
    cases hp₁
    cases hp₂
    simp [Table.get?, Table.empty]
  | some hps =>
    cases hp₁ with
    | some hp₁ =>
      cases hp₂ with
      | some hp₂ =>
        rw [Option.rel_some_some]
        exact ProfilesBecome.alike_iff (hd' _ rfl) (he' _ rfl) hps hp₁ hp₂

/-! ### Data -/

/-- **Two spellings of one document** are both documents still when they have been made smaller, and
these are equal exactly when the same amounts above their thresholds were reached in both. -/
theorem eqv_iff_of_resize {x y x' y' : Value} {d e : Document} (hx : x.Unshared)
    (hy : y.Unshared) (hxkeys : HasDistinctKeys x) (hykeys : HasDistinctKeys y)
    (hd : Document.parse (.data x) = .ok d) (he : Document.parse (.data y) = .ok e)
    (h : d.eqv e = true) (hx' : resize x = .ok x') (hy' : resize y = .ok y') :
    ∃ d' e', Document.parse (.data x') = .ok d' ∧ Document.parse (.data y') = .ok e' ∧
      (d'.eqv e' = true ↔ ∀ n a s, amountUnder? d n a = some s → IsAbove a s →
        (Reaches x n a ↔ Reaches y n a)) := by
  obtain ⟨d', hd', hd₁⟩ := exists_becomes_resize hx hxkeys hd hx'
  obtain ⟨e', he', he₁⟩ := exists_becomes_resize hy hykeys he hy'
  exact ⟨d', e', hd', he', hd₁.eqv_iff (Document.isProper_of_read (read_of_parse hd))
    (Document.isProper_of_read (read_of_parse he)) h he₁⟩

/-! ### Two spellings of one service -/

theorem atField_ofFields {P : Value → Prop} {name : String} {fields : List (String × Value)}
    {v : Value} (hget : Entries.get? (fields.map fun f => (.text f.1, f.2)) name = some v)
    (h : P v) : AtField name P (ofFields fields) := by
  rintro l es c ⟨⟩ hc
  obtain rfl := Option.some.inj (hget.symm.trans hc)
  exact h

/-- An amount that is **not given as bytes** is looked into in the data of one service. -/
theorem looksInto_oneService {units size storage : Value} (hunits : NotBytes units)
    (hsize : NotBytes size) (hstorage : NotBytes storage) (n : String) (a : Amount) :
    LooksInto (oneService units size storage) n a := by
  refine atField_ofFields rfl (atField_ofFields rfl ?_)
  rintro l es ⟨⟩ e he -
  obtain rfl := List.mem_singleton.mp he
  cases a with
  | cpu =>
    exact atField_ofFields rfl (atField_ofFields rfl (atField_ofFields rfl hunits))
  | memory =>
    exact atField_ofFields rfl (atField_ofFields rfl (atField_ofFields rfl hsize))
  | volume =>
    have hplain : HasPlainStorage (ofFields [("size", storage)]) := atField_ofFields rfl hstorage
    exact atField_ofFields rfl (atField_ofFields rfl hplain)

/-- Whether two results of right-sizing are read as **equal documents**, if there are any. -/
def sameResults? (x y : Value) : Option Bool := do
  let d ← (Document.parse (.data (← (resize x).toOption))).toOption
  let e ← (Document.parse (.data (← (resize y).toOption))).toOption
  return d.eqv e

/-- Three cores are **the same as a text and as a number**. -/
theorem eqv_of_resize_threeCores :
    ∃ d e x' y' d' e',
      Document.parse (.data (oneService (.text "3") (.text "3Gi") (.text "6Gi"))) = .ok d ∧
      Document.parse (.data (oneService (.int 3) (.text "3Gi") (.text "6Gi"))) = .ok e ∧
      d.eqv e = true ∧
      resize (oneService (.text "3") (.text "3Gi") (.text "6Gi")) = .ok x' ∧
      resize (oneService (.int 3) (.text "3Gi") (.text "6Gi")) = .ok y' ∧
      Document.parse (.data x') = .ok d' ∧ Document.parse (.data y') = .ok e' ∧
      d'.eqv e' = true := by
  obtain ⟨x, hx⟩ : ∃ v, v = oneService (.text "3") (.text "3Gi") (.text "6Gi") := ⟨_, rfl⟩
  obtain ⟨y, hy⟩ : ∃ v, v = oneService (.int 3) (.text "3Gi") (.text "6Gi") := ⟨_, rfl⟩
  have hequal : ((Document.parse (.data x)).toOption.bind fun d =>
      (Document.parse (.data y)).toOption.map d.eqv) = some true := by
    rw [hx, hy]
    decide +kernel
  have hresize : (resize x).toOption.isSome = true := by
    rw [hx]
    decide +kernel
  have hresize' : (resize y).toOption.isSome = true := by
    rw [hy]
    decide +kernel
  obtain ⟨d, hd, hequal⟩ := Option.bind_eq_some_iff.mp hequal
  obtain ⟨e, he, hequal⟩ := Option.map_eq_some_iff.mp hequal
  obtain ⟨x', hx'⟩ := Option.isSome_iff_exists.mp hresize
  obtain ⟨y', hy'⟩ := Option.isSome_iff_exists.mp hresize'
  rw [toOption_eq_some_iff] at hd he hx' hy'
  have htext : ∀ s, HasDistinctKeys (.text s) := fun s => hasDistinctKeys_of_atom nofun nofun
  have hint : HasDistinctKeys (.int 3) := hasDistinctKeys_of_atom nofun nofun
  have hkeys : HasDistinctKeys x := hx ▸ hasDistinctKeys_oneService (htext _) (htext _) (htext _)
  have hkeys' : HasDistinctKeys y := hy ▸ hasDistinctKeys_oneService hint (htext _) (htext _)
  obtain ⟨d', e', hd', he', hiff⟩ := eqv_iff_of_resize
    (hx ▸ unshared_oneService (Value.unlabelled_text _) (Value.unlabelled_text _)
      (Value.unlabelled_text _))
    (hy ▸ unshared_oneService (Value.unlabelled_int _) (Value.unlabelled_text _)
      (Value.unlabelled_text _)) hkeys hkeys' hd he hequal hx' hy'
  have hplain : ∀ s, NotBytes (.text s) := fun s bs => nofun
  have hnumber : NotBytes (.int 3) := fun bs => nofun
  refine ⟨d, e, x', y', d', e', hx ▸ hd, hy ▸ he, hequal, hx ▸ hx', hy ▸ hy', hd', he',
    hiff.mpr fun n a _ _ _ => iff_of_true ?_ ?_⟩
  · exact LooksInto.reaches hkeys
      (hx ▸ looksInto_oneService (hplain _) (hplain _) (hplain _) n a)
  · exact LooksInto.reaches hkeys'
      (hy ▸ looksInto_oneService hnumber (hplain _) (hplain _) n a)

/-- Two spellings of one document **need not become equal**: two gibibytes of memory are halved when
they are given as a text, and kept when they are given as bytes. -/
theorem not_forall_eqv_of_resize :
    ¬∀ (x y x' y' : Value) (d e : Document), x.Unshared → y.Unshared → HasDistinctKeys x →
      HasDistinctKeys y → Document.parse (.data x) = .ok d → Document.parse (.data y) = .ok e →
      d.eqv e = true → resize x = .ok x' → resize y = .ok y' →
      ∃ d' e', Document.parse (.data x') = .ok d' ∧ Document.parse (.data y') = .ok e' ∧
        d'.eqv e' = true := by
  intro hall
  obtain ⟨x, hx⟩ : ∃ v, v = oneService (.text "1") (.text "2Gi") (.text "1Gi") := ⟨_, rfl⟩
  obtain ⟨y, hy⟩ : ∃ v, v = oneService (.text "1") (.bytes [50, 71, 105]) (.text "1Gi") :=
    ⟨_, rfl⟩
  have hequal : ((Document.parse (.data x)).toOption.bind fun d =>
      (Document.parse (.data y)).toOption.map d.eqv) = some true := by
    rw [hx, hy]
    decide +kernel
  have hresults : sameResults? x y = some false := by
    rw [hx, hy]
    decide +kernel
  obtain ⟨d, hd, hequal⟩ := Option.bind_eq_some_iff.mp hequal
  obtain ⟨e, he, hequal⟩ := Option.map_eq_some_iff.mp hequal
  obtain ⟨x', hx', hresults⟩ := Option.bind_eq_some_iff.mp hresults
  obtain ⟨d₁, hd₁, hresults⟩ := Option.bind_eq_some_iff.mp hresults
  obtain ⟨y', hy', hresults⟩ := Option.bind_eq_some_iff.mp hresults
  obtain ⟨e₁, he₁, hresults⟩ := Option.bind_eq_some_iff.mp hresults
  rw [toOption_eq_some_iff] at hd he hx' hy' hd₁ he₁
  have htext : ∀ s, HasDistinctKeys (.text s) := fun s => hasDistinctKeys_of_atom nofun nofun
  have hbytes : HasDistinctKeys (.bytes [50, 71, 105]) := hasDistinctKeys_of_atom nofun nofun
  obtain ⟨d', e', hd', he', heqv⟩ := hall x y x' y' d e
    (hx ▸ unshared_oneService (Value.unlabelled_text _) (Value.unlabelled_text _)
      (Value.unlabelled_text _))
    (hy ▸ unshared_oneService (Value.unlabelled_text _) (Value.unlabelled_bytes _)
      (Value.unlabelled_text _))
    (hx ▸ hasDistinctKeys_oneService (htext _) (htext _) (htext _))
    (hy ▸ hasDistinctKeys_oneService (htext _) hbytes (htext _)) hd he hequal hx' hy'
  obtain rfl := Except.ok.inj (hd₁.symm.trans hd')
  obtain rfl := Except.ok.inj (he₁.symm.trans he')
  rw [heqv] at hresults
  cases hresults

end StackManifest.RightSizing
