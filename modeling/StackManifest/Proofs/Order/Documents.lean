import Mathlib.Data.List.Forall2
import StackManifest.Proofs.Tables
import StackManifest.Proofs.Traversal

/-!
# Documents in another order

The sections of a document, its price lists and what is deployed of a service are tables, and a table
has an order. Two documents that differ in that order only are `StackManifest.Document.Reordered`.
They have the same entries under the same names, so whatever is looked up in one of them is looked up
in the other one (`StackManifest.Table.Reordered.rel_get?`), and they deploy the same pairs, in some
order (`StackManifest.Document.Reordered.pairs_perm`).

Every document is reordered by turning its tables round
(`StackManifest.Document.reordered_reversed`).
-/

namespace StackManifest

/-! ### Tables -/

namespace Table

variable {α β : Type} {R : α → β → Prop} {s : Table α} {t : Table β}

/-- Two tables **in another order**: they have the same names, and the values under each name are
related. -/
def Reordered (R : α → β → Prop) (s : Table α) (t : Table β) : Prop :=
  ∃ es, s.toList.Perm es ∧ List.Forall₂ (fun a b => a.1 = b.1 ∧ R a.2 b.2) es t.toList

theorem reordered_eq_iff {s t : Table α} :
    Reordered (· = ·) s t ↔ s.toList.Perm t.toList := by
  have heq : (fun a b : String × α => a.1 = b.1 ∧ a.2 = b.2) = (· = ·) := by
    funext a b
    rw [Prod.ext_iff]
  constructor
  · rintro ⟨es, hperm, hes⟩
    rw [heq, List.forall₂_eq_eq_eq] at hes
    exact hes ▸ hperm
  · intro h
    refine ⟨t.toList, h, ?_⟩
    rw [heq, List.forall₂_eq_eq_eq]

namespace Reordered

/-- Each entry of a table has one with the same name in the other table. -/
theorem exists_mem (h : Reordered R s t) {k : String} {a : α} (ha : (k, a) ∈ s.toList) :
    ∃ b, (k, b) ∈ t.toList ∧ R a b := by
  obtain ⟨es, hperm, hes⟩ := h
  obtain ⟨⟨k', b⟩, hb, hname, hR⟩ := exists_of_mem_forall₂ hes.flip (hperm.mem_iff.mp ha)
  obtain rfl : k = k' := hname
  exact ⟨b, hb, hR⟩

theorem exists_mem' (h : Reordered R s t) {k : String} {b : β} (hb : (k, b) ∈ t.toList) :
    ∃ a, (k, a) ∈ s.toList ∧ R a b := by
  obtain ⟨es, hperm, hes⟩ := h
  obtain ⟨⟨k', a⟩, ha, hname, hR⟩ := exists_of_mem_forall₂ hes hb
  obtain rfl : k' = k := hname
  exact ⟨a, hperm.mem_iff.mpr ha, hR⟩

/-- **What is looked up** in tables that differ in their order is related. -/
theorem rel_get? (h : Reordered R s t) (k : String) : Option.Rel R (s.get? k) (t.get? k) := by
  cases hs : s.get? k with
  | some a =>
    obtain ⟨b, hb, hR⟩ := h.exists_mem (get?_eq_some_iff.mp hs)
    rw [get?_eq_some_iff.mpr hb]
    exact .some hR
  | none =>
    cases ht : t.get? k with
    | none => exact .none
    | some b =>
      obtain ⟨a, ha, -⟩ := h.exists_mem' (get?_eq_some_iff.mp ht)
      rw [get?_eq_some_iff.mpr ha] at hs
      cases hs

theorem get?_eq {s t : Table α} (h : Reordered (· = ·) s t) (k : String) : s.get? k = t.get? k := by
  have hrel := h.rel_get? k
  generalize s.get? k = a at hrel
  generalize t.get? k = b at hrel
  cases hrel with
  | none => rfl
  | some h => exact congrArg some h

theorem contains_eq (h : Reordered R s t) (k : String) : s.contains k = t.contains k := by
  have hrel := h.rel_get? k
  rw [contains, contains]
  generalize s.get? k = a at hrel
  generalize t.get? k = b at hrel
  cases hrel with
  | none => rfl
  | some _ => rfl

theorem isEmpty_eq (h : Reordered R s t) : s.isEmpty = t.isEmpty := by
  obtain ⟨es, hperm, hes⟩ := h
  have hlength : s.toList.length = t.toList.length := hperm.length_eq.trans hes.length_eq
  rw [isEmpty, isEmpty, Bool.eq_iff_iff, List.isEmpty_iff_length_eq_zero,
    List.isEmpty_iff_length_eq_zero, hlength]

/-- What is listed for each entry is the same for both tables, **in some order**, if it is for each
name. -/
theorem perm_flatMap (h : Reordered R s t) {γ : Type} {f : String × α → List γ}
    {g : String × β → List γ} (hfg : ∀ k a b, R a b → (f (k, a)).Perm (g (k, b))) :
    (s.toList.flatMap f).Perm (t.toList.flatMap g) := by
  obtain ⟨es, hperm, hes⟩ := h
  refine (hperm.flatMap_right f).trans ?_
  clear hperm
  generalize t.toList = fs at hes
  induction hes with
  | nil => exact .nil
  | @cons a b es fs hab _ ih =>
    obtain ⟨k, a⟩ := a
    obtain ⟨k', b⟩ := b
    obtain ⟨rfl, hR⟩ : k = k' ∧ R a b := hab
    rw [List.flatMap_cons, List.flatMap_cons]
    exact (hfg k a b hR).append ih

end Reordered

/-! ### Turning a table round -/

/-- A table with its entries from the **last to the first**. -/
def reversed (t : Table α) : Table α :=
  ⟨t.toList.reverse, (t.toList.reverse_perm.map _).nodup_iff.mpr t.nodup⟩

/-- A table is in another order when it is turned round with each value replaced by a related one. -/
theorem reordered_reversed_map {f : α → β} (h : ∀ a, R a (f a)) (t : Table α) :
    Reordered R t (t.reversed.map f) := by
  refine ⟨t.toList.reverse, t.toList.reverse_perm.symm, ?_⟩
  change List.Forall₂ _ t.toList.reverse (t.toList.reverse.map fun e => (e.1, f e.2))
  rw [List.forall₂_map_right_iff, List.forall₂_same]
  exact fun e _ => ⟨rfl, h e.2⟩

theorem reordered_reversed (t : Table α) : Reordered (· = ·) t t.reversed :=
  reordered_eq_iff.mpr t.toList.reverse_perm.symm

end Table

/-! ### Documents -/

/-- Two placement profiles that differ in the **order of their prices** only. -/
structure PlacementProfile.Reordered (p q : PlacementProfile) : Prop where
  attributes : p.attributes = q.attributes
  signedBy : p.signedBy = q.signedBy
  pricing : Table.Reordered (· = ·) p.pricing q.pricing
  extra : p.extra = q.extra

/-- Two sections of profiles that differ in the **order of the profiles** only, and of the prices in
them. -/
structure Profiles.Reordered (p q : Profiles) : Prop where
  compute : Option.Rel (Table.Reordered (· = ·)) p.compute q.compute
  placement : Option.Rel (Table.Reordered PlacementProfile.Reordered) p.placement q.placement
  extra : p.extra = q.extra

/-- Two documents that differ in the **order of the entries** of their sections only, of the prices
in them, and of what is deployed of each service. -/
structure Document.Reordered (d e : Document) : Prop where
  version : d.version = e.version
  services : Table.Reordered (· = ·) d.services e.services
  profiles : Option.Rel Profiles.Reordered d.profiles e.profiles
  deployment : Table.Reordered (Table.Reordered (· = ·)) d.deployment e.deployment
  extra : d.extra = e.extra

namespace Document

variable {d e : Document}

namespace Reordered

/-- A section of profiles, empty where it is missing. -/
theorem rel_section {α : Type} {R : α → α → Prop} {f : Profiles → Option (Table α)}
    {o o' : Option Profiles} (h : Option.Rel Profiles.Reordered o o')
    (hf : ∀ p q, Profiles.Reordered p q → Option.Rel (Table.Reordered R) (f p) (f q)) :
    Table.Reordered R ((o.bind f).getD .empty) ((o'.bind f).getD .empty) := by
  have hempty : Table.Reordered R .empty .empty := ⟨[], .nil, .nil⟩
  cases h with
  | none => exact hempty
  | @some p q hpq =>
    have hrel := hf p q hpq
    rw [Option.bind_some, Option.bind_some]
    generalize f p = t at hrel
    generalize f q = u at hrel
    cases hrel with
    | none => exact hempty
    | some ht => exact ht

theorem computeProfiles (h : d.Reordered e) :
    Table.Reordered (· = ·) d.computeProfiles e.computeProfiles :=
  rel_section h.profiles fun _ _ hp => hp.compute

theorem placementProfiles (h : d.Reordered e) :
    Table.Reordered PlacementProfile.Reordered d.placementProfiles e.placementProfiles :=
  rel_section h.profiles fun _ _ hp => hp.placement

/-- **The deployed pairs** are the same, in some order. -/
theorem pairs_perm (h : d.Reordered e) : d.pairs.Perm e.pairs := by
  refine h.deployment.perm_flatMap fun service placements placements' hplacements => ?_
  exact (Table.reordered_eq_iff.mp hplacements).map _

end Reordered

/-! ### Turning a document round -/

/-- What is replaced by something related, if it is there. -/
theorem rel_map {α β : Type} {R : α → β → Prop} {f : α → β} (h : ∀ a, R a (f a)) (o : Option α) :
    Option.Rel R o (o.map f) := by
  cases o with
  | none => exact .none
  | some a => exact .some (h a)

/-- A document with the entries of all its sections from the **last to the first**. -/
def reversed (d : Document) : Document :=
  { d with
    services := d.services.reversed,
    profiles := d.profiles.map fun p =>
      { p with
        compute := p.compute.map Table.reversed,
        placement := p.placement.map fun t =>
          t.reversed.map fun q => { q with pricing := q.pricing.reversed } },
    deployment := d.deployment.reversed.map Table.reversed }

/-- Turning a document round changes **nothing but its order**. -/
theorem reordered_reversed (d : Document) : d.Reordered d.reversed where
  version := rfl
  services := Table.reordered_reversed _
  profiles := rel_map (fun p => ⟨rel_map Table.reordered_reversed p.compute,
    rel_map (Table.reordered_reversed_map fun q => ⟨rfl, rfl, q.pricing.reordered_reversed, rfl⟩)
      p.placement, rfl⟩) d.profiles
  deployment := Table.reordered_reversed_map Table.reordered_reversed _
  extra := rfl

end Document

end StackManifest
