import StackManifest.Proofs.Reading.Parts
import StackManifest.Proofs.Reading.Sections

/-!
# What hinges on one place

Data is changed in **one place** when two values differ in one entry (`StackManifest.InEntry`), in
one element of a list (`StackManifest.InElement`), or when one of them has an entry more
(`StackManifest.HasEntry`). Two things are asked of a reading then: whether it still succeeds, which
may hinge on some condition, and what it finds in the place. `StackManifest.Hinges` asks both at
once, and a reading that is put together from others hinges on what they do. The statements follow
the readings:

| reading | place | theorem |
|---|---|---|
| a value that may be missing | the value | `StackManifest.Hinges.optional` |
| a section | the value under a key | `StackManifest.Hinges.named` |
| a section | an entry more | `StackManifest.Hinges.hasEntry` |
| a list | an element | `StackManifest.Hinges.listed` |
| a part | a field | `StackManifest.Hinges.field` |
| a part in a section | a field | `StackManifest.Hinges.normalized` |

The last two need to know that the part is read from the field, and otherwise from what is not the
field: `StackManifest.IsField`. At the innermost place stands a reference, and everything hinges on
whether it is a name (`StackManifest.Hinges.refers`).
-/

namespace StackManifest

open Checked

variable {α β : Type}

/-! ### One place in some data -/

/-- Mappings that differ in **one entry**, the last one with its name. -/
inductive InEntry (k : Value) (D : Value → Value → Prop) : Value → Value → Prop where
  | mk {l : Label} {before after : Entries} {c w : Value} :
    before.IsLast k after → D c w →
    InEntry k D (.map l (before ++ (k, c) :: after)) (.map l (before ++ (k, w) :: after))

/-- Mappings of which the second has **one entry more**, the last one with its name. -/
inductive HasEntry (k w : Value) : Value → Value → Prop where
  | mk {l : Label} {before after : Entries} : before.IsLast k after →
    HasEntry k w (.map l (before ++ after)) (.map l (before ++ (k, w) :: after))

/-- Sequences that differ in **one element**, at a position. -/
inductive InElement (i : Nat) (D : Value → Value → Prop) : Value → Value → Prop where
  | list {l : Label} {before after : List Value} {c w : Value} : before.length = i → D c w →
    InElement i D (.list l (before ++ c :: after)) (.list l (before ++ w :: after))
  | tuple {before after : List Value} {c w : Value} : before.length = i → D c w →
    InElement i D (.tuple (before ++ c :: after)) (.tuple (before ++ w :: after))

/-- Nothing, and **a reference**. -/
def Refers (n : Value) (c w : Value) : Prop := c = .null ∧ w = n

section Places

variable {k w v v' : Value} {i : Nat} {D : Value → Value → Prop}

theorem InEntry.ne_null (h : InEntry k D v v') : v ≠ .null ∧ v' ≠ .null := by
  cases h
  simp

theorem HasEntry.ne_null (h : HasEntry k w v v') : v ≠ .null ∧ v' ≠ .null := by
  cases h
  simp

/-- The entry of a **field** is the one under its name. -/
theorem InEntry.exists_differ {name : String} (h : InEntry (.text name) D v v') :
    ∃ l es es' c w, v = .map l es ∧ v' = .map l es' ∧ D c w ∧ Entries.Differ name c w es es' := by
  cases h with
  | @mk l before after c w hlast hcw =>
    exact ⟨l, _, _, c, w, rfl, rfl, hcw, Entries.differ_of_lacks hlast.distinct⟩

end Places

/-! ### What hinges on one place -/

/-- Whether data that is changed in one place is still read **hinges on a condition**, and what is
read of it is then found. -/
structure Hinges (D : Value → Value → Prop) (read : Value → Checked α) (C : Prop)
    (F : α → Prop) : Prop where
  succeeds : ∀ v v' a, D v v' → read v = .ok a → C → ∃ a', read v' = .ok a'
  finds : ∀ v v' a', D v v' → read v' = .ok a' → F a'

section Hinges

variable {D : Value → Value → Prop} {read : Value → Checked α} {C : Prop} {F G : α → Prop}

theorem Hinges.mono (h : Hinges D read C F) (hF : ∀ a, F a → G a) : Hinges D read C G :=
  ⟨h.succeeds, fun v v' a' hv ha => hF a' (h.finds v v' a' hv ha)⟩

/-- **A reference is read** if it is a text or a number. -/
theorem Hinges.refers {n : Value} (hn : n ≠ .null) :
    Hinges (Refers n) (Scalar.optional Scalar.named) (∃ name, Scalar.named n = .ok name)
      fun o => ∃ name, Scalar.named n = .ok name ∧ o = some name := by
  constructor
  · rintro _ _ _ ⟨rfl, rfl⟩ - ⟨name, hname⟩
    exact ⟨some name, Scalar.optional_eq_ok_iff.mpr (.inr ⟨hn, name, hname, rfl⟩)⟩
  · rintro _ _ o ⟨rfl, rfl⟩ ho
    rcases Scalar.optional_eq_ok_iff.mp ho with ⟨hnull, -⟩ | ⟨-, name, hname, rfl⟩
    · exact absurd hnull hn
    · exact ⟨name, hname, rfl⟩

theorem Hinges.optional (h : Hinges D read C F)
    (hnull : ∀ v v', D v v' → v ≠ .null ∧ v' ≠ .null) :
    Hinges D (Scalar.optional read) C fun o => ∃ a, o = some a ∧ F a := by
  constructor
  · intro v v' o hv ho hC
    rcases Scalar.optional_eq_ok_iff.mp ho with ⟨hv₀, -⟩ | ⟨-, a, ha, -⟩
    · exact absurd hv₀ (hnull v v' hv).1
    · obtain ⟨a', ha'⟩ := h.succeeds v v' a hv ha hC
      exact ⟨some a', Scalar.optional_eq_ok_iff.mpr (.inr ⟨(hnull v v' hv).2, a', ha', rfl⟩)⟩
  · intro v v' o hv ho
    rcases Scalar.optional_eq_ok_iff.mp ho with ⟨hv₀, -⟩ | ⟨-, a, ha, rfl⟩
    · exact absurd hv₀ (hnull v v' hv).2
    · exact ⟨a, rfl, h.finds v v' a hv ha⟩

/-- **One value of a section.** -/
theorem Hinges.named {depth : Nat} (k : Value)
    (h : Hinges D (fun v => (normalize depth v).bind read) C F) :
    Hinges (InEntry k D) (readNamed depth read) C
      fun t => ∃ name a, keyName k = .ok name ∧ t.get? name = some a ∧ F a := by
  constructor
  · rintro _ _ t ⟨hlast, hcw⟩ ht hC
    obtain ⟨-, a, -, ha, -⟩ := get?_of_readNamed hlast ht
    obtain ⟨a', ha'⟩ := h.succeeds _ _ a hcw ha hC
    exact exists_readNamed_of_changed hlast ht ha'
  · rintro _ _ t ⟨hlast, hcw⟩ ht
    obtain ⟨name, a, hname, ha, hget⟩ := get?_of_readNamed hlast ht
    exact ⟨name, a, hname, hget, h.finds _ _ a hcw ha⟩

/-- **One value more in a section**, if its key has a name. -/
theorem Hinges.hasEntry {depth : Nat} {k w : Value} {a : α}
    (ha : (normalize depth w).bind read = .ok a) :
    Hinges (HasEntry k w) (readNamed depth read) (∃ name, keyName k = .ok name)
      fun t => ∃ name, keyName k = .ok name ∧ t.get? name = some a := by
  constructor
  · rintro _ _ t ⟨hlast⟩ ht ⟨name, hname⟩
    exact exists_readNamed_of_rest hlast ht hname ha
  · rintro _ _ t ⟨hlast⟩ ht
    obtain ⟨name, a', hname, ha', hget⟩ := get?_of_readNamed hlast ht
    obtain rfl := Checked.ok.inj (ha.symm.trans ha')
    exact ⟨name, hname, hget⟩

/-- **One element of a list.** -/
theorem Hinges.listed (i : Nat) (h : Hinges D read C F) :
    Hinges (InElement i D) (fun v => listOf read (emptyIfNull v)) C
      fun as => ∃ a, as[i]? = some a ∧ F a := by
  have hsucceeds : ∀ (before after : List Value) (c w : Value) (as : List α), D c w → C →
      List.Forall₂ (fun x a => read x = .ok a) (before ++ c :: after) as →
      ∃ as', List.Forall₂ (fun x a => read x = .ok a) (before ++ w :: after) as' := by
    intro before after c w as hcw hC has
    obtain ⟨bs, a, cs, rfl, hbs, ha, hcs⟩ := exists_of_forall₂_around has
    obtain ⟨a', ha'⟩ := h.succeeds c w a hcw ha hC
    exact ⟨bs ++ a' :: cs, List.rel_append hbs (.cons ha' hcs)⟩
  have hfinds : ∀ (before after : List Value) (c w : Value) (as : List α), D c w →
      before.length = i → List.Forall₂ (fun x a => read x = .ok a) (before ++ w :: after) as →
      ∃ a, as[i]? = some a ∧ F a := by
    intro before after c w as hcw hi has
    obtain ⟨bs, a, cs, rfl, hbs, ha, -⟩ := exists_of_forall₂_around has
    refine ⟨a, ?_, h.finds c w a hcw ha⟩
    rw [← hi, hbs.length_eq]
    simp
  constructor
  · intro v v' as hv has hC
    cases hv with
    | list hi hcw =>
      obtain ⟨as', has'⟩ := hsucceeds _ _ _ _ as hcw hC (listOf_eq_ok_iff.mp has)
      exact ⟨as', listOf_eq_ok_iff.mpr has'⟩
    | tuple hi hcw =>
      obtain ⟨as', has'⟩ := hsucceeds _ _ _ _ as hcw hC (listOf_eq_ok_iff (l := 0).mp has)
      exact ⟨as', listOf_eq_ok_iff (l := 0).mpr has'⟩
  · intro v v' as hv has
    cases hv with
    | list hi hcw => exact hfinds _ _ _ _ as hcw hi (listOf_eq_ok_iff.mp has)
    | tuple hi hcw => exact hfinds _ _ _ _ as hcw hi (listOf_eq_ok_iff (l := 0).mp has)

end Hinges

/-! ### Fields -/

/-- **A field of a part**: the part is read from the field and from what else there is, and the
two do not depend on each other. -/
structure IsField (read : Value → Checked α) (name : String) (f : Value → Checked β)
    (get : α → β) : Prop where
  changes : ∀ {l es es' c w a b}, Entries.Differ name c w es es' → read (.map l es) = .ok a →
    f w = .ok b → ∃ a', read (.map l es') = .ok a'
  reads : ∀ {l es c a}, Entries.get? es name = some c → read (.map l es) = .ok a →
    f c = .ok (get a)

section Fields

variable {read : Value → Checked α} {name : String} {f : Value → Checked β} {get : α → β}
  {D : Value → Value → Prop} {C : Prop} {F : β → Prop}

theorem IsField.of (default : β) (set : α → β → α) (others : Entries → α → Prop)
    (hread : ∀ {l es a}, read (.map l es) = .ok a ↔
      Fields.read es [name] default f = .ok (get a) ∧ others es a)
    (hothers : ∀ es es' c w a b, Entries.Differ name c w es es' → others es a →
      others es' (set a b))
    (hget : ∀ a b, get (set a b) = b) : IsField read name f get := by
  constructor
  · intro l es es' c w a b hes ha hb
    refine ⟨set a b, hread.mpr ⟨?_, hothers es es' c w a b hes (hread.mp ha).2⟩⟩
    rw [(Fields.read_of_differ hes).2, inside_eq_ok_iff, hget]
    exact hb
  · intro l es c a hc ha
    have hfield := (hread.mp ha).1
    rwa [Fields.read_of_get? hc, inside_eq_ok_iff] at hfield

theorem get?_around {before after : Entries} {c : Value} (h : before.Lacks name) :
    Entries.get? (before ++ (.text name, c) :: after) name = some c := by
  rw [Entries.get?_append_of_lacks h, Entries.get?_cons_text, if_pos rfl]

theorem Hinges.field (hfield : IsField read name f get) (h : Hinges D f C F) :
    Hinges (InEntry (.text name) D) read C fun a => F (get a) := by
  constructor
  · intro v v' a hv ha hC
    obtain ⟨l, es, es', c, w, rfl, rfl, hcw, hdiffer⟩ := hv.exists_differ
    obtain ⟨b, hb⟩ := h.succeeds c w _ hcw (hfield.reads hdiffer.get?.1 ha) hC
    exact hfield.changes hdiffer ha hb
  · intro v v' a' hv ha'
    obtain ⟨l, es, es', c, w, rfl, rfl, hcw, hdiffer⟩ := hv.exists_differ
    exact h.finds c w _ hcw (hfield.reads hdiffer.get?.2 ha')

/-- **A field of a value in a section**, where the keys of the value become texts as well. -/
theorem Hinges.normalized (hfield : IsField read name f get) (h : Hinges D f C F) :
    Hinges (InEntry (.text name) D) (fun v => (normalize 0 v).bind read) C fun a => F (get a) := by
  constructor
  · rintro _ _ a ⟨hlast, hcw⟩ ha hC
    obtain ⟨u, hu, ha⟩ := Checked.bind_eq_ok_iff.mp ha
    obtain ⟨before, after, rfl, hlacks, hchanged⟩ := exists_normalize_zero_around hlast hu
    obtain ⟨b, hb⟩ := h.succeeds _ _ _ hcw (hfield.reads (get?_around hlacks) ha) hC
    obtain ⟨a', ha'⟩ := hfield.changes (Entries.differ_of_lacks hlacks) ha hb
    exact ⟨a', Checked.bind_eq_ok_iff.mpr ⟨_, hchanged _, ha'⟩⟩
  · rintro _ _ a' ⟨hlast, hcw⟩ ha'
    obtain ⟨u, hu, ha'⟩ := Checked.bind_eq_ok_iff.mp ha'
    obtain ⟨before, after, rfl, hlacks, -⟩ := exists_normalize_zero_around hlast hu
    exact h.finds _ _ _ hcw (hfield.reads (get?_around hlacks) ha')

end Fields

theorem DeploymentEntry.isField_profile :
    IsField DeploymentEntry.read "profile" (Scalar.optional Scalar.named)
      DeploymentEntry.profile := by
  refine IsField.of none (fun a p => { a with profile := p })
    (fun es a => Fields.read es ["count"] none (Scalar.optional Scalar.integer) = .ok a.count ∧
      Fields.extra es [["profile"], ["count"]] = .ok a.extra) DeploymentEntry.read_eq_ok_iff
    (fun es es' c w a b hes ha => ?_) fun a b => rfl
  rw [Fields.read_eq_of_differ hes (by simp), Fields.extra_eq_of_differ hes (by simp)]
  exact ha

theorem ExposeTarget.isField_service :
    IsField ExposeTarget.read "service" (Scalar.optional Scalar.named) ExposeTarget.service := by
  refine IsField.of none (fun a s => { a with service := s })
    (fun es a => Fields.read es ["global", "global_"] none (Scalar.optional Scalar.boolean) =
        .ok a.isGlobal ∧
      Fields.extra es [["service"], ["global", "global_"]] = .ok a.extra)
    ExposeTarget.read_eq_ok_iff (fun es es' c w a b hes ha => ?_) fun a b => rfl
  rw [Fields.read_eq_of_differ hes (by simp), Fields.extra_eq_of_differ hes (by simp)]
  exact ha

theorem ExposeRule.isField_to :
    IsField ExposeRule.read "to" (fun v => listOf ExposeTarget.read (emptyIfNull v))
      ExposeRule.targets := by
  refine IsField.of [] (fun a ts => { a with targets := ts })
    (fun es a => Fields.read es ["port"] none (Scalar.optional Scalar.integer) = .ok a.port ∧
      Fields.read es ["as", "as_"] none (Scalar.optional Scalar.integer) = .ok a.externalPort ∧
      Fields.read es ["proto"] none (Scalar.optional Scalar.text) = .ok a.protocol ∧
      Fields.extra es [["port"], ["as", "as_"], ["proto"], ["to"]] = .ok a.extra)
    (ExposeRule.read_eq_ok_iff.trans (by tauto)) (fun es es' c w a b hes ha => ?_) fun a b => rfl
  rw [Fields.read_eq_of_differ hes (by simp), Fields.read_eq_of_differ hes (by simp),
    Fields.read_eq_of_differ hes (by simp), Fields.extra_eq_of_differ hes (by simp)]
  exact ha

theorem Service.isField_expose :
    IsField Service.read "expose" (fun v => listOf ExposeRule.read (emptyIfNull v))
      Service.expose := by
  refine IsField.of [] (fun a rs => { a with expose := rs })
    (fun es a => Fields.read es ["image"] none (Scalar.optional Scalar.text) = .ok a.image ∧
      Fields.read es ["env"] [] (fun v => listOf Scalar.text (emptyIfNull v)) = .ok a.env ∧
      Fields.read es ["command"] none (Scalar.optional (listOf Scalar.text)) = .ok a.command ∧
      Fields.read es ["args"] none (Scalar.optional (listOf Scalar.text)) = .ok a.args ∧
      Fields.extra es [["image"], ["expose"], ["env"], ["command"], ["args"]] = .ok a.extra)
    (Service.read_eq_ok_iff.trans (by tauto)) (fun es es' c w a b hes ha => ?_) fun a b => rfl
  rw [Fields.read_eq_of_differ hes (by simp), Fields.read_eq_of_differ hes (by simp),
    Fields.read_eq_of_differ hes (by simp), Fields.read_eq_of_differ hes (by simp),
    Fields.extra_eq_of_differ hes (by simp)]
  exact ha

theorem Profiles.isField_compute :
    IsField Profiles.read "compute" (readSection ComputeProfile.read) Profiles.compute := by
  refine IsField.of none (fun a c => { a with compute := c }) Profiles.ReadsOthers
    Profiles.read_eq_ok_iff (fun es es' c w a b hes ha => ?_) fun a b => rfl
  rw [Profiles.ReadsOthers, Fields.read_eq_of_differ hes (by simp),
    Fields.extra_eq_of_differ hes (by simp)]
  exact ha

theorem Document.isField_profiles :
    IsField Document.read "profiles" (Scalar.optional Profiles.read) Document.profiles := by
  refine IsField.of none (fun a p => { a with profiles := p }) Document.ReadsOthers
    Document.read_eq_ok_iff (fun es es' c w a b hes ha => ?_) fun a b => rfl
  rw [Document.ReadsOthers, Fields.read_eq_of_differ hes (by simp),
    Fields.read_eq_of_differ hes (by simp), Fields.read_eq_of_differ hes (by simp),
    Fields.extra_eq_of_differ hes (by simp)]
  exact ha

theorem Document.isField_services :
    IsField Document.read "services" (readNamed 0 Service.read) Document.services := by
  refine IsField.of .empty (fun a s => { a with services := s })
    (fun es a => Fields.read es ["profiles"] none (Scalar.optional Profiles.read) =
        .ok a.profiles ∧
      Fields.read es ["version"] none (Scalar.optional Scalar.named) = .ok a.version ∧
      Fields.read es ["deployment"] .empty (readNamed 1 (tableOf DeploymentEntry.read)) =
        .ok a.deployment ∧
      Fields.extra es [["version"], ["services"], ["profiles"], ["deployment"]] = .ok a.extra)
    (Document.read_eq_ok_iff.trans (by unfold Document.ReadsOthers readNamed; tauto))
    (fun es es' c w a b hes ha => ?_) fun a b => rfl
  rw [Fields.read_eq_of_differ hes (by simp), Fields.read_eq_of_differ hes (by simp),
    Fields.read_eq_of_differ hes (by simp), Fields.extra_eq_of_differ hes (by simp)]
  exact ha

theorem Document.isField_deployment :
    IsField Document.read "deployment" (readNamed 1 (tableOf DeploymentEntry.read))
      Document.deployment := by
  refine IsField.of .empty (fun a t => { a with deployment := t })
    (fun es a => Fields.read es ["profiles"] none (Scalar.optional Profiles.read) =
        .ok a.profiles ∧
      Fields.read es ["version"] none (Scalar.optional Scalar.named) = .ok a.version ∧
      Fields.read es ["services"] .empty (readNamed 0 Service.read) = .ok a.services ∧
      Fields.extra es [["version"], ["services"], ["profiles"], ["deployment"]] = .ok a.extra)
    (Document.read_eq_ok_iff.trans (by unfold Document.ReadsOthers readNamed; tauto))
    (fun es es' c w a b hes ha => ?_) fun a b => rfl
  rw [Fields.read_eq_of_differ hes (by simp), Fields.read_eq_of_differ hes (by simp),
    Fields.read_eq_of_differ hes (by simp), Fields.extra_eq_of_differ hes (by simp)]
  exact ha

end StackManifest
