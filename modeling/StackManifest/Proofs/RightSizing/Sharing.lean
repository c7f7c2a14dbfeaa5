import StackManifest.Proofs.RightSizing.Groups
import StackManifest.Proofs.RightSizing.Visits

/-!
# Right-sizing of shared data

Data that was written with references has containers that stand in several places, and a change in
one of these places is a change in all of them. What right-sizing does to such data is a run of
visits (`StackManifest.RightSizing.visited_of_resize`): an amount is halved once for each visit that
finds it above its threshold, in whatever place, and it changes in all its places.

Right-sizing takes a profile for what it is **by itself** as long as no such container lies around
an amount that is halved: then it replaces every profile by what becomes of it alone, and the rest
of the data stays as it is (`StackManifest.RightSizing.inProfiles_of_resize`). In general it does so
exactly when all visits of an amount together make of it what the visit of each of its places makes
of it alone (`StackManifest.RightSizing.unshared_eq_iff`).

Otherwise it does not. A profile under two names is halved twice, and where it also stands outside
of the profiles, the data there changes with it
(`StackManifest.RightSizing.resize_sharedProfile`).
-/

namespace StackManifest.RightSizing

variable {data data' w : Value}

/-! ### Amounts that stand alone -/

/-- Data in which **every profile**, and nothing else, is replaced by what becomes of it by
itself. -/
def HalvedInProfiles : Value → Value → Prop :=
  InField "profiles" (InField "compute" (InEntries fun _ p q => halvedProfile p = .ok q))

/-- Halving every profile by itself **changes the profiles only**. -/
theorem inProfiles_of_halved (h : halved data = .ok data') : HalvedInProfiles data data' := by
  obtain ⟨profiles, -, h⟩ := bind_eq_ok_iff.mp h
  obtain ⟨-, -, h⟩ := bind_eq_ok_iff.mp h
  have hall : ∀ v, InSection (fun _ _ => True) v := fun v l es _ e _ => trivial
  exact (inField_of_ok h).mono fun c w hw => (inField_of_ok hw).mono fun c w hw =>
    (inEntries_of_ok (hall c) hw).mono fun k p q hq => hq.2

/-- **Right-sizing replaces every profile by what becomes of it by itself**, and nothing else, if
the containers around the amounts that exceed their thresholds stand in one place only. -/
theorem inProfiles_of_resize (h : ∀ a, Exceeds data a → data.Alone a)
    (hr : resize data = .ok data') : HalvedInProfiles data data' :=
  inProfiles_of_halved (resize_eq_halved_of_alone h ▸ hr)

/-! ### All visits, and the visits of one place -/

/-- The visits of **one place**, as far as they are among those given. -/
def visitsAt (vs : List Visit) (a : Address) : List (Value → Except Fault (Option Value)) :=
  (vs.filter fun v => v.2 = a).map Prod.fst

/-- The visits of all its places **make of every leaf** what the visits of its own place make of
it. -/
def VisitsAgree (data : Value) : Prop :=
  ∀ a x, data.leaf? a = some x →
    halvedAll (visitsOf data (visits data) a) x = halvedAll (visitsAt (visits data) a) x

/-- In data without labels the visits of a slot are those of **one place**. -/
theorem visitsOf_unshared (vs : List Visit) (a : Address) :
    visitsOf data.unshared vs a = visitsAt vs a := by
  have hslot := (Value.unlabelled_unshared data).slot_eq
  simp only [visitsOf, visitsAt, hslot, Prod.mk.injEq, true_and]

/-- Right-sizing of shared data is, as a value, **halving every profile by itself** exactly when the
visits agree. -/
theorem unshared_eq_iff (hdata : data.Coherent) (hr : resize data = .ok data')
    (hw : halved data.unshared = .ok w) : data'.unshared = w ↔ VisitsAgree data := by
  have hunlabelled := Value.unlabelled_unshared data
  rw [← resize_eq_halved hunlabelled.unshared] at hw
  obtain ⟨g, hg, rfl, hleaves⟩ := visited_of_resize hdata hr
  obtain ⟨g', hg', rfl, hleaves'⟩ := visited_of_resize hunlabelled.coherent hw
  rw [visits_congr fun a => layoutAt_unshared] at hleaves'
  rw [Value.unshared_mapLeaves (hg.comp data.slot),
    Value.mapLeaves_eq_iff (hg.comp _) (hg'.comp _)]
  -- both sides are compared leaf by leaf, where each is what its visits make of the leaf
  refine forall_congr' fun a => forall_congr' fun x => ?_
  rw [Value.leaf?_unshared]
  refine forall_congr' fun hx => ?_
  rw [hleaves a x hx, ← visitsOf_unshared,
    hleaves' a x (Value.leaf?_unshared.trans hx), Except.ok.injEq]

/-- **Right-sizing of shared data.** Every leaf becomes what the visits of all its places make of
it, and nothing else changes. As a value this is the data with every profile halved by itself
exactly when the visits agree, and so it is if the containers around the amounts that exceed their
thresholds stand in one place only. -/
theorem resize_coherent (hdata : data.Coherent) (hr : resize data = .ok data') :
    Visited data (visits data) data' ∧
      (∀ w, halved data.unshared = .ok w → (data'.unshared = w ↔ VisitsAgree data)) ∧
      ((∀ a, Exceeds data a → data.Alone a) → HalvedInProfiles data data') :=
  ⟨visited_of_resize hdata hr, fun _ hw => unshared_eq_iff hdata hr hw,
    fun h => inProfiles_of_resize h hr⟩

/-- Data in which **nothing but one container** carries a label. -/
def LabelledOnly (w v : Value) : Prop := ∀ a x, v.at? a = some x → x.label ≠ 0 → x = w

theorem LabelledOnly.coherent (h : LabelledOnly w data) : data.Coherent :=
  fun a b x y hx hy hl heq => (h a x hx hl).trans (h b y hy (heq ▸ hl)).symm

theorem LabelledOnly.of_unlabelled (h : data.Unlabelled) : LabelledOnly w data :=
  fun a x hx hl => absurd (h a x hx) hl

theorem labelledOnly_iff :
    LabelledOnly w data ↔ (data.label ≠ 0 → data = w) ∧ ∀ c ∈ data.children, LabelledOnly w c :=
  Value.forall_at?_iff

/-- An amount below a part without labels **stands alone**. -/
theorem alone_cons {v c : Value} {i : Nat} {a : Address} (hl : v.label = 0)
    (hc : v.children[i]? = some c) (h : c.Unlabelled) : v.Alone (i :: a) := by
  rintro (_ | ⟨j, p⟩) b x y hp hx - - hlabel -
  · obtain rfl := Option.some.inj hx
    exact absurd hl hlabel
  · obtain ⟨rfl, -⟩ := List.cons_prefix_cons.mp hp
    rw [Value.at?, hc] at hx
    exact absurd (h p x hx) hlabel

/-- A profile that asks for some cores. -/
def coresProfile (l : Label) (units : Int) : Value :=
  .map l [(.text "resources", ofFields [("cpu", ofFields [("units", .int units)])])]

/-- Data with a profile, and with **another section that stands in it twice**. -/
def sharedElsewhere (units : Int) : Value :=
  ofFields [("x", .list 1 []), ("y", .list 1 []),
    ("profiles", ofFields [("compute", ofFields [("a", coresProfile 0 units)])])]

theorem unlabelled_coresProfile (units : Int) : (coresProfile 0 units).Unlabelled := by
  rw [Value.unlabelled_iff]
  simp [coresProfile, Value.label, Value.children, unlabelled_ofFields_iff, Value.unlabelled_int]

theorem coherent_sharedElsewhere (units : Int) : (sharedElsewhere units).Coherent := by
  refine LabelledOnly.coherent (w := .list 1 []) ?_
  have hlist : LabelledOnly (.list 1 []) (.list 1 []) :=
    labelledOnly_iff.mpr ⟨fun _ => rfl, List.forall_mem_nil _⟩
  have hprofiles : LabelledOnly (.list 1 []) (ofFields [("compute", ofFields
      [("a", coresProfile 0 units)])]) :=
    .of_unlabelled (by simp [unlabelled_ofFields_iff, unlabelled_coresProfile])
  refine labelledOnly_iff.mpr ⟨fun h => absurd rfl h, fun c hc => ?_⟩
  simp only [sharedElsewhere, ofFields, Value.children, List.map_cons, List.map_nil,
    List.mem_cons, List.not_mem_nil, or_false] at hc
  obtain rfl | rfl | rfl := hc
  · exact hlist
  · exact hlist
  · exact hprofiles

/-- Sixteen cores become **eight**, and the section that stands in two places stays as it is. -/
theorem resize_coherent_sharedElsewhere :
    ∃ data', resize (sharedElsewhere 16) = .ok data' ∧ data'.eqv (sharedElsewhere 8) = true ∧
      Visited (sharedElsewhere 16) (visits (sharedElsewhere 16)) data' ∧
      HalvedInProfiles (sharedElsewhere 16) data' := by
  have hresized : (resize (sharedElsewhere 16)).toOption.map (·.eqv (sharedElsewhere 8)) =
      some true := by decide +kernel
  have hposition : position? (sharedElsewhere 16) "profiles" = some 2 := by decide +kernel
  obtain ⟨data', hr, heqv⟩ := Option.map_eq_some_iff.mp hresized
  have hr := toOption_eq_some_iff.mp hr
  obtain ⟨hvisited, -, hinProfiles⟩ := resize_coherent (coherent_sharedElsewhere 16) hr
  refine ⟨data', hr, heqv, hvisited, hinProfiles ?_⟩
  rintro a ⟨i, c, b, hi, hc, rfl, -⟩
  obtain rfl : 2 = i := Option.some.inj (hposition.symm.trans hi)
  obtain rfl := Option.some.inj hc
  refine alone_cons rfl rfl ?_
  simp [unlabelled_ofFields_iff, unlabelled_coresProfile]

/-! ### Profiles that do not -/

/-- Data with **one profile in three places**, two of them under the profiles. -/
def sharedProfile (units : Int) : Value :=
  ofFields [("x", coresProfile 1 units), ("profiles", ofFields [("compute", ofFields
    [("a", coresProfile 1 units), ("b", coresProfile 1 units)])])]

/-- Sixteen cores become **four**, also outside of the profiles, where half of them are eight. -/
theorem resize_sharedProfile :
    (∃ data', resize (sharedProfile 16) = .ok data' ∧ data'.eqv (sharedProfile 4) = true) ∧
      ∃ p, halvedProfile (coresProfile 1 16) = .ok p ∧ p.eqv (coresProfile 1 8) = true := by
  have hresized : (resize (sharedProfile 16)).toOption.map (·.eqv (sharedProfile 4)) =
      some true := by decide +kernel
  have halved : (halvedProfile (coresProfile 1 16)).toOption.map (·.eqv (coresProfile 1 8)) =
      some true := by decide +kernel
  obtain ⟨data', hr, hdata⟩ := Option.map_eq_some_iff.mp hresized
  obtain ⟨p, hp, heqv⟩ := Option.map_eq_some_iff.mp halved
  exact ⟨⟨data', toOption_eq_some_iff.mp hr, hdata⟩, p, toOption_eq_some_iff.mp hp, heqv⟩

end StackManifest.RightSizing
