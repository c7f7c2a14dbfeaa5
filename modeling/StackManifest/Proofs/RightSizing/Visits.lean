import StackManifest.Proofs.RightSizing.Local
import StackManifest.Proofs.Slots

/-!
# Right-sizing as a run of visits

Right-sizing goes from profile to profile and looks at its cores, its memory and its first volume.
Each of these is a **visit**: an amount is read at its place and, if it exceeds its threshold,
halved, in all places of the containers around it. A change of an amount leaves all places where
they are, so that the visits can be listed beforehand (`StackManifest.RightSizing.visits`).

What this comes to for the whole data is said by `StackManifest.RightSizing.Visited`: every leaf has
become what the visits of **its slot** make of it, one after the other, and nothing else has
changed. One visit keeps this (`StackManifest.RightSizing.runs_visit`), and so it holds of
right-sizing, whatever is shared in the data (`StackManifest.RightSizing.visited_of_resize`).
-/

namespace StackManifest.RightSizing

open StackManifest.Number

variable {data data' d d' v w x : Value} {a b p : Address} {name : String}

/-! ### How data is laid out -/

/-- How a value is **laid out**: the names of a mapping, where a key may be none, and whether a list
has elements. -/
inductive Layout where
  | mapping (names : List (Option String))
  | list (hasElements : Bool)
  | other

/-- The name that a key is. -/
def keyName? : Value → Option String
  | .text s => some s
  | _ => none

def layout : Value → Layout
  | .map _ es => .mapping (es.map fun e => keyName? e.1)
  | .list _ xs => .list (!xs.isEmpty)
  | _ => .other

/-- The layout of the value at an address. -/
def layoutAt (d : Value) (a : Address) : Layout := (d.at? a).elim .other layout

def Layout.position? (name : String) : Layout → Option Nat
  | .mapping names => names.findIdx? (· == some name)
  | _ => none

theorem position?_eq (v : Value) (name : String) :
    RightSizing.position? v name = (layout v).position? name := by
  cases v with
  | map l es =>
    rw [position?_eq_findIdx?, List.findIdx?_map, layout, Layout.position?, List.findIdx?_map]
    refine congrArg (List.findIdx? · es) (funext fun e => ?_)
    have hkey : e.1.eqv (.text name) = true ↔ keyName? e.1 = some name := by
      rw [Value.eqv_text_iff]
      cases e.1 <;> simp [keyName?]
    exact Bool.eq_iff_iff.mpr (hkey.trans beq_iff_eq.symm)
  | _ => rfl

theorem below?_eq (d : Value) (a : Address) (name : String) :
    below? d a name = ((layoutAt d a).position? name).map fun i => a ++ [i] := by
  rw [below?, layoutAt]
  cases d.at? a with
  | none => rfl
  | some x =>
    simp only [Option.bind_eq_bind, Option.bind_some, position?_eq, Option.elim_some]
    cases (layout x).position? name <;> rfl

theorem layout_of_isLeaf (h : v.isLeaf = true) : layout v = .other := by
  cases v with
  | list | map => cases h
  | _ => rfl

/-- In a leaf **nothing is laid out**. -/
theorem layoutAt_of_isLeaf (h : v.isLeaf = true) : layoutAt v a = .other := by
  induction a generalizing v with
  | nil => exact layout_of_isLeaf h
  | cons i a ih =>
    rw [layoutAt, Value.at?]
    cases hc : v.children[i]? with
    | none => rfl
    | some c => exact ih (Value.isLeaf_of_children h hc)

theorem layoutAt_cons (d : Value) (i : Nat) (a : Address) :
    layoutAt d (i :: a) = (d.children[i]?).elim .other (layoutAt · a) := by
  rw [layoutAt, Value.at?]
  cases d.children[i]? <;> rfl

theorem layout_mapChildren (v : Value) (g : Nat → Value → Value) :
    layout (v.mapChildren g) = layout v := by
  cases v with
  | list l xs => cases xs <;> simp [Value.mapChildren, layout, List.mapIdx_cons]
  | map l es =>
    refine congrArg Layout.mapping (List.ext_getElem? fun i => ?_)
    simp [Function.comp_def]
  | _ => rfl

/-- **A change of the leaves leaves the layout as it is.** -/
theorem layoutAt_mapLeaves {f : Address → Value → Value} (hf : Value.KeepsLeaves f) :
    layoutAt (d.mapLeaves f) a = layoutAt d a := by
  induction a generalizing d f with
  | nil =>
    change layout (d.mapLeaves f) = layout d
    cases hd : d.isLeaf with
    | true => rw [layout_of_isLeaf hd, layout_of_isLeaf ((Value.isLeaf_mapLeaves hf).trans hd)]
    | false =>
      rw [Value.mapLeaves_of_inner hd]
      exact layout_mapChildren d _
  | cons i a ih =>
    cases hd : d.isLeaf with
    | true =>
      rw [layoutAt_of_isLeaf hd, layoutAt_of_isLeaf ((Value.isLeaf_mapLeaves hf).trans hd)]
    | false =>
      rw [layoutAt_cons, layoutAt_cons, Value.mapLeaves_of_inner hd, Value.children_mapChildren hd]
      cases d.children[i]? with
      | none => rfl
      | some c => exact ih (hf.comp (i :: ·))

theorem layout_unshared (v : Value) : layout v.unshared = layout v := by
  cases v with
  | list l xs => cases xs <;> rfl
  | map l es =>
    rw [Value.unshared, layout, layout, Value.unsharedEntries_eq_map, List.map_map]
    refine congrArg Layout.mapping (List.map_congr_left fun e _ => ?_)
    change keyName? e.1.unshared = keyName? e.1
    cases e.1 <;> rfl
  | _ => rfl

/-- Data **without its labels** is laid out as it is with them. -/
theorem layoutAt_unshared : layoutAt d.unshared a = layoutAt d a := by
  induction a generalizing d with
  | nil => exact layout_unshared d
  | cons i a ih =>
    cases hd : d.isLeaf with
    | true => rw [Value.unshared_of_isLeaf hd]
    | false =>
      rw [layoutAt_cons, layoutAt_cons, Value.children_unshared hd]
      cases d.children[i]? with
      | none => rfl
      | some c => exact ih

/-! ### Visits -/

/-- A **visit**: what becomes of an amount, and where it is. -/
abbrev Visit := (Value → Except Fault (Option Value)) × Address

/-- The place of the first element of a list, or of another value itself. -/
def firstPlace (d : Value) (b : Address) : Address :=
  match layoutAt d b with
  | .list true => b ++ [0]
  | _ => b

/-- The visit of the amount **under a name**. -/
def amountVisits (half : Value → Except Fault (Option Value)) (name : String) (d : Value)
    (a : Address) : List Visit :=
  (below? d a name).elim [] fun b => [(half, b)]

/-- The visit of an amount of the resources at an address. -/
def partVisits (half : Value → Except Fault (Option Value)) (part name : String) (d : Value)
    (r : Address) : List Visit :=
  (below? d r part).elim [] (amountVisits half name d)

/-- The visit of the first volume of the resources at an address. -/
def volumeVisits (d : Value) (r : Address) : List Visit :=
  (below? d r "storage").elim [] fun b =>
    amountVisits (halvedSize storageThreshold) "size" d (firstPlace d b)

/-- The visits of a **profile**: its cores, its memory and its first volume. -/
def profileVisits (d : Value) (a : Address) : List Visit :=
  (below? d a "resources").elim [] fun r =>
    partVisits halvedCores "cpu" "units" d r ++
      (partVisits (halvedSize memoryThreshold) "memory" "size" d r ++ volumeVisits d r)

/-- The places of the **profiles** of some data. -/
def profilePlaces (d : Value) : List Address :=
  ((below? d [] "profiles").bind (below? d · "compute")).elim [] fun a =>
    match layoutAt d a with
    | .mapping names => (List.range names.length).map fun i => a ++ [i]
    | _ => []

/-- The **visits** of some data, profile by profile. -/
def visits (d : Value) : List Visit := (profilePlaces d).flatMap (profileVisits d)

/-- **Visits depend on the layout only.** -/
theorem visits_congr (h : ∀ a, layoutAt d' a = layoutAt d a) : visits d' = visits d := by
  have hbelow : ∀ a name, below? d' a name = below? d a name := by
    intro a name
    rw [below?_eq, below?_eq, h]
  have hamount : ∀ half name a, amountVisits half name d' a = amountVisits half name d a := by
    intro half name a
    rw [amountVisits, amountVisits, hbelow]
  have hpart : ∀ half part name r,
      partVisits half part name d' r = partVisits half part name d r := by
    intro half part name r
    rw [partVisits, partVisits, hbelow, funext (hamount half name)]
  have hvolume : ∀ r, volumeVisits d' r = volumeVisits d r := by
    intro r
    simp only [volumeVisits, hbelow, firstPlace, h, hamount]
  have hprofile : ∀ a, profileVisits d' a = profileVisits d a := by
    intro a
    simp only [profileVisits, hbelow, hpart, hvolume]
  have hplaces : profilePlaces d' = profilePlaces d := by
    simp only [profilePlaces, hbelow, h]
  rw [visits, visits, hplaces, funext hprofile]

/-! ### What visits make of a leaf -/

/-- What becomes of an amount that is halved **several times**. -/
def halvedAll (halves : List (Value → Except Fault (Option Value))) (v : Value) :
    Except Fault Value :=
  halves.foldlM (fun v half => halvedAmount half v) v

/-- The visits of **one slot**, as far as they are among those given. -/
def visitsOf (data : Value) (vs : List Visit) (a : Address) :
    List (Value → Except Fault (Option Value)) :=
  (vs.filter fun v => data.slot v.2 = data.slot a).map Prod.fst

/-- Data after some visits: every leaf has become what **the visits of its slot** make of it, and
nothing else has changed. -/
def Visited (data : Value) (vs : List Visit) (d : Value) : Prop :=
  ∃ g : Label × Address → Value → Value, Value.KeepsLeaves g ∧
    d = data.mapLeaves (fun a => g (data.slot a)) ∧
    ∀ a x, data.leaf? a = some x → halvedAll (visitsOf data vs a) x = .ok (g (data.slot a) x)

/-- Before any visit the data is **as it is**. -/
theorem visited_nil (data : Value) : Visited data [] data :=
  ⟨fun _ x => x, fun _ _ h => h, (Value.mapLeaves_id data).symm, fun _ _ _ => rfl⟩

/-- **A visit**: the amount at a place is read and, if there is something to halve, replaced in all
places. -/
def visit (v : Visit) (d : Value) : Except Fault Value := do
  match ← v.1 ((d.at? v.2).getD .null) with
  | some new => return d.updateAt (fun _ => new) v.2
  | none => return d

/-- An operation that is **a run of visits**. -/
def Runs (data : Value) (op : Value → Except Fault Value) (vs : List Visit) : Prop :=
  ∀ done d d', Visited data done d → op d = .ok d' → Visited data (done ++ vs) d'

theorem runs_nil : Runs data .ok [] := by
  intro done d d' hd h
  obtain rfl := Except.ok.inj h
  rwa [List.append_nil]

/-- **One run after the other.** -/
theorem Runs.bind {op op' : Value → Except Fault Value} {vs vs' : List Visit} (h : Runs data op vs)
    (h' : Runs data op' vs') : Runs data (fun d => op d >>= op') (vs ++ vs') := by
  intro done d d' hd hop
  obtain ⟨e, he, hop⟩ := bind_eq_ok_iff.mp hop
  rw [← List.append_assoc]
  exact h' _ e d' (h done d e hd he) hop

section Visit

variable {half : Value → Except Fault (Option Value)}

theorem visitsOf_append (vs : List Visit) (v : Visit) :
    visitsOf data (vs ++ [v]) a =
      visitsOf data vs a ++ if data.slot v.2 = data.slot a then [v.1] else [] := by
  rw [visitsOf, List.filter_append, List.map_append]
  by_cases h : data.slot v.2 = data.slot a
  · simp [visitsOf, h]
  · simp [visitsOf, h]

theorem halvedAll_append (halves : List (Value → Except Fault (Option Value))) :
    halvedAll (halves ++ [half]) v = (halvedAll halves v) >>= halvedAmount half := by
  simp [halvedAll, List.foldlM_append]

/-- **What lies under a name** is found there when it is asked for, and if it is a leaf, it is a
leaf of the data. -/
theorem exists_of_below? (h : below? d a name = some p) :
    ∃ v x, d.at? a = some v ∧ v.isTruthy = true ∧ v.field name = .ok x ∧ d.at? p = some x ∧
      (x.isLeaf = true → d.leaf? p = some x) := by
  rw [below?] at h
  obtain ⟨v, hv, h⟩ := Option.bind_eq_some_iff.mp h
  obtain ⟨i, hi, h⟩ := Option.bind_eq_some_iff.mp h
  obtain rfl := Option.some.inj h
  rcases position?_cases v name with ⟨hnone, -⟩ | ⟨l, before, c, after, rfl, hlacks⟩
  · rw [hnone] at hi
    cases hi
  · obtain rfl := Option.some.inj ((position?_of_split hlacks).symm.trans hi)
    have hc : (Value.map l (before ++ (.text name, c) :: after)).children[before.length]? =
        some c := by simp [Value.children]
    refine ⟨_, c, hv, by simp [Value.isTruthy], field_of_split hlacks, ?_, fun hleaf => ?_⟩
    · rw [Value.at?_append hv, Value.at?, hc]
      rfl
    · rw [Value.leaf?_append hv rfl, Value.leaf?_cons rfl, hc]
      simp [Value.leaf?, hleaf]

/-- Where **no leaf** has the slot of a place, a visit of this place changes nothing. -/
theorem Visited.skip {done : List Visit} (hd : Visited data done d)
    (hother : ∀ b, data.slot p = data.slot b → data.leaf? b = none) :
    Visited data (done ++ [(half, p)]) d := by
  obtain ⟨g, hg, hd, hleaves⟩ := hd
  refine ⟨g, hg, hd, fun b z hz => ?_⟩
  have hne : data.slot p ≠ data.slot b := by
    intro hslot
    rw [hother b hslot] at hz
    cases hz
  rw [visitsOf_append, if_neg hne, List.append_nil]
  exact hleaves b z hz

/-- A visit of a leaf changes **all leaves with its slot**, if it changes anything. -/
theorem Visited.change {done : List Visit} {o : Option Value} (hdata : data.Coherent)
    (hhalf : HalvesLeaves half) (hd : Visited data done d) (hx : d.leaf? p = some x)
    (ho : half x = .ok o) :
    Visited data (done ++ [(half, p)]) (o.elim d fun w => d.updateAt (fun _ => w) p) := by
  obtain ⟨g, hg, hd, hleaves⟩ := hd
  have hf : Value.KeepsLeaves fun a => g (data.slot a) := hg.comp data.slot
  have hpx := hx
  rw [hd, Value.leaf?_mapLeaves hf] at hpx
  obtain ⟨x₀, hx₀, rfl⟩ := Option.map_eq_some_iff.mp hpx
  have hleaf : ∀ w, o = some w → w.isLeaf = true := fun w hw => (hhalf _ w (hw ▸ ho)).2
  -- leaves with the slot become the half, and any other one what it has become before
  refine ⟨fun s z => if s = data.slot p then o.getD (g s z) else g s z, fun s z hz => ?_, ?_,
    fun b z hz => ?_⟩
  · change (if s = data.slot p then o.getD (g s z) else g s z).isLeaf = true
    cases o with
    | none => simpa using hg s z hz
    | some w =>
      split
      · exact hleaf w rfl
      · exact hg s z hz
  · cases o with
    | none => simpa using hd
    | some w =>
      have hcoherent : d.Coherent := hd ▸ hdata.mapLeaves hg
      have hslot : ∀ b, d.slot b = data.slot b := fun b => by rw [hd, Value.slot_mapLeaves hf]
      rw [Option.elim_some, hcoherent.updateAt_eq hx]
      simp only [hslot]
      rw [hd, Value.mapLeaves_mapLeaves hf]
      rfl
  · change halvedAll (visitsOf data (done ++ [(half, p)]) b) z =
      .ok (if data.slot b = data.slot p then o.getD (g (data.slot b) z) else g (data.slot b) z)
    rw [visitsOf_append]
    by_cases hb : data.slot p = data.slot b
    · obtain rfl : x₀ = z := by
        rw [← hdata.leaf?_eq hb, hx₀] at hz
        exact Option.some.inj hz
      rw [if_pos hb, if_pos hb.symm, halvedAll_append, hleaves b x₀ hz, ← hb, ok_bind]
      exact map_eq_ok_iff.mpr ⟨o, ho, rfl⟩
    · rw [if_neg hb, if_neg (Ne.symm hb), List.append_nil]
      exact hleaves b z hz

theorem Visited.layoutAt_eq {done : List Visit} (hd : Visited data done d) (a : Address) :
    layoutAt d a = layoutAt data a := by
  obtain ⟨g, hg, rfl, -⟩ := hd
  exact layoutAt_mapLeaves (hg.comp data.slot)

theorem Visited.below?_eq {done : List Visit} (hd : Visited data done d) (a : Address)
    (name : String) : below? d a name = below? data a name := by
  rw [RightSizing.below?_eq, RightSizing.below?_eq, hd.layoutAt_eq]

/-- **One visit** is a run of itself. -/
theorem runs_visit (hdata : data.Coherent) (hhalf : HalvesLeaves half)
    (hp : below? data a name = some p) : Runs data (visit (half, p)) [(half, p)] := by
  intro done d d' hd h
  -- the place is what it was at the beginning
  obtain ⟨-, y, -, -, -, hy, hleaf⟩ := exists_of_below? ((hd.below?_eq a name).trans hp)
  obtain ⟨o, ho, h⟩ := bind_eq_ok_iff.mp h
  simp only [hy, Option.getD_some] at ho
  cases hx : d.leaf? p with
  | some x =>
    obtain rfl := Option.some.inj (hy.symm.trans (Value.at?_of_leaf? hx).1)
    have hd' : d' = o.elim d fun w => d.updateAt (fun _ => w) p := by
      cases o <;> exact (Except.ok.inj h).symm
    exact hd' ▸ hd.change hdata hhalf hx ho
  | none =>
    -- only leaves are halved
    have hnone : o = none := by
      cases o with
      | none => rfl
      | some w =>
        rw [hleaf (hhalf y w ho).1] at hx
        cases hx
    subst hnone
    obtain rfl := Except.ok.inj h
    refine hd.skip fun b hb => ?_
    rw [← hdata.leaf?_eq hb]
    obtain ⟨g, hg, rfl, -⟩ := hd
    rwa [Value.leaf?_mapLeaves (hg.comp data.slot), Option.map_eq_none_iff] at hx

/-! ### Right-sizing -/

theorem runs_resizeAmount (hdata : data.Coherent) (hhalf : HalvesLeaves half) (name : String)
    (a : Address) : Runs data (resizeAmount half name a) (amountVisits half name data a) := by
  intro done d d' hd h
  rw [resizeAmount, hd.below?_eq] at h
  rw [amountVisits]
  cases hp : below? data a name with
  | none =>
    rw [hp] at h
    exact runs_nil done d d' hd h
  | some p =>
    rw [hp] at h
    exact runs_visit hdata hhalf hp done d d' hd h

theorem runs_resizePart (hdata : data.Coherent) (hhalf : HalvesLeaves half) (part name : String)
    (a : Address) : Runs data (resizePart half part name a) (partVisits half part name data a) := by
  intro done d d' hd h
  rw [resizePart, hd.below?_eq] at h
  rw [partVisits]
  cases hp : below? data a part with
  | none =>
    rw [hp] at h
    exact runs_nil done d d' hd h
  | some p =>
    rw [hp] at h
    exact runs_resizeAmount hdata hhalf name p done d d' hd h

/-- The first volume is at the **first place** of the storage. -/
theorem resizeVolume_eq_firstPlace (half : Value → Except Fault (Option Value)) (r : Address)
    (d : Value) :
    (match volume? d r with
      | some v => resizeAmount half "size" v d
      | none => .ok d) =
    (below? d r "storage").elim (.ok d) fun b => resizeAmount half "size" (firstPlace d b) d := by
  refine (resizeVolume_eq half r d).trans ?_
  cases below? d r "storage" with
  | none => rfl
  | some b =>
    simp only [Option.elim_some, firstPlace, layoutAt]
    cases d.at? b with
    | none => rfl
    | some x =>
      cases x with
      | list l xs => cases xs <;> rfl
      | _ => rfl

theorem runs_resizeVolume (hdata : data.Coherent) (r : Address) :
    Runs data (fun d => match volume? d r with
      | some v => resizeAmount (halvedSize storageThreshold) "size" v d
      | none => .ok d) (volumeVisits data r) := by
  intro done d d' hd h
  have h := (resizeVolume_eq_firstPlace _ r d).symm.trans h
  rw [hd.below?_eq] at h
  rw [volumeVisits]
  cases hb : below? data r "storage" with
  | none =>
    rw [hb] at h
    exact runs_nil done d d' hd h
  | some b =>
    rw [hb, Option.elim_some, firstPlace, hd.layoutAt_eq] at h
    exact runs_resizeAmount hdata (halvesLeaves_size _) "size" _ done d d' hd h

end Visit

/-- **A profile is resized in a run of visits.** -/
theorem runs_resizeProfile (hdata : data.Coherent) (a : Address) :
    Runs data (resizeProfile · a) (profileVisits data a) := by
  intro done d d' hd h
  obtain ⟨-, -, h⟩ := bind_eq_ok_iff.mp h
  rw [hd.below?_eq] at h
  rw [profileVisits]
  cases hr : below? data a "resources" with
  | none =>
    rw [hr] at h
    exact runs_nil done d d' hd h
  | some r =>
    rw [hr] at h
    have hcpu := runs_resizePart hdata halvesLeaves_cores "cpu" "units" r
    have hmemory := runs_resizePart hdata (halvesLeaves_size memoryThreshold) "memory" "size" r
    exact (hcpu.bind (hmemory.bind (runs_resizeVolume hdata r))) done d d' hd h

/-- Right-sizing goes **from profile to profile**. -/
theorem foldlM_of_resize (h : resize data = .ok data') :
    (profilePlaces data).foldlM resizeProfile data = .ok data' := by
  obtain ⟨p, hp, h⟩ := bind_eq_ok_iff.mp h
  obtain ⟨compute, hcompute, h⟩ := bind_eq_ok_iff.mp h
  rw [profilePlaces]
  cases ha : (below? data [] "profiles").bind (below? data · "compute") with
  | none =>
    rw [ha] at h
    exact h
  | some a =>
    rw [ha] at h
    -- the profiles that are asked for are those at the place
    obtain ⟨b, hb, ha⟩ := Option.bind_eq_some_iff.mp ha
    obtain ⟨v, p', hv, -, hfield, hp', -⟩ := exists_of_below? hb
    obtain rfl := Option.some.inj hv
    obtain rfl := Except.ok.inj (hp.symm.trans hfield)
    obtain ⟨v, c, hv, htruthy, hfield, hc, -⟩ := exists_of_below? ha
    obtain rfl := Option.some.inj (hp'.symm.trans hv)
    rw [Value.orEmpty, if_pos htruthy, Value.sectionEntries, hfield, ok_bind] at hcompute
    have hlayout : layoutAt data a = layout c := by rw [layoutAt, hc]; rfl
    rw [Option.elim_some, hlayout]
    cases c with
    | map l es =>
      rw [entriesBy_orEmpty] at hcompute
      obtain rfl := Except.ok.inj hcompute
      simpa [layout, List.foldlM_map] using h
    | _ =>
      have hempty : compute = [] := by
        rw [Value.orEmpty] at hcompute
        split at hcompute
        · cases hcompute
        · exact (Except.ok.inj hcompute).symm
      subst hempty
      exact h

/-- **Right-sizing is a run of visits**, whatever is shared in the data. -/
theorem visited_of_resize (hdata : data.Coherent) (h : resize data = .ok data') :
    Visited data (visits data) data' := by
  have hnil : Visited data (([] : List Address).flatMap (profileVisits data)) data :=
    visited_nil data
  refine of_foldlM_eq_ok (I := fun done d => Visited data (done.flatMap (profileVisits data)) d)
    ?_ hnil (foldlM_of_resize h)
  intro done d a d' hd hstep
  rw [List.flatMap_append, List.flatMap_singleton]
  exact runs_resizeProfile hdata a _ d d' hd hstep

end StackManifest.RightSizing
