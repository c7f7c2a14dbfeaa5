import StackManifest.Proofs.Quantity.Texts
import StackManifest.Proofs.Reading.Fields
import StackManifest.Proofs.RightSizing.Amounts

/-!
# Right-sizing, one profile after the other

Right-sizing goes to the places of the amounts and changes the data there. For data in which the
containers around the amounts that are halved stand in one place only, the same is said here
**without places**: the profiles are replaced, each by what becomes of it when it is taken by itself.

* `StackManifest.RightSizing.halvedProfile` – a profile by itself, with what it asks for halved;
* `StackManifest.RightSizing.Exceeds` – the **places of the amounts** that exceed their thresholds;
* `StackManifest.RightSizing.IsLocal` – an operation on a place does to the data **what another
  one does to the value** in that place;
* `StackManifest.RightSizing.resize_eq_halved_of_alone` – right-sizing is halving every profile.
-/

namespace StackManifest.RightSizing

open StackManifest.Number

variable {d x w : Value} {a : Address} {name : String}

/-! ### Halving by itself -/

/-- A mapping with the value under a name changed, if it has one. -/
def inField (name : String) (op : Value → Except Fault Value) (v : Value) :
    Except Fault Value :=
  match position? v name with
  | some i => (op (v.children.getD i .null)).map fun w => v.inPlace (fun _ => w) [i]
  | none => .ok v

/-- A list with its first element changed, or another value changed itself. -/
def inVolume (op : Value → Except Fault Value) : Value → Except Fault Value
  | .list l (x :: xs) => (op x).map fun y => .list l (y :: xs)
  | v => op v

/-- A mapping with the value of every entry changed. -/
def inEntries (op : Value → Except Fault Value) : Value → Except Fault Value
  | .map l es => (es.mapM fun e => (op e.2).map (Prod.mk e.1)).map (.map l)
  | v => .ok v

/-- An amount, **halved** if there is something to halve. -/
def halvedAmount (half : Value → Except Fault (Option Value)) (v : Value) :
    Except Fault Value :=
  (half v).map (·.getD v)

/-- Resources with each amount halved that exceeds its threshold. -/
def halvedResources (r : Value) : Except Fault Value := do
  let r ← inField "cpu" (inField "units" (halvedAmount halvedCores)) r
  let r ← inField "memory" (inField "size" (halvedAmount (halvedSize memoryThreshold))) r
  inField "storage" (inVolume (inField "size" (halvedAmount (halvedSize storageThreshold)))) r

/-- A **profile by itself**, with its resources halved. -/
def halvedProfile (v : Value) : Except Fault Value := do
  discard (v.orEmpty.field? "resources")
  inField "resources" halvedResources v

/-- Data with **every profile** halved by itself. -/
def halved (data : Value) : Except Fault Value := do
  let profiles := (← data.field "profiles").orEmpty
  discard (profiles.sectionEntries "compute" "values")
  inField "profiles" (inField "compute" (inEntries halvedProfile)) data

/-! ### Positions of names -/

section Positions

variable {l : Label} {es before after : Entries} {c : Value}

theorem position?_of_lacks (h : Entries.Lacks es name) : position? (.map l es) name = none := by
  refine List.findIdx?_eq_none_iff.mpr fun e he => ?_
  rw [Bool.eq_false_iff, ne_eq, Value.eqv_text_iff]
  exact h e he

theorem position?_of_split (h : Entries.Lacks before name) :
    position? (.map l (before ++ (.text name, c) :: after)) name = some before.length := by
  have hbefore : before.findIdx? (fun e => e.1.eqv (.text name)) = none :=
    position?_of_lacks (l := 0) h
  have hkey : Value.eqv (.text name) (.text name) = true := Value.eqv_text_iff.mpr rfl
  simp [position?, Value.entries?, List.findIdx?_append, hbefore, List.findIdx?_cons, hkey]

/-- A mapping **lacks a name**, or there is a first entry with it. What is no mapping lacks it
too. -/
theorem position?_cases (v : Value) (name : String) :
    (position? v name = none ∧ ∀ l es, v = .map l es → Entries.Lacks es name) ∨
      ∃ l before c after, v = .map l (before ++ (.text name, c) :: after) ∧
        Entries.Lacks before name := by
  cases v with
  | map l es =>
    rcases Entries.lacks_or_exists es name with h | ⟨before, c, after, rfl, h⟩
    · refine .inl ⟨position?_of_lacks h, ?_⟩
      rintro - es' ⟨⟩
      exact h
    · exact .inr ⟨l, before, c, after, rfl, h⟩
  | _ => exact .inl ⟨rfl, by rintro - - ⟨⟩⟩

theorem holds_of_split : Value.Holds (.map l (before ++ (.text name, c) :: after))
    [before.length] c :=
  .entry (k := .text name) (by simp) (.here c)

theorem inPlace_of_split :
    Value.inPlace (fun _ => w) [before.length] (.map l (before ++ (.text name, c) :: after)) =
      .map l (before ++ (.text name, w) :: after) := by
  simp only [Value.inPlace, Value.modifyChild, List.modify_eq_set_getElem?]
  simp

variable {op : Value → Except Fault Value}

theorem inField_of_position? (h : position? x name = none) : inField name op x = .ok x := by
  rw [inField, h]

/-- **The value under a name is changed**, and nothing else. -/
theorem inField_of_split (h : Entries.Lacks before name) :
    inField name op (.map l (before ++ (.text name, c) :: after)) =
      (op c).map fun w => .map l (before ++ (.text name, w) :: after) := by
  have hchild : (Value.map l (before ++ (.text name, c) :: after)).children.getD
      before.length .null = c := by
    simp [Value.children]
  rw [inField, position?_of_split h]
  simp only [hchild, inPlace_of_split]

/-- A change under a name brings in **no labels** if it brings in none there. -/
theorem keeps_inField {y : Value} (h : ∀ {x w}, op x = .ok w → x.Keeps w)
    (hy : inField name op x = .ok y) : x.Keeps y := by
  rcases position?_cases x name with ⟨hnone, -⟩ | ⟨l, before, c, after, rfl, hb⟩
  · rw [inField_of_position? hnone] at hy
    cases hy
    exact .refl x
  · rw [inField_of_split hb] at hy
    obtain ⟨w, hw, rfl⟩ := map_eq_ok_iff.mp hy
    rw [← inPlace_of_split (c := c) (w := w)]
    exact .inPlace holds_of_split (h hw)

end Positions

/-! ### Places where something is halved -/

/-- **Places** in a value. -/
abbrev Places := Value → Address → Prop

/-- The place of an amount itself, if it is **halved**. -/
def Halves (half : Value → Except Fault (Option Value)) : Places :=
  fun v b => b = [] ∧ ∃ w, half v = .ok (some w)

/-- Places in the value **under a name**. -/
def UnderField (name : String) (P : Places) : Places := fun v b =>
  ∃ i c b', position? v name = some i ∧ v.children[i]? = some c ∧ b = i :: b' ∧ P c b'

/-- Places in the **first element** of a list, or in another value itself. -/
def UnderVolume (P : Places) : Places
  | .list _ (x :: _), b => ∃ b', b = 0 :: b' ∧ P x b'
  | v, b => P v b

/-! A value that is no list with elements is its own first volume. -/

theorem inVolume_of_ne {op : Value → Except Fault Value} {v : Value}
    (h : ∀ l y ys, v ≠ .list l (y :: ys)) : inVolume op v = op v := by
  rw [inVolume.eq_def]
  split
  · exact absurd rfl (h _ _ _)
  · rfl

theorem underVolume_of_ne {P : Places} {v : Value} (h : ∀ l y ys, v ≠ .list l (y :: ys)) :
    UnderVolume P v = P v := by
  funext b
  rw [UnderVolume.eq_def]
  split
  · exact absurd rfl (h _ _ _)
  · rfl

/-- Places in the value of **some entry**. -/
def UnderEntries (P : Places) : Places := fun v b =>
  ∃ l es i e b', v = .map l es ∧ es[i]? = some e ∧ b = i :: b' ∧ P e.2 b'

/-- The places in resources of the amounts that **exceed their thresholds**. -/
def ResourcesExceed : Places := fun r b =>
  UnderField "cpu" (UnderField "units" (Halves halvedCores)) r b ∨
    UnderField "memory" (UnderField "size" (Halves (halvedSize memoryThreshold))) r b ∨
      UnderField "storage"
        (UnderVolume (UnderField "size" (Halves (halvedSize storageThreshold)))) r b

/-- The places in some data of the amounts of its compute profiles that **exceed their
thresholds**. -/
def Exceeds : Places :=
  UnderField "profiles" (UnderField "compute"
    (UnderEntries (UnderField "resources" ResourcesExceed)))

section Places

variable {P : Places} {other : String} {l : Label} {es before after : Entries} {c : Value}
  {b : Address} {op : Value → Except Fault Value}

theorem underField_of_split (h : Entries.Lacks before name) (hb : P c b) :
    UnderField name P (.map l (before ++ (.text name, c) :: after)) (before.length :: b) :=
  ⟨before.length, c, b, position?_of_split h, by simp [Value.children], rfl, hb⟩

theorem position?_eq_findIdx? (l : Label) (es : Entries) (name : String) :
    position? (.map l es) name = (es.map Prod.fst).findIdx? (·.eqv (.text name)) := by
  rw [List.findIdx?_map]
  rfl

/-- A change under a name leaves the places under **any other name** as they are. -/
theorem underField_of_inField (hne : other ≠ name) (h : inField name op x = .ok w)
    (hb : UnderField other P w b) : UnderField other P x b := by
  rcases position?_cases x name with ⟨hnone, -⟩ | ⟨l, before, c, after, rfl, hlacks⟩
  · rw [inField_of_position? hnone] at h
    cases h
    exact hb
  · rw [inField_of_split hlacks] at h
    obtain ⟨c', -, rfl⟩ := map_eq_ok_iff.mp h
    obtain ⟨i, y, b', hi, hy, rfl, hP⟩ := hb
    -- the keys are the same, and the entry with the changed value has another one
    have hkeys : ∀ z, position? (.map l (before ++ (.text name, z) :: after)) other =
        (before.map Prod.fst ++ .text name :: after.map Prod.fst).findIdx? (·.eqv (.text other)) := by
      intro z
      rw [position?_eq_findIdx?, List.map_append, List.map_cons]
    have hplace : i ≠ before.length := by
      rintro rfl
      rw [hkeys, List.findIdx?_eq_some_iff_getElem] at hi
      obtain ⟨hlt, hkey, -⟩ := hi
      rw [List.getElem_append_right (by simp)] at hkey
      simp only [List.length_map, Nat.sub_self, List.getElem_cons_zero, Value.eqv_text_iff,
        Value.text.injEq] at hkey
      exact hne hkey.symm
    refine ⟨i, y, b', (hkeys c).trans ((hkeys c').symm.trans hi), ?_, rfl, hP⟩
    rw [← hy]
    simp only [Value.children, List.map_append, List.map_cons]
    rcases lt_or_gt_of_ne hplace with hlt | hgt
    · rw [List.getElem?_append_left (by simpa using hlt),
        List.getElem?_append_left (by simpa using hlt)]
    · obtain ⟨k, rfl⟩ := Nat.exists_eq_add_of_lt hgt
      rw [List.getElem?_append_right (by simp; omega), List.getElem?_append_right (by simp; omega)]
      simp only [List.length_map, show before.length + k + 1 - before.length = k + 1 by omega,
        List.getElem?_cons_succ]

end Places

/-! ### Operations on a place -/

/-- An operation on a place does to the data **what another one does to the value** in that
place, if the containers around what it changes stand alone, and it brings in no labels. -/
structure IsLocal (op : Address → Value → Except Fault Value)
    (here : Value → Except Fault Value) (P : Places) : Prop where
  eq : ∀ {d a x}, (∀ b, P x b → d.Alone (a ++ b)) → d.Holds a x →
    op a d = (here x).map fun w => d.inPlace (fun _ => w) a
  keeps : ∀ {x w}, here x = .ok w → x.Keeps w

section IsLocal

variable {op op' : Address → Value → Except Fault Value}
  {here here' : Value → Except Fault Value} {P P' : Places}

theorem IsLocal.congr (h : IsLocal op here P) (heq : ∀ a d, op' a d = op a d) :
    IsLocal op' here P := by
  rwa [show op' = op from funext fun a => funext (heq a)]

/-- An operation on the value **under a name**. -/
theorem IsLocal.below (h : IsLocal op here P) (name : String) :
    IsLocal (fun a d => match below? d a name with
      | some b => op b d
      | none => .ok d) (inField name here) (UnderField name P) where
  eq := by
    intro d a x hd hx
    rcases position?_cases x name with ⟨hnone, -⟩ | ⟨l, before, c, after, rfl, hb⟩
    · have hbelow : below? d a name = none := by simp [below?, hx.at?, hnone]
      rw [hbelow, inField_of_position? hnone]
      exact congrArg Except.ok hx.inPlace_self.symm
    · have hbelow : below? d a name = some (a ++ [before.length]) := by
        simp [below?, hx.at?, position?_of_split hb]
      have halone : ∀ b, P c b → d.Alone (a ++ [before.length] ++ b) := fun b hP => by
        rw [List.append_assoc]
        exact hd _ (underField_of_split hb hP)
      simp only [hbelow, inField_of_split hb, h.eq halone (hx.append holds_of_split)]
      cases here c with
      | error e => rfl
      | ok w =>
        exact congrArg Except.ok (hx.inPlace_append_eq inPlace_of_split)
  keeps := keeps_inField h.keeps

/-- **One operation after the other**, on the same place, where the first one leaves the places of
the second one as they are. -/
theorem IsLocal.andThen (h : IsLocal op here P) (h' : IsLocal op' here' P')
    (hplaces : ∀ {x w b}, here x = .ok w → P' w b → P' x b) :
    IsLocal (fun a d => op a d >>= op' a) (fun x => here x >>= here')
      (fun x b => P x b ∨ P' x b) where
  eq := by
    intro d a x hd hx
    rw [h.eq (fun b hb => hd b (.inl hb)) hx]
    cases hw : here x with
    | error e => rfl
    | ok w =>
      -- no label has come in, so what stood alone still does
      have hd' : ∀ b, P' w b → (d.inPlace (fun _ => w) a).Alone (a ++ b) := fun b hb =>
        (hd b (.inr (hplaces hw hb))).of_keeps (.inPlace hx (h.keeps hw))
      rw [ok_bind]
      change op' a (d.inPlace (fun _ => w) a) = _
      rw [h'.eq hd' hx.inPlace]
      simp only [Value.inPlace_inPlace]
      rfl
  keeps := by
    intro x y hy
    obtain ⟨w, hw, hy⟩ := bind_eq_ok_iff.mp hy
    exact (h.keeps hw).trans (h'.keeps hy)

/-- An operation that is made only if **something can be read** of the value. -/
theorem IsLocal.guarded {α : Type} (h : IsLocal op here P) (check : Value → Except Fault α) :
    IsLocal (fun a d => do discard (check ((d.at? a).getD .null)); op a d)
      (fun x => do discard (check x); here x) P where
  eq := by
    intro d a x hd hx
    simp only [hx.at?, Option.getD_some, h.eq hd hx]
    cases check x <;> rfl
  keeps := by
    intro x y hy
    obtain ⟨-, -, hy⟩ := bind_eq_ok_iff.mp hy
    exact h.keeps hy

/-- An operation on the **first volume** of storage. -/
theorem IsLocal.volume (h : IsLocal op here P) :
    IsLocal (fun a d => match d.at? a with
      | some (.list _ (_ :: _)) => op (a ++ [0]) d
      | _ => op a d) (inVolume here) (UnderVolume P) where
  eq := by
    intro d a x hd hx
    simp only [hx.at?]
    by_cases hown : ∀ l y ys, x ≠ .list l (y :: ys)
    · have halone : ∀ b, P x b → d.Alone (a ++ b) := fun b hP => by
        rw [← underVolume_of_ne (P := P) hown] at hP
        exact hd b hP
      rw [inVolume_of_ne hown, ← h.eq halone hx]
      split
      · rename_i heq
        exact absurd (Option.some.inj heq) (hown _ _ _)
      · rfl
    · push Not at hown
      obtain ⟨l, y, ys, rfl⟩ := hown
      have hy : Value.Holds (.list l (y :: ys)) [0] y := .element rfl (.here y)
      have halone : ∀ b, P y b → d.Alone (a ++ [0] ++ b) := fun b hP => by
        rw [List.append_assoc]
        exact hd (0 :: b) ⟨b, rfl, hP⟩
      simp only [inVolume, h.eq halone (hx.append hy)]
      cases here y with
      | error e => rfl
      | ok w =>
        exact congrArg Except.ok (hx.inPlace_append_eq rfl)
  keeps := by
    intro x w hw
    by_cases hown : ∀ l y ys, x ≠ .list l (y :: ys)
    · rw [inVolume_of_ne hown] at hw
      exact h.keeps hw
    · push Not at hown
      obtain ⟨l, y, ys, rfl⟩ := hown
      obtain ⟨y', hy, rfl⟩ := map_eq_ok_iff.mp hw
      have hx : Value.Holds (.list l (y :: ys)) [0] y := .element rfl (.here y)
      exact .inPlace hx (h.keeps hy)

end IsLocal

/-! ### Right-sizing is local -/

variable {half : Value → Except Fault (Option Value)}

/-- What is halved is a **leaf**, and so is its half. -/
def HalvesLeaves (half : Value → Except Fault (Option Value)) : Prop :=
  ∀ v w, half v = .ok (some w) → v.isLeaf = true ∧ w.isLeaf = true

theorem halvesLeaves_cores : HalvesLeaves halvedCores := by
  intro v w h
  obtain ⟨c, q, hc, -, -, hw⟩ := halvedCores_eq_some_iff.mp h
  exact ⟨Cores.isLeaf_of_ofValue hc, by cases hw <;> rfl⟩

theorem halvesLeaves_size (t : Nat) : HalvesLeaves (halvedSize t) := by
  intro v w h
  obtain ⟨n, half, s, hn, hlt, -, -, rfl⟩ := halvedSize_eq_some_iff.mp h
  refine ⟨?_, rfl⟩
  cases v with
  | text s => rfl
  | _ =>
    cases hn
    omega

/-- An **amount** is halved by itself. -/
theorem isLocal_amount (hhalf : HalvesLeaves half) :
    IsLocal (fun a d => do
      match ← half ((d.at? a).getD .null) with
      | some new => return d.updateAt (fun _ => new) a
      | none => return d) (halvedAmount half) (Halves half) where
  eq := by
    intro d a x hd hx
    simp only [hx.at?, Option.getD_some, halvedAmount]
    cases hw : half x with
    | error e => rfl
    | ok w =>
      cases w with
      | none => exact congrArg Except.ok hx.inPlace_self.symm
      | some w =>
        have halone : d.Alone a := by simpa using hd [] ⟨rfl, w, hw⟩
        exact congrArg Except.ok (halone.updateAt_eq hx (Value.label_of_isLeaf (hhalf x w hw).1) _)
  keeps := by
    intro x y hy
    obtain ⟨w, hw, rfl⟩ := map_eq_ok_iff.mp hy
    cases w with
    | none => exact .refl x
    | some w => exact .of_unlabelled (Value.unlabelled_of_isLeaf (hhalf x w hw).2)

theorem isLocal_resizeAmount (hhalf : HalvesLeaves half) (name : String) :
    IsLocal (resizeAmount half name) (inField name (halvedAmount half))
      (UnderField name (Halves half)) :=
  ((isLocal_amount hhalf).below name).congr fun a d => by
    rw [resizeAmount]
    cases below? d a name <;> rfl

theorem isLocal_resizePart (hhalf : HalvesLeaves half) (part name : String) :
    IsLocal (resizePart half part name) (inField part (inField name (halvedAmount half)))
      (UnderField part (UnderField name (Halves half))) :=
  (isLocal_resizeAmount hhalf name).below part

/-- The first volume is at the storage, or one step below it. -/
theorem resizeVolume_eq (half : Value → Except Fault (Option Value)) (a : Address) (d : Value) :
    (match volume? d a with
      | some v => resizeAmount half "size" v d
      | none => .ok d) =
    match below? d a "storage" with
      | some b =>
        match d.at? b with
        | some (.list _ (_ :: _)) => resizeAmount half "size" (b ++ [0]) d
        | _ => resizeAmount half "size" b d
      | none => .ok d := by
  cases hb : below? d a "storage" with
  | none => simp [volume?, hb]
  | some b =>
    cases hx : d.at? b with
    | none =>
      have hsize : below? d b "size" = none := by rw [below?, hx]; rfl
      simp [volume?, hb, hx, resizeAmount, hsize, pure, Except.pure]
    | some x =>
      cases x with
      | list l xs => cases xs <;> simp [volume?, hb, hx]
      | _ => simp [volume?, hb, hx]

/-- **A profile is resized by itself.** -/
theorem isLocal_resizeProfile :
    IsLocal (fun a d => resizeProfile d a) halvedProfile
      (UnderField "resources" ResourcesExceed) := by
  have hcpu := isLocal_resizePart halvesLeaves_cores "cpu" "units"
  have hmemory := isLocal_resizePart (halvesLeaves_size memoryThreshold) "memory" "size"
  have hstorage := ((isLocal_resizeAmount (halvesLeaves_size storageThreshold)
    "size").volume.below "storage").congr (resizeVolume_eq _)
  have hrest := hmemory.andThen hstorage (underField_of_inField (by decide))
  have hresources := hcpu.andThen hrest fun hw =>
    Or.imp (underField_of_inField (by decide) hw) (underField_of_inField (by decide) hw)
  refine ((hresources.below "resources").guarded
    fun v => v.orEmpty.field? "resources").congr fun a d => ?_
  rw [resizeProfile]
  cases below? d a "resources" <;> rfl

/-! ### All profiles -/

/-- **One entry after the other**: what is done to an entry depends on its value only. -/
theorem IsLocal.foldlM_eq {op : Address → Value → Except Fault Value}
    {here : Value → Except Fault Value} {P : Places} (h : IsLocal op here P) {l : Label}
    (rest : Entries) :
    ∀ (d : Value) (done : Entries),
      (∀ j e b, rest[j]? = some e → P e.2 b → d.Alone (a ++ (done.length + j) :: b)) →
      d.Holds a (.map l (done ++ rest)) →
      (List.range' done.length rest.length).foldlM (fun d i => op (a ++ [i]) d) d =
        (rest.mapM fun e => (here e.2).map (Prod.mk e.1)).map fun rest' =>
          d.inPlace (fun _ => .map l (done ++ rest')) a := by
  -- the induction is on the entries that are left, whichever are done already
  induction rest with
  | nil =>
    intro d done hd hx
    exact congrArg Except.ok hx.inPlace_self.symm
  | cons e rest ih =>
    intro d done hd hx
    have he : Value.Holds (.map l (done ++ e :: rest)) [done.length] e.2 :=
      .entry (k := e.1) (by simp) (.here _)
    have halone : ∀ b, P e.2 b → d.Alone (a ++ [done.length] ++ b) := fun b hP => by
      rw [List.append_assoc]
      exact hd 0 e b rfl hP
    rw [List.length_cons, List.range'_succ, List.foldlM_cons, h.eq halone (hx.append he),
      List.mapM_cons]
    cases hw : here e.2 with
    | error e => rfl
    | ok w =>
      -- the entry joins those that are done
      have hput : d.inPlace (fun _ => w) (a ++ [done.length]) =
          d.inPlace (fun _ => .map l ((done ++ [(e.1, w)]) ++ rest)) a := by
        refine hx.inPlace_append_eq ?_
        simp only [Value.inPlace, Value.modifyChild, List.modify_eq_set_getElem?]
        simp
      have hd' : ∀ j e' b, rest[j]? = some e' → P e'.2 b →
          (d.inPlace (fun _ => w) (a ++ [done.length])).Alone
            (a ++ ((done ++ [(e.1, w)]).length + j) :: b) := by
        intro j e' b he' hP
        have := hd (j + 1) e' b he' hP
        rw [List.length_append, List.length_singleton, Nat.add_assoc, Nat.add_comm 1 j]
        exact this.of_keeps (.inPlace (hx.append he) (h.keeps hw))
      have hx' := hput ▸ hx.inPlace (f := fun _ => .map l ((done ++ [(e.1, w)]) ++ rest))
      have hih := ih _ (done ++ [(e.1, w)]) hd' hx'
      rw [List.length_append, List.length_singleton] at hih
      refine hih.trans ?_
      cases hrest : rest.mapM fun e => (here e.2).map (Prod.mk e.1) with
      | error e => rfl
      | ok rest' =>
        refine congrArg Except.ok ?_
        simp only [hput, Value.inPlace_inPlace]
        simp [Function.comp_def]

/-- What a mapping has **under a name** that it is asked for. -/
theorem field_of_split {l : Label} {before after : Entries} {c : Value}
    (h : Entries.Lacks before name) :
    Value.field (.map l (before ++ (.text name, c) :: after)) name = .ok c := by
  have hdiffer : Entries.Differ name c c (before ++ (.text name, c) :: after) _ :=
    Entries.differ_of_lacks h
  have hget := hdiffer.get?.1
  simp [Value.field, Value.fieldOr, Value.field?, hget, bind, Except.bind, pure, Except.pure]

/-- An empty section counts like a missing one. -/
theorem entriesBy_orEmpty (l : Label) (es : Entries) (member : String) :
    (Value.map l es).orEmpty.entriesBy member = .ok es := by
  cases es <;> rfl

theorem discard_bind {α β : Type} (x : Except Fault α) (y : Except Fault β) :
    (do discard x; y) = (do let _ ← x; y) := by
  cases x <;> rfl

/-- Right-sizing of a section **at its place** in the data. -/
theorem resizeSection_eq {data c : Value} {a : Address}
    (h : ∀ b, UnderEntries (UnderField "resources" ResourcesExceed) c b → data.Alone (a ++ b))
    (hc : data.Holds a c) :
    (do
      let compute ← c.orEmpty.entriesBy "values"
      (List.range compute.length).foldlM (fun d i => resizeProfile d (a ++ [i])) data) =
    (do
      let _ ← c.orEmpty.entriesBy "values"
      (inEntries halvedProfile c).map fun w => data.inPlace (fun _ => w) a) := by
  by_cases hmap : ∃ l es, c = .map l es
  · obtain ⟨l, es, rfl⟩ := hmap
    rw [entriesBy_orEmpty, ok_bind, ok_bind, List.range_eq_range']
    have halone : ∀ j e b, es[j]? = some e → UnderField "resources" ResourcesExceed e.2 b →
        data.Alone (a ++ (([] : Entries).length + j) :: b) := by
      intro j e b he hb
      rw [List.length_nil, Nat.zero_add]
      exact h (j :: b) ⟨l, es, j, e, b, rfl, he, rfl, hb⟩
    refine (isLocal_resizeProfile.foldlM_eq es data [] halone hc).trans ?_
    rw [inEntries]
    cases es.mapM fun e => (halvedProfile e.2).map (Prod.mk e.1) <;> rfl
  · have hentries : inEntries halvedProfile c = .ok c := by
      cases c with
      | map l es => exact absurd ⟨l, es, rfl⟩ hmap
      | _ => rfl
    rw [hentries, Except.map, hc.inPlace_self, Value.orEmpty]
    split
    · -- what is given instead of a section cannot be gone through
      cases c with
      | map l es => exact absurd ⟨l, es, rfl⟩ hmap
      | _ => rfl
    · rfl

/-- **Right-sizing is halving every profile**, if the containers around the amounts that exceed their
thresholds stand in one place only. -/
theorem resize_eq_halved_of_alone {data : Value} (h : ∀ a, Exceeds data a → data.Alone a) :
    resize data = halved data := by
  rw [resize, halved]
  -- a section that is missing is left so, and any other one is changed at its place
  rcases position?_cases data "profiles" with ⟨hnone, -⟩ | ⟨l, before, p, after, rfl, hb⟩
  · have hbelow : below? data [] "profiles" = none := by simp [below?, Value.at?, hnone]
    simp only [hbelow, inField_of_position? hnone, Option.bind_none, discard_bind]
    rfl
  · have hbelow : below? (.map l (before ++ (.text "profiles", p) :: after)) [] "profiles" =
        some [before.length] := by
      simp [below?, Value.at?, position?_of_split hb]
    have hp : Value.Holds (.map l (before ++ (.text "profiles", p) :: after)) [before.length] p :=
      holds_of_split
    simp only [hbelow, field_of_split hb, ok_bind, inField_of_split hb, Option.bind_some,
      discard_bind]
    rcases position?_cases p "compute" with ⟨hnone, -⟩ | ⟨l', before', c, after', rfl, hb'⟩
    · have hbelow' : below? (.map l (before ++ (.text "profiles", p) :: after)) [before.length]
          "compute" = none := by
        simp [below?, hp.at?, hnone]
      simp only [hbelow', inField_of_position? hnone]
      rfl
    · have hbelow' : below? (.map l (before ++ (.text "profiles",
          .map l' (before' ++ (.text "compute", c) :: after')) :: after)) [before.length]
          "compute" = some ([before.length] ++ [before'.length]) := by
        simp [below?, hp.at?, position?_of_split hb']
      have htruthy : (Value.map l' (before' ++ (.text "compute", c) :: after')).orEmpty =
          .map l' (before' ++ (.text "compute", c) :: after') := by
        simp [Value.orEmpty, Value.isTruthy]
      simp only [hbelow', htruthy, Value.sectionEntries, field_of_split hb', ok_bind]
      have halone : ∀ b, UnderEntries (UnderField "resources" ResourcesExceed) c b →
          Value.Alone _ ([before.length] ++ [before'.length] ++ b) := fun b hP =>
        h _ (underField_of_split hb (underField_of_split hb' hP))
      refine (resizeSection_eq halone (hp.append holds_of_split)).trans ?_
      rw [inField_of_split hb']
      cases c.orEmpty.entriesBy "values" with
      | error e => rfl
      | ok _ =>
        cases inEntries halvedProfile c with
        | error e => rfl
        | ok w =>
          refine congrArg Except.ok ?_
          simp only [Value.inPlace_append]
          exact (hp.inPlace_congr inPlace_of_split).trans inPlace_of_split

/-- **Right-sizing is halving every profile**, if no container stands in two places. -/
theorem resize_eq_halved {data : Value} (h : data.Unshared) : resize data = halved data :=
  resize_eq_halved_of_alone fun a _ => h.alone a

end StackManifest.RightSizing
