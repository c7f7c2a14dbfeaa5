import Mathlib.Data.List.Forall2

/-!
# Steps that may fail, one after the other

Most of what is done with a document goes through a list of things and may stop at any of
them. Two facts describe every such pass: it succeeds exactly when each step does
(`StackManifest.mapM_eq_ok_iff`), and when it fails, there is a **first** step that does
(`StackManifest.mapM_eq_error_iff`). A pass that carries something along keeps whatever each of its
steps keeps (`StackManifest.of_foldlM_eq_ok`). The other statements open a single step.
-/

namespace StackManifest

variable {α β ε : Type}

/-! ### A single step -/

theorem bind_eq_ok_iff {x : Except ε α} {f : α → Except ε β} {b : β} :
    (x >>= f) = .ok b ↔ ∃ a, x = .ok a ∧ f a = .ok b := by
  cases x with
  | error e => simp [bind, Except.bind]
  | ok a => simp [bind, Except.bind]

theorem ok_bind (a : α) (f : α → Except ε β) : ((Except.ok a : Except ε α) >>= f) = f a := rfl

theorem error_bind (e : ε) (f : α → Except ε β) :
    ((Except.error e : Except ε α) >>= f) = .error e := rfl

theorem map_eq_ok_iff {x : Except ε α} {f : α → β} {b : β} :
    x.map f = .ok b ↔ ∃ a, x = .ok a ∧ f a = b := by
  cases x with
  | error e => simp [Except.map]
  | ok a => simp [Except.map]

theorem mapError_eq_ok_iff {δ : Type} {x : Except ε α} {f : ε → δ} {a : α} :
    x.mapError f = .ok a ↔ x = .ok a := by
  cases x with
  | error e => simp [Except.mapError]
  | ok b => simp [Except.mapError]

theorem toOption_eq_some_iff {x : Except ε α} {a : α} : x.toOption = some a ↔ x = .ok a := by
  cases x with
  | error e => simp [Except.toOption]
  | ok b => simp [Except.toOption]

/-! ### Lists that are related in order -/

/-- Every element of the second of two related lists is related to one of the first. -/
theorem exists_of_mem_forall₂ {R : α → β → Prop} {xs : List α} {ys : List β}
    (h : List.Forall₂ R xs ys) {y : β} (hy : y ∈ ys) : ∃ x ∈ xs, R x y := by
  induction h with
  | nil => cases hy
  | cons hR _ ih =>
    rcases List.mem_cons.mp hy with rfl | hy
    · exact ⟨_, List.mem_cons_self .., hR⟩
    · obtain ⟨x, hx, hR⟩ := ih hy
      exact ⟨x, List.mem_cons_of_mem _ hx, hR⟩

/-- A list is related to another one if **each of its elements** is related to something. -/
theorem exists_forall₂_of_forall_mem {R : α → β → Prop} {xs : List α}
    (h : ∀ x ∈ xs, ∃ y, R x y) : ∃ ys, List.Forall₂ R xs ys := by
  induction xs with
  | nil => exact ⟨[], .nil⟩
  | cons x xs ih =>
    obtain ⟨⟨y, hy⟩, hxs⟩ := List.forall_mem_cons.mp h
    obtain ⟨ys, hys⟩ := ih hxs
    exact ⟨y :: ys, .cons hy hys⟩

/-- What is related **one by one** to the elements of a list is related one by one to what belongs
to the elements of another list, if it is for each of them. -/
theorem exists_forall₂ {γ δ : Type} {S : α → β → Prop} {G : α → γ → Prop} {G' : β → δ → Prop}
    {R : γ → δ → Prop} (h : ∀ x y a, S x y → G x a → ∃ b, G' y b ∧ R a b) {xs : List α}
    {ys : List β} {as : List γ} (hxy : List.Forall₂ S xs ys) (has : List.Forall₂ G xs as) :
    ∃ bs, List.Forall₂ G' ys bs ∧ List.Forall₂ R as bs := by
  induction hxy generalizing as with
  | nil =>
    cases has
    exact ⟨[], .nil, .nil⟩
  | cons hS _ ih =>
    cases has with
    | cons hG has =>
      obtain ⟨b, hb, hR⟩ := h _ _ _ hS hG
      obtain ⟨bs, hbs, hRs⟩ := ih has
      exact ⟨b :: bs, .cons hb hbs, .cons hR hRs⟩

/-- Two lists that are related to **one and the same** list are related to each other. -/
theorem forall₂_of_common {γ : Type} {R : α → β → Prop} {S : α → γ → Prop} {T : β → γ → Prop}
    (h : ∀ x y z, R x y → S x z → T y z) {xs : List α} {ys : List β} {zs : List γ}
    (hxy : List.Forall₂ R xs ys) (hxz : List.Forall₂ S xs zs) : List.Forall₂ T ys zs := by
  induction hxy generalizing zs with
  | nil =>
    cases hxz
    exact .nil
  | cons hR _ ih =>
    cases hxz with
    | cons hS hxz => exact .cons (h _ _ _ hR hS) (ih hxz)

/-- Lists that are related in order have the **same images** under functions that agree on what is
related. -/
theorem map_eq_map_of_forall₂ {γ : Type} {R : α → β → Prop} {f : α → γ} {f' : β → γ}
    {xs : List α} {ys : List β} (hR : ∀ x y, R x y → f x = f' y) (h : List.Forall₂ R xs ys) :
    xs.map f = ys.map f' := by
  rw [← List.forall₂_eq_eq_eq, List.forall₂_map_left_iff, List.forall₂_map_right_iff]
  exact h.imp hR

/-! ### A pass through a list -/

variable {f : α → Except ε β} {xs : List α}

/-- **A pass succeeds exactly when every step does**, and then it has the results of the steps,
in order. -/
theorem mapM_eq_ok_iff {ys : List β} :
    xs.mapM f = .ok ys ↔ List.Forall₂ (fun x y => f x = .ok y) xs ys := by
  induction xs generalizing ys with
  | nil =>
    rw [List.mapM_nil, List.forall₂_nil_left_iff]
    exact ⟨fun h => (Except.ok.inj h).symm, fun h => congrArg Except.ok h.symm⟩
  | cons x xs ih =>
    rw [List.mapM_cons, bind_eq_ok_iff]
    constructor
    · rintro ⟨y, hy, h⟩
      obtain ⟨ys', hys, h⟩ := bind_eq_ok_iff.mp h
      obtain rfl : y :: ys' = ys := Except.ok.inj h
      exact .cons hy (ih.mp hys)
    · intro h
      cases h with
      | cons hy hys => exact ⟨_, hy, bind_eq_ok_iff.mpr ⟨_, ih.mpr hys, rfl⟩⟩

/-- A pass whose steps all succeed, each with a result that is related to what it was taken
for, succeeds with results that are related in order. -/
theorem exists_mapM_eq_ok {R : α → β → Prop} (h : ∀ x ∈ xs, ∃ y, f x = .ok y ∧ R x y) :
    ∃ ys, xs.mapM f = .ok ys ∧ List.Forall₂ R xs ys := by
  induction xs with
  | nil => exact ⟨[], rfl, .nil⟩
  | cons x xs ih =>
    obtain ⟨y, hy, hR⟩ := h x (List.mem_cons_self ..)
    obtain ⟨ys, hys, hRs⟩ := ih fun z hz => h z (List.mem_cons_of_mem _ hz)
    refine ⟨y :: ys, ?_, .cons hR hRs⟩
    rw [mapM_eq_ok_iff] at hys ⊢
    exact .cons hy hys

/-- A pass succeeds with results that all have a **property** exactly when each step does. -/
theorem exists_mapM_forall_iff {P : β → Prop} :
    (∃ ys, xs.mapM f = .ok ys ∧ ∀ y ∈ ys, P y) ↔ ∀ x ∈ xs, ∃ y, f x = .ok y ∧ P y := by
  constructor
  · rintro ⟨ys, hys, hP⟩
    have hrel : List.Forall₂ (fun x y => f x = .ok y ∧ P y) xs ys :=
      List.forall₂_iff_zip.mpr ⟨(mapM_eq_ok_iff.mp hys).length_eq, fun {x y} hmem =>
        ⟨(List.forall₂_iff_zip.mp (mapM_eq_ok_iff.mp hys)).2 hmem, hP y (List.of_mem_zip hmem).2⟩⟩
    exact fun x hx => (exists_of_mem_forall₂ hrel.flip hx).imp fun y h => h.2
  · intro h
    obtain ⟨ys, hys, hrel⟩ := exists_mapM_eq_ok (R := fun _ y => P y) h
    exact ⟨ys, hys, fun y hy => (exists_of_mem_forall₂ hrel hy).elim fun _ h => h.2⟩

theorem exists_mapM_iff : (∃ ys, xs.mapM f = .ok ys) ↔ ∀ x ∈ xs, ∃ y, f x = .ok y := by
  simpa using exists_mapM_forall_iff (f := f) (P := fun _ => True)

/-- A pass fails with its **first step**, or after it with the pass through the others. -/
theorem mapM_cons_eq_error_iff {e : ε} {x : α} :
    (x :: xs).mapM f = .error e ↔
      f x = .error e ∨ ∃ y, f x = .ok y ∧ xs.mapM f = .error e := by
  rw [List.mapM_cons]
  cases hx : f x with
  | error e' =>
    rw [error_bind]
    constructor
    · exact fun h => .inl (congrArg Except.error (Except.error.inj h))
    · rintro (h | ⟨y, hy, -⟩)
      · exact congrArg Except.error (Except.error.inj h)
      · cases hy
  | ok y =>
    rw [ok_bind]
    cases xs.mapM f with
    | error e' => simp [bind, Except.bind]
    | ok ys => simp [bind, Except.bind, pure, Except.pure]

/-- **A pass fails at its first step that fails**: all steps before it succeed. -/
theorem mapM_eq_error_iff {e : ε} :
    xs.mapM f = .error e ↔
      ∃ before x after, xs = before ++ x :: after ∧ (∀ z ∈ before, ∃ y, f z = .ok y) ∧
        f x = .error e := by
  induction xs with
  | nil =>
    constructor
    · intro h
      cases h
    · rintro ⟨before, x, after, h, -, -⟩
      simp at h
  | cons x xs ih =>
    rw [mapM_cons_eq_error_iff, ih]
    constructor
    · rintro (hx | ⟨y, hy, before, z, after, rfl, hb, hz⟩)
      · exact ⟨[], x, xs, rfl, by simp, hx⟩
      · exact ⟨x :: before, z, after, rfl, List.forall_mem_cons.mpr ⟨⟨y, hy⟩, hb⟩, hz⟩
    · rintro ⟨before, z, after, h, hb, hz⟩
      cases before with
      | nil =>
        obtain ⟨rfl, -⟩ := List.cons.inj h
        exact .inl hz
      | cons w before =>
        obtain ⟨rfl, rfl⟩ := List.cons.inj h
        obtain ⟨⟨y, hy⟩, hb⟩ := List.forall_mem_cons.mp hb
        exact .inr ⟨y, hy, before, z, after, rfl, hb, hz⟩

/-! ### A pass that carries something along -/

section Carried

variable {f : β → α → Except ε β} {xs : List α} {b c : β}

/-- **What each step keeps is kept by the pass**: a statement about what has been gone through and
what is carried, that goes on to hold with one more step, holds of all of it at the end. -/
theorem of_foldlM_eq_ok {I : List α → β → Prop}
    (step : ∀ {done b x c}, I done b → f b x = .ok c → I (done ++ [x]) c) {done : List α}
    (hb : I done b) (h : xs.foldlM f b = .ok c) : I (done ++ xs) c := by
  induction xs generalizing done b with
  | nil =>
    obtain rfl : b = c := Except.ok.inj h
    rwa [List.append_nil]
  | cons x xs ih =>
    rw [List.foldlM_cons] at h
    obtain ⟨b', hb', h⟩ := bind_eq_ok_iff.mp h
    have := ih (step hb hb') h
    rwa [List.append_assoc] at this

/-- A pass whose steps succeed or fail **whatever is carried** succeeds exactly when every step
does. -/
theorem exists_foldlM_eq_ok_iff {P : α → Prop} (h : ∀ b x, (∃ c, f b x = .ok c) ↔ P x) :
    (∃ c, xs.foldlM f b = .ok c) ↔ ∀ x ∈ xs, P x := by
  induction xs generalizing b with
  | nil => exact iff_of_true ⟨b, rfl⟩ (by simp)
  | cons x xs ih =>
    rw [List.forall_mem_cons, ← h b x, List.foldlM_cons]
    constructor
    · rintro ⟨c, hc⟩
      obtain ⟨b', hb', hc⟩ := bind_eq_ok_iff.mp hc
      exact ⟨⟨b', hb'⟩, ih.mp ⟨c, hc⟩⟩
    · rintro ⟨⟨b', hb'⟩, hxs⟩
      obtain ⟨c, hc⟩ := (ih (b := b')).mpr hxs
      exact ⟨c, bind_eq_ok_iff.mpr ⟨b', hb', hc⟩⟩

end Carried

end StackManifest
