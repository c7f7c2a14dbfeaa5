import StackManifest.Proofs.Reading.References

/-!
# A name means the same as a key and as a reference

The entries of a deployment refer to compute profiles, and the targets of open ports to services, by
their names. Both are written by hand, and a name may be written as a number. The key becomes a text
when the section is read (`StackManifest.keyText`), the reference when its own field is
(`StackManifest.Scalar.named`), and they meet in the table.

Take data whose rest is a document, give a profile or a service under a key that no other key of the
section is read like, and refer to it: what comes of that hinges on the reference being a name
(`StackManifest.Document.parse_of_refersToProfile`,
`StackManifest.Document.parse_of_refersToService`). If it is one, the data is a document, and under
the reference is found what was given under the key.

Not everything that becomes a text as a key does so as a reference. A truth value does as a key
only: `StackManifest.Document.not_parse_of_refers`.
-/

namespace StackManifest

open Checked

/-! ### Places that refer -/

/-- The entry of the deployment **under two keys**. -/
def Document.Deploys (d : Document) (s p : Value) (e : DeploymentEntry) : Prop :=
  ∃ service placement places, keyName s = .ok service ∧ keyName p = .ok placement ∧
    d.deployment.get? service = some places ∧ places.get? placement = some e

/-- The target of the service **under a key**, by the positions of the rule and of the target. -/
def Document.Exposes (d : Document) (k : Value) (i j : Nat) (t : ExposeTarget) : Prop :=
  ∃ name s r, keyName k = .ok name ∧ d.services.get? name = some s ∧ s.expose[i]? = some r ∧
    r.targets[j]? = some t

variable {n w s p k v v' : Value} {i j : Nat} {D : Value → Value → Prop} {C : Prop}
  {F : Document → Prop}

/-- Data in which an entry of the deployment **refers to a profile**, and the same without the
reference. -/
def RefersToProfile (n s p : Value) : Value → Value → Prop :=
  InEntry (.text "deployment") (InEntry s (InEntry p (InEntry (.text "profile") (Refers n))))

/-- Data in which a target **refers to a service**, and the same without the reference. -/
def RefersToService (n k : Value) (i j : Nat) : Value → Value → Prop :=
  InEntry (.text "services") (InEntry k (InEntry (.text "expose") (InElement i
    (InEntry (.text "to") (InElement j (InEntry (.text "service") (Refers n)))))))

theorem hinges_refersToProfile (hn : n ≠ .null) :
    Hinges (RefersToProfile n s p) Document.read (∃ name, Scalar.named n = .ok name)
      fun d => ∃ e name, d.Deploys s p e ∧ e.profile = some name ∧
        Scalar.named n = .ok name := by
  have hentry := (Hinges.refers hn).normalized DeploymentEntry.isField_profile
  have hplaces : Hinges (InEntry p (InEntry (.text "profile") (Refers n)))
      (fun v => (normalize 1 v).bind (tableOf DeploymentEntry.read)) _ _ := hentry.named p
  refine ((hplaces.named s).field Document.isField_deployment).mono ?_
  rintro d ⟨service, places, hs, hplaces, placement, e, hp, he, name, hname, hprofile⟩
  exact ⟨e, name, ⟨service, placement, places, hs, hp, hplaces, he⟩, hprofile, hname⟩

theorem hinges_refersToService (hn : n ≠ .null) :
    Hinges (RefersToService n k i j) Document.read (∃ name, Scalar.named n = .ok name)
      fun d => ∃ t name, d.Exposes k i j t ∧ t.service = some name ∧
        Scalar.named n = .ok name := by
  have htarget := (Hinges.refers hn).field ExposeTarget.isField_service
  have hrule := (htarget.listed j).field ExposeRule.isField_to
  have hservice := (hrule.listed i).normalized Service.isField_expose
  refine ((hservice.named k).field Document.isField_services).mono ?_
  rintro d ⟨service, s, hk, hs, r, hr, t, ht, name, hname, htarget⟩
  exact ⟨t, name, ⟨service, s, r, hk, hs, hr, ht⟩, htarget, hname⟩

/-! ### What is referred to -/

/-- Data in which a **compute profile** is given under a key, and the same without it. -/
def GivesProfile (n w : Value) : Value → Value → Prop :=
  InEntry (.text "profiles") (InEntry (.text "compute") (HasEntry n w))

/-- Data in which a **service** is given under a key, and the same without it. -/
def GivesService (n w : Value) : Value → Value → Prop := InEntry (.text "services") (HasEntry n w)

theorem hinges_givesProfile {cp : ComputeProfile}
    (hw : (normalize 0 w).bind ComputeProfile.read = .ok cp) :
    Hinges (GivesProfile n w) Document.read (∃ name, keyName n = .ok name)
      fun d => ∃ name, keyName n = .ok name ∧ d.computeProfiles.get? name = some cp := by
  have hsection : Hinges (HasEntry n w) (readSection ComputeProfile.read) _ _ :=
    (Hinges.hasEntry (k := n) hw).optional fun v v' => HasEntry.ne_null
  have hprofiles := (hsection.field Profiles.isField_compute).optional fun v v' => InEntry.ne_null
  refine (hprofiles.field Document.isField_profiles).mono ?_
  rintro d ⟨ps, hps, t, ht, name, hname, hget⟩
  refine ⟨name, hname, ?_⟩
  rw [Document.computeProfiles, hps, Option.bind_some, ht]
  exact hget

theorem hinges_givesService {s : Service} (hw : (normalize 0 w).bind Service.read = .ok s) :
    Hinges (GivesService n w) Document.read (∃ name, keyName n = .ok name)
      fun d => ∃ name, keyName n = .ok name ∧ d.services.get? name = some s := by
  have hsection := Hinges.hasEntry (k := n) hw
  exact (hsection.field Document.isField_services).mono fun d hd => hd

/-- **A service that is given** is read by itself, and found under the name of its key. -/
theorem GivesService.exists_service {d : Document} (h : GivesService n w v v')
    (hd : Document.read v' = .ok d) :
    ∃ name s, keyName n = .ok name ∧ (normalize 0 w).bind Service.read = .ok s ∧
      d.services.get? name = some s := by
  obtain ⟨l, es, es', c, c', rfl, rfl, hgiven, hdiffer⟩ := h.exists_differ
  have hservices := Document.isField_services.reads hdiffer.get?.2 hd
  cases hgiven with
  | mk hlast => exact get?_of_readNamed hlast hservices

/-- A reference from the deployment **changes no profile**. -/
theorem RefersToProfile.profiles_eq {d d' : Document} (h : RefersToProfile n s p v v')
    (hd : Document.read v = .ok d) (hd' : Document.read v' = .ok d') :
    d'.profiles = d.profiles := by
  obtain ⟨l, es, es', c, w, rfl, rfl, -, hdiffer⟩ := h.exists_differ
  have hprofiles := (Document.read_eq_ok_iff.mp hd').1
  rw [Fields.read_eq_of_differ hdiffer (by simp), (Document.read_eq_ok_iff.mp hd).1] at hprofiles
  exact (Checked.ok.inj hprofiles).symm

/-! ### Documents of data -/

theorem missingFields_eq_of_differ {es es' : Entries} {name : String} {c w : Value}
    (h : Entries.Differ name c w es es') (hcw : w.isMissing = c.isMissing) :
    missingFields es' = missingFields es := by
  refine List.filter_congr fun f _ => ?_
  rw [Entries.get, Entries.get]
  by_cases hf : f = name
  · rw [hf, h.get?.1, h.get?.2]
    exact hcw
  · rw [h.get?_of_ne hf]

theorem keyName_text (t : String) : keyName (.text t) = .ok t := rfl

/-- What hinges on one place **is a document** if it was one without the change, and what it hinges
on is true. -/
theorem exists_parse_of_hinges {d : Document} {name : String}
    (h : Hinges (InEntry (.text name) D) Document.read C F) (hv : InEntry (.text name) D v v')
    (hmissing : ∀ c w, D c w → c.isMissing = false ∧ w.isMissing = false)
    (hd : Document.parse (.data v) = .ok d) (hC : C) :
    ∃ d', Document.parse (.data v') = .ok d' := by
  obtain ⟨d', hd'⟩ := h.succeeds v v' d hv (read_of_parse hd) hC
  obtain ⟨l, es, es', c, w, rfl, rfl, hcw, hdiffer⟩ := hv.exists_differ
  obtain ⟨hc, hw⟩ := hmissing c w hcw
  obtain ⟨l', es₀, hes, hnone, -⟩ := (ofData_eq_ok_iff (v := .map l es)).mp hd
  cases hes
  exact ⟨d', ofData_eq_ok_iff.mpr ⟨l, es', rfl,
    (missingFields_eq_of_differ hdiffer (hw.trans hc.symm)).trans hnone, hd'⟩⟩

theorem InEntry.isMissing (h : InEntry k D v v') : v.isMissing = false ∧ v'.isMissing = false := by
  cases h
  exact ⟨rfl, rfl⟩

theorem HasEntry.isMissing (h : HasEntry k w v v') :
    v.isMissing = false ∧ v'.isMissing = false := by
  cases h
  exact ⟨rfl, rfl⟩

/-! ### A reference among the services -/

/-- Whether a key is the last one with its name **depends on the keys** only. -/
theorem Entries.IsLast.of_keys {before after before' after' : Entries}
    (h : before.IsLast n after) (hbefore : before'.map Prod.fst = before.map Prod.fst)
    (hafter : after'.map Prod.fst = after.map Prod.fst) : before'.IsLast n after' := by
  have hkeys : ∀ {es es' : Entries}, es'.map Prod.fst = es.map Prod.fst → ∀ e ∈ es',
      ∃ f ∈ es, f.1 = e.1 := fun heq e he => List.mem_map.mp (heq ▸ List.mem_map_of_mem he)
  constructor
  · intro e he
    obtain ⟨f, hf, hfe⟩ := hkeys hbefore e he
    exact hfe ▸ h.distinct f hf
  · intro e he
    obtain ⟨f, hf, hfe⟩ := hkeys hbefore e he
    exact hfe ▸ h.earlier f hf
  · intro e he
    obtain ⟨f, hf, hfe⟩ := hkeys hafter e he
    exact hfe ▸ h.later f hf

/-- **An entry stays** when a value is changed under some key. -/
theorem exists_entry_of_keys {es before after : List (Value × Value)}
    (h : es.map Prod.fst = (before ++ (n, w) :: after).map Prod.fst)
    (hlast : Entries.IsLast before n after) :
    ∃ before' w' after', es = before' ++ (n, w') :: after' ∧ Entries.IsLast before' n after' := by
  rw [List.map_append, List.map_cons] at h
  obtain ⟨before', rest, rfl, hbefore, hrest⟩ := List.map_eq_append_iff.mp h
  obtain ⟨⟨n', w'⟩, after', rfl, rfl, hafter⟩ := List.map_eq_cons_iff.mp hrest
  exact ⟨before', w', after', rfl, hlast.of_keys hbefore hafter⟩

theorem InEntry.exists_keys (h : InEntry k D v v') :
    ∃ es es', v = .map v.label es ∧ v' = .map v.label es' ∧
      es'.map Prod.fst = es.map Prod.fst := by
  cases h
  exact ⟨_, _, rfl, rfl, by simp⟩

/-- A service that is given **is still given**, perhaps with a reference in it. -/
theorem RefersToService.exists_gives {rest between : Value} (h : GivesService n w rest between)
    (hr : RefersToService n k i j between v) : ∃ base w', GivesService n w' base v := by
  obtain ⟨l₀, es₀, es, c₀, c, -, hbetween, hgiven, hdiffer⟩ := h.exists_differ
  cases hr with
  | mk hlast hcw =>
    cases hbetween
    have hc := hdiffer.get?.2
    rw [get?_around hlast.distinct] at hc
    obtain rfl := Option.some.inj hc
    -- the services with the entry, and the same services with a changed value
    obtain ⟨services, services', hservices, hservices', hkeys⟩ := hcw.exists_keys
    cases hgiven with
    | mk hlast' =>
      cases hservices
      obtain ⟨before, w', after, rfl, hlasts⟩ := exists_entry_of_keys hkeys hlast'
      subst hservices'
      exact ⟨_, w', .mk hlast (.mk hlasts)⟩

/-! ### Names -/

/-- A value that a **name** may be written as: a text, a number or a truth value. -/
def Value.IsScalar : Value → Prop
  | .text _ | .int _ | .float _ | .bool _ => True
  | _ => False

theorem Value.IsScalar.ne_null (h : n.IsScalar) : n ≠ .null := by
  rintro rfl
  exact h

theorem Scalar.named_int_eq_ok_iff {m : Int} {name : String} :
    Scalar.named (.int m) = .ok name ↔
      (Value.int m).isWritable = true ∧ (Value.int m).plain = name := by
  simp [Scalar.named, Checked.bind_eq_ok_iff, Scalar.asText_int_eq_ok_iff, Value.toText_eq_ok_iff,
    Scalar.text]

/-- **A reference is a name** unless it is a truth value, or a number that cannot be written. -/
theorem Value.IsScalar.exists_named_iff (h : n.IsScalar) :
    (∃ name, Scalar.named n = .ok name) ↔ (∀ b, n ≠ .bool b) ∧ n.isWritable = true := by
  cases n with
  | text t => simp [Scalar.named, Scalar.asText, Checked.bind, Scalar.text, Value.isWritable]
  | bool b => simp [Scalar.named, Scalar.asText, Checked.bind, Scalar.text, Checked.fail]
  | int m => simp [Scalar.named_int_eq_ok_iff]
  | float x =>
    simp [Scalar.named, Checked.bind_eq_ok_iff, Scalar.asText_float_eq_ok_iff, Value.toText_eq_ok_iff,
      Scalar.text, Value.isWritable]
  | _ => cases h

namespace Document

/-- **Whether a profile is found** under the name that an entry of the deployment has for it. -/
theorem parse_of_refersToProfile {rest between : Value} {d₀ : Document} {cp : ComputeProfile}
    (hn : n.IsScalar) (hgives : GivesProfile n w rest between)
    (hrefers : RefersToProfile n s p between v) (hrest : parse (.data rest) = .ok d₀)
    (hw : (normalize 0 w).bind ComputeProfile.read = .ok cp) :
    ((∃ d, parse (.data v) = .ok d) ↔ (∀ b, n ≠ .bool b) ∧ n.isWritable = true) ∧
      ∀ d, parse (.data v) = .ok d → ∃ e name, d.Deploys s p e ∧ e.profile = some name ∧
        d.computeProfiles.get? name = some cp := by
  have hreference := hinges_refersToProfile (s := s) (p := p) hn.ne_null
  have hbetween : ∀ name, Scalar.named n = .ok name → ∃ d₁, parse (.data between) = .ok d₁ :=
    fun name hname => exists_parse_of_hinges (hinges_givesProfile hw) hgives
      (fun _ _ => InEntry.isMissing) hrest ⟨name, keyName_of_named hname⟩
  refine ⟨⟨?_, fun hname => ?_⟩, fun d hd => ?_⟩
  · rintro ⟨d, hd⟩
    obtain ⟨e, name, -, -, hname⟩ := hreference.finds _ _ d hrefers (read_of_parse hd)
    exact hn.exists_named_iff.mp ⟨name, hname⟩
  · obtain ⟨name, hname⟩ := hn.exists_named_iff.mpr hname
    obtain ⟨d₁, hd₁⟩ := hbetween name hname
    exact exists_parse_of_hinges hreference hrefers (fun _ _ => InEntry.isMissing) hd₁ ⟨name, hname⟩
  · obtain ⟨e, name, he, hprofile, hname⟩ := hreference.finds _ _ d hrefers (read_of_parse hd)
    obtain ⟨d₁, hd₁⟩ := hbetween name hname
    obtain ⟨name', hname', hget⟩ := (hinges_givesProfile hw).finds _ _ d₁ hgives (read_of_parse hd₁)
    obtain rfl := Checked.ok.inj ((keyName_of_named hname).symm.trans hname')
    have hsame := hrefers.profiles_eq (read_of_parse hd₁) (read_of_parse hd)
    refine ⟨e, name, he, hprofile, ?_⟩
    rw [computeProfiles, hsame]
    exact hget

/-- **Whether a service is found** under the name that a target has for it. -/
theorem parse_of_refersToService {rest between : Value} {d₀ : Document} {s₀ : Service}
    (hn : n.IsScalar) (hgives : GivesService n w rest between)
    (hrefers : RefersToService n k i j between v) (hrest : parse (.data rest) = .ok d₀)
    (hw : (normalize 0 w).bind Service.read = .ok s₀) :
    ((∃ d, parse (.data v) = .ok d) ↔ (∀ b, n ≠ .bool b) ∧ n.isWritable = true) ∧
      ∀ d, parse (.data v) = .ok d → ∃ t name base w' s, d.Exposes k i j t ∧
        t.service = some name ∧ GivesService n w' base v ∧
        (normalize 0 w').bind Service.read = .ok s ∧ d.services.get? name = some s := by
  have hreference := hinges_refersToService (k := k) (i := i) (j := j) hn.ne_null
  refine ⟨⟨?_, fun hname => ?_⟩, fun d hd => ?_⟩
  · rintro ⟨d, hd⟩
    obtain ⟨t, name, -, -, hname⟩ := hreference.finds _ _ d hrefers (read_of_parse hd)
    exact hn.exists_named_iff.mp ⟨name, hname⟩
  · obtain ⟨name, hname⟩ := hn.exists_named_iff.mpr hname
    obtain ⟨d₁, hd₁⟩ := exists_parse_of_hinges (hinges_givesService hw) hgives
      (fun _ _ => HasEntry.isMissing) hrest ⟨name, keyName_of_named hname⟩
    exact exists_parse_of_hinges hreference hrefers (fun _ _ => InEntry.isMissing) hd₁ ⟨name, hname⟩
  · obtain ⟨t, name, ht, hservice, hname⟩ := hreference.finds _ _ d hrefers (read_of_parse hd)
    obtain ⟨base, w', hgives'⟩ := hrefers.exists_gives hgives
    obtain ⟨name', s, hname', hs, hget⟩ := hgives'.exists_service (read_of_parse hd)
    obtain rfl := Checked.ok.inj ((keyName_of_named hname).symm.trans hname')
    exact ⟨t, name, base, w', s, ht, hservice, hgives', hs, hget⟩

/-- **A name means the same as a key and as a reference**, unless it is a truth value, or a number
that cannot be written. A profile or a service is given under it in data whose rest is a document;
when an entry of the deployment or a target refers to it, the data is a document too, and what is
found under the reference is what was given under the key. -/
theorem parse_of_refers {n : Value} (hn : n.IsScalar) :
    (∀ {w s p rest between v d₀ cp}, GivesProfile n w rest between →
      RefersToProfile n s p between v → parse (.data rest) = .ok d₀ →
      (normalize 0 w).bind ComputeProfile.read = .ok cp →
      ((∃ d, parse (.data v) = .ok d) ↔ (∀ b, n ≠ .bool b) ∧ n.isWritable = true) ∧
        ∀ d, parse (.data v) = .ok d → ∃ e name, d.Deploys s p e ∧ e.profile = some name ∧
          d.computeProfiles.get? name = some cp) ∧
    ∀ {w k i j rest between v d₀ s₀}, GivesService n w rest between →
      RefersToService n k i j between v → parse (.data rest) = .ok d₀ →
      (normalize 0 w).bind Service.read = .ok s₀ →
      ((∃ d, parse (.data v) = .ok d) ↔ (∀ b, n ≠ .bool b) ∧ n.isWritable = true) ∧
        ∀ d, parse (.data v) = .ok d → ∃ t name base w' s, d.Exposes k i j t ∧
          t.service = some name ∧ GivesService n w' base v ∧
          (normalize 0 w').bind Service.read = .ok s ∧ d.services.get? name = some s := by
  constructor
  · intro w s p rest between v d₀ cp hgives hrefers hrest hw
    exact parse_of_refersToProfile hn hgives hrefers hrest hw
  · intro w k i j rest between v d₀ s₀ hgives hrefers hrest hw
    exact parse_of_refersToService hn hgives hrefers hrest hw

/-- Data with some compute profiles and services, an entry of the deployment with a profile, and a
target with a service. -/
def referring (profiles services : Entries) (profile service : Value) : Value :=
  .record
    [("version", .text "2.0"),
     ("services", .map 0 ((.text "web", .record
       [("expose", .array [.record [("to", .array [.record [("service", service)]])]])]) ::
       services)),
     ("profiles", .record [("compute", .map 0 profiles)]),
     ("deployment", .record [("web", .record [("west", .record [("profile", profile)])])])]

/-- A key whose name **no other key** has is the last one with its name. -/
theorem Entries.isLast_of_keyName_ne {before after : Entries}
    (h : ∀ e ∈ before ++ after, keyName e.1 ≠ keyName n) : before.IsLast n after where
  distinct e he heq := h e (List.mem_append_left _ he) (congrArg keyName heq)
  earlier e he _ hn he' := absurd (he'.trans hn.symm) (h e (List.mem_append_left _ he))
  later e he _ hn he' := h e (List.mem_append_right _ he) (he'.trans hn.symm)

theorem givesProfile_referring (n w : Value) :
    GivesProfile n w (referring [] [] .null .null) (referring [(n, w)] [] .null .null) := by
  refine @InEntry.mk _ _ _ [_, _] [_] _ _ ?_ (@InEntry.mk _ _ _ [] [] _ _ ?_
    (@HasEntry.mk _ _ _ [] [] ?_)) <;>
    exact Entries.isLast_of_keyName_ne (by simp [keyName_text])

theorem refersToProfile_referring (n w : Value) :
    RefersToProfile n (.text "web") (.text "west") (referring [(n, w)] [] .null .null)
      (referring [(n, w)] [] n .null) := by
  refine @InEntry.mk _ _ _ [_, _, _] [] _ _ ?_ (@InEntry.mk _ _ _ [] [] _ _ ?_
    (@InEntry.mk _ _ _ [] [] _ _ ?_ (@InEntry.mk _ _ _ [] [] _ _ ?_ ⟨rfl, rfl⟩))) <;>
    exact Entries.isLast_of_keyName_ne (by simp [keyName_text])

theorem givesService_referring {n : Value} (hn : keyName n ≠ .ok "web") (w : Value) :
    GivesService n w (referring [] [] .null .null) (referring [] [(n, w)] .null .null) := by
  refine @InEntry.mk _ _ _ [_] [_, _] _ _ ?_ (@HasEntry.mk _ _ _ [_] [] ?_)
  · exact Entries.isLast_of_keyName_ne (by simp [keyName_text])
  · exact Entries.isLast_of_keyName_ne (by simpa [keyName_text] using hn.symm)

theorem refersToService_referring {n : Value} (hn : keyName n ≠ .ok "web") (w : Value) :
    RefersToService n (.text "web") 0 0 (referring [] [(n, w)] .null .null)
      (referring [] [(n, w)] .null n) := by
  refine @InEntry.mk _ _ _ [_] [_, _] _ _ ?_ (@InEntry.mk _ _ _ [] [_] _ _ ?_
    (@InEntry.mk _ _ _ [] [] _ _ ?_ (@InElement.list _ _ _ [] [] _ _ rfl
      (@InEntry.mk _ _ _ [] [] _ _ ?_ (@InElement.list _ _ _ [] [] _ _ rfl
        (@InEntry.mk _ _ _ [] [] _ _ ?_ ⟨rfl, rfl⟩))))))
  · exact Entries.isLast_of_keyName_ne (by simp [keyName_text])
  · exact Entries.isLast_of_keyName_ne (by simpa [keyName_text] using hn)
  all_goals exact Entries.isLast_of_keyName_ne (by simp)

theorem exists_parse_referring : ∃ d, parse (.data (referring [] [] .null .null)) = .ok d :=
  ⟨_, rfl⟩

/-- A profile of one core. -/
def oneCore : Value :=
  .record [("resources", .record [("cpu", .record [("units", .text "1")])])]

/-- A service with an image. -/
def webServer : Value := .record [("image", .text "nginx")]

theorem exists_read_oneCore : ∃ cp, (normalize 0 oneCore).bind ComputeProfile.read = .ok cp :=
  ⟨_, rfl⟩

theorem exists_read_webServer : ∃ s, (normalize 0 webServer).bind Service.read = .ok s :=
  ⟨_, rfl⟩

/-- A **number** is the same name as a key and as a reference, of a profile and of a service. -/
theorem parse_of_refers_number :
    (∃ d e name cp,
      parse (.data (referring [(.int 123, oneCore)] [] (.int 123) .null)) = .ok d ∧
      d.Deploys (.text "web") (.text "west") e ∧ e.profile = some name ∧
      (normalize 0 oneCore).bind ComputeProfile.read = .ok cp ∧
      d.computeProfiles.get? name = some cp) ∧
    ∃ d t name s,
      parse (.data (referring [] [(.int 123, webServer)] .null (.int 123))) = .ok d ∧
      d.Exposes (.text "web") 0 0 t ∧ t.service = some name ∧ d.services.get? name = some s := by
  obtain ⟨d₀, hd₀⟩ := exists_parse_referring
  obtain ⟨cp, hcp⟩ := exists_read_oneCore
  obtain ⟨s₀, hs₀⟩ := exists_read_webServer
  have hnumber : (Value.int 123).isWritable = true ∧ (Value.int 123).plain = "123" := by
    decide +kernel
  have hname : (∀ b, Value.int 123 ≠ .bool b) ∧ (Value.int 123).isWritable = true :=
    ⟨by simp, hnumber.1⟩
  have hother : keyName (.int 123) ≠ .ok "web" := by
    intro hweb
    have hweb := (Scalar.named_int_eq_ok_iff.mp hweb).2
    rw [hnumber.2] at hweb
    exact absurd hweb (by decide)
  obtain ⟨hprofile, hservice⟩ := parse_of_refers (n := .int 123) trivial
  constructor
  · obtain ⟨hparse, hfound⟩ := hprofile (givesProfile_referring _ oneCore)
      (refersToProfile_referring _ oneCore) hd₀ hcp
    obtain ⟨d, hd⟩ := hparse.mpr hname
    obtain ⟨e, name, he, heprofile, hget⟩ := hfound d hd
    exact ⟨d, e, name, cp, hd, he, heprofile, hcp, hget⟩
  · obtain ⟨hparse, hfound⟩ := hservice (givesService_referring hother webServer)
      (refersToService_referring hother webServer) hd₀ hs₀
    obtain ⟨d, hd⟩ := hparse.mpr hname
    obtain ⟨t, name, -, -, s, ht, hservice, -, -, hget⟩ := hfound d hd
    exact ⟨d, t, name, s, hd, ht, hservice, hget⟩

/-- **A truth value** is a name as a key, and none as a reference. -/
theorem not_parse_of_refers : ∃ rest between v d₀ cp,
    GivesProfile (.bool true) oneCore rest between ∧
      RefersToProfile (.bool true) (.text "web") (.text "west") between v ∧
      parse (.data rest) = .ok d₀ ∧ (normalize 0 oneCore).bind ComputeProfile.read = .ok cp ∧
      ¬ ∃ d, parse (.data v) = .ok d := by
  obtain ⟨d₀, hd₀⟩ := exists_parse_referring
  obtain ⟨cp, hcp⟩ := exists_read_oneCore
  have hgives := givesProfile_referring (.bool true) oneCore
  have hrefers := refersToProfile_referring (.bool true) oneCore
  refine ⟨_, _, _, d₀, cp, hgives, hrefers, hd₀, hcp, fun h => ?_⟩
  exact ((parse_of_refersToProfile (n := .bool true) trivial hgives hrefers hd₀ hcp).1.mp h).1 true rfl

end Document

end StackManifest
