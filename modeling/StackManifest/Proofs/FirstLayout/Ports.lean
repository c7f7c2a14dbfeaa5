import StackManifest.Proofs.Compilation.Results
import StackManifest.Proofs.FirstLayout.Deployment
import StackManifest.Proofs.Reading.Entries
import StackManifest.Proofs.Reading.Resolved

/-!
# Ports of the first layout

A rule of the first layout opens a port, and it can ask for another port as which the port is seen
from outside (`StackManifest.Value.outerPort`). What has become of the two when the document is
converted, read and compiled?

The port arrives, rule by rule (`StackManifest.Conversion.ports_of_convert`): every rule of a
service has its converted rule and its compiled port in the same place, with its own port and with
one target, to which the port is open as the rule says. What the rule asks for is not looked at. Its
port is written a second time as the port that is seen from outside, so that the conversion does
what is asked for exactly when nothing else is asked for (`StackManifest.ConvertsRule.outer_iff`),
and a port that should be seen as another one is moved
(`StackManifest.Conversion.not_forall_outerPort`).

What every result of a conversion is like is shown along the conversion
(`StackManifest.Conversion.Ensures`). The only thing that is changed on the way is that a container
in a second place carries a label; a number does not.
-/

namespace StackManifest

variable {α β : Type}

/-! ### Rules, and what becomes of them -/

/-- The **rules** of a service: what is in its list of open ports, nothing if it has no such
list. -/
def Value.rules (service : Value) : List Value :=
  (service.under "expose").elements.toOption.getD []

/-- The port as which a port is to be **seen from outside**: the one that the rule asks for, or else
the port itself. -/
def Value.outerPort (rule : Value) : Value := (rule.entries.get? "as").getD (rule.under "port")

/-- Whether a rule opens its port to **everyone**: not if it says nothing of that. -/
def Value.openness (rule : Value) : Value := (rule.entries.get? "global").getD (.bool false)

/-- **What a rule is converted to**: its port, the same once more as the port that is seen from
outside, and a single target. -/
structure ConvertsRule (rule v : Value) : Prop where
  fields : v = .record [("port", v.under "port"), ("as", v.under "as"), ("to", v.under "to")]
  port : (v.under "port").unshared = (rule.under "port").unshared
  outer : v.under "as" = v.under "port"
  target : v.under "to" = .array [.record [("global", rule.openness)]]

/-- **What a service is converted to**: its image, and what its rules are converted to, in order. -/
inductive ConvertsService (service : Value) : Value → Prop where
  | closed : service.rules = [] →
    ConvertsService service (.record [("image", service.under "image")])
  | opened {ports : List Value} : List.Forall₂ ConvertsRule service.rules ports →
    ConvertsService service
      (.record [("image", service.under "image"), ("expose", .array ports)])

/-- **What a rule is compiled to** in the end: its port, seen from outside as itself, with the usual
protocol, open to no service and to everyone if the rule says so. -/
structure OpensRule (rule : Value) (p : OpenPort) : Prop where
  port : Scalar.optional Scalar.integer (rule.under "port") = .ok p.port
  outer : p.externalPort = p.port
  protocol : p.protocol = "TCP"
  service : p.service = none
  isGlobal : ∃ o, Scalar.optional Scalar.boolean rule.openness = .ok o ∧ p.isGlobal = o.getD false

/-- A rule is converted to **what it asks for** exactly when it asks for no other port. -/
theorem ConvertsRule.outer_iff {rule v : Value} (h : ConvertsRule rule v) :
    (v.under "as").unshared = rule.outerPort.unshared ↔
      rule.outerPort.unshared = (rule.under "port").unshared := by
  rw [h.outer, h.port, eq_comm]

theorem ConvertsService.forall₂_rules {service v : Value} (h : ConvertsService service v) :
    List.Forall₂ ConvertsRule service.rules v.rules := by
  cases h with
  | closed h =>
    rw [h]
    exact .nil
  | opened h => exact h

theorem ConvertsService.image {service v : Value} (h : ConvertsService service v) :
    v.under "image" = service.under "image" := by
  cases h <;> rfl

/-! ### Looking into data -/

theorem Value.eq_of_fieldOr {v w usual : Value} {name : String} (h : v.fieldOr name usual = .ok w) :
    w = (v.entries.get? name).getD usual := by
  cases v with
  | map l es =>
    cases h
    rfl
  | _ => cases h

theorem Value.eq_of_field {v w : Value} {name : String} (h : v.field name = .ok w) :
    w = v.under name :=
  eq_of_fieldOr h

theorem Value.rules_of_elements {service : Value} {rules : List Value}
    (h : (service.under "expose").elements = .ok rules) : service.rules = rules := by
  rw [Value.rules, h]
  rfl

/-- Where nothing is given as the list of open ports, **there are no rules**. -/
theorem Value.rules_of_isTruthy {service : Value}
    (h : (service.under "expose").isTruthy = false) : service.rules = [] := by
  rw [Value.rules]
  cases hv : service.under "expose" <;>
    simp_all [Value.isTruthy, Value.elements, Except.toOption]

/-- The entries of a section are **those of what stands there**, if anything does. -/
theorem Value.eq_of_sectionEntries {v : Value} {name member : String} {es : Entries}
    (h : v.sectionEntries name member = .ok es) : es = (v.under name).entries := by
  obtain ⟨w, hw, h⟩ := bind_eq_ok_iff.mp h
  obtain rfl := eq_of_field hw
  rw [Value.orEmpty] at h
  split at h
  · cases hv : v.under name with
    | map l fs =>
      rw [hv] at h
      cases h
      rfl
    | _ =>
      rw [hv] at h
      cases h
  · cases h
    cases hv : v.under name with
    | map l fs => simp_all [Value.isTruthy, Value.entries, Value.entries?]
    | _ => rfl

/-! ### Every result of a conversion -/

namespace Conversion

/-- A conversion of which **every result** has a property. -/
def Ensures (x : Converting α) (P : α → Prop) : Prop := ∀ l a l', x.run l = .ok (a, l') → P a

section Ensures

variable {x : Converting α} {P : α → Prop} {Q : β → Prop}

theorem ensures_true (x : Converting α) : Ensures x fun _ => True := fun _ _ _ _ => trivial

theorem ensures_pure {a : α} (h : P a) : Ensures (pure a) P := by
  intro l b l' hb
  cases hb
  exact h

theorem Ensures.bind {f : α → Converting β} (hx : Ensures x P) (hf : ∀ a, P a → Ensures (f a) Q) :
    Ensures (x >>= f) Q := by
  intro l b l' hb
  rw [StateT.run_bind] at hb
  obtain ⟨r, hr, hb⟩ := bind_eq_ok_iff.mp hb
  exact hf r.1 (hx l r.1 r.2 hr) r.2 b l' hb

/-- A step that does not look at the labels. -/
theorem ensures_lift {y : Except Fault α} (h : ∀ a, y = .ok a → P a) : Ensures (liftM y) P := by
  intro l a l' ha
  cases y with
  | error e => cases ha
  | ok b =>
    cases ha
    exact h _ rfl

/-- **Several conversions**, one after the other. -/
theorem ensures_mapM {f : α → Converting β} {R : α → β → Prop} (h : ∀ a, Ensures (f a) (R a))
    (as : List α) : Ensures (as.mapM f) (List.Forall₂ R as) := by
  induction as with
  | nil => exact ensures_pure .nil
  | cons a as ih =>
    rw [List.mapM_cons]
    exact (h a).bind fun b hb => ih.bind fun bs hbs => ensures_pure (.cons hb hbs)

end Ensures

/-- A value in a second place **differs in its label** at most. -/
theorem ensures_shared (v : Value) : Ensures (shared v) fun w => w.unshared = v.unshared := by
  have hreturned : ∀ (n : Label) (w : Value), w.unshared = v.unshared →
      Ensures (if w.label = n then do set n; return w else return w : Converting Value)
        fun w => w.unshared = v.unshared := by
    intro n w hw
    split
    · exact (ensures_true _).bind fun _ _ => ensures_pure hw
    · exact ensures_pure hw
  refine (ensures_true get).bind fun l _ => hreturned (l + 1) _ ?_
  split <;> rfl

theorem ensures_convertRule (rule : Value) : Ensures (convertRule rule) (ConvertsRule rule) := by
  refine (ensures_lift fun v hv => Value.eq_of_field hv).bind ?_
  rintro _ rfl
  refine (ensures_shared _).bind fun port hport => ?_
  refine (ensures_lift fun o ho => Value.eq_of_fieldOr ho).bind ?_
  rintro _ rfl
  exact ensures_pure ⟨rfl, hport, rfl, rfl⟩

theorem ensures_convertService (service : Value) :
    Ensures (convertService service) (ConvertsService service) := by
  refine (ensures_lift fun v hv => Value.eq_of_field hv).bind ?_
  rintro _ rfl
  refine (ensures_lift fun v hv => Value.eq_of_field hv).bind ?_
  rintro _ rfl
  split
  · refine (ensures_lift fun xs hxs => Value.rules_of_elements hxs).bind ?_
    rintro _ rfl
    exact (ensures_mapM ensures_convertRule _).bind fun ports hports =>
      ensures_pure (.opened hports)
  · rename_i hnothing
    exact ensures_pure (.closed (Value.rules_of_isTruthy (Bool.eq_false_iff.mpr hnothing)))

/-- A **section** is converted entry by entry. -/
theorem ensures_convertSection {data : Value} {name : String}
    {f : Value → Value → Converting Value} {R : Value → Value → Prop}
    (h : ∀ k v, Ensures (f k v) (R v)) :
    Ensures (convertSection data name f) fun w => ∃ fs, w = named fs ∧
      List.Forall₂ (fun e e' => e'.1 = e.1 ∧ R e.2 e'.2) (data.under name).entries fs := by
  refine (ensures_lift fun es hes => Value.eq_of_sectionEntries hes).bind ?_
  rintro _ rfl
  refine (ensures_mapM (R := fun e e' => e'.1 = e.1 ∧ R e.2 e'.2) (fun e => ?_) _).bind
    fun fs hfs => ensures_pure ⟨fs, rfl, hfs⟩
  exact (h e.1 e.2).bind fun w hw => ensures_pure ⟨rfl, hw⟩

/-- **The services of converted data** are those of the data, in order. -/
theorem exists_services_of_convert {data w : Value} (h : convert data = .ok w) :
    ∃ fs, w.under "services" = named fs ∧
      List.Forall₂ (fun e e' => e'.1 = e.1 ∧ ConvertsService e.2 e'.2)
        (data.under "services").entries fs := by
  have hall : Ensures (convertAll data) fun w => ∃ fs, w.under "services" = named fs ∧
      List.Forall₂ (fun e e' => e'.1 = e.1 ∧ ConvertsService e.2 e'.2)
        (data.under "services").entries fs := by
    refine (ensures_convertSection fun _ => ensures_convertService).bind ?_
    rintro _ ⟨fs, rfl, hfs⟩
    exact (ensures_true _).bind fun _ _ => (ensures_true _).bind fun _ _ =>
      ensures_pure ⟨fs, rfl, hfs⟩
  obtain ⟨r, hr, hw⟩ := bind_eq_ok_iff.mp h
  obtain rfl := Except.ok.inj hw
  exact hall _ r.1 r.2 hr

end Conversion

/-! ### Reading and compiling what was converted -/

/-- A label does not make a number of what is none. -/
theorem optional_integer_unshared (v : Value) :
    Scalar.optional Scalar.integer v.unshared = Scalar.optional Scalar.integer v := by
  cases v <;> rfl

/-- **A port that is seen as itself** stays so, even if it is the port zero. -/
theorem filter_orElse_self (o : Option Int) : (o.filter (· ≠ 0)).orElse (fun _ => o) = o := by
  cases o with
  | none => rfl
  | some n => by_cases hn : n = 0 <;> simp [Option.filter, hn]

/-- A **converted rule** is compiled to a port of the rule. -/
theorem ConvertsRule.opensRule {rule v : Value} {r : ExposeRule} (h : ConvertsRule rule v)
    (hr : ExposeRule.read v = .ok r) : OpensRule rule (resolvePort r) := by
  obtain ⟨hfields, hport, houter, htarget⟩ := h
  obtain ⟨port, external, protocol, targets, extra⟩ := r
  rw [hfields, houter, htarget] at hr
  obtain ⟨hp, he, hq, ht, -⟩ := ExposeRule.read_eq_ok_iff.mp hr
  rw [Fields.read_of_get? (c := v.under "port") rfl, Checked.inside_eq_ok_iff] at hp he
  rw [Fields.read_of_get? (c := .array [.record [("global", rule.openness)]]) rfl,
    Checked.inside_eq_ok_iff] at ht
  obtain rfl : external = port := Checked.ok.inj (he.symm.trans hp)
  obtain rfl : none = protocol := Checked.ok.inj hq
  obtain ⟨t, ts, hread, hts, rfl⟩ := List.forall₂_cons_left_iff.mp (listOf_eq_ok_iff.mp ht)
  obtain rfl := List.forall₂_nil_left_iff.mp hts
  obtain ⟨hservice, hglobal, -⟩ := ExposeTarget.read_eq_ok_iff.mp hread
  rw [Fields.read_of_get? (c := rule.openness) rfl, Checked.inside_eq_ok_iff] at hglobal
  refine ⟨?_, filter_orElse_self external, ?_, (Checked.ok.inj hservice).symm, t.isGlobal,
    hglobal, rfl⟩
  · rw [← optional_integer_unshared, ← hport, optional_integer_unshared]
    exact hp
  · change Text.upper "TCP" = "TCP"
    decide

/-- A **converted service** has ports that are compiled of its rules, in order. -/
theorem ConvertsService.opensRules {service v : Value} {s : Service} (h : ConvertsService service v)
    (hs : Becomes (normalize 0) Service.read v s) :
    List.Forall₂ OpensRule service.rules (s.expose.map resolvePort) := by
  obtain ⟨u, hu, hs⟩ := Checked.bind_eq_ok_iff.mp hs
  cases h with
  | closed hrules =>
    obtain rfl := Checked.ok.inj (hu.symm.trans (isNormal_record (by simp)))
    obtain ⟨-, hexpose, -⟩ := Service.read_eq_ok_iff.mp hs
    obtain hnil : [] = s.expose := Checked.ok.inj hexpose
    rw [hrules, ← hnil]
    exact .nil
  | opened hports =>
    obtain rfl := Checked.ok.inj (hu.symm.trans (isNormal_record (by simp)))
    obtain ⟨-, hexpose, -⟩ := Service.read_eq_ok_iff.mp hs
    rw [Fields.read_of_get? (c := .array _) rfl, Checked.inside_eq_ok_iff] at hexpose
    rw [List.forall₂_map_right_iff]
    exact forall₂_of_common (fun _ _ _ hrule hread => hrule.opensRule hread) hports.flip
      (listOf_eq_ok_iff.mp hexpose)

/-- **A placement that is added** leaves the services alone. -/
theorem Value.services_withPlacement (v placement : Value) :
    (v.withPlacement placement).under "services" = v.under "services" := by
  have hput : ∀ (es : Entries) (w : Value),
      Entries.get? (es.put (.text "profiles") w) "services" = Entries.get? es "services" := by
    intro es w
    induction es with
    | nil => rfl
    | cons e es ih =>
      rw [Entries.put]
      split
      · rename_i hkey
        obtain ⟨k, c⟩ := e
        obtain rfl := Value.eqv_text_iff.mp hkey
        rfl
      · by_cases he : e.1 = .text "services"
        · obtain ⟨k, c⟩ := e
          obtain rfl : k = .text "services" := he
          rw [Entries.get?_cons_text, Entries.get?_cons_text, if_pos rfl, if_pos rfl]
        · rw [Entries.get?_cons_of_ne he, Entries.get?_cons_of_ne he, ih]
  cases v with
  | map l es => exact congrArg (fun o => o.getD .null) (hput es _)
  | _ => rfl

namespace Conversion

/-- **Where the ports of the first layout go.** The services of converted data are those of the
data, in order, each with its image and with a converted rule for each of its rules; a converted
rule has the port that its rule asks for exactly when this is the port itself. In a document with
these services that is compiled, the ports of each group are those of the rules of a service with
its name, one by one, and if several services have the name, of the last of them. -/
theorem ports_of_convert {data w : Value} (h : convert data = .ok w) :
    List.Forall₂ (fun e f => f.1 = e.1 ∧ f.2.under "image" = e.2.under "image" ∧
        List.Forall₂ (fun rule r => ConvertsRule rule r ∧
          ((r.under "as").unshared = rule.outerPort.unshared ↔
            rule.outerPort.unshared = (rule.under "port").unshared)) e.2.rules f.2.rules)
      (data.under "services").entries (w.under "services").entries ∧
    ∀ v d gs, v.under "services" = w.under "services" → Document.parse (.data v) = .ok d →
      d.compile = .ok gs → ∀ x ∈ d.pairs.zip gs,
        (∃ e ∈ (data.under "services").entries, keyName e.1 = .ok x.1.service ∧
          List.Forall₂ OpensRule e.2.rules x.2.expose) ∧
        ∀ before e after, (data.under "services").entries = before ++ e :: after →
          Entries.IsLast before e.1 after → keyName e.1 = .ok x.1.service →
          List.Forall₂ OpensRule e.2.rules x.2.expose := by
  obtain ⟨fs, hfs, hservices⟩ := exists_services_of_convert h
  constructor
  · rw [hfs]
    exact hservices.imp fun e f hef => ⟨hef.1, hef.2.image,
      hef.2.forall₂_rules.imp fun _ _ hrule => ⟨hrule, hrule.outer_iff⟩⟩
  · intro v d gs hv hd hgs x hx
    -- what the group has was read of a service that was converted
    obtain ⟨l, es, rfl, -, hread⟩ := ofData_eq_ok_iff.mp hd
    obtain ⟨-, -, hnamed, -⟩ := Document.read_eq_ok_iff_under.mp hread
    rw [hv, hfs] at hnamed
    have hresolve := (List.forall₂_iff_zip.mp (Document.compile_eq_ok_iff.mp hgs)).2 hx
    obtain ⟨s, hs, -, hexpose⟩ := (yields_of_resolve hresolve).service
    rw [hexpose]
    constructor
    · obtain ⟨f, hf, hname, hbecomes⟩ := (readsTable_of_readNamed hnamed).exists_of_get? hs
      obtain ⟨e, he, hkey, hservice⟩ := exists_of_mem_forall₂ hservices hf
      exact ⟨e, he, hkey ▸ hname, hservice.opensRules hbecomes⟩
    · intro before e after hes hlast hname
      rw [hes] at hservices
      obtain ⟨before', ⟨k, u⟩, after', rfl, hbefore, ⟨hkey, hservice⟩, hafter⟩ :=
        exists_of_forall₂_around hservices
      obtain rfl : k = e.1 := hkey
      have hkeys : ∀ {es es' : Entries},
          List.Forall₂ (fun e e' => e'.1 = e.1 ∧ ConvertsService e.2 e'.2) es es' →
          es'.map Prod.fst = es.map Prod.fst :=
        fun hes => (map_eq_map_of_forall₂ (fun _ _ he => he.1.symm) hes).symm
      obtain ⟨name, a, hname', hbecomes, hget⟩ :=
        get?_of_readNamed (hlast.of_keys (hkeys hbefore) (hkeys hafter)) hnamed
      obtain rfl := Checked.ok.inj (hname.symm.trans hname')
      obtain rfl := Option.some.inj (hs.symm.trans hget)
      exact hservice.opensRules hbecomes

/-- Data with a port that is to be **seen as another one** from outside. -/
def outerPortData : Value :=
  .record
    [("services", .record [("web", .record [("image", .text "nginx"),
        ("expose", .array [.record [("port", .int 3000), ("as", .int 80)]])])]),
      ("profiles", .record [("web", .record [])]),
      ("deployment", .record [("web", .record [])])]

/-- A placement with a price for the service. -/
def outerPortPlacement : Value :=
  .record [("pricing", .record
    [("web", .record [("denom", .text "uakt"), ("amount", .text "1")])])]

/-- In a group that is compiled of this data the port is seen **as itself**. -/
theorem ports_outerPortData : ∃ w d gs, convert outerPortData = .ok w ∧
    Document.parse (.data (w.withPlacement outerPortPlacement)) = .ok d ∧ d.compile = .ok gs ∧
    ∃ x ∈ d.pairs.zip gs, ∃ p, x.2.expose = [p] ∧ p.port = some 3000 ∧
      p.externalPort = some 3000 := by
  have hrun : ((convert outerPortData).toOption.bind fun w =>
      (Document.parse (.data (w.withPlacement outerPortPlacement))).toOption.bind fun d =>
        d.compile.toOption.map fun gs => (d.pairs.zip gs).length) = some 1 := by decide +kernel
  obtain ⟨w, hw, hrun⟩ := Option.bind_eq_some_iff.mp hrun
  obtain ⟨d, hd, hrun⟩ := Option.bind_eq_some_iff.mp hrun
  obtain ⟨gs, hgs, hlength⟩ := Option.map_eq_some_iff.mp hrun
  rw [toOption_eq_some_iff] at hw hd hgs
  obtain ⟨x, hx⟩ := List.length_eq_one_iff.mp hlength
  have hmem : x ∈ d.pairs.zip gs := hx ▸ List.mem_singleton_self x
  obtain ⟨⟨e, he, -, hports⟩, -⟩ := (ports_of_convert hw).2 _ d gs
    (Value.services_withPlacement w outerPortPlacement) hd hgs x hmem
  obtain rfl := List.mem_singleton.mp he
  obtain ⟨p, ps, hp, hps, hexpose⟩ := List.forall₂_cons_left_iff.mp hports
  obtain rfl := List.forall₂_nil_left_iff.mp hps
  obtain hport : some 3000 = p.port := Checked.ok.inj hp.port
  exact ⟨w, d, gs, hw, hd, hgs, x, hmem, p, hexpose, hport.symm, hp.outer.trans hport.symm⟩

/-- **A port that is to be seen as another one is moved**: not every rule is converted to what it
asks for. -/
theorem not_forall_outerPort : ¬∀ data w, convert data = .ok w →
    List.Forall₂ (fun e f => List.Forall₂ (fun rule r =>
        (r.under "as").unshared = rule.outerPort.unshared) e.2.rules f.2.rules)
      (data.under "services").entries (w.under "services").entries := by
  intro h
  have hconverts : (convert outerPortData).toOption.isSome = true := by decide +kernel
  obtain ⟨w, hw⟩ := Option.isSome_iff_exists.mp hconverts
  rw [toOption_eq_some_iff] at hw
  obtain ⟨fs, hfs, hservices⟩ := exists_services_of_convert hw
  have hasked := h _ w hw
  rw [hfs] at hasked
  obtain ⟨f, _, ⟨-, hservice⟩, -, rfl⟩ := List.forall₂_cons_left_iff.mp hservices
  obtain ⟨r, _, hrule, -, hrules⟩ := List.forall₂_cons_left_iff.mp hservice.forall₂_rules
  cases hasked with
  | cons hasked _ =>
    rw [hrules] at hasked
    cases hasked with
    | cons hasked _ => cases hrule.outer_iff.mp hasked

end Conversion

end StackManifest
