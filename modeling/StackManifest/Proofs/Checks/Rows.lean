import Mathlib.Data.List.Nodup
import StackManifest.Proofs.Checks.References

/-!
# How often a reference is reported

The reference check goes through the deployed pairs, and what it reports at a pair is a **row** of
at most three reports: one on the service, one on the placement or on its price, and one on the
compute profile, in this order. A row depends on the pairs before it in one way only: a service is
reported at its first pair.

* `StackManifest.DeployedPair.Reports` – what there is to report at a pair, after other pairs;
* `StackManifest.AreRows` – the rows of several pairs, one after the other;
* `StackManifest.Document.timesReported` – **how often** something is reported in all rows;
* `StackManifest.Document.checkReferences_rows` – the report of the reference check consists of
  these rows, and each report stands in it as often as it should.

The check itself remembers the services that it has reported, which are the undefined ones among
the services of the pairs before (`StackManifest.Remembers`).
-/

namespace StackManifest

variable {d : Document} {p : DeployedPair} {before ps : List DeployedPair} {f : Finding}
  {row : List Finding} {rows : List (List Finding)}

/-! ### Rows -/

/-- **What there is to report at a pair** that stands after other pairs. -/
inductive DeployedPair.Reports (d : Document) (before : List DeployedPair) (p : DeployedPair) :
    Finding → Prop where
  | service : d.services.get? p.service = none → (∀ q ∈ before, q.service ≠ p.service) →
    Reports d before p (.undefinedService p.service)
  | placement : d.placementProfiles.get? p.placement = none →
    Reports d before p (.undefinedPlacement p.placement)
  | price {q : PlacementProfile} : d.placementProfiles.get? p.placement = some q →
    q.pricing.get? p.service = none → Reports d before p (.noPriceFor p.placement p.service)
  | profile {n : String} : p.entry.profile = some n → n ≠ "" → d.computeProfiles.get? n = none →
    Reports d before p (.undefinedProfile n)

/-- The **place in its row** of a report: first the service, then the placement or its price, and
the profile last. -/
def Finding.place : Finding → Nat
  | .undefinedService _ => 0
  | .undefinedPlacement _ | .noPriceFor .. => 1
  | _ => 2

/-- The **row** of a pair that stands after other pairs. -/
structure IsRow (d : Document) (before : List DeployedPair) (p : DeployedPair)
    (row : List Finding) : Prop where
  ordered : row.Pairwise fun f g => f.place < g.place
  mem_iff : ∀ f, f ∈ row ↔ p.Reports d before f

/-- The **rows of several pairs** that stand after other pairs, each with its own row. -/
inductive AreRows (d : Document) :
    List DeployedPair → List DeployedPair → List (List Finding) → Prop where
  | nil {before : List DeployedPair} : AreRows d before [] []
  | cons {before ps : List DeployedPair} {p : DeployedPair} {row : List Finding}
    {rows : List (List Finding)} : IsRow d before p row → AreRows d (before ++ [p]) ps rows →
    AreRows d before (p :: ps) (row :: rows)

/-- **How often** something is reported: an undefined service once, if a pair has it, and anything
else once for each of its pairs. -/
def Document.timesReported (d : Document) : Finding → Nat
  | .undefinedService s =>
    if d.services.contains s then 0 else min 1 (d.pairs.countP (·.service = s))
  | .undefinedPlacement n =>
    if d.placementProfiles.contains n then 0 else d.pairs.countP (·.placement = n)
  | .noPriceFor n s =>
    match d.placementProfiles.get? n with
    | none => 0
    | some q =>
      if q.pricing.contains s then 0
      else d.pairs.countP fun p => p.placement = n ∧ p.service = s
  | .undefinedProfile n =>
    if n = "" ∨ d.computeProfiles.contains n then 0 else d.pairs.countP (·.entry.profile = some n)
  | _ => 0

/-! ### The row that is reported -/

/-- The services that are **remembered** as reported are the undefined ones of the pairs before. -/
def Remembers (d : Document) (before : List DeployedPair) (reported : List String) : Prop :=
  ∀ s, s ∈ reported ↔ d.services.get? s = none ∧ ∃ q ∈ before, q.service = s

theorem Remembers.step {reported : List String} (h : Remembers d before reported) :
    Remembers d (before ++ [p])
      (if d.services.contains p.service then reported else p.service :: reported) := by
  intro s
  have hsplit : (∃ q ∈ before ++ [p], q.service = s) ↔
      (∃ q ∈ before, q.service = s) ∨ p.service = s := by
    simp [or_and_right, exists_or]
  rw [hsplit]
  cases hs : d.services.contains p.service with
  | true =>
    obtain ⟨v, hv⟩ := Table.contains_eq_true_iff.mp hs
    rw [if_pos rfl, h s]
    refine and_congr_right fun hnone => ⟨.inl, fun hor => hor.resolve_right ?_⟩
    rintro rfl
    rw [hv] at hnone
    cases hnone
  | false =>
    rw [if_neg (by simp), List.mem_cons, h s]
    constructor
    · rintro (rfl | ⟨hnone, hq⟩)
      · exact ⟨Table.contains_eq_false_iff.mp hs, .inr rfl⟩
      · exact ⟨hnone, .inl hq⟩
    · rintro ⟨hnone, hq | rfl⟩
      · exact .inr ⟨hnone, hq⟩
      · exact .inl rfl

theorem mem_serviceReference_iff :
    f ∈ serviceReference d p ↔
      d.services.get? p.service = none ∧ f = .undefinedService p.service := by
  rw [serviceReference, ← Table.contains_eq_false_iff]
  cases d.services.contains p.service <;> simp

theorem mem_placementReference_iff :
    f ∈ placementReference d p ↔
      (d.placementProfiles.get? p.placement = none ∧ f = .undefinedPlacement p.placement) ∨
        ∃ q, d.placementProfiles.get? p.placement = some q ∧ q.pricing.get? p.service = none ∧
          f = .noPriceFor p.placement p.service := by
  rw [placementReference]
  cases d.placementProfiles.get? p.placement with
  | none => simp
  | some q =>
    simp only [reduceCtorEq, false_and, false_or, Option.some.injEq, exists_eq_left']
    rw [← Table.contains_eq_false_iff]
    cases q.pricing.contains p.service <;> simp

theorem mem_profileReference_iff :
    f ∈ profileReference d p ↔
      ∃ n, p.entry.profile = some n ∧ n ≠ "" ∧ d.computeProfiles.get? n = none ∧
        f = .undefinedProfile n := by
  rw [profileReference]
  cases p.entry.profile with
  | none => simp
  | some n =>
    simp only [Option.some.injEq, exists_eq_left', ← Table.contains_eq_false_iff]
    by_cases hn : n = ""
    · simp [hn]
    · cases d.computeProfiles.contains n <;> simp [hn]

/-- The service of a pair is reported **unless it was before**, at an earlier pair. -/
theorem mem_unreported_iff {reported : List String} (h : Remembers d before reported) :
    f ∈ (if reported.contains p.service then [] else serviceReference d p) ↔
      d.services.get? p.service = none ∧ (∀ q ∈ before, q.service ≠ p.service) ∧
        f = .undefinedService p.service := by
  have hmem := h p.service
  cases hr : reported.contains p.service with
  | true =>
    obtain ⟨-, q, hq, heq⟩ := hmem.mp (List.contains_iff_mem.mp hr)
    simp only [if_true, List.not_mem_nil, false_iff]
    exact fun hall => hall.2.1 q hq heq
  | false =>
    rw [if_neg (by simp), mem_serviceReference_iff]
    refine and_congr_right fun hnone => (and_iff_right fun q hq heq => ?_).symm
    have hin := List.contains_iff_mem.mpr (hmem.mpr ⟨hnone, q, hq, heq⟩)
    rw [hr] at hin
    cases hin

/-! The three parts of a row have their own **places**, and one report each at most. -/

theorem place_of_mem_serviceReference (h : f ∈ serviceReference d p) : f.place = 0 := by
  rw [(mem_serviceReference_iff.mp h).2, Finding.place]

theorem place_of_mem_placementReference (h : f ∈ placementReference d p) : f.place = 1 := by
  rcases mem_placementReference_iff.mp h with ⟨-, rfl⟩ | ⟨q, -, -, rfl⟩ <;> rfl

theorem place_of_mem_profileReference (h : f ∈ profileReference d p) : f.place = 2 := by
  obtain ⟨n, -, -, -, rfl⟩ := mem_profileReference_iff.mp h
  rfl

theorem length_serviceReference_le : (serviceReference d p).length ≤ 1 := by
  rw [serviceReference]
  split_ifs <;> simp

theorem length_placementReference_le : (placementReference d p).length ≤ 1 := by
  rw [placementReference]
  split
  · simp
  · split_ifs <;> simp

theorem length_profileReference_le : (profileReference d p).length ≤ 1 := by
  rw [profileReference]
  split
  · simp
  · split_ifs <;> simp

/-- The reports of a pair come in the order of their places. -/
theorem pairwise_pairReferences (reported : List String) :
    (pairReferences d reported p).Pairwise fun f g => f.place < g.place := by
  have hone : ∀ fs : List Finding, fs.length ≤ 1 → fs.Pairwise fun f g => f.place < g.place := by
    rintro (_ | ⟨f, _ | ⟨g, fs⟩⟩) hlen
    · exact .nil
    · exact List.pairwise_singleton ..
    · simp at hlen
  have hfirst : (if reported.contains p.service then [] else serviceReference d p).Sublist
      (serviceReference d p) := by
    split
    · exact List.nil_sublist _
    · exact List.Sublist.refl _
  refine List.pairwise_append.mpr ⟨List.pairwise_append.mpr
    ⟨(hone _ length_serviceReference_le).sublist hfirst, hone _ length_placementReference_le, ?_⟩,
    hone _ length_profileReference_le, ?_⟩
  · intro f hf g hg
    rw [place_of_mem_serviceReference (hfirst.subset hf), place_of_mem_placementReference hg]
    exact Nat.zero_lt_one
  · intro f hf g hg
    rw [place_of_mem_profileReference hg]
    rcases List.mem_append.mp hf with hf | hf
    · rw [place_of_mem_serviceReference (hfirst.subset hf)]
      exact Nat.zero_lt_two
    · rw [place_of_mem_placementReference hf]
      exact Nat.one_lt_two

/-- **What the check reports at a pair is its row.** -/
theorem isRow_pairReferences {reported : List String} (h : Remembers d before reported) :
    IsRow d before p (pairReferences d reported p) where
  ordered := pairwise_pairReferences reported
  mem_iff := by
    intro f
    rw [pairReferences, List.mem_append, List.mem_append, mem_unreported_iff h,
      mem_placementReference_iff, mem_profileReference_iff]
    constructor
    · rintro ((⟨hs, hb, rfl⟩ | ⟨hq, rfl⟩ | ⟨q, hq, hs, rfl⟩) | ⟨n, hn, hne, hc, rfl⟩)
      · exact .service hs hb
      · exact .placement hq
      · exact .price hq hs
      · exact .profile hn hne hc
    · rintro (⟨hs, hb⟩ | hq | ⟨hq, hs⟩ | ⟨hn, hne, hc⟩)
      · exact .inl (.inl ⟨hs, hb, rfl⟩)
      · exact .inl (.inr (.inl ⟨hq, rfl⟩))
      · exact .inl (.inr (.inr ⟨_, hq, hs, rfl⟩))
      · exact .inr ⟨_, hn, hne, hc, rfl⟩

/-- **The check reports the rows of its pairs**, one after the other. -/
theorem exists_rows_of_referencesFrom (ps : List DeployedPair) :
    ∀ (before : List DeployedPair) (reported : List String), Remembers d before reported →
      ∃ rows, AreRows d before ps rows ∧ referencesFrom d reported ps = rows.flatten := by
  induction ps with
  | nil => exact fun before reported _ => ⟨[], .nil, rfl⟩
  | cons p ps ih =>
    intro before reported h
    obtain ⟨rows, hrows, heq⟩ := ih (before ++ [p]) _ (h.step (p := p))
    refine ⟨pairReferences d reported p :: rows, .cons (isRow_pairReferences h) hrows, ?_⟩
    rw [referencesFrom, heq, List.flatten_cons]

/-! ### How often -/

theorem IsRow.nodup (h : IsRow d before p row) : row.Nodup :=
  h.ordered.imp fun hlt heq => absurd hlt (by rw [heq]; exact Nat.lt_irrefl _)

/-- A report stands in its row **once**. -/
theorem IsRow.count_eq [DecidablePred (p.Reports d before)] (h : IsRow d before p row)
    (f : Finding) : row.count f = if p.Reports d before f then 1 else 0 := by
  split_ifs with hf
  · exact List.count_eq_one_of_mem h.nodup ((h.mem_iff f).mpr hf)
  · exact List.count_eq_zero.mpr fun hmem => hf ((h.mem_iff f).mp hmem)

/-- What does **not depend on the pairs before** is reported once for each of its pairs. -/
theorem AreRows.count_eq_countP {c : DeployedPair → Prop} [DecidablePred c]
    (hc : ∀ before p, p.Reports d before f ↔ c p) (h : AreRows d before ps rows) :
    rows.flatten.count f = ps.countP fun p => c p := by
  classical
  induction h with
  | nil => rfl
  | @cons before ps p row rows hrow _ ih =>
    rw [List.flatten_cons, List.count_append, hrow.count_eq, ih, List.countP_cons, Nat.add_comm]
    simp [hc]

theorem reports_undefinedService_iff {s : String} :
    p.Reports d before (.undefinedService s) ↔
      d.services.get? s = none ∧ (∀ q ∈ before, q.service ≠ s) ∧ p.service = s := by
  constructor
  · rintro ⟨hs, hb⟩
    exact ⟨hs, hb, rfl⟩
  · rintro ⟨hs, hb, rfl⟩
    exact .service hs hb

theorem reports_undefinedPlacement_iff {n : String} :
    p.Reports d before (.undefinedPlacement n) ↔
      d.placementProfiles.get? n = none ∧ p.placement = n := by
  constructor
  · rintro ⟨hq⟩
    exact ⟨‹_›, rfl⟩
  · rintro ⟨hq, rfl⟩
    exact .placement hq

theorem reports_noPriceFor_iff {n s : String} :
    p.Reports d before (.noPriceFor n s) ↔
      (∃ q, d.placementProfiles.get? n = some q ∧ q.pricing.get? s = none) ∧ p.placement = n ∧
        p.service = s := by
  constructor
  · rintro ⟨hq, hs⟩
    exact ⟨⟨_, ‹_›, ‹_›⟩, rfl, rfl⟩
  · rintro ⟨⟨q, hq, hs⟩, rfl, rfl⟩
    exact .price hq hs

theorem reports_undefinedProfile_iff {n : String} :
    p.Reports d before (.undefinedProfile n) ↔
      (n ≠ "" ∧ d.computeProfiles.get? n = none) ∧ p.entry.profile = some n := by
  constructor
  · rintro ⟨hn, hne, hc⟩
    exact ⟨⟨‹_›, ‹_›⟩, ‹_›⟩
  · rintro ⟨⟨hne, hc⟩, hn⟩
    exact .profile hn hne hc

/-- An undefined service is reported **at most once**, and not after it has been reported. -/
theorem AreRows.count_undefinedService {s : String} (hs : d.services.get? s = none)
    (h : AreRows d before ps rows) :
    rows.flatten.count (.undefinedService s) =
      if ∃ q ∈ before, q.service = s then 0 else min 1 (ps.countP (·.service = s)) := by
  classical
  induction h with
  | nil => simp
  | @cons before ps p row rows hrow _ ih =>
    have hsplit : (∃ q ∈ before ++ [p], q.service = s) ↔
        (∃ q ∈ before, q.service = s) ∨ p.service = s := by
      simp [or_and_right, exists_or]
    rw [List.flatten_cons, List.count_append, hrow.count_eq, ih, List.countP_cons]
    -- the service was reported before, or it is reported here, or it is left to the later pairs
    by_cases hb : ∃ q ∈ before, q.service = s
    · have hnot : ¬p.Reports d before (.undefinedService s) := fun hr => by
        obtain ⟨q, hq, heq⟩ := hb
        exact (reports_undefinedService_iff.mp hr).2.1 q hq heq
      simp [hnot, hb]
    · by_cases hp : p.service = s
      · have hr : p.Reports d before (.undefinedService s) :=
          reports_undefinedService_iff.mpr ⟨hs, fun q hq heq => hb ⟨q, hq, heq⟩, hp⟩
        rw [if_pos hr, if_pos (hsplit.mpr (.inr hp)), if_neg hb]
        simp [hp]
      · have hr : ¬p.Reports d before (.undefinedService s) := fun hr =>
          hp (reports_undefinedService_iff.mp hr).2.2
        rw [if_neg hr, if_neg (fun hor => (hsplit.mp hor).elim hb hp), if_neg hb]
        simp [hp]

/-- **Each report stands in the rows as often as it should.** -/
theorem AreRows.count_eq_timesReported (h : AreRows d [] d.pairs rows) (f : Finding) :
    rows.flatten.count f = d.timesReported f := by
  cases f with
  | undefinedService s =>
    rw [Document.timesReported]
    cases hs : d.services.contains s with
    | true =>
      obtain ⟨v, hv⟩ := Table.contains_eq_true_iff.mp hs
      rw [h.count_eq_countP (c := fun _ => False)]
      · simp
      · simp [reports_undefinedService_iff, hv]
    | false =>
      rw [h.count_undefinedService (Table.contains_eq_false_iff.mp hs)]
      simp
  | undefinedPlacement n =>
    rw [Document.timesReported,
      h.count_eq_countP fun _ _ => reports_undefinedPlacement_iff]
    cases hn : d.placementProfiles.contains n with
    | true =>
      obtain ⟨v, hv⟩ := Table.contains_eq_true_iff.mp hn
      simp [hv]
    | false => simp [Table.contains_eq_false_iff.mp hn]
  | noPriceFor n s =>
    rw [Document.timesReported, h.count_eq_countP fun _ _ => reports_noPriceFor_iff]
    cases hn : d.placementProfiles.get? n with
    | none => simp
    | some q =>
      cases hs : q.pricing.contains s with
      | true =>
        obtain ⟨v, hv⟩ := Table.contains_eq_true_iff.mp hs
        simp [hs, hv]
      | false => simp [hs, Table.contains_eq_false_iff.mp hs]
  | undefinedProfile n =>
    rw [Document.timesReported, h.count_eq_countP fun _ _ => reports_undefinedProfile_iff]
    by_cases hne : n = ""
    · simp [hne]
    · cases hn : d.computeProfiles.contains n with
      | true =>
        obtain ⟨v, hv⟩ := Table.contains_eq_true_iff.mp hn
        simp [hv]
      | false => simp [hne, Table.contains_eq_false_iff.mp hn]
  | _ =>
    -- no other finding is about references
    refine (h.count_eq_countP (c := fun _ => False) fun _ _ => ?_).trans ?_
    · exact iff_of_false (fun hr => nomatch hr) id
    · simp [Document.timesReported]

/-! ### The report -/

/-- **The report of the reference check is made of rows**, one for each deployed pair in order. It
has no warnings, and each error stands in it as often as there is a reason for it. -/
theorem Document.checkReferences_rows (d : Document) :
    ∃ rows, AreRows d [] d.pairs rows ∧ (d.checkReferences .empty).stopped = none ∧
      (d.checkReferences .empty).report = ⟨rows.flatten.map Finding.message, []⟩ ∧
      ∀ f, rows.flatten.count f = d.timesReported f := by
  obtain ⟨rows, hrows, heq⟩ := exists_rows_of_referencesFrom (d := d) d.pairs [] []
    (fun s => by simp)
  refine ⟨rows, hrows, rfl, ?_, fun f => hrows.count_eq_timesReported f⟩
  have herror : ∀ f ∈ rows.flatten, f.isError = true := fun f hf =>
    isError_of_mem_referenceFindings (d := d) (heq.symm ▸ hf : f ∈ referencesFrom d [] d.pairs)
  change Report.empty.addAll (referencesFrom d [] d.pairs) = _
  rw [heq, Report.addAll, List.filter_eq_self.mpr herror, List.filter_eq_nil_iff.mpr]
  · rfl
  · exact fun f hf => by simp [herror f hf]

end StackManifest
