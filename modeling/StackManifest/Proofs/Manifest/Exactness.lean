import StackManifest.Proofs.Compilation.Ready
import StackManifest.Proofs.Manifest.Totals
import StackManifest.Proofs.Number.Exact

/-!
# When an estimate is exact

The cores and the costs of an estimate are sums of products of decimal numbers, one group after
the other, and each of these operations keeps 28 digits. Whether an estimate has the **values** of
the sums, `StackManifest.Estimate.IsExact`, is therefore a question about the groups: for each of
them, what all its replicas need and cost, and the totals that are reached with it, must be values
that a number of the precision can have (`StackManifest.Group.Fits`).

One more group keeps an estimate exact if and only if these four values fit
(`StackManifest.Estimate.exists_add_iff`), and so the estimates on the way are all exact if and
only if all groups fit (`StackManifest.Estimate.forall_isExact_iff`). For the groups of a valid
document, nothing else is in the way of an estimate:
`StackManifest.Document.estimate_isExact_iff`. A price of 29 digits does not fit, and is not
refused either: `StackManifest.Document.not_isExact_of_validate`.
-/

namespace StackManifest

open StackManifest.Number

variable {g : Group} {gs done : List Group}

/-! ### The values -/

/-- The **number of cores**; an infinity and no number count as none. -/
def Number.ExtendedDecimal.toRat : ExtendedDecimal → ℚ
  | .finite c => c.toRat
  | _ => 0

namespace Group

/-- The **price of a replica**. An amount that is no price counts as none. -/
def unitPrice (g : Group) : ℚ :=
  match PriceAmount.ofValue g.price.amount with
  | .ok (some a) => a.toRat
  | _ => 0

/-- The cores of **all replicas** of a group. -/
def cpuShare (g : Group) : ℚ := g.resources.cpu.toRat * replicaCount g.count

/-- The cost of **all replicas** of a group. -/
def costShare (g : Group) : ℚ := g.unitPrice * replicaCount g.count

end Group

/-- The cores of all groups together. -/
def totalCpu (gs : List Group) : ℚ := (gs.map Group.cpuShare).sum

/-- The cost of the groups that are paid **in a denomination**. -/
def totalCost (gs : List Group) (denom : String) : ℚ :=
  ((gs.filter fun g => g.price.denom = denom).map Group.costShare).sum

theorem totalCpu_append (gs : List Group) (g : Group) :
    totalCpu (gs ++ [g]) = totalCpu gs + g.cpuShare := by
  simp [totalCpu]

theorem totalCost_append (gs : List Group) (g : Group) (denom : String) :
    totalCost (gs ++ [g]) denom =
      totalCost gs denom + if g.price.denom = denom then g.costShare else 0 := by
  by_cases h : g.price.denom = denom <;> simp [totalCost, List.filter_append, h]

theorem totalCost_append_self (gs : List Group) (g : Group) :
    totalCost (gs ++ [g]) g.price.denom = totalCost gs g.price.denom + g.costShare := by
  rw [totalCost_append, if_pos rfl]

/-- The line of an estimate has the **exact values** of its group. -/
structure GroupEstimate.IsExact (g : Group) (l : GroupEstimate) : Prop where
  cpu : ∃ c, l.cpu = .finite c ∧ c.toRat = g.cpuShare
  unitCost : l.unitCost.toRat = g.unitPrice
  totalCost : l.totalCost.toRat = g.costShare

/-- An estimate has the **exact values** of its groups: the cores, and the cost in each
denomination, in the order in which these first occur. A denomination without a cost costs
nothing. -/
structure Estimate.IsExact (gs : List Group) (e : Estimate) : Prop where
  cpu : ∃ c, e.cpu = .finite c ∧ c.toRat = totalCpu gs
  denoms : e.cost.keys = (gs.map (·.price.denom)).eraseDups
  cost : ∀ denom, ((e.cost.get? denom).getD 0).toRat = totalCost gs denom
  breakdown : List.Forall₂ GroupEstimate.IsExact gs e.breakdown

/-! ### One more group -/

/-- A group **fits** after some others: what all its replicas need and cost, and the totals with
it, are values that a number of the precision can have. -/
structure Group.Fits (done : List Group) (g : Group) : Prop where
  cpuShare : Decimal.Fits g.cpuShare
  cpuTotal : Decimal.Fits (totalCpu (done ++ [g]))
  costShare : Decimal.Fits g.costShare
  costTotal : Decimal.Fits (totalCost (done ++ [g]) g.price.denom)

/-- **All groups fit**, each after those before it. -/
def AllFit (gs : List Group) : Prop := ∀ done g, done ++ [g] <+: gs → g.Fits done

/-- **A single group** fits if the values of all its replicas do. -/
theorem allFit_singleton_iff :
    AllFit [g] ↔ Decimal.Fits g.cpuShare ∧ Decimal.Fits g.costShare := by
  have hcpu : totalCpu ([] ++ [g]) = g.cpuShare := by simp [totalCpu]
  have hcost : totalCost ([] ++ [g]) g.price.denom = g.costShare := by simp [totalCost]
  constructor
  · intro h
    have hfits := h [] g (List.prefix_refl [g])
    exact ⟨hfits.cpuShare, hfits.costShare⟩
  · rintro ⟨hfits, hfitsCost⟩ done g' hfirst
    obtain rfl : done = [] := by simpa using hfirst.length_le
    obtain rfl : g' = g := by simpa using hfirst
    exact ⟨hfits, hcpu.symm ▸ hfits, hfitsCost, hcost.symm ▸ hfitsCost⟩

/-- The parts of a group that an estimate **calculates with**: cores, replicas and a price. -/
structure Group.HasTerms (g : Group) (c : Decimal) (n : Int) (a : Decimal) : Prop where
  cpu : g.resources.cpu = .finite c
  count : g.count.count? = some n
  amount : PriceAmount.ofValue g.price.amount = .ok (some a)

namespace Group

variable {c a : Decimal} {n : Int}

theorem IsReady.exists_hasTerms (h : g.IsReady) : ∃ c n a, g.HasTerms c n a := by
  obtain ⟨c, hc, -⟩ := h.cpu
  obtain ⟨n, hn, -⟩ := h.count
  obtain ⟨a, ha⟩ := h.amount
  exact ⟨c, n, a, hc, by rw [hn]; rfl, ha⟩

theorem HasTerms.unitPrice_eq (h : g.HasTerms c n a) : g.unitPrice = a.toRat := by
  rw [unitPrice, h.amount]

theorem HasTerms.cpuShare_eq (h : g.HasTerms c n a) :
    g.cpuShare = c.toRat * (Decimal.ofInt n).toRat := by
  rw [cpuShare, h.cpu, replicaCount, h.count, Decimal.toRat_ofInt]
  rfl

theorem HasTerms.costShare_eq (h : g.HasTerms c n a) :
    g.costShare = a.toRat * (Decimal.ofInt n).toRat := by
  rw [costShare, h.unitPrice_eq, replicaCount, h.count, Decimal.toRat_ofInt]
  rfl

end Group

namespace Estimate

variable {e e' : Estimate} {c a before : Decimal} {n : Int}

/-- **One more group takes four operations**: two products, and two sums with what was there. -/
theorem add_eq_ok_iff (hterms : g.HasTerms c n a) (hbefore : e.cpu = .finite before) :
    e.add g = .ok e' ↔ ∃ cpu cpuSum cost costSum,
      c.mul (.ofInt n) = .ok cpu ∧ before.add cpu = .ok cpuSum ∧
      a.mul (.ofInt n) = .ok cost ∧
      ((e.cost.get? g.price.denom).getD 0).add cost = .ok costSum ∧
      e' = ⟨.finite cpuSum, e.memory + g.resources.memory * n, e.storage + g.totalStorage * n,
        e.cost.put g.price.denom costSum, e.breakdown ++ [⟨g.name, g.placement, g.count,
          .finite cpu, g.resources.memory * n, g.totalStorage * n, g.price.denom, a, cost⟩]⟩ := by
  have hprice : unitCost g = .ok a := by
    rw [unitCost, hterms.amount]
    rfl
  have hcount : replicas g = .ok n := by
    rw [replicas, hterms.count]
  rw [Estimate.add, hprice, ok_bind, hcount, ok_bind, hterms.cpu, hbefore]
  constructor
  · intro h
    obtain ⟨x, hx, h⟩ := bind_eq_ok_iff.mp h
    obtain ⟨cpu, hcpu, rfl⟩ := map_eq_ok_iff.mp (mapError_eq_ok_iff.mp hx)
    obtain ⟨y, hy, h⟩ := bind_eq_ok_iff.mp h
    obtain ⟨cpuSum, hcpuSum, rfl⟩ := map_eq_ok_iff.mp (mapError_eq_ok_iff.mp hy)
    obtain ⟨cost, hcost, h⟩ := bind_eq_ok_iff.mp h
    obtain ⟨costSum, hcostSum, h⟩ := bind_eq_ok_iff.mp h
    exact ⟨cpu, cpuSum, cost, costSum, hcpu, hcpuSum, mapError_eq_ok_iff.mp hcost,
      mapError_eq_ok_iff.mp hcostSum, (Except.ok.inj h).symm⟩
  · rintro ⟨cpu, cpuSum, cost, costSum, hcpu, hcpuSum, hcost, hcostSum, rfl⟩
    refine bind_eq_ok_iff.mpr ⟨.finite cpu, mapError_eq_ok_iff.mpr (map_eq_ok_iff.mpr ⟨_, hcpu, rfl⟩),
      bind_eq_ok_iff.mpr ⟨.finite cpuSum, mapError_eq_ok_iff.mpr (map_eq_ok_iff.mpr
        ⟨_, hcpuSum, rfl⟩), bind_eq_ok_iff.mpr ⟨cost, mapError_eq_ok_iff.mpr hcost,
          bind_eq_ok_iff.mpr ⟨costSum, mapError_eq_ok_iff.mpr hcostSum, rfl⟩⟩⟩⟩

/-- The denominations **after** a cost was put under one. -/
theorem keys_put_cost {denoms : List String} (h : e.cost.keys = denoms.eraseDups)
    (denom : String) (cost : Decimal) :
    (e.cost.put denom cost).keys = (denoms ++ [denom]).eraseDups := by
  have hput := Table.keys_putList denom cost e.cost.toList
  rw [← Table.keys, h] at hput
  rw [show (e.cost.put denom cost).keys = _ from hput]
  split
  · rename_i hmem
    rw [eraseDups_append_of_mem (List.mem_eraseDups.mp hmem)]
  · rename_i hmem
    rw [eraseDups_append_of_not_mem (mt List.mem_eraseDups.mpr hmem)]

/-- A group after which an estimate is **still exact** fits. -/
theorem fits_of_isExact_add (he : IsExact done e) (hterms : g.HasTerms c n a) {e' : Estimate}
    (hadd : e.add g = .ok e') (hexact : IsExact (done ++ [g]) e') : g.Fits done := by
  obtain ⟨before, hbefore, hcpuBefore⟩ := he.cpu
  obtain ⟨cpu, cpuSum, cost, costSum, hcpu, hcpuSum, hcost, hcostSum, rfl⟩ :=
    (add_eq_ok_iff hterms hbefore).mp hadd
  -- the line of the group is the last one
  have hlines := List.forall₂_drop_append _ _ _ hexact.breakdown
  rw [← he.breakdown.length_eq, List.drop_left] at hlines
  obtain ⟨⟨x, hx, hcpuValue⟩, -, hcostValue⟩ := (List.forall₂_cons.mp hlines).1
  obtain rfl := ExtendedDecimal.finite.inj hx
  obtain ⟨y, hy, hcpuSumValue⟩ := hexact.cpu
  obtain rfl := ExtendedDecimal.finite.inj hy
  have hcostSumValue := hexact.cost g.price.denom
  rw [Table.get?_put, if_pos rfl, Option.getD_some] at hcostSumValue
  have hcostTotal := totalCost_append_self done g
  have hlast := hterms.cpuShare_eq
  have hlastCost := hterms.costShare_eq
  refine ⟨hlast ▸ Decimal.exists_mul_eq_iff.mp ⟨cpu, hcpu, hcpuValue.trans hlast⟩, ?_,
    hlastCost ▸ Decimal.exists_mul_eq_iff.mp ⟨cost, hcost, hcostValue.trans hlastCost⟩, ?_⟩
  · rw [totalCpu_append, ← hcpuBefore, ← hcpuValue] at hcpuSumValue ⊢
    exact Decimal.exists_add_eq_iff.mp ⟨cpuSum, hcpuSum, hcpuSumValue⟩
  · rw [hcostTotal, ← he.cost g.price.denom, ← hcostValue] at hcostSumValue ⊢
    exact Decimal.exists_add_eq_iff.mp ⟨costSum, hcostSum, hcostSumValue⟩

/-- After a group that **fits** there is an estimate, and it is exact again. -/
theorem exists_add_of_fits (he : IsExact done e) (hterms : g.HasTerms c n a)
    (hfits : g.Fits done) : ∃ e', e.add g = .ok e' ∧ IsExact (done ++ [g]) e' := by
  obtain ⟨before, hbefore, hcpuBefore⟩ := he.cpu
  have hcostBefore := he.cost g.price.denom
  have hcpuTotal := totalCpu_append done g
  have hcostTotal := totalCost_append_self done g
  have hlast := hterms.cpuShare_eq
  have hlastCost := hterms.costShare_eq
  -- first the two products, then the two sums that they are added to
  obtain ⟨cpu, hcpu, hcpuValue⟩ := Decimal.exists_mul_eq_iff.mpr (hlast ▸ hfits.cpuShare)
  obtain ⟨cost, hcost, hcostValue⟩ := Decimal.exists_mul_eq_iff.mpr (hlastCost ▸ hfits.costShare)
  rw [← hlast] at hcpuValue
  rw [← hlastCost] at hcostValue
  obtain ⟨cpuSum, hcpuSum, hcpuSumValue⟩ := Decimal.exists_add_eq_iff.mpr
    (show Decimal.Fits (before.toRat + cpu.toRat) by
      rw [hcpuBefore, hcpuValue, ← hcpuTotal]
      exact hfits.cpuTotal)
  obtain ⟨costSum, hcostSum, hcostSumValue⟩ := Decimal.exists_add_eq_iff.mpr
    (show Decimal.Fits (((e.cost.get? g.price.denom).getD 0).toRat + cost.toRat) by
      rw [hcostBefore, hcostValue, ← hcostTotal]
      exact hfits.costTotal)
  rw [hcpuBefore, hcpuValue, ← hcpuTotal] at hcpuSumValue
  rw [hcostBefore, hcostValue, ← hcostTotal] at hcostSumValue
  refine ⟨_, (add_eq_ok_iff hterms hbefore).mpr
    ⟨cpu, cpuSum, cost, costSum, hcpu, hcpuSum, hcost, hcostSum, rfl⟩,
    ⟨cpuSum, rfl, hcpuSumValue⟩, ?_, fun denom => ?_,
    List.rel_append he.breakdown (.cons ⟨⟨cpu, rfl, hcpuValue⟩, ?_, hcostValue⟩ .nil)⟩
  · rw [List.map_append]
    exact keys_put_cost he.denoms _ _
  · rw [Table.get?_put]
    by_cases hdenom : denom = g.price.denom
    · rw [if_pos hdenom, Option.getD_some, hdenom, hcostSumValue]
    · rw [if_neg hdenom, he.cost, totalCost_append, if_neg (Ne.symm hdenom), add_zero]
  · exact hterms.unitPrice_eq.symm

/-- **One more group keeps an estimate exact** if and only if it fits. -/
theorem exists_add_iff (he : IsExact done e) (hterms : g.HasTerms c n a) :
    (∃ e', e.add g = .ok e' ∧ IsExact (done ++ [g]) e') ↔ g.Fits done := by
  constructor
  · rintro ⟨e', hadd, hexact⟩
    exact fits_of_isExact_add he hterms hadd hexact
  · exact exists_add_of_fits he hterms

/-! ### A whole run -/

theorem isExact_empty : IsExact [] empty := by
  refine ⟨⟨0, rfl, ?_⟩, rfl, fun denom => ?_, .nil⟩
  · rw [totalCpu, List.map_nil, List.sum_nil]
    exact Decimal.toRat_zero
  · exact Decimal.toRat_zero

theorem ofGroups_append (gs : List Group) (g : Group) :
    ofGroups (gs ++ [g]) = ofGroups gs >>= fun e => e.add g := by
  rw [ofGroups, List.foldlM_append, ofGroups]
  refine bind_congr fun e => ?_
  rw [List.foldlM_cons]
  cases e.add g <;> rfl

/-- **The estimates on the way are exact** if and only if all groups fit. -/
theorem forall_isExact_iff (hready : ∀ g ∈ gs, g.IsReady) :
    (∀ done, done <+: gs → ∃ e, ofGroups done = .ok e ∧ IsExact done e) ↔ AllFit gs := by
  constructor
  · intro hexact done g hfirst
    obtain ⟨e, he, hexact₁⟩ := hexact done ((List.prefix_append done [g]).trans hfirst)
    obtain ⟨e', he', hexact₂⟩ := hexact (done ++ [g]) hfirst
    rw [ofGroups_append, he, ok_bind] at he'
    obtain ⟨c, n, a, hterms⟩ := (hready g (hfirst.subset (by simp))).exists_hasTerms
    exact (exists_add_iff hexact₁ hterms).mp ⟨e', he', hexact₂⟩
  · intro hfits done hfirst
    induction done using List.reverseRecOn with
    | nil => exact ⟨empty, rfl, isExact_empty⟩
    | append_singleton done g ih =>
      obtain ⟨e, he, hexact⟩ := ih ((List.prefix_append done [g]).trans hfirst)
      obtain ⟨c, n, a, hterms⟩ := (hready g (hfirst.subset (by simp))).exists_hasTerms
      obtain ⟨e', he', hexact'⟩ := (exists_add_iff hexact hterms).mpr (hfits done g hfirst)
      rw [ofGroups_append, he, ok_bind]
      exact ⟨e', he', hexact'⟩

/-- The costs are listed **in the order** in which their denominations first occur, exact or not. -/
theorem keys_cost_of_ofGroups (h : ofGroups gs = .ok e) :
    e.cost.keys = (gs.map (·.price.denom)).eraseDups := by
  have hempty : empty.cost.keys = (([] : List Group).map (·.price.denom)).eraseDups := rfl
  refine of_foldlM_eq_ok (I := fun done (e : Estimate) =>
    e.cost.keys = (done.map (·.price.denom)).eraseDups) ?_ hempty h
  intro done e g e' he hadd
  obtain ⟨_, -, hadd⟩ := bind_eq_ok_iff.mp hadd
  obtain ⟨_, -, hadd⟩ := bind_eq_ok_iff.mp hadd
  obtain ⟨_, -, hadd⟩ := bind_eq_ok_iff.mp hadd
  obtain ⟨_, -, hadd⟩ := bind_eq_ok_iff.mp hadd
  obtain ⟨_, -, hadd⟩ := bind_eq_ok_iff.mp hadd
  obtain ⟨costSum, -, hadd⟩ := bind_eq_ok_iff.mp hadd
  obtain rfl := Except.ok.inj hadd
  rw [List.map_append]
  exact keys_put_cost he _ _

end Estimate

/-! ### Valid documents -/

namespace Document

variable {d : Document} {r : Report}

/-- **The estimate of a valid document is exact**, and so are those of its first groups, if and
only if all its groups fit. The costs are in the order of the groups in any case. -/
theorem estimate_isExact_iff (hr : d.validate = .ok r) (hv : r.isValid = true) :
    ∃ gs, d.compile = .ok gs ∧
      ((∀ done, done <+: gs → ∃ e, Estimate.ofGroups done = .ok e ∧ e.IsExact done) ↔ AllFit gs) ∧
      ∀ e, Estimate.ofGroups gs = .ok e → e.cost.keys = (gs.map (·.price.denom)).eraseDups := by
  have h := exists_validate_isValid_iff_isSound.mp ⟨r, hr, hv⟩
  obtain ⟨gs, hgs, hrel⟩ := h.exists_compile
  have hready : ∀ g ∈ gs, g.IsReady := by
    intro g hg
    obtain ⟨p, hp, hyields⟩ := exists_of_mem_forall₂ hrel hg
    exact hyields.isReady hp h
  exact ⟨gs, hgs, Estimate.forall_isExact_iff hready, fun e => Estimate.keys_cost_of_ofGroups⟩

/-- The terms of the groups of a document, as far as it can be compiled. -/
def terms (d : Document) : Option (List (ExtendedDecimal × Option Int × Option (Option Decimal))) :=
  d.compile.toOption.map fun gs => gs.map fun g =>
    (g.resources.cpu, g.count.count?, (PriceAmount.ofValue g.price.amount).toOption)

theorem exists_hasTerms_of_terms {c a : Decimal} {n : Int}
    (h : d.terms = some [(.finite c, some n, some (some a))]) :
    ∃ g, d.compile = .ok [g] ∧ g.HasTerms c n a := by
  obtain ⟨gs, hgs, hmap⟩ := Option.map_eq_some_iff.mp h
  obtain ⟨g, rfl, hg⟩ := List.map_eq_singleton_iff.mp hmap
  obtain ⟨hcpu, hg⟩ := Prod.mk.inj hg
  obtain ⟨hcount, hamount⟩ := Prod.mk.inj hg
  exact ⟨g, toOption_eq_some_iff.mp hgs, hcpu, hcount, toOption_eq_some_iff.mp hamount⟩

/-- Half a core at a tenth of a token: the estimate is exact. -/
theorem estimate_isExact_oneService : ∃ r gs e,
    (oneService (.ofTexts "0.5" "512Mi" []) "uakt" "0.1").validate = .ok r ∧ r.isValid = true ∧
      (oneService (.ofTexts "0.5" "512Mi" []) "uakt" "0.1").compile = .ok gs ∧
      Estimate.ofGroups gs = .ok e ∧ e.IsExact gs := by
  have hr : (oneService (.ofTexts "0.5" "512Mi" []) "uakt" "0.1").validate = .ok ⟨[], []⟩ :=
    toOption_eq_some_iff.mp (by decide +kernel)
  obtain ⟨g, hg, hterms⟩ := exists_hasTerms_of_terms (c := ⟨false, 5, -1⟩) (a := ⟨false, 1, -1⟩)
    (n := 1) (d := oneService (.ofTexts "0.5" "512Mi" []) "uakt" "0.1") (by decide +kernel)
  obtain ⟨gs, hgs, hexact, -⟩ := estimate_isExact_iff hr rfl
  obtain rfl := Except.ok.inj (hg.symm.trans hgs)
  have hfits : AllFit [g] := by
    rw [allFit_singleton_iff, hterms.cpuShare_eq, hterms.costShare_eq]
    rw [Decimal.toRat_ofInt, Int.cast_one, mul_one, mul_one]
    exact ⟨Decimal.fits_of_exponent_le (by decide) (by decide) (by decide),
      Decimal.fits_of_exponent_le (by decide) (by decide) (by decide)⟩
  obtain ⟨e, he, hvalues⟩ := hexact.mpr hfits [g] (List.prefix_refl [g])
  exact ⟨_, [g], e, hr, rfl, hg, he, hvalues⟩

/-- A price of 29 digits is **rounded**. -/
theorem not_isExact_of_validate : ∃ r gs e,
    (oneService (.ofTexts "1" "1Gi" []) "uakt" "10000000000000000000000000001").validate = .ok r ∧
      r.isValid = true ∧
      (oneService (.ofTexts "1" "1Gi" []) "uakt" "10000000000000000000000000001").compile = .ok gs ∧
      Estimate.ofGroups gs = .ok e ∧ ¬ e.IsExact gs := by
  have hr : (oneService (.ofTexts "1" "1Gi" []) "uakt" "10000000000000000000000000001").validate =
      .ok ⟨[], []⟩ := toOption_eq_some_iff.mp (by decide +kernel)
  obtain ⟨g, hg, hterms⟩ := exists_hasTerms_of_terms (c := 1) (n := 1)
    (a := ⟨false, 10000000000000000000000000001, 0⟩)
    (d := oneService (.ofTexts "1" "1Gi" []) "uakt" "10000000000000000000000000001")
    (by decide +kernel)
  -- the product has 29 digits, and keeps 28 of them
  have hcalculated :
      (Decimal.mul ⟨false, 10000000000000000000000000001, 0⟩ (.ofInt 1)).toOption =
          some ⟨false, 1000000000000000000000000000, 1⟩ ∧
        (Decimal.add 0 ⟨false, 1000000000000000000000000000, 1⟩).toOption =
          some ⟨false, 1000000000000000000000000000, 1⟩ ∧
        (Decimal.mul 1 (.ofInt 1)).toOption = some 1 ∧ (Decimal.add 0 1).toOption = some 1 := by
    decide +kernel
  obtain ⟨hcost, hcostSum, hcpu, hcpuSum⟩ := hcalculated
  have hadd := (Estimate.add_eq_ok_iff (e := .empty) hterms rfl).mpr
    ⟨_, _, _, _, toOption_eq_some_iff.mp hcpu, toOption_eq_some_iff.mp hcpuSum,
      toOption_eq_some_iff.mp hcost, toOption_eq_some_iff.mp hcostSum, rfl⟩
  refine ⟨_, [g], _, hr, rfl, hg, (Estimate.ofGroups_append [] g).trans hadd, fun hexact => ?_⟩
  have hvalue := (List.forall₂_cons.mp hexact.breakdown).1.totalCost
  rw [hterms.costShare_eq] at hvalue
  norm_num [Decimal.toRat, Decimal.signed, Decimal.ofInt] at hvalue

end Document

end StackManifest
