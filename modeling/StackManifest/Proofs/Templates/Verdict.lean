import StackManifest.Proofs.Checks.References
import StackManifest.Proofs.Compilation.Groups
import StackManifest.Proofs.Templates.Stack

/-!
# The stacks of templates are valid

The stack of a template passes every check, whatever its name is and however large its count:
the parts in which the templates differ are checked once for each of them, and the parts that
depend on the name and the count by the checks themselves.

* `TemplateKind.validate_stack` – the **report** on the stack of a template is empty;
* `TemplateKind.compile_stack` – the stack is compiled to **one group**.
-/

namespace StackManifest

namespace TemplateKind

variable (k : TemplateKind) {name : String} {count : Int}

theorem serviceFindings_stack (d : Document) : serviceFindings d name k.service = .none := by
  cases k <;> rfl

/-- The resources and the price of a kind **pass the checks**. -/
theorem accepted_parts : computeFindings "" k.computeProfile = .none ∧
    (k.price.amount.bind PriceAmount.read?).isNone = false := by
  cases k <;> decide +kernel

theorem computeFindings_stack : computeFindings name k.computeProfile = .none := by
  have h : computeFindings name k.computeProfile = computeFindings "" k.computeProfile := by
    cases k <;> rfl
  rw [h]
  exact (accepted_parts k).1

theorem contains_single {α : Type} (n : String) (a : α) : (Table.single n a).contains n = true := by
  simp [Table.contains, Table.get?, Table.single]

theorem priceFindings_stack (d : Document) (hd : d.services.contains name) :
    priceFindings d "datacenter" name k.price = .none := by
  have hread := (accepted_parts k).2
  have hcomplete : k.price.isComplete = true := by cases k <;> rfl
  simp only [priceFindings, hd, hcomplete, hread]
  rfl

theorem structureFindings_stack (hname : name ≠ "") (hcount : 0 < count) :
    (k.stack name count).structureFindings = .none := by
  have hversion : versionFindings (k.stack name count) = .none := rfl
  have hservices : servicesFindings (k.stack name count) = .none := by
    change Findings.join [serviceFindings _ name k.service] = .none
    rw [serviceFindings_stack]
    rfl
  have hprofiles : profilesFindings (k.stack name count) = .none := by
    change Findings.join [computeFindings name k.computeProfile]
      ++ Findings.join [Findings.join [priceFindings _ "datacenter" name k.price]] = .none
    rw [computeFindings_stack, priceFindings_stack _ _ (contains_single name _)]
    rfl
  have hpair : pairFindings ⟨name, "datacenter", ⟨some name, some count, .empty⟩⟩ = .none := by
    have : ¬ count ≤ 0 := by omega
    simp only [pairFindings, given?, Option.filter_some, hname, this, ne_eq, not_false_eq_true,
      decide_true, if_true, Option.isNone_some, Findings.when, if_false, Bool.false_eq_true,
      decide_false]
    rfl
  have hdeployment : deploymentFindings (k.stack name count) = .none := by
    change Findings.join [pairFindings ⟨name, "datacenter", ⟨some name, some count, .empty⟩⟩] = .none
    rw [hpair]
    rfl
  rw [Document.structureFindings, hversion, hservices, hprofiles, hdeployment]
  rfl

theorem get?_single {α : Type} (n : String) (a : α) : (Table.single n a).get? n = some a := by
  simp [Table.get?, Table.single]

theorem referenceFindings_stack : (k.stack name count).referenceFindings = [] := by
  refine referenceFindings_eq_nil_iff.mpr fun p hp => ?_
  obtain rfl : p = ⟨name, "datacenter", ⟨some name, some count, .empty⟩⟩ := by
    simpa [Document.pairs, stack, Table.single] using hp
  refine ⟨contains_single name _, ⟨k.placement name, get?_single _ _, contains_single name _⟩, ?_⟩
  rintro n ⟨⟩ -
  exact contains_single name _

/-- The stack of a template is reported **without errors and warnings**. -/
theorem validate_stack (hname : name ≠ "") (hcount : 0 < count) :
    (k.stack name count).validate = .ok .empty := by
  refine Document.validate_eq_ok_iff.mpr ?_
  rw [Document.allFindings, k.structureFindings_stack hname hcount, k.referenceFindings_stack]
  exact ⟨rfl, rfl⟩

/-- The stack of a template is compiled to **one group** with its name and its count. -/
theorem compile_stack (hname : name ≠ "") (hcount : 0 < count) :
    ∃ g, (k.stack name count).compile = .ok [g] ∧ g.name = name ∧ g.count = .int count := by
  have hsound := Document.exists_validate_isValid_iff_isSound.mp
    ⟨_, k.validate_stack hname hcount, rfl⟩
  obtain ⟨gs, hgs, hyields⟩ := hsound.exists_compile
  change List.Forall₂ _ [_] gs at hyields
  obtain ⟨g, _, hg, hnil, rfl⟩ := List.forall₂_cons_left_iff.mp hyields
  obtain rfl := List.forall₂_nil_left_iff.mp hnil
  exact ⟨g, hgs, hg.name, hg.count⟩

end TemplateKind

end StackManifest
