import StackManifest.Manifest.Group
import StackManifest.Quantity.Price

/-!
# Estimating a deployment

The resources and the cost of all replicas of some groups together. Costs in different
denominations are kept apart.

* `GroupEstimate` – the totals of one group;
* `Estimate` – the totals of all groups;
* `Estimate.ofGroups` – the **estimate** of some groups.
-/

namespace StackManifest

open StackManifest.Number

/-- The **totals of one group**. -/
structure GroupEstimate where
  service : String
  placement : String
  count : Value
  cpu : ExtendedDecimal
  memory : Int
  storage : Int
  denom : String
  unitCost : Decimal
  totalCost : Decimal

/-- The **totals of all groups**, with the cost in each denomination in the order in which
they first occur. -/
structure Estimate where
  cpu : ExtendedDecimal
  memory : Int
  storage : Int
  cost : Table Decimal
  breakdown : List GroupEstimate

namespace Estimate

/-- The estimate of no groups. -/
def empty : Estimate := ⟨0, 0, 0, .empty, []⟩

/-- The fault when cores are multiplied by a value that is no whole number. -/
def countFault (v : Value) : Fault :=
  match v with
  | .text _ | .bytes _ | .tuple _ | .list .. => .badRepetition "decimal.Decimal"
  | v => .noProduct "decimal.Decimal" v.kind

/-- How many replicas of a group there are. -/
def replicas (g : Group) : Except Fault Int :=
  match g.count.count? with
  | some n => .ok n
  | none => .error (countFault g.count)

/-- The price amount of a replica of a group. -/
def unitCost (g : Group) : Except Fault Decimal := do
  match ← PriceAmount.ofValue g.price.amount with
  | some cost => return cost
  | none => throw (.badAmount g.price.amount.plain g.name)

/-- The totals with those of one more group: everything that one replica needs and costs, **times**
the number of replicas. -/
def add (e : Estimate) (g : Group) : Except Fault Estimate := do
  let unitCost ← unitCost g
  let n ← replicas g
  let count := Decimal.ofInt n
  let cpu ← (g.resources.cpu.mul count).mapError .decimal
  let memory := g.resources.memory * n
  let storage := g.totalStorage * n
  let denom := g.price.denom
  let cpuSum ← (e.cpu.add cpu).mapError .decimal
  let totalCost ← (unitCost.mul count).mapError .decimal
  let costSum ← (((e.cost.get? denom).getD 0).add totalCost).mapError .decimal
  return {
    cpu := cpuSum, memory := e.memory + memory, storage := e.storage + storage,
    cost := e.cost.put denom costSum,
    breakdown := e.breakdown ++ [{
      service := g.name, placement := g.placement, count := g.count, cpu, memory, storage, denom,
      unitCost, totalCost }] }

/-- The **estimate** of some groups. -/
def ofGroups (gs : List Group) : Except Fault Estimate := gs.foldlM add empty

end Estimate

end StackManifest
