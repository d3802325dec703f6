import Mathlib.Algebra.Ring.Nat
import StakingGateway.Execution.Transition

/-!
# What a Run Costs

A ledger adds up costs and stays at the largest amount once it is there, at every step: flat
costs and costs by the octet are added apart, products saturate as sums do, and a scan is charged
entry by entry. None of that matters in the end. After a run the ledger shows the exact sum of the
costs of all accesses of the run, or the largest amount if the sum is beyond it
(`Transition.consumed_run`). The sum is over all accesses: those of nested transactions count,
also where the nested transaction failed and its writes were undone.

## Main definitions

* `Access`: an access to the store, with what it found.
* `GasSchedule.cost`: the exact cost of an access.
* `Transition.accesses`: the accesses of a run, in order.

## Main statements

* `GasLedger.consumed_consumeOctets`: the two additions for an access make one.
* `Transition.consumed_run`: what a ledger shows after a run.
-/

namespace StakingGateway

/-! ### Amounts -/

/-- The largest amount of gas. -/
def maxGas : Nat := UInt64.size - 1

/-- No amount is beyond the largest one. -/
theorem toNat_le_maxGas (amount : UInt64) : amount.toNat ≤ maxGas :=
  Nat.le_of_lt_succ amount.toNat_lt

/-- A number beyond the largest amount becomes that amount. -/
theorem toNat_saturated (n : Nat) : (saturated n).toNat = min n maxGas :=
  UInt64.toNat_ofNat_of_lt (Nat.lt_of_le_of_lt (Nat.min_le_right _ _) (by decide))

namespace GasLedger

/-- An amount is added, or the ledger is at the largest amount. -/
theorem consumed_consume (ledger : GasLedger) (amount : UInt64) :
    (ledger.consume amount).consumed.toNat =
      min (ledger.consumed.toNat + amount.toNat) maxGas :=
  toNat_saturated _

/-- A flat amount and an amount for each octet are added, or the ledger is at the largest amount.
It does not matter at which of the two additions, or in the product, that amount was reached. -/
theorem consumed_consumeOctets (ledger : GasLedger) (flat perByte : UInt64) (octets : Nat) :
    (ledger.consumeOctets flat perByte octets).consumed.toNat =
      min (ledger.consumed.toNat + (flat.toNat + perByte.toNat * octets)) maxGas := by
  rw [consumeOctets, consumed_consume, consumed_consume, saturatingMul, toNat_saturated]
  omega

end GasLedger

/-! ### Accesses -/

/-- An access to the store, with what it found. -/
inductive Access where
  /-- The key was read, and this was its value. -/
  | get (key : Bytes) (found : Option Bytes)
  /-- It was asked whether the key has a value. -/
  | has (key : Bytes)
  /-- The value was put under the key. -/
  | set (key value : Bytes)
  /-- The key was deleted. -/
  | delete (key : Bytes)
  /-- All keys with the start were read, and these were their entries. -/
  | scan (start : Bytes) (found : List (Bytes × Bytes))
deriving DecidableEq

namespace GasSchedule

variable (schedule : GasSchedule)

/-- The exact cost of going on to an entry of a scan. -/
def entryCost (entry : Bytes × Bytes) : Nat :=
  schedule.iterNextCostFlat.toNat +
    schedule.readCostPerByte.toNat * (entry.1.length + entry.2.length)

/-- The exact cost of an access. -/
def cost : Access → Nat
  | .get key found =>
    schedule.readCostFlat.toNat +
      schedule.readCostPerByte.toNat * (key.length + (found.getD []).length)
  | .has _ => schedule.hasCost.toNat
  | .set key value =>
    schedule.writeCostFlat.toNat +
      schedule.writeCostPerByte.toNat * (key.length + value.length)
  | .delete _ => schedule.deleteCost.toNat
  | .scan _ found => (found.map schedule.entryCost).sum

/-- The exact cost of all the accesses. -/
def totalCost (accesses : List Access) : Nat :=
  (accesses.map schedule.cost).sum

@[simp] theorem totalCost_nil : schedule.totalCost [] = 0 := rfl

@[simp] theorem totalCost_cons (access : Access) (accesses : List Access) :
    schedule.totalCost (access :: accesses) =
      schedule.cost access + schedule.totalCost accesses := by
  rw [totalCost, List.map_cons, List.sum_cons, totalCost]

@[simp] theorem totalCost_append (accesses others : List Access) :
    schedule.totalCost (accesses ++ others) =
      schedule.totalCost accesses + schedule.totalCost others := by
  rw [totalCost, List.map_append, List.sum_append, totalCost, totalCost]

end GasSchedule

/-- A scan is charged for all its entries, or the ledger is at the largest amount. -/
theorem GasLedger.consumed_consumeScan (ledger : GasLedger) (schedule : GasSchedule)
    (entries : List (Bytes × Bytes)) :
    (ledger.consumeScan schedule entries).consumed.toNat =
      min (ledger.consumed.toNat + (entries.map schedule.entryCost).sum) maxGas := by
  rw [consumeScan]
  induction entries generalizing ledger with
  | nil =>
      have := toNat_le_maxGas ledger.consumed
      rw [List.foldl_nil, List.map_nil, List.sum_nil]
      omega
  | cons entry entries ih =>
      rw [List.foldl_cons, ih, consumed_consumeOctets, List.map_cons, List.sum_cons,
        GasSchedule.entryCost]
      omega

namespace Transition

/-- The accesses of the run of a program, in order, those of nested transactions among them. -/
def accesses (setting : Setting) {α : Type} : Transition α → (depth : Nat) → LayeredStore →
    GasLedger → List Access
  | done _, _, _, _ => []
  | fail _, _, _, _ => []
  | get key next, depth, store, ledger =>
    let found := store.get key
    .get key found :: (next found).accesses setting depth store
      (ledger.consumeRead setting.schedule key found)
  | has key next, depth, store, ledger =>
    .has key :: (next (store.has key)).accesses setting depth store
      (ledger.consume setting.schedule.hasCost)
  | set key value next, depth, store, ledger =>
    .set key value :: next.accesses setting depth (store.set key value)
      (ledger.consumeWrite setting.schedule key value)
  | delete key next, depth, store, ledger =>
    .delete key :: next.accesses setting depth (store.delete key)
      (ledger.consume setting.schedule.deleteCost)
  | scan start next, depth, store, ledger =>
    let found := (store.scan start).entries
    .scan start found :: (next found).accesses setting depth store
      (ledger.consumeScan setting.schedule found)
  | inspect next, depth, store, ledger =>
    (next ⟨depth, setting.block, ledger.consumed⟩).accesses setting depth store ledger
  | inner body next, depth, store, ledger =>
    if depth < maxInnerDepth then
      let nested := body.run setting (depth + 1) store.push ledger
      body.accesses setting (depth + 1) store.push ledger ++
        (next nested.result).accesses setting depth nested.settled nested.ledger
    else
      (next (.error (.innerDepth maxInnerDepth))).accesses setting depth store ledger

/-- **Saturating along the way is saturating in the end.** After a run the ledger shows what it
showed before and the exact costs of all accesses of the run, or the largest amount if that is
beyond it. -/
theorem consumed_run (setting : Setting) {α : Type} (program : Transition α) (depth : Nat)
    (store : LayeredStore) (ledger : GasLedger) :
    (program.run setting depth store ledger).ledger.consumed.toNat =
      min (ledger.consumed.toNat +
        setting.schedule.totalCost (program.accesses setting depth store ledger)) maxGas := by
  induction program generalizing depth store ledger with
  | done | fail =>
      rw [run, accesses, GasSchedule.totalCost_nil, Nat.add_zero]
      exact (Nat.min_eq_left (toNat_le_maxGas ledger.consumed)).symm
  | get key next ih =>
      have hconsumed := ledger.consumed_consumeOctets setting.schedule.readCostFlat
        setting.schedule.readCostPerByte (key.length + ((store.get key).getD []).length)
      rw [run, accesses, GasSchedule.totalCost_cons, GasSchedule.cost]
      refine (ih _ depth store _).trans ?_
      rw [GasLedger.consumeRead, hconsumed]
      omega
  | has key next ih =>
      have hconsumed := ledger.consumed_consume setting.schedule.hasCost
      rw [run, accesses, GasSchedule.totalCost_cons, GasSchedule.cost]
      refine (ih _ depth store _).trans ?_
      rw [hconsumed]
      omega
  | set key value next ih =>
      have hconsumed := ledger.consumed_consumeOctets setting.schedule.writeCostFlat
        setting.schedule.writeCostPerByte (key.length + value.length)
      rw [run, accesses, GasSchedule.totalCost_cons, GasSchedule.cost]
      refine (ih depth _ _).trans ?_
      rw [GasLedger.consumeWrite, hconsumed]
      omega
  | delete key next ih =>
      have hconsumed := ledger.consumed_consume setting.schedule.deleteCost
      rw [run, accesses, GasSchedule.totalCost_cons, GasSchedule.cost]
      refine (ih depth _ _).trans ?_
      rw [hconsumed]
      omega
  | scan start next ih =>
      have hconsumed := ledger.consumed_consumeScan setting.schedule (store.scan start).entries
      rw [run, accesses, GasSchedule.totalCost_cons, GasSchedule.cost]
      refine (ih _ depth store _).trans ?_
      rw [hconsumed]
      omega
  | inspect next ih => exact ih _ depth store ledger
  | inner body next ihbody ihnext =>
      rw [run, accesses]
      split
      · -- What the nested transaction consumed is not given back, however it ended.
        have hbody := ihbody (depth + 1) store.push ledger
        rw [GasSchedule.totalCost_append]
        refine (ihnext _ depth _ _).trans ?_
        rw [hbody]
        omega
      · exact ihnext _ depth store ledger

end Transition

end StakingGateway
