import StakingGateway.Proofs.Execution.Metering
import StakingGateway.Proofs.Execution.Simulation
import StakingGateway.Proofs.Store.Stacks

/-!
# Nested Transactions

A nested transaction takes the one way or the other as a whole. It runs over a layer of its own,
and what is in the layer counts if it succeeds and does not if it fails. Gas is another matter:
the nested transaction consumes it from the ledger of the program around it, and nothing is given
back.

Both are read off the accesses of a run. The ledger after a run is the ledger before it with each
access charged to it (`Transition.ledger_run`). What a run makes of its store are its writes, one
after the other, if no transaction was nested in it (`Transition.store_run`), and no transaction
nests in a nested one, so merging its layer is making its writes where the layer lay
(`LayeredStore.merge_writeAll`). The program around it goes on from there, and how it goes on does
not depend on what the nested transaction did beyond that
(`Transition.nested_transaction_atomic`).

## Main definitions

* `Access.write?`, `Access.writes`: the writes among accesses.
* `LayeredStore.writeAll`: the layers after writes.
* `GasLedger.consumeAccess`, `GasLedger.consumeAll`: the ledger after accesses.
* `Seen`: what was looked at in a run, in nested transactions too.

## Main statements

* `Transition.ledger_run`, `Transition.store_run`: what a run makes of its ledger and store.
* `Transition.depth_le_of_seen`: no program finds itself nested deeper than transactions may nest.
* `Transition.nested_transaction_atomic`: what a nested transaction leaves behind.
-/

namespace StakingGateway

/-! ### Writes -/

namespace Access

/-- The change that the access makes, if it makes one. -/
def write? : Access → Option (Bytes × Option Bytes)
  | .set key value => some (key, some value)
  | .delete key => some (key, none)
  | _ => none

/-- The changes that the accesses make, in order. -/
def writes (accesses : List Access) : List (Bytes × Option Bytes) :=
  accesses.filterMap write?

end Access

namespace LayeredStore

/-- The layers after the writes, one after the other. -/
def writeAll (layers : LayeredStore) (writes : List (Bytes × Option Bytes)) : LayeredStore :=
  writes.foldl (fun layers write => layers.write write.1 write.2) layers

/-- Merging a layer after writes in it is merging it before, and then making the writes in what
lay below. -/
theorem merge_writeAll (below : LayeredStore) (changes : ChangeSet)
    (writes : List (Bytes × Option Bytes)) :
    ((layer below changes).writeAll writes).merge =
      (layer below changes).merge.writeAll writes := by
  induction writes generalizing changes with
  | nil => rfl
  | cons write writes ih =>
      refine (ih (changes.insert write.1 write.2)).trans ?_
      have hinsert := below.apply_insert changes write.1 write.2
      exact congrArg (fun layers => writeAll layers writes) hinsert

end LayeredStore

/-! ### Charges -/

namespace GasLedger

/-- The ledger after the access. -/
def consumeAccess (schedule : GasSchedule) (ledger : GasLedger) : Access → GasLedger
  | .get key found => ledger.consumeRead schedule key found
  | .has _ => ledger.consume schedule.hasCost
  | .set key value => ledger.consumeWrite schedule key value
  | .delete _ => ledger.consume schedule.deleteCost
  | .scan _ found => ledger.consumeScan schedule found

/-- The ledger after the accesses, one after the other. -/
def consumeAll (schedule : GasSchedule) (ledger : GasLedger) (accesses : List Access) : GasLedger :=
  accesses.foldl (consumeAccess schedule) ledger

end GasLedger

namespace Transition

variable {α β : Type}

/-! ### What a run leaves behind -/

/-- **What a run consumes** are the charges for its accesses, those of nested transactions among
them, whether they succeeded or not. -/
theorem ledger_run (setting : Setting) (program : Transition α) (depth : Nat)
    (layers : LayeredStore) (ledger : GasLedger) :
    (program.run setting depth layers ledger).ledger =
      ledger.consumeAll setting.schedule (program.accesses setting depth layers ledger) := by
  induction program generalizing depth layers ledger with
  | done result => rfl
  | fail error => rfl
  | get key next ih => exact ih _ depth layers _
  | has key next ih => exact ih _ depth layers _
  | set key value next ih => exact ih depth _ _
  | delete key next ih => exact ih depth _ _
  | scan start next ih => exact ih _ depth layers _
  | inspect next ih => exact ih _ depth layers ledger
  | inner body next ihbody ihnext =>
      rw [run, accesses]
      split
      · rw [GasLedger.consumeAll, List.foldl_append]
        refine (ihnext _ depth _ _).trans ?_
        rw [ihbody (depth + 1) layers.push ledger]
        rfl
      · exact ihnext _ depth layers ledger

/-- **What a run makes of its store** are its writes, if it is nested as deep as transactions may
nest, so that no transaction is nested in it. -/
theorem store_run (setting : Setting) (program : Transition α) {depth : Nat}
    (hdepth : maxInnerDepth ≤ depth) (layers : LayeredStore) (ledger : GasLedger) :
    (program.run setting depth layers ledger).store =
      layers.writeAll (Access.writes (program.accesses setting depth layers ledger)) := by
  induction program generalizing depth layers ledger with
  | done result => rfl
  | fail error => rfl
  | get key next ih => exact ih _ hdepth layers _
  | has key next ih => exact ih _ hdepth layers _
  | set key value next ih => exact ih hdepth _ _
  | delete key next ih => exact ih hdepth _ _
  | scan start next ih => exact ih _ hdepth layers _
  | inspect next ih => exact ih _ hdepth layers ledger
  | inner body next _ ihnext =>
      rw [run, accesses, if_neg (not_lt.mpr hdepth), if_neg (not_lt.mpr hdepth)]
      exact ihnext _ hdepth layers ledger

/-! ### Depths -/

end Transition

/-- The surroundings were looked at in a run with the log, in the program itself or in a transaction
nested in it. -/
inductive Seen (surroundings : Surroundings) : List Observation → Prop
  /-- They were looked at first. -/
  | first {consumed : UInt64} {log : List Observation} :
      Seen surroundings (⟨.surroundings surroundings, consumed⟩ :: log)
  /-- They were looked at in the nested transaction that came first. -/
  | nested {body log : List Observation} {failure : Option ModuleError} {consumed : UInt64}
      (h : Seen surroundings body) : Seen surroundings (⟨.nested body failure, consumed⟩ :: log)
  /-- They were looked at later. -/
  | later {observation : Observation} {log : List Observation} (h : Seen surroundings log) :
      Seen surroundings (observation :: log)

namespace Transition

variable {α β : Type}

/-- **No program finds itself nested deeper** than transactions may nest, whatever it does when it
is told that it tried. -/
theorem depth_le_of_seen {setting : Setting} {program : Transition α} {depth : Nat}
    {layers : LayeredStore} {ledger : GasLedger} {surroundings : Surroundings}
    (hdepth : depth ≤ maxInnerDepth)
    (h : Seen surroundings (program.run setting depth layers ledger).log) :
    surroundings.depth ≤ maxInnerDepth := by
  induction program generalizing depth layers ledger with
  | done result => cases h
  | fail error => cases h
  | get key next ih =>
      cases h with
      | later h => exact ih _ hdepth h
  | has key next ih =>
      cases h with
      | later h => exact ih _ hdepth h
  | set key value next ih =>
      cases h with
      | later h => exact ih hdepth h
  | delete key next ih =>
      cases h with
      | later h => exact ih hdepth h
  | scan start next ih =>
      cases h with
      | later h => exact ih _ hdepth h
  | inspect next ih =>
      cases h with
      | first => exact hdepth
      | later h => exact ih _ hdepth h
  | inner body next ihbody ihnext =>
      rw [run] at h
      split at h
      · next hlt =>
          cases h with
          | nested h => exact ihbody hlt h
          | later h => exact ihnext _ hdepth h
      · cases h with
        | nested h => cases h
        | later h => exact ihnext _ hdepth h

/-! ### Atomicity -/

/-- When a nested transaction is over, the layers below it are those that it found with its writes
made in them, or just those that it found. -/
theorem settled_run (setting : Setting) (body : Transition β) {depth : Nat}
    (hdepth : maxInnerDepth ≤ depth) (layers : LayeredStore) (ledger : GasLedger) :
    let nested := body.run setting depth layers.push ledger
    nested.settled =
      match nested.result with
      | .ok _ => layers.writeAll (Access.writes (body.accesses setting depth layers.push ledger))
      | .error _ => layers := by
  intro nested
  have hstore := store_run setting body hdepth layers.push ledger
  have hbelow : nested.store.below? = some layers :=
    below?_run setting body depth layers.push ledger
  rw [Outcome.settled]
  cases nested.result with
  | ok result =>
      show nested.store.merge = _
      rw [hstore]
      exact LayeredStore.merge_writeAll layers ∅ _
  | error error => exact LayeredStore.drop_eq hbelow

/-- **Nested transactions are atomic, and what they consume is not given back.** Let a program nest
a transaction. At the outermost level the program goes on with what the transaction returned. If
that is an error, the program goes on over the very store that the transaction found, and otherwise
over that store with the writes of the transaction made in it directly; the ledger has taken up
the charges for all accesses of the transaction either way, which is their exact cost as long as
the ledger can show it. The transaction itself runs as it would directly over the store. At any
other level the program goes on with an error, over the same store and with the same ledger,
whatever the transaction would have done. So nothing in a run ever finds itself nested more than
once. -/
theorem nested_transaction_atomic (setting : Setting) (body : Transition β)
    (next : Except ModuleError β → Transition α) (layers : LayeredStore) (ledger : GasLedger) :
    let nested := body.run setting 1 layers.push ledger
    let accesses := body.accesses setting 1 layers.push ledger
    let consumed := ledger.consumeAll setting.schedule accesses
    let after :=
      match nested.result with
      | .ok _ => layers.writeAll (Access.writes accesses)
      | .error _ => layers
    let tooDeep : ModuleError := ⟨"staking-precompile", 1, "inner transaction depth exceeds 1"⟩
    (inner body next).run setting 0 layers ledger =
      ((next nested.result).run setting 0 after consumed).observing
        ⟨.nested nested.log nested.failure?, consumed.consumed⟩ ∧
    nested.Agrees (body.run setting 1 layers ledger) ∧
    consumed.consumed.toNat =
      min (ledger.consumed.toNat + setting.schedule.totalCost accesses) maxGas ∧
    (∀ depth, (inner body next).run setting (depth + 1) layers ledger =
      ((next (.error tooDeep)).run setting (depth + 1) layers ledger).observing
        ⟨.nested [] (some tooDeep), ledger.consumed⟩) ∧
    ∀ (program : Transition α) surroundings,
      Seen surroundings (program.run setting 0 layers ledger).log → surroundings.depth ≤ 1 := by
  intro nested accesses consumed after tooDeep
  have hledger : nested.ledger = consumed := ledger_run setting body 1 layers.push ledger
  have hsettled : nested.settled = after := settled_run setting body (le_refl _) layers ledger
  have hdepth : ModuleError.innerDepth maxInnerDepth = tooDeep := by decide +kernel
  refine ⟨?_, ?_, ?_, ?_, ?_⟩
  · rw [← hledger, ← hsettled]
    rfl
  · exact run_agrees setting body 1 layers.contents_push ledger
  · rw [← hledger]
    exact consumed_run setting body 1 layers.push ledger
  · intro depth
    have hdeep : ¬ depth + 1 < maxInnerDepth := by
      rw [maxInnerDepth]
      omega
    rw [run, if_neg hdeep, hdepth]
  · intro program surroundings hseen
    exact depth_le_of_seen (Nat.zero_le _) hseen

end Transition

end StakingGateway
