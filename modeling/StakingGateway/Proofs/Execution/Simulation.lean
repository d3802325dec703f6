import StakingGateway.Execution.Transition
import StakingGateway.Proofs.Store.Layers

/-!
# Runs over the Same Contents

A transition cannot tell how many layers its store has. Two runs of a program over stores with
the same contents get the same answers at the same cost, take the same course, and leave stores
with the same contents (`Transition.run_agrees`), however the changes are spread over layers at
the start. Both the reads and the nested transactions make this more than an observation about
single keys: a scan mixes entries of all layers, and a nested transaction merges its layer into
one that lies over a store in one run and is that store in the other.

A nested transaction that fails is undone by taking its layer off. That this gives back the store
it began with needs what `Transition.below?_run` says: a run touches the uppermost layer only.

## Main definitions

* `Outcome.Agrees`: two runs that took the same course and left the same contents.

## Main statements

* `Transition.below?_run`: what lies below the uppermost layer stays as it is.
* `Outcome.contents_settled`: the contents after a nested transaction.
* `Transition.run_agrees`: runs over the same contents agree.
-/

namespace StakingGateway

/-! ### What a run leaves as it is -/

/-- When a nested transaction is over, its layer is gone, and the store lies over the same as
before. -/
theorem Outcome.below?_settled {β : Type} {outcome : Outcome β} {store : LayeredStore}
    (h : outcome.store.below? = some store) : outcome.settled.below? = store.below? := by
  rw [settled]
  cases outcome.result with
  | ok result =>
      change outcome.store.merge.below? = _
      rw [LayeredStore.merge, LayeredStore.below?_apply, LayeredStore.drop_eq h]
  | error error =>
      change outcome.store.drop.below? = _
      rw [LayeredStore.drop_eq h]

/-- A run touches the uppermost layer only. -/
theorem Transition.below?_run (setting : Setting) {α : Type} (program : Transition α)
    (depth : Nat) (store : LayeredStore) (ledger : GasLedger) :
    (program.run setting depth store ledger).store.below? = store.below? := by
  induction program generalizing depth store ledger with
  | done result => rfl
  | fail error => rfl
  | get key next ih => exact ih _ depth store _
  | has key next ih => exact ih _ depth store _
  | set key value next ih =>
      exact (ih depth _ _).trans (LayeredStore.below?_write store key (some value))
  | delete key next ih =>
      exact (ih depth _ _).trans (LayeredStore.below?_write store key none)
  | scan start next ih => exact ih _ depth store _
  | inspect next ih => exact ih _ depth store _
  | inner body next ihbody ihnext =>
      rw [run]
      split
      · have hbody := ihbody (depth + 1) store.push ledger
        exact (ihnext _ depth _ _).trans (Outcome.below?_settled hbody)
      · exact ihnext _ depth store _

namespace Outcome

/-- The contents after a nested transaction are those that it left if it succeeded, and those
that it began with if it failed. -/
theorem contents_settled {β : Type} {outcome : Outcome β} {store : LayeredStore}
    (h : outcome.store.below? = some store) :
    outcome.settled.contents =
      if outcome.failure? = none then outcome.store.contents else store.contents := by
  rw [settled, failure?]
  cases outcome.result with
  | ok result => exact LayeredStore.contents_merge outcome.store
  | error error => exact congrArg LayeredStore.contents (LayeredStore.drop_eq h)

/-! ### Agreement -/

/-- The two runs saw the same at the same cost, ended in the same way, and left the same
contents. -/
structure Agrees {α : Type} (one other : Outcome α) : Prop where
  /-- They ended in the same way. -/
  result : one.result = other.result
  /-- They consumed the same gas. -/
  ledger : one.ledger = other.ledger
  /-- They got the same answers, each at the same cost. -/
  log : one.log = other.log
  /-- They left the same contents. -/
  contents : one.store.contents = other.store.contents

/-- Runs that see the same first and agree from then on agree. -/
theorem Agrees.observing {α : Type} {one other : Outcome α} (h : one.Agrees other)
    (observation : Observation) :
    (one.observing observation).Agrees (other.observing observation) where
  result := h.result
  ledger := h.ledger
  log := congrArg (observation :: ·) h.log
  contents := h.contents

/-- Runs that agree fail with the same error, if they fail. -/
theorem Agrees.failure? {α : Type} {one other : Outcome α} (h : one.Agrees other) :
    one.failure? = other.failure? := by
  rw [Outcome.failure?, h.result, Outcome.failure?]

/-- Nested transactions that agree leave the same contents if they began with the same. -/
theorem Agrees.contents_settled {β : Type} {one other : Outcome β} (h : one.Agrees other)
    {store store' : LayeredStore} (hone : one.store.below? = some store)
    (hother : other.store.below? = some store') (hstore : store.contents = store'.contents) :
    one.settled.contents = other.settled.contents := by
  rw [Outcome.contents_settled hone, Outcome.contents_settled hother, h.failure?, h.contents,
    hstore]

end Outcome

/-- **Layers cannot be seen.** Runs of a program over stores with the same contents agree. -/
theorem Transition.run_agrees (setting : Setting) {α : Type} (program : Transition α)
    (depth : Nat) {store store' : LayeredStore} (h : store.contents = store'.contents)
    (ledger : GasLedger) :
    (program.run setting depth store ledger).Agrees
      (program.run setting depth store' ledger) := by
  induction program generalizing depth store store' ledger with
  | done result => exact ⟨rfl, rfl, rfl, h⟩
  | fail error => exact ⟨rfl, rfl, rfl, h⟩
  | get key next ih =>
      have hfound : store.get key = store'.get key := by
        rw [LayeredStore.get_eq, h, LayeredStore.get_eq]
      rw [run, run, hfound]
      exact (ih _ depth h _).observing _
  | has key next ih =>
      have hfound : store.has key = store'.has key := by
        rw [LayeredStore.has_eq, h, LayeredStore.has_eq]
      rw [run, run, hfound]
      exact (ih _ depth h _).observing _
  | set key value next ih =>
      have hset : (store.set key value).contents = (store'.set key value).contents := by
        rw [LayeredStore.set, LayeredStore.contents_write, h, LayeredStore.set,
          LayeredStore.contents_write]
      exact (ih depth hset _).observing _
  | delete key next ih =>
      have hdelete : (store.delete key).contents = (store'.delete key).contents := by
        rw [LayeredStore.delete, LayeredStore.contents_write, h, LayeredStore.delete,
          LayeredStore.contents_write]
      exact (ih depth hdelete _).observing _
  | scan start next ih =>
      have hfound : store.scan start = store'.scan start := by
        rw [LayeredStore.scan_eq, h, LayeredStore.scan_eq]
      rw [run, run, hfound]
      exact (ih _ depth h _).observing _
  | inspect next ih => exact (ih _ depth h _).observing _
  | inner body next ihbody ihnext =>
      rw [run, run]
      split
      · -- The bodies run over fresh layers, which leave the contents as they are.
        have hpush : store.push.contents = store'.push.contents := h
        have hbody := ihbody (depth + 1) hpush ledger
        have hsettled := hbody.contents_settled (below?_run setting body (depth + 1) _ ledger)
          (below?_run setting body (depth + 1) _ ledger) h
        dsimp only
        rw [hbody.result, hbody.ledger, hbody.log, hbody.failure?]
        exact (ihnext _ depth hsettled _).observing _
      · exact (ihnext _ depth h _).observing _

end StakingGateway
