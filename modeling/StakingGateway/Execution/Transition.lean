import StakingGateway.Gas
import StakingGateway.Staking.Block
import StakingGateway.Store.LayeredStore

/-!
# Transitions

A state transition of the staking module is a program that reads and writes a store it cannot
see otherwise: it asks for an access, gets the answer, and goes on as the answer tells. It can
nest a transaction, whose writes count only if it succeeds, and it is told how the nested
transaction ended and may go on either way.

A program runs over a store with layers and a ledger. Running it gives, beside the result and
what has become of the store and the ledger, the log of its accesses: each answer that the
program got and the gas consumed when it got it. What a program does is determined by the
answers it gets, so two runs with equal logs took the same course.

Transactions nest one deep. A program that nests deeper is told so as if the nested
transaction had failed, and nothing is charged.

## Main definitions

* `Transition`: programs, with `pure`, `bind` and an operation for each access.
* `Observation`: an answer and the gas consumed by then.
* `Transition.run`: the run of a program.
-/

namespace StakingGateway

/-- What a program sees of its surroundings. -/
@[ext] structure Surroundings where
  /-- How many transactions it is nested in. -/
  depth : Nat
  /-- The block. -/
  block : Block
  /-- The gas consumed so far. -/
  consumed : UInt64
deriving DecidableEq

/-- A program that uses the store and ends with a result or an error. -/
inductive Transition : Type → Type 1 where
  /-- Ends with a result. -/
  | done {α : Type} (result : α) : Transition α
  /-- Ends with an error. -/
  | fail {α : Type} (error : ModuleError) : Transition α
  /-- Reads a key. -/
  | get {α : Type} (key : Bytes) (next : Option Bytes → Transition α) : Transition α
  /-- Asks whether a key has a value. -/
  | has {α : Type} (key : Bytes) (next : Bool → Transition α) : Transition α
  /-- Puts a value under a key. -/
  | set {α : Type} (key value : Bytes) (next : Transition α) : Transition α
  /-- Deletes a key. -/
  | delete {α : Type} (key : Bytes) (next : Transition α) : Transition α
  /-- Reads all keys that start with a string, in order. -/
  | scan {α : Type} (start : Bytes) (next : List (Bytes × Bytes) → Transition α) : Transition α
  /-- Looks at the surroundings. -/
  | inspect {α : Type} (next : Surroundings → Transition α) : Transition α
  /-- Runs a program as a nested transaction. -/
  | inner {α β : Type} (body : Transition β) (next : Except ModuleError β → Transition α) :
      Transition α

namespace Transition

/-- The program that goes on with what the first one results in. -/
def bind {α β : Type} : Transition α → (α → Transition β) → Transition β
  | done result, f => f result
  | fail error, _ => fail error
  | get key next, f => get key fun found => (next found).bind f
  | has key next, f => has key fun found => (next found).bind f
  | set key value next, f => set key value (next.bind f)
  | delete key next, f => delete key (next.bind f)
  | scan start next, f => scan start fun entries => (next entries).bind f
  | inspect next, f => inspect fun surroundings => (next surroundings).bind f
  | inner body next, f => inner body fun result => (next result).bind f

instance : Monad Transition where
  pure := done
  bind := bind

/-- The result if there is one, and otherwise the error. -/
def ofExcept {α : Type} : Except ModuleError α → Transition α
  | .ok result => done result
  | .error error => fail error

/-! ### Operations -/

/-- The value under a key. -/
def read (key : Bytes) : Transition (Option Bytes) := get key done

/-- Puts a value under a key. -/
def put (key value : Bytes) : Transition Unit := set key value (done ())

/-- Deletes a key. -/
def remove (key : Bytes) : Transition Unit := delete key (done ())

/-- The block that the program runs in. -/
def block : Transition Block := inspect fun surroundings => done surroundings.block

/-- The result of a program that runs as a nested transaction; its error ends the outer
program too. -/
def nested {α : Type} (body : Transition α) : Transition α := inner body ofExcept

end Transition

/-! ### Runs -/

mutual

/-- An answer to an access. -/
inductive Answer where
  /-- The value read. -/
  | value (found : Option Bytes)
  /-- Whether there is a value. -/
  | presence (found : Bool)
  /-- Something was written or deleted. -/
  | done
  /-- The entries of a scan. -/
  | entries (found : List (Bytes × Bytes))
  /-- What there was to see. -/
  | surroundings (seen : Surroundings)
  /-- What a nested transaction observed, and the error it ended with if it failed. -/
  | nested (log : List Observation) (failure : Option ModuleError)

/-- An answer and the gas consumed when it was given. -/
structure Observation where
  /-- The answer. -/
  answer : Answer
  /-- The gas consumed in total. -/
  consumed : UInt64

end

/-- What a program runs in. -/
structure Setting where
  /-- The block. -/
  block : Block
  /-- The costs of accesses. -/
  schedule : GasSchedule

/-- How a run ended. -/
structure Outcome (α : Type) where
  /-- The result or the error. -/
  result : Except ModuleError α
  /-- The store and its layers. -/
  store : LayeredStore
  /-- The ledger. -/
  ledger : GasLedger
  /-- What the program observed, in order. -/
  log : List Observation

namespace Outcome

/-- The run that saw the observation first. -/
def observing {α : Type} (observation : Observation) (outcome : Outcome α) : Outcome α :=
  { outcome with log := observation :: outcome.log }

/-- The error that the run ended with, if it failed. -/
def failure? {α : Type} (outcome : Outcome α) : Option ModuleError :=
  match outcome.result with
  | .ok _ => none
  | .error error => some error

/-- The store when the run is over as a nested transaction: its layer is merged if it
succeeded and dropped if it failed. -/
def settled {α : Type} (outcome : Outcome α) : LayeredStore :=
  match outcome.result with
  | .ok _ => outcome.store.merge
  | .error _ => outcome.store.drop

end Outcome

/-- How deep transactions may nest in a transition. -/
def maxInnerDepth : Nat := 1

namespace Transition

/-- The run of a program that is nested in `depth` transactions. -/
def run (setting : Setting) {α : Type} : Transition α → (depth : Nat) → LayeredStore →
    GasLedger → Outcome α
  | done result, _, store, ledger => ⟨.ok result, store, ledger, []⟩
  | fail error, _, store, ledger => ⟨.error error, store, ledger, []⟩
  | get key next, depth, store, ledger =>
    let found := store.get key
    let ledger := ledger.consumeRead setting.schedule key found
    ((next found).run setting depth store ledger).observing ⟨.value found, ledger.consumed⟩
  | has key next, depth, store, ledger =>
    let found := store.has key
    let ledger := ledger.consume setting.schedule.hasCost
    ((next found).run setting depth store ledger).observing ⟨.presence found, ledger.consumed⟩
  | set key value next, depth, store, ledger =>
    let ledger := ledger.consumeWrite setting.schedule key value
    (next.run setting depth (store.set key value) ledger).observing ⟨.done, ledger.consumed⟩
  | delete key next, depth, store, ledger =>
    let ledger := ledger.consume setting.schedule.deleteCost
    (next.run setting depth (store.delete key) ledger).observing ⟨.done, ledger.consumed⟩
  | scan start next, depth, store, ledger =>
    let found := (store.scan start).entries
    let ledger := ledger.consumeScan setting.schedule found
    ((next found).run setting depth store ledger).observing ⟨.entries found, ledger.consumed⟩
  | inspect next, depth, store, ledger =>
    let seen : Surroundings := ⟨depth, setting.block, ledger.consumed⟩
    ((next seen).run setting depth store ledger).observing
      ⟨.surroundings seen, ledger.consumed⟩
  | inner body next, depth, store, ledger =>
    if depth < maxInnerDepth then
      let nested := body.run setting (depth + 1) store.push ledger
      ((next nested.result).run setting depth nested.settled nested.ledger).observing
        ⟨.nested nested.log nested.failure?, nested.ledger.consumed⟩
    else
      let error := ModuleError.innerDepth maxInnerDepth
      ((next (.error error)).run setting depth store ledger).observing
        ⟨.nested [] (some error), ledger.consumed⟩

end Transition

end StakingGateway
