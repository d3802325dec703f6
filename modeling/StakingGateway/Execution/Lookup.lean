import StakingGateway.Execution.Transition

/-!
# Lookups

A query of the staking module is a program that reads a store and writes nothing. It reads the
store itself, not layers over it, and is not metered.

## Main definitions

* `Lookup`: programs, with `pure`, `bind` and an operation for each access.
* `Lookup.run`: the result of a program over a store, and the answers that it got.
-/

namespace StakingGateway

/-- A program that reads the store and ends with a result or an error. -/
inductive Lookup (α : Type) : Type where
  /-- Ends with a result. -/
  | done (result : α)
  /-- Ends with an error. -/
  | fail (error : QueryError)
  /-- Reads a key. -/
  | get (key : Bytes) (next : Option Bytes → Lookup α)
  /-- Asks whether a key has a value. -/
  | has (key : Bytes) (next : Bool → Lookup α)
  /-- Reads all keys that start with a string, in order. -/
  | scan (start : Bytes) (next : List (Bytes × Bytes) → Lookup α)
  /-- Looks at the block. -/
  | inspect (next : Block → Lookup α)

/-- An answer to an access of a lookup. -/
inductive Reading where
  /-- The value read. -/
  | value (found : Option Bytes)
  /-- Whether there is a value. -/
  | presence (found : Bool)
  /-- The entries of a scan. -/
  | entries (found : List (Bytes × Bytes))
  /-- The block. -/
  | block (seen : Block)
deriving DecidableEq

namespace Lookup

/-- The program that goes on with what the first one results in. -/
def bind {α β : Type} : Lookup α → (α → Lookup β) → Lookup β
  | done result, f => f result
  | fail error, _ => fail error
  | get key next, f => get key fun found => (next found).bind f
  | has key next, f => has key fun found => (next found).bind f
  | scan start next, f => scan start fun entries => (next entries).bind f
  | inspect next, f => inspect fun seen => (next seen).bind f

instance : Monad Lookup where
  pure := done
  bind := bind

/-- The value under a key. -/
def read (key : Bytes) : Lookup (Option Bytes) := get key done

/-- The result of the program over the store, and the answers that it got on the way. -/
def run (block : Block) (store : Store) {α : Type} :
    Lookup α → Except QueryError α × List Reading
  | done result => (.ok result, [])
  | fail error => (.error error, [])
  | get key next =>
    let found := store.get? key
    let (result, log) := (next found).run block store
    (result, .value found :: log)
  | has key next =>
    let found := (store.get? key).isSome
    let (result, log) := (next found).run block store
    (result, .presence found :: log)
  | scan start next =>
    let found := (store.restrict start).entries
    let (result, log) := (next found).run block store
    (result, .entries found :: log)
  | inspect next =>
    let (result, log) := (next block).run block store
    (result, .block block :: log)

end Lookup

end StakingGateway
