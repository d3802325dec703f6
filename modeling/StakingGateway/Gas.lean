import StakingGateway.Failure

/-!
# Gas

The staking module's use of the store is metered: a schedule gives the cost of each access in
gas, and a ledger adds the costs up. When the module has succeeded, what the ledger holds is
charged to the account of gas that the caller has left; a charge that the account cannot pay
changes nothing.

All amounts are 64-bit numbers, and no sum or product of them wraps: what would exceed the
largest amount stays at it. An access costs a flat amount and, where octets are read or written,
an amount for each of them, and the ledger takes up the one after the other.

## Main definitions

* `GasSchedule`: the cost of each access to the store.
* `GasLedger`: the gas that accesses have cost so far.
* `GasAccount`: the gas that a caller has left; `GasAccount.charge` deducts from it.
-/

namespace StakingGateway

/-- The cost of each access to the store. -/
structure GasSchedule where
  /-- Asking whether a key has a value. -/
  hasCost : UInt64
  /-- Deleting a key. -/
  deleteCost : UInt64
  /-- Reading a key, whatever its length. -/
  readCostFlat : UInt64
  /-- Reading, for each octet of key and value. -/
  readCostPerByte : UInt64
  /-- Writing a key, whatever its length. -/
  writeCostFlat : UInt64
  /-- Writing, for each octet of key and value. -/
  writeCostPerByte : UInt64
  /-- Going on to an entry of a scan, whatever its length. -/
  iterNextCostFlat : UInt64
deriving DecidableEq

/-- The costs where nothing else is configured. -/
def GasSchedule.default : GasSchedule where
  hasCost := 1000
  deleteCost := 1000
  readCostFlat := 1000
  readCostPerByte := 3
  writeCostFlat := 2000
  writeCostPerByte := 30
  iterNextCostFlat := 30

instance : Inhabited GasSchedule := ⟨.default⟩

/-! ### Saturating amounts -/

/-- The number, or the largest amount of gas if it is beyond it. -/
def saturated (n : Nat) : UInt64 :=
  .ofNat (min n (UInt64.size - 1))

/-- The sum of the amounts, or the largest amount. -/
def saturatingAdd (a b : UInt64) : UInt64 :=
  saturated (a.toNat + b.toNat)

/-- So many times the amount, or the largest amount. -/
def saturatingMul (amount : UInt64) (times : Nat) : UInt64 :=
  saturated (amount.toNat * times)

/-! ### Ledgers -/

/-- The gas that the accesses of one call have cost so far. -/
@[ext] structure GasLedger where
  /-- The total. -/
  consumed : UInt64
deriving DecidableEq

namespace GasLedger

/-- The ledger before the first access. -/
def empty : GasLedger := ⟨0⟩

/-- The ledger with the amount added. -/
def consume (ledger : GasLedger) (amount : UInt64) : GasLedger :=
  ⟨saturatingAdd ledger.consumed amount⟩

/-- The ledger with a flat amount added, and then an amount for each of the octets. -/
def consumeOctets (ledger : GasLedger) (flat perByte : UInt64) (octets : Nat) : GasLedger :=
  (ledger.consume flat).consume (saturatingMul perByte octets)

/-- The ledger after the key was read with the value found there. -/
def consumeRead (ledger : GasLedger) (schedule : GasSchedule) (key : Bytes)
    (found : Option Bytes) : GasLedger :=
  ledger.consumeOctets schedule.readCostFlat schedule.readCostPerByte
    (key.length + (found.getD []).length)

/-- The ledger after the value was written under the key. -/
def consumeWrite (ledger : GasLedger) (schedule : GasSchedule) (key value : Bytes) :
    GasLedger :=
  ledger.consumeOctets schedule.writeCostFlat schedule.writeCostPerByte
    (key.length + value.length)

/-- The ledger after a scan went on to one entry after the other. -/
def consumeScan (ledger : GasLedger) (schedule : GasSchedule)
    (entries : List (Bytes × Bytes)) : GasLedger :=
  entries.foldl (fun ledger entry =>
    ledger.consumeOctets schedule.iterNextCostFlat schedule.readCostPerByte
      (entry.1.length + entry.2.length)) ledger

/-- What was consumed after the ledger stood at the baseline. -/
def since (ledger : GasLedger) (baseline : UInt64) : UInt64 :=
  .ofNat (ledger.consumed.toNat - baseline.toNat)

/-- A ledger was empty at the start of a call. -/
theorem since_empty (ledger : GasLedger) : ledger.since empty.consumed = ledger.consumed :=
  UInt64.ofNat_toNat

end GasLedger

/-! ### Accounts -/

/-- The gas that the caller of a call has left. -/
@[ext] structure GasAccount where
  /-- What the caller started with. -/
  limit : UInt64
  /-- What is left. -/
  remaining : UInt64
  /-- No more is left than there was. -/
  remaining_le : remaining.toNat ≤ limit.toNat
deriving DecidableEq

namespace GasAccount

/-- The account of a caller that has not spent anything. -/
def full (limit : UInt64) : GasAccount := ⟨limit, limit, Nat.le_refl _⟩

/-- What the caller has spent. -/
def spent (account : GasAccount) : UInt64 := account.limit - account.remaining

/-- Deducts the amount, if so much is left. -/
def charge (account : GasAccount) (amount : UInt64) : Except Failure GasAccount :=
  if h : amount.toNat ≤ account.remaining.toNat then
    .ok ⟨account.limit, account.remaining - amount, by
      have := account.remaining_le
      rw [UInt64.toNat_sub_of_le _ _ (UInt64.le_iff_toNat_le.2 h)]
      omega⟩
  else .error (.outOfGas amount account.remaining)

end GasAccount

end StakingGateway
