import StakingGateway.Json.Codec
import StakingGateway.Staking.Block
import StakingGateway.Staking.Record

/-!
# Stored Records

The records that the reference module keeps, and their written form. A status is written as
its name; on reading, an object stands for it too that has the name as its only member, with
no value.

## Main definitions

* `Holding`: the shares that an account holds of a validator.
* `Redelegation`: tokens that an account moved between two validators.
* instances of `Json.Codec` for these, for validators and for what is on its way back.
-/

namespace StakingGateway

namespace Reference

/-- The shares that an account holds of a validator. -/
@[ext] structure Holding where
  /-- The number of shares. -/
  shares : Uint256
deriving DecidableEq

/-- Tokens that an account moved from one validator to another. -/
@[ext] structure Redelegation where
  /-- The height at which they were moved. -/
  creationHeight : Int64
  /-- The Unix time at which the move is over. -/
  completionTime : UInt64
  /-- The tokens moved. -/
  initialBalance : Uint256
  /-- The shares issued for them. -/
  destinationShares : Uint256
deriving DecidableEq

end Reference

open Json (Codec toJson fields? required?)
open Reference (Holding Redelegation)

instance : Codec BondStatus where
  toJson status := .text status.name
  ofJson?
    | .string (some name) => BondStatus.ofName? name
    | .object [(some name, .null)] => BondStatus.ofName? name
    | _ => none

instance : Codec Validator where
  toJson v := .record [("operator_address", toJson v.operator), ("moniker", toJson v.moniker),
    ("jailed", toJson v.jailed), ("status", toJson v.status), ("tokens", toJson v.tokens),
    ("delegator_shares", toJson v.delegatorShares),
    ("unbonding_height", toJson v.unbondingHeight),
    ("unbonding_time", toJson v.unbondingTime),
    ("commission_rate", toJson v.commissionRate),
    ("min_self_delegation", toJson v.minSelfDelegation)]
  ofJson? json := do
    match ← fields? ["operator_address", "moniker", "jailed", "status", "tokens",
        "delegator_shares", "unbonding_height", "unbonding_time", "commission_rate",
        "min_self_delegation"] json with
    | [operator, moniker, jailed, status, tokens, delegatorShares, unbondingHeight,
        unbondingTime, commissionRate, minSelfDelegation] =>
      return ⟨← required? operator, ← required? moniker, ← required? jailed,
        ← required? status, ← required? tokens, ← required? delegatorShares,
        ← required? unbondingHeight, ← required? unbondingTime, ← required? commissionRate,
        ← required? minSelfDelegation⟩
    | _ => none

instance : Codec UnbondingEntry where
  toJson entry := .record [("creation_height", toJson entry.creationHeight),
    ("completion_time", toJson entry.completionTime),
    ("initial_balance", toJson entry.initialBalance), ("balance", toJson entry.balance)]
  ofJson? json := do
    match ← fields? ["creation_height", "completion_time", "initial_balance",
        "balance"] json with
    | [creationHeight, completionTime, initialBalance, balance] =>
      return ⟨← required? creationHeight, ← required? completionTime,
        ← required? initialBalance, ← required? balance⟩
    | _ => none

instance : Codec UnbondingDelegation where
  shape := .record [("delegator", Codec.shape Address), ("validator", .any),
    ("entries", .any)]
  toJson unbonding := .record [("delegator", toJson unbonding.delegator),
    ("validator", toJson unbonding.validator), ("entries", toJson unbonding.entries)]
  ofJson? json := do
    match ← fields? ["delegator", "validator", "entries"] json with
    | [delegator, validator, entries] =>
      return ⟨← required? delegator, ← required? validator, ← required? entries⟩
    | _ => none

instance : Codec Holding where
  toJson holding := .record [("shares", toJson holding.shares)]
  ofJson? json := do
    match ← fields? ["shares"] json with
    | [shares] => return ⟨← required? shares⟩
    | _ => none

instance : Codec Redelegation where
  toJson entry := .record [("creation_height", toJson entry.creationHeight),
    ("completion_time", toJson entry.completionTime),
    ("initial_balance", toJson entry.initialBalance),
    ("shares_dst", toJson entry.destinationShares)]
  ofJson? json := do
    match ← fields? ["creation_height", "completion_time", "initial_balance",
        "shares_dst"] json with
    | [creationHeight, completionTime, initialBalance, destinationShares] =>
      return ⟨← required? creationHeight, ← required? completionTime,
        ← required? initialBalance, ← required? destinationShares⟩
    | _ => none

instance : Codec Block where
  toJson block := .record [("height", toJson block.height), ("time", toJson block.time)]
  ofJson? json := do
    match ← fields? ["height", "time"] json with
    | [height, time] => return ⟨← required? height, ← required? time⟩
    | _ => none

end StakingGateway
