import StakingGateway.Staking.Coin
import StakingGateway.Address

/-!
# Staking Records

What the staking module knows about validators and about the stakes of accounts, as far as
callers see it. Shares and rates are fixed-point numbers with 18 decimals.

## Main definitions

* `BondStatus`, `Validator`: validators.
* `Delegation`: what an account has bonded to a validator.
* `UnbondingEntry`, `UnbondingDelegation`: what is on its way back to an account.
-/

namespace StakingGateway

/-- The number of decimals of shares and rates. -/
def shareDecimals : Nat := 18

/-- One share in fixed point. -/
def shareUnit : Uint256 := 1000000000000000000

/-- How far a validator takes part in the active set. -/
inductive BondStatus where
  /-- Not known. -/
  | unspecified
  /-- Outside the active set. -/
  | unbonded
  /-- On its way out of the active set. -/
  | unbonding
  /-- In the active set. -/
  | bonded
deriving DecidableEq

namespace BondStatus

/-- All statuses, in the order of their numbers. -/
def all : List BondStatus :=
  [unspecified, unbonded, unbonding, bonded]

/-- The number that stands for the status. -/
def toUInt8 : BondStatus → UInt8
  | unspecified => 0
  | unbonded => 1
  | unbonding => 2
  | bonded => 3

/-- The status that a number stands for. -/
def ofUInt8? (n : UInt8) : Option BondStatus :=
  all[n.toNat]?

/-- The name of the status. -/
def name : BondStatus → String
  | unspecified => "Unspecified"
  | unbonded => "Unbonded"
  | unbonding => "Unbonding"
  | bonded => "Bonded"

/-- The status with the name. -/
def ofName? (name : String) : Option BondStatus :=
  all.find? fun status => status.name == name

@[simp] theorem ofUInt8?_toUInt8 (status : BondStatus) :
    ofUInt8? status.toUInt8 = some status := by
  cases status <;> rfl

end BondStatus

/-- A validator. -/
@[ext] structure Validator where
  /-- The address of the operator. -/
  operator : String
  /-- The name that is shown. -/
  moniker : String
  /-- Whether the validator is jailed. -/
  jailed : Bool
  /-- Its part in the active set. -/
  status : BondStatus
  /-- The tokens bonded to it. -/
  tokens : Uint256
  /-- The shares issued to delegators. -/
  delegatorShares : Uint256
  /-- The height at which it began to unbond. -/
  unbondingHeight : Int64
  /-- The Unix time at which it has unbonded. -/
  unbondingTime : UInt64
  /-- The commission rate. -/
  commissionRate : Uint256
  /-- The least stake of the operator. -/
  minSelfDelegation : Uint256
deriving DecidableEq

/-- What an account has bonded to a validator. -/
@[ext] structure Delegation where
  /-- The shares that the account holds. -/
  shares : Uint256
  /-- The tokens that the shares are worth. -/
  balance : Coin
deriving DecidableEq

/-- Tokens that an account took from a validator and that have not been paid out yet. -/
@[ext] structure UnbondingEntry where
  /-- The height at which the tokens were taken. -/
  creationHeight : Int64
  /-- The Unix time at which they are paid out. -/
  completionTime : UInt64
  /-- The tokens taken. -/
  initialBalance : Uint256
  /-- The tokens still to be paid out. -/
  balance : Uint256
deriving DecidableEq

/-- Everything that an account took from one validator and that has not been paid out. -/
@[ext] structure UnbondingDelegation where
  /-- The account. -/
  delegator : Address
  /-- The operator of the validator. -/
  validator : String
  /-- The entries, oldest first. -/
  entries : List UnbondingEntry
deriving DecidableEq

end StakingGateway
