import StakingGateway.Failure

/-!
# Errors of the Reference Module

Why the reference module turns a message down, by cause. Errors about stakes and errors about
balances have name spaces of their own; state that does not read back is reported in the name
space of the gateway.

## Main definitions

* `Reference.Fault`: the causes.
* `Reference.Fault.toModuleError`: the error that callers see.
-/

namespace StakingGateway.Reference

/-- Why a message is turned down. -/
inductive Fault where
  /-- There is no such validator. -/
  | noValidator (operator : String)
  /-- The coin is not of the denomination that is bonded. -/
  | wrongDenom (given expected : String)
  /-- A number does not fit. -/
  | overflow
  /-- The account has bonded nothing to the validator. -/
  | noDelegation (delegator : Address) (validator : String)
  /-- Nothing is on its way back. -/
  | noUnbonding
  /-- The account has fewer shares than the tokens are worth. -/
  | insufficientShares
  /-- Tokens are to move from a validator to itself. -/
  | selfRedelegation
  /-- Nothing that is on its way back was taken at the height. -/
  | noUnbondingEntry (height : Int64)
  /-- What was taken has been paid out. -/
  | entryMatured
  /-- Less is on its way back than the amount. -/
  | amountExceedsEntry
  /-- The account can spend less than the amount. -/
  | insufficientFunds (balance amount : Uint256) (denom : String)
  /-- The octets under a key are no record of their kind. -/
  | malformedRecord
  /-- The octets of a balance are a number beyond 256 bits. -/
  | wideBalance
deriving DecidableEq

namespace Fault

/-- The name space of errors about stakes. -/
def stakingCodespace : String := "staking"

/-- The name space of errors about balances. -/
def bankCodespace : String := "sdk"

/-- What is said of octets that are no record of their kind. -/
def malformedReason : String := "what is stored is no record of its kind"

/-- The wording of the causes. -/
def description : Fault → String
  | noValidator operator => "validator " ++ operator ++ " does not exist"
  | wrongDenom given expected =>
    "invalid coin denomination: got " ++ given ++ ", expected " ++ expected
  | overflow => "arithmetic overflow"
  | noDelegation delegator validator =>
    "no delegation for (" ++ delegator.checksummed ++ ", " ++ validator ++ ") tuple"
  | noUnbonding => "no unbonding delegation found"
  | insufficientShares => "invalid shares amount"
  | selfRedelegation => "cannot redelegate to the same validator"
  | noUnbondingEntry height =>
    "unbonding delegation entry is not found at block height " ++ Text.decimal height.toInt
  | entryMatured => "unbonding delegation is already processed"
  | amountExceedsEntry => "amount is greater than the unbonding delegation entry balance"
  | insufficientFunds balance amount denom =>
    "spendable balance " ++ Text.decimal balance.toNat ++ denom ++ " is smaller than " ++
      Text.decimal amount.toNat ++ denom
  | malformedRecord => malformedReason
  | wideBalance => "balance is wider than 256 bits"

/-- The error that callers see. -/
def toModuleError (fault : Fault) : ModuleError :=
  match fault with
  | noValidator _ => ⟨stakingCodespace, 3, fault.description⟩
  | wrongDenom _ _ => ⟨stakingCodespace, 4, fault.description⟩
  | overflow => ⟨stakingCodespace, 9, fault.description⟩
  | noDelegation _ _ => ⟨stakingCodespace, 19, fault.description⟩
  | noUnbonding => ⟨stakingCodespace, 20, fault.description⟩
  | insufficientShares => ⟨stakingCodespace, 22, fault.description⟩
  | selfRedelegation => ⟨stakingCodespace, 28, fault.description⟩
  | noUnbondingEntry _ => ⟨stakingCodespace, 35, fault.description⟩
  | entryMatured => ⟨stakingCodespace, 36, fault.description⟩
  | amountExceedsEntry => ⟨stakingCodespace, 37, fault.description⟩
  | insufficientFunds _ _ _ => ⟨bankCodespace, 5, fault.description⟩
  | malformedRecord => .corrupted fault.description
  | wideBalance => .corrupted fault.description

end Fault

end StakingGateway.Reference
