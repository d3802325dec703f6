import StakingGateway.CallData.Codec
import StakingGateway.Reference.Module

/-!
# Call Data for the Reference Module

The call data of each method with coins of the denomination that the reference module bonds
where nothing else is said, and with amounts and heights of 64 bits.

## Main definitions

* `Reference.delegateData` and its companions: the call data of the methods.
-/

namespace StakingGateway.Reference

/-- Call data that bond the amount to the validator. -/
def delegateData (delegator : Address) (validator : String) (amount : UInt64) : Bytes :=
  CallData.ofArguments .delegate (delegator, validator, standardDenom, .ofUInt64 amount, ())

/-- Call data that begin to take the amount back from the validator. -/
def undelegateData (delegator : Address) (validator : String) (amount : UInt64) : Bytes :=
  CallData.ofArguments .undelegate (delegator, validator, standardDenom, .ofUInt64 amount, ())

/-- Call data that move the amount from the one validator to the other. -/
def redelegateData (delegator : Address) (source destination : String) (amount : UInt64) :
    Bytes :=
  CallData.ofArguments .redelegate
    (delegator, source, destination, standardDenom, .ofUInt64 amount, ())

/-- Call data that bond the amount again out of what was taken at the height. -/
def cancelUnbondingData (delegator : Address) (validator : String) (amount height : UInt64) :
    Bytes :=
  CallData.ofArguments .cancelUnbondingDelegation
    (delegator, validator, standardDenom, .ofUInt64 amount, .ofUInt64 height, ())

/-- Call data that ask what the account has bonded to the validator. -/
def delegationData (delegator : Address) (validator : String) : Bytes :=
  CallData.ofArguments .delegation (delegator, validator, ())

/-- Call data that ask what is on its way back from the validator to the account. -/
def unbondingDelegationData (delegator : Address) (validator : String) : Bytes :=
  CallData.ofArguments .unbondingDelegation (delegator, validator, ())

/-- Call data that ask for the record of the validator. -/
def validatorData (operator : String) : Bytes :=
  CallData.ofArguments .validator (operator, ())

end StakingGateway.Reference
