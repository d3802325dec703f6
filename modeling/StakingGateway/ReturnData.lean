import StakingGateway.Abi.Encoder
import StakingGateway.CallData.Fault
import StakingGateway.Interface.Method
import StakingGateway.Staking.Request

/-!
# Return Data

Answers as octets. Every method has one kind of answer; an answer of another kind has no
octets for it. Times are 64-bit numbers that travel in words, so on reading they are checked
to fit, and a status is checked to be known.

## Main definitions

* `ReturnData.encode`: the octets that a method returns for an answer.
* `ReturnData.decode`: the answer that a method's octets stand for.
-/

namespace StakingGateway.ReturnData

open Abi (Values)

/-! ### Answers as values of their schemas -/

/-- An entry on its way back, as a value of its schema. -/
def entryValues (entry : UnbondingEntry) : Values Method.unbondingEntryFields :=
  (entry.creationHeight, .ofUInt64 entry.completionTime, entry.initialBalance,
    entry.balance, ())

/-- The values that the method returns for the answer, if it is of the method's kind. -/
def values? : (method : Method) → Reply → Option (Values method.outputs)
  | .delegate, .void => some ()
  | .undelegate, .completionTime time => some (.ofUInt64 time, ())
  | .redelegate, .completionTime time => some (.ofUInt64 time, ())
  | .cancelUnbondingDelegation, .void => some ()
  | .delegation, .delegation found =>
    some (found.shares, found.balance.denom, found.balance.amount, ())
  | .unbondingDelegation, .unbondingDelegation found =>
    some ((found.delegator, found.validator, found.entries.map entryValues, ()), ())
  | .validator, .validator found =>
    some ((found.operator, found.moniker, found.jailed, found.status.toUInt8, found.tokens,
      found.delegatorShares, found.unbondingHeight, .ofUInt64 found.unbondingTime,
      found.commissionRate, found.minSelfDelegation, ()), ())
  | _, _ => none

/-! ### Values of schemas as answers -/

/-- A time that fits 64 bits. -/
def time (value : Uint256) : Except DecodeFault UInt64 :=
  match value.toUInt64? with
  | some time => .ok time
  | none => .error (.overflow 0 .uint64)

/-- The entry that the values make. -/
def ofEntryValues : Values Method.unbondingEntryFields → Except DecodeFault UnbondingEntry
  | (creationHeight, completionTime, initialBalance, balance, ()) => do
    return ⟨creationHeight, ← time completionTime, initialBalance, balance⟩

/-- The answer that the values make for the method. -/
def ofValues : (method : Method) → Values method.outputs → Except DecodeFault Reply
  | .delegate, _ => .ok .void
  | .undelegate, (value, ()) => return .completionTime (← time value)
  | .redelegate, (value, ()) => return .completionTime (← time value)
  | .cancelUnbondingDelegation, _ => .ok .void
  | .delegation, (shares, denom, amount, ()) => .ok (.delegation ⟨shares, denom, amount⟩)
  | .unbondingDelegation, ((delegator, validator, entries, ()), ()) => do
    let entries ← List.mapM ofEntryValues entries
    return .unbondingDelegation ⟨delegator, validator, entries⟩
  | .validator, ((operator, moniker, jailed, status, tokens, delegatorShares,
      unbondingHeight, unbondingTime, commissionRate, minSelfDelegation, ()), ()) =>
    match BondStatus.ofUInt8? status with
    | none => .error (.invalidValue 0 .bondStatus)
    | some status => do
      return .validator ⟨operator, moniker, jailed, status, tokens, delegatorShares,
        unbondingHeight, ← time unbondingTime, commissionRate, minSelfDelegation⟩

/-! ### Octets -/

/-- The octets that the method returns for the answer. -/
def encode (descriptor : Descriptor) (reply : Reply) : Except EncodeFault Bytes :=
  match values? descriptor.method reply with
  | some values => .ok (Abi.encodeValues descriptor.method.outputs values)
  | none => .error (.replyMismatch descriptor.name)

/-- The answer that the octets stand for. A method that returns nothing returns no octets. -/
def decode (descriptor : Descriptor) (data : Bytes) : Except DecodeFault Reply := do
  let outputs := descriptor.method.outputs
  if outputs.isEmpty ∧ data ≠ [] then throw (.lengthMismatch 0 data.length)
  let values ← (Abi.decodeValues outputs data).mapError .abi
  ofValues descriptor.method values

end StakingGateway.ReturnData
