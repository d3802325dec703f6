import StakingGateway.Abi.Schema
import StakingGateway.Interface.Selector

/-!
# Methods

The seven methods that contracts call: four change the state on behalf of their caller, three
ask about it. Each has one descriptor, which says all there is to know about how it is
called.

## Main definitions

* `Method`: the methods.
* `Descriptor`: how a method is called; `Descriptor.signature` is its signature.
* `Method.descriptor`: the descriptor of each method.
-/

namespace StakingGateway

open Abi (Field)

/-- The methods of the gateway. -/
inductive Method where
  /-- Bond tokens to a validator. -/
  | delegate
  /-- Begin to take tokens back from a validator. -/
  | undelegate
  /-- Move bonded tokens from one validator to another. -/
  | redelegate
  /-- Bond tokens again that are on their way back. -/
  | cancelUnbondingDelegation
  /-- Ask what an account has bonded to a validator. -/
  | delegation
  /-- Ask what is on its way back from a validator to an account. -/
  | unbondingDelegation
  /-- Ask for the record of a validator. -/
  | validator
deriving DecidableEq

/-- Who may call a method. -/
inductive Authorization where
  /-- Anybody. -/
  | anyone
  /-- The account that the call names as delegator. -/
  | delegatorOnly
deriving DecidableEq

/-- How a method is called. -/
structure Descriptor where
  /-- The method. -/
  method : Method
  /-- The octets that call data for it start with. -/
  selector : Selector
  /-- The name in its signature. -/
  name : String
  /-- What it takes. -/
  inputs : List Field
  /-- What it returns. -/
  outputs : List Field
  /-- Whether it asks for a change of state. -/
  isMutating : Bool
  /-- Who may call it. -/
  authorization : Authorization

/-- The signature: the name, and the canonical names of what the method takes. -/
def Descriptor.signature (descriptor : Descriptor) : String :=
  descriptor.name ++ "(" ++ Abi.canonicalList descriptor.inputs ++ ")"

namespace Method

/-- All methods, in the order in which they are listed. -/
def all : List Method :=
  [delegate, undelegate, redelegate, cancelUnbondingDelegation, delegation,
    unbondingDelegation, validator]

/-- The name of the method. -/
def name : Method → String
  | delegate => "delegate"
  | undelegate => "undelegate"
  | redelegate => "redelegate"
  | cancelUnbondingDelegation => "cancelUnbondingDelegation"
  | delegation => "delegation"
  | unbondingDelegation => "unbondingDelegation"
  | validator => "validator"

/-- The method with the name. -/
def ofName? (name : String) : Option Method :=
  all.find? fun method => method.name == name

/-- The octets that call data for the method start with. -/
def selector : Method → Selector
  | delegate => ⟨[0xbf, 0x84, 0xc8, 0x80], rfl⟩
  | undelegate => ⟨[0x78, 0x3e, 0xe3, 0x4d], rfl⟩
  | redelegate => ⟨[0xeb, 0x87, 0x00, 0xcd], rfl⟩
  | cancelUnbondingDelegation => ⟨[0x60, 0xc8, 0x44, 0x92], rfl⟩
  | delegation => ⟨[0x24, 0x17, 0x74, 0xe6], rfl⟩
  | unbondingDelegation => ⟨[0xa0, 0x3f, 0xfe, 0xe1], rfl⟩
  | validator => ⟨[0x0b, 0xc8, 0x2a, 0x17], rfl⟩

/-! ### Schemas -/

/-- What `delegate` and `undelegate` take. -/
@[reducible] def stakeInputs : List Field :=
  [⟨"delegatorAddress", .address⟩, ⟨"validatorAddress", .string⟩, ⟨"denom", .string⟩,
    ⟨"amount", .uint256⟩]

/-- What `redelegate` takes. -/
@[reducible] def redelegateInputs : List Field :=
  [⟨"delegatorAddress", .address⟩, ⟨"validatorSrcAddress", .string⟩,
    ⟨"validatorDstAddress", .string⟩, ⟨"denom", .string⟩, ⟨"amount", .uint256⟩]

/-- What `cancelUnbondingDelegation` takes. -/
@[reducible] def cancelUnbondingInputs : List Field :=
  [⟨"delegatorAddress", .address⟩, ⟨"validatorAddress", .string⟩, ⟨"denom", .string⟩,
    ⟨"amount", .uint256⟩, ⟨"creationHeight", .uint256⟩]

/-- What `delegation` and `unbondingDelegation` take. -/
@[reducible] def delegationInputs : List Field :=
  [⟨"delegatorAddress", .address⟩, ⟨"validatorAddress", .string⟩]

/-- What `validator` takes. -/
@[reducible] def validatorInputs : List Field :=
  [⟨"validatorAddress", .string⟩]

/-- What `undelegate` and `redelegate` return. -/
@[reducible] def completionTimeOutputs : List Field :=
  [⟨"completionTime", .uint256⟩]

/-- What `delegation` returns. -/
@[reducible] def delegationOutputs : List Field :=
  [⟨"shares", .uint256⟩, ⟨"denom", .string⟩, ⟨"amount", .uint256⟩]

/-- The fields of one entry of what `unbondingDelegation` returns. -/
@[reducible] def unbondingEntryFields : List Field :=
  [⟨"creationHeight", .int64⟩, ⟨"completionTime", .uint256⟩, ⟨"initialBalance", .uint256⟩,
    ⟨"balance", .uint256⟩]

/-- The fields of what `unbondingDelegation` returns. -/
@[reducible] def unbondingDelegationFields : List Field :=
  [⟨"delegatorAddress", .address⟩, ⟨"validatorAddress", .string⟩,
    ⟨"entries", .array (.tuple unbondingEntryFields)⟩]

/-- What `unbondingDelegation` returns. -/
@[reducible] def unbondingDelegationOutputs : List Field :=
  [⟨"unbondingDelegation", .tuple unbondingDelegationFields⟩]

/-- The fields of what `validator` returns. -/
@[reducible] def validatorFields : List Field :=
  [⟨"operatorAddress", .string⟩, ⟨"moniker", .string⟩, ⟨"jailed", .bool⟩, ⟨"status", .uint8⟩,
    ⟨"tokens", .uint256⟩, ⟨"delegatorShares", .uint256⟩, ⟨"unbondingHeight", .int64⟩,
    ⟨"unbondingTime", .uint256⟩, ⟨"commissionRate", .uint256⟩,
    ⟨"minSelfDelegation", .uint256⟩]

/-- What `validator` returns. -/
@[reducible] def validatorOutputs : List Field :=
  [⟨"validator", .tuple validatorFields⟩]

/-- What the method takes. -/
@[reducible] def inputs : Method → List Field
  | delegate => stakeInputs
  | undelegate => stakeInputs
  | redelegate => redelegateInputs
  | cancelUnbondingDelegation => cancelUnbondingInputs
  | delegation => delegationInputs
  | unbondingDelegation => delegationInputs
  | validator => validatorInputs

/-- What the method returns. -/
@[reducible] def outputs : Method → List Field
  | delegate => []
  | undelegate => completionTimeOutputs
  | redelegate => completionTimeOutputs
  | cancelUnbondingDelegation => []
  | delegation => delegationOutputs
  | unbondingDelegation => unbondingDelegationOutputs
  | validator => validatorOutputs

/-- Whether the method asks for a change of state. -/
def isMutating : Method → Bool
  | delegate => true
  | undelegate => true
  | redelegate => true
  | cancelUnbondingDelegation => true
  | delegation => false
  | unbondingDelegation => false
  | validator => false

/-- The descriptor of the method. Who asks for a change of state does so for itself; anybody
may ask a question. -/
def descriptor (method : Method) : Descriptor where
  method := method
  selector := method.selector
  name := method.name
  inputs := method.inputs
  outputs := method.outputs
  isMutating := method.isMutating
  authorization := if method.isMutating then .delegatorOnly else .anyone

end Method

end StakingGateway
