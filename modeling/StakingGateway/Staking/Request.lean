import StakingGateway.Staking.Record
import StakingGateway.Text.Blank
import StakingGateway.Text.Numeral
import StakingGateway.Text.Quoted

/-!
# Requests to the Staking Module

A request is a message that asks for a change of state, or a query. What the module answers
depends on the request: `Message.Answer` and `Query.Answer` give the type of the answer, so
an answer of the wrong kind cannot be written down. `Reply` gathers all kinds of answers.

A message can be malformed in ways that show without any state; `Message.check` finds the
first of them.

## Main definitions

* `Message`, `Query`, `Request`: what the module is asked.
* `Message.Answer`, `Query.Answer`, `Reply`: what it answers.
* `Message.check`: the stateless check of a message, with the faults in `MessageFault`.
-/

namespace StakingGateway

/-! ### Requests -/

/-- A change of state asked for on behalf of an account, its delegator. -/
inductive Message where
  /-- Bond tokens to a validator. -/
  | delegate (delegator : Address) (validator : String) (amount : Coin)
  /-- Begin to take tokens back from a validator. -/
  | undelegate (delegator : Address) (validator : String) (amount : Coin)
  /-- Move bonded tokens from one validator to another. -/
  | redelegate (delegator : Address) (source destination : String) (amount : Coin)
  /-- Bond tokens again that are on their way back, out of those taken at a height. -/
  | cancelUnbonding (delegator : Address) (validator : String) (amount : Coin)
      (creationHeight : Int64)
deriving DecidableEq

/-- A question about the state. -/
inductive Query where
  /-- What an account has bonded to a validator. -/
  | delegation (delegator : Address) (validator : String)
  /-- What is on its way back from a validator to an account. -/
  | unbondingDelegation (delegator : Address) (validator : String)
  /-- The record of a validator. -/
  | validator (operator : String)
deriving DecidableEq

/-- What a call asks of the staking module. -/
inductive Request where
  /-- A change of state. -/
  | transaction (message : Message)
  /-- A question. -/
  | query (query : Query)
deriving DecidableEq

/-- The account on whose behalf the message acts. -/
def Message.delegator : Message → Address
  | .delegate delegator .. => delegator
  | .undelegate delegator .. => delegator
  | .redelegate delegator .. => delegator
  | .cancelUnbonding delegator .. => delegator

/-- The account that the query asks about, if it is about one. -/
def Query.delegator? : Query → Option Address
  | .delegation delegator _ => some delegator
  | .unbondingDelegation delegator _ => some delegator
  | .validator _ => none

/-- The account that the request names as delegator, if it names one. -/
def Request.delegator? : Request → Option Address
  | .transaction message => some message.delegator
  | .query asked => asked.delegator?

/-! ### Answers -/

/-- What the staking module answers to a message: the time at which a stake is free, where
the message sets one. -/
@[reducible] def Message.Answer : Message → Type
  | .delegate .. => Unit
  | .undelegate .. => UInt64
  | .redelegate .. => UInt64
  | .cancelUnbonding .. => Unit

/-- What the staking module answers to a query. -/
@[reducible] def Query.Answer : Query → Type
  | .delegation .. => Delegation
  | .unbondingDelegation .. => UnbondingDelegation
  | .validator .. => Validator

/-- An answer of any kind. -/
inductive Reply where
  /-- Nothing but success. -/
  | void
  /-- The Unix time at which a stake is free. -/
  | completionTime (time : UInt64)
  /-- A delegation. -/
  | delegation (delegation : Delegation)
  /-- What is on its way back. -/
  | unbondingDelegation (unbonding : UnbondingDelegation)
  /-- A validator. -/
  | validator (validator : Validator)
deriving DecidableEq

/-- The answer to a message among the answers of all kinds. -/
def Message.reply : (message : Message) → message.Answer → Reply
  | .delegate .., _ => .void
  | .undelegate .., time => .completionTime time
  | .redelegate .., time => .completionTime time
  | .cancelUnbonding .., _ => .void

/-- The answer to a query among the answers of all kinds. -/
def Query.reply : (query : Query) → query.Answer → Reply
  | .delegation .., found => .delegation found
  | .unbondingDelegation .., found => .unbondingDelegation found
  | .validator .., found => .validator found

/-! ### The stateless check -/

/-- What a validator is to a message. -/
inductive ValidatorRole where
  /-- The only validator of the message. -/
  | only
  /-- The validator that tokens leave. -/
  | source
  /-- The validator that tokens go to. -/
  | destination
deriving DecidableEq

/-- Why a message is malformed. -/
inductive MessageFault where
  /-- The delegator is the address that names no account. -/
  | emptyDelegator
  /-- The name of a validator is blank. -/
  | emptyValidator (role : ValidatorRole)
  /-- No denomination is called so. -/
  | invalidDenom (denom : String)
  /-- The amount is zero. -/
  | nonPositiveAmount
  /-- The height is not positive. -/
  | nonPositiveCreationHeight (height : Int64)
  /-- Tokens are to move from a validator to itself. -/
  | selfRedelegation
deriving DecidableEq

/-- The words for the validator. -/
def ValidatorRole.description : ValidatorRole → String
  | only => "validator"
  | source => "source validator"
  | destination => "destination validator"

/-- The wording of the fault. -/
def MessageFault.message : MessageFault → String
  | emptyDelegator => "empty delegator address"
  | emptyValidator role => "empty " ++ role.description ++ " address"
  | invalidDenom denom => "invalid denom: " ++ Text.quoted denom
  | nonPositiveAmount => "invalid delegation amount"
  | nonPositiveCreationHeight height =>
    "invalid creation height: " ++ Text.decimal height.toInt
  | selfRedelegation => "cannot redelegate to the same validator"

/-- Fails with the fault where the condition holds. -/
def MessageFault.throwIf (condition : Prop) [Decidable condition] (fault : MessageFault) :
    Except MessageFault Unit :=
  if condition then .error fault else .ok ()

open MessageFault (throwIf)

/-- Checks that the text names a denomination. -/
def checkDenom (denom : String) : Except MessageFault Unit :=
  throwIf (¬ IsDenom denom) (.invalidDenom denom)

/-- Checks the denomination and the amount of a coin. -/
def Coin.check (coin : Coin) : Except MessageFault Unit := do
  checkDenom coin.denom
  throwIf (coin.amount = 0) .nonPositiveAmount

/-- Checks that the delegator is an account. -/
def checkDelegator (delegator : Address) : Except MessageFault Unit :=
  throwIf (delegator = .zero) .emptyDelegator

/-- Checks that the name of a validator is not blank. -/
def checkValidator (role : ValidatorRole) (validator : String) : Except MessageFault Unit :=
  throwIf (Text.IsBlank validator) (.emptyValidator role)

/-- Checks a message without looking at any state. -/
def Message.check : Message → Except MessageFault Unit
  | .delegate delegator validator amount => do
    checkDelegator delegator
    checkValidator .only validator
    amount.check
  | .undelegate delegator validator amount => do
    checkDelegator delegator
    checkValidator .only validator
    amount.check
  | .redelegate delegator source destination amount => do
    checkDelegator delegator
    checkValidator .source source
    checkValidator .destination destination
    throwIf (source = destination) .selfRedelegation
    amount.check
  | .cancelUnbonding delegator validator amount creationHeight => do
    checkDelegator delegator
    checkValidator .only validator
    amount.check
    throwIf (creationHeight ≤ 0) (.nonPositiveCreationHeight creationHeight)

end StakingGateway
