import StakingGateway.Execution.Executor
import StakingGateway.Reference.Fault
import StakingGateway.Reference.Key
import StakingGateway.Reference.Record
import StakingGateway.Reference.Shares

/-!
# The Reference Module

A staking module that keeps balances, validators and stakes as records in the store. Bonding
takes tokens from the balance of the delegator and issues shares for them; unbonding burns
shares and puts the tokens they are worth on their way back, which takes a fixed time; moving
tokens to another validator burns and issues without touching the balance; and what is on its
way back can be bonded again.

All of it goes through metered accesses in a fixed order, so the gas of a call is that of the
records it reads and writes.

## Main definitions

* `Reference.Parameters`: the denomination that is bonded and the time of unbonding.
* `Reference.bond`, `Reference.unbond`: the two exchanges of tokens and shares.
* `Reference.stakingModule`: the module.
-/

namespace StakingGateway.Reference

/-- What the module is run with. -/
@[ext] structure Parameters where
  /-- The denomination that is bonded. -/
  bondDenom : String
  /-- The seconds that tokens are on their way back. -/
  unbondingTime : UInt64
deriving DecidableEq

/-- The denomination that is bonded where nothing else is said. -/
def standardDenom : String := "stake"

/-- The parameters where nothing else is said: unbonding takes 21 days. -/
def Parameters.standard : Parameters := ⟨standardDenom, 21 * 24 * 60 * 60⟩

/-! ### Records -/

/-- Ends the transition for the reason given. -/
def refuse {α : Type} (fault : Fault) : Transition α :=
  .fail fault.toModuleError

/-- The value if there is one; otherwise the transition ends for the reason given. -/
def orRefuse {α : Type} (fault : Fault) : Option α → Transition α
  | some a => .done a
  | none => refuse fault

/-- Ends the transition for the reason given unless the condition holds. -/
def require (condition : Prop) [Decidable condition] (fault : Fault) : Transition Unit :=
  if condition then .done () else refuse fault

/-- The record under a key, if there is one. -/
def load {α : Type} [Json.Codec α] (key : Bytes) : Transition (Option α) := do
  match ← Transition.read key with
  | none => return none
  | some octets => return some (← orRefuse .malformedRecord (Json.decode? octets))

/-- Keeps a record under a key. -/
def save {α : Type} [Json.Codec α] (key : Bytes) (record : α) : Transition Unit :=
  Transition.put key (Json.encode record)

/-- The validator with the operator. -/
def loadValidator (operator : String) : Transition Validator := do
  orRefuse (.noValidator operator) (← load (Key.validator operator))

/-- Keeps a validator under its own operator. -/
def saveValidator (validator : Validator) : Transition Unit :=
  save (Key.validator validator.operator) validator

/-- Keeps what an account holds of a validator; nothing is not kept. -/
def saveHolding (delegator : Address) (validator : String) (holding : Holding) :
    Transition Unit :=
  if holding.shares = 0 then Transition.remove (Key.delegation delegator validator)
  else save (Key.delegation delegator validator) holding

/-! ### Exchanges -/

/-- Issues shares of the validator to the delegator for the tokens, and gives their number. -/
def bond (delegator : Address) (validator : Validator) (tokens : Uint256) :
    Transition Uint256 := do
  let shares ← orRefuse .overflow (validator.sharesFor? tokens)
  let bonded ← orRefuse .overflow (validator.bond? tokens shares)
  saveValidator bonded
  let key := Key.delegation delegator validator.operator
  let holding : Holding := (← load key).getD ⟨0⟩
  let held ← orRefuse .overflow (holding.shares.add? shares)
  save key (⟨held⟩ : Holding)
  return shares

/-- Burns the delegator's shares that are worth the tokens, and gives the tokens that they
release. -/
def unbond (delegator : Address) (validator : Validator) (tokens : Uint256) :
    Transition Uint256 := do
  let holding : Holding ← orRefuse (.noDelegation delegator validator.operator)
    (← load (Key.delegation delegator validator.operator))
  let shares ← orRefuse .overflow (validator.sharesFor? tokens)
  require (shares ≤ holding.shares) .insufficientShares
  let released ← orRefuse .overflow (validator.tokensFor? shares)
  let left ← orRefuse .overflow (holding.shares.sub? shares)
  saveHolding delegator validator.operator ⟨left⟩
  let unbonded ← orRefuse .overflow (validator.unbond? released shares)
  saveValidator unbonded
  return released

/-- Takes the amount from the balance of the account. -/
def debit (parameters : Parameters) (account : Address) (amount : Uint256) :
    Transition Unit := do
  let balance ← match ← Transition.read (Key.balance account) with
    | some octets => orRefuse .wideBalance (Uint256.ofBytes? octets)
    | none => pure 0
  let left ← orRefuse (.insufficientFunds balance amount parameters.bondDenom)
    (balance.sub? amount)
  Transition.put (Key.balance account) left.toBytes

/-! ### Messages -/

/-- Checks that the coin is of the denomination that is bonded. -/
def checkDenom (parameters : Parameters) (coin : Coin) : Transition Unit :=
  require (coin.denom = parameters.bondDenom) (.wrongDenom coin.denom parameters.bondDenom)

/-- The time at which what is taken in the block is free. -/
def completionTime (parameters : Parameters) (block : Block) : Option UInt64 :=
  if block.time.toNat + parameters.unbondingTime.toNat < UInt64.size then
    some (block.time + parameters.unbondingTime)
  else none

/-- Takes the coin from the delegator's balance and bonds it to the validator. -/
def delegate (parameters : Parameters) (delegator : Address) (operator : String)
    (coin : Coin) : Transition Unit := do
  checkDenom parameters coin
  let validator ← loadValidator operator
  Transition.nested (debit parameters delegator coin.amount)
  let _ ← bond delegator validator coin.amount
  return ()

/-- Unbonds the coin from the validator and puts it on its way back. -/
def undelegate (parameters : Parameters) (delegator : Address) (operator : String)
    (coin : Coin) : Transition UInt64 := do
  checkDenom parameters coin
  let validator ← loadValidator operator
  let released ← unbond delegator validator coin.amount
  let block ← Transition.block
  let time ← orRefuse .overflow (completionTime parameters block)
  let key := Key.unbonding delegator operator
  let unbonding : UnbondingDelegation := (← load key).getD ⟨delegator, operator, []⟩
  let entry : UnbondingEntry := ⟨block.height, time, released, released⟩
  save key { unbonding with entries := unbonding.entries ++ [entry] }
  return time

/-- Unbonds the coin from the one validator and bonds what it releases to the other. -/
def redelegate (parameters : Parameters) (delegator : Address)
    (source destination : String) (coin : Coin) : Transition UInt64 := do
  require (source ≠ destination) .selfRedelegation
  checkDenom parameters coin
  let sourceValidator ← loadValidator source
  let destinationValidator ← loadValidator destination
  let moved ← unbond delegator sourceValidator coin.amount
  let shares ← bond delegator destinationValidator moved
  let block ← Transition.block
  let time ← orRefuse .overflow (completionTime parameters block)
  let key := Key.redelegation delegator source destination
  let entries : List Redelegation := (← load key).getD []
  save key (entries ++ [(⟨block.height, time, moved, shares⟩ : Redelegation)])
  return time

/-- The entries after the amount was taken out of the first one that was created at the
height. It has to be on its way still and to hold the amount; it is gone when nothing is left
in it. -/
def takeBack (height : Int64) (now : UInt64) (amount : Uint256) :
    List UnbondingEntry → Except Fault (List UnbondingEntry)
  | [] => .error (.noUnbondingEntry height)
  | entry :: entries =>
    if entry.creationHeight = height then
      if entry.completionTime.toNat ≤ now.toNat then .error .entryMatured
      else if entry.balance < amount then .error .amountExceedsEntry
      else
        let left := entry.balance.truncatedSub amount
        if left = 0 then .ok entries
        else .ok ({ entry with
          initialBalance := entry.initialBalance.truncatedSub amount
          balance := left } :: entries)
    else (takeBack height now amount entries).map (entry :: ·)

/-- Bonds the coin to the validator again, out of what was taken from it at the height. -/
def cancelUnbonding (parameters : Parameters) (delegator : Address) (operator : String)
    (coin : Coin) (height : Int64) : Transition Unit := do
  checkDenom parameters coin
  let validator ← loadValidator operator
  let key := Key.unbonding delegator operator
  let unbonding : UnbondingDelegation ← orRefuse .noUnbonding (← load key)
  let block ← Transition.block
  match takeBack height block.time coin.amount unbonding.entries with
  | .error fault => refuse fault
  | .ok entries =>
    if entries = [] then Transition.remove key else save key { unbonding with entries }
    let _ ← bond delegator validator coin.amount
    return ()

/-! ### Queries -/

/-- The record under a key, if there is one. -/
def lookUp {α : Type} [Json.Codec α] (key : Bytes) : Lookup (Option α) := do
  match ← Lookup.read key with
  | none => return none
  | some octets =>
    match Json.decode? octets with
    | some record => return some record
    | none => .fail (.corrupted Fault.malformedReason)

/-- The value if there is one; otherwise there is no such record. -/
def orNotFound {α : Type} (description : String) : Option α → Lookup α
  | some a => .done a
  | none => .fail (.notFound description)

/-- The validator with the operator. -/
def findValidator (operator : String) : Lookup Validator := do
  orNotFound (Fault.noValidator operator).description (← lookUp (Key.validator operator))

/-- What the account has bonded to the validator. -/
def findDelegation (parameters : Parameters) (delegator : Address) (operator : String) :
    Lookup Delegation := do
  let validator ← findValidator operator
  let holding : Holding ← orNotFound ("delegation with delegator " ++ delegator.checksummed ++
      " not found for validator " ++ operator)
    (← lookUp (Key.delegation delegator operator))
  match validator.tokensFor? holding.shares with
  | some tokens => return ⟨holding.shares, ⟨parameters.bondDenom, tokens⟩⟩
  | none => .fail (.corrupted Fault.overflow.description)

/-- What is on its way back from the validator to the account. -/
def findUnbonding (delegator : Address) (operator : String) : Lookup UnbondingDelegation := do
  orNotFound ("unbonding delegation with delegator " ++ delegator.checksummed ++
      " not found for validator " ++ operator)
    (← lookUp (Key.unbonding delegator operator))

/-! ### The module -/

/-- The module that answers requests from the records in the store. -/
def stakingModule (parameters : Parameters) : StakingModule where
  execute
    | .delegate delegator validator coin => delegate parameters delegator validator coin
    | .undelegate delegator validator coin => undelegate parameters delegator validator coin
    | .redelegate delegator source destination coin =>
      redelegate parameters delegator source destination coin
    | .cancelUnbonding delegator validator coin height =>
      cancelUnbonding parameters delegator validator coin height
  answer
    | .delegation delegator validator => findDelegation parameters delegator validator
    | .unbondingDelegation delegator validator => findUnbonding delegator validator
    | .validator operator => findValidator operator

/-! ### Setting up a store -/

/-- The store with the balance of the account. -/
def setBalance (store : Store) (account : Address) (amount : Uint256) : Store :=
  store.insert (Key.balance account) amount.toBytes

/-- The balance of the account; zero where there is none or it does not read back. -/
def balance (store : Store) (account : Address) : Uint256 :=
  ((store.get? (Key.balance account)).bind Uint256.ofBytes?).getD 0

/-- A validator that nothing is bonded to. Its commission is a tenth. -/
def newValidator (operator moniker : String) : Validator where
  operator := operator
  moniker := moniker
  jailed := false
  status := .bonded
  tokens := 0
  delegatorShares := 0
  unbondingHeight := 0
  unbondingTime := 0
  commissionRate := shareUnit.div 10
  minSelfDelegation := 1

/-- The store with a validator that nothing is bonded to. -/
def addValidator (store : Store) (operator moniker : String) : Store :=
  store.insert (Key.validator operator) (Json.encode (newValidator operator moniker))

/-- What the account has moved from one validator to the other; nothing where there is no
record or it does not read back. -/
def redelegations (store : Store) (delegator : Address) (source destination : String) :
    List Redelegation :=
  ((store.get? (Key.redelegation delegator source destination)).bind Json.decode?).getD []

end StakingGateway.Reference
