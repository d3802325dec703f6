import StakingGateway.Address
import StakingGateway.Text.Utf8

/-!
# Keys of Records

Where the reference module keeps its records. Each kind of record has a start of its own, then
come the octets of the account and the names of the validators, as far as the record belongs
to them. The octets of an account are always 20, so what follows them can be told.

## Main definitions

* `Key.balance`, `Key.validator`, `Key.delegation`, `Key.unbonding`, `Key.redelegation`: the
  keys of the five kinds of records.
-/

namespace StakingGateway.Reference.Key

/-- The octet between the parts of a key. -/
def separator : Bytes := Bytes.ascii "/"

/-- What the keys of balances start with. -/
def balances : Bytes := Bytes.ascii "bank/balances/"

/-- What the keys of validators start with. -/
def validators : Bytes := Bytes.ascii "staking/validators/"

/-- What the keys of delegations start with. -/
def delegations : Bytes := Bytes.ascii "staking/delegations/"

/-- What the keys of unbondings start with. -/
def unbondings : Bytes := Bytes.ascii "staking/unbonding/"

/-- What the keys of redelegations start with. -/
def redelegations : Bytes := Bytes.ascii "staking/redelegations/"

/-- The key of an account's balance. -/
def balance (account : Address) : Bytes :=
  balances ++ account.octets

/-- The key of a validator. -/
def validator (operator : String) : Bytes :=
  validators ++ Text.utf8 operator

/-- The key of what an account has bonded to a validator. -/
def delegation (delegator : Address) (validator : String) : Bytes :=
  delegations ++ delegator.octets ++ separator ++ Text.utf8 validator

/-- The key of what is on its way back from a validator to an account. -/
def unbonding (delegator : Address) (validator : String) : Bytes :=
  unbondings ++ delegator.octets ++ separator ++ Text.utf8 validator

/-- The key of what an account has moved from one validator to another. -/
def redelegation (delegator : Address) (source destination : String) : Bytes :=
  redelegations ++ delegator.octets ++ separator ++ Text.utf8 source ++ separator ++
    Text.utf8 destination

end StakingGateway.Reference.Key
