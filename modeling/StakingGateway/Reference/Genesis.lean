import StakingGateway.Gateway.Config
import StakingGateway.Reference.Module

/-!
# Genesis

What a chain starts with: the configuration of the gateway, the time of unbonding, a block,
balances, and validators that nothing is bonded to. A genesis is read from structured text, in
which the configuration, the balances and the validators may be left out.

## Main definitions

* `Genesis`: what a chain starts with.
* `Genesis.store`: the store that it describes.
* `Genesis.bundled`, `Genesis.fixture`: two that are at hand.
-/

namespace StakingGateway

/-- The balance that an account starts with. -/
structure GenesisBalance where
  /-- The account. -/
  account : Address
  /-- The amount of the denomination that is bonded. -/
  amount : UInt64
deriving DecidableEq

/-- A validator that a chain starts with. -/
structure GenesisValidator where
  /-- The address of the operator. -/
  operator : String
  /-- The name that is shown. -/
  moniker : String
deriving DecidableEq

/-- What a chain starts with. -/
structure Genesis where
  /-- The configuration of the gateway. -/
  config : Config
  /-- The seconds that tokens are on their way back. -/
  unbondingTime : UInt64
  /-- The block. -/
  block : Block
  /-- The balances of accounts. -/
  balances : List GenesisBalance
  /-- The validators. -/
  validators : List GenesisValidator
deriving DecidableEq

open Json (Codec toJson fields? required? optional?)

instance : Codec GenesisBalance where
  shape := .record [("address", Codec.shape Address), ("amount", .any)]
  toJson balance :=
    .record [("address", toJson balance.account), ("amount", toJson balance.amount)]
  ofJson? json := do
    match ← fields? ["address", "amount"] json with
    | [account, amount] => return ⟨← required? account, ← required? amount⟩
    | _ => none

instance : Codec GenesisValidator where
  toJson validator :=
    .record [("operator", toJson validator.operator), ("moniker", toJson validator.moniker)]
  ofJson? json := do
    match ← fields? ["operator", "moniker"] json with
    | [operator, moniker] => return ⟨← required? operator, ← required? moniker⟩
    | _ => none

instance : Codec Genesis where
  shape := .record [("precompile", Codec.shape Config), ("unbondingTime", .any),
    ("block", .any), ("balances", Codec.shape (List GenesisBalance)), ("validators", .any)]
  toJson genesis := .record [("precompile", toJson genesis.config),
    ("unbondingTime", toJson genesis.unbondingTime), ("block", toJson genesis.block),
    ("balances", toJson genesis.balances), ("validators", toJson genesis.validators)]
  ofJson? json := do
    match ← fields? ["precompile", "unbondingTime", "block", "balances",
        "validators"] json with
    | [config, unbondingTime, block, balances, validators] =>
      return ⟨← optional? .default config, ← required? unbondingTime, ← required? block,
        ← optional? [] balances, ← optional? [] validators⟩
    | _ => none

namespace Genesis

/-- The parameters of the reference module. -/
def parameters (genesis : Genesis) : Reference.Parameters :=
  { Reference.Parameters.standard with unbondingTime := genesis.unbondingTime }

/-- The store with the balances and the validators, set up one after the other. -/
def store (genesis : Genesis) : Store :=
  let funded := genesis.balances.foldl (fun store balance =>
    Reference.setBalance store balance.account (.ofUInt64 balance.amount)) ∅
  genesis.validators.foldl (fun store validator =>
    Reference.addValidator store validator.operator validator.moniker) funded

/-- The operator of the first validator of the chains that are at hand. -/
def alpha : String := "evmosvaloper1alpha"

/-- The operator of the second one. -/
def beta : String := "evmosvaloper1beta"

/-- The two validators of the chains that are at hand. -/
def twoValidators : List GenesisValidator :=
  [⟨alpha, "alpha"⟩, ⟨beta, "beta"⟩]

/-- The account that is funded in the chains that are at hand. -/
def fundedAccount : Address := .ofNat 0xa11ce

/-- The account that is funded, too, where there are two of them. -/
def otherAccount : Address := .ofNat 0x944fdcd1c868e3cc566c78023ccb38a32cda836e

/-- One funded account, two validators, and no fee for queries. -/
def fixture : Genesis where
  config := .default
  unbondingTime := Reference.Parameters.standard.unbondingTime
  block := ⟨10, 1700000000⟩
  balances := [⟨fundedAccount, 10000⟩]
  validators := twoValidators

/-- Two funded accounts, two validators, and a fee for queries. -/
def bundled : Genesis where
  config := { Config.default with queryBaseGas := 1000 }
  unbondingTime := Reference.Parameters.standard.unbondingTime
  block := ⟨100, 1710338135⟩
  balances := [⟨fundedAccount, 10000⟩, ⟨otherAccount, 500⟩]
  validators := twoValidators

end Genesis

end StakingGateway
