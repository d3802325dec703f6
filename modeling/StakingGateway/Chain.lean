import StakingGateway.Gateway.Call
import StakingGateway.Reference.CallData
import StakingGateway.Reference.Genesis

/-!
# Chains

A chain is the gateway over the reference module, with its store and the block that calls
execute in. It starts from a genesis and goes on by calls, each with gas of its own.

## Main definitions

* `Chain`: the state of a chain.
* `Chain.ofGenesis`, `Chain.bundled`: the chain that a genesis starts, and one that is at hand.
* `Chain.call`, `Chain.execute`, `Chain.staticCall`: calls of the gateway.
* `Chain.ask`: the answer to a query, as a caller reads it.
-/

namespace StakingGateway

/-- The gateway over the reference module, with its store and a block. -/
structure Chain where
  /-- The parameters of the reference module. -/
  parameters : Reference.Parameters
  /-- The configuration of the gateway. -/
  config : Config
  /-- The store. -/
  store : Store
  /-- The block that calls execute in. -/
  block : Block

/-- What a call with gas of its own ends with. -/
structure Execution where
  /-- The return data, or why there are none. -/
  result : Except Failure Bytes
  /-- The gas charged. -/
  gasUsed : UInt64

namespace Chain

/-- The chain that the genesis starts, if its configuration is one to run with. -/
def ofGenesis (genesis : Genesis) : Except ConfigFault Chain := do
  genesis.config.check
  return ⟨genesis.parameters, genesis.config, genesis.store, genesis.block⟩

/-- The chain that the bundled genesis starts. -/
def bundled : Chain :=
  ⟨Genesis.bundled.parameters, Genesis.bundled.config, Genesis.bundled.store,
    Genesis.bundled.block⟩

theorem ofGenesis_bundled : ofGenesis .bundled = .ok bundled := rfl

/-- The gateway. -/
def gateway (chain : Chain) : Gateway :=
  ⟨Reference.stakingModule chain.parameters, chain.config⟩

/-! ### Calls -/

/-- The report of a call in the current block. -/
def call (chain : Chain) (caller : Address) (data : Bytes) (readOnly : Bool)
    (gas : GasAccount) : CallReport :=
  chain.gateway.run ⟨data, caller, readOnly, chain.block⟩ chain.store gas

/-- The chain with the store that a call left. -/
def after (chain : Chain) (report : CallReport) : Chain :=
  { chain with store := report.store }

/-- What the report says of a call that had its gas to itself. -/
def execution (report : CallReport) : Execution :=
  ⟨report.result, report.gas.spent⟩

/-- A call from a frame that may write, with the given gas. -/
def execute (chain : Chain) (caller : Address) (data : Bytes) (gasLimit : UInt64) :
    Execution × Chain :=
  let report := chain.call caller data false (.full gasLimit)
  (execution report, chain.after report)

/-- The gas of a call where gas is not the point. -/
def ampleGas : UInt64 := 30000000

/-- A call from a frame that may only read. -/
def staticCall (chain : Chain) (caller : Address) (data : Bytes) : Execution × Chain :=
  let report := chain.call caller data true (.full ampleGas)
  (execution report, chain.after report)

/-! ### Blocks and balances -/

/-- The chain at a later block. -/
def advance (chain : Chain) (blocks : Int64) (seconds : UInt64) : Chain :=
  { chain with block := ⟨chain.block.height + blocks, chain.block.time + seconds⟩ }

/-- The balance of an account. -/
def balance (chain : Chain) (account : Address) : Uint256 :=
  Reference.balance chain.store account

/-! ### Queries -/

/-- Why a query has no answer. -/
inductive AskFault where
  /-- The call failed. -/
  | failed (failure : Failure)
  /-- The return data do not read back. -/
  | unreadable (fault : DecodeFault)
deriving DecidableEq

/-- The call data of a query. -/
def queryData : Query → Bytes
  | .delegation delegator validator => Reference.delegationData delegator validator
  | .unbondingDelegation delegator validator =>
    Reference.unbondingDelegationData delegator validator
  | .validator operator => Reference.validatorData operator

/-- The answer to a query, asked for by the account that it is about. -/
def ask (chain : Chain) (query : Query) : Except AskFault Reply := do
  let caller := query.delegator?.getD .zero
  let data ← (chain.staticCall caller (queryData query)).1.result.mapError .failed
  (ReturnData.decode (Request.query query).method.descriptor data).mapError .unreadable

end Chain

/-- The time that `undelegate` and `redelegate` return, as the number in the word. -/
def readCompletionTime (data : Bytes) : Except Abi.Fault Uint256 :=
  (Abi.decodeValues Method.completionTimeOutputs data).map fun (time, ()) => time

end StakingGateway
