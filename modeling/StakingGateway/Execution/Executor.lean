import StakingGateway.CallData.Codec
import StakingGateway.Execution.Guard
import StakingGateway.Execution.Lookup
import StakingGateway.Execution.Phase
import StakingGateway.Execution.Transition
import StakingGateway.ReturnData

/-!
# Execution of Requests

A staking module answers messages by transitions and queries by lookups. The executor reads a
request from call data, lets the module answer it, and turns the answer into return data.

A message runs over a layer above the store. Only when the module has succeeded, the answer
has been encoded and the gas has been paid are the changes of the layer made in the store; in
every other case the store and the gas account stay as they were. A query runs over the store
itself and costs a flat fee, due when the answer has been encoded.

## Main definitions

* `StakingModule`: what answers requests.
* `Report`: what an execution ends with, and how it got there.
* `Executor.transact`, `Executor.query`: the execution of a message and of a query.
-/

namespace StakingGateway

/-- What answers the requests of callers. -/
structure StakingModule where
  /-- The transition that a message asks for. -/
  execute : (message : Message) → Transition message.Answer
  /-- The lookup that a query asks for. -/
  answer : (query : Query) → Lookup query.Answer

/-- What the staking module had to do with an execution. -/
inductive Activity where
  /-- It was not asked. -/
  | none
  /-- It ran the transition of the message and observed this. -/
  | transition (message : Message) (log : List Observation)
  /-- It ran the lookup of the query and was told this. -/
  | lookup (query : Query) (log : List Reading)

/-- What an execution ends with, and how it got there. -/
structure Report where
  /-- The return data, or why there are none. -/
  result : Except Failure Bytes
  /-- The store. -/
  store : Store
  /-- The gas that the caller has left. -/
  gas : GasAccount
  /-- The phases that a transaction went through after being idle. -/
  phases : List Phase
  /-- What the staking module had to do with it. -/
  activity : Activity

/-- What executes the calls of one block. -/
structure Executor where
  /-- What answers requests. -/
  stakingModule : StakingModule
  /-- The gas that a query costs. -/
  queryBaseGas : UInt64
  /-- The costs of accesses to the store. -/
  schedule : GasSchedule
  /-- The block. -/
  block : Block

namespace Executor

/-- The request that the caller makes with the call data. -/
def readRequest (descriptor : Descriptor) (data : Bytes) (caller : Address) :
    Except Failure Request := do
  let request ← (CallData.decode descriptor data).mapError .decode
  checkPrincipal descriptor request caller
  return request

/-! ### Messages -/

/-- The message that the caller asks for with the call data. -/
def readMessage (descriptor : Descriptor) (data : Bytes) (caller : Address) :
    Except Failure Message := do
  match ← readRequest descriptor data caller with
  | .transaction message => return message
  | .query _ => throw (.unknownMethod descriptor.selector)

/-- The run of the message's transition over a fresh layer above the store. -/
def runMessage (executor : Executor) (message : Message) (store : Store) :
    Outcome message.Answer :=
  (executor.stakingModule.execute message).run ⟨executor.block, executor.schedule⟩ 0
    (LayeredStore.base store).push .empty

/-- The return data and the gas left when the run of the message is paid for. -/
def settle (descriptor : Descriptor) (message : Message) (outcome : Outcome message.Answer)
    (gas : GasAccount) : Except Failure (Bytes × GasAccount) := do
  let answer ← outcome.result.mapError .rejected
  let data ← (ReturnData.encode descriptor (message.reply answer)).mapError .encode
  let gas ← gas.charge (outcome.ledger.since GasLedger.empty.consumed)
  return (data, gas)

/-- Executes call data of a method that changes the state. -/
def transact (executor : Executor) (descriptor : Descriptor) (data : Bytes) (caller : Address)
    (store : Store) (gas : GasAccount) : Report :=
  match readMessage descriptor data caller with
  | .error failure => ⟨.error failure, store, gas, [.decoding], .none⟩
  | .ok message =>
    match message.check with
    | .error fault =>
      ⟨.error (.invalidMessage fault), store, gas, [.decoding, .validating], .none⟩
    | .ok () =>
      let outcome := executor.runMessage message store
      let activity := .transition message outcome.log
      match settle descriptor message outcome gas with
      | .error failure => ⟨.error failure, store, gas,
          [.decoding, .validating, .snapshotted, .discarded], activity⟩
      | .ok (data, gas) => ⟨.ok data, store.apply outcome.store.changes, gas,
          [.decoding, .validating, .snapshotted, .committed], activity⟩

/-! ### Queries -/

/-- The query that the caller makes with the call data. -/
def readQuery (descriptor : Descriptor) (data : Bytes) (caller : Address) :
    Except Failure Query := do
  match ← readRequest descriptor data caller with
  | .transaction _ => throw (.unknownMethod descriptor.selector)
  | .query query => return query

/-- The return data and the gas left when the answer to the query is paid for. -/
def serve (executor : Executor) (descriptor : Descriptor) (query : Query)
    (result : Except QueryError query.Answer) (gas : GasAccount) :
    Except Failure (Bytes × GasAccount) := do
  let answer ← result.mapError Failure.ofQueryError
  let data ← (ReturnData.encode descriptor (query.reply answer)).mapError .encode
  let gas ← gas.charge executor.queryBaseGas
  return (data, gas)

/-- Executes call data of a method that asks about the state. -/
def query (executor : Executor) (descriptor : Descriptor) (data : Bytes) (caller : Address)
    (store : Store) (gas : GasAccount) : Report :=
  match readQuery descriptor data caller with
  | .error failure => ⟨.error failure, store, gas, [], .none⟩
  | .ok query =>
    let (result, log) := (executor.stakingModule.answer query).run executor.block store
    match executor.serve descriptor query result gas with
    | .error failure => ⟨.error failure, store, gas, [], .lookup query log⟩
    | .ok (data, gas) => ⟨.ok data, store, gas, [], .lookup query log⟩

/-- Executes call data of any method. -/
def execute (executor : Executor) (descriptor : Descriptor) (data : Bytes) (caller : Address)
    (store : Store) (gas : GasAccount) : Report :=
  if descriptor.isMutating then executor.transact descriptor data caller store gas
  else executor.query descriptor data caller store gas

end Executor

end StakingGateway
