import StakingGateway.Execution.Executor
import StakingGateway.Gateway.Config
import StakingGateway.Interface.RoutingTable

/-!
# Calls

The gateway stands between the interpreter of contracts and the staking module. A call is
routed by its selector, checked against the frame that it is made from, and executed. The
store and the gas account change only if the call succeeds.

The interpreter is told of a call the return data with the gas charged, or one of the two
errors it knows.

## Main definitions

* `Gateway`: a staking module with a configuration.
* `Call`: a call of the gateway.
* `Gateway.run`: the execution of a call.
* `CallReport.interpreted`: what the interpreter is told.
-/

namespace StakingGateway

/-- A staking module that contracts can call. -/
structure Gateway where
  /-- What answers requests. -/
  stakingModule : StakingModule
  /-- The configuration. -/
  config : Config

/-- A call of the gateway. -/
structure Call where
  /-- The call data. -/
  data : Bytes
  /-- The direct caller. -/
  caller : Address
  /-- Whether the frame of the caller may only read. -/
  readOnly : Bool
  /-- The block. -/
  block : Block

/-- What a call ends with, and how it got there. -/
structure CallReport extends Report where
  /-- The name of the method that the call was routed to. -/
  method? : Option String
  /-- The gas charged, if the call came to be executed. -/
  gasUsed? : Option UInt64

/-- What the interpreter gets of a call that succeeds. -/
structure CallOutput where
  /-- The gas charged. -/
  gasUsed : UInt64
  /-- The return data. -/
  data : Bytes
deriving DecidableEq

namespace Gateway

/-- What executes the calls of a block. -/
def executor (gateway : Gateway) (block : Block) : Executor :=
  ⟨gateway.stakingModule, gateway.config.queryBaseGas, gateway.config.schedule, block⟩

/-- The report of a call that is refused before it is executed. -/
def refused (failure : Failure) (store : Store) (gas : GasAccount) (method? : Option String) :
    CallReport :=
  ⟨⟨.error failure, store, gas, [], .none⟩, method?, none⟩

/-- Executes a call over the store, charging the gas account. -/
def run (gateway : Gateway) (call : Call) (store : Store) (gas : GasAccount) : CallReport :=
  match RoutingTable.staking.route call.data with
  | .error failure => refused failure store gas none
  | .ok descriptor =>
    match checkWriteAccess descriptor call.readOnly with
    | .error failure => refused failure store gas (some descriptor.name)
    | .ok () =>
      let report :=
        (gateway.executor call.block).execute descriptor call.data call.caller store gas
      ⟨report, some descriptor.name, some (gas.remaining - report.gas.remaining)⟩

end Gateway

/-- What the interpreter is told of a call. -/
def CallReport.interpreted (report : CallReport) : Except InterpreterError CallOutput :=
  match report.result with
  | .ok data => .ok ⟨report.gasUsed?.getD 0, data⟩
  | .error failure => .error failure.toInterpreterError

end StakingGateway
