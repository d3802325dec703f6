import StakingGateway.CallData.Fault
import StakingGateway.Interface.Selector
import StakingGateway.Staking.Request

/-!
# Failures

Why a call does not succeed, by cause, with the wording of each. The staking module has
errors of its own, with a number within a name space; the gateway passes them on and uses a
name space of its own for what it has to report through the same channel.

The interpreter that makes the call knows two outcomes of a failure only: that the gas ran
out, and that something else went wrong.

## Main definitions

* `ModuleError`: an error of the staking module.
* `QueryError`: why a query has no answer.
* `Failure`: why a call does not succeed.
* `InterpreterError`: what the interpreter is told.
-/

namespace StakingGateway

/-! ### Errors of the staking module -/

/-- An error with a number within a name space. -/
@[ext] structure ModuleError where
  /-- The name space. -/
  codespace : String
  /-- The number. -/
  code : UInt32
  /-- The description. -/
  description : String
deriving DecidableEq

namespace ModuleError

/-- The name space of the gateway's own errors. -/
def gatewayCodespace : String := "staking-precompile"

/-- A transaction was nested in another one at a depth where none is allowed. -/
def innerDepth (limit : Nat) : ModuleError :=
  ⟨gatewayCodespace, 1, "inner transaction depth exceeds " ++ Text.decimal limit⟩

/-- What is stored does not read back. -/
def corrupted (reason : String) : ModuleError :=
  ⟨gatewayCodespace, 2, reason⟩

/-- The wording of the error. -/
def message (error : ModuleError) : String :=
  error.description ++ " [" ++ error.codespace ++ ":" ++ Text.decimal error.code.toNat ++ "]"

end ModuleError

/-- Why a query has no answer. -/
inductive QueryError where
  /-- There is no such record. -/
  | notFound (description : String)
  /-- What is stored does not read back. -/
  | corrupted (reason : String)
deriving DecidableEq

/-- The wording of the error. -/
def QueryError.message : QueryError → String
  | notFound description => description
  | corrupted reason => "corrupted state: " ++ reason

/-! ### Failures of a call -/

/-- Why a call does not succeed. -/
inductive Failure where
  /-- No method has the selector. -/
  | unknownMethod (selector : Selector)
  /-- The call data are malformed. -/
  | decode (fault : DecodeFault)
  /-- The answer has no octets. -/
  | encode (fault : EncodeFault)
  /-- The caller is not the delegator. -/
  | unauthorized (caller delegator : Address)
  /-- A change of state was asked for where none is allowed. -/
  | writeProtection
  /-- The message is malformed. -/
  | invalidMessage (fault : MessageFault)
  /-- The staking module turned the request down. -/
  | rejected (error : ModuleError)
  /-- The caller has less gas left than the call takes. -/
  | outOfGas (required remaining : UInt64)
  /-- There is no such record. -/
  | notFound (description : String)
deriving DecidableEq

/-- The reason given for every change of state that is not allowed. -/
def writeProtectionReason : String := "write protection"

namespace Failure

/-- The failure of a call whose query has no answer. -/
def ofQueryError : QueryError → Failure
  | .notFound description => notFound description
  | .corrupted reason => rejected (.corrupted reason)

/-- The wording of the failure. -/
def message : Failure → String
  | unknownMethod selector => "no method with id: " ++ selector.toHex
  | decode fault => fault.message
  | encode fault => fault.message
  | unauthorized caller delegator =>
    "unauthorized caller " ++ caller.checksummed ++ ": delegator is " ++ delegator.checksummed
  | writeProtection => writeProtectionReason
  | invalidMessage fault => "invalid message: " ++ fault.message
  | rejected error => "staking module error: " ++ error.message
  | outOfGas required remaining =>
    "out of gas: required " ++ Text.decimal required.toNat ++ ", remaining " ++
      Text.decimal remaining.toNat
  | notFound description => "not found: " ++ description

end Failure

/-- What the interpreter is told of a failure. -/
inductive InterpreterError where
  /-- The gas ran out. -/
  | outOfGas
  /-- Something else went wrong. -/
  | other (reason : String)
deriving DecidableEq

/-- What the interpreter is told of the failure. -/
def Failure.toInterpreterError : Failure → InterpreterError
  | .outOfGas .. => .outOfGas
  | failure => .other failure.message

end StakingGateway
