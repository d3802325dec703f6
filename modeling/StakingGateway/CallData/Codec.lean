import StakingGateway.Abi.Encoder
import StakingGateway.CallData.Layout
import StakingGateway.Interface.Method
import StakingGateway.Staking.Request

/-!
# Call Data

Requests as octets: the selector of the method, and behind it the encoded arguments. Reading
first checks that the arguments are laid out canonically for the schema of the descriptor and
then takes their values by the schema of the method, so what is read was written by
`CallData.encode` and by nothing else.

Heights are signed, and arguments are not: a message with a negative height has no call data,
and an argument that is no height is refused.

## Main definitions

* `Request.method`, `Request.arguments`: the method of a request, and the values it takes.
* `Request.ofArguments`: the request that the values make.
* `CallData.encode`, `CallData.decode`: the octets of a request, and the request of octets.
-/

namespace StakingGateway

open Abi (Values)

namespace Request

/-- The method that asks the request. -/
def method : Request → Method
  | .transaction (.delegate ..) => .delegate
  | .transaction (.undelegate ..) => .undelegate
  | .transaction (.redelegate ..) => .redelegate
  | .transaction (.cancelUnbonding ..) => .cancelUnbondingDelegation
  | .query (.delegation ..) => .delegation
  | .query (.unbondingDelegation ..) => .unbondingDelegation
  | .query (.validator ..) => .validator

/-- The height as an argument, if it is not negative. -/
def heightArgument (height : Int64) : Except EncodeFault Uint256 :=
  if height < 0 then .error (.outOfRange "creationHeight")
  else .ok (.ofUInt64 height.toUInt64)

/-- The values that the method takes for the request. -/
def arguments : (request : Request) → Except EncodeFault (Values request.method.inputs)
  | .transaction (.delegate delegator validator coin) =>
    .ok (delegator, validator, coin.denom, coin.amount, ())
  | .transaction (.undelegate delegator validator coin) =>
    .ok (delegator, validator, coin.denom, coin.amount, ())
  | .transaction (.redelegate delegator source destination coin) =>
    .ok (delegator, source, destination, coin.denom, coin.amount, ())
  | .transaction (.cancelUnbonding delegator validator coin height) =>
    (heightArgument height).map fun height =>
      (delegator, validator, coin.denom, coin.amount, height, ())
  | .query (.delegation delegator validator) => .ok (delegator, validator, ())
  | .query (.unbondingDelegation delegator validator) => .ok (delegator, validator, ())
  | .query (.validator operator) => .ok (operator, ())

/-- The request that the values make for the method. -/
def ofArguments : (method : Method) → Values method.inputs → Except DecodeFault Request
  | .delegate, (delegator, validator, denom, amount, ()) =>
    .ok (.transaction (.delegate delegator validator ⟨denom, amount⟩))
  | .undelegate, (delegator, validator, denom, amount, ()) =>
    .ok (.transaction (.undelegate delegator validator ⟨denom, amount⟩))
  | .redelegate, (delegator, source, destination, denom, amount, ()) =>
    .ok (.transaction (.redelegate delegator source destination ⟨denom, amount⟩))
  | .cancelUnbondingDelegation, (delegator, validator, denom, amount, height, ()) =>
    match Uint256.toInt64? height with
    | some height =>
      .ok (.transaction (.cancelUnbonding delegator validator ⟨denom, amount⟩ height))
    | none => .error (.overflow 4 .int64)
  | .delegation, (delegator, validator, ()) => .ok (.query (.delegation delegator validator))
  | .unbondingDelegation, (delegator, validator, ()) =>
    .ok (.query (.unbondingDelegation delegator validator))
  | .validator, (operator, ()) => .ok (.query (.validator operator))

end Request

namespace CallData

/-- The call data that hand the values to the method. -/
def ofArguments (method : Method) (arguments : Values method.inputs) : Bytes :=
  method.selector.octets ++ Abi.encodeValues method.inputs arguments

/-- The call data of a request. -/
def encode (request : Request) : Except EncodeFault Bytes :=
  request.arguments.map (ofArguments request.method)

/-- The request that call data for the descriptor's method make. The selector is not looked
at, only passed over. -/
def decode (descriptor : Descriptor) (data : Bytes) : Except DecodeFault Request := do
  if data.length < 4 then throw (.missingSelector data.length)
  let body := data.drop 4
  Layout.check descriptor.inputs body
  let arguments ← (Abi.decodeValues descriptor.method.inputs body).mapError .abi
  Request.ofArguments descriptor.method arguments

end CallData

end StakingGateway
