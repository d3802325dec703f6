import StakingGateway.Failure
import StakingGateway.Interface.Method

/-!
# Guards

What a caller may do is decided before the staking module sees anything: a frame that may only
read may not call a method that changes the state, and where a method is for the delegator
only, the delegator that the call names has to be the direct caller.

## Main definitions

* `checkWriteAccess`: the check of the frame.
* `checkPrincipal`: the check of the caller.
-/

namespace StakingGateway

/-- Refuses a method that changes the state where the frame may only read. -/
def checkWriteAccess (descriptor : Descriptor) (readOnly : Bool) : Except Failure Unit :=
  if readOnly ∧ descriptor.isMutating then .error .writeProtection else .ok ()

/-- Refuses a caller who is not the delegator, where the method is for the delegator only. A
request without a delegator is refused as if it named the address that is no account. -/
def checkPrincipal (descriptor : Descriptor) (request : Request) (caller : Address) :
    Except Failure Unit :=
  match descriptor.authorization with
  | .anyone => .ok ()
  | .delegatorOnly =>
    if request.delegator? = some caller then .ok ()
    else .error (.unauthorized caller (request.delegator?.getD .zero))

end StakingGateway
