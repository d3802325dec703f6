import StakingGateway.Staking.Record

/-!
# Shares of a Validator

A validator issues shares for the tokens bonded to it. The first tokens get one share each;
from then on shares and tokens are exchanged at the rate of all shares to all tokens, rounded
down. A result that does not fit 256 bits, also on the way to it, is none.

## Main definitions

* `Validator.sharesFor?`: the shares that tokens are exchanged for.
* `Validator.tokensFor?`: the tokens that shares are exchanged for.
* `Validator.bond?`, `Validator.unbond?`: the validator with tokens more and with tokens less.
-/

namespace StakingGateway.Validator

/-- The shares that the validator issues for the tokens. -/
def sharesFor? (validator : Validator) (tokens : Uint256) : Option Uint256 :=
  if validator.tokens = 0 then tokens.mul? shareUnit
  else (tokens.mul? validator.delegatorShares).map (·.div validator.tokens)

/-- The tokens that stand behind the shares. -/
def tokensFor? (validator : Validator) (shares : Uint256) : Option Uint256 :=
  if validator.delegatorShares = 0 then some 0
  else (shares.mul? validator.tokens).map (·.div validator.delegatorShares)

/-- The validator with the tokens and the shares added. -/
def bond? (validator : Validator) (tokens shares : Uint256) : Option Validator := do
  let tokens ← validator.tokens.add? tokens
  let delegatorShares ← validator.delegatorShares.add? shares
  return { validator with tokens, delegatorShares }

/-- The validator with the tokens and the shares taken away. -/
def unbond? (validator : Validator) (tokens shares : Uint256) : Option Validator := do
  let tokens ← validator.tokens.sub? tokens
  let delegatorShares ← validator.delegatorShares.sub? shares
  return { validator with tokens, delegatorShares }

end StakingGateway.Validator
