import StakingGateway.Uint256

/-!
# Coins

An amount of one denomination, and what a denomination may be called: 3 to 128 octets, a
letter first, then letters, digits and a few marks, all of them ASCII.

## Main definitions

* `Coin`: an amount of a denomination.
* `IsDenom`: the names that denominations may have.
-/

namespace StakingGateway

/-- An amount of one denomination. -/
@[ext] structure Coin where
  /-- The denomination. -/
  denom : String
  /-- The amount in base units. -/
  amount : Uint256
deriving DecidableEq

/-- Whether the character may stand behind the first one of a denomination. -/
def isDenomMark (c : Char) : Bool :=
  c.isAlphanum || c == '/' || c == ':' || c == '.' || c == '_' || c == '-'

/-- Whether the characters name a denomination: 3 to 128 of them, a letter first, then
letters, digits and the marks `/`, `:`, `.`, `_` and `-`. Letters and digits are ASCII, so
characters and octets count alike. -/
def isDenomName : List Char → Bool
  | [] => false
  | first :: others =>
    decide (2 ≤ others.length) && decide (others.length ≤ 127) && first.isAlpha &&
      others.all isDenomMark

/-- The texts that name a denomination. -/
def IsDenom (denom : String) : Prop :=
  isDenomName denom.toList = true

instance (denom : String) : Decidable (IsDenom denom) :=
  inferInstanceAs (Decidable (isDenomName denom.toList = true))

end StakingGateway
