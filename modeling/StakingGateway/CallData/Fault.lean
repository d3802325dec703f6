import StakingGateway.Abi.Decoder
import StakingGateway.Text.Numeral

/-!
# Faults of Call and Return Data

Why data are not read, and why values are not written. A fault names the argument it was
found at by its position.

## Main definitions

* `DecodeFault`: why data are refused.
* `EncodeFault`: why a value has no octets.
-/

namespace StakingGateway

/-- A flaw of a value that its type does not admit. -/
inductive ValueFlaw where
  /-- The octets before an address are not all zero. -/
  | addressPadding
  /-- A truth value is neither zero nor one. -/
  | boolean
  /-- The octets behind a text, up to a whole number of words, are not all zero. -/
  | stringPadding
  /-- The octets of a text are malformed. -/
  | utf8
  /-- Arguments are neither tuples nor arrays. -/
  | composite
  /-- A number stands for no bond status. -/
  | bondStatus
deriving DecidableEq

/-- An integer type with fewer values than a word has. -/
inductive NarrowInteger where
  /-- Unsigned, 8 bits. -/
  | uint8
  /-- Signed, 64 bits. -/
  | int64
  /-- Unsigned, 64 bits. -/
  | uint64
deriving DecidableEq

/-- Why data are refused. -/
inductive DecodeFault where
  /-- The data are too short to name a method. -/
  | missingSelector (length : Nat)
  /-- The data end inside the argument. -/
  | truncated (index : Nat)
  /-- The argument's offset does not lead to the place of its tail. -/
  | invalidOffset (index : Nat)
  /-- The argument's length is beyond every buffer. -/
  | invalidLength (index : Nat)
  /-- The argument holds a value that its type does not admit. -/
  | invalidValue (index : Nat) (flaw : ValueFlaw)
  /-- The argument holds a number that its type cannot represent. -/
  | overflow (index : Nat) (target : NarrowInteger)
  /-- The data do not end where the last argument does. -/
  | lengthMismatch (expected actual : Nat)
  /-- The generous decoder refused the data. -/
  | abi (fault : Abi.Fault)
deriving DecidableEq

/-- Why a value has no octets. -/
inductive EncodeFault where
  /-- The reply is of another kind than the method's. -/
  | replyMismatch (method : String)
  /-- The value of the field has no counterpart in its schema. -/
  | outOfRange (field : String)
deriving DecidableEq

/-- The wording of the flaw. -/
def ValueFlaw.message : ValueFlaw → String
  | addressPadding => "dirty address padding"
  | boolean => "invalid boolean"
  | stringPadding => "dirty string padding"
  | utf8 => "string is not valid utf-8"
  | composite => "composite argument types are not accepted"
  | bondStatus => "unknown bond status"

/-- The name of the type. -/
def NarrowInteger.name : NarrowInteger → String
  | uint8 => "uint8"
  | int64 => "int64"
  | uint64 => "uint64"

/-- The wording of the fault. -/
def DecodeFault.message : DecodeFault → String
  | missingSelector length =>
    "call data too short for a method selector: " ++ Text.decimal length ++ " bytes"
  | truncated index => "argument " ++ Text.decimal index ++ " is truncated"
  | invalidOffset index => "argument " ++ Text.decimal index ++ " has a malformed offset"
  | invalidLength index => "argument " ++ Text.decimal index ++ " has a malformed length"
  | invalidValue index flaw => "argument " ++ Text.decimal index ++ ": " ++ flaw.message
  | overflow index target => "argument " ++ Text.decimal index ++ " overflows " ++ target.name
  | lengthMismatch expected actual =>
    "call data length mismatch: expected " ++ Text.decimal expected ++ " bytes, got " ++
      Text.decimal actual
  | abi fault => "abi decoding failed: " ++ fault.message

/-- The wording of the fault. -/
def EncodeFault.message : EncodeFault → String
  | replyMismatch method => "output does not match the `" ++ method ++ "` output schema"
  | outOfRange field => "`" ++ field ++ "` cannot be encoded"

end StakingGateway
