import StakingGateway.Keccak
import StakingGateway.Text.Utf8

/-!
# Selectors

The first four octets of call data say which method is called. They are the start of the hash
of the method's signature, so that who calls and who is called agree on them without asking.

## Main definitions

* `Selector`: four octets.
* `Selector.ofSignature`: the selector of a signature.
* `Selector.ofData?`: the selector that call data start with.
-/

namespace StakingGateway

/-- The octets that stand for a method. -/
@[ext] structure Selector where
  /-- The octets. -/
  octets : Bytes
  /-- There are four of them. -/
  length_octets : octets.length = 4
deriving DecidableEq

namespace Selector

/-- The selector with the given octets, if there are four of them. -/
def ofOctets? (octets : Bytes) : Option Selector :=
  if h : octets.length = 4 then some ⟨octets, h⟩ else none

/-- The selector that call data start with, if they are long enough. -/
def ofData? (data : Bytes) : Option Selector :=
  ofOctets? (data.take 4)

/-- The octets that the hash of the signature starts with. -/
def ofSignature (signature : String) : Bytes :=
  (Keccak.hash256 (Text.utf8 signature)).take 4

/-- The octets in hexadecimal behind the mark `0x`. -/
def toHex (selector : Selector) : String :=
  selector.octets.toHex

end Selector

end StakingGateway
