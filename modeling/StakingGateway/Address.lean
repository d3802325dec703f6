import StakingGateway.Keccak
import StakingGateway.Text.Quoted
import StakingGateway.Text.Utf8

/-!
# Account Addresses

An account is named by 20 octets. Its plain text is hexadecimal in lower case; the text
that people see carries a checksum in the case of its letters. Reading accepts either case,
with or without the mark `0x`, and says what is wrong with a text that is no address.

## Main definitions

* `Address`: 20 octets.
* `Address.toHex`, `Address.checksummed`: the two texts of an address.
* `Address.parse`: reading, with the faults in `AddressFault`.
-/

namespace StakingGateway

/-- The name of an account: 20 octets. -/
@[ext] structure Address where
  /-- The octets. -/
  octets : Bytes
  /-- There are 20 of them. -/
  length_octets : octets.length = 20
deriving DecidableEq

/-- Why a text is no address. -/
inductive AddressFault where
  /-- Two digits make an octet, and one is left over. -/
  | oddLength
  /-- The digits make another number of octets than 20. -/
  | wrongLength
  /-- The octet at this position of the text behind its mark is no digit. -/
  | notDigit (octet : UInt8) (position : Nat)
deriving DecidableEq

namespace Address

/-- The address whose octets are these, if there are 20 of them. -/
def ofOctets? (octets : Bytes) : Option Address :=
  if h : octets.length = 20 then some ⟨octets, h⟩ else none

/-- The address with the given number as its big-endian value. -/
def ofNat (n : Nat) : Address :=
  ⟨Bytes.ofNat 20 n, Bytes.length_ofNat 20 n⟩

/-- The address of 20 zero octets, which names no account. -/
def zero : Address :=
  ⟨Bytes.zeros 20, Bytes.length_zeros 20⟩

instance : Inhabited Address := ⟨zero⟩

/-- The text in lower case behind the mark `0x`. -/
def toHex (address : Address) : String :=
  address.octets.toHex

/-! ### Checksummed text -/

/-- The digits with each letter in the case that the digit of the hash at its place tells:
upper case from eight on. -/
def markCase (digits hashDigits : List Char) : List Char :=
  digits.zipWith (fun digit hashDigit =>
    if '8' ≤ hashDigit then digit.toUpper else digit) hashDigits

/-- The text behind the mark `0x` in which the case of the letters carries a checksum, taken
from the hash of the digits in lower case. -/
def checksummed (address : Address) : String :=
  let digits := address.octets.toHexChars
  let hash := Keccak.hash256 (digits.map Char.toUInt8)
  String.ofList ('0' :: 'x' :: markCase digits hash.toHexChars)

/-! ### Reading -/

/-- The octets of a text without one leading mark `0x` or `0X`. -/
def dropMark : Bytes → Bytes
  | 0x30 :: 0x78 :: digits => digits
  | 0x30 :: 0x58 :: digits => digits
  | digits => digits

/-- The character with the octet as its code point. -/
def charOfOctet (octet : UInt8) : Char :=
  Char.ofNat octet.toNat

/-- The first octet that is no hexadecimal digit, with its position. -/
def firstNonDigit? (digits : Bytes) : Option (UInt8 × Nat) :=
  digits.zipIdx.find? fun entry => (Bytes.hexDigit? (charOfOctet entry.1)).isNone

/-- Reads an address from the octets of a text: 40 digits of either case, with or without
the mark. Of several faults the number of digits is reported first. -/
def parseOctets (text : Bytes) : Except AddressFault Address :=
  let digits := dropMark text
  if digits.length % 2 = 1 then .error .oddLength
  else if digits.length ≠ 40 then .error .wrongLength
  else match firstNonDigit? digits with
    | some (octet, position) => .error (.notDigit octet position)
    | none =>
      match (Bytes.ofHexChars? (digits.map charOfOctet)).bind ofOctets? with
      | some address => .ok address
      | none => .error .wrongLength

/-- Reads an address from a text. Lengths and positions count the octets of the text. -/
def parse (text : String) : Except AddressFault Address :=
  parseOctets (Text.utf8 text)

/-- The address that a text denotes, if it denotes one. -/
def ofHex? (text : String) : Option Address :=
  (parse text).toOption

end Address

namespace AddressFault

/-- The wording of the fault. -/
def message : AddressFault → String
  | oddLength => "odd number of digits"
  | wrongLength => "invalid string length"
  | notDigit octet position =>
    s!"invalid character {Text.quotedChar (Address.charOfOctet octet)} at position {position}"

end AddressFault

end StakingGateway
