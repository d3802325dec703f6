/-!
# Byte Strings

A byte string is a list of octets. This module holds the three readings of one that the
gateway needs: as a big-endian number of a fixed width (`Bytes.ofNat`, `Bytes.toNat`), as
hexadecimal text (`Bytes.toHex`, `Bytes.ofHex?`), and as a text of ASCII characters
(`Bytes.ascii`), which is how keys and fixed tokens are written down.

## Main definitions

* `Bytes`: lists of octets, ordered lexicographically.
* `Bytes.ofNat`, `Bytes.toNat`: big-endian numbers.
* `Bytes.toHex`, `Bytes.ofHex?`: two lower-case digits an octet; either case is read.
-/

namespace StakingGateway

/-- A string of octets. -/
abbrev Bytes := List UInt8

namespace Bytes

/-- The octets of an ASCII text. Characters from `U+0100` on lose their high bits, so the
text is meant to be ASCII. -/
def ascii (text : String) : Bytes :=
  text.toList.map Char.toUInt8

/-- The string of `n` zero octets. -/
def zeros (n : Nat) : Bytes :=
  List.replicate n 0

/-- Whether every octet is zero. -/
def isZero (b : Bytes) : Bool :=
  b.all (· == 0)

/-! ### Big-endian numbers -/

/-- The number `n` in `width` octets, most significant first. Digits beyond the width are
dropped. -/
def ofNat : (width n : Nat) → Bytes
  | 0, _ => []
  | width + 1, n => ofNat width (n / 256) ++ [UInt8.ofNat n]

/-- The number that an octet string of any width denotes, most significant first. -/
def toNat (b : Bytes) : Nat :=
  b.foldl (fun value octet => 256 * value + octet.toNat) 0

@[simp] theorem length_ofNat (width n : Nat) : (ofNat width n).length = width := by
  induction width generalizing n with
  | zero => rfl
  | succ width ih => simp [ofNat, ih]

@[simp] theorem length_zeros (n : Nat) : (zeros n).length = n := by
  simp [zeros]

/-! ### Hexadecimal text -/

/-- The characters of a byte string in hexadecimal, two lower-case digits an octet. -/
def toHexChars (b : Bytes) : List Char :=
  b.flatMap fun octet => [Nat.digitChar (octet.toNat / 16), Nat.digitChar (octet.toNat % 16)]

/-- The byte string in hexadecimal behind the mark `0x`. -/
def toHex (b : Bytes) : String :=
  String.ofList ('0' :: 'x' :: b.toHexChars)

/-- The value of a hexadecimal digit of either case. -/
def hexDigit? (c : Char) : Option Nat :=
  if '0' ≤ c ∧ c ≤ '9' then some (c.toNat - '0'.toNat)
  else if 'a' ≤ c ∧ c ≤ 'f' then some (c.toNat - 'a'.toNat + 10)
  else if 'A' ≤ c ∧ c ≤ 'F' then some (c.toNat - 'A'.toNat + 10)
  else none

/-- The octets that an even number of hexadecimal digits denotes. -/
def ofHexChars? : List Char → Option Bytes
  | [] => some []
  | [_] => none
  | high :: low :: rest => do
    let high ← hexDigit? high
    let low ← hexDigit? low
    let rest ← ofHexChars? rest
    return UInt8.ofNat (16 * high + low) :: rest

/-- The text without one leading mark `0x` or `0X`. -/
def dropHexMark : List Char → List Char
  | '0' :: 'x' :: digits => digits
  | '0' :: 'X' :: digits => digits
  | digits => digits

/-- The octets of a hexadecimal text, with or without its mark. -/
def ofHex? (text : String) : Option Bytes :=
  ofHexChars? (dropHexMark text.toList)

end Bytes

end StakingGateway
