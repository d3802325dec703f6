import StakingGateway.CallData.Fault

/-!
# Canonical Layout

Arguments are accepted only in their canonical encoding: every head word holds a value of its
type with nothing else in the word, the tail of each text stands right behind the tail before
it, its padding is zero, its octets are a text, and the data end with the last tail. The check
goes through the arguments in order and reports the first fault that it meets; what is behind
the last tail is looked at last.

Offsets and lengths are numbers of 64 bits, and so is the end of every tail.

## Main definitions

* `Layout.check`: the check of the octets of all arguments.
-/

namespace StakingGateway.Layout

open Abi (Schema Field)

/-- The least multiple of the width of a word that is not below the length. -/
def paddedLength (length : Nat) : Nat :=
  (length + 31) / 32 * 32

/-- Checks the octets of a text with its padding. -/
def checkText (index length : Nat) (octets : Bytes) : Except DecodeFault Unit :=
  if ¬ Bytes.isZero (octets.drop length) then .error (.invalidValue index .stringPadding)
  else if (Text.ofUtf8? (octets.take length)).isNone then .error (.invalidValue index .utf8)
  else .ok ()

/-- Checks the tail of a text that starts at the octet `tail`, and gives the octet behind
it. -/
def checkTail (body : Bytes) (index tail : Nat) : Except DecodeFault Nat :=
  if body.length < tail + 32 then .error (.truncated index)
  else
    let length := Bytes.toNat ((body.drop tail).take 32)
    let behind := tail + 32 + paddedLength length
    if UInt64.size ≤ length ∨ UInt64.size ≤ paddedLength length ∨ UInt64.size ≤ behind then
      .error (.invalidLength index)
    else if body.length < behind then .error (.truncated index)
    else do
      checkText index length ((body.drop (tail + 32)).take (paddedLength length))
      return behind

/-- Checks the argument with the given head word. A text has its tail at the octet `tail`;
the result is where the next tail is to start. -/
def checkArgument (body : Bytes) (index tail : Nat) (word : Bytes) :
    Schema → Except DecodeFault Nat
  | .address =>
    if Bytes.isZero (word.take 12) then .ok tail
    else .error (.invalidValue index .addressPadding)
  | .bool =>
    if word.toNat ≤ 1 then .ok tail else .error (.invalidValue index .boolean)
  | .uint8 =>
    if word.toNat < UInt8.size then .ok tail else .error (.overflow index .uint8)
  | .int64 =>
    if word.toNat < int64Bound ∨ Uint256.size ≤ word.toNat + int64Bound then .ok tail
    else .error (.overflow index .int64)
  | .uint256 => .ok tail
  | .string =>
    if word.toNat = tail ∧ tail < UInt64.size then checkTail body index tail
    else .error (.invalidOffset index)
  | .tuple _ => .error (.invalidValue index .composite)
  | .array _ => .error (.invalidValue index .composite)

/-- Checks the arguments from the given position on, and gives the octet behind the last
tail. -/
def checkArguments (body : Bytes) : (index tail : Nat) → List Field → Except DecodeFault Nat
  | _, tail, [] => .ok tail
  | index, tail, ⟨_, schema⟩ :: fields => do
    let word := (body.drop (32 * index)).take 32
    let tail ← checkArgument body index tail word schema
    checkArguments body (index + 1) tail fields

/-- Checks that the octets are the canonical encoding of values of the fields. -/
def check (fields : List Field) (body : Bytes) : Except DecodeFault Unit :=
  if body.length < 32 * fields.length then .error (.truncated (body.length / 32))
  else do
    let behind ← checkArguments body 0 (32 * fields.length) fields
    if behind ≠ body.length then throw (.lengthMismatch behind body.length)

end StakingGateway.Layout
