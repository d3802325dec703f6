import StakingGateway.Abi.Schema
import StakingGateway.Text.Utf8

/-!
# Decoding of Call Data

The generous decoder: it follows the offsets wherever they lead inside the data and takes
from each word the part that its schema has a use for, so many octet strings decode to one
value. What it insists on is that the data do not end before the value does, and that
offsets and lengths fit 64 bits. Whether data are canonical is for `Layout` to say.

## Main definitions

* `Abi.Fault`: why data do not decode.
* `Abi.decodeValues`: the values of the fields that data hold.
-/

namespace StakingGateway.Abi

/-- Why data do not decode. -/
inductive Fault where
  /-- The data end before the value does. -/
  | overrun
  /-- The word is to be an offset or a length, and does not fit 64 bits. -/
  | wideOffset (word : Bytes)
deriving DecidableEq

/-- The wording of the fault. -/
def Fault.message : Fault → String
  | overrun => "ABI decoding failed: buffer overrun while deserializing"
  | wideOffset word =>
    "type check failed for \"offset (usize)\" with data: " ++ String.ofList word.toHexChars

/-- Takes a word from the start of the octets. -/
def takeWord (rest : Bytes) : Except Fault (Bytes × Bytes) :=
  if rest.length < 32 then .error .overrun else .ok (rest.take 32, rest.drop 32)

/-- Takes an offset or a length from the start of the octets. -/
def takeOffset (rest : Bytes) : Except Fault (Nat × Bytes) := do
  let (word, rest) ← takeWord rest
  if word.toNat < UInt64.size then return (word.toNat, rest) else throw (.wideOffset word)

/-- The octets from the offset on; an offset to the end of the octets is in range. -/
def childBuffer (buffer : Bytes) (offset : Nat) : Except Fault Bytes :=
  if buffer.length < offset then .error .overrun else .ok (buffer.drop offset)

/-- Takes values of one kind, one after the other. -/
def takeMany {α : Type} (take : Bytes → Except Fault (α × Bytes)) :
    Nat → Bytes → Except Fault (List α × Bytes)
  | 0, rest => .ok ([], rest)
  | n + 1, rest => do
    let (value, rest) ← take rest
    let (values, rest) ← takeMany take n rest
    return (value :: values, rest)

/-- Takes a value that is a word. -/
def takeValue {α : Type} (ofWord : Bytes → α) (rest : Bytes) : Except Fault (α × Bytes) := do
  let (word, rest) ← takeWord rest
  return (ofWord word, rest)

/-- Takes a value that stands where an offset at the start of the octets says. -/
def takeChild {α : Type} (decode : Bytes → Except Fault α) (buffer rest : Bytes) :
    Except Fault (α × Bytes) := do
  let (offset, rest) ← takeOffset rest
  let value ← decode (← childBuffer buffer offset)
  return (value, rest)

/-- A text: its length, then its octets. -/
def decodeText (buffer : Bytes) : Except Fault String := do
  let (length, rest) ← takeOffset buffer
  if rest.length < length then throw .overrun
  return Text.ofUtf8Lossy (rest.take length)

/-- Values of one kind: their number, then the values, which have to have room for their
heads. -/
def decodeList {α : Type} (headWords : Nat)
    (take : (buffer rest : Bytes) → Except Fault (α × Bytes)) (buffer : Bytes) :
    Except Fault (List α) := do
  let (count, rest) ← takeOffset buffer
  if rest.length / 32 < headWords * count then throw .overrun
  let (values, _) ← takeMany (take rest) count rest
  return values

mutual

/-- Takes a value from the octets `rest` of the row of heads at the start of `buffer`. -/
def take : (schema : Schema) → (buffer rest : Bytes) → Except Fault (schema.Value × Bytes)
  | .address, _, rest => takeValue (α := Address) (fun word => .ofNat word.toNat) rest
  | .bool, _, rest => takeValue (α := Bool) (fun word => !word.isZero) rest
  | .uint8, _, rest => takeValue (α := UInt8) (fun word => .ofNat word.toNat) rest
  | .int64, _, rest => takeValue (α := Int64) (fun word => .ofNat word.toNat) rest
  | .uint256, _, rest => takeValue (α := Uint256) (fun word => .truncate word.toNat) rest
  | .string, buffer, rest => takeChild (α := String) decodeText buffer rest
  | .tuple fields, buffer, rest =>
    if anyDynamic fields then
      takeChild (fun child => (takeFields fields child child).map (·.1)) buffer rest
    else takeFields fields buffer rest
  | .array element, buffer, rest =>
    takeChild (α := List element.Value) (decodeList element.headWords (take element))
      buffer rest

/-- Takes the values of the fields, one after the other. -/
def takeFields : (fields : List Field) → (buffer rest : Bytes) →
    Except Fault (Values fields × Bytes)
  | [], _, rest => .ok ((), rest)
  | ⟨_, schema⟩ :: fields, buffer, rest => do
    let (value, rest) ← take schema buffer rest
    let (values, rest) ← takeFields fields buffer rest
    return ((value, values), rest)

end

/-- The values of the fields that the data hold. What follows them is passed over. -/
def decodeValues (fields : List Field) (data : Bytes) : Except Fault (Values fields) :=
  (takeFields fields data data).map (·.1)

end StakingGateway.Abi
