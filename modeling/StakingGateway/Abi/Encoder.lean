import StakingGateway.Abi.Schema
import StakingGateway.Text.Utf8

/-!
# Encoding of Call Data

The canonical octets of values. Values that stand in a list are written as a row of heads and
behind it a row of tails: a value of fixed width is its own head and has no tail, any other
has as its head the distance from the start of the row to its tail. Tails follow each other
in order and without gaps, so values have one canonical encoding.

## Main definitions

* `Abi.Chunk`, `Abi.arrange`: encoded values of a list, and the row of heads and tails.
* `Abi.encode`, `Abi.encodeValues`: the octets of one value, and of the values of fields.
-/

namespace StakingGateway.Abi

/-- A word that holds the number. -/
def word (n : Nat) : Bytes :=
  Bytes.ofNat 32 n

/-- A word that holds the signed number, its sign filling the word. -/
def signedWord (n : Int64) : Bytes :=
  word (n.toInt % Uint256.size).toNat

/-- The octets followed by zeros up to a whole number of words. -/
def padded (octets : Bytes) : Bytes :=
  octets ++ Bytes.zeros ((32 - octets.length % 32) % 32)

/-- The octets of a value that stands in a list. -/
structure Chunk where
  /-- Whether the value stands behind the heads, with an offset among them. -/
  isDynamic : Bool
  /-- The octets of the value. -/
  octets : Bytes

/-- How many octets the value takes among the heads. -/
def Chunk.headLength (chunk : Chunk) : Nat :=
  if chunk.isDynamic then 32 else chunk.octets.length

/-- How many octets the values take among the heads. -/
def headsLength : List Chunk → Nat
  | [] => 0
  | chunk :: chunks => chunk.headLength + headsLength chunks

/-- The heads of the values, the first tail of which is at the given offset. -/
def heads : (offset : Nat) → List Chunk → Bytes
  | _, [] => []
  | offset, chunk :: chunks =>
    if chunk.isDynamic then word offset ++ heads (offset + chunk.octets.length) chunks
    else chunk.octets ++ heads offset chunks

/-- The tails of the values. -/
def tails : List Chunk → Bytes
  | [] => []
  | chunk :: chunks => if chunk.isDynamic then chunk.octets ++ tails chunks else tails chunks

/-- The heads and behind them the tails. -/
def arrange (chunks : List Chunk) : Bytes :=
  heads (headsLength chunks) chunks ++ tails chunks

mutual

/-- The octets of a value. -/
def encode : (schema : Schema) → schema.Value → Bytes
  | .address, (address : Address) => Bytes.zeros 12 ++ address.octets
  | .bool, (b : Bool) => word b.toNat
  | .uint8, (n : UInt8) => word n.toNat
  | .int64, (n : Int64) => signedWord n
  | .uint256, (n : Uint256) => n.toBytes
  | .string, (text : String) =>
    word (Text.utf8 text).length ++ padded (Text.utf8 text)
  | .tuple fields, values => arrange (chunks fields values)
  | .array element, (values : List element.Value) =>
    word values.length ++
      arrange (values.map fun value => ⟨element.isDynamic, encode element value⟩)

/-- The encoded values of the fields. -/
def chunks : (fields : List Field) → Values fields → List Chunk
  | [], _ => []
  | ⟨_, schema⟩ :: fields, (value, values) =>
    ⟨schema.isDynamic, encode schema value⟩ :: chunks fields values

end

/-- The octets of the values of the fields. -/
def encodeValues (fields : List Field) (values : Values fields) : Bytes :=
  arrange (chunks fields values)

end StakingGateway.Abi
