import StakingGateway.Address
import StakingGateway.Uint256

/-!
# Schemas of Call Data

What a method takes and returns is described by a schema: words of several kinds, strings,
and tuples and arrays of these. Each schema denotes the type of its values, so that an encoder
takes, and a decoder gives, values that fit the schema by construction.

The canonical name of a schema is what goes into a method's signature. It does not show the
names of the fields.

## Main definitions

* `Abi.Schema`, `Abi.Field`: schemas, and schemas with a name.
* `Abi.Schema.Value`, `Abi.Values`: the values of a schema, and of a list of fields.
* `Abi.Schema.isDynamic`: whether the width of a value depends on the value.
* `Abi.Schema.canonical`: the canonical name.
-/

namespace StakingGateway.Abi

mutual

/-- The schema of a value. -/
inductive Schema where
  /-- An account address. -/
  | address
  /-- A truth value. -/
  | bool
  /-- An unsigned 8-bit number. -/
  | uint8
  /-- A signed 64-bit number. -/
  | int64
  /-- An unsigned 256-bit number. -/
  | uint256
  /-- A text. -/
  | string
  /-- Values of the given fields, one each. -/
  | tuple (fields : List Field)
  /-- Any number of values of one schema. -/
  | array (element : Schema)

/-- A schema with a name. -/
structure Field where
  /-- The name. -/
  name : String
  /-- The schema. -/
  schema : Schema

end

mutual

/-- The values of a schema. -/
def Schema.Value : Schema → Type
  | .address => Address
  | .bool => Bool
  | .uint8 => UInt8
  | .int64 => Int64
  | .uint256 => Uint256
  | .string => String
  | .tuple fields => Values fields
  | .array element => List element.Value

/-- The values of a list of fields, in order. -/
def Values : List Field → Type
  | [] => Unit
  | ⟨_, schema⟩ :: fields => schema.Value × Values fields

end

mutual

/-- Whether the width of a value depends on the value. -/
def Schema.isDynamic : Schema → Bool
  | .string => true
  | .array _ => true
  | .tuple fields => anyDynamic fields
  | _ => false

/-- Whether the width of the value of some field depends on the value. -/
def anyDynamic : List Field → Bool
  | [] => false
  | ⟨_, schema⟩ :: fields => schema.isDynamic || anyDynamic fields

end

mutual

/-- The canonical name of a schema. -/
def Schema.canonical : Schema → String
  | .address => "address"
  | .bool => "bool"
  | .uint8 => "uint8"
  | .int64 => "int64"
  | .uint256 => "uint256"
  | .string => "string"
  | .tuple fields => "(" ++ canonicalList fields ++ ")"
  | .array element => element.canonical ++ "[]"

/-- The canonical names of the fields' schemas with commas between them. -/
def canonicalList : List Field → String
  | [] => ""
  | ⟨_, schema⟩ :: fields => schema.canonical ++ canonicalTail fields

/-- The canonical names of further fields' schemas, a comma before each. -/
def canonicalTail : List Field → String
  | [] => ""
  | ⟨_, schema⟩ :: fields => "," ++ schema.canonical ++ canonicalTail fields

end

mutual

/-- How many words the value takes where it is listed: the words of a value of fixed width,
or the one word of an offset. -/
def Schema.headWords : Schema → Nat
  | .tuple fields => if anyDynamic fields then 1 else headWordsOf fields
  | _ => 1

/-- How many words the values of the fields take where they are listed. -/
def headWordsOf : List Field → Nat
  | [] => 0
  | ⟨_, schema⟩ :: fields => schema.headWords + headWordsOf fields

end

/-- Whether the schema is neither a tuple nor an array. -/
def Schema.isFlat : Schema → Bool
  | .tuple _ => false
  | .array _ => false
  | _ => true

end StakingGateway.Abi
