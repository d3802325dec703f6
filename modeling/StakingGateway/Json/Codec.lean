import StakingGateway.Address
import StakingGateway.Json.Parser
import StakingGateway.Uint256

/-!
# Records as Structured Text

How the values that records are made of are written and read. Each type has one written
form; reading is more generous. A 256-bit number is written in hexadecimal and also read in
base two, eight and ten, with underscores anywhere among its digits, or from a plain integer
of 64 bits; an address is also read from a list of its octets, behind which one more value is
passed over if it is no octet.

A record is an object with its fields as members. On reading, members may come in any order,
other members are passed over, and no field may be given twice; a list of the values in the
order of the fields stands for the record too.

## Main definitions

* `Json.Codec`: the written form of a type and its reader.
* `Json.fields?`: the values of a record, one place for each field.
* `Json.required?`, `Json.optional?`: the value of a field that must be there, and of one
  that has a default.
-/

namespace StakingGateway.Json

/-- The written form of the values of a type. -/
class Codec (α : Type) where
  /-- What a written form looks like, as far as its reading depends on that. -/
  shape : Shape := .any
  /-- The written form of a value. -/
  toJson : α → Json
  /-- The value that a written form stands for. -/
  ofJson? : Json → Option α

export Codec (toJson ofJson?)

/-! ### Plain values -/

/-- The integer, if the value is one. -/
def integer? : Json → Option Int
  | .integer n => some n
  | _ => none

/-- The text, if the value is one. -/
def text? : Json → Option String
  | .string text => text
  | _ => none

instance : Codec Bool where
  toJson := .bool
  ofJson?
    | .bool b => some b
    | _ => none

instance : Codec String where
  toJson := text
  ofJson? := text?

instance : Codec UInt64 where
  toJson n := .integer n.toNat
  ofJson? json := do
    let n ← integer? json
    guard (0 ≤ n ∧ n < UInt64.size)
    return UInt64.ofNat n.toNat

instance : Codec Int64 where
  toJson n := .integer n.toInt
  ofJson? json := do
    let n ← integer? json
    guard (-int64Bound ≤ n ∧ n < int64Bound)
    return Int64.ofInt n

instance : Codec UInt8 where
  toJson n := .integer n.toNat
  ofJson? json := do
    let n ← integer? json
    guard (0 ≤ n ∧ n < UInt8.size)
    return UInt8.ofNat n.toNat

instance {α : Type} [Codec α] : Codec (List α) where
  shape := .list (Codec.shape α)
  toJson values := .array (values.map toJson)
  ofJson?
    | .array elements => elements.mapM ofJson?
    | _ => none

/-! ### Wide numbers and addresses -/

/-- The base that the mark at the start of a number tells, and the digits behind it. -/
def splitBase : List Char → Nat × List Char
  | '0' :: mark :: digits =>
    if mark = 'x' ∨ mark = 'X' then (16, digits)
    else if mark = 'o' ∨ mark = 'O' then (8, digits)
    else if mark = 'b' ∨ mark = 'B' then (2, digits)
    else (10, '0' :: mark :: digits)
  | digits => (10, digits)

/-- The 256-bit number that a text spells. -/
def wideNumber? (spelling : String) : Option Uint256 :=
  let (base, digits) := splitBase spelling.toList
  (Text.ofDigits? base (digits.filter (· ≠ '_'))).bind Uint256.ofNat?

instance : Codec Uint256 where
  toJson a := text (String.ofList ('0' :: 'x' :: Nat.toDigits 16 a.toNat))
  ofJson?
    | .integer n => (ofJson? (α := UInt64) (.integer n)).map Uint256.ofUInt64
    | .string (some spelling) => wideNumber? spelling
    | _ => none

/-- Whether these values may stand behind octets that are complete: none, or one that is no
octet. -/
def endsOctets : List Json → Bool
  | [] => true
  | [json] => (ofJson? (α := UInt8) json).isNone
  | _ => false

instance : Codec Address where
  shape := .octets 20
  toJson address := text address.toHex
  ofJson?
    | .string (some spelling) => Address.ofHex? spelling
    | .array elements => do
      guard (endsOctets (elements.drop 20))
      ((elements.take 20).mapM ofJson?).bind Address.ofOctets?
    | _ => none

/-! ### Records -/

/-- The value of the member with the name; the first one, should there be several. -/
def member? (members : List (Option String × Json)) (name : String) : Option Json :=
  (members.find? fun member => member.1 == some name).map (·.2)

/-- Whether every member has a name that is a text, and no two of them have one of the names
that count. -/
def wellNamed (names : List String) (members : List (Option String × Json)) : Bool :=
  members.all (·.1.isSome) &&
    names.all fun name => (members.filter fun member => member.1 == some name).length ≤ 1

/-- What a record gives for each of the fields, in their order; `none` in a place where it
gives nothing. -/
def fields? (names : List String) : Json → Option (List (Option Json))
  | .object members =>
    if wellNamed names members then some (names.map (member? members)) else none
  | .array elements =>
    if elements.length ≤ names.length then
      some (elements.map some ++ List.replicate (names.length - elements.length) none)
    else none
  | _ => none

/-- The value of a field that has to be given. -/
def required? {α : Type} [Codec α] (given : Option Json) : Option α :=
  given.bind ofJson?

/-- The value of a field that may be left out. -/
def optional? {α : Type} [Codec α] (otherwise : α) : Option Json → Option α
  | none => some otherwise
  | some json => ofJson? json

/-! ### Octets -/

/-- The octets of a value's written form. -/
def encode {α : Type} [Codec α] (a : α) : Bytes :=
  (toJson a).render

/-- The value that octets spell. -/
def decode? {α : Type} [Codec α] (octets : Bytes) : Option α :=
  (parse? (Codec.shape α) octets).bind ofJson?

end StakingGateway.Json
