import StakingGateway.Text.Numeral
import StakingGateway.Text.Utf8

/-!
# Structured Text Values

Records are stored, and configurations are written, as JSON. A value is kept as far as a
record can depend on it: integers are exact and of any size, members keep their order and
their repetitions, and a string that stands for no text is told apart from the others. What
no record holds, a number with a fraction, an exponent or a signed zero, is kept without its
digits.

Writing is compact: no blanks, members in their order, and only those characters escaped
that have to be.

## Main definitions

* `Json`: the values.
* `Json.render`: the octets of a value.
-/

namespace StakingGateway

/-- A JSON value. -/
inductive Json where
  /-- The value `null`. -/
  | null
  /-- A truth value. -/
  | bool (value : Bool)
  /-- A number without fraction and exponent. -/
  | integer (value : Int)
  /-- Any other number, and the zero with a minus sign. -/
  | decimal
  /-- A string; `none` where its octets or its escapes make up no text. -/
  | string (text : Option String)
  /-- A list of values. -/
  | array (elements : List Json)
  /-- Named values, as they were written. -/
  | object (members : List (Option String × Json))
deriving Inhabited

namespace Json

/-- The octet of an ASCII character. -/
abbrev octet (c : Char) : UInt8 := c.toUInt8

/-- A string with the given text. -/
def text (value : String) : Json := .string (some value)

/-- An object with the given members. -/
def record (members : List (String × Json)) : Json :=
  .object (members.map fun member => (some member.1, member.2))

/-! ### Writing -/

/-- An octet of a string as it is written. Quotes, backslashes and control characters stand
behind a backslash. -/
def escape (b : UInt8) : Bytes :=
  if b = octet '"' then [octet '\\', octet '"']
  else if b = octet '\\' then [octet '\\', octet '\\']
  else if b = 0x08 then [octet '\\', octet 'b']
  else if b = 0x0C then [octet '\\', octet 'f']
  else if b = 0x0A then [octet '\\', octet 'n']
  else if b = 0x0D then [octet '\\', octet 'r']
  else if b = 0x09 then [octet '\\', octet 't']
  else if b < 0x20 then Bytes.ascii "\\u00" ++ (Bytes.toHexChars [b]).map octet
  else [b]

/-- A string as it is written. What stands for no text is written as an escape that has
none. -/
def renderString : Option String → Bytes
  | none => Bytes.ascii "\"\\ud800\""
  | some text => octet '"' :: (Text.utf8 text).flatMap escape ++ [octet '"']

mutual

/-- The octets of a value. -/
def render : Json → Bytes
  | null => Bytes.ascii "null"
  | bool true => Bytes.ascii "true"
  | bool false => Bytes.ascii "false"
  | integer value => Bytes.ascii (Text.decimal value)
  | decimal => Bytes.ascii "-0"
  | string text => renderString text
  | array [] => Bytes.ascii "[]"
  | array (element :: elements) => octet '[' :: render element ++ renderElements elements
  | object [] => [octet '\x7b', octet '\x7d']
  | object ((name, value) :: members) =>
    octet '\x7b' :: renderString name ++ octet ':' :: render value ++ renderMembers members

/-- The elements after the first, and the end of their list. -/
def renderElements : List Json → Bytes
  | [] => [octet ']']
  | element :: elements => octet ',' :: render element ++ renderElements elements

/-- The members after the first, and the end of their object. -/
def renderMembers : List (Option String × Json) → Bytes
  | [] => [octet '\x7d']
  | (name, value) :: members =>
    octet ',' :: renderString name ++ octet ':' :: render value ++ renderMembers members

end

end Json

end StakingGateway
