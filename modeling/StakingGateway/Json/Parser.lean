import StakingGateway.Json.OctetList

/-!
# Reading Structured Text

Blanks may stand between any two tokens. Nothing may follow the value.

How a text is read depends in one point on what is expected there: a list that has to hold a
known number of octets is read as such a list (`octetList`). A shape says at which places that
is so. Apart from these lists the text alone determines the value.

The reader descends into the value and carries a bound on its depth that the number of octets
supplies, since each level takes up at least one of them.

## Main definitions

* `Json.Shape`: what is expected of a value.
* `Json.value`: the value at the start of the octets, with what follows it.
* `Json.parse?`: the value that the octets spell.
-/

namespace StakingGateway.Json

/-! ### What is expected -/

/-- What is expected of a value, as far as its reading depends on that. -/
inductive Shape where
  /-- Nothing is expected. -/
  | any
  /-- If it is a list, it holds so many octets. -/
  | octets (count : Nat)
  /-- If it is a list, this is expected of its elements. -/
  | list (element : Shape)
  /-- What is expected of the values of the fields, be they members or elements. -/
  | record (fields : List (String × Shape))
deriving Inhabited

namespace Shape

/-- What is expected of the element in the place. -/
def element : Shape → (place : Nat) → Shape
  | list element, _ => element
  | record fields, place => (fields[place]?).elim any (·.2)
  | _, _ => any

/-- What is expected of the member with the name. -/
def member : Shape → (name : Option String) → Shape
  | record fields, name => (fields.find? fun field => some field.1 == name).elim any (·.2)
  | _, _ => any

end Shape

/-! ### Values -/

/-- The name of a member and the colon behind it. -/
def memberName (s : Bytes) : Option (Option String × Bytes) := do
  let (name, rest) ← stringTail (← token? '"' s)
  return (name, ← token? ':' rest)

mutual

/-- The value at the start of the octets, and what follows it. -/
def value : (depth : Nat) → Shape → Bytes → Option (Json × Bytes)
  | 0, _, _ => none
  | depth + 1, shape, s =>
    match skipBlank s with
    | [] => none
    | b :: rest =>
      if b = octet 'n' then word "null" .null (b :: rest)
      else if b = octet 't' then word "true" (.bool true) (b :: rest)
      else if b = octet 'f' then word "false" (.bool false) (b :: rest)
      else if b = octet '"' then (stringTail rest).map fun (text, rest) => (.string text, rest)
      else if b = octet '[' then
        match shape, token? ']' rest with
        | .octets count, _ => (octetList count rest).map fun (octets, rest) =>
          (.array (octets.map fun b => .integer b.toNat), rest)
        | _, some rest => some (.array [], rest)
        | shape, none => do
          let (first, rest) ← value depth (shape.element 0) rest
          let (others, rest) ← elements depth shape 1 rest
          return (.array (first :: others), rest)
      else if b = octet '\x7b' then
        match token? '\x7d' rest with
        | some rest => some (.object [], rest)
        | none => do
          let (name, rest) ← memberName rest
          let (first, rest) ← value depth (shape.member name) rest
          let (others, rest) ← members depth shape rest
          return (.object ((name, first) :: others), rest)
      else number (b :: rest)

/-- The elements of a list from the place on, which is not the first one, and what follows the
list. -/
def elements : (depth : Nat) → Shape → (place : Nat) → Bytes → Option (List Json × Bytes)
  | 0, _, _, _ => none
  | depth + 1, shape, place, s =>
    match token? ']' s with
    | some rest => some ([], rest)
    | none => do
      let (element, rest) ← value depth (shape.element place) (← token? ',' s)
      let (others, rest) ← elements depth shape (place + 1) rest
      return (element :: others, rest)

/-- The members of an object after its first one, and what follows the object. -/
def members : (depth : Nat) → Shape → Bytes → Option (List (Option String × Json) × Bytes)
  | 0, _, _ => none
  | depth + 1, shape, s =>
    match token? '\x7d' s with
    | some rest => some ([], rest)
    | none => do
      let (name, rest) ← memberName (← token? ',' s)
      let (member, rest) ← value depth (shape.member name) rest
      let (others, rest) ← members depth shape rest
      return ((name, member) :: others, rest)

end

/-- The value that the octets spell, if they spell one and nothing else. -/
def parse? (shape : Shape) (s : Bytes) : Option Json := do
  let (result, rest) ← value (s.length + 1) shape s
  guard (skipBlank rest = [])
  return result

end StakingGateway.Json
