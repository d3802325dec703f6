import StakingGateway.Json.Value

/-!
# Tokens of Structured Text

The reader takes octets, not characters, because what is stored need not be a text: a string
of malformed octets is read as a value that stands for no text, and only who needs the text
refuses it. Blanks may stand before any token.

## Main definitions

* `Json.number`: a number.
* `Json.stringTail`: a string behind its opening quote.
* `Json.word`, `Json.token?`: what is spelled in one way only.
-/

namespace StakingGateway.Json

/-- Whether the octet may stand between tokens. -/
def isBlank (b : UInt8) : Bool :=
  b == octet ' ' || b == octet '\t' || b == octet '\n' || b == octet '\r'

/-- The octets from the first one on that is not blank. -/
def skipBlank (s : Bytes) : Bytes :=
  s.dropWhile isBlank

/-! ### Numbers -/

/-- Whether the octet is a decimal digit. -/
def isDigit (b : UInt8) : Bool :=
  octet '0' ≤ b && b ≤ octet '9'

/-- The octets behind one digit or more. -/
def skipDigits? (s : Bytes) : Option Bytes :=
  if (s.takeWhile isDigit).isEmpty then none else some (s.dropWhile isDigit)

/-- The octets behind the fraction of a number, if one starts here; a point needs digits. -/
def skipFraction? : Bytes → Option Bytes
  | [] => some []
  | b :: rest => if b = octet '.' then skipDigits? rest else some (b :: rest)

/-- The octets behind one sign, if one stands here. -/
def skipSign : Bytes → Bytes
  | [] => []
  | b :: rest => if b = octet '+' ∨ b = octet '-' then rest else b :: rest

/-- The octets behind the exponent of a number, if one starts here; its mark needs digits. -/
def skipExponent? : Bytes → Option Bytes
  | [] => some []
  | b :: rest =>
    if b = octet 'e' ∨ b = octet 'E' then skipDigits? (skipSign rest) else some (b :: rest)

/-- The number that a row of digits denotes. -/
def ofDigits (digits : Bytes) : Nat :=
  digits.foldl (fun value b => 10 * value + (b.toNat - 48)) 0

/-- A number without its sign. A zero may stand before other digits only as the whole of the
part before the point. -/
def unsigned (negative : Bool) (s : Bytes) : Option (Json × Bytes) := do
  let digits := s.takeWhile isDigit
  guard (digits ≠ [] ∧ (digits.head? = some (octet '0') → digits.length = 1))
  let rest := s.dropWhile isDigit
  let rest' ← skipExponent? (← skipFraction? rest)
  if rest'.length < rest.length then return (.decimal, rest')
  match negative, ofDigits digits with
  | false, n => return (.integer n, rest)
  | true, 0 => return (.decimal, rest)
  | true, n => return (.integer (-n), rest)

/-- A number, its sign included. -/
def number : Bytes → Option (Json × Bytes)
  | [] => none
  | b :: rest => if b = octet '-' then unsigned true rest else unsigned false (b :: rest)

/-! ### Strings -/

/-- A piece of a string between its quotes: an octet that stands for itself, or one 16-bit
unit given in hexadecimal. -/
inductive Piece where
  /-- An octet of the text. -/
  | octet (value : UInt8)
  /-- A 16-bit unit. -/
  | unit (value : Nat)

/-- The octet that a letter behind a backslash stands for. -/
def escaped? (letter : UInt8) : Option UInt8 :=
  if letter = octet '"' then some (octet '"')
  else if letter = octet '\\' then some (octet '\\')
  else if letter = octet '/' then some (octet '/')
  else if letter = octet 'b' then some 0x08
  else if letter = octet 'f' then some 0x0C
  else if letter = octet 'n' then some 0x0A
  else if letter = octet 'r' then some 0x0D
  else if letter = octet 't' then some 0x09
  else none

/-- The number that four hexadecimal digits denote. -/
def unit? (digits : Bytes) : Option Nat :=
  Text.ofDigits? 16 (digits.map fun b => Char.ofNat b.toNat)

/-- The pieces of a string up to its closing quote, and what follows the quote. Control
characters do not stand for themselves. -/
def pieces : Bytes → Option (List Piece × Bytes)
  | [] => none
  | [b] => if b = octet '"' then some ([], []) else none
  | b :: letter :: rest =>
    if b = octet '"' then some ([], letter :: rest)
    else if b = octet '\\' then
      if letter = octet 'u' then
        match rest with
        | d₁ :: d₂ :: d₃ :: d₄ :: rest => do
          let unit ← unit? [d₁, d₂, d₃, d₄]
          let (tail, rest) ← pieces rest
          return (.unit unit :: tail, rest)
        | _ => none
      else do
        let value ← escaped? letter
        let (tail, rest) ← pieces rest
        return (.octet value :: tail, rest)
    else if b < 0x20 then none
    else do
      let (tail, rest) ← pieces (letter :: rest)
      return (.octet b :: tail, rest)

/-- Whether the unit is the first of a pair that stands for one character. -/
def isLeading (unit : Nat) : Bool :=
  0xD800 ≤ unit && unit < 0xDC00

/-- Whether the unit is the second of a pair that stands for one character. -/
def isTrailing (unit : Nat) : Bool :=
  0xDC00 ≤ unit && unit < 0xE000

/-- The character of a pair of units. -/
def charOfPair (leading trailing : Nat) : Char :=
  Char.ofNat (0x10000 + (leading - 0xD800) * 0x400 + (trailing - 0xDC00))

/-- The octets that the pieces make up. Half a pair makes up none. -/
def assemble : List Piece → Option Bytes
  | [] => some []
  | .octet b :: tail => (assemble tail).map (b :: ·)
  | [.unit u] =>
    if isLeading u || isTrailing u then none
    else some (Text.utf8 (String.singleton (Char.ofNat u)))
  | .unit u :: .octet b :: tail =>
    if isLeading u || isTrailing u then none
    else (assemble (.octet b :: tail)).map (Text.utf8 (String.singleton (Char.ofNat u)) ++ ·)
  | .unit u :: .unit v :: tail =>
    if isLeading u then
      if isTrailing v then
        (assemble tail).map (Text.utf8 (String.singleton (charOfPair u v)) ++ ·)
      else none
    else if isTrailing u then none
    else (assemble (.unit v :: tail)).map (Text.utf8 (String.singleton (Char.ofNat u)) ++ ·)

/-- The text that the pieces make up, if they make up one. -/
def textOf? (pieces : List Piece) : Option String :=
  (assemble pieces).bind Text.ofUtf8?

/-- The rest of a string behind its opening quote. -/
def stringTail (s : Bytes) : Option (Option String × Bytes) :=
  (pieces s).map fun (pieces, rest) => (textOf? pieces, rest)

/-! ### Words and marks -/

/-- The value, if the octets start with the word. -/
def word (spelling : String) (value : Json) (s : Bytes) : Option (Json × Bytes) :=
  if (Bytes.ascii spelling).isPrefixOf s then some (value, s.drop spelling.length) else none

/-- The octets behind a token of one octet, blanks before it skipped. -/
def token? (c : Char) (s : Bytes) : Option Bytes :=
  match skipBlank s with
  | [] => none
  | b :: rest => if b = octet c then some rest else none

end StakingGateway.Json
