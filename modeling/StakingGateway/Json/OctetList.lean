import StakingGateway.Json.Token

/-!
# Reading a List of Octets

A list of octets whose number is known is read up to that number. Then the list is closed, or
a comma stands there, and what follows the comma is tried as one octet more, which it must
not be. A trial that fails is forgotten, but not taken back: the octets that it has looked at
are used up, and the list has to be closed right behind them. So one word, number or string
that is no octet may stand at the end of the list, or nothing at all behind the comma, while
a list or an object, which no octet starts like, may not.

A trial ends with its token, or with the first octet that cannot belong to the token. Most
tokens use that octet up; one that could belong to the next token is left.

## Main definitions

* `Json.octetAt?`: the octet at the start of a text.
* `Json.afterTrial`: what the failed trial of an octet leaves.
* `Json.octetList`: the octets of a list, and what follows it.
-/

namespace StakingGateway.Json

/-- The octet that the text starts with, and what follows it. -/
def octetAt? (s : Bytes) : Option (UInt8 × Bytes) :=
  match number (skipBlank s) with
  | some (.integer n, rest) =>
    if 0 ≤ n ∧ n < UInt8.size then some (UInt8.ofNat n.toNat, rest) else none
  | _ => none

/-! ### Trials that fail -/

/-- What the trial of a word leaves. A letter that differs is used up. -/
def afterWord : (letters : Bytes) → Bytes → Bytes
  | [], s => s
  | _, [] => []
  | letter :: letters, b :: rest => if b = letter then afterWord letters rest else rest

/-- What the trial of a string leaves behind the opening quote. A control character, a letter
that stands for nothing behind a backslash, and hexadecimal digits that spell no unit are used
up; so is what stands in the place of the unit that a half of a pair calls for. -/
def afterText : (half : Bool) → Bytes → Bytes
  | half, b :: letter :: rest =>
    if b = octet '\\' then
      if letter = octet 'u' then
        match rest with
        | d₁ :: d₂ :: d₃ :: d₄ :: rest =>
          match unit? [d₁, d₂, d₃, d₄] with
          | none => rest
          | some unit => if isTrailing unit = half then afterText (isLeading unit) rest else rest
        | _ => []
      else if half || (escaped? letter).isNone then rest
      else afterText false rest
    else if half || b == octet '"' || b < 0x20 then letter :: rest
    else afterText false (letter :: rest)
  | _, _ => []

/-- The least exponent that is too large to be read on. -/
def exponentBound : Nat := 2147483648

/-- What the trial of an exponent leaves behind its sign. Of a bounded exponent the digit that
takes it to the bound is the last one used up. -/
def afterExponentDigits (bounded : Bool) : (exponent : Nat) → Bytes → Bytes
  | _, [] => []
  | exponent, b :: rest =>
    if isDigit b then
      let exponent := ofDigits [b] + 10 * exponent
      if bounded && exponentBound ≤ exponent then rest
      else afterExponentDigits bounded exponent rest
    else b :: rest

/-- What the trial of an exponent leaves behind its mark. What stands in the place of the
first digit is used up. The exponent is bounded if it has no minus sign and belongs to a number
that is not zero. -/
def afterExponent (isZero : Bool) (s : Bytes) : Bytes :=
  match skipSign s with
  | [] => []
  | b :: rest =>
    if isDigit b then
      afterExponentDigits (!isZero && s.head? != some (octet '-')) 0 (b :: rest)
    else rest

/-- What the trial of a number with these digits leaves where the exponent may stand. -/
def afterDigits (digits : Bytes) : Bytes → Bytes
  | [] => []
  | b :: rest =>
    if b = octet 'e' ∨ b = octet 'E' then afterExponent (digits.all (· == octet '0')) rest
    else b :: rest

/-- What the trial of a number leaves behind its sign. It goes no further than a zero that
stands before other digits, and than a point without digits. -/
def afterNumber (s : Bytes) : Bytes :=
  let digits := s.takeWhile isDigit
  if digits.head? = some (octet '0') ∧ digits.length ≠ 1 then s.tail
  else
    match s.dropWhile isDigit with
    | [] => []
    | b :: rest =>
      if b = octet '.' then
        let decimals := rest.takeWhile isDigit
        if decimals.isEmpty then rest
        else afterDigits (digits ++ decimals) (rest.dropWhile isDigit)
      else afterDigits digits (b :: rest)

/-- What the failed trial of an octet leaves of the text. -/
def afterTrial : Bytes → Bytes
  | [] => []
  | b :: rest =>
    if b = octet 'n' then afterWord (Bytes.ascii "ull") rest
    else if b = octet 't' then afterWord (Bytes.ascii "rue") rest
    else if b = octet 'f' then afterWord (Bytes.ascii "alse") rest
    else if b = octet '"' then afterText false rest
    else if b = octet '-' then
      if rest.head?.any isDigit then afterNumber rest else rest.tail
    else if isDigit b then afterNumber (b :: rest)
    else b :: rest

/-! ### Lists -/

/-- What follows the list whose last octet stands before the text. -/
def octetListEnd? (s : Bytes) : Option Bytes :=
  match token? ']' s with
  | some rest => some rest
  | none => do
    let rest ← token? ',' s
    match octetAt? rest with
    | some _ => none
    | none => token? ']' (afterTrial (skipBlank rest))

/-- The octets of a list behind its opening bracket, and what follows the list. -/
def octetList : (count : Nat) → Bytes → Option (List UInt8 × Bytes)
  | 0, s => return ([], ← octetListEnd? s)
  | 1, s => do
    let (b, rest) ← octetAt? s
    return ([b], ← octetListEnd? rest)
  | count + 2, s => do
    let (b, rest) ← octetAt? s
    let (others, rest) ← octetList (count + 1) (← token? ',' rest)
    return (b :: others, rest)

end StakingGateway.Json
