import StakingGateway.Bytes

/-!
# Numerals

Numbers as texts: the digits of a number in a base, and the number that digits denote. Both
leave the sign and every mark before or inside the digits to their users.

## Main definitions

* `Text.decimal`: an integer in base ten, with a minus sign where it is negative.
* `Text.ofDigits?`: the number that a list of digits denotes.
* `Text.readUInt64?`: an unsigned 64-bit number as a configuration value spells it.
-/

namespace StakingGateway.Text

/-- The integer in base ten. -/
def decimal (n : Int) : String :=
  match n with
  | .ofNat n => String.ofList (Nat.toDigits 10 n)
  | .negSucc n => String.ofList ('-' :: Nat.toDigits 10 (n + 1))

/-- The value of a digit of the base, letters of either case counting on from ten. -/
def digit? (base : Nat) (c : Char) : Option Nat :=
  (Bytes.hexDigit? c).filter (· < base)

/-- The number that digits of the base denote, most significant first; no digits denote
zero. The base is at most 16. -/
def ofDigits? (base : Nat) (digits : List Char) : Option Nat :=
  digits.foldlM (fun value c => (digit? base c).map (base * value + ·)) 0

/-- The digits behind one leading plus sign, if there is one. -/
def dropPlus : List Char → List Char
  | '+' :: digits => digits
  | digits => digits

/-- The number that a text spells in base ten, at least one digit behind at most one plus
sign, if it fits 64 bits. -/
def readUInt64? (text : String) : Option UInt64 := do
  let digits := dropPlus text.toList
  guard (digits ≠ [])
  let value ← ofDigits? 10 digits
  guard (value < UInt64.size)
  return UInt64.ofNat value

end StakingGateway.Text
