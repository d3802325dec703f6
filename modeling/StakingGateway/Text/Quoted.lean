import StakingGateway.Text.Printable

/-!
# Quoted Text

Messages show a foreign text between quotes, so that its ends and its odd characters can be
seen: the quote in use, the backslash, and the usual control characters stand behind a
backslash, and a character that would not be seen as itself is given by its code point in
hexadecimal.

## Main definitions

* `Text.quoted`: a text between double quotes.
* `Text.quotedChar`: a character between single quotes.
-/

namespace StakingGateway.Text

/-- The letter that stands behind a backslash for the character, if it has one. The quote
in use is its own letter. -/
def escapeLetter? (quote c : Char) : Option Char :=
  match c with
  | '\\' => some '\\'
  | '\n' => some 'n'
  | '\r' => some 'r'
  | '\t' => some 't'
  | '\x00' => some '0'
  | c => if c = quote then some c else none

/-- The character as it is shown between two of the quotes. -/
def escape (quote c : Char) : List Char :=
  match escapeLetter? quote c with
  | some letter => ['\\', letter]
  | none =>
    if isPrintable c then [c]
    else '\\' :: 'u' :: '\x7b' :: (Nat.toDigits 16 c.toNat ++ ['\x7d'])

/-- The text between double quotes. -/
def quoted (text : String) : String :=
  String.ofList ('"' :: text.toList.flatMap (escape '"') ++ ['"'])

/-- The character between single quotes. -/
def quotedChar (c : Char) : String :=
  String.ofList ('\'' :: escape '\'' c ++ ['\''])

end StakingGateway.Text
