import StakingGateway.Bytes

/-!
# UTF-8

Texts travel as UTF-8 octets. Strict reading (`Text.ofUtf8?`) accepts exactly the octets of
some text, and is the inverse of writing: `ofUtf8?_utf8` and `utf8_of_ofUtf8?`. Repairing
reading (`Text.ofUtf8Lossy`) never fails: it puts the replacement character for each maximal
part that begins like a character and then goes wrong.

## Main definitions

* `Text.utf8`: the octets of a text.
* `Text.ofUtf8?`: the text of well-formed octets.
* `Text.ofUtf8Lossy`: the text of any octets, malformed parts replaced.
-/

namespace StakingGateway.Text

/-- The UTF-8 octets of a text. -/
def utf8 (text : String) : Bytes :=
  text.toUTF8.data.toList

/-- The text whose UTF-8 octets these are, if there is one. -/
def ofUtf8? (octets : Bytes) : Option String :=
  String.fromUTF8? ⟨octets.toArray⟩

/-- What is written reads back. -/
@[simp] theorem ofUtf8?_utf8 (text : String) : ofUtf8? (utf8 text) = some text := by
  have h : (⟨(utf8 text).toArray⟩ : ByteArray) = text.toByteArray := rfl
  unfold ofUtf8? String.fromUTF8?
  rw [h, dif_pos text.isValidUTF8]
  rfl

/-- What reads is what was written: no other octets stand for the same text. -/
theorem utf8_of_ofUtf8? {octets : Bytes} {text : String} (h : ofUtf8? octets = some text) :
    utf8 text = octets := by
  unfold ofUtf8? String.fromUTF8? at h
  split at h
  · cases h
    rfl
  · cases h

/-- Different texts have different octets. -/
theorem utf8_injective {s t : String} (h : utf8 s = utf8 t) : s = t := by
  have := congrArg ofUtf8? h
  simpa using this

/-! ### Repairing reading -/

/-- How many octets a character takes whose first octet is given, and the bounds within
which its second octet lies; `none` where no character starts so. The bounds leave out
overlong forms, surrogates and numbers beyond the last character. -/
def lead? (octet : UInt8) : Option (Nat × UInt8 × UInt8) :=
  if octet < 0x80 then some (1, 0, 0)
  else if octet < 0xC2 then none
  else if octet < 0xE0 then some (2, 0x80, 0xBF)
  else if octet = 0xE0 then some (3, 0xA0, 0xBF)
  else if octet = 0xED then some (3, 0x80, 0x9F)
  else if octet < 0xF0 then some (3, 0x80, 0xBF)
  else if octet = 0xF0 then some (4, 0x90, 0xBF)
  else if octet < 0xF4 then some (4, 0x80, 0xBF)
  else if octet = 0xF4 then some (4, 0x80, 0x8F)
  else none

/-- Whether the octet continues a character. -/
def isContinuation (octet : UInt8) : Bool :=
  0x80 ≤ octet && octet ≤ 0xBF

/-- How many of the octets after a first octet belong to the character that it starts: at
most `width - 1`, the second within its bounds, the others continuations. -/
def tailLength (width : Nat) (low high : UInt8) : Bytes → Nat
  | [] => 0
  | second :: rest =>
    if 1 < width ∧ low ≤ second ∧ second ≤ high then
      1 + ((rest.take (width - 2)).takeWhile isContinuation).length
    else 0

/-- The character of a complete, well-formed sequence of octets. -/
def charOfSequence : Bytes → Char
  | [a] => Char.ofNat a.toNat
  | [a, b] => Char.ofNat (a.toNat % 32 * 64 + b.toNat % 64)
  | [a, b, c] => Char.ofNat (a.toNat % 16 * 4096 + b.toNat % 64 * 64 + c.toNat % 64)
  | [a, b, c, d] =>
    Char.ofNat (a.toNat % 8 * 262144 + b.toNat % 64 * 4096 + c.toNat % 64 * 64 + d.toNat % 64)
  | _ => '\ufffd'

/-- The characters of the octets, with the replacement character for each maximal part that
is cut short or cannot start a character. The first number counts octets that are already
taken care of. -/
def repair : (skip : Nat) → Bytes → List Char
  | _, [] => []
  | skip + 1, _ :: rest => repair skip rest
  | 0, first :: rest =>
    match lead? first with
    | none => '\ufffd' :: repair 0 rest
    | some (width, low, high) =>
      let tail := tailLength width low high rest
      if tail + 1 = width then charOfSequence (first :: rest.take tail) :: repair tail rest
      else '\ufffd' :: repair tail rest

/-- The text of the octets: their own text where they are well formed, otherwise what is
left after `repair`. -/
def ofUtf8Lossy (octets : Bytes) : String :=
  (ofUtf8? octets).getD (String.ofList (repair 0 octets))

/-- Repairing changes nothing where nothing is broken. -/
@[simp] theorem ofUtf8Lossy_utf8 (text : String) : ofUtf8Lossy (utf8 text) = text := by
  simp [ofUtf8Lossy]

end StakingGateway.Text
