import Mathlib.Data.List.Basic
import Mathlib.Data.Option.Basic
import StakingGateway.Json.Token
import StakingGateway.Proofs.Text.Ascii
import StakingGateway.Proofs.Text.Digits

/-!
# Tokens Read Back

Each token that is written reads back, whatever follows it that can follow a value (`Json.Stops`).

A string is read in pieces: an octet for each octet that stands for itself or behind a backslash,
and a unit for each control character that is given in hexadecimal. The units that are written are
those of ASCII characters, never half of a pair, so the pieces make up the octets that were
written (`Json.assemble_map_pieceOf`).

## Main definitions

* `Json.Stops`: what can follow a value.
* `Json.pieceOf`: the piece that an octet of a string is read as.

## Main statements

* `Json.stringTail_escape`: strings read back.
* `Json.number_decimal`: integers read back.
* `Json.word_ascii`, `Json.token?_octet`: so do words and marks.
-/

namespace StakingGateway.Json

/-! ### What follows a value -/

/-- The octets can follow a value in a text without blanks: there are none, or the first one is a
comma or closes a list or an object. -/
def Stops (rest : Bytes) : Prop :=
  ∀ b ∈ rest.head?, b = octet ',' ∨ b = octet ']' ∨ b = octet '\x7d'

theorem stops_nil : Stops [] := by
  rintro b ⟨⟩

/-- A comma can follow a value. -/
theorem stops_comma (rest : Bytes) : Stops (octet ',' :: rest) := by
  rintro b ⟨⟩
  exact .inl rfl

/-- The end of a list can follow a value. -/
theorem stops_bracket (rest : Bytes) : Stops (octet ']' :: rest) := by
  rintro b ⟨⟩
  exact .inr (.inl rfl)

/-- The end of an object can follow a value. -/
theorem stops_brace (rest : Bytes) : Stops (octet '\x7d' :: rest) := by
  rintro b ⟨⟩
  exact .inr (.inr rfl)

/-! ### Marks and words -/

/-- Nothing is skipped where no blank stands. -/
theorem skipBlank_cons {b : UInt8} (h : isBlank b = false) (rest : Bytes) :
    skipBlank (b :: rest) = b :: rest :=
  List.dropWhile_cons_of_neg (Bool.not_eq_true _ ▸ h)

/-- A mark reads back. -/
theorem token?_octet {c : Char} (h : isBlank (octet c) = false) (rest : Bytes) :
    token? c (octet c :: rest) = some rest := by
  rw [token?, skipBlank_cons h]
  exact if_pos rfl

/-- No mark is read where something else stands. -/
theorem token?_of_ne {c : Char} {b : UInt8} (hblank : isBlank b = false) (hne : b ≠ octet c)
    (rest : Bytes) : token? c (b :: rest) = none := by
  rw [token?, skipBlank_cons hblank]
  exact if_neg hne

/-- A word reads back. -/
theorem word_ascii (spelling : String) (value : Json) (rest : Bytes) :
    word spelling value (Bytes.ascii spelling ++ rest) = some (value, rest) := by
  have hlength : (Bytes.ascii spelling).length = spelling.length := by
    rw [Bytes.ascii, List.length_map, String.length_toList]
  have hstarts : (Bytes.ascii spelling).isPrefixOf (Bytes.ascii spelling ++ rest) = true :=
    List.isPrefixOf_iff_prefix.mpr (List.prefix_append _ _)
  rw [word, if_pos hstarts, List.drop_left' hlength]

/-! ### Integers -/

/-- Digits are what they are read as. -/
theorem isDigit_octet_digitChar {d : Nat} (h : d < 10) :
    isDigit (octet (Nat.digitChar d)) = true := by
  have hall : ∀ d : Fin 10, isDigit (octet (Nat.digitChar d)) = true := by decide
  exact hall ⟨d, h⟩

/-- The octets of a numeral are digits. -/
theorem isDigit_of_mem_toDigits {n : Nat} {b : UInt8}
    (h : b ∈ (Nat.toDigits 10 n).map octet) : isDigit b = true := by
  obtain ⟨c, hc, rfl⟩ := List.mem_map.mp h
  obtain ⟨d, hd, rfl⟩ := Text.mem_toDigits (by omega) hc
  exact isDigit_octet_digitChar hd

/-- What can follow a value does not go on with a number. -/
theorem Stops.ne {rest : Bytes} (h : Stops rest) {b : UInt8} (hb : b ∈ rest.head?) :
    isDigit b = false ∧ b ≠ octet '.' ∧ b ≠ octet 'e' ∧ b ≠ octet 'E' := by
  rcases h b hb with rfl | rfl | rfl
  all_goals decide

/-- The digits of a number end where something else can follow. -/
theorem takeWhile_isDigit {digits rest : Bytes} (hdigits : ∀ b ∈ digits, isDigit b = true)
    (h : Stops rest) : (digits ++ rest).takeWhile isDigit = digits := by
  rw [List.takeWhile_append_of_pos hdigits]
  cases rest with
  | nil => exact List.append_nil digits
  | cons b rest =>
      have hb : ¬ isDigit b = true := Bool.not_eq_true _ ▸ (h.ne rfl).1
      rw [List.takeWhile_cons_of_neg hb, List.append_nil]

/-- And what is left is what follows them. -/
theorem dropWhile_isDigit {digits rest : Bytes} (hdigits : ∀ b ∈ digits, isDigit b = true)
    (h : Stops rest) : (digits ++ rest).dropWhile isDigit = rest := by
  rw [List.dropWhile_append_of_pos hdigits]
  cases rest with
  | nil => rfl
  | cons b rest => exact List.dropWhile_cons_of_neg (Bool.not_eq_true _ ▸ (h.ne rfl).1)

/-- No fraction starts where something else can follow. -/
theorem skipFraction?_of_stops {rest : Bytes} (h : Stops rest) :
    skipFraction? rest = some rest := by
  cases rest with
  | nil => rfl
  | cons b rest => exact if_neg (h.ne rfl).2.1

/-- No exponent does. -/
theorem skipExponent?_of_stops {rest : Bytes} (h : Stops rest) :
    skipExponent? rest = some rest := by
  cases rest with
  | nil => rfl
  | cons b rest =>
      obtain ⟨-, -, hlower, hupper⟩ := h.ne rfl
      exact if_neg (not_or.mpr ⟨hlower, hupper⟩)

/-- The octets of a numeral denote its number. -/
theorem ofDigits_toDigits (n : Nat) : ofDigits ((Nat.toDigits 10 n).map octet) = n := by
  have hvalue : ofDigits ((Nat.toDigits 10 n).map octet) =
      Nat.ofDigitChars 10 (Nat.toDigits 10 n) 0 := by
    rw [ofDigits, List.foldl_map, Nat.ofDigitChars_eq_foldl]
    refine List.foldl_ext _ _ _ fun value c hc => ?_
    obtain ⟨d, hd, rfl⟩ := Text.mem_toDigits (by omega) hc
    have hcode : (octet (Nat.digitChar d)).toNat = (Nat.digitChar d).toNat % 256 :=
      UInt32.toNat_toUInt8 (Nat.digitChar d).val
    have hlt := Bytes.toNat_digitChar_lt (d := d) (by omega)
    rw [hcode, Nat.mod_eq_of_lt (by omega)]
    rfl
  rw [hvalue, Nat.ofDigitChars_toDigits (by omega) (by omega)]

/-- A numeral reads back without a sign, and with a minus sign unless it is that of zero. -/
theorem unsigned_toDigits (negative : Bool) (n : Nat) {rest : Bytes} (h : Stops rest)
    (hsign : negative = true → n ≠ 0) :
    unsigned negative ((Nat.toDigits 10 n).map octet ++ rest) =
      some (.integer (if negative then -n else n), rest) := by
  have hdigits : ∀ b ∈ (Nat.toDigits 10 n).map octet, isDigit b = true :=
    fun b hb => isDigit_of_mem_toDigits hb
  have hleading : ((Nat.toDigits 10 n).map octet).head? = some (octet '0') →
      ((Nat.toDigits 10 n).map octet).length = 1 := by
    intro hhead
    rw [List.head?_map, Option.map_eq_some_iff] at hhead
    obtain ⟨c, hc, hzero⟩ := hhead
    obtain ⟨d, hd, rfl⟩ := Text.mem_toDigits (by omega) (List.mem_of_head? hc)
    have hall : ∀ d : Fin 10, octet (Nat.digitChar d) = octet '0' → Nat.digitChar d = '0' := by
      decide
    rw [hall ⟨d, hd⟩ hzero] at hc
    rw [List.length_map, Text.head?_toDigits (by omega) (by omega) hc]
  have hne : (Nat.toDigits 10 n).map octet ≠ [] := by
    rw [ne_eq, List.map_eq_nil_iff]
    exact Nat.toDigits_ne_nil
  rw [unsigned]
  simp only [takeWhile_isDigit hdigits h, dropWhile_isDigit hdigits h, skipFraction?_of_stops h,
    skipExponent?_of_stops h, ofDigits_toDigits, Option.bind_eq_bind, Option.bind_some,
    Nat.lt_irrefl, if_false]
  rw [guard, if_pos ⟨hne, hleading⟩]
  cases negative with
  | false => rfl
  | true =>
      cases n with
      | zero => exact absurd rfl (hsign rfl)
      | succ n => rfl

/-- **Integers read back.** -/
theorem number_decimal (n : Int) {rest : Bytes} (h : Stops rest) :
    number (Bytes.ascii (Text.decimal n) ++ rest) = some (.integer n, rest) := by
  cases n with
  | ofNat n =>
      have hascii : Bytes.ascii (Text.decimal (.ofNat n)) = (Nat.toDigits 10 n).map octet := by
        rw [Bytes.ascii, Text.decimal, String.toList_ofList]
      have hunsigned := unsigned_toDigits false n h (fun h => absurd h Bool.false_ne_true)
      rw [hascii]
      cases hdigits : (Nat.toDigits 10 n).map octet with
      | nil => exact absurd (List.map_eq_nil_iff.mp hdigits) Nat.toDigits_ne_nil
      | cons b digits =>
          have hb : isDigit b = true :=
            isDigit_of_mem_toDigits (n := n) (hdigits ▸ List.mem_cons_self)
          have hsign : b ≠ octet '-' := by
            rintro rfl
            revert hb
            decide
          rw [hdigits] at hunsigned
          rw [List.cons_append, number, if_neg hsign]
          exact hunsigned
  | negSucc n =>
      have hascii : Bytes.ascii (Text.decimal (.negSucc n)) =
          octet '-' :: (Nat.toDigits 10 (n + 1)).map octet := by
        rw [Bytes.ascii, Text.decimal, String.toList_ofList, List.map_cons]
      rw [hascii, List.cons_append, number, if_pos rfl,
        unsigned_toDigits true (n + 1) h (fun _ => Nat.succ_ne_zero n)]
      rfl

/-! ### Strings -/

/-- The piece that an octet of a string is read as when it has been written. -/
def pieceOf (b : UInt8) : Piece :=
  if b < 0x20 ∧ b ∉ [0x08, 0x0C, 0x0A, 0x0D, 0x09] then .unit b.toNat else .octet b

/-- A control character in hexadecimal reads back. -/
theorem unit?_toHexChars {b : UInt8} (h : b < 0x20) :
    unit? (octet '0' :: octet '0' :: (Bytes.toHexChars [b]).map octet) = some b.toNat := by
  have hall : ∀ n : Fin 32, unit? (octet '0' :: octet '0' ::
      (Bytes.toHexChars [UInt8.ofNat n]).map octet) = some n.val := by decide
  have hlt : b.toNat < 32 := UInt8.lt_iff_toNat_lt.mp h
  have hb := hall ⟨b.toNat, hlt⟩
  rwa [UInt8.ofNat_toNat] at hb

/-- A closing quote ends a string. -/
theorem pieces_quote (rest : Bytes) : pieces (octet '"' :: rest) = some ([], rest) := by
  cases rest with
  | nil => rfl
  | cons b rest =>
      rw [pieces.eq_def]
      exact if_pos rfl

/-- What stands behind a backslash stands for an octet. -/
theorem pieces_escaped {letter b : UInt8} (h : escaped? letter = some b)
    (hunit : letter ≠ octet 'u') (rest : Bytes) :
    pieces (octet '\\' :: letter :: rest) =
      (pieces rest).map fun read => (.octet b :: read.1, read.2) := by
  rw [pieces.eq_def]
  dsimp only
  rw [if_neg (by decide), if_pos rfl, if_neg hunit, h]
  cases pieces rest with
  | none => rfl
  | some read => rfl

/-- Four hexadecimal digits behind a backslash stand for a unit. -/
theorem pieces_unit {d₁ d₂ d₃ d₄ : UInt8} {unit : Nat} (h : unit? [d₁, d₂, d₃, d₄] = some unit)
    (rest : Bytes) :
    pieces (octet '\\' :: octet 'u' :: d₁ :: d₂ :: d₃ :: d₄ :: rest) =
      (pieces rest).map fun read => (.unit unit :: read.1, read.2) := by
  rw [pieces.eq_def]
  dsimp only
  rw [if_neg (by decide), if_pos rfl, if_pos rfl, h]
  cases pieces rest with
  | none => rfl
  | some read => rfl

/-- Any other octet stands for itself. -/
theorem pieces_plain {b : UInt8} (hquote : b ≠ octet '"') (hbackslash : b ≠ octet '\\')
    (hcontrol : ¬ b < 0x20) {rest : Bytes} (h : rest ≠ []) :
    pieces (b :: rest) = (pieces rest).map fun read => (.octet b :: read.1, read.2) := by
  obtain ⟨letter, rest, rfl⟩ := List.exists_cons_of_ne_nil h
  rw [pieces.eq_def]
  dsimp only
  rw [if_neg hquote, if_neg hbackslash, if_neg hcontrol]
  cases pieces (letter :: rest) with
  | none => rfl
  | some read => rfl

/-- An octet of a string reads back as its piece. -/
theorem pieces_escape (b : UInt8) {rest : Bytes} (h : rest ≠ []) :
    pieces (escape b ++ rest) = (pieces rest).map fun read => (pieceOf b :: read.1, read.2) := by
  rw [escape]
  split
  · next hb => subst hb; exact pieces_escaped rfl (by decide) rest
  split
  · next hb => subst hb; exact pieces_escaped rfl (by decide) rest
  split
  · next hb => subst hb; exact pieces_escaped rfl (by decide) rest
  split
  · next hb => subst hb; exact pieces_escaped rfl (by decide) rest
  split
  · next hb => subst hb; exact pieces_escaped rfl (by decide) rest
  split
  · next hb => subst hb; exact pieces_escaped rfl (by decide) rest
  split
  · next hb => subst hb; exact pieces_escaped rfl (by decide) rest
  next hquote hbackslash hbackspace hfeed hline hreturn htab =>
  split
  · next hcontrol =>
      have hpiece : pieceOf b = .unit b.toNat := if_pos ⟨hcontrol, by simp [*]⟩
      rw [hpiece]
      exact pieces_unit (unit?_toHexChars hcontrol) rest
  · next hplain =>
      have hpiece : pieceOf b = .octet b := if_neg fun hcontrol => hplain hcontrol.1
      rw [hpiece]
      exact pieces_plain hquote hbackslash hplain h

/-- The octets of a string read back as their pieces, up to the closing quote. -/
theorem pieces_flatMap_escape (octets rest : Bytes) :
    pieces (octets.flatMap escape ++ octet '"' :: rest) = some (octets.map pieceOf, rest) := by
  induction octets with
  | nil => exact pieces_quote rest
  | cons b octets ih =>
      rw [List.flatMap_cons, List.append_assoc,
        pieces_escape b (List.append_ne_nil_of_right_ne_nil _ (List.cons_ne_nil _ _)), ih]
      rfl

/-- A unit that is no half of a pair makes up its character. -/
theorem assemble_unit {u : Nat} (hleading : isLeading u = false) (htrailing : isTrailing u = false)
    (tail : List Piece) :
    assemble (.unit u :: tail) =
      (assemble tail).map (Text.utf8 (String.singleton (Char.ofNat u)) ++ ·) := by
  rw [assemble.eq_def]
  cases tail with
  | nil =>
      dsimp only
      rw [hleading, htrailing, assemble, Option.map_some, List.append_nil]
      rfl
  | cons piece tail =>
      cases piece with
      | octet b =>
          dsimp only
          rw [hleading, htrailing]
          rfl
      | unit v =>
          dsimp only
          rw [hleading, htrailing]
          rfl

/-- A piece makes up the octet that it was read for. -/
theorem assemble_pieceOf (b : UInt8) (tail : List Piece) :
    assemble (pieceOf b :: tail) = (assemble tail).map (b :: ·) := by
  rw [pieceOf]
  split
  · next hcontrol =>
      have hlt : b.toNat < 32 := UInt8.lt_iff_toNat_lt.mp hcontrol.1
      have hall : ∀ n : Fin 32, isLeading n = false ∧ isTrailing n = false ∧
          Text.utf8 (String.singleton (Char.ofNat n)) = [UInt8.ofNat n] := by decide +kernel
      obtain ⟨hleading, htrailing, hoctets⟩ := hall ⟨b.toNat, hlt⟩
      rw [assemble_unit hleading htrailing, hoctets, UInt8.ofNat_toNat]
      rfl
  · rw [assemble]

/-- The pieces of a string make up its octets. -/
theorem assemble_map_pieceOf (octets : Bytes) : assemble (octets.map pieceOf) = some octets := by
  induction octets with
  | nil => rfl
  | cons b octets ih => rw [List.map_cons, assemble_pieceOf, ih, Option.map_some]

/-- **Strings read back.** -/
theorem stringTail_escape (text : String) (rest : Bytes) :
    stringTail ((Text.utf8 text).flatMap escape ++ octet '"' :: rest) = some (some text, rest) := by
  have htext : textOf? ((Text.utf8 text).map pieceOf) = some text := by
    rw [textOf?, assemble_map_pieceOf]
    exact Text.ofUtf8?_utf8 text
  rw [stringTail, pieces_flatMap_escape]
  exact congrArg (fun read => some (read, rest)) htext

end StakingGateway.Json
