import StakingGateway.Text.Utf8

/-!
# The Octets of ASCII Texts

A text of ASCII characters has one octet for each of them, which is the character's code. So what
is required of the characters of such a text is required of its octets, and the octets of fixed
tokens are the octets of texts.

## Main statements

* `Text.utf8_ofList`: the octets of a text, character by character.
* `Text.utf8_of_ascii`: the octets of an ASCII text.
* `Text.mem_of_mem_utf8`: octets of ASCII characters in any text.
-/

namespace StakingGateway.Text

/-- The octets of a text are those of its characters. -/
theorem utf8_ofList (characters : List Char) :
    utf8 (String.ofList characters) = characters.flatMap String.utf8EncodeChar := by
  rw [utf8, String.toUTF8_eq_toByteArray, String.toByteArray_ofList, List.utf8Encode,
    List.toList_data_toByteArray]

/-- An ASCII character has one octet, its code. -/
theorem utf8EncodeChar_of_ascii {c : Char} (h : c.toNat < 128) :
    String.utf8EncodeChar c = [c.toUInt8] := by
  have hsmall : c.val.toNat ≤ 127 := Nat.le_of_lt_succ h
  rw [String.utf8EncodeChar]
  simp only [hsmall, if_true]
  rfl

/-- The octets of ASCII characters are their codes. -/
theorem flatMap_utf8EncodeChar_of_ascii {characters : List Char}
    (h : ∀ c ∈ characters, c.toNat < 128) :
    characters.flatMap String.utf8EncodeChar = characters.map Char.toUInt8 := by
  induction characters with
  | nil => rfl
  | cons c characters ih =>
      obtain ⟨hc, hcs⟩ := List.forall_mem_cons.mp h
      rw [List.flatMap_cons, utf8EncodeChar_of_ascii hc, ih hcs, List.map_cons]
      rfl

/-- The octets of an ASCII text are the codes of its characters. -/
theorem utf8_of_ascii {text : String} (h : ∀ c ∈ text.toList, c.toNat < 128) :
    utf8 text = Bytes.ascii text := by
  rw [← String.ofList_toList (s := text), utf8_ofList, flatMap_utf8EncodeChar_of_ascii h,
    Bytes.ascii, String.toList_ofList]

/-- An octet of a character that is below 128 is the code of the character. -/
theorem toNat_of_mem_utf8EncodeChar {c : Char} {octet : UInt8}
    (h : octet ∈ String.utf8EncodeChar c) (hsmall : octet.toNat < 128) :
    octet.toNat = c.toNat := by
  have hcode : c.toNat = c.val.toNat := rfl
  simp only [String.utf8EncodeChar] at h
  split at h
  · obtain rfl := List.mem_singleton.mp h
    rw [UInt8.toNat_ofNat']
    omega
  · -- Every octet of two or more of them has its highest bit set.
    exfalso
    revert hsmall
    split at h
    · simp only [List.mem_cons, List.not_mem_nil, or_false] at h
      rcases h with rfl | rfl <;> rw [UInt8.toNat_ofNat'] <;> omega
    · split at h
      · simp only [List.mem_cons, List.not_mem_nil, or_false] at h
        rcases h with rfl | rfl | rfl <;> rw [UInt8.toNat_ofNat'] <;> omega
      · simp only [List.mem_cons, List.not_mem_nil, or_false] at h
        rcases h with rfl | rfl | rfl | rfl <;> rw [UInt8.toNat_ofNat'] <;> omega

/-- **The octet of an ASCII character is in a text** only where the character is. -/
theorem mem_of_mem_utf8 {c : Char} (hc : c.toNat < 128) {text : String}
    (h : c.toUInt8 ∈ utf8 text) : c ∈ text.toList := by
  rw [← String.ofList_toList (s := text), utf8_ofList] at h
  obtain ⟨other, hother, hoctet⟩ := List.mem_flatMap.mp h
  have hcode : c.toUInt8.toNat = c.toNat :=
    (UInt32.toNat_toUInt8 c.val).trans (Nat.mod_eq_of_lt (Nat.lt_trans hc (by decide)))
  have hsame := toNat_of_mem_utf8EncodeChar hoctet (by omega)
  obtain rfl : c = other := Char.toNat_inj.mp (hcode.symm.trans hsame)
  exact hother

end StakingGateway.Text
