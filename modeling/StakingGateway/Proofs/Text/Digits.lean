import StakingGateway.Text.Numeral

/-!
# Numerals Read Back

What is written in digits reads back: a number in any base up to sixteen
(`Text.ofDigits?_toDigits`), and octets in pairs of hexadecimal digits
(`Bytes.ofHexChars?_toHexChars`). Digits are ASCII characters, which is all that the texts around
them have to know of them.

## Main statements

* `Text.mem_toDigits`: the characters of a numeral.
* `Text.ofDigits?_toDigits`: numerals denote the number that they were written for.
* `Bytes.ofHexChars?_toHexChars`: so do octets in hexadecimal.
-/

namespace StakingGateway

namespace Bytes

/-- Digits have their values. -/
theorem hexDigit?_digitChar {d : Nat} (h : d < 16) : hexDigit? (Nat.digitChar d) = some d := by
  have hall : ∀ d : Fin 16, hexDigit? (Nat.digitChar d) = some d.val := by decide
  exact hall ⟨d, h⟩

/-- Digits are ASCII characters. -/
theorem toNat_digitChar_lt {d : Nat} (h : d < 16) : (Nat.digitChar d).toNat < 128 := by
  have hall : ∀ d : Fin 16, (Nat.digitChar d).toNat < 128 := by decide
  exact hall ⟨d, h⟩

/-- Both parts of an octet are digits. -/
theorem exists_digit_of_mem_toHexChars {octets : Bytes} {c : Char} (h : c ∈ octets.toHexChars) :
    ∃ d < 16, c = Nat.digitChar d := by
  obtain ⟨octet, -, hc⟩ := List.mem_flatMap.mp h
  have hlt := octet.toNat_lt
  rcases List.mem_cons.mp hc with rfl | hc
  · exact ⟨octet.toNat / 16, by omega, rfl⟩
  · exact ⟨octet.toNat % 16, by omega, List.mem_singleton.mp hc⟩

/-- Octets take two digits each. -/
theorem length_toHexChars (octets : Bytes) : octets.toHexChars.length = 2 * octets.length := by
  induction octets with
  | nil => rfl
  | cons octet octets ih =>
      rw [toHexChars, List.flatMap_cons, List.length_append, ← toHexChars, ih, List.length_cons,
        List.length_cons, List.length_nil, List.length_cons]
      omega

/-- Octets in hexadecimal read back. -/
theorem ofHexChars?_toHexChars (octets : Bytes) : ofHexChars? octets.toHexChars = some octets := by
  induction octets with
  | nil => rfl
  | cons octet octets ih =>
      have hlt := octet.toNat_lt
      have hvalue : 16 * (octet.toNat / 16) + octet.toNat % 16 = octet.toNat := by omega
      have htail : ofHexChars? (toHexChars octets) = some octets := ih
      change ofHexChars? (Nat.digitChar (octet.toNat / 16) :: Nat.digitChar (octet.toNat % 16) ::
        toHexChars octets) = _
      rw [ofHexChars?, hexDigit?_digitChar (by omega), hexDigit?_digitChar (by omega), htail]
      change some (UInt8.ofNat (16 * (octet.toNat / 16) + octet.toNat % 16) :: octets) = _
      rw [hvalue, UInt8.ofNat_toNat]

end Bytes

namespace Text

/-- The characters of a numeral are digits of its base. -/
theorem mem_toDigits {base : Nat} (hbase : 1 < base) {n : Nat} {c : Char}
    (h : c ∈ Nat.toDigits base n) : ∃ d < base, c = Nat.digitChar d := by
  induction n using Nat.base_induction base hbase with
  | single m hm =>
      rw [Nat.toDigits_of_lt_base hm, List.mem_singleton] at h
      exact ⟨m, hm, h⟩
  | digit m k hk hm ih =>
      rw [← Nat.toDigits_append_toDigits hbase hm hk, Nat.toDigits_of_lt_base hk,
        List.mem_append, List.mem_singleton] at h
      rcases h with h | h
      · exact ih h
      · exact ⟨k, hk, h⟩

/-- Digits of a base have their values in it. -/
theorem digit?_digitChar {base d : Nat} (hbase : base ≤ 16) (h : d < base) :
    digit? base (Nat.digitChar d) = some d := by
  rw [digit?, Bytes.hexDigit?_digitChar (by omega), Option.filter_some, if_pos (decide_eq_true h)]

/-- One more digit behind the others counts once, and the others count the base. -/
theorem ofDigits?_concat (base : Nat) (digits : List Char) (c : Char) :
    ofDigits? base (digits ++ [c]) =
      (ofDigits? base digits).bind fun value => (digit? base c).map (base * value + ·) := by
  rw [ofDigits?, List.foldlM_append]
  refine bind_congr fun value => ?_
  rw [List.foldlM_cons]
  exact bind_pure _

/-- **Numerals denote the number that they were written for.** -/
theorem ofDigits?_toDigits {base : Nat} (hone : 1 < base) (hbase : base ≤ 16) (n : Nat) :
    ofDigits? base (Nat.toDigits base n) = some n := by
  induction n using Nat.base_induction base hone with
  | single m hm =>
      rw [Nat.toDigits_of_lt_base hm, ← List.nil_append [Nat.digitChar m], ofDigits?_concat,
        digit?_digitChar hbase hm]
      change some (base * 0 + m) = some m
      rw [Nat.mul_zero, Nat.zero_add]
  | digit m k hk hm ih =>
      rw [← Nat.toDigits_append_toDigits hone hm hk, Nat.toDigits_of_lt_base hk, ofDigits?_concat,
        ih, digit?_digitChar hbase hk]
      rfl

/-- No numeral but the one of zero starts with a zero. -/
theorem head?_toDigits {base n : Nat} (hone : 1 < base) (hbase : base ≤ 16)
    (h : (Nat.toDigits base n).head? = some '0') : (Nat.toDigits base n).length = 1 := by
  induction n using Nat.base_induction base hone with
  | single m hm => rw [Nat.toDigits_of_lt_base hm, List.length_singleton]
  | digit m k hk hm ih =>
      have hfirst : (Nat.toDigits base m).head? = some '0' := by
        rwa [← Nat.toDigits_append_toDigits hone hm hk, List.head?_append,
          List.head?_eq_some_head Nat.toDigits_ne_nil, Option.some_or,
          ← List.head?_eq_some_head] at h
      -- The digits in front are those of a number that is not zero.
      obtain ⟨c, hc⟩ := List.length_eq_one_iff.mp (ih hfirst)
      have hzero : digit? base '0' = some 0 := digit?_digitChar (d := 0) hbase (by omega)
      have hm0 : ofDigits? base (Nat.toDigits base m) = some m := ofDigits?_toDigits hone hbase m
      rw [hc, List.head?_cons, Option.some.injEq] at hfirst
      rw [hc, hfirst, ← List.nil_append ['0'], ofDigits?_concat,
        hzero] at hm0
      have hm0 : base * 0 + 0 = m := Option.some.inj hm0
      omega

end Text

end StakingGateway
