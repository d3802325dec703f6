import Mathlib.Data.Nat.Bitwise
import StakingGateway.Proofs.Abi.Words

/-!
# Octets of Words

`Proofs.Abi.Words` says by their numbers which words are written for a value. This module says it
by their octets: which of them have to be zero, and which have to repeat the sign. That is how the
encoding is described where it is described octet by octet, and how a reader checks a word without
computing its number.

## Main statements

* `Abi.toNat_le_one_iff`, `Abi.toNat_lt_size_uint8_iff`, `Abi.toNat_lt_size_uint64_iff`,
  `Abi.isSigned_iff`: the ranges of numbers, as conditions on the octets.
* `Abi.word_of_bool`, `Abi.word_of_uint8`, `Abi.word_of_lt`, `Abi.signedWord_eq`: the octets of the
  words of values.
-/

namespace StakingGateway

namespace Bytes

/-- Strings of one length that denote the same number are the same. -/
theorem eq_of_toNat_eq {a b : Bytes} (hlength : a.length = b.length) (h : toNat a = toNat b) :
    a = b := by
  rw [← ofNat_toNat a, ← ofNat_toNat b, hlength, h]

/-- The number of a string by its first octet. -/
theorem toNat_cons (octet : UInt8) (b : Bytes) :
    toNat (octet :: b) = octet.toNat * 256 ^ b.length + toNat b := by
  have hfirst : toNat [octet] = octet.toNat := by
    rw [← List.nil_append [octet], toNat_concat]
    exact Nat.zero_add _
  rw [← List.singleton_append, toNat_append, hfirst]

/-- Octets with all bits set denote the greatest number of their width. -/
theorem toNat_replicate_ones (n : Nat) : toNat (List.replicate n 0xff) + 1 = 256 ^ n := by
  induction n with
  | zero => rfl
  | succ n ih =>
      have hlast : (0xff : UInt8).toNat = 255 := rfl
      rw [List.replicate_succ', toNat_concat, hlast, pow_succ]
      omega

/-- Whether all octets are the same one, as a string. -/
theorem all_eq_iff (b : Bytes) (octet : UInt8) :
    (b.all (· == octet)) = true ↔ b = List.replicate b.length octet := by
  rw [List.all_eq_true, List.eq_replicate_iff]
  simp

end Bytes

namespace Abi

open Bytes (toNat)

/-! ### Numbers by their octets -/

section Word

variable {w : Bytes}

/-- The number of a word by its first octets and the other ones. -/
theorem toNat_eq_take_add_drop (hw : w.length = 32) (count : Nat) :
    toNat w = toNat (w.take count) * 256 ^ (32 - count) + toNat (w.drop count) := by
  rw [← hw, ← List.length_drop, ← Bytes.toNat_append, List.take_append_drop]

/-- The last octet of a word counts alone if the others are zero. -/
theorem toNat_lt_size_uint8_iff (hw : w.length = 32) :
    toNat w < UInt8.size ↔ Bytes.isZero (w.take 31) = true := by
  have hsplit : toNat w = toNat (w.take 31) * 256 + toNat (w.drop 31) :=
    toNat_eq_take_add_drop hw 31
  have hlow := Bytes.toNat_lt (w.drop 31)
  rw [List.length_drop, hw] at hlow
  rw [← Bytes.toNat_eq_zero_iff, UInt8.size]
  omega

/-- A word denotes zero or one if its last octet does and the others are zero. -/
theorem toNat_le_one_iff (hw : w.length = 32) :
    toNat w ≤ 1 ↔ Bytes.isZero (w.take 31) = true ∧ w[31] ≤ 1 := by
  have hlast : w.drop 31 = [w[31]] := by
    rw [List.drop_eq_getElem_cons (by omega), List.drop_eq_nil_of_le (by omega)]
  have hsplit : toNat w = toNat (w.take 31) * 256 + toNat (w.drop 31) :=
    toNat_eq_take_add_drop hw 31
  have hone : (1 : UInt8).toNat = 1 := rfl
  rw [hlast, Bytes.toNat_cons, Bytes.toNat_nil, List.length_nil] at hsplit
  rw [← Bytes.toNat_eq_zero_iff, UInt8.le_iff_toNat_le, hone]
  omega

/-- The last eight octets of a word count alone if the others are zero. -/
theorem toNat_lt_size_uint64_iff (hw : w.length = 32) :
    toNat w < UInt64.size ↔ Bytes.isZero (w.take 24) = true := by
  have hsplit : toNat w = toNat (w.take 24) * 256 ^ 8 + toNat (w.drop 24) :=
    toNat_eq_take_add_drop hw 24
  have hlow := Bytes.toNat_lt (w.drop 24)
  rw [List.length_drop, hw] at hlow
  rw [← Bytes.toNat_eq_zero_iff, UInt64.size]
  omega

/-- The octet that a sign fills a word with, by the octet that holds the sign. -/
def fill (octet : UInt8) : UInt8 :=
  if octet &&& 0x80 = 0 then 0 else 0xff

/-- The sign is the highest bit. -/
theorem and_sign_eq_zero_iff (octet : UInt8) : octet &&& 0x80 = 0 ↔ octet.toNat < 128 := by
  have hbit : (octet &&& 0x80).toNat = (octet.toNat.testBit 7).toNat * 2 ^ 7 := by
    rw [UInt8.toNat_and]
    exact Nat.and_two_pow octet.toNat 7
  have hlt := octet.toNat_lt
  rw [← UInt8.toNat_inj, hbit, Nat.testBit_eq_decide_div_mod_eq]
  by_cases hodd : octet.toNat / 2 ^ 7 % 2 = 1
  · rw [decide_eq_true hodd]
    exact iff_of_false (by decide) (by omega)
  · rw [decide_eq_false hodd]
    exact iff_of_true rfl (by omega)

/-- The numbers within `int64Bound` of either end of the range have words that repeat their
sign. -/
theorem isSigned_iff (hw : w.length = 32) :
    (toNat w < int64Bound ∨ Uint256.size ≤ toNat w + int64Bound) ↔
      ((w.take 24).all (· == fill w[24])) = true := by
  have hhead : (w.take 24).length = 24 := by
    rw [List.length_take, hw]
    rfl
  have hlow : w.drop 24 = w[24] :: w.drop 25 := List.drop_eq_getElem_cons (by omega)
  have hsplit : toNat w = toNat (w.take 24) * 256 ^ 8 + toNat (w.drop 24) :=
    toNat_eq_take_add_drop hw 24
  have htail : (w.drop 25).length = 7 := by
    rw [List.length_drop, hw]
  have hrest := Bytes.toNat_lt (w.drop 25)
  have hhigh := Bytes.toNat_lt (w.take 24)
  have hoctet := w[24].toNat_lt
  rw [hlow, Bytes.toNat_cons, htail] at hsplit
  rw [htail] at hrest
  rw [hhead] at hhigh
  rw [Bytes.all_eq_iff, hhead, fill]
  split
  · next hsign =>
      rw [and_sign_eq_zero_iff] at hsign
      have hzero : w.take 24 = List.replicate 24 0 ↔ toNat (w.take 24) = 0 := by
        rw [Bytes.toNat_eq_zero_iff, Bytes.isZero_iff, hhead]
        rfl
      rw [hzero]
      simp only [Uint256.size, int64Bound]
      omega
  · next hsign =>
      rw [and_sign_eq_zero_iff] at hsign
      have hones := Bytes.toNat_replicate_ones 24
      have hall : w.take 24 = List.replicate 24 0xff ↔ toNat (w.take 24) + 1 = 256 ^ 24 := by
        constructor
        · intro h
          rw [h, hones]
        · intro h
          exact Bytes.eq_of_toNat_eq (by rw [hhead, List.length_replicate]) (by omega)
      rw [hall]
      simp only [Uint256.size, int64Bound]
      omega

end Word

/-! ### The octets of values -/

/-- The word of a small number: zeros, and the number in what is left. -/
theorem word_of_lt {width n : Nat} (hwidth : width ≤ 32) (hn : n < 256 ^ width) :
    word n = Bytes.zeros (32 - width) ++ Bytes.ofNat width n := by
  have hlength : (Bytes.zeros (32 - width) ++ Bytes.ofNat width n).length = 32 := by
    rw [List.length_append, Bytes.length_zeros, Bytes.length_ofNat]
    omega
  have hsize : n < Uint256.size :=
    lt_of_lt_of_le hn (pow_word ▸ Nat.pow_le_pow_right (by decide) hwidth)
  rw [eq_comm, eq_word_iff hlength hsize, Bytes.toNat_zeros_append, Bytes.toNat_ofNat_of_lt hn]

/-- The word of an unsigned 8-bit number. -/
theorem word_of_uint8 (n : UInt8) : word n.toNat = Bytes.zeros 31 ++ [n] := by
  rw [word_of_lt (show 1 ≤ 32 by decide) n.toNat_lt]
  show _ ++ [UInt8.ofNat n.toNat] = _
  rw [UInt8.ofNat_toNat]

/-- The word of a truth value. -/
theorem word_of_bool (b : Bool) : word b.toNat = Bytes.zeros 31 ++ [if b then 1 else 0] := by
  cases b with
  | false => exact word_of_uint8 0
  | true => exact word_of_uint8 1

/-- The word of a signed number: its sign, and its 64 bits. -/
theorem signedWord_eq (n : Int64) :
    signedWord n = List.replicate 24 (if n < 0 then 0xff else 0) ++
      Bytes.ofNat 8 n.toUInt64.toNat := by
  have hlo := n.le_toInt
  have hhi := n.toInt_lt
  have hbits : n.toInt = Int.bmod n.toUInt64.toNat (2 ^ 64) := BitVec.toInt_eq_toNat_bmod n.toBitVec
  have hlt := n.toUInt64.toNat_lt
  have hzero : (0 : Int64).toInt = 0 := rfl
  rw [Int.bmod_def] at hbits
  have hword := toNat_signedWord n
  apply Bytes.eq_of_toNat_eq
  · simp
  · rw [Bytes.toNat_append, Bytes.length_ofNat, Bytes.toNat_ofNat_of_lt hlt]
    have hones := Bytes.toNat_replicate_ones 24
    have hzeros : toNat (List.replicate 24 0) = 0 := Bytes.toNat_zeros 24
    split
    · next hneg =>
        rw [Int64.lt_iff_toInt_lt, hzero] at hneg
        simp only [Uint256.size] at hword
        omega
    · next hpos =>
        rw [Int64.lt_iff_toInt_lt, hzero] at hpos
        rw [hzeros]
        simp only [Uint256.size] at hword
        omega

end Abi

end StakingGateway
