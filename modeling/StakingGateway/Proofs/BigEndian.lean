import Mathlib.Data.List.Induction
import Mathlib.Tactic.Ring
import StakingGateway.Bytes

/-!
# Big-Endian Numbers

Octet strings of one width and the numbers below the corresponding power of 256 are the same
thing: `Bytes.toNat` and `Bytes.ofNat` invert each other (`Bytes.toNat_ofNat`,
`Bytes.ofNat_toNat`), so a string of known width is determined by its number
(`Bytes.eq_ofNat_iff`). Zeros at the head of a string do not change its number
(`Bytes.toNat_zeros_append`), which is how numbers of fewer octets are written in whole words.
-/

namespace StakingGateway.Bytes

/-! ### The number of a string -/

@[simp] theorem toNat_nil : toNat [] = 0 := rfl

/-- The last octet is the least significant one. -/
theorem toNat_concat (b : Bytes) (octet : UInt8) :
    toNat (b ++ [octet]) = 256 * toNat b + octet.toNat := by
  simp [toNat]

/-- The number of a string in two parts. -/
theorem toNat_append (a b : Bytes) :
    toNat (a ++ b) = toNat a * 256 ^ b.length + toNat b := by
  induction b using List.reverseRecOn with
  | nil => simp
  | append_singleton b octet ih =>
      rw [← List.append_assoc, toNat_concat, toNat_concat, ih, List.length_append,
        List.length_singleton, pow_succ]
      ring

/-- The number fits the width of the string. -/
theorem toNat_lt (b : Bytes) : toNat b < 256 ^ b.length := by
  induction b using List.reverseRecOn with
  | nil => simp
  | append_singleton b octet ih =>
      rw [toNat_concat, List.length_append, List.length_singleton, pow_succ]
      have := octet.toNat_lt
      omega

/-! ### Numbers and strings of one width -/

/-- Writing a number and reading it back keeps the digits within the width. -/
theorem toNat_ofNat (width n : Nat) : toNat (ofNat width n) = n % 256 ^ width := by
  induction width generalizing n with
  | zero => simp [ofNat, Nat.mod_one]
  | succ width ih =>
      have hsplit : n % 256 ^ (width + 1) = n % 256 + 256 * (n / 256 % 256 ^ width) := by
        rw [pow_succ', Nat.mod_mul]
      rw [ofNat, toNat_concat, ih, UInt8.toNat_ofNat', hsplit]
      omega

/-- A number that fits the width reads back. -/
theorem toNat_ofNat_of_lt {width n : Nat} (h : n < 256 ^ width) :
    toNat (ofNat width n) = n := by
  rw [toNat_ofNat, Nat.mod_eq_of_lt h]

/-- A string is what is written for its number in its width. -/
theorem ofNat_toNat (b : Bytes) : ofNat b.length (toNat b) = b := by
  induction b using List.reverseRecOn with
  | nil => rfl
  | append_singleton b octet ih =>
      have hlt := octet.toNat_lt
      have hdiv : (256 * toNat b + octet.toNat) / 256 = toNat b := by omega
      have hlow : UInt8.ofNat (256 * toNat b + octet.toNat) = octet := by
        apply UInt8.toNat_inj.mp
        rw [UInt8.toNat_ofNat']
        omega
      rw [List.length_append, List.length_singleton, toNat_concat, ofNat, hdiv, hlow, ih]

/-- A string of the right width is what is written for a number exactly if it denotes it. -/
theorem eq_ofNat_iff {width n : Nat} {b : Bytes} (hlength : b.length = width)
    (hn : n < 256 ^ width) : b = ofNat width n ↔ toNat b = n := by
  constructor
  · rintro rfl
    exact toNat_ofNat_of_lt hn
  · rintro rfl
    exact hlength ▸ (ofNat_toNat b).symm

/-! ### Zeros -/

theorem zeros_succ (n : Nat) : zeros (n + 1) = zeros n ++ [0] :=
  List.replicate_succ'

@[simp] theorem toNat_zeros (n : Nat) : toNat (zeros n) = 0 := by
  induction n with
  | zero => rfl
  | succ n ih => rw [zeros_succ, toNat_concat, ih]; rfl

/-- Zeros at the head do not count. -/
theorem toNat_zeros_append (n : Nat) (b : Bytes) : toNat (zeros n ++ b) = toNat b := by
  rw [toNat_append, toNat_zeros, Nat.zero_mul, Nat.zero_add]

/-- A string of zeros is determined by its length. -/
theorem isZero_iff (b : Bytes) : isZero b = true ↔ b = zeros b.length := by
  rw [isZero, List.all_eq_true, zeros, List.eq_replicate_iff]
  simp

/-- Only zeros denote zero. -/
theorem toNat_eq_zero_iff (b : Bytes) : toNat b = 0 ↔ isZero b = true := by
  rw [isZero_iff]
  constructor
  · intro h
    have hb := ofNat_toNat b
    have hz := ofNat_toNat (zeros b.length)
    rw [h] at hb
    rw [toNat_zeros, length_zeros] at hz
    exact hb.symm.trans hz
  · intro h
    rw [h, toNat_zeros]

end StakingGateway.Bytes
