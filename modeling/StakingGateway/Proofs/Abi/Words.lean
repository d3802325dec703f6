import StakingGateway.Abi.Encoder
import StakingGateway.Proofs.BigEndian

/-!
# Values of One Word

A word is 32 octets, and 32 octets are what is written for the number they denote
(`Abi.eq_word_iff`). For each kind of value that takes one word this module says which words
are written for a value: those whose number is small enough, or, for signed numbers, close
enough to either end of the range of words. Reading such a word in the generous way, where
only some of the octets count, gives the value back.

## Main statements

* `Abi.exists_eq_address_iff`, `Abi.exists_eq_bool_iff`, `Abi.exists_eq_uint8_iff`,
  `Abi.exists_eq_int64_iff`, `Abi.exists_eq_uint256`: the words of each kind.
* `Abi.ofNat_toNat_address`, `Abi.ofNat_toNat_signedWord`, …: reading them back.
-/

namespace StakingGateway.Abi

open Bytes (toNat)

/-! ### Words and numbers -/

/-- The numbers of words are those below `Uint256.size`. -/
theorem pow_word : 256 ^ 32 = Uint256.size := by
  norm_num [Uint256.size]

@[simp] theorem length_word (n : Nat) : (word n).length = 32 :=
  Bytes.length_ofNat 32 n

@[simp] theorem length_signedWord (n : Int64) : (signedWord n).length = 32 :=
  length_word _

theorem toNat_lt_size {w : Bytes} (h : w.length = 32) : toNat w < Uint256.size := by
  have := Bytes.toNat_lt w
  rwa [h, pow_word] at this

/-- The word of a number reads back. -/
theorem toNat_word {n : Nat} (h : n < Uint256.size) : toNat (word n) = n :=
  Bytes.toNat_ofNat_of_lt (by rwa [pow_word])

/-- A word is written for the number that it denotes, and for no other one. -/
theorem eq_word_iff {w : Bytes} {n : Nat} (hw : w.length = 32) (hn : n < Uint256.size) :
    w = word n ↔ toNat w = n :=
  Bytes.eq_ofNat_iff hw (by rwa [pow_word])

/-! ### Addresses -/

/-- Addresses are the words that begin with twelve zeros. -/
theorem exists_eq_address_iff {w : Bytes} (h : w.length = 32) :
    (∃ address : Address, w = Bytes.zeros 12 ++ address.octets) ↔
      Bytes.isZero (w.take 12) = true := by
  constructor
  · rintro ⟨address, rfl⟩
    rw [List.take_left' (Bytes.length_zeros 12), Bytes.isZero_iff, Bytes.length_zeros]
  · intro hzero
    have hlength : (w.take 12).length = 12 := by
      rw [List.length_take, h]
      rfl
    rw [Bytes.isZero_iff, hlength] at hzero
    refine ⟨⟨w.drop 12, by rw [List.length_drop, h]⟩, ?_⟩
    rw [← hzero, List.take_append_drop]

/-- The octets of an address are what its number has in twenty octets. -/
theorem ofNat_toNat_address (address : Address) :
    Address.ofNat (toNat (Bytes.zeros 12 ++ address.octets)) = address := by
  apply Address.ext
  rw [Bytes.toNat_zeros_append]
  have := Bytes.ofNat_toNat address.octets
  rwa [address.length_octets] at this

/-! ### Truth values and small numbers -/

/-- Truth values are the words of zero and one. -/
theorem exists_eq_bool_iff {w : Bytes} (h : w.length = 32) :
    (∃ b : Bool, w = word b.toNat) ↔ toNat w ≤ 1 := by
  constructor
  · rintro ⟨b, hw⟩
    rw [hw, toNat_word (lt_of_le_of_lt b.toNat_le (by decide))]
    exact b.toNat_le
  · intro hle
    have hn : (decide (toNat w = 1)).toNat = toNat w := by
      by_cases hone : toNat w = 1
      · simp [hone]
      · simp [hone]
        omega
    exact ⟨decide (toNat w = 1), by rw [hn, eq_word_iff h (toNat_lt_size h)]⟩

/-- A truth value is true exactly if its word is not zero. -/
theorem isZero_word_bool (b : Bool) : (!(word b.toNat).isZero) = b := by
  have hword : toNat (word b.toNat) = b.toNat :=
    toNat_word (lt_of_le_of_lt b.toNat_le (by decide))
  have hzero := Bytes.toNat_eq_zero_iff (word b.toNat)
  rw [hword] at hzero
  rw [Bool.eq_iff_iff, Bool.not_eq_true', ← Bool.not_eq_true, ← hzero]
  cases b <;> decide

/-- Unsigned 8-bit numbers are the words below `UInt8.size`. -/
theorem exists_eq_uint8_iff {w : Bytes} (h : w.length = 32) :
    (∃ n : UInt8, w = word n.toNat) ↔ toNat w < UInt8.size := by
  constructor
  · rintro ⟨n, hn⟩
    rw [hn, toNat_word (lt_trans n.toNat_lt (by decide))]
    exact n.toNat_lt
  · intro hlt
    have hn : (UInt8.ofNat (toNat w)).toNat = toNat w := UInt8.toNat_ofNat_of_lt hlt
    exact ⟨.ofNat (toNat w), by rw [hn, eq_word_iff h (toNat_lt_size h)]⟩

theorem ofNat_toNat_uint8 (n : UInt8) : UInt8.ofNat (toNat (word n.toNat)) = n := by
  rw [toNat_word (lt_trans n.toNat_lt (by decide)), UInt8.ofNat_toNat]

/-! ### Signed numbers -/

/-- The number of a signed number's word: the number itself, from the other end of the range
where it is negative. -/
theorem toNat_signedWord (n : Int64) :
    (toNat (signedWord n) : Int) = n.toInt % Uint256.size := by
  have hpos : (0 : Int) ≤ n.toInt % Uint256.size := Int.emod_nonneg _ (by decide)
  have hlt : n.toInt % Uint256.size < Uint256.size := Int.emod_lt_of_pos _ (by decide)
  rw [signedWord, toNat_word (by omega), Int.toNat_of_nonneg hpos]

/-- The low 64 bits of a signed number's word are the number. -/
theorem ofNat_toNat_signedWord (n : Int64) : Int64.ofNat (toNat (signedWord n)) = n := by
  apply Int64.toInt_inj.mp
  have hlo := n.le_toInt
  have hhi := n.toInt_lt
  rw [Int64.toInt_ofNat', toNat_signedWord, Int.bmod_def]
  simp only [Int64.size, Uint256.size]
  omega

/-- Signed 64-bit numbers are the words within `int64Bound` of either end of the range. -/
theorem exists_eq_int64_iff {w : Bytes} (h : w.length = 32) :
    (∃ n : Int64, w = signedWord n) ↔
      toNat w < int64Bound ∨ Uint256.size ≤ toNat w + int64Bound := by
  have hw := toNat_lt_size h
  constructor
  · rintro ⟨n, hn⟩
    have hlo := n.le_toInt
    have hhi := n.toInt_lt
    have hword := toNat_signedWord n
    rw [← hn] at hword
    simp only [Uint256.size, int64Bound] at *
    omega
  · intro hrange
    have hn : (Int64.ofNat (toNat w)).toInt % Uint256.size = toNat w := by
      rw [Int64.toInt_ofNat', Int.bmod_def]
      simp only [Int64.size, Uint256.size, int64Bound] at *
      omega
    refine ⟨Int64.ofNat (toNat w), ?_⟩
    rw [signedWord, hn, Int.toNat_natCast, eq_word_iff h hw]

/-! ### Unsigned 256-bit numbers -/

/-- Every word is an unsigned 256-bit number. -/
theorem exists_eq_uint256 {w : Bytes} (h : w.length = 32) : ∃ n : Uint256, w = n.toBytes :=
  ⟨⟨toNat w, toNat_lt_size h⟩, (eq_word_iff h (toNat_lt_size h)).mpr rfl⟩

theorem truncate_toNat_toBytes (n : Uint256) : Uint256.truncate (toNat n.toBytes) = n := by
  apply Uint256.ext
  have hword : toNat n.toBytes = n.toNat := toNat_word n.toNat_lt
  rw [hword]
  exact Nat.mod_eq_of_lt n.toNat_lt

end StakingGateway.Abi
