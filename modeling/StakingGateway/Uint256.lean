import StakingGateway.Bytes

/-!
# Unsigned 256-Bit Numbers

Amounts, shares and rates are natural numbers below `2 ^ 256`. The operations that the
ledger uses never wrap: `add?`, `sub?` and `mul?` answer `none` where the exact result does
not fit, and division truncates. Each operation is described through `Uint256.toNat`, so
that arguments about them are arguments about natural numbers.

## Main definitions

* `Uint256`: a natural number with a proof that it is below `2 ^ 256`.
* `Uint256.add?`, `Uint256.sub?`, `Uint256.mul?`: exact or absent.
* `Uint256.toBytes`, `Uint256.ofBytes?`: big-endian octets, 32 of them when written and at
  most 32 when read.
-/

namespace StakingGateway

/-- The first number that does not fit 256 bits, `2 ^ 256`. -/
abbrev Uint256.size : Nat :=
  0x10000000000000000000000000000000000000000000000000000000000000000

/-- Signed 64-bit numbers go from minus this number, `2 ^ 63`, to the one before it. -/
abbrev int64Bound : Nat :=
  0x8000000000000000

/-- A natural number below `2 ^ 256`. -/
@[ext] structure Uint256 where
  /-- The number. -/
  toNat : Nat
  /-- The number fits 256 bits. -/
  toNat_lt : toNat < Uint256.size
deriving DecidableEq

namespace Uint256

/-- The number `n`, if it fits 256 bits. -/
def ofNat? (n : Nat) : Option Uint256 :=
  if h : n < size then some ⟨n, h⟩ else none

/-- The low 256 bits of the number. -/
def truncate (n : Nat) : Uint256 :=
  ⟨n % size, Nat.mod_lt _ (by decide)⟩

/-- The 64-bit number as a 256-bit number. -/
def ofUInt64 (n : UInt64) : Uint256 :=
  ⟨n.toNat, Nat.lt_of_lt_of_le n.toNat_lt (by decide)⟩

instance (n : Nat) : OfNat Uint256 n where
  ofNat := truncate n

instance : Inhabited Uint256 := ⟨0⟩

instance : LE Uint256 where
  le a b := a.toNat ≤ b.toNat

instance : LT Uint256 where
  lt a b := a.toNat < b.toNat

instance (a b : Uint256) : Decidable (a ≤ b) :=
  inferInstanceAs (Decidable (a.toNat ≤ b.toNat))

instance (a b : Uint256) : Decidable (a < b) :=
  inferInstanceAs (Decidable (a.toNat < b.toNat))

/-- The sum, if it fits. -/
def add? (a b : Uint256) : Option Uint256 :=
  ofNat? (a.toNat + b.toNat)

/-- The product, if it fits. -/
def mul? (a b : Uint256) : Option Uint256 :=
  ofNat? (a.toNat * b.toNat)

/-- The difference, if it is not negative. -/
def sub? (a b : Uint256) : Option Uint256 :=
  if b.toNat ≤ a.toNat then
    some ⟨a.toNat - b.toNat, Nat.lt_of_le_of_lt (Nat.sub_le _ _) a.toNat_lt⟩
  else none

/-- The difference, or zero where it would be negative. -/
def truncatedSub (a b : Uint256) : Uint256 :=
  ⟨a.toNat - b.toNat, Nat.lt_of_le_of_lt (Nat.sub_le _ _) a.toNat_lt⟩

/-- The quotient, rounded down; division by zero gives zero. -/
def div (a b : Uint256) : Uint256 :=
  ⟨a.toNat / b.toNat, Nat.lt_of_le_of_lt (Nat.div_le_self _ _) a.toNat_lt⟩

/-- The number in 32 octets, most significant first. -/
def toBytes (a : Uint256) : Bytes :=
  Bytes.ofNat 32 a.toNat

/-- The number that at most 32 octets denote, most significant first; no octets denote zero.
More octets denote none, even with zeros at their head. -/
def ofBytes? (b : Bytes) : Option Uint256 :=
  if b.length ≤ 32 then ofNat? b.toNat else none

/-- The number as an unsigned 64-bit word, if it fits. -/
def toUInt64? (a : Uint256) : Option UInt64 :=
  if a.toNat < UInt64.size then some (UInt64.ofNat a.toNat) else none

/-- The number as a signed 64-bit word, if it fits. -/
def toInt64? (a : Uint256) : Option Int64 :=
  if a.toNat < int64Bound then some (Int64.ofNat a.toNat) else none

/-! ### Operations through `toNat` -/

@[simp] theorem toNat_zero : (0 : Uint256).toNat = 0 := rfl

theorem toNat_pos_iff {a : Uint256} : 0 < a.toNat ↔ a ≠ 0 := by
  rw [Nat.pos_iff_ne_zero, ne_eq, ne_eq, Uint256.ext_iff, toNat_zero]

theorem ofNat?_eq_some_iff {n : Nat} {a : Uint256} : ofNat? n = some a ↔ a.toNat = n := by
  unfold ofNat?
  split
  · next h =>
    rw [Option.some.injEq, Uint256.ext_iff]
    exact eq_comm
  · next h =>
    have := a.toNat_lt
    constructor
    · intro h'
      cases h'
    · omega

theorem add?_eq_some_iff {a b c : Uint256} :
    a.add? b = some c ↔ c.toNat = a.toNat + b.toNat :=
  ofNat?_eq_some_iff

theorem mul?_eq_some_iff {a b c : Uint256} :
    a.mul? b = some c ↔ c.toNat = a.toNat * b.toNat :=
  ofNat?_eq_some_iff

theorem sub?_eq_some_iff {a b c : Uint256} :
    a.sub? b = some c ↔ c.toNat + b.toNat = a.toNat := by
  unfold sub?
  split
  · rw [Option.some.injEq, Uint256.ext_iff]
    constructor
    · intro h
      have : a.toNat - b.toNat = c.toNat := h
      omega
    · intro h
      show a.toNat - b.toNat = c.toNat
      omega
  · constructor
    · intro h
      cases h
    · omega

end Uint256

end StakingGateway
