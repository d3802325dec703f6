import StakingGateway.Reference.Shares

/-!
# The Rate of Exchange

The first tokens that are bonded to a validator get one share each. If the shares of a validator are
exactly those that its tokens got at this rate (`Validator.IsExact`), then the divisions by which
shares and tokens are exchanged have no remainder: tokens are exchanged for shares at the rate of
the first tokens, shares that were issued for tokens release just these tokens, and the validator is
exact afterwards.

## Main definitions

* `Validator.IsExact`: the shares of the validator are one for each of its tokens.
* `Validator.profile`: all else about the validator.

## Main statements

* `Validator.toNat_sharesFor?`, `Validator.toNat_tokensFor?`: the exchange of an exact validator.
* `Validator.IsExact.bond`, `Validator.IsExact.unbond`: exact validators stay exact, and unbonding
  releases the tokens asked for.
-/

namespace StakingGateway

/-- A product is none only if it does not fit. -/
theorem Uint256.mul?_eq_none_iff {a b : Uint256} :
    a.mul? b = none ↔ Uint256.size ≤ a.toNat * b.toNat := by
  rw [mul?, ofNat?]
  split
  · next hlt => exact iff_of_false (Option.some_ne_none _) (Nat.not_le_of_lt hlt)
  · next hge => exact iff_of_true rfl (Nat.le_of_not_lt hge)

/-- A sum that fits is there. -/
theorem Uint256.exists_add? {a b : Uint256} (h : a.toNat + b.toNat < Uint256.size) :
    ∃ c, a.add? b = some c :=
  ⟨⟨a.toNat + b.toNat, h⟩, add?_eq_some_iff.mpr rfl⟩

/-- So is a product. -/
theorem Uint256.exists_mul? {a b : Uint256} (h : a.toNat * b.toNat < Uint256.size) :
    ∃ c, a.mul? b = some c :=
  ⟨⟨a.toNat * b.toNat, h⟩, mul?_eq_some_iff.mpr rfl⟩

/-- There is a difference where it is not negative. -/
theorem Uint256.exists_sub? {a b : Uint256} (h : b.toNat ≤ a.toNat) : ∃ c, a.sub? b = some c :=
  ⟨_, if_pos h⟩

namespace Validator

variable {v : Validator} {tokens shares : Uint256}

/-- The shares of the validator are one for each of its tokens. -/
def IsExact (v : Validator) : Prop :=
  v.delegatorShares.toNat = v.tokens.toNat * shareUnit.toNat

/-- The validator without what is bonded to it. -/
def profile (v : Validator) : Validator :=
  { v with tokens := 0, delegatorShares := 0 }

/-- Exact validators with one profile and the same tokens are the same. -/
theorem IsExact.eq_of_profile {w : Validator} (hv : v.IsExact) (hw : w.IsExact)
    (hprofile : v.profile = w.profile) (htokens : v.tokens.toNat = w.tokens.toNat) : v = w := by
  have hsame : v.tokens = w.tokens := Uint256.ext htokens
  have hshares : v.delegatorShares = w.delegatorShares :=
    Uint256.ext (by rw [hv, hw, htokens])
  calc v = { v.profile with tokens := v.tokens, delegatorShares := v.delegatorShares } := rfl
    _ = { w.profile with tokens := w.tokens, delegatorShares := w.delegatorShares } := by
      rw [hprofile, hsame, hshares]
    _ = w := rfl

/-- **Tokens are exchanged for one share each.** -/
theorem toNat_sharesFor? (h : v.IsExact) (hshares : v.sharesFor? tokens = some shares) :
    shares.toNat = tokens.toNat * shareUnit.toNat := by
  rw [sharesFor?] at hshares
  split at hshares
  · exact Uint256.mul?_eq_some_iff.mp hshares
  · next hbonded =>
      obtain ⟨product, hproduct, rfl⟩ := Option.map_eq_some_iff.mp hshares
      have hpos : 0 < v.tokens.toNat :=
        Nat.pos_of_ne_zero fun hzero => hbonded (Uint256.ext hzero)
      have hvalue : product.toNat = v.tokens.toNat * (tokens.toNat * shareUnit.toNat) := by
        rw [Uint256.mul?_eq_some_iff.mp hproduct, h, Nat.mul_left_comm]
      change product.toNat / v.tokens.toNat = _
      rw [hvalue, Nat.mul_div_cancel_left _ hpos]

/-- There are no shares for tokens only if a product does not fit: the tokens times the shares of
one token, or times all shares that have been issued. -/
theorem le_of_sharesFor?_eq_none (hnone : v.sharesFor? tokens = none) :
    Uint256.size ≤ tokens.toNat * max shareUnit.toNat v.delegatorShares.toNat := by
  rw [sharesFor?] at hnone
  split at hnone
  · exact Nat.le_trans (Uint256.mul?_eq_none_iff.mp hnone)
      (Nat.mul_le_mul_left _ (Nat.le_max_left _ _))
  · rw [Option.map_eq_none_iff] at hnone
    exact Nat.le_trans (Uint256.mul?_eq_none_iff.mp hnone)
      (Nat.mul_le_mul_left _ (Nat.le_max_right _ _))

/-- **Shares release the tokens that they were issued for**, as long as no more shares are released
than there are. -/
theorem toNat_tokensFor? (h : v.IsExact) {released : Uint256} {n : Nat}
    (hshares : shares.toNat = n * shareUnit.toNat)
    (hissued : shares.toNat ≤ v.delegatorShares.toNat)
    (hreleased : v.tokensFor? shares = some released) : released.toNat = n := by
  have hunit : shareUnit.toNat ≠ 0 := by decide
  rw [tokensFor?] at hreleased
  split at hreleased
  · next hnone =>
      obtain rfl := Option.some.inj hreleased
      rw [hnone, Uint256.toNat_zero, hshares, Nat.le_zero, Nat.mul_eq_zero] at hissued
      exact (hissued.resolve_right hunit).symm
  · next hsome =>
      obtain ⟨product, hproduct, rfl⟩ := Option.map_eq_some_iff.mp hreleased
      have hpos : 0 < v.delegatorShares.toNat :=
        Nat.pos_of_ne_zero fun hzero => hsome (Uint256.ext hzero)
      have hvalue : product.toNat = n * v.delegatorShares.toNat := by
        rw [Uint256.mul?_eq_some_iff.mp hproduct, hshares, h, Nat.mul_assoc,
          Nat.mul_comm shareUnit.toNat]
      change product.toNat / v.delegatorShares.toNat = _
      rw [hvalue, Nat.mul_div_cancel _ hpos]

/-- There are tokens for shares where the product on the way to them fits. -/
theorem exists_tokensFor? (hfits : shares.toNat * v.tokens.toNat < Uint256.size) :
    ∃ released, v.tokensFor? shares = some released := by
  rw [tokensFor?, Uint256.mul?, Uint256.ofNat?, dif_pos hfits]
  split
  · exact ⟨_, rfl⟩
  · exact ⟨_, rfl⟩

/-- Bonding adds the tokens and the shares. -/
theorem of_bond? {bonded : Validator} (h : v.bond? tokens shares = some bonded) :
    bonded.profile = v.profile ∧ bonded.tokens.toNat = v.tokens.toNat + tokens.toNat ∧
      bonded.delegatorShares.toNat = v.delegatorShares.toNat + shares.toNat := by
  obtain ⟨sum, hsum, h⟩ := Option.bind_eq_some_iff.mp h
  obtain ⟨issued, hissued, h⟩ := Option.bind_eq_some_iff.mp h
  obtain rfl := Option.some.inj h
  exact ⟨rfl, Uint256.add?_eq_some_iff.mp hsum, Uint256.add?_eq_some_iff.mp hissued⟩

/-- Bonding succeeds where the sums fit. -/
theorem exists_bond? (htokens : v.tokens.toNat + tokens.toNat < Uint256.size)
    (hshares : v.delegatorShares.toNat + shares.toNat < Uint256.size) :
    ∃ bonded, v.bond? tokens shares = some bonded := by
  obtain ⟨sum, hsum⟩ := Uint256.exists_add? htokens
  obtain ⟨issued, hissued⟩ := Uint256.exists_add? hshares
  rw [bond?, hsum, hissued]
  exact ⟨_, rfl⟩

/-- Unbonding succeeds where there is as much. -/
theorem exists_unbond? (htokens : tokens.toNat ≤ v.tokens.toNat)
    (hshares : shares.toNat ≤ v.delegatorShares.toNat) :
    ∃ unbonded, v.unbond? tokens shares = some unbonded := by
  rw [unbond?, Uint256.sub?, if_pos htokens, Uint256.sub?, if_pos hshares]
  exact ⟨_, rfl⟩

/-- Unbonding takes the tokens and the shares away. -/
theorem of_unbond? {unbonded : Validator} (h : v.unbond? tokens shares = some unbonded) :
    unbonded.profile = v.profile ∧ unbonded.tokens.toNat + tokens.toNat = v.tokens.toNat ∧
      unbonded.delegatorShares.toNat + shares.toNat = v.delegatorShares.toNat := by
  obtain ⟨rest, hrest, h⟩ := Option.bind_eq_some_iff.mp h
  obtain ⟨kept, hkept, h⟩ := Option.bind_eq_some_iff.mp h
  obtain rfl := Option.some.inj h
  exact ⟨rfl, Uint256.sub?_eq_some_iff.mp hrest, Uint256.sub?_eq_some_iff.mp hkept⟩

/-- **An exact validator is exact after bonding** tokens for what they are exchanged for. -/
theorem IsExact.bond {bonded : Validator} (h : v.IsExact)
    (hshares : v.sharesFor? tokens = some shares)
    (hbonded : v.bond? tokens shares = some bonded) : bonded.IsExact := by
  obtain ⟨-, hsum, hissued⟩ := of_bond? hbonded
  rw [IsExact, hissued, hsum, Nat.add_mul, h, toNat_sharesFor? h hshares]

/-- **Unbonding releases the tokens asked for**, and an exact validator is exact afterwards. -/
theorem IsExact.unbond {released : Uint256} {unbonded : Validator} (h : v.IsExact)
    (hshares : v.sharesFor? tokens = some shares)
    (hreleased : v.tokensFor? shares = some released)
    (hunbonded : v.unbond? released shares = some unbonded) :
    released = tokens ∧ unbonded.IsExact := by
  obtain ⟨-, hrest, hkept⟩ := of_unbond? hunbonded
  have hvalue := toNat_sharesFor? h hshares
  have hsame : released.toNat = tokens.toNat :=
    toNat_tokensFor? h hvalue (by omega) hreleased
  refine ⟨Uint256.ext hsame, ?_⟩
  have hissued : v.delegatorShares.toNat = v.tokens.toNat * shareUnit.toNat := h
  rw [← hkept, ← hrest, Nat.add_mul, hsame, ← hvalue] at hissued
  exact Nat.add_right_cancel hissued

end Validator

end StakingGateway
