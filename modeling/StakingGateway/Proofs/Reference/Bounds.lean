import StakingGateway.Proofs.Reference.Books

/-!
# Numbers That Fit

The arithmetic of the reference module is checked, and gives nothing where a number does not fit 256
bits. It has little occasion to. No number of tokens exceeds the supply, and shares are tokens at a
constant rate, so with a supply below `2 ^ 98` all products on the way to a result fit. Bonding then
always succeeds (`Books.exists_bond`), and unbonding does if the account holds as much
(`Books.exists_unbond`).

## Main statements

* `mul_mul_shareUnit_lt`: products of tokens and shares fit.
* `Books.tokensFor?_eq`: what an account holds can be exchanged for tokens.
* `Books.exists_bond`, `Books.exists_unbond`: exchanges that succeed.
-/

namespace StakingGateway.Reference

/-! ### Numbers that fit -/

/-- Tokens below `2 ^ 98` times shares of tokens below `2 ^ 98` fit. -/
theorem mul_mul_shareUnit_lt {a b : Nat} (ha : a < 2 ^ 98) (hb : b < 2 ^ 98) :
    a * (b * shareUnit.toNat) < Uint256.size := by
  have hunit : shareUnit.toNat < 2 ^ 60 := by decide
  have hshares : b * shareUnit.toNat < 2 ^ 98 * 2 ^ 60 := Nat.mul_lt_mul'' hb hunit
  calc a * (b * shareUnit.toNat) < 2 ^ 98 * (2 ^ 98 * 2 ^ 60) := Nat.mul_lt_mul'' ha hshares
    _ = Uint256.size := by decide

/-- Shares of tokens below `2 ^ 98` fit. -/
theorem mul_shareUnit_lt {n : Nat} (h : n < 2 ^ 98) : n * shareUnit.toNat < Uint256.size := by
  have hone := mul_mul_shareUnit_lt (a := 1) (by decide) h
  rwa [Nat.one_mul] at hone

namespace Books

variable {parameters : Parameters} {block : Block} {depth : Nat} {store after : Store}
  {supply : Nat} {account : Address} {operator : String} {v : Validator} {tokens : Uint256}

/-- Tokens below `2 ^ 98` can be exchanged for shares. -/
theorem exists_sharesFor? (h : Books store supply) (hsupply : supply < 2 ^ 98)
    (hv : store.record? (Key.validator operator) = some v) (htokens : tokens.toNat < 2 ^ 98) :
    ∃ shares, v.sharesFor? tokens = some shares := by
  obtain ⟨-, hexact⟩ := h.isExact hv
  have hwithin := h.tokens_le hv
  refine Option.ne_none_iff_exists'.mp fun hnone => ?_
  have hwide := Validator.le_of_sharesFor?_eq_none hnone
  rw [hexact] at hwide
  have hunit : tokens.toNat * (1 * shareUnit.toNat) < Uint256.size :=
    mul_mul_shareUnit_lt htokens (by decide)
  have hissued : tokens.toNat * (v.tokens.toNat * shareUnit.toNat) < Uint256.size :=
    mul_mul_shareUnit_lt htokens (by omega)
  rw [Nat.one_mul] at hunit
  rcases Nat.le_total shareUnit.toNat (v.tokens.toNat * shareUnit.toNat) with hle | hle
  · rw [Nat.max_eq_right hle] at hwide
    omega
  · rw [Nat.max_eq_left hle] at hwide
    omega

/-- What an account holds of a validator is worth no more than is bonded to the validator. -/
theorem held_le_tokens (h : Books store supply)
    (hv : store.record? (Key.validator operator) = some v) :
    held store account operator ≤ v.tokens.toNat * shareUnit.toNat := by
  obtain ⟨-, hexact⟩ := h.isExact hv
  have hle := h.held_le account operator
  rwa [issued, hv, Option.elim_some, hexact] at hle

/-- What an account holds can be exchanged for tokens, one for each whole share. -/
theorem tokensFor?_eq (h : Books store supply) (hsupply : supply < 2 ^ 98)
    (hv : store.record? (Key.validator operator) = some v) {holding : Holding}
    (hholding : store.record? (Key.delegation account operator) = some holding) :
    v.tokensFor? holding.shares = some (holding.shares.div shareUnit) := by
  obtain ⟨-, hexact⟩ := h.isExact hv
  have hwithin := h.tokens_le hv
  have hissued : held store account operator ≤ v.tokens.toNat * shareUnit.toNat :=
    h.held_le_tokens hv
  obtain ⟨n, hwhole⟩ := h.dvd_held account operator
  rw [held, hholding, Option.elim_some] at hwhole hissued
  have hfits : v.tokens.toNat * (v.tokens.toNat * shareUnit.toNat) < Uint256.size :=
    mul_mul_shareUnit_lt (by omega) (by omega)
  have hproduct : holding.shares.toNat * v.tokens.toNat < Uint256.size := by
    rw [Nat.mul_comm]
    exact Nat.lt_of_le_of_lt (Nat.mul_le_mul_left _ hissued) hfits
  obtain ⟨tokens, htokens⟩ := Validator.exists_tokensFor? hproduct
  rw [Nat.mul_comm] at hwhole
  have hvalue := Validator.toNat_tokensFor? hexact hwhole (by rw [hexact]; exact hissued) htokens
  rw [htokens, Option.some.injEq]
  refine Uint256.ext ?_
  rw [hvalue]
  change n = holding.shares.toNat / shareUnit.toNat
  rw [hwhole, Nat.mul_div_cancel _ (by decide)]

/-- **Bonding always succeeds** with tokens that are part of the supply. -/
theorem exists_bond (h : Books store supply) (hsupply : supply + tokens.toNat < 2 ^ 98)
    (hv : store.record? (Key.validator operator) = some v) :
    ∃ shares after, (bond account v tokens).effect block depth store = .ok (shares, after) := by
  obtain ⟨rfl, hexact⟩ := h.isExact hv
  have hwithin := h.tokens_le hv
  have hheld : held store account v.operator ≤ v.tokens.toNat * shareUnit.toNat :=
    h.held_le_tokens hv
  have hsum : (v.tokens.toNat + tokens.toNat) * shareUnit.toNat < Uint256.size :=
    mul_shareUnit_lt (by omega)
  have hsize : 2 ^ 98 < Uint256.size := by decide
  have hfits : tokens.toNat < 2 ^ 98 := by omega
  obtain ⟨shares, hshares⟩ := h.exists_sharesFor? (by omega) hv hfits
  have hvalue := Validator.toNat_sharesFor? hexact hshares
  have hissued : v.delegatorShares.toNat = v.tokens.toNat * shareUnit.toNat := hexact
  rw [Nat.add_mul, ← hvalue] at hsum
  obtain ⟨bonded, hbonded⟩ : ∃ bonded, v.bond? tokens shares = some bonded :=
    Validator.exists_bond? (by omega) (by omega)
  have hfits := toNat_getD_holding store account v.operator
  obtain ⟨left, hleft⟩ : ∃ left, ((store.record? (Key.delegation account v.operator)).getD
      (⟨0⟩ : Holding)).shares.add? shares = some left := Uint256.exists_add? (by omega)
  exact ⟨shares, _,
    (effect_bond_eq_ok_iff h.sound).mpr ⟨bonded, left, hshares, hbonded, hleft, rfl⟩⟩

/-- **Unbonding succeeds** with tokens that the account has bonded. -/
theorem exists_unbond (h : Books store supply) (hsupply : supply < 2 ^ 98)
    (hv : store.record? (Key.validator operator) = some v) (hpos : 0 < tokens.toNat)
    (hheld : tokens.toNat * shareUnit.toNat ≤ held store account operator) :
    ∃ released after,
      (unbond account v tokens).effect block depth store = .ok (released, after) := by
  obtain ⟨rfl, hexact⟩ := h.isExact hv
  have hunit : 0 < shareUnit.toNat := by decide
  have hwithin := h.tokens_le hv
  have hissued := Nat.le_trans hheld (h.held_le_tokens hv)
  have htokens : tokens.toNat ≤ v.tokens.toNat := Nat.le_of_mul_le_mul_right hissued hunit
  obtain ⟨shares, hshares⟩ := h.exists_sharesFor? hsupply hv (show tokens.toNat < 2 ^ 98 by omega)
  have hvalue := Validator.toNat_sharesFor? hexact hshares
  obtain ⟨holding, hholding⟩ : ∃ holding : Holding,
      store.record? (Key.delegation account v.operator) = some holding := by
    refine Option.ne_none_iff_exists'.mp fun hnone => ?_
    have hsome : 0 < tokens.toNat * shareUnit.toNat := Nat.mul_pos hpos hunit
    rw [held, hnone, Option.elim_none] at hheld
    omega
  rw [held, hholding, Option.elim_some, ← hvalue] at hheld
  have hproduct : shares.toNat * v.tokens.toNat < Uint256.size := by
    rw [hvalue, Nat.mul_comm]
    exact mul_mul_shareUnit_lt (by omega) (by omega)
  obtain ⟨released, hreleased⟩ := Validator.exists_tokensFor? hproduct
  have hexactly : v.delegatorShares.toNat = v.tokens.toNat * shareUnit.toNat := hexact
  have hsame : released.toNat = tokens.toNat :=
    Validator.toNat_tokensFor? hexact hvalue (by omega) hreleased
  obtain ⟨unbonded, hunbonded⟩ : ∃ unbonded, v.unbond? released shares = some unbonded :=
    Validator.exists_unbond? (by omega) (by omega)
  have hleft : holding.shares.sub? shares = some ⟨holding.shares.toNat - shares.toNat, _⟩ :=
    if_pos hheld
  exact ⟨released, _, (effect_unbond_eq_ok_iff h.sound).mpr
    ⟨holding, shares, _, unbonded, hholding, hshares, hreleased, hleft, hunbonded, rfl⟩⟩

end Books

end StakingGateway.Reference
