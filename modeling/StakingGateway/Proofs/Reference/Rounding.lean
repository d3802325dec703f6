import StakingGateway.Proofs.Reference.Exchanges
import StakingGateway.Proofs.Reference.GasBlindness

/-!
# Rounding

The validators of a chain are exact, so the divisions by which tokens and shares are exchanged have
no remainder there. The exchanges themselves do not rely on that: they divide by whatever the
validator has. At any rate, both divisions are rounded against the account that asks. It is issued
no more shares than its tokens are worth, and released no more tokens than the shares are worth that
it gives up, so the tokens behind each share never become less (`Trade.backing_le`). Bonding and
unbonding in a row cannot gain tokens, also not for an account that had a stake before, which gives
back what was bonded and at most what the stake was worth (`Validator.worth_of_bond?`).

All of it is about one validator, so it holds in any store, also in one that no chain comes to.

## Main definitions

* `Validator.worth`: the tokens that stand behind a number of shares.
* `Reference.Trade`: two stores between which an account has exchanged tokens and shares.

## Main statements

* `Validator.mul_le_of_sharesFor?`: shares are issued at no more than their rate.
* `Validator.worth_of_bond?`: what shares are worth after bonding.
* `Reference.trade_of_bond`, `Reference.trade_of_unbond`: what is exchanged.
* `Reference.exchanges_round_down`: bonding and unbonding at any rate.
-/

namespace StakingGateway

open Reference

/-! ### Rates -/

namespace Validator

variable {v bonded : Validator} {tokens shares released : Uint256}

/-- The tokens that stand behind as many shares of the validator, rounded down; none if it has
issued no shares. -/
def worth (v : Validator) (shares : Nat) : Nat :=
  shares * v.tokens.toNat / v.delegatorShares.toNat

/-- No shares are worth nothing. -/
theorem worth_zero (v : Validator) : v.worth 0 = 0 := by
  rw [worth, Nat.zero_mul, Nat.zero_div]

/-- Shares are exchanged for what they are worth. -/
theorem toNat_eq_worth (h : v.tokensFor? shares = some released) :
    released.toNat = v.worth shares.toNat := by
  rw [tokensFor?] at h
  split at h
  · next hnone =>
      obtain rfl := Option.some.inj h
      rw [worth, hnone, Uint256.toNat_zero, Nat.div_zero]
  · obtain ⟨product, hproduct, rfl⟩ := Option.map_eq_some_iff.mp h
    change product.toNat / v.delegatorShares.toNat = _
    rw [worth, Uint256.mul?_eq_some_iff.mp hproduct]

/-- **Shares are issued at no more than their rate.** -/
theorem mul_le_of_sharesFor? (h : v.sharesFor? tokens = some shares) :
    shares.toNat * v.tokens.toNat ≤ tokens.toNat * v.delegatorShares.toNat := by
  rw [sharesFor?] at h
  split at h
  · next hnone =>
      rw [hnone, Uint256.toNat_zero, Nat.mul_zero]
      exact Nat.zero_le _
  · obtain ⟨product, hproduct, rfl⟩ := Option.map_eq_some_iff.mp h
    rw [← Uint256.mul?_eq_some_iff.mp hproduct]
    exact Nat.div_mul_le_self product.toNat v.tokens.toNat

/-- The shares for tokens are worth no more than the tokens. -/
theorem worth_le_of_sharesFor? (h : v.sharesFor? tokens = some shares) :
    v.worth shares.toNat ≤ tokens.toNat := by
  refine Nat.div_le_of_le_mul ?_
  rw [Nat.mul_comm v.delegatorShares.toNat]
  exact mul_le_of_sharesFor? h

/-- Shares that were issued at no more than their rate, and as many of the others as there can be,
are worth no more together than what was paid and what the others were worth: the fractions with
their denominators multiplied out. -/
theorem mul_mul_le_of_rate {T S a s others : Nat} (hrate : s * T ≤ a * S) (hothers : others ≤ S) :
    (s + others) * (T + a) * S ≤ (S + s) * (a * S + others * T) := by
  obtain ⟨rest, rfl⟩ := Nat.exists_eq_add_of_le hothers
  have hrest : rest * (s * T) ≤ rest * (a * (others + rest)) := Nat.mul_le_mul_left rest hrate
  -- The two sides differ by what rounding leaves to the shares that are not counted.
  refine Nat.le_of_add_le_add_right (b := rest * (a * (others + rest))) ?_
  calc (s + others) * (T + a) * (others + rest) + rest * (a * (others + rest))
      = (others + rest + s) * (a * (others + rest) + others * T) + rest * (s * T) := by ring
    _ ≤ (others + rest + s) * (a * (others + rest) + others * T) +
          rest * (a * (others + rest)) := Nat.add_le_add_left hrest _

/-- **What shares are worth after bonding** is no more than the tokens that were bonded, for as many
shares as were issued for them, and what the other shares were worth before. -/
theorem worth_of_bond? (hshares : v.sharesFor? tokens = some shares)
    (hbonded : v.bond? tokens shares = some bonded) {n : Nat}
    (hissued : n ≤ bonded.delegatorShares.toNat) :
    bonded.worth n ≤ tokens.toNat + v.worth (n - shares.toNat) := by
  obtain ⟨-, htokens, hsum⟩ := of_bond? hbonded
  have hrate := mul_le_of_sharesFor? hshares
  rw [hsum] at hissued
  rw [worth, worth, htokens, hsum]
  generalize v.tokens.toNat = T at *
  generalize v.delegatorShares.toNat = S at *
  generalize tokens.toNat = a at *
  generalize shares.toNat = s at *
  rcases Nat.lt_or_ge s n with hmany | hfew
  · -- The others were there before.
    obtain ⟨others, rfl⟩ := Nat.exists_eq_add_of_le (Nat.le_of_lt hmany)
    have hpos : 0 < S := by omega
    have hcross : (s + others) * (T + a) * S ≤ (S + s) * (a * S + others * T) :=
      mul_mul_le_of_rate hrate (by omega)
    rw [Nat.add_sub_cancel_left, Nat.add_comm a, ← Nat.add_mul_div_right _ _ hpos,
      Nat.le_div_iff_mul_le hpos]
    have hscaled : (S + s) * ((s + others) * (T + a) / (S + s) * S) ≤
        (S + s) * (others * T + a * S) :=
      calc (S + s) * ((s + others) * (T + a) / (S + s) * S)
          = (s + others) * (T + a) / (S + s) * (S + s) * S := by ring
        _ ≤ (s + others) * (T + a) * S := Nat.mul_le_mul_right _ (Nat.div_mul_le_self ..)
        _ ≤ (S + s) * (others * T + a * S) := by rwa [Nat.add_comm (others * T)]
    exact Nat.le_of_mul_le_mul_left hscaled (by omega)
  · -- All of them are among those that were issued.
    refine Nat.le_trans (Nat.div_le_of_le_mul ?_) (Nat.le_add_right a _)
    calc n * (T + a) ≤ s * (T + a) := Nat.mul_le_mul_right _ hfew
      _ = s * T + s * a := Nat.mul_add ..
      _ ≤ a * S + s * a := Nat.add_le_add_right hrate _
      _ = (S + s) * a := by ring

end Validator

/-! ### Exchanges -/

namespace Reference

/-- The account has exchanged tokens and shares with the validator. -/
structure Trade (store after : Store) (account : Address) (v v' : Validator)
    (paid released issued burnt : Nat) : Prop where
  /-- The validator is kept as it is after the exchange. -/
  kept : after.record? (Key.validator v.operator) = some v'
  /-- Nothing but what is bonded to it has changed. -/
  profile : v'.profile = v.profile
  /-- It has the tokens that were paid, and not those that were released. -/
  tokens : v'.tokens.toNat + released = v.tokens.toNat + paid
  /-- The shares that were issued count, and those that were burnt do not. -/
  shares : v'.delegatorShares.toNat + burnt = v.delegatorShares.toNat + issued
  /-- The account holds them, and does not. -/
  holding : held after account v.operator + burnt = held store account v.operator + issued

variable {block : Block} {depth : Nat} {store after : Store} {account : Address}
  {v v' : Validator} {tokens shares released : Uint256}

/-- A load that succeeds reads, whatever is in the store. -/
theorem eq_of_effect_load {α : Type} [Json.Codec α] {key : Bytes} {found : Option α}
    (h : (load key : Transition (Option α)).effect block depth store = .ok (found, after)) :
    after = store ∧ found = store.record? key := by
  rw [load, Transition.effect_bind_of_ok (Transition.effect_read ..)] at h
  rw [Store.record?]
  cases hget : ByteMap.get? store key with
  | none =>
      rw [show store.get? key = none from hget] at h
      obtain ⟨rfl, rfl⟩ := Prod.mk.inj (Except.ok.inj h)
      exact ⟨rfl, rfl⟩
  | some octets =>
      rw [show store.get? key = some octets from hget] at h
      obtain ⟨record, hrecord, h⟩ := effect_orRefuse_bind_eq_ok_iff.mp h
      obtain ⟨rfl, rfl⟩ := Prod.mk.inj (Except.ok.inj h)
      exact ⟨rfl, hrecord.symm⟩

/-- A validator with the same profile is kept in its place. -/
theorem record?_keep_of_profile (h : v'.profile = v.profile) (store : Store) :
    (store.keep (.validator v')).record? (Key.validator v.operator) = some v' := by
  have hoperator := congrArg Validator.operator h
  change v'.operator = v.operator at hoperator
  rw [← hoperator]
  exact record?_keep_self rfl store

/-- **Bonding** issues the shares that the tokens are exchanged for. -/
theorem trade_of_bond
    (h : (bond account v tokens).effect block depth store = .ok (shares, after)) :
    v.sharesFor? tokens = some shares ∧ ∃ bonded, v.bond? tokens shares = some bonded ∧
      Trade store after account v bonded tokens.toNat 0 shares.toNat 0 := by
  obtain ⟨issued, hissued, hrest⟩ := effect_orRefuse_bind_eq_ok_iff.mp h
  obtain ⟨bonded, hbonded, hrest⟩ := effect_orRefuse_bind_eq_ok_iff.mp hrest
  rw [Transition.effect_bind_of_ok (effect_saveValidator ..)] at hrest
  obtain ⟨found, middle, hload, hrest⟩ := Transition.effect_bind_eq_ok_iff.mp hrest
  obtain ⟨rfl, rfl⟩ := eq_of_effect_load hload
  obtain ⟨sum, hsum, hrest⟩ := effect_orRefuse_bind_eq_ok_iff.mp hrest
  obtain ⟨rfl, rfl⟩ := Prod.mk.inj (Except.ok.inj hrest)
  obtain ⟨hprofile, htokens, hshares⟩ := Validator.of_bond? hbonded
  have hkind : (Record.holding account v.operator ⟨sum⟩).kind ≠ .validator := nofun
  refine ⟨hissued, bonded, hbonded, ?_, hprofile, htokens, hshares, ?_⟩
  · exact (record?_validator_keep hkind _).trans (record?_keep_of_profile hprofile store)
  · have hvalue := Uint256.add?_eq_some_iff.mp hsum
    rw [toNat_getD_holding, held_keep_validator] at hvalue
    exact (held_keep_holding ..).trans hvalue

/-- **Unbonding** burns the shares that the tokens asked for are exchanged for, and releases the
tokens that these are exchanged for. -/
theorem trade_of_unbond
    (h : (unbond account v tokens).effect block depth store = .ok (released, after)) :
    ∃ burnt unbonded, v.sharesFor? tokens = some burnt ∧ v.tokensFor? burnt = some released ∧
      Trade store after account v unbonded 0 released.toNat 0 burnt.toNat := by
  obtain ⟨found, middle, hload, hrest⟩ := Transition.effect_bind_eq_ok_iff.mp h
  obtain ⟨rfl, hfound⟩ := eq_of_effect_load hload
  obtain ⟨holding, hholding, hrest⟩ := effect_orRefuse_bind_eq_ok_iff.mp hrest
  obtain ⟨burnt, hburnt, hrest⟩ := effect_orRefuse_bind_eq_ok_iff.mp hrest
  obtain ⟨-, hrest⟩ := effect_require_bind_eq_ok_iff.mp hrest
  obtain ⟨worth, hworth, hrest⟩ := effect_orRefuse_bind_eq_ok_iff.mp hrest
  obtain ⟨left, hleft, hrest⟩ := effect_orRefuse_bind_eq_ok_iff.mp hrest
  rw [Transition.effect_bind_of_ok (effect_saveHolding ..)] at hrest
  obtain ⟨unbonded, hunbonded, hrest⟩ := effect_orRefuse_bind_eq_ok_iff.mp hrest
  obtain ⟨rfl, rfl⟩ := Prod.mk.inj (Except.ok.inj hrest)
  obtain ⟨hprofile, htokens, hshares⟩ := Validator.of_unbond? hunbonded
  refine ⟨burnt, unbonded, hburnt, hworth, ?_, hprofile, htokens, hshares, ?_⟩
  · exact record?_keep_of_profile hprofile _
  · have hafter : held ((middle.setHolding account v.operator left).keep (.validator unbonded))
        account v.operator = left.toNat := by rw [held_keep_validator, held_setHolding]
    have hbefore : held middle account v.operator = holding.shares.toNat := by
      rw [held, ← hfound, hholding, Option.elim_some]
    rw [Nat.add_zero, hbefore, ← Uint256.sub?_eq_some_iff.mp hleft]
    exact congrArg (· + burnt.toNat) hafter

/-- The tokens behind each share do not become less, whatever is paid for the shares that are issued
and whatever the shares are worth that are burnt, if it is no less and no more. -/
theorem Trade.backing_le {paid issued burnt n : Nat}
    (ht : Trade store after account v v' paid n issued burnt)
    (hissued : issued * v.tokens.toNat ≤ paid * v.delegatorShares.toNat)
    (hburnt : n * v.delegatorShares.toNat ≤ burnt * v.tokens.toNat) :
    v.tokens.toNat * v'.delegatorShares.toNat ≤ v'.tokens.toNat * v.delegatorShares.toNat := by
  have htokens := congrArg (· * v.delegatorShares.toNat) ht.tokens
  have hshares := congrArg (v.tokens.toNat * ·) ht.shares
  rw [Nat.add_mul, Nat.add_mul] at htokens
  rw [Nat.mul_add, Nat.mul_add] at hshares
  rw [Nat.mul_comm issued] at hissued
  rw [Nat.mul_comm burnt] at hburnt
  omega

/-- A run that succeeds has the effect that the program has on the contents of the layers. -/
theorem effect_of_run {α : Type} {program : Transition α} (hblind : program.GasBlind)
    {setting : Setting} {layers : LayeredStore} {ledger : GasLedger} {a : α}
    (h : (program.run setting depth layers ledger).result = .ok a) :
    program.effect setting.block depth layers.contents =
      .ok (a, (program.run setting depth layers ledger).store.contents) := by
  have hrun := Transition.run_eq_effect setting hblind depth layers ledger
  dsimp only at hrun
  rw [← hrun, h]
  rfl

/-- **Bonding and unbonding round against the account that asks**, whatever tokens and shares the
validator has, and in whatever store. The shares that are issued for tokens are worth no more than
the tokens afterwards, and who unbonds from the validator then is released no more than that and
what any other shares were worth that are burnt with them. Unbonding releases no more than it was
asked for, and no more than there is. In neither case has any share less behind it than before. -/
theorem exchanges_round_down (account : Address) (v : Validator) (tokens : Uint256)
    (setting : Setting) (depth : Nat) (layers : LayeredStore) (ledger : GasLedger) :
    (let outcome := (bond account v tokens).run setting depth layers ledger
      ∀ shares, outcome.result = .ok shares → ∃ bonded,
        Trade layers.contents outcome.store.contents account v bonded tokens.toNat 0
          shares.toNat 0 ∧
        v.tokens.toNat * (v.delegatorShares.toNat + shares.toNat) ≤
          (v.tokens.toNat + tokens.toNat) * v.delegatorShares.toNat ∧
        (∀ redeemed, bonded.tokensFor? shares = some redeemed →
          redeemed.toNat ≤ tokens.toNat) ∧
        ∀ (other : Address) (asked : Uint256) (setting : Setting) (depth : Nat)
          (layers : LayeredStore) (ledger : GasLedger),
          let outcome := (unbond other bonded asked).run setting depth layers ledger
          ∀ released, outcome.result = .ok released → ∃ burnt unbonded,
            Trade layers.contents outcome.store.contents other bonded unbonded 0 released.toNat 0
              burnt ∧
            released.toNat ≤ tokens.toNat + v.worth (burnt - shares.toNat)) ∧
    (let outcome := (unbond account v tokens).run setting depth layers ledger
      ∀ released, outcome.result = .ok released → ∃ burnt unbonded,
        Trade layers.contents outcome.store.contents account v unbonded 0 released.toNat 0 burnt ∧
        released.toNat ≤ tokens.toNat ∧ released.toNat ≤ v.tokens.toNat ∧
        burnt ≤ v.delegatorShares.toNat ∧
        v.tokens.toNat * (v.delegatorShares.toNat - burnt) ≤
          (v.tokens.toNat - released.toNat) * v.delegatorShares.toNat) := by
  constructor
  · intro outcome shares hshares
    obtain ⟨hissued, bonded, hbonded, htrade⟩ :=
      trade_of_bond (effect_of_run (gasBlind_bond ..) hshares)
    have hrate := Validator.mul_le_of_sharesFor? hissued
    have htokens := htrade.tokens
    have hsum := htrade.shares
    refine ⟨bonded, htrade, ?_, ?_, ?_⟩
    · have hbacking := htrade.backing_le hrate (by rw [Nat.zero_mul, Nat.zero_mul])
      rwa [← Nat.add_zero bonded.tokens.toNat, htokens, ← Nat.add_zero
        bonded.delegatorShares.toNat, hsum] at hbacking
    · intro redeemed hredeemed
      have hworth := Validator.worth_of_bond? hissued hbonded (n := shares.toNat) (by omega)
      rw [Validator.toNat_eq_worth hredeemed]
      rwa [Nat.sub_self, Validator.worth_zero, Nat.add_zero] at hworth
    · intro other asked setting depth layers ledger outcome released hreleased
      obtain ⟨burnt, unbonded, -, hworth, hunbonded⟩ :=
        trade_of_unbond (effect_of_run (gasBlind_unbond ..) hreleased)
      have hleft := hunbonded.shares
      refine ⟨burnt.toNat, unbonded, hunbonded, ?_⟩
      rw [Validator.toNat_eq_worth hworth]
      exact Validator.worth_of_bond? hissued hbonded (by omega)
  · intro outcome released hreleased
    obtain ⟨burnt, unbonded, hburnt, hworth, htrade⟩ :=
      trade_of_unbond (effect_of_run (gasBlind_unbond ..) hreleased)
    have htokens := htrade.tokens
    have hsum := htrade.shares
    have hreleased := Validator.toNat_eq_worth hworth
    refine ⟨burnt.toNat, unbonded, htrade, ?_, by omega, by omega, ?_⟩
    · rw [hreleased]
      exact Validator.worth_le_of_sharesFor? hburnt
    · have hbacking := htrade.backing_le (by rw [Nat.zero_mul, Nat.zero_mul])
        (hreleased ▸ Nat.div_mul_le_self _ _)
      rwa [show unbonded.tokens.toNat = v.tokens.toNat - released.toNat by omega,
        show unbonded.delegatorShares.toNat = v.delegatorShares.toNat - burnt.toNat by omega]
        at hbacking

/-- A validator has three tokens and seven shares. For two tokens more it issues four shares, which
are worth one token then; and who asks for the two tokens back burns the four shares and is released
the one. -/
theorem exchanges_round_down_three_for_seven :
    let account := Address.ofNat 0xa11ce
    let v := { newValidator "alpha" "Alpha" with tokens := 3, delegatorShares := 7 }
    let bonded := { v with tokens := 5, delegatorShares := 11 }
    let setting : Setting := ⟨⟨100, 1000⟩, .default⟩
    let outcome := (bond account v 2).run setting 0 (.base ∅) .empty
    let later := (unbond account bonded 2).run setting 0 outcome.store .empty
    outcome.result = .ok 4 ∧ Trade ∅ outcome.store.contents account v bonded 2 0 4 0 ∧
      bonded.tokensFor? 4 = some 1 ∧ later.result = .ok 1 ∧
      ∃ burnt unbonded,
        Trade outcome.store.contents later.store.contents account bonded unbonded 0 1 0 burnt ∧
        1 ≤ 2 + v.worth (burnt - 4) := by
  intro account v bonded setting outcome later
  obtain ⟨hissued, hreleased, hkept, hredeemed⟩ : outcome.result = .ok 4 ∧ later.result = .ok 1 ∧
      outcome.store.contents.record? (Key.validator "alpha") = some bonded ∧
      bonded.tokensFor? 4 = some 1 := by decide +kernel
  obtain ⟨kept, htrade, -, -, hprofitless⟩ :=
    (exchanges_round_down account v 2 setting 0 (.base ∅) .empty).1 4 hissued
  obtain rfl : kept = bonded := Option.some.inj (htrade.kept.symm.trans hkept)
  exact ⟨hissued, htrade, hredeemed, hreleased,
    hprofitless account 2 setting 0 outcome.store .empty 1 hreleased⟩

end Reference

end StakingGateway
