import StakingGateway.Proofs.Reference.Bookings
import StakingGateway.Proofs.Reference.Queries
import StakingGateway.Proofs.Reference.Refusals

/-!
# Stakes

The stake of an account with a validator is noted in two records, the validator and what the account
holds of it. Bonding and unbonding move both by the same tokens and by one share for each of them,
and a holding of nothing is not kept (`StakeMoves`). Whatever else a message books is under other
keys, so it makes no difference to the stake (`StakeMoves.congr`).

What a query reports of a stake is what may be taken out of it again: the tokens that are reported
are those that the account has bonded, and none where the query finds nothing
(`Books.reportedTokens?_eq`).

## Main definitions

* `StakeMoves`: what becomes of a stake.
* `AgreeOnStake`: stores with the same records of a stake.
* `reportedTokens?`: the tokens that a query of a delegation reports.

## Main statements

* `Books.stakeMoves_of_bond`, `Books.stakeMoves_of_unbond`: bonding and unbonding move stakes.
* `Books.reportedTokens?_eq`: what is reported is what is bonded.
-/

namespace StakingGateway.Reference

/-! ### Moves -/

/-- Tokens come into the stake that the account has with the validator, or go out of it, each of
them with one share. -/
structure StakeMoves (store after : Store) (account : Address) (operator : String)
    (gain loss : Nat) : Prop where
  /-- The validator has the tokens and the shares more, or less, and is the same otherwise. -/
  validator : ∃ v v' : Validator, store.record? (Key.validator operator) = some v ∧
    after.record? (Key.validator operator) = some v' ∧ v'.profile = v.profile ∧
    v'.tokens.toNat + loss = v.tokens.toNat + gain ∧
    v'.delegatorShares.toNat + loss * shareUnit.toNat =
      v.delegatorShares.toNat + gain * shareUnit.toNat
  /-- The account holds the shares more, or less. -/
  holding : held after account operator + loss * shareUnit.toNat =
    held store account operator + gain * shareUnit.toNat
  /-- What it holds is kept exactly if it is something. -/
  kept : ByteMap.get? after (Key.delegation account operator) = none ↔
    held after account operator = 0

/-- The stores have the same records of the stake that the account has with the validator. -/
structure AgreeOnStake (account : Address) (operator : String) (one other : Store) : Prop where
  /-- The validator is the same. -/
  validator : ByteMap.get? one (Key.validator operator) =
    ByteMap.get? other (Key.validator operator)
  /-- What the account holds of it is the same. -/
  holding : ByteMap.get? one (Key.delegation account operator) =
    ByteMap.get? other (Key.delegation account operator)

variable {account : Address} {operator : String} {store after one other one' other' : Store}

/-- A store has the same records of a stake as itself. -/
theorem AgreeOnStake.refl (account : Address) (operator : String) (store : Store) :
    AgreeOnStake account operator store store :=
  ⟨rfl, rfl⟩

/-- Stores that have the same records as a third one have the same. -/
theorem AgreeOnStake.trans {last : Store} (h : AgreeOnStake account operator one other)
    (h' : AgreeOnStake account operator other last) : AgreeOnStake account operator one last :=
  ⟨h.validator.trans h'.validator, h.holding.trans h'.holding⟩

/-- Having the same records of a stake is symmetric. -/
theorem AgreeOnStake.symm (h : AgreeOnStake account operator one other) :
    AgreeOnStake account operator other one :=
  ⟨h.validator.symm, h.holding.symm⟩

/-- Setting a balance leaves the stakes. -/
theorem agreeOnStake_keep_balance (account other : Address) (operator : String) (store : Store)
    (amount : Uint256) :
    AgreeOnStake account operator (store.keep (.balance other amount)) store where
  validator := (ByteMap.get?_insert ..).trans
    (if_neg (Key.IsOwn.balance.ne_validator operator).symm)
  holding := (ByteMap.get?_insert ..).trans
    (if_neg (balance_ne_delegation other account operator).symm)

/-- Noting what is on its way leaves the stakes. -/
theorem agreeOnStake_setUnbonding (account : Address) (operator name : String) (store : Store)
    (entries : List UnbondingEntry) :
    AgreeOnStake account operator (store.setUnbonding account name entries) store where
  validator :=
    get?_setUnbonding_of_ne ((Key.IsOwn.unbonding name).ne_validator operator).symm store entries
  holding :=
    get?_setUnbonding_of_ne (unbonding_ne_delegation account account name operator).symm store
      entries

/-- So does noting what has been moved. -/
theorem agreeOnStake_keep_redelegations (account : Address) (operator source destination : String)
    (store : Store) (entries : List Redelegation) :
    AgreeOnStake account operator
      (store.keep (.redelegations account (pair source destination) entries)) store where
  validator := by
    rw [Store.keep, ByteMap.get?_insert, key_redelegations]
    exact if_neg ((Key.IsOwn.redelegation source destination).ne_validator operator).symm
  holding := by
    rw [Store.keep, ByteMap.get?_insert, key_redelegations]
    exact if_neg (redelegation_ne_delegation account account source destination operator).symm

/-- What changes under the keys of one stake leaves the stakes with other validators. -/
theorem agreeOnStake_of_ne {name : String} (hname : name ≠ operator)
    (hframe : ∀ key, key ≠ Key.validator name → key ≠ Key.delegation account name →
      ByteMap.get? after key = ByteMap.get? store key) :
    AgreeOnStake account operator after store where
  validator := by
    refine hframe _ (fun hkey => hname (Key.validator_inj.mp hkey).symm) ?_
    exact ((Key.IsOwn.delegation name).ne_validator operator).symm
  holding := by
    refine hframe _ ((Key.IsOwn.delegation operator).ne_validator name) fun hkey => ?_
    exact hname (Key.delegation_inj.mp hkey).2.symm

/-- **What becomes of a stake** depends on its records only. -/
theorem StakeMoves.congr {gain loss : Nat} (h : StakeMoves one one' account operator gain loss)
    (hbefore : AgreeOnStake account operator one other)
    (hafter : AgreeOnStake account operator one' other') :
    StakeMoves other other' account operator gain loss where
  validator := by
    obtain ⟨v, v', hv, hv', hchanges⟩ := h.validator
    rw [record?_congr hbefore.validator] at hv
    rw [record?_congr hafter.validator] at hv'
    exact ⟨v, v', hv, hv', hchanges⟩
  holding := by
    have hholding := h.holding
    rwa [held, held, record?_congr hbefore.holding, record?_congr hafter.holding] at hholding
  kept := by
    have hkept := h.kept
    rwa [held, hafter.holding, record?_congr hafter.holding] at hkept

/-- What an exchange makes of the validator. -/
theorem Restake.validator_moves {v v' : Validator} {gain loss : Nat} {shares : Uint256}
    (hr : Restake store account v v' gain loss shares) (hexact : v.IsExact) :
    v'.profile = v.profile ∧ v'.tokens.toNat + loss = v.tokens.toNat + gain ∧
      v'.delegatorShares.toNat + loss * shareUnit.toNat =
        v.delegatorShares.toNat + gain * shareUnit.toNat := by
  have hrate := congrArg (· * shareUnit.toNat) hr.tokens
  rw [Nat.add_mul, Nat.add_mul, ← hr.exact, ← hexact] at hrate
  exact ⟨hr.profile, hr.tokens, hrate⟩

/-- What an account holds is a number of 256 bits. -/
theorem held_lt_size (store : Store) (account : Address) (operator : String) :
    held store account operator < Uint256.size := by
  rw [held]
  cases (store.record? (Key.delegation account operator) : Option Holding) with
  | none => decide
  | some holding => exact holding.shares.toNat_lt

namespace Books

variable {supply : Nat} {tokens : Uint256}

/-- **Bonding moves the tokens into the stake.** -/
theorem stakeMoves_of_bond (h : Books store supply)
    (hbond : (Booking.bond operator tokens).Changes account store after)
    (hpos : 0 < tokens.toNat) : StakeMoves store after account operator tokens.toNat 0 := by
  obtain ⟨v, v', shares, rfl, hr, rfl⟩ := hbond
  have hkept : ByteMap.get? ((store.keep (.validator v')).keep
      (.holding account v.operator ⟨shares⟩)) (Key.delegation account v.operator) =
        some (Json.encode (⟨shares⟩ : Holding)) :=
    (ByteMap.get?_insert ..).trans (if_pos rfl)
  have hshares := hr.shares
  refine ⟨?_, ?_, ?_⟩
  · obtain ⟨-, hexact⟩ := h.isExact hr.there
    have hlast := (hr.exchange_keep h.sound).kept
    rw [hr.operator_eq] at hlast
    exact ⟨v, v', hr.there, hlast, hr.validator_moves hexact⟩
  · rw [held_keep_holding, hshares]
  · rw [held_keep_holding, hkept]
    have hsome : 0 < tokens.toNat * shareUnit.toNat := Nat.mul_pos hpos (by decide)
    exact iff_of_false nofun (by omega)

/-- **Unbonding moves the tokens out of the stake.** -/
theorem stakeMoves_of_unbond (h : Books store supply)
    (hunbond : (Booking.unbond operator tokens).Changes account store after) :
    StakeMoves store after account operator 0 tokens.toNat := by
  obtain ⟨v, v', shares, rfl, hr, rfl⟩ := hunbond
  have hvalidator : Key.delegation account v.operator ≠ (Record.validator v').key :=
    (Key.IsOwn.delegation v.operator).ne_validator v'.operator
  have hset : ByteMap.get? ((store.setHolding account v.operator shares).keep (.validator v'))
      (Key.delegation account v.operator) =
        if shares = 0 then none else some (Json.encode (⟨shares⟩ : Holding)) := by
    rw [Store.keep, ByteMap.get?_insert, if_neg hvalidator, get?_setHolding_self]
  have hheld : held ((store.setHolding account v.operator shares).keep (.validator v')) account
      v.operator = shares.toNat := by rw [held_keep_validator, held_setHolding]
  refine ⟨?_, ?_, ?_⟩
  · obtain ⟨-, hexact⟩ := h.isExact hr.there
    have hlast := (hr.exchange_setHolding h.sound).kept
    rw [hr.operator_eq] at hlast
    exact ⟨v, v', hr.there, hlast, hr.validator_moves hexact⟩
  · rw [hheld, hr.shares]
  · rw [hheld, hset, ite_eq_left_iff]
    constructor
    · intro hnone
      have hnothing : shares = 0 := Decidable.of_not_not fun hsome =>
        Option.some_ne_none _ (hnone hsome)
      rw [hnothing, Uint256.toNat_zero]
    · intro hzero hsome
      exact absurd (Uint256.ext hzero) hsome

end Books

/-- Tokens that come into a stake are in it. -/
theorem StakeMoves.staked_of_gain {gain : Nat}
    (h : StakeMoves store after account operator gain 0) :
    staked after account operator = staked store account operator + gain := by
  have hholding := h.holding
  rw [Nat.zero_mul, Nat.add_zero] at hholding
  rw [staked, staked, hholding, Nat.add_mul_div_right _ _ (by decide)]

/-! ### Reports -/

/-- The tokens that a query of the delegation reports: none where it finds nothing. There is no
such number where the query complains about what is stored. -/
def reportedTokens? (parameters : Parameters) (block : Block) (store : Store)
    (delegator : Address) (operator : String) : Option Nat :=
  match (((stakingModule parameters).answer (.delegation delegator operator)).run block store).1
  with
  | .ok delegation => some delegation.balance.amount.toNat
  | .error (.notFound _) => some 0
  | .error (.corrupted _) => none

/-- **What is reported is what is bonded.** -/
theorem Books.reportedTokens?_eq {supply : Nat} (h : Books store supply) (hsupply : supply < 2 ^ 98)
    (parameters : Parameters) (block : Block) (delegator : Address) (operator : String) :
    reportedTokens? parameters block store delegator operator =
      some (staked store delegator operator) := by
  have hanswer : (((stakingModule parameters).answer (.delegation delegator operator)).run block
      store).1 = _ := h.run_findDelegation hsupply parameters delegator operator
  rw [reportedTokens?, hanswer, staked]
  cases hv : (store.record? (Key.validator operator) : Option Validator) with
  | none =>
      have hnothing := h.held_le delegator operator
      rw [issued, hv, Option.elim_none, Nat.le_zero] at hnothing
      rw [hnothing]
      rfl
  | some v =>
      rw [held]
      cases (store.record? (Key.delegation delegator operator) : Option Holding) with
      | none => rfl
      | some holding => rfl

end StakingGateway.Reference
