import StakingGateway.Proofs.Reference.ConstantRate
import StakingGateway.Proofs.Reference.Effects

/-!
# Exchanges of Tokens and Shares

Bonding and unbonding change two records: a validator, and what an account holds of it. What comes
of sums over all records, and of the other validators, follows from that alone (`Exchange`). An
exchange with an exact validator is one at a constant rate, so bonding issues one share for each
token, and unbonding releases exactly the tokens that it was asked for.

## Main definitions

* `Exchange`: two stores that differ in a validator and in a holding of it.
* `Restake`: what becomes of the two at the constant rate.

## Main statements

* `Reference.restake_of_bond`, `Reference.restake_of_unbond`: bonding and unbonding are exchanges at
  the constant rate.
-/

namespace StakingGateway

namespace Reference

variable {store : Store} {P : Record → Prop}

/-- The shares that the account holds of the validator. -/
def held (store : Store) (delegator : Address) (operator : String) : Nat :=
  (store.record? (Key.delegation delegator operator)).elim 0 fun h : Holding => h.shares.toNat

/-- An account without a holding holds no shares. -/
theorem toNat_getD_holding (store : Store) (delegator : Address) (operator : String) :
    ((store.record? (Key.delegation delegator operator)).getD (⟨0⟩ : Holding)).shares.toNat =
      held store delegator operator := by
  rw [held]
  cases (store.record? (Key.delegation delegator operator) : Option Holding) with
  | none => rfl
  | some holding => rfl

/-- The stores differ in one validator, and in the shares that an account holds of it. -/
structure Exchange (before after : Store) (v v' : Validator) (delegator : Address)
    (shares : Uint256) : Prop where
  /-- The validator was there before. -/
  there : before.record? (Key.validator v'.operator) = some v
  /-- The new records are the only ones. -/
  records (P : Record → Prop) (h : before.ForallRecords P) (hvalidator : P (.validator v'))
    (hholding : P (.holding delegator v'.operator ⟨shares⟩)) : after.ForallRecords P
  /-- Sums change by the new records and by those in whose place they are. -/
  sums (amount : Record → Nat) (hzero : amount (.holding delegator v'.operator ⟨0⟩) = 0) :
    after.tally amount + amount (.validator v) +
        before.amountAt amount (Key.delegation delegator v'.operator) =
      before.tally amount + amount (.validator v') +
        amount (.holding delegator v'.operator ⟨shares⟩)
  /-- The validator is there afterwards. -/
  kept : after.record? (Key.validator v'.operator) = some v'
  /-- What is under other keys is as it was. -/
  others {key : Bytes} (hvalidator : key ≠ Key.validator v'.operator)
    (hholding : key ≠ Key.delegation delegator v'.operator) :
    ByteMap.get? after key = ByteMap.get? before key

/-- The other validators are as they were. -/
theorem Exchange.record?_validator {before after : Store} {v v' : Validator} {delegator : Address}
    {shares : Uint256} (hx : Exchange before after v v' delegator shares) {operator : String}
    (h : operator ≠ v'.operator) :
    (after.record? (Key.validator operator) : Option Validator) =
      before.record? (Key.validator operator) := by
  have hholding : (Record.holding delegator v'.operator ⟨shares⟩).kind ≠ .validator := nofun
  rw [Store.record?, hx.others (fun hkey => h (Key.validator_inj.mp hkey))
    (validator_ne_key hholding operator), Store.record?]

/-- Setting a holding leaves what is under other keys. -/
theorem get?_setHolding_of_ne {delegator : Address} {operator : String} {key : Bytes}
    (h : key ≠ Key.delegation delegator operator) (store : Store) (shares : Uint256) :
    ByteMap.get? (store.setHolding delegator operator shares) key = ByteMap.get? store key := by
  rw [Store.setHolding]
  split
  · rw [Store.forget, ByteMap.get?_erase, if_neg h]
  · exact (ByteMap.get?_insert ..).trans (if_neg h)

/-- A holding that has been set is kept, unless it is one of nothing. -/
theorem get?_setHolding_self (store : Store) (delegator : Address) (operator : String)
    (shares : Uint256) :
    ByteMap.get? (store.setHolding delegator operator shares) (Key.delegation delegator operator) =
      if shares = 0 then none else some (Json.encode (⟨shares⟩ : Holding)) := by
  rw [Store.setHolding]
  split
  · exact (ByteMap.get?_erase ..).trans (if_pos rfl)
  · exact (ByteMap.get?_insert ..).trans (if_pos rfl)

/-- An account holds the shares that are kept for it. -/
theorem held_keep_holding (store : Store) (account : Address) (operator : String)
    (shares : Uint256) :
    held (store.keep (.holding account operator ⟨shares⟩)) account operator = shares.toNat := by
  have hkept : (store.keep (.holding account operator ⟨shares⟩)).record?
      (Key.delegation account operator) = some (⟨shares⟩ : Holding) := record?_keep_self rfl store
  rw [held, hkept, Option.elim_some]

/-- It holds those that are set for it, also where they are nothing. -/
theorem held_setHolding (store : Store) (account : Address) (operator : String)
    (shares : Uint256) :
    held (store.setHolding account operator shares) account operator = shares.toNat := by
  rw [held, Store.record?, get?_setHolding_self]
  split
  · next hnothing => rw [Option.bind_none, Option.elim_none, hnothing, Uint256.toNat_zero]
  · rw [Option.bind_some, Json.decode?_encode, Option.elim_some]

/-- Keeping a validator leaves what accounts hold. -/
theorem held_keep_validator (store : Store) (account : Address) (operator : String)
    (v : Validator) : held (store.keep (.validator v)) account operator =
      held store account operator := by
  rw [held, held, record?_holding_keep_validator]

/-- **Sums after the change of a holding**, also where nothing is not kept. -/
theorem tally_setHolding (store : Store) {amount : Record → Nat} {delegator : Address}
    {operator : String} (hzero : amount (.holding delegator operator ⟨0⟩) = 0)
    (shares : Uint256) :
    (store.setHolding delegator operator shares).tally amount +
        store.amountAt amount (Key.delegation delegator operator) =
      store.tally amount + amount (.holding delegator operator ⟨shares⟩) := by
  rw [Store.setHolding]
  split
  · next hnothing => rw [hnothing, hzero, Nat.add_zero, Store.tally_forget]
  · exact store.tally_keep amount (.holding delegator operator ⟨shares⟩)

/-- What is under the key of a validator is the validator that is read. -/
theorem keeps_of_record?_validator (h : store.ForallRecords P) {operator : String} {v : Validator}
    (hv : store.record? (Key.validator operator) = some v) :
    v.operator = operator ∧ store.Keeps (.validator v) := by
  obtain ⟨hkey, hkeeps⟩ := ((isSlot_validator operator).record?_eq_some_iff h).mp hv
  exact ⟨Key.validator_inj.mp hkey, hkeeps⟩

/-- A validator that is kept in the place of another, and a holding of it after that. -/
theorem Exchange.of_keep_keep (h : store.ForallRecords P) {v v' : Validator}
    (hv : store.record? (Key.validator v'.operator) = some v) (delegator : Address)
    (shares : Uint256) :
    Exchange store ((store.keep (.validator v')).keep (.holding delegator v'.operator ⟨shares⟩))
      v v' delegator shares := by
  obtain ⟨hoperator, hkeeps⟩ := keeps_of_record?_validator h hv
  have hkind : (Record.holding delegator v'.operator ⟨shares⟩).kind ≠ .validator := nofun
  refine ⟨hv, fun P h hvalidator hholding => (h.keep hvalidator).keep hholding, ?_, ?_, ?_⟩
  · intro amount hzero
    have hvalidator := store.tally_keep amount (.validator v')
    have hholding := (store.keep (.validator v')).tally_keep amount
      (.holding delegator v'.operator ⟨shares⟩)
    rw [Store.amountAt_keep_of_ne (validator_ne_key hkind v'.operator).symm] at hholding
    rw [show (Record.validator v').key = (Record.validator v).key from congrArg Key.validator
      hoperator.symm, Store.amountAt_of_keeps hkeeps] at hvalidator
    change _ + store.amountAt amount (Key.delegation delegator v'.operator) = _ at hholding
    omega
  · rw [record?_validator_keep hkind]
    exact record?_keep_self rfl store
  · intro key hvalidator hholding
    refine (ByteMap.get?_insert ..).trans ((if_neg hholding).trans ?_)
    exact (ByteMap.get?_insert ..).trans (if_neg hvalidator)

/-- A holding that is set, and after that a validator that is kept in the place of another. -/
theorem Exchange.of_setHolding_keep (h : store.ForallRecords P) {v v' : Validator}
    (hv : store.record? (Key.validator v'.operator) = some v) (delegator : Address)
    (shares : Uint256) :
    Exchange store ((store.setHolding delegator v'.operator shares).keep (.validator v'))
      v v' delegator shares := by
  obtain ⟨hoperator, hkeeps⟩ := keeps_of_record?_validator h hv
  have hkind : (Record.holding delegator v'.operator ⟨shares⟩).kind ≠ .validator := nofun
  refine ⟨hv, fun P h hvalidator hholding => ?_, ?_, ?_, ?_⟩
  · rw [Store.setHolding]
    split
    · exact (h.forget _).keep hvalidator
    · exact (h.keep hholding).keep hvalidator
  · intro amount hzero
    have hholding := tally_setHolding store hzero shares
    have hvalidator := (store.setHolding delegator v'.operator shares).tally_keep amount
      (.validator v')
    have hstays : (store.setHolding delegator v'.operator shares).Keeps (.validator v) :=
      (get?_setHolding_of_ne (validator_ne_key hkind v.operator) store shares).trans hkeeps
    rw [show (Record.validator v').key = (Record.validator v).key from congrArg Key.validator
      hoperator.symm, Store.amountAt_of_keeps hstays] at hvalidator
    omega
  · exact record?_keep_self rfl _
  · intro key hvalidator hholding
    refine (ByteMap.get?_insert ..).trans ((if_neg hvalidator).trans ?_)
    exact get?_setHolding_of_ne hholding store shares

/-! ### Bonding and unbonding -/

/-- Tokens come into the stake that the account has with a validator, or go out of it, at the
constant rate: what becomes of the validator, and what shares the account holds afterwards. -/
structure Restake (store : Store) (account : Address) (v v' : Validator) (gain loss : Nat)
    (shares : Uint256) : Prop where
  /-- The validator is in the store. -/
  there : store.record? (Key.validator v.operator) = some v
  /-- Nothing but what is bonded to it changes. -/
  profile : v'.profile = v.profile
  /-- The validator is exact. -/
  exact : v'.IsExact
  /-- The tokens are bonded to it, or are not any more. -/
  tokens : v'.tokens.toNat + loss = v.tokens.toNat + gain
  /-- One share for each of the tokens is issued to the account, or burnt. -/
  shares : shares.toNat + loss * shareUnit.toNat =
    held store account v.operator + gain * shareUnit.toNat

variable {block : Block} {depth : Nat} {after : Store} {account : Address} {v v' : Validator}

/-- The validator keeps its operator. -/
theorem Restake.operator_eq {gain loss : Nat} {shares : Uint256}
    (hr : Restake store account v v' gain loss shares) : v'.operator = v.operator := by
  have hoperator := congrArg Validator.operator hr.profile
  exact hoperator

/-- An exchange in which the holding is kept after the validator. -/
theorem Restake.exchange_keep (h : store.ForallRecords P) {gain loss : Nat} {shares : Uint256}
    (hr : Restake store account v v' gain loss shares) :
    Exchange store ((store.keep (.validator v')).keep (.holding account v.operator ⟨shares⟩))
      v v' account shares := by
  rw [← hr.operator_eq]
  exact .of_keep_keep h (hr.operator_eq ▸ hr.there) account shares

/-- An exchange in which the holding is set before the validator is kept. -/
theorem Restake.exchange_setHolding (h : store.ForallRecords P) {gain loss : Nat}
    {shares : Uint256} (hr : Restake store account v v' gain loss shares) :
    Exchange store ((store.setHolding account v.operator shares).keep (.validator v'))
      v v' account shares := by
  rw [← hr.operator_eq]
  exact .of_setHolding_keep h (hr.operator_eq ▸ hr.there) account shares

/-- **Bonding exchanges** the tokens for one share each. -/
theorem restake_of_bond (h : store.ForallRecords P) (hexact : v.IsExact)
    (hv : store.record? (Key.validator v.operator) = some v) {tokens shares : Uint256}
    (heffect : (bond account v tokens).effect block depth store = .ok (shares, after)) :
    shares.toNat = tokens.toNat * shareUnit.toNat ∧ ∃ bonded left,
      Restake store account v bonded tokens.toNat 0 left ∧
        after = (store.keep (.validator bonded)).keep (.holding account v.operator ⟨left⟩) := by
  obtain ⟨bonded, left, hshares, hbonded, hleft, rfl⟩ := (effect_bond_eq_ok_iff h).mp heffect
  obtain ⟨hprofile, htokens, -⟩ := Validator.of_bond? hbonded
  have hvalue := Validator.toNat_sharesFor? hexact hshares
  refine ⟨hvalue, bonded, left, ⟨hv, hprofile, hexact.bond hshares hbonded, htokens, ?_⟩, rfl⟩
  rw [Nat.zero_mul, Nat.add_zero, ← hvalue, Uint256.add?_eq_some_iff.mp hleft, toNat_getD_holding]

/-- **Unbonding exchanges** them back, and releases exactly the tokens that it was asked for. -/
theorem restake_of_unbond (h : store.ForallRecords P) (hexact : v.IsExact)
    (hv : store.record? (Key.validator v.operator) = some v) {tokens released : Uint256}
    (heffect : (unbond account v tokens).effect block depth store = .ok (released, after)) :
    released = tokens ∧ ∃ unbonded left,
      Restake store account v unbonded 0 tokens.toNat left ∧
        after = (store.setHolding account v.operator left).keep (.validator unbonded) := by
  obtain ⟨holding, shares, left, unbonded, hholding, hshares, hreleased, hleft, hunbonded, rfl⟩ :=
    (effect_unbond_eq_ok_iff h).mp heffect
  obtain ⟨hprofile, htokens, -⟩ := Validator.of_unbond? hunbonded
  obtain ⟨rfl, hafter⟩ := hexact.unbond hshares hreleased hunbonded
  refine ⟨rfl, unbonded, left, ⟨hv, hprofile, hafter, htokens, ?_⟩, rfl⟩
  rw [Nat.zero_mul, Nat.add_zero, ← Validator.toNat_sharesFor? hexact hshares,
    Uint256.sub?_eq_some_iff.mp hleft, held, hholding, Option.elim_some]

end Reference

end StakingGateway
