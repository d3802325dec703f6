import StakingGateway.Proofs.Reference.Readings

/-!
# Effects of the Reference Module

What the parts of the reference module do to a store that holds nothing but records: when they
succeed, what they give, and which records they change. Each part is opened here once; everything
else about the module is proved from what stands here.

## Main definitions

* `Store.setHolding`: the store with what an account holds of a validator.

## Main statements

* `Reference.effect_debit_eq_ok_iff`: taking from a balance.
* `Reference.effect_bond_eq_ok_iff`, `Reference.effect_unbond_eq_ok_iff`: the two exchanges.
-/

namespace StakingGateway

open Reference

/-- The store in which the account holds the shares of the validator; nothing is not kept. -/
def Store.setHolding (store : Store) (delegator : Address) (operator : String)
    (shares : Uint256) : Store :=
  if shares = 0 then store.forget (Key.delegation delegator operator)
  else store.keep (.holding delegator operator ⟨shares⟩)

namespace Reference

variable {α β : Type} {block : Block} {depth : Nat} {store after : Store} {P : Record → Prop}

/-! ### Steps -/

/-- A transition goes on with a value that has to be there if it is there. -/
theorem effect_orRefuse_bind_eq_ok_iff {fault : Fault} {found : Option α}
    {rest : α → Transition β} {b : β} :
    (orRefuse fault found >>= rest).effect block depth store = .ok (b, after) ↔
      ∃ a, found = some a ∧ (rest a).effect block depth store = .ok (b, after) := by
  cases found with
  | none => exact iff_of_false (fun h => nomatch h) (fun ⟨_, h, _⟩ => nomatch h)
  | some a =>
      constructor
      · exact fun h => ⟨a, rfl, h⟩
      · rintro ⟨given, hgiven, h⟩
        cases hgiven
        exact h

/-- A transition goes on after a condition that has to hold if it holds. -/
theorem effect_require_bind_eq_ok_iff {condition : Prop} [Decidable condition] {fault : Fault}
    {rest : Unit → Transition β} {b : β} :
    (require condition fault >>= rest).effect block depth store = .ok (b, after) ↔
      condition ∧ (rest ()).effect block depth store = .ok (b, after) := by
  rw [require]
  split
  · next h => exact (and_iff_right h).symm
  · next h => exact iff_of_false (fun heq => nomatch heq) (fun heq => h heq.1)

/-- Keeping a record puts its octets under the key. -/
theorem effect_save [Json.Codec α] (key : Bytes) (a : α) :
    (save key a).effect block depth store = .ok ((), ByteMap.insert store key (Json.encode a)) :=
  rfl

/-- A validator is kept under its own operator. -/
theorem effect_saveValidator (v : Validator) :
    (saveValidator v).effect block depth store = .ok ((), store.keep (.validator v)) := rfl

/-- A transition goes on with a validator that it loads if the validator is in the store. -/
theorem effect_loadValidator_bind_eq_ok_iff (h : store.ForallRecords P) {operator : String}
    {rest : Validator → Transition β} {b : β} :
    (loadValidator operator >>= rest).effect block depth store = .ok (b, after) ↔
      ∃ v, store.record? (Key.validator operator) = some v ∧
        (rest v).effect block depth store = .ok (b, after) := by
  have hload : (loadValidator operator).effect block depth store =
      (orRefuse (.noValidator operator) (store.record? (Key.validator operator))).effect block
        depth store := by
    rw [loadValidator, Transition.effect_bind_of_ok ((isSlot_validator operator).effect_load h ..)]
  rw [Transition.effect_bind, hload, ← Transition.effect_bind]
  exact effect_orRefuse_bind_eq_ok_iff

/-- What an account holds is kept unless it is nothing. -/
theorem effect_saveHolding (delegator : Address) (operator : String) (shares : Uint256) :
    (saveHolding delegator operator ⟨shares⟩).effect block depth store =
      .ok ((), store.setHolding delegator operator shares) := by
  rw [saveHolding, Store.setHolding]
  split
  · rfl
  · rfl

/-! ### Balances -/

/-- The balance of an account is that of its record. -/
theorem balance_eq_of_keeps {account : Address} {amount : Uint256}
    (h : store.Keeps (.balance account amount)) : balance store account = amount := by
  rw [balance, show ByteMap.get? store (Key.balance account) = _ from h, Option.bind_some,
    Record.octets, Record.ofBytes?_toBytes, Option.getD_some]

/-- An account without a record has no balance. -/
theorem balance_eq_of_none {account : Address}
    (h : ByteMap.get? store (Key.balance account) = none) : balance store account = 0 := by
  rw [balance, h, Option.bind_none, Option.getD_none]

/-- **What is taken from a balance was in it**, and the rest is kept. -/
theorem effect_debit_eq_ok_iff (h : store.ForallRecords P) {parameters : Parameters}
    {account : Address} {amount : Uint256} {a : Unit} :
    (debit parameters account amount).effect block depth store = .ok (a, after) ↔
      ∃ left, (balance store account).sub? amount = some left ∧
        after = store.keep (.balance account left) := by
  have hrest : ∀ found : Uint256,
      ((orRefuse (.insufficientFunds found amount parameters.bondDenom) (found.sub? amount) >>=
        fun left => Transition.put (Key.balance account) left.toBytes).effect block depth store =
          .ok (a, after)) ↔
        ∃ left, found.sub? amount = some left ∧ after = store.keep (.balance account left) := by
    intro found
    rw [effect_orRefuse_bind_eq_ok_iff]
    refine exists_congr fun left => and_congr_right fun _ => ?_
    rw [Transition.effect_put, Except.ok.injEq, Prod.mk.injEq, and_iff_right rfl]
    exact eq_comm
  rw [debit, Transition.effect_bind_of_ok (Transition.effect_read ..)]
  cases hget : ByteMap.get? store (Key.balance account) with
  | none =>
      rw [balance_eq_of_none hget]
      exact hrest 0
  | some octets =>
      obtain ⟨record, -, hkey, rfl⟩ := h _ _ hget
      obtain ⟨found, rfl⟩ := exists_eq_balance hkey
      rw [balance_eq_of_keeps (show store.Keeps (.balance account found) from hget)]
      dsimp only [Record.octets]
      rw [Record.ofBytes?_toBytes]
      exact hrest found

/-! ### Exchanges -/

/-- What an account holds of a validator is kept apart from the validator. -/
theorem record?_holding_keep_validator (store : Store) (delegator : Address) (operator : String)
    (v : Validator) :
    ((store.keep (.validator v)).record? (Key.delegation delegator operator) : Option Holding) =
      store.record? (Key.delegation delegator operator) := by
  have hkind : (Record.holding delegator operator ⟨0⟩).kind ≠ (Record.validator v).kind := nofun
  exact record?_keep_of_ne (Record.key_ne_of_kind_ne hkind)

/-- **Bonding** issues the shares that the tokens are exchanged for, adds both to the validator, and
adds the shares to what the delegator holds. -/
theorem effect_bond_eq_ok_iff (h : store.ForallRecords P) {delegator : Address} {v : Validator}
    {tokens shares : Uint256} :
    (bond delegator v tokens).effect block depth store = .ok (shares, after) ↔
      ∃ bonded held, v.sharesFor? tokens = some shares ∧ v.bond? tokens shares = some bonded ∧
        ((store.record? (Key.delegation delegator v.operator)).getD (⟨0⟩ : Holding)).shares.add?
          shares = some held ∧
        after = (store.keep (.validator bonded)).keep (.holding delegator v.operator ⟨held⟩) := by
  have hload : ∀ bonded : Validator,
      (load (Key.delegation delegator v.operator) : Transition (Option Holding)).effect block depth
        (store.keep (.validator bonded)) =
          .ok (store.record? (Key.delegation delegator v.operator),
            store.keep (.validator bonded)) := by
    intro bonded
    have hkept : (store.keep (.validator bonded)).ForallRecords fun _ => True :=
      (h.mono fun _ _ => trivial).keep trivial
    rw [(isSlot_holding delegator v.operator).effect_load hkept, record?_holding_keep_validator]
  rw [bond, effect_orRefuse_bind_eq_ok_iff]
  constructor
  · rintro ⟨issued, hissued, heffect⟩
    obtain ⟨bonded, hbonded, heffect⟩ := effect_orRefuse_bind_eq_ok_iff.mp heffect
    rw [Transition.effect_bind_of_ok (effect_saveValidator ..),
      Transition.effect_bind_of_ok (hload bonded), effect_orRefuse_bind_eq_ok_iff] at heffect
    obtain ⟨held, hheld, heffect⟩ := heffect
    obtain ⟨rfl, hafter⟩ := Prod.mk.inj (Except.ok.inj heffect)
    exact ⟨bonded, held, hissued, hbonded, hheld, hafter.symm⟩
  · rintro ⟨bonded, held, hissued, hbonded, hheld, rfl⟩
    refine ⟨shares, hissued, effect_orRefuse_bind_eq_ok_iff.mpr ⟨bonded, hbonded, ?_⟩⟩
    rw [Transition.effect_bind_of_ok (effect_saveValidator ..),
      Transition.effect_bind_of_ok (hload bonded), effect_orRefuse_bind_eq_ok_iff]
    exact ⟨held, hheld, rfl⟩

/-- **Unbonding** burns the shares that the tokens are exchanged for, out of what the delegator
holds, and takes them and the tokens that they are worth from the validator. -/
theorem effect_unbond_eq_ok_iff (h : store.ForallRecords P) {delegator : Address} {v : Validator}
    {tokens released : Uint256} :
    (unbond delegator v tokens).effect block depth store = .ok (released, after) ↔
      ∃ holding shares left unbonded,
        store.record? (Key.delegation delegator v.operator) = some (holding : Holding) ∧
        v.sharesFor? tokens = some shares ∧ v.tokensFor? shares = some released ∧
        holding.shares.sub? shares = some left ∧ v.unbond? released shares = some unbonded ∧
        after = (store.setHolding delegator v.operator left).keep (.validator unbonded) := by
  rw [unbond, Transition.effect_bind_of_ok ((isSlot_holding delegator v.operator).effect_load h ..),
    effect_orRefuse_bind_eq_ok_iff]
  constructor
  · rintro ⟨holding, hholding, heffect⟩
    obtain ⟨shares, hshares, heffect⟩ := effect_orRefuse_bind_eq_ok_iff.mp heffect
    obtain ⟨-, heffect⟩ := effect_require_bind_eq_ok_iff.mp heffect
    obtain ⟨worth, hworth, heffect⟩ := effect_orRefuse_bind_eq_ok_iff.mp heffect
    obtain ⟨left, hleft, heffect⟩ := effect_orRefuse_bind_eq_ok_iff.mp heffect
    rw [Transition.effect_bind_of_ok (effect_saveHolding ..), effect_orRefuse_bind_eq_ok_iff]
      at heffect
    obtain ⟨unbonded, hunbonded, heffect⟩ := heffect
    obtain ⟨rfl, hafter⟩ := Prod.mk.inj (Except.ok.inj heffect)
    exact ⟨holding, shares, left, unbonded, hholding, hshares, hworth, hleft, hunbonded,
      hafter.symm⟩
  · rintro ⟨holding, shares, left, unbonded, hholding, hshares, hworth, hleft, hunbonded, rfl⟩
    have hle : shares ≤ holding.shares := by
      have hsub := Uint256.sub?_eq_some_iff.mp hleft
      exact Nat.le_of_add_left_le (Nat.le_of_eq hsub)
    refine ⟨holding, hholding, effect_orRefuse_bind_eq_ok_iff.mpr ⟨shares, hshares, ?_⟩⟩
    refine effect_require_bind_eq_ok_iff.mpr ⟨hle, ?_⟩
    refine effect_orRefuse_bind_eq_ok_iff.mpr ⟨released, hworth, ?_⟩
    refine effect_orRefuse_bind_eq_ok_iff.mpr ⟨left, hleft, ?_⟩
    rw [Transition.effect_bind_of_ok (effect_saveHolding ..), effect_orRefuse_bind_eq_ok_iff]
    exact ⟨unbonded, hunbonded, rfl⟩

end Reference

end StakingGateway
