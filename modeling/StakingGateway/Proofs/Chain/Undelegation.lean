import StakingGateway.Proofs.Chain.Conservation
import StakingGateway.Proofs.Reference.CallBookings
import StakingGateway.Proofs.Reference.Stakes
import StakingGateway.Proofs.Reference.Unbondings

/-!
# Undelegations

An account asks for tokens and the staking module decides on shares: it looks for the shares that
the tokens are worth, compares them with those that the account holds, and turns them into tokens
again. On a chain with a supply below `2 ^ 98` none of that shows. An undelegation is carried out
exactly if the account has as many tokens with the validator as it asks for, and then it takes just
these out of the stake and puts them on their way back, in one entry behind those that were there
(`Chain.undelegations_exact`).

## Main definitions

* `Reference.Undelegated`: what an undelegation makes of a store.

## Main statements

* `Books.undelegated`: what is booked for an undelegation.
* `Reference.undelegation_planned_iff`: which undelegations can be carried out.
* `Chain.undelegations_exact`: undelegations of a chain, from the call to the store.
-/

namespace StakingGateway

open Genesis (alpha fundedAccount)
open Reference

namespace Reference

/-- The tokens have been taken out of the stake of the account with the validator and are on their
way back to it in the entry. -/
structure Undelegated (store after : Store) (account : Address) (operator : String)
    (tokens : Nat) (entry : UnbondingEntry) : Prop where
  /-- The stake has the tokens less. -/
  stake : StakeMoves store after account operator 0 tokens
  /-- The entry stands behind those that were on their way before. -/
  noted : after.record? (Key.unbonding account operator) =
    some (⟨account, operator, unbondingEntries store account operator ++ [entry]⟩ :
      UnbondingDelegation)
  /-- Nothing else changes. -/
  others {key : Bytes} (hvalidator : key ≠ Key.validator operator)
    (hholding : key ≠ Key.delegation account operator)
    (hunbonding : key ≠ Key.unbonding account operator) :
    ByteMap.get? after key = ByteMap.get? store key

variable {parameters : Parameters} {block : Block} {store after : Store} {supply : Nat}
  {account : Address} {operator : String}

/-- **What is booked for an undelegation** takes the tokens out of the stake and notes the entry. -/
theorem Books.undelegated (h : Books store supply) {tokens : Uint256} {entry : UnbondingEntry}
    (hchanges : Changes account [.unbond operator tokens,
      .unbonding operator (unbondingEntries store account operator ++ [entry])] store after) :
    Undelegated store after account operator tokens.toNat entry := by
  obtain ⟨middle, hunbonded, last, rfl, rfl⟩ := hchanges
  refine ⟨?_, ?_, ?_⟩
  · exact (h.stakeMoves_of_unbond hunbonded).congr (.refl ..)
      (agreeOnStake_setUnbonding ..).symm
  · rw [record?_setUnbonding_self, if_neg (by simp)]
  · intro key hvalidator hholding hunbonding
    rw [get?_setUnbonding_of_ne hunbonding, get?_of_unbond hunbonded hvalidator hholding]

/-- An account may ask for tokens back if they are of a denomination and at least one. -/
theorem check_undelegate_eq_ok_iff {coin : Coin} (haccount : account ≠ .zero)
    (hnamed : ¬ Text.IsBlank operator) :
    (Message.undelegate account operator coin).check = .ok () ↔
      IsDenom coin.denom ∧ 0 < coin.amount.toNat := by
  rw [Message.check_eq_ok_iff, Uint256.toNat_pos_iff]
  simp [Message.delegator, Message.validators, Message.coin, Message.height?, haccount, hnamed]

/-- **An undelegation is planned** if the denomination is the one that is bonded, the validator is
there, and the account has bonded as much to it, as long as the time of unbonding can be added to
that of the block. -/
theorem undelegation_planned_iff {coin : Coin}
    (htime : block.time.toNat + parameters.unbondingTime.toNat ≤ 2 ^ 64 - 1) :
    (∃ time bookings, plan? parameters block store (.undelegate account operator coin) =
        some (time, bookings)) ↔
      coin.denom = parameters.bondDenom ∧ registered store operator = true ∧
        coin.amount.toNat ≤ staked store account operator := by
  rw [le_staked_iff]
  constructor
  · rintro ⟨time, bookings, hplan⟩
    exact (plan?_undelegate_eq_some_iff.mp hplan).1
  · intro hcovered
    obtain ⟨time, hfinish⟩ := exists_completionTime htime
    exact ⟨time, _, plan?_undelegate_eq_some_iff.mpr ⟨hcovered, hfinish, rfl⟩⟩

end Reference

namespace Chain

variable {genesis : Genesis} {chain : Chain}

/-- **Undelegations are exact.** After any calls on a chain with a supply below `2 ^ 98`, an account
that asks for tokens back, and does not run out of gas, is given them exactly if they are of the
denomination that is bonded, the validator is registered, and they are at least one and no more than
a query reports of its delegation. It is then told when they are free. They have left its stake, and
the holding with it if nothing is left of that; one entry of them has come behind those that were on
their way; and nothing else has changed. -/
theorem undelegations_exact (h : ofGenesis genesis = .ok chain) (hsupply : genesis.supply < 2 ^ 98)
    (submissions : List Submission) {call : Call} {operator denom : String} {amount : Uint256}
    (hasks : call.AsksFor (.undelegate call.caller operator ⟨denom, amount⟩))
    (haccount : call.caller ≠ .zero) (hnamed : ¬ Text.IsBlank operator)
    (htime : call.block.time.toNat + genesis.unbondingTime.toNat ≤ 2 ^ 64 - 1)
    (gas : GasAccount) :
    let store := chain.gateway.storeAfter submissions chain.store
    let report := chain.gateway.run call store gas
    GasFree report.result →
      ∃ tokens, reportedTokens? chain.parameters call.block store call.caller operator =
          some tokens ∧
        ((∃ data, report.result = .ok data) ↔ denom = standardDenom ∧
          registered store operator = true ∧ 0 < amount.toNat ∧ amount.toNat ≤ tokens) ∧
        ∀ data, report.result = .ok data → ∃ time : UInt64,
          time.toNat = call.block.time.toNat + genesis.unbondingTime.toNat ∧
            data = Abi.word time.toNat ∧
            Undelegated store report.store call.caller operator amount.toNat
              ⟨call.block.height, time, amount, amount⟩ := by
  intro store report hgas
  have hbooks : Books store genesis.supply := books_storeAfter h submissions
  have hparameters := parameters_of_ofGenesis h
  obtain ⟨haccepted, hdone⟩ := hbooks.run_of_asksFor hsupply hasks hgas
  refine ⟨_, hbooks.reportedTokens?_eq hsupply .., ?_, ?_⟩
  · refine haccepted.trans ?_
    rw [check_undelegate_eq_ok_iff haccount hnamed, hparameters, undelegation_planned_iff htime]
    constructor
    · rintro ⟨⟨-, hpos⟩, hdenom, hthere, hcovered⟩
      exact ⟨hdenom, hthere, hpos, hcovered⟩
    · rintro ⟨rfl, hthere, hpos, hcovered⟩
      exact ⟨⟨isDenom_standardDenom, hpos⟩, rfl, hthere, hcovered⟩
  · intro data hdata
    obtain ⟨time, bookings, hplan, hreturned, hchanges⟩ := hdone data hdata
    obtain ⟨-, hfinish, rfl⟩ := plan?_undelegate_eq_some_iff.mp hplan
    rw [hparameters] at hfinish
    exact ⟨time, toNat_completionTime hfinish, hreturned.trans (encodeValues_completionTime time),
      hbooks.undelegated hchanges⟩

/-- An account that has bonded 400 tokens asks for all of them in the next block. They come free
after 21 days, and no holding is left. -/
theorem undelegations_exact_whole_stake :
    let submissions := [submission fundedAccount (delegateData fundedAccount alpha 400) ⟨100, 1000⟩]
    let call : Call := ⟨undelegateData fundedAccount alpha 400, fundedAccount, false, ⟨101, 1006⟩⟩
    let store := bundled.gateway.storeAfter submissions bundled.store
    let report := bundled.gateway.run call store (.full ampleGas)
    report.result = .ok (Abi.word 1815406) ∧
      Undelegated store report.store fundedAccount alpha 400 ⟨101, 1815406, 400, 400⟩ ∧
      ByteMap.get? report.store (Key.delegation fundedAccount alpha) = none := by
  intro submissions call store report
  have hasks : call.AsksFor (.undelegate fundedAccount alpha ⟨standardDenom, .ofUInt64 400⟩) :=
    ⟨rfl, rfl, rfl, by decide +kernel⟩
  obtain ⟨hresult, hheld⟩ : report.result = .ok (Abi.word 1815406) ∧
      held store fundedAccount alpha = 400 * shareUnit.toNat := by decide +kernel
  obtain ⟨-, -, -, hdone⟩ := undelegations_exact ofGenesis_bundled (by decide) submissions
    hasks (by decide) (by decide) (by decide) (.full ampleGas)
    (gasFree_of_isOk (congrArg Except.isOk hresult))
  obtain ⟨time, htime, -, hundelegated⟩ := hdone _ hresult
  obtain rfl : time = 1815406 := UInt64.toNat_inj.mp (htime.trans (by decide))
  have hleft := hundelegated.stake.holding
  rw [hheld] at hleft
  refine ⟨hresult, hundelegated, hundelegated.stake.kept.mpr ?_⟩
  exact Nat.add_right_cancel (hleft.trans (Nat.add_comm _ _))

end Chain

end StakingGateway
