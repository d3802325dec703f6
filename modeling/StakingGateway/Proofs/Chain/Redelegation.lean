import StakingGateway.Proofs.Chain.Conservation
import StakingGateway.Proofs.Reference.CallBookings
import StakingGateway.Proofs.Reference.Stakes
import StakingGateway.Proofs.Reference.Unbondings

/-!
# Redelegations

A redelegation reads two validators before it changes any, then unbonds from the one and bonds to
the other. What it bonds to has not been touched meanwhile: the validators differ, and with them all
four records of the two stakes. So on a chain with a supply below `2 ^ 98` the tokens that leave the
one stake are those that arrive in the other, and all that happens besides is that the move is noted
(`Chain.redelegations_exact`).

## Main definitions

* `Reference.Redelegated`: what a redelegation makes of a store.

## Main statements

* `Books.redelegated`: what is booked for a redelegation.
* `Reference.redelegation_planned_iff`: which redelegations can be carried out.
* `Chain.redelegations_exact`: redelegations of a chain, from the call to the store.
-/

namespace StakingGateway

open Genesis (alpha beta fundedAccount)
open Reference

namespace Reference

/-- The tokens have been taken out of the stake of the account with the one validator and put into
its stake with the other, and the entry says so. -/
structure Redelegated (store after : Store) (account : Address) (source destination : String)
    (tokens : Nat) (entry : Redelegation) : Prop where
  /-- The stake with the source has the tokens less. -/
  left : StakeMoves store after account source 0 tokens
  /-- The stake with the destination has them more. -/
  arrived : StakeMoves store after account destination tokens 0
  /-- The entry stands behind what was moved before. -/
  noted : after.record? (Key.redelegation account source destination) =
    some (redelegations store account source destination ++ [entry])
  /-- Nothing else changes. -/
  others {key : Bytes} (hsource : key ≠ Key.validator source)
    (hsourceHolding : key ≠ Key.delegation account source)
    (hdestination : key ≠ Key.validator destination)
    (hdestinationHolding : key ≠ Key.delegation account destination)
    (hredelegation : key ≠ Key.redelegation account source destination) :
    ByteMap.get? after key = ByteMap.get? store key

variable {parameters : Parameters} {block : Block} {store after : Store} {supply : Nat}
  {account : Address} {source destination : String}

/-- A redelegation leaves all balances. -/
theorem Redelegated.balance_eq {tokens : Nat} {entry : Redelegation}
    (h : Redelegated store after account source destination tokens entry) (other : Address) :
    balance after other = balance store other := by
  have hvalidator (name : String) : Key.balance other ≠ Key.validator name :=
    Key.IsOwn.balance.ne_validator name
  have hholding := balance_ne_delegation other account
  rw [balance, balance, h.others (hvalidator source) (hholding source) (hvalidator destination)
    (hholding destination) (redelegation_ne_balance account other source destination).symm]

/-- And it leaves all that is on its way back. -/
theorem Redelegated.unbondingEntries_eq {tokens : Nat} {entry : Redelegation}
    (h : Redelegated store after account source destination tokens entry) (other : Address)
    (operator : String) :
    unbondingEntries after other operator = unbondingEntries store other operator := by
  have hvalidator (name : String) : Key.unbonding other operator ≠ Key.validator name :=
    (Key.IsOwn.unbonding operator).ne_validator name
  have hholding := unbonding_ne_delegation other account operator
  have hget := h.others (hvalidator source) (hholding source) (hvalidator destination)
    (hholding destination) (redelegation_ne_unbonding account other source destination operator).symm
  rw [unbondingEntries, unbondingEntries, record?_congr hget]

/-- **What is booked for a redelegation** takes the tokens out of the one stake and puts them into
the other. -/
theorem Books.redelegated (h : Books store supply) {tokens : Uint256} {entry : Redelegation}
    (hdistinct : source ≠ destination) (hpos : 0 < tokens.toNat)
    (hchanges : Changes account [.unbond source tokens, .bond destination tokens,
      .redelegations source destination
        (redelegations store account source destination ++ [entry])] store after) :
    Redelegated store after account source destination tokens.toNat entry := by
  obtain ⟨middle, hunbonded, last, hbonded, _, rfl, rfl⟩ := hchanges
  obtain ⟨rest, -, hmiddle⟩ := h.of_unbond hunbonded
  -- Each of the two exchanges leaves the stake of the other one.
  have hdestination : AgreeOnStake account destination middle store :=
    agreeOnStake_of_ne hdistinct fun key => get?_of_unbond hunbonded
  have hsource : AgreeOnStake account source last middle :=
    agreeOnStake_of_ne hdistinct.symm fun key => get?_of_bond hbonded
  refine ⟨?_, ?_, ?_, ?_⟩
  · refine (h.stakeMoves_of_unbond hunbonded).congr (.refl ..) ?_
    exact hsource.symm.trans (agreeOnStake_keep_redelegations ..).symm
  · refine (hmiddle.stakeMoves_of_bond hbonded hpos).congr hdestination ?_
    exact (agreeOnStake_keep_redelegations ..).symm
  · rw [← key_redelegations]
    exact record?_keep_self rfl last
  · intro key hsource hsourceHolding hdestination hdestinationHolding hredelegation
    rw [← get?_of_unbond hunbonded hsource hsourceHolding,
      ← get?_of_bond hbonded hdestination hdestinationHolding]
    refine (ByteMap.get?_insert ..).trans (if_neg ?_)
    rwa [key_redelegations]

/-- An account may ask for a move between validators with names if they differ, and if the tokens
are of a denomination and at least one. -/
theorem check_redelegate_eq_ok_iff {coin : Coin} (haccount : account ≠ .zero)
    (hsource : ¬ Text.IsBlank source) (hdestination : ¬ Text.IsBlank destination) :
    (Message.redelegate account source destination coin).check = .ok () ↔
      source ≠ destination ∧ IsDenom coin.denom ∧ 0 < coin.amount.toNat := by
  rw [Message.check_eq_ok_iff, Uint256.toNat_pos_iff]
  simp [Message.delegator, Message.validators, Message.coin, Message.height?, haccount, hsource,
    hdestination]

/-- **A redelegation is planned** if the denomination is the one that is bonded, the validators are
there and differ, and the account has bonded as much to the source, as long as the time of unbonding
can be added to that of the block. -/
theorem redelegation_planned_iff {coin : Coin}
    (htime : block.time.toNat + parameters.unbondingTime.toNat ≤ 2 ^ 64 - 1) :
    (∃ time bookings,
      plan? parameters block store (.redelegate account source destination coin) =
        some (time, bookings)) ↔
      source ≠ destination ∧ coin.denom = parameters.bondDenom ∧
        registered store source = true ∧ registered store destination = true ∧
        coin.amount.toNat ≤ staked store account source := by
  rw [le_staked_iff]
  constructor
  · rintro ⟨time, bookings, hplan⟩
    exact (plan?_redelegate_eq_some_iff.mp hplan).1
  · intro hcovered
    obtain ⟨time, hfinish⟩ := exists_completionTime htime
    -- The shares for the tokens fit because the account holds as many.
    have hheld := hcovered.2.2.2.2
    obtain ⟨shares, hshares⟩ : ∃ shares, coin.amount.mul? shareUnit = some shares :=
      Uint256.exists_mul? (Nat.lt_of_le_of_lt hheld (held_lt_size store account source))
    exact ⟨time, _, plan?_redelegate_eq_some_iff.mpr ⟨hcovered, shares, hshares, hfinish, rfl⟩⟩

end Reference

namespace Chain

variable {genesis : Genesis} {chain : Chain}

/-- **Redelegations are exact.** After any calls on a chain with a supply below `2 ^ 98`, an account
that asks to move tokens of the denomination that is bonded, and does not run out of gas, has them
moved exactly if the validators are registered and differ, and the tokens are at least one and no
more than a query reports of its delegation to the source. It is then told when the move is over.
The tokens have left the one stake and arrived in the other, with one share each; an entry of them
has come behind those of earlier moves between the two; and nothing else has changed, no balance and
nothing that is on its way back. -/
theorem redelegations_exact (h : ofGenesis genesis = .ok chain) (hsupply : genesis.supply < 2 ^ 98)
    (submissions : List Submission) {call : Call} {source destination : String} {amount : Uint256}
    (hasks : call.AsksFor (.redelegate call.caller source destination ⟨standardDenom, amount⟩))
    (haccount : call.caller ≠ .zero) (hsource : ¬ Text.IsBlank source)
    (hdestination : ¬ Text.IsBlank destination)
    (htime : call.block.time.toNat + genesis.unbondingTime.toNat ≤ 2 ^ 64 - 1)
    (gas : GasAccount) :
    let store := chain.gateway.storeAfter submissions chain.store
    let report := chain.gateway.run call store gas
    GasFree report.result →
      ∃ tokens, reportedTokens? chain.parameters call.block store call.caller source =
          some tokens ∧
        ((∃ data, report.result = .ok data) ↔ registered store source = true ∧
          registered store destination = true ∧ source ≠ destination ∧
          0 < amount.toNat ∧ amount.toNat ≤ tokens) ∧
        ∀ data, report.result = .ok data → ∃ (time : UInt64) (shares : Uint256),
          time.toNat = call.block.time.toNat + genesis.unbondingTime.toNat ∧
            shares.toNat = amount.toNat * shareUnit.toNat ∧
            data = Abi.word time.toNat ∧
            Redelegated store report.store call.caller source destination amount.toNat
              ⟨call.block.height, time, amount, shares⟩ ∧
            (∀ account, Reference.balance report.store account = Reference.balance store account) ∧
            ∀ account operator, unbondingEntries report.store account operator =
              unbondingEntries store account operator := by
  intro store report hgas
  have hbooks : Books store genesis.supply := books_storeAfter h submissions
  have hparameters := parameters_of_ofGenesis h
  obtain ⟨haccepted, hdone⟩ := hbooks.run_of_asksFor hsupply hasks hgas
  refine ⟨_, hbooks.reportedTokens?_eq hsupply .., ?_, ?_⟩
  · refine haccepted.trans ?_
    rw [check_redelegate_eq_ok_iff haccount hsource hdestination, hparameters,
      redelegation_planned_iff htime]
    constructor
    · rintro ⟨⟨hdistinct, -, hpos⟩, -, -, hthere, hthere', hcovered⟩
      exact ⟨hthere, hthere', hdistinct, hpos, hcovered⟩
    · rintro ⟨hthere, hthere', hdistinct, hpos, hcovered⟩
      exact ⟨⟨hdistinct, isDenom_standardDenom, hpos⟩, hdistinct, rfl, hthere, hthere', hcovered⟩
  · intro data hdata
    obtain ⟨time, bookings, hplan, hreturned, hchanges⟩ := hdone data hdata
    obtain ⟨⟨hdistinct, -⟩, shares, hshares, hfinish, rfl⟩ :=
      plan?_redelegate_eq_some_iff.mp hplan
    have hpos : 0 < amount.toNat := by
      obtain ⟨hcheck, -⟩ := haccepted.mp ⟨data, hdata⟩
      exact ((check_redelegate_eq_ok_iff haccount hsource hdestination).mp hcheck).2.2
    have hredelegated : Redelegated store report.store call.caller source destination amount.toNat
        ⟨call.block.height, time, amount, shares⟩ := hbooks.redelegated hdistinct hpos hchanges
    rw [hparameters] at hfinish
    exact ⟨time, shares, toNat_completionTime hfinish, Uint256.mul?_eq_some_iff.mp hshares,
      hreturned.trans (encodeValues_completionTime time), hredelegated, hredelegated.balance_eq,
      hredelegated.unbondingEntries_eq⟩

/-- An account that has bonded 400 tokens to one validator moves all of them to another, to which it
has bonded nothing. -/
theorem redelegations_exact_whole_stake :
    let account := fundedAccount
    let submissions := [submission account (delegateData account alpha 400) ⟨100, 1000⟩]
    let call : Call := ⟨redelegateData account alpha beta 400, account, false, ⟨101, 1006⟩⟩
    let store := bundled.gateway.storeAfter submissions bundled.store
    let report := bundled.gateway.run call store (.full ampleGas)
    report.result = .ok (Abi.word 1815406) ∧
      ∃ shares : Uint256, shares.toNat = 400 * shareUnit.toNat ∧
        Redelegated store report.store account alpha beta 400 ⟨101, 1815406, 400, shares⟩ := by
  intro account submissions call store report
  have hasks : call.AsksFor
      (.redelegate account alpha beta ⟨standardDenom, .ofUInt64 400⟩) :=
    ⟨rfl, rfl, rfl, by decide +kernel⟩
  have hresult : report.result = .ok (Abi.word 1815406) := by decide +kernel
  obtain ⟨-, -, -, hdone⟩ := redelegations_exact ofGenesis_bundled (by decide) submissions
    hasks (by decide) (by decide) (by decide) (by decide) (.full ampleGas)
    (gasFree_of_isOk (congrArg Except.isOk hresult))
  obtain ⟨time, shares, htime, hshares, -, hredelegated, -⟩ := hdone _ hresult
  obtain rfl : time = 1815406 := UInt64.toNat_inj.mp (htime.trans (by decide))
  exact ⟨hresult, shares, hshares, hredelegated⟩

end Chain

end StakingGateway
