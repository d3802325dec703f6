import StakingGateway.Proofs.Chain.Conservation
import StakingGateway.Proofs.Reference.CallBookings
import StakingGateway.Proofs.Reference.Stakes

/-!
# Delegations

A delegation pays first: the tokens leave the balance of the account in a scope of its own, and only
then does the validator count shares for them and issue these. The count can fail, for a validator
that has shares but no tokens and for numbers of more than 256 bits. On a chain with a supply below
`2 ^ 98` it never does, whether the validator is empty, has been emptied, or holds the tokens of
others: what an account can pay it can bond, and each token is worth one share
(`Chain.delegations_exact`).

## Main definitions

* `Reference.Delegated`: what a delegation makes of a store.

## Main statements

* `Books.delegated`: what is booked for a delegation.
* `Reference.delegation_planned_iff`: which delegations can be carried out.
* `Chain.delegations_exact`: delegations of a chain, from the call to the store.
-/

namespace StakingGateway

open Genesis (alpha fundedAccount)
open Reference

namespace Reference

/-- The tokens have been taken out of the balance of the account and put into its stake with the
validator. -/
structure Delegated (store after : Store) (account : Address) (operator : String)
    (tokens : Nat) : Prop where
  /-- The balance has the tokens less. -/
  paid : (balance after account).toNat + tokens = (balance store account).toNat
  /-- The stake has them more. -/
  stake : StakeMoves store after account operator tokens 0
  /-- Nothing else changes. -/
  others {key : Bytes} (hbalance : key ≠ Key.balance account)
    (hvalidator : key ≠ Key.validator operator) (hholding : key ≠ Key.delegation account operator) :
    ByteMap.get? after key = ByteMap.get? store key

variable {parameters : Parameters} {block : Block} {store after : Store} {supply : Nat}
  {account : Address} {operator : String}

/-- **What is booked for a delegation** takes the tokens out of the balance and puts them into the
stake. -/
theorem Books.delegated (h : Books store supply) {left tokens : Uint256} (hpos : 0 < tokens.toNat)
    (hleft : (balance store account).sub? tokens = some left)
    (hchanges : Changes account [.balance left, .bond operator tokens] store after) :
    Delegated store after account operator tokens.toNat := by
  obtain ⟨_, rfl, _, hbonded, rfl⟩ := hchanges
  obtain ⟨rest, -, hpaid⟩ := h.debit hleft
  have hvalidator : Key.balance account ≠ Key.validator operator :=
    Key.IsOwn.balance.ne_validator operator
  have hbalance : balance after account = left := by
    have hkept : (store.keep (.balance account left)).Keeps (.balance account left) :=
      (ByteMap.get?_insert ..).trans (if_pos rfl)
    have hholding := balance_ne_delegation account account operator
    exact balance_eq_of_keeps ((get?_of_bond hbonded hvalidator hholding).trans hkept)
  refine ⟨?_, ?_, ?_⟩
  · rw [hbalance]
    exact Uint256.sub?_eq_some_iff.mp hleft
  · exact (hpaid.stakeMoves_of_bond hbonded hpos).congr (agreeOnStake_keep_balance ..) (.refl ..)
  · intro key hbalance hvalidator hholding
    rw [get?_of_bond hbonded hvalidator hholding]
    exact (ByteMap.get?_insert ..).trans (if_neg hbalance)

/-- An account may ask to delegate tokens if they are of a denomination and at least one. -/
theorem check_delegate_eq_ok_iff {coin : Coin} (haccount : account ≠ .zero)
    (hnamed : ¬ Text.IsBlank operator) :
    (Message.delegate account operator coin).check = .ok () ↔
      IsDenom coin.denom ∧ 0 < coin.amount.toNat := by
  rw [Message.check_eq_ok_iff, Uint256.toNat_pos_iff]
  simp [Message.delegator, Message.validators, Message.coin, Message.height?, haccount, hnamed]

/-- **A delegation is planned** if the denomination is the one that is bonded, the validator is
there, and the account has as much in its balance. -/
theorem delegation_planned_iff {coin : Coin} :
    (∃ answer bookings, plan? parameters block store (.delegate account operator coin) =
        some (answer, bookings)) ↔
      coin.denom = parameters.bondDenom ∧ registered store operator = true ∧
        coin.amount.toNat ≤ (balance store account).toNat := by
  constructor
  · rintro ⟨answer, bookings, hplan⟩
    obtain ⟨⟨hdenom, hthere⟩, left, hleft, -⟩ := plan?_delegate_eq_some_iff.mp hplan
    have hpaid := Uint256.sub?_eq_some_iff.mp hleft
    exact ⟨hdenom, hthere, by omega⟩
  · rintro ⟨hdenom, hthere, hcovered⟩
    obtain ⟨left, hleft⟩ : ∃ left, (balance store account).sub? coin.amount = some left :=
      Uint256.exists_sub? hcovered
    exact ⟨(), _, plan?_delegate_eq_some_iff.mpr ⟨⟨hdenom, hthere⟩, left, hleft, rfl⟩⟩

end Reference

namespace Chain

variable {genesis : Genesis} {chain : Chain}

/-- **Delegations are exact.** After any calls on a chain with a supply below `2 ^ 98`, an account
that asks to delegate, and does not run out of gas, has its tokens delegated exactly if they are of
the denomination that is bonded, the validator is registered, and they are at least one and no more
than its balance. It is told nothing. The tokens have left its balance and come into its stake, with
one share each, and the holding is there from then on; queries report just these tokens more; and
nothing else has changed. -/
theorem delegations_exact (h : ofGenesis genesis = .ok chain) (hsupply : genesis.supply < 2 ^ 98)
    (submissions : List Submission) {call : Call} {operator denom : String} {amount : Uint256}
    (hasks : call.AsksFor (.delegate call.caller operator ⟨denom, amount⟩))
    (haccount : call.caller ≠ .zero) (hnamed : ¬ Text.IsBlank operator) (gas : GasAccount) :
    let store := chain.gateway.storeAfter submissions chain.store
    let report := chain.gateway.run call store gas
    GasFree report.result →
      ((∃ data, report.result = .ok data) ↔ denom = standardDenom ∧
        registered store operator = true ∧ 0 < amount.toNat ∧
        amount.toNat ≤ (Reference.balance store call.caller).toNat) ∧
      ∀ data, report.result = .ok data → data = [] ∧
        Delegated store report.store call.caller operator amount.toNat ∧
        ∃ tokens, ∀ block,
          reportedTokens? chain.parameters block store call.caller operator = some tokens ∧
          reportedTokens? chain.parameters block report.store call.caller operator =
            some (tokens + amount.toNat) := by
  intro store report hgas
  have hbooks : Books store genesis.supply := books_storeAfter h submissions
  have hparameters := parameters_of_ofGenesis h
  obtain ⟨haccepted, hdone⟩ := hbooks.run_of_asksFor hsupply hasks hgas
  have haccepted : (∃ data, report.result = .ok data) ↔ denom = standardDenom ∧
      registered store operator = true ∧ 0 < amount.toNat ∧
      amount.toNat ≤ (Reference.balance store call.caller).toNat := by
    refine haccepted.trans ?_
    rw [check_delegate_eq_ok_iff haccount hnamed, hparameters, delegation_planned_iff]
    constructor
    · rintro ⟨⟨-, hpos⟩, hdenom, hthere, hcovered⟩
      exact ⟨hdenom, hthere, hpos, hcovered⟩
    · rintro ⟨rfl, hthere, hpos, hcovered⟩
      exact ⟨⟨isDenom_standardDenom, hpos⟩, rfl, hthere, hcovered⟩
  refine ⟨haccepted, fun data hdata => ?_⟩
  obtain ⟨answer, bookings, hplan, hreturned, hchanges⟩ := hdone data hdata
  obtain ⟨-, left, hleft, rfl⟩ := plan?_delegate_eq_some_iff.mp hplan
  obtain ⟨-, -, hpos, -⟩ := haccepted.mp ⟨data, hdata⟩
  have hdelegated : Delegated store report.store call.caller operator amount.toNat :=
    hbooks.delegated hpos hleft hchanges
  have hafter : Books report.store genesis.supply :=
    hbooks.books_run chain.parameters chain.config call gas
  refine ⟨hreturned, hdelegated, staked store call.caller operator, fun block => ⟨?_, ?_⟩⟩
  · exact hbooks.reportedTokens?_eq hsupply ..
  · rw [← hdelegated.stake.staked_of_gain]
    exact hafter.reportedTokens?_eq hsupply ..

/-- An account bonds 150 tokens, takes all of them out again, and then bonds 100 to the validator
that it has emptied. Queries find nothing before, and report the 100 afterwards. -/
theorem delegations_exact_emptied :
    let account := fundedAccount
    let submissions := [submission account (delegateData account alpha 150) ⟨100, 1000⟩,
      submission account (undelegateData account alpha 150) ⟨100, 1000⟩]
    let call : Call := ⟨delegateData account alpha 100, account, false, ⟨101, 1006⟩⟩
    let store := bundled.gateway.storeAfter submissions bundled.store
    let report := bundled.gateway.run call store (.full ampleGas)
    report.result = .ok [] ∧ Delegated store report.store account alpha 100 ∧
      reportedTokens? bundled.parameters ⟨101, 1006⟩ store account alpha = some 0 ∧
      reportedTokens? bundled.parameters ⟨101, 1006⟩ report.store account alpha = some 100 := by
  intro account submissions call store report
  have hasks : call.AsksFor (.delegate account alpha ⟨standardDenom, .ofUInt64 100⟩) :=
    ⟨rfl, rfl, rfl, by decide +kernel⟩
  obtain ⟨hresult, hnothing⟩ : report.result = .ok [] ∧
      reportedTokens? bundled.parameters ⟨101, 1006⟩ store account alpha = some 0 := by
    decide +kernel
  obtain ⟨-, hdone⟩ := delegations_exact ofGenesis_bundled (by decide) submissions hasks
    (by decide) (by decide) (.full ampleGas) (gasFree_of_isOk (congrArg Except.isOk hresult))
  obtain ⟨-, hdelegated, tokens, hreported⟩ := hdone [] hresult
  obtain ⟨hbefore, hafter⟩ := hreported ⟨101, 1006⟩
  obtain rfl : tokens = 0 := Option.some.inj (hbefore.symm.trans hnothing)
  exact ⟨hresult, hdelegated, hnothing, hafter⟩

end Chain

end StakingGateway
