import StakingGateway.Proofs.Chain.Conservation
import StakingGateway.Proofs.Reference.CallBookings
import StakingGateway.Proofs.Reference.Commuting
import StakingGateway.Proofs.Reference.Queries

/-!
# Callers Touch Their Own Stake

Validators are shared by all accounts, and a caller changes their totals. Still, nobody else notices
(`Chain.calls_isolated`): the records of the other accounts stay as they are, to the octet, whatever
the call data are, and so does what is asked about their stakes. The tokens that are reported of a
delegation are computed from the totals of the validator, but at a rate of one share for each token
the totals cancel out.

## Main statements

* `Chain.answer_of_others`: what is asked about the stakes of others.
* `Chain.calls_isolated`: callers touch their own stake.
-/

namespace StakingGateway.Chain

open Genesis (alpha fundedAccount otherAccount)
open Reference
open Key (IsOwn Kind)

/-- **The stakes of others are reported as before**, in a store whose books are in order and whose
supply fits. -/
theorem answer_of_others {store : Store} {supply : Nat} (h : Books store supply)
    (hsupply : supply < 2 ^ 98) (parameters : Parameters) (config : Config) (call : Call)
    (gas : GasAccount) {account : Address} (hne : account ≠ call.caller) (operator : String)
    (block : Block) :
    let after := (Gateway.run ⟨stakingModule parameters, config⟩ call store gas).store
    ((findDelegation parameters account operator).run block after).1 =
      ((findDelegation parameters account operator).run block store).1 := by
  intro after
  obtain ⟨bookings, hchanges⟩ := h.exists_changes_run parameters config call gas
  have hregistered := hchanges.registered_eq operator
  have hholding : (after.record? (Key.delegation account operator) : Option Holding) =
      store.record? (Key.delegation account operator) :=
    (record?_congr (hchanges.agreeOn hne _ (.delegation operator))).symm
  rw [registered, registered] at hregistered
  rw [(h.books_run parameters config call gas).run_findDelegation hsupply,
    h.run_findDelegation hsupply, hregistered, hholding]

/-- **Callers touch their own stake.** Whatever is stored, whatever the call is and however it ends,
the balance of every other account and all records of its delegations, unbondings and redelegations
are the same afterwards, and so is all that is under keys of no record. On a chain with a supply
below `2 ^ 98`, a query of a delegation of another account is answered as before as well, with the
same shares and the same tokens. -/
theorem calls_isolated :
    (∀ (parameters : Parameters) (config : Config) (call : Call) (store : Store)
      (gas : GasAccount) (key : Bytes),
      (∃ account, account ≠ call.caller ∧ IsOwn account key) ∨
          (∀ kind : Kind, ¬ kind.start <+: key) →
        ByteMap.get? (Gateway.run ⟨stakingModule parameters, config⟩ call store gas).store key =
          ByteMap.get? store key) ∧
    ∀ (genesis : Genesis) (chain : Chain), ofGenesis genesis = .ok chain →
      genesis.supply < 2 ^ 98 → ∀ (submissions : List Submission) (call : Call) (gas : GasAccount)
        (account : Address), account ≠ call.caller → ∀ (operator : String) (block : Block),
        let store := chain.gateway.storeAfter submissions chain.store
        let after := (chain.gateway.run call store gas).store
        let query := Query.delegation account operator
        ((chain.gateway.stakingModule.answer query).run block after).1 =
          ((chain.gateway.stakingModule.answer query).run block store).1 := by
  constructor
  · intro parameters config call store gas key hkey
    refine get?_run_of_not_inReach parameters config call store gas ?_
    rcases hkey with ⟨account, hne, hown⟩ | hnone
    · exact hown.not_inReach hne
    · exact Key.not_inReach_of_starts hnone
  · intro genesis chain h hsupply submissions call gas account hne operator block
    exact answer_of_others (books_storeAfter h submissions) hsupply chain.parameters chain.config
      call gas hne operator block

/-- One account has bonded 30 tokens to a validator, and another one bonds 400 more to it. The
balance of the first account and what is reported of its stake are as before. -/
theorem calls_isolated_delegation :
    let call : Call := ⟨delegateData fundedAccount alpha 400, fundedAccount, false, ⟨100, 1000⟩⟩
    let store := bundled.gateway.storeAfter
      [submission otherAccount (delegateData otherAccount alpha 30) ⟨100, 1000⟩] bundled.store
    let report := bundled.gateway.run call store (.full ampleGas)
    bonded store alpha = some 30 ∧ bonded report.store alpha = some 430 ∧
      ByteMap.get? report.store (Key.balance otherAccount) =
        ByteMap.get? store (Key.balance otherAccount) ∧
      ((bundled.gateway.stakingModule.answer (.delegation otherAccount alpha)).run call.block
          report.store).1 =
        ((bundled.gateway.stakingModule.answer (.delegation otherAccount alpha)).run call.block
          store).1 := by
  intro call store report
  have hne : otherAccount ≠ fundedAccount := by decide
  refine ⟨?_, ?_, ?_, ?_⟩
  · decide +kernel
  · decide +kernel
  · exact calls_isolated.1 bundled.parameters bundled.config call _ _ _
      (.inl ⟨otherAccount, hne, .balance⟩)
  · exact calls_isolated.2 .bundled bundled ofGenesis_bundled (by decide) _ call _ otherAccount hne
      alpha call.block

end StakingGateway.Chain
