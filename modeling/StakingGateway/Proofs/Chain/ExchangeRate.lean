import StakingGateway.Proofs.Chain.Conservation
import StakingGateway.Proofs.Reference.Queries

/-!
# The Rate of Exchange of a Chain

Shares and tokens are exchanged by divisions that round down, at a rate that is computed anew each
time. On a chain, the rate is always that of the first tokens, so nothing is ever rounded
(`Chain.rate_constant`): every validator that is stored has one share for each token, and whatever
is exchanged, released or reported is exact.

## Main definitions

* `Chain.RateHolds`: what it is for the rate to be that of the first tokens.

## Main statements

* `Chain.rate_constant`: the rate is that of the first tokens after any calls.
-/

namespace StakingGateway.Chain

open Genesis (alpha fundedAccount)
open Reference

/-- Shares are exchanged for tokens at one share for each token, without a rest: with all
validators, and in whatever the gateway does with a call. -/
structure RateHolds (gateway : Gateway) (store : Store) : Prop where
  /-- Every record of a validator reads back, with one share for each token. -/
  validators {key octets : Bytes} (hget : ByteMap.get? store key = some octets)
    (hkey : Key.validators <+: key) :
    ∃ v : Validator, Json.decode? octets = some v ∧
      v.delegatorShares.toNat = v.tokens.toNat * 10 ^ 18
  /-- The shares that are computed for an amount are one for each token, unless a product on the way
  to them does not fit 256 bits. -/
  shares {operator : String} {v : Validator}
    (hv : store.record? (Key.validator operator) = some v) (amount : Uint256) :
    match v.sharesFor? amount with
    | some shares => shares.toNat = amount.toNat * 10 ^ 18
    | none => 2 ^ 256 ≤ amount.toNat * max (10 ^ 18) v.delegatorShares.toNat
  /-- An undelegation that succeeds takes exactly the amount from the validator, and puts exactly
  the amount on its way back. -/
  undelegation {call : Call} {gas : GasAccount} {delegator : Address} {operator : String}
    {coin : Coin} {log : List Observation} {data : Bytes}
    (hactivity : (gateway.run call store gas).activity =
      .transition (.undelegate delegator operator coin) log)
    (hresult : (gateway.run call store gas).result = .ok data) :
    let after := (gateway.run call store gas).store
    (∃ n, bonded store operator = some (n + coin.amount.toNat) ∧ bonded after operator = some n) ∧
      ∃ time, unbondingEntries after delegator operator =
        unbondingEntries store delegator operator ++
          [⟨call.block.height, time, coin.amount, coin.amount⟩]
  /-- A redelegation that succeeds takes exactly the amount from the one validator, and bonds
  exactly the amount to the other, for one share for each token. -/
  redelegation {call : Call} {gas : GasAccount} {delegator : Address}
    {source destination : String} {coin : Coin} {log : List Observation} {data : Bytes}
    (hactivity : (gateway.run call store gas).activity =
      .transition (.redelegate delegator source destination coin) log)
    (hresult : (gateway.run call store gas).result = .ok data) :
    let after := (gateway.run call store gas).store
    (∃ n, bonded store source = some (n + coin.amount.toNat) ∧ bonded after source = some n) ∧
      (∃ n, bonded store destination = some n ∧
        bonded after destination = some (n + coin.amount.toNat)) ∧
      ∃ time shares, shares.toNat = coin.amount.toNat * 10 ^ 18 ∧
        redelegations after delegator source destination =
          redelegations store delegator source destination ++
            [⟨call.block.height, time, coin.amount, shares⟩]
  /-- A query of a delegation that succeeds reports one token for each share. -/
  delegation {call : Call} {gas : GasAccount} {data : Bytes}
    (hselector : call.data.take 4 = Method.delegation.selector.octets)
    (hresult : (gateway.run call store gas).result = .ok data) :
    ∃ found : Delegation,
      ReturnData.encode Method.delegation.descriptor (.delegation found) = .ok data ∧
        found.shares.toNat = found.balance.amount.toNat * 10 ^ 18

/-- Only a record of a delegation has return data for a query of a delegation. -/
theorem eq_delegation_of_encode {reply : Reply} {data : Bytes}
    (h : ReturnData.encode Method.delegation.descriptor reply = .ok data) :
    ∃ found, reply = .delegation found := by
  cases reply with
  | delegation found => exact ⟨found, rfl⟩
  | void | completionTime | unbondingDelegation | validator => cases h

/-- **Where the books are in order, the rate is that of the first tokens.** -/
theorem rateHolds_of_books {parameters : Parameters} {config : Config} {store : Store}
    {supply : Nat} (h : Books store supply) :
    RateHolds ⟨stakingModule parameters, config⟩ store where
  validators := by
    intro key octets hget hkey
    obtain ⟨record, hsound, rfl, rfl⟩ := h.sound key octets hget
    have hkind := Record.kind_eq .validator rfl hkey
    cases record with
    | validator v => exact ⟨v, Json.decode?_encode v, hsound⟩
    | balance | holding | unbonding | redelegations => cases hkind
  shares := by
    intro operator v hv amount
    obtain ⟨-, hexact⟩ := h.isExact hv
    cases hshares : v.sharesFor? amount with
    | none => exact Validator.le_of_sharesFor?_eq_none hshares
    | some shares => exact Validator.toNat_sharesFor? hexact hshares
  undelegation := by
    intro call gas delegator operator coin log data hactivity hresult after
    obtain ⟨hmessage, -⟩ := Gateway.activity_eq_transition_iff.mp hactivity
    obtain ⟨time, -, heffect⟩ :=
      Gateway.effect_of_ok (gasBlind_execute parameters) hmessage hresult
    obtain ⟨-, htokens, hentries⟩ := h.undelegate heffect
    exact ⟨htokens, time, hentries⟩
  redelegation := by
    intro call gas delegator source destination coin log data hactivity hresult after
    obtain ⟨hmessage, -⟩ := Gateway.activity_eq_transition_iff.mp hactivity
    obtain ⟨time, -, heffect⟩ :=
      Gateway.effect_of_ok (gasBlind_execute parameters) hmessage hresult
    obtain ⟨-, hsource, hdestination, shares, hshares, hentries⟩ := h.redelegate heffect
    exact ⟨hsource, hdestination, time, shares, hshares, hentries⟩
  delegation := by
    intro call gas data hselector hresult
    obtain ⟨query, answer, hanswer, hencode⟩ := Gateway.answer_of_ok hselector rfl hresult
    obtain ⟨found, hreply⟩ := eq_delegation_of_encode hencode
    cases query with
    | delegation delegator operator =>
        obtain rfl := Reply.delegation.inj hreply
        exact ⟨answer, hencode, h.findDelegation hanswer⟩
    | unbondingDelegation | validator => cases hreply

/-- **The rate of exchange of a chain never changes.** Whatever calls are made, by whom, with
whatever gas and in whatever blocks, every validator that is stored has exactly one share for each
token afterwards, and what is exchanged, released or reported next is exact. -/
theorem rate_constant {genesis : Genesis} {chain : Chain} (h : ofGenesis genesis = .ok chain)
    (submissions : List Submission) :
    RateHolds chain.gateway (chain.gateway.storeAfter submissions chain.store) :=
  rateHolds_of_books (books_storeAfter h submissions)

/-- The rate holds with a validator that was drained to the last token and bonded to again. -/
theorem rate_constant_after_draining :
    let account := fundedAccount
    let store := bundled.gateway.storeAfter
      [submission account (delegateData account alpha 400) ⟨100, 1000⟩,
        submission account (undelegateData account alpha 400) ⟨100, 1000⟩,
        submission account (delegateData account alpha 30) ⟨100, 1000⟩] bundled.store
    bonded store alpha = some 30 ∧ RateHolds bundled.gateway store := by
  intro account store
  refine ⟨?_, rate_constant ofGenesis_bundled _⟩
  decide +kernel

end StakingGateway.Chain
