import StakingGateway.Proofs.Chain.Conservation
import StakingGateway.Proofs.Reference.Ownership
import StakingGateway.Proofs.Reference.ShareCount

/-!
# The Shares of a Chain

A chain keeps two accounts of its shares: validators say how many they have issued, and the records
of delegations say who holds them. Bonding and unbonding write the two one after the other, and in
different orders, yet they always agree (`Chain.shares_conserved`). No holding of nothing is left
behind, and nobody holds shares of a validator that is not there.

## Main definitions

* `Chain.SharesHeld`: what it is for the two accounts to agree.

## Main statements

* `Chain.forallRecords_isHeld`: a chain keeps no holdings of nothing.
* `Chain.shares_conserved`: the two accounts agree after any calls.
-/

namespace StakingGateway.Chain

open Genesis (alpha beta fundedAccount otherAccount)
open Reference

/-- The shares that validators have issued are those that accounts hold. -/
structure SharesHeld (store : Store) : Prop where
  /-- Every record of a validator reads back, and the shares that it has issued are the sum over
  all records of delegations to it. -/
  validators {key octets : Bytes} (hget : ByteMap.get? store key = some octets)
    (hkey : Key.validators <+: key) :
    ∃ v : Validator, key = Key.validator v.operator ∧ Json.decode? octets = some v ∧
      sharesHeld? store v.operator = some v.delegatorShares.toNat
  /-- Every record of a delegation reads back, is a holding of something, and belongs to a
  validator that is there. -/
  delegations {key octets : Bytes} (hget : ByteMap.get? store key = some octets)
    (hkey : Key.delegations <+: key) :
    ∃ (delegator : Address) (operator : String) (holding : Holding) (v : Validator),
      key = Key.delegation delegator operator ∧ Json.decode? octets = some holding ∧
        0 < holding.shares.toNat ∧ v.operator = operator ∧
        store.record? (Key.validator operator) = some v

/-- Where the books are in order and no holdings of nothing are kept, the shares that validators
have issued are held. -/
theorem sharesHeld_of_books {store : Store} {supply : Nat} (h : Books store supply)
    (hheld : store.ForallRecords Record.IsHeld) : SharesHeld store where
  validators := by
    intro key octets hget hkey
    obtain ⟨record, -, rfl, rfl⟩ := h.sound key octets hget
    have hkind := Record.kind_eq .validator rfl hkey
    cases record with
    | validator v =>
        have hread : store.record? (Key.validator v.operator) = some v :=
          ((isSlot_validator v.operator).record?_eq_some_iff h.sound).mpr ⟨rfl, hget⟩
        refine ⟨v, rfl, Json.decode?_encode v, ?_⟩
        rw [h.sharesHeld?_eq, issued, hread, Option.elim_some]
    | balance | holding | unbonding | redelegations => cases hkind
  delegations := by
    intro key octets hget hkey
    obtain ⟨record, hpos, rfl, rfl⟩ := hheld key octets hget
    have hkind := Record.kind_eq .delegation rfl hkey
    cases record with
    | holding delegator operator holding =>
        have hread : store.record? (Key.delegation delegator operator) = some holding :=
          ((isSlot_holding delegator operator).record?_eq_some_iff h.sound).mpr ⟨rfl, hget⟩
        obtain ⟨v, hv⟩ := h.exists_validator hread hpos
        exact ⟨delegator, operator, holding, v, rfl, Json.decode?_encode holding, hpos,
          (h.isExact hv).1, hv⟩
    | balance | validator | unbonding | redelegations => cases hkind

variable {genesis : Genesis} {chain : Chain}

/-- **A chain keeps no holdings of nothing.** -/
theorem forallRecords_isHeld (h : ofGenesis genesis = .ok chain) (submissions : List Submission) :
    (chain.gateway.storeAfter submissions chain.store).ForallRecords Record.IsHeld := by
  refine forallRecords_storeAfter h (fun record hfresh => ?_) ?_ submissions
  · cases record with
    | balance | validator => exact trivial
    | holding | unbonding | redelegations => cases hfresh
  · intro call message answer store after hbooks hheld hadmissible heffect
    exact hbooks.forallRecords_isHeld hheld hadmissible.positive heffect

/-- **Shares are neither lost nor duplicated.** Whatever calls are made, by whom, with whatever gas
and in whatever blocks, the shares that a validator has issued are the sum of what is held of it,
every holding is one of something, and it is one of a validator that is there. -/
theorem shares_conserved (h : ofGenesis genesis = .ok chain) (submissions : List Submission) :
    SharesHeld (chain.gateway.storeAfter submissions chain.store) :=
  sharesHeld_of_books (books_storeAfter h submissions) (forallRecords_isHeld h submissions)

/-- Two accounts bond to one validator, and one of them moves all that it holds to another. The
holdings of each validator add up to what it has issued. -/
theorem shares_conserved_redelegation :
    let account := fundedAccount
    let store := bundled.gateway.storeAfter
      [submission account (delegateData account alpha 400) ⟨100, 1000⟩,
        submission otherAccount (delegateData otherAccount alpha 30) ⟨100, 1000⟩,
        submission account (redelegateData account alpha beta 400) ⟨100, 1000⟩] bundled.store
    sharesHeld? store alpha = some (30 * 10 ^ 18) ∧
      sharesHeld? store beta = some (400 * 10 ^ 18) ∧ SharesHeld store := by
  intro account store
  refine ⟨?_, ?_, shares_conserved ofGenesis_bundled _⟩
  · decide +kernel
  · decide +kernel

end StakingGateway.Chain
