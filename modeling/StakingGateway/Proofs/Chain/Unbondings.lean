import StakingGateway.Proofs.Chain.Conservation
import StakingGateway.Proofs.Reference.Ownership
import StakingGateway.Proofs.Reference.Unbondings

/-!
# The Unbondings of a Chain

Accounts put tokens on their way back and take some of them back again, in whatever order they
like. As long as calls come in blocks that do not go back, what a chain notes of it stays in order
(`Chain.unbondings_orderly`): an unbonding is of whom and from where its key says, it has entries,
each of them holds something and is said to have held at first what it holds, and the oldest come
first.

Nothing of the sort could be shown of a single call. An entry that is put at the end is no older
than the others only because no call before came in a later block, so the induction over the calls
carries along the block of the last one (`Gateway.storeAfter_induction_of_isChain`).

## Main definitions

* `Chain.UnbondingsOrderly`: what it is for the unbondings in a store to be in order.

## Main statements

* `Gateway.storeAfter_induction_of_isChain`: induction over calls in blocks that do not go back.
* `Chain.isOrderly_run`: what one call keeps.
* `Chain.unbondings_orderly`: unbondings are in order after any such calls.
-/

namespace StakingGateway

open Genesis (alpha fundedAccount)
open Reference

/-! ### Calls in blocks that do not go back -/

/-- What is kept by every call in a block that is no earlier than the last one holds after calls in
blocks that do not go back. -/
theorem Gateway.storeAfter_induction_of_isChain {gateway : Gateway} {I : Block → Store → Prop}
    (hstep : ∀ (last : Block) (call : Call) (store : Store) (gas : GasAccount),
      last ≤ call.block → I last store → I call.block (gateway.run call store gas).store)
    {submissions : List Submission} {last : Block} {store : Store}
    (hblocks : (last :: submissions.map fun submission => submission.call.block).IsChain (· ≤ ·))
    (h : I last store) : ∃ block, I block (gateway.storeAfter submissions store) := by
  induction submissions generalizing last store with
  | nil => exact ⟨last, h⟩
  | cons submission submissions ih =>
      obtain ⟨hle, hrest⟩ := List.isChain_cons_cons.mp hblocks
      exact ih hrest (hstep last submission.call store submission.gas hle h)

namespace Chain

/-! ### Unbondings -/

/-- What is on its way back from validators to accounts is noted in order. -/
structure UnbondingsOrderly (store : Store) : Prop where
  /-- Every record of an unbonding is under the key of an account and a validator. -/
  keys {key octets : Bytes} (hget : ByteMap.get? store key = some octets)
    (hkey : Key.unbondings <+: key) :
    ∃ (delegator : Address) (operator : String), key = Key.unbonding delegator operator
  /-- The record under such a key reads back, it is of that account and that validator, and it has
  entries. Each of these holds something, which is what it held at first, and none is older than
  those before it. -/
  records {delegator : Address} {operator : String} {octets : Bytes}
    (hget : ByteMap.get? store (Key.unbonding delegator operator) = some octets) :
    ∃ entries, Json.decode? octets =
        some (⟨delegator, operator, entries⟩ : UnbondingDelegation) ∧
      entries ≠ [] ∧
      (∀ entry ∈ entries, 0 < entry.balance.toNat ∧ entry.balance = entry.initialBalance) ∧
      entries.Pairwise fun entry next => entry.creationHeight ≤ next.creationHeight ∧
        entry.completionTime ≤ next.completionTime

/-- Where the records are in order up to some block, the unbondings are. -/
theorem unbondingsOrderly_of_forallRecords {store : Store} {parameters : Parameters} {block : Block}
    (h : store.ForallRecords (Record.IsOrderly parameters block)) : UnbondingsOrderly store where
  keys := by
    intro key octets hget hkey
    obtain ⟨record, -, rfl, rfl⟩ := h key octets hget
    have hkind := Record.kind_eq .unbonding rfl hkey
    cases record with
    | unbonding u => exact ⟨u.delegator, u.validator, rfl⟩
    | balance | validator | holding | redelegations => cases hkind
  records := by
    intro delegator operator octets hget
    obtain ⟨record, horderly, hkey, rfl⟩ := h _ octets hget
    obtain ⟨u, rfl⟩ := (isSlot_unbonding delegator operator).exists_eq record hkey
    obtain ⟨rfl, rfl⟩ := Key.unbonding_inj.mp hkey
    obtain ⟨hsome, hentries⟩ := horderly
    refine ⟨u.entries, Json.decode?_encode u, hsome, fun entry hmem => ?_, ?_⟩
    · obtain ⟨hpos, hsame⟩ := hentries.intact entry hmem
      exact ⟨hpos, hsame.symm⟩
    · exact List.pairwise_map.mp hentries.ordered

variable {genesis : Genesis} {chain : Chain}

/-- A chain starts without unbondings. -/
theorem isOrderly_of_ofGenesis (h : ofGenesis genesis = .ok chain) (block : Block) :
    chain.store.ForallRecords (Record.IsOrderly chain.parameters block) := by
  rw [store_of_ofGenesis h]
  refine genesis.isFresh_store.1.mono fun record hfresh => ?_
  cases record with
  | balance | validator => trivial
  | holding | unbonding | redelegations => cases hfresh

/-- A call in a block that is no earlier than the last one keeps unbondings in order. What it does
to them is known where the books are in order, so it keeps the two together. -/
theorem isOrderly_run (chain : Chain) {last : Block} {call : Call} {store : Store} {supply : Nat}
    (gas : GasAccount) (hle : last ≤ call.block)
    (h : Books store supply ∧ store.ForallRecords (Record.IsOrderly chain.parameters last)) :
    let after := (chain.gateway.run call store gas).store
    Books after supply ∧ after.ForallRecords (Record.IsOrderly chain.parameters call.block) := by
  obtain ⟨hbooks, horderly⟩ := h
  intro after
  rcases run_store_eq_or_effect_admissible chain.parameters chain.config call store gas with
    hsame | ⟨message, answer, hadmissible, heffect⟩
  · rw [show after = store from hsame]
    exact ⟨hbooks, horderly.mono fun record hrecord => hrecord.mono hle⟩
  · exact ⟨hbooks.execute heffect,
      hbooks.forallRecords_isOrderly horderly hle hadmissible.positive heffect⟩

/-- **Unbondings stay in order.** Whatever calls are made, by whom and with whatever gas, as long as
neither the heights nor the times of their blocks go back, every unbonding is that of its key and
has entries, each of them holds something, which is what it held at first, and the oldest come
first. -/
theorem unbondings_orderly (h : ofGenesis genesis = .ok chain) {submissions : List Submission}
    (hblocks : (submissions.map fun submission => submission.call.block).IsChain (· ≤ ·)) :
    UnbondingsOrderly (chain.gateway.storeAfter submissions chain.store) := by
  -- The block before the first one can be that one itself.
  obtain ⟨last, hlast⟩ : ∃ last : Block,
      (last :: submissions.map fun submission => submission.call.block).IsChain (· ≤ ·) := by
    cases submissions with
    | nil => exact ⟨chain.block, .singleton _⟩
    | cons submission submissions =>
        exact ⟨submission.call.block,
          List.isChain_cons_cons.mpr ⟨submission.call.block.le_refl, hblocks⟩⟩
  obtain ⟨block, -, horderly⟩ := Gateway.storeAfter_induction_of_isChain
    (I := fun block store => Books store genesis.supply ∧
      store.ForallRecords (Record.IsOrderly chain.parameters block))
    (fun last call store gas => chain.isOrderly_run gas) hlast
    ⟨books_storeAfter h [], isOrderly_of_ofGenesis h last⟩
  exact unbondingsOrderly_of_forallRecords horderly

/-- An account undelegates twice from one validator, the second time in a later block, and then
takes back a part of the first entry. What is left of it still comes first. -/
theorem unbondings_orderly_cancelled :
    let account := fundedAccount
    let submissions := [submission account (delegateData account alpha 400) ⟨100, 1000⟩,
      submission account (undelegateData account alpha 50) ⟨100, 1000⟩,
      submission account (undelegateData account alpha 30) ⟨101, 1006⟩,
      submission account (cancelUnbondingData account alpha 20 100) ⟨102, 1010⟩]
    let store := bundled.gateway.storeAfter submissions bundled.store
    unbondingEntries store account alpha =
      [⟨100, 1815400, 30, 30⟩, ⟨101, 1815406, 30, 30⟩] ∧ UnbondingsOrderly store := by
  intro account submissions store
  have hblocks : (submissions.map fun submission => submission.call.block).IsChain (· ≤ ·) := by
    decide
  refine ⟨?_, unbondings_orderly ofGenesis_bundled hblocks⟩
  decide +kernel

end Chain

end StakingGateway
