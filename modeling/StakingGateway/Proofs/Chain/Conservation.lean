import StakingGateway.Chain
import StakingGateway.Proofs.Gateway.CallEffect
import StakingGateway.Proofs.Reference.GasBlindness
import StakingGateway.Proofs.Reference.GenesisBooks
import StakingGateway.Proofs.Reference.Messages
import StakingGateway.Proofs.Reference.Ownership
import StakingGateway.Proofs.Reference.TokenCount

/-!
# Conservation of Tokens

A chain starts with its books in order, and no message that succeeds changes that, or the supply. So
the books are in order after any calls (`Chain.books_storeAfter`), and all tokens that are in
balances, with validators, or on their way back are those that the chain started with
(`Chain.supply_conserved`).

## Main definitions

* `Chain.submission`: what is submitted where gas is not the point.

## Main statements

* `Chain.books_storeAfter`: the books of a chain stay in order.
* `Chain.forallRecords_storeAfter`: what messages leave true of all records stays true of them.
* `Chain.supply_conserved`: the tokens of a chain are those of its genesis.
-/

namespace StakingGateway.Chain

open Genesis (alpha fundedAccount)
open Reference

/-- A call from a frame that may write, with ample gas. -/
def submission (caller : Address) (data : Bytes) (block : Block) : Submission :=
  ⟨⟨data, caller, false, block⟩, .full ampleGas⟩

variable {genesis : Genesis} {chain : Chain}

/-- A chain that starts from a genesis has the store of the genesis. -/
theorem store_of_ofGenesis (h : ofGenesis genesis = .ok chain) : chain.store = genesis.store := by
  obtain ⟨-, -, h⟩ := bind_eq_ok_iff.mp h
  obtain rfl := Except.ok.inj h
  rfl

/-- It has the parameters of the genesis, too. -/
theorem parameters_of_ofGenesis (h : ofGenesis genesis = .ok chain) :
    chain.parameters = genesis.parameters := by
  obtain ⟨-, -, h⟩ := bind_eq_ok_iff.mp h
  obtain rfl := Except.ok.inj h
  rfl

/-- The denomination that is bonded on a chain is one. -/
theorem isDenom_standardDenom : IsDenom standardDenom := by decide

/-- **The books of a chain stay in order**, with the supply that it started with. -/
theorem books_storeAfter (h : ofGenesis genesis = .ok chain) (submissions : List Submission) :
    Books (chain.gateway.storeAfter submissions chain.store) genesis.supply := by
  refine Gateway.invariant_storeAfter (I := fun store => Books store genesis.supply)
    (gasBlind_execute chain.parameters) ?_ submissions ?_
  · intro message block answer store after hbooks heffect
    exact hbooks.execute heffect
  · rw [store_of_ofGenesis h]
    exact genesis.books

/-- **What admissible messages leave true of all records of a chain** is true of them after any
calls, if it is true of the records that a chain starts with. -/
theorem forallRecords_storeAfter (h : ofGenesis genesis = .ok chain) {P : Record → Prop}
    (hfresh : ∀ record : Record, record.IsFresh → P record)
    (hstep : ∀ {call : Call} {message : Message} {answer : message.Answer} {store after : Store},
      Books store genesis.supply → store.ForallRecords P → message.IsAdmissible call →
      ((stakingModule chain.parameters).execute message).effect call.block 0 store =
        .ok (answer, after) → after.ForallRecords P) (submissions : List Submission) :
    (chain.gateway.storeAfter submissions chain.store).ForallRecords P := by
  -- What messages do to the records is known where the books are in order, so the two go together.
  have hboth : Books (chain.gateway.storeAfter submissions chain.store) genesis.supply ∧
      (chain.gateway.storeAfter submissions chain.store).ForallRecords P := by
    refine Gateway.storeAfter_induction
      (I := fun store => Books store genesis.supply ∧ store.ForallRecords P)
      (fun call store gas hstore => ?_) submissions ?_
    · obtain ⟨hbooks, hrecords⟩ := hstore
      rcases run_store_eq_or_effect_admissible chain.parameters chain.config call store gas with
        hsame | ⟨message, answer, hadmissible, heffect⟩
      · rw [show (chain.gateway.run call store gas).store = store from hsame]
        exact ⟨hbooks, hrecords⟩
      · exact ⟨hbooks.execute heffect, hstep hbooks hrecords hadmissible heffect⟩
    · rw [store_of_ofGenesis h]
      exact ⟨genesis.books, genesis.isFresh_store.1.mono hfresh⟩
  exact hboth.2

/-- **The tokens of a chain are those of its genesis.** Whatever calls are made, by whom, with
whatever gas and in whatever blocks, the octets of all balances, validators and unbondings read
back, and their tokens add up to the balances that stand at genesis. Where a genesis lists no
account twice, that is the sum of the balances that it lists. -/
theorem supply_conserved (h : ofGenesis genesis = .ok chain) (submissions : List Submission) :
    let store := chain.gateway.storeAfter submissions chain.store
    totalTokens? store = some genesis.supply ∧
      ((genesis.balances.map (·.account)).Nodup →
        totalTokens? store = some (genesis.balances.map (·.amount.toNat)).sum) := by
  have htotal := (books_storeAfter h submissions).totalTokens?_eq
  refine ⟨htotal, fun hnodup => ?_⟩
  rw [htotal, Genesis.supply_of_nodup hnodup, Genesis.sumOf]

/-- An account that has 10000 of the 10500 tokens of a chain bonds 400 of them. It has 9600 left,
and the tokens of the chain are 10500 still. -/
theorem supply_conserved_delegation :
    let store := bundled.gateway.storeAfter
      [submission fundedAccount (delegateData fundedAccount alpha 400) ⟨100, 0⟩] bundled.store
    (Reference.balance store fundedAccount).toNat = 9600 ∧ totalTokens? store = some 10500 := by
  intro store
  have hlisted : (Genesis.bundled.balances.map (·.account)).Nodup := by decide
  refine ⟨?_, (supply_conserved ofGenesis_bundled _).2 hlisted⟩
  decide +kernel

/-- **The balances that a genesis lists need not add up to the supply**: of two balances that are
listed for one account, only the later one is set. -/
theorem supply_not_sum_of_listed :
    ¬ ∀ (genesis : Genesis) (chain : Chain), ofGenesis genesis = .ok chain →
      ∀ submissions : List Submission,
        totalTokens? (chain.gateway.storeAfter submissions chain.store) =
          some (genesis.balances.map (·.amount.toNat)).sum := by
  intro hall
  let genesis : Genesis :=
    { Genesis.fixture with
      balances := [⟨fundedAccount, 5⟩, ⟨fundedAccount, 7⟩] }
  have hlisted := hall genesis _ rfl []
  have htotal := genesis.books.totalTokens?_eq
  have hdiffer : (genesis.balances.map (·.amount.toNat)).sum ≠ genesis.supply := by decide
  exact hdiffer (Option.some.inj (hlisted.symm.trans htotal))

end StakingGateway.Chain
