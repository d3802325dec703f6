import StakingGateway.Proofs.Chain.Conservation
import StakingGateway.Proofs.Reference.Cancellations
import StakingGateway.Proofs.Reference.Stakes

/-!
# Cancelled Unbondings

An account can have tokens bonded again that are on their way back to it, by naming the height at
which it asked for them. On a chain with a supply below `2 ^ 98`, nothing stands in its way but what
it reads of its own unbonding: the first entry of the height has to be on its way still and to hold
as much (`Chain.cancellations_exact`). The entry is reduced by the tokens, and goes with the last of
them; the stake has them more; and nothing else changes.

So the first entry of a height can be cancelled while it is on its way
(`Chain.first_of_height_cancellable`). Heights are no names of entries, though. An account that asks
twice in one block has two entries of the height, and out of the second one it cannot take anything
back before the first one is gone (`Chain.not_all_cancellable`).

## Main definitions

* `Reference.Rebonded`: what a cancelled unbonding makes of a store.

## Main statements

* `Books.rebonded`: what is booked for a cancelled unbonding.
* `Chain.forallRecords_isGenuine`: all unbondings of a chain have been asked for.
* `Chain.cancellations_exact`: cancelled unbondings of a chain, from the call to the store.
* `Chain.first_of_height_cancellable`, `Chain.not_all_cancellable`: what can be cancelled, and that
  it is not everything.
-/

namespace StakingGateway

open Genesis (alpha fundedAccount)
open Reference

namespace Reference

/-- The tokens have been taken back out of the entry, which stood between the others, and have been
put into the stake of the account with the validator. -/
structure Rebonded (store after : Store) (account : Address) (operator : String) (tokens : Nat)
    (earlier : List UnbondingEntry) (entry : UnbondingEntry) (later left : List UnbondingEntry) :
    Prop where
  /-- The entry was on its way among the others. -/
  there : store.record? (Key.unbonding account operator) =
    some (⟨account, operator, earlier ++ entry :: later⟩ : UnbondingDelegation)
  /-- It was the first one of its height. -/
  first : ∀ other ∈ earlier, other.creationHeight ≠ entry.creationHeight
  /-- It has the tokens less, or is gone if it held no more. -/
  remainder : Remainder tokens entry left
  /-- The others are as they were, and in the same order. Nothing is kept if none is left. -/
  noted : ByteMap.get? after (Key.unbonding account operator) =
    if earlier ++ left ++ later = [] then none
    else some (Json.encode
      (⟨account, operator, earlier ++ left ++ later⟩ : UnbondingDelegation))
  /-- The stake has the tokens more. -/
  stake : StakeMoves store after account operator tokens 0
  /-- Nothing else changes. -/
  others {key : Bytes} (hvalidator : key ≠ Key.validator operator)
    (hholding : key ≠ Key.delegation account operator)
    (hunbonding : key ≠ Key.unbonding account operator) :
    ByteMap.get? after key = ByteMap.get? store key

variable {parameters : Parameters} {block : Block} {store after : Store} {supply : Nat}
  {account : Address} {operator : String}

/-- A cancelled unbonding leaves all balances. -/
theorem Rebonded.balance_eq {tokens : Nat} {earlier later left : List UnbondingEntry}
    {entry : UnbondingEntry}
    (h : Rebonded store after account operator tokens earlier entry later left)
    (other : Address) : balance after other = balance store other := by
  rw [balance, balance, h.others (Key.IsOwn.balance.ne_validator operator)
    (balance_ne_delegation other account operator)
    (unbonding_ne_balance account other operator).symm]

/-- **What is booked for a cancelled unbonding** takes the tokens out of the first entry of the
height and puts them into the stake. -/
theorem Books.rebonded (h : Books store supply)
    (hintact : ∀ entry ∈ unbondingEntries store account operator, entry.IsIntact)
    {u : UnbondingDelegation} (hu : store.record? (Key.unbonding account operator) = some u)
    {height : Int64} {now : UInt64} {amount : Uint256} (hpos : 0 < amount.toNat)
    {entries : List UnbondingEntry}
    (htaken : takeBack height now amount (unbondingEntries store account operator) = .ok entries)
    (hchanges : Changes account [.unbonding operator entries, .bond operator amount] store after) :
    ∃ earlier entry later left, entry.creationHeight = height ∧
      Rebonded store after account operator amount.toNat earlier entry later left := by
  obtain ⟨_, rfl, _, hbonded, rfl⟩ := hchanges
  have hthere := eq_of_record?_unbonding h.sound hu
  have hwithin := h.pending_le account operator
  have hpending := pending_takeBack htaken
  obtain ⟨earlier, entry, later, hentries, hearlier, hheight, -, hfits, rfl⟩ :=
    exists_of_takeBack htaken
  have hmiddle : Books (store.setUnbonding account operator
      (earlier ++ remainder amount entry ++ later)) (supply - amount.toNat) :=
    h.of_unbonding (show (Booking.unbonding operator _).Changes _ _ _ from rfl) (by omega)
  have hentry : entry.IsIntact := by
    refine hintact entry ?_
    rw [hentries]
    exact List.mem_append_right _ List.mem_cons_self
  have hvalidator : Key.unbonding account operator ≠ Key.validator operator :=
    (Key.IsOwn.unbonding operator).ne_validator operator
  refine ⟨earlier, entry, later, remainder amount entry, hheight, ?_, ?_, ?_, ?_, ?_, ?_⟩
  · rw [hu, hthere, hentries]
  · rwa [hheight]
  · exact remainder_spec hentry hfits
  · rw [get?_of_bond hbonded hvalidator (unbonding_ne_delegation account account operator operator),
      get?_setUnbonding_self]
  · exact (hmiddle.stakeMoves_of_bond hbonded hpos).congr (agreeOnStake_setUnbonding ..)
      (.refl ..)
  · intro key hvalidator hholding hunbonding
    rw [get?_of_bond hbonded hvalidator hholding, get?_setUnbonding_of_ne hunbonding]

end Reference

namespace Chain

variable {genesis : Genesis} {chain : Chain}

/-- **All unbondings of a chain have been asked for**, whatever calls are made in whatever
blocks. -/
theorem forallRecords_isGenuine (h : ofGenesis genesis = .ok chain)
    (submissions : List Submission) :
    let store := chain.gateway.storeAfter submissions chain.store
    store.ForallRecords (Record.IsGenuine fun operator => registered store operator = true) := by
  intro store
  -- Validators are known at the start, and what messages do is known where the books are in order.
  let known (operator : String) : Prop := registered chain.store operator = true
  obtain ⟨-, hknown, hgenuine⟩ : Books store genesis.supply ∧
      (∀ operator, registered store operator = registered chain.store operator) ∧
      store.ForallRecords (Record.IsGenuine known) := by
    refine Gateway.storeAfter_induction
      (I := fun store => Books store genesis.supply ∧
        (∀ operator, registered store operator = registered chain.store operator) ∧
        store.ForallRecords (Record.IsGenuine known))
      (fun call store gas hstore => ?_) submissions ?_
    · obtain ⟨hbooks, hknown, hgenuine⟩ := hstore
      obtain ⟨bookings, hchanges⟩ :=
        hbooks.exists_changes_run chain.parameters chain.config call gas
      refine ⟨hbooks.books_run chain.parameters chain.config call gas,
        fun operator => (hchanges.registered_eq operator).trans (hknown operator), ?_⟩
      rcases run_store_eq_or_effect_admissible chain.parameters chain.config call store gas with
        hsame | ⟨message, answer, hadmissible, heffect⟩
      · rw [show (chain.gateway.run call store gas).store = store from hsame]
        exact hgenuine
      · exact hbooks.forallRecords_isGenuine hgenuine
          (fun operator hthere => (hknown operator).symm.trans hthere) hadmissible heffect
    · refine ⟨books_storeAfter h [], fun _ => rfl, ?_⟩
      rw [store_of_ofGenesis h]
      refine genesis.isFresh_store.1.mono fun record hfresh => ?_
      cases record with
      | balance | validator => trivial
      | holding | unbonding | redelegations => cases hfresh
  refine hgenuine.mono fun record hrecord => ?_
  cases record with
  | unbonding u => exact { hrecord with known := (hknown u.validator).trans hrecord.known }
  | balance | validator | holding | redelegations => trivial

section Cancellations

variable {call : Call} {operator : String} {amount : Uint256} {height : Int64}

/-- A call that asks to cancel an unbonding, and does not run out of gas, succeeds exactly if the
first entry of the height is on its way and holds as much. What is booked is then done. -/
theorem exists_ok_iff_cancellable (h : ofGenesis genesis = .ok chain)
    (hsupply : genesis.supply < 2 ^ 98) (submissions : List Submission)
    (hasks : call.AsksFor (.cancelUnbonding call.caller operator ⟨standardDenom, amount⟩ height))
    (hcheck : (Message.cancelUnbonding call.caller operator ⟨standardDenom, amount⟩ height).check =
      .ok ()) {gas : GasAccount} :
    let store := chain.gateway.storeAfter submissions chain.store
    let report := chain.gateway.run call store gas
    GasFree report.result →
      ((∃ data, report.result = .ok data) ↔ ∃ (u : UnbondingDelegation) (entry : UnbondingEntry),
        store.record? (Key.unbonding call.caller operator) = some u ∧
          u.entries.find? (fun entry => entry.creationHeight = height) = some entry ∧
          call.block.time < entry.completionTime ∧ amount.toNat ≤ entry.balance.toNat) ∧
      ∀ data, report.result = .ok data → data = [] ∧ ∃ entries,
        takeBack height call.block.time amount (unbondingEntries store call.caller operator) =
            .ok entries ∧
          Changes call.caller [.unbonding operator entries, .bond operator amount] store
            report.store := by
  intro store report hgas
  have hbooks : Books store genesis.supply := books_storeAfter h submissions
  have hgenuine := forallRecords_isGenuine h submissions
  have hparameters := parameters_of_ofGenesis h
  obtain ⟨haccepted, hdone⟩ := hbooks.run_of_asksFor hsupply hasks hgas
  constructor
  · refine haccepted.trans ?_
    rw [and_iff_right hcheck, cancellation_planned_iff, hparameters]
    constructor
    · exact And.right
    · -- Where there is an unbonding, the validator is there.
      rintro ⟨u, entry, hu, hentry⟩
      obtain ⟨-, rfl, hu'⟩ := isGenuine_of_record? hgenuine hu
      exact ⟨⟨rfl, hu'.known⟩, u, entry, hu, hentry⟩
  · intro data hdata
    obtain ⟨answer, bookings, hplan, hreturned, hchanges⟩ := hdone data hdata
    obtain ⟨-, entries, htaken, rfl⟩ := plan?_cancelUnbonding_eq_some_iff.mp hplan
    exact ⟨hreturned, entries, htaken, hchanges⟩

/-- **Cancelled unbondings are exact.** After any calls on a chain with a supply below `2 ^ 98`, an
account that has a valid request to take tokens back out of those of a height, and does not run out
of gas, is granted it exactly if its unbonding has an entry of the height and the first one is on
its way and holds as much. The tokens have then left that entry, which is gone if it held no more;
the other entries are as they were, and the record is deleted if there are none; the tokens are back
in the stake; and nothing else has changed, the balance of the account included. -/
theorem cancellations_exact (h : ofGenesis genesis = .ok chain) (hsupply : genesis.supply < 2 ^ 98)
    (submissions : List Submission)
    (hasks : call.AsksFor (.cancelUnbonding call.caller operator ⟨standardDenom, amount⟩ height))
    (hcheck : (Message.cancelUnbonding call.caller operator ⟨standardDenom, amount⟩ height).check =
      .ok ()) (gas : GasAccount) :
    let store := chain.gateway.storeAfter submissions chain.store
    let report := chain.gateway.run call store gas
    GasFree report.result →
      ((∃ data, report.result = .ok data) ↔ ∃ (u : UnbondingDelegation) (entry : UnbondingEntry),
        store.record? (Key.unbonding call.caller operator) = some u ∧
          u.entries.find? (fun entry => entry.creationHeight = height) = some entry ∧
          call.block.time < entry.completionTime ∧ amount.toNat ≤ entry.balance.toNat) ∧
      ∀ data, report.result = .ok data → data = [] ∧
        (∃ earlier entry later left, entry.creationHeight = height ∧
          Rebonded store report.store call.caller operator amount.toNat earlier entry later left) ∧
        ∀ account, Reference.balance report.store account = Reference.balance store account := by
  intro store report hgas
  have hbooks : Books store genesis.supply := books_storeAfter h submissions
  have hpos : 0 < amount.toNat :=
    Uint256.toNat_pos_iff.mpr (Message.check_eq_ok_iff.mp hcheck).2.2.2.2.1
  obtain ⟨haccepted, hdone⟩ := exists_ok_iff_cancellable h hsupply submissions hasks hcheck hgas
  refine ⟨haccepted, fun data hdata => ?_⟩
  obtain ⟨u, -, hu, -⟩ := haccepted.mp ⟨data, hdata⟩
  obtain ⟨hempty, entries, htaken, hchanges⟩ := hdone data hdata
  have hintact := isIntact_of_forallRecords (forallRecords_isGenuine h submissions) call.caller
    operator
  obtain ⟨earlier, entry, later, left, hheight, hrebonded⟩ :=
    hbooks.rebonded hintact hu hpos htaken hchanges
  exact ⟨hempty, ⟨earlier, entry, later, left, hheight, hrebonded⟩, hrebonded.balance_eq⟩

/-- An account asks for 50 tokens back, for 30 more in the next block, and then takes all of the 50
back. The entry of them is gone, and the other one has stayed. -/
theorem cancellations_exact_whole_entry :
    let account := fundedAccount
    let submissions := [submission account (delegateData account alpha 400) ⟨100, 1000⟩,
      submission account (undelegateData account alpha 50) ⟨100, 1000⟩,
      submission account (undelegateData account alpha 30) ⟨101, 1006⟩]
    let call : Call := ⟨cancelUnbondingData account alpha 50 100, account, false, ⟨102, 1010⟩⟩
    let store := bundled.gateway.storeAfter submissions bundled.store
    let report := bundled.gateway.run call store (.full ampleGas)
    report.result = .ok [] ∧ Rebonded store report.store account alpha 50 []
      ⟨100, 1815400, 50, 50⟩ [⟨101, 1815406, 30, 30⟩] [] := by
  intro account submissions call store report
  have hasks : call.AsksFor
      (.cancelUnbonding account alpha ⟨standardDenom, .ofUInt64 50⟩ 100) :=
    ⟨rfl, rfl, rfl, by decide +kernel⟩
  obtain ⟨hresult, hnoted⟩ : report.result = .ok [] ∧
      store.record? (Key.unbonding account alpha) =
        some (⟨account, alpha, [⟨100, 1815400, 50, 50⟩, ⟨101, 1815406, 30, 30⟩]⟩ :
          UnbondingDelegation) := by decide +kernel
  obtain ⟨-, hdone⟩ := cancellations_exact ofGenesis_bundled (by decide) submissions hasks
    (by decide) (.full ampleGas) (gasFree_of_isOk (congrArg Except.isOk hresult))
  obtain ⟨-, ⟨earlier, entry, later, left, hheight, hrebonded⟩, -⟩ := hdone [] hresult
  have hentries := hrebonded.there.symm.trans hnoted
  rw [Option.some.injEq, UnbondingDelegation.mk.injEq] at hentries
  obtain ⟨-, -, hentries⟩ := hentries
  refine ⟨hresult, ?_⟩
  cases earlier with
  | nil =>
      obtain ⟨rfl, rfl⟩ := List.cons.inj hentries
      cases hrebonded.remainder with
      | nothing => exact hrebonded
      | something _ _ hpos hbalance =>
          have hheld : (50 : Uint256).toNat = (Uint256.ofUInt64 50).toNat := by decide
          dsimp only at hbalance
          omega
  | cons other earlier =>
      obtain ⟨rfl, -⟩ := List.cons.inj hentries
      exact absurd hheight.symm (hrebonded.first _ List.mem_cons_self)

/-- **The first entry of a height can be cancelled while it is on its way**, in whole and in
part. -/
theorem first_of_height_cancellable (h : ofGenesis genesis = .ok chain)
    (hsupply : genesis.supply < 2 ^ 98) (submissions : List Submission)
    (hasks : call.AsksFor (.cancelUnbonding call.caller operator ⟨standardDenom, amount⟩ height))
    {u : UnbondingDelegation} {entry : UnbondingEntry}
    (hu : (chain.gateway.storeAfter submissions chain.store).record?
      (Key.unbonding call.caller operator) = some u)
    (hfirst : u.entries.find? (fun entry => entry.creationHeight = height) = some entry)
    (hheight : 0 < height) (hpending : call.block.time < entry.completionTime)
    (hpos : 0 < amount.toNat) (hfits : amount.toNat ≤ entry.balance.toNat) :
    ∃ cost : UInt64, ∀ gas : GasAccount, cost.toNat ≤ gas.remaining.toNat →
      (chain.gateway.run call (chain.gateway.storeAfter submissions chain.store) gas).result =
        .ok [] := by
  -- The account and the validator can be named in a request because they have been before.
  have hcheck : (Message.cancelUnbonding call.caller operator ⟨standardDenom, amount⟩
      height).check = .ok () := by
    obtain ⟨haccount, hoperator, hgenuine⟩ :=
      isGenuine_of_record? (forallRecords_isGenuine h submissions) hu
    have hcaller : call.caller ≠ .zero := haccount ▸ hgenuine.account
    have hnamed : ¬ Text.IsBlank operator := hoperator ▸ hgenuine.named
    have hdenom := isDenom_standardDenom
    rw [Message.check_eq_ok_iff]
    simp [Message.delegator, Message.validators, Message.coin, Message.height?, hcaller, hnamed,
      hdenom, hheight, Uint256.toNat_pos_iff.mp hpos]
  refine Gateway.exists_cost_of_gasFree fun gas hgas => ?_
  obtain ⟨haccepted, hdone⟩ := exists_ok_iff_cancellable h hsupply submissions hasks hcheck hgas
  obtain ⟨data, hdata⟩ := haccepted.mpr ⟨u, entry, hu, hfirst, hpending, hfits⟩
  obtain ⟨rfl, -⟩ := hdone data hdata
  exact hdata

end Cancellations

/-- An account has bonded 150 tokens, and in one block it asks for 10 and for 50 of them. -/
def twiceInOneBlock : List Submission :=
  [submission fundedAccount (delegateData fundedAccount alpha 150) ⟨100, 1000⟩,
    submission fundedAccount (undelegateData fundedAccount alpha 10) ⟨101, 1006⟩,
    submission fundedAccount (undelegateData fundedAccount alpha 50) ⟨101, 1006⟩]

/-- The account then has two entries of one height. -/
theorem record?_twiceInOneBlock :
    (bundled.gateway.storeAfter twiceInOneBlock bundled.store).record?
        (Key.unbonding fundedAccount alpha) =
      some (⟨fundedAccount, alpha, [⟨101, 1815406, 10, 10⟩, ⟨101, 1815406, 50, 50⟩]⟩ :
        UnbondingDelegation) := by
  decide +kernel

/-- The 10 tokens can be taken back. -/
theorem first_of_height_cancellable_twice :
    let account := fundedAccount
    let call : Call := ⟨cancelUnbondingData account alpha 10 101, account, false, ⟨102, 1012⟩⟩
    let store := bundled.gateway.storeAfter twiceInOneBlock bundled.store
    unbondingEntries store account alpha =
        [⟨101, 1815406, 10, 10⟩, ⟨101, 1815406, 50, 50⟩] ∧
      ∃ cost : UInt64, ∀ gas : GasAccount, cost.toNat ≤ gas.remaining.toNat →
        (bundled.gateway.run call store gas).result = .ok [] := by
  intro account call store
  let entries : List UnbondingEntry := [⟨101, 1815406, 10, 10⟩, ⟨101, 1815406, 50, 50⟩]
  have hasks : call.AsksFor
      (.cancelUnbonding account alpha ⟨standardDenom, .ofUInt64 10⟩ 101) :=
    ⟨rfl, rfl, rfl, by decide +kernel⟩
  have hu : store.record? (Key.unbonding account alpha) =
      some (⟨account, alpha, entries⟩ : UnbondingDelegation) := record?_twiceInOneBlock
  have hentries : unbondingEntries store account alpha = entries := by
    rw [unbondingEntries, hu, Option.elim_some]
  have hfirst : entries.find? (fun entry => entry.creationHeight = 101) =
      some ⟨101, 1815406, 10, 10⟩ := by decide
  exact ⟨hentries, first_of_height_cancellable ofGenesis_bundled (by decide) twiceInOneBlock
    hasks hu hfirst (by decide) (by decide) (by decide) (by decide)⟩

/-- **Not all that is on its way can be cancelled.** The 50 tokens cannot be taken back, with
whatever gas, because the first entry of their height does not hold as much. -/
theorem not_all_cancellable :
    ¬ ∀ (genesis : Genesis) (chain : Chain), ofGenesis genesis = .ok chain →
      genesis.supply < 2 ^ 98 → ∀ (submissions : List Submission) (call : Call)
        (operator : String) (amount : Uint256) (height : Int64) (u : UnbondingDelegation)
        (entry : UnbondingEntry),
        call.AsksFor (.cancelUnbonding call.caller operator ⟨standardDenom, amount⟩ height) →
        (chain.gateway.storeAfter submissions chain.store).record?
          (Key.unbonding call.caller operator) = some u →
        entry ∈ u.entries → entry.creationHeight = height → 0 < height →
        call.block.time < entry.completionTime → 0 < amount.toNat →
        amount.toNat ≤ entry.balance.toNat →
          ∃ gas data, (chain.gateway.run call (chain.gateway.storeAfter submissions chain.store)
            gas).result = .ok data := by
  intro hall
  let account := fundedAccount
  let call : Call := ⟨cancelUnbondingData account alpha 50 101, account, false, ⟨102, 1012⟩⟩
  let second : UnbondingEntry := ⟨101, 1815406, 50, 50⟩
  have hasks : call.AsksFor
      (.cancelUnbonding account alpha ⟨standardDenom, .ofUInt64 50⟩ 101) :=
    ⟨rfl, rfl, rfl, by decide +kernel⟩
  obtain ⟨gas, data, hdata⟩ := hall .bundled bundled ofGenesis_bundled (by decide) twiceInOneBlock
    call alpha (.ofUInt64 50) 101 _ second hasks record?_twiceInOneBlock (by decide) rfl (by decide)
    (by decide) (by decide) (by decide)
  -- What has been granted has been granted out of the first entry, which holds 10.
  obtain ⟨u, entry, hu, hfirst, -, hfits⟩ :=
    (exists_ok_iff_cancellable ofGenesis_bundled (by decide) twiceInOneBlock hasks (by decide)
      (gasFree_of_isOk (congrArg Except.isOk hdata))).1.mp ⟨data, hdata⟩
  obtain rfl := Option.some.inj (record?_twiceInOneBlock.symm.trans hu)
  obtain rfl : ⟨101, 1815406, 10, 10⟩ = entry := Option.some.inj hfirst
  exact absurd hfits (by decide)

end Chain

end StakingGateway
