import StakingGateway.Proofs.Chain.Cancellation
import StakingGateway.Proofs.Chain.Undelegation
import StakingGateway.Proofs.Reference.Holders
import StakingGateway.Proofs.Reference.ShareCount

/-!
# Cancelling in Full

An undelegation that is cancelled in full, in the block in which it was made, has left no trace. On
the way, the validator may have been emptied, the holding deleted, and an unbonding begun for a
single entry; on the way back each of them is written anew. That the octets are the same again is
due to two things: the rate is constant, so the shares that are burnt are those that are issued, and
a store keeps no more than one form of a record. With an entry of the same height in front that is
on its way, it would be that entry that the tokens are taken back from, so there must be none. What
has matured stays in the record, though, and where such an entry of the same height is in front, the
cancellation is refused (`Chain.undelegations_undone`, `Chain.not_all_undone`).

## Main definitions

* `Chain.Undoing`: an account asks for tokens back and then cancels that.

## Main statements

* `StakeMoves.undone`: a stake that has lost tokens and gained them again.
* `get?_unbonding_eq`: what is kept of what is on its way.
* `Undelegated.undone`: what an undelegation and its cancellation make of a store.
* `Chain.Undoing.granted`, `Chain.Undoing.refused`, `Chain.Undoing.restored`: when the tokens that
  were asked for can be taken back, and what that makes of the store.
* `Chain.undelegations_undone`, `Chain.not_all_undone`: undelegations that are cancelled in full,
  and that not all of them can be.
-/

namespace StakingGateway

open Genesis (alpha fundedAccount)
open Reference

namespace Reference

variable {store middle after : Store} {account : Address} {operator : String} {supply : Nat}

/-- Whoever has bonded something holds shares. -/
theorem held_pos_of_le_staked {n : Nat} (hpos : 0 < n) (h : n ≤ staked store account operator) :
    0 < held store account operator := by
  have hsome : 0 < n * shareUnit.toNat := Nat.mul_pos hpos (by decide)
  exact Nat.lt_of_lt_of_le hsome (le_staked_iff.mp h)

/-- What is read is kept in one form. -/
theorem IsSlot.get?_eq {α : Type} [Json.Codec α] [Json.LawfulCodec α] {key : Bytes}
    {make : α → Record} {P : Record → Prop} (h : IsSlot key make) (hstore : store.ForallRecords P)
    {a : α} (ha : store.record? key = some a) :
    ByteMap.get? store key = some (Json.encode a) := by
  obtain ⟨rfl, hkeeps⟩ := (h.record?_eq_some_iff hstore).mp ha
  rw [hkeeps, h.octets]

/-- Whoever holds something has a record of it. -/
theorem get?_of_held {P : Record → Prop} (h : store.ForallRecords P)
    (hheld : 0 < held store account operator) :
    ∃ shares : Uint256, shares.toNat = held store account operator ∧
      ByteMap.get? store (Key.delegation account operator) =
        some (Json.encode (⟨shares⟩ : Holding)) := by
  cases hread : (store.record? (Key.delegation account operator) : Option Holding) with
  | none =>
      rw [held, hread] at hheld
      cases hheld
  | some holding =>
      refine ⟨holding.shares, ?_, (isSlot_holding account operator).get?_eq h hread⟩
      rw [held, hread, Option.elim_some]

/-- It holds shares of a validator that is there. -/
theorem Books.registered_of_held (h : Books store supply)
    (hheld : 0 < held store account operator) : registered store operator = true := by
  obtain ⟨shares, hshares, hkept⟩ := get?_of_held h.sound hheld
  have hread : store.record? (Key.delegation account operator) = some (⟨shares⟩ : Holding) := by
    rw [Store.record?, hkept, Option.bind_some, Json.decode?_encode]
  obtain ⟨v, hv⟩ := h.exists_validator hread (hshares ▸ hheld)
  exact registered_of_eq_some hv

/-- **A stake that has lost tokens and gained them again** is noted as before. -/
theorem StakeMoves.undone {n : Nat} {rest : Nat} (h : Books store supply) (h' : Books after rest)
    (hlost : StakeMoves store middle account operator 0 n)
    (hgained : StakeMoves middle after account operator n 0) (hpos : 0 < n) :
    AgreeOnStake account operator after store where
  validator := by
    obtain ⟨v, w, hv, hw, hprofile, htokens, -⟩ := hlost.validator
    obtain ⟨w', v', hw', hv', hprofile', htokens', -⟩ := hgained.validator
    obtain rfl : w = w' := Option.some.inj (hw.symm.trans hw')
    obtain rfl : v' = v :=
      (h'.isExact hv').2.eq_of_profile (h.isExact hv).2 (hprofile'.trans hprofile) (by omega)
    rw [(isSlot_validator operator).get?_eq h.sound hv,
      (isSlot_validator operator).get?_eq h'.sound hv']
  holding := by
    have hless := hlost.holding
    have hmore := hgained.holding
    have hsome : 0 < n * shareUnit.toNat := Nat.mul_pos hpos (by decide)
    obtain ⟨shares, hshares, hkept⟩ :=
      get?_of_held h.sound (show 0 < held store account operator by omega)
    obtain ⟨shares', hshares', hkept'⟩ :=
      get?_of_held h'.sound (show 0 < held after account operator by omega)
    have hsame : shares' = shares := Uint256.ext (by omega)
    rw [hkept, hkept', hsame]

/-- What is on its way is kept in one form, and nothing is kept where nothing is. -/
theorem get?_unbonding_eq {known : String → Prop}
    (h : store.ForallRecords (Record.IsGenuine known)) (account : Address) (operator : String) :
    ByteMap.get? store (Key.unbonding account operator) =
      if unbondingEntries store account operator = [] then none
      else some (Json.encode (⟨account, operator, unbondingEntries store account operator⟩ :
        UnbondingDelegation)) := by
  cases hread : (store.record? (Key.unbonding account operator) : Option UnbondingDelegation) with
  | none =>
      have hnothing : unbondingEntries store account operator = [] := by
        rw [unbondingEntries, hread, Option.elim_none]
      rw [if_pos hnothing]
      exact ((isSlot_unbonding account operator).record?_eq_none_iff h).mp hread
  | some u =>
      obtain ⟨-, -, hgenuine⟩ := isGenuine_of_record? h hread
      have hsome := hgenuine.some
      have hu := eq_of_record?_unbonding h hread
      rw [hu] at hread hsome
      rw [if_neg hsome]
      exact (isSlot_unbonding account operator).get?_eq h hread

/-- An entry that is there now and was not there before is the last one. -/
theorem eq_of_append_eq_concat {entries earlier later : List UnbondingEntry}
    {entry last : UnbondingEntry} (h : entries ++ [last] = earlier ++ entry :: later)
    (hnew : entry ∉ entries) : entries = earlier ∧ last = entry ∧ later = [] := by
  rcases List.append_eq_append_iff.mp h with ⟨behind, rfl, hbehind⟩ | ⟨behind, rfl, hbehind⟩
  · cases behind with
    | nil =>
        obtain ⟨rfl, rfl⟩ := List.cons.inj hbehind
        exact ⟨(List.append_nil _).symm, rfl, rfl⟩
    | cons other behind =>
        obtain ⟨-, hnone⟩ := List.cons.inj hbehind
        cases behind <;> cases hnone
  · cases behind with
    | nil =>
        obtain ⟨rfl, rfl⟩ := List.cons.inj hbehind
        exact ⟨List.append_nil _, rfl, rfl⟩
    | cons other behind =>
        obtain ⟨rfl, -⟩ := List.cons.inj hbehind
        exact absurd (List.mem_append_right _ List.mem_cons_self) hnew

/-- The entry is found when its height is looked up. -/
theorem Rebonded.find?_eq {tokens : Nat} {earlier later left : List UnbondingEntry}
    {entry : UnbondingEntry}
    (h : Rebonded store after account operator tokens earlier entry later left) :
    (earlier ++ entry :: later).find?
      (fun other => other.creationHeight = entry.creationHeight) = some entry :=
  List.find?_eq_some_iff_append.mpr
    ⟨decide_eq_true rfl, earlier, later, rfl, by simpa using h.first⟩

/-- **An undelegation that is cancelled in full has left no trace**, if it is its entry that the
tokens were taken back from, and not one that was there before. -/
theorem Undelegated.undone {known : String → Prop} (h : Books store supply)
    (h' : Books after supply) (hgenuine : store.ForallRecords (Record.IsGenuine known))
    {amount : Uint256} (hpos : 0 < amount.toNat) {height : Int64} {time : UInt64}
    (hbegun : Undelegated store middle account operator amount.toNat
      ⟨height, time, amount, amount⟩)
    {earlier later left : List UnbondingEntry} {entry : UnbondingEntry}
    (hcancelled : Rebonded middle after account operator amount.toNat earlier entry later left)
    (hnew : entry ∉ unbondingEntries store account operator) : after = store := by
  have hentries := hbegun.noted.symm.trans hcancelled.there
  rw [Option.some.injEq, UnbondingDelegation.mk.injEq] at hentries
  obtain ⟨-, -, hentries⟩ := hentries
  obtain ⟨rfl, rfl, rfl⟩ := eq_of_append_eq_concat hentries hnew
  -- All that the entry holds is taken back, so nothing is left of it.
  obtain rfl : left = [] := by
    cases hcancelled.remainder with
    | nothing => rfl
    | something _ _ hpos hbalance =>
        dsimp only at hbalance
        omega
  have hnoted := hcancelled.noted
  rw [List.append_nil, List.append_nil, ← get?_unbonding_eq hgenuine] at hnoted
  have hstake := hbegun.stake.undone h h' hcancelled.stake hpos
  refine ByteMap.ext_get? fun key => ?_
  by_cases hvalidator : key = Key.validator operator
  · rw [hvalidator]
    exact hstake.validator
  by_cases hholding : key = Key.delegation account operator
  · rw [hholding]
    exact hstake.holding
  by_cases hunbonding : key = Key.unbonding account operator
  · rw [hunbonding]
    exact hnoted
  · exact (hcancelled.others hvalidator hholding hunbonding).trans
      (hbegun.others hvalidator hholding hunbonding)

end Reference

namespace Chain

variable {genesis : Genesis} {chain : Chain}

/-- **Whoever holds shares on a chain is an account**, and holds them of a validator with a name. -/
theorem forallRecords_isAttributed (h : ofGenesis genesis = .ok chain)
    (submissions : List Submission) :
    (chain.gateway.storeAfter submissions chain.store).ForallRecords Record.IsAttributed := by
  refine forallRecords_storeAfter h (fun record hfresh => ?_) ?_ submissions
  · cases record with
    | balance | validator => exact trivial
    | holding | unbonding | redelegations => cases hfresh
  · intro call message answer store after hbooks hattributed hadmissible heffect
    exact hbooks.forallRecords_isAttributed hattributed hadmissible heffect

section Undone

variable {call cancellation : Call} {operator : String} {amount : Uint256} {time : UInt64}

/-- An account that has bonded as much can ask for it back, and can take that back. -/
theorem checks_of_le_staked (h : ofGenesis genesis = .ok chain) (submissions : List Submission)
    {account : Address} (hpos : 0 < amount.toNat)
    (hcovered : amount.toNat ≤
      staked (chain.gateway.storeAfter submissions chain.store) account operator)
    {height : Int64} (hheight : 0 < height) :
    (Message.undelegate account operator ⟨standardDenom, amount⟩).check = .ok () ∧
      (Message.cancelUnbonding account operator ⟨standardDenom, amount⟩ height).check = .ok () := by
  obtain ⟨haccount, hnamed⟩ := isAttributed_of_held (forallRecords_isAttributed h submissions)
    (held_pos_of_le_staked hpos hcovered)
  have hdenom := isDenom_standardDenom
  constructor
  · exact (check_undelegate_eq_ok_iff haccount hnamed).mpr ⟨hdenom, hpos⟩
  · rw [Message.check_eq_ok_iff]
    simp [Message.delegator, Message.validators, Message.coin, Message.height?, haccount, hnamed,
      hdenom, hheight, Uint256.toNat_pos_iff.mp hpos]

/-- An account that asks for as much as it has bonded, or less, is given it back. -/
theorem undelegated_of_le_staked (h : ofGenesis genesis = .ok chain)
    (hsupply : genesis.supply < 2 ^ 98) (submissions : List Submission)
    (hasks : call.AsksFor (.undelegate call.caller operator ⟨standardDenom, amount⟩))
    (hcheck : (Message.undelegate call.caller operator ⟨standardDenom, amount⟩).check = .ok ())
    (hpos : 0 < amount.toNat)
    (hcovered : amount.toNat ≤
      staked (chain.gateway.storeAfter submissions chain.store) call.caller operator)
    (htime : completionTime genesis.parameters call.block = some time) (gas : GasAccount) :
    let store := chain.gateway.storeAfter submissions chain.store
    let report := chain.gateway.run call store gas
    GasFree report.result → report.result = .ok (Abi.word time.toNat) ∧
      Undelegated store report.store call.caller operator amount.toNat
        ⟨call.block.height, time, amount, amount⟩ := by
  intro store report hgas
  have hbooks : Books store genesis.supply := books_storeAfter h submissions
  have hheld := le_staked_iff.mp hcovered
  have hthere := hbooks.registered_of_held (held_pos_of_le_staked hpos hcovered)
  rw [← parameters_of_ofGenesis h] at htime
  obtain ⟨haccepted, hdone⟩ := hbooks.run_of_asksFor hsupply hasks hgas
  obtain ⟨data, hdata⟩ := haccepted.mpr ⟨hcheck, time, _, plan?_undelegate_eq_some_iff.mpr
    ⟨⟨by rw [parameters_of_ofGenesis h]; rfl, hthere, hheld⟩, htime, rfl⟩⟩
  obtain ⟨answer, bookings, hplan, hreturned, hchanges⟩ := hdone data hdata
  obtain ⟨-, hanswer, rfl⟩ := plan?_undelegate_eq_some_iff.mp hplan
  obtain rfl : time = answer := Option.some.inj (htime.symm.trans hanswer)
  exact ⟨hdata.trans (congrArg _ (hreturned.trans (encodeValues_completionTime time))),
    hbooks.undelegated hchanges⟩

/-- After the calls, an account asks for tokens that it has bonded to the validator, and then, in
the same block, asks to take all of them back. -/
structure Undoing (genesis : Genesis) (chain : Chain) (submissions : List Submission)
    (call cancellation : Call) (operator : String) (amount : Uint256) (time : UInt64) : Prop where
  /-- The chain has started from the genesis. -/
  started : ofGenesis genesis = .ok chain
  /-- No product of shares and tokens overflows. -/
  supply : genesis.supply < 2 ^ 98
  /-- The first call asks for the tokens. -/
  asks : call.AsksFor (.undelegate call.caller operator ⟨standardDenom, amount⟩)
  /-- The second call asks to take them back. -/
  cancels : cancellation.AsksFor
    (.cancelUnbonding call.caller operator ⟨standardDenom, amount⟩ call.block.height)
  /-- It does so in the same block. -/
  block : cancellation.block = call.block
  /-- The block has a height that can be named. -/
  height : 0 < call.block.height
  /-- The account asks for something. -/
  pos : 0 < amount.toNat
  /-- It has bonded as much. -/
  covered : amount.toNat ≤
    staked (chain.gateway.storeAfter submissions chain.store) call.caller operator
  /-- The unbonding would be complete at the time. -/
  finish : completionTime genesis.parameters call.block = some time

namespace Undoing

variable {submissions : List Submission} {gas gas' : GasAccount} {data data' : Bytes}

/-- With enough gas the undelegation is granted. -/
theorem exists_cost
    (h : Undoing genesis chain submissions call cancellation operator amount time) :
    ∃ cost : UInt64, ∀ gas : GasAccount, cost.toNat ≤ gas.remaining.toNat →
      (chain.gateway.run call (chain.gateway.storeAfter submissions chain.store) gas).result =
        .ok (Abi.word time.toNat) := by
  obtain ⟨hcheck, -⟩ := checks_of_le_staked h.started submissions h.pos h.covered h.height
  exact Gateway.exists_cost_of_gasFree fun gas hgas =>
    (undelegated_of_le_staked h.started h.supply submissions h.asks hcheck h.pos h.covered h.finish
      gas hgas).1

/-- If the undelegation was granted, the unbonding has an entry for the tokens, the last one. -/
theorem undelegated
    (h : Undoing genesis chain submissions call cancellation operator amount time)
    (hdata : (chain.gateway.run call
      (chain.gateway.storeAfter submissions chain.store) gas).result = .ok data) :
    let store := chain.gateway.storeAfter submissions chain.store
    Undelegated store (chain.gateway.run call store gas).store call.caller operator amount.toNat
      ⟨call.block.height, time, amount, amount⟩ := by
  obtain ⟨hcheck, -⟩ := checks_of_le_staked h.started submissions h.pos h.covered h.height
  exact (undelegated_of_le_staked h.started h.supply submissions h.asks hcheck h.pos h.covered
    h.finish gas (gasFree_of_isOk (congrArg Except.isOk hdata))).2

/-- The tokens can then be taken back, unless gas runs out, exactly if the first entry of the
height, be it the new one or an earlier one, is on its way and holds as much. -/
theorem exists_ok_iff
    (h : Undoing genesis chain submissions call cancellation operator amount time)
    (hdata : (chain.gateway.run call
      (chain.gateway.storeAfter submissions chain.store) gas).result = .ok data) :
    let store := chain.gateway.storeAfter submissions chain.store
    let middle := (chain.gateway.run call store gas).store
    let report := chain.gateway.run cancellation middle gas'
    let last : UnbondingEntry := ⟨call.block.height, time, amount, amount⟩
    GasFree report.result →
      ((∃ data', report.result = .ok data') ↔ ∃ entry : UnbondingEntry,
        (unbondingEntries store call.caller operator ++ [last]).find?
          (fun entry => entry.creationHeight = call.block.height) = some entry ∧
        call.block.time < entry.completionTime ∧ amount.toNat ≤ entry.balance.toNat) ∧
      ∀ data', report.result = .ok data' → data' = [] ∧ ∃ entries,
        takeBack call.block.height call.block.time amount
            (unbondingEntries middle call.caller operator) = .ok entries ∧
          Changes call.caller [.unbonding operator entries, .bond operator amount] middle
            report.store := by
  intro store middle report last hgas
  obtain ⟨-, hcheck⟩ := checks_of_le_staked h.started submissions h.pos h.covered h.height
  -- Who cancels is who has asked.
  have hcaller : call.caller = cancellation.caller := h.cancels.authorized
  have hcancels := h.cancels
  rw [hcaller] at hcancels hcheck
  have hafter : chain.gateway.storeAfter (submissions ++ [⟨call, gas⟩]) chain.store = middle :=
    Gateway.storeAfter_concat ..
  have hfree : GasFree (chain.gateway.run cancellation
      (chain.gateway.storeAfter (submissions ++ [⟨call, gas⟩]) chain.store) gas').result := by
    rw [hafter]
    exact hgas
  have hcancellable := exists_ok_iff_cancellable h.started h.supply (submissions ++ [⟨call, gas⟩])
    hcancels hcheck hfree
  rw [hafter, ← hcaller, h.block] at hcancellable
  obtain ⟨haccepted, hdone⟩ := hcancellable
  refine ⟨haccepted.trans ?_, hdone⟩
  have hnoted := (h.undelegated hdata).noted
  constructor
  · rintro ⟨u, entry, hu, hentry⟩
    obtain rfl := Option.some.inj (hnoted.symm.trans hu)
    exact ⟨entry, hentry⟩
  · rintro ⟨entry, hentry⟩
    exact ⟨_, entry, hnoted, hentry⟩

/-- The cancellation is granted if the record had no entry of the height before. -/
theorem granted
    (h : Undoing genesis chain submissions call cancellation operator amount time)
    (hpending : call.block.time < time)
    (hdata : (chain.gateway.run call
      (chain.gateway.storeAfter submissions chain.store) gas).result = .ok data)
    (hfree : ∀ entry ∈ unbondingEntries (chain.gateway.storeAfter submissions chain.store)
      call.caller operator, entry.creationHeight ≠ call.block.height) :
    let middle :=
      (chain.gateway.run call (chain.gateway.storeAfter submissions chain.store) gas).store
    let report := chain.gateway.run cancellation middle gas'
    GasFree report.result → report.result = .ok [] := by
  intro middle report hgas
  obtain ⟨haccepted, hdone⟩ := h.exists_ok_iff hdata hgas
  obtain ⟨data', hdata'⟩ := haccepted.mpr ⟨_, List.find?_eq_some_iff_append.mpr
    ⟨decide_eq_true rfl, _, [], rfl, by simpa using hfree⟩, hpending, Nat.le_refl _⟩
  obtain ⟨rfl, -⟩ := hdone data' hdata'
  exact hdata'

/-- The cancellation is refused, with whatever gas, if the record had entries of the height before
and all of them have matured. -/
theorem refused
    (h : Undoing genesis chain submissions call cancellation operator amount time)
    (hdata : (chain.gateway.run call
      (chain.gateway.storeAfter submissions chain.store) gas).result = .ok data)
    (hmatured : ∀ entry ∈ unbondingEntries (chain.gateway.storeAfter submissions chain.store)
      call.caller operator, entry.creationHeight = call.block.height →
        entry.completionTime ≤ call.block.time)
    (hthere : ∃ entry ∈ unbondingEntries (chain.gateway.storeAfter submissions chain.store)
      call.caller operator, entry.creationHeight = call.block.height) :
    let middle :=
      (chain.gateway.run call (chain.gateway.storeAfter submissions chain.store) gas).store
    (chain.gateway.run cancellation middle gas').result ≠ .ok data' := by
  intro middle hdata'
  obtain ⟨haccepted, -⟩ :=
    h.exists_ok_iff hdata (gasFree_of_isOk (congrArg Except.isOk hdata'))
  obtain ⟨entry, hfind, hpending, -⟩ := haccepted.mp ⟨data', hdata'⟩
  -- The first entry of the height is one that was there before, and so it has matured.
  rw [List.find?_append] at hfind
  cases hfirst : (unbondingEntries (chain.gateway.storeAfter submissions chain.store) call.caller
      operator).find? (fun entry => entry.creationHeight = call.block.height) with
  | none =>
      obtain ⟨other, hmem, hheight⟩ := hthere
      exact List.find?_eq_none.mp hfirst other hmem (decide_eq_true hheight)
  | some first =>
      rw [hfirst, Option.some_or] at hfind
      obtain rfl := Option.some.inj hfind
      have hheight := List.find?_some hfirst
      exact absurd hpending (UInt64.not_lt.mpr (hmatured first (List.mem_of_find?_eq_some hfirst)
        (of_decide_eq_true hheight)))

/-- If the cancellation was granted, and all entries of the height that the record had before have
matured, the store is what it was. -/
theorem restored
    (h : Undoing genesis chain submissions call cancellation operator amount time)
    (hdata : (chain.gateway.run call
      (chain.gateway.storeAfter submissions chain.store) gas).result = .ok data)
    (hmatured : ∀ entry ∈ unbondingEntries (chain.gateway.storeAfter submissions chain.store)
      call.caller operator, entry.creationHeight = call.block.height →
        entry.completionTime ≤ call.block.time) :
    let store := chain.gateway.storeAfter submissions chain.store
    let report := chain.gateway.run cancellation (chain.gateway.run call store gas).store gas'
    report.result = .ok data' → report.store = store := by
  intro store report hdata'
  have hbooks : Books store genesis.supply := books_storeAfter h.started submissions
  have hmiddle := hbooks.books_run chain.parameters chain.config call gas
  have hbegun := h.undelegated hdata
  obtain ⟨haccepted, hdone⟩ :=
    h.exists_ok_iff hdata (gasFree_of_isOk (congrArg Except.isOk hdata'))
  obtain ⟨entry, hfind, hpending, -⟩ := haccepted.mp ⟨data', hdata'⟩
  obtain ⟨-, entries, htaken, hchanges⟩ := hdone data' hdata'
  have hgenuine := forallRecords_isGenuine h.started (submissions ++ [⟨call, gas⟩])
  rw [Gateway.storeAfter_concat] at hgenuine
  obtain ⟨earlier, taken, behind, left, hheight, hcancelled⟩ := hmiddle.rebonded
    (isIntact_of_forallRecords hgenuine call.caller operator) hbegun.noted h.pos htaken hchanges
  -- What was taken from is the first entry of the height, which had not matured.
  obtain rfl : taken = entry := by
    have hentries := hcancelled.there.symm.trans hbegun.noted
    rw [Option.some.injEq, UnbondingDelegation.mk.injEq] at hentries
    rw [← hentries.2.2, ← hheight] at hfind
    exact Option.some.inj (hcancelled.find?_eq.symm.trans hfind)
  refine hbegun.undone hbooks (hmiddle.books_run chain.parameters chain.config cancellation gas')
    (forallRecords_isGenuine h.started submissions) h.pos hcancelled fun hmem => ?_
  exact absurd hpending (UInt64.not_lt.mpr (hmatured taken hmem hheight))

end Undoing

/-- **An undelegation that is cancelled in full, in the block in which it was made, is undone.**
After any calls on a chain with a supply below `2 ^ 98` on which unbonding takes time, an account
asks for as much as a query reports of its delegation, or for less, and then takes all of it back in
the same block. If both are granted, and nothing else of the height of the block is on its way back
to it from the validator, every octet of the store is as it was. With enough gas the first is
granted, and so is the second, if its record there has no entry of the height at all. If it has one
that has matured, and none that is on its way, the second is not granted with whatever gas. -/
theorem undelegations_undone (h : ofGenesis genesis = .ok chain)
    (hsupply : genesis.supply < 2 ^ 98) (hunbonding : 0 < genesis.unbondingTime)
    (submissions : List Submission) (hblock : cancellation.block = call.block)
    (hheight : 0 < call.block.height)
    (htime : call.block.time.toNat + genesis.unbondingTime.toNat ≤ 2 ^ 64 - 1)
    (hasks : call.AsksFor (.undelegate call.caller operator ⟨standardDenom, amount⟩))
    (hcancels : cancellation.AsksFor (.cancelUnbonding call.caller operator
      ⟨standardDenom, amount⟩ call.block.height))
    (hpos : 0 < amount.toNat) {tokens : Nat}
    (hreported : reportedTokens? chain.parameters call.block
      (chain.gateway.storeAfter submissions chain.store) call.caller operator = some tokens)
    (hcovered : amount.toNat ≤ tokens) :
    let store := chain.gateway.storeAfter submissions chain.store
    let begun (gas : GasAccount) := chain.gateway.run call store gas
    let undone (gas gas' : GasAccount) := chain.gateway.run cancellation (begun gas).store gas'
    let entries := unbondingEntries store call.caller operator
    ((∀ entry ∈ entries, entry.creationHeight = call.block.height →
        entry.completionTime ≤ call.block.time) →
      ∀ gas gas' data data', (begun gas).result = .ok data →
        (undone gas gas').result = .ok data' → (undone gas gas').store = store) ∧
    ((∀ entry ∈ entries, entry.creationHeight ≠ call.block.height) →
      ∃ cost cost' : UInt64, ∀ gas gas' : GasAccount, cost.toNat ≤ gas.remaining.toNat →
        cost'.toNat ≤ gas'.remaining.toNat →
          (∃ data, (begun gas).result = .ok data) ∧ (undone gas gas').result = .ok [] ∧
            (undone gas gas').store = store) ∧
    (∃ cost : UInt64, ∀ gas : GasAccount, cost.toNat ≤ gas.remaining.toNat →
      ∃ data, (begun gas).result = .ok data) ∧
    ((∀ entry ∈ entries, entry.creationHeight = call.block.height →
        entry.completionTime ≤ call.block.time) →
      (∃ entry ∈ entries, entry.creationHeight = call.block.height) →
        ∀ gas gas' data data', (begun gas).result = .ok data →
          (undone gas gas').result ≠ .ok data') := by
  intro store begun undone entries
  have hbooks : Books store genesis.supply := books_storeAfter h submissions
  obtain rfl := Option.some.inj ((hbooks.reportedTokens?_eq hsupply ..).symm.trans hreported)
  obtain ⟨time, hfinish⟩ : ∃ time, completionTime genesis.parameters call.block = some time :=
    exists_completionTime htime
  have hpending : call.block.time < time := lt_of_completionTime hunbonding hfinish
  have hundoing : Undoing genesis chain submissions call cancellation operator amount time :=
    ⟨h, hsupply, hasks, hcancels, hblock, hheight, hpos, hcovered, hfinish⟩
  obtain ⟨cost, hcost⟩ := hundoing.exists_cost
  refine ⟨?_, ?_, ⟨cost, fun gas hgas => ⟨_, hcost gas hgas⟩⟩, ?_⟩
  · intro hmatured gas gas' data data' hdata
    exact hundoing.restored hdata hmatured
  · intro hfree
    have hmatured : ∀ entry ∈ entries, entry.creationHeight = call.block.height →
        entry.completionTime ≤ call.block.time :=
      fun entry hmem hsame => absurd hsame (hfree entry hmem)
    have hfull := hcost (.full cost) (Nat.le_refl _)
    obtain ⟨cost', hcost'⟩ : ∃ cost' : UInt64, ∀ gas', cost'.toNat ≤ gas'.remaining.toNat →
        (undone (.full cost) gas').result = .ok [] :=
      Gateway.exists_cost_of_gasFree fun gas' => hundoing.granted hpending hfull hfree
    refine ⟨cost, cost', fun gas gas' hgas hgas' => ?_⟩
    have hdata := hcost gas hgas
    -- What the first call leaves does not depend on its gas, and so nor does what the second costs.
    have hsame : (begun gas).store = (begun (.full cost)).store :=
      Gateway.run_store_eq_of_ok hdata hfull
    have hundone : (undone gas gas').result = .ok [] := by
      change (chain.gateway.run cancellation (begun gas).store gas').result = .ok []
      rw [hsame]
      exact hcost' gas' hgas'
    exact ⟨⟨_, hdata⟩, hundone, hundoing.restored hdata hmatured hundone⟩
  · intro hmatured hthere gas gas' data data' hdata
    exact hundoing.refused hdata hmatured hthere

/-- An account that has bonded 400 tokens asks for all of them and cancels that in the same block.
Its holding has been deleted meanwhile, and is there again. -/
theorem undelegations_undone_whole_stake :
    let account := fundedAccount
    let submissions := [submission account (delegateData account alpha 400) ⟨100, 1000⟩]
    let call : Call := ⟨undelegateData account alpha 400, account, false, ⟨101, 1006⟩⟩
    let cancellation : Call :=
      ⟨cancelUnbondingData account alpha 400 101, account, false, ⟨101, 1006⟩⟩
    let store := bundled.gateway.storeAfter submissions bundled.store
    let begun := bundled.gateway.run call store (.full ampleGas)
    let undone := bundled.gateway.run cancellation begun.store (.full ampleGas)
    begun.result = .ok (Abi.word 1815406) ∧
      ByteMap.get? begun.store (Key.delegation account alpha) = none ∧
      undone.result = .ok [] ∧ undone.store = store := by
  intro account submissions call cancellation store begun undone
  have hasks : call.AsksFor (.undelegate account alpha ⟨standardDenom, .ofUInt64 400⟩) :=
    ⟨rfl, rfl, rfl, by decide +kernel⟩
  have hcancels : cancellation.AsksFor
      (.cancelUnbonding account alpha ⟨standardDenom, .ofUInt64 400⟩ 101) :=
    ⟨rfl, rfl, rfl, by decide +kernel⟩
  obtain ⟨hreported, hnone⟩ :
      reportedTokens? bundled.parameters ⟨101, 1006⟩ store account alpha = some 400 ∧
        unbondingEntries store account alpha = [] := by decide +kernel
  obtain ⟨hbegun, hdeleted, hundone⟩ : begun.result = .ok (Abi.word 1815406) ∧
      ByteMap.get? begun.store (Key.delegation account alpha) = none ∧
        undone.result = .ok [] := by decide +kernel
  have hblock : cancellation.block = call.block := rfl
  obtain ⟨hrestored, -⟩ := undelegations_undone ofGenesis_bundled (by decide) (by decide)
    submissions hblock (by decide) (by decide) hasks hcancels (by decide) hreported (by decide)
  have hmatured : ∀ entry ∈ unbondingEntries store account alpha,
      entry.creationHeight = 101 → entry.completionTime ≤ 1006 := by
    rw [hnone]
    exact List.forall_mem_nil _
  exact ⟨hbegun, hdeleted, hundone, hrestored hmatured _ _ _ _ hbegun hundone⟩

/-- **Not every undelegation can be undone**, even where nothing else of the height is on its way.
An account that was given 50 tokens back in a block of height 101 asks for 30 more in another one of
that height, long after. The 50 tokens have matured by then, but their entry is still the first one
of the height, and so the 30 cannot be taken back, with whatever gas. -/
theorem not_all_undone :
    ¬ ∀ (genesis : Genesis) (chain : Chain), ofGenesis genesis = .ok chain →
      genesis.supply < 2 ^ 98 → 0 < genesis.unbondingTime →
      ∀ (submissions : List Submission) (call cancellation : Call) (operator : String)
        (amount : Uint256) (tokens : Nat),
        let store := chain.gateway.storeAfter submissions chain.store
        let begun (gas : GasAccount) := chain.gateway.run call store gas
        let undone (gas gas' : GasAccount) := chain.gateway.run cancellation (begun gas).store gas'
        cancellation.block = call.block → 0 < call.block.height →
        call.block.time.toNat + genesis.unbondingTime.toNat ≤ 2 ^ 64 - 1 →
        call.AsksFor (.undelegate call.caller operator ⟨standardDenom, amount⟩) →
        cancellation.AsksFor (.cancelUnbonding call.caller operator ⟨standardDenom, amount⟩
          call.block.height) →
        0 < amount.toNat →
        reportedTokens? chain.parameters call.block store call.caller operator = some tokens →
        amount.toNat ≤ tokens →
        (∀ entry ∈ unbondingEntries store call.caller operator,
          entry.creationHeight = call.block.height → entry.completionTime ≤ call.block.time) →
          (∀ gas gas' data data', (begun gas).result = .ok data →
            (undone gas gas').result = .ok data' → (undone gas gas').store = store) ∧
          ∃ cost cost' : UInt64, ∀ gas gas' : GasAccount, cost.toNat ≤ gas.remaining.toNat →
            cost'.toNat ≤ gas'.remaining.toNat →
              ∃ data data', (begun gas).result = .ok data ∧
                (undone gas gas').result = .ok data' := by
  intro hall
  let account := fundedAccount
  let submissions := [submission account (delegateData account alpha 400) ⟨100, 1000⟩,
    submission account (undelegateData account alpha 50) ⟨101, 1006⟩]
  let call : Call := ⟨undelegateData account alpha 30, account, false, ⟨101, 2000000⟩⟩
  let cancellation : Call :=
    ⟨cancelUnbondingData account alpha 30 101, account, false, ⟨101, 2000000⟩⟩
  have hasks : call.AsksFor (.undelegate account alpha ⟨standardDenom, .ofUInt64 30⟩) :=
    ⟨rfl, rfl, rfl, by decide +kernel⟩
  have hcancels : cancellation.AsksFor
      (.cancelUnbonding account alpha ⟨standardDenom, .ofUInt64 30⟩ 101) :=
    ⟨rfl, rfl, rfl, by decide +kernel⟩
  let store := bundled.gateway.storeAfter submissions bundled.store
  let matured : UnbondingEntry := ⟨101, 1815406, 50, 50⟩
  obtain ⟨hreported, hstaked, hentries⟩ :
      reportedTokens? bundled.parameters ⟨101, 2000000⟩ store account alpha = some 350 ∧
        staked store account alpha = 350 ∧ unbondingEntries store account alpha = [matured] := by
    decide +kernel
  have hmatured : ∀ entry ∈ unbondingEntries store account alpha,
      entry.creationHeight = 101 → entry.completionTime ≤ 2000000 := by
    rw [hentries]
    decide
  have hthere : ∃ entry ∈ unbondingEntries store account alpha, entry.creationHeight = 101 := by
    rw [hentries]
    decide
  obtain ⟨-, cost, cost', hgranted⟩ := hall .bundled bundled ofGenesis_bundled (by decide)
    (by decide) submissions call cancellation alpha (.ofUInt64 30) 350 rfl (by decide) (by decide)
    hasks hcancels (by decide) hreported (by decide) hmatured
  obtain ⟨data, data', hdata, hdata'⟩ :=
    hgranted (.full cost) (.full cost') (Nat.le_refl _) (Nat.le_refl _)
  have hcovered : (Uint256.ofUInt64 30).toNat ≤ staked store account alpha := by
    rw [hstaked]
    decide
  have hundoing : Undoing .bundled bundled submissions call cancellation alpha (.ofUInt64 30)
      3814400 :=
    ⟨ofGenesis_bundled, by decide, hasks, hcancels, rfl, by decide, by decide, hcovered, by decide⟩
  exact hundoing.refused hdata hmatured hthere hdata'

end Undone

end Chain

end StakingGateway
