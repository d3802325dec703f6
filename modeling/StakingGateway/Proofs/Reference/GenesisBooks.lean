import StakingGateway.Proofs.Reference.Books
import StakingGateway.Reference.Genesis

/-!
# The Books of a Genesis

A genesis lists balances, and setting one replaces the one that was set before. So of the balances
that are listed for one account, the last one stands, and the supply that a chain starts with is the
sum of those that stand (`Genesis.supply`). Where no account is listed twice, that is the sum of all
that are listed (`Genesis.supply_of_nodup`). Nothing is bonded to any validator, so the books of the
store that a genesis describes are in order (`Genesis.books`).

## Main definitions

* `Genesis.standing`, `Genesis.supply`: the balances that stand, and their sum.

## Main statements

* `Genesis.supply_of_nodup`: the supply where no account is listed twice.
* `Genesis.books`: a chain starts with its books in order.
-/

namespace StakingGateway

open Reference

namespace Genesis

/-- The balances that stand: of those that are listed for one account, the last one. -/
def standing : List GenesisBalance → List GenesisBalance
  | [] => []
  | listed :: later =>
    if listed.account ∈ later.map (·.account) then standing later else listed :: standing later

/-- The sum of the amounts. -/
def sumOf (balances : List GenesisBalance) : Nat :=
  (balances.map (·.amount.toNat)).sum

/-- The supply that a chain starts with. -/
def supply (genesis : Genesis) : Nat :=
  sumOf (standing genesis.balances)

/-- Where no account is listed twice, all balances stand. -/
theorem standing_of_nodup {balances : List GenesisBalance}
    (h : (balances.map (·.account)).Nodup) : standing balances = balances := by
  induction balances with
  | nil => rfl
  | cons listed later ih =>
      rw [List.map_cons, List.nodup_cons] at h
      rw [standing, if_neg h.1, ih h.2]

/-- **Where no account is listed twice, the supply is the sum of all balances.** -/
theorem supply_of_nodup {genesis : Genesis} (h : (genesis.balances.map (·.account)).Nodup) :
    genesis.supply = sumOf genesis.balances := by
  rw [supply, standing_of_nodup h]

/-! ### Setting balances -/

/-- The store with the balances set one after the other. -/
def fund (balances : List GenesisBalance) (store : Store) : Store :=
  balances.foldl (fun store balance =>
    setBalance store balance.account (.ofUInt64 balance.amount)) store

/-- A balance that is set again later might as well not have been set. -/
theorem fund_setBalance {balances : List GenesisBalance} {account : Address}
    (h : account ∈ balances.map (·.account)) (store : Store) (amount : Uint256) :
    fund balances (setBalance store account amount) = fund balances store := by
  induction balances generalizing store with
  | nil => cases h
  | cons listed later ih =>
      rw [fund, List.foldl_cons, fund, List.foldl_cons, ← fund, ← fund]
      by_cases hsame : account = listed.account
      · rw [hsame, setBalance, setBalance, setBalance, ByteMap.insert_insert]
      · have hkey : Key.balance account ≠ Key.balance listed.account :=
          fun hkey => hsame (Key.balance_inj.mp hkey)
        have hlater : account ∈ later.map (·.account) :=
          (List.mem_cons.mp h).resolve_left hsame
        rw [setBalance, setBalance, ByteMap.insert_comm _ hkey]
        exact ih hlater (setBalance store listed.account (.ofUInt64 listed.amount))

/-- **Accounts without a balance come to have the balances that stand.** -/
theorem tally_fund {balances : List GenesisBalance} {store : Store}
    (h : ∀ listed ∈ balances, store.amountAt Record.tokens (Key.balance listed.account) = 0) :
    (fund balances store).tally Record.tokens =
      store.tally Record.tokens + sumOf (standing balances) := by
  induction balances generalizing store with
  | nil => rfl
  | cons listed later ih =>
      have hlater : ∀ other ∈ later,
          store.amountAt Record.tokens (Key.balance other.account) = 0 :=
        fun other hmem => h other (List.mem_cons_of_mem _ hmem)
      have hstep : fund (listed :: later) store =
        fund later (setBalance store listed.account (.ofUInt64 listed.amount)) := rfl
      by_cases hlisted : listed.account ∈ later.map (·.account)
      · rw [hstep, fund_setBalance hlisted, standing, if_pos hlisted, ih hlater]
      · let record : Record := .balance listed.account (.ofUInt64 listed.amount)
        have hnothing : store.amountAt Record.tokens record.key = 0 :=
          h listed List.mem_cons_self
        have htally := store.tally_keep Record.tokens record
        have hothers : ∀ other ∈ later,
            (store.keep record).amountAt Record.tokens (Key.balance other.account) = 0 := by
          intro other hmem
          have hne : Key.balance other.account ≠ record.key := fun hkey =>
            hlisted (List.mem_map.mpr ⟨other, hmem, Key.balance_inj.mp hkey⟩)
          rw [Store.amountAt_keep_of_ne hne, hlater other hmem]
        have hrest : (fund later (store.keep record)).tally Record.tokens = _ := ih hothers
        rw [hnothing, Nat.add_zero] at htally
        rw [hstep, standing, if_neg hlisted, sumOf, List.map_cons, List.sum_cons, ← sumOf,
          ← Nat.add_assoc]
        exact hrest.trans (congrArg (· + sumOf (standing later)) htally)

end Genesis

/-! ### Books -/

/-- The record is one that a chain can start with. -/
def Reference.Record.IsFresh : Record → Prop
  | .balance _ _ => True
  | .validator v => v.tokens = 0 ∧ v.delegatorShares = 0
  | _ => False

variable {store : Store}

/-- A store of records without an amount has none. -/
theorem Store.tally_eq_zero {P : Record → Prop} (h : store.ForallRecords P) {amount : Record → Nat}
    (hzero : ∀ record, P record → amount record = 0) : store.tally amount = 0 := by
  rw [Store.tally, ByteMap.total]
  refine List.sum_eq_zero fun n hmem => ?_
  obtain ⟨⟨key, octets⟩, hentry, rfl⟩ := List.mem_map.mp hmem
  obtain ⟨record, hrecord, rfl, rfl⟩ := h key octets (ByteMap.get?_eq_some_iff.mpr hentry)
  dsimp only
  rw [Record.read?_key_octets, Option.elim_some, hzero record hrecord]

/-- **A store that a chain can start with has its books in order.** -/
theorem Reference.Books.of_isFresh (h : store.ForallRecords Record.IsFresh) :
    Books store (store.tally Record.tokens) where
  sound := by
    refine h.mono fun record hfresh => ?_
    cases record with
    | balance account amount => exact trivial
    | validator v =>
        obtain ⟨htokens, hshares⟩ := hfresh
        change v.delegatorShares.toNat = v.tokens.toNat * shareUnit.toNat
        rw [hshares, htokens, Uint256.toNat_zero, Nat.zero_mul]
    | holding | unbonding | redelegations => cases hfresh
  supply := rfl
  shares operator := by
    have hnothing : store.tally (Record.sharesOf operator) = 0 := by
      refine Store.tally_eq_zero h fun record hfresh => ?_
      cases record with
      | balance | validator => rfl
      | holding | unbonding | redelegations => cases hfresh
    rw [hnothing, issued]
    cases hread : (store.record? (Key.validator operator) : Option Validator) with
    | none => rfl
    | some v =>
        obtain ⟨-, hkeeps⟩ := keeps_of_record?_validator h hread
        obtain ⟨-, hshares⟩ : v.tokens = 0 ∧ v.delegatorShares = 0 := h.of_keeps hkeeps
        rw [Option.elim_some, hshares, Uint256.toNat_zero]

namespace Genesis

/-- Setting balances leaves a store that a chain can start with. -/
theorem isFresh_fund (balances : List GenesisBalance) (h : store.ForallRecords Record.IsFresh) :
    (fund balances store).ForallRecords Record.IsFresh := by
  induction balances generalizing store with
  | nil => exact h
  | cons listed later ih =>
      have hrecord : (Record.balance listed.account (.ofUInt64 listed.amount)).IsFresh := trivial
      exact ih (h.keep hrecord)

/-- So does setting up validators, and that brings in no tokens. -/
theorem isFresh_foldl_addValidator (validators : List GenesisValidator)
    (h : store.ForallRecords Record.IsFresh) :
    let after := validators.foldl (fun store validator =>
      addValidator store validator.operator validator.moniker) store
    after.ForallRecords Record.IsFresh ∧ after.tally Record.tokens = store.tally Record.tokens := by
  induction validators generalizing store with
  | nil => exact ⟨h, rfl⟩
  | cons listed later ih =>
      let record : Record := .validator (newValidator listed.operator listed.moniker)
      have hrecord : record.IsFresh := ⟨rfl, rfl⟩
      obtain ⟨hfresh, htally⟩ := ih (h.keep hrecord)
      have hnothing : store.amountAt Record.tokens record.key = 0 := by
        refine amountAt_eq_zero h fun other hother hkey => ?_
        obtain ⟨v, rfl⟩ := (isSlot_validator listed.operator).exists_eq other hkey
        exact congrArg Uint256.toNat hother.1
      have hkeep := store.tally_keep Record.tokens record
      rw [hnothing] at hkeep
      exact ⟨hfresh, htally.trans hkeep⟩

/-- The store of a genesis is one that a chain can start with, and setting up validators has brought
in no tokens. -/
theorem isFresh_store (genesis : Genesis) :
    genesis.store.ForallRecords Record.IsFresh ∧
      genesis.store.tally Record.tokens = (fund genesis.balances ∅).tally Record.tokens := by
  have hempty : (∅ : Store).ForallRecords Record.IsFresh := fun _ _ hget => nomatch hget
  exact isFresh_foldl_addValidator genesis.validators (isFresh_fund genesis.balances hempty)

/-- **A chain starts with its books in order.** -/
theorem books (genesis : Genesis) : Books genesis.store genesis.supply := by
  obtain ⟨hfresh, htally⟩ := genesis.isFresh_store
  have hfunded : (fund genesis.balances ∅).tally Record.tokens = genesis.supply := by
    rw [tally_fund fun _ _ => rfl, supply]
    exact Nat.zero_add _
  rw [← hfunded, ← htally]
  exact Books.of_isFresh hfresh

end Genesis

end StakingGateway
