import StakingGateway.Proofs.Reference.Exchanges

/-!
# The Books of the Reference Module

Tokens are in balances, with validators, or on their way back, and each validator has a number of
shares that accounts hold. The books of a store are in order (`Books`) if all of that adds up: the
validators are exact, accounts hold whole shares, the shares that accounts hold of a validator are
those that it has issued, and the tokens of all records are the supply.

A transition of the reference module is made of a few moves: taking from a balance, bonding,
unbonding, and writing down what is on its way. Each of them leaves the books in order, and moves
the supply by exactly the amount that it takes in or gives out. That an unbonding gives out what it
was asked for is part of it.

## Main definitions

* `Record.tokens`, `Record.sharesOf`: what a record accounts for.
* `Reference.issued`, `Reference.unbondingEntries`: the shares that a validator has issued, and what
  is on its way back from it to an account.
* `Books`: the books of a store are in order, with a supply.

## Main statements

* `Books.debit`, `Books.restake`: the moves of tokens.
* `Books.keep_unbonding`, `Books.forget_unbonding`: what is on its way back.
* `Books.isExact`, `Books.held_le`: what the books say of validators and holdings.
-/

namespace StakingGateway

namespace Reference

namespace Record

/-- The record is in order by itself. -/
def IsSound : Record → Prop
  | .validator v => v.IsExact
  | .holding _ _ h => shareUnit.toNat ∣ h.shares.toNat
  | _ => True

/-- The tokens that are on their way back with the entries. -/
def pending (entries : List UnbondingEntry) : Nat :=
  (entries.map fun entry => entry.balance.toNat).sum

/-- The tokens that the record accounts for. -/
def tokens : Record → Nat
  | .balance _ amount => amount.toNat
  | .validator v => v.tokens.toNat
  | .unbonding u => pending u.entries
  | _ => 0

/-- The shares of the validator that the record accounts for. -/
def sharesOf (operator : String) : Record → Nat
  | .holding _ name h => if name = operator then h.shares.toNat else 0
  | _ => 0

end Record

/-- The shares that the validator has issued; there are none of one that is not there. -/
def issued (store : Store) (operator : String) : Nat :=
  (store.record? (Key.validator operator)).elim 0 fun v : Validator => v.delegatorShares.toNat

/-- What is on its way back from the validator to the account. -/
def unbondingEntries (store : Store) (delegator : Address) (operator : String) :
    List UnbondingEntry :=
  (store.record? (Key.unbonding delegator operator)).elim [] UnbondingDelegation.entries

/-- The books of the store are in order, and the supply is that of all tokens. -/
structure Books (store : Store) (supply : Nat) : Prop where
  /-- Each record is in order. -/
  sound : store.ForallRecords Record.IsSound
  /-- The records account for the supply. -/
  supply : store.tally Record.tokens = supply
  /-- Accounts hold the shares that have been issued. -/
  shares (operator : String) : store.tally (Record.sharesOf operator) = issued store operator

variable {store : Store} {P : Record → Prop}

/-! ### Sums after one change -/

/-- A key under which there can be no record with an amount accounts for nothing. -/
theorem amountAt_eq_zero (h : store.ForallRecords P) {amount : Record → Nat} {key : Bytes}
    (hzero : ∀ record : Record, P record → record.key = key → amount record = 0) :
    store.amountAt amount key = 0 := by
  cases hget : ByteMap.get? store key with
  | none => exact Store.amountAt_of_none hget
  | some octets =>
      obtain ⟨record, hrecord, rfl, rfl⟩ := h _ _ hget
      rw [Store.amountAt_of_keeps hget, hzero record hrecord rfl]

/-- A record without an amount, in a place for such records, does not change a sum. -/
theorem tally_keep_of_eq_zero (h : store.ForallRecords P) {amount : Record → Nat}
    {record : Record}
    (hzero : ∀ other : Record, other.kind = record.kind → amount other = 0) :
    (store.keep record).tally amount = store.tally amount := by
  have htally := store.tally_keep amount record
  have hnothing : store.amountAt amount record.key = 0 :=
    amountAt_eq_zero h fun other _ hkey => hzero other (Record.kind_eq_of_key_eq hkey)
  rwa [hnothing, hzero record rfl, Nat.add_zero, Nat.add_zero] at htally

/-- Neither does deleting a key for such records. -/
theorem tally_forget_of_eq_zero (h : store.ForallRecords P) {amount : Record → Nat}
    {record : Record}
    (hzero : ∀ other : Record, other.kind = record.kind → amount other = 0) :
    (store.forget record.key).tally amount = store.tally amount := by
  have htally := store.tally_forget amount record.key
  have hnothing : store.amountAt amount record.key = 0 :=
    amountAt_eq_zero h fun other _ hkey => hzero other (Record.kind_eq_of_key_eq hkey)
  rwa [hnothing, Nat.add_zero] at htally

/-! ### What keys account for -/

/-- Records that are no holdings account for no shares. -/
theorem sharesOf_eq_zero {operator : String} {record : Record} (h : record.kind ≠ .delegation) :
    record.sharesOf operator = 0 := by
  cases record with
  | holding => exact absurd rfl h
  | balance | validator | unbonding | redelegations => rfl

/-- The part of the supply that the key of a balance accounts for is the balance. -/
theorem amountAt_balance (h : store.ForallRecords P) (account : Address) :
    store.amountAt Record.tokens (Key.balance account) = (balance store account).toNat := by
  cases hget : ByteMap.get? store (Key.balance account) with
  | none => rw [Store.amountAt_of_none hget, balance_eq_of_none hget, Uint256.toNat_zero]
  | some octets =>
      obtain ⟨record, -, hkey, rfl⟩ := h _ _ hget
      obtain ⟨amount, rfl⟩ := exists_eq_balance hkey
      have hkeeps : store.Keeps (.balance account amount) := hget
      rw [balance_eq_of_keeps hkeeps]
      exact Store.amountAt_of_keeps hkeeps

/-- What is under the key of an unbonding is about the account and the validator of the key. -/
theorem eq_of_record?_unbonding (h : store.ForallRecords P) {delegator : Address}
    {operator : String} {u : UnbondingDelegation}
    (hu : store.record? (Key.unbonding delegator operator) = some u) :
    u = ⟨delegator, operator, unbondingEntries store delegator operator⟩ := by
  obtain ⟨hkey, -⟩ := ((isSlot_unbonding delegator operator).record?_eq_some_iff h).mp hu
  obtain ⟨hdelegator, hoperator⟩ := Key.unbonding_inj.mp hkey
  rw [unbondingEntries, hu, Option.elim_some, ← hdelegator, ← hoperator]

/-- The part of the supply that the key of an unbonding accounts for is what is on its way. -/
theorem amountAt_unbonding (h : store.ForallRecords P) (delegator : Address) (operator : String) :
    store.amountAt Record.tokens (Key.unbonding delegator operator) =
      Record.pending (unbondingEntries store delegator operator) := by
  rw [(isSlot_unbonding delegator operator).amountAt_eq h, unbondingEntries]
  cases (store.record? (Key.unbonding delegator operator) : Option UnbondingDelegation) with
  | none => rfl
  | some u => rfl

/-- The shares that the key of a holding accounts for are those that the account holds. -/
theorem amountAt_holding (h : store.ForallRecords P) (delegator : Address)
    (name operator : String) :
    store.amountAt (Record.sharesOf operator) (Key.delegation delegator name) =
      if name = operator then held store delegator name else 0 := by
  rw [(isSlot_holding delegator name).amountAt_eq h, held]
  cases (store.record? (Key.delegation delegator name) : Option Holding) with
  | none => rw [Option.elim_none, Option.elim_none, ite_self]
  | some holding => rfl

/-! ### Moves -/

namespace Books

variable {supply : Nat}

/-- A record that is neither a validator nor a holding comes into the supply. -/
theorem keep_aside (h : Books store supply) (record : Record) (hsound : record.IsSound)
    (hvalidator : record.kind ≠ .validator) (hholding : record.kind ≠ .delegation) {after : Nat}
    (hsupply : after + store.amountAt Record.tokens record.key = supply + record.tokens) :
    Books (store.keep record) after where
  sound := h.sound.keep hsound
  supply := by
    have htally := store.tally_keep Record.tokens record
    have hbefore := h.supply
    omega
  shares operator := by
    have hnone : ∀ other : Record, other.kind = record.kind → other.sharesOf operator = 0 :=
      fun other hkind => sharesOf_eq_zero (hkind ▸ hholding)
    rw [tally_keep_of_eq_zero h.sound hnone, h.shares, issued, issued,
      record?_validator_keep hvalidator]

/-- What is under the key of such a record goes out of the supply when it is deleted. -/
theorem forget_aside (h : Books store supply) (record : Record)
    (hvalidator : record.kind ≠ .validator) (hholding : record.kind ≠ .delegation) {after : Nat}
    (hsupply : after + store.amountAt Record.tokens record.key = supply) :
    Books (store.forget record.key) after where
  sound := h.sound.forget _
  supply := by
    have htally := store.tally_forget Record.tokens record.key
    have hbefore := h.supply
    omega
  shares operator := by
    have hnone : ∀ other : Record, other.kind = record.kind → other.sharesOf operator = 0 :=
      fun other hkind => sharesOf_eq_zero (hkind ▸ hholding)
    rw [tally_forget_of_eq_zero h.sound hnone, h.shares, issued, issued,
      record?_validator_forget hvalidator]

/-- **Taking from a balance** takes the amount out of the supply. -/
theorem debit (h : Books store supply) {account : Address} {amount left : Uint256}
    (hleft : (balance store account).sub? amount = some left) :
    ∃ rest, supply = rest + amount.toNat ∧ Books (store.keep (.balance account left)) rest := by
  have hvalue := Uint256.sub?_eq_some_iff.mp hleft
  have hbalance := amountAt_balance h.sound account
  have hbefore := store.tally_keep Record.tokens (.balance account left)
  have hsupply := h.supply
  dsimp only [Record.key, Record.tokens] at hbefore
  refine ⟨supply - amount.toNat, by omega, ?_⟩
  refine h.keep_aside (.balance account left) trivial nofun nofun ?_
  dsimp only [Record.key, Record.tokens]
  omega

/-- The entries of an unbonding can be changed. -/
theorem keep_unbonding (h : Books store supply) (delegator : Address) (operator : String)
    {entries : List UnbondingEntry} {after : Nat}
    (hsupply : after + Record.pending (unbondingEntries store delegator operator) =
      supply + Record.pending entries) :
    Books (store.keep (.unbonding ⟨delegator, operator, entries⟩)) after := by
  refine h.keep_aside (.unbonding ⟨delegator, operator, entries⟩) trivial nofun nofun ?_
  rw [← amountAt_unbonding h.sound] at hsupply
  exact hsupply

/-- Unbondings can be deleted. -/
theorem forget_unbonding (h : Books store supply) (delegator : Address) (operator : String)
    {after : Nat}
    (hsupply : after + Record.pending (unbondingEntries store delegator operator) = supply) :
    Books (store.forget (Key.unbonding delegator operator)) after := by
  refine h.forget_aside (.unbonding ⟨delegator, operator, []⟩) nofun nofun ?_
  rw [← amountAt_unbonding h.sound] at hsupply
  exact hsupply

/-- Redelegations account for nothing. -/
theorem keep_redelegations (h : Books store supply) (delegator : Address)
    (source destination : String) (entries : List Redelegation) :
    Books (store.keep (.redelegations delegator (pair source destination) entries)) supply := by
  refine h.keep_aside (.redelegations delegator (pair source destination) entries) trivial nofun
    nofun (congrArg (supply + ·) (amountAt_eq_zero h.sound fun record _ hkey => ?_))
  rw [key_redelegations] at hkey
  obtain ⟨found, rfl⟩ := (isSlot_redelegations delegator source destination).exists_eq record hkey
  rfl

/-- What is on its way is part of the supply. -/
theorem pending_le (h : Books store supply) (delegator : Address) (operator : String) :
    Record.pending (unbondingEntries store delegator operator) ≤ supply := by
  rw [← amountAt_unbonding h.sound, ← h.supply]
  exact store.amountAt_le_tally _ _

end Books

/-! ### Exchanges -/

/-- An exchange in which a validator is exact, and an account holds whole shares, leaves the books
in order if as many shares are issued as come into the hands of the account. -/
theorem Books.exchange {supply : Nat} (h : Books store supply) {after : Store} {v v' : Validator}
    {delegator : Address} {shares : Uint256} (hx : Exchange store after v v' delegator shares)
    (hexact : v'.IsExact) (hwhole : shareUnit.toNat ∣ shares.toNat) {rest : Nat}
    (hsupply : rest + v.tokens.toNat = supply + v'.tokens.toNat)
    (hshares : v'.delegatorShares.toNat + held store delegator v'.operator =
      v.delegatorShares.toNat + shares.toNat) : Books after rest where
  sound := hx.records _ h.sound hexact hwhole
  supply := by
    have hsum := hx.sums Record.tokens rfl
    have hnothing : store.amountAt Record.tokens (Key.delegation delegator v'.operator) = 0 := by
      refine amountAt_eq_zero h.sound fun record _ hkey => ?_
      obtain ⟨holding, rfl⟩ := (isSlot_holding delegator v'.operator).exists_eq record hkey
      rfl
    have hbefore := h.supply
    dsimp only [Record.tokens] at hsum
    omega
  shares operator := by
    have hsum := hx.sums (Record.sharesOf operator) (ite_self 0)
    have hbefore := h.shares operator
    rw [amountAt_holding h.sound] at hsum
    dsimp only [Record.sharesOf] at hsum
    rw [issued] at hbefore ⊢
    by_cases hname : v'.operator = operator
    · obtain rfl := hname
      rw [if_pos rfl, if_pos rfl] at hsum
      rw [hx.there, Option.elim_some] at hbefore
      rw [hx.kept, Option.elim_some]
      omega
    · rw [if_neg hname, if_neg hname] at hsum
      rw [hx.record?_validator (Ne.symm hname)]
      omega

namespace Books

variable {supply : Nat} {block : Block} {depth : Nat} {after : Store}

/-- **All validators are exact.** -/
theorem isExact (h : Books store supply) {operator : String} {v : Validator}
    (hv : store.record? (Key.validator operator) = some v) : v.operator = operator ∧ v.IsExact := by
  obtain ⟨hoperator, hkeeps⟩ := keeps_of_record?_validator h.sound hv
  exact ⟨hoperator, h.sound.of_keeps hkeeps⟩

/-- Accounts hold whole shares. -/
theorem dvd_held (h : Books store supply) (delegator : Address) (operator : String) :
    shareUnit.toNat ∣ held store delegator operator := by
  rw [held]
  cases hread : (store.record? (Key.delegation delegator operator) : Option Holding) with
  | none => exact Nat.dvd_zero _
  | some holding =>
      obtain ⟨-, hkeeps⟩ :=
        ((isSlot_holding delegator operator).record?_eq_some_iff h.sound).mp hread
      exact h.sound.of_keeps hkeeps

/-- No account holds more shares than have been issued. -/
theorem held_le (h : Books store supply) (delegator : Address) (operator : String) :
    held store delegator operator ≤ issued store operator := by
  have hle := store.amountAt_le_tally (Record.sharesOf operator) (Key.delegation delegator operator)
  rwa [amountAt_holding h.sound, if_pos rfl, h.shares] at hle

/-- **An exchange at the constant rate** leaves the books in order. What comes into the stake comes
into the supply, and what goes out of it goes out of the supply. -/
theorem restake (h : Books store supply) {account : Address} {v v' : Validator} {gain loss : Nat}
    {shares : Uint256} (hr : Restake store account v v' gain loss shares)
    (hx : Exchange store after v v' account shares) {rest : Nat}
    (hsupply : rest + loss = supply + gain) : Books after rest := by
  have hwhole := h.dvd_held account v.operator
  have htokens := hr.tokens
  have hshares := hr.shares
  refine h.exchange hx hr.exact ?_ (by omega) ?_
  · -- What the account holds, and what is issued and burnt, are whole shares.
    refine (Nat.dvd_add_left (Nat.dvd_mul_left _ loss)).mp ?_
    rw [hshares]
    exact Nat.dvd_add hwhole (Nat.dvd_mul_left _ _)
  · obtain ⟨-, hexact⟩ := h.isExact hr.there
    have hrate := congrArg (· * shareUnit.toNat) htokens
    rw [Nat.add_mul, Nat.add_mul, ← hexact, ← hr.exact] at hrate
    rw [hr.operator_eq]
    omega

/-- What is bonded to a validator is part of the supply. -/
theorem tokens_le (h : Books store supply) {operator : String} {v : Validator}
    (hv : store.record? (Key.validator operator) = some v) : v.tokens.toNat ≤ supply := by
  obtain ⟨-, hkeeps⟩ := keeps_of_record?_validator h.sound hv
  have hle := store.amountAt_le_tally Record.tokens (Record.validator v).key
  rwa [Store.amountAt_of_keeps hkeeps, h.supply, Record.tokens] at hle

end Books

end Reference

end StakingGateway
