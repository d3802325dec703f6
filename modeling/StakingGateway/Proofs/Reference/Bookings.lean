import StakingGateway.Proofs.Reference.Books

/-!
# Bookings

What a message does to a store can be put down as a short list of bookings (`Booking`): a balance is
set, tokens are bonded or unbonded, and it is noted what is on its way and what has been moved. The
bookings of an account change a store (`Changes`) in a way that nobody else has a say in. The
records of the account become what they become whatever the others have bonded
(`Changes.congr_own`); and all that happens to a validator is that tokens are added and taken away
(`Changes.validator`), so the order in which accounts book does not matter to it.

## Main definitions

* `Booking`, `Booking.gain`, `Booking.loss`: the bookings, and the tokens that they add to a
  validator and take from it.
* `Booking.Changes`, `Changes`: what one booking does to a store, and what several do.
* `Booking.MayKeep`: the records that a booking may keep.
* `Validator.Shifted`: a validator to which tokens have been added and from which some were taken.

## Main statements

* `Changes.congr_own`: what becomes of the records of the account.
* `Changes.validator`: what becomes of the validators.
* `Changes.forallRecords`: what goes on to hold of all records.
* `Books.of_bond`, `Books.of_unbond`, `Books.of_unbonding`: what becomes of the supply.
-/

namespace StakingGateway

open Reference

/-- The store in which the entries are on their way back from the validator to the account; an
unbonding without entries is not kept. -/
def Store.setUnbonding (store : Store) (delegator : Address) (operator : String)
    (entries : List UnbondingEntry) : Store :=
  if entries = [] then store.forget (Key.unbonding delegator operator)
  else store.keep (.unbonding ⟨delegator, operator, entries⟩)

/-- The one validator is the other with tokens added and tokens taken away. -/
structure Validator.Shifted (gain loss : Nat) (v v' : Validator) : Prop where
  /-- All else is the same. -/
  profile : v'.profile = v.profile
  /-- The tokens are what they come to. -/
  tokens : v'.tokens.toNat + loss = v.tokens.toNat + gain

namespace Reference

/-! ### Bookings -/

/-- What is booked for an account. -/
inductive Booking where
  /-- Its balance is the amount. -/
  | balance (amount : Uint256)
  /-- The entries are on their way back to it from the validator. -/
  | unbonding (operator : String) (entries : List UnbondingEntry)
  /-- The entries have been moved from the one validator to the other. -/
  | redelegations (source destination : String) (entries : List Redelegation)
  /-- Tokens are bonded to the validator. -/
  | bond (operator : String) (tokens : Uint256)
  /-- Tokens are unbonded from the validator. -/
  | unbond (operator : String) (tokens : Uint256)

namespace Booking

/-- The tokens that the booking adds to the validator. -/
def gain (operator : String) : Booking → Nat
  | .bond name tokens => if name = operator then tokens.toNat else 0
  | _ => 0

/-- The tokens that the booking takes from the validator. -/
def loss (operator : String) : Booking → Nat
  | .unbond name tokens => if name = operator then tokens.toNat else 0
  | _ => 0

/-- The booking changes the store into the other. Bonding keeps the validator and then the holding,
unbonding does it the other way round and keeps no holding of nothing. -/
def Changes (account : Address) : Booking → Store → Store → Prop
  | .balance amount, store, after => after = store.keep (.balance account amount)
  | .unbonding operator entries, store, after =>
    after = store.setUnbonding account operator entries
  | .redelegations source destination entries, store, after =>
    after = store.keep (.redelegations account (pair source destination) entries)
  | .bond operator tokens, store, after => ∃ v v' shares, v.operator = operator ∧
    Restake store account v v' tokens.toNat 0 shares ∧
    after = (store.keep (.validator v')).keep (.holding account v.operator ⟨shares⟩)
  | .unbond operator tokens, store, after => ∃ v v' shares, v.operator = operator ∧
    Restake store account v v' 0 tokens.toNat shares ∧
    after = (store.setHolding account v.operator shares).keep (.validator v')

end Booking

/-- The bookings change the store into the other, one after the other. -/
def Changes (account : Address) : List Booking → Store → Store → Prop
  | [], store, after => after = store
  | booking :: bookings, store, after =>
    ∃ middle, booking.Changes account store middle ∧ Changes account bookings middle after

/-- The tokens that the bookings add to the validator. -/
def gains (operator : String) (bookings : List Booking) : Nat :=
  (bookings.map (Booking.gain operator)).sum

/-- The tokens that the bookings take from the validator. -/
def losses (operator : String) (bookings : List Booking) : Nat :=
  (bookings.map (Booking.loss operator)).sum

/-! ### Changes of stores that agree under a key -/

section Congruence

variable {one other : Store} {key : Bytes}

/-- Keeping a record does not make stores differ under a key. -/
theorem get?_keep_congr (h : ByteMap.get? one key = ByteMap.get? other key) (record : Record) :
    ByteMap.get? (one.keep record) key = ByteMap.get? (other.keep record) key := by
  rw [Store.keep, Store.keep, ByteMap.get?_insert, ByteMap.get?_insert, h]

/-- Neither does deleting a key. -/
theorem get?_forget_congr (h : ByteMap.get? one key = ByteMap.get? other key) (gone : Bytes) :
    ByteMap.get? (one.forget gone) key = ByteMap.get? (other.forget gone) key := by
  rw [Store.forget, Store.forget, ByteMap.get?_erase, ByteMap.get?_erase, h]

/-- Neither does setting a holding. -/
theorem get?_setHolding_congr (h : ByteMap.get? one key = ByteMap.get? other key)
    (account : Address) (operator : String) (shares : Uint256) :
    ByteMap.get? (one.setHolding account operator shares) key =
      ByteMap.get? (other.setHolding account operator shares) key := by
  rw [Store.setHolding, Store.setHolding]
  split
  · exact get?_forget_congr h _
  · exact get?_keep_congr h _

/-- Neither does setting an unbonding. -/
theorem get?_setUnbonding_congr (h : ByteMap.get? one key = ByteMap.get? other key)
    (account : Address) (operator : String) (entries : List UnbondingEntry) :
    ByteMap.get? (one.setUnbonding account operator entries) key =
      ByteMap.get? (other.setUnbonding account operator entries) key := by
  rw [Store.setUnbonding, Store.setUnbonding]
  split
  · exact get?_forget_congr h _
  · exact get?_keep_congr h _

/-- What is under a key is read alike where it is alike. -/
theorem record?_congr {α : Type} [Json.Codec α]
    (h : ByteMap.get? one key = ByteMap.get? other key) :
    (one.record? key : Option α) = other.record? key := by
  rw [Store.record?, Store.record?, h]

end Congruence

/-! ### Records of the account -/

section Own

variable {account : Address} {one other one' other' : Store}

/-- The records of the account are the same in both stores. -/
def AgreeOn (account : Address) (one other : Store) : Prop :=
  ∀ key, Key.IsOwn account key → ByteMap.get? one key = ByteMap.get? other key

/-- Validators are no records of an account. -/
theorem get?_keep_validator_of_isOwn {key : Bytes} (h : Key.IsOwn account key) (store : Store)
    (v : Validator) : ByteMap.get? (store.keep (.validator v)) key = ByteMap.get? store key :=
  (ByteMap.get?_insert ..).trans (if_neg (h.ne_validator v.operator))

/-- What the account holds is the same where its records are. -/
theorem AgreeOn.held_eq (h : AgreeOn account one other) (operator : String) :
    held one account operator = held other account operator := by
  rw [held, held, record?_congr (h _ (.delegation operator))]

/-- Shares of an exchange are determined by what the account holds and the tokens. -/
theorem Restake.shares_eq {v v' w w' : Validator} {gain loss : Nat} {shares shares' : Uint256}
    (hone : Restake one account v v' gain loss shares)
    (hother : Restake other account w w' gain loss shares') (hoperator : v.operator = w.operator)
    (h : AgreeOn account one other) : shares = shares' := by
  refine Uint256.ext (Nat.add_right_cancel (m := loss * shareUnit.toNat) ?_)
  rw [hone.shares, hother.shares, hoperator, h.held_eq]

/-- **What a booking makes of the records of the account** is determined by them. -/
theorem Booking.Changes.congr_own {booking : Booking} (hone : booking.Changes account one one')
    (hother : booking.Changes account other other') (h : AgreeOn account one other) :
    AgreeOn account one' other' := by
  intro key hkey
  cases booking with
  | balance amount =>
      obtain rfl := hone
      obtain rfl := hother
      exact get?_keep_congr (h key hkey) _
  | unbonding operator entries =>
      obtain rfl := hone
      obtain rfl := hother
      exact get?_setUnbonding_congr (h key hkey) ..
  | redelegations source destination entries =>
      obtain rfl := hone
      obtain rfl := hother
      exact get?_keep_congr (h key hkey) _
  | bond operator tokens =>
      obtain ⟨v, v', shares, rfl, hr, rfl⟩ := hone
      obtain ⟨w, w', shares', hoperator, hr', rfl⟩ := hother
      obtain rfl := hr.shares_eq hr' hoperator.symm h
      rw [hoperator]
      refine get?_keep_congr ?_ _
      rw [get?_keep_validator_of_isOwn hkey, get?_keep_validator_of_isOwn hkey, h key hkey]
  | unbond operator tokens =>
      obtain ⟨v, v', shares, rfl, hr, rfl⟩ := hone
      obtain ⟨w, w', shares', hoperator, hr', rfl⟩ := hother
      obtain rfl := hr.shares_eq hr' hoperator.symm h
      rw [hoperator, get?_keep_validator_of_isOwn hkey, get?_keep_validator_of_isOwn hkey]
      exact get?_setHolding_congr (h key hkey) ..

/-- **What bookings make of the records of the account** is determined by them. -/
theorem Changes.congr_own {bookings : List Booking} (hone : Changes account bookings one one')
    (hother : Changes account bookings other other') (h : AgreeOn account one other) :
    AgreeOn account one' other' := by
  induction bookings generalizing one other with
  | nil =>
      obtain rfl := hone
      obtain rfl := hother
      exact h
  | cons booking bookings ih =>
      obtain ⟨middle, hfirst, hrest⟩ := hone
      obtain ⟨middle', hfirst', hrest'⟩ := hother
      exact ih hrest hrest' (hfirst.congr_own hfirst' h)

end Own

/-! ### Validators -/

section Validators

variable {account : Address} {store after : Store}

/-- A validator that is left alone is shifted by nothing. -/
theorem rel_shifted_zero (found : Option Validator) :
    Option.Rel (Validator.Shifted 0 0) found found := by
  cases found with
  | none => exact .none
  | some v => exact .some ⟨rfl, rfl⟩

/-- Shifts add up. -/
theorem rel_shifted_trans {gain loss gain' loss' : Nat} {x y z : Option Validator}
    (h : Option.Rel (Validator.Shifted gain loss) x y)
    (h' : Option.Rel (Validator.Shifted gain' loss') y z) :
    Option.Rel (Validator.Shifted (gain + gain') (loss + loss')) x z := by
  cases h with
  | none =>
      cases h'
      exact .none
  | some hv =>
      cases h' with
      | some hw =>
          have hfirst := hv.tokens
          have hsecond := hw.tokens
          exact .some ⟨hw.profile.trans hv.profile, by omega⟩

/-- Setting a holding leaves the validators. -/
theorem record?_validator_setHolding (store : Store) (account : Address) (name : String)
    (shares : Uint256) (operator : String) :
    ((store.setHolding account name shares).record? (Key.validator operator) : Option Validator) =
      store.record? (Key.validator operator) := by
  have hkind : (Record.holding account name ⟨shares⟩).kind ≠ .validator := nofun
  exact record?_congr (get?_setHolding_of_ne (validator_ne_key hkind operator) store shares)

/-- Setting an unbonding leaves the validators. -/
theorem record?_validator_setUnbonding (store : Store) (account : Address) (name : String)
    (entries : List UnbondingEntry) (operator : String) :
    ((store.setUnbonding account name entries).record? (Key.validator operator) :
      Option Validator) = store.record? (Key.validator operator) := by
  have hkind : (Record.unbonding ⟨account, name, entries⟩).kind ≠ .validator := nofun
  rw [Store.setUnbonding]
  split
  · exact record?_validator_forget hkind operator
  · exact record?_validator_keep hkind operator

/-- A validator that is kept after an exchange is the one before, shifted; the others are left
alone. -/
theorem Restake.rel_shifted {v v' : Validator} {gain loss : Nat} {shares : Uint256}
    (hr : Restake store account v v' gain loss shares) {middle : Store}
    (hmiddle : ∀ operator, (middle.record? (Key.validator operator) : Option Validator) =
      store.record? (Key.validator operator)) (operator : String) :
    Option.Rel (Validator.Shifted (if v.operator = operator then gain else 0)
        (if v.operator = operator then loss else 0))
      (store.record? (Key.validator operator))
      ((middle.keep (.validator v')).record? (Key.validator operator)) := by
  by_cases hname : v.operator = operator
  · obtain rfl := hname
    have hkept : (middle.keep (.validator v')).record? (Key.validator v.operator) = some v' := by
      rw [← hr.operator_eq]
      exact record?_keep_self rfl middle
    rw [if_pos rfl, if_pos rfl, hr.there, hkept]
    exact .some ⟨hr.profile, hr.tokens⟩
  · have hkey : Key.validator operator ≠ (Record.validator v').key := fun hkey =>
      hname (hr.operator_eq.symm.trans (Key.validator_inj.mp hkey).symm)
    rw [if_neg hname, if_neg hname, record?_keep_of_ne hkey, hmiddle]
    exact rel_shifted_zero _

/-- **A booking adds tokens to validators and takes some from them**, and that is all. -/
theorem Booking.Changes.validator {booking : Booking} (h : booking.Changes account store after)
    (operator : String) :
    Option.Rel (Validator.Shifted (booking.gain operator) (booking.loss operator))
      (store.record? (Key.validator operator)) (after.record? (Key.validator operator)) := by
  cases booking with
  | balance amount =>
      have hkind : (Record.balance account amount).kind ≠ .validator := nofun
      obtain rfl := h
      rw [record?_validator_keep hkind]
      exact rel_shifted_zero _
  | unbonding name entries =>
      obtain rfl := h
      rw [record?_validator_setUnbonding]
      exact rel_shifted_zero _
  | redelegations source destination entries =>
      have hkind : (Record.redelegations account (pair source destination) entries).kind ≠
        .validator := nofun
      obtain rfl := h
      rw [record?_validator_keep hkind]
      exact rel_shifted_zero _
  | bond name tokens =>
      obtain ⟨v, v', shares, rfl, hr, rfl⟩ := h
      have hkind : (Record.holding account v.operator ⟨shares⟩).kind ≠ .validator := nofun
      have hrel := hr.rel_shifted (fun _ => rfl) operator
      rw [ite_self] at hrel
      rw [record?_validator_keep hkind]
      exact hrel
  | unbond name tokens =>
      obtain ⟨v, v', shares, rfl, hr, rfl⟩ := h
      have hrel := hr.rel_shifted
        (record?_validator_setHolding store account v.operator shares) operator
      rw [ite_self] at hrel
      exact hrel

/-- **Bookings add tokens to validators and take some from them**, and that is all. -/
theorem Changes.validator {bookings : List Booking} (h : Changes account bookings store after)
    (operator : String) :
    Option.Rel (Validator.Shifted (gains operator bookings) (losses operator bookings))
      (store.record? (Key.validator operator)) (after.record? (Key.validator operator)) := by
  induction bookings generalizing store with
  | nil =>
      obtain rfl := h
      exact rel_shifted_zero _
  | cons booking bookings ih =>
      obtain ⟨middle, hfirst, hrest⟩ := h
      exact rel_shifted_trans (hfirst.validator operator) (ih hrest)

/-- A validator that is there is there afterwards, with tokens added and taken away. -/
theorem Changes.exists_validator {bookings : List Booking}
    (h : Changes account bookings store after) {operator : String} {v : Validator}
    (hv : store.record? (Key.validator operator) = some v) :
    ∃ v', after.record? (Key.validator operator) = some v' ∧
      v.Shifted (gains operator bookings) (losses operator bookings) v' := by
  have hrel := h.validator operator
  rw [hv] at hrel
  generalize (after.record? (Key.validator operator) : Option Validator) = found at hrel
  cases hrel with
  | some hshifted => exact ⟨_, rfl, hshifted⟩

end Validators

/-! ### All else -/

section Frame

variable {account : Address} {operator : String} {tokens : Uint256} {store after : Store}
  {key : Bytes}

/-- Bonding changes a validator and a holding. -/
theorem get?_of_bond (h : (Booking.bond operator tokens).Changes account store after)
    (hvalidator : key ≠ Key.validator operator) (hholding : key ≠ Key.delegation account operator) :
    ByteMap.get? after key = ByteMap.get? store key := by
  obtain ⟨v, v', shares, rfl, hr, rfl⟩ := h
  rw [← hr.operator_eq] at hvalidator
  refine (ByteMap.get?_insert ..).trans ((if_neg hholding).trans ?_)
  exact (ByteMap.get?_insert ..).trans (if_neg hvalidator)

/-- So does unbonding. -/
theorem get?_of_unbond (h : (Booking.unbond operator tokens).Changes account store after)
    (hvalidator : key ≠ Key.validator operator) (hholding : key ≠ Key.delegation account operator) :
    ByteMap.get? after key = ByteMap.get? store key := by
  obtain ⟨v, v', shares, rfl, hr, rfl⟩ := h
  rw [← hr.operator_eq] at hvalidator
  refine (ByteMap.get?_insert ..).trans ((if_neg hvalidator).trans ?_)
  exact get?_setHolding_of_ne hholding store shares

/-- Setting an unbonding changes what is under its key. -/
theorem get?_setUnbonding_of_ne (h : key ≠ Key.unbonding account operator) (store : Store)
    (entries : List UnbondingEntry) :
    ByteMap.get? (store.setUnbonding account operator entries) key = ByteMap.get? store key := by
  rw [Store.setUnbonding]
  split
  · exact (ByteMap.get?_erase ..).trans (if_neg h)
  · exact (ByteMap.get?_insert ..).trans (if_neg h)

/-- An unbonding that has been set is kept, unless it has no entries. -/
theorem get?_setUnbonding_self (store : Store) (account : Address) (operator : String)
    (entries : List UnbondingEntry) :
    ByteMap.get? (store.setUnbonding account operator entries) (Key.unbonding account operator) =
      if entries = [] then none
      else some (Json.encode (⟨account, operator, entries⟩ : UnbondingDelegation)) := by
  rw [Store.setUnbonding]
  split
  · exact (ByteMap.get?_erase ..).trans (if_pos rfl)
  · exact (ByteMap.get?_insert ..).trans (if_pos rfl)

/-- It is read as what has been set. -/
theorem record?_setUnbonding_self (store : Store) (account : Address) (operator : String)
    (entries : List UnbondingEntry) :
    (store.setUnbonding account operator entries).record? (Key.unbonding account operator) =
      if entries = [] then none
      else some (⟨account, operator, entries⟩ : UnbondingDelegation) := by
  rw [Store.record?, get?_setUnbonding_self]
  split
  · rfl
  · rw [Option.bind_some, Json.decode?_encode]

/-- A balance has a key of its own. -/
theorem balance_ne_delegation (account other : Address) (operator : String) :
    Key.balance account ≠ Key.delegation other operator := by
  have hkind : (Record.balance account 0).kind ≠ (Record.holding other operator ⟨0⟩).kind := nofun
  exact Record.key_ne_of_kind_ne hkind

/-- What is on its way has a key of its own. -/
theorem unbonding_ne_delegation (account other : Address) (operator name : String) :
    Key.unbonding account operator ≠ Key.delegation other name := by
  have hkind : (Record.unbonding ⟨account, operator, []⟩).kind ≠
    (Record.holding other name ⟨0⟩).kind := nofun
  exact Record.key_ne_of_kind_ne hkind

/-- It is not that of a balance. -/
theorem unbonding_ne_balance (account other : Address) (operator : String) :
    Key.unbonding account operator ≠ Key.balance other := by
  have hkind : (Record.unbonding ⟨account, operator, []⟩).kind ≠ (Record.balance other 0).kind :=
    nofun
  exact Record.key_ne_of_kind_ne hkind

/-- What has been moved has a key of its own kind. -/
theorem redelegation_ne_key {record : Record} (h : record.kind ≠ .redelegation)
    (account : Address) (source destination : String) :
    Key.redelegation account source destination ≠ record.key := by
  rw [← key_redelegations account source destination []]
  exact Record.key_ne_of_kind_ne h.symm

/-- So it is not that of a balance, -/
theorem redelegation_ne_balance (account other : Address) (source destination : String) :
    Key.redelegation account source destination ≠ Key.balance other := by
  have hkind : (Record.balance other 0).kind ≠ .redelegation := nofun
  exact redelegation_ne_key hkind account source destination

/-- nor that of what is held, -/
theorem redelegation_ne_delegation (account other : Address) (source destination name : String) :
    Key.redelegation account source destination ≠ Key.delegation other name := by
  have hkind : (Record.holding other name ⟨0⟩).kind ≠ .redelegation := nofun
  exact redelegation_ne_key hkind account source destination

/-- nor that of what is on its way. -/
theorem redelegation_ne_unbonding (account other : Address) (source destination name : String) :
    Key.redelegation account source destination ≠ Key.unbonding other name := by
  have hkind : (Record.unbonding ⟨other, name, []⟩).kind ≠ .redelegation := nofun
  exact redelegation_ne_key hkind account source destination

end Frame

/-! ### Records that are kept -/

/-- The booking may keep the record. It may keep any validator, but no unbonding without entries, no
holding of less than is bonded, and, when it unbonds, no holding of nothing. -/
def Booking.MayKeep (account : Address) : Booking → Record → Prop
  | .balance amount, record => record = .balance account amount
  | .unbonding operator entries, record =>
    entries ≠ [] ∧ record = .unbonding ⟨account, operator, entries⟩
  | .redelegations source destination entries, record =>
    record = .redelegations account (pair source destination) entries
  | .bond operator tokens, record => (∃ v, record = .validator v) ∨
    ∃ shares, record = .holding account operator ⟨shares⟩ ∧
      tokens.toNat * shareUnit.toNat ≤ shares.toNat
  | .unbond operator _, record => (∃ v, record = .validator v) ∨
    ∃ shares, record = .holding account operator ⟨shares⟩ ∧ 0 < shares.toNat

/-- **What holds of all records that a booking may keep** goes on to hold of all records. -/
theorem Booking.Changes.forallRecords {booking : Booking} {account : Address}
    {store after : Store} {P : Record → Prop} (h : booking.Changes account store after)
    (hstore : store.ForallRecords P) (hkept : ∀ record, booking.MayKeep account record → P record) :
    after.ForallRecords P := by
  cases booking with
  | balance amount =>
      obtain rfl := h
      exact hstore.keep (hkept _ rfl)
  | unbonding operator entries =>
      obtain rfl := h
      rw [Store.setUnbonding]
      split
      · exact hstore.forget _
      · next hsome => exact hstore.keep (hkept _ ⟨hsome, rfl⟩)
  | redelegations source destination entries =>
      obtain rfl := h
      exact hstore.keep (hkept _ rfl)
  | bond operator tokens =>
      obtain ⟨v, v', shares, rfl, hr, rfl⟩ := h
      have hshares := hr.shares
      have hvalidator : P (.validator v') := hkept _ (.inl ⟨v', rfl⟩)
      have hholding : P (.holding account v.operator ⟨shares⟩) :=
        hkept _ (.inr ⟨shares, rfl, by omega⟩)
      exact (hstore.keep hvalidator).keep hholding
  | unbond operator tokens =>
      obtain ⟨v, v', shares, rfl, hr, rfl⟩ := h
      have hvalidator : P (.validator v') := hkept _ (.inl ⟨v', rfl⟩)
      rw [Store.setHolding]
      split
      · exact (hstore.forget _).keep hvalidator
      · next hsome =>
          have hpos : 0 < shares.toNat := Nat.pos_of_ne_zero fun hzero => hsome (Uint256.ext hzero)
          have hholding : P (.holding account v.operator ⟨shares⟩) :=
            hkept _ (.inr ⟨shares, rfl, hpos⟩)
          exact (hstore.keep hholding).keep hvalidator

/-- **What holds of all records that bookings may keep** goes on to hold of all records. -/
theorem Changes.forallRecords {bookings : List Booking} {account : Address} {store after : Store}
    {P : Record → Prop} (h : Changes account bookings store after) (hstore : store.ForallRecords P)
    (hkept : ∀ booking ∈ bookings, ∀ record, booking.MayKeep account record → P record) :
    after.ForallRecords P := by
  induction bookings generalizing store with
  | nil =>
      obtain rfl := h
      exact hstore
  | cons booking bookings ih =>
      obtain ⟨middle, hfirst, hrest⟩ := h
      exact ih hrest (hfirst.forallRecords hstore (hkept booking List.mem_cons_self))
        fun other hmem => hkept other (List.mem_cons_of_mem _ hmem)

/-- **What holds of all other records and of the unbondings that are noted** goes on to hold of all
records. -/
theorem Changes.forallRecords_of_unbonding {bookings : List Booking} {account : Address}
    {store after : Store} {P : Record → Prop} (h : Changes account bookings store after)
    (hstore : store.ForallRecords P)
    (hothers : ∀ record : Record, record.kind ≠ .unbonding → P record)
    (hnoted : ∀ operator entries, .unbonding operator entries ∈ bookings → entries ≠ [] →
      P (.unbonding ⟨account, operator, entries⟩)) : after.ForallRecords P := by
  refine h.forallRecords hstore fun booking hmem record hkept => ?_
  cases booking with
  | balance amount =>
      obtain rfl := hkept
      exact hothers _ nofun
  | unbonding operator entries =>
      obtain ⟨hsome, rfl⟩ := hkept
      exact hnoted operator entries hmem hsome
  | redelegations source destination entries =>
      obtain rfl := hkept
      exact hothers _ nofun
  | bond operator tokens | unbond operator tokens =>
      obtain ⟨v, rfl⟩ | ⟨shares, rfl, -⟩ := hkept
      · exact hothers _ nofun
      · exact hothers _ nofun

/-! ### Books -/

namespace Books

variable {account : Address} {operator : String} {store after : Store} {supply : Nat}

/-- **Bonding** takes the tokens into the supply. -/
theorem of_bond (h : Books store supply) {tokens : Uint256}
    (hbond : (Booking.bond operator tokens).Changes account store after) :
    Books after (supply + tokens.toNat) := by
  obtain ⟨v, v', shares, -, hr, rfl⟩ := hbond
  exact h.restake hr (hr.exchange_keep h.sound) (Nat.add_zero _)

/-- **Unbonding** gives the tokens out of the supply. -/
theorem of_unbond (h : Books store supply) {tokens : Uint256}
    (hunbond : (Booking.unbond operator tokens).Changes account store after) :
    ∃ rest, supply = rest + tokens.toNat ∧ Books after rest := by
  obtain ⟨v, v', shares, -, hr, rfl⟩ := hunbond
  have hwithin := h.tokens_le hr.there
  have htokens := hr.tokens
  refine ⟨supply - tokens.toNat, by omega, ?_⟩
  exact h.restake hr (hr.exchange_setHolding h.sound) (by omega)

/-- **What is on its way** comes into the supply in the place of what was. -/
theorem of_unbonding (h : Books store supply) {entries : List UnbondingEntry}
    (hunbonding : (Booking.unbonding operator entries).Changes account store after) {rest : Nat}
    (hsupply : rest + Record.pending (unbondingEntries store account operator) =
      supply + Record.pending entries) : Books after rest := by
  obtain rfl := hunbonding
  rw [Store.setUnbonding]
  split
  · next hnothing =>
      rw [hnothing] at hsupply
      exact h.forget_unbonding account operator hsupply
  · exact h.keep_unbonding account operator hsupply

end Books

end Reference

end StakingGateway
