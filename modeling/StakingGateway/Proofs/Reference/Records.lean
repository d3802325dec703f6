import StakingGateway.Proofs.Abi.Words
import StakingGateway.Proofs.Reference.Keys
import StakingGateway.Proofs.Reference.StoredRecords
import StakingGateway.Proofs.Store.Layers
import StakingGateway.Proofs.Store.Totals

/-!
# The Records of a Store

The store of a chain is a set of records in disguise. This module takes the disguise off: a record
(`Record`) has the key that it is kept under and the octets that stand for it there, and the key and
the octets give the record back (`Record.read?_key_octets`). So a store keeps one record at most
under a key (`Store.Keeps.unique`), and a sum over the records of a store is a sum over its entries
(`Store.tally`), which changes by one record when one record changes (`Store.tally_keep`).

## Main definitions

* `Record`: the records, with `Record.key` and `Record.octets`.
* `Record.read?`: the record that an entry stands for.
* `Store.Keeps`, `Store.keep`, `Store.forget`: being kept in a store, putting a record there, and
  deleting a key.
* `Store.tally`: the sum of an amount over all records.

## Main statements

* `Record.read?_key_octets`: entries give their records back.
* `Store.Keeps.unique`: there is one record at most under a key.
* `Store.tally_keep`, `Store.tally_forget`: sums after the change of one record.
-/

namespace StakingGateway

namespace Reference

open Key (Kind)

/-- A record of the reference module, with what its key is made of. -/
inductive Record where
  /-- The balance of an account. -/
  | balance (account : Address) (amount : Uint256)
  /-- A validator. -/
  | validator (validator : Validator)
  /-- What an account holds of a validator. -/
  | holding (delegator : Address) (operator : String) (holding : Holding)
  /-- What is on its way back from a validator to an account. -/
  | unbonding (unbonding : UnbondingDelegation)
  /-- What an account has moved between two validators; the octets behind the account do not tell
  the names of the two apart. -/
  | redelegations (delegator : Address) (pair : Bytes) (entries : List Redelegation)

namespace Record

/-- The kind of the record. -/
def kind : Record → Kind
  | .balance _ _ => .balance
  | .validator _ => .validator
  | .holding _ _ _ => .delegation
  | .unbonding _ => .unbonding
  | .redelegations _ _ _ => .redelegation

/-- The key that the record is kept under. -/
def key : Record → Bytes
  | .balance account _ => Key.balance account
  | .validator v => Key.validator v.operator
  | .holding delegator operator _ => Key.delegation delegator operator
  | .unbonding u => Key.unbonding u.delegator u.validator
  | .redelegations delegator pair _ =>
    Key.redelegations ++ delegator.octets ++ Key.separator ++ pair

/-- The octets that stand for the record under its key. -/
def octets : Record → Bytes
  | .balance _ amount => amount.toBytes
  | .validator v => Json.encode v
  | .holding _ _ h => Json.encode h
  | .unbonding u => Json.encode u
  | .redelegations _ _ entries => Json.encode entries

/-- The start of the key tells the kind of the record. -/
theorem start_prefix_key (record : Record) : record.kind.start <+: record.key := by
  cases record with
  | balance account amount => exact List.prefix_append _ _
  | validator v => exact List.prefix_append _ _
  | holding delegator operator h =>
      rw [key, Key.delegation, List.append_assoc, List.append_assoc]
      exact List.prefix_append _ _
  | unbonding u =>
      rw [key, Key.unbonding, List.append_assoc, List.append_assoc]
      exact List.prefix_append _ _
  | redelegations delegator pair entries =>
      rw [key, List.append_assoc, List.append_assoc]
      exact List.prefix_append _ _

/-- Records with one key are of one kind. -/
theorem kind_eq_of_key_eq {one other : Record} (h : one.key = other.key) :
    one.kind = other.kind :=
  Key.eq_of_starts one.start_prefix_key (h ▸ other.start_prefix_key)

/-- Records of different kinds have different keys. -/
theorem key_ne_of_kind_ne {one other : Record} (h : one.kind ≠ other.kind) :
    one.key ≠ other.key :=
  mt kind_eq_of_key_eq h

/-! ### Reading an entry -/

/-- The account that octets start with, and what stands behind it and the separator. -/
def owner? (octets : Bytes) : Option (Address × Bytes) :=
  (Address.ofOctets? (octets.take 20)).map fun account => (account, octets.drop 21)

/-- The record of the kind that an entry stands for, given what its key has behind the start. -/
def readAs? (kind : Kind) (behind octets : Bytes) : Option Record :=
  match kind with
  | .balance => do
    return .balance (← Address.ofOctets? behind) (← Uint256.ofBytes? octets)
  | .validator => do
    return .validator (← Json.decode? octets)
  | .delegation => do
    let (delegator, operator) ← owner? behind
    return .holding delegator (← Text.ofUtf8? operator) (← Json.decode? octets)
  | .unbonding => do
    return .unbonding (← Json.decode? octets)
  | .redelegation => do
    let (delegator, pair) ← owner? behind
    return .redelegations delegator pair (← Json.decode? octets)

/-- All kinds. -/
def kinds : List Kind :=
  [.balance, .validator, .delegation, .unbonding, .redelegation]

/-- The record that the entry stands for: its kind is what the key starts like, and the key is that
of the record. -/
def read? (key octets : Bytes) : Option Record := do
  let kind ← kinds.find? fun kind => kind.start.isPrefixOf key
  (readAs? kind (key.drop kind.start.length) octets).filter fun record => record.key = key

/-- The account that has been written reads back, and what stands behind it. -/
theorem owner?_append (account : Address) (rest : Bytes) :
    owner? (account.octets ++ Key.separator ++ rest) = some (account, rest) := by
  have htake : (account.octets ++ Key.separator ++ rest).take 20 = account.octets := by
    rw [List.append_assoc, List.take_left' account.length_octets]
  have hlength : (account.octets ++ Key.separator).length = 21 := by
    rw [List.length_append, account.length_octets]
    rfl
  rw [owner?, htake, List.drop_left' hlength, Address.ofOctets?, dif_pos account.length_octets]
  rfl

/-- Balances read back. -/
theorem ofBytes?_toBytes (amount : Uint256) : Uint256.ofBytes? amount.toBytes = some amount := by
  have hlength : amount.toBytes.length ≤ 32 := Nat.le_of_eq (Bytes.length_ofNat 32 amount.toNat)
  have hvalue : amount.toBytes.toNat = amount.toNat :=
    Bytes.toNat_ofNat_of_lt (Nat.lt_of_lt_of_le amount.toNat_lt (by decide))
  rw [Uint256.ofBytes?, if_pos hlength, hvalue]
  exact Uint256.ofNat?_eq_some_iff.mpr rfl

/-- What the key has behind the start of its kind, and the octets, give the record back. -/
theorem readAs?_key_octets (record : Record) :
    readAs? record.kind (record.key.drop record.kind.start.length) record.octets =
      some record := by
  cases record with
  | balance account amount =>
      dsimp only [kind, key, octets, Kind.start, readAs?, Key.balance]
      rw [List.drop_left, Address.ofOctets?, dif_pos account.length_octets, ofBytes?_toBytes]
      rfl
  | validator v =>
      dsimp only [kind, octets, readAs?]
      rw [Json.decode?_encode]
      rfl
  | holding delegator operator h =>
      dsimp only [kind, key, octets, Kind.start, readAs?, Key.delegation]
      rw [List.append_assoc, List.append_assoc, List.drop_left, ← List.append_assoc, owner?_append,
        Json.decode?_encode]
      simp only [Option.bind_eq_bind, Option.bind_some, Text.ofUtf8?_utf8, Option.pure_def]
  | unbonding u =>
      dsimp only [kind, octets, readAs?]
      rw [Json.decode?_encode]
      rfl
  | redelegations delegator pair entries =>
      dsimp only [kind, key, octets, Kind.start, readAs?]
      rw [List.append_assoc, List.append_assoc, List.drop_left, ← List.append_assoc, owner?_append,
        Json.decode?_encode]
      rfl

/-- **Entries give their records back.** -/
theorem read?_key_octets (record : Record) : read? record.key record.octets = some record := by
  have hkind : kinds.find? (fun kind => kind.start.isPrefixOf record.key) = some record.kind := by
    have hmem : record.kind ∈ kinds := by
      cases record.kind with
      | balance | validator | delegation | unbonding | redelegation => decide
    have hstarts : record.kind.start.isPrefixOf record.key = true :=
      List.isPrefixOf_iff_prefix.mpr record.start_prefix_key
    have hsome : (kinds.find? fun kind => kind.start.isPrefixOf record.key).isSome = true :=
      List.find?_isSome.mpr ⟨_, hmem, hstarts⟩
    obtain ⟨found, hfound⟩ := Option.isSome_iff_exists.mp hsome
    have hfoundStarts : found.start.isPrefixOf record.key = true := by
      simpa using List.find?_some hfound
    have hprefix := List.isPrefixOf_iff_prefix.mp hfoundStarts
    rw [hfound, Key.eq_of_starts hprefix record.start_prefix_key]
  rw [read?, hkind, Option.bind_eq_bind, Option.bind_some, readAs?_key_octets, Option.filter_some,
    if_pos (decide_eq_true rfl)]

end Record

end Reference

/-! ### Keeping records -/

namespace Store

open Reference

/-- The store keeps the record under its key. -/
def Keeps (store : Store) (record : Record) : Prop :=
  store.get? record.key = some record.octets

/-- The store with the record under its key. -/
def keep (store : Store) (record : Record) : Store :=
  store.insert record.key record.octets

/-- The store without what is under the key. -/
def forget (store : Store) (key : Bytes) : Store :=
  ByteMap.erase store key

/-- **There is one record at most under a key.** -/
theorem Keeps.unique {store : Store} {one other : Record} (hone : store.Keeps one)
    (hother : store.Keeps other) (h : one.key = other.key) : one = other := by
  have hone' := one.read?_key_octets
  rw [Keeps, h] at hone
  rw [Keeps, hone, Option.some.injEq] at hother
  rw [h, hother, other.read?_key_octets] at hone'
  exact Option.some.inj hone'.symm

/-! ### Sums over records -/

/-- The sum of an amount over all records that the store keeps. -/
def tally (amount : Record → Nat) (store : Store) : Nat :=
  ByteMap.total (fun key octets => (Record.read? key octets).elim 0 amount) store

/-- The amount of what is under the key; it is nothing where nothing is. -/
def amountAt (amount : Record → Nat) (store : Store) (key : Bytes) : Nat :=
  ByteMap.weightAt (fun key octets => (Record.read? key octets).elim 0 amount) store key

variable {amount : Record → Nat} {store : Store}

/-- What is under the key of a record that is kept is the record. -/
theorem amountAt_of_keeps {record : Record} (h : store.Keeps record) :
    store.amountAt amount record.key = amount record := by
  rw [amountAt, ByteMap.weightAt, h, Option.elim_some, record.read?_key_octets, Option.elim_some]

/-- Where there is nothing, there is no amount. -/
theorem amountAt_of_none {key : Bytes} (h : ByteMap.get? store key = none) :
    store.amountAt amount key = 0 := by
  rw [amountAt, ByteMap.weightAt, h, Option.elim_none]

/-- Putting a record under its key does not change what is under the others. -/
theorem amountAt_keep_of_ne {record : Record} {key : Bytes} (h : key ≠ record.key) :
    (store.keep record).amountAt amount key = store.amountAt amount key := by
  rw [amountAt, ByteMap.weightAt, keep, ByteMap.get?_insert, if_neg h, amountAt, ByteMap.weightAt]

/-- **A record that is put under its key** comes into the sum, in the place of what was there. -/
theorem tally_keep (amount : Record → Nat) (store : Store) (record : Record) :
    (store.keep record).tally amount + store.amountAt amount record.key =
      store.tally amount + amount record := by
  have htotal := ByteMap.total_insert (fun key octets => (Record.read? key octets).elim 0 amount)
    store record.key record.octets
  rwa [record.read?_key_octets, Option.elim_some] at htotal

/-- A key that is deleted takes what was there out of the sum. -/
theorem tally_forget (amount : Record → Nat) (store : Store) (key : Bytes) :
    (store.forget key).tally amount + store.amountAt amount key = store.tally amount :=
  ByteMap.total_erase _ store key

/-- What is under a key is part of the sum. -/
theorem amountAt_le_tally (amount : Record → Nat) (store : Store) (key : Bytes) :
    store.amountAt amount key ≤ store.tally amount :=
  Nat.le_of_add_left_le (Nat.le_of_eq (tally_forget amount store key))

end Store

end StakingGateway
