import StakingGateway.Proofs.Execution.Effect
import StakingGateway.Proofs.Reference.Records
import StakingGateway.Reference.Module

/-!
# Reading a Store of Records

In a store that holds nothing but records, what is under a key of some kind is a record of the kind,
and reading it succeeds. So a load of the reference module is a look at the store
(`Reference.effect_load`): it gives the record that the store has for the key (`Store.record?`), or
nothing.

Which records a key can be the key of is said once for each kind (`Reference.IsSlot`), and all that
there is to know about reading follows from that.

## Main definitions

* `Store.ForallRecords`: the store holds nothing but records with a property.
* `Store.record?`: the record that octets under a key stand for.
* `Reference.IsSlot`: the records that a key can be the key of.

## Main statements

* `Store.ForallRecords.keep`, `Store.ForallRecords.forget`: changes of one record.
* `Reference.IsSlot.record?_eq_some_iff`: what is read is what is kept.
* `Reference.effect_load`: loads read.
-/

namespace StakingGateway

open Reference

namespace Store

variable {store : Store} {P : Record → Prop}

/-- The store holds nothing but records, and they have the property. -/
def ForallRecords (P : Record → Prop) (store : Store) : Prop :=
  ∀ key octets, ByteMap.get? store key = some octets →
    ∃ record : Record, P record ∧ record.key = key ∧ record.octets = octets

/-- The record that the octets under the key stand for. -/
def record? {α : Type} [Json.Codec α] (store : Store) (key : Bytes) : Option α :=
  (ByteMap.get? store key).bind Json.decode?

/-- All records that are kept have the property. -/
theorem ForallRecords.of_keeps (h : store.ForallRecords P) {record : Record}
    (hkeeps : store.Keeps record) : P record := by
  obtain ⟨found, hfound, hkey, hoctets⟩ := h _ _ hkeeps
  have hsame : store.Keeps found := by rw [Keeps, hkey, hoctets, hkeeps]
  exact hsame.unique hkeeps hkey ▸ hfound

/-- A store of records with a property is a store of records. -/
theorem ForallRecords.mono {Q : Record → Prop} (h : store.ForallRecords P)
    (hPQ : ∀ record, P record → Q record) : store.ForallRecords Q := by
  intro key octets hget
  obtain ⟨record, hrecord, hkey, hoctets⟩ := h key octets hget
  exact ⟨record, hPQ record hrecord, hkey, hoctets⟩

/-- A record that has the property can be put under its key. -/
theorem ForallRecords.keep (h : store.ForallRecords P) {record : Record} (hrecord : P record) :
    (store.keep record).ForallRecords P := by
  intro key octets hget
  rw [Store.keep, ByteMap.get?_insert] at hget
  split at hget
  · next heq => exact ⟨record, hrecord, heq.symm, Option.some.inj hget⟩
  · exact h key octets hget

/-- A key can be deleted. -/
theorem ForallRecords.forget (h : store.ForallRecords P) (key : Bytes) :
    (store.forget key).ForallRecords P := by
  intro other octets hget
  rw [Store.forget, ByteMap.get?_erase] at hget
  split at hget
  · cases hget
  · exact h other octets hget

end Store

namespace Reference

/-! ### Slots -/

/-- The key is that of records of one kind only. -/
structure IsSlot {α : Type} [Json.Codec α] (key : Bytes) (make : α → Record) : Prop where
  /-- The octets of such a record are those of its codec. -/
  octets (a : α) : (make a).octets = Json.encode a
  /-- Every record that has the key is such a record. -/
  exists_eq (record : Record) (h : record.key = key) : ∃ a, record = make a

/-- A record whose key starts like a kind is of the kind. -/
theorem Record.kind_eq {record : Record} {key : Bytes} (kind : Key.Kind) (h : record.key = key)
    (hstart : kind.start <+: key) : record.kind = kind :=
  Key.eq_of_starts (h ▸ record.start_prefix_key) hstart

/-- What is under the key of a validator is a validator. -/
theorem isSlot_validator (operator : String) :
    IsSlot (Key.validator operator) Record.validator where
  octets _ := rfl
  exists_eq record h := by
    have hkind := Record.kind_eq .validator h (List.prefix_append _ _)
    cases record with
    | validator v => exact ⟨v, rfl⟩
    | balance | holding | unbonding | redelegations => cases hkind

/-- What is under the key of a delegation is what the account holds of the validator. -/
theorem isSlot_holding (delegator : Address) (operator : String) :
    IsSlot (Key.delegation delegator operator) (Record.holding delegator operator) where
  octets _ := rfl
  exists_eq record h := by
    have hkind := Record.kind_eq .delegation h
      (Record.holding delegator operator ⟨0⟩).start_prefix_key
    cases record with
    | holding d o holding =>
        obtain ⟨rfl, rfl⟩ := Key.delegation_inj.mp h
        exact ⟨holding, rfl⟩
    | balance | validator | unbonding | redelegations => cases hkind

/-- What is under the key of an unbonding is one. -/
theorem isSlot_unbonding (delegator : Address) (operator : String) :
    IsSlot (Key.unbonding delegator operator) Record.unbonding where
  octets _ := rfl
  exists_eq record h := by
    have hkind := Record.kind_eq .unbonding h
      (Record.unbonding ⟨delegator, operator, []⟩).start_prefix_key
    cases record with
    | unbonding u => exact ⟨u, rfl⟩
    | balance | validator | holding | redelegations => cases hkind

/-- The key of redelegations is that of the account and the pair. -/
theorem key_redelegations (delegator : Address) (source destination : String)
    (entries : List Redelegation) :
    (Record.redelegations delegator (pair source destination) entries).key =
      Key.redelegation delegator source destination := by
  simp only [Record.key, Key.redelegation, pair, List.append_assoc]

/-- What is under the key of redelegations are those of the account and the pair. -/
theorem isSlot_redelegations (delegator : Address) (source destination : String) :
    IsSlot (Key.redelegation delegator source destination)
      (Record.redelegations delegator (pair source destination)) where
  octets _ := rfl
  exists_eq record h := by
    have hslot := key_redelegations delegator source destination []
    have hkind := Record.kind_eq .redelegation (h.trans hslot.symm)
      (Record.redelegations delegator (pair source destination) []).start_prefix_key
    cases record with
    | redelegations d p entries =>
        obtain ⟨rfl, rfl⟩ := Key.owned_inj (h.trans hslot.symm)
        exact ⟨entries, rfl⟩
    | balance | validator | holding | unbonding => cases hkind

/-- What is under the key of a balance is the balance of the account. -/
theorem exists_eq_balance {account : Address} {record : Record}
    (h : record.key = Key.balance account) : ∃ amount, record = .balance account amount := by
  have hkind := Record.kind_eq .balance h (List.prefix_append _ _)
  cases record with
  | balance a amount =>
      obtain rfl := Key.balance_inj.mp h
      exact ⟨amount, rfl⟩
  | validator | holding | unbonding | redelegations => cases hkind

namespace IsSlot

variable {α : Type} [Json.Codec α] [Json.LawfulCodec α] {key : Bytes} {make : α → Record}
  {store : Store} {P : Record → Prop}

/-- **What is read is what is kept.** -/
theorem record?_eq_some_iff (h : IsSlot key make) (hstore : store.ForallRecords P) {a : α} :
    store.record? key = some a ↔ (make a).key = key ∧ store.Keeps (make a) := by
  rw [Store.record?, Option.bind_eq_some_iff]
  constructor
  · rintro ⟨octets, hget, hdecode⟩
    obtain ⟨record, -, hkey, rfl⟩ := hstore _ _ hget
    obtain ⟨b, rfl⟩ := h.exists_eq record hkey
    rw [h.octets, Json.decode?_encode, Option.some.injEq] at hdecode
    subst hdecode
    exact ⟨hkey, by rw [Store.Keeps, hkey, hget]⟩
  · rintro ⟨rfl, hkeeps⟩
    exact ⟨_, hkeeps, by rw [h.octets, Json.decode?_encode]⟩

/-- Nothing is read where nothing is. -/
theorem record?_eq_none_iff (h : IsSlot key make) (hstore : store.ForallRecords P) :
    (store.record? key : Option α) = none ↔ ByteMap.get? store key = none := by
  rw [Store.record?, Option.bind_eq_none_iff]
  constructor
  · intro hnone
    refine Option.eq_none_iff_forall_ne_some.mpr fun octets hget => ?_
    obtain ⟨record, -, hkey, rfl⟩ := hstore _ _ hget
    obtain ⟨a, rfl⟩ := h.exists_eq record hkey
    have hdecode := hnone _ hget
    rw [h.octets, Json.decode?_encode] at hdecode
    cases hdecode
  · intro hnone octets hget
    rw [hnone] at hget
    cases hget

/-- The part of a sum that a key accounts for is that of the record under it. -/
theorem amountAt_eq (h : IsSlot key make) (hstore : store.ForallRecords P)
    (amount : Record → Nat) :
    store.amountAt amount key = (store.record? key).elim 0 fun a => amount (make a) := by
  cases hread : (store.record? key : Option α) with
  | none => exact Store.amountAt_of_none ((h.record?_eq_none_iff hstore).mp hread)
  | some a =>
      obtain ⟨rfl, hkeeps⟩ := (h.record?_eq_some_iff hstore).mp hread
      exact Store.amountAt_of_keeps hkeeps

/-- **Loads read.** -/
theorem effect_load (h : IsSlot key make) (hstore : store.ForallRecords P) (block : Block)
    (depth : Nat) :
    (load key : Transition (Option α)).effect block depth store =
      .ok (store.record? key, store) := by
  rw [load, Transition.effect_bind_of_ok (Transition.effect_read ..)]
  cases hget : ByteMap.get? store key with
  | none =>
      rw [(h.record?_eq_none_iff hstore).mpr hget]
      rfl
  | some octets =>
      obtain ⟨record, -, hkey, rfl⟩ := hstore _ _ hget
      obtain ⟨a, rfl⟩ := h.exists_eq record hkey
      have hread : store.record? key = some a := by
        rw [Store.record?, hget, Option.bind_some, h.octets, Json.decode?_encode]
      dsimp only
      rw [hread, h.octets, Json.decode?_encode]
      rfl

end IsSlot

/-! ### Reading after a change -/

/-- What has been kept is read. -/
theorem record?_keep_self {α : Type} [Json.Codec α] [Json.LawfulCodec α] {record : Record} {a : α}
    (h : record.octets = Json.encode a) (store : Store) :
    (store.keep record).record? record.key = some a := by
  rw [Store.record?, Store.keep, ByteMap.get?_insert, if_pos rfl, Option.bind_some, h,
    Json.decode?_encode]

/-- What is under another key is read as before. -/
theorem record?_keep_of_ne {α : Type} [Json.Codec α] {store : Store} {record : Record}
    {key : Bytes} (h : key ≠ record.key) :
    ((store.keep record).record? key : Option α) = store.record? key := by
  rw [Store.record?, Store.keep, ByteMap.get?_insert, if_neg h, Store.record?]

/-- What is under another key is read as before a deletion. -/
theorem record?_forget_of_ne {α : Type} [Json.Codec α] {store : Store} {key other : Bytes}
    (h : key ≠ other) : ((store.forget other).record? key : Option α) = store.record? key := by
  rw [Store.record?, Store.forget, ByteMap.get?_erase, if_neg h, Store.record?]

/-- The key of a validator is not that of a record of another kind. -/
theorem validator_ne_key {record : Record} (h : record.kind ≠ .validator) (operator : String) :
    Key.validator operator ≠ record.key :=
  fun hkey => h (Record.kind_eq .validator hkey.symm (List.prefix_append _ _))

/-- Records of other kinds do not change the validators. -/
theorem record?_validator_keep {store : Store} {record : Record} (h : record.kind ≠ .validator)
    (operator : String) :
    ((store.keep record).record? (Key.validator operator) : Option Validator) =
      store.record? (Key.validator operator) :=
  record?_keep_of_ne (validator_ne_key h operator)

/-- Neither does deleting them. -/
theorem record?_validator_forget {store : Store} {record : Record} (h : record.kind ≠ .validator)
    (operator : String) :
    ((store.forget record.key).record? (Key.validator operator) : Option Validator) =
      store.record? (Key.validator operator) :=
  record?_forget_of_ne (validator_ne_key h operator)

end Reference

end StakingGateway
