import StakingGateway.Proofs.Reference.Queries
import StakingGateway.Proofs.Reference.Rounding

/-!
# Persistence

Between two messages nothing of the module is left but octets under keys. A message goes on where an
earlier one left off because the octets that a record is kept as stand for it: whoever comes upon
them, a transition over any layers or a lookup in any store, finds that record
(`Reference.standsFor_encode`). It does not matter which key they are under, nor what is kept beside
them. A record that is kept and loaded again can therefore be kept in turn as often as one likes,
and is the same octets each time (`Reference.survives`).

Balances are kept as plain numbers. A debit says what it makes of the octets that it finds, which
need not be those of a number (`Reference.effect_debit`), so the octets of an amount stand for it
with whoever shows the balance and with whoever pays out of it
(`Reference.standsForBalance_toBytes`).

## Main definitions

* `Reference.StandsFor`: octets that are read as a record.
* `Reference.Survives`: records of the type can be kept and loaded.
* `Reference.StandsForBalance`: octets that are read as a balance.

## Main statements

* `Reference.survives`: records survive if their written form does.
* `Reference.effect_debit`: what a debit makes of what it finds.
* `Reference.records_survive`: records and balances survive.
-/

namespace StakingGateway

/-- A transition that reads a key goes on with what there is under it. -/
theorem Transition.run_read_bind {α : Type} (setting : Setting) (depth : Nat)
    (layers : LayeredStore) (ledger : GasLedger) (key : Bytes)
    (rest : Option Bytes → Transition α) :
    let paid := ledger.consumeRead setting.schedule key (layers.get key)
    (read key >>= rest).run setting depth layers ledger =
      ((rest (layers.get key)).run setting depth layers paid).observing
        ⟨.value (layers.get key), paid.consumed⟩ := rfl

/-- What a run gives, or its error, is up to the effect of the program. -/
theorem Transition.result_run {α : Type} (setting : Setting) {program : Transition α}
    (h : program.GasBlind) (depth : Nat) (layers : LayeredStore) (ledger : GasLedger) :
    (program.run setting depth layers ledger).result =
      (program.effect setting.block depth layers.contents).map Prod.fst := by
  rw [← run_eq_effect setting h depth layers ledger]
  cases (program.run setting depth layers ledger).result with
  | ok a => rfl
  | error error => rfl

/-- What is set under a key is there, and nothing else has changed. -/
theorem LayeredStore.get_set (layers : LayeredStore) (key value other : Bytes) :
    (layers.set key value).get other = if other = key then some value else layers.get other := by
  rw [get_eq, set, contents_write, Store.get?_write, get_eq]

namespace Reference

/-! ### Records -/

section Records

variable {α : Type} [Json.Codec α]

/-- What is found under a key stands for the record: whoever finds it there reads the record. -/
structure StandsFor (found : Option Bytes) (a : α) : Prop where
  /-- A transition loads the record, and changes nothing by that. -/
  load (setting : Setting) (depth : Nat) (layers : LayeredStore) (ledger : GasLedger) {key : Bytes}
    (h : layers.get key = found) :
    let loaded := (load key : Transition (Option α)).run setting depth layers ledger
    loaded.result = .ok (some a) ∧ loaded.store = layers
  /-- A query finds the record. -/
  lookUp (block : Block) {store : Store} {key : Bytes} (h : store.get? key = found) :
    ((lookUp key : Lookup (Option α)).run block store).1 = .ok (some a)

/-- **The octets that a record is kept as stand for it.** -/
theorem standsFor_encode [Json.LawfulCodec α] (a : α) : StandsFor (some (Json.encode a)) a where
  load setting depth layers ledger key h := by
    intro loaded
    dsimp only [loaded]
    rw [load, Transition.run_read_bind, h]
    dsimp only
    rw [Json.decode?_encode]
    exact ⟨rfl, rfl⟩
  lookUp block store key h := by
    have hread : ((Lookup.read key).run block store).1 = .ok (some (Json.encode a)) :=
      congrArg Except.ok h
    rw [lookUp, Lookup.run_bind, hread, ok_bind]
    dsimp only
    rw [Json.decode?_encode]
    rfl

/-- Saving a record does not fail, and puts its octets under the key. -/
theorem run_save (setting : Setting) (depth : Nat) (layers : LayeredStore) (ledger : GasLedger)
    (key : Bytes) (a : α) :
    let saved := (save key a).run setting depth layers ledger
    saved.result = .ok () ∧ saved.store = layers.set key (Json.encode a) :=
  ⟨rfl, rfl⟩

/-- So they are found there. -/
theorem kept_of_save (setting : Setting) (depth : Nat) (layers : LayeredStore)
    (ledger : GasLedger) (key : Bytes) (a : α) :
    ((save key a).run setting depth layers ledger).store.get key = some (Json.encode a) := by
  rw [(run_save setting depth layers ledger key a).2, LayeredStore.get_set, if_pos rfl]

/-- Records of the type survive. Wherever one is saved, under whatever key, what is there afterwards
stands for it; and whatever is loaded from there, it is the same octets wherever it is saved
again. -/
def Survives (α : Type) [Json.Codec α] : Prop :=
  ∀ (a : α) (key : Bytes) (setting : Setting) (depth : Nat) (layers : LayeredStore)
    (ledger : GasLedger),
    let saved := (save key a).run setting depth layers ledger
    saved.result = .ok () ∧ StandsFor (saved.store.get key) a ∧
      ∀ b, ((load key : Transition (Option α)).run setting depth saved.store saved.ledger).result =
          .ok (some b) →
        ∀ (other : Bytes) (setting : Setting) (depth : Nat) (layers : LayeredStore)
          (ledger : GasLedger),
          ((save other b).run setting depth layers ledger).store.get other = saved.store.get key

/-- **Records survive** if reading their written form gives them back. -/
theorem survives (α : Type) [Json.Codec α] [Json.LawfulCodec α] : Survives α := by
  intro a key setting depth layers ledger saved
  have hkept : saved.store.get key = some (Json.encode a) :=
    kept_of_save setting depth layers ledger key a
  have hstands : StandsFor (saved.store.get key) a := by
    rw [hkept]
    exact standsFor_encode a
  refine ⟨(run_save setting depth layers ledger key a).1, hstands, ?_⟩
  intro b hloaded other setting' depth' layers' ledger'
  rw [(hstands.load setting depth saved.store saved.ledger rfl).1] at hloaded
  obtain rfl : a = b := Option.some.inj (Except.ok.inj hloaded)
  rw [kept_of_save, hkept]

end Records

/-! ### Balances -/

/-- **What a debit makes of what it finds**, in any store. An account without a record has nothing,
and octets that are not those of a number end the debit. The debit comes out of the number and keeps
the rest, unless it is more than there is. -/
theorem effect_debit (block : Block) (depth : Nat) (store : Store) (parameters : Parameters)
    (account : Address) (spent : Uint256) :
    (debit parameters account spent).effect block depth store =
      match (store.get? (Key.balance account)).elim (some 0) Uint256.ofBytes? with
      | none => .error Fault.wideBalance.toModuleError
      | some amount =>
        match amount.sub? spent with
        | none =>
          .error (Fault.insufficientFunds amount spent parameters.bondDenom).toModuleError
        | some left => .ok ((), store.insert (Key.balance account) left.toBytes) := by
  have hrest : ∀ amount : Uint256,
      (orRefuse (.insufficientFunds amount spent parameters.bondDenom) (amount.sub? spent) >>=
        fun left => Transition.put (Key.balance account) left.toBytes).effect block depth store =
      match amount.sub? spent with
      | none => .error (Fault.insufficientFunds amount spent parameters.bondDenom).toModuleError
      | some left => .ok ((), store.insert (Key.balance account) left.toBytes) := by
    intro amount
    cases amount.sub? spent with
    | none => rfl
    | some left => rfl
  rw [debit, Transition.effect_bind_of_ok (Transition.effect_read ..)]
  cases store.get? (Key.balance account) with
  | none => exact hrest 0
  | some octets =>
      dsimp only [Option.elim]
      cases Uint256.ofBytes? octets with
      | none => rfl
      | some amount => exact hrest amount

/-- What is found under the key of a balance stands for the amount: whoever finds it there takes the
balance of the account to be that. -/
structure StandsForBalance (found : Option Bytes) (amount : Uint256) : Prop where
  /-- It is the balance that is shown. -/
  balance {store : Store} {account : Address} (h : store.get? (Key.balance account) = found) :
    balance store account = amount
  /-- It is what can be spent, and what those are told has been there who spend more. -/
  debit (setting : Setting) (depth : Nat) (layers : LayeredStore) (ledger : GasLedger)
    {account : Address} (h : layers.get (Key.balance account) = found) (parameters : Parameters)
    (spent : Uint256) :
    ((debit parameters account spent).run setting depth layers ledger).result =
      if spent ≤ amount then .ok ()
      else .error (Fault.insufficientFunds amount spent parameters.bondDenom).toModuleError

/-- **The octets of an amount stand for it.** -/
theorem standsForBalance_toBytes (amount : Uint256) :
    StandsForBalance (some amount.toBytes) amount where
  balance {store account} h := by
    rw [balance, h, Option.bind_some, Record.ofBytes?_toBytes, Option.getD_some]
  debit setting depth layers ledger account h parameters spent := by
    rw [Transition.result_run setting (gasBlind_debit ..), effect_debit, ← LayeredStore.get_eq, h,
      Option.elim_some, Record.ofBytes?_toBytes]
    dsimp only
    split_ifs with hcovered
    · obtain ⟨left, hleft⟩ := Uint256.exists_sub? hcovered
      rw [hleft]
      rfl
    · have hnone : amount.sub? spent = none := if_neg hcovered
      rw [hnone]
      rfl

/-- The balance that is shown is the number that a debit finds. -/
theorem balance_eq_of_found {store : Store} {account : Address} {amount : Uint256}
    (h : (store.get? (Key.balance account)).elim (some 0) Uint256.ofBytes? = some amount) :
    balance store account = amount := by
  rw [balance]
  cases hread : store.get? (Key.balance account) with
  | none =>
      rw [hread] at h
      exact Option.some.inj h
  | some octets =>
      rw [hread, Option.elim_some] at h
      rw [Option.bind_some, h, Option.getD_some]

/-- **A debit that succeeds keeps the octets of what is left** of the balance that was shown. -/
theorem kept_of_debit {setting : Setting} {depth : Nat} {layers : LayeredStore}
    {ledger : GasLedger} {parameters : Parameters} {account : Address} {spent : Uint256}
    (h : ((debit parameters account spent).run setting depth layers ledger).result = .ok ()) :
    ∃ left : Uint256, left.toNat + spent.toNat = (balance layers.contents account).toNat ∧
      ((debit parameters account spent).run setting depth layers ledger).store.get
        (Key.balance account) = some left.toBytes := by
  have heffect := effect_debit setting.block depth layers.contents parameters account spent
  rw [effect_of_run (gasBlind_debit ..) h] at heffect
  split at heffect
  · cases heffect
  · next amount hfound =>
    split at heffect
    · cases heffect
    · next left hleft =>
      refine ⟨left, ?_, ?_⟩
      · rw [balance_eq_of_found hfound, Uint256.sub?_eq_some_iff.mp hleft]
      · rw [LayeredStore.get_eq, (Prod.mk.inj (Except.ok.inj heffect)).2, ByteMap.get?_insert,
          if_pos rfl]

/-! ### The store of the module -/

/-- **What the module keeps survives.** What accounts hold, validators, what is on its way back and
lists of what was moved can be saved anywhere and are found there, with all of their texts and
numbers, by transitions and by queries; a validator that is added is found as it was added; and what
is set as a balance, or left by a debit, is the balance. -/
theorem records_survive :
    Survives Holding ∧ Survives Validator ∧ Survives UnbondingDelegation ∧
    Survives (List Redelegation) ∧
    (∀ (store : Store) (operator moniker : String),
      StandsFor ((addValidator store operator moniker).get? (Key.validator operator))
        (newValidator operator moniker)) ∧
    (∀ (store : Store) (account : Address) (amount : Uint256),
      StandsForBalance ((setBalance store account amount).get? (Key.balance account)) amount) ∧
    ∀ (setting : Setting) (depth : Nat) (layers : LayeredStore) (ledger : GasLedger)
      (parameters : Parameters) (account : Address) (spent : Uint256),
      let spending := (debit parameters account spent).run setting depth layers ledger
      spending.result = .ok () →
        ∃ left : Uint256, left.toNat + spent.toNat = (balance layers.contents account).toNat ∧
          StandsForBalance (spending.store.get (Key.balance account)) left := by
  refine ⟨survives Holding, survives Validator, survives UnbondingDelegation,
    survives (List Redelegation), ?_, ?_, ?_⟩
  · intro store operator moniker
    rw [addValidator, ByteMap.get?_insert, if_pos rfl]
    exact standsFor_encode (newValidator operator moniker)
  · intro store account amount
    rw [setBalance, ByteMap.get?_insert, if_pos rfl]
    exact standsForBalance_toBytes amount
  · intro setting depth layers ledger parameters account spent spending hspent
    obtain ⟨left, hleft, hkept⟩ := kept_of_debit hspent
    refine ⟨left, hleft, ?_⟩
    rw [hkept]
    exact standsForBalance_toBytes left

/-- A validator has a quote, a backslash, a line break and a zero in its texts, and its numbers are
the extreme ones. It is saved and loaded, and then an account that has ten pays three. -/
theorem records_survive_extreme :
    let account := Address.ofNat 0xa11ce
    let setting : Setting := ⟨⟨100, 1000⟩, .default⟩
    let v : Validator :=
      { operator := "a\"\\/\n"
        moniker := "\x00\x1f\u00e9\u2028"
        jailed := true
        status := .unbonding
        tokens := .truncate (Uint256.size - 1)
        delegatorShares := 0
        unbondingHeight := Int64.minValue
        unbondingTime := 0xffffffffffffffff
        commissionRate := shareUnit
        minSelfDelegation := 1 }
    let saved := (save (Key.validator v.operator) v).run setting 1
      (.base (setBalance ∅ account 10)) .empty
    let loaded := (load (Key.validator v.operator) : Transition (Option Validator)).run setting 0
      saved.store saved.ledger
    let spending := (debit .standard account 3).run setting 0 loaded.store loaded.ledger
    saved.result = .ok () ∧ loaded.result = .ok (some v) ∧ spending.result = .ok () ∧
      balance spending.store.contents account = 7 := by
  intro account setting v saved loaded spending
  obtain ⟨-, hvalidators, -, -, -, hset, hdebits⟩ := records_survive
  obtain ⟨hsaved, hkept, -⟩ := hvalidators v (Key.validator v.operator) setting 1
    (.base (setBalance ∅ account 10)) .empty
  obtain ⟨hloaded, hstore⟩ := hkept.load setting 0 saved.store saved.ledger rfl
  have hthere : loaded.store.get (Key.balance account) =
      (setBalance ∅ account 10).get? (Key.balance account) := by
    have hother : Key.balance account ≠ Key.validator v.operator := by decide
    rw [hstore, (run_save ..).2, LayeredStore.get_set, if_neg hother]
    rfl
  have hspent : spending.result = .ok () := by
    rw [(hset ∅ account 10).debit setting 0 loaded.store loaded.ledger hthere, if_pos (by decide)]
  obtain ⟨left, hleft, hrest⟩ :=
    hdebits setting 0 loaded.store loaded.ledger .standard account 3 hspent
  rw [(hset ∅ account 10).balance ((LayeredStore.get_eq ..).symm.trans hthere)] at hleft
  obtain rfl : left = 7 := Uint256.ext (Nat.add_right_cancel hleft)
  exact ⟨hsaved, hloaded, hspent, hrest.balance (LayeredStore.get_eq ..).symm⟩

end Reference

end StakingGateway
