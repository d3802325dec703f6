import StakingGateway.Proofs.Reference.Books

/-!
# Counting the Tokens of a Store

The tokens of a store can be counted without knowing what a record is: read all octets under the
keys that start like those of balances, of validators and of unbondings, and add up what they stand
for (`Reference.totalTokens?`). The count fails if any octets there do not read back. In a store
whose books are in order it succeeds and gives the supply (`Books.totalTokens?_eq`).

## Main definitions

* `Reference.readAll`: what all octets under keys with a common start stand for.
* `Reference.totalTokens?`: the count of all tokens.
* `Reference.tokensOfKind`: the part of the tokens that records of a kind account for.

## Main statements

* `Reference.exists_mapM_filter_eq`, `Reference.exists_readAll_eq`: the octets of some records, and
  of those of one kind, read back, with their sums.
* `Books.totalTokens?_eq`: the count gives the supply.
-/

namespace StakingGateway.Reference

variable {α : Type} {store : Store} {P : Record → Prop}

/-- What the octets under all keys that start like this stand for, if all of them read back. -/
def readAll (store : Store) (start : Bytes) (read? : Bytes → Option α) : Option (List α) :=
  (ByteMap.restrict store start).entries.mapM fun entry => read? entry.2

/-- The tokens of all balances, those of all validators, and those of all entries of all unbondings,
if all of these read back. -/
def totalTokens? (store : Store) : Option Nat := do
  let balances ← readAll store Key.balances Uint256.ofBytes?
  let validators : List Validator ← readAll store Key.validators Json.decode?
  let unbondings : List UnbondingDelegation ← readAll store Key.unbondings Json.decode?
  return (balances.map (·.toNat)).sum + (validators.map (·.tokens.toNat)).sum +
    (unbondings.map fun unbonding => (unbonding.entries.map (·.balance.toNat)).sum).sum

/-- The tokens that records of the kind account for. -/
def tokensOfKind (kind : Key.Kind) (record : Record) : Nat :=
  if record.kind = kind then record.tokens else 0

/-- **The octets of some records read back**, and what they stand for adds up, if it does so for
each of the records, and the others have no part in the sum. -/
theorem exists_mapM_filter_eq (h : store.ForallRecords P) {chosen : Bytes → Bool}
    {read? : Bytes → Option α} {weight : α → Nat} {amount : Record → Nat}
    (hread : ∀ record : Record, chosen record.key = true →
      ∃ a, read? record.octets = some a ∧ weight a = amount record)
    (hskip : ∀ record : Record, ¬ chosen record.key = true → amount record = 0) :
    ∃ found, ((ByteMap.entries store).filter fun entry => chosen entry.1).mapM
        (fun entry => read? entry.2) = some found ∧
      (found.map weight).sum = store.tally amount := by
  have hrecords : ∀ entry ∈ ByteMap.entries store,
      ∃ record : Record, entry = (record.key, record.octets) := by
    rintro ⟨key, octets⟩ hmem
    obtain ⟨record, -, rfl, rfl⟩ := h key octets (ByteMap.get?_eq_some_iff.mpr hmem)
    exact ⟨record, rfl⟩
  rw [Store.tally, ByteMap.total]
  revert hrecords
  induction ByteMap.entries store with
  | nil => exact fun _ => ⟨[], rfl, rfl⟩
  | cons entry entries ih =>
      intro hrecords
      obtain ⟨record, rfl⟩ := hrecords entry List.mem_cons_self
      obtain ⟨found, hfound, hsum⟩ :=
        ih fun entry hmem => hrecords entry (List.mem_cons_of_mem _ hmem)
      rw [List.map_cons, List.sum_cons, Record.read?_key_octets, Option.elim_some, List.filter_cons,
        ← hsum]
      by_cases hchosen : chosen record.key = true
      · obtain ⟨a, ha, hweight⟩ := hread record hchosen
        refine ⟨a :: found, ?_, ?_⟩
        · rw [if_pos hchosen, List.mapM_cons, ha, hfound]
          rfl
        · rw [List.map_cons, List.sum_cons, hweight]
      · refine ⟨found, ?_, ?_⟩
        · rw [if_neg hchosen, hfound]
        · rw [hskip record hchosen, Nat.zero_add]

/-- **The octets of records of one kind read back**, and what they stand for adds up to the tokens
of these records. -/
theorem exists_readAll_eq (h : store.ForallRecords P) (kind : Key.Kind) {read? : Bytes → Option α}
    {weight : α → Nat} (hread : ∀ record : Record, record.kind = kind →
      ∃ a, read? record.octets = some a ∧ weight a = record.tokens) :
    ∃ found, readAll store kind.start read? = some found ∧
      (found.map weight).sum = store.tally (tokensOfKind kind) := by
  have hkind : ∀ record : Record,
      kind.start.isPrefixOf record.key = true ↔ record.kind = kind := by
    intro record
    rw [List.isPrefixOf_iff_prefix]
    exact ⟨Key.eq_of_starts record.start_prefix_key, fun h => h ▸ record.start_prefix_key⟩
  rw [readAll, ByteMap.entries_restrict]
  refine exists_mapM_filter_eq h (fun record hstarts => ?_) (fun record hstarts => ?_)
  · rw [hkind] at hstarts
    rw [tokensOfKind, if_pos hstarts]
    exact hread record hstarts
  · rw [hkind] at hstarts
    exact if_neg hstarts

/-- Sums of sums are taken one by one. -/
theorem tally_add (one other : Record → Nat) (store : Store) :
    store.tally (fun record => one record + other record) =
      store.tally one + store.tally other := by
  rw [Store.tally, Store.tally, Store.tally, ByteMap.total, ByteMap.total, ByteMap.total,
    ← List.sum_map_add]
  refine congrArg List.sum (List.map_congr_left fun entry _ => ?_)
  cases Record.read? entry.1 entry.2 with
  | none => rfl
  | some record => rfl

/-- Records of three kinds account for tokens. -/
theorem tokens_eq_sum (record : Record) :
    record.tokens = tokensOfKind .balance record + tokensOfKind .validator record +
      tokensOfKind .unbonding record := by
  cases record with
  | balance | validator | holding | unbonding | redelegations =>
      simp [tokensOfKind, Record.kind, Record.tokens]

/-- **The count of a store whose books are in order is the supply.** -/
theorem Books.totalTokens?_eq {supply : Nat} (h : Books store supply) :
    totalTokens? store = some supply := by
  have hbalance : ∀ record : Record, record.kind = .balance →
      ∃ amount, Uint256.ofBytes? record.octets = some amount ∧ amount.toNat = record.tokens := by
    intro record hkind
    cases record with
    | balance account amount => exact ⟨amount, Record.ofBytes?_toBytes amount, rfl⟩
    | validator | holding | unbonding | redelegations => cases hkind
  have hvalidator : ∀ record : Record, record.kind = .validator →
      ∃ v : Validator, Json.decode? record.octets = some v ∧ v.tokens.toNat = record.tokens := by
    intro record hkind
    cases record with
    | validator v => exact ⟨v, Json.decode?_encode v, rfl⟩
    | balance | holding | unbonding | redelegations => cases hkind
  have hunbonding : ∀ record : Record, record.kind = .unbonding →
      ∃ u : UnbondingDelegation, Json.decode? record.octets = some u ∧
        (u.entries.map (·.balance.toNat)).sum = record.tokens := by
    intro record hkind
    cases record with
    | unbonding u => exact ⟨u, Json.decode?_encode u, rfl⟩
    | balance | validator | holding | redelegations => cases hkind
  obtain ⟨balances, hbalances, hbalanceSum⟩ := exists_readAll_eq h.sound .balance hbalance
  obtain ⟨validators, hvalidators, hvalidatorSum⟩ := exists_readAll_eq h.sound .validator hvalidator
  obtain ⟨unbondings, hunbondings, hunbondingSum⟩ := exists_readAll_eq h.sound .unbonding hunbonding
  have hsupply := h.supply
  rw [show Record.tokens = _ from funext tokens_eq_sum, tally_add, tally_add, ← hbalanceSum,
    ← hvalidatorSum, ← hunbondingSum] at hsupply
  dsimp only [Key.Kind.start] at hbalances hvalidators hunbondings
  rw [totalTokens?, hbalances, hvalidators, hunbondings]
  exact congrArg some hsupply

end StakingGateway.Reference
