import StakingGateway.Proofs.Reference.Bounds

/-!
# What Queries Find

A lookup over a store of records finds the record that the store has for the key
(`Reference.run_lookUp`). Where the books are in order, the shares that an account holds are covered
by those that the validator has issued, so a query of a delegation that succeeds reports the tokens
that its shares were issued for (`Books.findDelegation`).

With a supply below `2 ^ 98` the numbers on the way to the answer fit. Then a query of a delegation
does not depend on what else is bonded to the validator (`Books.run_findDelegation`), and no query
fails but for want of a record (`Books.failsOnlyWith_answer`).

## Main statements

* `Lookup.run_bind`: the result of a lookup that goes on.
* `Books.findDelegation`: what is reported of a delegation.
* `Books.run_findDelegation`: what it depends on.
* `Books.failsOnlyWith_answer`: why queries fail.
-/

namespace StakingGateway

/-- The result of a lookup that goes on is that of the first part and then that of the rest. -/
theorem Lookup.run_bind {α β : Type} (block : Block) (store : Store) (program : Lookup α)
    (rest : α → Lookup β) :
    ((program >>= rest).run block store).1 =
      (program.run block store).1 >>= fun a => ((rest a).run block store).1 := by
  change ((program.bind rest).run block store).1 = _
  induction program with
  | done result => rfl
  | fail error => rfl
  | get key next ih => exact ih _
  | has key next ih => exact ih _
  | scan start next ih => exact ih _
  | inspect next ih => exact ih _

namespace Reference

variable {block : Block} {store : Store} {P : Record → Prop}

/-- **Lookups find what is kept.** -/
theorem IsSlot.run_lookUp {α : Type} [Json.Codec α] [Json.LawfulCodec α] {key : Bytes}
    {make : α → Record} (h : IsSlot key make) (hstore : store.ForallRecords P) (block : Block) :
    ((lookUp key : Lookup (Option α)).run block store).1 = .ok (store.record? key) := by
  rw [lookUp, Lookup.run_bind, show ((Lookup.read key).run block store).1 =
    .ok (ByteMap.get? store key) from rfl, ok_bind]
  cases hget : ByteMap.get? store key with
  | none =>
      rw [(h.record?_eq_none_iff hstore).mpr hget]
      rfl
  | some octets =>
      obtain ⟨record, -, hkey, rfl⟩ := hstore _ _ hget
      obtain ⟨a, rfl⟩ := h.exists_eq record hkey
      have hread : store.record? key = some a := by
        rw [Store.record?, hget, Option.bind_some, h.octets, Json.decode?_encode]
      dsimp only
      rw [hread, h.octets, Json.decode?_encode]
      rfl

/-- A value that is found is there. -/
theorem run_orNotFound_eq_ok_iff {α : Type} {description : String} {found : Option α} {a : α} :
    ((orNotFound description found).run block store).1 = .ok a ↔ found = some a := by
  cases found with
  | none => exact iff_of_false nofun nofun
  | some b =>
      exact ⟨fun h => congrArg some (Except.ok.inj h), fun h => congrArg _ (Option.some.inj h)⟩

/-- **A query of a delegation reports the tokens that its shares were issued for.** -/
theorem Books.findDelegation {supply : Nat} (h : Books store supply) {parameters : Parameters}
    {delegator : Address} {operator : String} {found : Delegation}
    (hfound : ((findDelegation parameters delegator operator).run block store).1 = .ok found) :
    found.shares.toNat = found.balance.amount.toNat * shareUnit.toNat := by
  rw [Reference.findDelegation, Lookup.run_bind, findValidator, Lookup.run_bind,
    (isSlot_validator operator).run_lookUp h.sound, ok_bind] at hfound
  obtain ⟨v, hv, hfound⟩ := bind_eq_ok_iff.mp hfound
  have hread := run_orNotFound_eq_ok_iff.mp hv
  rw [Lookup.run_bind, (isSlot_holding delegator operator).run_lookUp h.sound, ok_bind,
    Lookup.run_bind] at hfound
  obtain ⟨holding, hholding, hfound⟩ := bind_eq_ok_iff.mp hfound
  have hheld := run_orNotFound_eq_ok_iff.mp hholding
  obtain ⟨-, hexact⟩ := h.isExact hread
  -- The account holds whole shares, and no more of them than the validator has issued.
  obtain ⟨n, hwhole⟩ := h.dvd_held delegator operator
  have hissued := h.held_le delegator operator
  rw [held, hheld, Option.elim_some] at hwhole hissued
  rw [issued, hread, Option.elim_some] at hissued
  rw [Nat.mul_comm] at hwhole
  cases htokens : v.tokensFor? holding.shares with
  | none =>
      rw [htokens] at hfound
      cases hfound
  | some tokens =>
      rw [htokens] at hfound
      obtain rfl := Except.ok.inj hfound
      dsimp only
      rw [Validator.toNat_tokensFor? hexact hwhole hissued htokens, hwhole]

/-! ### Queries with a supply that fits -/

/-- **A query of a delegation finds what the account holds**, and reports a token for each whole
share. All that matters about the validator is that it is there. -/
theorem Books.run_findDelegation {supply : Nat} (h : Books store supply)
    (hsupply : supply < 2 ^ 98) (parameters : Parameters) (delegator : Address)
    (operator : String) :
    ((Reference.findDelegation parameters delegator operator).run block store).1 =
      if (store.record? (Key.validator operator) : Option Validator).isSome then
        (store.record? (Key.delegation delegator operator)).elim
          (.error (.notFound ("delegation with delegator " ++ delegator.checksummed ++
            " not found for validator " ++ operator)))
          fun holding : Holding =>
            .ok ⟨holding.shares, ⟨parameters.bondDenom, holding.shares.div shareUnit⟩⟩
      else .error (.notFound (Fault.noValidator operator).description) := by
  rw [Reference.findDelegation, Lookup.run_bind, findValidator, Lookup.run_bind,
    (isSlot_validator operator).run_lookUp h.sound, ok_bind]
  cases hv : (store.record? (Key.validator operator) : Option Validator) with
  | none => rfl
  | some v =>
      have hfound : ((orNotFound (Fault.noValidator operator).description (some v)).run block
        store).1 = .ok v := rfl
      rw [hfound, ok_bind, Lookup.run_bind,
        (isSlot_holding delegator operator).run_lookUp h.sound, ok_bind, Lookup.run_bind,
        Option.isSome_some, if_pos rfl]
      cases hholding : (store.record? (Key.delegation delegator operator) : Option Holding) with
      | none => rfl
      | some holding =>
          rw [run_orNotFound_eq_ok_iff.mpr rfl, ok_bind, h.tokensFor?_eq hsupply hv hholding]
          rfl

/-- A value that is missing is not found. -/
theorem failsOnlyWith_orNotFound {α : Type} (description : String) (found : Option α) :
    FailsOnlyWith (fun error => ∃ description, error = .notFound description)
      ((orNotFound description found).run block store).1 := by
  cases found with
  | none => exact failsOnlyWith_error ⟨description, rfl⟩
  | some a => exact failsOnlyWith_ok _ a

/-- **No query complains about what is stored.** -/
theorem Books.failsOnlyWith_answer {supply : Nat} (h : Books store supply)
    (hsupply : supply < 2 ^ 98) (parameters : Parameters) (query : Query) :
    FailsOnlyWith (fun error => ∃ description, error = .notFound description)
      (((stakingModule parameters).answer query).run block store).1 := by
  cases query with
  | delegation delegator operator =>
      change FailsOnlyWith _ ((Reference.findDelegation parameters delegator operator).run block
        store).1
      rw [h.run_findDelegation hsupply]
      split
      · cases (store.record? (Key.delegation delegator operator) : Option Holding) with
        | none => exact failsOnlyWith_error ⟨_, rfl⟩
        | some holding => exact failsOnlyWith_ok _ _
      · exact failsOnlyWith_error ⟨_, rfl⟩
  | unbondingDelegation delegator operator =>
      change FailsOnlyWith _ ((findUnbonding delegator operator).run block store).1
      rw [findUnbonding, Lookup.run_bind, (isSlot_unbonding delegator operator).run_lookUp h.sound]
      exact failsOnlyWith_orNotFound _ _
  | validator operator =>
      change FailsOnlyWith _ ((findValidator operator).run block store).1
      rw [findValidator, Lookup.run_bind, (isSlot_validator operator).run_lookUp h.sound]
      exact failsOnlyWith_orNotFound _ _

end Reference

end StakingGateway
