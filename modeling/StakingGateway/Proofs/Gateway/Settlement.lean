import StakingGateway.Proofs.Gateway.CallEffect

/-!
# How Calls End

A call that asks for a change of state and does not run out of gas ends in one of three ways. It is
turned away, whatever is stored (`Gateway.run_of_message_eq_error`); or it hands a message over, and
then it fails with the error of the message, or succeeds with its answer and its effect
(`Gateway.run_of_message`). Gas decides nothing else.

An error of the staking module comes out of a call only if the module gave it: in answer to a
message, or as the complaint of a query about octets that do not read back (`Gateway.of_rejected`).

## Main statements

* `Gateway.run_of_message_eq_error`: calls that are turned away.
* `Gateway.run_of_message`: calls that hand a message over.
* `Gateway.exists_cost_of_gasFree`: calls that only gas can stop.
* `Gateway.of_rejected`: where errors of the staking module come from.
-/

namespace StakingGateway

/-- Whoever asks for a change of state is routed to a method that makes one. -/
theorem Call.isMutating_of_not_isQuery {call : Call} (h : call.isQuery = false)
    {descriptor : Descriptor} (hroute : RoutingTable.staking.route call.data = .ok descriptor) :
    descriptor.isMutating = true := by
  rw [Call.isQuery, hroute] at h
  simpa using h

/-- Calls that hand no message over are turned away. -/
theorem Call.refusesOnly_message (call : Call) : RefusesOnly call.message := by
  refine .bind (RoutingTable.staking.refusesOnly_route call.data) fun descriptor => ?_
  refine .bind (refusesOnly_checkWriteAccess descriptor call.readOnly) fun _ => ?_
  refine .bind (Executor.refusesOnly_readMessage descriptor call.data call.caller) fun message => ?_
  refine .bind ?_ fun _ => failsOnlyWith_ok _ message
  exact failsOnlyWith_mapError (by intro fault; rfl) _

/-- A query is answered with an error of the staking module only if octets do not read back. -/
theorem Executor.of_offerQuery {executor : Executor} {descriptor : Descriptor} {data : Bytes}
    {caller : Address} {store : Store} {error : ModuleError}
    (h : executor.offerQuery descriptor data caller store = .error (.rejected error)) :
    ∃ query reason, ((executor.stakingModule.answer query).run executor.block store).1 =
      .error (.corrupted reason) ∧ error = .corrupted reason := by
  rcases bind_eq_error_iff.mp h with hread | ⟨query, -, h⟩
  · cases refusesOnly_readQuery _ _ _ _ hread
  rcases bind_eq_error_iff.mp h with hanswer | ⟨answer, -, h⟩
  · obtain ⟨complaint, hcomplaint, heq⟩ := mapError_eq_error_iff.mp hanswer
    cases complaint with
    | notFound description => cases heq
    | corrupted reason => exact ⟨query, reason, hcomplaint, (Failure.rejected.inj heq).symm⟩
  rcases bind_eq_error_iff.mp h with hencode | ⟨encoded, -, h⟩
  · obtain ⟨fault, -, heq⟩ := mapError_eq_error_iff.mp hencode
    cases heq
  · cases h

namespace Gateway

variable {gateway : Gateway} {call : Call} {store : Store} {gas : GasAccount}

/-! ### Calls that are turned away -/

/-- A call that asks for a change of state and hands no message over has nothing to offer. -/
theorem offer_of_message_eq_error {failure : Failure} (h : call.message = .error failure)
    (hquery : call.isQuery = false) : gateway.offer call store = .error failure := by
  rcases bind_eq_error_iff.mp h with hroute | ⟨descriptor, hroute, h⟩
  · rw [offer, hroute, error_bind]
  rw [offer, hroute, ok_bind]
  rcases bind_eq_error_iff.mp h with haccess | ⟨⟨⟩, haccess, h⟩
  · rw [haccess, error_bind]
  rw [haccess, ok_bind, Executor.offer, if_pos (Call.isMutating_of_not_isQuery hquery hroute),
    Executor.offerTransaction]
  rcases bind_eq_error_iff.mp h with hread | ⟨message, hread, h⟩
  · rw [hread, error_bind]
  rw [hread, ok_bind]
  rcases bind_eq_error_iff.mp h with hcheck | ⟨⟨⟩, -, h⟩
  · rw [hcheck, error_bind]
  · cases h

/-- **A call that is turned away fails in the same way whatever is stored**, and changes
nothing. -/
theorem run_of_message_eq_error {failure : Failure} (h : call.message = .error failure)
    (hquery : call.isQuery = false) :
    (gateway.run call store gas).result = .error failure ∧
      (gateway.run call store gas).store = store := by
  obtain ⟨hresult, hstore, -⟩ := run_of_offer_eq_error (offer_of_message_eq_error h hquery) gas
  exact ⟨hresult, hstore⟩

/-! ### Calls that hand a message over -/

/-- A call that does not run out of gas ends with what it has to offer. -/
theorem run_of_gasFree {offer : Offer} (h : gateway.offer call store = .ok offer)
    (hgas : GasFree (gateway.run call store gas).result) :
    (gateway.run call store gas).result = .ok offer.data ∧
      (gateway.run call store gas).store = offer.store := by
  rcases Nat.lt_or_ge gas.remaining.toNat offer.cost.toNat with hlt | hge
  · have hfails := hgas _ (run_of_lt_cost h hlt).1
    cases hfails
  · obtain ⟨hresult, hstore, -⟩ := run_of_cost_le h hge
    exact ⟨hresult, hstore⟩

/-- **A call that only gas can stop succeeds with enough of it.** -/
theorem exists_cost_of_gasFree {data : Bytes}
    (h : ∀ gas, GasFree (gateway.run call store gas).result →
      (gateway.run call store gas).result = .ok data) :
    ∃ cost : UInt64, ∀ gas : GasAccount, cost.toNat ≤ gas.remaining.toNat →
      (gateway.run call store gas).result = .ok data := by
  cases hoffer : gateway.offer call store with
  | error failure =>
      -- Without an offer the call fails in the same way at any gas, and not for want of gas.
      have hfails := (run_of_offer_eq_error hoffer (.full 0)).1
      have hfree : GasFree (gateway.run call store (.full 0)).result := by
        rw [hfails]
        exact failsOnlyWith_error (gateway.gasFree_offer call store failure hoffer)
      rw [h _ hfree] at hfails
      cases hfails
  | ok offer =>
      refine ⟨offer.cost, fun gas hgas => h gas ?_⟩
      rw [(run_of_cost_le hoffer hgas).1]
      exact failsOnlyWith_ok _ _

/-- **A call that hands a message over and does not run out of gas** fails with the error of the
message, or succeeds with its answer and its effect. -/
theorem run_of_message (hblind : ∀ message, (gateway.stakingModule.execute message).GasBlind)
    {message : Message} (h : call.message = .ok message)
    (hgas : GasFree (gateway.run call store gas).result) :
    match (gateway.stakingModule.execute message).effect call.block 0 store with
    | .error error =>
      (gateway.run call store gas).result = .error (.rejected error) ∧
        (gateway.run call store gas).store = store
    | .ok (answer, after) =>
      (gateway.run call store gas).result = .ok (message.returnData answer) ∧
        (gateway.run call store gas).store = after := by
  have hoffer := offer_of_message h gateway store
  have heffect : _ = (gateway.stakingModule.execute message).effect call.block 0 store :=
    (gateway.executor call.block).runMessage_eq_effect (hblind message) store
  dsimp only at hoffer
  rw [← heffect]
  cases hresult : ((gateway.executor call.block).runMessage message store).result with
  | error error =>
      rw [hresult] at hoffer
      obtain ⟨hfails, hstore, -⟩ := run_of_offer_eq_error hoffer gas
      exact ⟨hfails, hstore⟩
  | ok answer =>
      rw [hresult] at hoffer
      exact run_of_gasFree hoffer hgas

/-! ### Errors of the staking module -/

/-- A call that fails for another reason than gas has nothing to offer. -/
theorem offer_of_result_eq_error {failure : Failure}
    (h : (gateway.run call store gas).result = .error failure) (hgas : failure.isOutOfGas = false) :
    gateway.offer call store = .error failure := by
  cases hoffer : gateway.offer call store with
  | error other =>
      rw [(run_of_offer_eq_error hoffer gas).1] at h
      rw [Except.error.inj h]
  | ok offer =>
      have hfree : GasFree (gateway.run call store gas).result := by
        rw [h]
        exact failsOnlyWith_error hgas
      rw [(run_of_gasFree hoffer hfree).1] at h
      cases h

/-- **Errors of the staking module come out of the staking module.** -/
theorem of_rejected (hblind : ∀ message, (gateway.stakingModule.execute message).GasBlind)
    {error : ModuleError} (h : (gateway.run call store gas).result = .error (.rejected error)) :
    (∃ message, call.message = .ok message ∧
      (gateway.stakingModule.execute message).effect call.block 0 store = .error error) ∨
    ∃ query reason, ((gateway.stakingModule.answer query).run call.block store).1 =
      .error (.corrupted reason) ∧ error = .corrupted reason := by
  have hoffer := offer_of_result_eq_error h rfl
  cases hmessage : call.message with
  | ok message =>
      have hfree : GasFree (gateway.run call store gas).result := by
        rw [h]
        exact failsOnlyWith_error rfl
      have hends := run_of_message hblind hmessage hfree
      refine .inl ⟨message, rfl, ?_⟩
      cases heffect : (gateway.stakingModule.execute message).effect call.block 0 store with
      | error other =>
          rw [heffect, h] at hends
          rw [Failure.rejected.inj (Except.error.inj hends.1)]
      | ok done =>
          rw [heffect, h] at hends
          cases hends.1
  | error failure =>
      cases hquery : call.isQuery with
      | false =>
          rw [offer_of_message_eq_error hmessage hquery] at hoffer
          obtain rfl := Except.error.inj hoffer
          cases call.refusesOnly_message _ hmessage
      | true =>
          rcases bind_eq_error_iff.mp hoffer with hroute | ⟨descriptor, hroute, hoffer⟩
          · cases RoutingTable.staking.refusesOnly_route _ _ hroute
          rcases bind_eq_error_iff.mp hoffer with haccess | ⟨⟨⟩, -, hoffer⟩
          · cases refusesOnly_checkWriteAccess _ _ _ haccess
          rw [Call.isQuery, hroute] at hquery
          have hmutating : ¬ descriptor.isMutating = true := by simpa using hquery
          rw [Executor.offer, if_neg hmutating] at hoffer
          exact .inr (Executor.of_offerQuery hoffer)

end Gateway

end StakingGateway
