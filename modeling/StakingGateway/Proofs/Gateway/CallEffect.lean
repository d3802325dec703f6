import StakingGateway.Proofs.Execution.Effect
import StakingGateway.Proofs.Gateway.Delivery
import StakingGateway.Proofs.Gateway.History

/-!
# What a Call Does to the Store

If the staking module does not act on gas, then a call does to the store what the message that it
hands over does, or nothing. So what messages preserve is preserved by calls, and by any number of
them, whoever makes them, with whatever gas, and whether they succeed or not
(`Gateway.invariant_storeAfter`).

A call that asks a question and succeeds returns what the lookup of the staking module answers
(`Gateway.answer_of_ok`).

## Main statements

* `Gateway.effect_of_ok`: a message of a call that succeeds has its effect.
* `Gateway.run_store_eq_or_effect`: nothing else changes the store.
* `Gateway.storeAfter_induction`, `Gateway.invariant_storeAfter`: what calls preserve, and what
  messages preserve, holds after all calls.
* `Gateway.answer_of_ok`: a question that is answered is answered by the staking module.
-/

namespace StakingGateway

namespace Gateway

variable {gateway : Gateway}

/-! ### Messages -/

/-- **The message of a call that succeeds has its effect** on the store, and the return data are
those of its answer. -/
theorem effect_of_ok (hblind : ∀ message, (gateway.stakingModule.execute message).GasBlind)
    {call : Call} {store : Store} {gas : GasAccount} {message : Message} {data : Bytes}
    (hmessage : call.message = .ok message)
    (h : (gateway.run call store gas).result = .ok data) :
    ∃ answer, data = message.returnData answer ∧
      (gateway.stakingModule.execute message).effect call.block 0 store =
        .ok (answer, (gateway.run call store gas).store) := by
  obtain ⟨offer, hoffer, hgas⟩ := exists_offer_of_ok h
  obtain ⟨hdata, hstore, -⟩ := run_of_cost_le hoffer hgas
  rw [h, Except.ok.injEq] at hdata
  have heffect := (gateway.executor call.block).runMessage_eq_effect (hblind message) store
  rw [offer_of_message hmessage] at hoffer
  dsimp only at heffect
  cases hresult : ((gateway.executor call.block).runMessage message store).result with
  | error error =>
      rw [hresult] at hoffer
      cases hoffer
  | ok answer =>
      rw [hresult] at hoffer heffect
      obtain rfl := Except.ok.inj hoffer
      exact ⟨answer, hdata, by rw [hstore]; exact heffect.symm⟩

/-- **Nothing but the effect of a message changes the store.** -/
theorem run_store_eq_or_effect
    (hblind : ∀ message, (gateway.stakingModule.execute message).GasBlind) (call : Call)
    (store : Store) (gas : GasAccount) :
    let after := (gateway.run call store gas).store
    after = store ∨ ∃ message answer, call.message = .ok message ∧
      (gateway.stakingModule.execute message).effect call.block 0 store = .ok (answer, after) := by
  intro after
  cases hresult : (gateway.run call store gas).result with
  | error failure => exact .inl (run_eq_of_error hresult).1
  | ok data =>
      cases hmessage : call.message with
      | error failure =>
          obtain ⟨offer, hoffer, hgas⟩ := exists_offer_of_ok hresult
          obtain ⟨-, hstore, -⟩ := run_of_cost_le hoffer hgas
          exact .inl (hstore.trans (offer_store_of_error hmessage hoffer))
      | ok message =>
          obtain ⟨answer, -, heffect⟩ := effect_of_ok hblind hmessage hresult
          exact .inr ⟨message, answer, rfl, heffect⟩

/-- **What calls preserve holds after all calls** that are made on a store where it holds. -/
theorem storeAfter_induction {I : Store → Prop}
    (hstep : ∀ (call : Call) (store : Store) (gas : GasAccount),
      I store → I (gateway.run call store gas).store)
    (submissions : List Submission) {store : Store} (h : I store) :
    I (gateway.storeAfter submissions store) := by
  induction submissions generalizing store with
  | nil => exact h
  | cons submission submissions ih => exact ih (hstep submission.call store submission.gas h)

/-- **What messages preserve holds after all calls** that are made on a store where it holds. -/
theorem invariant_storeAfter
    (hblind : ∀ message, (gateway.stakingModule.execute message).GasBlind) {I : Store → Prop}
    (hstep : ∀ (message : Message) (block : Block) (answer : message.Answer) (store after : Store),
      I store → (gateway.stakingModule.execute message).effect block 0 store = .ok (answer, after) →
        I after)
    (submissions : List Submission) {store : Store} (h : I store) :
    I (gateway.storeAfter submissions store) := by
  refine storeAfter_induction (fun call store gas hstore => ?_) submissions h
  rcases gateway.run_store_eq_or_effect hblind call store gas with
    hsame | ⟨message, answer, -, heffect⟩
  · rwa [hsame]
  · exact hstep message _ answer store _ hstore heffect

/-! ### Questions -/

/-- **A question that is answered is answered by the staking module**, and the return data are those
of its answer. -/
theorem answer_of_ok {call : Call} {store : Store} {gas : GasAccount} {method : Method}
    {data : Bytes} (hselector : call.data.take 4 = method.selector.octets)
    (hquery : method.isMutating = false)
    (h : (gateway.run call store gas).result = .ok data) :
    ∃ query answer, ((gateway.stakingModule.answer query).run call.block store).1 = .ok answer ∧
      ReturnData.encode method.descriptor (query.reply answer) = .ok data := by
  obtain ⟨offer, hoffer, hgas⟩ := exists_offer_of_ok h
  obtain ⟨hdata, -, -⟩ := run_of_cost_le hoffer hgas
  rw [h, Except.ok.injEq] at hdata
  obtain ⟨descriptor, hroute, hoffer⟩ := bind_eq_ok_iff.mp hoffer
  obtain ⟨⟨⟩, -, hoffer⟩ := bind_eq_ok_iff.mp hoffer
  obtain ⟨routed, rfl, hrouted⟩ := RoutingTable.route_eq_ok_iff.mp hroute
  rw [hselector] at hrouted
  obtain rfl := Method.selector_injective (Selector.ext hrouted)
  have hmutating : ¬ method.descriptor.isMutating = true := Bool.eq_false_iff.mp hquery
  rw [Executor.offer, if_neg hmutating] at hoffer
  obtain ⟨query, -, hoffer⟩ := bind_eq_ok_iff.mp hoffer
  obtain ⟨answer, hanswer, hoffer⟩ := bind_eq_ok_iff.mp hoffer
  obtain ⟨encoded, hencoded, hoffer⟩ := bind_eq_ok_iff.mp hoffer
  obtain rfl := Except.ok.inj hoffer
  refine ⟨query, answer, mapError_eq_ok_iff.mp hanswer, ?_⟩
  rw [hdata]
  exact mapError_eq_ok_iff.mp hencoded

end Gateway

end StakingGateway
