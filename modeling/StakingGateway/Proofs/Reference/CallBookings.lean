import StakingGateway.Proofs.Gateway.Requests
import StakingGateway.Proofs.Gateway.Settlement
import StakingGateway.Proofs.Reference.Ownership
import StakingGateway.Proofs.Reference.Refusals

/-!
# What Calls Book

A call of the gateway over the reference module books for its caller, and for nobody else
(`Books.exists_changes_run`). With a supply below `2 ^ 98`, what it books and what it returns are
those of the plan of its message (`Call.plan?`): a call that asks for a change of state and does not
run out of gas succeeds exactly if there is a plan, with the return data of the plan, and does what
is booked in it (`Books.run_of_plan?`). So the outcome depends on the records of the caller and on
which validators there are, and on nothing else in the store (`Call.plan?_congr`).

## Main definitions

* `Call.plan?`: what a call returns and what is booked for it, if it can be carried out.
* `Call.bookings`: what is booked for it in any case.

## Main statements

* `Call.plan?_congr`: what the plan of a call depends on.
* `Books.exists_changes_run`: calls book for their callers.
* `Books.books_run`: calls leave the books in order.
* `Books.run_of_plan?`: calls end as planned.
* `Books.run_of_asksFor`: so do calls that ask for a message.
-/

namespace StakingGateway

open Reference

variable {parameters : Parameters}

namespace Call

/-- What the call returns and what is booked for it, if it hands a message over that can be carried
out. -/
def plan? (call : Call) (parameters : Parameters) (store : Store) :
    Option (Bytes × List Booking) :=
  match call.message with
  | .error _ => none
  | .ok message =>
    (Reference.plan? parameters call.block store message).map fun (answer, bookings) =>
      (message.returnData answer, bookings)

/-- What is booked for the call; nothing if it cannot be carried out. -/
def bookings (call : Call) (parameters : Parameters) (store : Store) : List Booking :=
  (call.plan? parameters store).elim [] (·.2)

/-- **The plan of a call depends on the records of the caller**, and on which validators there
are. -/
theorem plan?_congr {call : Call} {one other : Store} (h : AgreeOn call.caller one other)
    (hregistered : ∀ operator, registered one operator = registered other operator) :
    call.plan? parameters one = call.plan? parameters other := by
  rw [plan?, plan?]
  cases hmessage : call.message with
  | error failure => rfl
  | ok message =>
      rw [← (isAdmissible_of_message hmessage).authorized] at h
      dsimp only
      rw [Reference.plan?_congr h hregistered]

/-- What is planned for a call that asks for a message is planned for the message, if it passes the
check. -/
theorem AsksFor.plan?_eq_some_iff {call : Call} {message : Message} (h : call.AsksFor message)
    {store : Store} {data : Bytes} {bookings : List Booking} :
    call.plan? parameters store = some (data, bookings) ↔
      message.check = .ok () ∧ ∃ answer,
        Reference.plan? parameters call.block store message = some (answer, bookings) ∧
          message.returnData answer = data := by
  rw [Call.plan?]
  cases hmessage : call.message with
  | error failure =>
      refine iff_of_false nofun ?_
      rintro ⟨hcheck, -⟩
      rw [h.message_eq_ok_iff.mpr ⟨rfl, hcheck⟩] at hmessage
      cases hmessage
  | ok handed =>
      obtain ⟨rfl, hcheck⟩ := h.message_eq_ok_iff.mp hmessage
      rw [and_iff_right hcheck]
      dsimp only
      rw [Option.map_eq_some_iff]
      constructor
      · rintro ⟨⟨answer, booked⟩, hplan, heq⟩
        obtain ⟨rfl, rfl⟩ := Prod.mk.inj heq
        exact ⟨answer, hplan, rfl⟩
      · rintro ⟨answer, hplan, rfl⟩
        exact ⟨(answer, bookings), hplan, rfl⟩

end Call

namespace Reference

/-- Bookings leave the validators where they are. -/
theorem Changes.registered_eq {account : Address} {bookings : List Booking} {store after : Store}
    (h : Changes account bookings store after) (operator : String) :
    registered after operator = registered store operator := by
  have hrel := h.validator operator
  rw [registered, registered]
  generalize (store.record? (Key.validator operator) : Option Validator) = found at hrel ⊢
  generalize (after.record? (Key.validator operator) : Option Validator) = last at hrel ⊢
  cases hrel with
  | none => rfl
  | some => rfl

namespace Books

variable {config : Config} {call : Call} {store : Store} {gas : GasAccount} {supply : Nat}

/-- **Calls leave the books in order**, and the supply as it was. -/
theorem books_run (h : Books store supply) (parameters : Parameters) (config : Config)
    (call : Call) (gas : GasAccount) :
    Books (Gateway.run ⟨stakingModule parameters, config⟩ call store gas).store supply := by
  rcases run_store_eq_or_effect_admissible parameters config call store gas with
    hsame | ⟨message, answer, -, heffect⟩
  · rw [hsame]
    exact h
  · exact h.execute heffect

/-- **Calls book for their callers.** -/
theorem exists_changes_run (h : Books store supply) (parameters : Parameters) (config : Config)
    (call : Call) (gas : GasAccount) :
    ∃ bookings, Changes call.caller bookings store
      (Gateway.run ⟨stakingModule parameters, config⟩ call store gas).store := by
  rcases run_store_eq_or_effect_admissible parameters config call store gas with
    hsame | ⟨message, answer, hadmissible, heffect⟩
  · exact ⟨[], hsame⟩
  · obtain ⟨bookings, -, hchanges⟩ := h.exists_plan heffect
    rw [hadmissible.authorized] at hchanges
    exact ⟨bookings, hchanges⟩

/-- **Calls end as planned.** A call that asks for a change of state and does not run out of gas
does what is booked for it, and succeeds exactly with the return data of its plan. -/
theorem run_of_plan? (h : Books store supply) (hsupply : supply < 2 ^ 98)
    (hquery : call.isQuery = false)
    (hgas : GasFree (Gateway.run ⟨stakingModule parameters, config⟩ call store gas).result) :
    let report := Gateway.run ⟨stakingModule parameters, config⟩ call store gas
    Changes call.caller (call.bookings parameters store) store report.store ∧
      ∀ data, report.result = .ok data ↔
        ∃ bookings, call.plan? parameters store = some (data, bookings) := by
  intro report
  -- A call without a plan fails and changes nothing.
  have hfailed : ∀ failure, call.plan? parameters store = none →
      report.result = .error failure → report.store = store →
        Changes call.caller (call.bookings parameters store) store report.store ∧
          ∀ data, report.result = .ok data ↔
            ∃ bookings, call.plan? parameters store = some (data, bookings) := by
    intro failure hnone hresult hstore
    rw [Call.bookings, hnone, hresult]
    exact ⟨hstore, fun data => iff_of_false nofun nofun⟩
  cases hmessage : call.message with
  | error failure =>
      obtain ⟨hresult, hstore⟩ := Gateway.run_of_message_eq_error hmessage hquery
      exact hfailed failure (by rw [Call.plan?, hmessage]) hresult hstore
  | ok message =>
      have hadmissible := Call.isAdmissible_of_message hmessage
      have hends := Gateway.run_of_message (gasBlind_execute parameters) hmessage hgas
      cases heffect : ((stakingModule parameters).execute message).effect call.block 0 store with
      | error error =>
          have hnone := (h.refused_of_error hsupply hadmissible.positive heffect).unplanned
          rw [heffect] at hends
          exact hfailed _ (by rw [Call.plan?, hmessage]; dsimp only; rw [hnone, Option.map_none])
            hends.1 hends.2
      | ok done =>
          obtain ⟨answer, after⟩ := done
          obtain ⟨bookings, hplan, hchanges⟩ := h.exists_plan heffect
          have hplanned : call.plan? parameters store =
              some (message.returnData answer, bookings) := by
            rw [Call.plan?, hmessage]
            dsimp only
            rw [hplan, Option.map_some]
          rw [heffect] at hends
          obtain ⟨hresult, hstore⟩ := hends
          rw [hadmissible.authorized] at hchanges
          rw [Call.bookings, hplanned]
          refine ⟨hstore ▸ hchanges, fun data => ?_⟩
          rw [show report.result = _ from hresult, Except.ok.injEq]
          constructor
          · rintro rfl
            exact ⟨bookings, rfl⟩
          · rintro ⟨_, hdata⟩
            exact (Prod.mk.inj (Option.some.inj hdata)).1

/-- **Calls that ask for a message end as planned for it.** If such a call does not run out of gas,
it succeeds exactly if the message passes the check and there is a plan for it, and then it returns
the answer of the plan and does what is booked in it. -/
theorem run_of_asksFor (h : Books store supply) (hsupply : supply < 2 ^ 98) {message : Message}
    (hasks : call.AsksFor message)
    (hgas : GasFree (Gateway.run ⟨stakingModule parameters, config⟩ call store gas).result) :
    let report := Gateway.run ⟨stakingModule parameters, config⟩ call store gas
    ((∃ data, report.result = .ok data) ↔ message.check = .ok () ∧ ∃ answer bookings,
        Reference.plan? parameters call.block store message = some (answer, bookings)) ∧
      ∀ data, report.result = .ok data → ∃ answer bookings,
        Reference.plan? parameters call.block store message = some (answer, bookings) ∧
          data = message.returnData answer ∧
            Changes call.caller bookings store report.store := by
  intro report
  obtain ⟨hchanges, hresult⟩ := h.run_of_plan? hsupply hasks.isQuery_eq_false hgas
  constructor
  · constructor
    · rintro ⟨data, hdata⟩
      obtain ⟨bookings, hplan⟩ := (hresult data).mp hdata
      obtain ⟨hcheck, answer, hplan, -⟩ := hasks.plan?_eq_some_iff.mp hplan
      exact ⟨hcheck, answer, bookings, hplan⟩
    · rintro ⟨hcheck, answer, bookings, hplan⟩
      exact ⟨_, (hresult _).mpr
        ⟨bookings, hasks.plan?_eq_some_iff.mpr ⟨hcheck, answer, hplan, rfl⟩⟩⟩
  · intro data hdata
    obtain ⟨bookings, hplanned⟩ := (hresult data).mp hdata
    obtain ⟨-, answer, hplan, rfl⟩ := hasks.plan?_eq_some_iff.mp hplanned
    rw [Call.bookings, hplanned, Option.elim_some] at hchanges
    exact ⟨answer, bookings, hplan, rfl, hchanges⟩

end Books

end Reference

end StakingGateway
