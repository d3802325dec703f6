import StakingGateway.Gateway.Call
import StakingGateway.Proofs.Fallible

/-!
# Offers

What a call does is found out before anybody is charged: the request is read and checked, the
staking module answers it, and the answer is encoded, all without a look at the gas that the
caller has. What comes out is an offer: the return data and the store that the caller can have,
and what they cost. The gas account is asked for the first time when the offer is on the table,
and the caller takes all of it or nothing (`Gateway.ending_run`).

Everything about calls that involves the gas of the caller follows from that, because
`Gateway.offer` does not take a gas account.

## Main definitions

* `Offer`: return data, a store, and their cost.
* `Gateway.offer`: what a call can have, or why it can have nothing.
* `conclude`: how a call ends that has an offer.
* `Call.isQuery`: whether a call asks about the state.
* `GasFree`, `RefusesOnly`: steps that do not fail for want of gas, and steps that fail only by
  turning the request away.

## Main statements

* `GasAccount.charge_eq_ok_iff`, `GasAccount.charge_eq_error_iff`: when a charge succeeds.
* `Gateway.ending_run`: a call is charged for its offer, and nothing else happens.
* `Gateway.run_of_offer_eq_error`, `Gateway.run_of_cost_le`, `Gateway.run_of_lt_cost`: the three
  ways for a call to end.
* `Gateway.offer_of_isQuery`: queries offer the store as it is, at the flat fee.
* `Gateway.gasFree_offer`: no call is without an offer for want of gas.
-/

namespace StakingGateway

/-! ### Accounts -/

namespace GasAccount

/-- A charge succeeds if what is left afterwards and the amount add up to what was left. -/
theorem charge_eq_ok_iff {account after : GasAccount} {amount : UInt64} :
    account.charge amount = .ok after ↔
      after.limit = account.limit ∧
        after.remaining.toNat + amount.toNat = account.remaining.toNat := by
  rw [charge]
  split
  · next h =>
      have hsub := UInt64.toNat_sub_of_le _ _ (UInt64.le_iff_toNat_le.mpr h)
      rw [Except.ok.injEq, GasAccount.ext_iff, ← UInt64.toNat_inj (a := account.remaining - amount)]
      constructor
      · rintro ⟨hlimit, hremaining⟩
        exact ⟨hlimit.symm, by omega⟩
      · rintro ⟨hlimit, hremaining⟩
        exact ⟨hlimit.symm, by omega⟩
  · next h =>
      constructor
      · intro hok
        cases hok
      · rintro ⟨-, hremaining⟩
        omega

/-- A charge fails if less is left than the amount, and says so. -/
theorem charge_eq_error_iff {account : GasAccount} {amount : UInt64} {failure : Failure} :
    account.charge amount = .error failure ↔
      account.remaining.toNat < amount.toNat ∧ .outOfGas amount account.remaining = failure := by
  rw [charge]
  split
  · next h =>
      constructor
      · intro herror
        cases herror
      · rintro ⟨hlt, -⟩
        omega
  · next h => rw [Except.error.injEq, and_iff_right (by omega)]

end GasAccount

/-! ### Offers -/

/-- What a call can have. -/
@[ext] structure Offer where
  /-- The return data. -/
  data : Bytes
  /-- The store. -/
  store : Store
  /-- What they cost. -/
  cost : UInt64

/-- What the result, the store and the gas account are after a report. -/
def Report.ending (report : Report) : Except Failure Bytes × Store × GasAccount :=
  (report.result, report.store, report.gas)

/-- How a call ends that has the offer: if the account pays for it, with all that is offered, and
otherwise with nothing changed. -/
def conclude (offer : Except Failure Offer) (store : Store) (gas : GasAccount) :
    Except Failure Bytes × Store × GasAccount :=
  match offer with
  | .error failure => (.error failure, store, gas)
  | .ok offer =>
    match gas.charge offer.cost with
    | .error failure => (.error failure, store, gas)
    | .ok left => (.ok offer.data, offer.store, left)

namespace Executor

/-- What call data of a method that changes the state can have. -/
def offerTransaction (executor : Executor) (descriptor : Descriptor) (data : Bytes)
    (caller : Address) (store : Store) : Except Failure Offer := do
  let message ← readMessage descriptor data caller
  message.check.mapError .invalidMessage
  let outcome := executor.runMessage message store
  let answer ← outcome.result.mapError .rejected
  let data ← (ReturnData.encode descriptor (message.reply answer)).mapError .encode
  return ⟨data, store.apply outcome.store.changes, outcome.ledger.consumed⟩

/-- What call data of a method that asks about the state can have. -/
def offerQuery (executor : Executor) (descriptor : Descriptor) (data : Bytes)
    (caller : Address) (store : Store) : Except Failure Offer := do
  let query ← readQuery descriptor data caller
  let answer ← ((executor.stakingModule.answer query).run executor.block store).1.mapError
    Failure.ofQueryError
  let data ← (ReturnData.encode descriptor (query.reply answer)).mapError .encode
  return ⟨data, store, executor.queryBaseGas⟩

/-- What call data of any method can have. -/
def offer (executor : Executor) (descriptor : Descriptor) (data : Bytes) (caller : Address)
    (store : Store) : Except Failure Offer :=
  if descriptor.isMutating then executor.offerTransaction descriptor data caller store
  else executor.offerQuery descriptor data caller store

/-- A transaction is charged for its offer. -/
theorem ending_transact (executor : Executor) (descriptor : Descriptor) (data : Bytes)
    (caller : Address) (store : Store) (gas : GasAccount) :
    (executor.transact descriptor data caller store gas).ending =
      conclude (executor.offerTransaction descriptor data caller store) store gas := by
  rw [transact, offerTransaction]
  cases readMessage descriptor data caller with
  | error failure => rfl
  | ok message =>
      rw [ok_bind]
      dsimp only
      cases message.check with
      | error fault => rfl
      | ok =>
          dsimp only [settle]
          cases (executor.runMessage message store).result with
          | error error => rfl
          | ok answer =>
              simp only [mapError_ok, ok_bind]
              cases ReturnData.encode descriptor (message.reply answer) with
              | error fault => rfl
              | ok data =>
                  rw [GasLedger.since_empty]
                  change _ = conclude (.ok _) store gas
                  rw [conclude]
                  cases gas.charge (executor.runMessage message store).ledger.consumed with
                  | error failure => rfl
                  | ok left => rfl

/-- A query is charged for its offer. -/
theorem ending_query (executor : Executor) (descriptor : Descriptor) (data : Bytes)
    (caller : Address) (store : Store) (gas : GasAccount) :
    (executor.query descriptor data caller store gas).ending =
      conclude (executor.offerQuery descriptor data caller store) store gas := by
  rw [query, offerQuery]
  cases readQuery descriptor data caller with
  | error failure => rfl
  | ok query =>
      rw [ok_bind]
      dsimp only [serve]
      cases ((executor.stakingModule.answer query).run executor.block store).1 with
      | error error => rfl
      | ok answer =>
          simp only [mapError_ok, ok_bind]
          cases ReturnData.encode descriptor (query.reply answer) with
          | error fault => rfl
          | ok data =>
              change _ = conclude (.ok _) store gas
              rw [conclude]
              cases gas.charge executor.queryBaseGas with
              | error failure => rfl
              | ok left => rfl

/-- Call data of any method are charged for their offer. -/
theorem ending_execute (executor : Executor) (descriptor : Descriptor) (data : Bytes)
    (caller : Address) (store : Store) (gas : GasAccount) :
    (executor.execute descriptor data caller store gas).ending =
      conclude (executor.offer descriptor data caller store) store gas := by
  rw [execute, offer]
  split
  · exact executor.ending_transact descriptor data caller store gas
  · exact executor.ending_query descriptor data caller store gas

end Executor

namespace Gateway

/-- What a call can have, or why it can have nothing. -/
def offer (gateway : Gateway) (call : Call) (store : Store) : Except Failure Offer := do
  let descriptor ← RoutingTable.staking.route call.data
  checkWriteAccess descriptor call.readOnly
  (gateway.executor call.block).offer descriptor call.data call.caller store

/-- **A call is charged for its offer**, and ends with all of it or with nothing changed. -/
theorem ending_run (gateway : Gateway) (call : Call) (store : Store) (gas : GasAccount) :
    (gateway.run call store gas).toReport.ending =
      conclude (gateway.offer call store) store gas := by
  rw [run, offer]
  cases RoutingTable.staking.route call.data with
  | error failure => rfl
  | ok descriptor =>
      rw [ok_bind]
      dsimp only
      cases checkWriteAccess descriptor call.readOnly with
      | error failure => rfl
      | ok =>
          exact (gateway.executor call.block).ending_execute descriptor call.data call.caller
            store gas

/-- A call without an offer fails, and nothing changes. -/
theorem run_of_offer_eq_error {gateway : Gateway} {call : Call} {store : Store}
    {failure : Failure} (h : gateway.offer call store = .error failure) (gas : GasAccount) :
    let report := gateway.run call store gas
    report.result = .error failure ∧ report.store = store ∧ report.gas = gas := by
  intro report
  have hending : report.toReport.ending = (.error failure, store, gas) := by
    rw [ending_run, h, conclude]
  simpa only [Report.ending, Prod.mk.injEq] using hending

/-- A call with an offer that the caller can pay for ends with all of it. -/
theorem run_of_cost_le {gateway : Gateway} {call : Call} {store : Store} {offer : Offer}
    (h : gateway.offer call store = .ok offer) {gas : GasAccount}
    (hgas : offer.cost.toNat ≤ gas.remaining.toNat) :
    let report := gateway.run call store gas
    report.result = .ok offer.data ∧ report.store = offer.store ∧
      report.gas.limit = gas.limit ∧
      report.gas.remaining.toNat + offer.cost.toNat = gas.remaining.toNat := by
  intro report
  cases hcharge : gas.charge offer.cost with
  | error failure =>
      obtain ⟨hlt, -⟩ := GasAccount.charge_eq_error_iff.mp hcharge
      omega
  | ok left =>
      have hending : report.toReport.ending = (.ok offer.data, offer.store, left) := by
        rw [ending_run, h, conclude, hcharge]
      simp only [Report.ending, Prod.mk.injEq] at hending
      obtain ⟨hresult, hstore, rfl⟩ := hending
      exact ⟨hresult, hstore, GasAccount.charge_eq_ok_iff.mp hcharge⟩

/-- A call with an offer that the caller cannot pay for fails, and nothing changes. -/
theorem run_of_lt_cost {gateway : Gateway} {call : Call} {store : Store} {offer : Offer}
    (h : gateway.offer call store = .ok offer) {gas : GasAccount}
    (hgas : gas.remaining.toNat < offer.cost.toNat) :
    let report := gateway.run call store gas
    report.result = .error (.outOfGas offer.cost gas.remaining) ∧ report.store = store ∧
      report.gas = gas := by
  intro report
  have hcharge : gas.charge offer.cost = .error (.outOfGas offer.cost gas.remaining) :=
    GasAccount.charge_eq_error_iff.mpr ⟨hgas, rfl⟩
  have hending : report.toReport.ending =
      (.error (.outOfGas offer.cost gas.remaining), store, gas) := by
    rw [ending_run, h, conclude, hcharge]
  simpa only [Report.ending, Prod.mk.injEq] using hending

end Gateway

/-! ### Queries -/

/-- Whether the call is routed to a method that asks about the state. -/
def Call.isQuery (call : Call) : Bool :=
  match RoutingTable.staking.route call.data with
  | .error _ => false
  | .ok descriptor => !descriptor.isMutating

/-- A query offers the store as it is, at the flat fee. -/
theorem Executor.eq_of_offerQuery {executor : Executor} {descriptor : Descriptor} {data : Bytes}
    {caller : Address} {store : Store} {offer : Offer}
    (h : executor.offerQuery descriptor data caller store = .ok offer) :
    offer.store = store ∧ offer.cost = executor.queryBaseGas := by
  obtain ⟨query, -, h⟩ := bind_eq_ok_iff.mp h
  obtain ⟨answer, -, h⟩ := bind_eq_ok_iff.mp h
  obtain ⟨encoded, -, h⟩ := bind_eq_ok_iff.mp h
  obtain rfl := Except.ok.inj h
  exact ⟨rfl, rfl⟩

/-- Calls that are queries offer the store as it is, at the flat fee. -/
theorem Gateway.offer_of_isQuery {gateway : Gateway} {call : Call} {store : Store}
    {offer : Offer} (hquery : call.isQuery = true) (h : gateway.offer call store = .ok offer) :
    offer.store = store ∧ offer.cost = gateway.config.queryBaseGas := by
  obtain ⟨descriptor, hroute, h⟩ := bind_eq_ok_iff.mp h
  obtain ⟨-, -, h⟩ := bind_eq_ok_iff.mp h
  rw [Call.isQuery, hroute] at hquery
  have hmutating : ¬ descriptor.isMutating = true := by simpa using hquery
  rw [Executor.offer, if_neg hmutating] at h
  exact Executor.eq_of_offerQuery h

/-! ### Failures -/

/-- Whether the failure is for want of gas. -/
def Failure.isOutOfGas : Failure → Bool
  | .outOfGas .. => true
  | _ => false

/-- Whether a request is turned away with the failure before anybody answers it. -/
def Failure.isRefusal : Failure → Bool
  | .unknownMethod _ => true
  | .decode _ => true
  | .unauthorized .. => true
  | .writeProtection => true
  | .invalidMessage _ => true
  | _ => false

/-- The step does not fail for want of gas. -/
def GasFree {α : Type} (x : Except Failure α) : Prop :=
  FailsOnlyWith (fun failure => failure.isOutOfGas = false) x

/-- The step fails only by turning the request away. -/
def RefusesOnly {α : Type} (x : Except Failure α) : Prop :=
  FailsOnlyWith (fun failure => failure.isRefusal = true) x

/-- A step that succeeds does not fail for want of gas. -/
theorem gasFree_of_isOk {α : Type} {x : Except Failure α} (h : x.isOk = true) : GasFree x := by
  cases x with
  | ok a => exact failsOnlyWith_ok _ a
  | error failure => cases h

/-- No request is turned away for want of gas. -/
theorem RefusesOnly.gasFree {α : Type} {x : Except Failure α} (h : RefusesOnly x) : GasFree x := by
  refine h.mono fun failure hrefusal => ?_
  cases failure with
  | outOfGas required remaining => cases hrefusal
  | unknownMethod | decode | encode | unauthorized | writeProtection | invalidMessage | rejected |
      notFound => rfl

/-- Call data that are for no method are turned away. -/
theorem RoutingTable.refusesOnly_route (table : RoutingTable) (data : Bytes) :
    RefusesOnly (table.route data) := by
  rw [route]
  split
  · exact failsOnlyWith_error rfl
  · split
    · exact failsOnlyWith_error rfl
    · exact failsOnlyWith_ok _ _

/-- A frame that may not write turns the request away. -/
theorem refusesOnly_checkWriteAccess (descriptor : Descriptor) (readOnly : Bool) :
    RefusesOnly (checkWriteAccess descriptor readOnly) := by
  rw [checkWriteAccess]
  split
  · exact failsOnlyWith_error rfl
  · exact failsOnlyWith_ok _ ()

namespace Executor

/-- A request that cannot be read, or is not the caller's to make, is turned away. -/
theorem refusesOnly_readRequest (descriptor : Descriptor) (data : Bytes) (caller : Address) :
    RefusesOnly (readRequest descriptor data caller) := by
  refine .bind ?_ fun request => .bind ?_ fun _ => failsOnlyWith_ok _ request
  · exact failsOnlyWith_mapError (by intro fault; rfl) _
  · rw [checkPrincipal]
    split
    · exact failsOnlyWith_ok _ ()
    · split
      · exact failsOnlyWith_ok _ ()
      · exact failsOnlyWith_error rfl

/-- So is one that is no message where a message is expected. -/
theorem refusesOnly_readMessage (descriptor : Descriptor) (data : Bytes) (caller : Address) :
    RefusesOnly (readMessage descriptor data caller) := by
  refine .bind (refusesOnly_readRequest descriptor data caller) fun request => ?_
  cases request with
  | transaction message => exact failsOnlyWith_ok _ message
  | query query => exact failsOnlyWith_error rfl

/-- And one that is no query where a query is expected. -/
theorem refusesOnly_readQuery (descriptor : Descriptor) (data : Bytes) (caller : Address) :
    RefusesOnly (readQuery descriptor data caller) := by
  refine .bind (refusesOnly_readRequest descriptor data caller) fun request => ?_
  cases request with
  | transaction message => exact failsOnlyWith_error rfl
  | query query => exact failsOnlyWith_ok _ query

/-- The staking module does not see the gas of the caller, nor does the answer's encoding. -/
theorem gasFree_offerTransaction (executor : Executor) (descriptor : Descriptor) (data : Bytes)
    (caller : Address) (store : Store) :
    GasFree (executor.offerTransaction descriptor data caller store) := by
  refine .bind (refusesOnly_readMessage descriptor data caller).gasFree fun message => ?_
  refine .bind ?_ fun _ => .bind ?_ fun answer => .bind ?_ fun encoded => failsOnlyWith_ok _ _
  · exact failsOnlyWith_mapError (by intro fault; rfl) _
  · exact failsOnlyWith_mapError (by intro error; rfl) _
  · exact failsOnlyWith_mapError (by intro fault; rfl) _

/-- Nor do they for a query. -/
theorem gasFree_offerQuery (executor : Executor) (descriptor : Descriptor) (data : Bytes)
    (caller : Address) (store : Store) :
    GasFree (executor.offerQuery descriptor data caller store) := by
  refine .bind (refusesOnly_readQuery descriptor data caller).gasFree fun query => ?_
  refine .bind ?_ fun answer => .bind ?_ fun encoded => failsOnlyWith_ok _ _
  · refine failsOnlyWith_mapError (fun error => ?_) _
    cases error with
    | notFound description => rfl
    | corrupted reason => rfl
  · exact failsOnlyWith_mapError (by intro fault; rfl) _

end Executor

/-- No call is without an offer for want of gas. -/
theorem Gateway.gasFree_offer (gateway : Gateway) (call : Call) (store : Store) :
    GasFree (gateway.offer call store) := by
  refine .bind (RoutingTable.staking.refusesOnly_route call.data).gasFree fun descriptor => ?_
  refine .bind (refusesOnly_checkWriteAccess descriptor call.readOnly).gasFree fun _ => ?_
  rw [Executor.offer]
  split
  · exact Executor.gasFree_offerTransaction _ descriptor call.data call.caller store
  · exact Executor.gasFree_offerQuery _ descriptor call.data call.caller store

end StakingGateway
