import StakingGateway.Proofs.Gateway.Offer

/-!
# Histories of Calls

Calls are made one after the other, each by a caller with gas of its own, on the store that the call
before left. A call that fails leaves the store and the account as they were; a query that succeeds
leaves the store as it was and costs the flat fee. So a history of calls is determined by those
calls that had an effect: all others can be struck out, and what remains ends in the same store,
with the same report for each call (`Gateway.history_filter_isEffective`).

## Main definitions

* `Submission`: a call with the gas that its caller has for it.
* `Gateway.history`, `Gateway.storeAfter`: what comes of submissions, and what store they leave.
* `HistoryEntry.isEffective`: whether a submission succeeded in what was no query.

## Main statements

* `Gateway.run_eq_of_error`, `Gateway.run_eq_of_isQuery`: what a call that fails, or a query,
  leaves as it was.
* `Gateway.run_atomic`: the law of single calls and of histories.
-/

namespace StakingGateway

/-- A call with the gas that its caller has for it. -/
structure Submission where
  /-- The call. -/
  call : Call
  /-- The gas. -/
  gas : GasAccount

/-- A submission and what came of it. -/
structure HistoryEntry where
  /-- The submission. -/
  submission : Submission
  /-- What the call ended with, and how it got there. -/
  report : CallReport

/-- Whether the call succeeded and is no query. -/
def HistoryEntry.isEffective (entry : HistoryEntry) : Bool :=
  entry.report.result.isOk && !entry.submission.call.isQuery

namespace Gateway

/-- What comes of the submissions when they are made one after the other. -/
def history (gateway : Gateway) : List Submission → Store → List HistoryEntry
  | [], _ => []
  | submission :: submissions, store =>
    let report := gateway.run submission.call store submission.gas
    ⟨submission, report⟩ :: gateway.history submissions report.store

/-- The store that the submissions leave when they are made one after the other. -/
def storeAfter (gateway : Gateway) : List Submission → Store → Store
  | [], store => store
  | submission :: submissions, store =>
    gateway.storeAfter submissions (gateway.run submission.call store submission.gas).store

/-! ### One call -/

/-- A call that fails changes neither the store nor the account. -/
theorem run_eq_of_error {gateway : Gateway} {call : Call} {store : Store} {gas : GasAccount}
    {failure : Failure} (h : (gateway.run call store gas).result = .error failure) :
    (gateway.run call store gas).store = store ∧ (gateway.run call store gas).gas = gas := by
  cases hoffer : gateway.offer call store with
  | error other => exact (run_of_offer_eq_error hoffer gas).2
  | ok offer =>
      by_cases hgas : offer.cost.toNat ≤ gas.remaining.toNat
      · have hresult := (run_of_cost_le hoffer hgas).1
        rw [h] at hresult
        cases hresult
      · exact (run_of_lt_cost hoffer (by omega)).2

/-- A call that succeeds had an offer that its caller could pay for. -/
theorem exists_offer_of_ok {gateway : Gateway} {call : Call} {store : Store} {gas : GasAccount}
    {data : Bytes} (h : (gateway.run call store gas).result = .ok data) :
    ∃ offer, gateway.offer call store = .ok offer ∧
      offer.cost.toNat ≤ gas.remaining.toNat := by
  cases hoffer : gateway.offer call store with
  | error failure =>
      rw [(run_of_offer_eq_error hoffer gas).1] at h
      cases h
  | ok offer =>
      refine ⟨offer, rfl, Nat.le_of_not_lt fun hgas => ?_⟩
      rw [(run_of_lt_cost hoffer hgas).1] at h
      cases h

/-- The store that a call leaves when it succeeds does not depend on its gas. -/
theorem run_store_eq_of_ok {gateway : Gateway} {call : Call} {store : Store} {gas gas' : GasAccount}
    {data data' : Bytes} (h : (gateway.run call store gas).result = .ok data)
    (h' : (gateway.run call store gas').result = .ok data') :
    (gateway.run call store gas).store = (gateway.run call store gas').store := by
  obtain ⟨offer, hoffer, hgas⟩ := exists_offer_of_ok h
  obtain ⟨offer', hoffer', hgas'⟩ := exists_offer_of_ok h'
  obtain rfl := Except.ok.inj (hoffer.symm.trans hoffer')
  rw [(run_of_cost_le hoffer hgas).2.1, (run_of_cost_le hoffer hgas').2.1]

/-- A query that succeeds leaves the store as it is and costs the flat fee. -/
theorem run_eq_of_isQuery {gateway : Gateway} {call : Call} {store : Store} {gas : GasAccount}
    {data : Bytes} (hquery : call.isQuery = true)
    (h : (gateway.run call store gas).result = .ok data) :
    let report := gateway.run call store gas
    report.store = store ∧ report.gas.limit = gas.limit ∧
      report.gas.remaining.toNat + gateway.config.queryBaseGas.toNat = gas.remaining.toNat := by
  obtain ⟨offer, hoffer, hgas⟩ := exists_offer_of_ok h
  obtain ⟨hstore, hcost⟩ := offer_of_isQuery hquery hoffer
  obtain ⟨-, hreport, hcharged⟩ := run_of_cost_le hoffer hgas
  rw [hcost] at hcharged
  exact ⟨hreport.trans hstore, hcharged⟩

/-- A submission without effect leaves the store as it is. -/
theorem run_store_of_not_isEffective {gateway : Gateway} {submission : Submission}
    {store : Store}
    (h : ¬ HistoryEntry.isEffective
      ⟨submission, gateway.run submission.call store submission.gas⟩ = true) :
    (gateway.run submission.call store submission.gas).store = store := by
  cases hresult : (gateway.run submission.call store submission.gas).result with
  | error failure => exact (run_eq_of_error hresult).1
  | ok data =>
      have hquery : submission.call.isQuery = true := by
        simpa [HistoryEntry.isEffective, hresult, Except.isOk, Except.toBool] using h
      exact (run_eq_of_isQuery hquery hresult).1

/-! ### Histories -/

/-- A call that is made after others is made on the store that they leave. -/
theorem storeAfter_concat (gateway : Gateway) (submissions : List Submission)
    (submission : Submission) (store : Store) :
    gateway.storeAfter (submissions ++ [submission]) store =
      (gateway.run submission.call (gateway.storeAfter submissions store) submission.gas).store := by
  induction submissions generalizing store with
  | nil => rfl
  | cons earlier submissions ih => exact ih _

/-- Submissions without effect can be struck out of a history. -/
theorem history_filter_isEffective (gateway : Gateway) (submissions : List Submission)
    (store : Store) :
    let effective := (gateway.history submissions store).filter HistoryEntry.isEffective
    gateway.history (effective.map HistoryEntry.submission) store = effective ∧
      gateway.storeAfter (effective.map HistoryEntry.submission) store =
        gateway.storeAfter submissions store := by
  induction submissions generalizing store with
  | nil => exact ⟨rfl, rfl⟩
  | cons submission submissions ih =>
      obtain ⟨hhistory, hstore⟩ :=
        ih (gateway.run submission.call store submission.gas).store
      dsimp only [history, storeAfter]
      rw [List.filter_cons]
      split
      · rw [List.map_cons, history, storeAfter]
        exact ⟨congrArg _ hhistory, hstore⟩
      · next hineffective =>
          rw [run_store_of_not_isEffective hineffective] at hhistory hstore ⊢
          exact ⟨hhistory, hstore⟩

/-- **Calls are all or nothing, one by one and in histories.** A call that fails changes neither
the store nor the gas account, and a query that succeeds costs exactly the flat fee and does not
change the store. So if all calls that fail and all queries are struck out of the calls that are
made one after the other, each call that remains ends with the same report, return data and gas
included, and the store in the end is the same. -/
theorem run_atomic (gateway : Gateway) :
    (∀ (call : Call) (store : Store) (gas : GasAccount),
      let report := gateway.run call store gas
      match report.result with
      | .error _ => report.store = store ∧ report.gas = gas
      | .ok _ => call.isQuery = true →
          report.store = store ∧ report.gas.limit = gas.limit ∧
            report.gas.remaining.toNat + gateway.config.queryBaseGas.toNat =
              gas.remaining.toNat) ∧
    ∀ (submissions : List Submission) (store : Store),
      let effective := (gateway.history submissions store).filter HistoryEntry.isEffective
      gateway.history (effective.map HistoryEntry.submission) store = effective ∧
        gateway.storeAfter (effective.map HistoryEntry.submission) store =
          gateway.storeAfter submissions store := by
  refine ⟨fun call store gas => ?_, gateway.history_filter_isEffective⟩
  dsimp only
  split
  · next failure hresult => exact run_eq_of_error hresult
  · next data hresult => exact fun hquery => run_eq_of_isQuery hquery hresult

end Gateway

end StakingGateway
