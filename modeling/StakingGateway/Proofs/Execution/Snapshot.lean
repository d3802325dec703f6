import StakingGateway.Execution.Executor
import StakingGateway.Proofs.Execution.Simulation
import StakingGateway.Proofs.Fallible

/-!
# Transactions as Runs over a Copy

The executor runs the transition of a message over a layer above the store and makes the changes
of the layer in the store when everything has gone well. That is an economical way to do
something simple: run the transition directly over a copy of the store, and put the copy in the
place of the store when everything has gone well. `Executor.transact_refines_runDirectly` says
that the two cannot be told apart, by the transition or by anyone who looks at the report.

## Main definitions

* `Executor.runDirectly`: the run of a message's transition over the store itself.

## Main statements

* `Executor.runMessage_agrees`: the layer makes no difference to the transition.
* `Executor.apply_changes_runMessage`: the changes of the layer make the store into the copy.
* `Executor.transact_refines_runDirectly`: nor does it make a difference to the report.
* `Executor.transact_of_runDirectly_eq_error`, `Executor.transact_eq_ok_iff`: what the report is if
  the run over the copy fails, and when the transaction succeeds.
-/

namespace StakingGateway

namespace Executor

/-- The run of the message's transition directly over the store. -/
def runDirectly (executor : Executor) (message : Message) (store : Store) :
    Outcome message.Answer :=
  (executor.stakingModule.execute message).run ⟨executor.block, executor.schedule⟩ 0
    (.base store) .empty

/-- A fresh layer makes no difference to the transition of a message. -/
theorem runMessage_agrees (executor : Executor) (message : Message) (store : Store) :
    (executor.runMessage message store).Agrees (executor.runDirectly message store) :=
  Transition.run_agrees _ _ 0 (LayeredStore.contents_push (.base store)) .empty

/-- What the transition of a message leaves in its layer are changes of the store. -/
theorem contents_runMessage (executor : Executor) (message : Message) (store : Store) :
    (executor.runMessage message store).store.contents =
      store.apply (executor.runMessage message store).store.changes :=
  LayeredStore.contents_eq (Transition.below?_run _ _ 0 (LayeredStore.base store).push .empty)

/-- Making the changes of the layer in the store gives what the transition makes of the store
when it runs directly over it. -/
theorem apply_changes_runMessage (executor : Executor) (message : Message) (store : Store) :
    (executor.runDirectly message store).store =
      .base (store.apply (executor.runMessage message store).store.changes) := by
  have hbelow : (executor.runDirectly message store).store.below? = none :=
    Transition.below?_run _ _ 0 (.base store) .empty
  obtain ⟨copy, hcopy⟩ := LayeredStore.exists_eq_base hbelow
  have hcontents := (executor.runMessage_agrees message store).contents
  rw [hcopy, contents_runMessage] at hcontents
  rw [hcopy, hcontents, LayeredStore.contents]

/-- What is made of a run depends on how it ended and on the gas that it consumed. -/
theorem settle_eq_of_agrees {message : Message} {one other : Outcome message.Answer}
    (h : one.Agrees other) (descriptor : Descriptor) (gas : GasAccount) :
    settle descriptor message one gas = settle descriptor message other gas := by
  rw [settle, h.result, h.ledger, settle]

/-- A run is settled exactly if it has an answer, the answer can be encoded, and the caller can pay
for what the run consumed. -/
theorem settle_eq_ok_iff {message : Message} {outcome : Outcome message.Answer}
    {descriptor : Descriptor} {gas left : GasAccount} {output : Bytes} :
    settle descriptor message outcome gas = .ok (output, left) ↔
      ∃ answer, outcome.result = .ok answer ∧
        ReturnData.encode descriptor (message.reply answer) = .ok output ∧
        gas.charge outcome.ledger.consumed = .ok left := by
  simp only [settle, GasLedger.since_empty, bind_eq_ok_iff, mapError_eq_ok_iff]
  constructor
  · rintro ⟨answer, hanswer, encoded, hencode, paid, hcharge, hpair⟩
    obtain ⟨rfl, rfl⟩ := Prod.mk.inj (Except.ok.inj hpair)
    exact ⟨answer, hanswer, hencode, hcharge⟩
  · rintro ⟨answer, hanswer, hencode, hcharge⟩
    exact ⟨answer, hanswer, output, hencode, left, hcharge, rfl⟩

section

variable {executor : Executor} {descriptor : Descriptor} {data : Bytes} {caller : Address}
  {message : Message} {store : Store} {gas : GasAccount}

/-- Nothing is changed if the run over the copy is not settled. -/
theorem transact_of_settle_eq_error {failure : Failure}
    (hread : readMessage descriptor data caller = .ok message) (hcheck : message.check = .ok ())
    (hsettle : settle descriptor message (executor.runDirectly message store) gas =
      .error failure) :
    executor.transact descriptor data caller store gas =
      ⟨.error failure, store, gas, [.decoding, .validating, .snapshotted, .discarded],
        .transition message (executor.runDirectly message store).log⟩ := by
  have hagrees := executor.runMessage_agrees message store
  rw [← settle_eq_of_agrees hagrees] at hsettle
  rw [transact, hread]
  simp only [hcheck, hsettle, hagrees.log]

/-- The copy takes the place of the store if the run over it is settled. -/
theorem transact_of_settle_eq_ok {paid : Bytes × GasAccount} {copy : Store}
    (hread : readMessage descriptor data caller = .ok message) (hcheck : message.check = .ok ())
    (hcopy : (executor.runDirectly message store).store = .base copy)
    (hsettle : settle descriptor message (executor.runDirectly message store) gas = .ok paid) :
    executor.transact descriptor data caller store gas =
      ⟨.ok paid.1, copy, paid.2, [.decoding, .validating, .snapshotted, .committed],
        .transition message (executor.runDirectly message store).log⟩ := by
  have hagrees := executor.runMessage_agrees message store
  rw [← settle_eq_of_agrees hagrees] at hsettle
  rw [apply_changes_runMessage, LayeredStore.base.injEq] at hcopy
  rw [transact, hread]
  simp only [hcheck, hsettle, hcopy, hagrees.log]

/-- A transaction whose run over the copy fails is rejected with the error of the run, and changes
nothing. -/
theorem transact_of_runDirectly_eq_error {error : ModuleError}
    (hread : readMessage descriptor data caller = .ok message) (hcheck : message.check = .ok ())
    (hrun : (executor.runDirectly message store).result = .error error) :
    executor.transact descriptor data caller store gas =
      ⟨.error (.rejected error), store, gas, [.decoding, .validating, .snapshotted, .discarded],
        .transition message (executor.runDirectly message store).log⟩ :=
  transact_of_settle_eq_error hread hcheck (by rw [settle, hrun]; rfl)

/-- A transaction succeeds exactly if the run over the copy has an answer that can be encoded and
the caller can pay for what the run consumed, which is then charged, and the copy takes the place
of the store. -/
theorem transact_eq_ok_iff {output : Bytes}
    (hread : readMessage descriptor data caller = .ok message)
    (hcheck : message.check = .ok ()) :
    let direct := executor.runDirectly message store
    let report := executor.transact descriptor data caller store gas
    report.result = .ok output ↔
      ∃ answer, direct.result = .ok answer ∧
        ReturnData.encode descriptor (message.reply answer) = .ok output ∧
        gas.charge direct.ledger.consumed = .ok report.gas ∧
        direct.store = .base report.store := by
  intro direct report
  have hcopy : direct.store = .base _ := executor.apply_changes_runMessage message store
  constructor
  · intro hresult
    cases hsettle : settle descriptor message direct gas with
    | error failure =>
        have hreport : report = _ := transact_of_settle_eq_error hread hcheck hsettle
        rw [hreport] at hresult
        cases hresult
    | ok paid =>
        have hreport : report = _ := transact_of_settle_eq_ok hread hcheck hcopy hsettle
        obtain ⟨answer, hanswer, hencode, hcharge⟩ := settle_eq_ok_iff.mp hsettle
        rw [hreport] at hresult ⊢
        cases hresult
        exact ⟨answer, hanswer, hencode, hcharge, hcopy⟩
  · rintro ⟨answer, hanswer, hencode, hcharge, -⟩
    have hsettle := settle_eq_ok_iff.mpr ⟨answer, hanswer, hencode, hcharge⟩
    have hreport : report = _ := transact_of_settle_eq_ok hread hcheck hcopy hsettle
    rw [hreport]

end

/-- **A layer with a commit refines a run over a copy.** Where call data ask for a message that
passes its check, let its transition, whatever program that is, run over a copy of the store. The
run in the transaction gets the same answers, ends in the same way and consumes the same gas; the
return data, or the failure, and the gas left are those that the run over the copy leads to; and
if the transaction succeeds, the store becomes the copy. -/
theorem transact_refines_runDirectly {descriptor : Descriptor} {data : Bytes} {caller : Address}
    {message : Message} (hread : readMessage descriptor data caller = .ok message)
    (hcheck : message.check = .ok ()) (executor : Executor) (store : Store) (gas : GasAccount) :
    let layered := executor.runMessage message store
    let direct := executor.runDirectly message store
    let report := executor.transact descriptor data caller store gas
    ∃ copy, direct.store = .base copy ∧
      layered.log = direct.log ∧ layered.result = direct.result ∧
      layered.ledger = direct.ledger ∧
      report.activity = .transition message direct.log ∧
      settle descriptor message direct gas = report.result.map (fun data => (data, report.gas)) ∧
      ∀ data, report.result = .ok data → report.store = copy := by
  intro layered direct report
  have hagrees : layered.Agrees direct := executor.runMessage_agrees message store
  have hcopy : direct.store = .base _ := executor.apply_changes_runMessage message store
  refine ⟨_, hcopy, hagrees.log, hagrees.result, hagrees.ledger, ?_⟩
  cases hsettle : settle descriptor message direct gas with
  | error failure =>
      have hreport : report = _ := transact_of_settle_eq_error hread hcheck hsettle
      rw [hreport]
      exact ⟨rfl, rfl, fun data hdata => nomatch hdata⟩
  | ok paid =>
      have hreport : report = _ := transact_of_settle_eq_ok hread hcheck hcopy hsettle
      rw [hreport]
      exact ⟨rfl, rfl, fun data hdata => rfl⟩

/-- A transition that deletes a key, and in a nested transaction counts what is left. -/
theorem transact_deletion_with_count :
    let count : Transition Unit := .scan [] fun found => .set [2] [.ofNat found.length] (.done ())
    let program : Transition Unit := .delete [1] (.inner count fun _ => .done ())
    let executor : Executor :=
      ⟨⟨fun | .delegate .. => program | _ => .fail (.corrupted ""), fun _ => .fail (.corrupted "")⟩,
        0, .default, ⟨1, 1⟩⟩
    let message : Message := .delegate (.ofNat 1) "v" ⟨"stake", 7⟩
    let data := CallData.ofArguments .delegate (.ofNat 1, "v", "stake", (7 : Uint256), ())
    let store : Store := .ofList [([1], [0]), ([3], [0])]
    let report := executor.transact Method.delegate.descriptor data (.ofNat 1) store (.full 10000)
    readMessage Method.delegate.descriptor data (.ofNat 1) = .ok message ∧
      message.check = .ok () ∧ report.result = .ok [] ∧
      (executor.runDirectly message store).store = .base (.ofList [([2], [1]), ([3], [0])]) := by
  intro count program executor message data store report
  have hread : readMessage Method.delegate.descriptor data (.ofNat 1) = .ok message := by
    decide +kernel
  have hcheck : message.check = .ok () := by decide +kernel
  have hresult : report.result = .ok [] := by decide +kernel
  obtain ⟨copy, hcopy, -, -, -, -, -, hstore⟩ :=
    transact_refines_runDirectly hread hcheck executor store (.full 10000)
  have hcommitted : report.store = .ofList [([2], [1]), ([3], [0])] := by decide +kernel
  refine ⟨hread, hcheck, hresult, ?_⟩
  rw [hcopy, ← hstore [] hresult, hcommitted]

end Executor

end StakingGateway
