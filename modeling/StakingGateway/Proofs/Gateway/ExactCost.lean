import StakingGateway.Proofs.Execution.Metering
import StakingGateway.Proofs.Gateway.Delivery

/-!
# Calls Are Charged What They Cost

Amounts of gas saturate, and a saturated amount is less than the cost that it stands for. Nobody
profits from that. A call that commits is charged the exact cost of all accesses of the transition,
as an integer of any size, nested transactions that failed included; and a transition that costs
more than its caller has left commits nothing (`Gateway.run_charges_exact_cost`). The caller has
less than the largest amount left, so a ledger that stands at the largest amount is never paid.

## Main definitions

* `Gateway.exactCost`: the exact cost of the transition of a message.

## Main statements

* `Gateway.consumed_runMessage`: what the ledger shows after the transition.
* `Gateway.run_charges_exact_cost`: what a call is charged.
-/

namespace StakingGateway.Gateway

/-- The exact cost of all accesses of the transition of a message. -/
def exactCost (gateway : Gateway) (block : Block) (message : Message) (store : Store) : Nat :=
  gateway.config.schedule.totalCost
    ((gateway.stakingModule.execute message).accesses ⟨block, gateway.config.schedule⟩ 0
      (LayeredStore.base store).push .empty)

/-- After the transition of a message the ledger shows its exact cost, or the largest amount. -/
theorem consumed_runMessage (gateway : Gateway) (block : Block) (message : Message)
    (store : Store) :
    ((gateway.executor block).runMessage message store).ledger.consumed.toNat =
      min (gateway.exactCost block message store) maxGas := by
  have hconsumed := Transition.consumed_run ⟨block, gateway.config.schedule⟩
    (gateway.stakingModule.execute message) 0 (LayeredStore.base store).push .empty
  have hempty : GasLedger.empty.consumed.toNat = 0 := rfl
  rwa [hempty, Nat.zero_add] at hconsumed

/-- A call with a message reports as gas used what its account has less. -/
theorem gasUsed?_of_message {call : Call} {message : Message} (h : call.message = .ok message)
    (gateway : Gateway) (store : Store) (gas : GasAccount) :
    let report := gateway.run call store gas
    report.gasUsed? = some (gas.remaining - report.gas.remaining) := by
  obtain ⟨descriptor, hroute, haccess, -, -⟩ := Call.message_eq_ok_iff.mp h
  dsimp only
  rw [run, hroute]
  dsimp only
  rw [haccess]

/-- **A commit is never charged too little.** Let a call with less than the largest amount of gas
left hand a message to the staking module, and let its transition succeed. The call succeeds
exactly if the exact cost of all accesses of the transition is at most the gas left. Then the
account drops by exactly that cost, and the interpreter is told exactly that cost as gas used.
Otherwise the call is out of gas, and neither the store nor the account changes. -/
theorem run_charges_exact_cost {gateway : Gateway} {call : Call} {store : Store}
    {gas : GasAccount} {message : Message} {log : List Observation} {answer : message.Answer}
    (hgas : gas.remaining.toNat < maxGas)
    (hactivity : (gateway.run call store gas).activity = .transition message log)
    (hanswer : ((gateway.executor call.block).runMessage message store).result = .ok answer) :
    let cost := gateway.exactCost call.block message store
    let report := gateway.run call store gas
    ((∃ data, report.result = .ok data) ↔ cost ≤ gas.remaining.toNat) ∧
    (cost ≤ gas.remaining.toNat →
      report.gas.limit = gas.limit ∧ report.gas.remaining.toNat + cost = gas.remaining.toNat ∧
        ∃ output, report.interpreted = .ok output ∧ output.gasUsed.toNat = cost) ∧
    (gas.remaining.toNat < cost →
      (∃ required, report.result = .error (.outOfGas required gas.remaining)) ∧
        report.interpreted = .error .outOfGas ∧ report.store = store ∧ report.gas = gas) := by
  intro cost report
  obtain ⟨hmessage, -⟩ := activity_eq_transition_iff.mp hactivity
  have hoffer := offer_of_message hmessage gateway store
  simp only [hanswer] at hoffer
  have hconsumed : ((gateway.executor call.block).runMessage message store).ledger.consumed.toNat =
      min cost maxGas := gateway.consumed_runMessage call.block message store
  -- A cost that the account can pay is below the largest amount, so it has not saturated.
  rcases Nat.lt_or_ge gas.remaining.toNat cost with hlt | hle
  · have hpoor : gas.remaining.toNat <
        ((gateway.executor call.block).runMessage message store).ledger.consumed.toNat := by omega
    obtain ⟨hresult, hstore, haccount⟩ := run_of_lt_cost hoffer hpoor
    refine ⟨iff_of_false ?_ (by omega), by omega, fun _ => ⟨⟨_, hresult⟩, ?_, hstore, haccount⟩⟩
    · rintro ⟨paid, hpaid⟩
      cases hpaid.symm.trans hresult
    · rw [CallReport.interpreted, hresult]
      rfl
  · have hrich : ((gateway.executor call.block).runMessage message store).ledger.consumed.toNat ≤
        gas.remaining.toNat := by omega
    obtain ⟨hresult, -, hlimit, hpaid⟩ := run_of_cost_le hoffer hrich
    have hcost : ((gateway.executor call.block).runMessage message store).ledger.consumed.toNat =
        cost := by omega
    have hremaining : report.gas.remaining.toNat + cost = gas.remaining.toNat := hcost ▸ hpaid
    refine ⟨iff_of_true ⟨_, hresult⟩ hle, fun _ => ⟨hlimit, hremaining, ?_⟩, by omega⟩
    refine ⟨⟨gas.remaining - report.gas.remaining, message.returnData answer⟩, ?_, ?_⟩
    · rw [CallReport.interpreted, hresult, gasUsed?_of_message hmessage]
      rfl
    · dsimp only
      rw [UInt64.toNat_sub_of_le _ _ (UInt64.le_iff_toNat_le.mpr (by omega))]
      omega

/-- A transition that writes a key, reads it in a nested transaction that fails, and succeeds. What
it read is paid for. -/
theorem run_charges_failed_nested_read :
    let body : Transition Unit := .get [1] fun _ => .fail (.corrupted "")
    let program : Transition Unit := .set [1] [2] (.inner body fun _ => .done ())
    let gateway : Gateway :=
      ⟨⟨fun | .delegate .. => program | _ => .fail (.corrupted ""),
        fun _ => .fail (.corrupted "")⟩, .default⟩
    let message : Message := .delegate (.ofNat 1) "v" ⟨"stake", 7⟩
    let data := CallData.ofArguments .delegate (.ofNat 1, "v", "stake", (7 : Uint256), ())
    let call : Call := ⟨data, .ofNat 1, false, ⟨1, 1⟩⟩
    let gas : GasAccount := .full 5000
    (∃ log, (gateway.run call ∅ gas).activity = .transition message log) ∧
      (∃ answer : message.Answer,
        ((gateway.executor call.block).runMessage message ∅).result = .ok answer) ∧
      gateway.exactCost call.block message ∅ = (2000 + 30 * 2) + (1000 + 3 * 2) ∧
      (gateway.run call ∅ gas).gas.remaining.toNat = 5000 - 3066 := by
  intro body program gateway message data call gas
  have hmessage : call.message = .ok message := by decide +kernel
  have hanswer : ((gateway.executor call.block).runMessage message ∅).result = .ok () := rfl
  have hcost : gateway.exactCost call.block message ∅ = (2000 + 30 * 2) + (1000 + 3 * 2) := by
    decide +kernel
  have hactivity : (gateway.run call ∅ gas).activity =
      .transition message ((gateway.executor call.block).runMessage message ∅).log :=
    activity_eq_transition_iff.mpr ⟨hmessage, rfl⟩
  have hgas : gas.remaining.toNat < maxGas := by decide
  obtain ⟨-, hpaid, -⟩ := run_charges_exact_cost hgas hactivity hanswer
  have hremaining := (hpaid (by rw [hcost]; decide)).2.1
  rw [hcost] at hremaining
  have hleft : gas.remaining.toNat = 5000 := rfl
  exact ⟨⟨_, hactivity⟩, ⟨(), hanswer⟩, hcost, by omega⟩

end StakingGateway.Gateway
