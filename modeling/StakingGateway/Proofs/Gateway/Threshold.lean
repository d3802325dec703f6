import Mathlib.Logic.Basic
import StakingGateway.Proofs.Gateway.Offer

/-!
# The Gas of the Caller as a Threshold

How much gas a caller has left decides one thing about a call: whether it is enough. There is one
price for each call on each store. Who has less is told the price, and who has that much or more
gets the same return data and the same store for it. So a caller learns nothing from a call that
ran out of gas but what it would have cost, and a second try with that much gas succeeds.

The other possibility is that the call fails for a reason of its own, and then it fails in the
same way for all callers, be they rich or poor.

## Main definitions

* `Gateway.FailsAtAnyGas`: the call fails in one way, whatever gas there is.
* `Gateway.IsPriced`: the call has a price.

## Main statements

* `Gateway.isPriced_iff`, `Gateway.failsAtAnyGas_iff`: both are about the offer of the call.
* `Gateway.run_gas_threshold`: one of the two is the case, and not the other.
-/

namespace StakingGateway.Gateway

/-- The account that pays for everything. -/
def richest : GasAccount := .full (.ofNat (UInt64.size - 1))

/-- There is no cost that the richest account cannot pay. -/
theorem cost_le_richest (cost : UInt64) : cost.toNat ≤ richest.remaining.toNat :=
  Nat.le_of_lt_succ cost.toNat_lt

/-- The call fails in one way, and not for want of gas, whatever gas there is. -/
def FailsAtAnyGas (gateway : Gateway) (call : Call) (store : Store) : Prop :=
  ∃ failure, failure.isOutOfGas = false ∧
    ∀ gas, (gateway.run call store gas).result = .error failure

/-- What is offered is what everybody gets who has the gas for it, and it is what they are charged
for. Everybody else is told what it costs, and neither the store nor their account changes. -/
def IsPriced (gateway : Gateway) (call : Call) (store : Store) (offer : Offer) : Prop :=
  ∀ gas : GasAccount,
    let report := gateway.run call store gas
    if offer.cost.toNat ≤ gas.remaining.toNat then
      report.result = .ok offer.data ∧ report.store = offer.store ∧
        report.gas.limit = gas.limit ∧
        report.gas.remaining.toNat + offer.cost.toNat = gas.remaining.toNat
    else
      report.result = .error (.outOfGas offer.cost gas.remaining) ∧ report.store = store ∧
        report.gas = gas

/-- What a call is priced for is what it offers. -/
theorem isPriced_iff {gateway : Gateway} {call : Call} {store : Store} {offer : Offer} :
    gateway.IsPriced call store offer ↔ gateway.offer call store = .ok offer := by
  constructor
  · intro h
    have hrich := h richest
    dsimp only at hrich
    rw [if_pos (cost_le_richest offer.cost)] at hrich
    obtain ⟨hresult, hstore, -, hremaining⟩ := hrich
    cases hoffer : gateway.offer call store with
    | error failure =>
        rw [(run_of_offer_eq_error hoffer richest).1] at hresult
        cases hresult
    | ok other =>
        obtain ⟨hresult', hstore', -, hremaining'⟩ :=
          run_of_cost_le hoffer (cost_le_richest other.cost)
        have hdata : other.data = offer.data :=
          Except.ok.inj (hresult'.symm.trans hresult)
        have hstores : other.store = offer.store := hstore'.symm.trans hstore
        have hcost : other.cost = offer.cost := UInt64.toNat_inj.mp (by omega)
        exact congrArg Except.ok (Offer.ext hdata hstores hcost)
  · intro h gas
    dsimp only
    split
    · next hle => exact run_of_cost_le h hle
    · next hle => exact run_of_lt_cost h (by omega)

/-- A call fails at any gas if it has nothing to offer. -/
theorem failsAtAnyGas_iff {gateway : Gateway} {call : Call} {store : Store} :
    gateway.FailsAtAnyGas call store ↔ ∃ failure, gateway.offer call store = .error failure := by
  constructor
  · rintro ⟨failure, -, h⟩
    cases hoffer : gateway.offer call store with
    | error other => exact ⟨other, rfl⟩
    | ok offer =>
        have hresult := (run_of_cost_le hoffer (cost_le_richest offer.cost)).1
        rw [h richest] at hresult
        cases hresult
  · rintro ⟨failure, h⟩
    refine ⟨failure, gateway.gasFree_offer call store failure h, fun gas => ?_⟩
    exact (run_of_offer_eq_error h gas).1

/-- **Gas is a threshold.** Either a call fails in one way, and not for want of gas, whatever gas
the caller has, or it has a price: with that much gas the caller gets return data and a store that
are the same for all callers and is charged the price, and with less the call runs out of gas,
says what the price is, and changes nothing. It is never both. The price of a query is the flat
fee. -/
theorem run_gas_threshold (gateway : Gateway) (call : Call) (store : Store) :
    Xor (gateway.FailsAtAnyGas call store) (∃ offer, gateway.IsPriced call store offer) ∧
      ∀ offer, gateway.IsPriced call store offer → call.isQuery = true →
        offer.cost = gateway.config.queryBaseGas := by
  simp only [failsAtAnyGas_iff, isPriced_iff]
  refine ⟨?_, fun offer hoffer hquery => (offer_of_isQuery hquery hoffer).2⟩
  cases gateway.offer call store with
  | error failure =>
      refine .inl ⟨⟨failure, rfl⟩, ?_⟩
      rintro ⟨offer, hoffer⟩
      cases hoffer
  | ok offer =>
      refine .inr ⟨⟨offer, rfl⟩, ?_⟩
      rintro ⟨failure, hfailure⟩
      cases hfailure

/-- One octet written under a key of one octet has a price of `2000 + 30 * 2`. -/
example :
    let gateway : Gateway :=
      ⟨⟨fun | .delegate .. => .set [1] [2] (.done ()) | _ => .fail (.corrupted ""),
        fun _ => .fail (.corrupted "")⟩, .default⟩
    let data := CallData.ofArguments .delegate (.ofNat 1, "v", "stake", (7 : Uint256), ())
    let call : Call := ⟨data, .ofNat 1, false, ⟨1, 1⟩⟩
    (gateway.run call ∅ (.full 2060)).result.isOk = true ∧
      (gateway.run call ∅ (.full 2059)).result.isOk = false := by
  intro gateway data call
  decide +kernel

end StakingGateway.Gateway
