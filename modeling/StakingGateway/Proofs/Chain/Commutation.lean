import StakingGateway.Proofs.Chain.Conservation
import StakingGateway.Proofs.Reference.CallBookings
import StakingGateway.Proofs.Reference.Commuting

/-!
# Calls of Different Callers Commute

On a chain with a supply below `2 ^ 98`, it makes no difference in which order two callers bond,
unbond or move their tokens (`Chain.calls_commute`), be it with one validator: neither can tell from
the outcome whether the other was first, and the store is the same at the end. The plan of a call
depends on what the other caller leaves alone, so each call books the same in both orders, and the
bookings commute.

Gas is the one exception. A record that has grown by the call of the other costs more to read, so
the order may decide whether gas suffices; the statement is about calls that do not run out of it.

## Main statements

* `Chain.ends_alike`: calls end alike before and after bookings of somebody else.
* `Chain.calls_commute`: calls of different callers commute.
-/

namespace StakingGateway.Chain

open Genesis (alpha fundedAccount otherAccount)
open Reference

variable {parameters : Parameters} {config : Config} {store : Store} {supply : Nat}

/-- **A call ends alike before and after bookings of somebody else**, and books the same. -/
theorem ends_alike {call : Call} {account : Address} (hne : call.caller ≠ account)
    (hquery : call.isQuery = false) {bookings : List Booking} {after : Store}
    (hchanges : Changes account bookings store after) (h : Books store supply)
    (hafter : Books after supply) (hsupply : supply < 2 ^ 98) {gas gas' : GasAccount}
    (hgas : GasFree (Gateway.run ⟨stakingModule parameters, config⟩ call store gas).result)
    (hgas' : GasFree (Gateway.run ⟨stakingModule parameters, config⟩ call after gas').result) :
    let report := Gateway.run ⟨stakingModule parameters, config⟩ call store gas
    let report' := Gateway.run ⟨stakingModule parameters, config⟩ call after gas'
    (∀ data, report.result = .ok data ↔ report'.result = .ok data) ∧
      ∃ booked, Changes call.caller booked store report.store ∧
        Changes call.caller booked after report'.store := by
  intro report report'
  have hplan : call.plan? parameters store = call.plan? parameters after :=
    Call.plan?_congr (hchanges.agreeOn hne) fun operator => (hchanges.registered_eq operator).symm
  obtain ⟨hbooked, hresult⟩ := h.run_of_plan? hsupply hquery hgas
  obtain ⟨hbooked', hresult'⟩ := hafter.run_of_plan? hsupply hquery hgas'
  refine ⟨fun data => ?_, call.bookings parameters store, hbooked, ?_⟩
  · rw [hresult, hresult', hplan]
  · rw [Call.bookings, hplan]
    exact hbooked'

/-- **Calls of different callers commute.** Two calls that ask for changes of state, made by two
callers in either order, each in a block of its own and with gas that suffices, leave the same
store, to the octet. Either succeeds in one order if and only if it does in the other, with the same
return data. -/
theorem calls_commute {genesis : Genesis} {chain : Chain} (h : ofGenesis genesis = .ok chain)
    (hsupply : genesis.supply < 2 ^ 98) (submissions : List Submission) {x y : Call}
    (hne : x.caller ≠ y.caller) (hx : x.isQuery = false) (hy : y.isQuery = false)
    (gasX gasY gasX' gasY' : GasAccount) :
    let store := chain.gateway.storeAfter submissions chain.store
    let xFirst := chain.gateway.run x store gasX
    let yLast := chain.gateway.run y xFirst.store gasY
    let yFirst := chain.gateway.run y store gasY'
    let xLast := chain.gateway.run x yFirst.store gasX'
    GasFree xFirst.result → GasFree yLast.result → GasFree yFirst.result → GasFree xLast.result →
      yLast.store = xLast.store ∧
        (∀ data, xFirst.result = .ok data ↔ xLast.result = .ok data) ∧
        ∀ data, yLast.result = .ok data ↔ yFirst.result = .ok data := by
  intro store xFirst yLast yFirst xLast hxFirst hyLast hyFirst hxLast
  have hbooks : Books store genesis.supply := books_storeAfter h submissions
  have hbooksX : Books xFirst.store genesis.supply :=
    hbooks.books_run chain.parameters chain.config x gasX
  have hbooksY : Books yFirst.store genesis.supply :=
    hbooks.books_run chain.parameters chain.config y gasY'
  -- Each caller finds the same plan after the other, since the other has booked for itself only.
  obtain ⟨_, hchangesX⟩ := hbooks.exists_changes_run chain.parameters chain.config x gasX
  obtain ⟨_, hchangesY⟩ := hbooks.exists_changes_run chain.parameters chain.config y gasY'
  obtain ⟨hresultX, ofX, hstoreX, hstoreYX⟩ :=
    ends_alike hne hx hchangesY hbooks hbooksY hsupply hxFirst hxLast
  obtain ⟨hresultY, ofY, hstoreY, hstoreXY⟩ :=
    ends_alike hne.symm hy hchangesX hbooks hbooksX hsupply hyFirst hyLast
  have hbooksXY : Books yLast.store genesis.supply :=
    hbooksX.books_run chain.parameters chain.config y gasY
  have hbooksYX : Books xLast.store genesis.supply :=
    hbooksY.books_run chain.parameters chain.config x gasX'
  exact ⟨hstoreX.comm hne hstoreXY hstoreY hstoreYX hbooksXY hbooksYX, hresultX,
    fun data => (hresultY data).symm⟩

/-- One account takes back all that is bonded to a validator, and another one bonds 30 tokens to it.
In one order the validator has nothing in between; in both it has 30 tokens at the end. -/
theorem calls_commute_at_one_validator :
    let gas := GasAccount.full ampleGas
    let x : Call := ⟨undelegateData fundedAccount alpha 400, fundedAccount, false, ⟨101, 1006⟩⟩
    let y : Call := ⟨delegateData otherAccount alpha 30, otherAccount, false, ⟨102, 1012⟩⟩
    let store := bundled.gateway.storeAfter
      [submission fundedAccount (delegateData fundedAccount alpha 400) ⟨100, 1000⟩] bundled.store
    let xFirst := bundled.gateway.run x store gas
    let yLast := bundled.gateway.run y xFirst.store gas
    let yFirst := bundled.gateway.run y store gas
    let xLast := bundled.gateway.run x yFirst.store gas
    (bonded xFirst.store alpha = some 0 ∧ bonded yLast.store alpha = some 30) ∧
      yLast.store = xLast.store ∧
      (∀ data, xFirst.result = .ok data ↔ xLast.result = .ok data) ∧
      ∀ data, yLast.result = .ok data ↔ yFirst.result = .ok data := by
  intro gas x y store xFirst yLast yFirst xLast
  have hne : x.caller ≠ y.caller := by decide
  have hx : x.isQuery = false := by decide +kernel
  have hy : y.isQuery = false := by decide +kernel
  refine ⟨?_, calls_commute ofGenesis_bundled (by decide) _ hne hx hy gas gas gas gas
    ?_ ?_ ?_ ?_⟩
  · decide +kernel
  · exact gasFree_of_isOk (by decide +kernel)
  · exact gasFree_of_isOk (by decide +kernel)
  · exact gasFree_of_isOk (by decide +kernel)
  · exact gasFree_of_isOk (by decide +kernel)

end StakingGateway.Chain
