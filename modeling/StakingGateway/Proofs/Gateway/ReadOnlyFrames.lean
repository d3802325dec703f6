import StakingGateway.Proofs.Gateway.Diagnoses

/-!
# Frames That May Only Read

A contract that is called in a frame that may only read has to be kept from changing the state, and
nothing else about its calls may be different. The gateway tells from four octets: call data that
start with the selector of a method that changes the state are refused in such a frame, before
anything behind the selector is looked at, and no others are refused for that reason.

Where call data do not start so, the frame does not matter, and neither does the caller, because
anybody may ask a question. Two runs of the gateway on the same call data, in whatever frames and
for whatever callers, then give the same report, and the store is what it was
(`Gateway.run_readOnly`).

## Main statements

* `Gateway.run_of_isMutating`: such call data are refused in a frame that may only read.
* `Gateway.run_congr`: others give the same report in every frame, for every caller.
* `Gateway.run_readOnly`: the two together.
-/

namespace StakingGateway

/-! ### Routing -/

section Routing

variable {data : Bytes} {descriptor : Descriptor}

/-- What call data ask for is told by the method that they are routed to. -/
theorem RoutingTable.isMutating_iff_of_route
    (h : RoutingTable.staking.route data = .ok descriptor) :
    descriptor.isMutating = true ↔ CallData.IsMutating data := by
  obtain ⟨method, rfl, hdata⟩ := route_eq_ok_iff.mp h
  constructor
  · exact fun hmutating => ⟨method, hmutating, hdata⟩
  · rintro ⟨other, hmutating, hother⟩
    rw [hdata] at hother
    rw [Method.selector_injective (Selector.ext hother)]
    exact hmutating

/-- Anybody may ask a question. -/
theorem RoutingTable.authorization_of_route
    (h : RoutingTable.staking.route data = .ok descriptor)
    (hquery : ¬ descriptor.isMutating = true) : descriptor.authorization = .anyone := by
  obtain ⟨method, rfl, -⟩ := exists_method_of_route h
  exact if_neg hquery

end Routing

/-! ### Questions -/

namespace Executor

variable {descriptor : Descriptor}

/-- A request that anybody may make is read alike for all callers. -/
theorem readRequest_congr (h : descriptor.authorization = .anyone) (data : Bytes)
    (caller other : Address) :
    readRequest descriptor data caller = readRequest descriptor data other := by
  have hprincipal : ∀ (request : Request) (account : Address),
      checkPrincipal descriptor request account = .ok () := fun request account => by
    rw [checkPrincipal, h]
  rw [readRequest, readRequest]
  simp only [hprincipal]

/-- A question that anybody may ask is answered alike for all callers. -/
theorem query_congr (executor : Executor) (h : descriptor.authorization = .anyone) (data : Bytes)
    (caller other : Address) (store : Store) (gas : GasAccount) :
    executor.query descriptor data caller store gas =
      executor.query descriptor data other store gas := by
  rw [query, query, readQuery, readQuery, readRequest_congr h data caller other]

/-- A question leaves the store as it is. -/
theorem store_query (executor : Executor) (descriptor : Descriptor) (data : Bytes)
    (caller : Address) (store : Store) (gas : GasAccount) :
    (executor.query descriptor data caller store gas).store = store := by
  rw [query]
  cases readQuery descriptor data caller with
  | error failure => rfl
  | ok query =>
      dsimp only
      split
      · rfl
      · rfl

end Executor

/-! ### Calls -/

namespace Gateway

/-- **Call data that ask for a change of state are refused** in a frame that may only read. -/
theorem run_of_isMutating (gateway : Gateway) {call : Call} (hreadOnly : call.readOnly = true)
    (hdata : CallData.IsMutating call.data) (store : Store) (gas : GasAccount) :
    ∃ method : Method, gateway.run call store gas =
      refused .writeProtection store gas (some method.name) := by
  obtain ⟨method, hmutating, hselector⟩ := hdata
  have hroute : RoutingTable.staking.route call.data = .ok method.descriptor :=
    RoutingTable.route_eq_ok_iff.mpr ⟨method, rfl, hselector⟩
  have hrefused : checkWriteAccess method.descriptor call.readOnly = .error .writeProtection :=
    checkWriteAccess_eq_error_iff.mpr ⟨⟨hreadOnly, hmutating⟩, rfl⟩
  refine ⟨method, ?_⟩
  rw [run, hroute]
  dsimp only
  rw [hrefused]
  rfl

/-- Call data that are not routed are refused. -/
theorem run_of_route_eq_error (gateway : Gateway) {call : Call} {failure : Failure}
    (hroute : RoutingTable.staking.route call.data = .error failure) (store : Store)
    (gas : GasAccount) : gateway.run call store gas = refused failure store gas none := by
  rw [run, hroute]

/-- Call data that are routed to a question ask it, whatever the frame. -/
theorem run_of_question (gateway : Gateway) {call : Call} {descriptor : Descriptor}
    (hroute : RoutingTable.staking.route call.data = .ok descriptor)
    (hquestion : ¬ descriptor.isMutating = true) (store : Store) (gas : GasAccount) :
    let report := (gateway.executor call.block).query descriptor call.data call.caller store gas
    gateway.run call store gas =
      ⟨report, some descriptor.name, some (gas.remaining - report.gas.remaining)⟩ := by
  have haccess : checkWriteAccess descriptor call.readOnly = .ok () :=
    checkWriteAccess_eq_ok_iff.mpr fun _ => Bool.eq_false_iff.mpr hquestion
  rw [run, hroute]
  dsimp only
  rw [haccess]
  dsimp only
  rw [Executor.execute, if_neg hquestion]

/-- Call data that ask for no change of state make none. -/
theorem run_store_of_not_isMutating (gateway : Gateway) {call : Call}
    (hdata : ¬ CallData.IsMutating call.data) (store : Store) (gas : GasAccount) :
    (gateway.run call store gas).store = store := by
  cases hroute : RoutingTable.staking.route call.data with
  | error failure => rw [gateway.run_of_route_eq_error hroute, refused]
  | ok descriptor =>
      rw [gateway.run_of_question hroute (hdata ∘ (RoutingTable.isMutating_iff_of_route hroute).mp)]
      exact Executor.store_query ..

/-- **Neither the frame nor the caller matters** to call data that ask for no change of state. -/
theorem run_congr (gateway : Gateway) {data : Bytes} (hdata : ¬ CallData.IsMutating data)
    (caller other : Address) (readOnly readOnly' : Bool) (block : Block) (store : Store)
    (gas : GasAccount) :
    gateway.run ⟨data, caller, readOnly, block⟩ store gas =
      gateway.run ⟨data, other, readOnly', block⟩ store gas := by
  cases hroute : RoutingTable.staking.route data with
  | error failure => rw [gateway.run_of_route_eq_error hroute, gateway.run_of_route_eq_error hroute]
  | ok descriptor =>
      have hquestion : ¬ descriptor.isMutating = true := fun hmutating =>
        hdata ((RoutingTable.isMutating_iff_of_route hroute).mp hmutating)
      have hanyone := RoutingTable.authorization_of_route hroute hquestion
      rw [gateway.run_of_question hroute hquestion, gateway.run_of_question hroute hquestion,
        Executor.query_congr _ hanyone data caller other]

/-- **Frames that may only read.** In such a frame a call is refused for it exactly if its call data
start with the selector of a method that changes the state, whatever comes after the selector and
whoever calls; it then costs nothing, changes nothing and does not reach the staking module. All
other call data give the same report, return data and gas included, in either kind of frame and for
any two callers, and leave the store as it is. -/
theorem run_readOnly (gateway : Gateway) (data : Bytes) (caller : Address) (block : Block)
    (store : Store) (gas : GasAccount) :
    let report := gateway.run ⟨data, caller, true, block⟩ store gas
    (report.result = .error .writeProtection ↔ CallData.IsMutating data) ∧
      (CallData.IsMutating data →
        report.store = store ∧ report.gas = gas ∧ report.activity = .none) ∧
      (¬ CallData.IsMutating data →
        report.store = store ∧ ∀ (other : Address) (readOnly : Bool),
          gateway.run ⟨data, other, readOnly, block⟩ store gas = report) := by
  intro report
  let call : Call := ⟨data, caller, true, block⟩
  by_cases hdata : CallData.IsMutating data
  · have hcall : CallData.IsMutating call.data := hdata
    obtain ⟨method, hrun⟩ := gateway.run_of_isMutating rfl hcall store gas
    rw [show report = refused .writeProtection store gas (some method.name) from hrun]
    exact ⟨iff_of_true rfl hdata, fun _ => ⟨rfl, rfl, rfl⟩, absurd hdata⟩
  · have hstore : report.store = store := gateway.run_store_of_not_isMutating hdata store gas
    have hresult : report.result ≠ .error .writeProtection := fun hrefused =>
      hdata (gateway.fits_run call store gas _ hrefused).2
    refine ⟨iff_of_false hresult hdata, fun hdata' => absurd hdata' hdata, fun _ => ⟨hstore, ?_⟩⟩
    intro other readOnly
    exact gateway.run_congr hdata other caller readOnly true block store gas

end Gateway

end StakingGateway
