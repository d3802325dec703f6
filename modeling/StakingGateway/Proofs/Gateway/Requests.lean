import StakingGateway.Proofs.Gateway.Delivery

/-!
# Calls That Ask for a Message

An account that wants a message carried out in its name writes call data for it and calls the
gateway from a frame that may write (`Call.AsksFor`). Of all that stands between the caller and the
staking module, only the check of the message is then left to stop it: the call hands over the
message that it asks for if the message passes the check, and nothing otherwise
(`Call.AsksFor.message_eq_ok_iff`).

## Main definitions

* `Call.AsksFor`: the call asks for the message, in the name of the caller.

## Main statements

* `Call.AsksFor.isQuery_eq_false`: such a call asks for a change of state.
* `Call.AsksFor.message_eq_ok_iff`: what it hands over.
-/

namespace StakingGateway.Call

/-- The call asks for the message: it is made by the delegator, from a frame that may write, with
the call data of the message. Octets in memory are fewer than `2 ^ 63`. -/
structure AsksFor (call : Call) (message : Message) : Prop where
  /-- The delegator is the direct caller. -/
  authorized : message.delegator = call.caller
  /-- The frame may write. -/
  writable : call.readOnly = false
  /-- The call data are what is written for the message. -/
  data : CallData.encode (.transaction message) = .ok call.data
  /-- There are no more of them than fit in memory. -/
  length : call.data.length < 2 ^ 63

variable {call : Call} {message : Message}

/-- A call that asks for a message is routed to the method of the message. -/
theorem AsksFor.route_eq (h : call.AsksFor message) :
    RoutingTable.staking.route call.data =
      .ok (Request.transaction message).method.descriptor := by
  obtain ⟨values, hdata, -⟩ := CallData.exists_of_encode h.data
  refine RoutingTable.route_eq_ok_iff.mpr ⟨_, rfl, ?_⟩
  rw [hdata, CallData.ofArguments, List.take_left' (Selector.length_octets _)]

/-- A call that asks for a message is no query. -/
theorem AsksFor.isQuery_eq_false (h : call.AsksFor message) : call.isQuery = false := by
  rw [isQuery, h.route_eq]
  dsimp only
  rw [message.isMutating_method, Bool.not_true]

/-- The call data read as the message, and as nothing else. -/
theorem AsksFor.readMessage_eq_ok_iff (h : call.AsksFor message) {read : Message} :
    Executor.readMessage (Request.transaction message).method.descriptor call.data call.caller =
      .ok read ↔ read = message := by
  obtain ⟨values, hdata, hvalues⟩ := CallData.exists_of_encode h.data
  have hlength := h.length
  rw [hdata, CallData.ofArguments, List.length_append] at hlength
  have hfits : (Abi.encodeValues (Request.transaction message).method.inputs values).length <
      UInt64.size := lt_of_le_of_lt (by omega) (show 2 ^ 63 < UInt64.size by decide)
  have hdecode : CallData.decode (Request.transaction message).method.descriptor call.data =
      .ok (.transaction message) := by
    rw [hdata, CallData.ofArguments]
    exact (CallData.decode_eq_ok_iff hfits).mpr ⟨values, rfl, hvalues⟩
  rw [Executor.readMessage_eq_ok_iff, hdecode]
  constructor
  · rintro ⟨hread, -⟩
    exact (Request.transaction.inj (Except.ok.inj hread)).symm
  · rintro rfl
    exact ⟨rfl, fun _ => h.authorized⟩

/-- **A call hands over the message that it asks for**, if the message passes the check. -/
theorem AsksFor.message_eq_ok_iff (h : call.AsksFor message) {handed : Message} :
    call.message = .ok handed ↔ handed = message ∧ message.check = .ok () := by
  have haccess : checkWriteAccess (Request.transaction message).method.descriptor call.readOnly =
      .ok () := checkWriteAccess_eq_ok_iff.mpr fun hreadOnly => by
    rw [h.writable] at hreadOnly
    cases hreadOnly
  rw [Call.message_eq_ok_iff, h.route_eq]
  constructor
  · rintro ⟨descriptor, hroute, -, hread, hcheck⟩
    obtain rfl := Except.ok.inj hroute
    obtain rfl := h.readMessage_eq_ok_iff.mp hread
    exact ⟨rfl, hcheck⟩
  · rintro ⟨rfl, hcheck⟩
    exact ⟨_, rfl, haccess, h.readMessage_eq_ok_iff.mpr rfl, hcheck⟩

end StakingGateway.Call
