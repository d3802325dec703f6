import Mathlib.Data.List.Nodup
import StakingGateway.Proofs.CallData
import StakingGateway.Proofs.Gateway.Offer
import StakingGateway.Proofs.Interface.Routing

/-!
# Messages and Their Delivery

A call hands a message to the staking module, or it hands none. Which message that is, if any, can
be told from the call alone: neither the store, nor the gas, nor the module has a say in it
(`Gateway.activity_eq_transition_iff`). If a message is handed over, all that happens to the store
and the account follows from the run of its transition (`Gateway.offer_of_message`), for every
answer to a message has return data.

## Main definitions

* `Call.message`: the message that a call hands to the staking module.
* `Message.returnData`: the return data of an answer to a message.

## Main statements

* `RoutingTable.route_eq_ok_iff`, `RoutingTable.route_eq_error_iff`: calls are routed by their
  selectors.
* `Gateway.activity_eq_transition_iff`: the staking module runs the transition of that message.
* `Gateway.offer_of_message`: what a call with a message can have.
* `Gateway.offer_store_of_error`: a call without a message leaves the store as it is.
-/

namespace StakingGateway

/-! ### Routing -/

/-- All methods are listed. -/
theorem Method.mem_all (method : Method) : method ∈ Method.all := by
  cases method <;> decide

/-- No two methods have the same selector. -/
theorem Method.selector_injective : Function.Injective Method.selector := by
  intro one other h
  have hnodup : (Method.all.map Method.selector).Nodup := by decide
  exact List.inj_on_of_nodup_map hnodup one.mem_all other.mem_all h

namespace RoutingTable

/-- Call data are routed to the method whose selector they start with. -/
theorem route_eq_ok_iff {data : Bytes} {descriptor : Descriptor} :
    staking.route data = .ok descriptor ↔
      ∃ method : Method, descriptor = method.descriptor ∧
        data.take 4 = method.selector.octets := by
  rw [route_eq_ok_iff_mem]
  constructor
  · rintro ⟨hmem, hdata⟩
    obtain ⟨method, -, rfl⟩ := List.mem_map.mp hmem
    exact ⟨method, rfl, hdata⟩
  · rintro ⟨method, rfl, hdata⟩
    exact ⟨List.mem_map_of_mem method.mem_all, hdata⟩

/-- Call data are not routed if they are too short for a selector, or start with one that is of no
method. -/
theorem route_eq_error_iff {data : Bytes} {failure : Failure} :
    staking.route data = .error failure ↔
      (data.length < 4 ∧ failure = .decode (.missingSelector data.length)) ∨
        ∃ selector, failure = .unknownMethod selector ∧ data.take 4 = selector.octets ∧
          ∀ method : Method, data.take 4 ≠ method.selector.octets := by
  have hlisted (h : ∀ method : Method, data.take 4 ≠ method.selector.octets) :
      ∀ descriptor ∈ staking.descriptors, data.take 4 ≠ descriptor.selector.octets := by
    intro descriptor hmem
    obtain ⟨method, -, rfl⟩ := List.mem_map.mp hmem
    exact h method
  constructor
  · intro h
    have hunrouted (method : Method) : data.take 4 ≠ method.selector.octets := fun hdata => by
      rw [route_eq_ok_iff.mpr ⟨method, rfl, hdata⟩] at h
      cases h
    by_cases hshort : data.length < 4
    · rw [route_of_short hshort] at h
      exact .inl ⟨hshort, (Except.error.inj h).symm⟩
    · obtain ⟨selector, hselector⟩ := Selector.exists_octets_eq (not_lt.mp hshort)
      rw [route_of_unknown hselector (hlisted hunrouted)] at h
      exact .inr ⟨selector, (Except.error.inj h).symm, hselector, hunrouted⟩
  · rintro (⟨hshort, rfl⟩ | ⟨selector, rfl, hselector, hunrouted⟩)
    · exact route_of_short hshort
    · exact route_of_unknown hselector (hlisted hunrouted)

/-- Who routes call data finds a method whose selector they start with. -/
theorem exists_method_of_route {data : Bytes} {descriptor : Descriptor}
    (h : staking.route data = .ok descriptor) :
    ∃ method : Method, descriptor = method.descriptor ∧
      data = method.selector.octets ++ data.drop 4 := by
  obtain ⟨method, rfl, hdata⟩ := route_eq_ok_iff.mp h
  exact ⟨method, rfl, by rw [← hdata, List.take_append_drop]⟩

end RoutingTable

/-- Who may write is not refused, and who is not refused may write or does not ask to. -/
theorem checkWriteAccess_eq_ok_iff {descriptor : Descriptor} {readOnly : Bool} :
    checkWriteAccess descriptor readOnly = .ok () ↔
      (readOnly = true → descriptor.isMutating = false) := by
  rw [checkWriteAccess]
  split
  · next h => simp [h]
  · next h => simpa using h

/-- Who is refused asks for a change of state in a frame that may only read, and is told so. -/
theorem checkWriteAccess_eq_error_iff {descriptor : Descriptor} {readOnly : Bool}
    {failure : Failure} :
    checkWriteAccess descriptor readOnly = .error failure ↔
      (readOnly = true ∧ descriptor.isMutating = true) ∧ .writeProtection = failure := by
  rw [checkWriteAccess]
  split
  · next h => simp [h]
  · next h => simp [h]

/-! ### Requests -/

/-- Where a method is for the delegator only, the request names the caller as delegator. -/
theorem checkPrincipal_eq_ok_iff {descriptor : Descriptor} {request : Request}
    {caller : Address} :
    checkPrincipal descriptor request caller = .ok () ↔
      (descriptor.authorization = .delegatorOnly → request.delegator? = some caller) := by
  rw [checkPrincipal]
  cases descriptor.authorization with
  | anyone => simp
  | delegatorOnly => simp only [ite_eq_ok_iff, and_true, forall_const]

/-- Where a method is for the delegator only, a request that names somebody else is refused. -/
theorem checkPrincipal_eq_error_iff {descriptor : Descriptor} {request : Request}
    {caller : Address} {failure : Failure} :
    checkPrincipal descriptor request caller = .error failure ↔
      descriptor.authorization = .delegatorOnly ∧ request.delegator? ≠ some caller ∧
        .unauthorized caller (request.delegator?.getD .zero) = failure := by
  rw [checkPrincipal]
  cases descriptor.authorization with
  | anyone => simp
  | delegatorOnly =>
      dsimp only
      split
      · next h => simp [h]
      · next h => simp [h]

namespace Executor

/-- The request that is read is the one that the call data make, and the caller may make it. -/
theorem readRequest_eq_ok_iff {descriptor : Descriptor} {data : Bytes} {caller : Address}
    {request : Request} :
    readRequest descriptor data caller = .ok request ↔
      CallData.decode descriptor data = .ok request ∧
        checkPrincipal descriptor request caller = .ok () := by
  rw [readRequest]
  constructor
  · intro h
    obtain ⟨decoded, hdecode, h⟩ := bind_eq_ok_iff.mp h
    obtain ⟨⟨⟩, hprincipal, h⟩ := bind_eq_ok_iff.mp h
    obtain rfl : decoded = request := Except.ok.inj h
    exact ⟨mapError_eq_ok_iff.mp hdecode, hprincipal⟩
  · rintro ⟨hdecode, hprincipal⟩
    rw [mapError_eq_ok_iff.mpr hdecode, ok_bind, hprincipal]
    rfl

/-- A request is refused because the call data do not make one, or because it is not the caller's
to make. -/
theorem readRequest_eq_error_iff {descriptor : Descriptor} {data : Bytes} {caller : Address}
    {failure : Failure} :
    readRequest descriptor data caller = .error failure ↔
      (∃ fault, CallData.decode descriptor data = .error fault ∧ .decode fault = failure) ∨
        ∃ request, CallData.decode descriptor data = .ok request ∧
          checkPrincipal descriptor request caller = .error failure := by
  rw [readRequest, bind_eq_error_iff, mapError_eq_error_iff]
  refine or_congr_right (exists_congr fun request => ?_)
  rw [mapError_eq_ok_iff, bind_eq_error_iff]
  refine and_congr_right fun _ => or_iff_left ?_
  rintro ⟨⟨⟩, -, h⟩
  cases h

/-- A message is refused because the request is, or because it is a query. -/
theorem readMessage_eq_error_iff {descriptor : Descriptor} {data : Bytes} {caller : Address}
    {failure : Failure} :
    readMessage descriptor data caller = .error failure ↔
      readRequest descriptor data caller = .error failure ∨
        ∃ query, readRequest descriptor data caller = .ok (.query query) ∧
          .unknownMethod descriptor.selector = failure := by
  rw [readMessage, bind_eq_error_iff]
  refine or_congr_right ⟨?_, ?_⟩
  · rintro ⟨request, hrequest, h⟩
    cases request with
    | transaction message => cases h
    | query query => exact ⟨query, hrequest, Except.error.inj h⟩
  · rintro ⟨query, hrequest, rfl⟩
    exact ⟨.query query, hrequest, rfl⟩

/-- The query that is read is the request that is. -/
theorem readQuery_eq_ok_iff {descriptor : Descriptor} {data : Bytes} {caller : Address}
    {query : Query} :
    readQuery descriptor data caller = .ok query ↔
      readRequest descriptor data caller = .ok (.query query) := by
  rw [readQuery, bind_eq_ok_iff]
  constructor
  · rintro ⟨request, hrequest, h⟩
    cases request with
    | transaction message => cases h
    | query asked =>
        obtain rfl : asked = query := Except.ok.inj h
        exact hrequest
  · exact fun hrequest => ⟨.query query, hrequest, rfl⟩

/-- A query is refused because the request is, or because it is a message. -/
theorem readQuery_eq_error_iff {descriptor : Descriptor} {data : Bytes} {caller : Address}
    {failure : Failure} :
    readQuery descriptor data caller = .error failure ↔
      readRequest descriptor data caller = .error failure ∨
        ∃ message, readRequest descriptor data caller = .ok (.transaction message) ∧
          .unknownMethod descriptor.selector = failure := by
  rw [readQuery, bind_eq_error_iff]
  refine or_congr_right ⟨?_, ?_⟩
  · rintro ⟨request, hrequest, h⟩
    cases request with
    | transaction message => exact ⟨message, hrequest, Except.error.inj h⟩
    | query query => cases h
  · rintro ⟨message, hrequest, rfl⟩
    exact ⟨.transaction message, hrequest, rfl⟩

/-- The message that is read is the one that the call data make, and its delegator is the
caller where the method asks for that. -/
theorem readMessage_eq_ok_iff {descriptor : Descriptor} {data : Bytes} {caller : Address}
    {message : Message} :
    readMessage descriptor data caller = .ok message ↔
      CallData.decode descriptor data = .ok (.transaction message) ∧
        (descriptor.authorization = .delegatorOnly → message.delegator = caller) := by
  rw [readMessage]
  constructor
  · intro h
    obtain ⟨request, hrequest, h⟩ := bind_eq_ok_iff.mp h
    obtain ⟨hdecode, hprincipal⟩ := readRequest_eq_ok_iff.mp hrequest
    cases request with
    | query query => cases h
    | transaction read =>
        obtain rfl : read = message := Except.ok.inj h
        refine ⟨hdecode, fun hauthorization => ?_⟩
        exact Option.some.inj (checkPrincipal_eq_ok_iff.mp hprincipal hauthorization)
  · rintro ⟨hdecode, hauthorized⟩
    have hprincipal : checkPrincipal descriptor (.transaction message) caller = .ok () :=
      checkPrincipal_eq_ok_iff.mpr fun h => congrArg some (hauthorized h)
    rw [readRequest_eq_ok_iff.mpr ⟨hdecode, hprincipal⟩]
    rfl

end Executor

/-! ### Delivery -/

/-- The message that the call hands to the staking module, or why it hands none. -/
def Call.message (call : Call) : Except Failure Message := do
  let descriptor ← RoutingTable.staking.route call.data
  checkWriteAccess descriptor call.readOnly
  let message ← Executor.readMessage descriptor call.data call.caller
  message.check.mapError .invalidMessage
  return message

/-- A call hands over the message that it is read as, if it passes all checks. -/
theorem Call.message_eq_ok_iff {call : Call} {message : Message} :
    call.message = .ok message ↔
      ∃ descriptor, RoutingTable.staking.route call.data = .ok descriptor ∧
        checkWriteAccess descriptor call.readOnly = .ok () ∧
        Executor.readMessage descriptor call.data call.caller = .ok message ∧
        message.check = .ok () := by
  rw [Call.message]
  constructor
  · intro h
    obtain ⟨descriptor, hroute, h⟩ := bind_eq_ok_iff.mp h
    obtain ⟨⟨⟩, haccess, h⟩ := bind_eq_ok_iff.mp h
    obtain ⟨read, hread, h⟩ := bind_eq_ok_iff.mp h
    obtain ⟨⟨⟩, hcheck, h⟩ := bind_eq_ok_iff.mp h
    obtain rfl : read = message := Except.ok.inj h
    exact ⟨descriptor, hroute, haccess, hread, mapError_eq_ok_iff.mp hcheck⟩
  · rintro ⟨descriptor, hroute, haccess, hread, hcheck⟩
    rw [hroute, ok_bind, haccess, ok_bind, hread, ok_bind, hcheck]
    rfl

/-- A call that hands over a message is routed to the method of the message. -/
theorem Call.route_of_message {call : Call} {message : Message}
    (h : call.message = .ok message) :
    RoutingTable.staking.route call.data =
      .ok (Request.transaction message).method.descriptor := by
  obtain ⟨descriptor, hroute, -, hread, -⟩ := message_eq_ok_iff.mp h
  obtain ⟨method, rfl, -⟩ := RoutingTable.exists_method_of_route hroute
  obtain ⟨hdecode, -⟩ := Executor.readMessage_eq_ok_iff.mp hread
  obtain ⟨-, values, hvalues⟩ := CallData.exists_values_of_decode hdecode
  obtain ⟨hmethod, -⟩ := CallData.encode_of_ofArguments hvalues
  rw [hroute, hmethod]
  rfl

/-- That method asks for a change of state. -/
theorem Message.isMutating_method (message : Message) :
    (Request.transaction message).method.descriptor.isMutating = true := by
  cases message with
  | delegate | undelegate | redelegate | cancelUnbonding => rfl

/-- The return data of an answer to a message. -/
def Message.returnData : (message : Message) → message.Answer → Bytes
  | .delegate .., _ => []
  | .undelegate .., time => Abi.encodeValues Method.completionTimeOutputs (.ofUInt64 time, ())
  | .redelegate .., time => Abi.encodeValues Method.completionTimeOutputs (.ofUInt64 time, ())
  | .cancelUnbonding .., _ => []

/-- A time is returned as one word. -/
theorem encodeValues_completionTime (time : UInt64) :
    Abi.encodeValues Method.completionTimeOutputs (.ofUInt64 time, ()) = Abi.word time.toNat := by
  have hstatic : Abi.Schema.isDynamic .uint256 = false := by decide
  simp only [Abi.encodeValues, Abi.chunks, Abi.encode, Abi.arrange, Abi.heads, Abi.tails, hstatic,
    Bool.false_eq_true, if_false, List.append_nil]
  rfl

/-- Every answer to a message has return data. -/
theorem Message.encode_reply (message : Message) (answer : message.Answer) :
    ReturnData.encode (Request.transaction message).method.descriptor (message.reply answer) =
      .ok (message.returnData answer) := by
  cases message with
  | delegate | undelegate | redelegate | cancelUnbonding => rfl

namespace Gateway

/-- **The staking module runs the transition of the message** that the call hands over, over a
fresh layer above the store, and no other transition. -/
theorem activity_eq_transition_iff {gateway : Gateway} {call : Call} {store : Store}
    {gas : GasAccount} {message : Message} {log : List Observation} :
    (gateway.run call store gas).activity = .transition message log ↔
      call.message = .ok message ∧
        ((gateway.executor call.block).runMessage message store).log = log := by
  constructor
  · intro h
    rw [run] at h
    split at h
    · cases h
    next descriptor hroute =>
    split at h
    · cases h
    next haccess =>
    dsimp only [Executor.execute] at h
    split at h
    · rw [Executor.transact] at h
      split at h
      · cases h
      next read hread =>
      split at h
      · cases h
      next hcheck =>
      have hactivity : Activity.transition read
          ((gateway.executor call.block).runMessage read store).log =
            .transition message log := by
        dsimp only at h
        split at h
        · exact h
        · exact h
      obtain ⟨rfl, hlog⟩ := Activity.transition.inj hactivity
      exact ⟨Call.message_eq_ok_iff.mpr ⟨descriptor, hroute, haccess, hread, hcheck⟩, hlog⟩
    · rw [Executor.query] at h
      split at h
      · cases h
      · dsimp only at h
        split at h
        · cases h
        · cases h
  · rintro ⟨hmessage, rfl⟩
    obtain ⟨descriptor, hroute, haccess, hread, hcheck⟩ := Call.message_eq_ok_iff.mp hmessage
    obtain rfl : descriptor = (Request.transaction message).method.descriptor :=
      Except.ok.inj (hroute.symm.trans (Call.route_of_message hmessage))
    rw [run, hroute]
    dsimp only
    rw [haccess]
    dsimp only
    rw [Executor.execute, if_pos message.isMutating_method, Executor.transact, hread]
    dsimp only
    rw [hcheck]
    dsimp only
    split
    · rfl
    · rfl

/-- **What a call with a message can have** is what the run of the transition leads to: if it
succeeds, return data and the store with its changes at the cost of its accesses, and otherwise
nothing. -/
theorem offer_of_message {call : Call} {message : Message} (h : call.message = .ok message)
    (gateway : Gateway) (store : Store) :
    let outcome := (gateway.executor call.block).runMessage message store
    gateway.offer call store =
      match outcome.result with
      | .error error => .error (.rejected error)
      | .ok answer => .ok ⟨message.returnData answer, store.apply outcome.store.changes,
          outcome.ledger.consumed⟩ := by
  intro outcome
  obtain ⟨descriptor, hroute, haccess, hread, hcheck⟩ := Call.message_eq_ok_iff.mp h
  obtain rfl : descriptor = (Request.transaction message).method.descriptor :=
    Except.ok.inj (hroute.symm.trans (Call.route_of_message h))
  have hoffer : gateway.offer call store =
      (outcome.result.mapError .rejected >>= fun answer =>
        (ReturnData.encode (Request.transaction message).method.descriptor
          (message.reply answer)).mapError .encode >>= fun data =>
            .ok ⟨data, store.apply outcome.store.changes, outcome.ledger.consumed⟩) := by
    rw [offer, hroute, ok_bind, haccess, ok_bind, Executor.offer,
      if_pos message.isMutating_method, Executor.offerTransaction, hread, ok_bind, hcheck]
    rfl
  rw [hoffer]
  cases outcome.result with
  | error error => rfl
  | ok answer => rw [mapError_ok, ok_bind, message.encode_reply, mapError_ok, ok_bind]

/-- A call without a message leaves the store as it is. -/
theorem offer_store_of_error {gateway : Gateway} {call : Call} {store : Store}
    {failure : Failure} {offer : Offer} (h : call.message = .error failure)
    (hoffer : gateway.offer call store = .ok offer) : offer.store = store := by
  obtain ⟨descriptor, hroute, hoffer⟩ := bind_eq_ok_iff.mp hoffer
  obtain ⟨⟨⟩, haccess, hoffer⟩ := bind_eq_ok_iff.mp hoffer
  rw [Executor.offer] at hoffer
  split at hoffer
  · obtain ⟨message, hread, hoffer⟩ := bind_eq_ok_iff.mp hoffer
    obtain ⟨⟨⟩, hcheck, -⟩ := bind_eq_ok_iff.mp hoffer
    have hmessage : call.message = .ok message := Call.message_eq_ok_iff.mpr
      ⟨descriptor, hroute, haccess, hread, mapError_eq_ok_iff.mp hcheck⟩
    rw [h] at hmessage
    cases hmessage
  · exact (Executor.eq_of_offerQuery hoffer).1

end Gateway

end StakingGateway
