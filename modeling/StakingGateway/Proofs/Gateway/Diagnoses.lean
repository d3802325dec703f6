import StakingGateway.Proofs.Abi.LayoutFaults
import StakingGateway.Proofs.Gateway.Delivery

/-!
# What Callers Are Told

There are failures for which the gateway has a name and no occasion. A method is looked up three
times over on the way of a call, by its selector, by the kind of the request and by the kind of the
answer, and whoever finds something else than expected has an error to report. What is expected is
always found: a request that is read is one of the method that was routed to
(`CallData.method_of_decode`), and the answer to it is of that method's kind, whatever the staking
module answers. The generous decoder, too, is only handed octets whose layout is canonical, and it
reads all of these (`CallData.abiFree_decode`).

So what is reported is true of the call (`Failure.Fits`): a selector that is called unknown is that
of no method, a delegator on whose account a caller is turned away is named in the call data, and a
call that is refused for its frame asks for a change of state (`Gateway.fits_run`).

## Main definitions

* `DecodeFault.isAbi`, `AbiFree`: the faults of the generous decoder, and steps without them.
* `CallData.IsMutating`: call data that start with the selector of a method that changes the state.
* `Failure.Fits`: failures that are true of a call.

## Main statements

* `CallData.abiFree_decode`: the generous decoder finds no faults.
* `CallData.method_of_decode`, `Query.encode_reply`: requests and answers are of the right kind.
* `Gateway.fits_run`, `Gateway.run_failures`: the failures of calls are true of them.
-/

namespace StakingGateway

/-! ### Reading -/

/-- Whether the fault is one of the generous decoder. -/
def DecodeFault.isAbi : DecodeFault → Bool
  | .abi _ => true
  | _ => false

/-- The step does not fail for the generous decoder. -/
def AbiFree {α : Type} (x : Except DecodeFault α) : Prop :=
  FailsOnlyWith (fun fault => fault.isAbi = false) x

namespace Layout

open Abi (Field)

/-- The check of the layout has its own faults. -/
theorem abiFree_check (fields : List Field) (body : Bytes) : AbiFree (check fields body) := by
  refine (faults_check fields body).mono ?_
  rintro fault (⟨index, -, hblames⟩ | ⟨behind, rfl⟩)
  · cases fault with
    | abi fault => cases hblames
    | _ => rfl
  · rfl

/-- **What passes the check is read** by the generous decoder. -/
theorem exists_decodeValues_of_check {method : Method} {body : Bytes}
    (h : check method.inputs body = .ok ()) :
    ∃ values, Abi.decodeValues method.inputs body = .ok values := by
  have hbody : body.length < UInt64.size := length_lt_of_check h (by cases method <;> decide)
  obtain ⟨-, values, rfl⟩ := (check_eq_ok_iff hbody).mp h
  exact ⟨values, Abi.decodeValues_encodeValues (CallData.allCountable_inputs method) values hbody⟩

end Layout

namespace CallData

variable {method : Method} {data : Bytes} {request : Request}

/-- Values that make no request hold a height that is none. -/
theorem abiFree_ofArguments (method : Method) (values : Abi.Values method.inputs) :
    AbiFree (Request.ofArguments method values) := by
  cases method with
  | cancelUnbondingDelegation =>
      obtain ⟨delegator, validator, denom, amount, argument, ⟨⟩⟩ := values
      rw [Request.ofArguments]
      split
      · exact failsOnlyWith_ok _ _
      · exact failsOnlyWith_error rfl
  | delegate | undelegate | redelegate | delegation | unbondingDelegation | validator =>
      exact failsOnlyWith_ok _ _

/-- **The generous decoder finds no faults** in call data, because the check has found them. -/
theorem abiFree_decode (method : Method) (data : Bytes) :
    AbiFree (decode method.descriptor data) := by
  intro fault h
  rw [decode] at h
  split at h
  · obtain rfl := Except.error.inj h
    rfl
  obtain hcheck | ⟨⟨⟩, hcheck, h⟩ := bind_eq_error_iff.mp h
  · exact Layout.abiFree_check _ _ _ hcheck
  obtain ⟨values, hvalues⟩ := Layout.exists_decodeValues_of_check hcheck
  obtain hread | ⟨read, -, h⟩ := bind_eq_error_iff.mp h
  · obtain ⟨flaw, hflaw, -⟩ := mapError_eq_error_iff.mp hread
    rw [show Abi.decodeValues method.descriptor.method.inputs _ = .ok values from hvalues] at hflaw
    cases hflaw
  · exact abiFree_ofArguments _ _ _ h

/-- **A request that is read is one of the method** whose selector the call data start with, and
they are what is written for it. -/
theorem method_of_decode (hselector : data.take 4 = method.selector.octets)
    (h : decode method.descriptor data = .ok request) :
    request.method = method ∧ encode request = .ok data := by
  rw [← List.take_append_drop 4 data, hselector] at h ⊢
  exact encode_of_decode h

end CallData

/-! ### Answers -/

/-- A query is asked through a method that changes nothing. -/
theorem Query.isMutating_method (query : Query) :
    (Request.query query).method.isMutating = false := by
  cases query with
  | delegation | unbondingDelegation | validator => rfl

/-- Every answer to a query has return data. -/
theorem Query.encode_reply (query : Query) (answer : query.Answer) :
    ∃ data, ReturnData.encode (Request.query query).method.descriptor (query.reply answer) =
      .ok data := by
  cases query with
  | delegation | unbondingDelegation | validator => exact ⟨_, rfl⟩

/-! ### Failures -/

/-- The call data start with the selector of a method that asks for a change of state. -/
def CallData.IsMutating (data : Bytes) : Prop :=
  ∃ method : Method, method.isMutating = true ∧ data.take 4 = method.selector.octets

/-- What the failure says is true of the call. That an answer has no return data is true of none,
and neither is that the generous decoder found fault with the call data. -/
def Failure.Fits (call : Call) : Failure → Prop
  | .encode _ => False
  | .decode fault => fault.isAbi = false
  | .unknownMethod selector => call.data.take 4 = selector.octets ∧
    ∀ method : Method, call.data.take 4 ≠ method.selector.octets
  | .unauthorized caller delegator => caller = call.caller ∧ delegator ≠ call.caller ∧
    ∃ message, CallData.encode (.transaction message) = .ok call.data ∧
      message.delegator = delegator
  | .writeProtection => call.readOnly = true ∧ CallData.IsMutating call.data
  | _ => True

variable {call : Call} {method : Method}

/-- What routing reports is true. -/
theorem RoutingTable.fits_route (call : Call) :
    FailsOnlyWith (Failure.Fits call) (RoutingTable.staking.route call.data) := by
  intro failure h
  obtain ⟨-, rfl⟩ | ⟨selector, rfl, hselector, hnone⟩ := route_eq_error_iff.mp h
  · rfl
  · exact ⟨hselector, hnone⟩

namespace Executor

/-- What is reported of a request that is not read is true. Methods for the delegator only are
those of messages, and these name a delegator. -/
theorem fits_readRequest (hselector : call.data.take 4 = method.selector.octets) :
    FailsOnlyWith (Failure.Fits call)
      (readRequest method.descriptor call.data call.caller) := by
  intro failure h
  obtain ⟨fault, hfault, rfl⟩ | ⟨request, hdecode, hprincipal⟩ := readRequest_eq_error_iff.mp h
  · exact CallData.abiFree_decode _ _ _ hfault
  obtain ⟨honly, hother, rfl⟩ := checkPrincipal_eq_error_iff.mp hprincipal
  obtain ⟨rfl, hencode⟩ := CallData.method_of_decode hselector hdecode
  cases request with
  | transaction message =>
      exact ⟨rfl, fun heq => hother (congrArg some heq), message, hencode, rfl⟩
  | query query =>
      have hanyone : (Request.query query).method.descriptor.authorization = .anyone :=
        if_neg (Bool.eq_false_iff.mp query.isMutating_method)
      rw [hanyone] at honly
      cases honly

/-- What is reported of a message that is not read is true: it is a message, if it is read. -/
theorem fits_readMessage (hselector : call.data.take 4 = method.selector.octets)
    (hmutating : method.isMutating = true) :
    FailsOnlyWith (Failure.Fits call)
      (readMessage method.descriptor call.data call.caller) := by
  intro failure h
  obtain hrequest | ⟨query, hquery, -⟩ := readMessage_eq_error_iff.mp h
  · exact fits_readRequest hselector failure hrequest
  · obtain ⟨hdecode, -⟩ := readRequest_eq_ok_iff.mp hquery
    obtain ⟨rfl, -⟩ := CallData.method_of_decode hselector hdecode
    rw [query.isMutating_method] at hmutating
    cases hmutating

/-- What is reported of a query that is not read is true: it is a query, if it is read. -/
theorem fits_readQuery (hselector : call.data.take 4 = method.selector.octets)
    (hquery : ¬ method.isMutating = true) :
    FailsOnlyWith (Failure.Fits call)
      (readQuery method.descriptor call.data call.caller) := by
  intro failure h
  obtain hrequest | ⟨message, hmessage, -⟩ := readQuery_eq_error_iff.mp h
  · exact fits_readRequest hselector failure hrequest
  · obtain ⟨hdecode, -⟩ := readRequest_eq_ok_iff.mp hmessage
    obtain ⟨rfl, -⟩ := CallData.method_of_decode hselector hdecode
    exact absurd message.isMutating_method hquery

/-- What is reported of a transaction is true. -/
theorem fits_offerTransaction (executor : Executor)
    (hselector : call.data.take 4 = method.selector.octets) (hmutating : method.isMutating = true)
    (store : Store) :
    FailsOnlyWith (Failure.Fits call)
      (executor.offerTransaction method.descriptor call.data call.caller store) := by
  intro failure h
  obtain hread | ⟨message, hread, h⟩ := bind_eq_error_iff.mp h
  · exact fits_readMessage hselector hmutating failure hread
  obtain ⟨hdecode, -⟩ := readMessage_eq_ok_iff.mp hread
  obtain ⟨rfl, -⟩ := CallData.method_of_decode hselector hdecode
  obtain hcheck | ⟨-, -, h⟩ := bind_eq_error_iff.mp h
  · obtain ⟨fault, -, rfl⟩ := mapError_eq_error_iff.mp hcheck
    trivial
  obtain hresult | ⟨answer, -, h⟩ := bind_eq_error_iff.mp h
  · obtain ⟨error, -, rfl⟩ := mapError_eq_error_iff.mp hresult
    trivial
  rw [message.encode_reply] at h
  cases h

/-- What is reported of a question is true. -/
theorem fits_offerQuery (executor : Executor)
    (hselector : call.data.take 4 = method.selector.octets) (hquery : ¬ method.isMutating = true)
    (store : Store) :
    FailsOnlyWith (Failure.Fits call)
      (executor.offerQuery method.descriptor call.data call.caller store) := by
  intro failure h
  obtain hread | ⟨query, hread, h⟩ := bind_eq_error_iff.mp h
  · exact fits_readQuery hselector hquery failure hread
  obtain ⟨hdecode, -⟩ := readRequest_eq_ok_iff.mp (readQuery_eq_ok_iff.mp hread)
  obtain ⟨rfl, -⟩ := CallData.method_of_decode hselector hdecode
  obtain hresult | ⟨answer, -, h⟩ := bind_eq_error_iff.mp h
  · obtain ⟨error, -, rfl⟩ := mapError_eq_error_iff.mp hresult
    cases error with
    | notFound | corrupted => trivial
  obtain ⟨encoded, hencoded⟩ := query.encode_reply answer
  rw [hencoded] at h
  cases h

end Executor

namespace Gateway

/-- What is reported of a call that can have nothing is true. -/
theorem fits_offer (gateway : Gateway) (call : Call) (store : Store) :
    FailsOnlyWith (Failure.Fits call) (gateway.offer call store) := by
  intro failure h
  obtain hroute | ⟨descriptor, hroute, h⟩ := bind_eq_error_iff.mp h
  · exact RoutingTable.fits_route call failure hroute
  obtain ⟨method, rfl, hselector⟩ := RoutingTable.route_eq_ok_iff.mp hroute
  obtain haccess | ⟨-, -, h⟩ := bind_eq_error_iff.mp h
  · obtain ⟨⟨hreadOnly, hmutating⟩, rfl⟩ := checkWriteAccess_eq_error_iff.mp haccess
    exact ⟨hreadOnly, method, hmutating, hselector⟩
  rw [Executor.offer] at h
  split at h
  · next hmutating => exact Executor.fits_offerTransaction _ hselector hmutating store failure h
  · next hquery => exact Executor.fits_offerQuery _ hselector hquery store failure h

/-- **What callers are told is true.** A call that fails is one that can have nothing, or for which
its caller has not gas enough. -/
theorem fits_run (gateway : Gateway) (call : Call) (store : Store) (gas : GasAccount) :
    FailsOnlyWith (Failure.Fits call) (gateway.run call store gas).result := by
  intro failure h
  cases hoffer : gateway.offer call store with
  | error other =>
      rw [(run_of_offer_eq_error hoffer gas).1] at h
      obtain rfl := Except.error.inj h
      exact gateway.fits_offer call store other hoffer
  | ok offer =>
      rcases Nat.lt_or_ge gas.remaining.toNat offer.cost.toNat with hlt | hge
      · rw [(run_of_lt_cost hoffer hlt).1] at h
        obtain rfl := Except.error.inj h
        trivial
      · rw [(run_of_cost_le hoffer hge).1] at h
        cases h

/-- **The failures of calls.** Whatever the staking module answers, no call fails for want of return
data or because the generous decoder found fault with it. A call is told of an unknown method
exactly if it starts with a selector and that is of no method. A caller who is turned away is told
of a delegator who is somebody else, and whom the call data name: they are what is written for a
message of that delegator. -/
theorem run_failures (gateway : Gateway) (call : Call) (store : Store) (gas : GasAccount) :
    let result := (gateway.run call store gas).result
    (∀ fault, result ≠ .error (.encode fault)) ∧
      (∀ fault, result ≠ .error (.decode (.abi fault))) ∧
      (∀ selector, result = .error (.unknownMethod selector) ↔
        call.data.take 4 = selector.octets ∧
          ∀ method : Method, call.data.take 4 ≠ method.selector.octets) ∧
      ∀ caller delegator, result = .error (.unauthorized caller delegator) →
        caller = call.caller ∧ delegator ≠ call.caller ∧
          ∃ message, CallData.encode (.transaction message) = .ok call.data ∧
            message.delegator = delegator := by
  intro result
  have hfits : FailsOnlyWith (Failure.Fits call) result := gateway.fits_run call store gas
  refine ⟨fun fault h => hfits _ h, fun fault h => ?_, fun selector => ⟨fun h => hfits _ h, ?_⟩,
    fun caller delegator h => hfits _ h⟩
  · have habi : DecodeFault.isAbi (.abi fault) = false := hfits _ h
    cases habi
  · rintro ⟨hselector, hunrouted⟩
    have hroute : RoutingTable.staking.route call.data = .error (.unknownMethod selector) :=
      RoutingTable.route_eq_error_iff.mpr (.inr ⟨selector, rfl, hselector, hunrouted⟩)
    have hoffer : gateway.offer call store = .error (.unknownMethod selector) := by
      rw [offer, hroute, error_bind]
    exact (run_of_offer_eq_error hoffer gas).1

end Gateway

end StakingGateway
