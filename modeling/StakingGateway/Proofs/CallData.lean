import StakingGateway.CallData.Codec
import StakingGateway.Proofs.Abi.CanonicalLayout
import StakingGateway.Proofs.Abi.RoundTrip

/-!
# Canonical Call Data

Call data are read as a request exactly if they are what is written for it. Four parts have to
agree on that: the check of the layout, the generous decoder, the two translations between
requests and the values that a method takes, and the encoder. The check leaves only encodings of
values (`Layout.check_eq_ok_iff`), the decoder gives those values back
(`Abi.decodeValues_encodeValues`), and the two translations invert each other
(`CallData.encode_of_ofArguments`, `CallData.exists_of_encode`), heights included: the only
requests without call data are those with a negative height.

## Main definitions

* `Request.IsEncodable`: the request has no negative height.

## Main statements

* `CallData.decode_eq_ok_iff`: what reads as a request, through the values that it takes.
* `CallData.decode_eq_ok_iff_encode`: reading and writing call data invert each other.
-/

namespace StakingGateway

open Abi (Values)

namespace Request

/-! ### Heights -/

/-- The height of the request, if it has one, is not negative. -/
def IsEncodable : Request → Prop
  | .transaction (.cancelUnbonding _ _ _ height) => 0 ≤ height
  | _ => True

/-- A height that is not negative is its own argument. -/
theorem toNat_toUInt64_of_nonneg {height : Int64} (h : 0 ≤ height) :
    (height.toUInt64.toNat : Int) = height.toInt := by
  have hpos : 0 ≤ height.toInt := Int64.le_iff_toInt_le.mp h
  have hbits : height.toInt = Int.bmod height.toUInt64.toNat (2 ^ 64) :=
    BitVec.toInt_eq_toNat_bmod height.toBitVec
  have hlt := height.toUInt64.toNat_lt
  rw [Int.bmod_def] at hbits
  omega

/-- An argument is the height of a request exactly if the height is not negative and is what the
argument is written for. -/
theorem toInt64?_eq_some_iff {argument : Uint256} {height : Int64} :
    argument.toInt64? = some height ↔ heightArgument height = .ok argument := by
  have hlo := height.le_toInt
  have hhi := height.toInt_lt
  rw [Uint256.toInt64?, heightArgument]
  constructor
  · intro h
    split at h
    · next hsmall =>
        have hheight : (Int64.ofNat argument.toNat).toInt = argument.toNat :=
          Int64.toInt_ofNat_of_lt hsmall
        obtain rfl := Option.some.inj h
        have hpos : 0 ≤ Int64.ofNat argument.toNat := by
          rw [Int64.le_iff_toInt_le, hheight]
          exact Int.natCast_nonneg _
        have hvalue := toNat_toUInt64_of_nonneg hpos
        rw [if_neg (Int64.not_lt.mpr hpos)]
        refine congrArg Except.ok (Uint256.ext ?_)
        show (Int64.ofNat argument.toNat).toUInt64.toNat = argument.toNat
        omega
    · cases h
  · intro h
    split at h
    · cases h
    · next hneg =>
        have hpos := Int64.not_lt.mp hneg
        have hvalue := toNat_toUInt64_of_nonneg hpos
        obtain rfl := Except.ok.inj h
        have hsmall : height.toUInt64.toNat < 2 ^ 63 := by omega
        rw [if_pos (show (Uint256.ofUInt64 height.toUInt64).toNat < int64Bound from hsmall)]
        refine congrArg some (Int64.toInt_inj.mp ?_)
        show (Int64.ofNat height.toUInt64.toNat).toInt = height.toInt
        rw [Int64.toInt_ofNat_of_lt hsmall, hvalue]

/-- The values that a request takes make the request again. -/
theorem ofArguments_of_arguments {request : Request} {values : Values request.method.inputs}
    (h : request.arguments = .ok values) : ofArguments request.method values = .ok request := by
  cases request with
  | transaction message =>
      cases message with
      | delegate | undelegate | redelegate =>
          cases h
          rfl
      | cancelUnbonding delegator validator coin height =>
          obtain ⟨argument, hargument, rfl⟩ := map_eq_ok_iff.mp h
          have hheight := toInt64?_eq_some_iff.mpr hargument
          simp only [Request.method, ofArguments, hheight]
  | query query =>
      cases query with
      | delegation | unbondingDelegation | validator =>
          cases h
          rfl

end Request

namespace CallData

/-! ### Requests and values -/

/-- What is written for a request hands over values that make the request. -/
theorem exists_of_encode {request : Request} {data : Bytes} (h : encode request = .ok data) :
    ∃ values, data = ofArguments request.method values ∧
      Request.ofArguments request.method values = .ok request := by
  obtain ⟨values, hvalues, rfl⟩ := map_eq_ok_iff.mp h
  exact ⟨values, rfl, Request.ofArguments_of_arguments hvalues⟩

/-- Values that make a request are what is written for it. -/
theorem encode_of_ofArguments {method : Method} {values : Values method.inputs}
    {request : Request} (h : Request.ofArguments method values = .ok request) :
    request.method = method ∧ encode request = .ok (ofArguments method values) := by
  cases method with
  | cancelUnbondingDelegation =>
      obtain ⟨delegator, validator, denom, amount, argument, ⟨⟩⟩ := values
      rw [Request.ofArguments] at h
      split at h
      · next height hheight =>
          cases h
          refine ⟨rfl, map_eq_ok_iff.mpr ⟨_, map_eq_ok_iff.mpr ⟨argument, ?_, rfl⟩, rfl⟩⟩
          exact Request.toInt64?_eq_some_iff.mp hheight
      · cases h
  | delegate | undelegate | redelegate | delegation | unbondingDelegation | validator =>
      cases h
      exact ⟨rfl, rfl⟩

/-- A request has call data exactly if it has no negative height. -/
theorem exists_encode_iff (request : Request) :
    (∃ data, encode request = .ok data) ↔ request.IsEncodable := by
  cases request with
  | transaction message =>
      cases message with
      | delegate | undelegate | redelegate => exact iff_of_true ⟨_, rfl⟩ trivial
      | cancelUnbonding delegator validator coin height =>
          constructor
          · rintro ⟨data, hdata⟩
            obtain ⟨values, hvalues, -⟩ := map_eq_ok_iff.mp hdata
            obtain ⟨argument, hargument, -⟩ := map_eq_ok_iff.mp hvalues
            rw [Request.heightArgument] at hargument
            split at hargument
            · cases hargument
            · next hneg => exact Int64.not_lt.mp hneg
          · intro hpos
            have hargument : Request.heightArgument height = .ok (.ofUInt64 height.toUInt64) :=
              if_neg (Int64.not_lt.mpr hpos)
            exact ⟨_, map_eq_ok_iff.mpr ⟨_, map_eq_ok_iff.mpr ⟨_, hargument, rfl⟩, rfl⟩⟩
  | query query =>
      cases query with
      | delegation | unbondingDelegation | validator => exact iff_of_true ⟨_, rfl⟩ trivial

/-! ### Reading -/

/-- The schema of what a method takes is flat. -/
theorem isFlat_inputs (method : Method) : ∀ field ∈ method.inputs, field.schema.isFlat = true := by
  cases method <;> decide

theorem allCountable_inputs (method : Method) : Abi.allCountable method.inputs = true := by
  cases method <;> rfl

/-- Call data that read as a request pass the check of the layout and hold values that make it. -/
theorem exists_values_of_decode {descriptor : Descriptor} {data : Bytes} {request : Request}
    (h : decode descriptor data = .ok request) :
    Layout.check descriptor.inputs (data.drop 4) = .ok () ∧
      ∃ values, Request.ofArguments descriptor.method values = .ok request := by
  rw [decode] at h
  split at h
  · cases h
  obtain ⟨⟨⟩, hcheck, h⟩ := bind_eq_ok_iff.mp h
  obtain ⟨values, -, hrequest⟩ := bind_eq_ok_iff.mp h
  exact ⟨hcheck, values, hrequest⟩

/-- Call data for a method read as a request exactly if they hand over values that make it. -/
theorem decode_eq_ok_iff {method : Method} {request : Request} {body : Bytes}
    (hbody : body.length < UInt64.size) :
    decode method.descriptor (method.selector.octets ++ body) = .ok request ↔
      ∃ values, body = Abi.encodeValues method.inputs values ∧
        Request.ofArguments method values = .ok request := by
  have hdrop : (method.selector.octets ++ body).drop 4 = body :=
    List.drop_left' method.selector.length_octets
  have hlong : ¬ (method.selector.octets ++ body).length < 4 := by
    rw [List.length_append, method.selector.length_octets]
    omega
  have hdecode : decode method.descriptor (method.selector.octets ++ body) =
      (Layout.check method.inputs body >>= fun _ =>
        (Abi.decodeValues method.inputs body).mapError .abi >>=
          Request.ofArguments method) := by
    rw [decode, if_neg hlong, hdrop]
    rfl
  rw [hdecode]
  constructor
  · intro h
    obtain ⟨⟨⟩, hcheck, h⟩ := bind_eq_ok_iff.mp h
    obtain ⟨read, hread, hrequest⟩ := bind_eq_ok_iff.mp h
    obtain ⟨-, values, rfl⟩ := (Layout.check_eq_ok_iff hbody).mp hcheck
    rw [mapError_eq_ok_iff,
      Abi.decodeValues_encodeValues (allCountable_inputs method) values hbody] at hread
    obtain rfl := Except.ok.inj hread
    exact ⟨values, rfl, hrequest⟩
  · rintro ⟨values, rfl, hrequest⟩
    have hcheck := (Layout.check_eq_ok_iff hbody).mpr ⟨isFlat_inputs method, values, rfl⟩
    have hread := Abi.decodeValues_encodeValues (allCountable_inputs method) values hbody
    rw [hcheck, ok_bind, mapError_eq_ok_iff.mpr hread, ok_bind, hrequest]

/-- Call data of whatever length that read as a request are what is written for it. -/
theorem encode_of_decode {method : Method} {request : Request} {body : Bytes}
    (h : decode method.descriptor (method.selector.octets ++ body) = .ok request) :
    request.method = method ∧ encode request = .ok (method.selector.octets ++ body) := by
  have hdrop : (method.selector.octets ++ body).drop 4 = body :=
    List.drop_left' method.selector.length_octets
  obtain ⟨hcheck, -⟩ := exists_values_of_decode h
  rw [hdrop] at hcheck
  have hbody : body.length < UInt64.size := Layout.length_lt_of_check hcheck (by
    cases method <;> decide)
  obtain ⟨values, rfl, hrequest⟩ := (decode_eq_ok_iff hbody).mp h
  exact encode_of_ofArguments hrequest

/-- **Call data are canonical.** What follows a method's selector reads as a request exactly if
it is written for that request behind the selector. So requests without a negative height, which
are those that have call data, read back from them, and no two octet strings read as the same
request. -/
theorem decode_eq_ok_iff_encode (method : Method) (request : Request) (body : Bytes)
    (hbody : body.length < 2 ^ 63) :
    (decode method.descriptor (method.descriptor.selector.octets ++ body) = .ok request ↔
      request.method = method ∧
        encode request = .ok (method.descriptor.selector.octets ++ body)) ∧
    ((∃ data, encode request = .ok data) ↔ request.IsEncodable) ∧
    (∀ data, encode request = .ok data → data.length < 2 ^ 63 →
      decode request.method.descriptor data = .ok request) ∧
    ∀ other : Bytes, other.length < 2 ^ 63 →
      decode method.descriptor (method.descriptor.selector.octets ++ body) = .ok request →
      decode method.descriptor (method.descriptor.selector.octets ++ other) = .ok request →
        other = body := by
  have hiff (method : Method) (body : Bytes) (hbody : body.length < 2 ^ 63) :
      decode method.descriptor (method.selector.octets ++ body) = .ok request ↔
        request.method = method ∧ encode request = .ok (method.selector.octets ++ body) := by
    rw [decode_eq_ok_iff (lt_trans hbody (by decide))]
    constructor
    · rintro ⟨values, rfl, hrequest⟩
      exact encode_of_ofArguments hrequest
    · rintro ⟨rfl, hencode⟩
      obtain ⟨values, hdata, hrequest⟩ := exists_of_encode hencode
      exact ⟨values, List.append_cancel_left hdata, hrequest⟩
  refine ⟨hiff method body hbody, exists_encode_iff request, ?_, ?_⟩
  · intro data hencode hdata
    obtain ⟨values, rfl, -⟩ := exists_of_encode hencode
    rw [ofArguments, List.length_append] at hdata
    exact (hiff request.method _ (by omega)).mpr ⟨rfl, hencode⟩
  · intro other hother hread hread'
    obtain ⟨-, hencode⟩ := (hiff method body hbody).mp hread
    obtain ⟨-, hencode'⟩ := (hiff method other hother).mp hread'
    exact List.append_cancel_left (Except.ok.inj (hencode'.symm.trans hencode))

/-- The call data that ask to bond seven tokens again that were taken back at height five. -/
theorem decode_cancelUnbonding_call :
    let values : Values Method.cancelUnbondingInputs :=
      (Address.ofNat 1, "v", "stake", (7 : Uint256), (5 : Uint256), ())
    let body := Abi.encodeValues Method.cancelUnbondingInputs values
    let request : Request := .transaction (.cancelUnbonding (.ofNat 1) "v" ⟨"stake", 7⟩ 5)
    body.length < 2 ^ 63 ∧
      decode Method.cancelUnbondingDelegation.descriptor
        (Method.cancelUnbondingDelegation.descriptor.selector.octets ++ body) = .ok request := by
  intro values body request
  have hbody : body.length < 2 ^ 63 := by decide +kernel
  have hencode : request.method = .cancelUnbondingDelegation ∧
      encode request = .ok (ofArguments .cancelUnbondingDelegation values) :=
    encode_of_ofArguments rfl
  exact ⟨hbody, (decode_eq_ok_iff_encode .cancelUnbondingDelegation _ body hbody).1.mpr hencode⟩

end CallData

end StakingGateway
