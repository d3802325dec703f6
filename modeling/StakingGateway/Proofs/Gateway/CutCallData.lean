import StakingGateway.Proofs.Abi.CutLayout
import StakingGateway.Proofs.CallData
import StakingGateway.Proofs.Gateway.Delivery

/-!
# Cut and Extended Call Data

Call data that lose octets at their end, or get some more, are not the call data of another request.
Whoever sends them is told where they are broken off, or how long they should have been. The layout
check says so (`Proofs.Abi.CutLayout`), and reading call data ends with what the check says, before
any value is looked at (`CallData.decode_eq_error`).

## Main statements

* `CallData.decode_take_or_append`: what is said about call data that are cut or extended.
-/

namespace StakingGateway.CallData

open Abi (Values)

/-- What the layout check refuses is not read. -/
theorem decode_eq_error {descriptor : Descriptor} {data : Bytes} {fault : DecodeFault}
    (hlength : 4 ≤ data.length)
    (h : Layout.check descriptor.inputs (data.drop 4) = .error fault) :
    decode descriptor data = .error fault := by
  rw [decode, if_neg (by omega)]
  dsimp only
  rw [h]
  rfl

section Method

variable {method : Method} {values : Values method.inputs}

/-- Behind the selector are the values. -/
theorem drop_ofArguments :
    (ofArguments method values).drop 4 = Abi.encodeValues method.inputs values :=
  List.drop_left' method.selector.length_octets

theorem length_ofArguments :
    (ofArguments method values).length = 4 + (Abi.encodeValues method.inputs values).length := by
  rw [ofArguments, List.length_append, method.selector.length_octets]

/-- Call data that are cut behind the selector are cut short in an argument: in the one whose head
word is not whole, or in the first text whose tail is not. -/
theorem decode_take {cut : Nat} (hfour : 4 ≤ cut) (hcut : cut < (ofArguments method values).length)
    (hsize : (Abi.encodeValues method.inputs values).length < UInt64.size) :
    ∃ index, decode method.descriptor ((ofArguments method values).take cut) =
        .error (.truncated index) ∧
      (cut - 4 < 32 * method.inputs.length → index = (cut - 4) / 32) ∧
      (32 * method.inputs.length ≤ cut - 4 →
        Layout.IsFirstCut method.inputs values (cut - 4) index) := by
  rw [length_ofArguments] at hcut
  have hlong : 4 ≤ ((ofArguments method values).take cut).length := by
    rw [List.length_take, length_ofArguments]
    omega
  have hbody : ((ofArguments method values).take cut).drop 4 =
      (Abi.encodeValues method.inputs values).take (cut - 4) := by
    rw [List.drop_take, drop_ofArguments]
  by_cases hheads : cut - 4 < 32 * method.inputs.length
  · refine ⟨(cut - 4) / 32, decode_eq_error hlong ?_, fun _ => rfl, fun h => by omega⟩
    rw [hbody]
    exact Layout.check_take_heads (by omega) hheads
  · obtain ⟨index, hcheck, hfirst⟩ := Layout.check_take_tails (isFlat_inputs method) hsize
      (show cut - 4 < _ by omega) (not_lt.mp hheads)
    refine ⟨index, decode_eq_error hlong ?_, fun h => absurd h hheads, fun _ => hfirst⟩
    rw [hbody]
    exact hcheck

/-- Call data with something behind them are longer than they should be. -/
theorem decode_append {suffix : Bytes} (hsuffix : suffix ≠ [])
    (hsize : (Abi.encodeValues method.inputs values ++ suffix).length < UInt64.size) :
    decode method.descriptor (ofArguments method values ++ suffix) =
      .error (.lengthMismatch (Abi.encodeValues method.inputs values).length
        ((Abi.encodeValues method.inputs values).length + suffix.length)) := by
  apply decode_eq_error
  · rw [List.length_append, length_ofArguments]
    omega
  · rw [ofArguments, List.append_assoc, List.drop_left' method.selector.length_octets]
    exact Layout.check_append (isFlat_inputs method) hsize hsuffix

/-- Call data with something behind them, however much that is, are not read. -/
theorem decode_append_ne_ok {suffix : Bytes} (hsuffix : suffix ≠ []) (request : Request) :
    decode method.descriptor (ofArguments method values ++ suffix) ≠ .ok request := by
  intro hread
  obtain ⟨hcheck, -⟩ := exists_values_of_decode hread
  have hsize := Layout.length_lt_of_check hcheck (by cases method <;> decide)
  rw [ofArguments, List.append_assoc, List.drop_left' method.selector.length_octets] at hsize
  rw [decode_append hsuffix hsize] at hread
  cases hread

end Method

/-- **Call data that are cut or extended are refused, with what is wrong with them.** If they are
broken off among the head words, the argument is named whose word is not whole, and otherwise the
first text whose tail is not whole. If they are extended, it is said where they should have ended.
So nothing that call data are a proper prefix of is read, whichever method it is routed to. -/
theorem decode_take_or_append (request : Request) (data : Bytes)
    (hencode : encode request = .ok data) (hdata : (data.drop 4).length < 2 ^ 62) :
    let descriptor := request.method.descriptor
    let length := (data.drop 4).length
    let heads := 32 * descriptor.inputs.length
    ∃ values : Values request.method.inputs, request.arguments = .ok values ∧
      (∀ cut, 4 ≤ cut → cut < 4 + length →
        ∃ index, decode descriptor (data.take cut) = .error (.truncated index) ∧
          (cut - 4 < heads → index = (cut - 4) / 32) ∧
          (heads ≤ cut - 4 → Layout.IsFirstCut request.method.inputs values (cut - 4) index)) ∧
      (∀ suffix, suffix ≠ [] → (data ++ suffix).length < 2 ^ 63 →
        decode descriptor (data ++ suffix) =
          .error (.lengthMismatch length (length + suffix.length))) ∧
      ∀ other routed result, data <+: other → data ≠ other →
        RoutingTable.staking.route other = .ok routed → decode routed other ≠ .ok result := by
  intro descriptor length heads
  obtain ⟨values, hvalues, rfl⟩ := map_eq_ok_iff.mp hencode
  have hlength : length = (Abi.encodeValues request.method.inputs values).length :=
    congrArg List.length drop_ofArguments
  have hbound : 2 ^ 63 < UInt64.size := by decide
  refine ⟨values, hvalues, ?_, ?_, ?_⟩
  · intro cut hfour hcut
    exact decode_take hfour (by rw [length_ofArguments]; omega) (by omega)
  · intro suffix hsuffix hsize
    rw [List.length_append, length_ofArguments] at hsize
    rw [hlength]
    exact decode_append hsuffix (by rw [List.length_append]; omega)
  · rintro other routed result ⟨suffix, rfl⟩ hne hroute
    obtain ⟨method, rfl, hselector⟩ := RoutingTable.route_eq_ok_iff.mp hroute
    rw [ofArguments, List.append_assoc, List.take_left' request.method.selector.length_octets]
      at hselector
    obtain rfl := Method.selector_injective (Selector.ext hselector)
    refine decode_append_ne_ok ?_ result
    rintro rfl
    exact hne (List.append_nil _).symm

/-- The call data of a redelegation have three texts. They are broken off in the head word of the
denomination, in the second text, and in the length of the third one, and then have an octet too
many. -/
theorem decode_redelegation_cut :
    let request : Request := .transaction (.redelegate (.ofNat 1) "alpha" "beta" ⟨"stake", 7⟩)
    let data := ofArguments .redelegate (.ofNat 1, "alpha", "beta", "stake", (7 : Uint256), ())
    let descriptor := Method.redelegate.descriptor
    encode request = .ok data ∧ (data.drop 4).length < 2 ^ 62 ∧
      decode descriptor (data.take 104) = .error (.truncated 3) ∧
      decode descriptor (data.take 264) = .error (.truncated 2) ∧
      decode descriptor (data.take 304) = .error (.truncated 3) ∧
      decode descriptor (data ++ [0]) = .error (.lengthMismatch 352 353) := by
  intro request data descriptor
  have hencode : encode request = .ok data := rfl
  have hlength : (data.drop 4).length = 352 := by decide +kernel
  have hdata : (data.drop 4).length < 2 ^ 62 := by
    rw [hlength]
    decide
  obtain ⟨values, hvalues, hcut, hextended, -⟩ :=
    decode_take_or_append request data hencode hdata
  obtain rfl : (.ofNat 1, "alpha", "beta", "stake", (7 : Uint256), ()) = values :=
    Except.ok.inj hvalues
  rw [hlength] at hcut hextended
  obtain ⟨index, hhead, hindex, -⟩ := hcut 104 (by decide) (by decide)
  obtain rfl : index = 3 := hindex (by decide)
  obtain ⟨index, hsecond, -, hfirst⟩ := hcut 264 (by decide) (by decide)
  obtain rfl : index = 2 := (hfirst (by decide)).unique ⟨⟨_, rfl⟩, by decide, by decide⟩
  obtain ⟨index, hthird, -, hfirst⟩ := hcut 304 (by decide) (by decide)
  obtain rfl : index = 3 := (hfirst (by decide)).unique ⟨⟨_, rfl⟩, by decide, by decide⟩
  exact ⟨hencode, hdata, hhead, hsecond, hthird, hextended [0] (by decide) (by decide +kernel)⟩

end StakingGateway.CallData
