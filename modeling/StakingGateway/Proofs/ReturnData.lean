import StakingGateway.Proofs.Abi.RoundTrip
import StakingGateway.ReturnData

/-!
# Return Data Read Back

A method returns answers of one kind, and has return data for all answers of that kind and for no
others. Return data are the octets of values, so that they hold the values is known
(`Abi.decodeValues_encodeValues`). What is left are the two translations between answers and values.
On the way out times are widened to words, and on the way in they are narrowed again and statuses
are looked up; neither can fail on what was written (`ReturnData.time_ofUInt64`,
`ReturnData.ofValues_of_values?`). Fields of one type stand next to each other in the records, so it
matters that both translations name them in one order.

## Main definitions

* `Reply.Kind`, `Reply.kind`: the kinds of answers.
* `Method.replyKind`: the kind of answers that a method returns.

## Main statements

* `ReturnData.encode_eq_ok_iff`: the answers that have return data, and these.
* `ReturnData.answers_read_back`: an answer reads back from its return data.
-/

namespace StakingGateway

open Abi (Values)

/-! ### Kinds of answers -/

/-- The kinds of answers. -/
inductive Reply.Kind where
  /-- Nothing but success. -/
  | void
  /-- A time. -/
  | completionTime
  /-- A delegation. -/
  | delegation
  /-- What is on its way back. -/
  | unbondingDelegation
  /-- A validator. -/
  | validator
deriving DecidableEq

/-- The kind of the answer. -/
def Reply.kind : Reply → Reply.Kind
  | void => .void
  | completionTime _ => .completionTime
  | delegation _ => .delegation
  | unbondingDelegation _ => .unbondingDelegation
  | validator _ => .validator

/-- The kind of answers that the method returns. -/
def Method.replyKind : Method → Reply.Kind
  | delegate => .void
  | undelegate => .completionTime
  | redelegate => .completionTime
  | cancelUnbondingDelegation => .void
  | delegation => .delegation
  | unbondingDelegation => .unbondingDelegation
  | validator => .validator

namespace ReturnData

variable {method : Method} {reply : Reply} {values : Values method.outputs} {data : Bytes}

/-! ### Answers and values -/

/-- A time that was widened to a word fits 64 bits. -/
theorem time_ofUInt64 (t : UInt64) : time (.ofUInt64 t) = .ok t := by
  have hfits : (Uint256.ofUInt64 t).toUInt64? = some t := by
    rw [Uint256.toUInt64?, if_pos (show (Uint256.ofUInt64 t).toNat < UInt64.size from t.toNat_lt)]
    exact congrArg some (UInt64.ofNat_toNat)
  rw [time, hfits]

/-- The values of an entry make the entry. -/
theorem ofEntryValues_entryValues (entry : UnbondingEntry) :
    ofEntryValues (entryValues entry) = .ok entry := by
  show (time (.ofUInt64 entry.completionTime) >>= _) = _
  rw [time_ofUInt64]
  rfl

/-- The values of entries make the entries, in their order. -/
theorem mapM_ofEntryValues (entries : List UnbondingEntry) :
    (entries.map entryValues).mapM ofEntryValues = .ok entries := by
  induction entries with
  | nil => rfl
  | cons entry entries ih =>
      rw [List.map_cons, List.mapM_cons, ofEntryValues_entryValues, ih]
      rfl

/-- The values of an answer make the answer. -/
theorem ofValues_of_values? (h : values? method reply = some values) :
    ofValues method values = .ok reply := by
  cases method with
  | delegate | cancelUnbondingDelegation =>
      cases reply <;> cases h
      rfl
  | undelegate | redelegate =>
      cases reply <;> cases h
      show (time (.ofUInt64 _) >>= _) = _
      rw [time_ofUInt64]
      rfl
  | delegation =>
      cases reply <;> cases h
      rfl
  | unbondingDelegation =>
      cases reply <;> cases h
      show (List.mapM ofEntryValues (List.map entryValues _) >>= _) = _
      rw [mapM_ofEntryValues]
      rfl
  | validator =>
      cases reply <;> cases h
      simp only [ofValues, BondStatus.ofUInt8?_toUInt8, time_ofUInt64]
      rfl

/-- The answers with values are those of the method's kind. -/
theorem isSome_values? :
    (values? method reply).isSome = decide (reply.kind = method.replyKind) := by
  cases method <;> cases reply <;> rfl

/-! ### Octets -/

theorem allCountable_outputs (method : Method) : Abi.allCountable method.outputs = true := by
  cases method <;> rfl

/-- A method that returns nothing returns no octets. -/
theorem encodeValues_of_isEmpty (h : method.outputs.isEmpty = true)
    (values : Values method.outputs) : Abi.encodeValues method.outputs values = [] := by
  cases method with
  | delegate | cancelUnbondingDelegation => rfl
  | _ => cases h

variable {descriptor : Descriptor}

/-- An answer with values has return data, which are the octets of the values. -/
theorem encode_eq_ok_iff :
    encode descriptor reply = .ok data ↔
      ∃ values, values? descriptor.method reply = some values ∧
        Abi.encodeValues descriptor.method.outputs values = data := by
  rw [encode]
  cases values? descriptor.method reply with
  | some values => simp
  | none => simp

/-- An answer without values has none, and it is said of which method it is no answer. -/
theorem encode_eq_error_iff {fault : EncodeFault} :
    encode descriptor reply = .error fault ↔
      values? descriptor.method reply = none ∧ .replyMismatch descriptor.name = fault := by
  rw [encode]
  cases values? descriptor.method reply with
  | some values => simp
  | none => simp

/-- The octets of values read as the answer that the values make. -/
theorem decode_encodeValues (values : Values descriptor.method.outputs)
    (hlength : (Abi.encodeValues descriptor.method.outputs values).length < UInt64.size) :
    decode descriptor (Abi.encodeValues descriptor.method.outputs values) =
      ofValues descriptor.method values := by
  have hread := Abi.decodeValues_encodeValues (allCountable_outputs descriptor.method) values
    hlength
  rw [decode, if_neg fun hvoid => hvoid.2 (encodeValues_of_isEmpty hvoid.1 values), hread]
  rfl

/-- A method has return data for the answers of its kind. -/
theorem exists_encode_iff :
    (∃ data, encode descriptor reply = .ok data) ↔
      reply.kind = descriptor.method.replyKind := by
  rw [← decide_eq_true_iff (p := reply.kind = _), ← isSome_values?, Option.isSome_iff_exists]
  constructor
  · rintro ⟨data, hdata⟩
    obtain ⟨values, hvalues, -⟩ := encode_eq_ok_iff.mp hdata
    exact ⟨values, hvalues⟩
  · rintro ⟨values, hvalues⟩
    exact ⟨_, encode_eq_ok_iff.mpr ⟨values, hvalues, rfl⟩⟩

/-- An answer reads back from its return data. -/
theorem decode_of_encode (h : encode descriptor reply = .ok data)
    (hlength : data.length < UInt64.size) : decode descriptor data = .ok reply := by
  obtain ⟨values, hvalues, rfl⟩ := encode_eq_ok_iff.mp h
  rw [decode_encodeValues values hlength]
  exact ofValues_of_values? hvalues

/-- **Answers read back from their return data.** A method has return data for the answers of its
kind and for no others, and every answer reads back from its return data. So two answers of a method
never have the same return data. -/
theorem answers_read_back (method : Method) (reply : Reply) :
    ((∃ data, encode method.descriptor reply = .ok data) ↔ reply.kind = method.replyKind) ∧
    (reply.kind ≠ method.replyKind →
      encode method.descriptor reply = .error (.replyMismatch method.name)) ∧
    ∀ data, encode method.descriptor reply = .ok data → data.length < 2 ^ 63 →
      decode method.descriptor data = .ok reply ∧
        ∀ other, encode method.descriptor other = .ok data → other = reply := by
  refine ⟨exists_encode_iff, ?_, ?_⟩
  · intro hkind
    cases hencode : encode method.descriptor reply with
    | ok data => exact absurd (exists_encode_iff.mp ⟨data, hencode⟩) hkind
    | error fault => exact congrArg Except.error (encode_eq_error_iff.mp hencode).2.symm
  · intro data hencode hlength
    have hsize : data.length < UInt64.size := lt_trans hlength (by decide)
    have hread := decode_of_encode hencode hsize
    refine ⟨hread, fun other hother => ?_⟩
    exact Except.ok.inj ((decode_of_encode hother hsize).symm.trans hread)

/-- What is on its way back in two entries, one of which was taken at a negative height. -/
theorem decode_unbonding_entries :
    let found : UnbondingDelegation :=
      ⟨.ofNat 7, "operator", [⟨12, 1700000000, 40, 30⟩, ⟨-1, 18446744073709551615, 9, 9⟩]⟩
    let data := Abi.encodeValues Method.unbondingDelegationOutputs
      ((found.delegator, found.validator, found.entries.map entryValues, ()), ())
    encode Method.unbondingDelegation.descriptor (.unbondingDelegation found) = .ok data ∧
      data.length < 2 ^ 63 ∧
      decode Method.unbondingDelegation.descriptor data = .ok (.unbondingDelegation found) := by
  intro found data
  have hencode :
      encode Method.unbondingDelegation.descriptor (.unbondingDelegation found) = .ok data := rfl
  have hlength : data.length < 2 ^ 63 := by decide +kernel
  exact ⟨hencode, hlength, ((answers_read_back _ _).2.2 data hencode hlength).1⟩

end ReturnData

end StakingGateway
