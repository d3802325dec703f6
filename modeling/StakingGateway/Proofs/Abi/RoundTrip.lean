import StakingGateway.Abi.Decoder
import StakingGateway.Proofs.Abi.Arrangement
import StakingGateway.Proofs.Fallible

/-!
# Reading Back What Was Encoded

The generous decoder inverts the encoder: from the octets of values, whatever follows them, it
reads the values (`Abi.decodeValues_encodeValues`). The induction is on the schema. It goes
along a row of heads with a buffer that holds the tails still to come, so the statement about
one value (`Abi.take_chunk`) is about its head in front of any octets, and about a buffer that
holds its tail at any offset.

An array whose elements take no room could have more elements than a length of 64 bits can
say. Schemas without such arrays are called countable; of all other values the number of
octets bounds every offset and every length.

## Main definitions

* `Abi.Schema.isCountable`, `Abi.allCountable`: no array has elements that take no room.

## Main statements

* `Abi.take_chunk`, `Abi.takeFields_heads`: one value, and the values of fields.
* `Abi.decodeValues_encodeValues`: the round trip.
-/

namespace StakingGateway.Abi

open Bytes (toNat)

mutual

/-- Whether the elements of each array take room among the heads. -/
def Schema.isCountable : Schema → Bool
  | .tuple fields => allCountable fields
  | .array element => decide (0 < element.headWords) && element.isCountable
  | _ => true

/-- Whether the elements of each array in the fields take room among the heads. -/
def allCountable : List Field → Bool
  | [] => true
  | ⟨_, schema⟩ :: fields => schema.isCountable && allCountable fields

end

/-! ### Words and offsets -/

theorem takeWord_append {w : Bytes} (hw : w.length = 32) (rest : Bytes) :
    takeWord (w ++ rest) = .ok (w, rest) := by
  have hlength : ¬ (w ++ rest).length < 32 := by
    rw [List.length_append]
    omega
  rw [takeWord, if_neg hlength, List.take_left' hw, List.drop_left' hw]

/-- A number of 64 bits reads back as an offset. -/
theorem takeOffset_word {n : Nat} (hn : n < UInt64.size) (rest : Bytes) :
    takeOffset (word n ++ rest) = .ok (n, rest) := by
  have hsize : n < Uint256.size := lt_trans hn (by decide)
  simp only [takeOffset, takeWord_append (length_word n), ok_bind, toNat_word hsize, if_pos hn]
  rfl

theorem takeValue_append {α : Type} {ofWord : Bytes → α} {w : Bytes} (hw : w.length = 32)
    (rest : Bytes) : takeValue ofWord (w ++ rest) = .ok (ofWord w, rest) := by
  simp only [takeValue, takeWord_append hw, ok_bind]
  rfl

/-- A value behind the heads is read from where the buffer holds it. -/
theorem takeChild_word {α : Type} {decode : Bytes → Except Fault α} {buffer tail : Bytes}
    {offset : Nat} {value : α} (hbuffer : buffer.length < UInt64.size)
    (hheld : Holds buffer offset tail)
    (hdecode : ∀ suffix, (tail ++ suffix).length < UInt64.size →
      decode (tail ++ suffix) = .ok value) (rest : Bytes) :
    takeChild decode buffer (word offset ++ rest) = .ok (value, rest) := by
  obtain ⟨hle, suffix, hsuffix⟩ := hheld
  have hlength : (tail ++ suffix).length < UInt64.size := by
    rw [hsuffix, List.length_drop]
    omega
  have hchild : childBuffer buffer offset = .ok (tail ++ suffix) := by
    rw [childBuffer, if_neg (by omega), hsuffix]
  have hoffset : offset < UInt64.size := by omega
  simp only [takeChild, takeOffset_word hoffset, hchild, hdecode suffix hlength, ok_bind]
  rfl

/-! ### Texts -/

/-- A text reads back, whatever follows it. -/
theorem decodeText_encode (text : String) (suffix : Bytes)
    (hlength : (encode .string text ++ suffix).length < UInt64.size) :
    decodeText (encode .string text ++ suffix) = .ok text := by
  rw [encode_string, padded, List.append_assoc, List.append_assoc] at hlength ⊢
  generalize htail : Bytes.zeros ((32 - (Text.utf8 text).length % 32) % 32) ++ suffix = tail
    at hlength ⊢
  simp only [List.length_append, length_word] at hlength
  have hoffset : (Text.utf8 text).length < UInt64.size := by omega
  have hin : ¬ (Text.utf8 text ++ tail).length < (Text.utf8 text).length := by
    rw [List.length_append]
    omega
  simp only [decodeText, takeOffset_word hoffset, ok_bind, if_neg hin, List.take_left,
    Text.ofUtf8Lossy_utf8]
  rfl

/-! ### Arrays -/

/-- The elements of an array read back if each of them does. -/
theorem takeMany_heads {element : Schema} {buffer : Bytes}
    (htake : ∀ (value : element.Value) (offset : Nat) (rest : Bytes),
      Holds buffer offset (tails [chunk element value]) →
        take element buffer (heads offset [chunk element value] ++ rest) = .ok (value, rest))
    (values : List element.Value) (offset : Nat) (rest : Bytes)
    (hheld : Holds buffer offset (tails (values.map (chunk element)))) :
    takeMany (take element buffer) values.length
      (heads offset (values.map (chunk element)) ++ rest) = .ok (values, rest) := by
  induction values generalizing offset with
  | nil => rfl
  | cons value values ih =>
      rw [List.map_cons, tails_cons] at hheld
      have hfirst := htake value offset
        (heads (offset + (tails [chunk element value]).length) (values.map (chunk element)) ++
          rest) hheld.left
      simp only [List.map_cons, List.length_cons, takeMany]
      rw [heads_cons, List.append_assoc, hfirst, ok_bind, ih _ hheld.right]
      rfl

/-- An array reads back, whatever follows it, if its elements do. -/
theorem decodeList_encode {element : Schema} (hwords : 0 < element.headWords)
    (htake : ∀ {buffer : Bytes}, buffer.length < UInt64.size →
      ∀ (value : element.Value) (offset : Nat) (rest : Bytes),
        Holds buffer offset (tails [chunk element value]) →
          take element buffer (heads offset [chunk element value] ++ rest) = .ok (value, rest))
    (values : List element.Value) (suffix : Bytes)
    (hlength : (encode (.array element) values ++ suffix).length < UInt64.size) :
    decodeList element.headWords (take element) (encode (.array element) values ++ suffix) =
      .ok values := by
  rw [encode_array, List.append_assoc] at hlength ⊢
  have hheld := holds_arrange (values.map (chunk element)) suffix
  have hrest : arrange (values.map (chunk element)) ++ suffix =
      heads (headsLength (values.map (chunk element))) (values.map (chunk element)) ++
        (tails (values.map (chunk element)) ++ suffix) := List.append_assoc _ _ _
  generalize arrange (values.map (chunk element)) ++ suffix = rest at hlength hheld hrest ⊢
  have hroom : 32 * (element.headWords * values.length) ≤ rest.length := by
    rw [← headsLength_elements]
    exact hheld.1
  have hcount : values.length ≤ element.headWords * values.length :=
    Nat.le_mul_of_pos_left _ hwords
  rw [List.length_append, length_word] at hlength
  have hmany := takeMany_heads (htake (by omega)) values _
    (tails (values.map (chunk element)) ++ suffix) hheld
  rw [← hrest] at hmany
  have hoffset : values.length < UInt64.size := by omega
  have hin : ¬ rest.length / 32 < element.headWords * values.length := by omega
  simp only [decodeList, takeOffset_word hoffset, ok_bind, if_neg hin, hmany]
  rfl

/-! ### All schemas -/

/-- A value that is a word reads back if its word does. -/
theorem take_word {schema : Schema} {value : schema.Value} (ofWord : Bytes → schema.Value)
    (hstatic : schema.isDynamic = false) (hwords : schema.headWords = 1)
    (htake : ∀ buffer rest, take schema buffer rest = takeValue ofWord rest)
    (hread : ofWord (encode schema value) = value) (buffer : Bytes) (offset : Nat)
    (rest : Bytes) :
    take schema buffer (heads offset [chunk schema value] ++ rest) = .ok (value, rest) := by
  have hlength := headLength_chunk schema value
  rw [Chunk.headLength, chunk, hstatic, if_neg Bool.false_ne_true, hwords] at hlength
  rw [heads_chunk_of_static value hstatic, htake, takeValue_append hlength, hread]

/-- A tuple of variable width is read from behind the heads. -/
theorem take_tuple_of_dynamic {fields : List Field} (h : anyDynamic fields = true)
    (buffer rest : Bytes) :
    take (.tuple fields) buffer rest =
      takeChild (fun child => (takeFields fields child child).map (·.1)) buffer rest :=
  if_pos h

/-- A tuple of fixed width is read among the heads. -/
theorem take_tuple_of_static {fields : List Field} (h : anyDynamic fields = false)
    (buffer rest : Bytes) :
    take (.tuple fields) buffer rest = takeFields fields buffer rest :=
  if_neg (Bool.eq_false_iff.mp h)

mutual

/-- A value reads back from its head, given a buffer that holds its tail. -/
theorem take_chunk : (schema : Schema) → schema.isCountable = true →
    ∀ {buffer : Bytes}, buffer.length < UInt64.size →
      ∀ (value : schema.Value) (offset : Nat) (rest : Bytes),
        Holds buffer offset (tails [chunk schema value]) →
          take schema buffer (heads offset [chunk schema value] ++ rest) = .ok (value, rest)
  | .address, _, buffer, _, (address : Address), offset, rest, _ => by
    refine take_word _ rfl rfl (fun _ _ => rfl) ?_ buffer offset rest
    rw [encode]
    exact ofNat_toNat_address address
  | .bool, _, buffer, _, (b : Bool), offset, rest, _ => by
    refine take_word _ rfl rfl (fun _ _ => rfl) ?_ buffer offset rest
    rw [encode]
    exact isZero_word_bool b
  | .uint8, _, buffer, _, (n : UInt8), offset, rest, _ => by
    refine take_word _ rfl rfl (fun _ _ => rfl) ?_ buffer offset rest
    rw [encode]
    exact ofNat_toNat_uint8 n
  | .int64, _, buffer, _, (n : Int64), offset, rest, _ => by
    refine take_word _ rfl rfl (fun _ _ => rfl) ?_ buffer offset rest
    rw [encode]
    exact ofNat_toNat_signedWord n
  | .uint256, _, buffer, _, (n : Uint256), offset, rest, _ => by
    refine take_word _ rfl rfl (fun _ _ => rfl) ?_ buffer offset rest
    rw [encode]
    exact truncate_toNat_toBytes n
  | .string, _, buffer, hbuffer, text, offset, rest, hheld => by
    rw [tails_chunk_of_dynamic text rfl] at hheld
    rw [heads_chunk_of_dynamic text rfl]
    exact takeChild_word hbuffer hheld (decodeText_encode text) rest
  | .tuple fields, hcountable, buffer, hbuffer, values, offset, rest, hheld => by
    have htuple : encode (.tuple fields) values = arrange (chunks fields values) := rfl
    cases hd : anyDynamic fields with
    | true =>
      rw [tails_chunk_of_dynamic values hd, htuple] at hheld
      rw [heads_chunk_of_dynamic values hd, take_tuple_of_dynamic hd]
      refine takeChild_word hbuffer hheld (fun suffix hlength => ?_) rest
      have ih := takeFields_heads fields hcountable hlength values _
        (tails (chunks fields values) ++ suffix) (holds_arrange (chunks fields values) suffix)
      rw [← List.append_assoc, ← arrange] at ih
      rw [ih]
      rfl
    | false =>
      have hstatic := isDynamic_of_mem_chunks hd values
      rw [tails_chunk_of_static values hd, ← tails_eq_nil_of_static hstatic] at hheld
      rw [heads_chunk_of_static values hd, take_tuple_of_static hd, htuple, arrange,
        tails_eq_nil_of_static hstatic, List.append_nil, heads_eq_of_static hstatic _ offset]
      exact takeFields_heads fields hcountable hbuffer values offset rest hheld
  | .array element, hcountable, buffer, hbuffer, values, offset, rest, hheld => by
    rw [Schema.isCountable, Bool.and_eq_true, decide_eq_true_eq] at hcountable
    rw [tails_chunk_of_dynamic values rfl] at hheld
    rw [heads_chunk_of_dynamic values rfl]
    exact takeChild_word hbuffer hheld
      (decodeList_encode hcountable.1 (take_chunk element hcountable.2) values) rest

/-- The values of fields read back from their heads, given a buffer that holds their tails. -/
theorem takeFields_heads : (fields : List Field) → allCountable fields = true →
    ∀ {buffer : Bytes}, buffer.length < UInt64.size →
      ∀ (values : Values fields) (offset : Nat) (rest : Bytes),
        Holds buffer offset (tails (chunks fields values)) →
          takeFields fields buffer (heads offset (chunks fields values) ++ rest) =
            .ok (values, rest)
  | [], _, _, _, (), _, _, _ => rfl
  | ⟨_, schema⟩ :: fields, hcountable, buffer, hbuffer, (value, values), offset, rest,
      hheld => by
    rw [allCountable, Bool.and_eq_true] at hcountable
    rw [chunks, tails_cons] at hheld
    have hvalue := take_chunk schema hcountable.1 hbuffer value offset
      (heads (offset + (tails [chunk schema value]).length) (chunks fields values) ++ rest)
      hheld.left
    have hvalues := takeFields_heads fields hcountable.2 hbuffer values _ rest hheld.right
    rw [chunks, heads_cons, List.append_assoc, takeFields, hvalue, ok_bind]
    show (takeFields fields buffer _ >>= fun _ => _) = _
    rw [hvalues]
    rfl

end

/-- The values of fields read back from their octets. -/
theorem decodeValues_encodeValues {fields : List Field} (hcountable : allCountable fields = true)
    (values : Values fields) (hlength : (encodeValues fields values).length < UInt64.size) :
    decodeValues fields (encodeValues fields values) = .ok values := by
  have hheld := holds_arrange (chunks fields values) []
  rw [List.append_nil, ← encodeValues] at hheld
  have hread := takeFields_heads fields hcountable hlength values _
    (tails (chunks fields values)) hheld
  rw [← arrange, ← encodeValues] at hread
  rw [decodeValues, hread]
  rfl

end StakingGateway.Abi
