import StakingGateway.Proofs.Abi.Words

/-!
# Heads and Tails

Encoded values that stand in a list are a row of heads and a row of tails. Walking along the
list, what matters of the values behind is where their tails start, so this module splits both
rows at the first value (`Abi.heads_cons`, `Abi.tails_cons`) and says how wide they are: a row
of heads is as wide as its schemas alone tell (`Abi.headsLength_chunks`), and values of fixed
width have no tails (`Abi.tails_eq_nil_of_static`).

A buffer *holds* a tail at an offset (`Abi.Holds`) when the octets from there on start with it.
Both the generous decoder and the layout check go along the heads with a buffer that holds the
tails still to come.

## Main definitions

* `Abi.chunk`: the encoded value of a schema, as it stands in a list.
* `Abi.Holds`: the octets of a buffer from an offset on start with a given tail.
-/

namespace StakingGateway.Abi

/-- The value as it stands in a list. -/
@[reducible] def chunk (schema : Schema) (value : schema.Value) : Chunk :=
  ⟨schema.isDynamic, encode schema value⟩

theorem encode_string (text : String) :
    encode .string text = word (Text.utf8 text).length ++ padded (Text.utf8 text) := rfl

theorem encode_array (element : Schema) (values : List element.Value) :
    encode (.array element) values =
      word values.length ++ arrange (values.map (chunk element)) := rfl

/-! ### Rows of heads and tails -/

@[simp] theorem heads_nil (offset : Nat) : heads offset [] = [] := rfl

@[simp] theorem tails_nil : tails [] = [] := rfl

/-- The first head, and the heads behind it, whose tails start behind the first tail. -/
theorem heads_cons (offset : Nat) (c : Chunk) (cs : List Chunk) :
    heads offset (c :: cs) = heads offset [c] ++ heads (offset + (tails [c]).length) cs := by
  obtain ⟨isDynamic, octets⟩ := c
  cases isDynamic with
  | false => simp [heads, tails]
  | true => simp [heads, tails]

/-- The first tail, and the tails behind it. -/
theorem tails_cons (c : Chunk) (cs : List Chunk) : tails (c :: cs) = tails [c] ++ tails cs := by
  obtain ⟨isDynamic, octets⟩ := c
  cases isDynamic with
  | false => simp [tails]
  | true => simp [tails]

/-- The row of heads is as wide as the heads are together. -/
theorem length_heads (offset : Nat) (cs : List Chunk) :
    (heads offset cs).length = headsLength cs := by
  induction cs generalizing offset with
  | nil => rfl
  | cons c cs ih =>
      obtain ⟨isDynamic, octets⟩ := c
      cases isDynamic with
      | false => simp [heads, headsLength, Chunk.headLength, ih]
      | true => simp [heads, headsLength, Chunk.headLength, ih]

/-- Where no value has a tail, the heads do not depend on where tails would start. -/
theorem heads_eq_of_static {cs : List Chunk} (h : ∀ c ∈ cs, c.isDynamic = false)
    (o₁ o₂ : Nat) : heads o₁ cs = heads o₂ cs := by
  induction cs with
  | nil => rfl
  | cons c cs ih =>
      have hc := h c List.mem_cons_self
      have hcs := ih fun d hd => h d (List.mem_cons_of_mem c hd)
      simp only [heads, hc, Bool.false_eq_true, if_false, hcs]

/-- Values of fixed width have no tails. -/
theorem tails_eq_nil_of_static {cs : List Chunk} (h : ∀ c ∈ cs, c.isDynamic = false) :
    tails cs = [] := by
  induction cs with
  | nil => rfl
  | cons c cs ih =>
      have hc := h c List.mem_cons_self
      have hcs := ih fun d hd => h d (List.mem_cons_of_mem c hd)
      simp only [tails, hc, Bool.false_eq_true, if_false, hcs]

/-! ### One value -/

section Chunk

variable {schema : Schema}

/-- The head of a value of fixed width is the value. -/
theorem heads_chunk_of_static (value : schema.Value) (h : schema.isDynamic = false)
    (offset : Nat) : heads offset [chunk schema value] = encode schema value := by
  rw [chunk, h]
  exact List.append_nil _

/-- A value of fixed width has no tail. -/
theorem tails_chunk_of_static (value : schema.Value) (h : schema.isDynamic = false) :
    tails [chunk schema value] = [] := by
  rw [chunk, h]
  rfl

/-- The head of any other value is the offset of its tail. -/
theorem heads_chunk_of_dynamic (value : schema.Value) (h : schema.isDynamic = true)
    (offset : Nat) : heads offset [chunk schema value] = word offset := by
  rw [chunk, h]
  exact List.append_nil _

/-- The tail of any other value is the value. -/
theorem tails_chunk_of_dynamic (value : schema.Value) (h : schema.isDynamic = true) :
    tails [chunk schema value] = encode schema value := by
  rw [chunk, h]
  exact List.append_nil _

end Chunk

/-! ### The chunks of fields -/

/-- No field of fixed width has a tail. -/
theorem isDynamic_of_mem_chunks {fields : List Field} (h : anyDynamic fields = false) :
    ∀ (values : Values fields), ∀ c ∈ chunks fields values, c.isDynamic = false := by
  induction fields with
  | nil => simp [chunks]
  | cons field fields ih =>
      obtain ⟨name, schema⟩ := field
      rw [anyDynamic, Bool.or_eq_false_iff] at h
      rintro ⟨value, values⟩ c hc
      rw [chunks, List.mem_cons] at hc
      rcases hc with rfl | hc
      · exact h.1
      · exact ih h.2 values c hc

mutual

/-- A head is as wide as its schema tells. -/
theorem headLength_chunk : (schema : Schema) → (value : schema.Value) →
    (chunk schema value).headLength = 32 * schema.headWords
  | .address, (address : Address) => by
    simp [Chunk.headLength, Schema.isDynamic, encode, Schema.headWords, address.length_octets]
  | .bool, (b : Bool) => by
    simp [Chunk.headLength, Schema.isDynamic, encode, Schema.headWords]
  | .uint8, (n : UInt8) => by
    simp [Chunk.headLength, Schema.isDynamic, encode, Schema.headWords]
  | .int64, (n : Int64) => by
    simp [Chunk.headLength, Schema.isDynamic, encode, Schema.headWords]
  | .uint256, (n : Uint256) => by
    simp [Chunk.headLength, Schema.isDynamic, encode, Schema.headWords, Uint256.toBytes]
  | .string, (text : String) => by
    simp [Chunk.headLength, Schema.isDynamic, Schema.headWords]
  | .tuple fields, (values : Values fields) => by
    have ih := headsLength_chunks fields values
    cases hd : anyDynamic fields with
    | true => simp [Chunk.headLength, Schema.isDynamic, Schema.headWords, hd]
    | false =>
      have htails := tails_eq_nil_of_static (isDynamic_of_mem_chunks hd values)
      simp [Chunk.headLength, Schema.isDynamic, Schema.headWords, hd, encode, arrange,
        length_heads, htails, ih]
  | .array element, (values : List element.Value) => by
    simp [Chunk.headLength, Schema.isDynamic, Schema.headWords]

/-- The row of heads is as wide as its schemas tell. -/
theorem headsLength_chunks : (fields : List Field) → (values : Values fields) →
    headsLength (chunks fields values) = 32 * headWordsOf fields
  | [], _ => rfl
  | ⟨_, schema⟩ :: fields, (value, values) => by
    have hvalue := headLength_chunk schema value
    have hvalues := headsLength_chunks fields values
    rw [chunks, headsLength, headWordsOf, hvalue, hvalues]
    ring

end

/-- The row of heads of an array. -/
theorem headsLength_elements (element : Schema) (values : List element.Value) :
    headsLength (values.map (chunk element)) = 32 * (element.headWords * values.length) := by
  induction values with
  | nil => rfl
  | cons value values ih =>
      have hvalue := headLength_chunk element value
      rw [List.map_cons, headsLength, hvalue, ih, List.length_cons]
      ring

/-! ### Buffers that hold tails -/

/-- The octets of the buffer from the offset on start with the tail. -/
def Holds (buffer : Bytes) (offset : Nat) (tail : Bytes) : Prop :=
  offset ≤ buffer.length ∧ tail <+: buffer.drop offset

/-- Where a tail in two parts is held, its first part is. -/
theorem Holds.left {buffer a b : Bytes} {offset : Nat} (h : Holds buffer offset (a ++ b)) :
    Holds buffer offset a :=
  ⟨h.1, (List.prefix_append a b).trans h.2⟩

/-- Where a tail in two parts is held, its second part is held behind the first. -/
theorem Holds.right {buffer a b : Bytes} {offset : Nat} (h : Holds buffer offset (a ++ b)) :
    Holds buffer (offset + a.length) b := by
  obtain ⟨hle, rest, hrest⟩ := h
  have hlength := congrArg List.length hrest
  simp only [List.length_append, List.length_drop] at hlength
  refine ⟨by omega, rest, ?_⟩
  rw [← List.drop_drop, ← hrest, List.append_assoc, List.drop_left]

/-- Parts that are held one behind the other are held together. -/
theorem Holds.append {buffer a b : Bytes} {offset : Nat} (ha : Holds buffer offset a)
    (hb : Holds buffer (offset + a.length) b) : Holds buffer offset (a ++ b) := by
  obtain ⟨hle, rest, hrest⟩ := ha
  obtain ⟨-, rest', hrest'⟩ := hb
  refine ⟨hle, rest', ?_⟩
  rw [← List.drop_drop, ← hrest, List.drop_left] at hrest'
  rw [List.append_assoc, hrest', hrest]

/-- A tail that is held ends within the buffer. -/
theorem Holds.le_length {buffer tail : Bytes} {offset : Nat} (h : Holds buffer offset tail) :
    offset + tail.length ≤ buffer.length := by
  have := h.2.length_le
  rw [List.length_drop] at this
  have := h.1
  omega

/-- Every buffer holds nothing at every offset within it. -/
theorem holds_nil_iff {buffer : Bytes} {offset : Nat} :
    Holds buffer offset [] ↔ offset ≤ buffer.length :=
  ⟨And.left, fun h => ⟨h, List.nil_prefix⟩⟩

/-- What is held at an offset is what is read from there in its length. -/
theorem holds_iff_take_eq {buffer tail : Bytes} {offset : Nat}
    (h : offset + tail.length ≤ buffer.length) :
    Holds buffer offset tail ↔ (buffer.drop offset).take tail.length = tail := by
  rw [Holds, List.prefix_iff_eq_take, eq_comm]
  exact and_iff_right (by omega)

/-- What is held is what is read from there. -/
theorem Holds.take_drop_eq {buffer tail : Bytes} {offset : Nat} (h : Holds buffer offset tail) :
    (buffer.drop offset).take tail.length = tail :=
  (holds_iff_take_eq h.le_length).mp h

/-- An arrangement holds its tails behind its heads, whatever follows it. -/
theorem holds_arrange (cs : List Chunk) (suffix : Bytes) :
    Holds (arrange cs ++ suffix) (headsLength cs) (tails cs) := by
  have hheads := length_heads (headsLength cs) cs
  rw [arrange, List.append_assoc]
  refine ⟨?_, suffix, ?_⟩
  · rw [List.length_append, hheads]
    exact Nat.le_add_right _ _
  · rw [List.drop_left' hheads]

end StakingGateway.Abi
