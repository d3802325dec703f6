import StakingGateway.Proofs.Abi.GuardedReads
import StakingGateway.Proofs.Abi.LayoutFaults

/-!
# The Canonical Encoding as a Grammar

What the layout check accepts, said without an encoder: a row of head words, one for each argument,
and behind it the tails of the texts, in the order of the arguments, without gaps, and with nothing
behind the last one. The grammar has one rule for each kind of argument (`Layout.IsArgument`) and
says octet by octet what stands where. It has none for tuples and arrays, so they have no canonical
encoding among arguments.

The check is a parser of this grammar (`Layout.check_iff_canonical`): it accepts what the grammar
derives and nothing else, reads no octet that is not there, and blames only arguments that it was
given.

## Main definitions

* `Layout.IsArgument`, `Layout.IsRow`: the head and the tail of an argument, and of several ones.
* `Layout.IsCanonical`: the octets of values.

## Main statements

* `Layout.isCanonical_iff`: the octets of values are what the encoder writes for them.
* `Layout.check_iff_canonical`: the check is a parser of the grammar.
-/

namespace StakingGateway.Layout

open Abi

/-! ### The grammar -/

/-- The head word of an argument and its tail, which stands at the offset. Only texts have a
tail. -/
inductive IsArgument (offset : Nat) : (schema : Schema) → schema.Value → (head tail : Bytes) → Prop
  where
  /-- Twelve zeros, and the octets of the address. -/
  | address (address : Address) :
    IsArgument offset .address address (Bytes.zeros 12 ++ address.octets) []
  /-- Zeros, and one or zero. -/
  | bool (b : Bool) : IsArgument offset .bool b (Bytes.zeros 31 ++ [if b then 1 else 0]) []
  /-- Zeros, and the number. -/
  | uint8 (n : UInt8) : IsArgument offset .uint8 n (Bytes.zeros 31 ++ [n]) []
  /-- The sign in every bit of 24 octets, and the 64 bits of the number. -/
  | int64 (n : Int64) :
    IsArgument offset .int64 n
      (List.replicate 24 (if n < 0 then 0xff else 0) ++ Bytes.ofNat 8 n.toUInt64.toNat) []
  /-- The number. -/
  | uint256 (n : Uint256) : IsArgument offset .uint256 n (Bytes.ofNat 32 n.toNat) []
  /-- The offset, and at the offset the number of octets, the octets, and zeros up to a whole number
  of words. -/
  | string (text : String) (padding : Nat) (hless : padding < 32)
    (hwhole : 32 ∣ (Text.utf8 text).length + padding) :
    IsArgument offset .string text (Bytes.ofNat 32 offset)
      (Bytes.ofNat 32 (Text.utf8 text).length ++ Text.utf8 text ++ Bytes.zeros padding)

/-- The heads and tails of arguments, the first tail of which stands at the offset. -/
inductive IsRow : (offset : Nat) → (fields : List Field) → Values fields → (heads tails : Bytes) →
    Prop where
  /-- No arguments have no octets. -/
  | nil (offset : Nat) : IsRow offset [] () [] []
  /-- The tail of an argument stands right before the tails of the arguments behind it. -/
  | cons {offset : Nat} {name : String} {schema : Schema} {fields : List Field}
    {value : schema.Value} {values : Values fields} {head tail heads tails : Bytes}
    (hfirst : IsArgument offset schema value head tail)
    (hrest : IsRow (offset + tail.length) fields values heads tails) :
    IsRow offset (⟨name, schema⟩ :: fields) (value, values) (head ++ heads) (tail ++ tails)

/-- The octets are the canonical encoding of the values: one head word for each, and the tails right
behind the heads. -/
def IsCanonical (fields : List Field) (values : Values fields) (body : Bytes) : Prop :=
  ∃ heads tails, IsRow (32 * fields.length) fields values heads tails ∧ body = heads ++ tails

/-! ### The grammar and the encoder -/

/-- The octets of a text with its padding, and how much padding there is. -/
theorem padded_eq {octets : Bytes} {padding : Nat} (hless : padding < 32)
    (hwhole : 32 ∣ octets.length + padding) : padded octets = octets ++ Bytes.zeros padding := by
  have hpadding : (32 - octets.length % 32) % 32 = padding := by omega
  rw [padded, hpadding]

/-- What the grammar derives for an argument is the head and the tail of its value. -/
theorem isArgument_iff {offset : Nat} {schema : Schema} {value : schema.Value}
    {head tail : Bytes} :
    IsArgument offset schema value head tail ↔
      schema.isFlat = true ∧ head = heads offset [chunk schema value] ∧
        tail = tails [chunk schema value] := by
  constructor
  · intro h
    cases h with
    | address address => exact ⟨rfl, (List.append_nil _).symm, rfl⟩
    | bool b =>
        rw [← word_of_bool]
        exact ⟨rfl, (List.append_nil _).symm, rfl⟩
    | uint8 n =>
        rw [← word_of_uint8]
        exact ⟨rfl, (List.append_nil _).symm, rfl⟩
    | int64 n =>
        rw [← signedWord_eq]
        exact ⟨rfl, (List.append_nil _).symm, rfl⟩
    | uint256 n => exact ⟨rfl, (List.append_nil _).symm, rfl⟩
    | string text padding hless hwhole =>
        rw [List.append_assoc, ← padded_eq hless hwhole]
        exact ⟨rfl, (List.append_nil _).symm, (List.append_nil _).symm⟩
  · rintro ⟨hflat, rfl, rfl⟩
    cases schema with
    | address =>
        rw [heads_chunk_of_static value rfl, tails_chunk_of_static value rfl]
        exact .address value
    | bool =>
        have hword : encode .bool value = _ := word_of_bool value
        rw [heads_chunk_of_static value rfl, tails_chunk_of_static value rfl, hword]
        exact .bool value
    | uint8 =>
        have hword : encode .uint8 value = _ := word_of_uint8 value
        rw [heads_chunk_of_static value rfl, tails_chunk_of_static value rfl, hword]
        exact .uint8 value
    | int64 =>
        have hword : encode .int64 value = _ := signedWord_eq value
        rw [heads_chunk_of_static value rfl, tails_chunk_of_static value rfl, hword]
        exact .int64 value
    | uint256 =>
        rw [heads_chunk_of_static value rfl, tails_chunk_of_static value rfl]
        exact .uint256 value
    | string =>
        have htext : encode .string value = _ := encode_string value
        rw [heads_chunk_of_dynamic value rfl, tails_chunk_of_dynamic value rfl, htext, padded,
          ← List.append_assoc]
        exact .string value _ (Nat.mod_lt _ (by decide)) (by omega)
    | tuple fields => cases hflat
    | array element => cases hflat

/-- What the grammar derives for arguments is the heads and the tails of their values. -/
theorem isRow_iff {offset : Nat} {fields : List Field} {values : Values fields}
    {heads tails : Bytes} :
    IsRow offset fields values heads tails ↔
      (∀ field ∈ fields, field.schema.isFlat = true) ∧
        heads = Abi.heads offset (chunks fields values) ∧
          tails = Abi.tails (chunks fields values) := by
  constructor
  · intro h
    induction h with
    | nil offset => exact ⟨by simp, rfl, rfl⟩
    | cons hfirst hrest ih =>
        obtain ⟨hflat, rfl, rfl⟩ := isArgument_iff.mp hfirst
        obtain ⟨hflats, rfl, rfl⟩ := ih
        exact ⟨List.forall_mem_cons.mpr ⟨hflat, hflats⟩, (heads_cons _ _ _).symm,
          (tails_cons _ _).symm⟩
  · rintro ⟨hflats, rfl, rfl⟩
    induction fields generalizing offset with
    | nil => exact .nil offset
    | cons field fields ih =>
        obtain ⟨name, schema⟩ := field
        obtain ⟨value, values⟩ := values
        obtain ⟨hflat, hflats⟩ := List.forall_mem_cons.mp hflats
        have hheads := heads_cons offset (chunk schema value) (chunks fields values)
        have htails := tails_cons (chunk schema value) (chunks fields values)
        rw [chunks, hheads, htails]
        exact .cons (isArgument_iff.mpr ⟨hflat, rfl, rfl⟩) (ih hflats)

/-- The canonical encoding of flat values is what the encoder writes for them. -/
theorem isCanonical_iff {fields : List Field} {values : Values fields} {body : Bytes} :
    IsCanonical fields values body ↔
      (∀ field ∈ fields, field.schema.isFlat = true) ∧ body = encodeValues fields values := by
  constructor
  · rintro ⟨heads, tails, hrow, rfl⟩
    obtain ⟨hflat, rfl, rfl⟩ := isRow_iff.mp hrow
    rw [encodeValues, arrange, headsLength_of_isFlat hflat values]
    exact ⟨hflat, rfl⟩
  · rintro ⟨hflat, rfl⟩
    rw [encodeValues, arrange, headsLength_of_isFlat hflat values]
    exact ⟨_, _, isRow_iff.mpr ⟨hflat, rfl, rfl⟩, rfl⟩

/-! ### The check is a parser -/

/-- **The layout check accepts the canonical encodings and nothing else.** Whatever the parameters
and the octets, it succeeds exactly if no parameter is a tuple or an array and the grammar derives
the octets for some values; for given values it derives what the encoder writes and nothing else.
The check is the one with guarded reads, so it never reads out of range, and any fault that it
reports for an argument is one of an argument that there is. -/
theorem check_iff_canonical (fields : List Field) (body : Bytes) (hbody : body.length < 2 ^ 63) :
    (check fields body = .ok () ↔
      (∀ field ∈ fields, field.schema.isFlat = true) ∧
        ∃ values : Values fields, IsCanonical fields values body) ∧
    (∀ values : Values fields, IsCanonical fields values body ↔
      (∀ field ∈ fields, field.schema.isFlat = true) ∧ body = encodeValues fields values) ∧
    Guarded.check fields body = (check fields body).mapError .refused ∧
    ∀ fault index, check fields body = .error fault → fault.index? = some index →
      index < fields.length := by
  refine ⟨?_, fun values => isCanonical_iff, Guarded.check_eq hbody, ?_⟩
  · rw [check_eq_ok_iff (lt_trans hbody (by decide))]
    simp only [isCanonical_iff, exists_and_left, and_self_left]
  · intro fault index h hindex
    exact index_lt_of_check h hindex

/-- The encoding of a truth value and a text: its octets one by one, and that they are accepted. -/
theorem check_flag_and_text :
    let fields : List Field := [⟨"flag", .bool⟩, ⟨"text", .string⟩]
    let values : Values fields := (true, "ab", ())
    let body : Bytes := Bytes.zeros 31 ++ [1] ++ (Bytes.zeros 31 ++ [64]) ++
      (Bytes.zeros 31 ++ [2]) ++ [0x61, 0x62] ++ Bytes.zeros 30
    body.length < 2 ^ 63 ∧ IsCanonical fields values body ∧ check fields body = .ok () := by
  intro fields values body
  have hbody : body.length < 2 ^ 63 := by decide +kernel
  have hflat : ∀ field ∈ fields, field.schema.isFlat = true := by decide
  have hencoded : body = encodeValues fields values := by decide +kernel
  obtain ⟨haccepted, hcanonical, -⟩ := check_iff_canonical fields body hbody
  have hvalues := (hcanonical values).mpr ⟨hflat, hencoded⟩
  exact ⟨hbody, hvalues, haccepted.mpr ⟨hflat, values, hvalues⟩⟩

end StakingGateway.Layout
