import StakingGateway.CallData.Layout
import StakingGateway.Proofs.Abi.Arrangement
import StakingGateway.Proofs.Fallible

/-!
# The Layout Check Accepts the Canonical Encodings

The check of the layout goes along the head words and keeps the offset at which the next tail
has to start. What it accepts is, argument by argument, the head and the tail of some value
(`Layout.checkArgument_eq_ok_iff`), so along all arguments it is a row of heads and a row of
tails of some values (`Layout.checkArguments_eq_ok_iff`), and with nothing behind the last tail
it is the encoding of those values (`Layout.check_eq_ok_iff`).

Both directions are one equivalence at each step. The invariant is that the buffer holds the
tails from the kept offset on; the direction from the check to the values builds them, the other
one reads them off.

## Main statements

* `Layout.exists_of_checkTail`, `Layout.checkTail_of_holds`: the tails of texts.
* `Layout.check_eq_ok_iff`: the octets that the check accepts.
* `Layout.length_lt_of_check`: they are not more than a 64-bit number counts.
-/

namespace StakingGateway.Layout

open Abi
open Bytes (toNat)

/-! ### Texts -/

theorem length_padded (octets : Bytes) : (padded octets).length = paddedLength octets.length := by
  rw [padded, List.length_append, Bytes.length_zeros, paddedLength]
  omega

/-- The octets of a text with its padding are accepted exactly if they are what is written for a
text. -/
theorem checkText_eq_ok_iff {index length : Nat} {octets : Bytes}
    (hlength : octets.length = paddedLength length) :
    checkText index length octets = .ok () ↔
      ∃ text, (Text.utf8 text).length = length ∧ octets = padded (Text.utf8 text) := by
  have hle : length ≤ octets.length := by
    rw [hlength, paddedLength]
    omega
  have hcheck : checkText index length octets = .ok () ↔
      Bytes.isZero (octets.drop length) = true ∧
        ∃ text, Text.ofUtf8? (octets.take length) = some text := by
    rw [checkText]
    split
    · next hzero => simp [hzero]
    · next hzero =>
        rw [not_not] at hzero
        cases htext : Text.ofUtf8? (octets.take length) with
        | none => simp
        | some text => simp [hzero]
  have hrest : (octets.drop length).length = (32 - length % 32) % 32 := by
    rw [List.length_drop, hlength, paddedLength]
    omega
  rw [hcheck, Bytes.isZero_iff, hrest]
  constructor
  · rintro ⟨hzero, text, htext⟩
    have hutf := Text.utf8_of_ofUtf8? htext
    have hcount : (Text.utf8 text).length = length := by
      rw [hutf, List.length_take, Nat.min_eq_left hle]
    refine ⟨text, hcount, ?_⟩
    rw [padded, hcount, ← hzero, hutf, List.take_append_drop]
  · rintro ⟨text, rfl, rfl⟩
    refine ⟨?_, text, ?_⟩
    · rw [padded, List.drop_left]
    · rw [padded, List.take_left, Text.ofUtf8?_utf8]

/-- A tail that is accepted is what is written for a text. -/
theorem exists_of_checkTail {body : Bytes} {index tail behind : Nat}
    (h : checkTail body index tail = .ok behind) :
    ∃ text : String, Holds body tail (encode .string text) ∧
      behind = tail + (encode .string text).length := by
  rw [checkTail] at h
  split at h
  · cases h
  next hword =>
  simp only at h
  generalize hlength : toNat ((body.drop tail).take 32) = length at h
  split at h
  · cases h
  next hsmall =>
  split at h
  · cases h
  next hend =>
  obtain ⟨⟨⟩, hcheck, hbehind⟩ := bind_eq_ok_iff.mp h
  have hoctets : ((body.drop (tail + 32)).take (paddedLength length)).length =
      paddedLength length := by
    rw [List.length_take, List.length_drop]
    omega
  obtain ⟨text, hcount, htext⟩ := (checkText_eq_ok_iff hoctets).mp hcheck
  have hlengthWord : ((body.drop tail).take 32).length = 32 := by
    rw [List.length_take, List.length_drop]
    omega
  have hfirst : (body.drop tail).take 32 = word length := by
    rw [eq_word_iff hlengthWord (lt_trans (by omega) (by decide : UInt64.size < _)), hlength]
  have hpadded : (padded (Text.utf8 text)).length = paddedLength length := by
    rw [length_padded, hcount]
  have hheld : Holds body tail (word length ++ padded (Text.utf8 text)) := by
    apply Holds.append
    · rw [holds_iff_take_eq (by rw [length_word]; omega), length_word, hfirst]
    · rw [holds_iff_take_eq (by rw [length_word, hpadded]; omega), length_word, hpadded, htext]
  have hsum : tail + 32 + paddedLength length = behind := Except.ok.inj hbehind
  refine ⟨text, ?_, ?_⟩
  · rwa [encode_string, hcount]
  · rw [encode_string, List.length_append, length_word, hpadded]
    omega

/-- What is written for a text is accepted as a tail. -/
theorem checkTail_of_holds {body : Bytes} {tail : Nat} {text : String} (index : Nat)
    (hbody : body.length < UInt64.size) (hheld : Holds body tail (encode .string text)) :
    checkTail body index tail = .ok (tail + (encode .string text).length) := by
  rw [encode_string] at hheld ⊢
  generalize hlength : (Text.utf8 text).length = length at hheld ⊢
  have hpadded : (padded (Text.utf8 text)).length = paddedLength length := by
    rw [length_padded, hlength]
  have hend := hheld.le_length
  rw [List.length_append, length_word, hpadded] at hend ⊢
  have hle : length ≤ paddedLength length := by
    rw [paddedLength]
    omega
  have hfirst : (body.drop tail).take 32 = word length := by
    have := hheld.left.take_drop_eq
    rwa [length_word] at this
  have hsecond : (body.drop (tail + 32)).take (paddedLength length) =
      padded (Text.utf8 text) := by
    have hright := hheld.right
    rw [length_word] at hright
    have := hright.take_drop_eq
    rwa [hpadded] at this
  have hread : toNat (word length) = length :=
    toNat_word (lt_trans (by omega) (by decide : UInt64.size < _))
  have hcheck : checkText index length (padded (Text.utf8 text)) = .ok () :=
    (checkText_eq_ok_iff hpadded).mpr ⟨text, hlength, rfl⟩
  rw [checkTail, if_neg (by omega)]
  simp only [hfirst, hread, hsecond, hcheck]
  rw [if_neg (by omega), if_neg (by omega), Nat.add_assoc]
  rfl

/-! ### One argument -/

/-- For a value of fixed width only its word matters. -/
theorem exists_chunk_iff_of_static {body word : Bytes} {tail behind : Nat} {schema : Schema}
    (htail : tail ≤ body.length) (hstatic : schema.isDynamic = false) :
    (∃ value : schema.Value, word = heads tail [chunk schema value] ∧
      Holds body tail (tails [chunk schema value]) ∧
        behind = tail + (tails [chunk schema value]).length) ↔
      (∃ value : schema.Value, encode schema value = word) ∧ tail = behind := by
  constructor
  · rintro ⟨value, hword, -, hbehind⟩
    rw [heads_chunk_of_static value hstatic] at hword
    rw [tails_chunk_of_static value hstatic] at hbehind
    exact ⟨⟨value, hword.symm⟩, hbehind.symm⟩
  · rintro ⟨⟨value, rfl⟩, rfl⟩
    refine ⟨value, (heads_chunk_of_static value hstatic tail).symm, ?_, ?_⟩
    · rw [tails_chunk_of_static value hstatic]
      exact holds_nil_iff.mpr htail
    · rw [tails_chunk_of_static value hstatic]
      rfl

/-- An argument is accepted exactly if its word is the head of a value whose tail the body holds
at the offset where the next tail is to start. -/
theorem checkArgument_eq_ok_iff {body word : Bytes} {index tail behind : Nat} {schema : Schema}
    (hbody : body.length < UInt64.size) (htail : tail ≤ body.length) (hword : word.length = 32) :
    checkArgument body index tail word schema = .ok behind ↔
      schema.isFlat = true ∧ ∃ value : schema.Value, word = heads tail [chunk schema value] ∧
        Holds body tail (tails [chunk schema value]) ∧
          behind = tail + (tails [chunk schema value]).length := by
  cases schema with
  | address =>
      rw [checkArgument, ite_eq_ok_iff, exists_chunk_iff_of_static htail rfl,
        ← exists_eq_address_iff hword]
      simp only [Schema.isFlat, true_and, eq_comm]
      rfl
  | bool =>
      rw [checkArgument, ite_eq_ok_iff, exists_chunk_iff_of_static htail rfl,
        ← exists_eq_bool_iff hword]
      simp only [Schema.isFlat, true_and, eq_comm]
      rfl
  | uint8 =>
      rw [checkArgument, ite_eq_ok_iff, exists_chunk_iff_of_static htail rfl,
        ← exists_eq_uint8_iff hword]
      simp only [Schema.isFlat, true_and, eq_comm]
      rfl
  | int64 =>
      rw [checkArgument, ite_eq_ok_iff, exists_chunk_iff_of_static htail rfl,
        ← exists_eq_int64_iff hword]
      simp only [Schema.isFlat, true_and, eq_comm]
      rfl
  | uint256 =>
      have hvalue : ∃ value : Schema.uint256.Value, encode .uint256 value = word := by
        obtain ⟨n, hn⟩ := exists_eq_uint256 hword
        exact ⟨n, hn.symm⟩
      rw [checkArgument, exists_chunk_iff_of_static htail rfl]
      simp [Schema.isFlat, hvalue]
  | string =>
      have hchunk (text : Schema.string.Value) := heads_chunk_of_dynamic text rfl tail
      have htails (text : Schema.string.Value) := tails_chunk_of_dynamic text rfl
      simp only [checkArgument, Schema.isFlat, true_and, hchunk, htails]
      constructor
      · intro h
        split at h
        · next hoffset =>
            obtain ⟨text, htext⟩ := exists_of_checkTail h
            refine ⟨text, ?_, htext⟩
            rw [eq_word_iff hword (lt_trans hoffset.2 (by decide)), hoffset.1]
        · cases h
      · rintro ⟨text, hoffset, hheld, hbehind⟩
        have htail' : tail < UInt64.size := lt_of_le_of_lt htail hbody
        rw [eq_word_iff hword (lt_trans htail' (by decide))] at hoffset
        rw [if_pos ⟨hoffset, htail'⟩, checkTail_of_holds index hbody hheld, hbehind]
  | tuple fields => simp [checkArgument, Schema.isFlat]
  | array element => simp [checkArgument, Schema.isFlat]

/-! ### All arguments -/

/-- Every flat value takes one word among the heads. -/
theorem length_heads_of_isFlat {schema : Schema} (h : schema.isFlat = true) (offset : Nat)
    (value : schema.Value) : (heads offset [chunk schema value]).length = 32 := by
  have hwords : schema.headWords = 1 := by
    cases schema with
    | tuple fields => cases h
    | array element => rfl
    | _ => rfl
  rw [length_heads, headsLength, headLength_chunk, hwords]
  rfl

/-- Flat values take one word each among the heads. -/
theorem headsLength_of_isFlat {fields : List Field}
    (h : ∀ field ∈ fields, field.schema.isFlat = true) (values : Values fields) :
    headsLength (chunks fields values) = 32 * fields.length := by
  induction fields with
  | nil => rfl
  | cons field fields ih =>
      obtain ⟨name, schema⟩ := field
      obtain ⟨value, values⟩ := values
      obtain ⟨hflat, hflats⟩ := List.forall_mem_cons.mp h
      have hvalue := length_heads_of_isFlat hflat 0 value
      have hvalues := ih hflats values
      rw [length_heads, headsLength, headsLength, Nat.add_zero] at hvalue
      rw [chunks, headsLength, hvalue, hvalues, List.length_cons]
      omega

/-- Arguments are accepted exactly if the body holds the heads of some values where the
arguments are, and their tails where the next tail is to start. -/
theorem checkArguments_eq_ok_iff {body : Bytes} (hbody : body.length < UInt64.size)
    {fields : List Field} {index tail behind : Nat}
    (hheads : 32 * (index + fields.length) ≤ body.length) (htail : tail ≤ body.length) :
    checkArguments body index tail fields = .ok behind ↔
      (∀ field ∈ fields, field.schema.isFlat = true) ∧ ∃ values : Values fields,
        Holds body (32 * index) (heads tail (chunks fields values)) ∧
          Holds body tail (tails (chunks fields values)) ∧
            behind = tail + (tails (chunks fields values)).length := by
  induction fields generalizing index tail with
  | nil =>
      have hindex : 32 * index ≤ body.length := by simpa using hheads
      constructor
      · intro h
        have hbehind : tail = behind := Except.ok.inj h
        exact ⟨by simp, (), holds_nil_iff.mpr hindex, holds_nil_iff.mpr htail, hbehind.symm⟩
      · rintro ⟨-, values, -, -, hbehind⟩
        exact congrArg Except.ok hbehind.symm
  | cons field fields ih =>
      obtain ⟨name, schema⟩ := field
      rw [List.length_cons] at hheads
      have hword : ((body.drop (32 * index)).take 32).length = 32 := by
        rw [List.length_take, List.length_drop]
        omega
      have hread {head : Bytes} (hhead : head.length = 32) :
          (body.drop (32 * index)).take 32 = head ↔ Holds body (32 * index) head := by
        rw [holds_iff_take_eq (by omega), hhead]
      have hnext : 32 * (index + 1) = 32 * index + 32 := by omega
      rw [checkArguments]
      constructor
      · intro h
        obtain ⟨next, hfirst, hrest⟩ := bind_eq_ok_iff.mp h
        obtain ⟨hflat, value, hhead, hvalue, rfl⟩ :=
          (checkArgument_eq_ok_iff hbody htail hword).mp hfirst
        obtain ⟨hflats, values, hheads', hvalues, hbehind⟩ :=
          (ih (by omega) hvalue.le_length).mp hrest
        have hwidth := length_heads_of_isFlat hflat tail value
        rw [hread hwidth] at hhead
        have hlast : Holds body (32 * index + (heads tail [chunk schema value]).length)
            (heads (tail + (tails [chunk schema value]).length) (chunks fields values)) := by
          rwa [hwidth, ← hnext]
        refine ⟨List.forall_mem_cons.mpr ⟨hflat, hflats⟩, (value, values), ?_, ?_, ?_⟩
        · rw [chunks, heads_cons]
          exact hhead.append hlast
        · rw [chunks, tails_cons]
          exact hvalue.append hvalues
        · rw [chunks, tails_cons, List.length_append, hbehind, Nat.add_assoc]
      · rintro ⟨hflats, ⟨value, values⟩, hheld, htails, hbehind⟩
        obtain ⟨hflat, hflats⟩ := List.forall_mem_cons.mp hflats
        have hwidth := length_heads_of_isFlat hflat tail value
        rw [chunks, heads_cons] at hheld
        rw [chunks, tails_cons] at htails hbehind
        rw [List.length_append, ← Nat.add_assoc] at hbehind
        have hright := hheld.right
        rw [hwidth, ← hnext] at hright
        refine bind_eq_ok_iff.mpr ⟨tail + (tails [chunk schema value]).length, ?_, ?_⟩
        · rw [checkArgument_eq_ok_iff hbody htail hword]
          exact ⟨hflat, value, (hread hwidth).mpr hheld.left, htails.left, rfl⟩
        · rw [ih (by omega) htails.left.le_length]
          exact ⟨hflats, values, hright, htails.right, hbehind⟩

/-- Octets are the encoding of flat values exactly if they hold the heads at their start and the
tails behind the heads, and end there. -/
theorem eq_encodeValues_iff {fields : List Field} {body : Bytes}
    (hflat : ∀ field ∈ fields, field.schema.isFlat = true) (values : Values fields) :
    body = encodeValues fields values ↔
      Holds body 0 (heads (32 * fields.length) (chunks fields values)) ∧
        Holds body (32 * fields.length) (tails (chunks fields values)) ∧
          body.length = 32 * fields.length + (tails (chunks fields values)).length := by
  have hwidth := headsLength_of_isFlat hflat values
  have hlength := length_heads (32 * fields.length) (chunks fields values)
  rw [hwidth] at hlength
  rw [encodeValues, arrange, hwidth]
  constructor
  · rintro rfl
    have hheld : Holds (heads (32 * fields.length) (chunks fields values) ++
        tails (chunks fields values)) 0 (heads (32 * fields.length) (chunks fields values) ++
          tails (chunks fields values)) := ⟨Nat.zero_le _, List.prefix_refl _⟩
    have hright := hheld.right
    rw [hlength, Nat.zero_add] at hright
    exact ⟨hheld.left, hright, by rw [List.length_append, hlength]⟩
  · rintro ⟨hheads, htails, hend⟩
    rw [← Nat.zero_add (32 * fields.length), ← hlength] at htails
    have hall := (hheads.append htails).2
    refine (hall.eq_of_length ?_).symm
    rw [List.length_append, hlength, List.length_drop, hend, Nat.sub_zero]

/-- **The check accepts the canonical encodings and nothing else.** -/
theorem check_eq_ok_iff {fields : List Field} {body : Bytes} (hbody : body.length < UInt64.size) :
    check fields body = .ok () ↔
      (∀ field ∈ fields, field.schema.isFlat = true) ∧
        ∃ values : Values fields, body = encodeValues fields values := by
  rw [check]
  split
  · next hshort =>
      refine iff_of_false (fun h => by cases h) ?_
      rintro ⟨hflat, values, hencoded⟩
      have hend := ((eq_encodeValues_iff hflat values).mp hencoded).2.2
      omega
  · next hlong =>
      have hheads : 32 * (0 + fields.length) ≤ body.length := by omega
      rw [bind_eq_ok_iff]
      simp only [checkArguments_eq_ok_iff hbody hheads (not_lt.mp hlong)]
      constructor
      · rintro ⟨behind, ⟨hflat, values, hheld, htails, hbehind⟩, hend⟩
        refine ⟨hflat, values, (eq_encodeValues_iff hflat values).mpr ⟨hheld, htails, ?_⟩⟩
        split at hend
        · cases hend
        · next hequal => omega
      · rintro ⟨hflat, values, hencoded⟩
        obtain ⟨hheld, htails, hend⟩ := (eq_encodeValues_iff hflat values).mp hencoded
        refine ⟨body.length, ⟨hflat, values, hheld, htails, hend⟩, ?_⟩
        rw [if_neg (by simp)]
        rfl

/-! ### The size of what is accepted -/

/-- The end of a tail that is accepted is a 64-bit number. -/
theorem lt_size_of_checkArgument {body word : Bytes} {index tail behind : Nat} {schema : Schema}
    (h : checkArgument body index tail word schema = .ok behind) (htail : tail < UInt64.size) :
    behind < UInt64.size := by
  cases schema with
  | address | bool | uint8 | int64 =>
      obtain ⟨-, rfl⟩ := ite_eq_ok_iff.mp h
      exact htail
  | uint256 =>
      obtain rfl := Except.ok.inj h
      exact htail
  | string =>
      obtain ⟨-, h⟩ : _ ∧ checkTail body index tail = .ok behind := by
        rw [checkArgument] at h
        split at h
        · next hoffset => exact ⟨hoffset, h⟩
        · cases h
      rw [checkTail] at h
      split at h
      · cases h
      dsimp only at h
      split at h
      · cases h
      next hsmall =>
      split at h
      · cases h
      obtain ⟨-, -, hbehind⟩ := bind_eq_ok_iff.mp h
      obtain rfl := Except.ok.inj hbehind
      omega
  | tuple fields => cases h
  | array element => cases h

/-- The end of the last tail that is accepted is a 64-bit number. -/
theorem lt_size_of_checkArguments {body : Bytes} {fields : List Field} {index tail behind : Nat}
    (h : checkArguments body index tail fields = .ok behind) (htail : tail < UInt64.size) :
    behind < UInt64.size := by
  induction fields generalizing index tail with
  | nil =>
      obtain rfl := Except.ok.inj h
      exact htail
  | cons field fields ih =>
      obtain ⟨name, schema⟩ := field
      rw [checkArguments] at h
      obtain ⟨next, hfirst, hrest⟩ := bind_eq_ok_iff.mp h
      exact ih hrest (lt_size_of_checkArgument hfirst htail)

/-- Octets that are accepted are not more than a 64-bit number counts. -/
theorem length_lt_of_check {fields : List Field} {body : Bytes} (h : check fields body = .ok ())
    (hfields : 32 * fields.length < UInt64.size) : body.length < UInt64.size := by
  rw [check] at h
  split at h
  · cases h
  obtain ⟨behind, hbehind, hend⟩ := bind_eq_ok_iff.mp h
  split at hend
  · cases hend
  next hlength =>
  rw [← not_ne_iff.mp hlength]
  exact lt_size_of_checkArguments hbehind hfields

end StakingGateway.Layout
