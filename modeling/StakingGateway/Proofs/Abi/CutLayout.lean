import StakingGateway.Proofs.Abi.CanonicalLayout

/-!
# Cut and Extended Encodings

The layout check goes through the arguments in order, so where an encoding is cut decides which
argument it finds cut short. A cut among the heads is noticed before any argument is looked at, and
by the number of the heads that are left. Behind the heads all head words are there, the texts whose
tails end before the cut are accepted as before, and the first text whose tail does not is the one
that the check stops at (`Layout.exists_truncated_of_cut`), wherever in the tail the cut is. What
stands behind an encoding is noticed last (`Layout.check_append`).

The invariant along the arguments is that the octets before the cut hold all tails so far, and that
the tails that are left do not end before it.

## Main definitions

* `Layout.tailEnd`: where in the octets of values the tail of a value ends.
* `Layout.IsFirstCut`: the first text whose tail a cut does not leave whole.

## Main statements

* `Layout.check_take_heads`, `Layout.check_take_tails`: the check of an encoding that is cut.
* `Layout.check_append`: the check of an encoding with something behind it.
-/

namespace StakingGateway

namespace Abi

/-! ### Buffers that are cut or extended -/

/-- A tail that ends before the cut is still held. -/
theorem Holds.take {buffer tail : Bytes} {offset cut : Nat} (h : Holds buffer offset tail)
    (hcut : offset + tail.length ≤ cut) : Holds (buffer.take cut) offset tail := by
  have hend := h.le_length
  refine ⟨by rw [List.length_take]; omega, ?_⟩
  rw [List.drop_take, List.prefix_take_iff]
  exact ⟨h.2, by omega⟩

/-- What is held is held whatever follows the buffer. -/
theorem Holds.extend {buffer tail : Bytes} {offset : Nat} (h : Holds buffer offset tail)
    (suffix : Bytes) : Holds (buffer ++ suffix) offset tail := by
  refine ⟨by rw [List.length_append]; exact Nat.le_add_right_of_le h.1, ?_⟩
  rw [List.drop_append_of_le_length h.1]
  exact h.2.trans (List.prefix_append _ _)

end Abi

namespace Layout

open Abi
open Bytes (toNat)

/-! ### Where tails end -/

/-- How many octets the value takes behind the heads. -/
def tailLength : (schema : Schema) → schema.Value → Nat
  | .string, (text : String) => 32 + paddedLength (Text.utf8 text).length
  | _, _ => 0

/-- How many octets the given number of values take behind the heads. -/
def tailsLength : (fields : List Field) → Values fields → (count : Nat) → Nat
  | [], _, _ => 0
  | _ :: _, _, 0 => 0
  | ⟨_, schema⟩ :: fields, (value, values), count + 1 =>
    tailLength schema value + tailsLength fields values count

/-- Where in the octets of the values the tail of the value at the position ends. For a value
without a tail it is where the tails before it end. -/
def tailEnd (fields : List Field) (values : Values fields) (index : Nat) : Nat :=
  32 * fields.length + tailsLength fields values (index + 1)

/-- The value at the position is a text, and the first one whose tail the cut does not leave
whole. -/
structure IsFirstCut (fields : List Field) (values : Values fields) (cut index : Nat) : Prop where
  /-- The value is a text. -/
  isText : ∃ name, fields[index]? = some ⟨name, .string⟩
  /-- Its tail ends behind the cut. -/
  cut_lt : cut < tailEnd fields values index
  /-- The tails before it end before the cut, or at it. -/
  le_cut : ∀ other < index, tailEnd fields values other ≤ cut

/-- There is one such text. -/
theorem IsFirstCut.unique {fields : List Field} {values : Values fields} {cut one other : Nat}
    (h : IsFirstCut fields values cut one) (h' : IsFirstCut fields values cut other) :
    one = other := by
  rcases Nat.lt_trichotomy one other with hlt | heq | hgt
  · exact absurd (h'.le_cut one hlt) (Nat.not_le.mpr h.cut_lt)
  · exact heq
  · exact absurd (h.le_cut other hgt) (Nat.not_le.mpr h'.cut_lt)

/-- More values do not take less. -/
theorem tailsLength_mono {fields : List Field} (values : Values fields) {less more : Nat}
    (h : less ≤ more) : tailsLength fields values less ≤ tailsLength fields values more := by
  induction fields generalizing less more with
  | nil => exact le_refl _
  | cons field fields ih =>
      obtain ⟨name, schema⟩ := field
      obtain ⟨value, values⟩ := values
      cases less with
      | zero => exact Nat.zero_le _
      | succ less =>
          obtain ⟨more, rfl⟩ : ∃ count, more = count + 1 := ⟨more - 1, by omega⟩
          exact Nat.add_le_add_left (ih values (by omega)) _

/-- The tail of a flat value has the length that its value tells. -/
theorem length_tails_of_isFlat {schema : Schema} (hflat : schema.isFlat = true)
    (value : schema.Value) : (tails [chunk schema value]).length = tailLength schema value := by
  cases schema with
  | string =>
      have htext : encode .string value = _ := encode_string value
      rw [tails_chunk_of_dynamic value rfl, htext, List.length_append, length_word, length_padded]
      rfl
  | address | bool | uint8 | int64 | uint256 =>
      rw [tails_chunk_of_static value rfl]
      rfl
  | tuple fields => cases hflat
  | array element => cases hflat

/-- The tails of flat values have the length that the values tell. -/
theorem length_tails_chunks {fields : List Field}
    (hflat : ∀ field ∈ fields, field.schema.isFlat = true) (values : Values fields) :
    (tails (chunks fields values)).length = tailsLength fields values fields.length := by
  induction fields with
  | nil => rfl
  | cons field fields ih =>
      obtain ⟨name, schema⟩ := field
      obtain ⟨value, values⟩ := values
      obtain ⟨hflat, hflats⟩ := List.forall_mem_cons.mp hflat
      rw [chunks, tails_cons, List.length_append, length_tails_of_isFlat hflat, ih hflats]
      rfl

/-- Only texts have tails. -/
theorem eq_string_of_tailLength {schema : Schema} {value : schema.Value}
    (h : 0 < tailLength schema value) : schema = .string := by
  cases schema with
  | string => rfl
  | _ => exact absurd h (lt_irrefl 0)

/-! ### A cut among the tails -/

/-- A text is found cut short wherever in its tail the cut is. -/
theorem checkTail_take {whole : Bytes} {tail cut : Nat} {text : String} (index : Nat)
    (hwhole : whole.length < UInt64.size) (hheld : Holds whole tail (encode .string text))
    (hcut : cut < tail + (encode .string text).length) :
    checkTail (whole.take cut) index tail = .error (.truncated index) := by
  have hend := hheld.le_length
  rw [encode_string] at hheld
  rw [encode_string, List.length_append, length_word, length_padded] at hcut hend
  generalize hlength : (Text.utf8 text).length = length at hheld hcut hend
  have hcount : (whole.take cut).length = cut := by
    rw [List.length_take]
    omega
  rw [checkTail, hcount]
  split
  · rfl
  next hword =>
  -- The length is whole, so the octets that it announces are not.
  have hheldWord : Holds (whole.take cut) tail (word length) :=
    hheld.left.take (by rw [length_word]; omega)
  have hfirst := hheldWord.take_drop_eq
  rw [length_word] at hfirst
  have hle : length ≤ paddedLength length := by
    rw [paddedLength]
    omega
  have hread : toNat (word length) = length :=
    toNat_word (lt_trans (by omega) (by decide : UInt64.size < _))
  simp only [hfirst, hread]
  rw [if_neg (by omega), if_pos (by omega)]

section Argument

variable {whole : Bytes} {tail cut : Nat} {schema : Schema} {value : schema.Value}

/-- An argument is accepted as before if its tail ends before the cut. -/
theorem checkArgument_take_of_le (index : Nat) (hwhole : whole.length < UInt64.size)
    (hflat : schema.isFlat = true) (hheld : Holds whole tail (tails [chunk schema value]))
    (hcut : tail + tailLength schema value ≤ cut) :
    checkArgument (whole.take cut) index tail (heads tail [chunk schema value]) schema =
      .ok (tail + tailLength schema value) := by
  have hlength : (tails [chunk schema value]).length = tailLength schema value :=
    length_tails_of_isFlat hflat value
  have htaken : Holds (whole.take cut) tail (tails [chunk schema value]) :=
    hheld.take (by rwa [hlength])
  have hbody : (whole.take cut).length < UInt64.size := by
    rw [List.length_take]
    omega
  exact (checkArgument_eq_ok_iff hbody htaken.1 (length_heads_of_isFlat hflat tail value)).mpr
    ⟨hflat, value, rfl, htaken, by rw [hlength]⟩

/-- An argument whose tail does not end before the cut is a text, and found cut short. -/
theorem checkArgument_take_of_lt (index : Nat) (hwhole : whole.length < UInt64.size)
    (hflat : schema.isFlat = true) (hheld : Holds whole tail (tails [chunk schema value]))
    (htail : tail ≤ cut) (hcut : cut < tail + tailLength schema value) :
    schema = .string ∧
      checkArgument (whole.take cut) index tail (heads tail [chunk schema value]) schema =
        .error (.truncated index) := by
  have hlength := length_tails_of_isFlat hflat value
  have hend := hheld.le_length
  obtain rfl := eq_string_of_tailLength (show 0 < tailLength schema value by omega)
  rw [tails_chunk_of_dynamic value rfl] at hheld hlength hend
  have hsize : tail < UInt64.size := by omega
  have hoffset : toNat (word tail) = tail := toNat_word (lt_trans hsize (by decide))
  refine ⟨rfl, ?_⟩
  rw [heads_chunk_of_dynamic value rfl, checkArgument, if_pos ⟨hoffset, hsize⟩,
    checkTail_take index hwhole hheld (by omega)]

end Argument

/-- Behind the heads, a cut is found in the first text whose tail it does not leave whole. -/
theorem exists_truncated_of_cut {whole : Bytes} {cut : Nat} (hwhole : whole.length < UInt64.size)
    {fields : List Field} {values : Values fields} {index tail : Nat}
    (hflat : ∀ field ∈ fields, field.schema.isFlat = true)
    (hheads : Holds whole (32 * index) (heads tail (chunks fields values)))
    (htails : Holds whole tail (tails (chunks fields values)))
    (hlong : 32 * (index + fields.length) ≤ cut) (htail : tail ≤ cut)
    (hshort : cut < tail + tailsLength fields values fields.length) :
    ∃ position, checkArguments (whole.take cut) index tail fields =
        .error (.truncated (index + position)) ∧
      (∃ name, fields[position]? = some ⟨name, .string⟩) ∧
      tail + tailsLength fields values position ≤ cut ∧
      cut < tail + tailsLength fields values (position + 1) := by
  induction fields generalizing index tail with
  | nil => exact absurd hshort (Nat.not_lt.mpr htail)
  | cons field fields ih =>
      obtain ⟨name, schema⟩ := field
      obtain ⟨value, values⟩ := values
      obtain ⟨hflat, hflats⟩ := List.forall_mem_cons.mp hflat
      have hwidth : (heads tail [chunk schema value]).length = 32 :=
        length_heads_of_isFlat hflat tail value
      have hlength : (tails [chunk schema value]).length = tailLength schema value :=
        length_tails_of_isFlat hflat value
      replace hshort :
          cut < tail + (tailLength schema value + tailsLength fields values fields.length) := hshort
      rw [List.length_cons] at hlong
      rw [chunks, heads_cons, hlength] at hheads
      rw [chunks, tails_cons] at htails
      have hheldWord : Holds (whole.take cut) (32 * index) (heads tail [chunk schema value]) :=
        hheads.left.take (by rw [hwidth]; omega)
      have hword := hheldWord.take_drop_eq
      rw [hwidth] at hword
      rw [checkArguments, hword]
      by_cases hfirst : cut < tail + tailLength schema value
      · obtain ⟨rfl, hcheck⟩ :=
          checkArgument_take_of_lt index hwhole hflat htails.left htail hfirst
        refine ⟨0, ?_, ⟨name, rfl⟩, htail, ?_⟩
        · rw [hcheck]
          rfl
        · show cut < tail + (tailLength .string value + tailsLength fields values 0)
          omega
      · rw [not_lt] at hfirst
        have hcheck := checkArgument_take_of_le index hwhole hflat htails.left hfirst
        have hheads' := hheads.right
        have htails' := htails.right
        rw [hwidth, ← Nat.mul_succ] at hheads'
        rw [hlength] at htails'
        obtain ⟨position, hrest, hname, hbefore, hbehind⟩ :=
          ih hflats hheads' htails' (by omega) hfirst (by omega)
        refine ⟨position + 1, ?_, hname, ?_, ?_⟩
        · rw [hcheck, ok_bind, hrest, Nat.succ_add_eq_add_succ]
        · show tail + (tailLength schema value + tailsLength fields values position) ≤ cut
          omega
        · show cut < tail + (tailLength schema value + tailsLength fields values (position + 1))
          omega

/-! ### The check -/

section Check

variable {fields : List Field}

/-- An encoding that is cut among the heads is cut short in the argument that the first octet that
is missing would be of. -/
theorem check_take_heads {body : Bytes} {cut : Nat} (hcut : cut < body.length)
    (hheads : cut < 32 * fields.length) :
    check fields (body.take cut) = .error (.truncated (cut / 32)) := by
  have hcount : (body.take cut).length = cut := by
    rw [List.length_take]
    omega
  rw [check, hcount, if_pos hheads]

/-- An encoding that is cut behind the heads is cut short in the first text whose tail the cut does
not leave whole. -/
theorem check_take_tails {values : Values fields} {cut : Nat}
    (hflat : ∀ field ∈ fields, field.schema.isFlat = true)
    (hsize : (encodeValues fields values).length < UInt64.size)
    (hcut : cut < (encodeValues fields values).length) (hheads : 32 * fields.length ≤ cut) :
    ∃ index, check fields ((encodeValues fields values).take cut) = .error (.truncated index) ∧
      IsFirstCut fields values cut index := by
  generalize hbody : encodeValues fields values = body at hsize hcut
  obtain ⟨hheld, htails, hend⟩ := (eq_encodeValues_iff hflat values).mp hbody.symm
  have hcount : (body.take cut).length = cut := by
    rw [List.length_take]
    omega
  rw [length_tails_chunks hflat] at hend
  rw [← Nat.mul_zero 32] at hheld
  obtain ⟨index, hcheck, hname, hbefore, hbehind⟩ :=
    exists_truncated_of_cut hsize hflat hheld htails (by omega) hheads (by omega)
  refine ⟨index, ?_, hname, hbehind, ?_⟩
  · rw [check, hcount, if_neg (by omega), hcheck, Nat.zero_add]
    rfl
  · intro other hother
    have := tailsLength_mono values (show other + 1 ≤ index by omega)
    rw [tailEnd]
    omega

/-- What stands behind an encoding is noticed, and nothing else. -/
theorem check_append {values : Values fields} {suffix : Bytes}
    (hflat : ∀ field ∈ fields, field.schema.isFlat = true)
    (hsize : (encodeValues fields values ++ suffix).length < UInt64.size) (hsuffix : suffix ≠ []) :
    check fields (encodeValues fields values ++ suffix) =
      .error (.lengthMismatch (encodeValues fields values).length
        ((encodeValues fields values).length + suffix.length)) := by
  generalize hbody : encodeValues fields values = body at hsize
  obtain ⟨hheld, htails, hend⟩ := (eq_encodeValues_iff hflat values).mp hbody.symm
  have hpos := List.length_pos_iff.mpr hsuffix
  have hlength : (body ++ suffix).length = body.length + suffix.length := List.length_append
  have hcheck : checkArguments (body ++ suffix) 0 (32 * fields.length) fields = .ok body.length :=
    (checkArguments_eq_ok_iff hsize (by omega) (by omega)).mpr
      ⟨hflat, values, hheld.extend suffix, htails.extend suffix, hend⟩
  rw [check, if_neg (by omega), hcheck, ok_bind, hlength, if_pos (by omega)]
  rfl

end Check

end Layout

end StakingGateway
