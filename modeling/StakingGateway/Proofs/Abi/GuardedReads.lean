import StakingGateway.Proofs.Abi.CanonicalLayout
import StakingGateway.Proofs.Abi.WordOctets

/-!
# Reads of the Layout Check

`Layout.check` takes octets out of the body with operations that give something at every position,
adds numbers that have no bound, and judges a word by its number. This module states the same check
with less at hand: a read stops where octets are missing, numbers have 64 bits and a sum that does
not fit is noticed, and a word is judged octet by octet. The two are one check
(`Layout.Guarded.check_eq`), so none of its reads is ever out of range, whatever the schema and the
body.

Each guarded step has one lemma that says what it is without the guard. All that these lemmas need
to know about positions is that a word has 32 octets and that the body has all the heads.

## Main definitions

* `Layout.Guarded.Stop`: why a guarded step stops.
* `Layout.Guarded.slice`, `Layout.Guarded.octetAt`, `Layout.Guarded.splitAt`: the reads.
* `Layout.Guarded.check`: the check with guarded reads.

## Main statements

* `Layout.Guarded.check_eq`: it is the check.
-/

namespace StakingGateway.Layout.Guarded

open Abi (Schema Field)
open Bytes (toNat)

/-- Why a step stops. -/
inductive Stop where
  /-- It asks for octets that are not there. -/
  | outOfRange
  /-- The octets are there, and refused. -/
  | refused (fault : DecodeFault)
deriving DecidableEq

/-! ### Reads and sums -/

/-- The octets from the first position up to the second one. -/
def slice (octets : Bytes) (start stop : Nat) : Except Stop Bytes :=
  if start ≤ stop ∧ stop ≤ octets.length then .ok ((octets.drop start).take (stop - start))
  else .error .outOfRange

/-- The octet at the position. -/
def octetAt (octets : Bytes) (position : Nat) : Except Stop UInt8 :=
  match octets[position]? with
  | some octet => .ok octet
  | none => .error .outOfRange

/-- The octets before the position, and those from there on. -/
def splitAt (octets : Bytes) (position : Nat) : Except Stop (Bytes × Bytes) :=
  if position ≤ octets.length then .ok (octets.splitAt position) else .error .outOfRange

/-- The octets from the first position up to the second one, or nothing where a slice would be out
of range. -/
def slice? (octets : Bytes) (start stop : Nat) : Option Bytes :=
  (slice octets start stop).toOption

/-- The sum, if it is a number of 64 bits. -/
def add? (a b : Nat) : Option Nat :=
  if UInt64.size ≤ a + b then none else some (a + b)

/-- The least multiple of the width from the number on, if it is a number of 64 bits. -/
def nextMultiple? (n width : Nat) : Option Nat :=
  if n % width = 0 then some n else add? n (width - n % width)

/-- Stops because of the fault. -/
def refuse {α : Type} (fault : DecodeFault) : Except Stop α :=
  .error (.refused fault)

/-- What there is, or the fault. -/
def orRefuse {α : Type} (value? : Option α) (fault : DecodeFault) : Except Stop α :=
  match value? with
  | some value => .ok value
  | none => refuse fault

/-! ### The check -/

/-- The number of a word, if it is a number of 64 bits. -/
def readNumber (word : Bytes) : Except Stop (Option Nat) := do
  let (high, low) ← splitAt word 24
  return if high.isZero ∧ low.length = 8 then some low.toNat else none

/-- Checks the tail of a text that starts at the octet `tail`, and gives the octet behind it. -/
def checkTail (body : Bytes) (index tail : Nat) : Except Stop Nat := do
  let start ← orRefuse (add? tail 32) (.invalidOffset index)
  let word ← orRefuse (slice? body tail start) (.truncated index)
  let length ← orRefuse (← readNumber word) (.invalidLength index)
  let width ← orRefuse (nextMultiple? length 32) (.invalidLength index)
  let stop ← orRefuse (add? start width) (.invalidLength index)
  if body.length < stop then refuse (.truncated index)
  else do
    let octets ← slice body start stop
    let (text, padding) ← splitAt octets length
    if ¬ padding.isZero then refuse (.invalidValue index .stringPadding)
    else if (Text.ofUtf8? text).isNone then refuse (.invalidValue index .utf8)
    else return stop

/-- Checks the argument with the given head word. -/
def checkArgument (body : Bytes) (index tail : Nat) (word : Bytes) : Schema → Except Stop Nat
  | .address => do
    let padding ← slice word 0 12
    if padding.isZero then return tail else refuse (.invalidValue index .addressPadding)
  | .bool => do
    let high ← slice word 0 31
    if ¬ high.isZero then refuse (.invalidValue index .boolean)
    else do
      let last ← octetAt word 31
      if 1 < last then refuse (.invalidValue index .boolean) else return tail
  | .uint8 => do
    let high ← slice word 0 31
    if high.isZero then return tail else refuse (.overflow index .uint8)
  | .int64 => do
    let sign ← octetAt word 24
    let high ← slice word 0 24
    if high.all (· == Abi.fill sign) then return tail else refuse (.overflow index .int64)
  | .uint256 => return tail
  | .string => do
    let offset ← orRefuse (← readNumber word) (.invalidOffset index)
    if offset = tail then checkTail body index tail else refuse (.invalidOffset index)
  | .tuple _ => refuse (.invalidValue index .composite)
  | .array _ => refuse (.invalidValue index .composite)

/-- Checks the arguments from the given position on. -/
def checkArguments (body : Bytes) : (index tail : Nat) → List Field → Except Stop Nat
  | _, tail, [] => return tail
  | index, tail, ⟨_, schema⟩ :: fields => do
    let word ← slice body (32 * index) (32 * (index + 1))
    let tail ← checkArgument body index tail word schema
    checkArguments body (index + 1) tail fields

/-- Checks that the octets are the canonical encoding of values of the fields. -/
def check (fields : List Field) (body : Bytes) : Except Stop Unit :=
  if body.length < 32 * fields.length then refuse (.truncated (body.length / 32))
  else do
    let behind ← checkArguments body 0 (32 * fields.length) fields
    if behind ≠ body.length then refuse (.lengthMismatch behind body.length)

/-! ### Every read is in range -/

section Reads

variable {octets : Bytes}

theorem slice_eq {start stop : Nat} (hstart : start ≤ stop) (hstop : stop ≤ octets.length) :
    slice octets start stop = .ok ((octets.drop start).take (stop - start)) :=
  if_pos ⟨hstart, hstop⟩

/-- The first octets of a string. -/
theorem slice_zero_eq {count : Nat} (h : count ≤ octets.length) :
    slice octets 0 count = .ok (octets.take count) :=
  slice_eq (Nat.zero_le _) h

theorem octetAt_eq {position : Nat} (h : position < octets.length) :
    octetAt octets position = .ok octets[position] := by
  rw [octetAt, List.getElem?_eq_getElem h]

theorem splitAt_eq {position : Nat} (h : position ≤ octets.length) :
    splitAt octets position = .ok (octets.take position, octets.drop position) := by
  rw [splitAt, if_pos h, List.splitAt_eq]

end Reads

/-- The next multiple is what a text takes with its padding. -/
theorem nextMultiple?_eq {length : Nat} (h : length < UInt64.size) :
    nextMultiple? length 32 =
      if UInt64.size ≤ paddedLength length then none else some (paddedLength length) := by
  rw [nextMultiple?, paddedLength]
  split
  · next hwhole =>
      have hpadded : (length + 31) / 32 * 32 = length := by omega
      rw [hpadded, if_neg (Nat.not_le.mpr h)]
  · next hpart =>
      have hpadded : length + (32 - length % 32) = (length + 31) / 32 * 32 := by omega
      rw [add?, hpadded]

/-- A number is read from a word unless it has more than 64 bits. -/
theorem readNumber_eq {word : Bytes} (h : word.length = 32) :
    readNumber word = .ok (if toNat word < UInt64.size then some (toNat word) else none) := by
  have hlow : (word.drop 24).length = 8 := by rw [List.length_drop, h]
  have hread : readNumber word = .ok (if Bytes.isZero (word.take 24) = true ∧
      (word.drop 24).length = 8 then some (toNat (word.drop 24)) else none) := by
    rw [readNumber, splitAt_eq (by omega)]
    rfl
  have hsmall := Abi.toNat_lt_size_uint64_iff h
  by_cases hzero : Bytes.isZero (word.take 24) = true
  · have hsplit := Abi.toNat_eq_take_add_drop h 24
    rw [(Bytes.toNat_eq_zero_iff _).mpr hzero, Nat.zero_mul, Nat.zero_add] at hsplit
    rw [hread, if_pos ⟨hzero, hlow⟩, if_pos (hsmall.mpr hzero), hsplit]
  · rw [hread, if_neg fun h => hzero h.1, if_neg fun h => hzero (hsmall.mp h)]

/-- Where a slice would be out of range there is none. -/
theorem slice?_eq {octets : Bytes} {start stop : Nat} (h : start ≤ stop) :
    slice? octets start stop =
      if octets.length < stop then none else some ((octets.drop start).take (stop - start)) := by
  rw [slice?, slice]
  split
  · next hrange =>
      rw [if_neg (by omega)]
      rfl
  · next hrange =>
      rw [if_pos (by omega)]
      rfl

/-! ### The guarded check is the check -/

theorem orRefuse_some {α : Type} (value : α) (fault : DecodeFault) :
    orRefuse (some value) fault = .ok value := rfl

/-- The tail of a text is checked without a read out of range. -/
theorem checkTail_eq {body : Bytes} {index tail : Nat} (hbody : body.length < 2 ^ 63)
    (htail : tail ≤ body.length) :
    checkTail body index tail = (Layout.checkTail body index tail).mapError .refused := by
  have hstart : ¬ UInt64.size ≤ tail + 32 := by
    rw [UInt64.size]
    omega
  rw [checkTail, add?, if_neg hstart, orRefuse_some, ok_bind, Layout.checkTail,
    slice?_eq (Nat.le_add_right _ _)]
  split
  · rfl
  next hword =>
  have hlength : ((body.drop tail).take 32).length = 32 := by
    rw [List.length_take, List.length_drop]
    omega
  rw [orRefuse_some, ok_bind, Nat.add_sub_cancel_left, readNumber_eq hlength, ok_bind]
  dsimp only
  generalize toNat ((body.drop tail).take 32) = length
  -- One fault covers three numbers that may be too great; the guarded check meets them in turn.
  by_cases hsmall : length < UInt64.size
  swap
  · rw [if_neg hsmall, if_pos (.inl (not_lt.mp hsmall))]
    rfl
  rw [if_pos hsmall, orRefuse_some, ok_bind, nextMultiple?_eq hsmall]
  by_cases hwidth : UInt64.size ≤ paddedLength length
  · rw [if_pos hwidth, if_pos (.inr (.inl hwidth))]
    rfl
  rw [if_neg hwidth, orRefuse_some, ok_bind, add?]
  by_cases hstop : UInt64.size ≤ tail + 32 + paddedLength length
  · rw [if_pos hstop, if_pos (.inr (.inr hstop))]
    rfl
  rw [if_neg hstop, if_neg (by omega), orRefuse_some, ok_bind]
  split
  · rfl
  next hend =>
  have hoctets : length ≤ ((body.drop (tail + 32)).take (paddedLength length)).length := by
    rw [List.length_take, List.length_drop, paddedLength]
    rw [paddedLength] at hend
    omega
  rw [slice_eq (Nat.le_add_right _ _) (by omega), ok_bind, Nat.add_sub_cancel_left,
    splitAt_eq hoctets, ok_bind, checkText]
  dsimp only
  split
  · rfl
  · split
    · rfl
    · rfl

/-- An argument is checked without a read out of range. -/
theorem checkArgument_eq {body word : Bytes} {index tail : Nat} (hbody : body.length < 2 ^ 63)
    (htail : tail ≤ body.length) (hword : word.length = 32) (schema : Schema) :
    checkArgument body index tail word schema =
      (Layout.checkArgument body index tail word schema).mapError .refused := by
  cases schema with
  | address =>
      rw [checkArgument, Layout.checkArgument, slice_zero_eq (by omega), ok_bind]
      split
      · rfl
      · rfl
  | bool =>
      rw [checkArgument, Layout.checkArgument, slice_zero_eq (by omega), ok_bind]
      simp only [Abi.toNat_le_one_iff hword, octetAt_eq (show 31 < word.length by omega), ok_bind]
      by_cases hzero : Bytes.isZero (word.take 31) = true
      · rw [if_neg (not_not.mpr hzero)]
        by_cases hlast : word[31] ≤ 1
        · rw [if_neg (UInt8.not_lt.mpr hlast), if_pos ⟨hzero, hlast⟩]
          rfl
        · rw [if_pos (UInt8.not_le.mp hlast), if_neg fun h => hlast h.2]
          rfl
      · rw [if_pos hzero, if_neg fun h => hzero h.1]
        rfl
  | uint8 =>
      rw [checkArgument, Layout.checkArgument, slice_zero_eq (by omega), ok_bind]
      simp only [Abi.toNat_lt_size_uint8_iff hword]
      split
      · rfl
      · rfl
  | int64 =>
      rw [checkArgument, Layout.checkArgument, octetAt_eq (show 24 < word.length by omega), ok_bind,
        slice_zero_eq (by omega), ok_bind]
      simp only [Abi.isSigned_iff hword]
      split
      · rfl
      · rfl
  | uint256 => rfl
  | string =>
      have hsize : tail < UInt64.size := lt_of_le_of_lt htail (lt_trans hbody (by decide))
      rw [checkArgument, Layout.checkArgument, readNumber_eq hword, ok_bind]
      by_cases hoffset : toNat word = tail
      · rw [hoffset, if_pos hsize, orRefuse_some, ok_bind, if_pos rfl, if_pos ⟨rfl, hsize⟩,
          checkTail_eq hbody htail]
      · rw [if_neg (fun h => hoffset h.1 : ¬ (toNat word = tail ∧ tail < UInt64.size))]
        split
        · rw [orRefuse_some, ok_bind, if_neg hoffset]
          rfl
        · rfl
  | tuple fields => rfl
  | array element => rfl

/-- Arguments are checked without a read out of range. -/
theorem checkArguments_eq {body : Bytes} (hbody : body.length < 2 ^ 63) {fields : List Field}
    {index tail : Nat} (hheads : 32 * (index + fields.length) ≤ body.length)
    (htail : tail ≤ body.length) :
    checkArguments body index tail fields =
      (Layout.checkArguments body index tail fields).mapError .refused := by
  induction fields generalizing index tail with
  | nil => rfl
  | cons field fields ih =>
      obtain ⟨name, schema⟩ := field
      rw [List.length_cons] at hheads
      have hwidth : 32 * (index + 1) - 32 * index = 32 := by omega
      have hword : ((body.drop (32 * index)).take 32).length = 32 := by
        rw [List.length_take, List.length_drop]
        omega
      rw [checkArguments, slice_eq (by omega) (by omega), ok_bind, hwidth,
        checkArgument_eq hbody htail hword, Layout.checkArguments]
      generalize (body.drop (32 * index)).take 32 = word at hword
      cases hnext : Layout.checkArgument body index tail word schema with
      | error fault => rfl
      | ok next =>
          have hsize := lt_trans hbody (by decide : 2 ^ 63 < UInt64.size)
          obtain ⟨-, value, -, hheld, rfl⟩ :=
            (checkArgument_eq_ok_iff hsize htail hword).mp hnext
          exact ih (by omega) hheld.le_length

/-- **No read of the check is out of range**: the check with guarded reads is the check. -/
theorem check_eq {fields : List Field} {body : Bytes} (hbody : body.length < 2 ^ 63) :
    check fields body = (Layout.check fields body).mapError .refused := by
  rw [check, Layout.check]
  split
  · rfl
  next hheads =>
  rw [checkArguments_eq hbody (by omega) (not_lt.mp hheads)]
  cases Layout.checkArguments body 0 (32 * fields.length) fields with
  | error fault => rfl
  | ok behind =>
      rw [mapError_ok, ok_bind, ok_bind]
      split
      · rfl
      · rfl

end StakingGateway.Layout.Guarded
