import Mathlib.Data.List.Infix
import StakingGateway.Interface.Method
import StakingGateway.Proofs.Abi.CanonicalNames

/-!
# Signatures Determine Schemas

A signature is a name, and the canonical names of what the method takes in parentheses. It is read
from its end: parentheses stand in pairs in canonical names (`Abi.isBalanced_canonicalList`), so the
one that the last one closes is the one behind the name, whatever the name is made of
(`Text.IsBalanced.open_append_inj`). Between the two stand canonical names, which show all of the
schemas but the names of fields (`Abi.canonicalList_eq_iff`).

Callers do not send the signature but the start of its hash. The octets that stand for a method are
written down with it, and they are the ones that its signature gives (`Method.octets_selector`).

## Main definitions

* `Text.IsBalanced`: texts in which parentheses stand in pairs.

## Main statements

* `Text.IsBalanced.open_append_inj`: where the last parenthesis was opened can be told.
* `Descriptor.signature_eq_iff`: the descriptors that have one signature.
* `Method.octets_selector`: the selectors are those of the signatures.
* `signature_determines_schema`: what canonical names and signatures tell.
-/

namespace StakingGateway

/-! ### Parentheses -/

namespace Text

/-- Parentheses stand in pairs in the text. -/
structure IsBalanced (text : List Char) : Prop where
  /-- As many are opened as are closed. -/
  count_eq : text.count '(' = text.count ')'
  /-- From no place on more are opened than are closed. -/
  count_le : ∀ ending, ending <:+ text → ending.count '(' ≤ ending.count ')'

variable {text text' : List Char}

theorem isBalanced_of_not_mem (hopen : '(' ∉ text) (hclose : ')' ∉ text) : IsBalanced text where
  count_eq := by rw [List.count_eq_zero.mpr hopen, List.count_eq_zero.mpr hclose]
  count_le ending hending := by
    rw [List.count_eq_zero.mpr fun h => hopen (hending.subset h)]
    exact Nat.zero_le _

/-- Balanced texts are balanced one behind the other. -/
theorem IsBalanced.append (h : IsBalanced text) (h' : IsBalanced text') :
    IsBalanced (text ++ text') where
  count_eq := by rw [List.count_append, List.count_append, h.count_eq, h'.count_eq]
  count_le := by
    rintro ending ⟨start, hstart⟩
    rcases List.append_eq_append_iff.mp hstart with ⟨middle, rfl, rfl⟩ | ⟨middle, rfl, rfl⟩
    · have hmiddle := h.count_le middle (List.suffix_append _ _)
      have hbehind := h'.count_eq
      simp only [List.count_append]
      omega
    · exact h'.count_le ending (List.suffix_append _ _)

/-- A balanced text is balanced in parentheses. -/
theorem IsBalanced.enclose (h : IsBalanced text) : IsBalanced ('(' :: text ++ [')']) where
  count_eq := by simp [h.count_eq]
  count_le := by
    intro ending hending
    rw [List.cons_append, List.suffix_cons_iff, List.suffix_concat_iff] at hending
    rcases hending with rfl | rfl | ⟨start, rfl, hstart⟩
    · simp [h.count_eq]
    · simp
    · have hcount := h.count_le start hstart
      simp
      omega

/-- No balanced text ends in an open parenthesis and a balanced text behind it. -/
theorem IsBalanced.not_open_suffix (h : IsBalanced text) (h' : IsBalanced text') :
    ¬ '(' :: text' <:+ text := by
  intro hsuffix
  have hcount := h.count_le _ hsuffix
  have hbehind := h'.count_eq
  simp at hcount
  omega

/-- So it can be told where the last parenthesis was opened. -/
theorem IsBalanced.open_append_inj {start start' : List Char} (h : IsBalanced text)
    (h' : IsBalanced text') (heq : start ++ '(' :: text = start' ++ '(' :: text') :
    start = start' ∧ text = text' := by
  rcases List.append_eq_append_iff.mp heq with ⟨middle, rfl, hmiddle⟩ | ⟨middle, rfl, hmiddle⟩
  · rcases List.cons_eq_append_iff.mp hmiddle with ⟨rfl, hsame⟩ | ⟨inside, rfl, rfl⟩
    · exact ⟨(List.append_nil _).symm, (List.cons.inj hsame).2.symm⟩
    · exact absurd (List.suffix_append _ _) (h.not_open_suffix h')
  · rcases List.cons_eq_append_iff.mp hmiddle with ⟨rfl, hsame⟩ | ⟨inside, rfl, rfl⟩
    · exact ⟨List.append_nil _, (List.cons.inj hsame).2⟩
    · exact absurd (List.suffix_append _ _) (h'.not_open_suffix h)

end Text

open Text (IsBalanced isBalanced_of_not_mem)

namespace Abi

mutual

/-- Parentheses stand in pairs in canonical names. -/
theorem Schema.isBalanced_canonical : (schema : Schema) → IsBalanced schema.canonical.toList
  | .address | .bool | .uint8 | .int64 | .uint256 | .string =>
      isBalanced_of_not_mem (by decide) (by decide)
  | .tuple fields => by
      rw [Schema.toList_canonical_tuple]
      exact (isBalanced_canonicalList fields).enclose
  | .array element => by
      rw [Schema.toList_canonical_array]
      exact element.isBalanced_canonical.append (isBalanced_of_not_mem (by decide) (by decide))

/-- Parentheses stand in pairs in lists of canonical names. -/
theorem isBalanced_canonicalList : (fields : List Field) →
    IsBalanced (canonicalList fields).toList
  | [] => isBalanced_of_not_mem (by decide) (by decide)
  | ⟨name, schema⟩ :: fields => by
      rw [toList_canonicalList_cons]
      exact schema.isBalanced_canonical.append (isBalanced_canonicalTail fields)

theorem isBalanced_canonicalTail : (fields : List Field) →
    IsBalanced (canonicalTail fields).toList
  | [] => isBalanced_of_not_mem (by decide) (by decide)
  | ⟨name, schema⟩ :: fields => by
      have hcomma : IsBalanced [','] := isBalanced_of_not_mem (by decide) (by decide)
      rw [canonicalTail, String.toList_append, String.toList_append]
      exact (hcomma.append schema.isBalanced_canonical).append (isBalanced_canonicalTail fields)

end

end Abi

/-! ### Signatures -/

open Abi

namespace Descriptor

theorem toList_signature (descriptor : Descriptor) :
    descriptor.signature.toList =
      (descriptor.name.toList ++ '(' :: (canonicalList descriptor.inputs).toList) ++ [')'] := by
  simp [signature]

/-- Descriptors have one signature if they have one name and take the same, but for the names of
fields. -/
theorem signature_eq_iff {one other : Descriptor} :
    one.signature = other.signature ↔
      one.name = other.name ∧ unnamedFields one.inputs = unnamedFields other.inputs := by
  constructor
  · intro h
    have hsignature := congrArg String.toList h
    rw [toList_signature, toList_signature, List.append_cancel_right_eq] at hsignature
    obtain ⟨hname, hinputs⟩ := (isBalanced_canonicalList one.inputs).open_append_inj
      (isBalanced_canonicalList other.inputs) hsignature
    exact ⟨String.toList_injective hname,
      canonicalList_eq_iff.mp (String.toList_injective hinputs)⟩
  · rintro ⟨hname, hinputs⟩
    rw [signature, signature, hname, canonicalList_eq_iff.mpr hinputs]

end Descriptor

/-- **Signatures determine schemas.** Schemas of any depth have one canonical name exactly if they
are the same but for the names of fields, and then the width of a value depends on the value in both
or in neither. Descriptors have one signature exactly if they have one name and take values of the
same schemas in the same order, again but for the names of fields. This does not depend on what the
name is made of: there may be parentheses in it. -/
theorem signature_determines_schema :
    (∀ one other : Schema, one.canonical = other.canonical ↔ one.unnamed = other.unnamed) ∧
    (∀ one other : Schema, one.canonical = other.canonical → one.isDynamic = other.isDynamic) ∧
    ∀ one other : Descriptor, one.signature = other.signature ↔
      one.name = other.name ∧
        one.inputs.map (·.schema.unnamed) = other.inputs.map (·.schema.unnamed) := by
  refine ⟨fun one other => canonical_eq_iff, fun one other h => ?_, fun one other => ?_⟩
  · rw [← isDynamic_unnamed one, canonical_eq_iff.mp h, isDynamic_unnamed]
  · rw [Descriptor.signature_eq_iff, unnamedFields_eq_iff]

/-- What is on its way back, under other names for its fields. -/
theorem signature_determines_schema_renamed :
    let one := Schema.tuple Method.unbondingDelegationFields
    let other := Schema.tuple [⟨"who", .address⟩, ⟨"from", .string⟩, ⟨"", .array (.tuple
      [⟨"a", .int64⟩, ⟨"a", .uint256⟩, ⟨"b", .uint256⟩, ⟨"c", .uint256⟩])⟩]
    one.canonical = other.canonical ∧ one.unnamed = other.unnamed ∧
      one.isDynamic = other.isDynamic := by
  intro one other
  have h : one.canonical = other.canonical := rfl
  exact ⟨h, (signature_determines_schema.1 one other).mp h,
    signature_determines_schema.2.1 one other h⟩

/-! ### Selectors -/

/-- The selector of every method is the start of the hash of its signature. -/
theorem Method.octets_selector (method : Method) :
    method.selector.octets = Selector.ofSignature method.descriptor.signature := by
  cases method <;> decide +kernel

end StakingGateway
