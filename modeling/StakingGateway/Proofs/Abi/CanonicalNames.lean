import Mathlib.Data.List.Basic
import Mathlib.Logic.Function.Iterate
import StakingGateway.Abi.Schema

/-!
# Canonical Names Are Read in One Way

The canonical name of a schema shows all of it but the names of its fields: schemas of one canonical
name differ in these only (`Abi.canonical_eq_iff`).

A name has no mark that says where it ends, and the mark of an array stands behind the name of its
elements, so that a name can go on where another one ends. What can be told from the front is the
name of the core, which is no array: it ends with its last letter or digit, or with the parenthesis
that closes its first one. The marks of the arrays around the core stand behind it. That much can be
told wherever the text does not go on with a letter or a digit (`Abi.Schema.IsLegible`), and is
proved by induction over the schema; where the text does not go on with a mark either, as behind a
field of a tuple, the marks can be counted (`Abi.eq_of_marks_append`).

## Main definitions

* `Abi.Schema.unnamed`: the schema without the names of its fields.
* `Abi.Schema.core`, `Abi.Schema.rank`: what arrays are around, and how many of them.
* `Abi.Schema.IsLegible`, `Abi.AreLegible`: names that can be told wherever a text starts with them.

## Main statements

* `Abi.Schema.isLegible`: all names can be told.
* `Abi.canonical_eq_iff`, `Abi.canonicalList_eq_iff`: names show all but the names of fields.
-/

namespace StakingGateway.Abi

/-! ### Schemas without names -/

mutual

/-- The schema without the names of its fields. -/
def Schema.unnamed : Schema → Schema
  | .tuple fields => .tuple (unnamedFields fields)
  | .array element => .array element.unnamed
  | schema => schema

/-- The fields without their names. -/
def unnamedFields : List Field → List Field
  | [] => []
  | ⟨_, schema⟩ :: fields => ⟨"", schema.unnamed⟩ :: unnamedFields fields

end

mutual

/-- The canonical name does not show the names of fields. -/
theorem canonical_unnamed : (schema : Schema) → schema.unnamed.canonical = schema.canonical
  | .address | .bool | .uint8 | .int64 | .uint256 | .string => rfl
  | .tuple fields => by
      rw [Schema.unnamed, Schema.canonical, Schema.canonical, canonicalList_unnamedFields fields]
  | .array element => by
      rw [Schema.unnamed, Schema.canonical, Schema.canonical, canonical_unnamed element]

theorem canonicalList_unnamedFields : (fields : List Field) →
    canonicalList (unnamedFields fields) = canonicalList fields
  | [] => rfl
  | ⟨_, schema⟩ :: fields => by
      rw [unnamedFields, canonicalList, canonicalList, canonical_unnamed schema,
        canonicalTail_unnamedFields fields]

theorem canonicalTail_unnamedFields : (fields : List Field) →
    canonicalTail (unnamedFields fields) = canonicalTail fields
  | [] => rfl
  | ⟨_, schema⟩ :: fields => by
      rw [unnamedFields, canonicalTail, canonicalTail, canonical_unnamed schema,
        canonicalTail_unnamedFields fields]

end

mutual

/-- Nor do the names of fields make a difference to widths. -/
theorem isDynamic_unnamed : (schema : Schema) → schema.unnamed.isDynamic = schema.isDynamic
  | .address | .bool | .uint8 | .int64 | .uint256 | .string => rfl
  | .tuple fields => by
      rw [Schema.unnamed, Schema.isDynamic, Schema.isDynamic, anyDynamic_unnamedFields fields]
  | .array _ => rfl

theorem anyDynamic_unnamedFields : (fields : List Field) →
    anyDynamic (unnamedFields fields) = anyDynamic fields
  | [] => rfl
  | ⟨_, schema⟩ :: fields => by
      rw [unnamedFields, anyDynamic, anyDynamic, isDynamic_unnamed schema,
        anyDynamic_unnamedFields fields]

end

/-- Fields without their names are their schemas without names, in order. -/
theorem unnamedFields_eq_map (fields : List Field) :
    unnamedFields fields = (fields.map (·.schema.unnamed)).map (Field.mk "") := by
  induction fields with
  | nil => rfl
  | cons field fields ih =>
      obtain ⟨name, schema⟩ := field
      rw [unnamedFields, ih, List.map_cons, List.map_cons]

/-- So fields are the same without their names if their schemas are. -/
theorem unnamedFields_eq_iff {fields others : List Field} :
    unnamedFields fields = unnamedFields others ↔
      fields.map (·.schema.unnamed) = others.map (·.schema.unnamed) := by
  have hinjective : Function.Injective (Field.mk "") := fun _ _ h => congrArg Field.schema h
  rw [unnamedFields_eq_map, unnamedFields_eq_map]
  exact (List.map_injective_iff.mpr hinjective).eq_iff

/-! ### Arrays around a core -/

/-- What is left of the schema without the arrays around it. -/
def Schema.core : Schema → Schema
  | .array element => element.core
  | schema => schema

/-- How many arrays are around the core. -/
def Schema.rank : Schema → Nat
  | .array element => element.rank + 1
  | _ => 0

/-- The marks of so many arrays. -/
def marks : Nat → List Char
  | 0 => []
  | count + 1 => '[' :: ']' :: marks count

namespace Schema

/-- A schema that is no array is its own core. -/
theorem core_of_ne_array {schema : Schema} (h : ∀ element, schema ≠ array element) :
    schema.core = schema ∧ schema.rank = 0 := by
  cases schema with
  | array element => exact absurd rfl (h element)
  | _ => exact ⟨rfl, rfl⟩

theorem ne_array_of_isFlat {schema : Schema} (h : schema.isFlat = true) (element : Schema) :
    schema ≠ array element := by
  rintro rfl
  cases h

/-- The core is no array. -/
theorem isFlat_core_or (schema : Schema) :
    schema.core.isFlat = true ∨ ∃ fields, schema.core = tuple fields := by
  induction schema using core.induct with
  | case1 element ih => exact ih
  | case2 schema h =>
      rw [(core_of_ne_array h).1]
      cases schema with
      | tuple fields => exact .inr ⟨fields, rfl⟩
      | array element => exact absurd rfl (h element)
      | _ => exact .inl rfl

/-- The schema is that many arrays around its core. -/
theorem unnamed_eq_iterate (schema : Schema) :
    schema.unnamed = array^[schema.rank] schema.core.unnamed := by
  induction schema using core.induct with
  | case1 element ih => rw [unnamed, rank, core, Function.iterate_succ_apply', ← ih]
  | case2 schema h =>
      obtain ⟨hcore, hrank⟩ := core_of_ne_array h
      rw [hcore, hrank, Function.iterate_zero_apply]

end Schema

/-! ### The characters of names -/

/-- One mark more stands behind the others. -/
theorem marks_append_mark (count : Nat) (rest : List Char) :
    marks count ++ '[' :: ']' :: rest = marks (count + 1) ++ rest := by
  induction count with
  | zero => rfl
  | succ count ih => rw [marks, List.cons_append, List.cons_append, ih, marks]; rfl

namespace Schema

theorem toList_canonical_tuple (fields : List Field) :
    (tuple fields).canonical.toList = '(' :: (canonicalList fields).toList ++ [')'] := by
  simp [canonical]

theorem toList_canonical_array (element : Schema) :
    (array element).canonical.toList = element.canonical.toList ++ ['[', ']'] := by
  simp [canonical]

/-- The name of a schema is that of its core, and the marks of the arrays behind it. -/
theorem toList_canonical_eq (schema : Schema) :
    schema.canonical.toList = schema.core.canonical.toList ++ marks schema.rank := by
  induction schema using core.induct with
  | case1 element ih =>
      have hmarks := marks_append_mark element.rank []
      rw [List.append_nil] at hmarks
      rw [toList_canonical_array, ih, List.append_assoc, hmarks, core, rank]
  | case2 schema h =>
      obtain ⟨hcore, hrank⟩ := core_of_ne_array h
      rw [hcore, hrank, marks, List.append_nil]

/-- The name of a flat schema is a word. -/
theorem isAlphanum_of_mem_canonical {schema : Schema} (h : schema.isFlat = true) :
    ∀ c ∈ schema.canonical.toList, c.isAlphanum = true := by
  cases schema with
  | tuple fields => cases h
  | array element => cases h
  | _ => exact List.all_eq_true.mp rfl

/-- The word has a first letter. -/
theorem exists_word_eq_cons {schema : Schema} (h : schema.isFlat = true) :
    ∃ c tail, schema.canonical.toList = c :: tail ∧ c.isAlphanum = true := by
  cases schema with
  | tuple fields => cases h
  | array element => cases h
  | _ => exact ⟨_, _, rfl, rfl⟩

/-- A flat schema is found by its name. -/
theorem find?_canonical {schema : Schema} (h : schema.isFlat = true) :
    [address, bool, uint8, int64, uint256, string].find?
      (fun flat => flat.canonical = schema.canonical) = some schema := by
  cases schema with
  | tuple fields => cases h
  | array element => cases h
  | _ => rfl

/-- So flat schemas have different names. -/
theorem eq_of_canonical_eq {one other : Schema} (hone : one.isFlat = true)
    (hother : other.isFlat = true) (h : one.canonical = other.canonical) : one = other := by
  have hfound := find?_canonical hone
  rw [h, find?_canonical hother] at hfound
  exact (Option.some.inj hfound).symm

/-- A name starts with a letter, a digit or an opening parenthesis. -/
theorem exists_canonical_eq_cons (schema : Schema) :
    ∃ c tail, schema.canonical.toList = c :: tail ∧ (c.isAlphanum = true ∨ c = '(') := by
  rw [toList_canonical_eq]
  rcases schema.isFlat_core_or with hflat | ⟨fields, htuple⟩
  · obtain ⟨c, tail, hname, hc⟩ := exists_word_eq_cons hflat
    exact ⟨c, tail ++ marks schema.rank, by rw [hname, List.cons_append], .inl hc⟩
  · rw [htuple, toList_canonical_tuple]
    exact ⟨'(', _, rfl, .inr rfl⟩

end Schema

theorem toList_canonicalList_cons (field : Field) (fields : List Field) :
    (canonicalList (field :: fields)).toList =
      field.schema.canonical.toList ++ (canonicalTail fields).toList := by
  obtain ⟨name, schema⟩ := field
  rw [canonicalList, String.toList_append]

theorem toList_canonicalTail_cons (field : Field) (fields : List Field) :
    (canonicalTail (field :: fields)).toList = ',' :: (canonicalList (field :: fields)).toList := by
  obtain ⟨name, schema⟩ := field
  simp [canonicalTail, canonicalList]

/-! ### Reading names -/

/-- The text does not go on with a letter or a digit. -/
def IsApart (rest : List Char) : Prop :=
  ∀ c ∈ rest.head?, c.isAlphanum = false

/-- The text goes on with what stands behind a field. -/
def EndsField (rest : List Char) : Prop :=
  ∀ c ∈ rest.head?, c = ',' ∨ c = ')'

theorem EndsField.isApart {rest : List Char} (h : EndsField rest) : IsApart rest := by
  intro c hc
  rcases h c hc with rfl | rfl
  · rfl
  · rfl

/-- What stands behind a field are other fields, or the end of the list. -/
theorem endsField_canonicalTail (fields : List Field) (rest : List Char) :
    EndsField ((canonicalTail fields).toList ++ ')' :: rest) := by
  cases fields with
  | nil =>
      rintro c ⟨⟩
      exact .inr rfl
  | cons field fields =>
      rw [toList_canonicalTail_cons]
      rintro c ⟨⟩
      exact .inl rfl

theorem IsApart.marks_append {rest : List Char} (h : IsApart rest) (count : Nat) :
    IsApart (marks count ++ rest) := by
  cases count with
  | zero => exact h
  | succ count =>
      rintro c ⟨⟩
      rfl

/-- Marks can be counted where no marks can go on. -/
theorem eq_of_marks_append {rest rest' : List Char} (h : EndsField rest) (h' : EndsField rest') :
    {one other : Nat} → marks one ++ rest = marks other ++ rest' → one = other ∧ rest = rest'
  | 0, 0, heq => ⟨rfl, heq⟩
  | one + 1, other + 1, heq => by
      simp only [marks, List.cons_append, List.cons.injEq, true_and] at heq
      obtain ⟨hcount, hrest⟩ := eq_of_marks_append h h' heq
      exact ⟨congrArg (· + 1) hcount, hrest⟩
  | 0, other + 1, heq => by
      subst heq
      rcases h '[' rfl with hbracket | hbracket <;> cases hbracket
  | one + 1, 0, heq => by
      subst heq
      rcases h' '[' rfl with hbracket | hbracket <;> cases hbracket

/-- Where a text starts with the name of the schema and with that of another one, and goes on behind
either with no letter and no digit, the two have one core, and the same stands behind its name. -/
def Schema.IsLegible (schema : Schema) : Prop :=
  ∀ ⦃other : Schema⦄ ⦃rest rest' : List Char⦄, IsApart rest → IsApart rest' →
    schema.canonical.toList ++ rest = other.canonical.toList ++ rest' →
    schema.core.unnamed = other.core.unnamed ∧ marks schema.rank ++ rest = marks other.rank ++ rest'

/-- Where a text starts with the list of the fields and with that of others, and either list ends
there, the two have the same schemas, and the same stands behind the lists. -/
def AreLegible (fields : List Field) : Prop :=
  ∀ ⦃others : List Field⦄ ⦃rest rest' : List Char⦄,
    (canonicalList fields).toList ++ ')' :: rest = (canonicalList others).toList ++ ')' :: rest' →
    unnamedFields fields = unnamedFields others ∧ rest = rest'

variable {rest rest' : List Char}

/-- A word goes as far as its letters and digits. -/
theorem takeWhile_word {word : List Char} (hword : ∀ c ∈ word, c.isAlphanum = true)
    (h : IsApart rest) : (word ++ rest).takeWhile Char.isAlphanum = word := by
  rw [List.takeWhile_append_of_pos hword]
  cases rest with
  | nil => exact List.append_nil word
  | cons c rest => rw [List.takeWhile_cons_of_neg (by simp [h c rfl]), List.append_nil]

/-- A schema that is no array is legible if its name can be told from those of other cores. -/
theorem isLegible_of_ne_array {schema : Schema} (hschema : ∀ element, schema ≠ .array element)
    (h : ∀ ⦃other : Schema⦄ ⦃rest rest' : List Char⦄,
      other.isFlat = true ∨ (∃ fields, other = .tuple fields) → IsApart rest → IsApart rest' →
      schema.canonical.toList ++ rest = other.canonical.toList ++ rest' →
      schema.unnamed = other.unnamed ∧ rest = rest') : schema.IsLegible := by
  intro other rest rest' hrest hrest' heq
  obtain ⟨hcore, hrank⟩ := Schema.core_of_ne_array hschema
  rw [other.toList_canonical_eq, List.append_assoc] at heq
  rw [hcore, hrank]
  exact h other.isFlat_core_or hrest (hrest'.marks_append _) heq

/-- No text starts with the name of a flat schema and with that of a tuple. -/
theorem flat_ne_tuple {schema : Schema} (h : schema.isFlat = true) (fields : List Field) :
    schema.canonical.toList ++ rest ≠ (Schema.tuple fields).canonical.toList ++ rest' := by
  intro heq
  obtain ⟨c, tail, hname, hc⟩ := Schema.exists_word_eq_cons h
  rw [hname, Schema.toList_canonical_tuple] at heq
  obtain rfl : c = '(' := (List.cons.inj heq).1
  cases hc

/-- Flat schemas are legible. -/
theorem isLegible_of_isFlat {schema : Schema} (h : schema.isFlat = true) : schema.IsLegible := by
  refine isLegible_of_ne_array (Schema.ne_array_of_isFlat h) ?_
  rintro other rest rest' (hflat | ⟨fields, rfl⟩) hrest hrest' heq
  · have hword := congrArg (List.takeWhile Char.isAlphanum) heq
    rw [takeWhile_word (Schema.isAlphanum_of_mem_canonical h) hrest,
      takeWhile_word (Schema.isAlphanum_of_mem_canonical hflat) hrest'] at hword
    obtain rfl := Schema.eq_of_canonical_eq h hflat (String.toList_injective hword)
    exact ⟨rfl, List.append_cancel_left heq⟩
  · exact absurd heq (flat_ne_tuple h fields)

/-- An array is legible if its elements are. -/
theorem isLegible_array {element : Schema} (h : element.IsLegible) :
    (Schema.array element).IsLegible := by
  intro other rest rest' hrest hrest' heq
  -- The mark behind the elements is no letter and no digit either, so their name can be told.
  -- Whether the mark is met in the other name too is left open.
  have hmark : IsApart ('[' :: ']' :: rest) := by
    rintro c ⟨⟩
    rfl
  rw [Schema.toList_canonical_array, List.append_assoc] at heq
  obtain ⟨hcore, hmarks⟩ := h hmark hrest' heq
  rw [marks_append_mark] at hmarks
  exact ⟨hcore, hmarks⟩

/-- No list of names starts with the end of one. -/
theorem end_ne_canonicalList_cons (field : Field) (fields : List Field) :
    ')' :: rest ≠ (canonicalList (field :: fields)).toList ++ rest' := by
  intro heq
  obtain ⟨c, tail, hname, hc⟩ := field.schema.exists_canonical_eq_cons
  rw [toList_canonicalList_cons, hname] at heq
  obtain rfl : ')' = c := (List.cons.inj heq).1
  rcases hc with hc | hc <;> cases hc

/-- Further fields are legible if they are without the comma before them. -/
theorem AreLegible.tail {fields others : List Field} (h : AreLegible fields)
    (heq : (canonicalTail fields).toList ++ ')' :: rest =
      (canonicalTail others).toList ++ ')' :: rest') :
    unnamedFields fields = unnamedFields others ∧ rest = rest' := by
  cases fields with
  | nil =>
      cases others with
      | nil => exact h heq
      | cons other others =>
          rw [toList_canonicalTail_cons] at heq
          cases (List.cons.inj heq).1
  | cons field fields =>
      rw [toList_canonicalTail_cons] at heq
      cases others with
      | nil => cases (List.cons.inj heq).1
      | cons other others =>
          rw [toList_canonicalTail_cons] at heq
          exact h (List.cons.inj heq).2

theorem areLegible_nil : AreLegible [] := by
  intro others rest rest' heq
  cases others with
  | nil => exact ⟨rfl, (List.cons.inj heq).2⟩
  | cons other others => exact absurd heq (end_ne_canonicalList_cons other others)

/-- A field and those behind it are legible together. -/
theorem areLegible_cons {field : Field} {fields : List Field} (hfield : field.schema.IsLegible)
    (hfields : AreLegible fields) : AreLegible (field :: fields) := by
  intro others rest rest' heq
  cases others with
  | nil => exact absurd heq.symm (end_ne_canonicalList_cons field fields)
  | cons other others =>
      have hend := endsField_canonicalTail fields rest
      have hend' := endsField_canonicalTail others rest'
      rw [toList_canonicalList_cons, toList_canonicalList_cons, List.append_assoc,
        List.append_assoc] at heq
      obtain ⟨hcore, hmarks⟩ := hfield hend.isApart hend'.isApart heq
      -- Behind a field there is a comma or the end of the list, so its marks can be counted.
      obtain ⟨hrank, htail⟩ := eq_of_marks_append hend hend' hmarks
      obtain ⟨hothers, hrest⟩ := hfields.tail htail
      have hother : field.schema.unnamed = other.schema.unnamed := by
        rw [field.schema.unnamed_eq_iterate, hcore, hrank, ← other.schema.unnamed_eq_iterate]
      rw [unnamedFields_eq_iff] at hothers ⊢
      exact ⟨by rw [List.map_cons, List.map_cons, hother, hothers], hrest⟩

/-- A tuple is legible if its fields are. -/
theorem isLegible_tuple {fields : List Field} (h : AreLegible fields) :
    (Schema.tuple fields).IsLegible := by
  refine isLegible_of_ne_array (fun _ => Schema.noConfusion) ?_
  rintro other rest rest' (hflat | ⟨others, rfl⟩) - - heq
  · exact absurd heq.symm (flat_ne_tuple hflat fields)
  · simp only [Schema.toList_canonical_tuple, List.cons_append, List.append_assoc,
      List.nil_append, List.cons.injEq, true_and] at heq
    obtain ⟨hfields, hrest⟩ := h heq
    exact ⟨by rw [Schema.unnamed, Schema.unnamed, hfields], hrest⟩

mutual

/-- **All names can be told**, whatever the depth of the schema. -/
theorem Schema.isLegible : (schema : Schema) → schema.IsLegible
  | .address | .bool | .uint8 | .int64 | .uint256 | .string => isLegible_of_isFlat rfl
  | .tuple fields => isLegible_tuple (areLegible fields)
  | .array element => isLegible_array element.isLegible

theorem areLegible : (fields : List Field) → AreLegible fields
  | [] => areLegible_nil
  | ⟨_, schema⟩ :: fields => areLegible_cons schema.isLegible (areLegible fields)

end

/-- **Canonical names show all but the names of fields.** -/
theorem canonical_eq_iff {one other : Schema} :
    one.canonical = other.canonical ↔ one.unnamed = other.unnamed := by
  constructor
  · intro h
    have hend : EndsField [] := nofun
    have hnames : one.canonical.toList ++ [] = other.canonical.toList ++ [] := by rw [h]
    obtain ⟨hcore, hmarks⟩ := one.isLegible hend.isApart hend.isApart hnames
    obtain ⟨hrank, -⟩ := eq_of_marks_append hend hend hmarks
    rw [one.unnamed_eq_iterate, hcore, hrank, ← other.unnamed_eq_iterate]
  · intro h
    rw [← canonical_unnamed one, h, canonical_unnamed]

/-- So do lists of them, in order. -/
theorem canonicalList_eq_iff {fields others : List Field} :
    canonicalList fields = canonicalList others ↔ unnamedFields fields = unnamedFields others := by
  constructor
  · intro h
    have hnames : (canonicalList fields).toList ++ [')'] =
        (canonicalList others).toList ++ [')'] := by rw [h]
    exact (areLegible fields hnames).1
  · intro h
    rw [← canonicalList_unnamedFields fields, h, canonicalList_unnamedFields]

end StakingGateway.Abi
