import StakingGateway.Json.Parser
import StakingGateway.Proofs.Json.Tokens

/-!
# Values Read Back

What is written as structured text reads back as the same value (`Json.parse?_render`). That holds
of every value whose written form stands for it (`Json.IsFaithful`): no number without digits is in
it and no string without a text, and where the reader expects a list of octets there is no list.

The reader carries a bound on the depth of what it reads. The length of the text is a bound, because
each level of a value has an octet of its own, and the round trip is proved for every bound that is
no less than the length.

## Main definitions

* `Json.IsFaithful`: the values that have a written form that stands for them.

## Main statements

* `Json.value_render`: a value reads back, whatever can follow it.
* `Json.parse?_render`: and so it does alone.
-/

namespace StakingGateway.Json

/-! ### Values that stand for themselves -/

mutual

/-- The written form of the value stands for the value where the shape is expected. -/
def IsFaithful : Shape → Json → Prop
  | _, null => True
  | _, bool _ => True
  | _, integer _ => True
  | _, decimal => False
  | _, string text => text.isSome = true
  | shape, array elements =>
    (∀ count, shape ≠ .octets count) ∧ AreFaithfulElements shape 0 elements
  | shape, object members => AreFaithfulMembers shape members

/-- The written forms of the elements from the place on stand for them. -/
def AreFaithfulElements : Shape → (place : Nat) → List Json → Prop
  | _, _, [] => True
  | shape, place, element :: elements =>
    IsFaithful (shape.element place) element ∧ AreFaithfulElements shape (place + 1) elements

/-- The written forms of the members and their names stand for them. -/
def AreFaithfulMembers : Shape → List (Option String × Json) → Prop
  | _, [] => True
  | shape, (name, value) :: members =>
    name.isSome = true ∧ IsFaithful (shape.member name) value ∧ AreFaithfulMembers shape members

end

/-! ### How a value starts -/

/-- A numeral starts with a digit or a minus sign. -/
theorem exists_decimal_eq_cons (n : Int) : ∃ b tail,
    Bytes.ascii (Text.decimal n) = b :: tail ∧ (isDigit b = true ∨ b = octet '-') := by
  cases n with
  | ofNat n =>
      have hascii : Bytes.ascii (Text.decimal (.ofNat n)) = (Nat.toDigits 10 n).map octet := by
        rw [Bytes.ascii, Text.decimal, String.toList_ofList]
      cases hdigits : (Nat.toDigits 10 n).map octet with
      | nil => exact absurd (List.map_eq_nil_iff.mp hdigits) Nat.toDigits_ne_nil
      | cons b tail =>
          exact ⟨b, tail, hascii.trans hdigits,
            .inl (isDigit_of_mem_toDigits (n := n) (hdigits ▸ List.mem_cons_self))⟩
  | negSucc n =>
      refine ⟨octet '-', (Nat.toDigits 10 (n + 1)).map octet, ?_, .inr rfl⟩
      rw [Bytes.ascii, Text.decimal, String.toList_ofList, List.map_cons]

/-- What a number starts with is no blank and starts no other value. -/
theorem ne_of_isDigit {b : UInt8} (h : isDigit b = true ∨ b = octet '-') :
    isBlank b = false ∧ b ∉ [octet 'n', octet 't', octet 'f', octet '"', octet '[', octet '\x7b',
      octet ']', octet '\x7d'] := by
  rcases h with h | rfl
  · rw [isDigit, Bool.and_eq_true, decide_eq_true_eq, decide_eq_true_eq, UInt8.le_iff_toNat_le,
      UInt8.le_iff_toNat_le] at h
    have hall : ∀ n : Fin 256, 48 ≤ n.val ∧ n.val ≤ 57 → isBlank (UInt8.ofNat n) = false ∧
        UInt8.ofNat n ∉ [octet 'n', octet 't', octet 'f', octet '"', octet '[', octet '\x7b',
          octet ']', octet '\x7d'] := by decide +kernel
    have hb := hall ⟨b.toNat, b.toNat_lt⟩ h
    rwa [UInt8.ofNat_toNat] at hb
  · decide

/-- A value starts with no blank and with no closing bracket. -/
theorem exists_render_eq_cons (json : Json) : ∃ b tail, json.render = b :: tail ∧
    isBlank b = false ∧ b ≠ octet ']' ∧ b ≠ octet '\x7d' := by
  cases json with
  | null => exact ⟨_, _, rfl, by decide⟩
  | bool value =>
      cases value with
      | false => exact ⟨_, _, rfl, by decide⟩
      | true => exact ⟨_, _, rfl, by decide⟩
  | integer n =>
      obtain ⟨b, tail, hascii, hb⟩ := exists_decimal_eq_cons n
      obtain ⟨hblank, hother⟩ := ne_of_isDigit hb
      refine ⟨b, tail, by rw [render, hascii], hblank, ?_, ?_⟩
      · rintro rfl
        exact hother (by decide)
      · rintro rfl
        exact hother (by decide)
  | decimal => exact ⟨_, _, rfl, by decide⟩
  | string text =>
      cases text with
      | none => exact ⟨_, _, rfl, by decide⟩
      | some text => exact ⟨_, _, rfl, by decide⟩
  | array elements =>
      cases elements with
      | nil => exact ⟨_, _, rfl, by decide⟩
      | cons element elements => exact ⟨_, _, rfl, by decide⟩
  | object members =>
      cases members with
      | nil => exact ⟨_, _, rfl, by decide⟩
      | cons member members => exact ⟨_, _, rfl, by decide⟩

/-- After a value its list or object can end or go on. -/
theorem stops_renderElements (elements : List Json) (rest : Bytes) :
    Stops (renderElements elements ++ rest) := by
  cases elements with
  | nil => exact stops_bracket rest
  | cons element elements => exact stops_comma _

/-- After a member its object can end or go on. -/
theorem stops_renderMembers (members : List (Option String × Json)) (rest : Bytes) :
    Stops (renderMembers members ++ rest) := by
  cases members with
  | nil => exact stops_brace rest
  | cons member members => exact stops_comma _

/-! ### Values without parts -/

/-- The word for nothing reads back. -/
theorem value_null (depth : Nat) (shape : Shape) (rest : Bytes) :
    value (depth + 1) shape (render null ++ rest) = some (null, rest) := by
  change value (depth + 1) shape (octet 'n' :: (Bytes.ascii "ull" ++ rest)) = _
  rw [value, skipBlank_cons (by decide)]
  dsimp only
  rw [if_pos rfl]
  exact word_ascii "null" null rest

/-- Truth values read back. -/
theorem value_bool (depth : Nat) (shape : Shape) (truth : Bool) (rest : Bytes) :
    value (depth + 1) shape (render (bool truth) ++ rest) = some (bool truth, rest) := by
  cases truth with
  | false =>
      change value (depth + 1) shape (octet 'f' :: (Bytes.ascii "alse" ++ rest)) = _
      rw [value, skipBlank_cons (by decide)]
      dsimp only
      rw [if_neg (by decide), if_neg (by decide), if_pos rfl]
      exact word_ascii "false" (bool false) rest
  | true =>
      change value (depth + 1) shape (octet 't' :: (Bytes.ascii "rue" ++ rest)) = _
      rw [value, skipBlank_cons (by decide)]
      dsimp only
      rw [if_neg (by decide), if_pos rfl]
      exact word_ascii "true" (bool true) rest

/-- Integers read back. -/
theorem value_integer (depth : Nat) (shape : Shape) (n : Int) {rest : Bytes} (h : Stops rest) :
    value (depth + 1) shape (render (integer n) ++ rest) = some (integer n, rest) := by
  obtain ⟨b, tail, hascii, hb⟩ := exists_decimal_eq_cons n
  have hnumber := number_decimal n h
  obtain ⟨hblank, hother⟩ := ne_of_isDigit hb
  simp only [List.mem_cons, List.not_mem_nil, or_false, not_or] at hother
  obtain ⟨hn, ht, hf, hquote, hbracket, hbrace, -, -⟩ := hother
  rw [hascii, List.cons_append] at hnumber
  rw [render, hascii, List.cons_append, value, skipBlank_cons hblank]
  dsimp only
  rw [if_neg hn, if_neg ht, if_neg hf, if_neg hquote, if_neg hbracket, if_neg hbrace]
  exact hnumber

/-- Strings read back. -/
theorem value_string (depth : Nat) (shape : Shape) (text : String) (rest : Bytes) :
    value (depth + 1) shape (render (string (some text)) ++ rest) =
      some (string (some text), rest) := by
  have htext : render (string (some text)) ++ rest =
      octet '"' :: ((Text.utf8 text).flatMap escape ++ octet '"' :: rest) := by
    rw [render, renderString, List.append_assoc, List.cons_append, List.singleton_append]
  rw [htext, value, skipBlank_cons (by decide)]
  dsimp only
  rw [if_neg (by decide), if_neg (by decide), if_neg (by decide), if_pos rfl, stringTail_escape]
  rfl

/-- A name and its colon read back. -/
theorem memberName_renderString (name : String) (rest : Bytes) :
    memberName (renderString (some name) ++ octet ':' :: rest) = some (some name, rest) := by
  have htext : renderString (some name) ++ octet ':' :: rest =
      octet '"' :: ((Text.utf8 name).flatMap escape ++ octet '"' :: octet ':' :: rest) := by
    rw [renderString, List.append_assoc, List.cons_append, List.singleton_append]
  rw [htext, memberName, token?_octet (by decide)]
  simp only [Option.bind_eq_bind, Option.bind_some, stringTail_escape,
    token?_octet (c := ':') (by decide), Option.pure_def]

/-! ### The round trip -/

/-- Something is written for every value. -/
theorem length_render_pos (json : Json) : 0 < json.render.length := by
  obtain ⟨b, tail, hrender, -⟩ := exists_render_eq_cons json
  rw [hrender]
  exact Nat.succ_pos _

/-- The end of a list is written. -/
theorem length_renderElements_pos (elements : List Json) :
    0 < (renderElements elements).length := by
  cases elements with
  | nil => exact Nat.one_pos
  | cons element elements => exact Nat.succ_pos _

/-- The end of an object is written. -/
theorem length_renderMembers_pos (members : List (Option String × Json)) :
    0 < (renderMembers members).length := by
  cases members with
  | nil => exact Nat.one_pos
  | cons member members => exact Nat.succ_pos _

mutual

/-- **A value reads back**, whatever can follow it. -/
theorem value_render : (json : Json) → ∀ {depth : Nat} {shape : Shape} {rest : Bytes},
    IsFaithful shape json → json.render.length ≤ depth + 1 → Stops rest →
      value (depth + 1) shape (json.render ++ rest) = some (json, rest)
  | null, depth, shape, rest, _, _, _ => value_null depth shape rest
  | bool truth, depth, shape, rest, _, _, _ => value_bool depth shape truth rest
  | integer n, depth, shape, _, _, _, hrest => value_integer depth shape n hrest
  | string (some text), depth, shape, rest, _, _, _ => value_string depth shape text rest
  | array [], depth, shape, rest, hfaithful, _, _ => by
      change value (depth + 1) shape (octet '[' :: octet ']' :: rest) = _
      rw [value, skipBlank_cons (by decide)]
      dsimp only
      rw [if_neg (by decide), if_neg (by decide), if_neg (by decide), if_neg (by decide),
        if_pos rfl, token?_octet (by decide)]
      cases shape with
      | octets count => exact absurd rfl (hfaithful.1 count)
      | any | list | record => rfl
  | array (element :: elements), depth, shape, rest, hfaithful, hdepth, _ => by
      obtain ⟨hlist, hfirst, hothers⟩ := hfaithful
      obtain ⟨b, tail, hrender, hblank, hbracket, -⟩ := exists_render_eq_cons element
      have htext : render (array (element :: elements)) ++ rest =
          octet '[' :: (element.render ++ (renderElements elements ++ rest)) := by
        rw [render, List.cons_append, List.cons_append, List.append_assoc]
      have hlength : (render (array (element :: elements))).length =
          element.render.length + (renderElements elements).length + 1 := by
        rw [render, List.cons_append, List.length_cons, List.length_append]
      have hpos := length_render_pos element
      have hend := length_renderElements_pos elements
      obtain ⟨depth, rfl⟩ : ∃ d, depth = d + 1 := ⟨depth - 1, by omega⟩
      have hmark : token? ']' (element.render ++ (renderElements elements ++ rest)) = none := by
        rw [hrender]
        exact token?_of_ne hblank hbracket _
      have hvalue : value (depth + 1) (shape.element 0)
          (element.render ++ (renderElements elements ++ rest)) =
            some (element, renderElements elements ++ rest) :=
        value_render element hfirst (by omega) (stops_renderElements elements rest)
      have helements : Json.elements (depth + 1) shape 1 (renderElements elements ++ rest) =
          some (elements, rest) := elements_render elements hothers (by omega) rest
      rw [htext, value, skipBlank_cons (by decide)]
      dsimp only
      rw [if_neg (by decide), if_neg (by decide), if_neg (by decide), if_neg (by decide),
        if_pos rfl, hmark]
      cases shape with
      | octets count => exact absurd rfl (hlist count)
      | any | list | record =>
          simp only [Option.bind_eq_bind, hvalue, Option.bind_some, helements, Option.pure_def]
  | object [], depth, shape, rest, _, _, _ => by
      change value (depth + 1) shape (octet '\x7b' :: octet '\x7d' :: rest) = _
      rw [value, skipBlank_cons (by decide)]
      dsimp only
      rw [if_neg (by decide), if_neg (by decide), if_neg (by decide), if_neg (by decide),
        if_neg (by decide), if_pos rfl, token?_octet (by decide)]
  | object ((some name, first) :: members), depth, shape, rest, hfaithful, hdepth, _ => by
      obtain ⟨-, hfirst, hothers⟩ := hfaithful
      have htext : render (object ((some name, first) :: members)) ++ rest =
          octet '\x7b' :: (renderString (some name) ++ octet ':' ::
            (first.render ++ (renderMembers members ++ rest))) := by
        rw [render, List.append_assoc, List.append_assoc, List.cons_append, List.cons_append]
      have hlength : first.render.length + (renderMembers members).length + 1 ≤
          (render (object ((some name, first) :: members))).length := by
        simp only [render, List.cons_append, List.length_cons, List.length_append]
        omega
      have hpos := length_render_pos first
      have hend := length_renderMembers_pos members
      obtain ⟨depth, rfl⟩ : ∃ d, depth = d + 1 := ⟨depth - 1, by omega⟩
      have hmark : token? '\x7d' (renderString (some name) ++ octet ':' ::
          (first.render ++ (renderMembers members ++ rest))) = none :=
        token?_of_ne (by decide) (by decide) _
      have hvalue : value (depth + 1) (shape.member (some name))
          (first.render ++ (renderMembers members ++ rest)) =
            some (first, renderMembers members ++ rest) :=
        value_render first hfirst (by omega) (stops_renderMembers members rest)
      have hmembers : Json.members (depth + 1) shape (renderMembers members ++ rest) =
          some (members, rest) := members_render members hothers (by omega) rest
      rw [htext, value, skipBlank_cons (by decide)]
      dsimp only
      rw [if_neg (by decide), if_neg (by decide), if_neg (by decide), if_neg (by decide),
        if_neg (by decide), if_pos rfl, hmark]
      simp only [Option.bind_eq_bind, memberName_renderString, Option.bind_some, hvalue, hmembers,
        Option.pure_def]

/-- The elements of a list behind its first one read back. -/
theorem elements_render : (elements : List Json) → ∀ {depth : Nat} {shape : Shape} {place : Nat},
    AreFaithfulElements shape place elements → (renderElements elements).length ≤ depth + 1 →
      ∀ rest : Bytes,
        Json.elements (depth + 1) shape place (renderElements elements ++ rest) =
          some (elements, rest)
  | [], depth, shape, place, _, _, rest => by
      change Json.elements (depth + 1) shape place (octet ']' :: rest) = _
      rw [Json.elements, token?_octet (by decide)]
  | element :: elements, depth, shape, place, hfaithful, hdepth, rest => by
      obtain ⟨hfirst, hothers⟩ := hfaithful
      have htext : renderElements (element :: elements) ++ rest =
          octet ',' :: (element.render ++ (renderElements elements ++ rest)) := by
        rw [renderElements, List.cons_append, List.cons_append, List.append_assoc]
      have hlength : (renderElements (element :: elements)).length =
          element.render.length + (renderElements elements).length + 1 := by
        rw [renderElements, List.cons_append, List.length_cons, List.length_append]
      have hpos := length_render_pos element
      have hend := length_renderElements_pos elements
      obtain ⟨depth, rfl⟩ : ∃ d, depth = d + 1 := ⟨depth - 1, by omega⟩
      have hvalue : value (depth + 1) (shape.element place)
          (element.render ++ (renderElements elements ++ rest)) =
            some (element, renderElements elements ++ rest) :=
        value_render element hfirst (by omega) (stops_renderElements elements rest)
      have helements : Json.elements (depth + 1) shape (place + 1)
          (renderElements elements ++ rest) = some (elements, rest) :=
        elements_render elements hothers (by omega) rest
      rw [htext, Json.elements, token?_of_ne (by decide) (by decide), token?_octet (by decide)]
      simp only [Option.bind_eq_bind, Option.bind_some, hvalue, helements, Option.pure_def]

/-- The members of an object behind its first one read back. -/
theorem members_render : (members : List (Option String × Json)) → ∀ {depth : Nat} {shape : Shape},
    AreFaithfulMembers shape members → (renderMembers members).length ≤ depth + 1 →
      ∀ rest : Bytes,
        Json.members (depth + 1) shape (renderMembers members ++ rest) = some (members, rest)
  | [], depth, shape, _, _, rest => by
      change Json.members (depth + 1) shape (octet '\x7d' :: rest) = _
      rw [Json.members, token?_octet (by decide)]
  | (some name, first) :: members, depth, shape, hfaithful, hdepth, rest => by
      obtain ⟨-, hfirst, hothers⟩ := hfaithful
      have htext : renderMembers ((some name, first) :: members) ++ rest =
          octet ',' :: (renderString (some name) ++ octet ':' ::
            (first.render ++ (renderMembers members ++ rest))) := by
        rw [renderMembers, List.append_assoc, List.append_assoc, List.cons_append, List.cons_append]
      have hlength : first.render.length + (renderMembers members).length + 1 ≤
          (renderMembers ((some name, first) :: members)).length := by
        simp only [renderMembers, List.cons_append, List.length_cons, List.length_append]
        omega
      have hpos := length_render_pos first
      have hend := length_renderMembers_pos members
      obtain ⟨depth, rfl⟩ : ∃ d, depth = d + 1 := ⟨depth - 1, by omega⟩
      have hvalue : value (depth + 1) (shape.member (some name))
          (first.render ++ (renderMembers members ++ rest)) =
            some (first, renderMembers members ++ rest) :=
        value_render first hfirst (by omega) (stops_renderMembers members rest)
      have hmembers : Json.members (depth + 1) shape (renderMembers members ++ rest) =
          some (members, rest) := members_render members hothers (by omega) rest
      rw [htext, Json.members, token?_of_ne (by decide) (by decide), token?_octet (by decide)]
      simp only [Option.bind_eq_bind, Option.bind_some, memberName_renderString, hvalue, hmembers,
        Option.pure_def]

end

/-- **A value that is written alone reads back.** -/
theorem parse?_render {shape : Shape} {json : Json} (h : IsFaithful shape json) :
    parse? shape json.render = some json := by
  have hvalue : value (json.render.length + 1) shape (json.render ++ []) = some (json, []) :=
    value_render json h (Nat.le_succ _) stops_nil
  rw [List.append_nil] at hvalue
  rw [parse?, hvalue]
  rfl

end StakingGateway.Json
