import StakingGateway.Json.Codec
import StakingGateway.Proofs.Json.RoundTrip

/-!
# Codecs that Read Back

A codec is lawful if the written form of each value reads back as the value, both as a structured
text and as a value of its type (`Json.LawfulCodec`). The codecs of all plain types are lawful, so
is that of a list if that of its elements is, and the codec of a record is lawful if those of its
fields are, because the fields of a record are found again by their names (`Json.fields?_record`).

## Main definitions

* `Json.LawfulCodec`: what is written reads back.

## Main statements

* `Json.decode?_encode`: octets of a lawful codec read back.
* `Json.fields?_record`: records give their fields.
-/

namespace StakingGateway

namespace Json

/-! ### Where nothing is expected -/

mutual

/-- What stands for itself where something is expected does so where nothing is. -/
theorem IsFaithful.any : (json : Json) → ∀ {shape : Shape}, IsFaithful shape json →
    IsFaithful .any json
  | null, _, _ => trivial
  | bool _, _, _ => trivial
  | integer _, _, _ => trivial
  | string _, _, h => h
  | array elements, _, h =>
      ⟨fun _ => Shape.noConfusion, AreFaithfulElements.any elements h.2⟩
  | object members, _, h => AreFaithfulMembers.any members h

theorem AreFaithfulElements.any : (elements : List Json) → ∀ {shape : Shape} {place other : Nat},
    AreFaithfulElements shape place elements → AreFaithfulElements .any other elements
  | [], _, _, _, _ => trivial
  | element :: elements, _, _, _, h =>
      ⟨IsFaithful.any element h.1, AreFaithfulElements.any elements h.2⟩

theorem AreFaithfulMembers.any : (members : List (Option String × Json)) → ∀ {shape : Shape},
    AreFaithfulMembers shape members → AreFaithfulMembers .any members
  | [], _, _ => trivial
  | (_, value) :: members, _, h =>
      ⟨h.1, IsFaithful.any value h.2.1, AreFaithfulMembers.any members h.2.2⟩

end

/-! ### Lawful codecs -/

/-- What is written reads back. -/
class LawfulCodec (α : Type) [Codec α] : Prop where
  /-- The written form of a value stands for the value. -/
  ofJson?_toJson (a : α) : ofJson? (toJson a) = some a
  /-- Its octets stand for the written form. -/
  isFaithful_toJson (a : α) : IsFaithful (Codec.shape α) (toJson a)

open LawfulCodec

/-- **Octets of a lawful codec read back.** -/
theorem decode?_encode {α : Type} [Codec α] [LawfulCodec α] (a : α) :
    decode? (encode a) = some a := by
  rw [decode?, encode, parse?_render (isFaithful_toJson a), Option.bind_some, ofJson?_toJson]

/-- Different values have different octets. -/
theorem encode_injective {α : Type} [Codec α] [LawfulCodec α] {a b : α} (h : encode a = encode b) :
    a = b := by
  have hread : decode? (α := α) (encode a) = decode? (encode b) := congrArg decode? h
  rwa [decode?_encode, decode?_encode, Option.some.injEq] at hread

instance : LawfulCodec Bool := ⟨fun _ => rfl, fun _ => trivial⟩

instance : LawfulCodec String := ⟨fun _ => rfl, fun _ => rfl⟩

/-- An unsigned integer that fits its 64 bits reads as itself. -/
theorem ofJson?_integer_of_lt {n : Int} (h : 0 ≤ n ∧ n < UInt64.size) :
    ofJson? (.integer n) = some (UInt64.ofNat n.toNat) := by
  have hread : ofJson? (.integer n) =
      (guard (0 ≤ n ∧ n < UInt64.size) >>= fun _ => some (UInt64.ofNat n.toNat)) := rfl
  rw [hread, guard, if_pos h]
  rfl

instance : LawfulCodec UInt64 where
  ofJson?_toJson n := by
    have hlt : (n.toNat : Int) < (UInt64.size : Nat) := Int.ofNat_lt.mpr n.toNat_lt_size
    have hread := ofJson?_integer_of_lt ⟨Int.natCast_nonneg n.toNat, hlt⟩
    rwa [Int.toNat_natCast, UInt64.ofNat_toNat] at hread
  isFaithful_toJson _ := trivial

instance : LawfulCodec Int64 where
  ofJson?_toJson n := by
    have hrange : -(int64Bound : Int) ≤ n.toInt ∧ n.toInt < (int64Bound : Int) :=
      ⟨n.le_toInt, n.toInt_lt⟩
    have hread : ofJson? (toJson n) =
        (guard (-int64Bound ≤ n.toInt ∧ n.toInt < int64Bound) >>= fun _ =>
          some (Int64.ofInt n.toInt)) := rfl
    rw [hread, guard, if_pos hrange, Int64.ofInt_toInt]
    rfl
  isFaithful_toJson _ := trivial

/-! ### Lists -/

/-- Elements that stand for themselves do so in a list of such elements. -/
theorem areFaithfulElements_map {α : Type} {shape : Shape} {f : α → Json}
    (h : ∀ a, IsFaithful shape (f a)) (place : Nat) (values : List α) :
    AreFaithfulElements (.list shape) place (values.map f) := by
  induction values generalizing place with
  | nil => exact trivial
  | cons a values ih => exact ⟨h a, ih (place + 1)⟩

/-- Values that read back one by one read back in a list. -/
theorem mapM_ofJson?_toJson {α : Type} [Codec α] [LawfulCodec α] (values : List α) :
    (values.map toJson).mapM (ofJson? (α := α)) = some values := by
  induction values with
  | nil => rfl
  | cons a values ih =>
      rw [List.map_cons, List.mapM_cons, ofJson?_toJson, ih]
      rfl

instance {α : Type} [Codec α] [LawfulCodec α] : LawfulCodec (List α) where
  ofJson?_toJson values := mapM_ofJson?_toJson values
  isFaithful_toJson values :=
    ⟨fun _ => Shape.noConfusion, areFaithfulElements_map isFaithful_toJson 0 values⟩

/-! ### Wide numbers and addresses -/

/-- A wide number in hexadecimal reads back. -/
theorem wideNumber?_toDigits (a : Uint256) :
    wideNumber? (String.ofList ('0' :: 'x' :: Nat.toDigits 16 a.toNat)) = some a := by
  have hfilter : (Nat.toDigits 16 a.toNat).filter (· ≠ '_') = Nat.toDigits 16 a.toNat := by
    refine List.filter_eq_self.mpr fun c hc => ?_
    obtain ⟨d, hd, rfl⟩ := Text.mem_toDigits (by omega) hc
    have hall : ∀ d : Fin 16, decide (Nat.digitChar d ≠ '_') = true := by decide
    exact hall ⟨d, hd⟩
  have hbase : splitBase ('0' :: 'x' :: Nat.toDigits 16 a.toNat) =
      (16, Nat.toDigits 16 a.toNat) := by
    rw [splitBase, if_pos (.inl rfl)]
  rw [wideNumber?, String.toList_ofList, hbase]
  dsimp only
  rw [hfilter, Text.ofDigits?_toDigits (by omega) (Nat.le_refl 16), Option.bind_some]
  exact Uint256.ofNat?_eq_some_iff.mpr rfl

instance : LawfulCodec Uint256 where
  ofJson?_toJson a := wideNumber?_toDigits a
  isFaithful_toJson _ := rfl

end Json

namespace Address

/-- The octets of digits are read as the digits. -/
theorem charOfOctet_digitChar {d : Nat} (h : d < 16) :
    charOfOctet (Nat.digitChar d).toUInt8 = Nat.digitChar d := by
  have hall : ∀ d : Fin 16, charOfOctet (Nat.digitChar d).toUInt8 = Nat.digitChar d := by decide
  exact hall ⟨d, h⟩

/-- The plain text of an address reads back. -/
theorem ofHex?_toHex (address : Address) : ofHex? address.toHex = some address := by
  have hascii : ∀ c ∈ address.toHex.toList, c.toNat < 128 := by
    intro c hc
    rw [toHex, Bytes.toHex, String.toList_ofList, List.mem_cons, List.mem_cons] at hc
    rcases hc with rfl | rfl | hc
    · decide
    · decide
    · obtain ⟨d, hd, rfl⟩ := Bytes.exists_digit_of_mem_toHexChars hc
      exact Bytes.toNat_digitChar_lt hd
  have hoctets : Text.utf8 address.toHex =
      0x30 :: 0x78 :: address.octets.toHexChars.map Char.toUInt8 := by
    rw [Text.utf8_of_ascii hascii, Bytes.ascii, toHex, Bytes.toHex, String.toList_ofList]
    rfl
  have hchars : (address.octets.toHexChars.map Char.toUInt8).map charOfOctet =
      address.octets.toHexChars := by
    rw [List.map_map]
    refine (List.map_congr_left fun c hc => ?_).trans (List.map_id _)
    obtain ⟨d, hd, rfl⟩ := Bytes.exists_digit_of_mem_toHexChars hc
    exact charOfOctet_digitChar hd
  have hlength : (address.octets.toHexChars.map Char.toUInt8).length = 40 := by
    rw [List.length_map, Bytes.length_toHexChars, address.length_octets]
  have hdigits : firstNonDigit? (address.octets.toHexChars.map Char.toUInt8) = none := by
    refine List.find?_eq_none.mpr fun entry hentry => ?_
    obtain ⟨c, hc, hcode⟩ := List.mem_map.mp (List.fst_mem_of_mem_zipIdx hentry)
    obtain ⟨d, hd, rfl⟩ := Bytes.exists_digit_of_mem_toHexChars hc
    rw [← hcode, charOfOctet_digitChar hd, Bytes.hexDigit?_digitChar hd]
    exact Bool.false_ne_true
  have hmark : dropMark (0x30 :: 0x78 :: address.octets.toHexChars.map Char.toUInt8) =
      address.octets.toHexChars.map Char.toUInt8 := rfl
  rw [ofHex?, parse, hoctets, parseOctets, hmark, hlength, if_neg (by decide), if_neg (by decide),
    hdigits, hchars, Bytes.ofHexChars?_toHexChars, Option.bind_some, ofOctets?,
    dif_pos address.length_octets]
  rfl

end Address

namespace Json

instance : LawfulCodec Address where
  ofJson?_toJson address := address.ofHex?_toHex
  isFaithful_toJson _ := rfl

/-! ### Records -/

/-- A member is found by its name. -/
theorem member?_eq_some {members : List (String × Json)} (hnodup : (members.map (·.1)).Nodup)
    {member : String × Json} (hmem : member ∈ members) :
    member? (members.map fun member => (some member.1, member.2)) member.1 = some member.2 := by
  induction members with
  | nil => cases hmem
  | cons first members ih =>
      obtain ⟨hfirst, hnodup⟩ := List.nodup_cons.mp hnodup
      rw [member?, List.map_cons, List.find?_cons]
      rcases List.mem_cons.mp hmem with rfl | hmem
      · rw [beq_self_eq_true]
        rfl
      · have hne : first.1 ≠ member.1 := by
          intro heq
          have hname : member.1 ∈ members.map (·.1) := List.mem_map_of_mem hmem
          rw [← heq] at hname
          exact hfirst hname
        rw [beq_eq_false_iff_ne.mpr fun heq => hne (Option.some.inj heq)]
        exact ih hnodup hmem

/-- No name is given twice where the names of the fields differ. -/
theorem wellNamed_record {members : List (String × Json)} (h : (members.map (·.1)).Nodup) :
    wellNamed (members.map (·.1)) (members.map fun member => (some member.1, member.2)) = true := by
  rw [wellNamed, Bool.and_eq_true, List.all_eq_true, List.all_eq_true]
  refine ⟨fun member hmember => ?_, fun name _ => decide_eq_true ?_⟩
  · obtain ⟨given, -, rfl⟩ := List.mem_map.mp hmember
    rfl
  · have hcount : ((members.map fun member => (some member.1, member.2)).filter
        fun member => member.1 == some name).length = (members.map (·.1)).count name := by
      rw [← List.countP_eq_length_filter, List.countP_map, List.count, List.countP_map]
      refine List.countP_congr fun member _ => ?_
      simp
    rw [hcount]
    exact List.nodup_iff_count.mp h name

/-- **Records give their fields**, each the value that it was written with. -/
theorem fields?_record (names : List String) (values : List Json) (hnodup : names.Nodup)
    (hlength : names.length = values.length) :
    fields? names (record (names.zip values)) = some (values.map some) := by
  have hnames : (names.zip values).map (·.1) = names := List.map_fst_zip (Nat.le_of_eq hlength)
  have hvalues : (names.zip values).map (·.2) = values :=
    List.map_snd_zip (Nat.le_of_eq hlength.symm)
  rw [← hnames] at hnodup
  have hfields : fields? ((names.zip values).map (·.1)) (record (names.zip values)) =
      some ((names.zip values).map fun member => some member.2) := by
    rw [record, fields?, if_pos (wellNamed_record hnodup), List.map_map]
    exact congrArg some (List.map_congr_left fun member hmem => member?_eq_some hnodup hmem)
  rw [hnames] at hfields
  rw [hfields, ← hvalues, List.map_map, hvalues]
  rfl

/-- The value of a field that has been written. -/
theorem required?_toJson {α : Type} [Codec α] [LawfulCodec α] (a : α) :
    required? (some (toJson a)) = some a :=
  LawfulCodec.ofJson?_toJson a

/-- A record stands for itself if the values of its fields do. -/
theorem isFaithful_record {shape : Shape} {members : List (String × Json)}
    (h : ∀ member ∈ members, IsFaithful (shape.member (some member.1)) member.2) :
    IsFaithful shape (record members) := by
  rw [record, IsFaithful]
  induction members with
  | nil => exact trivial
  | cons member members ih =>
      obtain ⟨hmember, hmembers⟩ := List.forall_mem_cons.mp h
      exact ⟨rfl, hmember, ih hmembers⟩

end Json

end StakingGateway
