import StakingGateway.Interface.RoutingTable
import StakingGateway.Proofs.Fallible
import StakingGateway.Proofs.Store.SortedMaps

/-!
# Routing Tables

A routing table is made of descriptors that all have selectors of their own. If they have not, it is
said where the first selector is met again, and whose it is. Call data are routed by their first
four octets, to the only descriptor with that selector.

A table looks its descriptors through. An index of their places by selector
(`SelectorIndex.enter`) is filled as the descriptors are met, and finds the same descriptors without
looking through all of them. What is known of it while it is filled is that it holds all places that
were met and nothing else (`SelectorIndex.Holds`), so that a selector is met again exactly if the
index has it.

## Main definitions

* `RoutingTable.IsFirstRepeat`: where a selector is first met again, and where it stands before.
* `SelectorIndex`, `SelectorIndex.ofList`, `SelectorIndex.route`: places by selector.

## Main statements

* `RoutingTable.route_eq_ok_iff_mem`: call data are routed to the descriptor with their selector.
* `RoutingTable.exists_isFirstRepeat`: the repeated selector that is reported is the first one.
* `SelectorIndex.enter_spec`: filling an index stops where a selector is met again.
* `RoutingTable.ofList_routes`: what a list of descriptors makes, and where its calls go.
-/

namespace StakingGateway

/-! ### Selectors of call data -/

/-- The selector that call data start with is that of their first four octets. -/
theorem Selector.ofData?_eq_some_iff {data : Bytes} {selector : Selector} :
    Selector.ofData? data = some selector ↔ data.take 4 = selector.octets := by
  rw [ofData?, ofOctets?]
  split
  · rw [Option.some.injEq, Selector.ext_iff]
  · next hlength =>
      refine iff_of_false (fun h => by cases h) fun heq => hlength ?_
      rw [heq, selector.length_octets]

/-- Call data start with none if they are too short. -/
theorem Selector.ofData?_eq_none_iff {data : Bytes} :
    Selector.ofData? data = none ↔ data.length < 4 := by
  have hlength : (data.take 4).length = min 4 data.length := List.length_take
  rw [ofData?, ofOctets?]
  split
  · exact iff_of_false (fun h => by cases h) (by omega)
  · exact iff_of_true rfl (by omega)

/-- Call data that are long enough start with one. -/
theorem Selector.exists_octets_eq {data : Bytes} (h : 4 ≤ data.length) :
    ∃ selector : Selector, data.take 4 = selector.octets := by
  have hlength : (data.take 4).length = 4 := by
    rw [List.length_take]
    omega
  exact ⟨⟨data.take 4, hlength⟩, rfl⟩

namespace RoutingTable

variable {descriptors : List Descriptor} {descriptor : Descriptor} {clash : DuplicateSelector}
  {table : RoutingTable} {data : Bytes}

/-! ### Routing -/

/-- Where selectors all differ, looking for one finds the only descriptor that has it. -/
theorem find?_selector_eq_some_iff (hnodup : (descriptors.map (·.selector)).Nodup)
    {selector : Selector} :
    (descriptors.find? fun other => other.selector = selector) = some descriptor ↔
      descriptor ∈ descriptors ∧ descriptor.selector = selector := by
  constructor
  · intro hfound
    exact ⟨List.mem_of_find?_eq_some hfound, by simpa using List.find?_some hfound⟩
  · rintro ⟨hmem, rfl⟩
    cases hfound : descriptors.find? fun other => other.selector = descriptor.selector with
    | none => exact absurd (decide_eq_true rfl) (List.find?_eq_none.mp hfound _ hmem)
    | some found =>
        have hselector : found.selector = descriptor.selector := by
          simpa using List.find?_some hfound
        rw [List.inj_on_of_nodup_map hnodup (List.mem_of_find?_eq_some hfound) hmem hselector]

/-- Where selectors all differ, each of them stands at one place. -/
theorem eq_of_getElem_selector_eq (hnodup : (descriptors.map (·.selector)).Nodup) {i j : Nat}
    (hi : i < descriptors.length) (hj : j < descriptors.length)
    (h : descriptors[i].selector = descriptors[j].selector) : i = j := by
  have heq := List.inj_on_of_nodup_map hnodup (List.getElem_mem hi) (List.getElem_mem hj) h
  exact hnodup.of_map.getElem_inj_iff.mp heq

/-- Call data are routed to the descriptor whose selector they start with. -/
theorem route_eq_ok_iff_mem :
    table.route data = .ok descriptor ↔
      descriptor ∈ table.descriptors ∧ data.take 4 = descriptor.selector.octets := by
  rw [route, ← Selector.ofData?_eq_some_iff]
  cases Selector.ofData? data with
  | none => simp
  | some selector =>
      rw [Option.some.injEq, eq_comm (a := selector),
        ← find?_selector_eq_some_iff table.nodup_selectors]
      dsimp only
      cases table.descriptors.find? fun other => other.selector = selector with
      | none => simp
      | some found => simp

/-- Call data that are too short for a selector are not routed. -/
theorem route_of_short (h : data.length < 4) :
    table.route data = .error (.decode (.missingSelector data.length)) := by
  rw [route, Selector.ofData?_eq_none_iff.mpr h]

/-- Call data that start with a selector that no descriptor has are not routed. -/
theorem route_of_unknown {selector : Selector} (hdata : data.take 4 = selector.octets)
    (h : ∀ descriptor ∈ table.descriptors, data.take 4 ≠ descriptor.selector.octets) :
    table.route data = .error (.unknownMethod selector) := by
  have hfind : (table.descriptors.find? fun other => other.selector = selector) = none := by
    refine List.find?_eq_none.mpr fun descriptor hmem hselector => h descriptor hmem ?_
    rw [hdata, of_decide_eq_true hselector]
  rw [route, Selector.ofData?_eq_some_iff.mpr hdata]
  dsimp only
  rw [hfind]

/-- Octets behind the selector do not matter. -/
theorem route_take_append (h : 4 ≤ data.length) (rest : Bytes) :
    table.route (data.take 4 ++ rest) = table.route data := by
  obtain ⟨selector, hselector⟩ := Selector.exists_octets_eq h
  have hrest : (data.take 4 ++ rest).take 4 = selector.octets := by
    rw [hselector, List.take_left' selector.length_octets]
  rw [route, route, Selector.ofData?_eq_some_iff.mpr hselector,
    Selector.ofData?_eq_some_iff.mpr hrest]

/-! ### Repeated selectors -/

/-- The descriptor at the later place is the first one whose selector another one before it has,
and the only one of these stands at the earlier place. -/
structure IsFirstRepeat (descriptors : List Descriptor)
    (earlier later : Fin descriptors.length) : Prop where
  /-- The places are in order. -/
  lt : earlier < later
  /-- Both descriptors have one selector. -/
  selector_eq : descriptors[earlier].selector = descriptors[later].selector
  /-- Before the later place, there is no other descriptor with the selector. -/
  eq_earlier : ∀ place < later,
    descriptors[place].selector = descriptors[later].selector → place = earlier
  /-- Descriptors with one selector do not both stand before the later place. -/
  le : ∀ one other : Fin descriptors.length, one < other →
    descriptors[one].selector = descriptors[other].selector → later ≤ other

/-- There is one such place, and one that belongs to it. -/
theorem IsFirstRepeat.unique {earlier later earlier' later' : Fin descriptors.length}
    (h : IsFirstRepeat descriptors earlier later) (h' : IsFirstRepeat descriptors earlier' later') :
    earlier = earlier' ∧ later = later' := by
  obtain rfl : later = later' :=
    le_antisymm (h.le _ _ h'.lt h'.selector_eq) (h'.le _ _ h.lt h.selector_eq)
  exact ⟨h'.eq_earlier earlier h.lt h.selector_eq, rfl⟩

/-- The report of a repeated selector: the selector, and the names at both places. -/
def reported (descriptors : List Descriptor) (earlier later : Fin descriptors.length) :
    DuplicateSelector :=
  ⟨descriptors[later].selector, descriptors[earlier].name, descriptors[later].name⟩

/-- A descriptor behind others with selectors that all differ, one of which is its own, is the
first one that repeats a selector. -/
theorem exists_isFirstRepeat_of_split {front : List Descriptor} (behind : List Descriptor)
    {other : Descriptor} (hnodup : (front.map (·.selector)).Nodup) (hother : other ∈ front)
    (hselector : other.selector = descriptor.selector) :
    ∃ earlier later, IsFirstRepeat (front ++ descriptor :: behind) earlier later ∧
      reported (front ++ descriptor :: behind) earlier later =
        ⟨descriptor.selector, other.name, descriptor.name⟩ := by
  obtain ⟨place, hplace, rfl⟩ := List.mem_iff_getElem.mp hother
  have hfront {i : Nat} (hi : i < front.length)
      (hi' : i < (front ++ descriptor :: behind).length) :
      (front ++ descriptor :: behind)[i] = front[i] := List.getElem_append_left hi
  have hlength : front.length < (front ++ descriptor :: behind).length := by simp
  have hlater : (front ++ descriptor :: behind)[front.length] = descriptor := by simp
  refine ⟨⟨place, lt_trans hplace hlength⟩, ⟨front.length, hlength⟩, ⟨hplace, ?_, ?_, ?_⟩, ?_⟩
  · simp only [Fin.getElem_fin, hlater, hfront hplace, hselector]
  · intro one hone h
    simp only [Fin.getElem_fin, hlater, hfront hone, ← hselector] at h
    exact Fin.ext (eq_of_getElem_selector_eq hnodup hone hplace h)
  · intro one other hlt h
    by_contra hbefore
    have hother : other < front.length := lt_of_not_ge hbefore
    have hone : one < front.length := lt_trans hlt hother
    simp only [Fin.getElem_fin, hfront hone, hfront hother] at h
    exact absurd (eq_of_getElem_selector_eq hnodup hone hother h) (ne_of_lt hlt)
  · simp only [reported, Fin.getElem_fin, hlater, hfront hplace]

/-- What is found to repeat a selector does so first. -/
theorem exists_isFirstRepeat {earlier others : List Descriptor}
    (hearlier : (earlier.map (·.selector)).Nodup) (h : duplicate? earlier others = some clash) :
    ∃ one other, IsFirstRepeat (earlier ++ others) one other ∧
      clash = reported (earlier ++ others) one other := by
  induction others generalizing earlier with
  | nil => cases h
  | cons descriptor others ih =>
      rw [duplicate?] at h
      split at h
      · next other hfind =>
          obtain ⟨one, later, hfirst, hreported⟩ := exists_isFirstRepeat_of_split others
            hearlier (List.mem_of_find?_eq_some hfind) (by simpa using List.find?_some hfind)
          exact ⟨one, later, hfirst, (hreported.trans (Option.some.inj h)).symm⟩
      · next hfind =>
          have hrest := ih (nodup_concat hearlier hfind) h
          rwa [List.append_assoc] at hrest

/-- A list makes a table exactly if no descriptor repeats a selector, and the table lists it. -/
theorem ofList_eq_ok_iff :
    ofList descriptors = .ok table ↔
      duplicate? [] descriptors = none ∧ table.descriptors = descriptors := by
  rw [ofList]
  split
  · next h => simp [h]
  · next h =>
      simp only [h, Except.ok.injEq, true_and]
      constructor
      · rintro rfl
        rfl
      · rintro rfl
        rfl

/-- Otherwise a repeated selector is reported. -/
theorem ofList_eq_error_iff :
    ofList descriptors = .error clash ↔ duplicate? [] descriptors = some clash := by
  rw [ofList]
  split
  · next h => simp [h]
  · next h => simp [h]

/-- In a table, a selector stands at one place. -/
theorem selector_injective (table : RoutingTable) :
    Function.Injective fun place : Fin table.descriptors.length =>
      table.descriptors[place].selector := by
  intro one other h
  exact Fin.ext (eq_of_getElem_selector_eq table.nodup_selectors one.isLt other.isLt h)

/-- If a list makes no table, the report is about the first repeated selector. -/
theorem exists_isFirstRepeat_of_error (h : ofList descriptors = .error clash) :
    ∃ earlier later, IsFirstRepeat descriptors earlier later ∧
      clash = reported descriptors earlier later := by
  have hnil : (([] : List Descriptor).map (·.selector)).Nodup := List.nodup_nil
  exact exists_isFirstRepeat hnil (ofList_eq_error_iff.mp h)

/-- A list makes no table exactly if a selector stands at two places. -/
theorem exists_error_iff :
    (∃ clash, ofList descriptors = .error clash) ↔
      ∃ one other : Fin descriptors.length, one ≠ other ∧
        descriptors[one].selector = descriptors[other].selector := by
  constructor
  · rintro ⟨clash, hclash⟩
    obtain ⟨earlier, later, hfirst, -⟩ := exists_isFirstRepeat_of_error hclash
    exact ⟨earlier, later, ne_of_lt hfirst.lt, hfirst.selector_eq⟩
  · rintro ⟨one, other, hne, hselector⟩
    cases hlist : ofList descriptors with
    | error clash => exact ⟨clash, rfl⟩
    | ok table =>
        obtain ⟨-, rfl⟩ := ofList_eq_ok_iff.mp hlist
        exact absurd (table.selector_injective hselector) hne

/-- What is reported is the first repeated selector. -/
theorem ofList_eq_error_iff_isFirstRepeat :
    ofList descriptors = .error clash ↔
      ∃ earlier later, IsFirstRepeat descriptors earlier later ∧
        clash = reported descriptors earlier later := by
  refine ⟨exists_isFirstRepeat_of_error, ?_⟩
  rintro ⟨earlier, later, hfirst, rfl⟩
  obtain ⟨clash, hclash⟩ :=
    exists_error_iff.mpr ⟨earlier, later, ne_of_lt hfirst.lt, hfirst.selector_eq⟩
  obtain ⟨earlier', later', hfirst', rfl⟩ := exists_isFirstRepeat_of_error hclash
  obtain ⟨rfl, rfl⟩ := hfirst.unique hfirst'
  exact hclash

/-- A selector that is met again with another one in between. -/
example :
    duplicate? [] [Method.delegate.descriptor, Method.validator.descriptor,
      { Method.delegate.descriptor with name := "again" }] =
        some ⟨Method.delegate.selector, "delegate", "again"⟩ := by
  decide

end RoutingTable

/-! ### An index -/

/-- Places in a list of descriptors, by the octets of the selectors that stand there. -/
abbrev SelectorIndex := ByteMap Nat

namespace SelectorIndex

variable {descriptors : List Descriptor} {index : SelectorIndex} {place : Nat}

/-- Enters descriptors that stand in the list from the place on, until the index has the selector of
one of them already. Then the one is looked up that stands at the place that the index has. -/
def enter (descriptors : List Descriptor) :
    (index : SelectorIndex) → (place : Nat) → List Descriptor →
      Except DuplicateSelector SelectorIndex
  | index, _, [] => .ok index
  | index, place, descriptor :: others =>
    match index.get? descriptor.selector.octets with
    | some previous =>
      .error ⟨descriptor.selector, (descriptors[previous]?.map (·.name)).getD "",
        descriptor.name⟩
    | none =>
      enter descriptors (index.insert descriptor.selector.octets place) (place + 1) others

/-- The index of the list, or the first selector that is met twice. -/
def ofList (descriptors : List Descriptor) : Except DuplicateSelector SelectorIndex :=
  enter descriptors ∅ 0 descriptors

/-- The descriptor at the place that the index has for the call data's selector. -/
def route (index : SelectorIndex) (descriptors : List Descriptor) (data : Bytes) :
    Except Failure Descriptor :=
  match Selector.ofData? data with
  | none => .error (.decode (.missingSelector data.length))
  | some selector =>
    match (index.get? selector.octets).bind fun place => descriptors[place]? with
    | none => .error (.unknownMethod selector)
    | some descriptor => .ok descriptor

/-- The index has the places before the given one, and under a selector it has only places where
the selector stands. -/
def Holds (index : SelectorIndex) (descriptors : List Descriptor) (place : Nat) : Prop :=
  ∀ selector i, index.get? selector = some i ↔
    i < place ∧ ∃ descriptor, descriptors[i]? = some descriptor ∧
      descriptor.selector.octets = selector

theorem holds_empty (descriptors : List Descriptor) : Holds ∅ descriptors 0 := by
  intro selector i
  refine iff_of_false (fun h => ?_) fun h => Nat.not_lt_zero i h.1
  exact List.not_mem_nil (ByteMap.get?_eq_some_iff.mp h)

/-- One more place is held if its selector is not held yet. -/
theorem Holds.insert {descriptor : Descriptor} (h : index.Holds descriptors place)
    (hplace : descriptors[place]? = some descriptor)
    (hnew : index.get? descriptor.selector.octets = none) :
    Holds (ByteMap.insert index descriptor.selector.octets place) descriptors (place + 1) := by
  intro selector i
  rw [ByteMap.get?_insert]
  split
  · next heq =>
      subst heq
      constructor
      · intro hi
        obtain rfl := Option.some.inj hi
        exact ⟨Nat.lt_succ_self _, descriptor, hplace, rfl⟩
      · rintro ⟨hi, found, hfound, hselector⟩
        rcases Nat.lt_succ_iff_lt_or_eq.mp hi with hi | rfl
        · rw [(h _ i).mpr ⟨hi, found, hfound, hselector⟩] at hnew
          cases hnew
        · rfl
  · next hne =>
      rw [h selector i]
      refine and_congr_left fun hfound => ?_
      obtain ⟨found, hfound, rfl⟩ := hfound
      refine ⟨Nat.lt_succ_of_lt, fun hi => lt_of_le_of_ne (Nat.le_of_lt_succ hi) ?_⟩
      rintro rfl
      rw [hplace] at hfound
      obtain rfl := Option.some.inj hfound
      exact hne rfl

/-- A selector that is found before the place is held, at the place where it is found. -/
theorem Holds.get?_of_find?_eq_some {selector : Selector} {other : Descriptor}
    (h : index.Holds descriptors place)
    (hfind : ((descriptors.take place).find? fun other => other.selector = selector) =
      some other) :
    ∃ previous, index.get? selector.octets = some previous ∧
      descriptors[previous]? = some other := by
  obtain ⟨previous, hprevious⟩ := List.mem_iff_getElem?.mp (List.mem_of_find?_eq_some hfind)
  have hselector : other.selector = selector := by simpa using List.find?_some hfind
  rw [List.getElem?_take] at hprevious
  split at hprevious
  · next hlt =>
      exact ⟨previous, (h _ _).mpr ⟨hlt, other, hprevious, congrArg _ hselector⟩, hprevious⟩
  · cases hprevious

/-- A selector that is not found before the place is not held. -/
theorem Holds.get?_of_find?_eq_none {selector : Selector} (h : index.Holds descriptors place)
    (hfind : ((descriptors.take place).find? fun other => other.selector = selector) = none) :
    index.get? selector.octets = none := by
  refine Option.eq_none_iff_forall_ne_some.mpr fun i hi => ?_
  obtain ⟨hlt, found, hfound, hselector⟩ := (h _ i).mp hi
  have hmem : found ∈ descriptors.take place := by
    refine List.mem_of_getElem? (i := i) ?_
    rw [List.getElem?_take, if_pos hlt, hfound]
  exact List.find?_eq_none.mp hfind found hmem (decide_eq_true (Selector.ext hselector))

/-- **Filling an index stops where a selector is met again**, and otherwise ends with an index of
all places. -/
theorem enter_spec {others : List Descriptor} (h : index.Holds descriptors place)
    (hothers : descriptors.drop place = others) :
    match RoutingTable.duplicate? (descriptors.take place) others with
    | some clash => enter descriptors index place others = .error clash
    | none => ∃ full, enter descriptors index place others = .ok full ∧
        full.Holds descriptors descriptors.length := by
  induction others generalizing index place with
  | nil =>
      refine ⟨index, rfl, fun selector i => (h selector i).trans (and_congr_left fun hi => ?_)⟩
      obtain ⟨found, hfound, -⟩ := hi
      have hlength := (List.getElem?_eq_some_iff.mp hfound).1
      exact iff_of_true (lt_of_lt_of_le hlength (List.drop_eq_nil_iff.mp hothers)) hlength
  | cons descriptor others ih =>
      have hplace : descriptors[place]? = some descriptor := by
        rw [← List.head?_drop, hothers]
        rfl
      have hdrop : descriptors.drop (place + 1) = others := by
        rw [← List.tail_drop, hothers]
        rfl
      have htake : descriptors.take (place + 1) = descriptors.take place ++ [descriptor] := by
        rw [List.take_add_one, hplace]
        rfl
      rw [RoutingTable.duplicate?, enter]
      cases hfind : (descriptors.take place).find? fun other =>
          other.selector = descriptor.selector with
      | some other =>
          obtain ⟨previous, hget, hprevious⟩ := h.get?_of_find?_eq_some hfind
          simp only [hget, hprevious, Option.map_some, Option.getD_some]
      | none =>
          have hnew := h.get?_of_find?_eq_none hfind
          have hrest := ih (h.insert hplace hnew) hdrop
          rw [htake] at hrest
          simp only [hnew]
          exact hrest

/-- An index of all places finds what the table finds. -/
theorem route_eq {table : RoutingTable} (h : index.Holds table.descriptors table.descriptors.length)
    (data : Bytes) : index.route table.descriptors data = table.route data := by
  have hfind (selector : Selector) :
      (index.get? selector.octets).bind (fun place => table.descriptors[place]?) =
        table.descriptors.find? fun other => other.selector = selector := by
    cases hfind : table.descriptors.find? fun other => other.selector = selector with
    | some other =>
        rw [← List.take_length (l := table.descriptors)] at hfind
        obtain ⟨previous, hget, hprevious⟩ := h.get?_of_find?_eq_some hfind
        rw [hget, Option.bind_some, hprevious]
    | none =>
        rw [← List.take_length (l := table.descriptors)] at hfind
        rw [h.get?_of_find?_eq_none hfind, Option.bind_none]
  rw [route, RoutingTable.route]
  cases Selector.ofData? data with
  | none => rfl
  | some selector =>
      dsimp only
      rewrite [hfind selector]
      rfl

end SelectorIndex

namespace RoutingTable

/-- A list of descriptors makes a table, or none, and its index says which. -/
theorem ofList_eq_ofList (descriptors : List Descriptor) :
    (∀ clash, ofList descriptors = .error clash → SelectorIndex.ofList descriptors = .error clash) ∧
    ∀ table, ofList descriptors = .ok table →
      ∃ index, SelectorIndex.ofList descriptors = .ok index ∧
        ∀ data, index.route descriptors data = table.route data := by
  have hspec := SelectorIndex.enter_spec (SelectorIndex.holds_empty descriptors) List.drop_zero
  rw [List.take_zero] at hspec
  constructor
  · intro clash h
    rw [ofList_eq_error_iff.mp h] at hspec
    exact hspec
  · intro table h
    obtain ⟨hnone, rfl⟩ := ofList_eq_ok_iff.mp h
    rw [hnone] at hspec
    obtain ⟨index, hindex, hholds⟩ := hspec
    exact ⟨index, hindex, SelectorIndex.route_eq hholds⟩

/-- **Calls go where their selectors say.** A list of descriptors makes a table unless two places
have the same selector. Then the first place is reported whose selector stood before, with the one
place where it stood. In a table, a call goes to the only descriptor with the call's selector, and
is told if there is none or if it names no selector; what comes behind the selector does not matter.
An index of the places that is filled one place after the other stops with the same report, and
finds the same descriptors. -/
theorem ofList_routes (descriptors : List Descriptor) :
    ((∃ clash, ofList descriptors = .error clash) ↔
      ∃ one other : Fin descriptors.length, one ≠ other ∧
        descriptors[one].selector = descriptors[other].selector) ∧
    (∀ clash, ofList descriptors = .error clash ↔
      ∃ earlier later, IsFirstRepeat descriptors earlier later ∧
        clash = reported descriptors earlier later) ∧
    (∀ clash, ofList descriptors = .error clash →
      SelectorIndex.ofList descriptors = .error clash) ∧
    ∀ table, ofList descriptors = .ok table →
      (∃ index, SelectorIndex.ofList descriptors = .ok index ∧
        ∀ data, index.route descriptors data = table.route data) ∧
      ∀ data,
        (data.length < 4 →
          table.route data = .error (.decode (.missingSelector data.length))) ∧
        (∀ place : Fin descriptors.length, data.take 4 = descriptors[place].selector.octets →
          table.route data = .ok descriptors[place] ∧
            ∀ other : Fin descriptors.length,
              data.take 4 = descriptors[other].selector.octets → other = place) ∧
        (4 ≤ data.length →
          (∀ place : Fin descriptors.length,
            data.take 4 ≠ descriptors[place].selector.octets) →
          ∃ selector, selector.octets = data.take 4 ∧
            table.route data = .error (.unknownMethod selector)) ∧
        (4 ≤ data.length → ∀ rest, table.route (data.take 4 ++ rest) = table.route data) := by
  obtain ⟨herror, hok⟩ := ofList_eq_ofList descriptors
  refine ⟨exists_error_iff, fun clash => ofList_eq_error_iff_isFirstRepeat, herror, ?_⟩
  intro table h
  refine ⟨hok table h, fun data => ⟨route_of_short, ?_, ?_, route_take_append⟩⟩
  · obtain ⟨-, rfl⟩ := ofList_eq_ok_iff.mp h
    intro place hdata
    refine ⟨route_eq_ok_iff_mem.mpr ⟨List.getElem_mem _, hdata⟩, fun other hother => ?_⟩
    exact table.selector_injective (Selector.ext (hother.symm.trans hdata))
  · obtain ⟨-, rfl⟩ := ofList_eq_ok_iff.mp h
    intro hlong hunknown
    obtain ⟨selector, hselector⟩ := Selector.exists_octets_eq hlong
    refine ⟨selector, hselector.symm, route_of_unknown hselector fun descriptor hmem => ?_⟩
    obtain ⟨place, hplace, rfl⟩ := List.mem_iff_getElem.mp hmem
    exact hunknown ⟨place, hplace⟩

end RoutingTable

end StakingGateway
