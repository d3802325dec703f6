import StakingGateway.Failure
import StakingGateway.Interface.Method

/-!
# Routing

A routing table finds the descriptor of the method that call data name. A table is only made
of descriptors whose selectors all differ, so at most one of them fits.

## Main definitions

* `RoutingTable`: descriptors with different selectors.
* `RoutingTable.ofList`: the table of a list of descriptors, unless two share a selector.
* `RoutingTable.route`: the descriptor that call data ask for.
-/

namespace StakingGateway

/-- Two methods share a selector. -/
structure DuplicateSelector where
  /-- The selector. -/
  selector : Selector
  /-- The name of the method that is listed first. -/
  first : String
  /-- The name of the method that is listed after it. -/
  second : String
deriving DecidableEq

/-- The wording of the fault. -/
def DuplicateSelector.message (duplicate : DuplicateSelector) : String :=
  "selector " ++ duplicate.selector.toHex ++ " is shared by `" ++ duplicate.first ++
    "` and `" ++ duplicate.second ++ "`"

/-- Descriptors of which no two have the same selector. -/
structure RoutingTable where
  /-- The descriptors, in order. -/
  descriptors : List Descriptor
  /-- The selectors all differ. -/
  nodup_selectors : (descriptors.map (·.selector)).Nodup

namespace RoutingTable

/-- The first of the descriptors whose selector another one before it has, be that among
`earlier` or among the descriptors themselves. -/
def duplicate? (earlier : List Descriptor) : List Descriptor → Option DuplicateSelector
  | [] => none
  | descriptor :: others =>
    match earlier.find? fun other => other.selector = descriptor.selector with
    | some other => some ⟨descriptor.selector, other.name, descriptor.name⟩
    | none => duplicate? (earlier ++ [descriptor]) others

/-- Descriptors with different selectors, and behind them one whose selector none of them has. -/
theorem nodup_concat {earlier : List Descriptor} {descriptor : Descriptor}
    (hearlier : (earlier.map (·.selector)).Nodup)
    (hfind : (earlier.find? fun other => other.selector = descriptor.selector) = none) :
    ((earlier ++ [descriptor]).map (·.selector)).Nodup := by
  rw [List.map_append, List.nodup_append]
  refine ⟨hearlier, by simp, ?_⟩
  intro a ha b hb hab
  subst hab
  obtain ⟨other, hother, rfl⟩ := List.mem_map.1 ha
  simp only [List.map_cons, List.map_nil, List.mem_singleton] at hb
  simpa [hb] using List.find?_eq_none.1 hfind other hother

/-- Where no descriptor is found to repeat a selector, none does. -/
theorem nodup_of_duplicate?_eq_none {earlier descriptors : List Descriptor}
    (h : duplicate? earlier descriptors = none)
    (hearlier : (earlier.map (·.selector)).Nodup) :
    ((earlier ++ descriptors).map (·.selector)).Nodup := by
  induction descriptors generalizing earlier with
  | nil => simpa using hearlier
  | cons descriptor others ih =>
    rw [duplicate?] at h
    split at h
    · cases h
    · next hfind => simpa using ih h (nodup_concat hearlier hfind)

/-- The table of the descriptors, or the first selector that is met twice. -/
def ofList (descriptors : List Descriptor) : Except DuplicateSelector RoutingTable :=
  match h : duplicate? [] descriptors with
  | some duplicate => .error duplicate
  | none => .ok ⟨descriptors, nodup_of_duplicate?_eq_none h List.nodup_nil⟩

/-- The table of all methods. -/
def staking : RoutingTable where
  descriptors := Method.all.map Method.descriptor
  nodup_selectors := by decide

/-- The descriptor whose selector the call data start with. -/
def route (table : RoutingTable) (data : Bytes) : Except Failure Descriptor :=
  match Selector.ofData? data with
  | none => .error (.decode (.missingSelector data.length))
  | some selector =>
    match table.descriptors.find? fun descriptor => descriptor.selector = selector with
    | none => .error (.unknownMethod selector)
    | some descriptor => .ok descriptor

/-- The descriptor of a method, if the table has one. -/
def get? (table : RoutingTable) (method : Method) : Option Descriptor :=
  table.descriptors.find? fun descriptor => descriptor.method = method

end RoutingTable

end StakingGateway
