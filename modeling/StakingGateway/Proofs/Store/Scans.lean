import StakingGateway.Proofs.Store.SortedMaps
import StakingGateway.Store.LayeredStore

/-!
# Scans

A scan of a store starts at the string that keys are to start with, and ends at the first key that
does not start with it. It gives all keys that do: none of them stands before the string, and none
stands behind a key that does not (`ByteMap.not_starts_of_mem_behind`). This holds of every string,
be it empty or the last one of its length, and of keys of any lengths. The order is that of lists
(`Bytes.before_iff_lt`).

## Main statements

* `Bytes.before_iff_lt`: keys are in lexicographic order.
* `ByteMap.mem_restrict_iff`: what is found are the entries whose keys have the start.
* `LayeredStore.scan_exact`: a scan finds what it should, in order.
-/

namespace StakingGateway

namespace Bytes

/-- Keys are in lexicographic order. -/
theorem before_iff_lt {a b : Bytes} : Before a b ↔ a < b := by
  induction a generalizing b with
  | nil => cases b <;> simp
  | cons x a ih =>
      cases b with
      | nil => simp
      | cons y b =>
          rw [cons_before_cons, List.cons_lt_cons_iff, ih, UInt8.lt_iff_toNat_lt]

end Bytes

namespace ByteMap

variable {α : Type}

/-- What is found are the entries whose keys have the start. -/
theorem mem_restrict_iff {m : ByteMap α} {start : Bytes} {entry : Bytes × α} :
    entry ∈ (m.restrict start).entries ↔ entry ∈ m.entries ∧ start <+: entry.1 := by
  rw [entries_restrict, List.mem_filter, List.isPrefixOf_iff_prefix]

/-- Behind the first entry at or behind the start whose key does not have it, none has. -/
theorem not_starts_of_mem_behind {m : ByteMap α} {start : Bytes} {front behind : List (Bytes × α)}
    {entry later : Bytes × α} (hentries : m.entries = front ++ entry :: behind)
    (hentry : ¬ entry.1 < start) (hstarts : ¬ start <+: entry.1) (hlater : later ∈ behind) :
    ¬ start <+: later.1 := by
  have hsorted := m.sorted
  rw [hentries, List.pairwise_append, List.pairwise_cons] at hsorted
  rw [← Bytes.before_iff_lt] at hentry
  exact Bytes.not_starts_of_before hentry hstarts (hsorted.2.1.1 later hlater)

end ByteMap

namespace LayeredStore

/-- **A scan finds what it should.** From a store it gives the entries whose keys start with the
string and no others, each of them once, in strictly ascending lexicographic order. That it starts
at the string loses no entry, for no key before the string starts with it. That it ends at the first
key that does not start with the string loses none either, for no key behind that one does. -/
theorem scan_exact (store : Store) (start : Bytes) :
    let found := ((base store).scan start).entries
    (∀ entry, entry ∈ found ↔ entry ∈ store.entries ∧ start <+: entry.1) ∧
    (found.map (·.1)).Nodup ∧
    (found.Pairwise fun a b => a.1 < b.1) ∧
    (∀ entry ∈ store.entries, entry.1 < start → ¬ start <+: entry.1) ∧
    ∀ front entry behind, store.entries = front ++ entry :: behind →
      ¬ entry.1 < start → ¬ start <+: entry.1 → ∀ later ∈ behind, ¬ start <+: later.1 := by
  intro found
  refine ⟨fun entry => ByteMap.mem_restrict_iff, ((base store).scan start).nodup_keys, ?_, ?_, ?_⟩
  · exact ((base store).scan start).sorted.imp fun hbefore => Bytes.before_iff_lt.mp hbefore
  · intro entry _ hbefore hstarts
    exact Bytes.not_before_of_starts hstarts (Bytes.before_iff_lt.mpr hbefore)
  · intro front entry behind hentries hentry hstarts later hlater
    exact ByteMap.not_starts_of_mem_behind hentries hentry hstarts hlater

/-- Keys that start with the greatest octet, one of them the string itself. -/
example :
    ((base (.ofList [([0xff], [1]), ([0xff, 0xff], [2]), ([0xfe, 0xff], [3]), ([], [4]),
      ([0xff, 0], [5])])).scan [0xff]).entries =
      [([0xff], [1]), ([0xff, 0], [5]), ([0xff, 0xff], [2])] := by decide

end LayeredStore

end StakingGateway
