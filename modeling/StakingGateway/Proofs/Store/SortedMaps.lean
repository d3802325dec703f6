import Mathlib.Data.List.Sort
import StakingGateway.Store.ByteMap

/-!
# Sorted Maps by Their Values

A sorted map is determined by the value of each key (`ByteMap.ext_get?`), and each operation on
maps is described by the values that it leaves: `ByteMap.get?_insert`, `ByteMap.get?_erase` and
`ByteMap.get?_restrict`. Everything about stores is then proved key by key, without a look at the
order of entries.

The order matters in one place. `ByteMap.restrict` skips the keys that stand before the common
start and stops at the first key that does not continue it. Nothing is lost by that, because the
keys with a common start lie next to each other and none of them stands before it
(`ByteMap.startingWith_eq_filter`).

## Main statements

* `ByteMap.get?_eq_some_iff`: the value of a key is the value it is listed with.
* `ByteMap.ext_get?`: maps with the same values are equal.
* `ByteMap.startingWith_eq_filter`: stopping early loses no key.
* `ByteMap.get?_insert`, `ByteMap.get?_erase`, `ByteMap.get?_restrict`: values after operations.
* `ByteMap.get?_foldl`: values after a whole map of changes.
-/

namespace StakingGateway

/-! ### Keys with a common start -/

namespace Bytes

/-- No key stands before what it starts with. -/
theorem not_before_of_starts {start key : Bytes} (h : start <+: key) : ¬ Before key start := by
  induction start generalizing key with
  | nil => exact not_before_nil key
  | cons octet start ih =>
      obtain ⟨rest, rfl⟩ := h
      rw [List.cons_append, cons_before_cons]
      rintro (hlt | ⟨-, hbefore⟩)
      · exact lt_irrefl _ hlt
      · exact ih (List.prefix_append start rest) hbefore

/-- Behind a key that neither stands before the start nor continues it, no key continues it. -/
theorem not_starts_of_before {start key later : Bytes} (hkey : ¬ Before key start)
    (hstarts : ¬ start <+: key) (hlater : Before key later) : ¬ start <+: later := by
  induction start generalizing key later with
  | nil => exact absurd List.nil_prefix hstarts
  | cons octet start ih =>
      rintro ⟨rest, rfl⟩
      rw [List.cons_append] at hlater
      cases key with
      | nil => exact hkey (nil_before_cons octet start)
      | cons first key =>
          rw [cons_before_cons] at hkey hlater
          rw [List.cons_prefix_cons] at hstarts
          rcases hlater with hlt | ⟨rfl, hbefore⟩
          · exact hkey (.inl hlt)
          · have hrest : ¬ Before key start := fun h => hkey (.inr ⟨rfl, h⟩)
            have hstart : ¬ start <+: key := fun h => hstarts ⟨rfl, h⟩
            exact ih hrest hstart hbefore (List.prefix_append start rest)

end Bytes

namespace ByteMap

variable {α : Type}

/-! ### Values and entries -/

/-- No key is listed twice. -/
theorem nodup_keys (m : ByteMap α) : (m.entries.map (·.1)).Nodup := by
  rw [List.Nodup, List.pairwise_map]
  refine m.sorted.imp ?_
  intro a b hbefore heq
  rw [heq] at hbefore
  exact Bytes.not_before_self b.1 hbefore

/-- Entries with one key are one entry. -/
theorem eq_of_mem_entries {m : ByteMap α} {key : Bytes} {v w : α} (hv : (key, v) ∈ m.entries)
    (hw : (key, w) ∈ m.entries) : v = w :=
  (Prod.mk.inj (List.inj_on_of_nodup_map m.nodup_keys hv hw rfl)).2

/-- The value of a key is the value that it is listed with. -/
theorem get?_eq_some_iff {m : ByteMap α} {key : Bytes} {value : α} :
    m.get? key = some value ↔ (key, value) ∈ m.entries := by
  rw [get?, Option.map_eq_some_iff]
  constructor
  · rintro ⟨⟨found, v⟩, hfind, rfl⟩
    obtain rfl : found = key := by simpa using List.find?_some hfind
    exact List.mem_of_find?_eq_some hfind
  · intro hmem
    have hsome : (m.entries.find? fun entry => entry.1 == key).isSome = true := by
      rw [List.find?_isSome]
      exact ⟨(key, value), hmem, by simp⟩
    obtain ⟨⟨found, v⟩, hfind⟩ := Option.isSome_iff_exists.mp hsome
    obtain rfl : found = key := by simpa using List.find?_some hfind
    exact ⟨_, hfind, eq_of_mem_entries (List.mem_of_find?_eq_some hfind) hmem⟩

/-- A key has no value exactly if it is not listed. -/
theorem get?_eq_none_iff {m : ByteMap α} {key : Bytes} :
    m.get? key = none ↔ ∀ value, (key, value) ∉ m.entries := by
  rw [Option.eq_none_iff_forall_ne_some]
  exact forall_congr' fun value => not_congr get?_eq_some_iff

/-- Maps with the same values are equal. -/
theorem ext_get? {m₁ m₂ : ByteMap α} (h : ∀ key, m₁.get? key = m₂.get? key) : m₁ = m₂ := by
  have hirrefl : Std.Irrefl fun a b : Bytes × α => Bytes.Before a.1 b.1 :=
    ⟨fun a => Bytes.not_before_self a.1⟩
  have hasymm : Std.Antisymm fun a b : Bytes × α => Bytes.Before a.1 b.1 :=
    ⟨fun a b hab hba => absurd (hab.trans hba) (Bytes.not_before_self a.1)⟩
  refine ByteMap.ext (m₁.sorted.eq_of_mem_iff m₂.sorted ?_)
  rintro ⟨key, value⟩
  rw [← get?_eq_some_iff, ← get?_eq_some_iff, h]

/-! ### Changing one entry -/

/-- After an insertion the new entry is listed, and the entries of the other keys. -/
theorem mem_insertEntry_iff {key : Bytes} {value : α} {entries : List (Bytes × α)}
    (hsorted : entries.Pairwise fun a b => Bytes.Before a.1 b.1) {entry : Bytes × α} :
    entry ∈ insertEntry key value entries ↔
      entry = (key, value) ∨ entry ∈ entries ∧ entry.1 ≠ key := by
  induction entries with
  | nil => simp [insertEntry]
  | cons first entries ih =>
      obtain ⟨hfirst, hentries⟩ := List.pairwise_cons.mp hsorted
      have hbehind : ∀ other ∈ entries, Bytes.Before key first.1 ∨ key = first.1 →
          other.1 ≠ key := by
        rintro other hother hkey rfl
        have hother' := hfirst other hother
        rcases hkey with hkey | hkey
        · exact Bytes.not_before_self _ (hkey.trans hother')
        · exact Bytes.not_before_self _ (hkey ▸ hother')
      unfold insertEntry
      split
      · next hbefore =>
          have hne : first.1 ≠ key := fun heq => Bytes.not_before_self _ (heq ▸ hbefore)
          rw [List.mem_cons, ih hentries, List.mem_cons]
          constructor
          · rintro (rfl | rfl | ⟨hmem, hother⟩)
            · exact .inr ⟨.inl rfl, hne⟩
            · exact .inl rfl
            · exact .inr ⟨.inr hmem, hother⟩
          · rintro (rfl | ⟨rfl | hmem, hother⟩)
            · exact .inr (.inl rfl)
            · exact .inl rfl
            · exact .inr (.inr ⟨hmem, hother⟩)
      · next hbefore =>
          split
          · next heq =>
              rw [List.mem_cons, List.mem_cons]
              constructor
              · rintro (rfl | hmem)
                · exact .inl rfl
                · exact .inr ⟨.inr hmem, hbehind entry hmem (.inr heq)⟩
              · rintro (rfl | ⟨rfl | hmem, hother⟩)
                · exact .inl rfl
                · exact absurd heq.symm hother
                · exact .inr hmem
          · next hne =>
              have hkey : Bytes.Before key first.1 := by
                rcases Bytes.before_or_eq_or_before key first.1 with h | h | h
                · exact h
                · exact absurd h hne
                · exact absurd h hbefore
              rw [List.mem_cons, List.mem_cons]
              constructor
              · rintro (rfl | rfl | hmem)
                · exact .inl rfl
                · exact .inr ⟨.inl rfl, Ne.symm hne⟩
                · exact .inr ⟨.inr hmem, hbehind entry hmem (.inl hkey)⟩
              · rintro (rfl | ⟨hmem, -⟩)
                · exact .inl rfl
                · exact .inr hmem

/-- An insertion changes the value of its key and of no other one. -/
theorem get?_insert (m : ByteMap α) (key other : Bytes) (value : α) :
    (m.insert key value).get? other = if other = key then some value else m.get? other := by
  refine Option.ext fun found => ?_
  rw [get?_eq_some_iff, insert, mem_insertEntry_iff m.sorted, Prod.mk.injEq]
  split
  · next heq => simp [heq, eq_comm]
  · next hne => simp [hne, get?_eq_some_iff]

/-- A deletion takes the value of its key and of no other one. -/
theorem get?_erase (m : ByteMap α) (key other : Bytes) :
    (m.erase key).get? other = if other = key then none else m.get? other := by
  refine Option.ext fun found => ?_
  rw [get?_eq_some_iff, erase, List.mem_filter]
  split
  · next heq => simp [heq]
  · next hne => simp [hne, get?_eq_some_iff]

/-- An insertion takes the place of one before it. -/
theorem insert_insert (m : ByteMap α) (key : Bytes) (one other : α) :
    (m.insert key one).insert key other = m.insert key other := by
  refine ext_get? fun found => ?_
  rw [get?_insert, get?_insert, get?_insert]
  split
  · rfl
  · rfl

/-- The order of insertions under two keys does not matter. -/
theorem insert_comm (m : ByteMap α) {key other : Bytes} (h : key ≠ other) (v w : α) :
    (m.insert key v).insert other w = (m.insert other w).insert key v := by
  refine ext_get? fun found => ?_
  rw [get?_insert, get?_insert, get?_insert, get?_insert]
  by_cases hkey : found = key
  · rw [if_pos hkey, if_neg (hkey ▸ h), if_pos hkey]
  · rw [if_neg hkey, if_neg hkey]

/-! ### Changing many entries -/

section Foldl

variable {β : Type} {change : ByteMap α → Bytes × β → ByteMap α} {newValue : β → Option α}
  (hchange : ∀ m entry key, (change m entry).get? key =
    if key = entry.1 then newValue entry.2 else m.get? key)

include hchange

/-- Changes of other keys do not matter. -/
theorem get?_foldl_of_not_mem {entries : List (Bytes × β)} {key : Bytes}
    (h : key ∉ entries.map (·.1)) (m : ByteMap α) :
    (entries.foldl change m).get? key = m.get? key := by
  induction entries generalizing m with
  | nil => rfl
  | cons entry entries ih =>
      rw [List.map_cons, List.mem_cons, not_or] at h
      rw [List.foldl_cons, ih h.2, hchange, if_neg h.1]

/-- The change of a key is made whatever the other changes are. -/
theorem get?_foldl_of_mem {entries : List (Bytes × β)} {key : Bytes} {value : β}
    (hnodup : (entries.map (·.1)).Nodup) (h : (key, value) ∈ entries) (m : ByteMap α) :
    (entries.foldl change m).get? key = newValue value := by
  induction entries generalizing m with
  | nil => cases h
  | cons entry entries ih =>
      obtain ⟨hfirst, hnodup⟩ := List.nodup_cons.mp hnodup
      rw [List.foldl_cons]
      rcases List.mem_cons.mp h with rfl | h
      · rw [get?_foldl_of_not_mem hchange hfirst, hchange, if_pos rfl]
      · exact ih hnodup h _

/-- After changes a changed key has its new value, and every other key its old one. -/
theorem get?_foldl (changes : ByteMap β) (m : ByteMap α) (key : Bytes) :
    (changes.entries.foldl change m).get? key =
      (changes.get? key).elim (m.get? key) newValue := by
  cases hkey : changes.get? key with
  | none =>
      have hmem : key ∉ changes.entries.map (·.1) := by
        intro hmem
        obtain ⟨⟨found, value⟩, hentry, rfl⟩ := List.mem_map.mp hmem
        exact get?_eq_none_iff.mp hkey value hentry
      exact get?_foldl_of_not_mem hchange hmem m
  | some value =>
      exact get?_foldl_of_mem hchange changes.nodup_keys (get?_eq_some_iff.mp hkey) m

end Foldl

/-! ### Keys with a common start -/

/-- Among keys in order, none of which stands before the start, those that continue it come
first. -/
theorem takeWhile_eq_filter (start : Bytes) {entries : List (Bytes × α)}
    (hsorted : entries.Pairwise fun a b => Bytes.Before a.1 b.1)
    (hbehind : ∀ entry ∈ entries, ¬ Bytes.Before entry.1 start) :
    (entries.takeWhile fun entry => start.isPrefixOf entry.1) =
      entries.filter fun entry => start.isPrefixOf entry.1 := by
  induction entries with
  | nil => rfl
  | cons first entries ih =>
      obtain ⟨hfirst, hentries⟩ := List.pairwise_cons.mp hsorted
      obtain ⟨hstart, hbehind⟩ := List.forall_mem_cons.mp hbehind
      by_cases hstarts : start.isPrefixOf first.1 = true
      · simp only [List.takeWhile_cons, List.filter_cons, if_pos hstarts, ih hentries hbehind]
      · have hlater : ∀ entry ∈ entries, ¬ start.isPrefixOf entry.1 = true := by
          intro entry hentry h
          rw [List.isPrefixOf_iff_prefix] at hstarts h
          exact Bytes.not_starts_of_before hstart hstarts (hfirst entry hentry) h
        simp only [List.takeWhile_cons, List.filter_cons, if_neg hstarts,
          List.filter_eq_nil_iff.mpr hlater]

/-- **Stopping early loses no key**: what is found between the keys before the start and the
first key that does not continue it are all keys that continue it. -/
theorem startingWith_eq_filter (start : Bytes) {entries : List (Bytes × α)}
    (hsorted : entries.Pairwise fun a b => Bytes.Before a.1 b.1) :
    startingWith start entries = entries.filter fun entry => start.isPrefixOf entry.1 := by
  rw [startingWith]
  induction entries with
  | nil => rfl
  | cons first entries ih =>
      obtain ⟨hfirst, hentries⟩ := List.pairwise_cons.mp hsorted
      by_cases hbefore : Bytes.Before first.1 start
      · have hstarts : ¬ start.isPrefixOf first.1 = true := by
          rw [List.isPrefixOf_iff_prefix]
          exact fun h => Bytes.not_before_of_starts h hbefore
        simp only [List.dropWhile_cons, List.filter_cons, decide_eq_true_eq, if_pos hbefore,
          if_neg hstarts, ih hentries]
      · have hbehind : ∀ entry ∈ first :: entries, ¬ Bytes.Before entry.1 start :=
          List.forall_mem_cons.mpr
            ⟨hbefore, fun entry hentry h => hbefore ((hfirst entry hentry).trans h)⟩
        simp only [List.dropWhile_cons, decide_eq_true_eq, if_neg hbefore]
        exact takeWhile_eq_filter start hsorted hbehind

/-- The part of a map whose keys start with a string lists all entries of those keys. -/
theorem entries_restrict (m : ByteMap α) (start : Bytes) :
    (m.restrict start).entries = m.entries.filter fun entry => start.isPrefixOf entry.1 :=
  startingWith_eq_filter start m.sorted

/-- The part of a map whose keys start with a string has the values of those keys. -/
theorem get?_restrict (m : ByteMap α) (start key : Bytes) :
    (m.restrict start).get? key = if start <+: key then m.get? key else none := by
  refine Option.ext fun found => ?_
  rw [get?_eq_some_iff, entries_restrict, List.mem_filter, List.isPrefixOf_iff_prefix]
  split
  · next hstarts => simp [hstarts, get?_eq_some_iff]
  · next hstarts => simp [hstarts]

end ByteMap

end StakingGateway
