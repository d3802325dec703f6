import StakingGateway.Store.Order

/-!
# Sorted Maps

A map from octet strings is the list of its entries in the order of their keys. Being sorted
is part of the type, so a map has one representation, and a walk through the entries is a
walk through the keys in order.

The entries whose keys start with a given string lie next to each other, behind the keys that
stand before that string. `ByteMap.restrict` takes them by skipping the one part and reading
on until a key starts differently.

## Main definitions

* `ByteMap`: entries in the order of their keys.
* `ByteMap.get?`, `ByteMap.insert`, `ByteMap.erase`: the value of a key, and changing it.
* `ByteMap.restrict`: the part of a map whose keys start with a string.
-/

namespace StakingGateway

/-- A map from octet strings, as its entries in the order of their keys. -/
@[ext] structure ByteMap (α : Type) where
  /-- The entries. -/
  entries : List (Bytes × α)
  /-- Each key stands before the keys behind it. -/
  sorted : entries.Pairwise fun a b => Bytes.Before a.1 b.1

namespace ByteMap

variable {α : Type}

instance [DecidableEq α] : DecidableEq (ByteMap α) := fun m₁ m₂ =>
  decidable_of_iff (m₁.entries = m₂.entries) ByteMap.ext_iff.symm

/-- The map without entries. -/
def empty : ByteMap α := ⟨[], .nil⟩

instance : Inhabited (ByteMap α) := ⟨empty⟩

instance : EmptyCollection (ByteMap α) := ⟨empty⟩

/-- The number of entries. -/
def size (m : ByteMap α) : Nat := m.entries.length

/-- Whether there are no entries. -/
def isEmpty (m : ByteMap α) : Bool := m.entries.isEmpty

/-- The value of a key. -/
def get? (m : ByteMap α) (key : Bytes) : Option α :=
  (m.entries.find? fun entry => entry.1 == key).map (·.2)

/-! ### Changing one entry -/

/-- Puts an entry into its place, over the entry with the same key if there is one. -/
def insertEntry (key : Bytes) (value : α) : List (Bytes × α) → List (Bytes × α)
  | [] => [(key, value)]
  | entry :: entries =>
    if Bytes.Before entry.1 key then entry :: insertEntry key value entries
    else if key = entry.1 then (key, value) :: entries
    else (key, value) :: entry :: entries

theorem mem_insertEntry {key : Bytes} {value : α} {entries : List (Bytes × α)}
    {entry : Bytes × α} (h : entry ∈ insertEntry key value entries) :
    entry = (key, value) ∨ entry ∈ entries := by
  induction entries with
  | nil => simpa [insertEntry] using h
  | cons first entries ih =>
    unfold insertEntry at h
    split at h
    · rcases List.mem_cons.1 h with rfl | h
      · simp
      · rcases ih h with h | h <;> simp [h]
    · split at h <;> rcases List.mem_cons.1 h with rfl | h <;> simp_all

theorem sorted_insertEntry (key : Bytes) (value : α) {entries : List (Bytes × α)}
    (h : entries.Pairwise fun a b => Bytes.Before a.1 b.1) :
    (insertEntry key value entries).Pairwise fun a b => Bytes.Before a.1 b.1 := by
  induction entries with
  | nil => simp [insertEntry]
  | cons first entries ih =>
    have ⟨hfirst, hentries⟩ := List.pairwise_cons.1 h
    unfold insertEntry
    split
    · next hbefore =>
      refine List.pairwise_cons.2 ⟨fun entry hentry => ?_, ih hentries⟩
      rcases mem_insertEntry hentry with rfl | hentry
      · exact hbefore
      · exact hfirst entry hentry
    · next hbefore =>
      split
      · next heq => exact List.pairwise_cons.2 ⟨fun entry hentry =>
          heq ▸ hfirst entry hentry, hentries⟩
      · next hne =>
        have hkey : Bytes.Before key first.1 := by
          rcases Bytes.before_or_eq_or_before key first.1 with h | h | h
          · exact h
          · exact absurd h hne
          · exact absurd h hbefore
        refine List.pairwise_cons.2 ⟨fun entry hentry => ?_, h⟩
        rcases List.mem_cons.1 hentry with rfl | hentry
        · exact hkey
        · exact hkey.trans (hfirst entry hentry)

/-- The map with the key at the value. -/
def insert (m : ByteMap α) (key : Bytes) (value : α) : ByteMap α :=
  ⟨insertEntry key value m.entries, sorted_insertEntry key value m.sorted⟩

/-- The map without the key. -/
def erase (m : ByteMap α) (key : Bytes) : ByteMap α :=
  ⟨m.entries.filter fun entry => entry.1 != key, m.sorted.filter _⟩

/-- The map of the entries, inserted one after the other. -/
def ofList (entries : List (Bytes × α)) : ByteMap α :=
  entries.foldl (fun m entry => m.insert entry.1 entry.2) empty

/-! ### Keys with a common start -/

/-- The entries whose keys start with the string, out of entries in order. -/
def startingWith (start : Bytes) (entries : List (Bytes × α)) : List (Bytes × α) :=
  (entries.dropWhile fun entry => decide (Bytes.Before entry.1 start)).takeWhile
    fun entry => start.isPrefixOf entry.1

/-- The part of the map whose keys start with the string. -/
def restrict (m : ByteMap α) (start : Bytes) : ByteMap α :=
  ⟨startingWith start m.entries, m.sorted.sublist <|
    (List.takeWhile_sublist _).trans (List.dropWhile_sublist _)⟩

end ByteMap

end StakingGateway
