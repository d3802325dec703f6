import Mathlib.Algebra.BigOperators.Group.List.Basic
import Mathlib.Algebra.Ring.Nat
import StakingGateway.Proofs.Store.SortedMaps

/-!
# Totals over Sorted Maps

The entries of a map have weights, and the total of the map is the sum of them. A change of one
entry changes the total by the weight of what it puts and the weight of what was there before
(`ByteMap.total_insert`, `ByteMap.total_erase`). Both are stated without a subtraction, and both
come from the same fact: but for their order, the entries are that of the key and those of the other
keys.

## Main definitions

* `ByteMap.total`: the sum of the weights of all entries.
* `ByteMap.weightAt`: the part of the total that a key accounts for.

## Main statements

* `ByteMap.total_insert`, `ByteMap.total_erase`: totals after a change of one entry.
-/

namespace StakingGateway.ByteMap

variable {α : Type}

/-- The sum of the weights of all entries. -/
def total (weight : Bytes → α → Nat) (m : ByteMap α) : Nat :=
  (m.entries.map fun entry => weight entry.1 entry.2).sum

/-- The weight of what is under the key; nothing weighs nothing. -/
def weightAt (weight : Bytes → α → Nat) (m : ByteMap α) (key : Bytes) : Nat :=
  (m.get? key).elim 0 (weight key)

/-- No entry is listed twice. -/
theorem nodup_entries (m : ByteMap α) : m.entries.Nodup :=
  m.nodup_keys.of_map _

/-- A key that has been deleted is not listed. -/
theorem not_mem_erase (m : ByteMap α) (key : Bytes) (value : α) :
    (key, value) ∉ (m.erase key).entries := by
  rw [← get?_eq_some_iff, get?_erase, if_pos rfl]
  exact Option.some_ne_none value ∘ Eq.symm

/-- The entry of a key and the entries of the others are all entries. -/
theorem perm_of_get?_eq_some {m : ByteMap α} {key : Bytes} {value : α}
    (h : m.get? key = some value) : m.entries.Perm ((key, value) :: (m.erase key).entries) := by
  rw [List.perm_ext_iff_of_nodup m.nodup_entries
    (List.nodup_cons.mpr ⟨m.not_mem_erase key value, (m.erase key).nodup_entries⟩)]
  rintro ⟨other, found⟩
  rw [List.mem_cons, ← get?_eq_some_iff, ← get?_eq_some_iff, get?_erase, Prod.mk.injEq]
  split
  · next heq => simp [heq, h, eq_comm]
  · next hne => simp [hne]

/-- After an insertion as well. -/
theorem perm_insert (m : ByteMap α) (key : Bytes) (value : α) :
    (m.insert key value).entries.Perm ((key, value) :: (m.erase key).entries) := by
  have herase : (m.insert key value).erase key = m.erase key := by
    refine ext_get? fun other => ?_
    rw [get?_erase, get?_erase, get?_insert]
    split
    · rfl
    · rfl
  rw [← herase]
  exact perm_of_get?_eq_some (by rw [get?_insert, if_pos rfl])

/-- Deleting a key that is not there changes nothing. -/
theorem erase_of_get?_eq_none {m : ByteMap α} {key : Bytes} (h : m.get? key = none) :
    m.erase key = m := by
  refine ext_get? fun other => ?_
  rw [get?_erase]
  split
  · next heq => rw [heq, h]
  · rfl

/-- **A deletion takes the weight of its key** from the total. -/
theorem total_erase (weight : Bytes → α → Nat) (m : ByteMap α) (key : Bytes) :
    (m.erase key).total weight + m.weightAt weight key = m.total weight := by
  rw [weightAt]
  cases h : m.get? key with
  | none => rw [erase_of_get?_eq_none h, Option.elim_none, Nat.add_zero]
  | some value =>
      have hperm := (perm_of_get?_eq_some h).map fun entry => weight entry.1 entry.2
      rw [total, total, hperm.sum_eq, List.map_cons, List.sum_cons, Option.elim_some, Nat.add_comm]

/-- **An insertion puts its weight in the place of the weight of its key.** -/
theorem total_insert (weight : Bytes → α → Nat) (m : ByteMap α) (key : Bytes) (value : α) :
    (m.insert key value).total weight + m.weightAt weight key =
      m.total weight + weight key value := by
  have hperm := (m.perm_insert key value).map fun entry => weight entry.1 entry.2
  have hinsert : (m.insert key value).total weight =
      weight key value + (m.erase key).total weight := by
    rw [total, hperm.sum_eq, List.map_cons, List.sum_cons, ← total]
  have herase := m.total_erase weight key
  omega

end StakingGateway.ByteMap
