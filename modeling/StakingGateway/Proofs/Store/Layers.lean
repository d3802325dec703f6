import StakingGateway.Proofs.Store.SortedMaps
import StakingGateway.Store.LayeredStore

/-!
# Layers and Their Contents

A store with layers answers every question as the store that remains when all layers are merged:
its contents. Single keys and scans are read by different code, the one by asking layer after
layer, the other by making the changes of each layer in what was found below it; both are shown
to read the contents (`LayeredStore.get_eq`, `LayeredStore.scan_eq`), deleted keys included.
Writing changes the contents as it would change a store (`LayeredStore.contents_write`), and
putting a layer on or merging one leaves them as they are.

## Main statements

* `Store.get?_apply`: the values of a store after changes.
* `LayeredStore.get_eq`, `LayeredStore.scan_eq`: reading is reading the contents.
* `LayeredStore.contents_write`, `LayeredStore.contents_merge`: writing and merging.
* `LayeredStore.below?_write`: what lies below a layer stays as it is.
-/

namespace StakingGateway

/-! ### Changes -/

namespace Store

/-- A change sets the value of its key and of no other one. -/
theorem get?_write (store : Store) (key other : Bytes) (value : Option Bytes) :
    (store.write key value).get? other = if other = key then value else store.get? other := by
  cases value with
  | none => exact ByteMap.get?_erase store key other
  | some value => exact ByteMap.get?_insert store key other value

/-- After changes a changed key has its new value, and every other key its old one. -/
theorem get?_apply (store : Store) (changes : ChangeSet) (key : Bytes) :
    (store.apply changes).get? key = (changes.get? key).getD (store.get? key) := by
  have hwrite (store : Store) (change : Bytes × Option Bytes) (key : Bytes) :
      (store.write change.1 change.2).get? key =
        if key = change.1 then id change.2 else store.get? key :=
    get?_write store change.1 key change.2
  rw [apply, ByteMap.get?_foldl hwrite]
  cases changes.get? key with
  | none => rfl
  | some value => rfl

/-- Recording one more change is making it after the others. -/
theorem apply_insert (store : Store) (changes : ChangeSet) (key : Bytes) (value : Option Bytes) :
    store.apply (changes.insert key value) = (store.apply changes).write key value := by
  refine ByteMap.ext_get? fun other => ?_
  rw [get?_apply, get?_write, get?_apply, ByteMap.get?_insert]
  split
  · rfl
  · rfl

/-- Changes below a common start can be made in the part of the store below it. -/
theorem restrict_apply (store : Store) (changes : ChangeSet) (start : Bytes) :
    ByteMap.restrict (store.apply changes) start =
      Store.apply (ByteMap.restrict store start) (changes.restrict start) := by
  refine ByteMap.ext_get? fun key => ?_
  rw [ByteMap.get?_restrict, get?_apply, get?_apply, ByteMap.get?_restrict, ByteMap.get?_restrict]
  split
  · rfl
  · rfl

end Store

namespace LayeredStore

/-! ### Reading -/

/-- Reading a key through all layers is reading it in the contents. -/
theorem get_eq (layers : LayeredStore) (key : Bytes) :
    layers.get key = layers.contents.get? key := by
  induction layers with
  | base store => rfl
  | layer below changes ih =>
      rw [get, contents, Store.get?_apply, ih]
      cases changes.get? key with
      | none => rfl
      | some change => rfl

/-- Asking for a key through all layers is asking for it in the contents. -/
theorem has_eq (layers : LayeredStore) (key : Bytes) :
    layers.has key = (layers.contents.get? key).isSome := by
  rw [has, get_eq]

/-- Scanning through all layers is scanning the contents. -/
theorem scan_eq (layers : LayeredStore) (start : Bytes) :
    layers.scan start = layers.contents.restrict start := by
  induction layers with
  | base store => rfl
  | layer below changes ih => rw [scan, contents, ih, Store.restrict_apply]

/-! ### Writing -/

/-- Writing through layers is writing to the contents. -/
theorem contents_write (layers : LayeredStore) (key : Bytes) (value : Option Bytes) :
    (layers.write key value).contents = layers.contents.write key value := by
  cases layers with
  | base store => rfl
  | layer below changes => exact Store.apply_insert below.contents changes key value

/-- Making changes through layers is making them in the contents. -/
theorem contents_apply (layers : LayeredStore) (changes : ChangeSet) :
    (layers.apply changes).contents = layers.contents.apply changes := by
  rw [apply, Store.apply]
  induction changes.entries generalizing layers with
  | nil => rfl
  | cons change changes ih => rw [List.foldl_cons, ih, contents_write, List.foldl_cons]

/-! ### Layers -/

/-- A fresh layer changes nothing. -/
theorem contents_push (layers : LayeredStore) : layers.push.contents = layers.contents := rfl

/-- Merging the uppermost layer leaves the contents as they are. -/
theorem contents_merge (layers : LayeredStore) : layers.merge.contents = layers.contents := by
  cases layers with
  | base store => rfl
  | layer below changes => exact contents_apply below changes

/-! ### What lies below -/

/-- What the uppermost layer lies over, if there is a layer. -/
def below? : LayeredStore → Option LayeredStore
  | base _ => none
  | layer below _ => some below

/-- A store without anything below it has no layers. -/
theorem exists_eq_base {layers : LayeredStore} (h : layers.below? = none) :
    ∃ store, layers = base store := by
  cases layers with
  | base store => exact ⟨store, rfl⟩
  | layer below changes => cases h

/-- Taking the uppermost layer off uncovers what it lies over. -/
theorem drop_eq {layers below : LayeredStore} (h : layers.below? = some below) :
    layers.drop = below := by
  cases layers with
  | base store => cases h
  | layer below' changes => exact Option.some.inj h

/-- Merged are the changes of the uppermost layer into what it lies over. -/
theorem contents_eq {layers below : LayeredStore} (h : layers.below? = some below) :
    layers.contents = below.contents.apply layers.changes := by
  cases layers with
  | base store => cases h
  | layer below' changes =>
      obtain rfl : below' = below := Option.some.inj h
      rfl

/-- Writing leaves what lies below as it is. -/
theorem below?_write (layers : LayeredStore) (key : Bytes) (value : Option Bytes) :
    (layers.write key value).below? = layers.below? := by
  cases layers with
  | base store => rfl
  | layer below changes => rfl

/-- Making changes leaves what lies below as it is. -/
theorem below?_apply (layers : LayeredStore) (changes : ChangeSet) :
    (layers.apply changes).below? = layers.below? := by
  rw [apply]
  induction changes.entries generalizing layers with
  | nil => rfl
  | cons change changes ih => rw [List.foldl_cons, ih, below?_write]

end LayeredStore

end StakingGateway
