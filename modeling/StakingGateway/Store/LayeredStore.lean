import StakingGateway.Store.ByteMap

/-!
# Stores and Layers

The state of the staking module is a store: octets under keys. While a call runs, its changes
are kept apart from the store, in a layer over it that reads through to what lies below. A
layer can lie over another one. What lies below a layer changes only when the layer is merged
into it; a layer that is dropped leaves no trace.

## Main definitions

* `Store`, `ChangeSet`: values under keys, and changes to them, where `none` deletes.
* `Store.apply`: the store after the changes.
* `LayeredStore`: a store with any number of layers of changes over it.
* `LayeredStore.get`, `LayeredStore.scan`: reading through all layers.
* `LayeredStore.merge`, `LayeredStore.drop`: the two ways to end a layer.
-/

namespace StakingGateway

/-- Octets under keys. -/
abbrev Store := ByteMap Bytes

/-- Changes to a store: the new value of a key, or `none` where the key is deleted. -/
abbrev ChangeSet := ByteMap (Option Bytes)

/-- The store after one change. -/
def Store.write (store : Store) (key : Bytes) : Option Bytes → Store
  | some value => store.insert key value
  | none => store.erase key

/-- The store after the changes. -/
def Store.apply (store : Store) (changes : ChangeSet) : Store :=
  changes.entries.foldl (fun store change => store.write change.1 change.2) store

/-- A store with layers of changes over it. -/
inductive LayeredStore where
  /-- A store without layers. -/
  | base (store : Store)
  /-- A layer of changes. -/
  | layer (below : LayeredStore) (changes : ChangeSet)

namespace LayeredStore

/-! ### Reading -/

/-- The value under a key: what the uppermost layer that changes the key says, else what the
store holds. -/
def get : LayeredStore → Bytes → Option Bytes
  | base store, key => store.get? key
  | layer below changes, key =>
    match changes.get? key with
    | some change => change
    | none => below.get key

/-- Whether there is a value under a key. -/
def has (layers : LayeredStore) (key : Bytes) : Bool :=
  (layers.get key).isSome

/-- What is stored under keys that start with the string. -/
def scan : LayeredStore → (start : Bytes) → Store
  | base store, start => store.restrict start
  | layer below changes, start => (below.scan start).apply (changes.restrict start)

/-! ### Writing -/

/-- Records a change in the uppermost layer, or makes it in the store where there is none. -/
def write : LayeredStore → Bytes → Option Bytes → LayeredStore
  | base store, key, value => base (store.write key value)
  | layer below changes, key, value => layer below (changes.insert key value)

/-- Puts a value under a key. -/
def set (layers : LayeredStore) (key value : Bytes) : LayeredStore :=
  layers.write key (some value)

/-- Deletes a key. -/
def delete (layers : LayeredStore) (key : Bytes) : LayeredStore :=
  layers.write key none

/-- Makes all changes. -/
def apply (layers : LayeredStore) (changes : ChangeSet) : LayeredStore :=
  changes.entries.foldl (fun layers change => layers.write change.1 change.2) layers

/-! ### Layers -/

/-- Puts a layer without changes on top. -/
def push (layers : LayeredStore) : LayeredStore :=
  layer layers ∅

/-- The changes of the uppermost layer. -/
def changes : LayeredStore → ChangeSet
  | base _ => ∅
  | layer _ changes => changes

/-- Takes the uppermost layer off, its changes lost. -/
def drop : LayeredStore → LayeredStore
  | base store => base store
  | layer below _ => below

/-- Takes the uppermost layer off, its changes made in what lies below it. -/
def merge (layers : LayeredStore) : LayeredStore :=
  layers.drop.apply layers.changes

/-- The store that remains when all layers are merged. -/
def contents : LayeredStore → Store
  | base store => store
  | layer below changes => below.contents.apply changes

end LayeredStore

end StakingGateway
