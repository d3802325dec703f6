import Mathlib.Data.List.Induction
import Mathlib.Logic.Function.Iterate
import StakingGateway.Proofs.Store.Layers

/-!
# Stacks of Layers

Layers are put one over the other, and each is worked on while it is the uppermost one. However
many there are and whatever was done in them, the stack answers every question, at any later time
too, as a plain store does in which all of it was done (`LayeredStore.performAll_fst`). That store
can be had in three ways: by making the changes of the layers in the bottom store, from the lowest
layer up; by merging layer after layer into the one below, from the uppermost one down; and by
doing in the bottom store what was done in the layers. The second way makes changes of changes, so
changes compose (`ChangeSet.andThen`), and merging twice is making the composed changes once
(`LayeredStore.merge_merge`).

## Main definitions

* `StoreOperation`, `StoreAnswer`: what can be done with a store, and what it answers.
* `LayeredStore.perform`, `Store.perform`: an operation on a store with layers, and on one without.
* `LayeredStore.stack`: the layers that are left by work in one layer over the other.
* `LayeredStore.changeSets`: the changes of all layers.

## Main statements

* `LayeredStore.performAll_fst`: layers answer as their contents do.
* `LayeredStore.merge_merge`, `LayeredStore.merge_iterate`: merging layer after layer.
* `LayeredStore.stack_reads_as_applied`: a stack reads as if its changes were made.
-/

namespace StakingGateway

/-! ### Changes of changes -/

namespace ChangeSet

/-- The changes, and after them others. -/
def andThen (changes later : ChangeSet) : ChangeSet :=
  later.entries.foldl (fun changes change => changes.insert change.1 change.2) changes

/-- A key is changed as the later changes say, or else as the earlier ones do. -/
theorem get?_andThen (changes later : ChangeSet) (key : Bytes) :
    (changes.andThen later).get? key = (later.get? key).or (changes.get? key) := by
  have hinsert (changes : ChangeSet) (change : Bytes × Option Bytes) (key : Bytes) :
      (changes.insert change.1 change.2).get? key =
        if key = change.1 then some change.2 else changes.get? key :=
    ByteMap.get?_insert changes change.1 key change.2
  rw [andThen, ByteMap.get?_foldl hinsert]
  cases later.get? key with
  | none => rfl
  | some change => rfl

/-- Changes can be composed in any grouping. -/
theorem andThen_assoc (first second third : ChangeSet) :
    (first.andThen second).andThen third = first.andThen (second.andThen third) := by
  refine ByteMap.ext_get? fun key => ?_
  rw [get?_andThen, get?_andThen, get?_andThen, get?_andThen, Option.or_assoc]

/-- Recording one more change is composing with it at the end. -/
theorem andThen_insert (changes later : ChangeSet) (key : Bytes) (value : Option Bytes) :
    changes.andThen (later.insert key value) = (changes.andThen later).insert key value := by
  refine ByteMap.ext_get? fun other => ?_
  rw [get?_andThen, ByteMap.get?_insert, ByteMap.get?_insert, get?_andThen]
  split
  · rfl
  · rfl

end ChangeSet

/-- Composed changes are made one after the other. -/
theorem Store.apply_andThen (store : Store) (changes later : ChangeSet) :
    store.apply (changes.andThen later) = (store.apply changes).apply later := by
  refine ByteMap.ext_get? fun key => ?_
  rw [get?_apply, ChangeSet.get?_andThen, get?_apply, get?_apply]
  cases later.get? key with
  | none => rfl
  | some change => rfl

/-! ### Merging -/

namespace LayeredStore

/-- Without layers, changes are made in the store. -/
theorem apply_base (store : Store) (changes : ChangeSet) :
    (base store).apply changes = base (store.apply changes) := by
  rw [apply, Store.apply]
  induction changes.entries generalizing store with
  | nil => rfl
  | cons change changes ih => exact ih (store.write change.1 change.2)

/-- In a layer, changes come after those that the layer has. -/
theorem apply_layer (below : LayeredStore) (changes later : ChangeSet) :
    (layer below changes).apply later = layer below (changes.andThen later) := by
  rw [apply, ChangeSet.andThen]
  induction later.entries generalizing changes with
  | nil => rfl
  | cons change later ih => exact ih (changes.insert change.1 change.2)

/-- Composed changes are made one after the other. -/
theorem apply_andThen (layers : LayeredStore) (changes later : ChangeSet) :
    layers.apply (changes.andThen later) = (layers.apply changes).apply later := by
  cases layers with
  | base store => rw [apply_base, apply_base, apply_base, Store.apply_andThen]
  | layer below before =>
      rw [apply_layer, apply_layer, apply_layer, ChangeSet.andThen_assoc]

/-- Recording one more change is making it after the others. -/
theorem apply_insert (layers : LayeredStore) (changes : ChangeSet) (key : Bytes)
    (value : Option Bytes) :
    layers.apply (changes.insert key value) = (layers.apply changes).write key value := by
  cases layers with
  | base store =>
      rw [apply_base, apply_base, Store.apply_insert]
      rfl
  | layer below before =>
      rw [apply_layer, apply_layer, ChangeSet.andThen_insert]
      rfl

/-- **Merging twice is making the changes one after the other**: those of the lower layer, and
then those of the upper one. -/
theorem merge_merge (below : LayeredStore) (outer inner : ChangeSet) :
    ((below.layer outer).layer inner).merge.merge = (below.apply outer).apply inner := by
  rw [← apply_andThen]
  show ((below.layer outer).apply inner).merge = _
  rw [apply_layer]
  rfl

/-! ### Change sets -/

/-- The store that lies below all layers. -/
def bottom : LayeredStore → Store
  | base store => store
  | layer below _ => below.bottom

/-- The changes of the layers, from the lowest one up. -/
def changeSets : LayeredStore → List ChangeSet
  | base _ => []
  | layer below changes => below.changeSets ++ [changes]

/-- The contents are the bottom store after the changes of one layer after the other. -/
theorem contents_eq_foldl (layers : LayeredStore) :
    layers.contents = layers.changeSets.foldl Store.apply layers.bottom := by
  induction layers with
  | base store => rfl
  | layer below changes ih =>
      rw [contents, changeSets, List.foldl_append, ih]
      rfl

/-- Writing leaves the number of layers as it is. -/
theorem length_changeSets_write (layers : LayeredStore) (key : Bytes) (value : Option Bytes) :
    (layers.write key value).changeSets.length = layers.changeSets.length := by
  cases layers with
  | base store => rfl
  | layer below changes =>
      rw [write, changeSets, changeSets, List.length_append, List.length_append]
      rfl

/-- Making changes leaves the number of layers as it is. -/
theorem length_changeSets_apply (layers : LayeredStore) (changes : ChangeSet) :
    (layers.apply changes).changeSets.length = layers.changeSets.length := by
  rw [apply]
  induction changes.entries generalizing layers with
  | nil => rfl
  | cons change changes ih => rw [List.foldl_cons, ih, length_changeSets_write]

/-- **Merging layer after layer** into the one below, from the uppermost one down, leaves a store
without layers, which is the contents. -/
theorem merge_iterate {layers : LayeredStore} {count : Nat}
    (hcount : layers.changeSets.length = count) :
    merge^[count] layers = base layers.contents := by
  induction count generalizing layers with
  | zero =>
      cases layers with
      | base store => rfl
      | layer below changes =>
          rw [changeSets, List.length_append] at hcount
          exact absurd hcount (Nat.succ_ne_zero _)
  | succ count ih =>
      cases layers with
      | base store => exact absurd hcount (Nat.zero_ne_add_one count)
      | layer below changes =>
          rw [changeSets, List.length_append] at hcount
          have hmerge : (below.apply changes).changeSets.length = count := by
            rw [length_changeSets_apply]
            exact Nat.succ.inj hcount
          rw [Function.iterate_succ_apply]
          exact (ih hmerge).trans (congrArg base (contents_apply below changes))

end LayeredStore

/-! ### Operations -/

/-- What can be done with a store, whether it has layers or not. -/
inductive StoreOperation where
  /-- Reads a key. -/
  | get (key : Bytes)
  /-- Asks whether a key has a value. -/
  | has (key : Bytes)
  /-- Reads all keys that start with a string, in order. -/
  | scan (start : Bytes)
  /-- Puts a value under a key. -/
  | set (key value : Bytes)
  /-- Deletes a key. -/
  | delete (key : Bytes)
  /-- Makes all changes. -/
  | apply (changes : ChangeSet)

/-- What a store answers to an operation. -/
inductive StoreAnswer where
  /-- The value read. -/
  | value (found : Option Bytes)
  /-- Whether there is a value. -/
  | presence (found : Bool)
  /-- The entries of a scan. -/
  | entries (found : List (Bytes × Bytes))
  /-- Something was written or deleted. -/
  | done
deriving DecidableEq

namespace Store

/-- The answer of the store to the operation, and the store afterwards. -/
def perform (store : Store) : StoreOperation → StoreAnswer × Store
  | .get key => (.value (store.get? key), store)
  | .has key => (.presence (store.get? key).isSome, store)
  | .scan start => (.entries (ByteMap.restrict store start).entries, store)
  | .set key value => (.done, store.insert key value)
  | .delete key => (.done, store.erase key)
  | .apply changes => (.done, store.apply changes)

/-- The answers of the store to the operations, one after the other, and the store afterwards. -/
def performAll (store : Store) : List StoreOperation → List StoreAnswer × Store
  | [] => ([], store)
  | operation :: operations =>
    let (answer, store) := store.perform operation
    let (answers, store) := performAll store operations
    (answer :: answers, store)

/-- After work in two parts the store is as the second part leaves what the first one left. -/
theorem performAll_append_snd (store : Store) (operations later : List StoreOperation) :
    (store.performAll (operations ++ later)).2 =
      ((store.performAll operations).2.performAll later).2 := by
  induction operations generalizing store with
  | nil => rfl
  | cons operation operations ih => exact ih (store.perform operation).2

end Store

namespace LayeredStore

/-- The answer of the layers to the operation, and the layers afterwards. -/
def perform (layers : LayeredStore) : StoreOperation → StoreAnswer × LayeredStore
  | .get key => (.value (layers.get key), layers)
  | .has key => (.presence (layers.has key), layers)
  | .scan start => (.entries (layers.scan start).entries, layers)
  | .set key value => (.done, layers.set key value)
  | .delete key => (.done, layers.delete key)
  | .apply changes => (.done, layers.apply changes)

/-- The answers of the layers to the operations, one after the other, and the layers
afterwards. -/
def performAll (layers : LayeredStore) : List StoreOperation → List StoreAnswer × LayeredStore
  | [] => ([], layers)
  | operation :: operations =>
    let (answer, layers) := layers.perform operation
    let (answers, layers) := performAll layers operations
    (answer :: answers, layers)

/-- Layers answer an operation as their contents do, and it does the same to both. -/
theorem perform_eq (layers : LayeredStore) (operation : StoreOperation) :
    (layers.perform operation).1 = (layers.contents.perform operation).1 ∧
      (layers.perform operation).2.contents = (layers.contents.perform operation).2 := by
  cases operation with
  | get key => exact ⟨congrArg StoreAnswer.value (layers.get_eq key), rfl⟩
  | has key => exact ⟨congrArg StoreAnswer.presence (layers.has_eq key), rfl⟩
  | scan start =>
      have hanswer := congrArg (fun found : Store => StoreAnswer.entries found.entries)
        (layers.scan_eq start)
      exact ⟨hanswer, rfl⟩
  | set key value => exact ⟨rfl, layers.contents_write key (some value)⟩
  | delete key => exact ⟨rfl, layers.contents_write key none⟩
  | apply changes => exact ⟨rfl, layers.contents_apply changes⟩

/-- **Layers answer as their contents do**, to one operation after the other. -/
theorem performAll_fst (layers : LayeredStore) (operations : List StoreOperation) :
    (layers.performAll operations).1 = (layers.contents.performAll operations).1 := by
  induction operations generalizing layers with
  | nil => rfl
  | cons operation operations ih =>
      obtain ⟨hanswer, hcontents⟩ := layers.perform_eq operation
      simp only [performAll, Store.performAll, hanswer, ih, hcontents]

/-- What is done in layers is done to their contents. -/
theorem contents_performAll (layers : LayeredStore) (operations : List StoreOperation) :
    (layers.performAll operations).2.contents = (layers.contents.performAll operations).2 := by
  induction operations generalizing layers with
  | nil => rfl
  | cons operation operations ih =>
      obtain ⟨-, hcontents⟩ := layers.perform_eq operation
      simp only [performAll, Store.performAll, ih, hcontents]

/-- An operation leaves what lies below the uppermost layer as it is. -/
theorem below?_perform (layers : LayeredStore) (operation : StoreOperation) :
    (layers.perform operation).2.below? = layers.below? := by
  cases operation with
  | get | has | scan => rfl
  | set key value => exact layers.below?_write key (some value)
  | delete key => exact layers.below?_write key none
  | apply changes => exact layers.below?_apply changes

/-- Work in the uppermost layer leaves what lies below it as it is. -/
theorem below?_performAll (layers : LayeredStore) (operations : List StoreOperation) :
    (layers.performAll operations).2.below? = layers.below? := by
  induction operations generalizing layers with
  | nil => rfl
  | cons operation operations ih => exact (ih _).trans (layers.below?_perform operation)

/-! ### Stacks -/

/-- The layers that are left when layers are put one over the other and each of them is worked on
before the next one comes. The lists say what is done in each layer, from the lowest one up. -/
def stack (store : Store) (sessions : List (List StoreOperation)) : LayeredStore :=
  sessions.foldl (fun layers operations => (layers.push.performAll operations).2) (base store)

/-- One more layer over a stack. -/
theorem stack_concat (store : Store) (sessions : List (List StoreOperation))
    (operations : List StoreOperation) :
    stack store (sessions ++ [operations]) =
      ((stack store sessions).push.performAll operations).2 := by
  rw [stack, List.foldl_append]
  rfl

/-- A stack has a layer for each session, and lies over the store that it was put on. -/
theorem bottom_stack (store : Store) (sessions : List (List StoreOperation)) :
    (stack store sessions).bottom = store ∧
      (stack store sessions).changeSets.length = sessions.length := by
  induction sessions using List.reverseRecOn with
  | nil => exact ⟨rfl, rfl⟩
  | append_singleton sessions operations ih =>
      obtain ⟨hbottom, hlength⟩ := ih
      have hbelow := (stack store sessions).push.below?_performAll operations
      rw [stack_concat]
      cases htop : ((stack store sessions).push.performAll operations).2 with
      | base other =>
          rw [htop] at hbelow
          cases hbelow
      | layer below changes =>
          rw [htop] at hbelow
          obtain rfl : below = stack store sessions := Option.some.inj hbelow
          refine ⟨hbottom, ?_⟩
          rw [changeSets, List.length_append, List.length_append, hlength]
          rfl

/-- The contents of a stack are what all that was done in it makes of the store below. -/
theorem contents_stack (store : Store) (sessions : List (List StoreOperation)) :
    (stack store sessions).contents = (store.performAll sessions.flatten).2 := by
  induction sessions using List.reverseRecOn with
  | nil => rfl
  | append_singleton sessions operations ih =>
      rw [stack_concat, contents_performAll, contents_push, ih, List.flatten_append,
        Store.performAll_append_snd, List.flatten_singleton]

/-- A scan lists the keys with the start, in order and with the values that they have. -/
theorem mem_scan_iff (layers : LayeredStore) (start key value : Bytes) :
    (key, value) ∈ (layers.scan start).entries ↔ start <+: key ∧ layers.get key = some value := by
  rw [scan_eq, get_eq, ← ByteMap.get?_eq_some_iff, ByteMap.get?_restrict]
  split
  · next hstarts => exact (and_iff_right hstarts).symm
  · next hstarts => exact iff_of_false (fun h => nomatch h) fun h => hstarts h.1

/-- **A stack of layers reads as if its changes were made.** Put layers over a store, as many as
you like, and read, write, delete and make changes in each of them before the next one comes. What
the stack answers to reading a key, to asking for one and to a scan, now and after more work, is
what the store answers after the changes of the layers were made in it, from the lowest layer up,
and also after all that was done in the layers was done to it. Merging the layers one into the
other, from the uppermost one down, leaves that same store. What is done in a layer leaves what
lies below as it is, and a scan gives each key with the start that has a value once, in ascending
order, and no other key. -/
theorem stack_reads_as_applied (store : Store) (sessions : List (List StoreOperation)) :
    let layers := stack store sessions
    let applied := layers.changeSets.foldl Store.apply store
    (∀ key, layers.get key = applied.get? key ∧ layers.has key = (applied.get? key).isSome) ∧
    (∀ start, (layers.scan start).entries = (ByteMap.restrict applied start).entries) ∧
    (∀ operations, (layers.performAll operations).1 = (applied.performAll operations).1) ∧
    applied = (store.performAll sessions.flatten).2 ∧
    merge^[sessions.length] layers = base applied ∧
    (∀ (below : LayeredStore) (outer inner : ChangeSet),
      ((below.layer outer).layer inner).merge.merge = (below.apply outer).apply inner) ∧
    (∀ operations, (layers.push.performAll operations).2.below? = some layers) ∧
    ∀ start, (layers.scan start).entries.Pairwise (fun a b => Bytes.Before a.1 b.1) ∧
      ((layers.scan start).entries.map (·.1)).Nodup ∧
      ∀ key value, (key, value) ∈ (layers.scan start).entries ↔
        start <+: key ∧ layers.get key = some value := by
  intro layers applied
  obtain ⟨hbottom, hlength⟩ := bottom_stack store sessions
  have happlied : layers.contents = applied := by
    rw [contents_eq_foldl, hbottom]
  have hget (key : Bytes) : layers.get key = applied.get? key := happlied ▸ layers.get_eq key
  refine ⟨fun key => ⟨hget key, happlied ▸ layers.has_eq key⟩, ?_, ?_, ?_, ?_, merge_merge, ?_, ?_⟩
  · intro start
    rw [scan_eq, happlied]
  · intro operations
    rw [performAll_fst, happlied]
  · rw [← happlied, contents_stack]
  · rw [← happlied, merge_iterate hlength]
  · intro operations
    exact below?_performAll layers.push operations
  · intro start
    exact ⟨(layers.scan start).sorted, (layers.scan start).nodup_keys,
      layers.mem_scan_iff start⟩

/-- A value written over a deletion counts, and so does a deletion over a value. -/
example :
    let layers := stack (.ofList [([1], [0]), ([2], [0]), ([3], [0])])
      [[.delete [1], .delete [2]], [.set [2] [7], .delete [3]]]
    (layers.scan []).entries = [([2], [7])] := by decide

end LayeredStore

end StakingGateway
