import StakingGateway.Proofs.Execution.Snapshot
import StakingGateway.Proofs.Fallible

/-!
# What a Transition Does to a Store

A transition runs over layers, with a ledger, and leaves a log. Most of what there is to say about
one concerns none of these, but the store that it makes of the store it finds, and its result. That
is its effect (`Transition.effect`): a function from stores to stores that can fail, composed as the
program is (`Transition.effect_bind`).

A program is told the gas that it has consumed and can act on it. One that does not
(`Transition.GasBlind`) has its effect wherever it runs (`Transition.run_eq_effect`): over any
layers, at any cost, and so in a transaction of the gateway (`Executor.runMessage_eq_effect`).

## Main definitions

* `Transition.effect`: the result of a program, and the store that it leaves.
* `Transition.GasBlind`: programs that do not act on the gas that they consume.

## Main statements

* `Transition.effect_bind`: the effect of a program that goes on.
* `Transition.run_eq_effect`: programs have their effects wherever they run.
-/

namespace StakingGateway

namespace Transition

variable {α β : Type}

/-! ### Effects -/

/-- The result of the program and the store that it leaves, or its error. -/
def effect (block : Block) {α : Type} : Transition α → (depth : Nat) → Store →
    Except ModuleError (α × Store)
  | done result, _, store => .ok (result, store)
  | fail error, _, _ => .error error
  | get key next, depth, store => (next (store.get? key)).effect block depth store
  | has key next, depth, store => (next (store.get? key).isSome).effect block depth store
  | set key value next, depth, store => next.effect block depth (store.insert key value)
  | delete key next, depth, store => next.effect block depth (store.erase key)
  | scan start next, depth, store =>
    (next (store.restrict start).entries).effect block depth store
  | inspect next, depth, store => (next ⟨depth, block, 0⟩).effect block depth store
  | inner body next, depth, store =>
    if depth < maxInnerDepth then
      match body.effect block (depth + 1) store with
      | .ok (result, after) => (next (.ok result)).effect block depth after
      | .error error => (next (.error error)).effect block depth store
    else (next (.error (.innerDepth maxInnerDepth))).effect block depth store

variable (block : Block) (depth : Nat) (store : Store)

/-- **The effect of a program that goes on** is that of the first part and then that of the rest. -/
theorem effect_bind (program : Transition α) (rest : α → Transition β) :
    (program >>= rest).effect block depth store =
      program.effect block depth store >>= fun done => (rest done.1).effect block depth done.2 := by
  change (program.bind rest).effect block depth store = _
  induction program generalizing store with
  | done result => rfl
  | fail error => rfl
  | get key next ih => exact ih _ store rest
  | has key next ih => exact ih _ store rest
  | set key value next ih => exact ih _ rest
  | delete key next ih => exact ih _ rest
  | scan start next ih => exact ih _ store rest
  | inspect next ih => exact ih _ store rest
  | inner body next _ ih =>
      rw [Transition.bind, effect, effect]
      split
      · split
        · exact ih _ _ rest
        · exact ih _ _ rest
      · exact ih _ _ rest

/-- The parts of a program that succeeds succeed. -/
theorem effect_bind_eq_ok_iff {block : Block} {depth : Nat} {store after : Store}
    {program : Transition α} {rest : α → Transition β} {b : β} :
    (program >>= rest).effect block depth store = .ok (b, after) ↔
      ∃ a middle, program.effect block depth store = .ok (a, middle) ∧
        (rest a).effect block depth middle = .ok (b, after) := by
  rw [effect_bind, bind_eq_ok_iff]
  exact ⟨fun ⟨ended, h⟩ => ⟨ended.1, ended.2, h⟩, fun ⟨a, middle, h⟩ => ⟨(a, middle), h⟩⟩

/-- One part of a program that fails fails. -/
theorem effect_bind_eq_error_iff {block : Block} {depth : Nat} {store : Store}
    {program : Transition α} {rest : α → Transition β} {error : ModuleError} :
    (program >>= rest).effect block depth store = .error error ↔
      program.effect block depth store = .error error ∨
        ∃ a middle, program.effect block depth store = .ok (a, middle) ∧
          (rest a).effect block depth middle = .error error := by
  rw [effect_bind, bind_eq_error_iff]
  refine or_congr_right ?_
  exact ⟨fun ⟨ended, h⟩ => ⟨ended.1, ended.2, h⟩, fun ⟨a, middle, h⟩ => ⟨(a, middle), h⟩⟩

/-- A program that goes on from what has ended goes on with its answer and its store. -/
theorem effect_bind_of_ok {block : Block} {depth : Nat} {store middle : Store}
    {program : Transition α} {rest : α → Transition β} {a : α}
    (h : program.effect block depth store = .ok (a, middle)) :
    (program >>= rest).effect block depth store = (rest a).effect block depth middle := by
  rw [effect_bind, h, ok_bind]

@[simp] theorem effect_read (key : Bytes) :
    (read key).effect block depth store = .ok (store.get? key, store) := rfl

@[simp] theorem effect_put (key value : Bytes) :
    (put key value).effect block depth store = .ok ((), store.insert key value) := rfl

@[simp] theorem effect_remove (key : Bytes) :
    (remove key).effect block depth store = .ok ((), store.erase key) := rfl

@[simp] theorem effect_block :
    Transition.block.effect block depth store = .ok (block, store) := rfl

/-- A nested transaction at the outermost level has the effect of its body. -/
theorem effect_nested (body : Transition α) :
    (nested body).effect block 0 store = body.effect block 1 store := by
  rw [nested, effect, if_pos (by decide)]
  cases body.effect block (0 + 1) store with
  | ok done => rfl
  | error error => rfl

/-! ### Programs that do not act on gas -/

/-- The program does not act on the gas that it has consumed. -/
def GasBlind {α : Type} : Transition α → Prop
  | done _ => True
  | fail _ => True
  | get _ next => ∀ found, (next found).GasBlind
  | has _ next => ∀ found, (next found).GasBlind
  | set _ _ next => next.GasBlind
  | delete _ next => next.GasBlind
  | scan _ next => ∀ found, (next found).GasBlind
  | inspect next => (∀ depth block consumed other,
      next ⟨depth, block, consumed⟩ = next ⟨depth, block, other⟩) ∧ ∀ seen, (next seen).GasBlind
  | inner body next => body.GasBlind ∧ ∀ result, (next result).GasBlind

/-- A program that goes on does not act on gas if none of its parts does. -/
theorem GasBlind.bind {program : Transition α} {rest : α → Transition β} (h : program.GasBlind)
    (hrest : ∀ a, (rest a).GasBlind) : (program >>= rest).GasBlind := by
  change (program.bind rest).GasBlind
  induction program with
  | done result => exact hrest result
  | fail error => exact trivial
  | get key next ih => exact fun found => ih found (h found) hrest
  | has key next ih => exact fun found => ih found (h found) hrest
  | set key value next ih => exact ih h hrest
  | delete key next ih => exact ih h hrest
  | scan start next ih => exact fun found => ih found (h found) hrest
  | inspect next ih =>
      refine ⟨fun depth block consumed other => ?_, fun seen => ih seen (h.2 seen) hrest⟩
      exact congrArg (fun next => Transition.bind next rest) (h.1 depth block consumed other)
  | inner body next _ ih => exact ⟨h.1, fun result => ih result (h.2 result) hrest⟩

theorem gasBlind_read (key : Bytes) : (read key).GasBlind := fun _ => trivial

theorem gasBlind_put (key value : Bytes) : (put key value).GasBlind := trivial

theorem gasBlind_remove (key : Bytes) : (remove key).GasBlind := trivial

theorem gasBlind_block : Transition.block.GasBlind := ⟨fun _ _ _ _ => rfl, fun _ => trivial⟩

/-- A nested transaction does not act on gas if its body does not. -/
theorem GasBlind.nested {body : Transition α} (h : body.GasBlind) :
    (Transition.nested body).GasBlind := by
  refine ⟨h, fun result => ?_⟩
  cases result with
  | ok a => exact trivial
  | error error => exact trivial

/-! ### Runs -/

/-- **Programs have their effects wherever they run.** The result of a run and the contents that it
leaves, or its error, are the effect of the program on the contents that it began with. -/
theorem run_eq_effect (setting : Setting) {program : Transition α} (h : program.GasBlind)
    (depth : Nat) (layers : LayeredStore) (ledger : GasLedger) :
    let outcome := program.run setting depth layers ledger
    outcome.result.map (fun result => (result, outcome.store.contents)) =
      program.effect setting.block depth layers.contents := by
  dsimp only
  induction program generalizing depth layers ledger with
  | done result => rfl
  | fail error => rfl
  | get key next ih =>
      rw [run, effect, ← LayeredStore.get_eq]
      exact ih _ (h _) depth layers _
  | has key next ih =>
      rw [run, effect, ← LayeredStore.has_eq]
      exact ih _ (h _) depth layers _
  | set key value next ih =>
      have hcontents : (layers.set key value).contents = layers.contents.insert key value :=
        LayeredStore.contents_write layers key (some value)
      rw [run, effect, ← hcontents]
      exact ih h depth _ _
  | delete key next ih =>
      have hcontents : (layers.delete key).contents = layers.contents.erase key :=
        LayeredStore.contents_write layers key none
      rw [run, effect, ← hcontents]
      exact ih h depth _ _
  | scan start next ih =>
      rw [run, effect, ← LayeredStore.scan_eq]
      exact ih _ (h _) depth layers _
  | inspect next ih =>
      rw [run, effect, h.1 depth setting.block 0 ledger.consumed]
      exact ih _ (h.2 _) depth layers _
  | inner body next ihbody ih =>
      rw [run, effect]
      split
      · have hbody := ihbody h.1 (depth + 1) layers.push ledger
        have hbelow := below?_run setting body (depth + 1) layers.push ledger
        have hsettled := Outcome.contents_settled hbelow
        rw [LayeredStore.contents_push] at hbody
        rw [← hbody]
        dsimp only [Outcome.observing]
        rw [ih _ (h.2 _) depth _ _, hsettled, Outcome.failure?]
        cases (body.run setting (depth + 1) layers.push ledger).result with
        | ok result => rfl
        | error error => rfl
      · exact ih _ (h.2 _) depth layers _

end Transition

/-- The transition of a message has its effect in a transaction. -/
theorem Executor.runMessage_eq_effect {executor : Executor} {message : Message}
    (h : (executor.stakingModule.execute message).GasBlind) (store : Store) :
    let outcome := executor.runMessage message store
    outcome.result.map (fun answer => (answer, store.apply outcome.store.changes)) =
      (executor.stakingModule.execute message).effect executor.block 0 store := by
  intro outcome
  have hrun := Transition.run_eq_effect ⟨executor.block, executor.schedule⟩ h 0
    (LayeredStore.base store).push .empty
  rw [← executor.contents_runMessage message store]
  exact hrun

end StakingGateway
