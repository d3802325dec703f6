import StakingGateway.Proofs.Execution.Effect

/-!
# The Footprint of a Transition

A transition asks for each of its writes by the key, so where it can write at all can be read off
the program, over all answers that it might get (`Transition.WritesOnly`). What is under any other
key is as it was when the program has ended (`Transition.get?_of_effect`), whatever store it runs
over.

## Main definitions

* `Transition.WritesOnly`: programs that put values, and delete them, under certain keys only.

## Main statements

* `Transition.get?_of_effect`: the other keys are as they were.
-/

namespace StakingGateway.Transition

variable {α β : Type} {P : Bytes → Prop}

/-- All keys under which the program may put a value or delete one have the property. -/
def WritesOnly (P : Bytes → Prop) {α : Type} : Transition α → Prop
  | done _ => True
  | fail _ => True
  | get _ next => ∀ found, (next found).WritesOnly P
  | has _ next => ∀ found, (next found).WritesOnly P
  | set key _ next => P key ∧ next.WritesOnly P
  | delete key next => P key ∧ next.WritesOnly P
  | scan _ next => ∀ found, (next found).WritesOnly P
  | inspect next => ∀ seen, (next seen).WritesOnly P
  | inner body next => body.WritesOnly P ∧ ∀ result, (next result).WritesOnly P

/-- A program that goes on writes where its parts write. -/
theorem WritesOnly.bind {program : Transition α} {rest : α → Transition β}
    (h : program.WritesOnly P) (hrest : ∀ a, (rest a).WritesOnly P) :
    (program >>= rest).WritesOnly P := by
  change (program.bind rest).WritesOnly P
  induction program with
  | done result => exact hrest result
  | fail error => exact trivial
  | get key next ih => exact fun found => ih found (h found) hrest
  | has key next ih => exact fun found => ih found (h found) hrest
  | set key value next ih => exact ⟨h.1, ih h.2 hrest⟩
  | delete key next ih => exact ⟨h.1, ih h.2 hrest⟩
  | scan start next ih => exact fun found => ih found (h found) hrest
  | inspect next ih => exact fun seen => ih seen (h seen) hrest
  | inner body next _ ih => exact ⟨h.1, fun result => ih result (h.2 result) hrest⟩

theorem writesOnly_read (key : Bytes) : (read key).WritesOnly P := fun _ => trivial

theorem writesOnly_put {key : Bytes} (h : P key) (value : Bytes) : (put key value).WritesOnly P :=
  ⟨h, trivial⟩

theorem writesOnly_remove {key : Bytes} (h : P key) : (remove key).WritesOnly P := ⟨h, trivial⟩

theorem writesOnly_block : Transition.block.WritesOnly P := fun _ => trivial

/-- A nested transaction writes where its body writes. -/
theorem WritesOnly.nested {body : Transition α} (h : body.WritesOnly P) :
    (Transition.nested body).WritesOnly P := by
  refine ⟨h, fun result => ?_⟩
  cases result with
  | ok a => exact trivial
  | error error => exact trivial

/-- **What is under other keys is as it was.** -/
theorem get?_of_effect {program : Transition α} (h : program.WritesOnly P) {key : Bytes}
    (hkey : ¬ P key) {block : Block} {depth : Nat} {store after : Store} {a : α}
    (heffect : program.effect block depth store = .ok (a, after)) :
    ByteMap.get? after key = ByteMap.get? store key := by
  induction program generalizing depth store after with
  | done result =>
      obtain ⟨-, rfl⟩ := Prod.mk.inj (Except.ok.inj heffect)
      rfl
  | fail error => cases heffect
  | get key next ih => exact ih _ (h _) heffect
  | has key next ih => exact ih _ (h _) heffect
  | set other value next ih =>
      have hne : key ≠ other := fun heq => hkey (heq ▸ h.1)
      rw [ih h.2 heffect]
      exact (ByteMap.get?_insert ..).trans (if_neg hne)
  | delete other next ih =>
      have hne : key ≠ other := fun heq => hkey (heq ▸ h.1)
      rw [ih h.2 heffect]
      exact (ByteMap.get?_erase ..).trans (if_neg hne)
  | scan start next ih => exact ih _ (h _) heffect
  | inspect next ih => exact ih _ (h _) heffect
  | inner body next ihbody ih =>
      rw [effect] at heffect
      split at heffect
      · split at heffect
        · next result middle hbody => exact (ih _ (h.2 _) heffect).trans (ihbody h.1 hbody)
        · exact ih _ (h.2 _) heffect
      · exact ih _ (h.2 _) heffect

end StakingGateway.Transition
