import StakingGateway.Bytes

/-!
# The Order of Keys

Keys are octet strings in the order of a dictionary: the first octet in which two keys differ
decides, and a key stands before its own continuations. The order is strict and total, which
is all that sorted maps need of it.

## Main statements

* `Bytes.not_before_self`, `Bytes.Before.trans`: the order is strict.
* `Bytes.before_or_eq_or_before`: any two keys compare.
-/

namespace StakingGateway.Bytes

/-- The one string stands before the other in a dictionary. -/
def Before : Bytes → Bytes → Prop
  | _, [] => False
  | [], _ :: _ => True
  | x :: a, y :: b => x.toNat < y.toNat ∨ x = y ∧ Before a b

instance decidableBefore : (a b : Bytes) → Decidable (Before a b)
  | [], [] => isFalse (by simp [Before])
  | _ :: _, [] => isFalse (by simp [Before])
  | [], _ :: _ => isTrue (by simp [Before])
  | x :: a, y :: b =>
    have := decidableBefore a b
    decidable_of_iff (x.toNat < y.toNat ∨ x = y ∧ Before a b) (by simp [Before])

@[simp] theorem not_before_nil (a : Bytes) : ¬ Before a [] := by
  cases a <;> simp [Before]

@[simp] theorem nil_before_cons (y : UInt8) (b : Bytes) : Before [] (y :: b) := by
  simp [Before]

theorem cons_before_cons {x y : UInt8} {a b : Bytes} :
    Before (x :: a) (y :: b) ↔ x.toNat < y.toNat ∨ x = y ∧ Before a b := by
  simp [Before]

/-- No string stands before itself. -/
@[simp] theorem not_before_self (a : Bytes) : ¬ Before a a := by
  induction a with
  | nil => simp
  | cons x a ih => simp [cons_before_cons, ih]

/-- What stands before something stands before all that comes after it. -/
theorem Before.trans {a b c : Bytes} (hab : Before a b) (hbc : Before b c) : Before a c := by
  induction a generalizing b c with
  | nil =>
    cases b with
    | nil => simp at hab
    | cons y b =>
      cases c with
      | nil => simp at hbc
      | cons z c => simp
  | cons x a ih =>
    cases b with
    | nil => simp at hab
    | cons y b =>
      cases c with
      | nil => simp at hbc
      | cons z c =>
        rw [cons_before_cons] at *
        rcases hab with hxy | ⟨rfl, hab⟩ <;> rcases hbc with hyz | ⟨rfl, hbc⟩
        · exact .inl (by omega)
        · exact .inl hxy
        · exact .inl hyz
        · exact .inr ⟨rfl, ih hab hbc⟩

/-- Of two different strings one stands before the other. -/
theorem before_or_eq_or_before (a b : Bytes) : Before a b ∨ a = b ∨ Before b a := by
  induction a generalizing b with
  | nil => cases b <;> simp
  | cons x a ih =>
    cases b with
    | nil => simp
    | cons y b =>
      simp only [cons_before_cons, List.cons.injEq]
      rcases Nat.lt_trichotomy x.toNat y.toNat with h | h | h
      · exact .inl (.inl h)
      · obtain rfl : x = y := UInt8.toNat_inj.1 h
        rcases ih b with hab | rfl | hba
        · exact .inl (.inr ⟨rfl, hab⟩)
        · exact .inr (.inl ⟨rfl, rfl⟩)
        · exact .inr (.inr (.inr ⟨rfl, hba⟩))
      · exact .inr (.inr (.inl h))

end StakingGateway.Bytes
