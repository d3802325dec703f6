/-!
# Chains of Fallible Steps

A chain of steps gives a result exactly if each of its steps does, and its error is that of
the first step that fails. The lemmas of this module take such chains apart one step at a
time, so that no proof about a chain unfolds it.

## Main definitions

* `FailsOnlyWith`: the errors of a step are of a certain kind.
-/

namespace StakingGateway

variable {α β ε δ : Type}

@[simp] theorem ok_bind (a : α) (f : α → Except ε β) : (Except.ok a >>= f) = f a := rfl

@[simp] theorem error_bind (e : ε) (f : α → Except ε β) :
    (Except.error e >>= f) = Except.error e := rfl

@[simp] theorem mapError_ok (a : α) (f : ε → δ) : (Except.ok a).mapError f = .ok a := rfl

@[simp] theorem mapError_error (e : ε) (f : ε → δ) :
    (Except.error e : Except ε α).mapError f = .error (f e) := rfl

/-- A chain of two steps gives a result exactly if both steps do. -/
theorem bind_eq_ok_iff {x : Except ε α} {f : α → Except ε β} {b : β} :
    (x >>= f) = .ok b ↔ ∃ a, x = .ok a ∧ f a = .ok b := by
  cases x with
  | error e => simp
  | ok a => simp

/-- A chain of two steps fails exactly if one of them does. -/
theorem bind_eq_error_iff {x : Except ε α} {f : α → Except ε β} {e : ε} :
    (x >>= f) = .error e ↔ x = .error e ∨ ∃ a, x = .ok a ∧ f a = .error e := by
  cases x with
  | error e' => simp
  | ok a => simp

/-- A mapped result comes from a result. -/
theorem map_eq_ok_iff {x : Except ε α} {f : α → β} {b : β} :
    x.map f = .ok b ↔ ∃ a, x = .ok a ∧ f a = b := by
  cases x with
  | error e => simp [Except.map]
  | ok a => simp [Except.map]

/-- Changing the error does not change a result. -/
theorem mapError_eq_ok_iff {x : Except ε α} {f : ε → δ} {a : α} :
    x.mapError f = .ok a ↔ x = .ok a := by
  cases x with
  | error e => simp
  | ok b => simp

/-- An error that was changed was an error before. -/
theorem mapError_eq_error_iff {x : Except ε α} {f : ε → δ} {d : δ} :
    x.mapError f = .error d ↔ ∃ e, x = .error e ∧ f e = d := by
  cases x with
  | error e => simp
  | ok b => simp

/-- What is left when the errors are forgotten is the results. -/
theorem toOption_eq_some_iff {x : Except ε α} {a : α} : x.toOption = some a ↔ x = .ok a := by
  cases x with
  | error e => simp [Except.toOption]
  | ok b => simp [Except.toOption]

/-- A check gives its result exactly if its condition holds. -/
theorem ite_eq_ok_iff {c : Prop} [Decidable c] {a b : α} {e : ε} :
    (if c then Except.ok a else .error e) = .ok b ↔ c ∧ a = b := by
  split
  · next hc => simp [hc]
  · next hc => simp [hc]

/-! ### Errors of a chain -/

/-- If the step fails, then with an error of the kind. -/
def FailsOnlyWith (kind : ε → Prop) (x : Except ε α) : Prop :=
  ∀ e, x = .error e → kind e

theorem failsOnlyWith_ok (kind : ε → Prop) (a : α) : FailsOnlyWith kind (Except.ok a) :=
  fun _ h => nomatch h

theorem failsOnlyWith_error {kind : ε → Prop} {e : ε} (h : kind e) :
    FailsOnlyWith kind (Except.error e : Except ε α) :=
  fun _ heq => Except.error.inj heq ▸ h

/-- Errors of a kind are of any kind that comprises it. -/
theorem FailsOnlyWith.mono {kind other : ε → Prop} {x : Except ε α} (h : FailsOnlyWith kind x)
    (hkind : ∀ e, kind e → other e) : FailsOnlyWith other x :=
  fun e heq => hkind e (h e heq)

/-- Where all new errors are of the kind, it does not matter what the errors were. -/
theorem failsOnlyWith_mapError {kind : δ → Prop} {f : ε → δ} (h : ∀ e, kind (f e))
    (x : Except ε α) : FailsOnlyWith kind (x.mapError f) := by
  cases x with
  | error e => exact failsOnlyWith_error (h e)
  | ok a => exact failsOnlyWith_ok kind a

/-- A chain fails with what one of its steps fails with. -/
theorem FailsOnlyWith.bind {kind : ε → Prop} {x : Except ε α} {f : α → Except ε β}
    (h : FailsOnlyWith kind x) (hf : ∀ a, FailsOnlyWith kind (f a)) :
    FailsOnlyWith kind (x >>= f) := by
  cases x with
  | error e => exact failsOnlyWith_error (h e rfl)
  | ok a => exact hf a

end StakingGateway
