import StakingGateway.CallData.Layout
import StakingGateway.Proofs.Fallible

/-!
# Faults of the Layout Check

What the layout check can have against octets. The check of an argument blames that argument, by its
position among all of them (`Layout.blames_checkArgument`); what is left after all arguments is that
the octets do not end where they should. So a fault of the check is one of these two
(`Layout.faults_check`), and it never blames an argument that there is not.

## Main definitions

* `DecodeFault.index?`: the argument that a fault blames.
* `Layout.Blames`: the fault blames the argument at the position.

## Main statements

* `Layout.faults_check`: the faults of the check.
* `Layout.index_lt_of_check`: the check blames one of the arguments.
-/

namespace StakingGateway

/-- The position of the argument that the fault blames, if it blames one. -/
def DecodeFault.index? : DecodeFault → Option Nat
  | truncated index => some index
  | invalidOffset index => some index
  | invalidLength index => some index
  | invalidValue index _ => some index
  | overflow index _ => some index
  | missingSelector _ => none
  | lengthMismatch _ _ => none
  | abi _ => none

namespace Layout

open Abi (Schema Field)

/-- The fault blames the argument at the position. -/
def Blames (index : Nat) (fault : DecodeFault) : Prop :=
  fault.index? = some index

/-- The check of a text blames the argument that the text is. -/
theorem blames_checkText (index length : Nat) (octets : Bytes) :
    FailsOnlyWith (Blames index) (checkText index length octets) := by
  rw [checkText]
  split
  · exact failsOnlyWith_error rfl
  · split
    · exact failsOnlyWith_error rfl
    · exact failsOnlyWith_ok _ ()

/-- So does the check of the tail in which the text is. -/
theorem blames_checkTail (body : Bytes) (index tail : Nat) :
    FailsOnlyWith (Blames index) (checkTail body index tail) := by
  rw [checkTail]
  split
  · exact failsOnlyWith_error rfl
  · dsimp only
    split
    · exact failsOnlyWith_error rfl
    · split
      · exact failsOnlyWith_error rfl
      · exact .bind (blames_checkText _ _ _) fun _ => failsOnlyWith_ok _ _

/-- The check of an argument blames that argument. -/
theorem blames_checkArgument (body : Bytes) (index tail : Nat) (word : Bytes) (schema : Schema) :
    FailsOnlyWith (Blames index) (checkArgument body index tail word schema) := by
  cases schema with
  | address | bool | uint8 | int64 =>
      rw [checkArgument]
      split
      · exact failsOnlyWith_ok _ _
      · exact failsOnlyWith_error rfl
  | uint256 => exact failsOnlyWith_ok _ _
  | string =>
      rw [checkArgument]
      split
      · exact blames_checkTail body index tail
      · exact failsOnlyWith_error rfl
  | tuple | array => exact failsOnlyWith_error rfl

/-- The check of several arguments blames one of them. -/
theorem blames_checkArguments (body : Bytes) (index tail : Nat) (fields : List Field) :
    FailsOnlyWith (fun fault => ∃ position < fields.length, Blames (index + position) fault)
      (checkArguments body index tail fields) := by
  induction fields generalizing index tail with
  | nil => exact failsOnlyWith_ok _ _
  | cons field fields ih =>
      obtain ⟨name, schema⟩ := field
      rw [checkArguments]
      refine .bind ((blames_checkArgument _ _ _ _ _).mono ?_) fun next => (ih _ _).mono ?_
      · intro fault hfault
        exact ⟨0, Nat.succ_pos _, hfault⟩
      · rintro fault ⟨position, hposition, hfault⟩
        exact ⟨position + 1, Nat.succ_lt_succ hposition, Nat.succ_add_eq_add_succ .. ▸ hfault⟩

/-- **The faults of the check**: it blames one of the arguments, or the octets end elsewhere than
the last tail does. -/
theorem faults_check (fields : List Field) (body : Bytes) :
    FailsOnlyWith (fun fault => (∃ index < fields.length, Blames index fault) ∨
      ∃ behind, fault = .lengthMismatch behind body.length) (check fields body) := by
  rw [check]
  split
  · next hshort => exact failsOnlyWith_error (.inl ⟨body.length / 32, by omega, rfl⟩)
  · refine .bind ((blames_checkArguments _ _ _ _).mono ?_) fun behind => ?_
    · rintro fault ⟨position, hposition, hfault⟩
      rw [Nat.zero_add] at hfault
      exact .inl ⟨position, hposition, hfault⟩
    · split
      · exact failsOnlyWith_error (.inr ⟨behind, rfl⟩)
      · exact failsOnlyWith_ok _ ()

/-- The check blames one of the arguments. -/
theorem index_lt_of_check {fields : List Field} {body : Bytes} {fault : DecodeFault} {index : Nat}
    (h : check fields body = .error fault) (hindex : fault.index? = some index) :
    index < fields.length := by
  rcases faults_check fields body fault h with ⟨blamed, hblamed, hfault⟩ | ⟨behind, rfl⟩
  · obtain rfl := Option.some.inj (hfault.symm.trans hindex)
    exact hblamed
  · cases hindex

end Layout

end StakingGateway
