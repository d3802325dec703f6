import StakingGateway.Proofs.Execution.Effect
import StakingGateway.Reference.Module

/-!
# The Reference Module Does Not Act on Gas

Transitions are told the gas that they have consumed. The reference module looks at the block, but
what it does next is never up to the gas (`Reference.gasBlind_execute`). So a message has its effect
on the store wherever and at whatever cost it runs. Each part of the module is opened once, and
programs are put together as their parts are.

## Main statements

* `Reference.gasBlind_execute`: no message of the reference module acts on gas.
-/

namespace StakingGateway.Reference

open Transition (GasBlind)

/-! ### Steps -/

theorem gasBlind_orRefuse {α : Type} (fault : Fault) (found : Option α) :
    (orRefuse fault found).GasBlind := by
  cases found with
  | none => exact trivial
  | some a => exact trivial

theorem gasBlind_require (condition : Prop) [Decidable condition] (fault : Fault) :
    (require condition fault).GasBlind := by
  rw [require]
  split
  · exact trivial
  · exact trivial

theorem gasBlind_load {α : Type} [Json.Codec α] (key : Bytes) :
    (load key : Transition (Option α)).GasBlind := by
  refine (Transition.gasBlind_read key).bind fun found => ?_
  cases found with
  | none => exact trivial
  | some octets => exact (gasBlind_orRefuse _ _).bind fun a => trivial

theorem gasBlind_loadValidator (operator : String) : (loadValidator operator).GasBlind :=
  (gasBlind_load _).bind fun found => gasBlind_orRefuse _ found

theorem gasBlind_save {α : Type} [Json.Codec α] (key : Bytes) (record : α) :
    (save key record).GasBlind :=
  Transition.gasBlind_put _ _

theorem gasBlind_saveHolding (delegator : Address) (operator : String) (holding : Holding) :
    (saveHolding delegator operator holding).GasBlind := by
  rw [saveHolding]
  split
  · exact Transition.gasBlind_remove _
  · exact gasBlind_save _ _

/-! ### Moves -/

theorem gasBlind_debit (parameters : Parameters) (account : Address) (amount : Uint256) :
    (debit parameters account amount).GasBlind := by
  refine (Transition.gasBlind_read _).bind fun found => ?_
  have hrest : ∀ balance : Uint256, (do
      let left ← orRefuse (.insufficientFunds balance amount parameters.bondDenom)
        (balance.sub? amount)
      Transition.put (Key.balance account) left.toBytes : Transition Unit).GasBlind :=
    fun balance => (gasBlind_orRefuse _ _).bind fun left => Transition.gasBlind_put _ _
  cases found with
  | none => exact hrest 0
  | some octets => exact (gasBlind_orRefuse _ _).bind hrest

theorem gasBlind_bond (delegator : Address) (v : Validator) (tokens : Uint256) :
    (bond delegator v tokens).GasBlind :=
  (gasBlind_orRefuse _ _).bind fun _ =>
    (gasBlind_orRefuse _ _).bind fun _ =>
      (gasBlind_save _ _).bind fun _ =>
        (gasBlind_load _).bind fun _ =>
          (gasBlind_orRefuse _ _).bind fun _ =>
            (gasBlind_save _ _).bind fun _ => trivial

theorem gasBlind_unbond (delegator : Address) (v : Validator) (tokens : Uint256) :
    (unbond delegator v tokens).GasBlind :=
  (gasBlind_load _).bind fun _ =>
    (gasBlind_orRefuse _ _).bind fun _ =>
      (gasBlind_orRefuse _ _).bind fun _ =>
        (gasBlind_require _ _).bind fun _ =>
          (gasBlind_orRefuse _ _).bind fun _ =>
            (gasBlind_orRefuse _ _).bind fun _ =>
              (gasBlind_saveHolding _ _ _).bind fun _ =>
                (gasBlind_orRefuse _ _).bind fun _ =>
                  (gasBlind_save _ _).bind fun _ => trivial

/-! ### Messages -/

variable (parameters : Parameters) (delegator : Address) (coin : Coin)

theorem gasBlind_delegate (operator : String) :
    (delegate parameters delegator operator coin).GasBlind :=
  (gasBlind_require _ _).bind fun _ =>
    (gasBlind_loadValidator _).bind fun _ =>
      (gasBlind_debit _ _ _).nested.bind fun _ =>
        (gasBlind_bond _ _ _).bind fun _ => trivial

theorem gasBlind_undelegate (operator : String) :
    (undelegate parameters delegator operator coin).GasBlind :=
  (gasBlind_require _ _).bind fun _ =>
    (gasBlind_loadValidator _).bind fun _ =>
      (gasBlind_unbond _ _ _).bind fun _ =>
        Transition.gasBlind_block.bind fun _ =>
          (gasBlind_orRefuse _ _).bind fun _ =>
            (gasBlind_load _).bind fun _ =>
              (gasBlind_save _ _).bind fun _ => trivial

theorem gasBlind_redelegate (source destination : String) :
    (redelegate parameters delegator source destination coin).GasBlind :=
  (gasBlind_require _ _).bind fun _ =>
    (gasBlind_require _ _).bind fun _ =>
      (gasBlind_loadValidator _).bind fun _ =>
        (gasBlind_loadValidator _).bind fun _ =>
          (gasBlind_unbond _ _ _).bind fun _ =>
            (gasBlind_bond _ _ _).bind fun _ =>
              Transition.gasBlind_block.bind fun _ =>
                (gasBlind_orRefuse _ _).bind fun _ =>
                  (gasBlind_load _).bind fun _ =>
                    (gasBlind_save _ _).bind fun _ => trivial

theorem gasBlind_cancelUnbonding (operator : String) (height : Int64) :
    (cancelUnbonding parameters delegator operator coin height).GasBlind := by
  refine (gasBlind_require _ _).bind fun _ => (gasBlind_loadValidator _).bind fun v => ?_
  refine (gasBlind_load _).bind fun _ => (gasBlind_orRefuse _ _).bind fun u => ?_
  refine Transition.gasBlind_block.bind fun block => ?_
  have hrest : (do
      let _ ← bond delegator v coin.amount
      return () : Transition Unit).GasBlind := (gasBlind_bond _ _ _).bind fun _ => trivial
  dsimp only
  cases takeBack height block.time coin.amount u.entries with
  | error fault => exact trivial
  | ok entries =>
      dsimp only
      split
      · exact (Transition.gasBlind_remove _).bind fun _ => hrest
      · exact (gasBlind_save _ _).bind fun _ => hrest

/-- **No message of the reference module acts on gas.** -/
theorem gasBlind_execute (message : Message) :
    ((stakingModule parameters).execute message).GasBlind := by
  cases message with
  | delegate delegator operator coin => exact gasBlind_delegate parameters delegator coin operator
  | undelegate delegator operator coin =>
      exact gasBlind_undelegate parameters delegator coin operator
  | redelegate delegator source destination coin =>
      exact gasBlind_redelegate parameters delegator coin source destination
  | cancelUnbonding delegator operator coin height =>
      exact gasBlind_cancelUnbonding parameters delegator coin operator height

end StakingGateway.Reference
