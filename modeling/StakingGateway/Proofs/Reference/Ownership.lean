import StakingGateway.Proofs.Execution.Footprint
import StakingGateway.Proofs.Gateway.Admission
import StakingGateway.Proofs.Gateway.CallEffect
import StakingGateway.Proofs.Reference.GasBlindness
import StakingGateway.Proofs.Reference.Keys

/-!
# Whose Records a Message Touches

Every record but that of a validator is kept under a key with an account in it, so it is a record of
that account. A message writes records of its delegator, and records of validators,
which are everybody's (`Key.InReach`), whatever it finds in the store (`writesOnly_execute`). The
delegator is the caller, so the records of all other accounts, and whatever else is in the store,
are as they were after a call, to the octet (`get?_run_of_not_inReach`).

The keys have the octets of the account in a fixed place, so what is another account's cannot be in
reach (`Key.IsOwn.not_inReach`), however the names of validators are chosen.

## Main definitions

* `Key.InReach`: the keys that messages of an account may write.

## Main statements

* `writesOnly_execute`: messages write in the reach of their delegators.
* `run_store_eq_or_effect_admissible`: only messages of the caller change the store.
* `get?_run_of_not_inReach`: calls change nothing out of the reach of the caller.
* `Key.IsOwn.not_inReach`, `Key.not_inReach_of_starts`: what is out of reach.
-/

namespace StakingGateway.Reference

/-! ### Keys in reach -/

namespace Key

/-- The keys that a message of the account may write: those of its own records, and those of
validators. -/
inductive InReach (account : Address) : Bytes → Prop
  /-- A record of the account. -/
  | own {key : Bytes} (h : IsOwn account key) : InReach account key
  /-- A validator. -/
  | validator (operator : String) : InReach account (Key.validator operator)

variable {account other : Address} {key : Bytes}

/-- **The records of other accounts are out of reach.** -/
theorem IsOwn.not_inReach (h : IsOwn other key) (hne : other ≠ account) :
    ¬ InReach account key := by
  rintro (hown | operator)
  · exact hne (h.account_eq hown)
  · exact h.ne_validator operator rfl

/-- So is what is under keys that start like no record. -/
theorem not_inReach_of_starts (h : ∀ kind : Kind, ¬ kind.start <+: key) :
    ¬ InReach account key := by
  rintro (hown | operator)
  · obtain ⟨kind, behind, -, heq⟩ := hown.exists_eq
    exact h kind (heq ▸ List.prefix_append _ _)
  · exact h .validator (List.prefix_append _ _)

end Key

open Key (IsOwn InReach)

/-! ### Steps -/

section Steps

variable {α : Type} {P : Bytes → Prop}

theorem writesOnly_orRefuse (fault : Fault) (found : Option α) :
    (orRefuse fault found).WritesOnly P := by
  cases found with
  | some a => exact trivial
  | none => exact trivial

theorem writesOnly_require (condition : Prop) [Decidable condition] (fault : Fault) :
    (require condition fault).WritesOnly P := by
  rw [require]
  split
  · exact trivial
  · exact trivial

theorem writesOnly_load [Json.Codec α] (key : Bytes) :
    (load key : Transition (Option α)).WritesOnly P := by
  refine (Transition.writesOnly_read key).bind fun found => ?_
  cases found with
  | none => exact trivial
  | some octets => exact (writesOnly_orRefuse _ _).bind fun _ => trivial

theorem writesOnly_save [Json.Codec α] {key : Bytes} (h : P key) (a : α) :
    (save key a).WritesOnly P :=
  Transition.writesOnly_put h _

theorem writesOnly_loadValidator (operator : String) : (loadValidator operator).WritesOnly P :=
  (writesOnly_load _).bind fun _ => writesOnly_orRefuse _ _

end Steps

/-! ### Exchanges -/

section Exchanges

variable {delegator : Address}

theorem writesOnly_saveValidator (v : Validator) :
    (saveValidator v).WritesOnly (InReach delegator) :=
  writesOnly_save (.validator v.operator) v

theorem writesOnly_saveHolding (operator : String) (holding : Holding) :
    (saveHolding delegator operator holding).WritesOnly (InReach delegator) := by
  rw [saveHolding]
  split
  · exact Transition.writesOnly_remove (.own (.delegation operator))
  · exact writesOnly_save (.own (.delegation operator)) holding

theorem writesOnly_bond (v : Validator) (tokens : Uint256) :
    (bond delegator v tokens).WritesOnly (InReach delegator) := by
  refine (writesOnly_orRefuse _ _).bind fun shares => ?_
  refine (writesOnly_orRefuse _ _).bind fun bonded => ?_
  refine (writesOnly_saveValidator bonded).bind fun _ => (writesOnly_load _).bind fun _ => ?_
  refine (writesOnly_orRefuse _ _).bind fun held => ?_
  exact (writesOnly_save (.own (.delegation v.operator)) (⟨held⟩ : Holding)).bind fun _ => trivial

theorem writesOnly_unbond (v : Validator) (tokens : Uint256) :
    (unbond delegator v tokens).WritesOnly (InReach delegator) := by
  refine (writesOnly_load _).bind fun _ => (writesOnly_orRefuse _ _).bind fun holding => ?_
  refine (writesOnly_orRefuse _ _).bind fun shares => (writesOnly_require _ _).bind fun _ => ?_
  refine (writesOnly_orRefuse _ _).bind fun released => ?_
  refine (writesOnly_orRefuse _ _).bind fun left => (writesOnly_saveHolding _ _).bind fun _ => ?_
  refine (writesOnly_orRefuse _ _).bind fun unbonded => ?_
  exact (writesOnly_saveValidator unbonded).bind fun _ => trivial

theorem writesOnly_debit (parameters : Parameters) (amount : Uint256) :
    (debit parameters delegator amount).WritesOnly (InReach delegator) := by
  refine (Transition.writesOnly_read _).bind fun found => ?_
  have hrest : ∀ balance : Uint256, (do
      let left ← orRefuse (.insufficientFunds balance amount parameters.bondDenom)
        (balance.sub? amount)
      Transition.put (Key.balance delegator) left.toBytes : Transition Unit).WritesOnly
        (InReach delegator) :=
    fun balance => (writesOnly_orRefuse _ _).bind fun left =>
      Transition.writesOnly_put (.own .balance) _
  cases found with
  | none => exact hrest 0
  | some octets => exact (writesOnly_orRefuse _ _).bind hrest

end Exchanges

/-! ### Messages -/

section Messages

variable (parameters : Parameters) (delegator : Address) (coin : Coin)

theorem writesOnly_delegate (operator : String) :
    (delegate parameters delegator operator coin).WritesOnly (InReach delegator) := by
  refine (writesOnly_require _ _).bind fun _ => (writesOnly_loadValidator _).bind fun v => ?_
  refine (writesOnly_debit parameters coin.amount).nested.bind fun _ => ?_
  exact (writesOnly_bond v coin.amount).bind fun _ => trivial

theorem writesOnly_undelegate (operator : String) :
    (undelegate parameters delegator operator coin).WritesOnly (InReach delegator) := by
  refine (writesOnly_require _ _).bind fun _ => (writesOnly_loadValidator _).bind fun v => ?_
  refine (writesOnly_unbond v coin.amount).bind fun released => ?_
  refine Transition.writesOnly_block.bind fun block => (writesOnly_orRefuse _ _).bind fun time => ?_
  refine (writesOnly_load _).bind fun found => ?_
  exact (writesOnly_save (.own (.unbonding operator)) _).bind fun _ => trivial

theorem writesOnly_redelegate (source destination : String) :
    (redelegate parameters delegator source destination coin).WritesOnly (InReach delegator) := by
  refine (writesOnly_require _ _).bind fun _ => (writesOnly_require _ _).bind fun _ => ?_
  refine (writesOnly_loadValidator _).bind fun v => (writesOnly_loadValidator _).bind fun w => ?_
  refine (writesOnly_unbond v coin.amount).bind fun moved => ?_
  refine (writesOnly_bond w moved).bind fun shares => ?_
  refine Transition.writesOnly_block.bind fun block => ?_
  refine (writesOnly_orRefuse _ _).bind fun time => (writesOnly_load _).bind fun found => ?_
  exact (writesOnly_save (.own (.redelegation source destination)) _).bind fun _ => trivial

theorem writesOnly_cancelUnbonding (operator : String) (height : Int64) :
    (cancelUnbonding parameters delegator operator coin height).WritesOnly (InReach delegator) := by
  refine (writesOnly_require _ _).bind fun _ => (writesOnly_loadValidator _).bind fun v => ?_
  refine (writesOnly_load _).bind fun _ => (writesOnly_orRefuse _ _).bind fun u => ?_
  refine Transition.writesOnly_block.bind fun block => ?_
  have hrest : (do
      let _ ← bond delegator v coin.amount
      return () : Transition Unit).WritesOnly (InReach delegator) :=
    (writesOnly_bond v coin.amount).bind fun _ => trivial
  dsimp only
  cases takeBack height block.time coin.amount u.entries with
  | error fault => exact trivial
  | ok entries =>
      dsimp only
      split
      · exact (Transition.writesOnly_remove (.own (.unbonding operator))).bind fun _ => hrest
      · exact (writesOnly_save (.own (.unbonding operator)) _).bind fun _ => hrest

/-- **Messages write in the reach of their delegators.** -/
theorem writesOnly_execute (message : Message) :
    ((stakingModule parameters).execute message).WritesOnly (InReach message.delegator) := by
  cases message with
  | delegate delegator operator coin => exact writesOnly_delegate parameters delegator coin operator
  | undelegate delegator operator coin =>
      exact writesOnly_undelegate parameters delegator coin operator
  | redelegate delegator source destination coin =>
      exact writesOnly_redelegate parameters delegator coin source destination
  | cancelUnbonding delegator operator coin height =>
      exact writesOnly_cancelUnbonding parameters delegator coin operator height

end Messages

/-- **Nothing but a message of the caller changes the store.** -/
theorem run_store_eq_or_effect_admissible (parameters : Parameters) (config : Config) (call : Call)
    (store : Store) (gas : GasAccount) :
    let after := (Gateway.run ⟨stakingModule parameters, config⟩ call store gas).store
    after = store ∨ ∃ message answer, Message.IsAdmissible call message ∧
      ((stakingModule parameters).execute message).effect call.block 0 store =
        .ok (answer, after) := by
  intro after
  rcases @Gateway.run_store_eq_or_effect ⟨stakingModule parameters, config⟩
    (gasBlind_execute parameters) call store gas with hsame | ⟨message, answer, hmessage, heffect⟩
  · exact .inl hsame
  · exact .inr ⟨message, answer, Call.isAdmissible_of_message hmessage, heffect⟩

/-- **Calls change nothing out of the reach of the caller**, whatever is stored, whatever the call
is, and however it ends. -/
theorem get?_run_of_not_inReach (parameters : Parameters) (config : Config) (call : Call)
    (store : Store) (gas : GasAccount) {key : Bytes} (h : ¬ InReach call.caller key) :
    ByteMap.get? (Gateway.run ⟨stakingModule parameters, config⟩ call store gas).store key =
      ByteMap.get? store key := by
  rcases run_store_eq_or_effect_admissible parameters config call store gas with
    hsame | ⟨message, answer, hadmissible, heffect⟩
  · rw [hsame]
  · rw [← hadmissible.authorized] at h
    exact Transition.get?_of_effect (writesOnly_execute parameters message) h heffect

end StakingGateway.Reference
