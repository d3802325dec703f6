import StakingGateway.Proofs.Gateway.Admission
import StakingGateway.Proofs.Reference.Bounds
import StakingGateway.Proofs.Reference.Messages

/-!
# Why Messages Are Refused

With a supply below `2 ^ 98`, a message is refused exactly if there is no plan for it, and for a
reason that is true (`Books.refused_of_error`, `Books.exists_effect_of_plan`). Nothing that is
stored is ever reported to be malformed, and that a number does not fit is reported only of a
message that takes more than the delegator has bonded, or takes it too late (`Overreaches`).

## Main definitions

* `Fault.isOrdinary`: the reasons that concern stakes and balances only.
* `Message.source?`: the validator that a message takes tokens from.
* `staked`: the tokens that an account has bonded to a validator.
* `Overreaches`: messages that take more than there is, or take it too late.
* `Refused`: why a message is refused.

## Main statements

* `Books.refused_of_error`: messages are refused for a true reason.
* `Books.exists_effect_of_plan`: messages with a plan succeed.
-/

namespace StakingGateway

/-- The validator that the message takes tokens from. -/
def Message.source? : Message → Option String
  | .undelegate _ operator _ => some operator
  | .redelegate _ source _ _ => some source
  | _ => none

namespace Reference

/-- The reason is neither that a number does not fit, nor that octets do not read back. -/
def Fault.isOrdinary : Fault → Bool
  | .overflow => false
  | .malformedRecord => false
  | .wideBalance => false
  | _ => true

/-- The tokens that the account has bonded to the validator, one for each whole share. -/
def staked (store : Store) (account : Address) (operator : String) : Nat :=
  held store account operator / shareUnit.toNat

/-- The message takes more tokens from a validator than the delegator has bonded to it, or takes
them in a block of which the time and the time of unbonding do not add up to a number of 64 bits. -/
def Overreaches (parameters : Parameters) (block : Block) (store : Store) (message : Message) :
    Prop :=
  ∃ operator, message.source? = some operator ∧
    (staked store message.delegator operator < message.coin.amount.toNat ∨
      2 ^ 64 - 1 < block.time.toNat + parameters.unbondingTime.toNat)

/-- An account has bonded fewer tokens than it takes if it holds fewer shares than that. -/
theorem staked_lt_iff {store : Store} {account : Address} {operator : String} {n : Nat} :
    staked store account operator < n ↔ held store account operator < n * shareUnit.toNat :=
  Nat.div_lt_iff_lt_mul (by decide)

/-- It has bonded as many as it takes if it holds the shares for them. -/
theorem le_staked_iff {store : Store} {account : Address} {operator : String} {n : Nat} :
    n ≤ staked store account operator ↔ n * shareUnit.toNat ≤ held store account operator :=
  Nat.le_div_iff_mul_le (by decide)

/-- There is no time at which tokens are free if it is no number of 64 bits. -/
theorem lt_of_completionTime_eq_none {parameters : Parameters} {block : Block}
    (h : completionTime parameters block = none) :
    2 ^ 64 - 1 < block.time.toNat + parameters.unbondingTime.toNat := by
  rw [completionTime] at h
  split at h
  · cases h
  · next hwide => exact Nat.lt_of_lt_of_le (by decide) (Nat.le_of_not_lt hwide)

/-- The message is refused with the error, and for a true reason. -/
structure Refused (parameters : Parameters) (block : Block) (store : Store) (message : Message)
    (error : ModuleError) : Prop where
  /-- There is no plan for it. -/
  unplanned : plan? parameters block store message = none
  /-- The reason is an ordinary one, or it is that the message overreaches. -/
  cause : (∃ fault : Fault, fault.isOrdinary = true ∧ error = fault.toModuleError) ∨
    error = Fault.overflow.toModuleError ∧ Overreaches parameters block store message

/-- Ordinary errors are not the gateway's, and do not speak of numbers that do not fit. -/
theorem Fault.toModuleError_of_isOrdinary {fault : Fault} (h : fault.isOrdinary = true) :
    fault.toModuleError.codespace ≠ ModuleError.gatewayCodespace ∧
      ¬ (fault.toModuleError.codespace = stakingCodespace ∧ fault.toModuleError.code = 9) := by
  cases fault with
  | overflow | malformedRecord | wideBalance => cases h
  | noValidator | wrongDenom | noDelegation | noUnbonding | insufficientShares | selfRedelegation |
      noUnbondingEntry | entryMatured | amountExceedsEntry | insufficientFunds =>
      exact ⟨by simp [toModuleError, stakingCodespace, bankCodespace, ModuleError.gatewayCodespace],
        by simp [toModuleError, stakingCodespace, bankCodespace]⟩

/-! ### Steps that fail -/

section Steps

variable {α β : Type} {block : Block} {depth : Nat} {store : Store} {P : Record → Prop}
  {error : ModuleError}

/-- A transition fails where a value is missing, or later. -/
theorem effect_orRefuse_bind_eq_error_iff {fault : Fault} {found : Option α}
    {rest : α → Transition β} :
    (orRefuse fault found >>= rest).effect block depth store = .error error ↔
      (found = none ∧ error = fault.toModuleError) ∨
        ∃ a, found = some a ∧ (rest a).effect block depth store = .error error := by
  cases found with
  | none =>
      have hrefused : (orRefuse fault none >>= rest).effect block depth store =
        .error fault.toModuleError := rfl
      rw [hrefused, Except.error.injEq]
      simp [eq_comm]
  | some a =>
      have hgoes : (orRefuse fault (some a) >>= rest).effect block depth store =
        (rest a).effect block depth store := rfl
      rw [hgoes]
      simp

/-- A transition fails where a condition does not hold, or later. -/
theorem effect_require_bind_eq_error_iff {condition : Prop} [Decidable condition] {fault : Fault}
    {rest : Unit → Transition β} :
    (require condition fault >>= rest).effect block depth store = .error error ↔
      (¬ condition ∧ error = fault.toModuleError) ∨
        condition ∧ (rest ()).effect block depth store = .error error := by
  by_cases hcondition : condition
  · have hgoes : (require condition fault >>= rest).effect block depth store =
        (rest ()).effect block depth store := by
      rw [require, if_pos hcondition]
      rfl
    rw [hgoes]
    simp [hcondition]
  · have hrefused : (require condition fault >>= rest).effect block depth store =
        .error fault.toModuleError := by
      rw [require, if_neg hcondition]
      rfl
    rw [hrefused, Except.error.injEq]
    simp [hcondition, eq_comm]

/-- A transition fails where a validator is missing, or later. -/
theorem effect_loadValidator_bind_eq_error_iff (h : store.ForallRecords P) {operator : String}
    {rest : Validator → Transition β} :
    (loadValidator operator >>= rest).effect block depth store = .error error ↔
      (registered store operator = false ∧ error = (Fault.noValidator operator).toModuleError) ∨
        ∃ v, store.record? (Key.validator operator) = some v ∧
          (rest v).effect block depth store = .error error := by
  have hload : (loadValidator operator).effect block depth store =
      (orRefuse (.noValidator operator) (store.record? (Key.validator operator))).effect block
        depth store := by
    rw [loadValidator, Transition.effect_bind_of_ok ((isSlot_validator operator).effect_load h ..)]
  rw [Transition.effect_bind, hload, ← Transition.effect_bind, effect_orRefuse_bind_eq_error_iff,
    registered, Option.isSome_eq_false_iff, Option.isNone_iff_eq_none]

end Steps

/-! ### Exchanges that fail -/

namespace Books

variable {parameters : Parameters} {block : Block} {depth : Nat} {store after : Store}
  {supply : Nat} {account : Address} {operator : String} {v : Validator} {tokens : Uint256}

/-- **Unbonding fails only if the account holds less**, for an ordinary reason or because the
product on the way to the shares does not fit. -/
theorem of_unbond_eq_error (h : Books store supply) (hsupply : supply < 2 ^ 98)
    (hv : store.record? (Key.validator operator) = some v) (hpos : 0 < tokens.toNat)
    {error : ModuleError}
    (heffect : (unbond account v tokens).effect block depth store = .error error) :
    held store account operator < tokens.toNat * shareUnit.toNat ∧
      ((∃ fault : Fault, fault.isOrdinary = true ∧ error = fault.toModuleError) ∨
        error = Fault.overflow.toModuleError) := by
  refine ⟨Nat.lt_of_not_le fun hheld => ?_, ?_⟩
  · obtain ⟨released, after, hok⟩ := h.exists_unbond hsupply hv hpos hheld
    rw [hok] at heffect
    cases heffect
  · rw [unbond, Transition.effect_bind_of_ok ((isSlot_holding account v.operator).effect_load
      h.sound ..)] at heffect
    rcases effect_orRefuse_bind_eq_error_iff.mp heffect with ⟨-, herror⟩ | ⟨holding, -, heffect⟩
    · exact .inl ⟨_, rfl, herror⟩
    rcases effect_orRefuse_bind_eq_error_iff.mp heffect with ⟨-, herror⟩ | ⟨shares, -, heffect⟩
    · exact .inr herror
    rcases effect_require_bind_eq_error_iff.mp heffect with ⟨-, herror⟩ | ⟨-, heffect⟩
    · exact .inl ⟨_, rfl, herror⟩
    rcases effect_orRefuse_bind_eq_error_iff.mp heffect with ⟨-, herror⟩ | ⟨released, -, heffect⟩
    · exact .inr herror
    rcases effect_orRefuse_bind_eq_error_iff.mp heffect with ⟨-, herror⟩ | ⟨left, -, heffect⟩
    · exact .inr herror
    rw [Transition.effect_bind_of_ok (effect_saveHolding ..)] at heffect
    rcases effect_orRefuse_bind_eq_error_iff.mp heffect with ⟨-, herror⟩ | ⟨unbonded, -, heffect⟩
    · exact .inr herror
    · cases heffect

/-- Taking from a balance fails only if there is less in it. -/
theorem of_debit_eq_error (h : Books store supply) {amount : Uint256} {error : ModuleError}
    (heffect : (Reference.debit parameters account amount).effect block depth store =
      .error error) :
    (balance store account).sub? amount = none ∧
      ∃ fault : Fault, fault.isOrdinary = true ∧ error = fault.toModuleError := by
  have hrest : ∀ found : Uint256,
      (orRefuse (.insufficientFunds found amount parameters.bondDenom) (found.sub? amount) >>=
        fun left => Transition.put (Key.balance account) left.toBytes).effect block depth store =
          .error error →
        found.sub? amount = none ∧
          ∃ fault : Fault, fault.isOrdinary = true ∧ error = fault.toModuleError := by
    intro found hfails
    rcases effect_orRefuse_bind_eq_error_iff.mp hfails with ⟨hnone, herror⟩ | ⟨left, -, hfails⟩
    · exact ⟨hnone, _, rfl, herror⟩
    · cases hfails
  rw [Reference.debit, Transition.effect_bind_of_ok (Transition.effect_read ..)] at heffect
  cases hget : ByteMap.get? store (Key.balance account) with
  | none =>
      rw [hget] at heffect
      rw [balance_eq_of_none hget]
      exact hrest 0 heffect
  | some octets =>
      obtain ⟨record, -, hkey, rfl⟩ := h.sound _ _ hget
      obtain ⟨found, rfl⟩ := exists_eq_balance hkey
      rw [hget] at heffect
      dsimp only [Record.octets] at heffect
      rw [Record.ofBytes?_toBytes] at heffect
      rw [balance_eq_of_keeps (show store.Keeps (.balance account found) from hget)]
      exact hrest found heffect

end Books

/-! ### Messages that are refused -/

section Messages

/-- Taking back fails for ordinary reasons only. -/
theorem failsOnlyWith_takeBack (height : Int64) (now : UInt64) (amount : Uint256)
    (entries : List UnbondingEntry) :
    FailsOnlyWith (fun fault => fault.isOrdinary = true) (takeBack height now amount entries) := by
  induction entries with
  | nil => exact failsOnlyWith_error rfl
  | cons entry entries ih =>
      rw [takeBack]
      split
      · split
        · exact failsOnlyWith_error rfl
        split
        · exact failsOnlyWith_error rfl
        dsimp only
        split
        · exact failsOnlyWith_ok _ _
        · exact failsOnlyWith_ok _ _
      · intro fault hfault
        cases hrest : takeBack height now amount entries with
        | ok left =>
            rw [hrest] at hfault
            cases hfault
        | error other =>
            rw [hrest] at hfault
            exact ih fault (hrest.trans (congrArg _ (Except.error.inj hfault)))

variable {parameters : Parameters} {delegator : Address} {operator : String} {coin : Coin}
  {block : Block} {depth : Nat} {store : Store} {supply : Nat} {error : ModuleError}

namespace Books

/-- **Delegations** are refused for want of a validator or of tokens. -/
theorem refused_delegate (h : Books store supply) (hsupply : supply < 2 ^ 98)
    (heffect : (Reference.delegate parameters delegator operator coin).effect block 0 store =
      .error error) :
    Refused parameters block store (.delegate delegator operator coin) error := by
  rw [Reference.delegate, checkDenom] at heffect
  rcases effect_require_bind_eq_error_iff.mp heffect with ⟨hdenom, herror⟩ | ⟨-, heffect⟩
  · exact ⟨by simp [plan?, hdenom], .inl ⟨_, rfl, herror⟩⟩
  rcases (effect_loadValidator_bind_eq_error_iff h.sound).mp heffect with
    ⟨hnone, herror⟩ | ⟨v, hv, heffect⟩
  · exact ⟨by simp [plan?, hnone], .inl ⟨_, rfl, herror⟩⟩
  rcases Transition.effect_bind_eq_error_iff.mp heffect with
    hdebit | ⟨_, middle, hdebit, heffect⟩
  · rw [Transition.effect_nested] at hdebit
    obtain ⟨hnone, hfault⟩ := h.of_debit_eq_error hdebit
    exact ⟨by simp [plan?, hnone], .inl hfault⟩
  · -- What has been taken from the balance can be bonded.
    rw [Transition.effect_nested, effect_debit_eq_ok_iff h.sound] at hdebit
    obtain ⟨left, hleft, rfl⟩ := hdebit
    obtain ⟨rest, rfl, hmiddle⟩ := h.debit hleft
    have hkind : (Record.balance delegator left).kind ≠ .validator := by
      intro hsame
      cases hsame
    obtain ⟨shares, after, hbond⟩ :=
      hmiddle.exists_bond hsupply ((record?_validator_keep hkind operator).trans hv)
    rw [Transition.effect_bind_of_ok hbond] at heffect
    cases heffect

/-- **Undelegations** are refused where they overreach, or for want of a validator. -/
theorem refused_undelegate (h : Books store supply) (hsupply : supply < 2 ^ 98)
    (hpos : 0 < coin.amount.toNat)
    (heffect : (Reference.undelegate parameters delegator operator coin).effect block depth store =
      .error error) :
    Refused parameters block store (.undelegate delegator operator coin) error := by
  rw [Reference.undelegate, checkDenom] at heffect
  rcases effect_require_bind_eq_error_iff.mp heffect with ⟨hdenom, herror⟩ | ⟨-, heffect⟩
  · exact ⟨by simp [plan?, hdenom], .inl ⟨_, rfl, herror⟩⟩
  rcases (effect_loadValidator_bind_eq_error_iff h.sound).mp heffect with
    ⟨hnone, herror⟩ | ⟨v, hv, heffect⟩
  · exact ⟨by simp [plan?, hnone], .inl ⟨_, rfl, herror⟩⟩
  rcases Transition.effect_bind_eq_error_iff.mp heffect with
    hunbond | ⟨released, middle, hunbond, heffect⟩
  · obtain ⟨hless, hfault⟩ := h.of_unbond_eq_error hsupply hv hpos hunbond
    refine ⟨by simp [plan?, Nat.not_le_of_lt hless], hfault.imp_right fun herror => ?_⟩
    exact ⟨herror, operator, rfl, .inl (staked_lt_iff.mpr hless)⟩
  rw [Transition.effect_bind_of_ok (Transition.effect_block ..)] at heffect
  rcases effect_orRefuse_bind_eq_error_iff.mp heffect with ⟨hnone, herror⟩ | ⟨time, -, heffect⟩
  · refine ⟨by simp [plan?, hnone], .inr ⟨herror, operator, rfl, .inr ?_⟩⟩
    exact lt_of_completionTime_eq_none hnone
  · obtain ⟨-, -, hunbonded⟩ := h.changes_of_unbond hv hunbond
    obtain ⟨rest, -, hmiddle⟩ := h.of_unbond hunbonded
    rw [Transition.effect_bind_of_ok
      ((isSlot_unbonding delegator operator).effect_load hmiddle.sound ..)] at heffect
    cases heffect

/-- **Redelegations** are refused where they overreach, or for want of two validators. -/
theorem refused_redelegate (h : Books store supply) (hsupply : supply < 2 ^ 98)
    (hpos : 0 < coin.amount.toNat) {source destination : String}
    (heffect : (Reference.redelegate parameters delegator source destination coin).effect block
      depth store = .error error) :
    Refused parameters block store (.redelegate delegator source destination coin) error := by
  rw [Reference.redelegate, checkDenom] at heffect
  rcases effect_require_bind_eq_error_iff.mp heffect with ⟨hsame, herror⟩ | ⟨hdistinct, heffect⟩
  · exact ⟨by simp [plan?, hsame], .inl ⟨_, rfl, herror⟩⟩
  rcases effect_require_bind_eq_error_iff.mp heffect with ⟨hdenom, herror⟩ | ⟨-, heffect⟩
  · exact ⟨by simp [plan?, hdenom], .inl ⟨_, rfl, herror⟩⟩
  rcases (effect_loadValidator_bind_eq_error_iff h.sound).mp heffect with
    ⟨hnone, herror⟩ | ⟨v, hv, heffect⟩
  · exact ⟨by simp [plan?, hnone], .inl ⟨_, rfl, herror⟩⟩
  rcases (effect_loadValidator_bind_eq_error_iff h.sound).mp heffect with
    ⟨hnone, herror⟩ | ⟨w, hw, heffect⟩
  · exact ⟨by simp [plan?, hnone], .inl ⟨_, rfl, herror⟩⟩
  rcases Transition.effect_bind_eq_error_iff.mp heffect with
    hunbond | ⟨released, middle, hunbond, heffect⟩
  · obtain ⟨hless, hfault⟩ := h.of_unbond_eq_error hsupply hv hpos hunbond
    refine ⟨by simp [plan?, Nat.not_le_of_lt hless], hfault.imp_right fun herror => ?_⟩
    exact ⟨herror, source, rfl, .inl (staked_lt_iff.mpr hless)⟩
  -- What has been unbonded can be bonded.
  obtain ⟨rfl, -, hunbonded⟩ := h.changes_of_unbond hv hunbond
  obtain ⟨rest, rfl, hmiddle⟩ := h.of_unbond hunbonded
  have hw' : middle.record? (Key.validator destination) = some w := by
    rw [record?_validator_of_unbond hunbonded hdistinct, hw]
  obtain ⟨shares, last, hbond⟩ := hmiddle.exists_bond hsupply hw'
  obtain ⟨-, hbonded⟩ := hmiddle.changes_of_bond hw' hbond
  have hlast := hmiddle.of_bond hbonded
  rw [Transition.effect_bind_of_ok hbond, Transition.effect_bind_of_ok
    (Transition.effect_block ..)] at heffect
  rcases effect_orRefuse_bind_eq_error_iff.mp heffect with ⟨hnone, herror⟩ | ⟨time, -, heffect⟩
  · refine ⟨?_, .inr ⟨herror, source, rfl, .inr (lt_of_completionTime_eq_none hnone)⟩⟩
    cases hshares : coin.amount.mul? shareUnit with
    | none => simp [plan?, hshares]
    | some issued => simp [plan?, hshares, hnone]
  · rw [Transition.effect_bind_of_ok
      ((isSlot_redelegations delegator source destination).effect_load hlast.sound ..)] at heffect
    cases heffect

/-- **Cancelling an unbonding** is refused for want of a validator, or of what is to be taken
back. -/
theorem refused_cancelUnbonding (h : Books store supply) (hsupply : supply < 2 ^ 98)
    {height : Int64}
    (heffect : (Reference.cancelUnbonding parameters delegator operator coin height).effect block
      depth store = .error error) :
    Refused parameters block store (.cancelUnbonding delegator operator coin height) error := by
  rw [Reference.cancelUnbonding, checkDenom] at heffect
  rcases effect_require_bind_eq_error_iff.mp heffect with ⟨hdenom, herror⟩ | ⟨-, heffect⟩
  · exact ⟨by simp [plan?, hdenom], .inl ⟨_, rfl, herror⟩⟩
  rcases (effect_loadValidator_bind_eq_error_iff h.sound).mp heffect with
    ⟨hnone, herror⟩ | ⟨v, hv, heffect⟩
  · exact ⟨by simp [plan?, hnone], .inl ⟨_, rfl, herror⟩⟩
  rw [Transition.effect_bind_of_ok
    ((isSlot_unbonding delegator operator).effect_load h.sound ..)] at heffect
  rcases effect_orRefuse_bind_eq_error_iff.mp heffect with ⟨hnone, herror⟩ | ⟨u, hu, heffect⟩
  · refine ⟨?_, .inl ⟨_, rfl, herror⟩⟩
    have hnothing : unbondingEntries store delegator operator = [] := by
      rw [unbondingEntries, hnone, Option.elim_none]
    simp [plan?, hnothing, takeBack, Except.toOption]
  obtain rfl := eq_of_record?_unbonding h.sound hu
  rw [Transition.effect_bind_of_ok (Transition.effect_block ..)] at heffect
  dsimp only at heffect
  cases htaken : takeBack height block.time coin.amount
      (unbondingEntries store delegator operator) with
  | error fault =>
      rw [htaken] at heffect
      refine ⟨by simp [plan?, htaken, Except.toOption], .inl ⟨fault, ?_, ?_⟩⟩
      · exact failsOnlyWith_takeBack _ _ _ _ fault htaken
      · exact (Except.error.inj heffect).symm
  | ok entries =>
      -- What has been taken back can be bonded.
      have hwithin := h.pending_le delegator operator
      have hpending := pending_takeBack htaken
      have hmiddle : Books (store.setUnbonding delegator operator entries)
          (supply - coin.amount.toNat) :=
        h.of_unbonding (show (Booking.unbonding operator entries).Changes _ _ _ from rfl) (by omega)
      have hv' : (store.setUnbonding delegator operator entries).record?
          (Key.validator operator) = some v := by
        rw [record?_validator_setUnbonding, hv]
      obtain ⟨shares, after, hbond⟩ : ∃ shares after,
          (bond delegator v coin.amount).effect block depth
            (store.setUnbonding delegator operator entries) = .ok (shares, after) :=
        hmiddle.exists_bond (by omega) hv'
      rw [htaken] at heffect
      dsimp only at heffect
      rw [effect_setUnbonding_bind, Transition.effect_bind_of_ok hbond] at heffect
      cases heffect

/-- **Messages are refused for a true reason**, and only if there is no plan for them. -/
theorem refused_of_error (h : Books store supply) (hsupply : supply < 2 ^ 98) {message : Message}
    (hpos : 0 < message.coin.amount.toNat)
    (heffect : ((stakingModule parameters).execute message).effect block 0 store =
      .error error) : Refused parameters block store message error := by
  cases message with
  | delegate delegator operator coin => exact h.refused_delegate hsupply heffect
  | undelegate delegator operator coin => exact h.refused_undelegate hsupply hpos heffect
  | redelegate delegator source destination coin =>
      exact h.refused_redelegate hsupply hpos heffect
  | cancelUnbonding delegator operator coin height =>
      exact h.refused_cancelUnbonding hsupply heffect

/-- **Messages with a plan succeed**, as planned. -/
theorem exists_effect_of_plan (h : Books store supply) (hsupply : supply < 2 ^ 98)
    {message : Message} (hpos : 0 < message.coin.amount.toNat) {answer : message.Answer}
    {bookings : List Booking}
    (hplan : plan? parameters block store message = some (answer, bookings)) :
    ∃ after, ((stakingModule parameters).execute message).effect block 0 store =
      .ok (answer, after) ∧ Changes message.delegator bookings store after := by
  cases heffect : ((stakingModule parameters).execute message).effect block 0 store with
  | error error =>
      have hnone := (h.refused_of_error hsupply hpos heffect).unplanned
      rw [hplan] at hnone
      cases hnone
  | ok done =>
      obtain ⟨found, after⟩ := done
      obtain ⟨booked, hfound, hchanges⟩ := h.exists_plan heffect
      rw [hplan, Option.some.injEq, Prod.mk.injEq] at hfound
      obtain ⟨rfl, rfl⟩ := hfound
      exact ⟨after, rfl, hchanges⟩

end Books

end Messages

end Reference

end StakingGateway
