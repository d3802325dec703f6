import StakingGateway.Proofs.Reference.Bookings

/-!
# What Messages Book

Whether a message can be carried out, what is answered and what is booked for it, depends on little:
the block, the records of the delegator, and which validators there are. `Reference.plan?` says what
it is, with no mention of transitions, shares or rates. In a store whose books are in order, a
message that succeeds gives the answer of its plan and does what is booked in it
(`Books.exists_plan`).

## Main definitions

* `Reference.registered`: whether there is a validator.
* `Reference.plan?`: the answer to a message and what is booked for it, if it can be carried out.
* `Reference.lessened`: what is left of an entry when an amount is taken back out of it.

## Main statements

* `plan?_congr`: what a plan depends on.
* `takeBack_cons_eq_ok`, `pending_takeBack`: what is taken back, entry by entry and in all.
* `Books.exists_plan`: messages that succeed do what is planned.
-/

namespace StakingGateway.Reference

/-- Whether there is a validator with the operator. -/
def registered (store : Store) (operator : String) : Bool :=
  (store.record? (Key.validator operator) : Option Validator).isSome

/-- The answer to the message and what is booked for it, if it can be carried out. -/
def plan? (parameters : Parameters) (block : Block) (store : Store) :
    (message : Message) → Option (message.Answer × List Booking)
  | .delegate delegator operator coin =>
    if coin.denom = parameters.bondDenom ∧ registered store operator then
      ((balance store delegator).sub? coin.amount).map fun left =>
        ((), [.balance left, .bond operator coin.amount])
    else none
  | .undelegate delegator operator coin =>
    if coin.denom = parameters.bondDenom ∧ registered store operator ∧
        coin.amount.toNat * shareUnit.toNat ≤ held store delegator operator then
      (completionTime parameters block).map fun time =>
        (time, [.unbond operator coin.amount,
          .unbonding operator (unbondingEntries store delegator operator ++
            [⟨block.height, time, coin.amount, coin.amount⟩])])
    else none
  | .redelegate delegator source destination coin =>
    if source ≠ destination ∧ coin.denom = parameters.bondDenom ∧ registered store source ∧
        registered store destination ∧
        coin.amount.toNat * shareUnit.toNat ≤ held store delegator source then do
      let shares ← coin.amount.mul? shareUnit
      let time ← completionTime parameters block
      return (time, [.unbond source coin.amount, .bond destination coin.amount,
        .redelegations source destination (redelegations store delegator source destination ++
          [⟨block.height, time, coin.amount, shares⟩])])
    else none
  | .cancelUnbonding delegator operator coin height =>
    if coin.denom = parameters.bondDenom ∧ registered store operator then
      (takeBack height block.time coin.amount
        (unbondingEntries store delegator operator)).toOption.map fun entries =>
          ((), [.unbonding operator entries, .bond operator coin.amount])
    else none

section Cases

variable {parameters : Parameters} {block : Block} {store : Store} {delegator : Address}
  {operator : String} {coin : Coin} {bookings : List Booking}

/-- The plan of a delegation takes from the balance and bonds. -/
theorem plan?_delegate_eq_some_iff {a : Unit} :
    plan? parameters block store (.delegate delegator operator coin) = some (a, bookings) ↔
      (coin.denom = parameters.bondDenom ∧ registered store operator = true) ∧
        ∃ left, (balance store delegator).sub? coin.amount = some left ∧
          bookings = [.balance left, .bond operator coin.amount] := by
  rw [plan?, Option.ite_none_right_eq_some, Option.map_eq_some_iff]
  refine and_congr_right fun _ => exists_congr fun left => and_congr_right fun _ => ?_
  rw [Prod.mk.injEq, and_iff_right rfl, eq_comm]

/-- The plan of an undelegation unbonds, and notes what is on its way. -/
theorem plan?_undelegate_eq_some_iff {time : UInt64} :
    plan? parameters block store (.undelegate delegator operator coin) = some (time, bookings) ↔
      (coin.denom = parameters.bondDenom ∧ registered store operator = true ∧
        coin.amount.toNat * shareUnit.toNat ≤ held store delegator operator) ∧
        completionTime parameters block = some time ∧
          bookings = [.unbond operator coin.amount,
            .unbonding operator (unbondingEntries store delegator operator ++
              [⟨block.height, time, coin.amount, coin.amount⟩])] := by
  rw [plan?, Option.ite_none_right_eq_some, Option.map_eq_some_iff]
  refine and_congr_right fun _ => ⟨?_, ?_⟩
  · rintro ⟨finish, hfinish, heq⟩
    obtain ⟨rfl, rfl⟩ := Prod.mk.inj heq
    exact ⟨hfinish, rfl⟩
  · rintro ⟨hfinish, rfl⟩
    exact ⟨time, hfinish, rfl⟩

/-- The plan of a redelegation unbonds and bonds, and notes what has been moved. -/
theorem plan?_redelegate_eq_some_iff {source destination : String} {time : UInt64} :
    plan? parameters block store (.redelegate delegator source destination coin) =
        some (time, bookings) ↔
      (source ≠ destination ∧ coin.denom = parameters.bondDenom ∧
        registered store source = true ∧ registered store destination = true ∧
        coin.amount.toNat * shareUnit.toNat ≤ held store delegator source) ∧
        ∃ shares, coin.amount.mul? shareUnit = some shares ∧
          completionTime parameters block = some time ∧
          bookings = [.unbond source coin.amount, .bond destination coin.amount,
            .redelegations source destination (redelegations store delegator source destination ++
              [⟨block.height, time, coin.amount, shares⟩])] := by
  rw [plan?, Option.ite_none_right_eq_some]
  refine and_congr_right fun _ => Option.bind_eq_some_iff.trans (exists_congr fun shares => ?_)
  refine and_congr_right fun _ => Option.bind_eq_some_iff.trans ⟨?_, ?_⟩
  · rintro ⟨finish, hfinish, heq⟩
    obtain ⟨rfl, rfl⟩ := Prod.mk.inj (Option.some.inj heq)
    exact ⟨hfinish, rfl⟩
  · rintro ⟨hfinish, rfl⟩
    exact ⟨time, hfinish, rfl⟩

/-- The plan of cancelling an unbonding takes back from what is on its way, and bonds. -/
theorem plan?_cancelUnbonding_eq_some_iff {height : Int64} {a : Unit} :
    plan? parameters block store (.cancelUnbonding delegator operator coin height) =
        some (a, bookings) ↔
      (coin.denom = parameters.bondDenom ∧ registered store operator = true) ∧
        ∃ entries, takeBack height block.time coin.amount
            (unbondingEntries store delegator operator) = .ok entries ∧
          bookings = [.unbonding operator entries, .bond operator coin.amount] := by
  rw [plan?, Option.ite_none_right_eq_some, Option.map_eq_some_iff]
  refine and_congr_right fun _ => exists_congr fun entries => ?_
  rw [toOption_eq_some_iff, Prod.mk.injEq, and_iff_right rfl, eq_comm (a := bookings)]

end Cases

/-! ### What a plan depends on -/

section Congruence

variable {parameters : Parameters} {block : Block} {account : Address} {one other : Store}

/-- The balance of the account is the same where its records are. -/
theorem AgreeOn.balance_eq (h : AgreeOn account one other) :
    balance one account = balance other account := by
  rw [balance, balance, h _ .balance]

/-- So is what is on its way back to it. -/
theorem AgreeOn.unbondingEntries_eq (h : AgreeOn account one other) (operator : String) :
    unbondingEntries one account operator = unbondingEntries other account operator := by
  rw [unbondingEntries, unbondingEntries, record?_congr (h _ (.unbonding operator))]

/-- So is what it has moved. -/
theorem AgreeOn.redelegations_eq (h : AgreeOn account one other) (source destination : String) :
    redelegations one account source destination =
      redelegations other account source destination := by
  rw [redelegations, redelegations, h _ (.redelegation source destination)]

/-- **A plan depends on the records of the delegator**, and on which validators there are. -/
theorem plan?_congr {message : Message} (h : AgreeOn message.delegator one other)
    (hregistered : ∀ operator, registered one operator = registered other operator) :
    plan? parameters block one message = plan? parameters block other message := by
  cases message with
  | delegate delegator operator coin =>
      dsimp only [Message.delegator] at h
      rw [plan?, plan?, hregistered, h.balance_eq]
  | undelegate delegator operator coin =>
      dsimp only [Message.delegator] at h
      rw [plan?, plan?, hregistered, h.held_eq, h.unbondingEntries_eq]
  | redelegate delegator source destination coin =>
      dsimp only [Message.delegator] at h
      rw [plan?, plan?, hregistered, hregistered, h.held_eq, h.redelegations_eq]
  | cancelUnbonding delegator operator coin height =>
      dsimp only [Message.delegator] at h
      rw [plan?, plan?, hregistered, h.unbondingEntries_eq]

end Congruence

/-! ### Entries -/

/-- What is left of an entry when the amount is taken back out of it. -/
def lessened (amount : Uint256) (entry : UnbondingEntry) : UnbondingEntry :=
  { entry with
    initialBalance := entry.initialBalance.truncatedSub amount
    balance := entry.balance.truncatedSub amount }

/-- The amount is taken back out of the first entry, of which nothing is left or something is, or
out of those after it. -/
theorem takeBack_cons_eq_ok {height : Int64} {now : UInt64} {amount : Uint256}
    {entry : UnbondingEntry} {entries left : List UnbondingEntry}
    (h : takeBack height now amount (entry :: entries) = .ok left) :
    (entry.balance = amount ∧ left = entries) ∨
      (amount < entry.balance ∧ left = lessened amount entry :: entries) ∨
      ∃ rest, takeBack height now amount entries = .ok rest ∧ left = entry :: rest := by
  rw [takeBack] at h
  split at h
  · split at h
    · cases h
    split at h
    · cases h
    next hfits =>
    have hle : amount.toNat ≤ entry.balance.toNat := Nat.le_of_not_lt hfits
    dsimp only at h
    split at h
    · next hnothing =>
        have hzero : entry.balance.toNat - amount.toNat = 0 := congrArg Uint256.toNat hnothing
        exact .inl ⟨Uint256.ext (by omega), (Except.ok.inj h).symm⟩
    · next hsome =>
        have hne : entry.balance.toNat - amount.toNat ≠ 0 := fun hzero =>
          hsome (Uint256.ext hzero)
        have hlt : amount.toNat < entry.balance.toNat := by omega
        exact .inr (.inl ⟨hlt, (Except.ok.inj h).symm⟩)
  · obtain ⟨rest, hrest, rfl⟩ := map_eq_ok_iff.mp h
    exact .inr (.inr ⟨rest, hrest, rfl⟩)

/-- **What is taken back was on its way.** -/
theorem pending_takeBack {height : Int64} {now : UInt64} {amount : Uint256}
    {entries left : List UnbondingEntry} (h : takeBack height now amount entries = .ok left) :
    Record.pending left + amount.toNat = Record.pending entries := by
  induction entries generalizing left with
  | nil => cases h
  | cons entry entries ih =>
      simp only [Record.pending, List.map_cons, List.sum_cons] at ih ⊢
      obtain ⟨rfl, rfl⟩ | ⟨hlt, rfl⟩ | ⟨rest, hrest, rfl⟩ := takeBack_cons_eq_ok h
      · exact Nat.add_comm ..
      · have hless : (lessened amount entry).balance.toNat + amount.toNat = entry.balance.toNat :=
          Nat.sub_add_cancel (Nat.le_of_lt hlt)
        rw [List.map_cons, List.sum_cons]
        omega
      · have hpending := ih hrest
        rw [List.map_cons, List.sum_cons]
        omega

/-! ### Messages -/

variable {parameters : Parameters} {delegator : Address} {operator : String} {coin : Coin}
  {block : Block} {depth : Nat} {store after : Store} {supply : Nat}

/-- An unbonding that is read, or begun where there is none, has the entries that are on their
way. -/
theorem getD_unbonding {P : Record → Prop} (h : store.ForallRecords P) (delegator : Address)
    (operator : String) :
    (store.record? (Key.unbonding delegator operator)).getD
        (⟨delegator, operator, []⟩ : UnbondingDelegation) =
      ⟨delegator, operator, unbondingEntries store delegator operator⟩ := by
  cases hread : (store.record? (Key.unbonding delegator operator) : Option UnbondingDelegation) with
  | none => rw [unbondingEntries, hread, Option.getD_none, Option.elim_none]
  | some u => rw [Option.getD_some, eq_of_record?_unbonding h hread]

/-- An unbonding is kept under its own key. -/
theorem effect_save_unbonding (delegator : Address) (operator : String)
    (entries : List UnbondingEntry) :
    (save (Key.unbonding delegator operator)
        (⟨delegator, operator, entries⟩ : UnbondingDelegation)).effect block depth store =
      .ok ((), store.keep (.unbonding ⟨delegator, operator, entries⟩)) := rfl

/-- An unbonding is kept, or deleted, and the transition goes on. -/
theorem effect_setUnbonding_bind {β : Type} (delegator : Address) (operator : String)
    (entries : List UnbondingEntry) (rest : Transition β) :
    (if entries = [] then Transition.remove (Key.unbonding delegator operator) >>= fun _ => rest
      else save (Key.unbonding delegator operator)
        (⟨delegator, operator, entries⟩ : UnbondingDelegation) >>= fun _ => rest).effect block depth
          store = rest.effect block depth (store.setUnbonding delegator operator entries) := by
  rw [Store.setUnbonding]
  split
  · exact Transition.effect_bind_of_ok (Transition.effect_remove ..)
  · exact Transition.effect_bind_of_ok (effect_save_unbonding ..)

/-- Redelegations are kept under the key of the account and the two validators. -/
theorem effect_save_redelegations (delegator : Address) (source destination : String)
    (entries : List Redelegation) :
    (save (Key.redelegation delegator source destination) entries).effect block depth store =
      .ok ((), store.keep (.redelegations delegator (pair source destination) entries)) := by
  rw [effect_save, ← key_redelegations delegator source destination entries]
  rfl

/-- Unbonding leaves what is on its way. -/
theorem unbondingEntries_of_unbond {tokens : Uint256}
    (h : (Booking.unbond operator tokens).Changes delegator store after) (name : String) :
    unbondingEntries after delegator name = unbondingEntries store delegator name := by
  have hget := get?_of_unbond h ((Key.IsOwn.unbonding name).ne_validator operator)
    (unbonding_ne_delegation delegator delegator name operator)
  rw [unbondingEntries, unbondingEntries, record?_congr hget]

/-- Unbonding leaves what has been moved. -/
theorem redelegations_of_unbond {tokens : Uint256}
    (h : (Booking.unbond operator tokens).Changes delegator store after) (other : Address)
    (source destination : String) :
    redelegations after other source destination =
      redelegations store other source destination := by
  have hget := get?_of_unbond h ((Key.IsOwn.redelegation source destination).ne_validator operator)
    (redelegation_ne_delegation other delegator source destination operator)
  rw [redelegations, redelegations, hget]

/-- So does bonding. -/
theorem redelegations_of_bond {tokens : Uint256}
    (h : (Booking.bond operator tokens).Changes delegator store after) (other : Address)
    (source destination : String) :
    redelegations after other source destination =
      redelegations store other source destination := by
  have hget := get?_of_bond h ((Key.IsOwn.redelegation source destination).ne_validator operator)
    (redelegation_ne_delegation other delegator source destination operator)
  rw [redelegations, redelegations, hget]

/-- Unbonding leaves the other validators. -/
theorem record?_validator_of_unbond {tokens : Uint256}
    (h : (Booking.unbond operator tokens).Changes delegator store after) {name : String}
    (hname : operator ≠ name) :
    (after.record? (Key.validator name) : Option Validator) =
      store.record? (Key.validator name) := by
  refine record?_congr (get?_of_unbond h (fun hkey => hname (Key.validator_inj.mp hkey).symm) ?_)
  exact ((Key.IsOwn.delegation operator).ne_validator name).symm

/-- A validator that is in the store is registered. -/
theorem registered_of_eq_some {v : Validator}
    (hv : store.record? (Key.validator operator) = some v) : registered store operator = true := by
  rw [registered, hv, Option.isSome_some]

namespace Books

/-- Bonding is a booking, and it issues one share for each token. -/
theorem changes_of_bond (h : Books store supply) {v : Validator}
    (hv : store.record? (Key.validator operator) = some v) {tokens shares : Uint256}
    (heffect : (bond delegator v tokens).effect block depth store = .ok (shares, after)) :
    shares.toNat = tokens.toNat * shareUnit.toNat ∧
      (Booking.bond operator tokens).Changes delegator store after := by
  obtain ⟨rfl, hexact⟩ := h.isExact hv
  obtain ⟨hshares, bonded, left, hr, hafter⟩ := restake_of_bond h.sound hexact hv heffect
  exact ⟨hshares, v, bonded, left, rfl, hr, hafter⟩

/-- Unbonding is a booking, and it releases what it was asked for. -/
theorem changes_of_unbond (h : Books store supply) {v : Validator}
    (hv : store.record? (Key.validator operator) = some v) {tokens released : Uint256}
    (heffect : (unbond delegator v tokens).effect block depth store = .ok (released, after)) :
    released = tokens ∧ tokens.toNat * shareUnit.toNat ≤ held store delegator operator ∧
      (Booking.unbond operator tokens).Changes delegator store after := by
  obtain ⟨rfl, hexact⟩ := h.isExact hv
  obtain ⟨hreleased, unbonded, left, hr, hafter⟩ := restake_of_unbond h.sound hexact hv heffect
  have hshares := hr.shares
  exact ⟨hreleased, by omega, v, unbonded, left, rfl, hr, hafter⟩

/-- **A delegation** that succeeds does what is planned. -/
theorem exists_plan_delegate (h : Books store supply) {a : Unit}
    (heffect : (delegate parameters delegator operator coin).effect block 0 store =
      .ok (a, after)) :
    ∃ bookings, plan? parameters block store (.delegate delegator operator coin) =
      some (a, bookings) ∧ Changes delegator bookings store after := by
  rw [Reference.delegate, checkDenom, effect_require_bind_eq_ok_iff] at heffect
  obtain ⟨hdenom, heffect⟩ := heffect
  obtain ⟨v, hv, heffect⟩ := (effect_loadValidator_bind_eq_ok_iff h.sound).mp heffect
  obtain ⟨_, middle, hdebit, heffect⟩ := Transition.effect_bind_eq_ok_iff.mp heffect
  rw [Transition.effect_nested, effect_debit_eq_ok_iff h.sound] at hdebit
  obtain ⟨left, hleft, rfl⟩ := hdebit
  obtain ⟨rest, -, hmiddle⟩ := h.debit hleft
  obtain ⟨shares, last, hbond, heffect⟩ := Transition.effect_bind_eq_ok_iff.mp heffect
  obtain ⟨-, rfl⟩ := Prod.mk.inj (Except.ok.inj heffect)
  have hkind : (Record.balance delegator left).kind ≠ .validator := nofun
  obtain ⟨-, hbonded⟩ :=
    hmiddle.changes_of_bond ((record?_validator_keep hkind operator).trans hv) hbond
  exact ⟨_, plan?_delegate_eq_some_iff.mpr ⟨⟨hdenom, registered_of_eq_some hv⟩, left, hleft, rfl⟩,
    _, rfl, _, hbonded, rfl⟩

/-- **An undelegation** that succeeds does what is planned. -/
theorem exists_plan_undelegate (h : Books store supply) {time : UInt64}
    (heffect : (undelegate parameters delegator operator coin).effect block depth store =
      .ok (time, after)) :
    ∃ bookings, plan? parameters block store (.undelegate delegator operator coin) =
      some (time, bookings) ∧ Changes delegator bookings store after := by
  rw [Reference.undelegate, checkDenom, effect_require_bind_eq_ok_iff] at heffect
  obtain ⟨hdenom, heffect⟩ := heffect
  obtain ⟨v, hv, heffect⟩ := (effect_loadValidator_bind_eq_ok_iff h.sound).mp heffect
  obtain ⟨released, middle, hunbond, heffect⟩ := Transition.effect_bind_eq_ok_iff.mp heffect
  obtain ⟨rfl, hheld, hunbonded⟩ := h.changes_of_unbond hv hunbond
  obtain ⟨rest, -, hmiddle⟩ := h.of_unbond hunbonded
  rw [Transition.effect_bind_of_ok (Transition.effect_block ..), effect_orRefuse_bind_eq_ok_iff]
    at heffect
  obtain ⟨finish, hfinish, heffect⟩ := heffect
  rw [Transition.effect_bind_of_ok
    ((isSlot_unbonding delegator operator).effect_load hmiddle.sound ..)] at heffect
  rw [getD_unbonding hmiddle.sound, Transition.effect_bind_of_ok (effect_save_unbonding ..)]
    at heffect
  obtain ⟨rfl, rfl⟩ := Prod.mk.inj (Except.ok.inj heffect)
  let entries := unbondingEntries store delegator operator ++
    [⟨block.height, finish, coin.amount, coin.amount⟩]
  have hsome : entries ≠ [] := List.append_ne_nil_of_right_ne_nil _ (List.cons_ne_nil _ _)
  refine ⟨_, plan?_undelegate_eq_some_iff.mpr
    ⟨⟨hdenom, registered_of_eq_some hv, hheld⟩, hfinish, rfl⟩, _, hunbonded, _, ?_, rfl⟩
  rw [unbondingEntries_of_unbond hunbonded]
  exact (if_neg hsome).symm

/-- **A redelegation** that succeeds does what is planned. -/
theorem exists_plan_redelegate (h : Books store supply) {source destination : String}
    {time : UInt64}
    (heffect : (redelegate parameters delegator source destination coin).effect block depth store =
      .ok (time, after)) :
    ∃ bookings, plan? parameters block store (.redelegate delegator source destination coin) =
      some (time, bookings) ∧ Changes delegator bookings store after := by
  rw [Reference.redelegate, checkDenom, effect_require_bind_eq_ok_iff,
    effect_require_bind_eq_ok_iff] at heffect
  obtain ⟨hdistinct, hdenom, heffect⟩ := heffect
  obtain ⟨v, hv, heffect⟩ := (effect_loadValidator_bind_eq_ok_iff h.sound).mp heffect
  obtain ⟨w, hw, heffect⟩ := (effect_loadValidator_bind_eq_ok_iff h.sound).mp heffect
  obtain ⟨released, middle, hunbond, heffect⟩ := Transition.effect_bind_eq_ok_iff.mp heffect
  obtain ⟨shares, last, hbond, heffect⟩ := Transition.effect_bind_eq_ok_iff.mp heffect
  obtain ⟨rfl, hheld, hunbonded⟩ := h.changes_of_unbond hv hunbond
  obtain ⟨rest, -, hmiddle⟩ := h.of_unbond hunbonded
  -- The destination was loaded before the source changed, and it has not changed since.
  have hw' : middle.record? (Key.validator destination) = some w := by
    rw [record?_validator_of_unbond hunbonded hdistinct, hw]
  obtain ⟨hshares, hbonded⟩ := hmiddle.changes_of_bond hw' hbond
  have hlast := hmiddle.of_bond hbonded
  rw [Transition.effect_bind_of_ok (Transition.effect_block ..), effect_orRefuse_bind_eq_ok_iff]
    at heffect
  obtain ⟨finish, hfinish, heffect⟩ := heffect
  rw [Transition.effect_bind_of_ok
    ((isSlot_redelegations delegator source destination).effect_load hlast.sound ..)] at heffect
  rw [Transition.effect_bind_of_ok (effect_save_redelegations ..)] at heffect
  obtain ⟨rfl, rfl⟩ := Prod.mk.inj (Except.ok.inj heffect)
  have hissued : coin.amount.mul? shareUnit = some shares := Uint256.mul?_eq_some_iff.mpr hshares
  refine ⟨_, plan?_redelegate_eq_some_iff.mpr ⟨⟨hdistinct, hdenom, registered_of_eq_some hv,
    registered_of_eq_some hw, hheld⟩, shares, hissued, hfinish, rfl⟩, _, hunbonded, _, hbonded, _,
    ?_, rfl⟩
  rw [← redelegations_of_unbond hunbonded, ← redelegations_of_bond hbonded]
  rfl

/-- **Cancelling an unbonding**, if it succeeds, does what is planned. -/
theorem exists_plan_cancelUnbonding (h : Books store supply) {height : Int64} {a : Unit}
    (heffect : (cancelUnbonding parameters delegator operator coin height).effect block depth
      store = .ok (a, after)) :
    ∃ bookings, plan? parameters block store (.cancelUnbonding delegator operator coin height) =
      some (a, bookings) ∧ Changes delegator bookings store after := by
  rw [Reference.cancelUnbonding, checkDenom, effect_require_bind_eq_ok_iff] at heffect
  obtain ⟨hdenom, heffect⟩ := heffect
  obtain ⟨v, hv, heffect⟩ := (effect_loadValidator_bind_eq_ok_iff h.sound).mp heffect
  rw [Transition.effect_bind_of_ok ((isSlot_unbonding delegator operator).effect_load h.sound ..),
    effect_orRefuse_bind_eq_ok_iff] at heffect
  obtain ⟨u, hu, heffect⟩ := heffect
  obtain rfl := eq_of_record?_unbonding h.sound hu
  rw [Transition.effect_bind_of_ok (Transition.effect_block ..)] at heffect
  dsimp only at heffect
  cases htaken : takeBack height block.time coin.amount
      (unbondingEntries store delegator operator) with
  | error fault =>
      rw [htaken] at heffect
      cases heffect
  | ok entries =>
      rw [htaken] at heffect
      dsimp only at heffect
      rw [effect_setUnbonding_bind] at heffect
      obtain ⟨shares, last, hbond, heffect⟩ := Transition.effect_bind_eq_ok_iff.mp heffect
      obtain ⟨-, rfl⟩ := Prod.mk.inj (Except.ok.inj heffect)
      -- What is taken back leaves the supply before it is bonded.
      have hwithin := h.pending_le delegator operator
      have hpending := pending_takeBack htaken
      have hmiddle : Books (store.setUnbonding delegator operator entries)
          (supply - coin.amount.toNat) :=
        h.of_unbonding (show (Booking.unbonding operator entries).Changes _ _ _ from rfl) (by omega)
      have hv' : (store.setUnbonding delegator operator entries).record?
          (Key.validator operator) = some v := by
        rw [record?_validator_setUnbonding, hv]
      obtain ⟨-, hbonded⟩ := hmiddle.changes_of_bond hv' hbond
      exact ⟨_, plan?_cancelUnbonding_eq_some_iff.mpr
        ⟨⟨hdenom, registered_of_eq_some hv⟩, entries, htaken, rfl⟩, _, rfl, _, hbonded, rfl⟩

/-- **Messages that succeed do what is planned.** -/
theorem exists_plan (h : Books store supply) {message : Message} {answer : message.Answer}
    (heffect : ((stakingModule parameters).execute message).effect block 0 store =
      .ok (answer, after)) :
    ∃ bookings, plan? parameters block store message = some (answer, bookings) ∧
      Changes message.delegator bookings store after := by
  cases message with
  | delegate delegator operator coin => exact h.exists_plan_delegate heffect
  | undelegate delegator operator coin => exact h.exists_plan_undelegate heffect
  | redelegate delegator source destination coin => exact h.exists_plan_redelegate heffect
  | cancelUnbonding delegator operator coin height => exact h.exists_plan_cancelUnbonding heffect

end Books

end StakingGateway.Reference
