import StakingGateway.Proofs.Reference.Plans

/-!
# What Messages Do to the Books

The four messages of the reference module are made of the moves of its books, put together so that
nothing is left over: what a message takes out in one place it puts in at another. So a store whose
books are in order is left with its books in order and with the same supply, whatever message
succeeds (`Books.execute`). Along the way, undelegations and redelegations release exactly what they
were asked for.

## Main definitions

* `Reference.bonded`: the tokens bonded to a validator.

## Main statements

* `Books.of_plan`: what is planned leaves the books in order, and the supply as it was.
* `Books.execute`: and so do messages.
* `Books.undelegate`, `Books.redelegate`: what is released is what was asked for.
-/

namespace StakingGateway

namespace Reference

/-- The tokens bonded to the validator, if it is there. -/
def bonded (store : Store) (operator : String) : Option Nat :=
  (store.record? (Key.validator operator)).map fun v : Validator => v.tokens.toNat

variable {parameters : Parameters} {delegator : Address} {operator : String} {coin : Coin}
  {block : Block} {depth : Nat} {store after : Store} {supply : Nat}

/-! ### Records -/

/-- The entries that have been set are on their way. -/
theorem unbondingEntries_setUnbonding (store : Store) (delegator : Address) (operator : String)
    (entries : List UnbondingEntry) :
    unbondingEntries (store.setUnbonding delegator operator entries) delegator operator =
      entries := by
  rw [unbondingEntries, record?_setUnbonding_self]
  split
  · next hnothing => rw [hnothing, Option.elim_none]
  · rw [Option.elim_some]

/-- The redelegations that have been kept are read. -/
theorem redelegations_keep (store : Store) (delegator : Address) (source destination : String)
    (entries : List Redelegation) :
    redelegations (store.keep (.redelegations delegator (pair source destination) entries))
      delegator source destination = entries := by
  have hread : (store.keep (.redelegations delegator (pair source destination) entries)).record?
      (Record.redelegations delegator (pair source destination) entries).key = some entries :=
    record?_keep_self rfl store
  rw [key_redelegations] at hread
  exact (congrArg (fun found => Option.getD found []) hread)

/-- Entries that are written down behind the others come on top of them. -/
theorem pending_append (entries : List UnbondingEntry) (entry : UnbondingEntry) :
    Record.pending (entries ++ [entry]) = Record.pending entries + entry.balance.toNat := by
  rw [Record.pending, List.map_append, List.sum_append, List.map_singleton, List.sum_singleton,
    Record.pending]

/-- Bookings add to what is bonded to a validator, and take from it. -/
theorem Changes.bonded {bookings : List Booking} (h : Changes delegator bookings store after)
    (hregistered : registered store operator = true) :
    ∃ n n', bonded store operator = some n ∧ bonded after operator = some n' ∧
      n' + losses operator bookings = n + gains operator bookings := by
  obtain ⟨v, hv⟩ := Option.isSome_iff_exists.mp hregistered
  obtain ⟨v', hv', hshifted⟩ := h.exists_validator hv
  refine ⟨v.tokens.toNat, v'.tokens.toNat, ?_, ?_, hshifted.tokens⟩
  · rw [Reference.bonded, hv, Option.map_some]
  · rw [Reference.bonded, hv', Option.map_some]

/-! ### Messages -/

namespace Books

/-- **What is planned leaves the books in order, and the supply as it was.** -/
theorem of_plan (h : Books store supply) {message : Message} {answer : message.Answer}
    {bookings : List Booking}
    (hplan : plan? parameters block store message = some (answer, bookings))
    (hchanges : Changes message.delegator bookings store after) : Books after supply := by
  cases message with
  | delegate delegator operator coin =>
      dsimp only [Message.delegator] at hchanges
      obtain ⟨-, left, hleft, rfl⟩ := plan?_delegate_eq_some_iff.mp hplan
      obtain ⟨_, rfl, last, hbond, rfl⟩ := hchanges
      obtain ⟨rest, rfl, hmiddle⟩ := h.debit hleft
      exact hmiddle.of_bond hbond
  | undelegate delegator operator coin =>
      dsimp only [Message.delegator] at hchanges
      obtain ⟨-, -, rfl⟩ := plan?_undelegate_eq_some_iff.mp hplan
      obtain ⟨middle, hunbond, last, hunbonding, rfl⟩ := hchanges
      obtain ⟨rest, rfl, hmiddle⟩ := h.of_unbond hunbond
      refine hmiddle.of_unbonding hunbonding ?_
      rw [pending_append, unbondingEntries_of_unbond hunbond]
      dsimp only
      omega
  | redelegate delegator source destination coin =>
      dsimp only [Message.delegator] at hchanges
      obtain ⟨-, shares, -, -, rfl⟩ := plan?_redelegate_eq_some_iff.mp hplan
      obtain ⟨middle, hunbond, last, hbond, _, rfl, rfl⟩ := hchanges
      obtain ⟨rest, rfl, hmiddle⟩ := h.of_unbond hunbond
      exact (hmiddle.of_bond hbond).keep_redelegations ..
  | cancelUnbonding delegator operator coin height =>
      dsimp only [Message.delegator] at hchanges
      obtain ⟨-, entries, htaken, rfl⟩ := plan?_cancelUnbonding_eq_some_iff.mp hplan
      obtain ⟨middle, hunbonding, last, hbond, rfl⟩ := hchanges
      -- What is taken back leaves the supply, and bonding it brings it in again.
      have hwithin := h.pending_le delegator operator
      have hpending := pending_takeBack htaken
      have hmiddle : Books middle (supply - coin.amount.toNat) :=
        h.of_unbonding hunbonding (by omega)
      rw [← Nat.sub_add_cancel (show coin.amount.toNat ≤ supply by omega)]
      exact hmiddle.of_bond hbond

/-- **A message that succeeds leaves the books in order, and the supply as it was.** -/
theorem execute (h : Books store supply) {message : Message} {answer : message.Answer}
    (heffect : ((stakingModule parameters).execute message).effect block 0 store =
      .ok (answer, after)) : Books after supply := by
  obtain ⟨bookings, hplan, hchanges⟩ := h.exists_plan heffect
  exact h.of_plan hplan hchanges

/-- **Undelegating puts exactly the amount on its way back**, and takes exactly the amount from the
validator. -/
theorem undelegate (h : Books store supply) {time : UInt64}
    (heffect : (undelegate parameters delegator operator coin).effect block depth store =
      .ok (time, after)) :
    Books after supply ∧
      (∃ n, bonded store operator = some (n + coin.amount.toNat) ∧
        bonded after operator = some n) ∧
      unbondingEntries after delegator operator = unbondingEntries store delegator operator ++
        [⟨block.height, time, coin.amount, coin.amount⟩] := by
  obtain ⟨bookings, hplan, hchanges⟩ := h.exists_plan_undelegate heffect
  have hbooks := h.of_plan hplan hchanges
  obtain ⟨⟨-, hregistered, -⟩, -, rfl⟩ := plan?_undelegate_eq_some_iff.mp hplan
  obtain ⟨n, n', hn, hn', hsum⟩ := hchanges.bonded hregistered
  simp only [losses, gains, Booking.loss, Booking.gain, List.map_cons, List.map_nil, List.sum_cons,
    List.sum_nil, if_pos] at hsum
  obtain ⟨middle, hunbond, last, rfl, rfl⟩ := hchanges
  refine ⟨hbooks, ⟨n', ?_, hn'⟩, unbondingEntries_setUnbonding ..⟩
  rw [hn]
  congr 1
  omega

/-- **Redelegating moves exactly the amount** from the one validator to the other, and issues one
share for each token. -/
theorem redelegate (h : Books store supply) {source destination : String} {time : UInt64}
    (heffect : (redelegate parameters delegator source destination coin).effect block depth store =
      .ok (time, after)) :
    Books after supply ∧
      (∃ n, bonded store source = some (n + coin.amount.toNat) ∧ bonded after source = some n) ∧
      (∃ n, bonded store destination = some n ∧
        bonded after destination = some (n + coin.amount.toNat)) ∧
      ∃ shares : Uint256, shares.toNat = coin.amount.toNat * shareUnit.toNat ∧
        redelegations after delegator source destination =
          redelegations store delegator source destination ++
            [⟨block.height, time, coin.amount, shares⟩] := by
  obtain ⟨bookings, hplan, hchanges⟩ := h.exists_plan_redelegate heffect
  have hbooks := h.of_plan hplan hchanges
  obtain ⟨⟨hdistinct, -, hsource, hdestination, -⟩, shares, hshares, -, rfl⟩ :=
    plan?_redelegate_eq_some_iff.mp hplan
  obtain ⟨n, n', hn, hn', hsum⟩ := hchanges.bonded hsource
  obtain ⟨m, m', hm, hm', hsum'⟩ := hchanges.bonded hdestination
  simp only [losses, gains, Booking.loss, Booking.gain, List.map_cons, List.map_nil, List.sum_cons,
    List.sum_nil, if_pos, if_neg hdistinct, if_neg hdistinct.symm] at hsum hsum'
  obtain ⟨middle, -, last, -, _, rfl, rfl⟩ := hchanges
  refine ⟨hbooks, ⟨n', ?_, hn'⟩, ⟨m, hm, ?_⟩, shares, Uint256.mul?_eq_some_iff.mp hshares,
    redelegations_keep ..⟩
  · rw [hn]
    congr 1
    omega
  · rw [hm']
    congr 1
    omega

end Books

end Reference

end StakingGateway
