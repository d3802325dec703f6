import StakingGateway.Proofs.Gateway.Admission
import StakingGateway.Proofs.Reference.Plans

/-!
# Holders

Shares come to an account by a message in its name, about a validator that the message names. So who
holds shares is an account, and what it holds them of has a name (`Record.IsAttributed`): nothing is
held that could not be asked for.

## Main definitions

* `Record.IsAttributed`: records that are no holdings, or holdings of an account and of a validator
  with a name.

## Main statements

* `mem_validators_of_plan?`: what is bonded and unbonded is named in the message.
* `Books.forallRecords_isAttributed`: messages leave attributed holdings.
* `isAttributed_of_held`: whoever holds something is an account.
-/

namespace StakingGateway.Reference

/-- The record is no holding, or it is one of an account and of a validator with a name. -/
def Record.IsAttributed : Record → Prop
  | .holding account operator _ => account ≠ .zero ∧ ¬ Text.IsBlank operator
  | _ => True

variable {store after : Store} {supply : Nat}

/-- A booking may keep no other holdings if it books for an account, and bonds to validators with
names and unbonds from such. -/
theorem Booking.MayKeep.isAttributed {booking : Booking} {account : Address} {record : Record}
    (h : booking.MayKeep account record) (haccount : account ≠ .zero)
    (hnamed : ∀ operator tokens, booking = .bond operator tokens ∨
      booking = .unbond operator tokens → ¬ Text.IsBlank operator) : record.IsAttributed := by
  cases booking with
  | balance amount =>
      obtain rfl := h
      trivial
  | unbonding operator entries =>
      obtain ⟨-, rfl⟩ := h
      trivial
  | redelegations source destination entries =>
      obtain rfl := h
      trivial
  | bond operator tokens =>
      obtain ⟨v, rfl⟩ | ⟨shares, rfl, -⟩ := h
      · trivial
      · exact ⟨haccount, hnamed operator tokens (.inl rfl)⟩
  | unbond operator tokens =>
      obtain ⟨v, rfl⟩ | ⟨shares, rfl, -⟩ := h
      · trivial
      · exact ⟨haccount, hnamed operator tokens (.inr rfl)⟩

/-- **What is bonded and unbonded by a plan** is named in the message. -/
theorem mem_validators_of_plan? {parameters : Parameters} {block : Block} {message : Message}
    {answer : message.Answer} {bookings : List Booking} {operator : String} {tokens : Uint256}
    (h : plan? parameters block store message = some (answer, bookings))
    (hmem : .bond operator tokens ∈ bookings ∨ .unbond operator tokens ∈ bookings) :
    operator ∈ message.validators := by
  cases message with
  | delegate delegator name coin =>
      obtain ⟨-, left, -, rfl⟩ := plan?_delegate_eq_some_iff.mp h
      obtain ⟨rfl, -⟩ : operator = name ∧ tokens = coin.amount := by simpa using hmem
      exact List.mem_singleton_self operator
  | undelegate delegator name coin =>
      obtain ⟨-, -, rfl⟩ := plan?_undelegate_eq_some_iff.mp h
      obtain ⟨rfl, -⟩ : operator = name ∧ tokens = coin.amount := by simpa using hmem
      exact List.mem_singleton_self operator
  | redelegate delegator source destination coin =>
      obtain ⟨-, shares, -, -, rfl⟩ := plan?_redelegate_eq_some_iff.mp h
      obtain ⟨rfl, -⟩ | ⟨rfl, -⟩ : operator = destination ∧ tokens = coin.amount ∨
          operator = source ∧ tokens = coin.amount := by simpa using hmem
      · exact List.mem_cons_of_mem source (List.mem_singleton_self operator)
      · exact List.mem_cons_self
  | cancelUnbonding delegator name coin height =>
      obtain ⟨-, entries, -, rfl⟩ := plan?_cancelUnbonding_eq_some_iff.mp h
      obtain ⟨rfl, -⟩ : operator = name ∧ tokens = coin.amount := by simpa using hmem
      exact List.mem_singleton_self operator

/-- **Admissible messages leave attributed holdings.** -/
theorem Books.forallRecords_isAttributed (h : Books store supply)
    (hstore : store.ForallRecords Record.IsAttributed) {parameters : Parameters} {call : Call}
    {message : Message} (hadmissible : message.IsAdmissible call) {answer : message.Answer}
    (heffect : ((stakingModule parameters).execute message).effect call.block 0 store =
      .ok (answer, after)) : after.ForallRecords Record.IsAttributed := by
  obtain ⟨bookings, hplan, hchanges⟩ := h.exists_plan heffect
  refine hchanges.forallRecords hstore fun booking hmem record hkept => ?_
  refine hkept.isAttributed hadmissible.account fun operator tokens hbooking => ?_
  refine hadmissible.not_isBlank (mem_validators_of_plan? hplan (?_ :
    .bond operator tokens ∈ bookings ∨ .unbond operator tokens ∈ bookings))
  rcases hbooking with rfl | rfl
  · exact .inl hmem
  · exact .inr hmem

/-- **Whoever holds something is an account**, and holds it of a validator with a name. -/
theorem isAttributed_of_held (h : store.ForallRecords Record.IsAttributed) {account : Address}
    {operator : String} (hheld : 0 < held store account operator) :
    account ≠ .zero ∧ ¬ Text.IsBlank operator := by
  rw [held] at hheld
  cases hread : (store.record? (Key.delegation account operator) : Option Holding) with
  | none =>
      rw [hread] at hheld
      cases hheld
  | some holding =>
      obtain ⟨-, hkeeps⟩ := ((isSlot_holding account operator).record?_eq_some_iff h).mp hread
      exact h.of_keeps hkeeps

end StakingGateway.Reference
