import StakingGateway.Proofs.Gateway.Admission
import StakingGateway.Proofs.Reference.Messages
import StakingGateway.Proofs.Reference.TokenCount

/-!
# Counting the Shares of a Validator

The shares that accounts hold of a validator can be counted: read all octets under the keys of
delegations to it, whoever the account is, and add up what they stand for
(`Reference.sharesHeld?`). In a store whose books are in order, that gives what the validator has
issued (`Books.sharesHeld?_eq`).

Accounts that hold nothing are not kept (`Record.IsHeld`): unbonding deletes what would be a holding
of nothing, and no message bonds nothing. A validator of which somebody holds something has issued
something, and so it is there (`Books.exists_validator`).

## Main definitions

* `Key.isDelegationTo`: the keys of delegations to a validator.
* `Reference.sharesHeld?`: the count of the shares of a validator.
* `Record.IsHeld`: records that are no holdings of nothing.

## Main statements

* `Books.sharesHeld?_eq`: the count gives the shares that have been issued.
* `Books.exists_validator`: accounts hold shares of validators that are there.
* `Books.forallRecords_isHeld`: messages of an amount leave no holdings of nothing.
-/

namespace StakingGateway.Reference

/-- Whether the key is that of some account's delegation to the validator. -/
def Key.isDelegationTo (operator : String) (key : Bytes) : Bool :=
  (Address.ofOctets? ((key.drop Key.delegations.length).take 20)).any fun delegator =>
    key = Key.delegation delegator operator

/-- The shares that accounts hold of the validator, over all records of delegations to it, if all of
these read back. -/
def sharesHeld? (store : Store) (operator : String) : Option Nat := do
  let holdings : List Holding ← ((ByteMap.entries store).filter fun entry =>
    Key.isDelegationTo operator entry.1).mapM fun entry => Json.decode? entry.2
  return (holdings.map (·.shares.toNat)).sum

/-- The key is that of an account's delegation to the validator. -/
theorem Key.isDelegationTo_iff {operator : String} {key : Bytes} :
    Key.isDelegationTo operator key = true ↔
      ∃ delegator, key = Key.delegation delegator operator := by
  rw [isDelegationTo, Option.any_eq_true]
  constructor
  · rintro ⟨delegator, -, hkey⟩
    exact ⟨delegator, of_decide_eq_true hkey⟩
  · rintro ⟨delegator, rfl⟩
    refine ⟨delegator, ?_, decide_eq_true rfl⟩
    rw [Key.delegation, List.append_assoc, List.append_assoc, List.drop_left,
      List.take_left' delegator.length_octets, Address.ofOctets?, dif_pos delegator.length_octets]

variable {store after : Store} {supply : Nat} {operator : String}

/-- **The count of a validator's shares** is what the validator has issued. -/
theorem Books.sharesHeld?_eq (h : Books store supply) (operator : String) :
    sharesHeld? store operator = some (issued store operator) := by
  have hread : ∀ record : Record, Key.isDelegationTo operator record.key = true →
      ∃ holding : Holding, Json.decode? record.octets = some holding ∧
        holding.shares.toNat = record.sharesOf operator := by
    intro record hkey
    obtain ⟨delegator, hkey⟩ := Key.isDelegationTo_iff.mp hkey
    obtain ⟨holding, rfl⟩ := (isSlot_holding delegator operator).exists_eq record hkey
    exact ⟨holding, Json.decode?_encode holding, (if_pos rfl).symm⟩
  have hskip : ∀ record : Record, ¬ Key.isDelegationTo operator record.key = true →
      record.sharesOf operator = 0 := by
    intro record hkey
    cases record with
    | holding delegator name holding =>
        refine if_neg fun hname => hkey (Key.isDelegationTo_iff.mpr ⟨delegator, ?_⟩)
        rw [hname]
        rfl
    | balance | validator | unbonding | redelegations => rfl
  obtain ⟨holdings, hholdings, hsum⟩ := exists_mapM_filter_eq h.sound hread hskip
  rw [sharesHeld?, hholdings, ← h.shares, ← hsum]
  rfl

/-! ### Holdings of something -/

/-- The record is no holding of nothing. -/
def Record.IsHeld : Record → Prop
  | .holding _ _ stored => 0 < stored.shares.toNat
  | _ => True

/-- **Accounts hold shares of validators that are there.** -/
theorem Books.exists_validator (h : Books store supply) {delegator : Address} {holding : Holding}
    (hholding : store.record? (Key.delegation delegator operator) = some holding)
    (hpos : 0 < holding.shares.toNat) :
    ∃ v : Validator, store.record? (Key.validator operator) = some v := by
  have hle := h.held_le delegator operator
  refine Option.ne_none_iff_exists'.mp fun hnone => ?_
  rw [held, hholding, Option.elim_some, issued, hnone, Option.elim_none] at hle
  omega

/-- A booking may keep no holding of nothing, unless it bonds nothing. -/
theorem Booking.MayKeep.isHeld {booking : Booking} {account : Address} {record : Record}
    (h : booking.MayKeep account record)
    (hpos : ∀ operator tokens, booking = .bond operator tokens → 0 < tokens.toNat) :
    record.IsHeld := by
  cases booking with
  | balance amount =>
      obtain rfl := h
      trivial
  | unbonding operator entries =>
      obtain ⟨-, rfl⟩ := h
      trivial
  | redelegations source destination entries =>
      obtain rfl := h
      trivial
  | bond operator tokens =>
      obtain ⟨v, rfl⟩ | ⟨shares, rfl, hissued⟩ := h
      · trivial
      · have hbonded : 0 < tokens.toNat * shareUnit.toNat :=
          Nat.mul_pos (hpos operator tokens rfl) (by decide)
        exact Nat.lt_of_lt_of_le hbonded hissued
  | unbond operator tokens =>
      obtain ⟨v, rfl⟩ | ⟨shares, rfl, hleft⟩ := h
      · trivial
      · exact hleft

/-- What is bonded by a plan is the amount of the message. -/
theorem eq_amount_of_plan? {parameters : Parameters} {block : Block} {message : Message}
    {answer : message.Answer} {bookings : List Booking} {tokens : Uint256}
    (h : plan? parameters block store message = some (answer, bookings))
    (hmem : .bond operator tokens ∈ bookings) : tokens = message.coin.amount := by
  cases message with
  | delegate delegator name coin =>
      obtain ⟨-, left, -, rfl⟩ := plan?_delegate_eq_some_iff.mp h
      have hbond : Booking.bond operator tokens = .bond name coin.amount := by simpa using hmem
      exact (Booking.bond.inj hbond).2
  | undelegate delegator name coin =>
      obtain ⟨-, -, rfl⟩ := plan?_undelegate_eq_some_iff.mp h
      simp at hmem
  | redelegate delegator source destination coin =>
      obtain ⟨-, shares, -, -, rfl⟩ := plan?_redelegate_eq_some_iff.mp h
      have hbond : Booking.bond operator tokens = .bond destination coin.amount := by
        simpa using hmem
      exact (Booking.bond.inj hbond).2
  | cancelUnbonding delegator name coin height =>
      obtain ⟨-, entries, -, rfl⟩ := plan?_cancelUnbonding_eq_some_iff.mp h
      have hbond : Booking.bond operator tokens = .bond name coin.amount := by simpa using hmem
      exact (Booking.bond.inj hbond).2

/-- **Messages of an amount leave no holdings of nothing.** -/
theorem Books.forallRecords_isHeld (h : Books store supply)
    (hstore : store.ForallRecords Record.IsHeld) {parameters : Parameters} {block : Block}
    {message : Message} (hpos : 0 < message.coin.amount.toNat) {answer : message.Answer}
    (heffect : ((stakingModule parameters).execute message).effect block 0 store =
      .ok (answer, after)) : after.ForallRecords Record.IsHeld := by
  obtain ⟨bookings, hplan, hchanges⟩ := h.exists_plan heffect
  refine hchanges.forallRecords hstore fun booking hmem record hkept => hkept.isHeld ?_
  rintro operator tokens rfl
  rw [eq_amount_of_plan? hplan hmem]
  exact hpos

end StakingGateway.Reference
