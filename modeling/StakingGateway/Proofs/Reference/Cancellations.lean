import StakingGateway.Proofs.Reference.CallBookings
import StakingGateway.Proofs.Reference.Unbondings

/-!
# Entries That Are Taken Back

What is taken back at a height comes out of the first entry of the height, and out of no other one
(`takeBack_append`). It can be taken back exactly if there is such an entry, if that is on its way
still, and if it holds as much (`exists_takeBack_iff`); that a later entry of the height would do
does not help. The entry is gone then, or it holds less and is said to have held less, while the
others keep their places.

Who has anything on its way has asked for it once. So the unbonding is of an account, from a
validator with a name that is there, it has entries, and each of them is intact (`IsGenuine`). None
of this depends on the blocks in which calls are made.

## Main definitions

* `Remainder`, `remainder`: what is left of an entry.
* `UnbondingDelegation.IsGenuine`: what is true of an unbonding because it has been asked for.

## Main statements

* `takeBack_append`, `exists_takeBack_iff`: what is taken back, and when it can be.
* `cancellation_planned_iff`: which cancellations can be carried out.
* `Books.forallRecords_isGenuine`: messages leave genuine unbondings.
-/

namespace StakingGateway

open Reference

/-! ### Unbondings that have been asked for -/

/-- What is true of an unbonding because an account has asked for it. -/
structure UnbondingDelegation.IsGenuine (known : String → Prop) (u : UnbondingDelegation) :
    Prop where
  /-- It is of an account. -/
  account : u.delegator ≠ .zero
  /-- The validator has a name. -/
  named : ¬ Text.IsBlank u.validator
  /-- The validator is known. -/
  known : known u.validator
  /-- Something is on its way. -/
  some : u.entries ≠ []
  /-- All of it is intact. -/
  intact : ∀ entry ∈ u.entries, entry.IsIntact

namespace Reference

/-! ### Entries -/

/-- What is left of the entry when the tokens are taken back out of it. -/
inductive Remainder (tokens : Nat) (entry : UnbondingEntry) : List UnbondingEntry → Prop
  /-- The tokens are all that it holds, and nothing is left. -/
  | nothing (hbalance : entry.balance.toNat = tokens) : Remainder tokens entry []
  /-- It holds more, and both of its amounts are reduced by the tokens. -/
  | something {left : UnbondingEntry} (hheight : left.creationHeight = entry.creationHeight)
    (htime : left.completionTime = entry.completionTime) (hpos : 0 < left.balance.toNat)
    (hbalance : left.balance.toNat + tokens = entry.balance.toNat)
    (hinitial : left.initialBalance.toNat + tokens = entry.initialBalance.toNat) :
    Remainder tokens entry [left]

/-- What is left of the entry when the amount is taken back out of it, as a list. -/
def remainder (amount : Uint256) (entry : UnbondingEntry) : List UnbondingEntry :=
  if entry.balance.truncatedSub amount = 0 then [] else [lessened amount entry]

section Entries

variable {height : Int64} {now : UInt64} {amount : Uint256} {entry : UnbondingEntry}
  {entries earlier later left : List UnbondingEntry}

/-- Of an intact entry that holds as much, the remainder is left. -/
theorem remainder_spec (hintact : entry.IsIntact) (hle : amount.toNat ≤ entry.balance.toNat) :
    Remainder amount.toNat entry (remainder amount entry) := by
  have hleft : (entry.balance.truncatedSub amount).toNat + amount.toNat = entry.balance.toNat :=
    Nat.sub_add_cancel hle
  rw [remainder]
  split
  · next hnothing =>
      rw [hnothing, Uint256.toNat_zero, Nat.zero_add] at hleft
      exact .nothing hleft.symm
  · next hsome =>
      have hinitial : (entry.initialBalance.truncatedSub amount).toNat + amount.toNat =
          entry.initialBalance.toNat := by rw [hintact.2, hleft]
      exact .something rfl rfl (Uint256.toNat_pos_iff.mpr hsome) hleft hinitial

/-- **What is taken back at a height** comes out of the first entry of the height. -/
theorem takeBack_append (hearlier : ∀ other ∈ earlier, other.creationHeight ≠ height)
    (hheight : entry.creationHeight = height) :
    takeBack height now amount (earlier ++ entry :: later) =
      if entry.completionTime.toNat ≤ now.toNat then .error .entryMatured
      else if entry.balance < amount then .error .amountExceedsEntry
      else .ok (earlier ++ remainder amount entry ++ later) := by
  induction earlier with
  | nil =>
      rw [List.nil_append, List.nil_append, takeBack, if_pos hheight, remainder]
      by_cases hnothing : entry.balance.truncatedSub amount = 0
      · simp [hnothing]
      · simp [hnothing, lessened]
  | cons other earlier ih =>
      obtain ⟨hother, hrest⟩ := List.forall_mem_cons.mp hearlier
      rw [List.cons_append, takeBack, if_neg hother, ih hrest]
      by_cases hmatured : entry.completionTime.toNat ≤ now.toNat
      · simp [hmatured, Except.map]
      by_cases hexceeds : entry.balance < amount
      · simp [hmatured, hexceeds, Except.map]
      · simp [hmatured, hexceeds, Except.map]

/-- Nothing is taken back at a height of which there is no entry. -/
theorem takeBack_of_forall_ne (h : ∀ other ∈ entries, other.creationHeight ≠ height) :
    takeBack height now amount entries = .error (.noUnbondingEntry height) := by
  induction entries with
  | nil => rfl
  | cons other entries ih =>
      obtain ⟨hother, hrest⟩ := List.forall_mem_cons.mp h
      rw [takeBack, if_neg hother, ih hrest]
      rfl

/-- **What is taken back, it comes out of the first entry of the height**, which is on its way and
holds as much. -/
theorem exists_of_takeBack (h : takeBack height now amount entries = .ok left) :
    ∃ earlier entry later, entries = earlier ++ entry :: later ∧
      (∀ other ∈ earlier, other.creationHeight ≠ height) ∧ entry.creationHeight = height ∧
      now < entry.completionTime ∧ amount.toNat ≤ entry.balance.toNat ∧
      left = earlier ++ remainder amount entry ++ later := by
  cases hfind : entries.find? (fun entry => entry.creationHeight = height) with
  | none =>
      rw [takeBack_of_forall_ne (by simpa using hfind)] at h
      cases h
  | some entry =>
      obtain ⟨hheight, earlier, later, rfl, hearlier⟩ := List.find?_eq_some_iff_append.mp hfind
      have hheight : entry.creationHeight = height := of_decide_eq_true hheight
      have hearlier : ∀ other ∈ earlier, other.creationHeight ≠ height := by simpa using hearlier
      rw [takeBack_append hearlier hheight] at h
      split at h
      · cases h
      next hpending =>
      split at h
      · cases h
      next hfits =>
      exact ⟨earlier, entry, later, rfl, hearlier, hheight,
        UInt64.lt_iff_toNat_lt.mpr (Nat.lt_of_not_le hpending), Nat.le_of_not_lt hfits,
        (Except.ok.inj h).symm⟩

/-- **When something can be taken back**: the first entry of the height is on its way, and holds as
much. -/
theorem exists_takeBack_iff :
    (∃ left, takeBack height now amount entries = .ok left) ↔
      ∃ entry, entries.find? (fun entry => entry.creationHeight = height) = some entry ∧
        now < entry.completionTime ∧ amount.toNat ≤ entry.balance.toNat := by
  constructor
  · rintro ⟨left, h⟩
    obtain ⟨earlier, entry, later, rfl, hearlier, hheight, hpending, hfits, -⟩ :=
      exists_of_takeBack h
    refine ⟨entry, List.find?_eq_some_iff_append.mpr ⟨decide_eq_true hheight, earlier, later, rfl,
      by simpa using hearlier⟩, hpending, hfits⟩
  · rintro ⟨entry, hfind, hpending, hfits⟩
    obtain ⟨hheight, earlier, later, rfl, hearlier⟩ := List.find?_eq_some_iff_append.mp hfind
    have hmatured : ¬ entry.completionTime.toNat ≤ now.toNat :=
      Nat.not_le_of_lt (UInt64.lt_iff_toNat_lt.mp hpending)
    have hexceeds : ¬ entry.balance < amount := Nat.not_lt_of_le hfits
    refine ⟨earlier ++ remainder amount entry ++ later, ?_⟩
    rw [takeBack_append (by simpa using hearlier) (of_decide_eq_true hheight), if_neg hmatured,
      if_neg hexceeds]

end Entries

/-! ### Plans -/

section Plans

variable {parameters : Parameters} {block : Block} {store : Store} {account : Address}
  {operator : String}

/-- An entry that is found is found in a record. -/
theorem find?_unbondingEntries_eq_some_iff {p : UnbondingEntry → Bool} {entry : UnbondingEntry} :
    (unbondingEntries store account operator).find? p = some entry ↔
      ∃ u : UnbondingDelegation, store.record? (Key.unbonding account operator) = some u ∧
        u.entries.find? p = some entry := by
  rw [unbondingEntries]
  cases (store.record? (Key.unbonding account operator) : Option UnbondingDelegation) with
  | none => simp
  | some u => simp

/-- **A cancellation is planned** if the denomination is the one that is bonded, the validator is
there, and the first entry of the height is on its way and holds as much. -/
theorem cancellation_planned_iff {coin : Coin} {height : Int64} :
    (∃ answer bookings,
      plan? parameters block store (.cancelUnbonding account operator coin height) =
        some (answer, bookings)) ↔
      (coin.denom = parameters.bondDenom ∧ registered store operator = true) ∧
        ∃ (u : UnbondingDelegation) (entry : UnbondingEntry),
          store.record? (Key.unbonding account operator) = some u ∧
            u.entries.find? (fun entry => entry.creationHeight = height) = some entry ∧
            block.time < entry.completionTime ∧ coin.amount.toNat ≤ entry.balance.toNat := by
  constructor
  · rintro ⟨answer, bookings, hplan⟩
    obtain ⟨hthere, left, htaken, -⟩ := plan?_cancelUnbonding_eq_some_iff.mp hplan
    obtain ⟨entry, hfind, hcovered⟩ := exists_takeBack_iff.mp ⟨left, htaken⟩
    obtain ⟨u, hu, hfind⟩ := find?_unbondingEntries_eq_some_iff.mp hfind
    exact ⟨hthere, u, entry, hu, hfind, hcovered⟩
  · rintro ⟨hthere, u, entry, hu, hfind, hcovered⟩
    obtain ⟨left, htaken⟩ := exists_takeBack_iff.mpr
      ⟨entry, find?_unbondingEntries_eq_some_iff.mpr ⟨u, hu, hfind⟩, hcovered⟩
    exact ⟨(), _, plan?_cancelUnbonding_eq_some_iff.mpr ⟨hthere, left, htaken, rfl⟩⟩

end Plans

/-! ### Records -/

/-- The record is no unbonding, or one that has been asked for. -/
def Record.IsGenuine (known : String → Prop) : Record → Prop
  | .unbonding u => u.IsGenuine known
  | _ => True

section Records

variable {parameters : Parameters} {known : String → Prop} {store after : Store} {supply : Nat}

/-- An unbonding that is read is genuine where the records are. -/
theorem isGenuine_of_record? (h : store.ForallRecords (Record.IsGenuine known))
    {account : Address} {operator : String} {u : UnbondingDelegation}
    (hu : store.record? (Key.unbonding account operator) = some u) :
    u.delegator = account ∧ u.validator = operator ∧ u.IsGenuine known := by
  obtain ⟨hkey, hkeeps⟩ := ((isSlot_unbonding account operator).record?_eq_some_iff h).mp hu
  obtain ⟨haccount, hoperator⟩ := Key.unbonding_inj.mp hkey
  exact ⟨haccount, hoperator, h.of_keeps hkeeps⟩

/-- What is on its way is intact where the records are genuine. -/
theorem isIntact_of_forallRecords (h : store.ForallRecords (Record.IsGenuine known))
    (account : Address) (operator : String) :
    ∀ entry ∈ unbondingEntries store account operator, entry.IsIntact := by
  rw [unbondingEntries]
  cases hu : (store.record? (Key.unbonding account operator) : Option UnbondingDelegation) with
  | none => simp
  | some u => exact (isGenuine_of_record? h hu).2.2.intact

/-- **Admissible messages leave genuine unbondings**, whatever the block. -/
theorem Books.forallRecords_isGenuine (h : Books store supply)
    (hstore : store.ForallRecords (Record.IsGenuine known))
    (hknown : ∀ operator, registered store operator = true → known operator) {call : Call}
    {message : Message} (hadmissible : message.IsAdmissible call) {answer : message.Answer}
    (heffect : ((stakingModule parameters).execute message).effect call.block 0 store =
      .ok (answer, after)) : after.ForallRecords (Record.IsGenuine known) := by
  obtain ⟨bookings, hplan, hchanges⟩ := h.exists_plan heffect
  refine hchanges.forallRecords_of_unbonding hstore (fun record hkind => ?_)
    fun operator entries hmem hsome => ?_
  · cases record with
    | unbonding u => exact absurd rfl hkind
    | balance | validator | holding | redelegations => trivial
  · have hbefore := isIntact_of_forallRecords hstore message.delegator operator
    obtain ⟨⟨hnamed, hthere⟩, hentries⟩ := of_unbonding_mem_plan? hplan hmem
    refine ⟨hadmissible.account, hadmissible.not_isBlank hnamed, hknown operator hthere, hsome, ?_⟩
    rcases hentries with ⟨time, -, rfl⟩ | ⟨height, htaken⟩
    · refine List.forall_mem_append.mpr ⟨hbefore, List.forall_mem_singleton.mpr ?_⟩
      exact ⟨hadmissible.positive, rfl⟩
    · exact isIntact_takeBack htaken hbefore

end Records

end Reference

end StakingGateway
