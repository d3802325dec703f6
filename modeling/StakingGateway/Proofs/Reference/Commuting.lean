import StakingGateway.Proofs.Reference.Bookings
import StakingGateway.Proofs.Reference.Ownership

/-!
# Bookings of Different Accounts Commute

Bookings of two accounts lead to the same store in either order (`Changes.comm`), although they may
rewrite the same validators. The square is closed key by key. Records of the one account do not
change by bookings of the other, and become what they become without a look at the validators. A
validator gets the tokens that both add and loses those that both take, and with exact shares there
is but one validator with these tokens. All other keys are left alone by both.

## Main statements

* `Changes.get?_of_not_inReach`: bookings change nothing out of the reach of the account.
* `Changes.comm`: bookings of different accounts commute.
-/

namespace StakingGateway.Reference

open Key (IsOwn InReach)

variable {account : Address} {store after : Store}

/-! ### Frames -/

/-- A booking changes nothing out of the reach of the account. -/
theorem Booking.Changes.get?_of_not_inReach {booking : Booking}
    (h : booking.Changes account store after) {key : Bytes} (hkey : ¬ InReach account key) :
    ByteMap.get? after key = ByteMap.get? store key := by
  cases booking with
  | balance amount =>
      obtain rfl := h
      refine (ByteMap.get?_insert ..).trans (if_neg fun heq => hkey ?_)
      rw [heq]
      exact .own .balance
  | unbonding operator entries =>
      obtain rfl := h
      refine get?_setUnbonding_of_ne (fun heq => hkey ?_) store entries
      rw [heq]
      exact .own (.unbonding operator)
  | redelegations source destination entries =>
      obtain rfl := h
      refine (ByteMap.get?_insert ..).trans (if_neg fun heq => hkey ?_)
      rw [heq, key_redelegations]
      exact .own (.redelegation source destination)
  | bond operator tokens =>
      exact get?_of_bond h (fun heq => hkey (heq ▸ .validator operator))
        fun heq => hkey (heq ▸ .own (.delegation operator))
  | unbond operator tokens =>
      exact get?_of_unbond h (fun heq => hkey (heq ▸ .validator operator))
        fun heq => hkey (heq ▸ .own (.delegation operator))

/-- **Bookings change nothing out of the reach of the account.** -/
theorem Changes.get?_of_not_inReach {bookings : List Booking}
    (h : Changes account bookings store after) {key : Bytes} (hkey : ¬ InReach account key) :
    ByteMap.get? after key = ByteMap.get? store key := by
  induction bookings generalizing store with
  | nil =>
      obtain rfl := h
      rfl
  | cons booking bookings ih =>
      obtain ⟨middle, hfirst, hrest⟩ := h
      rw [ih hrest, hfirst.get?_of_not_inReach hkey]

/-- Bookings leave the records of another account. -/
theorem Changes.agreeOn {bookings : List Booking} (h : Changes account bookings store after)
    {other : Address} (hne : other ≠ account) : AgreeOn other store after :=
  fun _ hkey => (h.get?_of_not_inReach (hkey.not_inReach hne)).symm

/-! ### The square -/

section Square

variable {x y : Address} {ofX ofY : List Booking} {store storeX storeY storeXY storeYX : Store}

/-- Whose records the key is for, if it is in reach of two accounts or of one of them. -/
theorem inReach_cases (x y : Address) (key : Bytes) :
    IsOwn x key ∨ IsOwn y key ∨ (∃ operator, key = Key.validator operator) ∨
      (¬ InReach x key ∧ ¬ InReach y key) := by
  by_cases hx : InReach x key
  · cases hx with
    | own hown => exact .inl hown
    | validator operator => exact .inr (.inr (.inl ⟨operator, rfl⟩))
  by_cases hy : InReach y key
  · cases hy with
    | own hown => exact .inr (.inl hown)
    | validator operator => exact .inr (.inr (.inl ⟨operator, rfl⟩))
  · exact .inr (.inr (.inr ⟨hx, hy⟩))

/-- The records of the account that books first are the same at the end, whoever books first. -/
theorem Changes.agreeOn_square (hne : x ≠ y) (hx : Changes x ofX store storeX)
    (hxy : Changes y ofY storeX storeXY) (hy : Changes y ofY store storeY)
    (hyx : Changes x ofX storeY storeYX) : AgreeOn x storeXY storeYX := by
  intro key hkey
  calc ByteMap.get? storeXY key = ByteMap.get? storeX key :=
        hxy.get?_of_not_inReach (hkey.not_inReach hne)
    _ = ByteMap.get? storeYX key := hx.congr_own hyx (hy.agreeOn hne) key hkey

/-- Exact validators that are shifted alike are the same. -/
theorem eq_of_rel_shifted {gain loss gain' loss' : Nat} {found one other : Option Validator}
    (hone : Option.Rel (Validator.Shifted gain loss) found one)
    (hother : Option.Rel (Validator.Shifted gain' loss') found other)
    (halike : gain + loss' = gain' + loss) (hexact : ∀ v, one = some v → v.IsExact)
    (hexact' : ∀ v, other = some v → v.IsExact) : one = other := by
  cases hone with
  | none =>
      cases hother
      rfl
  | some hshifted =>
      cases hother with
      | some hshifted' =>
          have htokens := hshifted.tokens
          have htokens' := hshifted'.tokens
          have hprofile := hshifted.profile.trans hshifted'.profile.symm
          -- The tokens determine the shares.
          exact congrArg some
            ((hexact _ rfl).eq_of_profile (hexact' _ rfl) hprofile (by omega))

/-- A validator is the same at the end, whoever books first. -/
theorem Changes.record?_validator_square {supply supply' : Nat} (hx : Changes x ofX store storeX)
    (hxy : Changes y ofY storeX storeXY) (hy : Changes y ofY store storeY)
    (hyx : Changes x ofX storeY storeYX) (hbooks : Books storeXY supply)
    (hbooks' : Books storeYX supply') (operator : String) :
    (storeXY.record? (Key.validator operator) : Option Validator) =
      storeYX.record? (Key.validator operator) :=
  eq_of_rel_shifted (rel_shifted_trans (hx.validator operator) (hxy.validator operator))
    (rel_shifted_trans (hy.validator operator) (hyx.validator operator)) (by omega)
    (fun _ hv => (hbooks.isExact hv).2) fun _ hv => (hbooks'.isExact hv).2

/-- **Bookings of different accounts commute.** -/
theorem Changes.comm {supply supply' : Nat} (hne : x ≠ y) (hx : Changes x ofX store storeX)
    (hxy : Changes y ofY storeX storeXY) (hy : Changes y ofY store storeY)
    (hyx : Changes x ofX storeY storeYX) (hbooks : Books storeXY supply)
    (hbooks' : Books storeYX supply') : storeXY = storeYX := by
  refine ByteMap.ext_get? fun key => ?_
  rcases inReach_cases x y key with hown | hown | ⟨operator, rfl⟩ | ⟨houtX, houtY⟩
  · exact hx.agreeOn_square hne hxy hy hyx key hown
  · exact (hy.agreeOn_square hne.symm hyx hx hxy key hown).symm
  · have hsame := hx.record?_validator_square hxy hy hyx hbooks hbooks' operator
    cases hv : (storeXY.record? (Key.validator operator) : Option Validator) with
    | none =>
        rw [((isSlot_validator operator).record?_eq_none_iff hbooks.sound).mp hv,
          ((isSlot_validator operator).record?_eq_none_iff hbooks'.sound).mp (hsame.symm.trans hv)]
    | some v =>
        obtain ⟨rfl, hkeeps⟩ := keeps_of_record?_validator hbooks.sound hv
        obtain ⟨-, hkeeps'⟩ := keeps_of_record?_validator hbooks'.sound (hsame.symm.trans hv)
        exact hkeeps.trans hkeeps'.symm
  · rw [hxy.get?_of_not_inReach houtY, hx.get?_of_not_inReach houtX,
      hyx.get?_of_not_inReach houtX, hy.get?_of_not_inReach houtY]

end Square

end StakingGateway.Reference
