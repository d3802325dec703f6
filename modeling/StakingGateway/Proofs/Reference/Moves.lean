import StakingGateway.Proofs.Reference.Plans
import StakingGateway.Proofs.Text.Ascii

/-!
# Moves

A redelegation notes what it has moved behind what was noted before, in one record for the account
and the two validators. What a message adds to that record is the move that it makes, if it makes
one (`move?`), and nothing else touches it (`Books.redelegations_of_effect`). The record is found by
a key that the names of the two validators are joined in, so it is the key that decides what stands
together (`noted`), and names that join alike are not told apart.

## Main definitions

* `Move`, `Move.key`: a move of tokens, and the key that it is noted under.
* `noted`, `entriesBetween`: what is noted of moves under a key, and what of them is between two
  validators.
* `move?`: the move that a message makes.

## Main statements

* `pair_eq_iff`: names without slashes are told apart from all others.
* `noted_eq_entriesBetween_iff`: when what is noted under a key is the history of two validators.
* `redelegations_of_booking`: what bookings make of what is noted.
* `Books.move?_of_effect`: every redelegation makes a move.
* `Books.redelegations_of_effect`: what messages add to what is noted.
-/

namespace StakingGateway.Reference

/-- Tokens that an account has moved from one validator to another. -/
structure Move where
  /-- The account. -/
  account : Address
  /-- The validator that had the tokens. -/
  source : String
  /-- The validator that has them now. -/
  destination : String
  /-- What is noted of the move. -/
  entry : Redelegation

/-- The key that the move is noted under. -/
def Move.key (move : Move) : Bytes :=
  Key.redelegation move.account move.source move.destination

/-- What is noted of the moves under the key, in their order. -/
def noted (key : Bytes) (moves : List Move) : List Redelegation :=
  (moves.filter fun move => move.key = key).map Move.entry

/-- What the account has moved from the one validator to the other, in its order. -/
def entriesBetween (account : Address) (source destination : String) (moves : List Move) :
    List Redelegation :=
  (moves.filter fun move => move.account = account ∧ move.source = source ∧
    move.destination = destination).map Move.entry

/-- The move that the message makes in the block, with one share for each unit of the tokens. Other
messages move nothing. -/
def move? (parameters : Parameters) (block : Block) : Message → Option Move
  | .redelegate account source destination coin => do
    let shares ← coin.amount.mul? shareUnit
    let time ← completionTime parameters block
    return ⟨account, source, destination, ⟨block.height, time, coin.amount, shares⟩⟩
  | _ => none

/-- What is noted of more moves stands behind what is noted of the moves before. -/
theorem noted_append (key : Bytes) (moves later : List Move) :
    noted key (moves ++ later) = noted key moves ++ noted key later := by
  rw [noted, List.filter_append, List.map_append, noted, noted]

/-- A move is noted under its key only. -/
theorem noted_singleton (key : Bytes) (move : Move) :
    noted key [move] = if move.key = key then [move.entry] else [] := by
  rw [noted, List.filter_singleton]
  by_cases hkey : move.key = key
  · rw [if_pos hkey, decide_eq_true hkey]
    rfl
  · rw [if_neg hkey, decide_eq_false hkey]
    rfl

/-! ### Keys -/

/-- **Names without slashes are told apart** from all names that they could be joined with. -/
theorem pair_eq_iff {src dst source destination : String} (hsource : '/' ∉ source.toList)
    (hdestination : '/' ∉ destination.toList) :
    pair src dst = pair source destination ↔ src = source ∧ dst = destination := by
  have hseparator : Key.separator = ['/'.toUInt8] := rfl
  have hascii : '/'.toNat < 128 := by decide
  constructor
  · intro hpair
    rw [pair, pair, hseparator, List.append_assoc, List.append_assoc, List.singleton_append,
      List.singleton_append] at hpair
    obtain ⟨hsrc, -, hdst⟩ := (List.append_cons_inj_of_notMem
      (fun hmem => hsource (Text.mem_of_mem_utf8 hascii hmem))
      (fun hmem => hdestination (Text.mem_of_mem_utf8 hascii hmem))).mp hpair.symm
    exact ⟨Text.utf8_injective hsrc.symm, Text.utf8_injective hdst.symm⟩
  · rintro ⟨rfl, rfl⟩
    rfl

/-- **What is noted under a key is the history of a pair** exactly if all that is noted there has
been moved between the two. -/
theorem noted_eq_entriesBetween_iff {account : Address} {source destination : String}
    {moves : List Move} :
    noted (Key.redelegation account source destination) moves =
        entriesBetween account source destination moves ↔
      ∀ move ∈ moves, move.key = Key.redelegation account source destination →
        move.source = source ∧ move.destination = destination := by
  let key := Key.redelegation account source destination
  have hkey_of (move : Move) : move.account = account ∧ move.source = source ∧
      move.destination = destination → move.key = key := by
    rintro ⟨rfl, rfl, rfl⟩
    rfl
  rw [noted, entriesBetween]
  constructor
  · intro heq move hmem hkey
    -- The moves between the two are among those under the key, and there are as many of them.
    have hamong : (moves.filter fun move => move.key = key).filter (fun move =>
          move.account = account ∧ move.source = source ∧ move.destination = destination) =
        moves.filter fun move =>
          move.account = account ∧ move.source = source ∧ move.destination = destination := by
      rw [List.filter_filter]
      refine List.filter_congr fun move _ => ?_
      rw [← Bool.decide_and, decide_eq_decide]
      exact and_iff_left_of_imp (hkey_of move)
    have hlength := congrArg List.length heq
    rw [List.length_map, List.length_map, ← hamong, eq_comm,
      List.length_filter_eq_length_iff] at hlength
    have hbetween := hlength move (List.mem_filter.mpr ⟨hmem, decide_eq_true hkey⟩)
    exact (of_decide_eq_true hbetween).2
  · intro hall
    refine congrArg (List.map Move.entry) (List.filter_congr fun move hmem => ?_)
    refine decide_eq_decide.mpr ⟨fun hkey => ?_, hkey_of move⟩
    exact ⟨(redelegation_eq_iff.mp hkey).1, hall move hmem hkey⟩

/-! ### What is added to what is noted -/

variable {parameters : Parameters} {block : Block} {store after : Store} {supply : Nat}
  {account : Address}

/-- **What a booking makes of what is noted.** One kind of bookings sets what stands under its key,
the others leave it. -/
theorem redelegations_of_booking {booking : Booking} (h : booking.Changes account store after)
    (other : Address) (source destination : String) :
    redelegations after other source destination =
      match booking with
      | .redelegations src dst entries =>
        if Key.redelegation account src dst = Key.redelegation other source destination then entries
        else redelegations store other source destination
      | _ => redelegations store other source destination := by
  cases booking with
  | balance amount =>
      have hkey : Key.redelegation other source destination ≠ (Record.balance account amount).key :=
        redelegation_ne_balance other account source destination
      obtain rfl := h
      dsimp only
      rw [redelegations, redelegations, Store.keep, ByteMap.get?_insert, if_neg hkey]
  | unbonding operator entries =>
      have hkey := redelegation_ne_unbonding other account source destination operator
      obtain rfl := h
      dsimp only
      rw [redelegations, redelegations, get?_setUnbonding_of_ne hkey]
  | redelegations src dst entries =>
      obtain rfl := h
      dsimp only
      rw [redelegations, redelegations, Store.keep, ByteMap.get?_insert, key_redelegations]
      split
      · next hkey =>
          rw [if_pos hkey.symm, Option.bind_some]
          exact congrArg (Option.getD · []) (Json.decode?_encode entries)
      · next hkey => rw [if_neg (Ne.symm hkey)]
  | bond operator tokens => exact redelegations_of_bond h other source destination
  | unbond operator tokens => exact redelegations_of_unbond h other source destination

/-- **Every redelegation makes a move**, and what is noted of it is when it was made, when it
completes, the amount, and the shares. -/
theorem Books.move?_of_effect (h : Books store supply) {source destination : String} {coin : Coin}
    {time : UInt64}
    (heffect : ((stakingModule parameters).execute
      (.redelegate account source destination coin)).effect block 0 store = .ok (time, after)) :
    ∃ shares, coin.amount.mul? shareUnit = some shares ∧
      move? parameters block (.redelegate account source destination coin) =
        some ⟨account, source, destination, ⟨block.height, time, coin.amount, shares⟩⟩ := by
  obtain ⟨bookings, hplan, -⟩ := h.exists_plan heffect
  obtain ⟨-, shares, hshares, hfinish, -⟩ := plan?_redelegate_eq_some_iff.mp hplan
  refine ⟨shares, hshares, ?_⟩
  rw [move?, hshares, hfinish]
  rfl

/-- **What messages add to what is noted** is the move that they make, if it is noted there. -/
theorem Books.redelegations_of_effect (h : Books store supply) {message : Message}
    {answer : message.Answer}
    (heffect : ((stakingModule parameters).execute message).effect block 0 store =
      .ok (answer, after)) (other : Address) (source destination : String) :
    redelegations after other source destination =
      redelegations store other source destination ++
        noted (Key.redelegation other source destination)
          (move? parameters block message).toList := by
  obtain ⟨bookings, hplan, hchanges⟩ := h.exists_plan heffect
  cases message with
  | delegate account operator coin =>
      obtain ⟨-, left, -, rfl⟩ := plan?_delegate_eq_some_iff.mp hplan
      obtain ⟨_, hpaid, _, hbonded, rfl⟩ := hchanges
      rw [redelegations_of_booking hbonded, redelegations_of_booking hpaid]
      exact (List.append_nil _).symm
  | undelegate account operator coin =>
      obtain ⟨-, -, rfl⟩ := plan?_undelegate_eq_some_iff.mp hplan
      obtain ⟨_, hunbonded, _, hset, rfl⟩ := hchanges
      rw [redelegations_of_booking hset, redelegations_of_booking hunbonded]
      exact (List.append_nil _).symm
  | redelegate account src dst coin =>
      obtain ⟨-, shares, hshares, -, rfl⟩ := plan?_redelegate_eq_some_iff.mp hplan
      change Changes account _ store after at hchanges
      obtain ⟨_, hunbonded, _, hbonded, _, hset, rfl⟩ := hchanges
      obtain ⟨issued, hissued, hmove⟩ := h.move?_of_effect heffect
      obtain rfl : shares = issued := Option.some.inj (hshares.symm.trans hissued)
      rw [redelegations_of_booking hset, redelegations_of_booking hbonded,
        redelegations_of_booking hunbonded, hmove, Option.toList_some, noted_singleton, Move.key]
      dsimp only
      split
      · next hkey => rw [redelegations, redelegations, hkey]
      · exact (List.append_nil _).symm
  | cancelUnbonding account operator coin height =>
      obtain ⟨-, entries, -, rfl⟩ := plan?_cancelUnbonding_eq_some_iff.mp hplan
      obtain ⟨_, hset, _, hbonded, rfl⟩ := hchanges
      rw [redelegations_of_booking hbonded, redelegations_of_booking hset]
      exact (List.append_nil _).symm

end StakingGateway.Reference
