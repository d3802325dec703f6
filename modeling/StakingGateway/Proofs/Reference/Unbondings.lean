import StakingGateway.Proofs.Gateway.Admission
import StakingGateway.Proofs.Reference.Plans

/-!
# What Is on Its Way Back

An unbonding is a list of entries. Undelegations put new ones at its end, and what is taken back
comes out of the first one of a height, wherever that stands. So the entries remain in the order in
which they were made. Each holds what it held at first less what was taken back, and the two amounts
of it are reduced together: they never differ, and the subtractions are never cut off at zero.

That this is also the order of heights and of times is due to the blocks. An entry is stamped with
the block in which it is made, so it belongs at the end only if no block before was later. What is
known of the entries is therefore known up to a block (`Unbonding`), and the next message has to
come in one that is no earlier.

## Main definitions

* `UnbondingEntry.IsIntact`, `UnbondingEntry.stamp`: both amounts are one that is not zero; the
  height of an entry and the time at which it is over.
* `Reference.Unbonding`: entries as messages up to a block leave them.
* `Record.IsOrderly`: unbondings that have entries, and have such entries.

## Main statements

* `Unbonding.append`, `Unbonding.takeBack`: what messages do to the entries.
* `of_unbonding_mem_plan?`: what plans note to be on its way.
* `Books.forallRecords_isOrderly`: messages in blocks that are no earlier keep unbondings in order.
-/

namespace StakingGateway

/-- Blocks are in order when neither the height nor the time goes back. -/
instance : LE Block where
  le one other := one.height ≤ other.height ∧ one.time ≤ other.time

instance (one other : Block) : Decidable (one ≤ other) :=
  inferInstanceAs (Decidable (one.height ≤ other.height ∧ one.time ≤ other.time))

/-- A block is no earlier than itself. -/
theorem Block.le_refl (block : Block) : block ≤ block :=
  ⟨Int64.le_refl block.height, UInt64.le_refl block.time⟩

namespace UnbondingEntry

/-- The entry holds something, and as much as it is said to have held at first. -/
def IsIntact (entry : UnbondingEntry) : Prop :=
  0 < entry.balance.toNat ∧ entry.initialBalance = entry.balance

/-- The height of the entry and the time at which it is over, as a block. -/
def stamp (entry : UnbondingEntry) : Block :=
  ⟨entry.creationHeight, entry.completionTime⟩

end UnbondingEntry

namespace Reference

/-! ### Entries -/

/-- An undelegation in the block, or in one before it, can have given the stamp. -/
def Parameters.CanStamp (parameters : Parameters) (block stamp : Block) : Prop :=
  stamp.height ≤ block.height ∧
    stamp.time.toNat ≤ block.time.toNat + parameters.unbondingTime.toNat

/-- The entries are as messages up to the block leave them. -/
structure Unbonding (parameters : Parameters) (block : Block) (entries : List UnbondingEntry) :
    Prop where
  /-- They are intact. -/
  intact : ∀ entry ∈ entries, entry.IsIntact
  /-- The oldest come first. -/
  ordered : (entries.map UnbondingEntry.stamp).Pairwise (· ≤ ·)
  /-- None is of a later block. -/
  stamped : ∀ stamp ∈ entries.map UnbondingEntry.stamp, parameters.CanStamp block stamp

section Entries

variable {parameters : Parameters} {block later : Block} {entries left : List UnbondingEntry}

/-- What can have been stamped up to a block can have been up to a later one. -/
theorem Parameters.CanStamp.mono {stamp : Block} (h : parameters.CanStamp block stamp)
    (hle : block ≤ later) : parameters.CanStamp later stamp :=
  ⟨Int64.le_trans h.1 hle.1, Nat.le_trans h.2 (Nat.add_le_add_right hle.2 _)⟩

/-- The time that is added to that of a block does not wrap. -/
theorem toNat_completionTime {time : UInt64} (h : completionTime parameters block = some time) :
    time.toNat = block.time.toNat + parameters.unbondingTime.toNat := by
  rw [completionTime, Option.ite_none_right_eq_some] at h
  obtain ⟨hfits, hsum⟩ := h
  rw [← Option.some.inj hsum, UInt64.toNat_add]
  exact Nat.mod_eq_of_lt hfits

/-- Where unbonding takes time, it is not over in the block. -/
theorem lt_of_completionTime {time : UInt64} (hlong : 0 < parameters.unbondingTime)
    (h : completionTime parameters block = some time) : block.time < time := by
  have hsum := toNat_completionTime h
  have hlong : 0 < parameters.unbondingTime.toNat := UInt64.lt_iff_toNat_lt.mp hlong
  exact UInt64.lt_iff_toNat_lt.mpr (by omega)

/-- There is such a time if it is a number of 64 bits. -/
theorem exists_completionTime
    (h : block.time.toNat + parameters.unbondingTime.toNat ≤ 2 ^ 64 - 1) :
    ∃ time, completionTime parameters block = some time :=
  ⟨_, if_pos (Nat.lt_of_le_of_lt h (by decide))⟩

/-- No entries are in order. -/
theorem Unbonding.nil (parameters : Parameters) (block : Block) :
    Unbonding parameters block [] where
  intact := nofun
  ordered := .nil
  stamped := nofun

/-- Entries up to a block are entries up to a later one. -/
theorem Unbonding.mono (h : Unbonding parameters block entries) (hle : block ≤ later) :
    Unbonding parameters later entries where
  intact := h.intact
  ordered := h.ordered
  stamped stamp hmem := (h.stamped stamp hmem).mono hle

/-- **An undelegation** puts an entry at the end that is no earlier than those before it. -/
theorem Unbonding.append (h : Unbonding parameters block entries) {time : UInt64}
    (htime : completionTime parameters block = some time) {amount : Uint256}
    (hpos : 0 < amount.toNat) :
    Unbonding parameters block (entries ++ [⟨block.height, time, amount, amount⟩]) where
  intact := by
    refine List.forall_mem_append.mpr ⟨h.intact, List.forall_mem_singleton.mpr ?_⟩
    exact ⟨hpos, rfl⟩
  ordered := by
    rw [List.map_append, List.map_singleton, List.pairwise_append]
    refine ⟨h.ordered, List.pairwise_singleton _ _, fun stamp hmem => ?_⟩
    rw [List.forall_mem_singleton]
    obtain ⟨hheight, hover⟩ := h.stamped stamp hmem
    exact ⟨hheight, Nat.le_trans hover (Nat.le_of_eq (toNat_completionTime htime).symm)⟩
  stamped := by
    rw [List.map_append, List.map_singleton]
    refine List.forall_mem_append.mpr ⟨h.stamped, List.forall_mem_singleton.mpr ?_⟩
    exact ⟨Int64.le_refl _, Nat.le_of_eq (toNat_completionTime htime)⟩

/-- Taking something back changes no stamp and at most removes one. -/
theorem stamps_takeBack {height : Int64} {now : UInt64} {amount : Uint256}
    (h : takeBack height now amount entries = .ok left) :
    List.Sublist (left.map UnbondingEntry.stamp) (entries.map UnbondingEntry.stamp) := by
  induction entries generalizing left with
  | nil => cases h
  | cons entry entries ih =>
      rw [List.map_cons]
      obtain ⟨-, rfl⟩ | ⟨-, rfl⟩ | ⟨rest, hrest, rfl⟩ := takeBack_cons_eq_ok h
      · exact List.sublist_cons_self _ _
      · exact List.Sublist.refl _
      · exact (ih hrest).cons_cons _

/-- Taking something back leaves entries that hold as much as they are said to have held. -/
theorem isIntact_takeBack {height : Int64} {now : UInt64} {amount : Uint256}
    (h : takeBack height now amount entries = .ok left)
    (hintact : ∀ entry ∈ entries, entry.IsIntact) : ∀ entry ∈ left, entry.IsIntact := by
  induction entries generalizing left with
  | nil => cases h
  | cons entry entries ih =>
      obtain ⟨hhead, htail⟩ := List.forall_mem_cons.mp hintact
      obtain ⟨-, rfl⟩ | ⟨hlt, rfl⟩ | ⟨rest, hrest, rfl⟩ := takeBack_cons_eq_ok h
      · exact htail
      · have hlessened : (lessened amount entry).IsIntact :=
          ⟨Nat.sub_pos_of_lt hlt, congrArg (·.truncatedSub amount) hhead.2⟩
        exact List.forall_mem_cons.mpr ⟨hlessened, htail⟩
      · exact List.forall_mem_cons.mpr ⟨hhead, ih hrest htail⟩

/-- **Cancelling an unbonding** keeps what is left of the entries in order. -/
theorem Unbonding.takeBack (h : Unbonding parameters block entries) {height : Int64}
    {now : UInt64} {amount : Uint256}
    (htaken : takeBack height now amount entries = .ok left) :
    Unbonding parameters block left where
  intact := isIntact_takeBack htaken h.intact
  ordered := h.ordered.sublist (stamps_takeBack htaken)
  stamped stamp hmem := h.stamped stamp ((stamps_takeBack htaken).subset hmem)

end Entries

/-! ### Records -/

/-- The record is no unbonding without entries, and the entries are as messages up to the block
leave them. -/
def Record.IsOrderly (parameters : Parameters) (block : Block) : Record → Prop
  | .unbonding u => u.entries ≠ [] ∧ Unbonding parameters block u.entries
  | _ => True

section Records

variable {parameters : Parameters} {block later : Block} {store after : Store} {supply : Nat}

/-- Records that are orderly up to a block are so up to a later one. -/
theorem Record.IsOrderly.mono {record : Record} (h : record.IsOrderly parameters block)
    (hle : block ≤ later) : record.IsOrderly parameters later := by
  cases record with
  | unbonding u =>
      obtain ⟨hsome, hentries⟩ := h
      exact ⟨hsome, hentries.mono hle⟩
  | balance | validator | holding | redelegations => trivial

/-- What is on its way is in order where the records are, if there is anything. -/
theorem unbonding_of_forallRecords (h : store.ForallRecords (Record.IsOrderly parameters block))
    (delegator : Address) (operator : String) :
    Unbonding parameters block (unbondingEntries store delegator operator) := by
  cases hread : (store.record? (Key.unbonding delegator operator) : Option UnbondingDelegation) with
  | none =>
      rw [unbondingEntries, hread]
      exact .nil parameters block
  | some u =>
      rw [unbondingEntries, hread]
      obtain ⟨-, hkept⟩ := ((isSlot_unbonding delegator operator).record?_eq_some_iff h).mp hread
      exact (h.of_keeps hkept).2

/-- **What a plan notes to be on its way**: an entry is put at the end, or an amount is taken back.
The validator is one that the message names, and it is there. -/
theorem of_unbonding_mem_plan? {message : Message} {answer : message.Answer}
    {bookings : List Booking}
    (hplan : plan? parameters block store message = some (answer, bookings)) {operator : String}
    {entries : List UnbondingEntry} (hmem : .unbonding operator entries ∈ bookings) :
    (operator ∈ message.validators ∧ registered store operator = true) ∧
      ((∃ time, completionTime parameters block = some time ∧
        entries = unbondingEntries store message.delegator operator ++
          [⟨block.height, time, message.coin.amount, message.coin.amount⟩]) ∨
      ∃ height, Reference.takeBack height block.time message.coin.amount
        (unbondingEntries store message.delegator operator) = .ok entries) := by
  cases message with
  | delegate delegator name coin =>
      obtain ⟨-, left, -, rfl⟩ := plan?_delegate_eq_some_iff.mp hplan
      simp at hmem
  | undelegate delegator name coin =>
      obtain ⟨⟨-, hthere, -⟩, htime, rfl⟩ := plan?_undelegate_eq_some_iff.mp hplan
      simp only [List.mem_cons, List.not_mem_nil, or_false, reduceCtorEq, false_or,
        Booking.unbonding.injEq] at hmem
      obtain ⟨rfl, rfl⟩ := hmem
      exact ⟨⟨List.mem_singleton_self _, hthere⟩, .inl ⟨answer, htime, rfl⟩⟩
  | redelegate delegator source destination coin =>
      obtain ⟨-, shares, -, -, rfl⟩ := plan?_redelegate_eq_some_iff.mp hplan
      simp at hmem
  | cancelUnbonding delegator name coin height =>
      obtain ⟨⟨-, hthere⟩, left, htaken, rfl⟩ := plan?_cancelUnbonding_eq_some_iff.mp hplan
      simp only [List.mem_cons, List.not_mem_nil, or_false, reduceCtorEq,
        Booking.unbonding.injEq] at hmem
      obtain ⟨rfl, rfl⟩ := hmem
      exact ⟨⟨List.mem_singleton_self _, hthere⟩, .inr ⟨height, htaken⟩⟩

/-- The entries that a plan notes are in order. -/
theorem unbonding_of_plan? (h : store.ForallRecords (Record.IsOrderly parameters block))
    {message : Message} (hpos : 0 < message.coin.amount.toNat) {answer : message.Answer}
    {bookings : List Booking}
    (hplan : plan? parameters block store message = some (answer, bookings)) {operator : String}
    {entries : List UnbondingEntry} (hmem : .unbonding operator entries ∈ bookings) :
    Unbonding parameters block entries := by
  have hbefore := unbonding_of_forallRecords h message.delegator operator
  obtain ⟨-, ⟨time, htime, rfl⟩ | ⟨height, htaken⟩⟩ := of_unbonding_mem_plan? hplan hmem
  · exact hbefore.append htime hpos
  · exact hbefore.takeBack htaken

/-- **Messages of an amount keep unbondings in order**, in a block that is no earlier than those
before. -/
theorem Books.forallRecords_isOrderly (h : Books store supply)
    (hstore : store.ForallRecords (Record.IsOrderly parameters block)) (hle : block ≤ later)
    {message : Message} (hpos : 0 < message.coin.amount.toNat) {answer : message.Answer}
    (heffect : ((stakingModule parameters).execute message).effect later 0 store =
      .ok (answer, after)) : after.ForallRecords (Record.IsOrderly parameters later) := by
  have hlater : store.ForallRecords (Record.IsOrderly parameters later) :=
    hstore.mono fun record horderly => horderly.mono hle
  obtain ⟨bookings, hplan, hchanges⟩ := h.exists_plan heffect
  refine hchanges.forallRecords_of_unbonding hlater (fun record hkind => ?_)
    fun operator entries hmem hsome => ⟨hsome, unbonding_of_plan? hlater hpos hplan hmem⟩
  cases record with
  | unbonding u => exact absurd rfl hkind
  | balance | validator | holding | redelegations => trivial

end Records

end Reference

end StakingGateway
