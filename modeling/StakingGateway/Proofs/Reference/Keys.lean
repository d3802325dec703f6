import StakingGateway.Reference.Key

/-!
# Keys Tell Records Apart

The five kinds of records are kept under keys that start differently, and none of the starts begins
another one (`Key.eq_of_starts`), so a key belongs to one kind. Behind the start, the octets of an
account take 20 places, so the account can be read off a key, and with it what stands behind it. All
records but those of validators have an account in their keys, and belong to it (`Key.IsOwn`).

## Main definitions

* `Key.Kind`, `Key.Kind.start`: the kinds of records, and what their keys start with.
* `Key.Subject`, `Key.Subject.key`: what records are about, and their keys.
* `Key.IsOwn`: the keys of the records of an account.

## Main statements

* `Key.eq_of_starts`: a key starts like one kind only.
* `Key.balance_inj`, `Key.validator_inj`, `Key.delegation_inj`, `Key.unbonding_inj`: within their
  kinds, keys tell what they were made of.
* `redelegation_eq_iff`: so do those of redelegations, but for how two names are joined.
* `Key.Subject.key_eq_key_iff`: keys tell what records are about.
* `Key.IsOwn.account_eq`: keys tell whose records they are for.
-/

namespace StakingGateway.Reference

namespace Key

/-- The kinds of records. -/
inductive Kind where
  /-- Balances of accounts. -/
  | balance
  /-- Validators. -/
  | validator
  /-- What accounts have bonded to validators. -/
  | delegation
  /-- What is on its way back from validators to accounts. -/
  | unbonding
  /-- What accounts have moved between validators. -/
  | redelegation
deriving DecidableEq

/-- What the keys of the kind start with. -/
def Kind.start : Kind → Bytes
  | balance => balances
  | validator => validators
  | delegation => delegations
  | unbonding => unbondings
  | redelegation => redelegations

/-- No start begins another one. -/
theorem eq_of_prefix_start {one other : Kind} (h : one.start <+: other.start) : one = other := by
  revert h
  cases one <;> cases other <;> decide

/-- **A key starts like one kind only.** -/
theorem eq_of_starts {one other : Kind} {key : Bytes} (hone : one.start <+: key)
    (hother : other.start <+: key) : one = other := by
  rcases List.prefix_or_prefix_of_prefix hone hother with h | h
  · exact eq_of_prefix_start h
  · exact (eq_of_prefix_start h).symm

/-! ### What keys are made of -/

/-- A balance is kept under the key of one account. -/
theorem balance_inj {one other : Address} : balance one = balance other ↔ one = other := by
  constructor
  · intro h
    exact Address.ext (List.append_cancel_left h)
  · rintro rfl
    rfl

/-- A validator is kept under the key of one operator. -/
theorem validator_inj {one other : String} : validator one = validator other ↔ one = other := by
  constructor
  · intro h
    exact Text.utf8_injective (List.append_cancel_left h)
  · rintro rfl
    rfl

/-- The account and what stands behind it can be read off a key. -/
theorem owned_inj {family : Bytes} {one other : Address} {rest rest' : Bytes}
    (h : family ++ one.octets ++ separator ++ rest = family ++ other.octets ++ separator ++ rest') :
    one = other ∧ rest = rest' := by
  rw [List.append_assoc, List.append_assoc, List.append_assoc, List.append_assoc] at h
  have hlength : one.octets.length = other.octets.length := by
    rw [one.length_octets, other.length_octets]
  obtain ⟨hoctets, hrest⟩ := List.append_inj (List.append_cancel_left h) hlength
  exact ⟨Address.ext hoctets, List.append_cancel_left hrest⟩

/-- A delegation is kept under the key of one account and one operator. -/
theorem delegation_inj {one other : Address} {v v' : String} :
    delegation one v = delegation other v' ↔ one = other ∧ v = v' := by
  constructor
  · intro h
    obtain ⟨haccount, hrest⟩ := owned_inj h
    exact ⟨haccount, Text.utf8_injective hrest⟩
  · rintro ⟨rfl, rfl⟩
    rfl

/-- An unbonding is kept under the key of one account and one operator. -/
theorem unbonding_inj {one other : Address} {v v' : String} :
    unbonding one v = unbonding other v' ↔ one = other ∧ v = v' := by
  constructor
  · intro h
    obtain ⟨haccount, hrest⟩ := owned_inj h
    exact ⟨haccount, Text.utf8_injective hrest⟩
  · rintro ⟨rfl, rfl⟩
    rfl

end Key

/-! ### Pairs of operators -/

/-- What stands behind the account in the key of redelegations. -/
def pair (source destination : String) : Bytes :=
  Text.utf8 source ++ Key.separator ++ Text.utf8 destination

/-- Redelegations are kept under one key if they are of one account, and the names join alike. -/
theorem redelegation_eq_iff {one other : Address} {src dst source destination : String} :
    Key.redelegation one src dst = Key.redelegation other source destination ↔
      one = other ∧ pair src dst = pair source destination := by
  have hkey (account : Address) (src dst : String) : Key.redelegation account src dst =
      Key.redelegations ++ account.octets ++ Key.separator ++ pair src dst := by
    simp only [Key.redelegation, pair, List.append_assoc]
  rw [hkey, hkey]
  constructor
  · exact Key.owned_inj
  · rintro ⟨rfl, hpair⟩
    rw [hpair]

namespace Key

/-! ### What a record is about -/

/-- What a record is about: its kind, and the account and the operators that its key is made of. -/
inductive Subject where
  /-- The balance of an account. -/
  | balance (account : Address)
  /-- A validator. -/
  | validator (operator : String)
  /-- What an account has bonded to a validator. -/
  | delegation (delegator : Address) (operator : String)
  /-- What is on its way back from a validator to an account. -/
  | unbonding (delegator : Address) (operator : String)
  /-- What an account has moved from one validator to another. -/
  | redelegation (delegator : Address) (source destination : String)

namespace Subject

/-- The kind of the record. -/
def kind : Subject → Kind
  | balance _ => .balance
  | validator _ => .validator
  | delegation _ _ => .delegation
  | unbonding _ _ => .unbonding
  | redelegation _ _ _ => .redelegation

/-- The key of the record. -/
def key : Subject → Bytes
  | balance account => Key.balance account
  | validator operator => Key.validator operator
  | delegation delegator operator => Key.delegation delegator operator
  | unbonding delegator operator => Key.unbonding delegator operator
  | redelegation delegator source destination => Key.redelegation delegator source destination

/-- The start of the key tells the kind of the record. -/
theorem start_prefix_key (subject : Subject) : subject.kind.start <+: subject.key := by
  cases subject with
  | balance | validator => exact List.prefix_append _ _
  | delegation | unbonding | redelegation =>
      simp only [key, Key.delegation, Key.unbonding, Key.redelegation, List.append_assoc]
      exact List.prefix_append _ _

/-- Records with one key are of one kind. -/
theorem kind_eq_of_key_eq {one other : Subject} (h : one.key = other.key) :
    one.kind = other.kind :=
  eq_of_starts one.start_prefix_key (h ▸ other.start_prefix_key)

/-- **Keys tell what records are about.** Records of different kinds have different keys, and two
records have one key exactly if they are about the same, or if both are about what one account has
moved and the names of the validators join alike. -/
theorem key_eq_key_iff (one other : Subject) :
    (one.kind ≠ other.kind → one.key ≠ other.key) ∧
    (one.key = other.key ↔ one = other ∨
      ∃ delegator src dst source destination, one = .redelegation delegator src dst ∧
        other = .redelegation delegator source destination ∧
        pair src dst = pair source destination) := by
  refine ⟨mt kind_eq_of_key_eq, fun h => ?_, ?_⟩
  · have hkind := kind_eq_of_key_eq h
    cases one with
    | balance account =>
        cases other with
        | balance account' => exact .inl (congrArg _ (balance_inj.mp h))
        | _ => exact absurd hkind nofun
    | validator operator =>
        cases other with
        | validator operator' => exact .inl (congrArg _ (validator_inj.mp h))
        | _ => exact absurd hkind nofun
    | delegation delegator operator =>
        cases other with
        | delegation delegator' operator' =>
            obtain ⟨rfl, rfl⟩ := delegation_inj.mp h
            exact .inl rfl
        | _ => exact absurd hkind nofun
    | unbonding delegator operator =>
        cases other with
        | unbonding delegator' operator' =>
            obtain ⟨rfl, rfl⟩ := unbonding_inj.mp h
            exact .inl rfl
        | _ => exact absurd hkind nofun
    | redelegation delegator src dst =>
        cases other with
        | redelegation delegator' source destination =>
            obtain ⟨rfl, hpair⟩ := redelegation_eq_iff.mp h
            exact .inr ⟨delegator, src, dst, source, destination, rfl, rfl, hpair⟩
        | _ => exact absurd hkind nofun
  · rintro (rfl | ⟨delegator, src, dst, source, destination, rfl, rfl, hpair⟩)
    · rfl
    · exact redelegation_eq_iff.mpr ⟨rfl, hpair⟩

/-- Names with the separator in them can join alike. -/
example : (redelegation .zero "a/b" "c").key = (redelegation .zero "a" "b/c").key := by
  decide +kernel

end Subject

/-! ### Whose key it is -/

/-- The keys of the records of an account. -/
inductive IsOwn (account : Address) : Bytes → Prop
  /-- Its balance. -/
  | balance : IsOwn account (Key.balance account)
  /-- What it has bonded. -/
  | delegation (operator : String) : IsOwn account (Key.delegation account operator)
  /-- What is on its way back to it. -/
  | unbonding (operator : String) : IsOwn account (Key.unbonding account operator)
  /-- What it has moved. -/
  | redelegation (source destination : String) :
    IsOwn account (Key.redelegation account source destination)

variable {account other : Address} {key : Bytes}

/-- The key of a record of an account is the start of a kind, the octets of the account, and what
stands behind them. -/
theorem IsOwn.exists_eq (h : IsOwn account key) :
    ∃ (kind : Kind) (behind : Bytes),
      kind ≠ .validator ∧ key = kind.start ++ (account.octets ++ behind) := by
  cases h with
  | balance => exact ⟨.balance, [], nofun, by rw [List.append_nil]; rfl⟩
  | delegation operator =>
      refine ⟨.delegation, separator ++ Text.utf8 operator, nofun, ?_⟩
      simp only [Key.delegation, Kind.start, List.append_assoc]
  | unbonding operator =>
      refine ⟨.unbonding, separator ++ Text.utf8 operator, nofun, ?_⟩
      simp only [Key.unbonding, Kind.start, List.append_assoc]
  | redelegation source destination =>
      refine ⟨.redelegation, separator ++ Text.utf8 source ++ separator ++ Text.utf8 destination,
        nofun, ?_⟩
      simp only [Key.redelegation, Kind.start, List.append_assoc]

/-- **The key of a record tells whose record it is.** -/
theorem IsOwn.account_eq (h : IsOwn account key) (hother : IsOwn other key) : account = other := by
  obtain ⟨kind, behind, -, heq⟩ := h.exists_eq
  obtain ⟨kind', behind', -, heq'⟩ := hother.exists_eq
  obtain rfl : kind = kind' :=
    eq_of_starts (heq ▸ List.prefix_append _ _) (heq' ▸ List.prefix_append _ _)
  have hlength : account.octets.length = other.octets.length := by
    rw [account.length_octets, other.length_octets]
  exact Address.ext (List.append_inj (List.append_cancel_left (heq.symm.trans heq')) hlength).1

/-- The key of a record of an account is not that of a validator. -/
theorem IsOwn.ne_validator (h : IsOwn account key) (operator : String) :
    key ≠ Key.validator operator := by
  rintro rfl
  obtain ⟨kind, behind, hkind, heq⟩ := h.exists_eq
  exact hkind (eq_of_starts (heq ▸ List.prefix_append _ _) (List.prefix_append _ _))

end Key

end StakingGateway.Reference
