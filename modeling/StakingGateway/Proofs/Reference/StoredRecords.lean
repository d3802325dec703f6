import StakingGateway.Proofs.Json.LawfulCodec
import StakingGateway.Reference.Record

/-!
# Stored Records Read Back

The codecs of all records that the reference module keeps are lawful: a record that is kept under a
key is read from there as it was kept (`Json.decode?_encode`).
-/

namespace StakingGateway

open Json LawfulCodec
open Reference (Holding Redelegation)

/-- What is written for a field stands for it, where nothing is expected of the field. -/
theorem isFaithful_any {α : Type} [Codec α] [LawfulCodec α] (a : α) : IsFaithful .any (toJson a) :=
  IsFaithful.any _ (isFaithful_toJson a)

instance : LawfulCodec BondStatus where
  ofJson?_toJson status := by
    cases status with
    | unspecified | unbonded | unbonding | bonded => rfl
  isFaithful_toJson _ := rfl

instance : LawfulCodec Validator where
  ofJson?_toJson v := by
    have hfields := fields?_record
      ["operator_address", "moniker", "jailed", "status", "tokens", "delegator_shares",
        "unbonding_height", "unbonding_time", "commission_rate", "min_self_delegation"]
      [toJson v.operator, toJson v.moniker, toJson v.jailed, toJson v.status, toJson v.tokens,
        toJson v.delegatorShares, toJson v.unbondingHeight, toJson v.unbondingTime,
        toJson v.commissionRate, toJson v.minSelfDelegation] (by decide) rfl
    change fields? _ (toJson v) = _ at hfields
    simp only [List.map_cons, List.map_nil] at hfields
    simp only [ofJson?]
    rw [hfields, Option.bind_eq_bind, Option.bind_some]
    dsimp only
    simp only [required?_toJson, Option.bind_eq_bind, Option.bind_some, Option.pure_def]
  isFaithful_toJson v := by
    refine isFaithful_record ?_
    simp only [List.forall_mem_cons]
    exact ⟨isFaithful_any _, isFaithful_any _, isFaithful_any _, isFaithful_any _,
      isFaithful_any _, isFaithful_any _, isFaithful_any _, isFaithful_any _, isFaithful_any _,
      isFaithful_any _, List.forall_mem_nil _⟩

instance : LawfulCodec UnbondingEntry where
  ofJson?_toJson entry := by
    have hfields := fields?_record
      ["creation_height", "completion_time", "initial_balance", "balance"]
      [toJson entry.creationHeight, toJson entry.completionTime, toJson entry.initialBalance,
        toJson entry.balance] (by decide) rfl
    change fields? _ (toJson entry) = _ at hfields
    simp only [List.map_cons, List.map_nil] at hfields
    simp only [ofJson?]
    rw [hfields, Option.bind_eq_bind, Option.bind_some]
    dsimp only
    simp only [required?_toJson, Option.bind_eq_bind, Option.bind_some, Option.pure_def]
  isFaithful_toJson entry := by
    refine isFaithful_record ?_
    simp only [List.forall_mem_cons]
    exact ⟨isFaithful_any _, isFaithful_any _, isFaithful_any _, isFaithful_any _,
      List.forall_mem_nil _⟩

instance : LawfulCodec UnbondingDelegation where
  ofJson?_toJson unbonding := by
    have hfields := fields?_record ["delegator", "validator", "entries"]
      [toJson unbonding.delegator, toJson unbonding.validator, toJson unbonding.entries]
      (by decide) rfl
    change fields? _ (toJson unbonding) = _ at hfields
    simp only [List.map_cons, List.map_nil] at hfields
    simp only [ofJson?]
    rw [hfields, Option.bind_eq_bind, Option.bind_some]
    dsimp only
    simp only [required?_toJson, Option.bind_eq_bind, Option.bind_some, Option.pure_def]
  isFaithful_toJson unbonding := by
    refine isFaithful_record ?_
    simp only [List.forall_mem_cons]
    exact ⟨isFaithful_toJson unbonding.delegator, isFaithful_any _, isFaithful_any _,
      List.forall_mem_nil _⟩

instance : LawfulCodec Holding where
  ofJson?_toJson holding := by
    have hfields := fields?_record ["shares"] [toJson holding.shares] (by decide) rfl
    change fields? _ (toJson holding) = _ at hfields
    simp only [List.map_cons, List.map_nil] at hfields
    simp only [ofJson?]
    rw [hfields, Option.bind_eq_bind, Option.bind_some]
    dsimp only
    simp only [required?_toJson, Option.bind_eq_bind, Option.bind_some, Option.pure_def]
  isFaithful_toJson holding := by
    refine isFaithful_record ?_
    simp only [List.forall_mem_cons]
    exact ⟨isFaithful_any _, List.forall_mem_nil _⟩

instance : LawfulCodec Redelegation where
  ofJson?_toJson entry := by
    have hfields := fields?_record
      ["creation_height", "completion_time", "initial_balance", "shares_dst"]
      [toJson entry.creationHeight, toJson entry.completionTime, toJson entry.initialBalance,
        toJson entry.destinationShares] (by decide) rfl
    change fields? _ (toJson entry) = _ at hfields
    simp only [List.map_cons, List.map_nil] at hfields
    simp only [ofJson?]
    rw [hfields, Option.bind_eq_bind, Option.bind_some]
    dsimp only
    simp only [required?_toJson, Option.bind_eq_bind, Option.bind_some, Option.pure_def]
  isFaithful_toJson entry := by
    refine isFaithful_record ?_
    simp only [List.forall_mem_cons]
    exact ⟨isFaithful_any _, isFaithful_any _, isFaithful_any _, isFaithful_any _,
      List.forall_mem_nil _⟩

end StakingGateway
