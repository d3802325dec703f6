import StakingGateway.Proofs.Chain.Conservation
import StakingGateway.Proofs.Reference.CallBookings
import StakingGateway.Proofs.Reference.Moves

/-!
# Histories of Redelegations

What an account has moved from one validator to another is noted, one entry for each call that
succeeded, and stays. So the entries that a store has for the two are those that the calls have made
since genesis, in their order (`Books.redelegations_storeAfter`).

But they are the entries of a key, and the key is not always that of one pair. The names of the two
validators are joined with a slash in it, and names may have slashes in them: to move tokens from
`a/b` to `c` is noted where it is noted to move them from `a` to `b/c`. What stands under a key, and
when that is the history of the pair, is said in `Chain.redelegations_by_key`: always if neither of
the names has a slash in it, and in general if no tokens have been moved between others that join
alike. Without that it can be another history (`Chain.redelegations_not_apart`).

## Main definitions

* `HistoryEntry.move?`, `Chain.moves`: the moves that calls have made.

## Main statements

* `Books.move?_run`: every redelegation that succeeds makes a move, of its caller.
* `Books.redelegations_run`, `Books.redelegations_storeAfter`: what calls add to what is noted.
* `Chain.redelegations_by_key`, `Chain.redelegations_not_apart`: when histories are kept apart.
-/

namespace StakingGateway

open Genesis (alpha beta fundedAccount)
open Reference

/-- The move that the call has made: that of the message that it handed over, if it succeeded. -/
def HistoryEntry.move? (parameters : Parameters) (entry : HistoryEntry) : Option Move :=
  match entry.report.result with
  | .error _ => none
  | .ok _ => entry.submission.call.message.toOption.bind
      (Reference.move? parameters entry.submission.call.block)

/-- A message that has been carried out makes its move. -/
theorem HistoryEntry.move?_of_ok {entry : HistoryEntry} {parameters : Parameters}
    {message : Message} {data : Bytes} (hresult : entry.report.result = .ok data)
    (hmessage : entry.submission.call.message = .ok message) :
    entry.move? parameters = Reference.move? parameters entry.submission.call.block message := by
  rw [HistoryEntry.move?, hresult, hmessage]
  rfl

/-- The moves that the calls have made, in their order. -/
def Chain.moves (chain : Chain) (submissions : List Submission) : List Move :=
  (chain.gateway.history submissions chain.store).filterMap (HistoryEntry.move? chain.parameters)

namespace Reference

variable {store : Store} {supply : Nat}

/-- **Every redelegation that succeeds makes a move.** It is one of the caller, between the two
validators and of the amount that the call names. -/
theorem Books.move?_run (h : Books store supply) {parameters : Parameters} {config : Config}
    {submission : Submission} {account : Address} {source destination : String} {coin : Coin}
    {data : Bytes}
    (hmessage : submission.call.message = .ok (.redelegate account source destination coin))
    (hresult : (Gateway.run ⟨stakingModule parameters, config⟩ submission.call store
      submission.gas).result = .ok data) :
    ∃ time shares, coin.amount.mul? shareUnit = some shares ∧
      HistoryEntry.move? parameters ⟨submission,
        Gateway.run ⟨stakingModule parameters, config⟩ submission.call store submission.gas⟩ =
          some ⟨submission.call.caller, source, destination,
            ⟨submission.call.block.height, time, coin.amount, shares⟩⟩ := by
  obtain ⟨time, -, heffect⟩ := Gateway.effect_of_ok (gasBlind_execute parameters) hmessage hresult
  obtain ⟨shares, hshares, hmove⟩ := h.move?_of_effect heffect
  have hcaller : account = submission.call.caller :=
    (Call.isAdmissible_of_message hmessage).authorized
  refine ⟨time, shares, hshares, ?_⟩
  rw [HistoryEntry.move?_of_ok hresult hmessage, hmove, hcaller]

/-- **What a call adds to what is noted** is the move that it has made, if it is noted there. -/
theorem Books.redelegations_run (h : Books store supply) (parameters : Parameters)
    (config : Config) (submission : Submission) (account : Address)
    (source destination : String) :
    let report := Gateway.run ⟨stakingModule parameters, config⟩ submission.call store submission.gas
    redelegations report.store account source destination =
      redelegations store account source destination ++
        noted (Key.redelegation account source destination)
          (HistoryEntry.move? parameters ⟨submission, report⟩).toList := by
  intro report
  cases hresult : report.result with
  | error failure =>
      have hmove : HistoryEntry.move? parameters ⟨submission, report⟩ = none := by
        rw [HistoryEntry.move?, hresult]
      have hsame : report.store = store := (Gateway.run_eq_of_error hresult).1
      rw [hsame, hmove]
      exact (List.append_nil _).symm
  | ok data =>
      cases hmessage : submission.call.message with
      | error failure =>
          have hsame : report.store = store := by
            obtain hsame | ⟨message, answer, hother, -⟩ :=
              @Gateway.run_store_eq_or_effect ⟨stakingModule parameters, config⟩
                (gasBlind_execute parameters) submission.call store submission.gas
            · exact hsame
            · rw [hmessage] at hother
              cases hother
          have hmove : HistoryEntry.move? parameters ⟨submission, report⟩ = none := by
            rw [HistoryEntry.move?, hresult, hmessage]
            rfl
          rw [hsame, hmove]
          exact (List.append_nil _).symm
      | ok message =>
          obtain ⟨answer, -, heffect⟩ :=
            Gateway.effect_of_ok (gasBlind_execute parameters) hmessage hresult
          rw [HistoryEntry.move?_of_ok hresult hmessage]
          exact h.redelegations_of_effect heffect account source destination

/-- **What calls add to what is noted** are the moves that they have made, as far as these are noted
there. -/
theorem Books.redelegations_storeAfter (h : Books store supply) (parameters : Parameters)
    (config : Config) (submissions : List Submission) (account : Address)
    (source destination : String) :
    let gateway : Gateway := ⟨stakingModule parameters, config⟩
    redelegations (gateway.storeAfter submissions store) account source destination =
      redelegations store account source destination ++
        noted (Key.redelegation account source destination)
          ((gateway.history submissions store).filterMap (HistoryEntry.move? parameters)) := by
  intro gateway
  induction submissions generalizing store with
  | nil => exact (List.append_nil _).symm
  | cons submission submissions ih =>
      have hstep := h.redelegations_run parameters config submission account source destination
      have hrest := ih (h.books_run parameters config submission.call submission.gas)
      dsimp only at hstep hrest
      rw [Gateway.storeAfter, Gateway.history, hrest, hstep, List.append_assoc, ← noted_append]
      cases hmove : HistoryEntry.move? parameters
          ⟨submission, gateway.run submission.call store submission.gas⟩ with
      | none =>
          rw [List.filterMap_cons_none hmove]
          rfl
      | some move =>
          rw [List.filterMap_cons_some hmove]
          rfl

end Reference

namespace Chain

variable {genesis : Genesis} {chain : Chain}

/-- Nothing has been moved at genesis. -/
theorem redelegations_genesis (h : ofGenesis genesis = .ok chain) (account : Address)
    (source destination : String) :
    redelegations chain.store account source destination = [] := by
  obtain ⟨hfresh, -⟩ := genesis.isFresh_store
  rw [← store_of_ofGenesis h] at hfresh
  have hnothing : (chain.store.record? (Key.redelegation account source destination) :
      Option (List Redelegation)) = none := by
    refine Option.eq_none_iff_forall_ne_some.mpr fun entries hentries => ?_
    obtain ⟨-, hkeeps⟩ :=
      ((isSlot_redelegations account source destination).record?_eq_some_iff hfresh).mp hentries
    exact hfresh.of_keeps hkeeps
  exact congrArg (Option.getD · []) hnothing

/-- **The entries that are noted of redelegations are those of a key.** They are the entries of all
moves that the calls since genesis have made and that are noted under it, in their order. That is
the history of the account between the two validators if and only if all of them are moves between
these, and it is so if neither name has a slash in it. -/
theorem redelegations_by_key (h : ofGenesis genesis = .ok chain) (submissions : List Submission)
    (account : Address) (source destination : String) :
    let found := redelegations (chain.gateway.storeAfter submissions chain.store) account source
      destination
    let moves := chain.moves submissions
    let history := entriesBetween account source destination moves
    found = noted (Key.redelegation account source destination) moves ∧
      (found = history ↔ ∀ move ∈ moves, move.key = Key.redelegation account source destination →
        move.source = source ∧ move.destination = destination) ∧
      ('/' ∉ source.toList → '/' ∉ destination.toList → found = history) := by
  intro found moves history
  have hfound : found = noted (Key.redelegation account source destination) moves := by
    have hafter := (books_storeAfter h []).redelegations_storeAfter chain.parameters chain.config
      submissions account source destination
    dsimp only [Gateway.storeAfter] at hafter
    rw [redelegations_genesis h, List.nil_append] at hafter
    exact hafter
  have hhistory : found = history ↔
      ∀ move ∈ moves, move.key = Key.redelegation account source destination →
        move.source = source ∧ move.destination = destination := by
    rw [hfound]
    exact noted_eq_entriesBetween_iff
  refine ⟨hfound, hhistory, fun hsource hdestination => hhistory.mpr fun move _ hkey => ?_⟩
  exact (pair_eq_iff hsource hdestination).mp (redelegation_eq_iff.mp hkey).2

/-- An account bonds 400 tokens, and moves 100 and then 50 of them to another validator, with a move
back of 30 between the two. -/
theorem redelegations_by_key_bundled :
    let account := fundedAccount
    let submissions := [submission account (delegateData account alpha 400) ⟨100, 1000⟩,
      submission account (redelegateData account alpha beta 100) ⟨101, 1006⟩,
      submission account (redelegateData account beta alpha 30) ⟨102, 1012⟩,
      submission account (redelegateData account alpha beta 50) ⟨103, 1018⟩]
    let found := redelegations (bundled.gateway.storeAfter submissions bundled.store) account alpha
      beta
    found = entriesBetween account alpha beta (bundled.moves submissions) ∧
      found.map (fun entry => (entry.creationHeight, entry.initialBalance)) =
        [(101, 100), (103, 50)] := by
  intro account submissions found
  obtain ⟨-, -, hapart⟩ := redelegations_by_key ofGenesis_bundled submissions account alpha beta
  exact ⟨hapart (by decide) (by decide), by decide +kernel⟩

/-- **Histories need not be kept apart.** An account that has moved 40 tokens from `a/b` to `c` has
not moved any from `a` to `b/c`, but that is where they are found. -/
theorem redelegations_not_apart :
    ¬ ∀ (genesis : Genesis) (chain : Chain), ofGenesis genesis = .ok chain →
      ∀ (submissions : List Submission) (account : Address) (source destination : String),
        redelegations (chain.gateway.storeAfter submissions chain.store) account source
          destination = entriesBetween account source destination (chain.moves submissions) := by
  intro hall
  let account := fundedAccount
  let genesis : Genesis :=
    { Genesis.fixture with
      validators := [⟨"a", "first"⟩, ⟨"b/c", "second"⟩, ⟨"a/b", "third"⟩, ⟨"c", "fourth"⟩] }
  let chain : Chain := ⟨genesis.parameters, genesis.config, genesis.store, genesis.block⟩
  let submissions := [submission account (delegateData account "a/b" 100) genesis.block,
    submission account (redelegateData account "a/b" "c" 40) genesis.block]
  obtain ⟨hfound, hnone⟩ : (redelegations (chain.gateway.storeAfter submissions chain.store) account
      "a" "b/c").length = 1 ∧ entriesBetween account "a" "b/c" (chain.moves submissions) = [] := by
    decide +kernel
  rw [hall genesis chain rfl submissions account "a" "b/c", hnone] at hfound
  cases hfound

end Chain

end StakingGateway
