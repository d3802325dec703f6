import Mathlib.Data.List.Chain
import StakingGateway.Proofs.Execution.Snapshot
import StakingGateway.Proofs.Gateway.Delivery

/-!
# The Course of a Transaction

A report lists the phases of a transaction when all is over. Here the transaction is taken apart
into steps from one moment to the next (`Executor.Step`), so that it can be said what happens in
between: a step goes from a phase to one that may follow it, and only the step that commits touches
the store and the gas account. That a transaction comes where the steps lead, by way of the phases
in its report, is `Executor.exists_course`.

What every moment keeps (`Moment.Sound`) is which message has been read, that nothing is changed
before the changes are made, and what has been paid for them. It settles how a transaction can end
in each of the phases, so the last phase tells of what kind the result is, and the result tells the
last phase (`Executor.transact_phases`).

## Main definitions

* `Stage`, `Moment`: how far a transaction has come, and with which store and gas account.
* `Executor.Step`, `Executor.Halts`: the steps of a transaction, and where it ends.
* `Executor.metered`: the gas that the staking module takes for the message of call data.
* `endingPhase?`: the phase in which a transaction ends that has the result.
* `Moment.Sound`: what is known of a moment.

## Main statements

* `Moment.Sound.step`, `Moment.Sound.of_isChain`: what one step keeps, and what all of them do.
* `Executor.exists_course`: transactions take steps.
* `Executor.transact_phases`: the phases of a transaction, and what is changed in which of them.
-/

namespace StakingGateway

/-! ### Endings -/

/-- The phase in which a transaction ends that fails like this, if one can. -/
def Failure.phase? : Failure → Option Phase
  | .unknownMethod _ => some .decoding
  | .decode _ => some .decoding
  | .unauthorized .. => some .decoding
  | .invalidMessage _ => some .validating
  | .rejected _ => some .discarded
  | .encode _ => some .discarded
  | .outOfGas .. => some .discarded
  | .writeProtection => none
  | .notFound _ => none

/-- The phase in which a transaction ends that has the result, if one can. -/
def endingPhase? : Except Failure Bytes → Option Phase
  | .ok _ => some .committed
  | .error failure => failure.phase?

/-! ### Steps -/

/-- How far a transaction has come: its phase, with what is known in it. -/
inductive Stage where
  /-- Nothing has happened. -/
  | idle
  /-- The call data are read. -/
  | decoding
  /-- The message is checked. -/
  | validating (message : Message)
  /-- The staking module runs over a layer of its own. -/
  | snapshotted (message : Message)
  /-- The changes have been made, and these are the return data. -/
  | committed (data : Bytes)
  /-- The changes have been dropped for the reason given. -/
  | discarded (failure : Failure)

/-- A moment of a transaction. -/
structure Moment where
  /-- How far it has come. -/
  stage : Stage
  /-- The store. -/
  store : Store
  /-- The gas that the caller has left. -/
  gas : GasAccount

/-- The phase that the transaction is in. -/
def Moment.phase (moment : Moment) : Phase :=
  match moment.stage with
  | .idle => .idle
  | .decoding => .decoding
  | .validating _ => .validating
  | .snapshotted _ => .snapshotted
  | .committed _ => .committed
  | .discarded _ => .discarded

namespace Executor

/-- What a transaction can do next. -/
inductive Step (executor : Executor) (descriptor : Descriptor) (data : Bytes) (caller : Address) :
    Moment → Moment → Prop where
  /-- It begins. -/
  | begin (store : Store) (gas : GasAccount) :
    Step executor descriptor data caller ⟨.idle, store, gas⟩ ⟨.decoding, store, gas⟩
  /-- A message has been read. -/
  | read {message : Message} (store : Store) (gas : GasAccount)
      (h : readMessage descriptor data caller = .ok message) :
    Step executor descriptor data caller ⟨.decoding, store, gas⟩ ⟨.validating message, store, gas⟩
  /-- The message has passed its check. -/
  | check {message : Message} (store : Store) (gas : GasAccount) (h : message.check = .ok ()) :
    Step executor descriptor data caller ⟨.validating message, store, gas⟩
      ⟨.snapshotted message, store, gas⟩
  /-- The run of the message is paid for, and its changes are made. -/
  | commit {message : Message} {store : Store} {gas left : GasAccount} {encoded : Bytes}
      (h : settle descriptor message (executor.runMessage message store) gas =
        .ok (encoded, left)) :
    Step executor descriptor data caller ⟨.snapshotted message, store, gas⟩
      ⟨.committed encoded, store.apply (executor.runMessage message store).store.changes, left⟩
  /-- It is not, and they are dropped. -/
  | discard {message : Message} {store : Store} {gas : GasAccount} {failure : Failure}
      (h : settle descriptor message (executor.runMessage message store) gas = .error failure) :
    Step executor descriptor data caller ⟨.snapshotted message, store, gas⟩
      ⟨.discarded failure, store, gas⟩

/-- Where a transaction ends, and with which result. -/
inductive Halts (descriptor : Descriptor) (data : Bytes) (caller : Address) :
    Moment → Except Failure Bytes → Prop where
  /-- No message can be read. -/
  | unread {failure : Failure} (store : Store) (gas : GasAccount)
      (h : readMessage descriptor data caller = .error failure) :
    Halts descriptor data caller ⟨.decoding, store, gas⟩ (.error failure)
  /-- The message does not pass its check. -/
  | invalid {message : Message} {fault : MessageFault} (store : Store) (gas : GasAccount)
      (h : message.check = .error fault) :
    Halts descriptor data caller ⟨.validating message, store, gas⟩
      (.error (.invalidMessage fault))
  /-- The changes have been made. -/
  | committed (encoded : Bytes) (store : Store) (gas : GasAccount) :
    Halts descriptor data caller ⟨.committed encoded, store, gas⟩ (.ok encoded)
  /-- The changes have been dropped. -/
  | discarded (failure : Failure) (store : Store) (gas : GasAccount) :
    Halts descriptor data caller ⟨.discarded failure, store, gas⟩ (.error failure)

/-- The gas that the staking module takes for the message of the call data; none if there is no
message. -/
def metered (executor : Executor) (descriptor : Descriptor) (data : Bytes) (caller : Address)
    (store : Store) : Nat :=
  match readMessage descriptor data caller with
  | .error _ => 0
  | .ok message => (executor.runMessage message store).ledger.consumed.toNat

end Executor

section Course

variable {executor : Executor} {descriptor : Descriptor} {data : Bytes} {caller : Address}
  {store : Store} {gas : GasAccount} {moment next : Moment}

namespace Executor

/-- **A step goes to a phase that may follow.** -/
theorem Step.canAdvanceTo (h : executor.Step descriptor data caller moment next) :
    moment.phase.canAdvanceTo next.phase = true := by
  cases h with
  | begin | read | check | commit | discard => rfl

/-- **Only the step that commits touches the store and the account.** -/
theorem Step.eq_of_ne_committed (h : executor.Step descriptor data caller moment next)
    (hphase : next.phase ≠ .committed) : next.store = moment.store ∧ next.gas = moment.gas := by
  cases h with
  | begin | read | check | discard => exact ⟨rfl, rfl⟩
  | commit => exact absurd rfl hphase

end Executor

/-! ### What every moment keeps -/

/-- What is known of a moment of a transaction that began with the store and the account. -/
def Moment.Sound (executor : Executor) (descriptor : Descriptor) (data : Bytes)
    (caller : Address) (store : Store) (gas : GasAccount) (moment : Moment) : Prop :=
  match moment.stage with
  | .idle | .decoding => moment.store = store ∧ moment.gas = gas
  | .validating message | .snapshotted message =>
    Executor.readMessage descriptor data caller = .ok message ∧ moment.store = store ∧
      moment.gas = gas
  | .committed _ => ∃ message, Executor.readMessage descriptor data caller = .ok message ∧
    gas.charge (executor.runMessage message store).ledger.consumed = .ok moment.gas
  | .discarded failure => failure.phase? = some .discarded ∧ moment.store = store ∧
    moment.gas = gas

/-- A run that is not paid for is turned down, has no return data, or is too dear. -/
theorem Executor.failsOnlyWith_settle (descriptor : Descriptor) (message : Message)
    (outcome : Outcome message.Answer) (gas : GasAccount) :
    FailsOnlyWith (fun failure => failure.phase? = some .discarded)
      (settle descriptor message outcome gas) := by
  refine .bind ?_ fun answer => .bind ?_ fun encoded => .bind ?_ fun left => failsOnlyWith_ok _ _
  · exact failsOnlyWith_mapError (by intro error; rfl) _
  · exact failsOnlyWith_mapError (by intro fault; rfl) _
  · intro failure hcharge
    obtain ⟨-, rfl⟩ := GasAccount.charge_eq_error_iff.mp hcharge
    rfl

/-- What is refused before there is a message is refused while the call data are read. -/
theorem Executor.failsOnlyWith_readMessage (descriptor : Descriptor) (data : Bytes)
    (caller : Address) :
    FailsOnlyWith (fun failure => failure.phase? = some .decoding)
      (readMessage descriptor data caller) := by
  intro failure h
  obtain hrequest | ⟨query, -, rfl⟩ := readMessage_eq_error_iff.mp h
  · obtain ⟨fault, -, rfl⟩ | ⟨request, -, hprincipal⟩ := readRequest_eq_error_iff.mp hrequest
    · rfl
    · obtain ⟨-, -, rfl⟩ := checkPrincipal_eq_error_iff.mp hprincipal
      rfl
  · rfl

/-- **A step keeps what is known.** -/
theorem Moment.Sound.step (h : moment.Sound executor descriptor data caller store gas)
    (hstep : executor.Step descriptor data caller moment next) :
    next.Sound executor descriptor data caller store gas := by
  cases hstep with
  | begin => exact h
  | read before account hmessage => exact ⟨hmessage, h⟩
  | check => exact h
  | commit hsettle =>
      obtain ⟨hmessage, rfl, rfl⟩ := h
      obtain ⟨-, -, -, hcharge⟩ := Executor.settle_eq_ok_iff.mp hsettle
      exact ⟨_, hmessage, hcharge⟩
  | discard hsettle =>
      obtain ⟨-, hsame⟩ := h
      exact ⟨Executor.failsOnlyWith_settle _ _ _ _ _ hsettle, hsame⟩

/-- **All steps keep what is known.** -/
theorem Moment.Sound.of_isChain {moments : List Moment}
    (hsteps : (moment :: moments).IsChain (executor.Step descriptor data caller))
    (h : moment.Sound executor descriptor data caller store gas) :
    ∀ later ∈ moment :: moments, later.Sound executor descriptor data caller store gas :=
  hsteps.induction _ _ (fun _ _ hstep hsound => hsound.step hstep) fun _ => h

/-- Where a transaction ends is told by its result. -/
theorem Moment.Sound.endingPhase (h : moment.Sound executor descriptor data caller store gas)
    {result : Except Failure Bytes} (hhalts : Executor.Halts descriptor data caller moment result) :
    endingPhase? result = some moment.phase := by
  cases hhalts with
  | unread before account hunread => exact Executor.failsOnlyWith_readMessage _ _ _ _ hunread
  | invalid | committed => rfl
  | discarded failure before account => exact h.1

/-- An account that is charged changes exactly if it is charged something. -/
theorem GasAccount.ne_iff_of_charge {account after : GasAccount} {amount : UInt64}
    (h : account.charge amount = .ok after) : after ≠ account ↔ 0 < amount.toNat := by
  obtain ⟨hlimit, hremaining⟩ := charge_eq_ok_iff.mp h
  rw [ne_eq, GasAccount.ext_iff, and_iff_right hlimit, ← UInt64.toNat_inj]
  omega

/-- Nothing is changed in any other phase than the one in which the changes are made. -/
theorem Moment.Sound.eq_of_ne_committed
    (h : moment.Sound executor descriptor data caller store gas)
    (hphase : moment.phase ≠ .committed) : moment.store = store ∧ moment.gas = gas := by
  obtain ⟨stage, before, account⟩ := moment
  cases stage with
  | idle | decoding => exact h
  | validating message | snapshotted message | discarded failure => exact h.2
  | committed encoded => exact absurd rfl hphase

/-- What has been paid in that phase is what the staking module has taken. -/
theorem Moment.Sound.exists_charge (h : moment.Sound executor descriptor data caller store gas)
    (hphase : moment.phase = .committed) :
    ∃ amount : UInt64, amount.toNat = executor.metered descriptor data caller store ∧
      gas.charge amount = .ok moment.gas := by
  obtain ⟨stage, before, account⟩ := moment
  cases stage with
  | idle | decoding | validating message | snapshotted message | discarded failure => cases hphase
  | committed encoded =>
      obtain ⟨message, hmessage, hcharge⟩ := h
      refine ⟨_, ?_, hcharge⟩
      rw [Executor.metered, hmessage]

/-- The account is changed with the store, unless there is nothing to pay. -/
theorem Moment.Sound.gas_ne_iff (h : moment.Sound executor descriptor data caller store gas) :
    moment.gas ≠ gas ↔
      moment.phase = .committed ∧ 0 < executor.metered descriptor data caller store := by
  by_cases hphase : moment.phase = .committed
  · obtain ⟨amount, hamount, hcharge⟩ := h.exists_charge hphase
    rw [GasAccount.ne_iff_of_charge hcharge, hamount, and_iff_right hphase]
  · exact iff_of_false (not_not_intro (h.eq_of_ne_committed hphase).2) fun hboth => hphase hboth.1

/-! ### Transactions -/

/-- **Transactions take steps**, through the phases in their reports. -/
theorem Executor.exists_course (executor : Executor) (descriptor : Descriptor) (data : Bytes)
    (caller : Address) (store : Store) (gas : GasAccount) :
    let report := executor.transact descriptor data caller store gas
    ∃ (moments : List Moment) (last : Moment),
      ((⟨.idle, store, gas⟩ : Moment) :: moments).IsChain
          (executor.Step descriptor data caller) ∧
        moments.map Moment.phase = report.phases ∧ moments.getLast? = some last ∧
          last.store = report.store ∧ last.gas = report.gas ∧
            Halts descriptor data caller last report.result := by
  dsimp only
  rw [transact]
  have hbegin : executor.Step descriptor data caller ⟨.idle, store, gas⟩ ⟨.decoding, store, gas⟩ :=
    .begin store gas
  cases hread : readMessage descriptor data caller with
  | error failure =>
      exact ⟨[⟨.decoding, store, gas⟩], _, .cons_cons hbegin (.singleton _), rfl, rfl, rfl, rfl,
        .unread store gas hread⟩
  | ok message =>
      have hread' : executor.Step descriptor data caller ⟨.decoding, store, gas⟩
        ⟨.validating message, store, gas⟩ := .read store gas hread
      dsimp only
      cases hcheck : message.check with
      | error fault =>
          exact ⟨[⟨.decoding, store, gas⟩, ⟨.validating message, store, gas⟩], _,
            .cons_cons hbegin (.cons_cons hread' (.singleton _)), rfl, rfl, rfl, rfl,
            .invalid store gas hcheck⟩
      | ok =>
          have hcheck' : executor.Step descriptor data caller ⟨.validating message, store, gas⟩
            ⟨.snapshotted message, store, gas⟩ := .check store gas hcheck
          dsimp only
          cases hsettle : settle descriptor message (executor.runMessage message store) gas with
          | error failure =>
              exact ⟨[⟨.decoding, store, gas⟩, ⟨.validating message, store, gas⟩,
                ⟨.snapshotted message, store, gas⟩, ⟨.discarded failure, store, gas⟩], _,
                .cons_cons hbegin (.cons_cons hread' (.cons_cons hcheck' (.cons_cons
                  (.discard hsettle) (.singleton _)))), rfl, rfl, rfl, rfl,
                .discarded failure store gas⟩
          | ok paid =>
              obtain ⟨encoded, left⟩ := paid
              exact ⟨[⟨.decoding, store, gas⟩, ⟨.validating message, store, gas⟩,
                ⟨.snapshotted message, store, gas⟩, ⟨.committed encoded, _, left⟩], _,
                .cons_cons hbegin (.cons_cons hread' (.cons_cons hcheck' (.cons_cons
                  (.commit hsettle) (.singleton _)))), rfl, rfl, rfl, rfl,
                .committed encoded _ left⟩

/-- **Transactions go through their phases in order.** The phases form a path from idleness along
the phases that may follow each other, and the last one is told by the result. The store differs in
the end only if that is the phase in which the changes are made, and the account differs exactly if
it is and the staking module has taken gas. The steps that lead there change neither of the two,
except for the one that commits. -/
theorem Executor.transact_phases (executor : Executor) (descriptor : Descriptor) (data : Bytes)
    (caller : Address) (store : Store) (gas : GasAccount) :
    let report := executor.transact descriptor data caller store gas
    ((.idle :: report.phases).IsChain fun phase next => phase.canAdvanceTo next = true) ∧
      report.phases.getLast? = endingPhase? report.result ∧
      (report.store ≠ store → report.phases.getLast? = some .committed) ∧
      (report.gas ≠ gas ↔ report.phases.getLast? = some .committed ∧
        0 < executor.metered descriptor data caller store) ∧
      ∃ moments : List Moment, moments.map Moment.phase = report.phases ∧
        ((⟨.idle, store, gas⟩ : Moment) :: moments).IsChain (fun moment next =>
          executor.Step descriptor data caller moment next ∧ (next.phase ≠ .committed →
            next.store = moment.store ∧ next.gas = moment.gas)) ∧
        ∃ last, moments.getLast? = some last ∧ Halts descriptor data caller last report.result ∧
          last.store = report.store ∧ last.gas = report.gas := by
  intro report
  obtain ⟨moments, last, hsteps, hphases, hlast, hstore, hgas, hhalts⟩ :=
    executor.exists_course descriptor data caller store gas
  have hsound : last.Sound executor descriptor data caller store gas :=
    Moment.Sound.of_isChain hsteps ⟨rfl, rfl⟩ last
      (List.mem_cons_of_mem _ (List.mem_of_getLast? hlast))
  have hending : report.phases.getLast? = some last.phase := by
    rw [← hphases, List.getLast?_map, hlast, Option.map_some]
  refine ⟨?_, ?_, ?_, ?_, moments, hphases, ?_, last, hlast, hhalts, hstore, hgas⟩
  · have hpath : (List.map Moment.phase (⟨.idle, store, gas⟩ :: moments)).IsChain
        fun phase next => phase.canAdvanceTo next = true :=
      (List.isChain_map _).mpr (hsteps.imp fun _ _ hstep => hstep.canAdvanceTo)
    rw [List.map_cons, hphases] at hpath
    exact hpath
  · rw [hending, hsound.endingPhase hhalts]
  · intro hchanged
    rw [hending, Option.some.injEq]
    refine of_not_not fun hphase => hchanged ?_
    rw [← hstore, (hsound.eq_of_ne_committed hphase).1]
  · rw [hending, Option.some.injEq, ← hgas, hsound.gas_ne_iff]
  · exact hsteps.imp fun _ _ hstep => ⟨hstep, hstep.eq_of_ne_committed⟩

end Course

end StakingGateway
