import StakingGateway.Proofs.Chain.Conservation
import StakingGateway.Proofs.Gateway.Settlement
import StakingGateway.Proofs.Reference.Queries
import StakingGateway.Proofs.Reference.Refusals

/-!
# Why Calls of a Chain Are Rejected

The staking module has many ways to say that something is wrong with its own store: octets that do
not read back, a balance that is too wide, a product of shares and tokens that does not fit. On a
chain with a supply below `2 ^ 98`, it never has to (`Chain.rejections_justified`). All that is
stored reads back, and the products are bounded by the supply, so a number that does not fit is the
fault of the caller, who asks for more than there is or at too late a time.

## Main statements

* `Chain.rejected_of_books`: what calls are rejected for.
* `Chain.rejections_justified`: no complaints about what is stored, and no overflow without cause.
-/

namespace StakingGateway.Chain

open Genesis (alpha fundedAccount)
open Reference

variable {parameters : Parameters} {config : Config} {store : Store} {supply : Nat}

/-- **An error of the staking module** comes out of a call for an ordinary reason, or because the
message of the call overreaches. -/
theorem rejected_of_books (h : Books store supply) (hsupply : supply < 2 ^ 98) {call : Call}
    {gas : GasAccount} {error : ModuleError}
    (hresult : (Gateway.run ⟨stakingModule parameters, config⟩ call store gas).result =
      .error (.rejected error)) :
    (∃ fault : Fault, fault.isOrdinary = true ∧ error = fault.toModuleError) ∨
      error = Fault.overflow.toModuleError ∧ ∃ message, call.message = .ok message ∧
        Overreaches parameters call.block store message := by
  rcases Gateway.of_rejected (gasBlind_execute parameters) hresult with
    ⟨message, hmessage, heffect⟩ | ⟨query, reason, hanswer, -⟩
  · have hpos := (Call.isAdmissible_of_message hmessage).positive
    refine (h.refused_of_error hsupply hpos heffect).cause.imp_right ?_
    rintro ⟨herror, hover⟩
    exact ⟨herror, message, hmessage, hover⟩
  · obtain ⟨description, heq⟩ := h.failsOnlyWith_answer hsupply parameters query _ hanswer
    cases heq

/-- **Nothing that is stored is reported to be corrupted, and no overflow without cause.** After any
calls on a chain with a supply below `2 ^ 98`, no call ends with an error of the gateway's own name
space, be it a query or not, and no query of the staking module complains about what is stored. A
call ends with the error of a number that does not fit only if it is an undelegation or redelegation
that asks for more than the delegator has bonded to the validator, or one in a block so late that
the time at which the tokens are free does not fit 64 bits. -/
theorem rejections_justified {genesis : Genesis} {chain : Chain} (h : ofGenesis genesis = .ok chain)
    (hsupply : genesis.supply < 2 ^ 98) (submissions : List Submission) :
    let store := chain.gateway.storeAfter submissions chain.store
    (∀ (call : Call) (gas : GasAccount) (error : ModuleError),
      (chain.gateway.run call store gas).result = .error (.rejected error) →
        error.codespace ≠ ModuleError.gatewayCodespace ∧
          (error.codespace = Fault.stakingCodespace ∧ error.code = 9 →
            ∃ message, call.message = .ok message ∧
              Overreaches chain.parameters call.block store message)) ∧
      ∀ (query : Query) (block : Block) (reason : String),
        ((chain.gateway.stakingModule.answer query).run block store).1 ≠
          .error (.corrupted reason) := by
  intro store
  have hbooks : Books store genesis.supply := books_storeAfter h submissions
  constructor
  · intro call gas error hresult
    rcases rejected_of_books hbooks hsupply hresult with ⟨fault, hfault, rfl⟩ | ⟨rfl, hasks⟩
    · obtain ⟨hother, hfits⟩ := Fault.toModuleError_of_isOrdinary hfault
      exact ⟨hother, fun hoverflow => absurd hoverflow hfits⟩
    · exact ⟨by decide, fun _ => hasks⟩
  · intro query block reason hanswer
    obtain ⟨description, heq⟩ :=
      hbooks.failsOnlyWith_answer hsupply chain.parameters query _ hanswer
    cases heq

/-- An account that has bonded 400 tokens asks for `2 ^ 200` of them, and the shares for these do
not fit. -/
theorem rejections_justified_undelegation :
    let account := fundedAccount
    let submissions := [submission account (delegateData account alpha 400) ⟨100, 1000⟩]
    let data := CallData.ofArguments .undelegate
      (account, alpha, standardDenom, ⟨2 ^ 200, by decide⟩, ())
    let call : Call := ⟨data, account, false, ⟨101, 1006⟩⟩
    let store := bundled.gateway.storeAfter submissions bundled.store
    let report := bundled.gateway.run call store (.full ampleGas)
    report.result = .error (.rejected Fault.overflow.toModuleError) ∧
      staked store account alpha = 400 ∧
      ∃ message, call.message = .ok message ∧
        Overreaches bundled.parameters call.block store message := by
  intro account submissions data call store report
  have hresult : report.result = .error (.rejected Fault.overflow.toModuleError) := by
    decide +kernel
  refine ⟨hresult, by decide +kernel, ?_⟩
  have hjustified := rejections_justified ofGenesis_bundled (by decide) submissions
  exact (hjustified.1 call _ _ hresult).2 ⟨rfl, rfl⟩

end StakingGateway.Chain
