import StakingGateway.Proofs.Execution.Snapshot
import StakingGateway.Proofs.Gateway.Delivery
import StakingGateway.Proofs.Text.Ascii

/-!
# What Reaches the Staking Module

Whatever octets anybody calls the gateway with, the staking module is handed well-formed messages
only, each on behalf of the caller who asked for it, and each spelled out by the call data in the
one way there is to spell it (`Message.IsAdmissible`). Routing, the guard of the frame, the reader
of call data, the guard of the caller and the check of the message each contribute their part, and
a message passes all of them.

So it does not matter what a staking module does with messages that are not admissible. Two modules
that agree on queries and on the messages that are admissible for a call cannot be told apart by
the call.

## Main definitions

* `IsDenomination`: the octets that denominations are made of.
* `Message.IsAdmissible`: the messages that a call can have handed over.
* `Outcome.Alike`: runs that end alike, whatever they did on the way.

## Main statements

* `Message.check_eq_ok_iff`: what the check of a message looks for.
* `Call.isAdmissible_of_message`: messages that are handed over are admissible.
* `Gateway.delivers_admissible_only`: and nothing else matters.
-/

namespace StakingGateway

/-! ### Denominations -/

/-- The octet is the code of an ASCII letter. -/
def IsLetterCode (b : UInt8) : Prop :=
  (65 ≤ b.toNat ∧ b.toNat ≤ 90) ∨ (97 ≤ b.toNat ∧ b.toNat ≤ 122)

/-- The octet is the code of an ASCII digit. -/
def IsDigitCode (b : UInt8) : Prop :=
  48 ≤ b.toNat ∧ b.toNat ≤ 57

/-- The octets make up the name of a denomination: 3 to 128 of them, the code of an ASCII letter
first, then only codes of ASCII letters, of digits, and of five marks. -/
structure IsDenomination (octets : Bytes) : Prop where
  /-- There are at least three octets. -/
  le_length : 3 ≤ octets.length
  /-- There are at most 128. -/
  length_le : octets.length ≤ 128
  /-- The first one is a letter. -/
  first : ∀ b ∈ octets.head?, IsLetterCode b
  /-- The others are letters, digits and marks. -/
  others : ∀ b ∈ octets.tail, IsLetterCode b ∨ IsDigitCode b ∨ b ∈ Bytes.ascii "/:._-"

/-- The code of an ASCII character is its octet. -/
theorem toNat_toUInt8_of_lt {c : Char} (h : c.toNat < 128) : c.toUInt8.toNat = c.toNat := by
  have hcode : c.toUInt8.toNat = c.toNat % 256 := UInt32.toNat_toUInt8 c.val
  omega

/-- Letters have codes of letters. -/
theorem isLetterCode_of_isAlpha {c : Char} (h : c.isAlpha = true) :
    c.toNat < 128 ∧ IsLetterCode c.toUInt8 := by
  have hcode : (65 ≤ c.toNat ∧ c.toNat ≤ 90) ∨ (97 ≤ c.toNat ∧ c.toNat ≤ 122) := by
    obtain hupper | hlower : c.isUpper = true ∨ c.isLower = true := Bool.or_eq_true_iff.mp h
    · obtain ⟨hfrom, hto⟩ : 'A'.val ≤ c.val ∧ c.val ≤ 'Z'.val := of_decide_eq_true hupper
      exact .inl ⟨UInt32.le_iff_toNat_le.mp hfrom, UInt32.le_iff_toNat_le.mp hto⟩
    · obtain ⟨hfrom, hto⟩ : 'a'.val ≤ c.val ∧ c.val ≤ 'z'.val :=
        (Bool.and_eq_true_iff.mp hlower).imp of_decide_eq_true of_decide_eq_true
      exact .inr ⟨UInt32.le_iff_toNat_le.mp hfrom, UInt32.le_iff_toNat_le.mp hto⟩
  have hsmall : c.toNat < 128 := by omega
  exact ⟨hsmall, by rwa [IsLetterCode, toNat_toUInt8_of_lt hsmall]⟩

/-- Digits have codes of digits. -/
theorem isDigitCode_of_isDigit {c : Char} (h : c.isDigit = true) :
    c.toNat < 128 ∧ IsDigitCode c.toUInt8 := by
  have hcode : 48 ≤ c.toNat ∧ c.toNat ≤ 57 := by
    simpa [Char.isDigit, UInt32.le_iff_toNat_le] using h
  have hsmall : c.toNat < 128 := by omega
  exact ⟨hsmall, by rwa [IsDigitCode, toNat_toUInt8_of_lt hsmall]⟩

/-- The characters of a denomination behind the first one have the codes that they may have. -/
theorem code_of_isDenomMark {c : Char} (h : isDenomMark c = true) :
    c.toNat < 128 ∧
      (IsLetterCode c.toUInt8 ∨ IsDigitCode c.toUInt8 ∨ c.toUInt8 ∈ Bytes.ascii "/:._-") := by
  simp only [isDenomMark, Char.isAlphanum, Bool.or_eq_true, beq_iff_eq] at h
  rcases h with ((((((h | h) | rfl) | rfl) | rfl) | rfl) | rfl)
  · exact ⟨(isLetterCode_of_isAlpha h).1, .inl (isLetterCode_of_isAlpha h).2⟩
  · exact ⟨(isDigitCode_of_isDigit h).1, .inr (.inl (isDigitCode_of_isDigit h).2)⟩
  all_goals exact ⟨by decide, .inr (.inr (by decide))⟩

/-- A text that names a denomination has such octets. -/
theorem isDenomination_of_isDenom {denom : String} (h : IsDenom denom) :
    IsDenomination (Text.utf8 denom) := by
  rw [IsDenom] at h
  cases hchars : denom.toList with
  | nil =>
      rw [hchars] at h
      cases h
  | cons first others =>
      rw [hchars, isDenomName] at h
      simp only [Bool.and_eq_true, decide_eq_true_eq, List.all_eq_true] at h
      obtain ⟨⟨⟨hlong, hshort⟩, hfirst⟩, hothers⟩ := h
      have hascii : ∀ c ∈ denom.toList, c.toNat < 128 := by
        rw [hchars]
        exact List.forall_mem_cons.mpr ⟨(isLetterCode_of_isAlpha hfirst).1,
          fun c hc => (code_of_isDenomMark (hothers c hc)).1⟩
      have hoctets : Text.utf8 denom = first.toUInt8 :: others.map Char.toUInt8 := by
        rw [Text.utf8_of_ascii hascii, Bytes.ascii, hchars, List.map_cons]
      rw [hoctets]
      refine ⟨?_, ?_, ?_, ?_⟩
      · rw [List.length_cons, List.length_map]
        omega
      · rw [List.length_cons, List.length_map]
        omega
      · rintro b ⟨⟩
        exact (isLetterCode_of_isAlpha hfirst).2
      · intro b hb
        obtain ⟨c, hc, rfl⟩ := List.mem_map.mp hb
        exact (code_of_isDenomMark (hothers c hc)).2

/-! ### The check of a message -/

namespace Message

/-- The coin of the message. -/
def coin : Message → Coin
  | .delegate _ _ coin => coin
  | .undelegate _ _ coin => coin
  | .redelegate _ _ _ coin => coin
  | .cancelUnbonding _ _ coin _ => coin

/-- The names of the validators that the message is about. -/
def validators : Message → List String
  | .delegate _ validator _ => [validator]
  | .undelegate _ validator _ => [validator]
  | .redelegate _ source destination _ => [source, destination]
  | .cancelUnbonding _ validator _ _ => [validator]

/-- The height that the message names, if it names one. -/
def height? : Message → Option Int64
  | .cancelUnbonding _ _ _ height => some height
  | _ => none

/-- What is not to hold does not hold where the check passes. -/
theorem throwIf_eq_ok_iff {condition : Prop} [Decidable condition] {fault : MessageFault} :
    MessageFault.throwIf condition fault = .ok () ↔ ¬ condition := by
  rw [MessageFault.throwIf]
  split
  · next h => simp [h]
  · next h => simp [h]

/-- Two checks in a row pass where both of them pass. -/
theorem checks_eq_ok_iff {ε : Type} {check : Except ε Unit} {next : Unit → Except ε Unit} :
    (check >>= next) = .ok () ↔ check = .ok () ∧ next () = .ok () :=
  bind_eq_ok_iff.trans ⟨fun ⟨(), h⟩ => h, fun h => ⟨(), h⟩⟩

/-- Coins have a denomination and a positive amount. -/
theorem coin_check_eq_ok_iff {coin : Coin} :
    coin.check = .ok () ↔ IsDenom coin.denom ∧ coin.amount ≠ 0 := by
  simp only [Coin.check, checks_eq_ok_iff, checkDenom, throwIf_eq_ok_iff, not_not, ne_eq]

/-- **What the check of a message looks for**: an account as delegator, validators with names that
are not blank and differ, a coin, and a positive height. -/
theorem check_eq_ok_iff {message : Message} :
    message.check = .ok () ↔
      message.delegator ≠ .zero ∧ (∀ name ∈ message.validators, ¬ Text.IsBlank name) ∧
        message.validators.Nodup ∧ IsDenom message.coin.denom ∧ message.coin.amount ≠ 0 ∧
          ∀ height ∈ message.height?, 0 < height := by
  cases message with
  | delegate | undelegate =>
      simp only [check, checks_eq_ok_iff, checkDelegator, checkValidator, throwIf_eq_ok_iff,
        coin_check_eq_ok_iff, delegator, validators, coin, height?]
      simp
  | redelegate =>
      simp only [check, checks_eq_ok_iff, checkDelegator, checkValidator, throwIf_eq_ok_iff,
        coin_check_eq_ok_iff, delegator, validators, coin, height?]
      simp [and_assoc]
  | cancelUnbonding =>
      simp only [check, checks_eq_ok_iff, checkDelegator, checkValidator, throwIf_eq_ok_iff,
        coin_check_eq_ok_iff, delegator, validators, coin, height?]
      simp [and_assoc, Int64.not_le]

end Message

/-! ### Admissible messages -/

/-- The message is one that the call can have handed to the staking module. -/
structure Message.IsAdmissible (call : Call) (message : Message) : Prop where
  /-- The frame may write. -/
  writable : call.readOnly = false
  /-- The call data start with the selector of the method of the message. -/
  selector : call.data.take 4 = (Request.transaction message).method.selector.octets
  /-- The delegator is the direct caller. -/
  authorized : message.delegator = call.caller
  /-- The delegator is an account. -/
  account : message.delegator ≠ .zero
  /-- The amount is positive. -/
  positive : 0 < message.coin.amount.toNat
  /-- The denomination is one. -/
  denomination : IsDenomination (Text.utf8 message.coin.denom)
  /-- Every name of a validator has a character that is not blank. -/
  named : ∀ name ∈ message.validators, ∃ c ∈ name.toList, Text.isBlank c = false
  /-- If there are two validators, they differ. -/
  distinct : message.validators.Nodup
  /-- If there is a height, it is positive and a number of 63 bits. -/
  height : ∀ height ∈ message.height?, 1 ≤ height.toInt ∧ height.toInt ≤ 2 ^ 63 - 1
  /-- The call data are what is written for the message. -/
  canonical : CallData.encode (.transaction message) = .ok call.data

/-- The validators that an admissible message names have names that are not blank. -/
theorem Message.IsAdmissible.not_isBlank {call : Call} {message : Message}
    (h : message.IsAdmissible call) {name : String} (hname : name ∈ message.validators) :
    ¬ Text.IsBlank name := by
  intro hblank
  obtain ⟨c, hc, hsolid⟩ := h.named name hname
  rw [hblank c hc] at hsolid
  cases hsolid

/-- **Messages that are handed over are admissible.** -/
theorem Call.isAdmissible_of_message {call : Call} {message : Message}
    (h : call.message = .ok message) : message.IsAdmissible call := by
  have hroute := route_of_message h
  obtain ⟨descriptor, hroute', haccess, hread, hcheck⟩ := message_eq_ok_iff.mp h
  obtain rfl : descriptor = (Request.transaction message).method.descriptor :=
    Except.ok.inj (hroute'.symm.trans hroute)
  obtain ⟨hdecode, hauthorized⟩ := Executor.readMessage_eq_ok_iff.mp hread
  obtain ⟨haccount, hnamed, hdistinct, hdenom, hamount, hheight⟩ :=
    Message.check_eq_ok_iff.mp hcheck
  obtain ⟨method, hmethod, hdata⟩ := RoutingTable.exists_method_of_route hroute
  have hselector : method.selector = (Request.transaction message).method.selector :=
    congrArg Descriptor.selector hmethod.symm
  rw [hselector] at hdata
  have hmutating := message.isMutating_method
  refine
    { writable := ?_, selector := ?_, authorized := ?_, account := haccount, positive := ?_,
      denomination := isDenomination_of_isDenom hdenom, named := ?_, distinct := hdistinct,
      height := ?_, canonical := ?_ }
  · cases hreadOnly : call.readOnly with
    | false => rfl
    | true =>
        have hquery := checkWriteAccess_eq_ok_iff.mp haccess hreadOnly
        rw [hmutating] at hquery
        cases hquery
  · rw [hdata, List.take_left' (Selector.length_octets _)]
  · exact hauthorized (if_pos hmutating)
  · exact Nat.pos_of_ne_zero fun hzero => hamount (Uint256.ext hzero)
  · intro name hname
    have hblank := hnamed name hname
    rw [Text.IsBlank, not_forall] at hblank
    obtain ⟨c, hsolid⟩ := hblank
    obtain ⟨hc, hsolid⟩ := Classical.not_imp.mp hsolid
    exact ⟨c, hc, Bool.eq_false_of_not_eq_true hsolid⟩
  · intro height hmem
    have hpos := Int64.lt_iff_toInt_lt.mp (hheight height hmem)
    have hlt := height.toInt_lt
    have hzero : (0 : Int64).toInt = 0 := rfl
    omega
  · rw [hdata] at hdecode ⊢
    exact (CallData.encode_of_decode hdecode).2

/-! ### Modules that cannot be told apart -/

/-- The two runs ended in the same way, consumed the same gas and left the same contents. What they
accessed on the way may differ. -/
structure Outcome.Alike {α : Type} (one other : Outcome α) : Prop where
  /-- They ended in the same way. -/
  result : one.result = other.result
  /-- They consumed the same gas. -/
  ledger : one.ledger = other.ledger
  /-- They left the same contents. -/
  contents : one.store.contents = other.store.contents

namespace Gateway

variable {one other : StakingModule} {config : Config} {call : Call} {store : Store}

/-- A call without a message gets the same from modules that give the same answers to queries. -/
theorem offer_eq_of_queries {failure : Failure} (h : call.message = .error failure)
    (hqueries : ∀ query, ((one.answer query).run call.block store).1 =
      ((other.answer query).run call.block store).1) :
    Gateway.offer ⟨one, config⟩ call store = Gateway.offer ⟨other, config⟩ call store := by
  rw [offer, offer]
  cases hroute : RoutingTable.staking.route call.data with
  | error failure => rfl
  | ok descriptor =>
      rw [ok_bind, ok_bind]
      cases haccess : checkWriteAccess descriptor call.readOnly with
      | error failure => rfl
      | ok =>
          rw [ok_bind, ok_bind, Executor.offer, Executor.offer]
          split
          · rw [Executor.offerTransaction, Executor.offerTransaction]
            cases hread : Executor.readMessage descriptor call.data call.caller with
            | error failure => rfl
            | ok message =>
                rw [ok_bind, ok_bind]
                cases hcheck : message.check with
                | error fault => rfl
                | ok =>
                    have hmessage : call.message = .ok message := Call.message_eq_ok_iff.mpr
                      ⟨descriptor, hroute, haccess, hread, hcheck⟩
                    rw [h] at hmessage
                    cases hmessage
          · rw [Executor.offerQuery, Executor.offerQuery]
            cases Executor.readQuery descriptor call.data call.caller with
            | error failure => rfl
            | ok query =>
                rw [ok_bind, ok_bind]
                have hquery : ((one.answer query).run call.block store).1 =
                    ((other.answer query).run call.block store).1 := hqueries query
                dsimp only [executor]
                rw [hquery]

/-- A call with a message gets the same from modules whose transitions end alike. -/
theorem offer_eq_of_alike {message : Message} (h : call.message = .ok message)
    (halike : ((Gateway.executor ⟨one, config⟩ call.block).runMessage message store).Alike
      ((Gateway.executor ⟨other, config⟩ call.block).runMessage message store)) :
    Gateway.offer ⟨one, config⟩ call store = Gateway.offer ⟨other, config⟩ call store := by
  have hcontents := halike.contents
  rw [Executor.contents_runMessage, Executor.contents_runMessage] at hcontents
  rw [offer_of_message h, offer_of_message h]
  simp only [halike.result, halike.ledger, hcontents]

/-- **The staking module is handed admissible messages only**, and what it would do with others
does not matter: two modules that give the same answers to queries and whose transitions end alike
for each message that is admissible for a call give the same result, leave the same store, and
charge the same gas for the call. -/
theorem delivers_admissible_only :
    (∀ (gateway : Gateway) (call : Call) (store : Store) (gas : GasAccount) (message : Message)
        (log : List Observation),
      (gateway.run call store gas).activity = .transition message log →
        message.IsAdmissible call) ∧
    ∀ (one other : StakingModule) (config : Config) (call : Call) (store : Store),
      (∀ query, ((one.answer query).run call.block store).1 =
        ((other.answer query).run call.block store).1) →
      (∀ message : Message, message.IsAdmissible call →
        ((Gateway.executor ⟨one, config⟩ call.block).runMessage message store).Alike
          ((Gateway.executor ⟨other, config⟩ call.block).runMessage message store)) →
      ∀ gas : GasAccount, (Gateway.run ⟨one, config⟩ call store gas).toReport.ending =
        (Gateway.run ⟨other, config⟩ call store gas).toReport.ending := by
  refine ⟨?_, ?_⟩
  · intro gateway call store gas message log hactivity
    exact Call.isAdmissible_of_message (activity_eq_transition_iff.mp hactivity).1
  · intro one other config call store hqueries hmessages gas
    rw [ending_run, ending_run]
    cases hmessage : call.message with
    | error failure => rw [offer_eq_of_queries hmessage hqueries]
    | ok message =>
        have hadmissible := Call.isAdmissible_of_message hmessage
        rw [offer_eq_of_alike hmessage (hmessages message hadmissible)]

/-- A module that would pay out to the zero address, and one that refuses everybody. A call that
delegates to an account reaches them both, and a call in the name of the zero address gets the same
from both. -/
theorem zero_address_cannot_be_paid :
    let generous : StakingModule :=
      ⟨fun | .delegate account .. => if account = .zero then .set [1] [2] (.done ())
                                     else .fail (.corrupted "")
           | _ => .fail (.corrupted ""), fun _ => .fail (.corrupted "")⟩
    let strict : StakingModule := ⟨fun _ => .fail (.corrupted ""), fun _ => .fail (.corrupted "")⟩
    let data (account : Address) :=
      CallData.ofArguments .delegate (account, "v", "stake", (7 : Uint256), ())
    let message : Message := .delegate (.ofNat 1) "v" ⟨"stake", 7⟩
    let call : Call := ⟨data (.ofNat 1), .ofNat 1, false, ⟨1, 1⟩⟩
    let forged : Call := ⟨data .zero, .zero, false, ⟨1, 1⟩⟩
    message.IsAdmissible call ∧ (.delegate .zero "v" ⟨"stake", 7⟩ : Message).check ≠ .ok () ∧
      (Gateway.run ⟨generous, .default⟩ forged ∅ (.full 9000)).toReport.ending =
        (Gateway.run ⟨strict, .default⟩ forged ∅ (.full 9000)).toReport.ending := by
  intro generous strict data message call forged
  have hmessage : call.message = .ok message := by decide +kernel
  refine ⟨delivers_admissible_only.1 ⟨strict, .default⟩ call ∅ (.full 9000) message _
    (activity_eq_transition_iff.mpr ⟨hmessage, rfl⟩), by decide, ?_⟩
  refine delivers_admissible_only.2 generous strict .default forged ∅ (fun _ => rfl) ?_ (.full 9000)
  -- The two modules differ on delegations of the zero address only.
  intro other hadmissible
  cases other with
  | delegate account validator coin =>
      have hdiffers : account ≠ .zero := hadmissible.account
      refine ⟨?_, ?_, ?_⟩
      · simp [Executor.runMessage, executor, generous, strict, hdiffers]
      · simp [Executor.runMessage, executor, generous, strict, hdiffers]
      · simp [Executor.runMessage, executor, generous, strict, hdiffers]
  | undelegate | redelegate | cancelUnbonding => exact ⟨rfl, rfl, rfl⟩

end Gateway

end StakingGateway
