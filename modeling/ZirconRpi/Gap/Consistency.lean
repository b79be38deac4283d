import ZirconRpi.Gap.Trace
import Mathlib.Tactic.SplitIfs

/-! What each state of the pairing machine says about its live Pairing: its role, and from
the capability exchange on, decisions computed from its own two capabilities. Every row of
the table keeps this, so every reachable state satisfies it. The live Pairing does not
always end with the negotiation: a refused `StartEncryption` leaves it in `Failed`. -/

namespace ZirconRpi.Gap.Consistency
open ZirconRpi.Gap.Decision ZirconRpi.Gap.Machine ZirconRpi.Gap.Table ZirconRpi.Gap.Trace

/-- The decisions of a Pairing are those `ComputePairingData` gives for its capabilities. -/
structure Decided (pairing : Pairing) : Prop where
  action : pairing.action = negotiatedAction pairing.initiator pairing.localIocap pairing.peerIocap
  expectedEvent : pairing.expectedEvent = getExpectedEvent pairing.localIocap pairing.peerIocap
  authenticated : pairing.authenticated = isPairingAuthenticated pairing.localIocap pairing.peerIocap

/-- The representation invariant, state by state. -/
def Consistent : State → Option Pairing → Prop
  | .idle, current => current = none
  | .initiatorPairingStarted, current => ∃ pairing, current = some pairing ∧ pairing.initiator = true
  | .initiatorWaitIoCapResponse, current =>
    ∃ pairing, current = some pairing ∧ pairing.initiator = true
  | .responderWaitIoCapRequest, current =>
    ∃ pairing, current = some pairing ∧ pairing.initiator = false
  | .waitUserConfirmationRequest, current => ∃ pairing, current = some pairing ∧ Decided pairing ∧
    pairing.expectedEvent = kUserConfirmationRequestEventCode
  | .waitUserPasskeyRequest, current => ∃ pairing, current = some pairing ∧ Decided pairing ∧
    pairing.expectedEvent = kUserPasskeyRequestEventCode
  | .waitUserPasskeyNotification, current => ∃ pairing, current = some pairing ∧ Decided pairing ∧
    pairing.expectedEvent = kUserPasskeyNotificationEventCode
  | .waitPairingComplete, current => ∃ pairing, current = some pairing ∧ Decided pairing
  | .waitLinkKey, current => ∃ pairing, current = some pairing ∧ Decided pairing
  | .initiatorWaitAuthComplete, current =>
    ∃ pairing, current = some pairing ∧ pairing.initiator = true ∧ Decided pairing
  | .waitEncryption, current => current ≠ none
  | .failed, _ => True

theorem decided_withPairingData (pairing : Pairing) : Decided (Pairing.withPairingData pairing) :=
  ⟨rfl, rfl, rfl⟩

/-- Only the decisions and the role matter: queueing callers or recording the key's
security properties keeps a state consistent. -/
theorem consistent_of_negotiation {state : State} {pairing pairing' : Pairing}
    (consistent : Consistent state (some pairing)) (initiator : pairing'.initiator = pairing.initiator)
    (localIocap : pairing'.localIocap = pairing.localIocap) (peerIocap : pairing'.peerIocap = pairing.peerIocap)
    (action : pairing'.action = pairing.action) (expectedEvent : pairing'.expectedEvent = pairing.expectedEvent)
    (authenticated : pairing'.authenticated = pairing.authenticated) :
    Consistent state (some pairing') := by
  have decided : Decided pairing → Decided pairing' := fun ⟨h₁, h₂, h₃⟩ =>
    ⟨by rw [action, h₁, initiator, localIocap, peerIocap], by rw [expectedEvent, h₂, localIocap, peerIocap],
      by rw [authenticated, h₃, localIocap, peerIocap]⟩
  cases state <;> simp_all [Consistent]

/-- A capability exchange leads to the waiting state its expected event names. -/
theorem consistent_exchange (pairing : Pairing) :
    Consistent (getStateForPairingEvent (getExpectedEvent pairing.localIocap pairing.peerIocap))
      (some (Pairing.withPairingData pairing)) := by
  rcases getExpectedEvent_cases pairing.localIocap pairing.peerIocap with expected | expected | expected <;>
    simp only [expected, getStateForPairingEvent_confirmation, getStateForPairingEvent_passkeyRequest,
      getStateForPairingEvent_passkeyNotification, Consistent] <;>
    exact ⟨_, rfl, decided_withPairingData pairing, expected⟩

variable {securityProperties : LinkKeyType → SecurityProperties}

theorem consistent_transition {st st' : PairingState} {event : Event} {effects : List Effect}
    (row : Transition securityProperties st event st' effects)
    (consistent : Consistent st.state st.currentPairing) : Consistent st'.state st'.currentPairing := by
  cases row with
  | initiateQueued _ notIdle live =>
    rw [live] at consistent
    exact consistent_of_negotiation consistent rfl rfl rfl rfl rfl rfl
  | @ioCapabilityRequestResponder pairing capability =>
    exact consistent_exchange { pairing with localIocap := capability }
  | @ioCapabilityResponseInitiator pairing peerIocap =>
    exact consistent_exchange { pairing with peerIocap := peerIocap }
  | userConfirmationCompare waiting live | userConfirmationConsent waiting live
  | userConfirmationAutomatic waiting live | userPasskeyRequest waiting live
  | userPasskeyNotification waiting live | simplePairingSucceeded waiting live =>
    simp_all [Consistent]
  | linkKeyAcceptedInitiator waiting live _ _ _ isInitiator =>
    simp only [waiting, live, Consistent, Option.some.injEq, exists_eq_left'] at consistent
    dsimp only [Consistent]
    exact ⟨_, rfl, isInitiator, consistent.1, consistent.2, consistent.3⟩
  | encryptionChanged => dsimp only; split; exacts [rfl, trivial]
  | initiateStart | ioCapabilityResponseResponder => exact ⟨_, rfl, rfl⟩
  | ioCapabilityRequestInitiator _ _ isInitiator => exact ⟨_, rfl, isInitiator⟩
  | ioCapabilityRequestNotReady => rfl
  | linkKeyAcceptedResponder => exact Option.some_ne_none _
  | authenticationSucceeded _ live => exact live ▸ Option.some_ne_none _
  | simplePairingFailed | linkKeyChangedWithoutKey | linkKeyRejected | linkKeyAcceptedEncryptionRefused
  | authenticationFailed | authenticationEncryptionRefused | unexpected => trivial
  | initiateNotReady | initiateCanceled | linkKeyChanged | encryptionIgnored | confirmForwarded
  | confirmDropped | passkeyForwarded | passkeyDropped | pairingDelegateChanged => exact consistent

theorem consistent_of_run {pairingDelegate : Option IOCapability}
    {linkKey : Option (LinkKey × LinkKeyType)} {history : List Record} {st : PairingState}
    (run : Run securityProperties (PairingState.create pairingDelegate linkKey) history st) :
    Consistent st.state st.currentPairing :=
  run.preserves (fun st => Consistent st.state st.currentPairing)
    (fun _ _ _ _ consistent row => consistent_transition row consistent) rfl

theorem consistent_of_reachable {st : PairingState} (reach : Reachable securityProperties st) :
    Consistent st.state st.currentPairing := by
  obtain ⟨_, _, _, run⟩ := reach
  exact consistent_of_run run

theorem consistent_of_mem {pairingDelegate : Option IOCapability}
    {linkKey : Option (LinkKey × LinkKeyType)} {history : List Record} {st : PairingState} {record : Record}
    (run : Run securityProperties (PairingState.create pairingDelegate linkKey) history st)
    (recorded : record ∈ history) : Consistent record.pre.state record.pre.currentPairing := by
  obtain ⟨before, after, cut⟩ := List.append_of_mem recorded
  exact consistent_of_run (run.prefix_of_eq cut).1

/-- In `Idle` there is never a Pairing. -/
theorem currentPairing_eq_none_of_idle {state : State} {current : Option Pairing}
    (consistent : Consistent state current) (idle : state = .idle) : current = none := by
  subst idle; exact consistent

/-- Outside `Idle` and `Failed` there is always a Pairing. -/
theorem currentPairing_ne_none {state : State} {current : Option Pairing}
    (consistent : Consistent state current) (notIdle : state ≠ .idle) (notFailed : state ≠ .failed) :
    current ≠ none := by
  cases state <;> rintro rfl <;> simp_all [Consistent]

/-- A refused `StartEncryption` sets `Failed` but leaves the Pairing alive, so the live
Pairing does not vanish exactly outside `Idle` and `Failed`. -/
theorem refused_encryption_keeps_pairing (securityProperties : LinkKeyType → SecurityProperties) :
    Reachable securityProperties
      ⟨.failed, some (Pairing.makeInitiator 0 0), some .displayYesNo, none, 1⟩ :=
  ⟨some .displayYesNo, none, _,
    @execute_sound securityProperties _ _ [.initiatePairing 0, .authenticationComplete 0 false] _ rfl⟩

/-! ## The assertions of the source hold -/

variable {st : PairingState}

theorem initiatePairing_completes (consistent : Consistent st.state st.currentPairing)
    (callback : CallbackId) : ∃ next, initiatePairing st callback = .ok next := by
  unfold initiatePairing zxAssert
  by_cases idle : st.state = .idle
  · simp only [idle, currentPairing_eq_none_of_idle consistent idle]; split <;> simp
  rcases live : st.currentPairing with _ | pairing
  · have failed : st.state = .failed := by
      by_contra notFailed; exact currentPairing_ne_none consistent idle notFailed live
    simp only [idle, live, failed]; split <;> simp
  · simp only [idle, live]; split <;> simp [idle]

theorem onIoCapabilityRequest_completes (consistent : Consistent st.state st.currentPairing)
    (attached : st.pairingDelegate ≠ none) : ∃ next, onIoCapabilityRequest st = .ok next := by
  obtain ⟨capability, delegate⟩ := Option.ne_none_iff_exists'.mp attached
  unfold onIoCapabilityRequest withPairing zxAssert
  by_cases started : st.state = .initiatorPairingStarted
  · obtain ⟨pairing, live, isInitiator⟩ : ∃ pairing, st.currentPairing = some pairing ∧ pairing.initiator = true := by
      simpa [started, Consistent] using consistent
    simp [started, live, isInitiator, delegate]
  by_cases waiting : st.state = .responderWaitIoCapRequest
  · obtain ⟨pairing, live, isResponder⟩ : ∃ pairing, st.currentPairing = some pairing ∧ pairing.initiator = false := by
      simpa [waiting, Consistent] using consistent
    simp [waiting, live, isResponder, delegate, computePairingData_eq]
  · simp [started, waiting]

theorem onIoCapabilityResponse_completes (consistent : Consistent st.state st.currentPairing)
    (peerIocap : IOCapability) : ∃ next, onIoCapabilityResponse st peerIocap = .ok next := by
  unfold onIoCapabilityResponse withPairing zxAssert
  by_cases idle : st.state = .idle
  · simp [idle, currentPairing_eq_none_of_idle consistent idle]
  by_cases waiting : st.state = .initiatorWaitIoCapResponse
  · obtain ⟨pairing, live, isInitiator⟩ : ∃ pairing, st.currentPairing = some pairing ∧ pairing.initiator = true := by
      simpa [waiting, Consistent] using consistent
    simp [waiting, live, isInitiator, computePairingData_eq]
  · simp [idle, waiting]

theorem onUserConfirmationRequest_completes (consistent : Consistent st.state st.currentPairing)
    (attached : st.pairingDelegate ≠ none) (numericValue : UInt32) :
    ∃ next, onUserConfirmationRequest st numericValue = .ok next := by
  unfold onUserConfirmationRequest withPairing zxAssert
  by_cases waiting : st.state = .waitUserConfirmationRequest
  · obtain ⟨pairing, live, decided, expected⟩ : ∃ pairing, st.currentPairing = some pairing ∧ Decided pairing ∧
        pairing.expectedEvent = kUserConfirmationRequestEventCode := by
      simpa [waiting, Consistent] using consistent
    have notPasskey := negotiatedAction_of_confirmationRequest pairing.initiator pairing.localIocap
      pairing.peerIocap (decided.expectedEvent ▸ expected)
    rw [← decided.action] at notPasskey
    simp only [waiting, live, ne_eq, not_true_eq_false, if_false, Option.isSome_iff_ne_none, attached,
      not_false_eq_true, if_true]
    cases action : pairing.action <;> simp_all
  · simp [waiting]

theorem onUserPasskeyRequest_completes (consistent : Consistent st.state st.currentPairing)
    (attached : st.pairingDelegate ≠ none) : ∃ next, onUserPasskeyRequest st = .ok next := by
  unfold onUserPasskeyRequest withPairing zxAssert
  by_cases waiting : st.state = .waitUserPasskeyRequest
  · obtain ⟨pairing, live, decided, expected⟩ : ∃ pairing, st.currentPairing = some pairing ∧ Decided pairing ∧
        pairing.expectedEvent = kUserPasskeyRequestEventCode := by
      simpa [waiting, Consistent] using consistent
    have passkey := negotiatedAction_of_passkeyRequest pairing.initiator pairing.localIocap
      pairing.peerIocap (decided.expectedEvent ▸ expected)
    rw [← decided.action] at passkey
    simp [waiting, live, Option.isSome_iff_ne_none, attached, passkey]
  · simp [waiting]

theorem onUserPasskeyNotification_completes (consistent : Consistent st.state st.currentPairing)
    (attached : st.pairingDelegate ≠ none) (numericValue : UInt32) :
    ∃ next, onUserPasskeyNotification st numericValue = .ok next := by
  unfold onUserPasskeyNotification withPairing zxAssert
  by_cases waiting : st.state = .waitUserPasskeyNotification
  · obtain ⟨pairing, live, -⟩ : ∃ pairing, st.currentPairing = some pairing ∧ _ := by
      simpa [waiting, Consistent] using consistent
    simp [waiting, live, Option.isSome_iff_ne_none, attached]
  · simp [waiting]

theorem onSimplePairingComplete_completes (consistent : Consistent st.state st.currentPairing)
    (attached : st.pairingDelegate ≠ none) (statusCode : StatusCode) :
    ∃ next, onSimplePairingComplete st statusCode = .ok next := by
  obtain ⟨capability, delegate⟩ := Option.ne_none_iff_exists'.mp attached
  unfold onSimplePairingComplete zxAssert
  by_cases waiting : st.state = .waitPairingComplete
  · obtain ⟨pairing, live, -⟩ : ∃ pairing, st.currentPairing = some pairing ∧ _ := by
      simpa [waiting, Consistent] using consistent
    simp only [waiting, live, delegate, ne_eq, not_true_eq_false, if_false, Option.isSome_some, if_true]
    split_ifs <;> simp
  · simp [waiting]

theorem onLinkKeyNotification_completes (consistent : Consistent st.state st.currentPairing)
    (linkKey : BitVec 128) {keyType : LinkKeyType} (notDebug : keyType ≠ .debugCombination)
    (encryptionStarted : Bool) :
    ∃ next, onLinkKeyNotification securityProperties st linkKey keyType encryptionStarted = .ok next := by
  rw [onLinkKeyNotification, zxAssert, if_pos notDebug]
  by_cases rekey : st.state = .idle ∧ keyType = .changedCombination
  · rw [if_pos rekey]; split <;> exact ⟨_, rfl⟩
  rw [if_neg rekey]
  by_cases notWaiting : st.state ≠ .waitLinkKey
  · rw [if_pos notWaiting]; exact ⟨_, rfl⟩
  obtain ⟨pairing, live, -⟩ : ∃ pairing, st.currentPairing = some pairing ∧ _ := by
    simpa [not_not.mp notWaiting, Consistent] using consistent
  rw [if_neg notWaiting, withPairing, live]
  dsimp only
  split_ifs <;> exact ⟨_, rfl⟩

theorem onAuthenticationComplete_completes (consistent : Consistent st.state st.currentPairing)
    (statusCode : StatusCode) (encryptionStarted : Bool) :
    ∃ next, onAuthenticationComplete st statusCode encryptionStarted = .ok next := by
  unfold onAuthenticationComplete withPairing zxAssert
  by_cases expected : st.state = .initiatorPairingStarted ∨ st.state = .initiatorWaitAuthComplete
  · obtain ⟨pairing, live, isInitiator⟩ : ∃ pairing, st.currentPairing = some pairing ∧ pairing.initiator = true := by
      rcases expected with expected | expected <;> simp only [expected, Consistent] at consistent
      · exact consistent
      · exact consistent.imp fun _ ⟨live, isInitiator, _⟩ => ⟨live, isInitiator⟩
    simp only [live, isInitiator]
    split_ifs <;> simp
  · simp_all

/-- While a delegate is attached, no call aborts in a reachable state, Debug Combination
keys apart: every `ZX_ASSERT` and `ZX_DEBUG_ASSERT` of the handlers holds. -/
theorem step_completes_of_reachable (reach : Reachable securityProperties st)
    (attached : st.pairingDelegate ≠ none) (event : Event)
    (noDebugKey : ∀ linkKey keyType encryptionStarted,
      event = .linkKeyNotification linkKey keyType encryptionStarted → keyType ≠ .debugCombination) :
    ∃ next, step securityProperties st event = .ok next := by
  have consistent := consistent_of_reachable reach
  cases event with
  | initiatePairing callback => exact initiatePairing_completes consistent callback
  | ioCapabilityRequest => exact onIoCapabilityRequest_completes consistent attached
  | ioCapabilityResponse peerIocap => exact onIoCapabilityResponse_completes consistent peerIocap
  | userConfirmationRequest numericValue =>
    exact onUserConfirmationRequest_completes consistent attached numericValue
  | userPasskeyRequest => exact onUserPasskeyRequest_completes consistent attached
  | userPasskeyNotification numericValue =>
    exact onUserPasskeyNotification_completes consistent attached numericValue
  | simplePairingComplete statusCode => exact onSimplePairingComplete_completes consistent attached statusCode
  | linkKeyNotification linkKey keyType encryptionStarted =>
    exact onLinkKeyNotification_completes consistent linkKey (noDebugKey _ _ _ rfl) encryptionStarted
  | authenticationComplete statusCode encryptionStarted =>
    exact onAuthenticationComplete_completes consistent statusCode encryptionStarted
  | encryptionChange status enabled => simp only [step, onEncryptionChange]; split <;> simp
  | confirmCallback callback confirm =>
    simp only [step, invokeConfirmCallback]; split <;> (try split) <;> simp
  | passkeyCallback pairing passkey => simp only [step, invokePasskeyCallback]; split <;> simp
  | pairingDelegateChanged pairingDelegate => simp [step]

theorem step_completes_at_comparison :
    ∃ st, Reachable (fun _ => ⟨.encrypted, false⟩) st ∧ st.state = .waitUserConfirmationRequest ∧
      st.pairingDelegate ≠ none ∧
      ∃ next, step (fun _ => ⟨.encrypted, false⟩) st (.userConfirmationRequest 123456) = .ok next := by
  obtain ⟨st, reach, waiting, attached⟩ : ∃ st, Reachable (fun _ => ⟨.encrypted, false⟩) st ∧
      st.state = .waitUserConfirmationRequest ∧ st.pairingDelegate ≠ none :=
    ⟨_, ⟨_, _, _, execute_sound (rfl : execute (fun _ => ⟨.encrypted, false⟩) (PairingState.create (some .displayYesNo) none)
      [.ioCapabilityResponse .displayYesNo, .ioCapabilityRequest] = .ok (_, _))⟩, rfl, by simp [PairingState.create]⟩
  exact ⟨st, reach, waiting, attached, step_completes_of_reachable reach attached _ (by simp)⟩

end ZirconRpi.Gap.Consistency
