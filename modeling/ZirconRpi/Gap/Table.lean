import ZirconRpi.Gap.Machine

/-! The transition table of the pairing machine, one row per way a call can complete, and
`step_transition`: every call that does not abort follows one row. Later invariants do a
case analysis on the row instead of unfolding the handlers. -/

namespace ZirconRpi.Gap.Table
open ZirconRpi.Gap.Decision ZirconRpi.Gap.Machine

/-- The callbacks queued on the live Pairing. -/
def queue (st : PairingState) : List CallbackId :=
  match st.currentPairing with
  | some pairing => pairing.initiatorCallbacks
  | none => []

/-- What `SignalStatus` invokes: the top-level callback, then every queued caller. -/
def signalEffects (callbacks : List CallbackId) (status : Status) : List Effect :=
  .statusCallback status :: callbacks.map (Effect.initiatorCallback · status)

theorem mem_signalEffects {effect : Effect} {callbacks : List CallbackId} {status : Status} :
    effect ∈ signalEffects callbacks status ↔
      effect = .statusCallback status ∨ ∃ callback ∈ callbacks, effect = .initiatorCallback callback status := by
  simp [signalEffects, eq_comm]

@[simp] theorem statusCallback_mem_signalEffects {callbacks : List CallbackId} {status sent : Status} :
    Effect.statusCallback status ∈ signalEffects callbacks sent ↔ status = sent := by
  simp [mem_signalEffects]

@[simp] theorem initiatorCallback_mem_signalEffects {callbacks : List CallbackId} {callback : CallbackId}
    {status sent : Status} :
    Effect.initiatorCallback callback status ∈ signalEffects callbacks sent ↔ callback ∈ callbacks ∧ status = sent := by
  simp only [signalEffects, List.mem_cons, reduceCtorEq, false_or, List.mem_map, Effect.initiatorCallback.injEq]
  constructor
  · rintro ⟨_, mem, rfl, rfl⟩; exact ⟨mem, rfl⟩
  · rintro ⟨mem, rfl⟩; exact ⟨_, mem, rfl, rfl⟩

/-- The decisions `ComputePairingData` stores. -/
def Pairing.withPairingData (pairing : Pairing) : Pairing :=
  { pairing with
    action := negotiatedAction pairing.initiator pairing.localIocap pairing.peerIocap
    expectedEvent := getExpectedEvent pairing.localIocap pairing.peerIocap
    authenticated := isPairingAuthenticated pairing.localIocap pairing.peerIocap }

/-- The events each handler's guard rejects (its `FailWithUnexpectedEvent` branch). -/
def Unexpected (st : PairingState) : Event → Prop
  | .ioCapabilityRequest =>
    st.state ≠ .initiatorPairingStarted ∧ st.state ≠ .responderWaitIoCapRequest
  | .ioCapabilityResponse _ => st.state ≠ .idle ∧ st.state ≠ .initiatorWaitIoCapResponse
  | .userConfirmationRequest _ => st.state ≠ .waitUserConfirmationRequest
  | .userPasskeyRequest => st.state ≠ .waitUserPasskeyRequest
  | .userPasskeyNotification _ => st.state ≠ .waitUserPasskeyNotification
  | .simplePairingComplete _ => st.state ≠ .waitPairingComplete
  | .linkKeyNotification _ keyType _ => keyType ≠ .debugCombination ∧
    ¬(st.state = .idle ∧ keyType = .changedCombination) ∧ st.state ≠ .waitLinkKey
  | .authenticationComplete _ _ =>
    st.state ≠ .initiatorPairingStarted ∧ st.state ≠ .initiatorWaitAuthComplete
  | _ => False

/-- The negative answer a rejecting handler still owes the controller. -/
def negativeReply : Event → List Effect
  | .ioCapabilityRequest => [.ioCapabilityReply none]
  | .userConfirmationRequest _ => [.userConfirmationReply false]
  | .userPasskeyRequest => [.userPasskeyReply none]
  | _ => []

@[simp] theorem mem_negativeReply {effect : Effect} {event : Event} :
    effect ∈ negativeReply event ↔
      (event = .ioCapabilityRequest ∧ effect = .ioCapabilityReply none) ∨
      (∃ numericValue, event = .userConfirmationRequest numericValue ∧ effect = .userConfirmationReply false) ∨
      (event = .userPasskeyRequest ∧ effect = .userPasskeyReply none) := by
  cases event <;> simp [negativeReply]

/-- The status `OnEncryptionChange` signals: a disabled encryption is a failure. -/
def encryptionStatus (status : Status) (enabled : Bool) : Status :=
  if status.isSuccess && !enabled then .hostError .failed else status

@[simp] theorem encryptionStatus_isSuccess (status : Status) (enabled : Bool) :
    (encryptionStatus status enabled).isSuccess = (status.isSuccess && enabled) := by
  cases status <;> cases enabled <;> rfl

variable (securityProperties : LinkKeyType → SecurityProperties)

/-- Every way a call can complete without aborting, with its exact next state and effects. -/
inductive Transition : PairingState → Event → PairingState → List Effect → Prop
  | initiateNotReady {st callback} : st.pairingDelegate = none →
    Transition st (.initiatePairing callback) st
      [.initiatorCallback callback (.hostError .notReady), .initiatorAction .doNotSendAuthenticationRequest]
  | initiateStart {st callback} : st.pairingDelegate ≠ none →
    st.state = .idle → st.currentPairing = none →
    Transition st (.initiatePairing callback)
      { st with currentPairing := some (Pairing.makeInitiator st.nextSerial callback),
                nextSerial := st.nextSerial + 1, state := .initiatorPairingStarted }
      [.initiatorAction .sendAuthenticationRequest]
  | initiateQueued {st callback pairing} : st.pairingDelegate ≠ none →
    st.state ≠ .idle → st.currentPairing = some pairing →
    Transition st (.initiatePairing callback)
      { st with currentPairing := some { pairing with
          initiatorCallbacks := pairing.initiatorCallbacks ++ [callback] } }
      [.initiatorAction .doNotSendAuthenticationRequest]
  | initiateCanceled {st callback} : st.pairingDelegate ≠ none →
    st.state = .failed → st.currentPairing = none →
    Transition st (.initiatePairing callback) st
      [.initiatorCallback callback (.hostError .canceled), .initiatorAction .doNotSendAuthenticationRequest]
  | ioCapabilityRequestInitiator {st pairing capability} : st.state = .initiatorPairingStarted →
    st.currentPairing = some pairing → pairing.initiator = true → st.pairingDelegate = some capability →
    Transition st .ioCapabilityRequest
      { st with currentPairing := some { pairing with localIocap := capability },
                state := .initiatorWaitIoCapResponse }
      [.ioCapabilityReply (some capability)]
  | ioCapabilityRequestNotReady {st pairing} : st.state = .responderWaitIoCapRequest →
    st.currentPairing = some pairing → pairing.initiator = false → st.pairingDelegate = none →
    Transition st .ioCapabilityRequest { st with state := .idle, currentPairing := none }
      (signalEffects pairing.initiatorCallbacks (.hostError .notReady) ++ [.ioCapabilityReply none])
  | ioCapabilityRequestResponder {st pairing capability} : st.state = .responderWaitIoCapRequest →
    st.currentPairing = some pairing → pairing.initiator = false → st.pairingDelegate = some capability →
    Transition st .ioCapabilityRequest
      { st with currentPairing := some (Pairing.withPairingData { pairing with localIocap := capability }),
                state := getStateForPairingEvent (getExpectedEvent capability pairing.peerIocap) }
      [.ioCapabilityReply (some capability)]
  | ioCapabilityResponseResponder {st peerIocap} : st.state = .idle → st.currentPairing = none →
    Transition st (.ioCapabilityResponse peerIocap)
      { st with currentPairing := some (Pairing.makeResponder st.nextSerial peerIocap),
                nextSerial := st.nextSerial + 1, state := .responderWaitIoCapRequest } []
  | ioCapabilityResponseInitiator {st pairing peerIocap} : st.state = .initiatorWaitIoCapResponse →
    st.currentPairing = some pairing → pairing.initiator = true →
    Transition st (.ioCapabilityResponse peerIocap)
      { st with currentPairing := some (Pairing.withPairingData { pairing with peerIocap := peerIocap }),
                state := getStateForPairingEvent (getExpectedEvent pairing.localIocap peerIocap) } []
  | userConfirmationCompare {st pairing numericValue} : st.state = .waitUserConfirmationRequest →
    st.currentPairing = some pairing → st.pairingDelegate ≠ none →
    (pairing.action = .displayPasskey ∨ pairing.action = .comparePasskey) →
    Transition st (.userConfirmationRequest numericValue) { st with state := .waitPairingComplete }
      [.displayPasskey numericValue .comparison (.userConfirmation pairing.serial)]
  | userConfirmationConsent {st pairing numericValue} : st.state = .waitUserConfirmationRequest →
    st.currentPairing = some pairing → st.pairingDelegate ≠ none → pairing.action = .getConsent →
    Transition st (.userConfirmationRequest numericValue) { st with state := .waitPairingComplete }
      [.confirmPairing (.userConfirmation pairing.serial)]
  | userConfirmationAutomatic {st pairing numericValue} : st.state = .waitUserConfirmationRequest →
    st.currentPairing = some pairing → st.pairingDelegate ≠ none → pairing.action = .automatic →
    Transition st (.userConfirmationRequest numericValue) { st with state := .waitPairingComplete }
      [.userConfirmationReply true]
  | userPasskeyRequest {st pairing} : st.state = .waitUserPasskeyRequest →
    st.currentPairing = some pairing → st.pairingDelegate ≠ none → pairing.action = .requestPasskey →
    Transition st .userPasskeyRequest { st with state := .waitPairingComplete }
      [.requestPasskey pairing.serial]
  | userPasskeyNotification {st pairing numericValue} : st.state = .waitUserPasskeyNotification →
    st.currentPairing = some pairing → st.pairingDelegate ≠ none →
    Transition st (.userPasskeyNotification numericValue) { st with state := .waitPairingComplete }
      [.displayPasskey numericValue .peerEntry (.passkeyNotification pairing.serial)]
  | simplePairingFailed {st pairing statusCode} : st.state = .waitPairingComplete →
    st.currentPairing = some pairing → (Status.ofStatusCode statusCode).isSuccess = false →
    Transition st (.simplePairingComplete statusCode) { st with state := .failed, currentPairing := none }
      ((if st.pairingDelegate.isSome then [.completePairing (.hostError .failed)] else []) ++
        signalEffects pairing.initiatorCallbacks (.ofStatusCode statusCode))
  | simplePairingSucceeded {st pairing statusCode} : st.state = .waitPairingComplete →
    st.currentPairing = some pairing → (Status.ofStatusCode statusCode).isSuccess = true →
    st.pairingDelegate ≠ none →
    Transition st (.simplePairingComplete statusCode) { st with state := .waitLinkKey }
      [.completePairing .success]
  | linkKeyChanged {st linkKey keyType encryptionStarted} : st.state = .idle →
    keyType = .changedCombination → st.linkKey ≠ none →
    Transition st (.linkKeyNotification linkKey keyType encryptionStarted)
      { st with linkKey := some (⟨linkKey, 0, 0⟩, keyType) } [.setBrEdrLinkKey ⟨linkKey, 0, 0⟩ keyType]
  | linkKeyChangedWithoutKey {st linkKey keyType encryptionStarted} : st.state = .idle →
    keyType = .changedCombination → st.linkKey = none →
    Transition st (.linkKeyNotification linkKey keyType encryptionStarted)
      { st with state := .failed, currentPairing := none }
      (signalEffects (queue st) (.hostError .insufficientSecurity))
  | linkKeyRejected {st pairing linkKey keyType encryptionStarted} : st.state = .waitLinkKey →
    st.currentPairing = some pairing → keyType ≠ .debugCombination →
    ((securityProperties keyType).level = .noSecurity ∨
      (securityProperties keyType).authenticated ≠ pairing.authenticated) →
    Transition st (.linkKeyNotification linkKey keyType encryptionStarted)
      { st with state := .failed, currentPairing := none }
      (signalEffects pairing.initiatorCallbacks (.hostError .insufficientSecurity))
  | linkKeyAcceptedInitiator {st pairing linkKey keyType encryptionStarted} : st.state = .waitLinkKey →
    st.currentPairing = some pairing → keyType ≠ .debugCombination →
    (securityProperties keyType).level ≠ .noSecurity →
    (securityProperties keyType).authenticated = pairing.authenticated → pairing.initiator = true →
    Transition st (.linkKeyNotification linkKey keyType encryptionStarted)
      { st with currentPairing := some { pairing with securityProperties := securityProperties keyType },
                linkKey := some (⟨linkKey, 0, 0⟩, keyType), state := .initiatorWaitAuthComplete }
      [.setBrEdrLinkKey ⟨linkKey, 0, 0⟩ keyType]
  | linkKeyAcceptedResponder {st pairing linkKey keyType} : st.state = .waitLinkKey →
    st.currentPairing = some pairing → keyType ≠ .debugCombination →
    (securityProperties keyType).level ≠ .noSecurity →
    (securityProperties keyType).authenticated = pairing.authenticated → pairing.initiator = false →
    Transition st (.linkKeyNotification linkKey keyType true)
      { st with currentPairing := some { pairing with securityProperties := securityProperties keyType },
                linkKey := some (⟨linkKey, 0, 0⟩, keyType), state := .waitEncryption }
      [.setBrEdrLinkKey ⟨linkKey, 0, 0⟩ keyType, .startEncryption]
  | linkKeyAcceptedEncryptionRefused {st pairing linkKey keyType} : st.state = .waitLinkKey →
    st.currentPairing = some pairing → keyType ≠ .debugCombination →
    (securityProperties keyType).level ≠ .noSecurity →
    (securityProperties keyType).authenticated = pairing.authenticated → pairing.initiator = false →
    Transition st (.linkKeyNotification linkKey keyType false)
      { st with currentPairing := some { pairing with securityProperties := securityProperties keyType },
                linkKey := some (⟨linkKey, 0, 0⟩, keyType), state := .failed }
      [.setBrEdrLinkKey ⟨linkKey, 0, 0⟩ keyType, .startEncryption, .statusCallback (.hostError .failed)]
  | authenticationFailed {st pairing statusCode encryptionStarted} :
    (st.state = .initiatorPairingStarted ∨ st.state = .initiatorWaitAuthComplete) →
    st.currentPairing = some pairing → pairing.initiator = true →
    (Status.ofStatusCode statusCode).isSuccess = false →
    Transition st (.authenticationComplete statusCode encryptionStarted)
      { st with state := .failed, currentPairing := none }
      (signalEffects pairing.initiatorCallbacks (.ofStatusCode statusCode))
  | authenticationSucceeded {st pairing statusCode} :
    (st.state = .initiatorPairingStarted ∨ st.state = .initiatorWaitAuthComplete) →
    st.currentPairing = some pairing → pairing.initiator = true →
    (Status.ofStatusCode statusCode).isSuccess = true →
    Transition st (.authenticationComplete statusCode true) { st with state := .waitEncryption }
      [.startEncryption]
  | authenticationEncryptionRefused {st pairing statusCode} :
    (st.state = .initiatorPairingStarted ∨ st.state = .initiatorWaitAuthComplete) →
    st.currentPairing = some pairing → pairing.initiator = true →
    (Status.ofStatusCode statusCode).isSuccess = true →
    Transition st (.authenticationComplete statusCode false) { st with state := .failed }
      [.startEncryption, .statusCallback (.hostError .failed)]
  | encryptionIgnored {st status enabled} : st.state ≠ .waitEncryption →
    Transition st (.encryptionChange status enabled) st []
  | encryptionChanged {st status enabled} : st.state = .waitEncryption →
    Transition st (.encryptionChange status enabled)
      { st with state := if (encryptionStatus status enabled).isSuccess then .idle else .failed,
                currentPairing := none }
      (signalEffects (queue st) (encryptionStatus status enabled))
  | unexpected {st event} : Unexpected st event →
    Transition st event { st with state := .failed, currentPairing := none }
      (signalEffects (queue st) (.hostError .notSupported) ++ negativeReply event)
  | confirmForwarded {st pairing confirm} : st.liveSerial = some pairing →
    Transition st (.confirmCallback (.userConfirmation pairing) confirm) st [.userConfirmationReply confirm]
  | confirmDropped {st callback confirm} :
    (∀ pairing, callback = .userConfirmation pairing → st.liveSerial ≠ some pairing) →
    Transition st (.confirmCallback callback confirm) st []
  | passkeyForwarded {st pairing passkey} : st.liveSerial = some pairing →
    Transition st (.passkeyCallback pairing passkey) st
      [.userPasskeyReply (if 0 ≤ passkey then some (UInt32.ofNat passkey.toNat) else none)]
  | passkeyDropped {st pairing passkey} : st.liveSerial ≠ some pairing →
    Transition st (.passkeyCallback pairing passkey) st []
  | pairingDelegateChanged {st pairingDelegate} :
    Transition st (.pairingDelegateChanged pairingDelegate) { st with pairingDelegate := pairingDelegate } []

variable {securityProperties} {st st' : PairingState} {effects : List Effect}

@[simp] theorem getStateForPairingEvent_confirmation :
    getStateForPairingEvent kUserConfirmationRequestEventCode = .waitUserConfirmationRequest := rfl

@[simp] theorem getStateForPairingEvent_passkeyRequest :
    getStateForPairingEvent kUserPasskeyRequestEventCode = .waitUserPasskeyRequest := rfl

@[simp] theorem getStateForPairingEvent_passkeyNotification :
    getStateForPairingEvent kUserPasskeyNotificationEventCode = .waitUserPasskeyNotification := rfl

theorem computePairingData_eq (pairing : Pairing) :
    pairing.computePairingData = .ok (Pairing.withPairingData pairing) := by
  rcases getExpectedEvent_cases pairing.localIocap pairing.peerIocap with expected | expected | expected <;>
    simp [Pairing.computePairingData, Pairing.withPairingData, expected]

theorem signalStatus_eq (st : PairingState) (status : Status) :
    signalStatus st status = ({ st with currentPairing := none }, signalEffects (queue st) status) := by
  rcases st with ⟨_, _ | _, _, _, _⟩ <;> rfl

theorem failWithUnexpectedEvent_eq (st : PairingState) :
    failWithUnexpectedEvent st = ({ st with state := .failed, currentPairing := none },
      signalEffects (queue st) (.hostError .notSupported)) := by
  rw [failWithUnexpectedEvent, signalStatus_eq]; rfl

theorem initiatePairing_transition (callback : CallbackId)
    (completes : initiatePairing st callback = .ok (st', effects)) :
    Transition securityProperties st (.initiatePairing callback) st' effects := by
  rw [initiatePairing] at completes
  by_cases noDelegate : st.pairingDelegate.isNone
  · rw [if_pos noDelegate] at completes
    cases completes; exact .initiateNotReady (Option.isNone_iff_eq_none.mp noDelegate)
  have present : st.pairingDelegate ≠ none := by simpa using noDelegate
  rw [if_neg noDelegate] at completes
  by_cases idle : st.state = .idle
  · rw [if_pos idle, zxAssert] at completes
    by_cases absent : st.currentPairing = none
    · rw [if_pos absent] at completes; cases completes; exact .initiateStart present idle absent
    · rw [if_neg absent] at completes; cases completes
  rw [if_neg idle] at completes
  cases live : st.currentPairing with
  | some pairing =>
    rw [live] at completes
    dsimp only at completes
    rw [zxAssert, if_pos idle] at completes
    cases completes; exact .initiateQueued present idle live
  | none =>
    rw [live] at completes
    dsimp only at completes
    rw [zxAssert] at completes
    by_cases failed : st.state = .failed
    · rw [if_pos failed] at completes; cases completes; exact .initiateCanceled present failed live
    · rw [if_neg failed] at completes; cases completes

theorem onIoCapabilityRequest_transition
    (completes : onIoCapabilityRequest st = .ok (st', effects)) :
    Transition securityProperties st .ioCapabilityRequest st' effects := by
  rw [onIoCapabilityRequest] at completes
  by_cases started : st.state = .initiatorPairingStarted
  · rw [if_pos started, withPairing] at completes
    cases live : st.currentPairing with
    | none => rw [live] at completes; cases completes
    | some pairing =>
    rw [live] at completes
    dsimp only at completes
    rw [zxAssert] at completes
    by_cases isInitiator : pairing.initiator = true
    · rw [if_pos isInitiator] at completes
      split at completes
      · next capability delegate =>
        cases completes; exact .ioCapabilityRequestInitiator started live isInitiator delegate
      · cases completes
    · rw [if_neg isInitiator] at completes; cases completes
  rw [if_neg started] at completes
  by_cases waiting : st.state = .responderWaitIoCapRequest
  · rw [if_pos waiting, withPairing] at completes
    cases live : st.currentPairing with
    | none => rw [live] at completes; cases completes
    | some pairing =>
    rw [live] at completes
    dsimp only at completes
    rw [zxAssert] at completes
    by_cases isResponder : pairing.initiator = false
    · rw [if_pos isResponder] at completes
      split at completes
      · next delegate =>
        rw [signalStatus_eq, thenEmit] at completes
        cases completes
        simpa [queue, live] using .ioCapabilityRequestNotReady waiting live isResponder delegate
      · next capability delegate =>
        rw [computePairingData_eq] at completes
        cases completes
        exact @Transition.ioCapabilityRequestResponder securityProperties st pairing _ waiting live isResponder delegate
    · rw [if_neg isResponder] at completes; cases completes
  rw [if_neg waiting, thenEmit, failWithUnexpectedEvent_eq] at completes
  cases completes
  exact .unexpected ⟨started, waiting⟩

theorem onIoCapabilityResponse_transition (peerIocap : IOCapability)
    (completes : onIoCapabilityResponse st peerIocap = .ok (st', effects)) :
    Transition securityProperties st (.ioCapabilityResponse peerIocap) st' effects := by
  unfold onIoCapabilityResponse withPairing zxAssert at completes
  split at completes
  · next idle =>
    split at completes
    · next absent => cases completes; exact .ioCapabilityResponseResponder idle absent
    · cases completes
  next notIdle =>
  split at completes
  · next waiting =>
    split at completes
    · next pairing live =>
      dsimp only at completes
      split at completes
      · next isInitiator =>
        rw [computePairingData_eq] at completes
        cases completes
        exact @Transition.ioCapabilityResponseInitiator securityProperties st pairing _ waiting live isInitiator
      · cases completes
    · cases completes
  next notWaiting =>
  simp only [failWithUnexpectedEvent_eq, Except.ok.injEq, Prod.mk.injEq] at completes
  obtain ⟨rfl, rfl⟩ := completes
  simpa [negativeReply] using
    @Transition.unexpected securityProperties st (.ioCapabilityResponse peerIocap) ⟨notIdle, notWaiting⟩

theorem onUserConfirmationRequest_transition (numericValue : UInt32)
    (completes : onUserConfirmationRequest st numericValue = .ok (st', effects)) :
    Transition securityProperties st (.userConfirmationRequest numericValue) st' effects := by
  rw [onUserConfirmationRequest] at completes
  by_cases unexpected : st.state ≠ .waitUserConfirmationRequest
  · rw [if_pos unexpected, thenEmit, failWithUnexpectedEvent_eq] at completes
    cases completes
    exact .unexpected unexpected
  rw [if_neg unexpected, withPairing] at completes
  have waiting := not_not.mp unexpected
  cases live : st.currentPairing with
  | none => rw [live] at completes; cases completes
  | some pairing =>
  rw [live] at completes
  dsimp only at completes
  rw [zxAssert] at completes
  by_cases attached : st.pairingDelegate.isSome = true
  · have delegate : st.pairingDelegate ≠ none := by simpa [Option.isSome_iff_ne_none] using attached
    rw [if_pos attached] at completes
    by_cases compare : pairing.action = .displayPasskey ∨ pairing.action = .comparePasskey
    · rw [if_pos compare] at completes
      cases completes; rw [← live]; exact .userConfirmationCompare waiting live delegate compare
    rw [if_neg compare] at completes
    by_cases consent : pairing.action = .getConsent
    · rw [if_pos consent] at completes
      cases completes; rw [← live]; exact .userConfirmationConsent waiting live delegate consent
    rw [if_neg consent, zxAssert] at completes
    by_cases automatic : pairing.action = .automatic
    · rw [if_pos automatic] at completes
      cases completes; rw [← live]; exact .userConfirmationAutomatic waiting live delegate automatic
    · rw [if_neg automatic] at completes; cases completes
  · rw [if_neg attached] at completes; cases completes

theorem onUserPasskeyRequest_transition
    (completes : onUserPasskeyRequest st = .ok (st', effects)) :
    Transition securityProperties st .userPasskeyRequest st' effects := by
  unfold onUserPasskeyRequest withPairing zxAssert at completes
  split at completes
  · next unexpected =>
    simp only [thenEmit, failWithUnexpectedEvent_eq, Except.ok.injEq, Prod.mk.injEq] at completes
    obtain ⟨rfl, rfl⟩ := completes
    exact .unexpected unexpected
  next waiting =>
  have waiting : st.state = .waitUserPasskeyRequest := not_not.mp waiting
  split at completes
  · next pairing live =>
    dsimp only at completes
    split at completes
    · next delegate =>
      have delegate : st.pairingDelegate ≠ none := by simpa [Option.isSome_iff_ne_none] using delegate
      split at completes
      · next passkey => cases completes; exact .userPasskeyRequest waiting live delegate passkey
      · cases completes
    · cases completes
  · cases completes

theorem onUserPasskeyNotification_transition (numericValue : UInt32)
    (completes : onUserPasskeyNotification st numericValue = .ok (st', effects)) :
    Transition securityProperties st (.userPasskeyNotification numericValue) st' effects := by
  unfold onUserPasskeyNotification withPairing zxAssert at completes
  split at completes
  · next unexpected =>
    simp only [failWithUnexpectedEvent_eq, Except.ok.injEq, Prod.mk.injEq] at completes
    obtain ⟨rfl, rfl⟩ := completes
    simpa [negativeReply] using
      @Transition.unexpected securityProperties st (.userPasskeyNotification numericValue) unexpected
  next waiting =>
  have waiting : st.state = .waitUserPasskeyNotification := not_not.mp waiting
  split at completes
  · next pairing live =>
    dsimp only at completes
    split at completes
    · next delegate =>
      have delegate : st.pairingDelegate ≠ none := by simpa [Option.isSome_iff_ne_none] using delegate
      cases completes; exact .userPasskeyNotification waiting live delegate
    · cases completes
  · cases completes

theorem onSimplePairingComplete_transition (statusCode : StatusCode)
    (completes : onSimplePairingComplete st statusCode = .ok (st', effects)) :
    Transition securityProperties st (.simplePairingComplete statusCode) st' effects := by
  rw [onSimplePairingComplete] at completes
  by_cases unexpected : st.state ≠ .waitPairingComplete
  · rw [if_pos unexpected, failWithUnexpectedEvent_eq] at completes
    cases completes
    simpa [negativeReply] using
      @Transition.unexpected securityProperties st (.simplePairingComplete statusCode) unexpected
  rw [if_neg unexpected, zxAssert] at completes
  have waiting := not_not.mp unexpected
  cases live : st.currentPairing with
  | none => rw [live] at completes; cases completes
  | some pairing =>
  rw [live, if_pos Option.isSome_some] at completes
  dsimp only at completes
  cases success : (Status.ofStatusCode statusCode).isSuccess
  · rw [success, if_pos (by decide), emitThen, signalStatus_eq] at completes
    cases completes
    simpa [queue, live] using
      @Transition.simplePairingFailed securityProperties _ _ statusCode waiting live success
  · rw [success, if_neg (by decide)] at completes
    cases attached : st.pairingDelegate with
    | none => rw [attached] at completes; cases completes
    | some capability =>
      rw [attached] at completes
      cases completes
      rw [← live, ← attached]; exact .simplePairingSucceeded waiting live success (by simp [attached])

theorem onLinkKeyNotification_transition (linkKey : BitVec 128) (keyType : LinkKeyType)
    (encryptionStarted : Bool)
    (completes : onLinkKeyNotification securityProperties st linkKey keyType encryptionStarted =
      .ok (st', effects)) :
    Transition securityProperties st (.linkKeyNotification linkKey keyType encryptionStarted) st' effects := by
  rw [onLinkKeyNotification, zxAssert] at completes
  by_cases debug : keyType = .debugCombination
  · rw [if_neg (not_not.mpr debug)] at completes; cases completes
  rw [if_pos debug] at completes
  by_cases rekey : st.state = .idle ∧ keyType = .changedCombination
  · rw [if_pos rekey] at completes
    by_cases noKey : st.linkKey.isNone
    · rw [if_pos noKey, signalStatus_eq] at completes
      cases completes
      exact .linkKeyChangedWithoutKey rekey.1 rekey.2 (Option.isNone_iff_eq_none.mp noKey)
    · rw [if_neg noKey] at completes
      cases completes
      exact .linkKeyChanged rekey.1 rekey.2 (by simpa using noKey)
  rw [if_neg rekey] at completes
  by_cases notWaiting : st.state ≠ .waitLinkKey
  · rw [if_pos notWaiting, failWithUnexpectedEvent_eq] at completes
    cases completes
    simpa [negativeReply] using @Transition.unexpected securityProperties st
      (.linkKeyNotification linkKey keyType encryptionStarted) ⟨debug, rekey, notWaiting⟩
  rw [if_neg notWaiting, withPairing] at completes
  have waiting := not_not.mp notWaiting
  cases live : st.currentPairing with
  | none => rw [live] at completes; cases completes
  | some pairing =>
  rw [live] at completes
  dsimp only at completes
  by_cases noSecurity : (securityProperties keyType).level = .noSecurity
  · rw [if_pos noSecurity, signalStatus_eq] at completes
    cases completes
    simpa [queue] using @Transition.linkKeyRejected securityProperties st pairing linkKey keyType
      encryptionStarted waiting live debug (.inl noSecurity)
  rw [if_neg noSecurity] at completes
  by_cases mismatch : (securityProperties keyType).authenticated ≠ pairing.authenticated
  · rw [if_pos mismatch, signalStatus_eq] at completes
    cases completes
    simpa [queue] using @Transition.linkKeyRejected securityProperties st pairing linkKey keyType
      encryptionStarted waiting live debug (.inr mismatch)
  rw [if_neg mismatch] at completes
  have agrees := not_not.mp mismatch
  cases role : pairing.initiator
  · rw [if_neg (by simp [role])] at completes
    cases encryptionStarted <;> cases completes
    · exact .linkKeyAcceptedEncryptionRefused waiting live debug noSecurity agrees role
    · exact .linkKeyAcceptedResponder waiting live debug noSecurity agrees role
  · rw [if_pos role] at completes
    cases completes
    exact .linkKeyAcceptedInitiator waiting live debug noSecurity agrees role

theorem onAuthenticationComplete_transition (statusCode : StatusCode) (encryptionStarted : Bool)
    (completes : onAuthenticationComplete st statusCode encryptionStarted = .ok (st', effects)) :
    Transition securityProperties st (.authenticationComplete statusCode encryptionStarted) st' effects := by
  unfold onAuthenticationComplete withPairing zxAssert at completes
  split at completes
  · next unexpected =>
    simp only [failWithUnexpectedEvent_eq, Except.ok.injEq, Prod.mk.injEq] at completes
    obtain ⟨rfl, rfl⟩ := completes
    simpa [negativeReply] using @Transition.unexpected securityProperties st
      (.authenticationComplete statusCode encryptionStarted) unexpected
  next expected =>
  have expected : st.state = .initiatorPairingStarted ∨ st.state = .initiatorWaitAuthComplete :=
    (not_and_or.mp expected).imp not_not.mp not_not.mp
  split at completes
  case h_2 => cases completes
  next pairing live =>
  dsimp only at completes
  split at completes
  case isFalse => cases completes
  next isInitiator =>
  cases success : (Status.ofStatusCode statusCode).isSuccess
  · simp only [success, Bool.not_false, if_true, signalStatus_eq, Except.ok.injEq,
      Prod.mk.injEq] at completes
    obtain ⟨rfl, rfl⟩ := completes
    simpa [queue, live] using @Transition.authenticationFailed securityProperties st pairing statusCode
      encryptionStarted expected live isInitiator success
  · simp only [success, Bool.not_true, Bool.false_eq_true, if_false] at completes
    cases encryptionStarted
    · cases completes; exact .authenticationEncryptionRefused expected live isInitiator success
    · cases completes; exact .authenticationSucceeded expected live isInitiator success

theorem onEncryptionChange_transition (status : Status) (enabled : Bool)
    (completes : onEncryptionChange st status enabled = .ok (st', effects)) :
    Transition securityProperties st (.encryptionChange status enabled) st' effects := by
  unfold onEncryptionChange at completes
  split at completes
  · next ignored => cases completes; exact .encryptionIgnored ignored
  · next waiting =>
    simp only [signalStatus_eq, Except.ok.injEq, Prod.mk.injEq] at completes
    obtain ⟨rfl, rfl⟩ := completes
    exact .encryptionChanged (not_not.mp waiting)

theorem invokeConfirmCallback_transition (callback : ConfirmCallback) (confirm : Bool)
    (completes : invokeConfirmCallback st callback confirm = .ok (st', effects)) :
    Transition securityProperties st (.confirmCallback callback confirm) st' effects := by
  unfold invokeConfirmCallback at completes
  split at completes
  · split at completes
    · next live => cases completes; exact .confirmForwarded live
    · next stale => cases completes; exact .confirmDropped (by rintro _ ⟨⟩; exact stale)
  · cases completes; exact .confirmDropped (by rintro _ ⟨⟩)

theorem invokePasskeyCallback_transition (pairing : Nat) (passkey : Int)
    (completes : invokePasskeyCallback st pairing passkey = .ok (st', effects)) :
    Transition securityProperties st (.passkeyCallback pairing passkey) st' effects := by
  unfold invokePasskeyCallback at completes
  split at completes
  · next live => cases completes; exact .passkeyForwarded live
  · next stale => cases completes; exact .passkeyDropped stale

/-- The code refines the table: every call that completes follows one of its rows. -/
theorem step_transition {event : Event}
    (completes : step securityProperties st event = .ok (st', effects)) :
    Transition securityProperties st event st' effects := by
  cases event with
  | initiatePairing callback => exact initiatePairing_transition callback completes
  | ioCapabilityRequest => exact onIoCapabilityRequest_transition completes
  | ioCapabilityResponse peerIocap => exact onIoCapabilityResponse_transition peerIocap completes
  | userConfirmationRequest numericValue =>
    exact onUserConfirmationRequest_transition numericValue completes
  | userPasskeyRequest => exact onUserPasskeyRequest_transition completes
  | userPasskeyNotification numericValue =>
    exact onUserPasskeyNotification_transition numericValue completes
  | simplePairingComplete statusCode => exact onSimplePairingComplete_transition statusCode completes
  | linkKeyNotification linkKey keyType encryptionStarted =>
    exact onLinkKeyNotification_transition linkKey keyType encryptionStarted completes
  | authenticationComplete statusCode encryptionStarted =>
    exact onAuthenticationComplete_transition statusCode encryptionStarted completes
  | encryptionChange status enabled => exact onEncryptionChange_transition status enabled completes
  | confirmCallback callback confirm => exact invokeConfirmCallback_transition callback confirm completes
  | passkeyCallback pairing passkey => exact invokePasskeyCallback_transition pairing passkey completes
  | pairingDelegateChanged pairingDelegate => cases completes; exact .pairingDelegateChanged

end ZirconRpi.Gap.Table
