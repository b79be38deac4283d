import ZirconRpi.Gap.Trace
/-! The order of the writes and calls inside each handler, one action each, which replays to the
step model's result (`step_replay`). No handler touches the object after a status callback but
`EnableEncryption`, which writes `state_ = kFailed` after a refused `StartEncryption`. -/

namespace ZirconRpi.Gap.Order
open ZirconRpi.Gap.Decision ZirconRpi.Gap.Table ZirconRpi.Gap.Trace
open ZirconRpi.Gap.Machine hiding zxAssert withPairing signalStatus enableEncryption failWithUnexpectedEvent
  initiatePairing onIoCapabilityRequest onIoCapabilityResponse onUserConfirmationRequest onUserPasskeyRequest
  onUserPasskeyNotification onSimplePairingComplete onLinkKeyNotification onAuthenticationComplete
  onEncryptionChange invokeConfirmCallback invokePasskeyCallback step

/-- One write to the object or one call out of it, in the order the source makes them. -/
inductive Action where
  /-- `state_ = state`. -/
  | setState (state : State)
  /-- `current_pairing_ = ...`, or a write to a field of the live Pairing. -/
  | setPairing (current : Option Pairing)
  /-- `current_pairing_ = Pairing::MakeInitiator(...)` or `MakeResponder(...)`: a new object. -/
  | newPairing (pairing : Pairing)
  /-- `link_->set_bredr_link_key(...)`. -/
  | setLinkKey (key : LinkKey) (keyType : LinkKeyType)
  /-- The owner attaching or dropping the delegate. -/
  | setPairingDelegate (pairingDelegate : Option IOCapability)
  /-- A call out of the object, or the value the handler returns. -/
  | call (effect : Effect)
  deriving DecidableEq, Repr

/-- What an action writes. -/
def Action.write (st : PairingState) : Action → PairingState
  | .setState state => { st with state := state }
  | .setPairing current => { st with currentPairing := current }
  | .newPairing pairing => { st with currentPairing := some pairing, nextSerial := st.nextSerial + 1 }
  | .setLinkKey key keyType => { st with linkKey := some (key, keyType) }
  | .setPairingDelegate pairingDelegate => { st with pairingDelegate := pairingDelegate }
  | .call _ => st

/-- What an action does outside the object. -/
def Action.effects : Action → List Effect
  | .setLinkKey key keyType => [.setBrEdrLinkKey key keyType]
  | .call effect => [effect]
  | _ => []

/-- Carries out the actions in order. -/
def replay (st : PairingState) : List Action → PairingState × List Effect
  | [] => (st, [])
  | action :: actions =>
    ((replay (action.write st) actions).1, action.effects ++ (replay (action.write st) actions).2)

/-! ## The handlers, write by write -/

def zxAssert (condition : Prop) [Decidable condition] (text : String) (rest : Except Fault (List Action)) :
    Except Fault (List Action) :=
  if condition then rest else .error (.assertion text)

def withPairing (st : PairingState) (text : String) (rest : Pairing → Except Fault (List Action)) :
    Except Fault (List Action) :=
  match st.currentPairing with
  | some pairing => rest pairing
  | none => .error (.assertion text)

/-- The queue is moved out and `current_pairing_` reset before any callback runs. -/
def signalStatus (st : PairingState) (status : Status) : List Action :=
  (if st.isPairing then [.setPairing none] else []) ++ (signalEffects (queue st) status).map .call

def enableEncryption (encryptionStarted : Bool) : List Action :=
  if !encryptionStarted then
    [.call .startEncryption, .call (.statusCallback (.hostError .failed)), .setState .failed]
  else [.call .startEncryption, .setState .waitEncryption]

def failWithUnexpectedEvent (st : PairingState) : List Action :=
  .setState .failed :: signalStatus { st with state := .failed } (.hostError .notSupported)

def initiatePairing (st : PairingState) (statusCallback : CallbackId) : Except Fault (List Action) :=
  if st.pairingDelegate.isNone then
    .ok [.call (.initiatorCallback statusCallback (.hostError .notReady)),
      .call (.initiatorAction .doNotSendAuthenticationRequest)]
  else if st.state = .idle then
    zxAssert (st.currentPairing = none) "!is_pairing()" <|
      .ok [.newPairing (Pairing.makeInitiator st.nextSerial statusCallback), .setState .initiatorPairingStarted,
        .call (.initiatorAction .sendAuthenticationRequest)]
  else match st.currentPairing with
    | some pairing =>
      zxAssert (st.state ≠ .idle) "state() != State::kIdle" <|
        .ok [.setPairing (some { pairing with initiatorCallbacks := pairing.initiatorCallbacks ++ [statusCallback] }),
          .call (.initiatorAction .doNotSendAuthenticationRequest)]
    | none =>
      zxAssert (st.state = .failed) "state() == State::kFailed" <|
        .ok [.call (.initiatorCallback statusCallback (.hostError .canceled)),
          .call (.initiatorAction .doNotSendAuthenticationRequest)]

def onIoCapabilityRequest (st : PairingState) : Except Fault (List Action) :=
  if st.state = .initiatorPairingStarted then
    withPairing st "initiator()" fun pairing =>
    zxAssert (pairing.initiator = true) "initiator()" <|
    match st.pairingDelegate with
    | some capability =>
      .ok [.setPairing (some { pairing with localIocap := capability }), .setState .initiatorWaitIoCapResponse,
        .call (.ioCapabilityReply (some capability))]
    | none => .error (.assertion "pairing_delegate()")
  else if st.state = .responderWaitIoCapRequest then
    withPairing st "is_pairing()" fun pairing =>
    zxAssert (pairing.initiator = false) "!initiator()" <|
    match st.pairingDelegate with
    | none => .ok (.setState .idle :: signalStatus { st with state := .idle } (.hostError .notReady) ++
        [.call (.ioCapabilityReply none)])
    | some capability =>
      match Pairing.computePairingData { pairing with localIocap := capability } with
      | .ok computed =>
        .ok [.setPairing (some { pairing with localIocap := capability }), .setPairing (some computed),
          .setState (getStateForPairingEvent computed.expectedEvent), .call (.ioCapabilityReply (some computed.localIocap))]
      | .error fault => .error fault
  else .ok (failWithUnexpectedEvent st ++ [.call (.ioCapabilityReply none)])

def onIoCapabilityResponse (st : PairingState) (peerIocap : IOCapability) : Except Fault (List Action) :=
  if st.state = .idle then
    zxAssert (st.currentPairing = none) "!is_pairing()" <|
      .ok [.newPairing (Pairing.makeResponder st.nextSerial peerIocap), .setState .responderWaitIoCapRequest]
  else if st.state = .initiatorWaitIoCapResponse then
    withPairing st "initiator()" fun pairing =>
    zxAssert (pairing.initiator = true) "initiator()" <|
    match Pairing.computePairingData { pairing with peerIocap := peerIocap } with
    | .ok computed =>
      .ok [.setPairing (some { pairing with peerIocap := peerIocap }), .setPairing (some computed),
        .setState (getStateForPairingEvent computed.expectedEvent)]
    | .error fault => .error fault
  else .ok (failWithUnexpectedEvent st)

def onUserConfirmationRequest (st : PairingState) (numericValue : UInt32) : Except Fault (List Action) :=
  if st.state ≠ .waitUserConfirmationRequest then
    .ok (failWithUnexpectedEvent st ++ [.call (.userConfirmationReply false)])
  else
    withPairing st "is_pairing()" fun pairing =>
    zxAssert (st.pairingDelegate.isSome) "pairing_delegate()" <|
    if pairing.action = .displayPasskey ∨ pairing.action = .comparePasskey then
      .ok [.setState .waitPairingComplete,
        .call (.displayPasskey numericValue .comparison (.userConfirmation pairing.serial))]
    else if pairing.action = .getConsent then
      .ok [.setState .waitPairingComplete, .call (.confirmPairing (.userConfirmation pairing.serial))]
    else
      zxAssert (pairing.action = .automatic) "current_pairing_->action == PairingAction::kAutomatic" <|
        .ok [.setState .waitPairingComplete, .call (.userConfirmationReply true)]

def onUserPasskeyRequest (st : PairingState) : Except Fault (List Action) :=
  if st.state ≠ .waitUserPasskeyRequest then
    .ok (failWithUnexpectedEvent st ++ [.call (.userPasskeyReply none)])
  else
    withPairing st "is_pairing()" fun pairing =>
    zxAssert (st.pairingDelegate.isSome) "pairing_delegate()" <|
    zxAssert (pairing.action = .requestPasskey)
      "current_pairing_->action == PairingAction::kRequestPasskey" <|
      .ok [.setState .waitPairingComplete, .call (.requestPasskey pairing.serial)]

def onUserPasskeyNotification (st : PairingState) (numericValue : UInt32) : Except Fault (List Action) :=
  if st.state ≠ .waitUserPasskeyNotification then .ok (failWithUnexpectedEvent st)
  else
    withPairing st "is_pairing()" fun pairing =>
    zxAssert (st.pairingDelegate.isSome) "pairing_delegate()" <|
      .ok [.setState .waitPairingComplete,
        .call (.displayPasskey numericValue .peerEntry (.passkeyNotification pairing.serial))]

def onSimplePairingComplete (st : PairingState) (statusCode : StatusCode) : Except Fault (List Action) :=
  if st.state ≠ .waitPairingComplete then .ok (failWithUnexpectedEvent st)
  else
    zxAssert (st.currentPairing.isSome) "is_pairing()" <|
    let status := Status.ofStatusCode statusCode
    if !status.isSuccess then
      let completion := if st.pairingDelegate.isSome then [Action.call (.completePairing (.hostError .failed))] else []
      .ok (completion ++ .setState .failed :: signalStatus { st with state := .failed } status)
    else match st.pairingDelegate with
      | some _ => .ok [.call (.completePairing .success), .setState .waitLinkKey]
      | none => .error .nullPairingDelegate

def onLinkKeyNotification (securityProperties : LinkKeyType → SecurityProperties)
    (st : PairingState) (linkKey : BitVec 128) (keyType : LinkKeyType) (encryptionStarted : Bool) :
    Except Fault (List Action) :=
  zxAssert (keyType ≠ .debugCombination) "key_type != hci::LinkKeyType::kDebugCombination" <|
  if st.state = .idle ∧ keyType = .changedCombination then
    if st.linkKey.isNone then
      .ok (.setState .failed :: signalStatus { st with state := .failed } (.hostError .insufficientSecurity))
    else .ok [.setLinkKey ⟨linkKey, 0, 0⟩ keyType]
  else if st.state ≠ .waitLinkKey then .ok (failWithUnexpectedEvent st)
  else
    withPairing st "is_pairing()" fun pairing =>
    let secProps := securityProperties keyType
    let st := { st with currentPairing := some { pairing with securityProperties := secProps } }
    .ok (.setPairing st.currentPairing ::
      if secProps.level = .noSecurity then
        .setState .failed :: signalStatus { st with state := .failed } (.hostError .insufficientSecurity)
      else if secProps.authenticated ≠ pairing.authenticated then
        .setState .failed :: signalStatus { st with state := .failed } (.hostError .insufficientSecurity)
      else
        .setLinkKey ⟨linkKey, 0, 0⟩ keyType ::
          if pairing.initiator then [.setState .initiatorWaitAuthComplete] else enableEncryption encryptionStarted)

def onAuthenticationComplete (st : PairingState) (statusCode : StatusCode) (encryptionStarted : Bool) :
    Except Fault (List Action) :=
  if st.state ≠ .initiatorPairingStarted ∧ st.state ≠ .initiatorWaitAuthComplete then
    .ok (failWithUnexpectedEvent st)
  else
    withPairing st "initiator()" fun pairing =>
    zxAssert (pairing.initiator = true) "initiator()" <|
    let status := Status.ofStatusCode statusCode
    if !status.isSuccess then .ok (.setState .failed :: signalStatus { st with state := .failed } status)
    else .ok (enableEncryption encryptionStarted)

def onEncryptionChange (st : PairingState) (status : Status) (enabled : Bool) : Except Fault (List Action) :=
  if st.state ≠ .waitEncryption then .ok []
  else
    let status := if status.isSuccess && !enabled then Status.hostError .failed else status
    let state := if status.isSuccess then State.idle else State.failed
    .ok (.setState state :: signalStatus { st with state := state } status)

def invokeConfirmCallback (st : PairingState) (callback : ConfirmCallback) (confirm : Bool) :
    Except Fault (List Action) :=
  match callback with
  | .userConfirmation pairing =>
    if st.liveSerial = some pairing then .ok [.call (.userConfirmationReply confirm)] else .ok []
  | .passkeyNotification _ => .ok []

def invokePasskeyCallback (st : PairingState) (pairing : Nat) (passkey : Int) : Except Fault (List Action) :=
  if st.liveSerial = some pairing then
    .ok [.call (.userPasskeyReply (if 0 ≤ passkey then some (UInt32.ofNat passkey.toNat) else none))]
  else .ok []

def step (securityProperties : LinkKeyType → SecurityProperties) (st : PairingState) :
    Event → Except Fault (List Action)
  | .initiatePairing callback => initiatePairing st callback
  | .ioCapabilityRequest => onIoCapabilityRequest st
  | .ioCapabilityResponse peerIocap => onIoCapabilityResponse st peerIocap
  | .userConfirmationRequest numericValue => onUserConfirmationRequest st numericValue
  | .userPasskeyRequest => onUserPasskeyRequest st
  | .userPasskeyNotification numericValue => onUserPasskeyNotification st numericValue
  | .simplePairingComplete statusCode => onSimplePairingComplete st statusCode
  | .linkKeyNotification linkKey keyType encryptionStarted =>
    onLinkKeyNotification securityProperties st linkKey keyType encryptionStarted
  | .authenticationComplete statusCode encryptionStarted =>
    onAuthenticationComplete st statusCode encryptionStarted
  | .encryptionChange status enabled => onEncryptionChange st status enabled
  | .confirmCallback callback confirm => invokeConfirmCallback st callback confirm
  | .passkeyCallback pairing passkey => invokePasskeyCallback st pairing passkey
  | .pairingDelegateChanged pairingDelegate => .ok [.setPairingDelegate pairingDelegate]

/-! ## Replaying the actions gives the step model -/

@[simp] theorem replay_nil (st : PairingState) : replay st [] = (st, []) := rfl

@[simp] theorem replay_cons (st : PairingState) (action : Action) (actions : List Action) :
    replay st (action :: actions) =
      ((replay (action.write st) actions).1, action.effects ++ (replay (action.write st) actions).2) := rfl

theorem replay_append (st : PairingState) (first second : List Action) :
    replay st (first ++ second) =
      ((replay (replay st first).1 second).1, (replay st first).2 ++ (replay (replay st first).1 second).2) := by
  induction first generalizing st with
  | nil => simp
  | cons action first ih => simp [ih]

@[simp] theorem replay_calls (st : PairingState) (effects : List Effect) :
    replay st (effects.map .call) = (st, effects) := by
  induction effects with
  | nil => rfl
  | cons effect effects ih => simp [ih, Action.write, Action.effects]

/-- `SignalStatus` reads only the live Pairing, so the state it is handed may differ elsewhere. -/
theorem replay_signalStatus {st st' : PairingState} (status : Status)
    (same : st'.currentPairing = st.currentPairing) :
    replay st (signalStatus st' status) = Machine.signalStatus st status := by
  obtain ⟨state, _ | pairing, pairingDelegate, linkKey, nextSerial⟩ := st <;>
    simp [signalStatus, signalStatus_eq, PairingState.isPairing, replay_append, queue, same, Action.write,
      Action.effects]

theorem replay_failWithUnexpectedEvent (st : PairingState) :
    replay st (failWithUnexpectedEvent st) = Machine.failWithUnexpectedEvent st := by
  simp [failWithUnexpectedEvent, Machine.failWithUnexpectedEvent, replay_signalStatus, Action.write, Action.effects]

theorem replay_enableEncryption (st : PairingState) (encryptionStarted : Bool) :
    replay st (enableEncryption encryptionStarted) = Machine.enableEncryption st encryptionStarted := by
  cases encryptionStarted <;> rfl

variable {st : PairingState}

@[simp] theorem map_ok {actions : List Action} :
    (Except.ok actions : Except Fault (List Action)).map (replay st) = .ok (replay st actions) := rfl

@[simp] theorem map_error {fault : Fault} :
    (Except.error fault : Except Fault (List Action)).map (replay st) = .error fault := rfl

theorem initiatePairing_replay (statusCallback : CallbackId) :
    (initiatePairing st statusCallback).map (replay st) = Machine.initiatePairing st statusCallback := by
  obtain ⟨state, currentPairing, pairingDelegate, linkKey, nextSerial⟩ := st
  rw [initiatePairing, Machine.initiatePairing]
  by_cases detached : pairingDelegate.isNone
  · rw [if_pos detached, if_pos detached]; rfl
  rw [if_neg detached, if_neg detached]
  by_cases idle : state = .idle
  · rw [if_pos idle, if_pos idle, zxAssert, Machine.zxAssert]
    by_cases absent : currentPairing = none
    · rw [if_pos absent, if_pos absent]; rfl
    · rw [if_neg absent, if_neg absent]; rfl
  rw [if_neg idle, if_neg idle]
  cases currentPairing with
  | some pairing => simp only [zxAssert, Machine.zxAssert, if_pos idle]; rfl
  | none =>
    simp only [zxAssert, Machine.zxAssert]
    by_cases failed : state = .failed
    · rw [if_pos failed, if_pos failed]; rfl
    · rw [if_neg failed, if_neg failed]; rfl

theorem onIoCapabilityRequest_replay :
    (onIoCapabilityRequest st).map (replay st) = Machine.onIoCapabilityRequest st := by
  obtain ⟨state, currentPairing, pairingDelegate, linkKey, nextSerial⟩ := st
  rw [onIoCapabilityRequest, Machine.onIoCapabilityRequest]
  by_cases started : state = .initiatorPairingStarted
  · rw [if_pos started, if_pos started, withPairing, Machine.withPairing]
    cases currentPairing with
    | none => rfl
    | some pairing =>
    simp only [zxAssert, Machine.zxAssert]
    by_cases isInitiator : pairing.initiator = true
    · rw [if_pos isInitiator, if_pos isInitiator]
      cases pairingDelegate <;> rfl
    · rw [if_neg isInitiator, if_neg isInitiator]; rfl
  rw [if_neg started, if_neg started]
  by_cases responder : state = .responderWaitIoCapRequest
  · rw [if_pos responder, if_pos responder, withPairing, Machine.withPairing]
    cases live : currentPairing with
    | none => rfl
    | some pairing =>
    simp only [zxAssert, Machine.zxAssert]
    by_cases isResponder : pairing.initiator = false
    · rw [if_pos isResponder, if_pos isResponder]
      cases pairingDelegate with
      | none =>
        simp [replay_append, replay_signalStatus, Machine.thenEmit, Action.write, Action.effects]
      | some capability =>
        simp only
        cases Pairing.computePairingData { pairing with localIocap := capability } <;> rfl
    · rw [if_neg isResponder, if_neg isResponder]; rfl
  rw [if_neg responder, if_neg responder]
  simp [replay_append, replay_failWithUnexpectedEvent, Machine.thenEmit, Action.write, Action.effects]

theorem onIoCapabilityResponse_replay (peerIocap : IOCapability) :
    (onIoCapabilityResponse st peerIocap).map (replay st) = Machine.onIoCapabilityResponse st peerIocap := by
  obtain ⟨state, currentPairing, pairingDelegate, linkKey, nextSerial⟩ := st
  rw [onIoCapabilityResponse, Machine.onIoCapabilityResponse]
  by_cases idle : state = .idle
  · rw [if_pos idle, if_pos idle, zxAssert, Machine.zxAssert]
    by_cases absent : currentPairing = none
    · rw [if_pos absent, if_pos absent]; rfl
    · rw [if_neg absent, if_neg absent]; rfl
  rw [if_neg idle, if_neg idle]
  by_cases waiting : state = .initiatorWaitIoCapResponse
  · rw [if_pos waiting, if_pos waiting, withPairing, Machine.withPairing]
    cases currentPairing with
    | none => rfl
    | some pairing =>
    simp only [zxAssert, Machine.zxAssert]
    by_cases isInitiator : pairing.initiator = true
    · rw [if_pos isInitiator, if_pos isInitiator]
      cases Pairing.computePairingData { pairing with peerIocap := peerIocap } <;> rfl
    · rw [if_neg isInitiator, if_neg isInitiator]; rfl
  rw [if_neg waiting, if_neg waiting, map_ok, replay_failWithUnexpectedEvent]

theorem onUserConfirmationRequest_replay (numericValue : UInt32) :
    (onUserConfirmationRequest st numericValue).map (replay st) = Machine.onUserConfirmationRequest st numericValue := by
  obtain ⟨state, currentPairing, pairingDelegate, linkKey, nextSerial⟩ := st
  rw [onUserConfirmationRequest, Machine.onUserConfirmationRequest]
  by_cases unexpected : state ≠ .waitUserConfirmationRequest
  · rw [if_pos unexpected, if_pos unexpected]
    simp [replay_append, replay_failWithUnexpectedEvent, Machine.thenEmit, Action.write, Action.effects]
  rw [if_neg unexpected, if_neg unexpected, withPairing, Machine.withPairing]
  cases currentPairing with
  | none => rfl
  | some pairing =>
  simp only [zxAssert, Machine.zxAssert]
  by_cases attached : pairingDelegate.isSome = true
  · rw [if_pos attached, if_pos attached]
    by_cases compare : pairing.action = .displayPasskey ∨ pairing.action = .comparePasskey
    · rw [if_pos compare, if_pos compare]; rfl
    rw [if_neg compare, if_neg compare]
    by_cases consent : pairing.action = .getConsent
    · rw [if_pos consent, if_pos consent]; rfl
    rw [if_neg consent, if_neg consent]
    by_cases automatic : pairing.action = .automatic
    · rw [if_pos automatic, if_pos automatic]; rfl
    · rw [if_neg automatic, if_neg automatic]; rfl
  · rw [if_neg attached, if_neg attached]; rfl

theorem onUserPasskeyRequest_replay :
    (onUserPasskeyRequest st).map (replay st) = Machine.onUserPasskeyRequest st := by
  obtain ⟨state, currentPairing, pairingDelegate, linkKey, nextSerial⟩ := st
  rw [onUserPasskeyRequest, Machine.onUserPasskeyRequest]
  by_cases unexpected : state ≠ .waitUserPasskeyRequest
  · rw [if_pos unexpected, if_pos unexpected]
    simp [replay_append, replay_failWithUnexpectedEvent, Machine.thenEmit, Action.write, Action.effects]
  rw [if_neg unexpected, if_neg unexpected, withPairing, Machine.withPairing]
  cases currentPairing with
  | none => rfl
  | some pairing =>
  simp only [zxAssert, Machine.zxAssert]
  by_cases attached : pairingDelegate.isSome = true
  · rw [if_pos attached, if_pos attached]
    by_cases requested : pairing.action = .requestPasskey
    · rw [if_pos requested, if_pos requested]; rfl
    · rw [if_neg requested, if_neg requested]; rfl
  · rw [if_neg attached, if_neg attached]; rfl

theorem onUserPasskeyNotification_replay (numericValue : UInt32) :
    (onUserPasskeyNotification st numericValue).map (replay st) =
      Machine.onUserPasskeyNotification st numericValue := by
  obtain ⟨state, currentPairing, pairingDelegate, linkKey, nextSerial⟩ := st
  rw [onUserPasskeyNotification, Machine.onUserPasskeyNotification]
  by_cases unexpected : state ≠ .waitUserPasskeyNotification
  · rw [if_pos unexpected, if_pos unexpected, map_ok, replay_failWithUnexpectedEvent]
  rw [if_neg unexpected, if_neg unexpected, withPairing, Machine.withPairing]
  cases currentPairing with
  | none => rfl
  | some pairing =>
  simp only [zxAssert, Machine.zxAssert]
  by_cases attached : pairingDelegate.isSome = true
  · rw [if_pos attached, if_pos attached]; rfl
  · rw [if_neg attached, if_neg attached]; rfl

theorem onSimplePairingComplete_replay (statusCode : StatusCode) :
    (onSimplePairingComplete st statusCode).map (replay st) = Machine.onSimplePairingComplete st statusCode := by
  obtain ⟨state, currentPairing, pairingDelegate, linkKey, nextSerial⟩ := st
  rw [onSimplePairingComplete, Machine.onSimplePairingComplete]
  by_cases unexpected : state ≠ .waitPairingComplete
  · rw [if_pos unexpected, if_pos unexpected, map_ok, replay_failWithUnexpectedEvent]
  rw [if_neg unexpected, if_neg unexpected, zxAssert, Machine.zxAssert]
  by_cases live : currentPairing.isSome = true
  · rw [if_pos live, if_pos live]
    cases success : (Status.ofStatusCode statusCode).isSuccess
    · cases pairingDelegate <;>
        simp [success, replay_append, replay_signalStatus, Machine.emitThen, Action.write, Action.effects]
    · cases pairingDelegate <;> simp [success, Action.write, Action.effects]
  · rw [if_neg live, if_neg live]; rfl

theorem onLinkKeyNotification_replay (securityProperties : LinkKeyType → SecurityProperties)
    (linkKey : BitVec 128) (keyType : LinkKeyType) (encryptionStarted : Bool) :
    (onLinkKeyNotification securityProperties st linkKey keyType encryptionStarted).map (replay st) =
      Machine.onLinkKeyNotification securityProperties st linkKey keyType encryptionStarted := by
  obtain ⟨state, currentPairing, pairingDelegate, linkKey, nextSerial⟩ := st
  rw [onLinkKeyNotification, Machine.onLinkKeyNotification, zxAssert, Machine.zxAssert]
  by_cases debug : keyType ≠ .debugCombination
  · rw [if_pos debug, if_pos debug]
    by_cases rekey : state = .idle ∧ keyType = .changedCombination
    · rw [if_pos rekey, if_pos rekey]
      by_cases keyless : linkKey.isNone
      · rw [if_pos keyless, if_pos keyless, map_ok, replay_cons, replay_signalStatus] <;> rfl
      · rw [if_neg keyless, if_neg keyless]; rfl
    rw [if_neg rekey, if_neg rekey]
    by_cases unexpected : state ≠ .waitLinkKey
    · rw [if_pos unexpected, if_pos unexpected, map_ok, replay_failWithUnexpectedEvent]
    rw [if_neg unexpected, if_neg unexpected, withPairing, Machine.withPairing]
    cases currentPairing with
    | none => rfl
    | some pairing =>
    simp only [map_ok, replay_cons]
    by_cases insecure : (securityProperties keyType).level = .noSecurity
    · rw [if_pos insecure, if_pos insecure, replay_cons, replay_signalStatus] <;> rfl
    rw [if_neg insecure, if_neg insecure]
    by_cases mismatch : (securityProperties keyType).authenticated ≠ pairing.authenticated
    · rw [if_pos mismatch, if_pos mismatch, replay_cons, replay_signalStatus] <;> rfl
    rw [if_neg mismatch, if_neg mismatch, replay_cons]
    cases pairing.initiator
    · simp only [if_false, Bool.false_eq_true, replay_enableEncryption]; rfl
    · rfl
  · rw [if_neg debug, if_neg debug]; rfl

theorem onAuthenticationComplete_replay (statusCode : StatusCode) (encryptionStarted : Bool) :
    (onAuthenticationComplete st statusCode encryptionStarted).map (replay st) =
      Machine.onAuthenticationComplete st statusCode encryptionStarted := by
  obtain ⟨state, currentPairing, pairingDelegate, linkKey, nextSerial⟩ := st
  rw [onAuthenticationComplete, Machine.onAuthenticationComplete]
  by_cases unexpected : state ≠ .initiatorPairingStarted ∧ state ≠ .initiatorWaitAuthComplete
  · rw [if_pos unexpected, if_pos unexpected, map_ok, replay_failWithUnexpectedEvent]
  rw [if_neg unexpected, if_neg unexpected, withPairing, Machine.withPairing]
  cases currentPairing with
  | none => rfl
  | some pairing =>
  simp only [zxAssert, Machine.zxAssert]
  by_cases isInitiator : pairing.initiator = true
  · rw [if_pos isInitiator, if_pos isInitiator]
    cases (Status.ofStatusCode statusCode).isSuccess
    · simp only [Bool.not_false, if_true, map_ok, replay_cons]
      rw [replay_signalStatus] <;> rfl
    · simp only [Bool.not_true, if_false, Bool.false_eq_true, map_ok, replay_enableEncryption]
  · rw [if_neg isInitiator, if_neg isInitiator]; rfl

theorem onEncryptionChange_replay (status : Status) (enabled : Bool) :
    (onEncryptionChange st status enabled).map (replay st) = Machine.onEncryptionChange st status enabled := by
  obtain ⟨state, currentPairing, pairingDelegate, linkKey, nextSerial⟩ := st
  rw [onEncryptionChange, Machine.onEncryptionChange]
  by_cases unexpected : state ≠ .waitEncryption
  · rw [if_pos unexpected, if_pos unexpected]; rfl
  rw [if_neg unexpected, if_neg unexpected, map_ok, replay_cons, replay_signalStatus] <;> rfl

/-- The write-by-write handlers refine the step model: replaying the actions of any call gives
the state and effects `Machine.step` gives, and they abort together. -/
theorem step_replay (securityProperties : LinkKeyType → SecurityProperties) (event : Event) :
    (step securityProperties st event).map (replay st) = Machine.step securityProperties st event := by
  cases event with
  | initiatePairing callback => exact initiatePairing_replay callback
  | ioCapabilityRequest => exact onIoCapabilityRequest_replay
  | ioCapabilityResponse peerIocap => exact onIoCapabilityResponse_replay peerIocap
  | userConfirmationRequest numericValue => exact onUserConfirmationRequest_replay numericValue
  | userPasskeyRequest => exact onUserPasskeyRequest_replay
  | userPasskeyNotification numericValue => exact onUserPasskeyNotification_replay numericValue
  | simplePairingComplete statusCode => exact onSimplePairingComplete_replay statusCode
  | linkKeyNotification linkKey keyType encryptionStarted =>
    exact onLinkKeyNotification_replay securityProperties linkKey keyType encryptionStarted
  | authenticationComplete statusCode encryptionStarted =>
    exact onAuthenticationComplete_replay statusCode encryptionStarted
  | encryptionChange status enabled => exact onEncryptionChange_replay status enabled
  | confirmCallback callback confirm =>
    cases callback with
    | userConfirmation pairing =>
      by_cases live : st.liveSerial = some pairing <;>
        simp [step, Machine.step, invokeConfirmCallback, Machine.invokeConfirmCallback, live, Action.write, Action.effects]
    | passkeyNotification => rfl
  | passkeyCallback pairing passkey =>
    by_cases live : st.liveSerial = some pairing <;>
      simp [step, Machine.step, invokePasskeyCallback, Machine.invokePasskeyCallback, live, Action.write, Action.effects]
  | pairingDelegateChanged => rfl

/-! ## Nothing after the callbacks but one write -/

/-- Calls that hand control to a status callback: `status_callback_` or a caller's callback. -/
def Action.signals : Action → Bool
  | .call (.statusCallback _) | .call (.initiatorCallback ..) => true
  | _ => false

/-- Whether an action touches the object: every write, every call through a member
(`status_callback_`, the delegate, the link), and returning the live Pairing's IO capability.
Calling a caller's callback or the controller's reply callback, or returning a constant, does not. -/
def Action.touchesObject : Action → Bool
  | .call (.initiatorCallback ..) | .call (.initiatorAction _) | .call (.ioCapabilityReply none)
  | .call (.userConfirmationReply _) | .call (.userPasskeyReply _) => false
  | _ => true

/-- What a handler does to the object once it has invoked a status callback. -/
def accessesAfterSignal : List Action → List Action
  | [] => []
  | action :: actions => if action.signals then actions.filter Action.touchesObject else accessesAfterSignal actions

/-- The discipline the source states, with the one exception it has: nothing touches the
object after a status callback, but for the write `state_ = kFailed` that ends
`EnableEncryption` when `StartEncryption` is refused. -/
def TouchesOnlyOnRefusal : Except Fault (List Action) → Prop
  | .ok actions => accessesAfterSignal actions = [] ∨
      accessesAfterSignal actions = [.setState .failed] ∧ enableEncryption false <:+ actions
  | .error _ => True

@[simp] theorem accessesAfterSignal_nil : accessesAfterSignal [] = [] := rfl

@[simp] theorem accessesAfterSignal_cons {action : Action} {actions : List Action} :
    accessesAfterSignal (action :: actions) =
      if action.signals then actions.filter Action.touchesObject else accessesAfterSignal actions := rfl

theorem accessesAfterSignal_signalStatus (st : PairingState) (status : Status) (rest : List Action) :
    accessesAfterSignal (signalStatus st status ++ rest) = rest.filter Action.touchesObject := by
  have callers : ((queue st).map fun callback => Action.call (.initiatorCallback callback status)).filter
      Action.touchesObject = [] := by
    simp [List.filter_map, Function.comp_def, Action.touchesObject]
  cases pairing : st.isPairing <;>
    simp [signalStatus, signalEffects, pairing, Action.signals, List.filter_append, Function.comp_def, callers]

theorem accessesAfterSignal_failWithUnexpectedEvent (st : PairingState) (rest : List Action) :
    accessesAfterSignal (failWithUnexpectedEvent st ++ rest) = rest.filter Action.touchesObject := by
  simp [failWithUnexpectedEvent, Action.signals, accessesAfterSignal_signalStatus]

theorem touchesOnlyOnRefusal_zxAssert {condition : Prop} [Decidable condition] {text : String}
    {rest : Except Fault (List Action)} (ordered : TouchesOnlyOnRefusal rest) :
    TouchesOnlyOnRefusal (zxAssert condition text rest) := by
  unfold zxAssert; split
  · exact ordered
  · trivial

theorem touchesOnlyOnRefusal_withPairing {text : String} {rest : Pairing → Except Fault (List Action)}
    (ordered : ∀ pairing, TouchesOnlyOnRefusal (rest pairing)) : TouchesOnlyOnRefusal (withPairing st text rest) := by
  unfold withPairing; split
  · exact ordered _
  · trivial

theorem touchesOnlyOnRefusal_ok {actions : List Action} (quiet : accessesAfterSignal actions = []) :
    TouchesOnlyOnRefusal (.ok actions) := .inl quiet

/-- A handler ending in `EnableEncryption`, with nothing signalled before it. -/
theorem touchesOnlyOnRefusal_enableEncryption {before : List Action} (quiet : ∀ action ∈ before, action.signals = false)
    (encryptionStarted : Bool) : TouchesOnlyOnRefusal (.ok (before ++ enableEncryption encryptionStarted)) := by
  have skipped : accessesAfterSignal (before ++ enableEncryption encryptionStarted) =
      accessesAfterSignal (enableEncryption encryptionStarted) := by
    induction before with
    | nil => rfl
    | cons action before ih =>
      rw [List.forall_mem_cons] at quiet
      rw [List.cons_append, accessesAfterSignal_cons, if_neg (by simp [quiet.1]), ih quiet.2]
  cases encryptionStarted
  · exact .inr ⟨skipped, List.suffix_append _ _⟩
  · exact .inl skipped

theorem initiatePairing_touchesOnlyOnRefusal (statusCallback : CallbackId) :
    TouchesOnlyOnRefusal (initiatePairing st statusCallback) := by
  unfold initiatePairing
  by_cases detached : st.pairingDelegate.isNone
  · rw [if_pos detached]; exact touchesOnlyOnRefusal_ok (by simp [Action.signals, Action.touchesObject])
  rw [if_neg detached]
  by_cases idle : st.state = .idle
  · rw [if_pos idle]; exact touchesOnlyOnRefusal_zxAssert (touchesOnlyOnRefusal_ok (by simp [Action.signals]))
  rw [if_neg idle]
  cases st.currentPairing
  · exact touchesOnlyOnRefusal_zxAssert (touchesOnlyOnRefusal_ok (by simp [Action.signals, Action.touchesObject]))
  · exact touchesOnlyOnRefusal_zxAssert (touchesOnlyOnRefusal_ok (by simp [Action.signals]))

theorem onIoCapabilityRequest_touchesOnlyOnRefusal : TouchesOnlyOnRefusal (onIoCapabilityRequest st) := by
  unfold onIoCapabilityRequest
  by_cases started : st.state = .initiatorPairingStarted
  · rw [if_pos started]
    refine touchesOnlyOnRefusal_withPairing fun pairing => touchesOnlyOnRefusal_zxAssert ?_
    cases st.pairingDelegate
    · trivial
    · exact touchesOnlyOnRefusal_ok (by simp [Action.signals])
  rw [if_neg started]
  by_cases responder : st.state = .responderWaitIoCapRequest
  · rw [if_pos responder]
    refine touchesOnlyOnRefusal_withPairing fun pairing => touchesOnlyOnRefusal_zxAssert ?_
    cases st.pairingDelegate with
    | none => exact touchesOnlyOnRefusal_ok (by simp [Action.signals, accessesAfterSignal_signalStatus, Action.touchesObject])
    | some capability =>
      simp only
      cases Pairing.computePairingData { pairing with localIocap := capability }
      · trivial
      · exact touchesOnlyOnRefusal_ok (by simp [Action.signals])
  rw [if_neg responder]
  exact touchesOnlyOnRefusal_ok (by simp [accessesAfterSignal_failWithUnexpectedEvent, Action.touchesObject])

theorem onIoCapabilityResponse_touchesOnlyOnRefusal (peerIocap : IOCapability) :
    TouchesOnlyOnRefusal (onIoCapabilityResponse st peerIocap) := by
  unfold onIoCapabilityResponse
  by_cases idle : st.state = .idle
  · rw [if_pos idle]; exact touchesOnlyOnRefusal_zxAssert (touchesOnlyOnRefusal_ok (by simp [Action.signals]))
  rw [if_neg idle]
  by_cases waiting : st.state = .initiatorWaitIoCapResponse
  · rw [if_pos waiting]
    refine touchesOnlyOnRefusal_withPairing fun pairing => touchesOnlyOnRefusal_zxAssert ?_
    cases Pairing.computePairingData { pairing with peerIocap := peerIocap }
    · trivial
    · exact touchesOnlyOnRefusal_ok (by simp [Action.signals])
  rw [if_neg waiting]
  exact touchesOnlyOnRefusal_ok (by simpa using accessesAfterSignal_failWithUnexpectedEvent st [])

theorem onUserConfirmationRequest_touchesOnlyOnRefusal (numericValue : UInt32) :
    TouchesOnlyOnRefusal (onUserConfirmationRequest st numericValue) := by
  unfold onUserConfirmationRequest
  by_cases unexpected : st.state ≠ .waitUserConfirmationRequest
  · rw [if_pos unexpected]
    exact touchesOnlyOnRefusal_ok (by simp [accessesAfterSignal_failWithUnexpectedEvent, Action.touchesObject])
  rw [if_neg unexpected]
  refine touchesOnlyOnRefusal_withPairing fun pairing => touchesOnlyOnRefusal_zxAssert ?_
  by_cases compare : pairing.action = .displayPasskey ∨ pairing.action = .comparePasskey
  · rw [if_pos compare]; exact touchesOnlyOnRefusal_ok (by simp [Action.signals])
  rw [if_neg compare]
  by_cases consent : pairing.action = .getConsent
  · rw [if_pos consent]; exact touchesOnlyOnRefusal_ok (by simp [Action.signals])
  rw [if_neg consent]
  exact touchesOnlyOnRefusal_zxAssert (touchesOnlyOnRefusal_ok (by simp [Action.signals]))

theorem onUserPasskeyRequest_touchesOnlyOnRefusal : TouchesOnlyOnRefusal (onUserPasskeyRequest st) := by
  unfold onUserPasskeyRequest
  by_cases unexpected : st.state ≠ .waitUserPasskeyRequest
  · rw [if_pos unexpected]
    exact touchesOnlyOnRefusal_ok (by simp [accessesAfterSignal_failWithUnexpectedEvent, Action.touchesObject])
  rw [if_neg unexpected]
  exact touchesOnlyOnRefusal_withPairing fun pairing => touchesOnlyOnRefusal_zxAssert
    (touchesOnlyOnRefusal_zxAssert (touchesOnlyOnRefusal_ok (by simp [Action.signals])))

theorem onUserPasskeyNotification_touchesOnlyOnRefusal (numericValue : UInt32) :
    TouchesOnlyOnRefusal (onUserPasskeyNotification st numericValue) := by
  unfold onUserPasskeyNotification
  by_cases unexpected : st.state ≠ .waitUserPasskeyNotification
  · rw [if_pos unexpected]; exact touchesOnlyOnRefusal_ok (by simpa using accessesAfterSignal_failWithUnexpectedEvent st [])
  rw [if_neg unexpected]
  exact touchesOnlyOnRefusal_withPairing fun pairing =>
    touchesOnlyOnRefusal_zxAssert (touchesOnlyOnRefusal_ok (by simp [Action.signals]))

theorem onSimplePairingComplete_touchesOnlyOnRefusal (statusCode : StatusCode) :
    TouchesOnlyOnRefusal (onSimplePairingComplete st statusCode) := by
  unfold onSimplePairingComplete
  by_cases unexpected : st.state ≠ .waitPairingComplete
  · rw [if_pos unexpected]; exact touchesOnlyOnRefusal_ok (by simpa using accessesAfterSignal_failWithUnexpectedEvent st [])
  rw [if_neg unexpected]
  refine touchesOnlyOnRefusal_zxAssert ?_
  simp only
  by_cases success : (Status.ofStatusCode statusCode).isSuccess
  · rw [if_neg (by simp [success])]
    cases st.pairingDelegate
    · trivial
    · exact touchesOnlyOnRefusal_ok (by simp [Action.signals])
  · rw [if_pos (by simpa using success)]
    cases st.pairingDelegate <;>
      exact touchesOnlyOnRefusal_ok (by simpa [Action.signals] using accessesAfterSignal_signalStatus _ _ [])

theorem onLinkKeyNotification_touchesOnlyOnRefusal (securityProperties : LinkKeyType → SecurityProperties)
    (linkKey : BitVec 128) (keyType : LinkKeyType) (encryptionStarted : Bool) :
    TouchesOnlyOnRefusal (onLinkKeyNotification securityProperties st linkKey keyType encryptionStarted) := by
  unfold onLinkKeyNotification
  refine touchesOnlyOnRefusal_zxAssert ?_
  have failed : ∀ st' : PairingState, accessesAfterSignal (.setState .failed ::
      signalStatus st' (.hostError .insufficientSecurity)) = [] := fun st' => by
    simpa [Action.signals] using accessesAfterSignal_signalStatus _ _ []
  by_cases rekey : st.state = .idle ∧ keyType = .changedCombination
  · rw [if_pos rekey]
    by_cases keyless : st.linkKey.isNone
    · rw [if_pos keyless]; exact touchesOnlyOnRefusal_ok (failed st)
    · rw [if_neg keyless]; exact touchesOnlyOnRefusal_ok (by simp [Action.signals])
  rw [if_neg rekey]
  by_cases unexpected : st.state ≠ .waitLinkKey
  · rw [if_pos unexpected]; exact touchesOnlyOnRefusal_ok (by simpa using accessesAfterSignal_failWithUnexpectedEvent st [])
  rw [if_neg unexpected]
  refine touchesOnlyOnRefusal_withPairing fun pairing => ?_
  simp only
  by_cases insecure : (securityProperties keyType).level = .noSecurity
  · rw [if_pos insecure]; exact touchesOnlyOnRefusal_ok (by simpa [Action.signals] using failed _)
  rw [if_neg insecure]
  by_cases mismatch : (securityProperties keyType).authenticated ≠ pairing.authenticated
  · rw [if_pos mismatch]; exact touchesOnlyOnRefusal_ok (by simpa [Action.signals] using failed _)
  rw [if_neg mismatch]
  cases pairing.initiator
  · exact @touchesOnlyOnRefusal_enableEncryption [_, _] (by simp [Action.signals]) encryptionStarted
  · exact touchesOnlyOnRefusal_ok (by simp [Action.signals])

theorem onAuthenticationComplete_touchesOnlyOnRefusal (statusCode : StatusCode) (encryptionStarted : Bool) :
    TouchesOnlyOnRefusal (onAuthenticationComplete st statusCode encryptionStarted) := by
  unfold onAuthenticationComplete
  by_cases unexpected : st.state ≠ .initiatorPairingStarted ∧ st.state ≠ .initiatorWaitAuthComplete
  · rw [if_pos unexpected]; exact touchesOnlyOnRefusal_ok (by simpa using accessesAfterSignal_failWithUnexpectedEvent st [])
  rw [if_neg unexpected]
  refine touchesOnlyOnRefusal_withPairing fun pairing => touchesOnlyOnRefusal_zxAssert ?_
  simp only
  by_cases success : (Status.ofStatusCode statusCode).isSuccess
  · rw [if_neg (by simp [success])]
    exact @touchesOnlyOnRefusal_enableEncryption [] (by simp) encryptionStarted
  · rw [if_pos (by simpa using success)]
    exact touchesOnlyOnRefusal_ok (by simpa [Action.signals] using accessesAfterSignal_signalStatus _ _ [])

theorem onEncryptionChange_touchesOnlyOnRefusal (status : Status) (enabled : Bool) :
    TouchesOnlyOnRefusal (onEncryptionChange st status enabled) := by
  unfold onEncryptionChange
  by_cases unexpected : st.state ≠ .waitEncryption
  · rw [if_pos unexpected]; exact touchesOnlyOnRefusal_ok rfl
  rw [if_neg unexpected]
  exact touchesOnlyOnRefusal_ok (by simpa [Action.signals] using accessesAfterSignal_signalStatus _ _ [])

/-- Every call keeps to the source's rule that no member is touched after a status callback,
except one path: `EnableEncryption` with a refused `StartEncryption`, which writes
`state_ = kFailed` after invoking `status_callback_`. -/
theorem step_touchesOnlyOnRefusal (securityProperties : LinkKeyType → SecurityProperties) (event : Event) :
    TouchesOnlyOnRefusal (step securityProperties st event) := by
  cases event with
  | initiatePairing callback => exact initiatePairing_touchesOnlyOnRefusal callback
  | ioCapabilityRequest => exact onIoCapabilityRequest_touchesOnlyOnRefusal
  | ioCapabilityResponse peerIocap => exact onIoCapabilityResponse_touchesOnlyOnRefusal peerIocap
  | userConfirmationRequest numericValue => exact onUserConfirmationRequest_touchesOnlyOnRefusal numericValue
  | userPasskeyRequest => exact onUserPasskeyRequest_touchesOnlyOnRefusal
  | userPasskeyNotification numericValue => exact onUserPasskeyNotification_touchesOnlyOnRefusal numericValue
  | simplePairingComplete statusCode => exact onSimplePairingComplete_touchesOnlyOnRefusal statusCode
  | linkKeyNotification linkKey keyType encryptionStarted =>
    exact onLinkKeyNotification_touchesOnlyOnRefusal securityProperties linkKey keyType encryptionStarted
  | authenticationComplete statusCode encryptionStarted =>
    exact onAuthenticationComplete_touchesOnlyOnRefusal statusCode encryptionStarted
  | encryptionChange status enabled => exact onEncryptionChange_touchesOnlyOnRefusal status enabled
  | confirmCallback callback confirm =>
    cases callback with
    | userConfirmation pairing =>
      rw [step, invokeConfirmCallback]
      by_cases live : st.liveSerial = some pairing
      · rw [if_pos live]; exact touchesOnlyOnRefusal_ok rfl
      · rw [if_neg live]; exact touchesOnlyOnRefusal_ok rfl
    | passkeyNotification => exact touchesOnlyOnRefusal_ok rfl
  | passkeyCallback pairing passkey =>
    rw [step, invokePasskeyCallback]
    by_cases live : st.liveSerial = some pairing
    · rw [if_pos live]; exact touchesOnlyOnRefusal_ok rfl
    · rw [if_neg live]; exact touchesOnlyOnRefusal_ok rfl
  | pairingDelegateChanged => exact touchesOnlyOnRefusal_ok rfl

/-- After a successful `OnAuthenticationComplete` the link refuses `StartEncryption`:
`EnableEncryption` invokes `status_callback_` and then writes `state_ = kFailed` on an object
the callback may have destroyed. The state is reached by one `InitiatePairing`, and every call
in every state keeps to the rule but for that write. -/
theorem state_written_after_status_callback :
    Reachable (fun _ => ⟨.encrypted, false⟩)
        ⟨.initiatorPairingStarted, some (Pairing.makeInitiator 0 0), some .displayYesNo, none, 1⟩ ∧
      step (fun _ => ⟨.encrypted, false⟩)
          ⟨.initiatorPairingStarted, some (Pairing.makeInitiator 0 0), some .displayYesNo, none, 1⟩
          (.authenticationComplete 0 false) =
        .ok [.call .startEncryption, .call (.statusCallback (.hostError .failed)), .setState .failed] ∧
      accessesAfterSignal [.call .startEncryption, .call (.statusCallback (.hostError .failed)), .setState .failed] =
        [.setState .failed] ∧
      ∀ (securityProperties : LinkKeyType → SecurityProperties) (st : PairingState) (event : Event),
        TouchesOnlyOnRefusal (step securityProperties st event) :=
  ⟨⟨_, _, _, execute_sound (rfl : execute (fun _ => ⟨.encrypted, false⟩)
    (PairingState.create (some .displayYesNo) none) [.initiatePairing 0] = _)⟩, rfl, rfl,
    fun securityProperties _ event => step_touchesOnlyOnRefusal securityProperties event⟩

end ZirconRpi.Gap.Order
