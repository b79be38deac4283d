import ZirconRpi.Gap.Decision

/-! The BR/EDR pairing machine of `gap/pairing_state.cc`. A `PairingState` owns at most one
`Pairing`; each handler below is one entry point of the source and returns the next state
with everything the call did outside the object, in order: the status callbacks, the
delegate requests, the writes to the link and the replies to the controller. A failed
`ZX_ASSERT` (or a null dereference) ends the run as a `Fault`. -/

namespace ZirconRpi.Gap.Machine
open ZirconRpi.Gap.Decision

/-- `hci::LinkKeyType`. -/
inductive LinkKeyType where
  | combination
  | localUnit
  | remoteUnit
  | debugCombination
  | unauthenticatedCombination192
  | authenticatedCombination192
  | changedCombination
  | unauthenticatedCombination256
  | authenticatedCombination256
  deriving DecidableEq, Repr

/-- `sm::SecurityLevel`. -/
inductive SecurityLevel where
  | noSecurity
  | encrypted
  | authenticated
  | secureAuthenticated
  deriving DecidableEq, Repr

/-- `sm::SecurityProperties`, as far as this file reads it. The map from a link key type to
its properties lives in sm/ (not under src/); every handler takes it as a parameter. -/
structure SecurityProperties where
  level : SecurityLevel
  authenticated : Bool
  deriving DecidableEq, Repr

/-- The `HostError` values this file signals. -/
inductive HostError where
  | notReady
  | canceled
  | notSupported
  | failed
  | insufficientSecurity
  deriving DecidableEq, Repr

abbrev StatusCode := UInt8

/-- `hci::Status` and `sm::Status`: success, a host error, or an error code of the controller. -/
inductive Status where
  | success
  | hostError (error : HostError)
  | protocolError (code : StatusCode)
  deriving DecidableEq, Repr

/-- `hci::Status(hci::StatusCode)`: code 0 is `kSuccess`. -/
def Status.ofStatusCode (code : StatusCode) : Status :=
  if code = 0 then .success else .protocolError code

/-- `is_success()`, which is also a status's `operator bool`. -/
def Status.isSuccess : Status → Bool
  | .success => true
  | _ => false

/-- `hci::LinkKey`: the 128-bit key with its `rand` and `ediv` fields. -/
structure LinkKey where
  value : BitVec 128
  rand : UInt64
  ediv : UInt16
  deriving DecidableEq, Repr

inductive DisplayMethod where
  | comparison
  | peerEntry
  deriving DecidableEq, Repr

inductive InitiatorAction where
  | sendAuthenticationRequest
  | doNotSendAuthenticationRequest
  deriving DecidableEq, Repr

/-- `PairingState::State`. -/
inductive State where
  | idle
  | initiatorPairingStarted
  | initiatorWaitIoCapResponse
  | responderWaitIoCapRequest
  | waitUserConfirmationRequest
  | waitUserPasskeyRequest
  | waitUserPasskeyNotification
  | waitPairingComplete
  | waitLinkKey
  | initiatorWaitAuthComplete
  | waitEncryption
  | failed
  deriving DecidableEq, Repr

def getStateForPairingEvent (eventCode : EventCode) : State :=
  if eventCode = kUserConfirmationRequestEventCode then .waitUserConfirmationRequest
  else if eventCode = kUserPasskeyRequestEventCode then .waitUserPasskeyRequest
  else if eventCode = kUserPasskeyNotificationEventCode then .waitUserPasskeyNotification
  else .failed

/-- A `StatusCallback` handed to `InitiatePairing`, by identity. -/
abbrev CallbackId := Nat

/-- `PairingState::Pairing`. `serial` is the object's identity, what `GetWeakPtr()` points to. -/
structure Pairing where
  serial : Nat
  initiator : Bool
  localIocap : IOCapability
  peerIocap : IOCapability
  initiatorCallbacks : List CallbackId
  action : PairingAction
  expectedEvent : EventCode
  authenticated : Bool
  securityProperties : SecurityProperties
  deriving DecidableEq, Repr

/-- A new `Pairing`. The source leaves the capabilities and the decisions uninitialised;
they start here at their first value, and no path reads them before writing them. -/
def Pairing.blank (serial : Nat) (initiator : Bool) : Pairing where
  serial := serial
  initiator := initiator
  localIocap := default
  peerIocap := default
  initiatorCallbacks := []
  action := default
  expectedEvent := 0
  authenticated := false
  securityProperties := ⟨.noSecurity, false⟩

def Pairing.makeInitiator (serial : Nat) (statusCallback : CallbackId) : Pairing :=
  { Pairing.blank serial true with initiatorCallbacks := [statusCallback] }

def Pairing.makeResponder (serial : Nat) (peerIocap : IOCapability) : Pairing :=
  { Pairing.blank serial false with peerIocap := peerIocap }

inductive Fault where
  | assertion (condition : String)
  | nullPairingDelegate
  deriving DecidableEq, Repr

def Pairing.computePairingData (pairing : Pairing) : Except Fault Pairing :=
  let expectedEvent := getExpectedEvent pairing.localIocap pairing.peerIocap
  if getStateForPairingEvent expectedEvent = .failed then
    .error (.assertion "GetStateForPairingEvent(expected_event) != State::kFailed")
  else .ok { pairing with
    action := negotiatedAction pairing.initiator pairing.localIocap pairing.peerIocap
    expectedEvent := expectedEvent
    authenticated := isPairingAuthenticated pairing.localIocap pairing.peerIocap }

/-- `PairingState`. The pairing delegate is held through a weak pointer and may come and go;
it is modelled by the IO capability it reports (after `IOCapabilityForHci`). `linkKey` is
the key the link holds, `link_->ltk()`, and `nextSerial` the identity of the next Pairing. -/
structure PairingState where
  state : State
  currentPairing : Option Pairing
  pairingDelegate : Option IOCapability
  linkKey : Option (LinkKey × LinkKeyType)
  nextSerial : Nat
  deriving DecidableEq, Repr

/-- The constructor: idle, with no Pairing, on a link that may already hold a key. -/
def PairingState.create (pairingDelegate : Option IOCapability)
    (linkKey : Option (LinkKey × LinkKeyType)) : PairingState :=
  ⟨.idle, none, pairingDelegate, linkKey, 0⟩

def PairingState.isPairing (st : PairingState) : Bool := st.currentPairing.isSome

/-- The identity of the live Pairing, which a weak pointer to it checks against. -/
def PairingState.liveSerial (st : PairingState) : Option Nat := st.currentPairing.map (·.serial)

/-- The callbacks handed to the delegate with a prompt, each holding a weak pointer to the
Pairing that issued it: `confirm_cb` of `OnUserConfirmationRequest` and of
`OnUserPasskeyNotification`. -/
inductive ConfirmCallback where
  | userConfirmation (pairing : Nat)
  | passkeyNotification (pairing : Nat)
  deriving DecidableEq, Repr

/-- The Pairing a callback's weak pointer refers to. -/
def ConfirmCallback.pairing : ConfirmCallback → Nat
  | .userConfirmation pairing | .passkeyNotification pairing => pairing

/-- What a call does outside the object, in the order it does it. -/
inductive Effect where
  | statusCallback (status : Status)
  | initiatorCallback (callback : CallbackId) (status : Status)
  | displayPasskey (numericValue : UInt32) (method : DisplayMethod) (callback : ConfirmCallback)
  | confirmPairing (callback : ConfirmCallback)
  | requestPasskey (pairing : Nat)
  | completePairing (status : Status)
  | setBrEdrLinkKey (key : LinkKey) (keyType : LinkKeyType)
  | startEncryption
  | initiatorAction (action : InitiatorAction)
  | ioCapabilityReply (capability : Option IOCapability)
  | userConfirmationReply (confirm : Bool)
  | userPasskeyReply (passkey : Option UInt32)
  deriving DecidableEq, Repr

/-- The calls into a `PairingState`: its entry points, the delegate answering a prompt, and
the owner attaching or dropping the delegate. `encryptionStarted` is what
`link_->StartEncryption()` returns should the handler call it. -/
inductive Event where
  | initiatePairing (callback : CallbackId)
  | ioCapabilityRequest
  | ioCapabilityResponse (peerIocap : IOCapability)
  | userConfirmationRequest (numericValue : UInt32)
  | userPasskeyRequest
  | userPasskeyNotification (numericValue : UInt32)
  | simplePairingComplete (statusCode : StatusCode)
  | linkKeyNotification (linkKey : BitVec 128) (keyType : LinkKeyType) (encryptionStarted : Bool)
  | authenticationComplete (statusCode : StatusCode) (encryptionStarted : Bool)
  | encryptionChange (status : Status) (enabled : Bool)
  | confirmCallback (callback : ConfirmCallback) (confirm : Bool)
  | passkeyCallback (pairing : Nat) (passkey : Int)
  | pairingDelegateChanged (pairingDelegate : Option IOCapability)
  deriving DecidableEq, Repr

abbrev Outcome := Except Fault (PairingState × List Effect)

/-- `ZX_ASSERT(condition)`. -/
def zxAssert (condition : Prop) [Decidable condition] (text : String) (rest : Outcome) : Outcome :=
  if condition then rest else .error (.assertion text)

/-- `ZX_ASSERT(is_pairing())` (or a role assertion on the live Pairing) before using it. -/
def withPairing (st : PairingState) (text : String) (rest : Pairing → Outcome) : Outcome :=
  match st.currentPairing with
  | some pairing => rest pairing
  | none => .error (.assertion text)

def thenEmit (result : PairingState × List Effect) (effects : List Effect) :
    PairingState × List Effect :=
  (result.1, result.2 ++ effects)

def emitThen (effects : List Effect) (result : PairingState × List Effect) :
    PairingState × List Effect :=
  (result.1, effects ++ result.2)

def signalStatus (st : PairingState) (status : Status) : PairingState × List Effect :=
  match st.currentPairing with
  | some pairing => ({ st with currentPairing := none },
      .statusCallback status :: pairing.initiatorCallbacks.map (Effect.initiatorCallback · status))
  | none => (st, [.statusCallback status])

def enableEncryption (st : PairingState) (encryptionStarted : Bool) : PairingState × List Effect :=
  if !encryptionStarted then
    ({ st with state := .failed }, [.startEncryption, .statusCallback (.hostError .failed)])
  else ({ st with state := .waitEncryption }, [.startEncryption])

def failWithUnexpectedEvent (st : PairingState) : PairingState × List Effect :=
  signalStatus { st with state := .failed } (.hostError .notSupported)

def initiatePairing (st : PairingState) (statusCallback : CallbackId) : Outcome :=
  if st.pairingDelegate.isNone then
    .ok (st, [.initiatorCallback statusCallback (.hostError .notReady),
      .initiatorAction .doNotSendAuthenticationRequest])
  else if st.state = .idle then
    zxAssert (st.currentPairing = none) "!is_pairing()" <|
      .ok ({ st with currentPairing := some (Pairing.makeInitiator st.nextSerial statusCallback),
                     nextSerial := st.nextSerial + 1, state := .initiatorPairingStarted },
        [.initiatorAction .sendAuthenticationRequest])
  else match st.currentPairing with
    | some pairing =>
      zxAssert (st.state ≠ .idle) "state() != State::kIdle" <|
        .ok ({ st with currentPairing := some { pairing with
                 initiatorCallbacks := pairing.initiatorCallbacks ++ [statusCallback] } },
          [.initiatorAction .doNotSendAuthenticationRequest])
    | none =>
      zxAssert (st.state = .failed) "state() == State::kFailed" <|
        .ok (st, [.initiatorCallback statusCallback (.hostError .canceled),
          .initiatorAction .doNotSendAuthenticationRequest])

def onIoCapabilityRequest (st : PairingState) : Outcome :=
  if st.state = .initiatorPairingStarted then
    withPairing st "initiator()" fun pairing =>
    zxAssert (pairing.initiator = true) "initiator()" <|
    match st.pairingDelegate with
    | some capability =>
      .ok ({ st with currentPairing := some { pairing with localIocap := capability },
                     state := .initiatorWaitIoCapResponse },
        [.ioCapabilityReply (some capability)])
    | none => .error (.assertion "pairing_delegate()")
  else if st.state = .responderWaitIoCapRequest then
    withPairing st "is_pairing()" fun pairing =>
    zxAssert (pairing.initiator = false) "!initiator()" <|
    match st.pairingDelegate with
    | none => .ok (thenEmit (signalStatus { st with state := .idle } (.hostError .notReady))
        [.ioCapabilityReply none])
    | some capability =>
      match Pairing.computePairingData { pairing with localIocap := capability } with
      | .ok pairing =>
        .ok ({ st with currentPairing := some pairing,
                       state := getStateForPairingEvent pairing.expectedEvent },
          [.ioCapabilityReply (some pairing.localIocap)])
      | .error fault => .error fault
  else .ok (thenEmit (failWithUnexpectedEvent st) [.ioCapabilityReply none])

def onIoCapabilityResponse (st : PairingState) (peerIocap : IOCapability) : Outcome :=
  if st.state = .idle then
    zxAssert (st.currentPairing = none) "!is_pairing()" <|
      .ok ({ st with currentPairing := some (Pairing.makeResponder st.nextSerial peerIocap),
                     nextSerial := st.nextSerial + 1, state := .responderWaitIoCapRequest }, [])
  else if st.state = .initiatorWaitIoCapResponse then
    withPairing st "initiator()" fun pairing =>
    zxAssert (pairing.initiator = true) "initiator()" <|
    match Pairing.computePairingData { pairing with peerIocap := peerIocap } with
    | .ok pairing =>
      .ok ({ st with currentPairing := some pairing,
                     state := getStateForPairingEvent pairing.expectedEvent }, [])
    | .error fault => .error fault
  else .ok (failWithUnexpectedEvent st)

def onUserConfirmationRequest (st : PairingState) (numericValue : UInt32) : Outcome :=
  if st.state ≠ .waitUserConfirmationRequest then
    .ok (thenEmit (failWithUnexpectedEvent st) [.userConfirmationReply false])
  else
    withPairing st "is_pairing()" fun pairing =>
    zxAssert (st.pairingDelegate.isSome) "pairing_delegate()" <|
    let st := { st with state := .waitPairingComplete }
    if pairing.action = .displayPasskey ∨ pairing.action = .comparePasskey then
      .ok (st, [.displayPasskey numericValue .comparison (.userConfirmation pairing.serial)])
    else if pairing.action = .getConsent then
      .ok (st, [.confirmPairing (.userConfirmation pairing.serial)])
    else
      zxAssert (pairing.action = .automatic) "current_pairing_->action == PairingAction::kAutomatic" <|
        .ok (st, [.userConfirmationReply true])

def onUserPasskeyRequest (st : PairingState) : Outcome :=
  if st.state ≠ .waitUserPasskeyRequest then
    .ok (thenEmit (failWithUnexpectedEvent st) [.userPasskeyReply none])
  else
    withPairing st "is_pairing()" fun pairing =>
    zxAssert (st.pairingDelegate.isSome) "pairing_delegate()" <|
    zxAssert (pairing.action = .requestPasskey)
      "current_pairing_->action == PairingAction::kRequestPasskey" <|
      .ok ({ st with state := .waitPairingComplete }, [.requestPasskey pairing.serial])

def onUserPasskeyNotification (st : PairingState) (numericValue : UInt32) : Outcome :=
  if st.state ≠ .waitUserPasskeyNotification then .ok (failWithUnexpectedEvent st)
  else
    withPairing st "is_pairing()" fun pairing =>
    zxAssert (st.pairingDelegate.isSome) "pairing_delegate()" <|
      .ok ({ st with state := .waitPairingComplete },
        [.displayPasskey numericValue .peerEntry (.passkeyNotification pairing.serial)])

def onSimplePairingComplete (st : PairingState) (statusCode : StatusCode) : Outcome :=
  if st.state ≠ .waitPairingComplete then .ok (failWithUnexpectedEvent st)
  else
    zxAssert (st.currentPairing.isSome) "is_pairing()" <|
    let status := Status.ofStatusCode statusCode
    if !status.isSuccess then
      let completion := if st.pairingDelegate.isSome then [Effect.completePairing (.hostError .failed)] else []
      .ok (emitThen completion (signalStatus { st with state := .failed } status))
    else match st.pairingDelegate with
      | some _ => .ok ({ st with state := .waitLinkKey }, [.completePairing .success])
      | none => .error .nullPairingDelegate

def onLinkKeyNotification (securityProperties : LinkKeyType → SecurityProperties)
    (st : PairingState) (linkKey : BitVec 128) (keyType : LinkKeyType) (encryptionStarted : Bool) :
    Outcome :=
  zxAssert (keyType ≠ .debugCombination) "key_type != hci::LinkKeyType::kDebugCombination" <|
  if st.state = .idle ∧ keyType = .changedCombination then
    if st.linkKey.isNone then
      .ok (signalStatus { st with state := .failed } (.hostError .insufficientSecurity))
    else
      .ok ({ st with linkKey := some (⟨linkKey, 0, 0⟩, keyType) },
        [.setBrEdrLinkKey ⟨linkKey, 0, 0⟩ keyType])
  else if st.state ≠ .waitLinkKey then .ok (failWithUnexpectedEvent st)
  else
    withPairing st "is_pairing()" fun pairing =>
    let secProps := securityProperties keyType
    let st := { st with currentPairing := some { pairing with securityProperties := secProps } }
    if secProps.level = .noSecurity then
      .ok (signalStatus { st with state := .failed } (.hostError .insufficientSecurity))
    else if secProps.authenticated ≠ pairing.authenticated then
      .ok (signalStatus { st with state := .failed } (.hostError .insufficientSecurity))
    else
      let st := { st with linkKey := some (⟨linkKey, 0, 0⟩, keyType) }
      if pairing.initiator then
        .ok ({ st with state := .initiatorWaitAuthComplete },
          [.setBrEdrLinkKey ⟨linkKey, 0, 0⟩ keyType])
      else .ok (emitThen [.setBrEdrLinkKey ⟨linkKey, 0, 0⟩ keyType] (enableEncryption st encryptionStarted))

def onAuthenticationComplete (st : PairingState) (statusCode : StatusCode)
    (encryptionStarted : Bool) : Outcome :=
  if st.state ≠ .initiatorPairingStarted ∧ st.state ≠ .initiatorWaitAuthComplete then
    .ok (failWithUnexpectedEvent st)
  else
    withPairing st "initiator()" fun pairing =>
    zxAssert (pairing.initiator = true) "initiator()" <|
    let status := Status.ofStatusCode statusCode
    if !status.isSuccess then .ok (signalStatus { st with state := .failed } status)
    else .ok (enableEncryption st encryptionStarted)

def onEncryptionChange (st : PairingState) (status : Status) (enabled : Bool) : Outcome :=
  if st.state ≠ .waitEncryption then .ok (st, [])
  else
    let status := if status.isSuccess && !enabled then Status.hostError .failed else status
    .ok (signalStatus { st with state := if status.isSuccess then .idle else .failed } status)

/-- The delegate answering a confirmation prompt: forwarded to the controller only while
the Pairing that asked is alive. -/
def invokeConfirmCallback (st : PairingState) (callback : ConfirmCallback) (confirm : Bool) :
    Outcome :=
  match callback with
  | .userConfirmation pairing =>
    if st.liveSerial = some pairing then .ok (st, [.userConfirmationReply confirm]) else .ok (st, [])
  | .passkeyNotification _ => .ok (st, [])

/-- The delegate answering a passkey prompt; a negative passkey means no value. -/
def invokePasskeyCallback (st : PairingState) (pairing : Nat) (passkey : Int) : Outcome :=
  if st.liveSerial = some pairing then
    .ok (st, [.userPasskeyReply (if 0 ≤ passkey then some (UInt32.ofNat passkey.toNat) else none)])
  else .ok (st, [])

def step (securityProperties : LinkKeyType → SecurityProperties) (st : PairingState) :
    Event → Outcome
  | .initiatePairing callback => initiatePairing st callback
  | .ioCapabilityRequest => onIoCapabilityRequest st
  | .ioCapabilityResponse peerIocap => onIoCapabilityResponse st peerIocap
  | .userConfirmationRequest numericValue => onUserConfirmationRequest st numericValue
  | .userPasskeyRequest => onUserPasskeyRequest st
  | .userPasskeyNotification numericValue => onUserPasskeyNotification st numericValue
  | .simplePairingComplete statusCode => onSimplePairingComplete st statusCode
  | .linkKeyNotification linkKey keyType encryptionStarted =>
    onLinkKeyNotification securityProperties st linkKey keyType encryptionStarted
  | .authenticationComplete statusCode encryptionStarted =>
    onAuthenticationComplete st statusCode encryptionStarted
  | .encryptionChange status enabled => onEncryptionChange st status enabled
  | .confirmCallback callback confirm => invokeConfirmCallback st callback confirm
  | .passkeyCallback pairing passkey => invokePasskeyCallback st pairing passkey
  | .pairingDelegateChanged pairingDelegate => .ok ({ st with pairingDelegate := pairingDelegate }, [])

end ZirconRpi.Gap.Machine
