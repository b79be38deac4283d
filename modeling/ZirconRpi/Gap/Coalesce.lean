import ZirconRpi.Gap.Signal
/-! Coalesced callers do not perturb the negotiation: forget the callbacks of the callers queued
on a negotiation under way (`dropCallers`), and a run with extra `InitiatePairing` calls is the
run without them, each inserted call stuttering. -/

namespace ZirconRpi.Gap.Coalesce
open ZirconRpi.Gap.Decision ZirconRpi.Gap.Machine ZirconRpi.Gap.Table ZirconRpi.Gap.Trace ZirconRpi.Gap.Signal

/-- A Pairing with the callers in `inserted` taken out of its queue. -/
def Pairing.dropCallers (inserted : List CallbackId) (pairing : Pairing) : Pairing :=
  { pairing with initiatorCallbacks := pairing.initiatorCallbacks.filter (· ∉ inserted) }

/-- A state with the callers in `inserted` taken out of the live Pairing's queue. -/
def PairingState.dropCallers (inserted : List CallbackId) (st : PairingState) : PairingState :=
  { st with currentPairing := st.currentPairing.map (Pairing.dropCallers inserted) }

/-- Every effect but the invocation of an inserted caller. -/
def keepsCallback (inserted : List CallbackId) : Effect → Bool
  | .initiatorCallback callback _ => callback ∉ inserted
  | .statusCallback _ | .displayPasskey .. | .confirmPairing _ | .requestPasskey _ | .completePairing _
  | .setBrEdrLinkKey .. | .startEncryption | .initiatorAction _ | .ioCapabilityReply _
  | .userConfirmationReply _ | .userPasskeyReply _ => true

def dropCallbacks (inserted : List CallbackId) (effects : List Effect) : List Effect :=
  effects.filter (keepsCallback inserted)

def dropResult (inserted : List CallbackId) (result : PairingState × List Effect) : PairingState × List Effect :=
  (PairingState.dropCallers inserted result.1, dropCallbacks inserted result.2)

/-! ## Every handler commutes with the projection -/

variable {inserted : List CallbackId} {st : PairingState} {pairing : Pairing}

@[simp] theorem Pairing.dropCallers_mk {serial : Nat} {initiator : Bool} {localIocap peerIocap : IOCapability}
    {callbacks : List CallbackId} {action : PairingAction} {expectedEvent : EventCode} {authenticated : Bool}
    {securityProperties : SecurityProperties} :
    Pairing.dropCallers inserted ⟨serial, initiator, localIocap, peerIocap, callbacks, action, expectedEvent,
      authenticated, securityProperties⟩ =
    ⟨serial, initiator, localIocap, peerIocap, callbacks.filter (· ∉ inserted), action, expectedEvent, authenticated,
      securityProperties⟩ := rfl

@[simp] theorem Pairing.dropCallers_serial : (Pairing.dropCallers inserted pairing).serial = pairing.serial := rfl
@[simp] theorem Pairing.dropCallers_initiator :
    (Pairing.dropCallers inserted pairing).initiator = pairing.initiator := rfl
@[simp] theorem Pairing.dropCallers_localIocap :
    (Pairing.dropCallers inserted pairing).localIocap = pairing.localIocap := rfl
@[simp] theorem Pairing.dropCallers_peerIocap :
    (Pairing.dropCallers inserted pairing).peerIocap = pairing.peerIocap := rfl
@[simp] theorem Pairing.dropCallers_initiatorCallbacks :
    (Pairing.dropCallers inserted pairing).initiatorCallbacks = pairing.initiatorCallbacks.filter (· ∉ inserted) := rfl
@[simp] theorem Pairing.dropCallers_action : (Pairing.dropCallers inserted pairing).action = pairing.action := rfl
@[simp] theorem Pairing.dropCallers_expectedEvent :
    (Pairing.dropCallers inserted pairing).expectedEvent = pairing.expectedEvent := rfl
@[simp] theorem Pairing.dropCallers_authenticated :
    (Pairing.dropCallers inserted pairing).authenticated = pairing.authenticated := rfl
@[simp] theorem Pairing.dropCallers_securityProperties :
    (Pairing.dropCallers inserted pairing).securityProperties = pairing.securityProperties := rfl

@[simp] theorem PairingState.dropCallers_mk {state : State} {current : Option Pairing}
    {pairingDelegate : Option IOCapability} {linkKey : Option (LinkKey × LinkKeyType)} {nextSerial : Nat} :
    PairingState.dropCallers inserted ⟨state, current, pairingDelegate, linkKey, nextSerial⟩ =
      ⟨state, current.map (Pairing.dropCallers inserted), pairingDelegate, linkKey, nextSerial⟩ := rfl

@[simp] theorem PairingState.dropCallers_state : (PairingState.dropCallers inserted st).state = st.state := rfl
@[simp] theorem PairingState.dropCallers_currentPairing :
    (PairingState.dropCallers inserted st).currentPairing = st.currentPairing.map (Pairing.dropCallers inserted) := rfl
@[simp] theorem PairingState.dropCallers_pairingDelegate :
    (PairingState.dropCallers inserted st).pairingDelegate = st.pairingDelegate := rfl
@[simp] theorem PairingState.dropCallers_linkKey : (PairingState.dropCallers inserted st).linkKey = st.linkKey := rfl
@[simp] theorem PairingState.dropCallers_nextSerial :
    (PairingState.dropCallers inserted st).nextSerial = st.nextSerial := rfl

@[simp] theorem dropCallbacks_nil : dropCallbacks inserted [] = [] := rfl
@[simp] theorem dropCallbacks_cons {effect : Effect} {effects : List Effect} :
    dropCallbacks inserted (effect :: effects) =
      if keepsCallback inserted effect then effect :: dropCallbacks inserted effects else dropCallbacks inserted effects :=
  List.filter_cons
@[simp] theorem dropCallbacks_append {first second : List Effect} :
    dropCallbacks inserted (first ++ second) = dropCallbacks inserted first ++ dropCallbacks inserted second :=
  List.filter_append _ _
@[simp] theorem dropCallbacks_signalEffects {callbacks : List CallbackId} {status : Status} :
    dropCallbacks inserted (signalEffects callbacks status) =
      signalEffects (callbacks.filter (· ∉ inserted)) status := by
  induction callbacks with
  | nil => rfl
  | cons callback callbacks ih =>
    simp only [signalEffects, dropCallbacks_cons, keepsCallback, if_true, List.map_cons,
      List.filter_cons] at ih ⊢
    split <;> simp_all

@[simp] theorem map_ok {result : PairingState × List Effect} {f : PairingState × List Effect → PairingState × List Effect} :
    (Except.ok result : Outcome).map f = .ok (f result) := rfl
@[simp] theorem map_error {fault : Fault} {f : PairingState × List Effect → PairingState × List Effect} :
    (Except.error fault : Outcome).map f = .error fault := rfl
@[simp] theorem dropResult_fst {result : PairingState × List Effect} :
    (dropResult inserted result).1 = PairingState.dropCallers inserted result.1 := rfl
@[simp] theorem dropResult_snd {result : PairingState × List Effect} :
    (dropResult inserted result).2 = dropCallbacks inserted result.2 := rfl
@[simp] theorem dropResult_pair {st : PairingState} {effects : List Effect} :
    dropResult inserted (st, effects) = (PairingState.dropCallers inserted st, dropCallbacks inserted effects) := rfl

theorem failWithUnexpectedEvent_dropCallers :
    failWithUnexpectedEvent (PairingState.dropCallers inserted st) = dropResult inserted (failWithUnexpectedEvent st) := by
  cases live : st.currentPairing <;> simp [failWithUnexpectedEvent_eq, queue, live]

theorem onUserConfirmationRequest_dropCallers (numericValue : UInt32) :
    onUserConfirmationRequest (PairingState.dropCallers inserted st) numericValue =
      (onUserConfirmationRequest st numericValue).map (dropResult inserted) := by
  rw [onUserConfirmationRequest, onUserConfirmationRequest, PairingState.dropCallers_state]
  by_cases unexpected : st.state ≠ .waitUserConfirmationRequest
  · rw [if_pos unexpected, if_pos unexpected, map_ok, thenEmit, thenEmit, failWithUnexpectedEvent_dropCallers]
    simp [keepsCallback]
  rw [if_neg unexpected, if_neg unexpected, withPairing, withPairing, PairingState.dropCallers_currentPairing]
  cases st.currentPairing with
  | none => rfl
  | some pairing =>
  simp only [Option.map_some', zxAssert, PairingState.dropCallers_pairingDelegate, Pairing.dropCallers_action,
    Pairing.dropCallers_serial]
  by_cases attached : st.pairingDelegate.isSome = true
  · rw [if_pos attached, if_pos attached]
    by_cases compare : pairing.action = .displayPasskey ∨ pairing.action = .comparePasskey
    · rw [if_pos compare, if_pos compare]; simp [keepsCallback]
    rw [if_neg compare, if_neg compare]
    by_cases consent : pairing.action = .getConsent
    · rw [if_pos consent, if_pos consent]; simp [keepsCallback]
    rw [if_neg consent, if_neg consent]
    by_cases automatic : pairing.action = .automatic
    · rw [if_pos automatic, if_pos automatic]; simp [keepsCallback]
    · rw [if_neg automatic, if_neg automatic]; rfl
  · rw [if_neg attached, if_neg attached]; rfl

theorem onIoCapabilityRequest_dropCallers :
    onIoCapabilityRequest (PairingState.dropCallers inserted st) =
      (onIoCapabilityRequest st).map (dropResult inserted) := by
  rw [onIoCapabilityRequest, onIoCapabilityRequest, PairingState.dropCallers_state]
  by_cases started : st.state = .initiatorPairingStarted
  · rw [if_pos started, if_pos started, withPairing, withPairing, PairingState.dropCallers_currentPairing]
    cases st.currentPairing with
    | none => rfl
    | some pairing =>
    simp only [Option.map_some', zxAssert, Pairing.dropCallers_initiator, PairingState.dropCallers_pairingDelegate]
    by_cases isInitiator : pairing.initiator = true
    · rw [if_pos isInitiator, if_pos isInitiator]
      cases st.pairingDelegate with
      | none => rfl
      | some capability => simp [keepsCallback]
    · rw [if_neg isInitiator, if_neg isInitiator]; rfl
  rw [if_neg started, if_neg started]
  by_cases waiting : st.state = .responderWaitIoCapRequest
  · rw [if_pos waiting, if_pos waiting, withPairing, withPairing, PairingState.dropCallers_currentPairing]
    cases st.currentPairing with
    | none => rfl
    | some pairing =>
    simp only [Option.map_some', zxAssert, Pairing.dropCallers_initiator, PairingState.dropCallers_pairingDelegate]
    by_cases isResponder : pairing.initiator = false
    · rw [if_pos isResponder, if_pos isResponder]
      cases st.pairingDelegate with
      | none => simp [thenEmit, signalStatus_eq, queue, keepsCallback]
      | some capability => simp [computePairingData_eq, keepsCallback, Pairing.withPairingData]
    · rw [if_neg isResponder, if_neg isResponder]; rfl
  rw [if_neg waiting, if_neg waiting, map_ok, thenEmit, thenEmit, failWithUnexpectedEvent_dropCallers]
  simp [keepsCallback]

theorem onIoCapabilityResponse_dropCallers (peerIocap : IOCapability) :
    onIoCapabilityResponse (PairingState.dropCallers inserted st) peerIocap =
      (onIoCapabilityResponse st peerIocap).map (dropResult inserted) := by
  rw [onIoCapabilityResponse, onIoCapabilityResponse, PairingState.dropCallers_state]
  by_cases idle : st.state = .idle
  · rw [if_pos idle, if_pos idle, zxAssert, zxAssert, PairingState.dropCallers_currentPairing]
    cases st.currentPairing with
    | none => simp [Pairing.makeResponder, Pairing.blank]
    | some pairing => rfl
  rw [if_neg idle, if_neg idle]
  by_cases waiting : st.state = .initiatorWaitIoCapResponse
  · rw [if_pos waiting, if_pos waiting, withPairing, withPairing, PairingState.dropCallers_currentPairing]
    cases st.currentPairing with
    | none => rfl
    | some pairing =>
    simp only [Option.map_some', zxAssert, Pairing.dropCallers_initiator]
    by_cases isInitiator : pairing.initiator = true
    · rw [if_pos isInitiator, if_pos isInitiator]
      simp [computePairingData_eq, Pairing.withPairingData]
    · rw [if_neg isInitiator, if_neg isInitiator]; rfl
  rw [if_neg waiting, if_neg waiting, map_ok, failWithUnexpectedEvent_dropCallers]

theorem onUserPasskeyRequest_dropCallers :
    onUserPasskeyRequest (PairingState.dropCallers inserted st) =
      (onUserPasskeyRequest st).map (dropResult inserted) := by
  rw [onUserPasskeyRequest, onUserPasskeyRequest, PairingState.dropCallers_state]
  by_cases unexpected : st.state ≠ .waitUserPasskeyRequest
  · rw [if_pos unexpected, if_pos unexpected, map_ok, thenEmit, thenEmit, failWithUnexpectedEvent_dropCallers]
    simp [keepsCallback]
  rw [if_neg unexpected, if_neg unexpected, withPairing, withPairing, PairingState.dropCallers_currentPairing]
  cases st.currentPairing with
  | none => rfl
  | some pairing =>
  simp only [Option.map_some', zxAssert, PairingState.dropCallers_pairingDelegate, Pairing.dropCallers_action,
    Pairing.dropCallers_serial]
  by_cases attached : st.pairingDelegate.isSome = true
  · rw [if_pos attached, if_pos attached]
    by_cases passkey : pairing.action = .requestPasskey
    · rw [if_pos passkey, if_pos passkey]; simp [keepsCallback]
    · rw [if_neg passkey, if_neg passkey]; rfl
  · rw [if_neg attached, if_neg attached]; rfl

theorem onUserPasskeyNotification_dropCallers (numericValue : UInt32) :
    onUserPasskeyNotification (PairingState.dropCallers inserted st) numericValue =
      (onUserPasskeyNotification st numericValue).map (dropResult inserted) := by
  rw [onUserPasskeyNotification, onUserPasskeyNotification, PairingState.dropCallers_state]
  by_cases unexpected : st.state ≠ .waitUserPasskeyNotification
  · rw [if_pos unexpected, if_pos unexpected, map_ok, failWithUnexpectedEvent_dropCallers]
  rw [if_neg unexpected, if_neg unexpected, withPairing, withPairing, PairingState.dropCallers_currentPairing]
  cases st.currentPairing with
  | none => rfl
  | some pairing =>
  simp only [Option.map_some', zxAssert, PairingState.dropCallers_pairingDelegate, Pairing.dropCallers_serial]
  by_cases attached : st.pairingDelegate.isSome = true
  · rw [if_pos attached, if_pos attached]; simp [keepsCallback]
  · rw [if_neg attached, if_neg attached]; rfl

theorem onSimplePairingComplete_dropCallers (statusCode : StatusCode) :
    onSimplePairingComplete (PairingState.dropCallers inserted st) statusCode =
      (onSimplePairingComplete st statusCode).map (dropResult inserted) := by
  obtain ⟨state, currentPairing, pairingDelegate, linkKey, nextSerial⟩ := st
  rw [onSimplePairingComplete, onSimplePairingComplete, PairingState.dropCallers_state]
  by_cases unexpected : state ≠ .waitPairingComplete
  · rw [if_pos unexpected, if_pos unexpected, map_ok, failWithUnexpectedEvent_dropCallers]
  rw [if_neg unexpected, if_neg unexpected, zxAssert, zxAssert, PairingState.dropCallers_currentPairing]
  cases currentPairing with
  | none => rfl
  | some pairing =>
  cases pairingDelegate <;> cases success : (Status.ofStatusCode statusCode).isSuccess <;>
    simp [success, emitThen, signalStatus_eq, queue, keepsCallback]

theorem signalStatus_dropCallers {status : Status} :
    signalStatus (PairingState.dropCallers inserted st) status = dropResult inserted (signalStatus st status) := by
  cases live : st.currentPairing <;> simp [signalStatus_eq, queue, live]

theorem onLinkKeyNotification_dropCallers (securityProperties : LinkKeyType → SecurityProperties)
    (linkKey : BitVec 128) (keyType : LinkKeyType) (encryptionStarted : Bool) :
    onLinkKeyNotification securityProperties (PairingState.dropCallers inserted st) linkKey keyType encryptionStarted =
      (onLinkKeyNotification securityProperties st linkKey keyType encryptionStarted).map (dropResult inserted) := by
  obtain ⟨state, currentPairing, pairingDelegate, storedKey, nextSerial⟩ := st
  rw [onLinkKeyNotification, onLinkKeyNotification, zxAssert, zxAssert]
  by_cases debug : keyType ≠ .debugCombination
  · rw [if_pos debug, if_pos debug, PairingState.dropCallers_state]
    by_cases rekey : state = .idle ∧ keyType = .changedCombination
    · rw [if_pos rekey, if_pos rekey]
      cases storedKey <;> cases currentPairing <;> simp [signalStatus_eq, queue, keepsCallback]
    rw [if_neg rekey, if_neg rekey]
    by_cases unexpected : state ≠ .waitLinkKey
    · rw [if_pos unexpected, if_pos unexpected, map_ok, failWithUnexpectedEvent_dropCallers]
    rw [if_neg unexpected, if_neg unexpected]
    cases currentPairing with
    | none => rfl
    | some pairing =>
    simp only [withPairing, PairingState.dropCallers_mk, Option.map_some', Pairing.dropCallers_authenticated,
      Pairing.dropCallers_initiator]
    by_cases insecure : (securityProperties keyType).level = .noSecurity
    · rw [if_pos insecure, if_pos insecure]; simp [signalStatus_eq, queue]
    rw [if_neg insecure, if_neg insecure]
    by_cases mismatch : (securityProperties keyType).authenticated ≠ pairing.authenticated
    · rw [if_pos mismatch, if_pos mismatch]; simp [signalStatus_eq, queue]
    rw [if_neg mismatch, if_neg mismatch]
    cases pairing.initiator <;> cases encryptionStarted <;> simp [enableEncryption, emitThen, keepsCallback]
  · rw [if_neg debug, if_neg debug]; rfl

theorem onAuthenticationComplete_dropCallers (statusCode : StatusCode) (encryptionStarted : Bool) :
    onAuthenticationComplete (PairingState.dropCallers inserted st) statusCode encryptionStarted =
      (onAuthenticationComplete st statusCode encryptionStarted).map (dropResult inserted) := by
  obtain ⟨state, currentPairing, pairingDelegate, linkKey, nextSerial⟩ := st
  rw [onAuthenticationComplete, onAuthenticationComplete, PairingState.dropCallers_state]
  by_cases unexpected : state ≠ .initiatorPairingStarted ∧ state ≠ .initiatorWaitAuthComplete
  · rw [if_pos unexpected, if_pos unexpected, map_ok, failWithUnexpectedEvent_dropCallers]
  rw [if_neg unexpected, if_neg unexpected]
  cases currentPairing with
  | none => rfl
  | some pairing =>
  simp only [withPairing, zxAssert, PairingState.dropCallers_mk, Option.map_some', Pairing.dropCallers_initiator]
  by_cases isInitiator : pairing.initiator = true
  · rw [if_pos isInitiator, if_pos isInitiator]
    cases success : (Status.ofStatusCode statusCode).isSuccess <;> cases encryptionStarted <;>
      simp [success, signalStatus_eq, queue, enableEncryption, keepsCallback]
  · rw [if_neg isInitiator, if_neg isInitiator]; rfl

theorem onEncryptionChange_dropCallers (status : Status) (enabled : Bool) :
    onEncryptionChange (PairingState.dropCallers inserted st) status enabled =
      (onEncryptionChange st status enabled).map (dropResult inserted) := by
  rw [onEncryptionChange, onEncryptionChange, PairingState.dropCallers_state]
  by_cases unexpected : st.state ≠ .waitEncryption
  · rw [if_pos unexpected, if_pos unexpected]; rfl
  rw [if_neg unexpected, if_neg unexpected, map_ok, ← signalStatus_dropCallers]
  rfl

@[simp] theorem PairingState.dropCallers_liveSerial :
    (PairingState.dropCallers inserted st).liveSerial = st.liveSerial := by
  cases live : st.currentPairing <;> simp [PairingState.liveSerial, live]

theorem invokeConfirmCallback_dropCallers (callback : ConfirmCallback) (confirm : Bool) :
    invokeConfirmCallback (PairingState.dropCallers inserted st) callback confirm =
      (invokeConfirmCallback st callback confirm).map (dropResult inserted) := by
  cases callback with
  | userConfirmation pairing =>
    by_cases live : st.liveSerial = some pairing <;> simp [invokeConfirmCallback, live, keepsCallback]
  | passkeyNotification => rfl

theorem invokePasskeyCallback_dropCallers (pairing : Nat) (passkey : Int) :
    invokePasskeyCallback (PairingState.dropCallers inserted st) pairing passkey =
      (invokePasskeyCallback st pairing passkey).map (dropResult inserted) := by
  by_cases live : st.liveSerial = some pairing <;> simp [invokePasskeyCallback, live, keepsCallback]

/-- `InitiatePairing` by a caller that is not forgotten commutes with the projection too. -/
theorem initiatePairing_dropCallers {callback : CallbackId} (kept : callback ∉ inserted) :
    initiatePairing (PairingState.dropCallers inserted st) callback =
      (initiatePairing st callback).map (dropResult inserted) := by
  obtain ⟨state, currentPairing, pairingDelegate, linkKey, nextSerial⟩ := st
  rw [initiatePairing, initiatePairing, PairingState.dropCallers_pairingDelegate, PairingState.dropCallers_state]
  by_cases detached : pairingDelegate.isNone
  · rw [if_pos detached, if_pos detached]; simp [keepsCallback, kept]
  rw [if_neg detached, if_neg detached]
  by_cases idle : state = .idle
  · rw [if_pos idle, if_pos idle]
    cases currentPairing <;> simp [zxAssert, Pairing.makeInitiator, kept, keepsCallback]
  rw [if_neg idle, if_neg idle]
  cases currentPairing with
  | none => simp only [zxAssert, PairingState.dropCallers_mk, Option.map_none']; split <;> simp [keepsCallback, kept]
  | some pairing => simp [zxAssert, idle, kept, keepsCallback]

/-- Every call commutes with forgetting callers it does not hand over. -/
theorem step_dropCallers (securityProperties : LinkKeyType → SecurityProperties) {event : Event}
    (kept : ∀ callback ∈ passedBy event, callback ∉ inserted) :
    step securityProperties (PairingState.dropCallers inserted st) event =
      (step securityProperties st event).map (dropResult inserted) := by
  cases event with
  | initiatePairing callback => exact initiatePairing_dropCallers (kept callback (List.mem_singleton_self _))
  | ioCapabilityRequest => exact onIoCapabilityRequest_dropCallers
  | ioCapabilityResponse peerIocap => exact onIoCapabilityResponse_dropCallers peerIocap
  | userConfirmationRequest numericValue => exact onUserConfirmationRequest_dropCallers numericValue
  | userPasskeyRequest => exact onUserPasskeyRequest_dropCallers
  | userPasskeyNotification numericValue => exact onUserPasskeyNotification_dropCallers numericValue
  | simplePairingComplete statusCode => exact onSimplePairingComplete_dropCallers statusCode
  | linkKeyNotification linkKey keyType encryptionStarted =>
    exact onLinkKeyNotification_dropCallers securityProperties linkKey keyType encryptionStarted
  | authenticationComplete statusCode encryptionStarted =>
    exact onAuthenticationComplete_dropCallers statusCode encryptionStarted
  | encryptionChange status enabled => exact onEncryptionChange_dropCallers status enabled
  | confirmCallback callback confirm => exact invokeConfirmCallback_dropCallers callback confirm
  | passkeyCallback pairing passkey => exact invokePasskeyCallback_dropCallers pairing passkey
  | pairingDelegateChanged => rfl

/-- An inserted call is invisible once its caller is forgotten: where the state is not Idle
or no delegate is attached, `InitiatePairing` only queues or answers its caller and returns
`kDoNotSendAuthenticationRequest`. -/
theorem transition_inserted {securityProperties : LinkKeyType → SecurityProperties} {callback : CallbackId}
    {st' : PairingState} {effects : List Effect}
    (row : Transition securityProperties st (.initiatePairing callback) st' effects) (forgotten : callback ∈ inserted)
    (coalesces : st.state ≠ .idle ∨ st.pairingDelegate = none) :
    PairingState.dropCallers inserted st' = PairingState.dropCallers inserted st ∧
      dropCallbacks inserted effects = [.initiatorAction .doNotSendAuthenticationRequest] := by
  cases row with
  | initiateNotReady | initiateCanceled => simp [keepsCallback, forgotten]
  | initiateStart attached idle => exact (coalesces.elim (· idle) attached).elim
  | initiateQueued _ _ live =>
    simp [PairingState.dropCallers, Pairing.dropCallers, live, forgotten, keepsCallback]
  | unexpected rejected => exact rejected.elim

/-! ## Runs with extra callers -/

/-- `Inserts inserted history history'`: `history'` makes the calls of `history` in order,
with extra `InitiatePairing` calls by the callers in `inserted`, each made where `state_` is
not Idle or no delegate is attached. -/
inductive Inserts (inserted : List CallbackId) : List Record → List Record → Prop
  | nil : Inserts inserted [] []
  | replay {record record' history history'} : record'.event = record.event →
    Inserts inserted history history' → Inserts inserted (record :: history) (record' :: history')
  | insert {record' history history' callback} : record'.event = .initiatePairing callback →
    callback ∈ inserted → record'.pre.state ≠ .idle ∨ record'.pre.pairingDelegate = none →
    Inserts inserted history history' → Inserts inserted history (record' :: history')

/-- `Coalesced inserted history history'`: call for call, `history'` is `history` once the
callers in `inserted` are forgotten; each extra call leaves the forgotten state as it was and
returns only `kDoNotSendAuthenticationRequest` besides answering its own caller. -/
inductive Coalesced (inserted : List CallbackId) : List Record → List Record → Prop
  | nil : Coalesced inserted [] []
  | replay {record record' history history'} : record'.event = record.event →
    PairingState.dropCallers inserted record'.pre = record.pre →
    PairingState.dropCallers inserted record'.post = record.post →
    dropCallbacks inserted record'.effects = record.effects →
    Coalesced inserted history history' → Coalesced inserted (record :: history) (record' :: history')
  | insert {record' history history' callback} : record'.event = .initiatePairing callback →
    callback ∈ inserted →
    PairingState.dropCallers inserted record'.post = PairingState.dropCallers inserted record'.pre →
    dropCallbacks inserted record'.effects = [.initiatorAction .doNotSendAuthenticationRequest] →
    Coalesced inserted history history' → Coalesced inserted history (record' :: history')

@[simp] theorem passed_cons (record : Record) (history : List Record) :
    passed (record :: history) = passedBy record.event ++ passed history := rfl

/-- Coalesced callers do not perturb the negotiation: a run with extra `InitiatePairing`
calls by new callers, made where `state_` is not Idle or no delegate is attached, goes through
the same states, Pairing decisions, link operations, delegate calls, controller replies and
statuses as the run without them, and every extra call returns
`kDoNotSendAuthenticationRequest`. -/
theorem coalesced_callers_do_not_perturb {securityProperties : LinkKeyType → SecurityProperties}
    {start start' final final' : PairingState} {history history' : List Record}
    (run : Run securityProperties start history final) (run' : Run securityProperties start' history' final')
    (same : PairingState.dropCallers inserted start' = start) (inserts : Inserts inserted history history')
    (fresh : ∀ callback ∈ passed history, callback ∉ inserted) :
    Coalesced inserted history history' ∧ PairingState.dropCallers inserted final' = final := by
  induction inserts generalizing start start' with
  | nil => exact ⟨.nil, Run.nil_iff.mp run' ▸ Run.nil_iff.mp run ▸ same⟩
  | @replay record record' history history' called _ ih =>
    simp only [passed_cons, List.mem_append] at fresh
    obtain ⟨first, completes, rest⟩ := Run.cons_iff.mp run
    obtain ⟨first', completes', rest'⟩ := Run.cons_iff.mp run'
    have pre : PairingState.dropCallers inserted record'.pre = record.pre := first' ▸ first ▸ same
    have matched : step securityProperties (PairingState.dropCallers inserted record'.pre) record'.event =
        (step securityProperties record'.pre record'.event).map (dropResult inserted) :=
      step_dropCallers securityProperties fun callback handed => fresh callback (.inl (called ▸ handed))
    rw [called] at completes'
    rw [pre, called, completes, completes', map_ok, dropResult_pair, Except.ok.injEq, Prod.mk.injEq] at matched
    obtain ⟨post, effects⟩ := matched
    obtain ⟨coalesced, last⟩ := ih rest rest' post.symm fun callback handed => fresh callback (.inr handed)
    exact ⟨.replay called pre post.symm effects.symm coalesced, last⟩
  | @insert record' history history' callback called forgotten coalesces _ ih =>
    obtain ⟨first', completes', rest'⟩ := Run.cons_iff.mp run'
    obtain ⟨post, effects⟩ := transition_inserted (step_transition (called ▸ completes')) forgotten coalesces
    obtain ⟨coalesced, last⟩ := ih run rest' (post.trans (first' ▸ same)) fresh
    exact ⟨.insert called forgotten post effects coalesced, last⟩

theorem coalesced_caller_answered_with_negotiation :
    ∃ history final history' final',
      Run (fun _ => ⟨.authenticated, true⟩) (PairingState.create (some .displayYesNo) none) history final ∧
      Run (fun _ => ⟨.authenticated, true⟩) (PairingState.create (some .displayYesNo) none) history' final' ∧
      Inserts [9] history history' ∧ (∀ callback ∈ passed history, callback ∉ [9]) ∧
      Coalesced [9] history history' ∧ PairingState.dropCallers [9] final' = final := by
  have run := execute_sound (rfl : execute (fun _ => ⟨.authenticated, true⟩)
    (PairingState.create (some .displayYesNo) none) [.initiatePairing 1, .authenticationComplete 5 true] = _)
  have run' := execute_sound (rfl : execute (fun _ => ⟨.authenticated, true⟩)
    (PairingState.create (some .displayYesNo) none)
    [.initiatePairing 1, .initiatePairing 9, .authenticationComplete 5 true] = _)
  refine ⟨_, _, _, _, run, run', ?inserts, ?fresh,
    coalesced_callers_do_not_perturb run run' rfl ?inserts ?fresh⟩
  case inserts => exact .replay rfl (.insert rfl (List.mem_singleton_self 9) (.inl (by decide)) (.replay rfl .nil))
  case fresh => decide

end ZirconRpi.Gap.Coalesce
