import Mathlib.Logic.Basic

/-! The decision tables of BR/EDR Secure Simple Pairing: from the two IO capabilities,
the user interaction each role performs, the controller event that asks for it, and
whether the resulting link key is MITM-authenticated. The results here are the table
facts the pairing machine relies on for every pair of capabilities. -/

namespace ZirconRpi.Gap.Decision

/-- `hci::IOCapability`, the capability a device declares in the IO Capability exchange. -/
inductive IOCapability where
  | displayOnly
  | displayYesNo
  | keyboardOnly
  | noInputNoOutput
  deriving DecidableEq, Repr, Inhabited

/-- `PairingAction`: the user interaction the local device performs. -/
inductive PairingAction where
  | automatic
  | displayPasskey
  | comparePasskey
  | requestPasskey
  | getConsent
  deriving DecidableEq, Repr, Inhabited

/-- `hci::AuthRequirements`, restricted to the two values this file produces. -/
inductive AuthRequirements where
  | generalBonding
  | mitmGeneralBonding
  deriving DecidableEq, Repr

/-- `hci::EventCode`, one byte of the HCI event header. -/
abbrev EventCode := UInt8

/-- The HCI event codes of the three user-interaction events (hci.h is not under src/;
these are the values of the Bluetooth Core specification). -/
def kUserConfirmationRequestEventCode : EventCode := 0x33

def kUserPasskeyRequestEventCode : EventCode := 0x34

def kUserPasskeyNotificationEventCode : EventCode := 0x3B

def getInitiatorPairingAction (initiatorCap responderCap : IOCapability) : PairingAction :=
  if initiatorCap = .noInputNoOutput then .automatic
  else if responderCap = .noInputNoOutput then
    if initiatorCap = .displayYesNo then .getConsent else .automatic
  else if initiatorCap = .keyboardOnly then .requestPasskey
  else if responderCap = .displayOnly then
    if initiatorCap = .displayYesNo then .comparePasskey else .automatic
  else .displayPasskey

def getResponderPairingAction (initiatorCap responderCap : IOCapability) : PairingAction :=
  if initiatorCap = .noInputNoOutput ∧ responderCap = .keyboardOnly then .getConsent
  else if initiatorCap = .displayYesNo ∧ responderCap = .displayYesNo then .comparePasskey
  else getInitiatorPairingAction responderCap initiatorCap

def getExpectedEvent (localCap peerCap : IOCapability) : EventCode :=
  if localCap = .noInputNoOutput ∨ peerCap = .noInputNoOutput then kUserConfirmationRequestEventCode
  else if localCap = .keyboardOnly then kUserPasskeyRequestEventCode
  else if peerCap = .keyboardOnly then kUserPasskeyNotificationEventCode
  else kUserConfirmationRequestEventCode

def isPairingAuthenticated (localCap peerCap : IOCapability) : Bool :=
  if localCap = .noInputNoOutput ∨ peerCap = .noInputNoOutput then false
  else if localCap = .displayYesNo ∧ peerCap = .displayYesNo then true
  else if localCap = .keyboardOnly ∨ peerCap = .keyboardOnly then true
  else false

def getInitiatorAuthRequirements (localCap : IOCapability) : AuthRequirements :=
  if localCap = .noInputNoOutput then .generalBonding else .mitmGeneralBonding

def getResponderAuthRequirements (localCap peerCap : IOCapability) : AuthRequirements :=
  if isPairingAuthenticated localCap peerCap then .mitmGeneralBonding else .generalBonding

/-- The action `ComputePairingData` derives for a role, with the initiator's capability
always first in the table's arguments. -/
def negotiatedAction (initiator : Bool) (localCap peerCap : IOCapability) : PairingAction :=
  if initiator then getInitiatorPairingAction localCap peerCap
  else getResponderPairingAction peerCap localCap

/-- The expected event is always one of the three user-interaction events. -/
theorem getExpectedEvent_cases (localCap peerCap : IOCapability) :
    getExpectedEvent localCap peerCap = kUserConfirmationRequestEventCode ∨
      getExpectedEvent localCap peerCap = kUserPasskeyRequestEventCode ∨
      getExpectedEvent localCap peerCap = kUserPasskeyNotificationEventCode := by
  cases localCap <;> cases peerCap <;> decide

/-- A passkey request is expected exactly when the local side must type the passkey. -/
theorem negotiatedAction_of_passkeyRequest (initiator : Bool) (localCap peerCap : IOCapability)
    (expected : getExpectedEvent localCap peerCap = kUserPasskeyRequestEventCode) :
    negotiatedAction initiator localCap peerCap = .requestPasskey := by
  cases initiator <;> cases localCap <;> cases peerCap <;> revert expected <;> decide

/-- A confirmation request never comes with an action that needs a typed passkey. -/
theorem negotiatedAction_of_confirmationRequest (initiator : Bool) (localCap peerCap : IOCapability)
    (expected : getExpectedEvent localCap peerCap = kUserConfirmationRequestEventCode) :
    negotiatedAction initiator localCap peerCap ≠ .requestPasskey := by
  cases initiator <;> cases localCap <;> cases peerCap <;> revert expected <;> decide

/-- An authenticated pairing that is confirmed through a User Confirmation Request always
shows the numeric comparison: it is never auto-confirmed nor consent-only. -/
theorem negotiatedAction_of_authenticated (initiator : Bool) (localCap peerCap : IOCapability)
    (authenticated : isPairingAuthenticated localCap peerCap = true)
    (expected : getExpectedEvent localCap peerCap = kUserConfirmationRequestEventCode) :
    negotiatedAction initiator localCap peerCap = .displayPasskey ∨
      negotiatedAction initiator localCap peerCap = .comparePasskey := by
  cases initiator <;> cases localCap <;> cases peerCap <;> revert authenticated expected <;> decide

end ZirconRpi.Gap.Decision
