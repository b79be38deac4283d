import ZirconRpi.Gap.Trace
import ZirconRpi.Gap.Consistency

/-! The life of one Pairing, identified by the serial its prompts' weak pointers compare: while it
lives it only moves forward through the negotiation, its decisions never change once the
capabilities are exchanged, and once dropped its serial never comes back. -/

namespace ZirconRpi.Gap.Lifecycle
open ZirconRpi.Gap.Decision ZirconRpi.Gap.Machine ZirconRpi.Gap.Table ZirconRpi.Gap.Trace

/-- How far the negotiation of the live Pairing has come, by the state it is in. -/
def stage : State → Nat
  | .idle => 0
  | .initiatorPairingStarted | .responderWaitIoCapRequest => 1
  | .initiatorWaitIoCapResponse => 2
  | .waitUserConfirmationRequest | .waitUserPasskeyRequest | .waitUserPasskeyNotification => 3
  | .waitPairingComplete => 4
  | .waitLinkKey => 5
  | .initiatorWaitAuthComplete => 6
  | .waitEncryption => 7
  | .failed => 8

/-- What the capability exchange settles for a Pairing: its role, both capabilities and the
decisions `ComputePairingData` takes from them. -/
structure Negotiation where
  initiator : Bool
  localIocap : IOCapability
  peerIocap : IOCapability
  action : PairingAction
  expectedEvent : EventCode
  authenticated : Bool
  deriving DecidableEq, Repr

def negotiation (pairing : Pairing) : Negotiation :=
  ⟨pairing.initiator, pairing.localIocap, pairing.peerIocap, pairing.action, pairing.expectedEvent,
    pairing.authenticated⟩

/-- The capability exchange always ends in one of the three user-interaction states. -/
theorem stage_exchange (localCap peerCap : IOCapability) :
    stage (getStateForPairingEvent (getExpectedEvent localCap peerCap)) = 3 := by
  rcases getExpectedEvent_cases localCap peerCap with expected | expected | expected <;>
    simp [expected, stage]

/-- What one call does to the live Pairing. -/
inductive LiveChange (st st' : PairingState) : Prop
  /-- It is dropped, or there was none. -/
  | dropped : st'.currentPairing = none → st'.nextSerial = st.nextSerial → LiveChange st st'
  /-- A new one is created under the next serial. -/
  | created {pairing' : Pairing} : st.currentPairing = none → st'.currentPairing = some pairing' →
    pairing'.serial = st.nextSerial → st'.nextSerial = st.nextSerial + 1 → stage st'.state = 1 →
    LiveChange st st'
  /-- The same one lives on, no earlier in the negotiation, its decisions kept once settled. -/
  | kept {pairing pairing' : Pairing} : st.currentPairing = some pairing →
    st'.currentPairing = some pairing' → pairing'.serial = pairing.serial →
    st'.nextSerial = st.nextSerial → stage st.state ≤ stage st'.state →
    (3 ≤ stage st.state → negotiation pairing' = negotiation pairing) → LiveChange st st'

theorem LiveChange.of_unchanged {st st' : PairingState} (current : st'.currentPairing = st.currentPairing)
    (state : st'.state = st.state) (serial : st'.nextSerial = st.nextSerial) : LiveChange st st' := by
  cases live : st.currentPairing with
  | none => exact .dropped (current.trans live) serial
  | some pairing => exact .kept live (current.trans live) rfl serial (state ▸ le_rfl) fun _ => rfl

variable {securityProperties : LinkKeyType → SecurityProperties}
variable {st st' : PairingState} {event : Event} {effects : List Effect}

theorem transition_liveChange (row : Transition securityProperties st event st' effects) :
    LiveChange st st' := by
  cases row with
  | initiateStart _ _ absent => exact .created absent rfl rfl rfl rfl
  | ioCapabilityResponseResponder _ absent => exact .created absent rfl rfl rfl rfl
  | initiateQueued _ _ live => exact .kept live rfl rfl rfl le_rfl fun _ => rfl
  | ioCapabilityRequestInitiator started live =>
    exact .kept live rfl rfl rfl (by simp [started, stage]) fun settled => by simp [started, stage] at settled
  | @ioCapabilityRequestResponder pairing capability waiting live =>
    exact .kept live rfl rfl rfl (by simp only [waiting, stage_exchange]; decide)
      fun settled => by simp [waiting, stage] at settled
  | @ioCapabilityResponseInitiator pairing peerIocap waiting live =>
    exact .kept live rfl rfl rfl (by simp only [waiting, stage_exchange]; decide)
      fun settled => by simp [waiting, stage] at settled
  | userConfirmationCompare waiting live | userConfirmationConsent waiting live
  | userConfirmationAutomatic waiting live | userPasskeyRequest waiting live
  | userPasskeyNotification waiting live | simplePairingSucceeded waiting live =>
    exact .kept live live rfl rfl (by simp [waiting, stage]) fun _ => rfl
  | linkKeyAcceptedInitiator waiting live | linkKeyAcceptedResponder waiting live
  | linkKeyAcceptedEncryptionRefused waiting live =>
    exact .kept live rfl rfl rfl (by simp [waiting, stage]) fun _ => rfl
  | authenticationSucceeded waiting live | authenticationEncryptionRefused waiting live =>
    exact .kept live live rfl rfl (by rcases waiting with waiting | waiting <;> simp [waiting, stage])
      fun _ => rfl
  | initiateNotReady | initiateCanceled | linkKeyChanged | encryptionIgnored | confirmForwarded
  | confirmDropped | passkeyForwarded | passkeyDropped | pairingDelegateChanged =>
    exact .of_unchanged rfl rfl rfl
  | _ => exact .dropped rfl rfl

/-- Every live Pairing has a serial already handed out. -/
def Fresh (st : PairingState) : Prop :=
  ∀ pairing, st.currentPairing = some pairing → pairing.serial < st.nextSerial

theorem fresh_transition (row : Transition securityProperties st event st' effects) (fresh : Fresh st) :
    Fresh st' := by
  intro other live''
  cases transition_liveChange row with
  | dropped gone _ => simp [gone] at live''
  | created _ live' serial next _ =>
    rw [live'] at live''; cases live''
    omega
  | kept live live' serial next _ _ =>
    rw [live'] at live''; cases live''
    have := fresh _ live
    omega

theorem fresh_of_run {pairingDelegate : Option IOCapability} {linkKey : Option (LinkKey × LinkKeyType)}
    {history : List Record} (run : Run securityProperties (PairingState.create pairingDelegate linkKey) history st) :
    Fresh st :=
  run.preserves Fresh (fun _ _ _ _ fresh row => fresh_transition row fresh) fun _ absent => nomatch absent

/-- The Pairing with serial `serial` has been handed out and is not live. -/
def Gone (serial : Nat) (st : PairingState) : Prop :=
  serial < st.nextSerial ∧ st.liveSerial ≠ some serial

theorem gone_transition {serial : Nat} (row : Transition securityProperties st event st' effects)
    (gone : Gone serial st) : Gone serial st' := by
  obtain ⟨handed, dead⟩ := gone
  cases transition_liveChange row with
  | dropped gone next => exact ⟨next ▸ handed, by simp [PairingState.liveSerial, gone]⟩
  | created _ live' fresh next _ =>
    refine ⟨by omega, ?_⟩
    simp only [PairingState.liveSerial, live', Option.map_some', fresh, ne_eq, Option.some.injEq]
    omega
  | kept live live' same next _ _ =>
    refine ⟨next ▸ handed, ?_⟩
    simpa [PairingState.liveSerial, live, live', same] using dead

/-- Once dropped, a Pairing is never live again: no later call brings its serial back. -/
theorem gone_of_run {serial : Nat} {start final : PairingState} {history : List Record}
    (run : Run securityProperties start history final) (gone : Gone serial start) : Gone serial final :=
  run.preserves _ (fun _ _ _ _ gone row => gone_transition row gone) gone

/-- What a state says about the Pairing with serial `serial` once it has reached stage
`reached` with negotiation `settled`: the serial is handed out, and whenever a Pairing with it
is live, it is at that stage or later, with that negotiation if it was settled. -/
def Life (serial reached : Nat) (settled : Negotiation) (st : PairingState) : Prop :=
  serial < st.nextSerial ∧ ∀ pairing, st.currentPairing = some pairing → pairing.serial = serial →
    reached ≤ stage st.state ∧ (3 ≤ reached → negotiation pairing = settled)

variable {serial reached : Nat} {settled : Negotiation}

theorem life_transition (row : Transition securityProperties st event st' effects)
    (life : Life serial reached settled st) : Life serial reached settled st' := by
  obtain ⟨handed, alive⟩ := life
  cases transition_liveChange row with
  | dropped gone next => exact ⟨next ▸ handed, fun _ live'' => by simp [gone] at live''⟩
  | created _ live' fresh next _ =>
    refine ⟨by omega, fun other live'' same => ?_⟩
    rw [live'] at live''; cases live''
    omega
  | kept live live' same next advanced kept =>
    refine ⟨next ▸ handed, fun other live'' otherSerial => ?_⟩
    rw [live'] at live''; cases live''
    obtain ⟨atLeast, fixed⟩ := alive _ live (same ▸ otherSerial)
    exact ⟨atLeast.trans advanced, fun settledBefore => (kept (by omega)).trans (fixed settledBefore)⟩

theorem life_of_run {start final : PairingState} {history : List Record}
    (run : Run securityProperties start history final) (life : Life serial reached settled start) :
    Life serial reached settled final :=
  run.preserves _ (fun _ _ _ _ life row => life_transition row life) life

theorem life_of_live {pairing : Pairing} (fresh : Fresh st) (live : st.currentPairing = some pairing) :
    Life pairing.serial (stage st.state) (negotiation pairing) st :=
  ⟨fresh pairing live, fun other live' _ => by rw [live] at live'; cases live'; exact ⟨le_rfl, fun _ => rfl⟩⟩

/-- Whatever a run does after a recorded call, a Pairing live before that call is, whenever
it is live again, no earlier in the negotiation, with the same settled decisions. -/
theorem life_of_record {pairingDelegate : Option IOCapability} {linkKey : Option (LinkKey × LinkKeyType)}
    {history before after : List Record} {record : Record} {pairing : Pairing}
    (run : Run securityProperties (PairingState.create pairingDelegate linkKey) history st)
    (cut : history = before ++ record :: after) (live : record.pre.currentPairing = some pairing) :
    Life pairing.serial (stage record.pre.state) (negotiation pairing) st := by
  obtain ⟨prefixRun, completes⟩ := run.prefix_of_eq cut
  exact life_of_run (run.suffix_of_eq cut)
    (life_transition (step_transition completes) (life_of_live (fresh_of_run prefixRun) live))

/-! ## What a live Pairing carries -/

/-- From the capability exchange until the link key is in (the three user-interaction
states, `WaitPairingComplete`, `WaitLinkKey` and `InitiatorWaitAuthComplete`), every reachable
state has a live Pairing whose action, expected event and authentication are those
`ComputePairingData` takes from its two capabilities. -/
theorem negotiating_pairing_follows_capabilities (reach : Reachable securityProperties st)
    (exchanged : 3 ≤ stage st.state) (beforeEncryption : stage st.state ≤ 6) :
    ∃ pairing, st.currentPairing = some pairing ∧ Consistency.Decided pairing := by
  have consistent := Consistency.consistent_of_reachable reach
  cases state : st.state <;> rw [state] at consistent exchanged beforeEncryption <;>
    simp only [stage] at exchanged beforeEncryption
  case waitUserConfirmationRequest | waitUserPasskeyRequest | waitUserPasskeyNotification =>
    obtain ⟨pairing, live, decided, -⟩ := consistent
    exact ⟨pairing, live, decided⟩
  case waitPairingComplete | waitLinkKey => exact consistent
  case initiatorWaitAuthComplete =>
    obtain ⟨pairing, live, -, decided⟩ := consistent
    exact ⟨pairing, live, decided⟩
  all_goals omega

/-- An initiator that has exchanged capabilities with a DisplayYesNo peer. -/
theorem exchanged_pairing_follows_capabilities :
    ∃ st, Reachable (fun _ => ⟨.authenticated, true⟩) st ∧ stage st.state = 3 ∧
      ∃ pairing, st.currentPairing = some pairing ∧ Consistency.Decided pairing := by
  have run := @execute_sound (fun _ => ⟨.authenticated, true⟩) (PairingState.create (some .displayYesNo) none) _
    [.initiatePairing 0, .ioCapabilityRequest, .ioCapabilityResponse .displayYesNo] _ rfl
  exact ⟨_, ⟨_, _, _, run⟩, rfl, negotiating_pairing_follows_capabilities ⟨_, _, _, run⟩ (by decide) (by decide)⟩

/-- While a Pairing lives it never goes back in the negotiation, and from the capability
exchange on its role, both capabilities and the decisions taken from them never change: a
Pairing live before a recorded call is, whenever it is live at the end of the run, at that
call's stage or further, with the same negotiation once that was settled. -/
theorem live_pairing_never_regresses {pairingDelegate : Option IOCapability}
    {linkKey : Option (LinkKey × LinkKeyType)} {history before after : List Record} {record : Record}
    {pairing pairing' : Pairing}
    (run : Run securityProperties (PairingState.create pairingDelegate linkKey) history st)
    (cut : history = before ++ record :: after) (live : record.pre.currentPairing = some pairing)
    (later : st.currentPairing = some pairing') (same : pairing'.serial = pairing.serial) :
    stage record.pre.state ≤ stage st.state ∧
      (3 ≤ stage record.pre.state → negotiation pairing' = negotiation pairing) :=
  (life_of_record run cut live).2 pairing' later same

/-- A user confirmation request moves the initiator's Pairing on to `WaitPairingComplete`
with the negotiation of the capability exchange. -/
theorem confirmation_request_keeps_negotiation :
    ∃ history st before record after pairing pairing',
      Run (fun _ => ⟨.authenticated, true⟩) (PairingState.create (some .displayYesNo) none) history st ∧
      history = before ++ record :: after ∧ record.pre.currentPairing = some pairing ∧
      st.currentPairing = some pairing' ∧ pairing'.serial = pairing.serial ∧ stage record.pre.state = 3 ∧
      stage record.pre.state ≤ stage st.state ∧ negotiation pairing' = negotiation pairing := by
  have run := @execute_sound (fun _ => ⟨.authenticated, true⟩) (PairingState.create (some .displayYesNo) none) _
    [.initiatePairing 0, .ioCapabilityRequest, .ioCapabilityResponse .displayYesNo,
      .userConfirmationRequest 123456] _ rfl
  have kept := @live_pairing_never_regresses _ _ _ _ _ [_, _, _] [] _ _ _ run rfl rfl rfl rfl
  exact ⟨_, _, [_, _, _], _, [], _, _, run, rfl, rfl, rfl, rfl, rfl, kept.1, kept.2 (by decide)⟩

end ZirconRpi.Gap.Lifecycle
