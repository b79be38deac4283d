import ZirconRpi.Gap.Consistency
import ZirconRpi.Gap.Lifecycle

/-! What the pairing machine guarantees about the security of the link. A link key is only
stored when it matches the negotiation of the live Pairing, whose capabilities are the ones
the controller was given and sent; a key reported as authenticated is only accepted after the
user took part in the pairing; and success is only reported once the link is encrypted. -/

namespace ZirconRpi.Gap.Security
open ZirconRpi.Gap.Decision ZirconRpi.Gap.Machine ZirconRpi.Gap.Table ZirconRpi.Gap.Trace
open ZirconRpi.Gap.Consistency ZirconRpi.Gap.Lifecycle

/-! ## Where the capabilities come from -/

/-- `OnIoCapabilityRequest` returned `capability` to the controller while the Pairing with
this serial was live. -/
def LocalReplied (history : List Record) (serial : Nat) (capability : IOCapability) : Prop :=
  ∃ record ∈ history, record.event = .ioCapabilityRequest ∧ record.pre.liveSerial = some serial ∧
    Effect.ioCapabilityReply (some capability) ∈ record.effects

/-- `OnIoCapabilityResponse` received `capability` and left the Pairing with this serial live. -/
def PeerReceived (history : List Record) (serial : Nat) (capability : IOCapability) : Prop :=
  ∃ record ∈ history, record.event = .ioCapabilityResponse capability ∧ record.post.liveSerial = some serial

/-- The states whose live Pairing holds the local capability the controller was given. -/
def localExchanged : State → Bool
  | .initiatorWaitIoCapResponse | .waitUserConfirmationRequest | .waitUserPasskeyRequest
  | .waitUserPasskeyNotification | .waitPairingComplete | .waitLinkKey | .initiatorWaitAuthComplete => true
  | _ => false

/-- The states whose live Pairing holds the capability the peer sent. -/
def peerExchanged : State → Bool
  | .responderWaitIoCapRequest | .waitUserConfirmationRequest | .waitUserPasskeyRequest
  | .waitUserPasskeyNotification | .waitPairingComplete | .waitLinkKey | .initiatorWaitAuthComplete => true
  | _ => false

/-- The live Pairing's capabilities are the ones the run exchanged for it. -/
def Provenance (history : List Record) (st : PairingState) : Prop :=
  ∀ pairing, st.currentPairing = some pairing →
    (localExchanged st.state → LocalReplied history pairing.serial pairing.localIocap) ∧
    (peerExchanged st.state → PeerReceived history pairing.serial pairing.peerIocap)

variable {history : List Record} {serial : Nat} {capability : IOCapability}

theorem LocalReplied.snoc (replied : LocalReplied history serial capability) (record : Record) :
    LocalReplied (history ++ [record]) serial capability :=
  let ⟨earlier, recorded, facts⟩ := replied
  ⟨earlier, List.mem_append_left _ recorded, facts⟩

theorem PeerReceived.snoc (received : PeerReceived history serial capability) (record : Record) :
    PeerReceived (history ++ [record]) serial capability :=
  let ⟨earlier, recorded, facts⟩ := received
  ⟨earlier, List.mem_append_left _ recorded, facts⟩

variable {st st' : PairingState} {record : Record}

/-- A call that keeps the live Pairing's serial and capabilities, and gets no further in the
exchange, keeps where they come from. -/
theorem Provenance.carry {pairing pairing' : Pairing} (provenance : Provenance history st)
    (live : st.currentPairing = some pairing) (live' : st'.currentPairing = some pairing')
    (serial : pairing'.serial = pairing.serial) (localIocap : pairing'.localIocap = pairing.localIocap)
    (peerIocap : pairing'.peerIocap = pairing.peerIocap)
    (localKept : localExchanged st'.state → localExchanged st.state)
    (peerKept : peerExchanged st'.state → peerExchanged st.state) :
    Provenance (history ++ [record]) st' := by
  intro other live''
  rw [live'] at live''; cases live''
  obtain ⟨replied, received⟩ := provenance pairing live
  exact ⟨fun exchanged => serial ▸ localIocap ▸ (replied (localKept exchanged)).snoc record,
    fun exchanged => serial ▸ peerIocap ▸ (received (peerKept exchanged)).snoc record⟩

theorem Provenance.unchanged (provenance : Provenance history st)
    (current : st'.currentPairing = st.currentPairing) (state : st'.state = st.state) :
    Provenance (history ++ [record]) st' := by
  cases live : st.currentPairing with
  | none => intro _ live'; simp [current, live] at live'
  | some pairing =>
    exact provenance.carry live (current.trans live) rfl rfl rfl (state ▸ id) (state ▸ id)

theorem provenance_of_unexchanged (localNot : localExchanged st.state = false)
    (peerNot : peerExchanged st.state = false) : Provenance history st :=
  fun _ _ => ⟨fun exchanged => by simp [localNot] at exchanged, fun exchanged => by simp [peerNot] at exchanged⟩

theorem provenance_of_none (absent : st.currentPairing = none) : Provenance history st :=
  fun _ live => by simp [absent] at live

variable {securityProperties : LinkKeyType → SecurityProperties} {event : Event} {effects : List Effect}

/-- Each call keeps the live Pairing's capabilities traced to the calls that exchanged them:
`OnIoCapabilityRequest` records the local one it returns, `OnIoCapabilityResponse` the peer's. -/
theorem provenance_transition (row : Transition securityProperties st event st' effects)
    (provenance : Provenance history st) : Provenance (history ++ [⟨st, event, st', effects⟩]) st' := by
  have replied : ∀ {serial : Nat} {capability : IOCapability},
      event = .ioCapabilityRequest → st.liveSerial = some serial →
      Effect.ioCapabilityReply (some capability) ∈ effects →
      LocalReplied (history ++ [⟨st, event, st', effects⟩]) serial capability :=
    fun called live reply => ⟨_, List.mem_append_right _ (List.mem_singleton_self _), called, live, reply⟩
  have received : ∀ {serial : Nat} {capability : IOCapability},
      event = .ioCapabilityResponse capability → st'.liveSerial = some serial →
      PeerReceived (history ++ [⟨st, event, st', effects⟩]) serial capability :=
    fun called live => ⟨_, List.mem_append_right _ (List.mem_singleton_self _), called, live⟩
  cases row with
  | initiateStart => exact provenance_of_unexchanged rfl rfl
  | initiateQueued _ _ live => exact provenance.carry live rfl rfl rfl rfl id id
  | ioCapabilityRequestInitiator _ live =>
    intro _ live'; cases live'
    exact ⟨fun _ => replied rfl (by simp [PairingState.liveSerial, live]) (List.mem_singleton_self _),
      fun exchanged => (nomatch exchanged)⟩
  | ioCapabilityRequestResponder waiting live =>
    intro _ live'; cases live'
    exact ⟨fun _ => replied rfl (by simp [PairingState.liveSerial, live, Pairing.withPairingData]) (List.mem_singleton_self _),
      fun _ => ((provenance _ live).2 (by simp [waiting, peerExchanged])).snoc _⟩
  | ioCapabilityResponseResponder =>
    intro _ live'; cases live'
    exact ⟨fun exchanged => (nomatch exchanged), fun _ => received rfl rfl⟩
  | ioCapabilityResponseInitiator waiting live =>
    intro _ live'; cases live'
    exact ⟨fun _ => ((provenance _ live).1 (by simp [waiting, localExchanged])).snoc _,
      fun _ => received rfl rfl⟩
  | userConfirmationCompare waiting live | userConfirmationConsent waiting live
  | userConfirmationAutomatic waiting live | userPasskeyRequest waiting live
  | userPasskeyNotification waiting live | simplePairingSucceeded waiting live =>
    exact provenance.carry live live rfl rfl rfl (fun _ => by simp [waiting, localExchanged])
      (fun _ => by simp [waiting, peerExchanged])
  | linkKeyAcceptedInitiator waiting live =>
    exact provenance.carry live rfl rfl rfl rfl (fun _ => by simp [waiting, localExchanged])
      (fun _ => by simp [waiting, peerExchanged])
  | linkKeyAcceptedResponder | linkKeyAcceptedEncryptionRefused | authenticationSucceeded
  | authenticationEncryptionRefused => exact provenance_of_unexchanged rfl rfl
  | initiateNotReady | initiateCanceled | linkKeyChanged | encryptionIgnored | confirmForwarded
  | confirmDropped | passkeyForwarded | passkeyDropped | pairingDelegateChanged =>
    exact provenance.unchanged rfl rfl
  | _ => exact provenance_of_none rfl

theorem provenance_of_run {pairingDelegate : Option IOCapability} {linkKey : Option (LinkKey × LinkKeyType)}
    (run : Run securityProperties (PairingState.create pairingDelegate linkKey) history st) :
    Provenance history st := by
  induction run with
  | nil => exact provenance_of_none rfl
  | snoc _ completes ih => exact provenance_transition (step_transition completes) ih

/-- Only two rows write the link key: a Changed Combination key on an idle link that already
has one, and a key in `WaitLinkKey` that matches the live Pairing's expectation. -/
theorem transition_linkKey (row : Transition securityProperties st event st' effects) :
    (∀ key keyType, Effect.setBrEdrLinkKey key keyType ∈ effects →
      (st.state = .idle ∧ keyType = .changedCombination ∧ st.linkKey ≠ none) ∨
      (st.state = .waitLinkKey ∧ ∃ pairing, st.currentPairing = some pairing ∧
        (securityProperties keyType).level ≠ .noSecurity ∧
        (securityProperties keyType).authenticated = pairing.authenticated)) ∧
    ((∀ key keyType, Effect.setBrEdrLinkKey key keyType ∉ effects) → st'.linkKey = st.linkKey) := by
  cases row with
  | linkKeyChanged idle changed present =>
    refine ⟨fun key keyType stored => .inl ⟨idle, ?_, present⟩, fun unwritten => ?_⟩
    · simp only [List.mem_singleton, Effect.setBrEdrLinkKey.injEq] at stored
      exact stored.2 ▸ changed
    · exact (unwritten _ _ (List.mem_cons_self _ _)).elim
  | linkKeyAcceptedInitiator waiting live _ level authenticated | linkKeyAcceptedResponder waiting live _ level authenticated
  | linkKeyAcceptedEncryptionRefused waiting live _ level authenticated =>
    refine ⟨fun key keyType stored => .inr ⟨waiting, _, live, ?_⟩, fun unwritten => ?_⟩
    · simp only [List.mem_cons, Effect.setBrEdrLinkKey.injEq, List.mem_singleton, reduceCtorEq,
        List.not_mem_nil, or_false] at stored
      exact stored.2 ▸ ⟨level, authenticated⟩
    · exact (unwritten _ _ (List.mem_cons_self _ _)).elim
  | _ => exact ⟨fun _ _ stored => by simp_all [mem_signalEffects], fun _ => rfl⟩

/-- Link-key acceptance: the link key is written only on an idle link that already has one, for
a Changed Combination key, or in `WaitLinkKey` when the key's security matches the live
Pairing's decision, taken from the capability `OnIoCapabilityRequest` returned and the one
`OnIoCapabilityResponse` received for that Pairing. No other call changes the link's key. -/
theorem link_key_stored_only_on_acceptance {pairingDelegate : Option IOCapability}
    {linkKey : Option (LinkKey × LinkKeyType)}
    (run : Run securityProperties (PairingState.create pairingDelegate linkKey) history st)
    (completes : step securityProperties st event = .ok (st', effects)) :
    (∀ key keyType, Effect.setBrEdrLinkKey key keyType ∈ effects →
      (st.state = .idle ∧ keyType = .changedCombination ∧ st.linkKey ≠ none) ∨
      (st.state = .waitLinkKey ∧ ∃ pairing, st.currentPairing = some pairing ∧
        (securityProperties keyType).level ≠ .noSecurity ∧
        (securityProperties keyType).authenticated = isPairingAuthenticated pairing.localIocap pairing.peerIocap ∧
        LocalReplied history pairing.serial pairing.localIocap ∧
        PeerReceived history pairing.serial pairing.peerIocap)) ∧
    ((∀ key keyType, Effect.setBrEdrLinkKey key keyType ∉ effects) → st'.linkKey = st.linkKey) := by
  have row := step_transition completes
  refine ⟨fun key keyType stored => ?_, (transition_linkKey row).2⟩
  rcases (transition_linkKey row).1 key keyType stored with changed | ⟨waiting, pairing, live, level, authenticated⟩
  · exact .inl changed
  obtain ⟨pairing', live', decided⟩ : ∃ pairing, st.currentPairing = some pairing ∧ Decided pairing := by
    simpa [waiting, Consistent] using consistent_of_run run
  rw [live] at live'; cases live'
  obtain ⟨replied, received⟩ := provenance_of_run run pairing live
  exact .inr ⟨waiting, pairing, live, level, authenticated.trans decided.authenticated,
    replied (by simp [waiting, localExchanged]), received (by simp [waiting, peerExchanged])⟩

theorem link_key_stored_after_exchange :
    ∃ history st st' effects,
      Run (fun _ => ⟨.authenticated, true⟩) (PairingState.create (some .displayYesNo) none) history st ∧
      step (fun _ => ⟨.authenticated, true⟩) st (.linkKeyNotification 7 .authenticatedCombination192 true) = .ok (st', effects) ∧
      Effect.setBrEdrLinkKey ⟨7, 0, 0⟩ .authenticatedCombination192 ∈ effects ∧
      ∃ pairing, st.currentPairing = some pairing ∧
        LocalReplied history pairing.serial pairing.localIocap ∧ PeerReceived history pairing.serial pairing.peerIocap := by
  obtain ⟨history, st, run, st', effects, completes, stored⟩ : ∃ history st,
      Run (fun _ => ⟨.authenticated, true⟩) (PairingState.create (some .displayYesNo) none) history st ∧ ∃ st' effects,
      step (fun _ => ⟨.authenticated, true⟩) st (.linkKeyNotification 7 .authenticatedCombination192 true) = .ok (st', effects) ∧
      Effect.setBrEdrLinkKey ⟨7, 0, 0⟩ .authenticatedCombination192 ∈ effects :=
    ⟨_, _, @execute_sound _ _ _
      [.ioCapabilityResponse .displayYesNo, .ioCapabilityRequest, .userConfirmationRequest 123456,
        .simplePairingComplete 0] _ rfl, _, _, rfl, by simp⟩
  rcases (link_key_stored_only_on_acceptance run completes).1 _ _ stored with
    ⟨-, changed, -⟩ | ⟨-, pairing, live, -, -, replied, received⟩
  · exact nomatch changed
  · exact ⟨history, st, st', effects, run, completes, stored, pairing, live, replied, received⟩

/-! ## Success only once encrypted -/

/-- How a call may enter `WaitEncryption`: `StartEncryption` accepted, after a successful
authentication of the initiator or after a responder accepted the link key. -/
def StartsEncryption (record : Record) : Prop :=
  Effect.startEncryption ∈ record.effects ∧
    ((∃ statusCode, record.event = .authenticationComplete statusCode true ∧
        (Status.ofStatusCode statusCode).isSuccess = true ∧
        (record.pre.state = .initiatorPairingStarted ∨ record.pre.state = .initiatorWaitAuthComplete)) ∨
      (∃ linkKey keyType, record.event = .linkKeyNotification linkKey keyType true ∧
        record.pre.state = .waitLinkKey ∧ Effect.setBrEdrLinkKey ⟨linkKey, 0, 0⟩ keyType ∈ record.effects ∧
        ∃ pairing, record.pre.currentPairing = some pairing ∧ pairing.initiator = false))

theorem transition_startsEncryption (row : Transition securityProperties st event st' effects)
    (outside : st.state ≠ .waitEncryption) (entered : st'.state = .waitEncryption) :
    StartsEncryption ⟨st, event, st', effects⟩ := by
  cases row with
  | authenticationSucceeded waiting _ _ success => exact ⟨by simp, .inl ⟨_, rfl, success, waiting⟩⟩
  | linkKeyAcceptedResponder waiting live _ _ _ responder =>
    exact ⟨by simp, .inr ⟨_, _, rfl, waiting, by simp, _, live, responder⟩⟩
  | @ioCapabilityRequestResponder pairing capability | @ioCapabilityResponseInitiator pairing capability =>
    dsimp only at entered
    have := congrArg stage entered
    rw [stage_exchange] at this
    simp [stage] at this
  | encryptionChanged => dsimp only at entered; split at entered <;> cases entered
  | _ => simp_all

/-- Only `OnEncryptionChange` in `WaitEncryption`, reporting an enabled encryption, signals success. -/
theorem transition_success (row : Transition securityProperties st event st' effects) {status : Status}
    (success : status.isSuccess = true)
    (delivered : Effect.statusCallback status ∈ effects ∨ ∃ callback, Effect.initiatorCallback callback status ∈ effects) :
    (∃ reported, event = .encryptionChange reported true ∧ reported.isSuccess = true) ∧
      st.state = .waitEncryption := by
  cases row with
  | @encryptionChanged reported enabled waiting =>
    have signalled : status = encryptionStatus reported enabled := by
      rcases delivered with delivered | ⟨_, delivered⟩
      exacts [statusCallback_mem_signalEffects.mp delivered, (initiatorCallback_mem_signalEffects.mp delivered).2]
    rw [signalled, encryptionStatus_isSuccess, Bool.and_eq_true] at success
    exact ⟨⟨reported, success.2 ▸ rfl, success.1⟩, waiting⟩
  | _ => simp_all [Status.isSuccess, or_and_left]

/-- Success only after encryption: a success reaches the top-level callback or a queued caller
only from `OnEncryptionChange(success, enabled)` in `WaitEncryption`, and the run entered
`WaitEncryption` for the last time through an accepted `StartEncryption`, after the
initiator's successful authentication or a responder's accepted key. -/
theorem success_only_after_encryption {pairingDelegate : Option IOCapability}
    {linkKey : Option (LinkKey × LinkKeyType)}
    (run : Run securityProperties (PairingState.create pairingDelegate linkKey) history st)
    (completes : step securityProperties st event = .ok (st', effects)) :
    (st.state ≠ .waitEncryption → st'.state = .waitEncryption → StartsEncryption ⟨st, event, st', effects⟩) ∧
    ∀ status, status.isSuccess = true →
      (Effect.statusCallback status ∈ effects ∨ ∃ callback, Effect.initiatorCallback callback status ∈ effects) →
      (∃ reported, event = .encryptionChange reported true ∧ reported.isSuccess = true) ∧
        st.state = .waitEncryption ∧
        ∃ before entry after, history = before ++ entry :: after ∧ StartsEncryption entry ∧
          entry.post.state = .waitEncryption ∧ ∀ record ∈ after, record.post.state = .waitEncryption := by
  have row := step_transition completes
  refine ⟨transition_startsEncryption row, fun status success delivered => ?_⟩
  obtain ⟨reported, waiting⟩ := transition_success row success delivered
  obtain ⟨before, entry, after, cut, outside, entered, stayed⟩ :=
    run.last_entry (·.state = .waitEncryption) (by simp [PairingState.create]) waiting
  have entryRow := run.transition_of_mem (by simp [cut] : entry ∈ history)
  exact ⟨reported, waiting, before, entry, after, cut, transition_startsEncryption entryRow outside entered,
    entered, stayed⟩

theorem success_after_responder_encryption :
    ∃ history st st' effects,
      Run (fun _ => ⟨.authenticated, true⟩) (PairingState.create (some .displayYesNo) none) history st ∧
      step (fun _ => ⟨.authenticated, true⟩) st (.encryptionChange .success true) = .ok (st', effects) ∧
      Effect.statusCallback .success ∈ effects ∧
      ∃ before entry after, history = before ++ entry :: after ∧ StartsEncryption entry := by
  obtain ⟨history, st, run, st', effects, completes, delivered⟩ : ∃ history st,
      Run (fun _ => ⟨.authenticated, true⟩) (PairingState.create (some .displayYesNo) none) history st ∧ ∃ st' effects,
      step (fun _ => ⟨.authenticated, true⟩) st (.encryptionChange .success true) = .ok (st', effects) ∧ Effect.statusCallback .success ∈ effects :=
    ⟨_, _, @execute_sound _ _ _
      [.ioCapabilityResponse .displayYesNo, .ioCapabilityRequest, .userConfirmationRequest 123456,
        .simplePairingComplete 0, .linkKeyNotification 7 .authenticatedCombination192 true] _ rfl,
      _, _, rfl, by simp⟩
  obtain ⟨-, -, before, entry, after, cut, starts, -⟩ :=
    (success_only_after_encryption run completes).2 .success rfl (.inl delivered)
  exact ⟨history, st, st', effects, run, completes, delivered, before, entry, after, cut, starts⟩

/-! ## No authenticated key without the user -/

/-- The user step of the Pairing with this serial involved the user: a numeric comparison
shown by the delegate, a passkey typed in, or a passkey shown for the peer to type. -/
def Interactive (serial : Nat) (event : Event) (effects : List Effect) : Prop :=
  (∃ numericValue, event = .userConfirmationRequest numericValue ∧
    effects = [.displayPasskey numericValue .comparison (.userConfirmation serial)]) ∨
  (event = .userPasskeyRequest ∧ effects = [.requestPasskey serial]) ∨
  (∃ numericValue, event = .userPasskeyNotification numericValue ∧
    effects = [.displayPasskey numericValue .peerEntry (.passkeyNotification serial)])

/-- A confirmation nobody compared: the automatic `cb(true)` of `OnUserConfirmationRequest`, or
a consent-only `ConfirmPairing`. -/
def Unattended (event : Event) (effects : List Effect) : Prop :=
  (∃ callback, Effect.confirmPairing callback ∈ effects) ∨
  (∃ numericValue, event = .userConfirmationRequest numericValue ∧ Effect.userConfirmationReply true ∈ effects)

/-- An authenticated Pairing waiting for a User Confirmation Request shows the comparison. -/
theorem action_of_authenticated_confirmation {pairing : Pairing}
    (consistent : Consistent st.state st.currentPairing) (waiting : st.state = .waitUserConfirmationRequest)
    (live : st.currentPairing = some pairing) (authenticated : pairing.authenticated = true) :
    pairing.action = .displayPasskey ∨ pairing.action = .comparePasskey := by
  obtain ⟨pairing', live', decided, expected⟩ : ∃ pairing', st.currentPairing = some pairing' ∧
      Decided pairing' ∧ pairing'.expectedEvent = kUserConfirmationRequestEventCode := by
    simpa [waiting, Consistent] using consistent
  rw [live] at live'; cases live'
  rw [decided.action]
  exact negotiatedAction_of_authenticated _ _ _ (decided.authenticated ▸ authenticated)
    (decided.expectedEvent ▸ expected)

/-- The call that takes a Pairing into the pairing phase is its user step; when the Pairing is
authenticated, that step involves the user. -/
theorem transition_user_step (row : Transition securityProperties st event st' effects)
    (consistent : Consistent st.state st.currentPairing) (earlier : stage st.state < 4)
    (phase : 4 ≤ stage st'.state ∧ stage st'.state ≤ 6) :
    ∃ pairing, st.currentPairing = some pairing ∧ stage st.state = 3 ∧
      (pairing.authenticated = true → Interactive pairing.serial event effects) := by
  cases row with
  | userConfirmationCompare waiting live =>
    exact ⟨_, live, by simp [waiting, stage], fun _ => .inl ⟨_, rfl, rfl⟩⟩
  | userConfirmationConsent waiting live _ action | userConfirmationAutomatic waiting live _ action =>
    refine ⟨_, live, by simp [waiting, stage], fun authenticated => ?_⟩
    rcases action_of_authenticated_confirmation consistent waiting live authenticated with compare | compare <;>
      simp [compare] at action
  | userPasskeyRequest waiting live => exact ⟨_, live, by simp [waiting, stage], fun _ => .inr (.inl ⟨rfl, rfl⟩)⟩
  | userPasskeyNotification waiting live =>
    exact ⟨_, live, by simp [waiting, stage], fun _ => .inr (.inr ⟨_, rfl, rfl⟩)⟩
  | @ioCapabilityRequestResponder pairing capability | @ioCapabilityResponseInitiator pairing capability =>
    simp [stage_exchange] at phase
  | authenticationSucceeded waiting | authenticationEncryptionRefused waiting =>
    simp [stage] at phase
  | encryptionChanged => dsimp only at phase; split at phase <;> simp [stage] at phase
  | _ => (try dsimp only at phase); first | omega | simp_all [stage]

/-- Only an unauthenticated Pairing confirms without a comparison. -/
theorem transition_unattended (row : Transition securityProperties st event st' effects)
    (consistent : Consistent st.state st.currentPairing) (unattended : Unattended event effects) :
    ∃ pairing, st.currentPairing = some pairing ∧ stage st.state = 3 ∧ pairing.authenticated = false := by
  cases row with
  | userConfirmationConsent waiting live _ action | userConfirmationAutomatic waiting live _ action =>
    refine ⟨_, live, by simp [waiting, stage], Bool.eq_false_iff.mpr fun authenticated => ?_⟩
    rcases action_of_authenticated_confirmation consistent waiting live authenticated with compare | compare <;>
      simp [compare] at action
  | _ => simp [Unattended, mem_signalEffects] at unattended

/-- A Pairing in its pairing phase went through its user step earlier in the run: the call
that took it out of the exchange, which involved the user if the Pairing is authenticated. -/
theorem user_step_of_run {pairingDelegate : Option IOCapability} {linkKey : Option (LinkKey × LinkKeyType)}
    {pairing : Pairing} (run : Run securityProperties (PairingState.create pairingDelegate linkKey) history st)
    (live : st.currentPairing = some pairing) (low : 4 ≤ stage st.state) (high : stage st.state ≤ 6) :
    ∃ interaction ∈ history, ∃ other, interaction.pre.currentPairing = some other ∧
      other.serial = pairing.serial ∧ stage interaction.pre.state = 3 ∧
      (other.authenticated = true → Interactive other.serial interaction.event interaction.effects) := by
  obtain ⟨before, interaction, after, cut, outside, inside, -⟩ := run.last_entry
    (fun st => ∃ other, st.currentPairing = some other ∧ other.serial = pairing.serial ∧
      4 ≤ stage st.state ∧ stage st.state ≤ 6)
    (by simp [PairingState.create]) ⟨pairing, live, rfl, low, high⟩
  have recorded : interaction ∈ history := by simp [cut]
  have row := run.transition_of_mem recorded
  obtain ⟨other', live', same', low', high'⟩ := inside
  -- The Pairing was live before that call, below the pairing phase.
  obtain ⟨other, liveBefore, same, earlier⟩ : ∃ other, interaction.pre.currentPairing = some other ∧
      other.serial = pairing.serial ∧ stage interaction.pre.state < 4 := by
    cases transition_liveChange row with
    | dropped gone _ => simp [gone] at live'
    | created _ _ _ _ created => omega
    | kept liveBefore liveAfter same _ advanced _ =>
      rw [live'] at liveAfter; cases liveAfter
      refine ⟨_, liveBefore, same ▸ same', Nat.lt_of_not_le fun late => outside ?_⟩
      exact ⟨_, liveBefore, same ▸ same', late, by omega⟩
  obtain ⟨other'', liveStep, three, interactive⟩ :=
    transition_user_step row (consistent_of_mem run recorded) earlier ⟨low', high'⟩
  rw [liveBefore] at liveStep; cases liveStep
  exact ⟨interaction, recorded, other, liveBefore, same, three, interactive⟩

/-- No MITM claim without the user: when a call stores a key reported as authenticated for the
live Pairing, earlier in the run that Pairing's user step was a numeric comparison shown by the
delegate, a passkey request or a passkey display, and no call of the run confirmed it
automatically or with consent only. -/
theorem authenticated_key_needs_user_interaction {pairingDelegate : Option IOCapability}
    {linkKey : Option (LinkKey × LinkKeyType)} {pairing : Pairing} {key : LinkKey} {keyType : LinkKeyType}
    (run : Run securityProperties (PairingState.create pairingDelegate linkKey) history st)
    (completes : step securityProperties st event = .ok (st', effects))
    (live : st.currentPairing = some pairing) (stored : Effect.setBrEdrLinkKey key keyType ∈ effects)
    (authenticatedKey : (securityProperties keyType).authenticated = true) :
    (∃ interaction ∈ history, interaction.pre.liveSerial = some pairing.serial ∧
      Interactive pairing.serial interaction.event interaction.effects) ∧
    ∀ earlier ∈ history, earlier.pre.liveSerial = some pairing.serial →
      ¬Unattended earlier.event earlier.effects := by
  have consistent := consistent_of_run run
  obtain ⟨waiting, authenticated⟩ : st.state = .waitLinkKey ∧ pairing.authenticated = true := by
    rcases (transition_linkKey (step_transition completes)).1 key keyType stored with
      ⟨idle, -⟩ | ⟨waiting, other, live', -, same⟩
    · exact absurd (currentPairing_eq_none_of_idle consistent idle) (by simp [live])
    · rw [live] at live'; cases live'
      exact ⟨waiting, same ▸ authenticatedKey⟩
  -- Any earlier state of the same Pairing past its exchange has its negotiation.
  have settledAs : ∀ earlier ∈ history, ∀ other, earlier.pre.currentPairing = some other →
      other.serial = pairing.serial → 3 ≤ stage earlier.pre.state → other.authenticated = true := by
    intro earlier recorded other live' same settled
    obtain ⟨before, after, cut⟩ := List.append_of_mem recorded
    have kept := ((life_of_record run cut live').2 pairing live same.symm).2 settled
    have same : pairing.authenticated = other.authenticated := congrArg Negotiation.authenticated kept
    exact same ▸ authenticated
  refine ⟨?_, fun earlier recorded liveSerial unattended => ?_⟩
  · obtain ⟨interaction, recorded, other, liveBefore, same, three, interactive⟩ :=
      user_step_of_run run live (by simp [waiting, stage]) (by simp [waiting, stage])
    exact ⟨interaction, recorded, by simp [PairingState.liveSerial, liveBefore, same],
      same ▸ interactive (settledAs interaction recorded other liveBefore same (by omega))⟩
  · obtain ⟨other, liveOther, three, unauthenticated⟩ :=
      transition_unattended (run.transition_of_mem recorded) (consistent_of_mem run recorded) unattended
    have same : other.serial = pairing.serial := by simpa [PairingState.liveSerial, liveOther] using liveSerial
    simp [settledAs earlier recorded other liveOther same (by omega)] at unauthenticated

theorem authenticated_key_after_comparison :
    ∃ history st st' effects pairing,
      Run (fun _ => ⟨.authenticated, true⟩) (PairingState.create (some .displayYesNo) none) history st ∧
      step (fun _ => ⟨.authenticated, true⟩) st (.linkKeyNotification 7 .authenticatedCombination192 true) = .ok (st', effects) ∧
      st.currentPairing = some pairing ∧ Effect.setBrEdrLinkKey ⟨7, 0, 0⟩ .authenticatedCombination192 ∈ effects ∧
      ∃ interaction ∈ history, interaction.pre.liveSerial = some pairing.serial ∧
        Interactive pairing.serial interaction.event interaction.effects := by
  obtain ⟨history, st, run, st', effects, pairing, completes, live, stored⟩ : ∃ history st,
      Run (fun _ => ⟨.authenticated, true⟩) (PairingState.create (some .displayYesNo) none) history st ∧ ∃ st' effects pairing,
      step (fun _ => ⟨.authenticated, true⟩) st (.linkKeyNotification 7 .authenticatedCombination192 true) = .ok (st', effects) ∧
      st.currentPairing = some pairing ∧ Effect.setBrEdrLinkKey ⟨7, 0, 0⟩ .authenticatedCombination192 ∈ effects :=
    ⟨_, _, @execute_sound _ _ _
      [.ioCapabilityResponse .displayYesNo, .ioCapabilityRequest, .userConfirmationRequest 123456,
        .simplePairingComplete 0] _ rfl, _, _, _, rfl, rfl, by simp⟩
  exact ⟨history, st, st', effects, pairing, run, completes, live, stored,
    (authenticated_key_needs_user_interaction run completes live stored (by decide)).1⟩

end ZirconRpi.Gap.Security
