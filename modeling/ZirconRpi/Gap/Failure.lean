import ZirconRpi.Gap.Lifecycle

/-! How a negotiation fails. An event a handler does not expect fails it at once with
NotSupported. `Failed` is absorbing: from it the machine only answers, and never
asks for authentication, prompts the delegate, writes the key or starts encryption. The
delegate hears how pairing ended only from `OnSimplePairingComplete`, once per Pairing; a
Pairing dropped any other way leaves the delegate's prompt open. -/

namespace ZirconRpi.Gap.Failure
open ZirconRpi.Gap.Decision ZirconRpi.Gap.Machine ZirconRpi.Gap.Table ZirconRpi.Gap.Trace
open ZirconRpi.Gap.Lifecycle

/-- The effects that reach the pairing delegate: its prompts, its completion hook, and the local
IO capability read from it and returned to the controller. -/
def reachesDelegate : Effect → Bool
  | .displayPasskey .. | .confirmPairing _ | .requestPasskey _ | .completePairing _ => true
  | .ioCapabilityReply (some _) => true
  | _ => false

variable {securityProperties : LinkKeyType → SecurityProperties}
variable {st st' : PairingState} {event : Event} {effects : List Effect} {effect : Effect}

theorem reachesDelegate_of_mem_signalEffects {callbacks : List CallbackId} {status : Status}
    (signalled : effect ∈ signalEffects callbacks status) : reachesDelegate effect = false := by
  rcases mem_signalEffects.mp signalled with rfl | ⟨_, _, rfl⟩ <;> rfl

theorem reachesDelegate_of_mem_negativeReply (replied : effect ∈ negativeReply event) :
    reachesDelegate effect = false := by
  rcases mem_negativeReply.mp replied with ⟨_, rfl⟩ | ⟨_, _, rfl⟩ | ⟨_, rfl⟩ <;> rfl

/-- What a rejecting handler emits never reaches the delegate. -/
theorem reachesDelegate_of_mem_rejection {callbacks : List CallbackId} {status : Status}
    (emitted : effect ∈ signalEffects callbacks status ++ negativeReply event) : reachesDelegate effect = false := by
  rcases List.mem_append.mp emitted with signalled | replied
  exacts [reachesDelegate_of_mem_signalEffects signalled, reachesDelegate_of_mem_negativeReply replied]

/-- From `Failed` every call stays in `Failed` and only answers its caller or the controller. -/
theorem transition_from_failed (row : Transition securityProperties st event st' effects)
    (failed : st.state = .failed) :
    st'.state = .failed ∧ Effect.initiatorAction .sendAuthenticationRequest ∉ effects ∧
      (∀ effect ∈ effects, reachesDelegate effect = false) ∧
      (∀ key keyType, Effect.setBrEdrLinkKey key keyType ∉ effects) ∧ Effect.startEncryption ∉ effects := by
  cases row with
  | unexpected =>
    exact ⟨rfl, by simp [mem_signalEffects], fun _ emitted => reachesDelegate_of_mem_rejection emitted,
      by simp [mem_signalEffects], by simp [mem_signalEffects]⟩
  | _ => simp_all [reachesDelegate, mem_signalEffects]

/-- Failed is absorbing: from a `Failed` state, whatever calls follow, the machine stays in
`Failed`, never tells a caller to send an Authentication Request, never reaches the delegate,
never stores a link key and never starts encryption. -/
theorem failed_is_absorbing {start final : PairingState} {history : List Record}
    (run : Run securityProperties start history final) (failed : start.state = .failed) :
    final.state = .failed ∧ ∀ record ∈ history, record.pre.state = .failed ∧ record.post.state = .failed ∧
      Effect.initiatorAction .sendAuthenticationRequest ∉ record.effects ∧
      (∀ effect ∈ record.effects, reachesDelegate effect = false) ∧
      (∀ key keyType, Effect.setBrEdrLinkKey key keyType ∉ record.effects) ∧
      Effect.startEncryption ∉ record.effects := by
  have stays : ∀ {history final}, Run securityProperties start history final → final.state = .failed :=
    fun run => run.preserves (·.state = .failed) (fun _ _ _ _ failed row => (transition_from_failed row failed).1)
      failed
  refine ⟨stays run, fun record recorded => ?_⟩
  obtain ⟨before, after, cut⟩ := List.append_of_mem recorded
  have pre := stays (run.prefix_of_eq cut).1
  exact ⟨pre, transition_from_failed (run.transition_of_mem recorded) pre⟩

theorem failed_with_live_pairing_stays_failed :
    ∃ history final,
      Run (fun _ => ⟨.encrypted, false⟩) ⟨.failed, some (Pairing.makeInitiator 0 0), some .displayYesNo, none, 1⟩
        history final ∧
      history.length = 4 ∧ final.state = .failed ∧ ∀ record ∈ history, Effect.startEncryption ∉ record.effects := by
  obtain ⟨history, final, run, length⟩ : ∃ history final,
      Run (fun _ => ⟨.encrypted, false⟩) ⟨.failed, some (Pairing.makeInitiator 0 0), some .displayYesNo, none, 1⟩
        history final ∧ history.length = 4 :=
    ⟨_, _, @execute_sound _ _ _
      [.initiatePairing 1, .confirmCallback (.userConfirmation 0) true, .authenticationComplete 0 true,
        .initiatePairing 2] _ rfl, rfl⟩
  obtain ⟨failed, records⟩ := failed_is_absorbing run rfl
  exact ⟨history, final, run, length, failed, fun record recorded => (records record recorded).2.2.2.2.2⟩

/-! ## Unexpected events -/

/-- A controller event its handler's guard rejects, in any state: the machine moves to
`Failed`, drops the Pairing, signals NotSupported once to the top-level callback and to each
queued caller, and answers the pending request negatively; it reaches no delegate, writes no
key and starts no encryption. -/
theorem unexpected_event_fails {st : PairingState} {event : Event} (unexpected : Unexpected st event) :
    step securityProperties st event =
      .ok ({ st with state := .failed, currentPairing := none },
        signalEffects (queue st) (.hostError .notSupported) ++ negativeReply event) := by
  cases event with
  | ioCapabilityRequest =>
    rw [step, onIoCapabilityRequest, if_neg unexpected.1, if_neg unexpected.2, thenEmit,
      failWithUnexpectedEvent_eq]; rfl
  | ioCapabilityResponse =>
    rw [step, onIoCapabilityResponse, if_neg unexpected.1, if_neg unexpected.2,
      failWithUnexpectedEvent_eq]
    simp [negativeReply]
  | userConfirmationRequest =>
    rw [step, onUserConfirmationRequest, if_pos (show st.state ≠ _ from unexpected), thenEmit,
      failWithUnexpectedEvent_eq]; rfl
  | userPasskeyRequest =>
    rw [step, onUserPasskeyRequest, if_pos (show st.state ≠ _ from unexpected), thenEmit,
      failWithUnexpectedEvent_eq]; rfl
  | userPasskeyNotification =>
    rw [step, onUserPasskeyNotification, if_pos (show st.state ≠ _ from unexpected),
      failWithUnexpectedEvent_eq]
    simp [negativeReply]
  | simplePairingComplete =>
    rw [step, onSimplePairingComplete, if_pos (show st.state ≠ _ from unexpected),
      failWithUnexpectedEvent_eq]
    simp [negativeReply]
  | linkKeyNotification =>
    obtain ⟨notDebug, notRekey, notWaiting⟩ := unexpected
    rw [step, onLinkKeyNotification, zxAssert, if_pos notDebug, if_neg notRekey, if_pos notWaiting,
      failWithUnexpectedEvent_eq]
    simp [negativeReply]
  | authenticationComplete =>
    rw [step, onAuthenticationComplete, if_pos (show _ ∧ _ from unexpected), failWithUnexpectedEvent_eq]
    simp [negativeReply]
  | _ => exact unexpected.elim

theorem passkey_request_while_initiating_fails :
    Unexpected ⟨.initiatorPairingStarted, some (Pairing.makeInitiator 0 7), some .displayYesNo, none, 1⟩
        .userPasskeyRequest ∧
      step (fun _ => ⟨.encrypted, false⟩)
          ⟨.initiatorPairingStarted, some (Pairing.makeInitiator 0 7), some .displayYesNo, none, 1⟩
          .userPasskeyRequest =
        .ok (⟨.failed, none, some .displayYesNo, none, 1⟩,
          [.statusCallback (.hostError .notSupported), .initiatorCallback 7 (.hostError .notSupported),
            .userPasskeyReply none]) :=
  have unexpected : Unexpected ⟨.initiatorPairingStarted, some (Pairing.makeInitiator 0 7),
      some .displayYesNo, none, 1⟩ .userPasskeyRequest := (by decide : State.initiatorPairingStarted ≠ _)
  ⟨unexpected, unexpected_event_fails unexpected⟩

/-! ## The delegate's completion hook -/

/-- Only `OnSimplePairingComplete` in `WaitPairingComplete`, with a delegate attached, calls
`CompletePairing`: with success when the controller reports success, with Failed right before
signalling the Pairing's callers otherwise. -/
theorem transition_completePairing (row : Transition securityProperties st event st' effects) {status : Status}
    (completed : Effect.completePairing status ∈ effects) :
    st.state = .waitPairingComplete ∧ st.pairingDelegate ≠ none ∧
    ∃ statusCode pairing, event = .simplePairingComplete statusCode ∧ st.currentPairing = some pairing ∧
      (((Status.ofStatusCode statusCode).isSuccess = true ∧ status = .success ∧
          effects = [.completePairing .success] ∧ st'.state = .waitLinkKey ∧ st'.currentPairing = some pairing) ∨
        ((Status.ofStatusCode statusCode).isSuccess = false ∧ status = .hostError .failed ∧
          st'.currentPairing = none ∧
          effects = .completePairing status :: signalEffects pairing.initiatorCallbacks (.ofStatusCode statusCode))) := by
  cases row with
  | simplePairingFailed waiting live failure =>
    cases attached : st.pairingDelegate with
    | none => simp [attached, mem_signalEffects] at completed
    | some capability =>
      simp only [attached, Option.isSome_some, if_true, List.singleton_append, List.mem_cons,
        Effect.completePairing.injEq, mem_signalEffects, reduceCtorEq, false_or, and_false, exists_false,
        or_false] at completed
      exact ⟨waiting, by simp, _, _, rfl, live, .inr ⟨failure, completed, rfl, by simp [attached, completed]⟩⟩
  | simplePairingSucceeded waiting live success attached =>
    simp only [List.mem_singleton, Effect.completePairing.injEq] at completed
    exact ⟨waiting, attached, _, _, rfl, live, .inl ⟨success, completed, rfl, rfl, live⟩⟩
  | _ => simp_all [mem_signalEffects]

/-- Along a run from construction, a call that invokes `CompletePairing` finds a Pairing that no
earlier `CompletePairing` was for. -/
theorem completePairing_at_most_once {pairingDelegate : Option IOCapability}
    {linkKey : Option (LinkKey × LinkKeyType)} {history : List Record} {status : Status}
    (run : Run securityProperties (PairingState.create pairingDelegate linkKey) history st)
    (completes : step securityProperties st event = .ok (st', effects))
    (completed : Effect.completePairing status ∈ effects) :
    ∀ earlier ∈ history, ∀ status', Effect.completePairing status' ∈ earlier.effects →
      earlier.pre.liveSerial ≠ st.liveSerial := by
  intro earlier recorded status' earlierCompleted same
  obtain ⟨before, after, cut⟩ := List.append_of_mem recorded
  obtain ⟨prefixRun, earlierCompletes⟩ := run.prefix_of_eq cut
  have row := step_transition earlierCompletes
  have fresh := fresh_of_run prefixRun
  obtain ⟨-, -, _, other, -, liveOther, outcome⟩ := transition_completePairing row earlierCompleted
  -- After its completion, the earlier Pairing is past `WaitPairingComplete` or gone for good.
  have past : Life other.serial 5 (negotiation other) earlier.post := by
    rcases outcome with ⟨-, -, -, linkKeyState, liveAfter⟩ | ⟨-, -, gone, -⟩
    · have life := life_of_live (fresh_transition row fresh) liveAfter
      rwa [linkKeyState] at life
    · exact ⟨(life_transition row (life_of_live fresh liveOther)).1, fun _ live => by simp [gone] at live⟩
  obtain ⟨waiting, -, _, pairing, -, live, -⟩ := transition_completePairing (step_transition completes) completed
  have serial : pairing.serial = other.serial := by
    simpa [PairingState.liveSerial, live, liveOther] using same.symm
  have := ((life_of_run (run.suffix_of_eq cut) past).2 pairing live serial).1
  simp [waiting, stage] at this

/-- A reported pairing failure reaches the delegate: `OnSimplePairingComplete` with a failure, in
`WaitPairingComplete` with a delegate attached, calls `CompletePairing(Failed)` before signalling
the Pairing's callers and dropping it. -/
theorem simplePairingComplete_failed {pairing : Pairing} {statusCode : StatusCode}
    (waiting : st.state = .waitPairingComplete) (live : st.currentPairing = some pairing)
    (attached : st.pairingDelegate ≠ none) (failure : (Status.ofStatusCode statusCode).isSuccess = false) :
    step securityProperties st (.simplePairingComplete statusCode) =
      .ok ({ st with state := .failed, currentPairing := none },
        .completePairing (.hostError .failed) :: signalEffects pairing.initiatorCallbacks (.ofStatusCode statusCode)) := by
  obtain ⟨capability, attached⟩ := Option.ne_none_iff_exists'.mp attached
  rw [step, onSimplePairingComplete, if_neg (not_not.mpr waiting), zxAssert, live, if_pos Option.isSome_some]
  dsimp only
  rw [failure, if_pos (by decide), attached, if_pos Option.isSome_some, emitThen, signalStatus_eq]
  simp [queue, live]

/-- The delegate's prompt is left open when a Pairing fails any other way. `OnSimplePairingComplete`
with a failure calls `CompletePairing(Failed)`, and `CompletePairing` is called at most once per
Pairing; but an event that `FailWithUnexpectedEvent` rejects in `WaitPairingComplete` drops the
Pairing with NotSupported and no `CompletePairing`. A responder whose comparison is on the
delegate's screen is dropped so by an Authentication Complete. -/
theorem unexpected_event_skips_completePairing :
    (∀ {st : PairingState} {pairing : Pairing} {statusCode : StatusCode}, st.state = .waitPairingComplete →
      st.currentPairing = some pairing → st.pairingDelegate ≠ none →
      (Status.ofStatusCode statusCode).isSuccess = false →
      step securityProperties st (.simplePairingComplete statusCode) =
        .ok ({ st with state := .failed, currentPairing := none },
          .completePairing (.hostError .failed) :: signalEffects pairing.initiatorCallbacks (.ofStatusCode statusCode))) ∧
    (∀ {pairingDelegate : Option IOCapability} {linkKey : Option (LinkKey × LinkKeyType)} {history : List Record}
        {st st' : PairingState} {event : Event} {effects : List Effect} {status : Status},
      Run securityProperties (PairingState.create pairingDelegate linkKey) history st →
      step securityProperties st event = .ok (st', effects) → Effect.completePairing status ∈ effects →
      ∀ earlier ∈ history, ∀ status', Effect.completePairing status' ∈ earlier.effects →
        earlier.pre.liveSerial ≠ st.liveSerial) ∧
    (∀ {st : PairingState} {pairing : Pairing} {event : Event}, st.state = .waitPairingComplete →
      st.currentPairing = some pairing → Unexpected st event →
      step securityProperties st event = .ok ({ st with state := .failed, currentPairing := none },
        signalEffects pairing.initiatorCallbacks (.hostError .notSupported) ++ negativeReply event) ∧
      ∀ status, Effect.completePairing status ∉
        signalEffects pairing.initiatorCallbacks (.hostError .notSupported) ++ negativeReply event) ∧
    (execute (fun _ => ⟨.encrypted, false⟩) (PairingState.create (some .displayYesNo) none)
        [.ioCapabilityResponse .displayYesNo, .ioCapabilityRequest, .userConfirmationRequest 123456,
          .authenticationComplete 5 true]).map
      (fun run => (run.1.map fun record => record.effects, run.2.state, run.2.currentPairing)) =
      .ok ([[], [.ioCapabilityReply (some .displayYesNo)],
          [.displayPasskey 123456 .comparison (.userConfirmation 0)],
          [.statusCallback (.hostError .notSupported)]], .failed, none) := by
  refine ⟨simplePairingComplete_failed, completePairing_at_most_once, fun _ live unexpected => ?_, rfl⟩
  rw [unexpected_event_fails unexpected, queue, live]
  exact ⟨rfl, fun _ completed => absurd (reachesDelegate_of_mem_rejection completed) (by simp [reachesDelegate])⟩

end ZirconRpi.Gap.Failure
