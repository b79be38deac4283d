import ZirconRpi.Gap.Consistency
import ZirconRpi.Gap.Lifecycle

/-! The pairing delegate, seen from the machine. Its answers reach the controller only while the
Pairing that prompted it is live; and when it is detached, a call that needs it signals NotReady
only in the responder's `OnIoCapabilityRequest`. -/

namespace ZirconRpi.Gap.Delegate
open ZirconRpi.Gap.Decision ZirconRpi.Gap.Machine ZirconRpi.Gap.Table ZirconRpi.Gap.Trace
open ZirconRpi.Gap.Consistency ZirconRpi.Gap.Lifecycle

/-- A delegate request of the Pairing with serial `serial`: `DisplayPasskey`, `ConfirmPairing`
or `RequestPasskey`, each handed a callback bound to that Pairing. -/
def Prompts (serial : Nat) : Effect → Prop
  | .displayPasskey _ _ callback | .confirmPairing callback => callback.pairing = serial
  | .requestPasskey pairing => pairing = serial
  | _ => False

/-- The delegate invoking a callback of a request of the Pairing with serial `serial`. -/
def Answers (serial : Nat) : Event → Prop
  | .confirmCallback callback _ => callback.pairing = serial
  | .passkeyCallback pairing _ => pairing = serial
  | _ => False

variable {securityProperties : LinkKeyType → SecurityProperties}
variable {st st' : PairingState} {event : Event} {effects : List Effect} {serial : Nat}

theorem prompts_cases {effect : Effect} (prompt : Prompts serial effect) :
    (∃ numericValue method callback, effect = .displayPasskey numericValue method callback) ∨
      (∃ callback, effect = .confirmPairing callback) ∨ effect = .requestPasskey serial := by
  cases effect <;> simp_all [Prompts]

/-- A prompt is issued for the live Pairing. -/
theorem transition_prompts {effect : Effect} (row : Transition securityProperties st event st' effects)
    (prompted : effect ∈ effects) (prompt : Prompts serial effect) :
    ∃ pairing, st.currentPairing = some pairing ∧ pairing.serial = serial := by
  cases row with
  | userConfirmationCompare _ live | userConfirmationConsent _ live | userPasskeyRequest _ live
  | userPasskeyNotification _ live =>
    rw [List.mem_singleton] at prompted; subst prompted
    exact ⟨_, live, prompt⟩
  | _ =>
    rcases prompts_cases prompt with ⟨_, _, _, rfl⟩ | ⟨_, rfl⟩ | rfl <;> simp [mem_signalEffects] at prompted

/-- An answer from the delegate changes nothing in the machine, and reaches the controller only
while the Pairing it is bound to is live. -/
theorem transition_answer (row : Transition securityProperties st event st' effects)
    (answers : Answers serial event) : st' = st ∧ (effects ≠ [] → st.liveSerial = some serial) := by
  cases row with
  | confirmForwarded live => exact ⟨rfl, fun _ => (answers : _ = serial) ▸ live⟩
  | passkeyForwarded live => exact ⟨rfl, fun _ => (answers : _ = serial) ▸ live⟩
  | confirmDropped | passkeyDropped => exact ⟨rfl, fun sent => absurd rfl sent⟩
  | @unexpected event rejected => cases event <;> first | exact answers.elim | exact rejected.elim
  | _ => exact answers.elim

/-- Stale delegate replies: whenever in a run the delegate answers a request, the request came
from the Pairing then live, and the answer changes neither the state nor any Pairing. It
reaches the controller only while that Pairing is live; once the Pairing has been dropped,
whatever Pairing is live by then, the answer is ignored. -/
theorem delegate_reply_only_while_pairing_live {pairingDelegate : Option IOCapability}
    {linkKey : Option (LinkKey × LinkKeyType)} {history before middle after : List Record}
    {request reply : Record} {effect : Effect}
    (run : Run securityProperties (PairingState.create pairingDelegate linkKey) history st)
    (cut : history = before ++ request :: middle ++ reply :: after)
    (prompted : effect ∈ request.effects) (prompt : Prompts serial effect)
    (answers : Answers serial reply.event) :
    (∃ pairing, request.pre.currentPairing = some pairing ∧ pairing.serial = serial) ∧
      reply.post = reply.pre ∧ (reply.effects ≠ [] → reply.pre.liveSerial = some serial) ∧
      ((∃ record ∈ middle, record.post.liveSerial ≠ some serial) → reply.effects = []) := by
  subst cut
  have requestRun := run.prefix_of_eq (show _ = before ++ request :: (middle ++ reply :: after) by simp)
  have requestRow := step_transition requestRun.2
  obtain ⟨pairing, live, same⟩ := transition_prompts requestRow prompted prompt
  obtain ⟨unchanged, forwarded⟩ := transition_answer (run.transition_of_mem (by simp)) answers
  refine ⟨⟨pairing, live, same⟩, unchanged, forwarded, fun ⟨record, recorded, dropped⟩ => ?_⟩
  obtain ⟨earlier, later, rfl⟩ := List.append_of_mem recorded
  have between := run.between
  obtain ⟨earlierRun, completes⟩ := between.prefix_of_eq rfl
  -- The issuer's serial was handed out before the request, so once dropped it stays dropped.
  have life := life_transition (step_transition completes)
    (life_of_run earlierRun (life_transition requestRow (life_of_live (fresh_of_run requestRun.1) live)))
  have gone := gone_of_run (between.suffix_of_eq rfl) ⟨same ▸ life.1, dropped⟩
  by_contra sent
  exact gone.2 (forwarded sent)

theorem stale_reply_ignored_under_new_pairing :
    ∃ history st before request middle reply after,
      Run (fun _ => ⟨.authenticated, true⟩) (PairingState.create (some .displayYesNo) none) history st ∧
      history = before ++ request :: middle ++ reply :: after ∧
      Effect.displayPasskey 123456 .comparison (.userConfirmation 0) ∈ request.effects ∧
      reply.event = .confirmCallback (.userConfirmation 0) true ∧ reply.pre.liveSerial = some 1 ∧
      reply.post = reply.pre ∧ reply.effects = [] := by
  have run := @execute_sound (fun _ => ⟨.authenticated, true⟩) (PairingState.create (some .displayYesNo) none) _
      [.ioCapabilityResponse .displayYesNo, .ioCapabilityRequest, .userConfirmationRequest 123456,
        .simplePairingComplete 0, .linkKeyNotification 7 .authenticatedCombination192 true,
        .encryptionChange .success true, .ioCapabilityResponse .displayYesNo,
        .confirmCallback (.userConfirmation 0) true] _ rfl
  refine ⟨_, _, [_, _], _, [_, _, _, _], _, [], run, rfl, ?_⟩
  have reply := @delegate_reply_only_while_pairing_live _ _ 0 _ _ _ _ _ _ _ _
    (.displayPasskey 123456 .comparison (.userConfirmation 0)) run
    (rfl : _ = [_, _] ++ _ :: [_, _, _, _] ++ _ :: []) (List.mem_singleton_self _) rfl rfl
  obtain ⟨-, unchanged, -, stale⟩ := reply
  exact ⟨List.mem_singleton_self _, rfl, rfl, unchanged,
    stale ⟨_, List.mem_cons_of_mem _ (List.mem_cons_of_mem _ (List.mem_cons_self _ _)), by decide⟩⟩

/-! ## A detached delegate -/

/-- The calls that need the pairing delegate in the state they find: reading its IO
capability, routing a prompt to it, or reporting the outcome of pairing to it. -/
def NeedsDelegate (st : PairingState) : Event → Prop
  | .ioCapabilityRequest => st.state = .initiatorPairingStarted ∨ st.state = .responderWaitIoCapRequest
  | .userConfirmationRequest _ => st.state = .waitUserConfirmationRequest
  | .userPasskeyRequest => st.state = .waitUserPasskeyRequest
  | .userPasskeyNotification _ => st.state = .waitUserPasskeyNotification
  | .simplePairingComplete _ => st.state = .waitPairingComplete
  | _ => False

/-- Where a call needs the delegate and none is attached, only the responder's
`OnIoCapabilityRequest` fails the negotiation with NotReady; a reported pairing failure is
signalled with the controller's status; every other such call aborts. -/
theorem step_without_delegate (consistent : Consistent st.state st.currentPairing)
    (detached : st.pairingDelegate = none) (needs : NeedsDelegate st event) :
    (event = .ioCapabilityRequest ∧ st.state = .responderWaitIoCapRequest ∧
      step securityProperties st event = .ok ({ st with state := .idle, currentPairing := none },
        signalEffects (queue st) (.hostError .notReady) ++ [.ioCapabilityReply none])) ∨
    (∃ statusCode, event = .simplePairingComplete statusCode ∧
      (Status.ofStatusCode statusCode).isSuccess = false ∧
      step securityProperties st event = .ok ({ st with state := .failed, currentPairing := none },
        signalEffects (queue st) (.ofStatusCode statusCode))) ∨
    ∃ fault, step securityProperties st event = .error fault := by
  cases event with
  | ioCapabilityRequest =>
    rcases needs with started | waiting
    · obtain ⟨pairing, live, isInitiator⟩ : ∃ pairing, st.currentPairing = some pairing ∧ pairing.initiator = true := by
        simpa [started, Consistent] using consistent
      refine .inr (.inr ⟨.assertion "pairing_delegate()", ?_⟩)
      rw [step, onIoCapabilityRequest, if_pos started, withPairing, live]
      dsimp only
      rw [zxAssert, if_pos isInitiator, detached]
    · obtain ⟨pairing, live, isResponder⟩ : ∃ pairing, st.currentPairing = some pairing ∧ pairing.initiator = false := by
        simpa [waiting, Consistent] using consistent
      refine .inl ⟨rfl, waiting, ?_⟩
      rw [step, onIoCapabilityRequest, if_neg (by simp [waiting]), if_pos waiting, withPairing, live]
      dsimp only
      rw [zxAssert, if_pos isResponder, detached]
      dsimp only
      rw [thenEmit, signalStatus_eq]
      simp [queue, live, detached]
  | userConfirmationRequest _ | userPasskeyRequest | userPasskeyNotification _ =>
    simp only [NeedsDelegate] at needs
    obtain ⟨pairing, live⟩ := Option.ne_none_iff_exists'.mp
      (currentPairing_ne_none consistent (by simp [needs]) (by simp [needs]))
    refine .inr (.inr ⟨.assertion "pairing_delegate()", ?_⟩)
    simp [step, onUserConfirmationRequest, onUserPasskeyRequest, onUserPasskeyNotification, withPairing, zxAssert,
      needs, live, detached]
  | simplePairingComplete statusCode =>
    replace needs : st.state = .waitPairingComplete := needs
    obtain ⟨pairing, live⟩ := Option.ne_none_iff_exists'.mp
      (currentPairing_ne_none consistent (by simp [needs]) (by simp [needs]))
    rw [step, onSimplePairingComplete, if_neg (not_not.mpr needs), zxAssert, live, if_pos Option.isSome_some]
    dsimp only
    cases success : (Status.ofStatusCode statusCode).isSuccess
    · refine .inr (.inl ⟨_, rfl, success, ?_⟩)
      rw [if_pos (by decide), detached, if_neg (by simp), emitThen, signalStatus_eq]
      simp [queue, live, detached]
    · refine .inr (.inr ⟨.nullPairingDelegate, ?_⟩)
      rw [if_neg (by decide), detached]
  | _ => exact needs.elim

/-- The delegate is dropped after `InitiatePairing`: the controller's IO Capability Request then
aborts on `ZX_ASSERT(pairing_delegate())` instead of failing the negotiation. In every reachable
state, of the calls that need a delegate when none is attached, only the responder's
`OnIoCapabilityRequest` signals NotReady, a reported pairing failure is signalled with the
controller's status, and every other call aborts. -/
theorem detached_delegate_aborts_pairing :
    execute (fun _ => ⟨.encrypted, false⟩) (PairingState.create (some .displayYesNo) none)
        [.initiatePairing 0, .pairingDelegateChanged none, .ioCapabilityRequest] =
      .error (.assertion "pairing_delegate()") ∧
    ∀ {securityProperties : LinkKeyType → SecurityProperties} {st : PairingState} {event : Event},
      Reachable securityProperties st → st.pairingDelegate = none → NeedsDelegate st event →
      (event = .ioCapabilityRequest ∧ st.state = .responderWaitIoCapRequest ∧
        step securityProperties st event = .ok ({ st with state := .idle, currentPairing := none },
          signalEffects (queue st) (.hostError .notReady) ++ [.ioCapabilityReply none])) ∨
      (∃ statusCode, event = .simplePairingComplete statusCode ∧
        (Status.ofStatusCode statusCode).isSuccess = false ∧
        step securityProperties st event = .ok ({ st with state := .failed, currentPairing := none },
          signalEffects (queue st) (.ofStatusCode statusCode))) ∨
      ∃ fault, step securityProperties st event = .error fault :=
  ⟨rfl, fun reach => step_without_delegate (consistent_of_reachable reach)⟩

end ZirconRpi.Gap.Delegate
