import ZirconRpi.Gap.Trace
import Mathlib.Data.List.Nodup

/-! The coalesced callers of `InitiatePairing` and `SignalStatus`. A Pairing leaves only
through `SignalStatus`, which invokes its queued callers right after the top-level
callback; the callers still waiting are always the live Pairing's queue, in arrival order,
and nobody is invoked twice. `EnableEncryption` is the one path that differs: it calls the
top-level callback directly and leaves the Pairing and its queue alive. -/

namespace ZirconRpi.Gap.Signal
open ZirconRpi.Gap.Decision ZirconRpi.Gap.Machine ZirconRpi.Gap.Table ZirconRpi.Gap.Trace

/-- The caller callback a call hands over: that of `InitiatePairing`. -/
def passedBy : Event → List CallbackId
  | .initiatePairing callback => [callback]
  | _ => []

/-- The caller callbacks an effect list invokes, in order. -/
def invokedBy : List Effect → List CallbackId
  | [] => []
  | .initiatorCallback callback _ :: effects => callback :: invokedBy effects
  | _ :: effects => invokedBy effects

/-- The callbacks a run handed to `InitiatePairing`, in arrival order. -/
def passed (history : List Record) : List CallbackId :=
  history.flatMap fun record => passedBy record.event

def invoked (history : List Record) : List CallbackId :=
  history.flatMap fun record => invokedBy record.effects

@[simp] theorem invokedBy_append (first second : List Effect) :
    invokedBy (first ++ second) = invokedBy first ++ invokedBy second := by
  induction first with
  | nil => rfl
  | cons effect first ih => cases effect <;> simp [invokedBy, ih]

@[simp] theorem invokedBy_map_initiatorCallback (callbacks : List CallbackId) (status : Status) :
    invokedBy (callbacks.map (Effect.initiatorCallback · status)) = callbacks := by
  induction callbacks with
  | nil => rfl
  | cons callback callbacks ih => simpa [invokedBy] using ih

@[simp] theorem invokedBy_signalEffects (callbacks : List CallbackId) (status : Status) :
    invokedBy (signalEffects callbacks status) = callbacks := by
  simp [signalEffects, invokedBy]

@[simp] theorem invokedBy_negativeReply (event : Event) : invokedBy (negativeReply event) = [] := by
  cases event <;> rfl

@[simp] theorem passed_snoc (history : List Record) (record : Record) :
    passed (history ++ [record]) = passed history ++ passedBy record.event := by
  simp [passed]

@[simp] theorem invoked_snoc (history : List Record) (record : Record) :
    invoked (history ++ [record]) = invoked history ++ invokedBy record.effects := by
  simp [invoked]

variable {securityProperties : LinkKeyType → SecurityProperties}
variable {st st' : PairingState} {event : Event} {effects : List Effect}

/-- What one call does to the queued callers: `InitiatePairing` queues its caller or answers
it at once; any other call leaves the queue alone or invokes all of it and empties it. -/
theorem transition_callbacks (row : Transition securityProperties st event st' effects) :
    (∃ callback, event = .initiatePairing callback ∧
      (queue st' = queue st ++ [callback] ∧ invokedBy effects = [] ∨
        queue st' = queue st ∧ invokedBy effects = [callback])) ∨
    ((∀ callback, event ≠ .initiatePairing callback) ∧
      (queue st' = queue st ∧ invokedBy effects = [] ∨
        queue st' = [] ∧ invokedBy effects = queue st)) := by
  cases row with
  | unexpected rejected =>
    exact .inr ⟨by rintro callback rfl; exact rejected, .inr ⟨rfl, by simp⟩⟩
  | encryptionChanged => exact .inr ⟨by simp, .inr ⟨rfl, by simp⟩⟩
  | simplePairingFailed _ live =>
    refine .inr ⟨by simp, .inr ⟨rfl, ?_⟩⟩
    split <;> simp [queue, live, invokedBy]
  | linkKeyChangedWithoutKey => exact .inr ⟨by simp, .inr ⟨rfl, by simp⟩⟩
  | ioCapabilityRequestNotReady _ live | linkKeyRejected _ live | authenticationFailed _ live =>
    exact .inr ⟨by simp, .inr ⟨rfl, by simp [queue, live, invokedBy]⟩⟩
  | initiateNotReady | initiateCanceled => exact .inl ⟨_, rfl, .inr ⟨rfl, rfl⟩⟩
  | initiateStart _ _ absent => exact .inl ⟨_, rfl, .inl ⟨by simp [queue, absent, Pairing.makeInitiator], rfl⟩⟩
  | initiateQueued _ _ live => exact .inl ⟨_, rfl, .inl ⟨by simp [queue, live], rfl⟩⟩
  | _ =>
    refine .inr ⟨by simp, .inl ⟨?_, by simp [invokedBy]⟩⟩
    simp_all [queue, Pairing.makeResponder, Pairing.blank, Pairing.withPairingData]

/-- A live Pairing is only ever dropped by `SignalStatus`, which invokes its queue. -/
theorem transition_discards {pairing : Pairing} (row : Transition securityProperties st event st' effects)
    (live : st.currentPairing = some pairing) (gone : st'.liveSerial ≠ some pairing.serial) :
    st'.currentPairing = none ∧ ∃ status, signalEffects pairing.initiatorCallbacks status <:+: effects := by
  cases row with
  | ioCapabilityRequestNotReady _ live' =>
    rw [live] at live'; cases live'
    exact ⟨rfl, _, (List.prefix_append _ _).isInfix⟩
  | simplePairingFailed _ live' =>
    rw [live] at live'; cases live'
    exact ⟨rfl, _, (List.suffix_append _ _).isInfix⟩
  | linkKeyRejected _ live' | authenticationFailed _ live' =>
    rw [live] at live'; cases live'
    exact ⟨rfl, _, List.infix_refl _⟩
  | linkKeyChangedWithoutKey | encryptionChanged =>
    exact ⟨rfl, _, by simp only [queue, live]; exact List.infix_refl _⟩
  | unexpected => exact ⟨rfl, _, by simp only [queue, live]; exact (List.prefix_append _ _).isInfix⟩
  | _ => simp_all [PairingState.liveSerial, Pairing.withPairingData]

/-- One call keeps the pending callers equal to the live Pairing's queue: either nobody is
invoked, or the new caller is answered at once, or the whole queue is invoked and dropped. -/
theorem callers_step {history : List Record} {record : Record}
    (row : Transition securityProperties record.pre record.event record.post record.effects)
    (distinct : (passed (history ++ [record])).Nodup) (unique : (invoked history).Nodup)
    (known : ∀ callback ∈ invoked history, callback ∈ passed history)
    (pending : queue record.pre = (passed history).filter (· ∉ invoked history)) :
    (invoked (history ++ [record])).Nodup ∧
      (∀ callback ∈ invoked (history ++ [record]), callback ∈ passed (history ++ [record])) ∧
      queue record.post = (passed (history ++ [record])).filter (· ∉ invoked (history ++ [record])) := by
  simp only [passed_snoc, invoked_snoc] at distinct ⊢
  rcases transition_callbacks row with ⟨callback, called, step⟩ | ⟨other, step⟩
  · have handed : passedBy record.event = [callback] := by rw [called]; rfl
    rw [handed] at distinct ⊢
    have fresh : callback ∉ passed history := fun handedBefore =>
      (List.nodup_append.mp distinct).2.2 handedBefore (List.mem_singleton_self _)
    have unanswered : callback ∉ invoked history := fun answered => fresh (known _ answered)
    rcases step with ⟨queued, answered⟩ | ⟨kept, answered⟩
    · rw [answered, List.append_nil]
      refine ⟨unique, fun c invokedBefore => List.mem_append_left _ (known c invokedBefore), ?_⟩
      simp [queued, pending, unanswered]
    · rw [answered]
      refine ⟨List.nodup_append.mpr ⟨unique, List.nodup_singleton _, by simpa using unanswered⟩, ?_, ?_⟩
      · simpa [or_comm] using fun c invokedBefore => Or.inr (known c invokedBefore)
      · rw [kept, pending, List.filter_append, List.filter_singleton]
        have dropped : decide (callback ∉ invoked history ++ [callback]) = false := by simp
        rw [dropped, cond_false, List.append_nil]
        refine List.filter_congr fun c handedBefore => ?_
        have : c ≠ callback := fun same => fresh (same ▸ handedBefore)
        simp [this]
  · have handed : passedBy record.event = [] := by
      cases called : record.event <;> first | rfl | exact absurd called (other _)
    rw [handed, List.append_nil] at distinct ⊢
    rcases step with ⟨kept, answered⟩ | ⟨emptied, answered⟩
    · rw [answered, List.append_nil, kept]
      exact ⟨unique, known, pending⟩
    · rw [answered, emptied, pending]
      refine ⟨List.nodup_append.mpr ⟨unique, distinct.filter _, ?_⟩, ?_, ?_⟩
      · intro c invokedBefore waiting
        have stillWaiting : c ∉ invoked history := by simpa using (List.mem_filter.mp waiting).2
        exact stillWaiting invokedBefore
      · intro c invokedNow
        rcases List.mem_append.mp invokedNow with invokedBefore | waiting
        · exact known c invokedBefore
        · exact (List.mem_filter.mp waiting).1
      · refine (List.filter_eq_nil_iff.mpr fun c handedBefore => ?_).symm
        by_cases answeredBefore : c ∈ invoked history <;> simp [answeredBefore, handedBefore]

/-- No caller is lost or answered twice: each callback handed to `InitiatePairing` is invoked
at most once, the callers still waiting are exactly the live Pairing's queue in arrival
order, and a Pairing is only dropped by `SignalStatus` invoking that queue. -/
theorem callers_neither_lost_nor_duplicated {pairingDelegate : Option IOCapability}
    {linkKey : Option (LinkKey × LinkKeyType)} {history : List Record} {st : PairingState}
    (run : Run securityProperties (PairingState.create pairingDelegate linkKey) history st)
    (distinct : (passed history).Nodup) :
    (invoked history).Nodup ∧ (∀ callback ∈ invoked history, callback ∈ passed history) ∧
      queue st = (passed history).filter (· ∉ invoked history) ∧
      ∀ record ∈ history, ∀ pairing, record.pre.currentPairing = some pairing →
        record.post.liveSerial ≠ some pairing.serial →
        record.post.currentPairing = none ∧
          ∃ status, signalEffects pairing.initiatorCallbacks status <:+: record.effects := by
  have pending : (invoked history).Nodup ∧ (∀ callback ∈ invoked history, callback ∈ passed history) ∧
      queue st = (passed history).filter (· ∉ invoked history) := by
    induction run with
    | nil => exact ⟨List.nodup_nil, by simp [invoked], rfl⟩
    | @snoc history st event st' effects prefixRun completes ih =>
      have prefixDistinct : (passed history).Nodup :=
        distinct.sublist (by simp)
      obtain ⟨unique, known, pending⟩ := ih prefixDistinct
      exact callers_step (step_transition completes) distinct unique known pending
  exact ⟨pending.1, pending.2.1, pending.2.2, fun record recorded pairing live gone =>
    transition_discards (run.transition_of_mem recorded) live gone⟩

theorem callers_on_coalesced_run :
    let history : List Record :=
      [⟨PairingState.create (some .displayYesNo) none, .initiatePairing 0,
          ⟨.initiatorPairingStarted, some (Pairing.makeInitiator 0 0), some .displayYesNo, none, 1⟩,
          [.initiatorAction .sendAuthenticationRequest]⟩,
        ⟨⟨.initiatorPairingStarted, some (Pairing.makeInitiator 0 0), some .displayYesNo, none, 1⟩,
          .initiatePairing 1,
          ⟨.initiatorPairingStarted, some { Pairing.makeInitiator 0 0 with initiatorCallbacks := [0, 1] },
            some .displayYesNo, none, 1⟩,
          [.initiatorAction .doNotSendAuthenticationRequest]⟩]
    Run (fun _ => ⟨.encrypted, false⟩) (PairingState.create (some .displayYesNo) none) history
        ⟨.initiatorPairingStarted, some { Pairing.makeInitiator 0 0 with initiatorCallbacks := [0, 1] },
          some .displayYesNo, none, 1⟩ ∧
      (passed history).Nodup ∧ (invoked history).Nodup ∧
      queue ⟨.initiatorPairingStarted, some { Pairing.makeInitiator 0 0 with initiatorCallbacks := [0, 1] },
          some .displayYesNo, none, 1⟩ = (passed history).filter (· ∉ invoked history) := by
  intro history
  have run : Run (fun _ => ⟨.encrypted, false⟩) (PairingState.create (some .displayYesNo) none) history
      ⟨.initiatorPairingStarted, some { Pairing.makeInitiator 0 0 with initiatorCallbacks := [0, 1] },
        some .displayYesNo, none, 1⟩ :=
    @execute_sound _ _ _ [.initiatePairing 0, .initiatePairing 1] _ rfl
  have distinct : (passed history).Nodup := by decide
  obtain ⟨unique, -, pending, -⟩ := callers_neither_lost_nor_duplicated run distinct
  exact ⟨run, distinct, unique, pending⟩

/-- Only `InitiatePairing` on an idle machine, with a delegate and no Pairing, asks the caller
to send the Authentication Request, and the Pairing it creates is then live. -/
theorem transition_sendAuthenticationRequest (row : Transition securityProperties st event st' effects)
    (sent : Effect.initiatorAction .sendAuthenticationRequest ∈ effects) :
    (∃ callback, event = .initiatePairing callback) ∧ st.pairingDelegate ≠ none ∧ st.state = .idle ∧
      st.currentPairing = none ∧ st'.liveSerial = some st.nextSerial := by
  cases row with
  | initiateStart present idle absent =>
    exact ⟨⟨_, rfl⟩, present, idle, absent, rfl⟩
  | _ => simp [mem_signalEffects] at sent

/-- A single outstanding Authentication Request: only a call on an idle machine with a
delegate and no Pairing is told to send it, and no later call is told so before the Pairing
that first call created has been dropped by `SignalStatus`. -/
theorem authentication_request_outstanding_once {pairingDelegate : Option IOCapability}
    {linkKey : Option (LinkKey × LinkKeyType)} {history : List Record} {st : PairingState}
    (run : Run securityProperties (PairingState.create pairingDelegate linkKey) history st) :
    (∀ record ∈ history, Effect.initiatorAction .sendAuthenticationRequest ∈ record.effects →
      (∃ callback, record.event = .initiatePairing callback) ∧ record.pre.pairingDelegate ≠ none ∧
        record.pre.state = .idle ∧ record.pre.currentPairing = none) ∧
    ∀ before first middle second after, history = before ++ first :: middle ++ second :: after →
      Effect.initiatorAction .sendAuthenticationRequest ∈ first.effects →
      Effect.initiatorAction .sendAuthenticationRequest ∈ second.effects →
      ∃ record ∈ middle, ∃ pairing, record.pre.currentPairing = some pairing ∧
        first.post.liveSerial = some pairing.serial ∧ record.post.currentPairing = none ∧
        ∃ status, signalEffects pairing.initiatorCallbacks status <:+: record.effects := by
  refine ⟨fun record recorded sent =>
    (transition_sendAuthenticationRequest (run.transition_of_mem recorded) sent).imp_right
      fun ⟨present, idle, absent, _⟩ => ⟨present, idle, absent⟩, ?_⟩
  rintro before first middle second after rfl firstSent secondSent
  have created := (transition_sendAuthenticationRequest
    (run.transition_of_mem (by simp)) firstSent).2.2.2.2
  have idleAgain := (transition_sendAuthenticationRequest
    (run.transition_of_mem (by simp)) secondSent).2.2.2.1
  have middleRun := run.between
  obtain ⟨record, recorded, live, gone⟩ := middleRun.exists_lost
    (fun st => st.liveSerial = some first.pre.nextSerial) created
    (by simp [PairingState.liveSerial, idleAgain])
  obtain ⟨pairing, current, serial⟩ : ∃ pairing, record.pre.currentPairing = some pairing ∧
      pairing.serial = first.pre.nextSerial := by
    simpa [PairingState.liveSerial] using live
  obtain ⟨dropped, signalled⟩ :=
    transition_discards (middleRun.transition_of_mem recorded) current (serial ▸ gone)
  exact ⟨record, recorded, pairing, current, serial ▸ created, dropped, signalled⟩

theorem authentication_request_on_two_pairings :
    ∃ history st first middle second,
      Run (fun _ => ⟨.authenticated, true⟩) (PairingState.create (some .displayYesNo) none) history st ∧
      history = [] ++ first :: middle ++ second :: [] ∧
      Effect.initiatorAction .sendAuthenticationRequest ∈ first.effects ∧
      Effect.initiatorAction .sendAuthenticationRequest ∈ second.effects ∧
      second.pre.state = .idle ∧ second.pre.currentPairing = none ∧
      ∃ record ∈ middle, ∃ pairing, record.pre.currentPairing = some pairing ∧
        first.post.liveSerial = some pairing.serial ∧ record.post.currentPairing = none ∧
        ∃ status, signalEffects pairing.initiatorCallbacks status <:+: record.effects := by
  have run := @execute_sound (fun _ => ⟨.authenticated, true⟩) (PairingState.create (some .displayYesNo) none) _
      [.initiatePairing 0, .ioCapabilityRequest, .ioCapabilityResponse .displayYesNo, .userConfirmationRequest 123456,
        .simplePairingComplete 0, .linkKeyNotification 7 .authenticatedCombination192 true,
        .authenticationComplete 0 true, .encryptionChange .success true, .initiatePairing 1] _ rfl
  have sent : Effect.initiatorAction .sendAuthenticationRequest ∈ [Effect.initiatorAction .sendAuthenticationRequest] :=
    List.mem_singleton_self _
  exact ⟨_, _, _, [_, _, _, _, _, _, _], _, run, rfl, sent, sent, rfl, rfl,
    (authentication_request_outstanding_once run).2 [] _ _ _ [] rfl sent sent⟩

/-- `EnableEncryption` signals the top-level callback alone and keeps the Pairing: after a
refused `StartEncryption`, the next unexpected event signals the same Pairing a second time,
with another status, and only then reaches its queued callers. -/
theorem refused_encryption_signals_pairing_twice (securityProperties : LinkKeyType → SecurityProperties) :
    (execute securityProperties (PairingState.create (some .displayYesNo) none)
        [.initiatePairing 0, .authenticationComplete 0 false, .initiatePairing 1, .ioCapabilityRequest]).map
      (fun run => run.1.map fun record => (record.pre.liveSerial, record.effects)) =
    .ok [(none, [.initiatorAction .sendAuthenticationRequest]),
      (some 0, [.startEncryption, .statusCallback (.hostError .failed)]),
      (some 0, [.initiatorAction .doNotSendAuthenticationRequest]),
      (some 0, [.statusCallback (.hostError .notSupported), .initiatorCallback 0 (.hostError .notSupported),
        .initiatorCallback 1 (.hostError .notSupported), .ioCapabilityReply none])] := rfl

end ZirconRpi.Gap.Signal
