import ZirconRpi.Audio.MixJob
import Mathlib.Data.List.Basic
/-! The state machine of `DriverOutput` in `audio_core/driver_output.cc`: its callbacks and mix
wakeups only move the state forward, `OnDriverStartComplete` always finds `pipeline_config_`,
and the output is activated at most once. -/

namespace ZirconRpi.Audio.Lifecycle
open ZirconRpi.Audio.DriverOutput ZirconRpi.Audio.MixJob

/-- The root stage of a `PipelineConfig` as `OnDriverInfoFetched` reads and adjusts it, with
`frames_per_second()` and `channels()` the root's `output_rate` and `output_channels`: the
effects are kept as their optional `output_channels`. -/
structure RootStage where
  outputRate : Nat
  outputChannels : Nat
  effects : List (Option Nat)
  deriving DecidableEq, Repr

/-- The members of a `DriverOutput`: those its mix jobs use, and `pipeline_config_`. -/
structure OutputState extends Output where
  pipelineConfig : Option RootStage
  deriving DecidableEq, Repr

/-- The calls the state machine makes out of the object; log messages are left out. -/
inductive Call where
  | getDriverInfo
  | setGain
  /-- `driver()->Configure(format, min_rb_duration)`. -/
  | configure (framesPerSecond channels : Nat) (minRbDuration : Int)
  | setMinLeadTime
  | fillRingWithSilence
  | start
  | setPlugDetectEnabled
  | setupMixTask (config : RootStage)
  | activateSelf
  | process
  | shutdownSelf
  deriving DecidableEq, Repr

/-- An `FX_CHECK` that fails aborts; `*pipeline_config_` on an empty optional is undefined. -/
inductive Fault where
  | check (condition : String)
  | emptyPipelineConfig
  deriving DecidableEq, Repr

/-- `kDefaultMaxRetentionNsec`, `zx::msec(60)`. -/
def defaultMaxRetention : Int := 60 * 1000 * 1000

/-- `kDefaultRetentionGapNsec`, `zx::msec(10)`. -/
def defaultRetentionGap : Int := 10 * 1000 * 1000

/-- A constructed `DriverOutput`: `Uninitialized`, with no pipeline, nothing sent and no cooldown. -/
def OutputState.create : OutputState := ⟨⟨.uninitialized, 0, 0, 0, 0⟩, none⟩

/-- `DriverOutput::Init()`, given the statuses `AudioOutput::Init()` and the driver's `Init`
return: the first failure is returned, and both succeeding move the output to `FormatsUnknown`. -/
def init (audioOutputInit driverInit : Int) (st : OutputState) : Int × OutputState :=
  if audioOutputInit ≠ 0 then (audioOutputInit, st)
  else if driverInit ≠ 0 then (driverInit, st)
  else (driverInit, { st with state := .formatsUnknown })

/-- `DriverOutput::OnWakeup()`: the first wakeup asks the driver for its formats. -/
def onWakeup (st : OutputState) : OutputState × List Call :=
  if st.state ≠ .formatsUnknown then (st, [])
  else ({ st with state := .fetchingFormats }, [.getDriverInfo])

/-- What `OnDriverInfoFetched` learns from outside the file: the device profile's root stage, the
format `SelectBestFormat` settles on from the requested rate and channels (`none` when it
fails), and whether `Format::Create`, `OutputProducer::Select` and the driver's `Configure`
succeed. -/
structure InfoFetched where
  profile : RootStage
  selectBestFormat : Nat → Nat → Option (Nat × Nat)
  formatCreated : Bool
  producerSelected : Bool
  configured : Bool

/-- The pipeline's root stage adjusted to the hardware's rate and channels: on a change of
channels the root's effects are all removed if any of them rechannelizes to another count. -/
def adjustRoot (root : RootStage) (prefFps prefChan : Nat) : RootStage :=
  let root := if root.outputRate ≠ prefFps then { root with outputRate := prefFps } else root
  if root.outputChannels ≠ prefChan then
    let root := { root with outputChannels := prefChan }
    if root.effects.any fun channels => channels.isSome && channels != some prefChan then
      { root with effects := [] }
    else root
  else root

/-- `DriverOutput::OnDriverInfoFetched()`. Every return but the last runs the deferred cleanup,
which shuts the output down; `pipeline_config_` is set from the profile before the first step
that can fail. -/
def onDriverInfoFetched (highWater : Int) (fetched : InfoFetched) (st : OutputState) : OutputState × List Call :=
  if st.state ≠ .fetchingFormats then ({ st with state := .shutdown }, [.shutdownSelf])
  else
    let failed (root : RootStage) (calls : List Call) : OutputState × List Call :=
      ({ st with state := .shutdown, pipelineConfig := some root }, calls ++ [.shutdownSelf])
    let root := fetched.profile
    match fetched.selectBestFormat root.outputRate root.outputChannels with
    | none => failed root [.setGain]
    | some (prefFps, prefChan) =>
      if !fetched.formatCreated then failed root [.setGain]
      else
        let root := adjustRoot root prefFps prefChan
        if !fetched.producerSelected then failed root [.setGain]
        else
          let calls := [.setGain, .configure prefFps prefChan (highWater + defaultMaxRetention + defaultRetentionGap)]
          if !fetched.configured then failed root calls
          else ({ st with state := .configuring, pipelineConfig := some root }, calls)

/-- `DriverOutput::OnDriverConfigComplete()`, given whether the ring buffer exists and whether the
driver's `Start` and `SetPlugDetectEnabled` succeed. -/
def onDriverConfigComplete (ringPresent started plugDetectEnabled : Bool) (st : OutputState) :
    Except Fault (OutputState × List Call) :=
  if st.state ≠ .configuring then .ok ({ st with state := .shutdown }, [.shutdownSelf])
  else if !ringPresent then .error (.check "driver_writable_ring_buffer() != nullptr")
  else
    let calls := [.setMinLeadTime, .fillRingWithSilence, .start]
    if !started then .ok ({ st with state := .shutdown }, calls ++ [.shutdownSelf])
    else if !plugDetectEnabled then
      .ok ({ st with state := .shutdown }, calls ++ [.setPlugDetectEnabled, .shutdownSelf])
    else .ok ({ st with state := .starting }, calls ++ [.setPlugDetectEnabled])

/-- `DriverOutput::OnDriverStartComplete()`, given whether the driver has a format and the
`low_water_frames_` its rate gives: it sets up the mix task on the pipeline, activates the
output, and counts the FIFO and the low-water frames as already sent. -/
def onDriverStartComplete (driver : Driver) (formatPresent : Bool) (lowWaterFrames : Int) (st : OutputState) :
    Except Fault (OutputState × List Call) :=
  if st.state ≠ .starting then .ok (st, [])
  else if !formatPresent then .error (.check "format")
  else
    match st.pipelineConfig with
    | none => .error .emptyPipelineConfig
    | some config =>
      .ok ({ st with lowWaterFrames := lowWaterFrames,
                     framesSent := driver.fifoDepthFrames.toNat + lowWaterFrames, state := .started },
        [.setupMixTask config, .activateSelf, .process])

/-- What happens to an initialized output: the driver's callbacks, with what each learns from
outside, and the mix task's wakeups. -/
inductive Event where
  | onWakeup
  | onDriverInfoFetched (fetched : InfoFetched)
  | onDriverConfigComplete (ringPresent started plugDetectEnabled : Bool)
  | onDriverStartComplete (formatPresent : Bool) (lowWaterFrames : Int)
  | mixWakeup (tick : Tick)

/-- One event that completes, with the calls it makes; a mix wakeup is `Wakeup` on the members
it uses. -/
inductive Step (driver : Driver) (highWater : Int) : OutputState → Event → OutputState → List Call → Prop
  | onWakeup {st} : Step driver highWater st .onWakeup (onWakeup st).1 (onWakeup st).2
  | onDriverInfoFetched {st fetched} :
    Step driver highWater st (.onDriverInfoFetched fetched) (onDriverInfoFetched highWater fetched st).1
      (onDriverInfoFetched highWater fetched st).2
  | onDriverConfigComplete {st st' ringPresent started plugDetectEnabled calls} :
    onDriverConfigComplete ringPresent started plugDetectEnabled st = .ok (st', calls) →
    Step driver highWater st (.onDriverConfigComplete ringPresent started plugDetectEnabled) st' calls
  | onDriverStartComplete {st st' formatPresent lowWaterFrames calls} :
    onDriverStartComplete driver formatPresent lowWaterFrames st = .ok (st', calls) →
    Step driver highWater st (.onDriverStartComplete formatPresent lowWaterFrames) st' calls
  | mixWakeup {st tick output'} : Wakeup driver highWater tick st.toOutput output' →
    Step driver highWater st (.mixWakeup tick) { st with toOutput := output' } []

/-- One completed event: the state before, the event, the state after and the calls made. -/
structure Record where
  pre : OutputState
  event : Event
  post : OutputState
  calls : List Call

/-- `Run start history st`: the events recorded in `history`, oldest first, take `start` to `st`. -/
inductive Run (driver : Driver) (highWater : Int) (start : OutputState) : List Record → OutputState → Prop
  | nil : Run driver highWater start [] start
  | snoc {history st event st' calls} : Run driver highWater start history st →
    Step driver highWater st event st' calls → Run driver highWater start (history ++ [⟨st, event, st', calls⟩]) st'

/-! ## What one event does -/

/-- The position of a state in the configuration sequence; `Shutdown` comes last. -/
def rank : State → Nat
  | .uninitialized => 0
  | .formatsUnknown => 1
  | .fetchingFormats => 2
  | .configuring => 3
  | .starting => 4
  | .started => 5
  | .shutdown => 6

/-- The moves of the state machine: stay, one step along the configuration sequence, or shut
down. -/
inductive Advance : State → State → Prop
  | stay {state} : Advance state state
  | shutDown {state} : Advance state .shutdown
  | fetch : Advance .formatsUnknown .fetchingFormats
  | configure : Advance .fetchingFormats .configuring
  | start : Advance .configuring .starting
  | run : Advance .starting .started

theorem Advance.rank_le {state state' : State} (advance : Advance state state') : rank state ≤ rank state' := by
  cases advance with
  | stay => exact le_refl _
  | shutDown => cases state <;> decide
  | _ => decide

theorem Advance.of_shutdown {state' : State} (advance : Advance .shutdown state') : state' = .shutdown := by
  cases advance <;> rfl

section
variable {driver : Driver} {highWater : Int} {st st' : OutputState} {calls : List Call}

theorem onDriverInfoFetched_cases {fetched : InfoFetched} :
    let result := onDriverInfoFetched highWater fetched st
    Call.activateSelf ∉ result.2 ∧
      (result.1.state = .shutdown ∨
        st.state = .fetchingFormats ∧ result.1.state = .configuring ∧ result.1.pipelineConfig ≠ none) := by
  unfold onDriverInfoFetched
  by_cases fetching : st.state = .fetchingFormats
  · rw [if_neg (not_not.mpr fetching)]
    dsimp only
    repeat' split
    all_goals first
      | exact ⟨by simp, .inl rfl⟩
      | exact ⟨by simp, .inr ⟨fetching, rfl, by simp⟩⟩
  · rw [if_pos fetching]; exact ⟨by simp, .inl rfl⟩

theorem onDriverConfigComplete_cases {ringPresent started plugDetectEnabled : Bool}
    (completes : onDriverConfigComplete ringPresent started plugDetectEnabled st = .ok (st', calls)) :
    Call.activateSelf ∉ calls ∧
      (st'.state = .shutdown ∨
        st.state = .configuring ∧ st'.state = .starting ∧ st'.pipelineConfig = st.pipelineConfig) := by
  unfold onDriverConfigComplete at completes
  split at completes
  · cases completes; exact ⟨by simp, .inl rfl⟩
  · next configuring =>
    split at completes
    · cases completes
    · split at completes
      · cases completes; exact ⟨by simp, .inl rfl⟩
      · split at completes
        · cases completes; exact ⟨by simp, .inl rfl⟩
        · cases completes; exact ⟨by simp, .inr ⟨not_not.mp configuring, rfl, rfl⟩⟩

theorem onDriverStartComplete_cases {formatPresent : Bool} {lowWaterFrames : Int}
    (completes : onDriverStartComplete driver formatPresent lowWaterFrames st = .ok (st', calls)) :
    st' = st ∧ calls = [] ∨
      st.state = .starting ∧ st'.state = .started ∧ st'.pipelineConfig = st.pipelineConfig ∧
        ∃ config, st.pipelineConfig = some config ∧ calls = [.setupMixTask config, .activateSelf, .process] := by
  unfold onDriverStartComplete at completes
  split at completes
  · cases completes; exact .inl ⟨rfl, rfl⟩
  · next starting =>
    split at completes
    · cases completes
    · split at completes
      · cases completes
      · next config present =>
        cases completes
        exact .inr ⟨not_not.mp starting, rfl, rfl, config, present, rfl⟩

/-- What one event can do: shut the output down, leave its state and pipeline as they are, or
make one move of the configuration sequence; only the move to `Started` activates the
output, and the move to `Configuring` sets the pipeline. -/
theorem step_cases {event : Event} (step : Step driver highWater st event st' calls) :
    st'.state = .shutdown ∧ Call.activateSelf ∉ calls ∨
      st'.state = st.state ∧ st'.pipelineConfig = st.pipelineConfig ∧ Call.activateSelf ∉ calls ∨
      st.state = .formatsUnknown ∧ st'.state = .fetchingFormats ∧ st'.pipelineConfig = st.pipelineConfig ∧
        Call.activateSelf ∉ calls ∨
      st.state = .fetchingFormats ∧ st'.state = .configuring ∧ st'.pipelineConfig ≠ none ∧
        Call.activateSelf ∉ calls ∨
      st.state = .configuring ∧ st'.state = .starting ∧ st'.pipelineConfig = st.pipelineConfig ∧
        Call.activateSelf ∉ calls ∨
      st.state = .starting ∧ st'.state = .started ∧ st'.pipelineConfig = st.pipelineConfig ∧
        st.pipelineConfig ≠ none ∧ Call.activateSelf ∈ calls := by
  cases step with
  | onWakeup =>
    unfold onWakeup
    by_cases waiting : st.state = .formatsUnknown
    · rw [if_neg (not_not.mpr waiting)]
      exact .inr (.inr (.inl ⟨waiting, rfl, rfl, by simp⟩))
    · rw [if_pos waiting]
      exact .inr (.inl ⟨rfl, rfl, by simp⟩)
  | onDriverInfoFetched =>
    obtain ⟨quiet, down | ⟨fetching, configuring, set⟩⟩ := @onDriverInfoFetched_cases highWater st _
    · exact .inl ⟨down, quiet⟩
    · exact .inr (.inr (.inr (.inl ⟨fetching, configuring, set, quiet⟩)))
  | onDriverConfigComplete completes =>
    obtain ⟨quiet, down | ⟨configuring, starting, kept⟩⟩ := onDriverConfigComplete_cases completes
    · exact .inl ⟨down, quiet⟩
    · exact .inr (.inr (.inr (.inr (.inl ⟨configuring, starting, kept, quiet⟩))))
  | onDriverStartComplete completes =>
    obtain ⟨rfl, rfl⟩ | ⟨starting, started, kept, config, present, rfl⟩ := onDriverStartComplete_cases completes
    · exact .inr (.inl ⟨rfl, rfl, by simp⟩)
    · exact .inr (.inr (.inr (.inr (.inr ⟨starting, started, kept, by simp [present], by simp⟩))))
  | mixWakeup wakeup =>
    rcases wakeup_state wakeup with same | down
    · exact .inr (.inl ⟨same, rfl, by simp⟩)
    · exact .inl ⟨down, by simp⟩

theorem step_activates {event : Event} (step : Step driver highWater st event st' calls)
    (activates : Call.activateSelf ∈ calls) : st.state = .starting ∧ st'.state = .started := by
  rcases step_cases step with ⟨-, quiet⟩ | ⟨-, -, quiet⟩ | ⟨-, -, -, quiet⟩ | ⟨-, -, -, quiet⟩ | ⟨-, -, -, quiet⟩ |
    ⟨starting, started, -⟩
  all_goals first
    | exact absurd activates quiet
    | exact ⟨starting, started⟩

theorem step_advance {event : Event} (step : Step driver highWater st event st' calls) :
    Advance st.state st'.state := by
  rcases step_cases step with ⟨down, -⟩ | ⟨same, -⟩ | ⟨before, after, -⟩ | ⟨before, after, -⟩ |
    ⟨before, after, -⟩ | ⟨before, after, -⟩
  · exact down ▸ .shutDown
  · exact same ▸ .stay
  · rw [before, after]; exact .fetch
  · rw [before, after]; exact .configure
  · rw [before, after]; exact .start
  · rw [before, after]; exact .run

end

/-! ## Runs -/

/-- `pipeline_config_` is set while the output is configuring, starting or started. -/
def PipelineReady (st : OutputState) : Prop :=
  st.state = .configuring ∨ st.state = .starting ∨ st.state = .started → st.pipelineConfig ≠ none

section
variable {driver : Driver} {highWater : Int} {start st final : OutputState} {history : List Record}

theorem Run.snoc_iff {record : Record} :
    Run driver highWater start (history ++ [record]) final ↔
      Run driver highWater start history record.pre ∧
        Step driver highWater record.pre record.event record.post record.calls ∧ final = record.post := by
  constructor
  · intro run
    generalize full : history ++ [record] = recorded at run
    cases run with
    | nil => simp at full
    | snoc earlier step =>
      obtain ⟨rfl, last⟩ := List.append_inj' full rfl
      cases last
      exact ⟨earlier, step, rfl⟩
  · rintro ⟨earlier, step, rfl⟩
    exact earlier.snoc step

theorem Run.of_append_cons {before after : List Record} {record : Record}
    (run : Run driver highWater start (before ++ record :: after) final) :
    Run driver highWater start before record.pre ∧ Step driver highWater record.pre record.event record.post record.calls := by
  induction after using List.reverseRecOn generalizing final with
  | nil => exact (Run.snoc_iff.mp run).imp_right And.left
  | append_singleton after last ih =>
    rw [show before ++ record :: (after ++ [last]) = (before ++ record :: after) ++ [last] by simp,
      Run.snoc_iff] at run
    exact ih run.1

def sampleFetched : InfoFetched :=
  ⟨⟨48000, 2, []⟩, fun rate channels => some (rate, channels), true, true, true⟩

theorem sample_bring_up :
    ∃ history final, Run sampleDriver 4 (init 0 0 .create).2 history final ∧ final.state = .started :=
  have fetched := ((@Run.nil sampleDriver 4 (init 0 0 .create).2).snoc .onWakeup).snoc
    (@Step.onDriverInfoFetched sampleDriver 4 _ sampleFetched)
  have configured := fetched.snoc (@Step.onDriverConfigComplete sampleDriver 4 _ _ true true true _ rfl)
  have started := configured.snoc (@Step.onDriverStartComplete sampleDriver 4 _ _ true 1 _ rfl)
  ⟨_, _, started.snoc (@Step.onDriverStartComplete sampleDriver 4 _ _ true 1 _ rfl), rfl⟩

/-- The lifecycle only moves forward: along every run each event leaves the state as it is,
moves it one step along `FormatsUnknown`, `FetchingFormats`, `Configuring`, `Starting`,
`Started`, or shuts the output down; so the state's rank never decreases and `Shutdown` is
never left. -/
theorem lifecycle_only_moves_forward (run : Run driver highWater start history final) :
    (∀ record ∈ history, Advance record.pre.state record.post.state) ∧ rank start.state ≤ rank final.state ∧
      (start.state = .shutdown → final.state = .shutdown) := by
  induction run with
  | nil => exact ⟨by simp, le_refl _, id⟩
  | snoc _ step ih =>
    obtain ⟨advances, ranked, absorbed⟩ := ih
    have advance := step_advance step
    refine ⟨fun record recorded => ?_, ranked.trans advance.rank_le, fun down => ?_⟩
    · rcases List.mem_append.mp recorded with earlier | last
      · exact advances record earlier
      · rw [List.mem_singleton.mp last]; exact advance
    · rw [absorbed down] at advance; exact advance.of_shutdown

theorem sample_bring_up_moves_forward :
    ∃ history final, Run sampleDriver 4 (init 0 0 .create).2 history final ∧
      (∀ record ∈ history, Advance record.pre.state record.post.state) ∧
      rank (init 0 0 .create).2.state ≤ rank final.state ∧
      ((init 0 0 .create).2.state = .shutdown → final.state = .shutdown) :=
  let ⟨history, final, run, _⟩ := sample_bring_up
  ⟨history, final, run, lifecycle_only_moves_forward run⟩

theorem step_pipelineReady {event : Event} {st' : OutputState} {calls : List Call} (ready : PipelineReady st)
    (step : Step driver highWater st event st' calls) : PipelineReady st' := by
  intro phase
  rcases step_cases step with ⟨down, -⟩ | ⟨same, kept, -⟩ | ⟨-, after, -⟩ | ⟨-, -, set, -⟩ | ⟨before, -, kept, -⟩ |
    ⟨-, -, kept, set, -⟩
  · rw [down] at phase; simp at phase
  · rw [kept]; exact ready (same ▸ phase)
  · rw [after] at phase; simp at phase
  · exact set
  · rw [kept]; exact ready (.inl before)
  · rw [kept]; exact set

theorem Run.pipelineReady (run : Run driver highWater start history final) (ready : PipelineReady start) :
    PipelineReady final := by
  induction run with
  | nil => exact ready
  | snoc _ step ih => exact step_pipelineReady ih step

theorem init_pipelineReady (audioOutputInit driverInit : Int) : PipelineReady (init audioOutputInit driverInit .create).2 := by
  unfold init
  split
  · intro phase; simp [OutputState.create] at phase
  · split <;> intro phase <;> simp [OutputState.create] at phase

/-- The `FX_DCHECK(pipeline_config_)` of `OnDriverStartComplete` holds: along every run from a
constructed, initialized output, the callback never finds `pipeline_config_` empty; its only
faults are the `FX_CHECK`s on the driver's format and, in `OnDriverConfigComplete`, on the
ring buffer. -/
theorem start_complete_finds_pipeline {audioOutputInit driverInit lowWaterFrames : Int} {formatPresent : Bool}
    (run : Run driver highWater (init audioOutputInit driverInit .create).2 history final) :
    onDriverStartComplete driver formatPresent lowWaterFrames final ≠ .error .emptyPipelineConfig := by
  have ready := run.pipelineReady (init_pipelineReady audioOutputInit driverInit)
  unfold onDriverStartComplete
  split
  · simp
  · next starting =>
    split
    · simp
    · obtain ⟨config, present⟩ := Option.ne_none_iff_exists'.mp (ready (.inr (.inl (not_not.mp starting))))
      rw [present]; simp

theorem sample_start_complete_finds_pipeline :
    ∃ history final, Run sampleDriver 4 (init 0 0 .create).2 history final ∧
      onDriverStartComplete sampleDriver true 1 final ≠ .error .emptyPipelineConfig :=
  let ⟨history, final, run, _⟩ := sample_bring_up
  ⟨history, final, run, start_complete_finds_pipeline run⟩

/-- The events of a history that call `ActivateSelf()`. -/
def activations (history : List Record) : List Record :=
  history.filter fun record => Call.activateSelf ∈ record.calls

theorem Run.activations_le (run : Run driver highWater start history final) :
    (activations history).length = 0 ∨ (activations history).length = 1 ∧ rank .started ≤ rank final.state := by
  induction run with
  | nil => exact .inl rfl
  | @snoc history st event st' calls earlier step ih =>
    have ranked := (step_advance step).rank_le
    by_cases activates : Call.activateSelf ∈ calls
    · obtain ⟨starting, started⟩ := step_activates step activates
      rcases ih with none | ⟨-, late⟩
      · right
        simp only [activations, List.filter_append, List.length_append] at none ⊢
        simp [none, activates, started, rank]
      · rw [starting] at late; exact absurd late (by decide)
    · simp only [activations, List.filter_append, List.filter_cons, List.filter_nil, decide_eq_true_eq, activates,
        if_false, List.append_nil]
      exact ih.imp id fun ⟨once, late⟩ => ⟨once, late.trans ranked⟩

theorem Run.activated_of_started (run : Run driver highWater start history final) (fresh : start.state ≠ .started)
    (started : final.state = .started) : ∃ activation ∈ history, Call.activateSelf ∈ activation.calls := by
  induction run with
  | nil => exact absurd started fresh
  | @snoc history st event st' calls earlier step ih =>
    by_cases running : st.state = .started
    · obtain ⟨activation, recorded, activates⟩ := ih running
      exact ⟨activation, List.mem_append_left _ recorded, activates⟩
    · rcases step_cases step with ⟨down, -⟩ | ⟨same, -⟩ | ⟨-, after, -⟩ | ⟨-, after, -⟩ | ⟨-, after, -⟩ |
        ⟨-, -, -, -, activates⟩
      · rw [down] at started; cases started
      · exact absurd (same ▸ started) running
      · rw [after] at started; cases started
      · rw [after] at started; cases started
      · rw [after] at started; cases started
      · exact ⟨_, List.mem_append_right _ (List.mem_singleton_self _), activates⟩

/-- The output is activated once: along every run from a constructed, initialized output, at
most one event calls `ActivateSelf()` (with `SetupMixTask`), and every event handled while the
output is started, each mix wakeup that writes frames among them, comes after it. -/
theorem output_activated_once {audioOutputInit driverInit : Int}
    (run : Run driver highWater (init audioOutputInit driverInit .create).2 history final) :
    (activations history).length ≤ 1 ∧
      ∀ before record after, history = before ++ record :: after → record.pre.state = .started →
        ∃ activation ∈ before, Call.activateSelf ∈ activation.calls := by
  have fresh : (init audioOutputInit driverInit .create).2.state ≠ .started := by
    unfold init; split
    · simp [OutputState.create]
    · split <;> simp [OutputState.create]
  refine ⟨by rcases run.activations_le with none | ⟨once, -⟩ <;> omega, fun before record after cut started => ?_⟩
  subst cut
  exact (Run.of_append_cons run).1.activated_of_started fresh started

theorem sample_output_activated_once :
    ∃ history final, Run sampleDriver 4 (init 0 0 .create).2 history final ∧
      (activations history).length ≤ 1 ∧
      ∀ before record after, history = before ++ record :: after → record.pre.state = .started →
        ∃ activation ∈ before, Call.activateSelf ∈ activation.calls :=
  let ⟨history, final, run, _⟩ := sample_bring_up
  ⟨history, final, run, output_activated_once run⟩

end

end ZirconRpi.Audio.Lifecycle
