import ZirconRpi.Audio.DriverOutput
import Mathlib.Order.Monotone.Basic
import Mathlib.Data.Int.Defs
import Mathlib.Algebra.Order.Ring.Int
/-! `DriverOutput::StartMixJob` and `FinishMixJob` of `audio_core/driver_output.cc`, with `int64_t`
counters as integers and `uint32_t` values as 32-bit words. Along a run of wakeups the
`FX_DCHECK`s hold, no span overruns the hardware, and nothing is mixed during a cooldown. -/

namespace ZirconRpi.Audio.MixJob
open ZirconRpi.Audio.DriverOutput

/-- `DriverOutput::State`. -/
inductive State where
  | uninitialized
  | formatsUnknown
  | fetchingFormats
  | configuring
  | starting
  | started
  | shutdown
  deriving DecidableEq, Repr

/-- The members of a `DriverOutput` its state machine and mix jobs read and write. -/
structure Output where
  state : State
  framesSent : Int
  lowWaterFrames : Int
  underflowStartTime : Int
  underflowCooldownDeadline : Int
  deriving DecidableEq, Repr

/-- What a mix job reads from the driver: the ring buffer's `frames()` and `fifo_depth_frames()`,
and `Apply` of the safe read/write clock-to-frames transform, an `int64_t`. -/
structure Driver where
  ringFrames : BitVec 32
  fifoDepthFrames : BitVec 32
  safeWrFrame : Int → Int
  ringFrames_pos : 0 < ringFrames.toNat
  safeWrFrame_lt : ∀ t, safeWrFrame t < 2 ^ 63

/-- `AudioOutput::FrameSpan` with its `is_mute`. -/
structure MixSpan extends FrameSpan where
  isMute : Bool
  deriving DecidableEq, Repr

/-- What a mix job does besides writing the members and the ring's frames. -/
inductive Effect where
  /-- `ShutdownSelf()`. -/
  | shutdownSelf
  /-- The first underflow of a cooldown at `ref_time`: the log and `REPORT(OutputUnderflow(..))`,
  the whole ring filled with silence and flushed, and the WAV writer closed. -/
  | underflowSilence (refTime : Int)
  /-- `ScheduleNextLowWaterWakeup()`: wake when the safe write pointer reaches this frame. -/
  | scheduleWakeup (lowWaterFrameNumber : Int)
  deriving DecidableEq, Repr

/-- `kUnderflowCooldown`, `zx::msec(1000)`, in nanoseconds. -/
def underflowCooldown : Int := 1000 * 1000 * 1000

/-- `ScheduleNextLowWaterWakeup()`: the next wakeup is when `frames_sent_ - low_water_frames_`
is the safe write frame. -/
def scheduleNextLowWaterWakeup (output : Output) : Effect :=
  .scheduleWakeup (output.framesSent - output.lowWaterFrames)

/-- The underflow block of `StartMixJob`: the first underflow of a cooldown marks its start and
silences the ring; every underflow moves the deadline to `kUnderflowCooldown` after `now`. -/
def noteUnderflow (refTime now : Int) (output : Output) : Output × List Effect :=
  if output.underflowStartTime = 0 then
    ({ output with underflowStartTime := refTime, underflowCooldownDeadline := now + underflowCooldown },
      [.underflowSilence refTime])
  else ({ output with underflowCooldownDeadline := now + underflowCooldown }, [])

/-- The end of `StartMixJob`, past the cooldown: the frames in flight and the frames wanted up
to `fill_target`, and the span from `frames_sent_`, cut to the free part of the ring. -/
def mixSpan (driver : Driver) (outputMuted : Bool) (transmitted fillTarget framesSent : Int) :
    Option MixSpan :=
  let framesInFlight := framesSent - transmitted
  let desiredFrames := fillTarget - framesSent
  if desiredFrames = 0 then none
  else
    let rbSpace := driver.ringFrames - BitVec.ofInt 32 framesInFlight
    if desiredFrames > driver.ringFrames.toNat then none
    else
      let framesToMix := BitVec.ofInt 32 (min (rbSpace.toNat : Int) desiredFrames)
      some ⟨⟨BitVec.ofInt 64 framesSent, framesToMix⟩, outputMuted⟩

/-- The underflow check at the top of `StartMixJob`. -/
def checkUnderflow (outputFramesConsumed refTime now : Int) (output : Output) : Output × List Effect :=
  if outputFramesConsumed ≥ output.framesSent then noteUnderflow refTime now output else (output, [])

/-- `StartMixJob` from the cooldown check on: during a cooldown, pretend to have sent up to
`fill_target` and schedule the next wakeup; past its deadline, end it and mix. -/
def coolDownOrMix (driver : Driver) (outputMuted : Bool) (outputFramesTransmitted fillTarget refTime : Int)
    (output : Output) : Option MixSpan × Output × List Effect :=
  if output.underflowStartTime ≠ 0 then
    if refTime < output.underflowCooldownDeadline then
      let output := { output with framesSent := fillTarget }
      (none, output, [scheduleNextLowWaterWakeup output])
    else
      let output := { output with underflowStartTime := 0, underflowCooldownDeadline := 0 }
      (mixSpan driver outputMuted outputFramesTransmitted fillTarget output.framesSent, output, [])
  else (mixSpan driver outputMuted outputFramesTransmitted fillTarget output.framesSent, output, [])

/-- `DriverOutput::StartMixJob(ref_time)`, with `now` the monotonic time `zx::deadline_after` reads
and `settings` the gain state's `muted` flag, if there are settings. -/
def startMixJob (driver : Driver) (highWater : Int) (settings : Option Bool) (refTime now : Int)
    (output : Output) : Option MixSpan × Output × List Effect :=
  if output.state ≠ .started then (none, { output with state := .shutdown }, [.shutdownSelf])
  else
    let outputMuted := settings.getD true
    let outputFramesConsumed := driver.safeWrFrame refTime
    let outputFramesTransmitted := outputFramesConsumed - driver.fifoDepthFrames.toNat
    let checked := checkUnderflow outputFramesConsumed refTime now output
    let fillTarget := driver.safeWrFrame (refTime + highWater)
    let result := coolDownOrMix driver outputMuted outputFramesTransmitted fillTarget refTime checked.1
    (result.1, result.2.1, checked.2 ++ result.2.2)

/-- `DriverOutput::FinishMixJob`: the span goes to the ring through `WriteToRing`, then the next
wakeup is scheduled. What each writer puts in the ring is not modelled. -/
def finishMixJob (driver : Driver) (span : MixSpan) (output : Output) :
    Option (List WriterCall × Output × List Effect) :=
  (writeToRing driver.ringFrames (BitVec.ofInt 64 output.framesSent) span.toFrameSpan).map
    fun (calls, framesSent) =>
      let output := { output with framesSent := framesSent.toInt }
      (calls, output, [scheduleNextLowWaterWakeup output])

/-! ## The underflow check and the cooldown -/

section
variable {refTime now : Int} {output : Output}

@[simp] theorem noteUnderflow_state : (noteUnderflow refTime now output).1.state = output.state := by
  unfold noteUnderflow; split <;> rfl

@[simp] theorem noteUnderflow_framesSent : (noteUnderflow refTime now output).1.framesSent = output.framesSent := by
  unfold noteUnderflow; split <;> rfl

@[simp] theorem noteUnderflow_lowWaterFrames :
    (noteUnderflow refTime now output).1.lowWaterFrames = output.lowWaterFrames := by
  unfold noteUnderflow; split <;> rfl

@[simp] theorem noteUnderflow_underflowCooldownDeadline :
    (noteUnderflow refTime now output).1.underflowCooldownDeadline = now + underflowCooldown := by
  unfold noteUnderflow; split <;> rfl

@[simp] theorem noteUnderflow_underflowStartTime :
    (noteUnderflow refTime now output).1.underflowStartTime =
      if output.underflowStartTime = 0 then refTime else output.underflowStartTime := by
  unfold noteUnderflow; split <;> rfl

theorem noteUnderflow_cooling (positive : 0 < refTime) : (noteUnderflow refTime now output).1.underflowStartTime ≠ 0 := by
  rw [noteUnderflow_underflowStartTime]; split <;> omega

theorem checkUnderflow_of_lt {consumed : Int} (fine : consumed < output.framesSent) :
    checkUnderflow consumed refTime now output = (output, []) :=
  if_neg (Int.not_le.mpr fine)

theorem checkUnderflow_of_le {consumed : Int} (late : output.framesSent ≤ consumed) :
    checkUnderflow consumed refTime now output = noteUnderflow refTime now output :=
  if_pos late

end

section
variable {driver : Driver} {outputMuted : Bool} {transmitted fillTarget refTime : Int} {output : Output}

theorem coolDownOrMix_cases :
    let result := coolDownOrMix driver outputMuted transmitted fillTarget refTime output
    result.2.1.state = output.state ∧ result.2.1.lowWaterFrames = output.lowWaterFrames ∧
      (output.underflowStartTime ≠ 0 ∧ refTime < output.underflowCooldownDeadline ∧ result.1 = none ∧
          result.2.1 = { output with framesSent := fillTarget } ∨
        (output.underflowStartTime = 0 ∨ output.underflowCooldownDeadline ≤ refTime) ∧
          result.1 = mixSpan driver outputMuted transmitted fillTarget output.framesSent ∧
          result.2.1.framesSent = output.framesSent) := by
  unfold coolDownOrMix
  by_cases cooling : output.underflowStartTime ≠ 0
  · rw [if_pos cooling]
    by_cases early : refTime < output.underflowCooldownDeadline
    · rw [if_pos early]; exact ⟨rfl, rfl, .inl ⟨cooling, early, rfl, rfl⟩⟩
    · rw [if_neg early]; exact ⟨rfl, rfl, .inr ⟨.inr (Int.not_lt.mp early), rfl, rfl⟩⟩
  · rw [if_neg cooling]; exact ⟨rfl, rfl, .inr ⟨.inl (not_not.mp cooling), rfl, rfl⟩⟩

end

/-! ## The span -/

section
variable {driver : Driver} {outputMuted : Bool} {transmitted fillTarget framesSent : Int} {span : MixSpan}

theorem mixSpan_some (mixed : mixSpan driver outputMuted transmitted fillTarget framesSent = some span) :
    fillTarget - framesSent ≠ 0 ∧ fillTarget - framesSent ≤ driver.ringFrames.toNat ∧
      span = ⟨⟨BitVec.ofInt 64 framesSent, BitVec.ofInt 32
        (min ((driver.ringFrames - BitVec.ofInt 32 (framesSent - transmitted)).toNat : Int) (fillTarget - framesSent))⟩,
        outputMuted⟩ := by
  unfold mixSpan at mixed
  by_cases none : fillTarget - framesSent = 0
  · rw [if_pos none] at mixed; cases mixed
  rw [if_neg none] at mixed
  dsimp only at mixed
  by_cases tooMany : fillTarget - framesSent > driver.ringFrames.toNat
  · rw [if_pos tooMany] at mixed; cases mixed
  · rw [if_neg tooMany] at mixed
    cases mixed
    exact ⟨none, Int.not_lt.mp tooMany, rfl⟩

theorem mixSpan_length (mixed : mixSpan driver outputMuted transmitted fillTarget framesSent = some span)
    (ahead : framesSent ≤ fillTarget) :
    (span.length.toNat : Int) ≤ fillTarget - framesSent ∧
      (0 ≤ framesSent - transmitted → framesSent - transmitted ≤ driver.ringFrames.toNat →
        framesSent + span.length.toNat ≤ transmitted + driver.ringFrames.toNat) := by
  obtain ⟨wanted, fits, rfl⟩ := mixSpan_some mixed
  have narrow := driver.ringFrames.isLt
  have free := (driver.ringFrames - BitVec.ofInt 32 (framesSent - transmitted)).isLt
  have length : ((BitVec.ofInt 32 (min ((driver.ringFrames - BitVec.ofInt 32 (framesSent - transmitted)).toNat : Int)
      (fillTarget - framesSent))).toNat : Int) =
      min ((driver.ringFrames - BitVec.ofInt 32 (framesSent - transmitted)).toNat : Int) (fillTarget - framesSent) := by
    rw [BitVec.toNat_ofInt, Int.toNat_of_nonneg (Int.emod_nonneg _ (by decide)), Int.emod_eq_of_lt (by omega) (by omega)]
  refine ⟨by rw [length]; exact min_le_right _ _, fun inFlight inRing => ?_⟩
  have space : ((driver.ringFrames - BitVec.ofInt 32 (framesSent - transmitted)).toNat : Int) =
      driver.ringFrames.toNat - (framesSent - transmitted) := by
    rw [BitVec.toNat_sub, BitVec.toNat_ofInt, Int.emod_eq_of_lt inFlight (by omega)]
    omega
  rw [length, space]
  omega

end

/-! ## A wakeup -/

section
variable {driver : Driver} {highWater : Int} {settings : Option Bool} {refTime now : Int} {output : Output}

theorem startMixJob_not_started (notStarted : output.state ≠ .started) :
    startMixJob driver highWater settings refTime now output =
      (none, { output with state := .shutdown }, [.shutdownSelf]) :=
  if_pos notStarted

theorem startMixJob_cases (started : output.state = .started) :
    let result := startMixJob driver highWater settings refTime now output
    result.2.1.state = .started ∧ result.2.1.lowWaterFrames = output.lowWaterFrames ∧
      (result.1 = none ∧ result.2.1.framesSent = driver.safeWrFrame (refTime + highWater) ∨
        result.2.1.framesSent = output.framesSent ∧
          result.1 = mixSpan driver (settings.getD true) (driver.safeWrFrame refTime - driver.fifoDepthFrames.toNat)
            (driver.safeWrFrame (refTime + highWater)) output.framesSent ∧
          (driver.safeWrFrame refTime < output.framesSent ∨ refTime = 0 ∨ now + underflowCooldown ≤ refTime)) := by
  rw [startMixJob, if_neg (not_not.mpr started)]
  dsimp only
  by_cases late : output.framesSent ≤ driver.safeWrFrame refTime
  · rw [checkUnderflow_of_le late]
    obtain ⟨state, lowWater, outcome⟩ := @coolDownOrMix_cases driver (settings.getD true)
      (driver.safeWrFrame refTime - driver.fifoDepthFrames.toNat) (driver.safeWrFrame (refTime + highWater)) refTime
      (noteUnderflow refTime now output).1
    simp only [noteUnderflow_state, noteUnderflow_lowWaterFrames, noteUnderflow_framesSent,
      noteUnderflow_underflowStartTime, noteUnderflow_underflowCooldownDeadline] at state lowWater outcome
    refine ⟨state.trans started, lowWater, ?_⟩
    rcases outcome with ⟨-, -, none, cooled⟩ | ⟨ended, mixed, kept⟩
    · exact .inl ⟨none, by rw [cooled]⟩
    · refine .inr ⟨kept, mixed, .inr ?_⟩
      rcases ended with zero | past
      · split at zero
        · exact .inl zero
        · contradiction
      · exact .inr past
  · rw [checkUnderflow_of_lt (Int.not_le.mp late)]
    obtain ⟨state, lowWater, outcome⟩ := @coolDownOrMix_cases driver (settings.getD true)
      (driver.safeWrFrame refTime - driver.fifoDepthFrames.toNat) (driver.safeWrFrame (refTime + highWater)) refTime output
    refine ⟨state.trans started, lowWater, ?_⟩
    rcases outcome with ⟨-, -, none, cooled⟩ | ⟨-, mixed, kept⟩
    · exact .inl ⟨none, by rw [cooled]⟩
    · exact .inr ⟨kept, mixed, .inl (Int.not_le.mp late)⟩

theorem startMixJob_framesSent :
    let result := startMixJob driver highWater settings refTime now output
    (result.2.1.framesSent = output.framesSent ∨
        result.1 = none ∧ result.2.1.framesSent = driver.safeWrFrame (refTime + highWater)) ∧
      ∀ span, result.1 = some span → output.state = .started ∧ result.2.1.framesSent = output.framesSent ∧
        mixSpan driver (settings.getD true) (driver.safeWrFrame refTime - driver.fifoDepthFrames.toNat)
          (driver.safeWrFrame (refTime + highWater)) output.framesSent = some span ∧
        (driver.safeWrFrame refTime < output.framesSent ∨ refTime = 0 ∨ now + underflowCooldown ≤ refTime) := by
  by_cases started : output.state = .started
  · obtain ⟨-, -, ⟨none, cooled⟩ | ⟨kept, mixed, why⟩⟩ := @startMixJob_cases driver highWater settings refTime now output started
    · exact ⟨.inr ⟨none, cooled⟩, fun span returned => absurd (none.symm.trans returned) (by simp)⟩
    · exact ⟨.inl kept, fun span returned => ⟨started, kept, mixed.symm.trans returned, why⟩⟩
  · rw [startMixJob_not_started started]
    exact ⟨.inl rfl, fun span returned => absurd returned (by simp)⟩

/-- A started output's wakeup that finds an underflow at a positive reference time, not after
`now`, returns at the cooldown check: `frames_sent_ = fill_target`, the next wakeup scheduled,
no span. -/
theorem startMixJob_of_underflow (started : output.state = .started) (positive : 0 < refTime)
    (beforeNow : refTime ≤ now) (underflow : output.framesSent ≤ driver.safeWrFrame refTime) :
    startMixJob driver highWater settings refTime now output =
      (none, { (noteUnderflow refTime now output).1 with framesSent := driver.safeWrFrame (refTime + highWater) },
        (noteUnderflow refTime now output).2 ++
          [.scheduleWakeup (driver.safeWrFrame (refTime + highWater) - output.lowWaterFrames)]) := by
  have early : refTime < (noteUnderflow refTime now output).1.underflowCooldownDeadline := by
    rw [noteUnderflow_underflowCooldownDeadline, underflowCooldown]; omega
  rw [startMixJob, if_neg (not_not.mpr started)]
  dsimp only
  rw [checkUnderflow_of_le underflow, coolDownOrMix, if_pos (noteUnderflow_cooling positive), if_pos early]
  simp only [scheduleNextLowWaterWakeup, noteUnderflow_lowWaterFrames, List.singleton_append]

/-- `frames_sent_ += offset` in 64 bits is the integer sum while it stays below `2 ^ 63`. -/
theorem toInt_ofInt_add_setWidth {framesSent : Int} {length : BitVec 32} (nonneg : 0 ≤ framesSent)
    (noOverflow : framesSent + length.toNat < 2 ^ 63) :
    (BitVec.ofInt 64 framesSent + length.setWidth 64).toInt = framesSent + length.toNat := by
  have sent : ((BitVec.ofInt 64 framesSent).toNat : Int) = framesSent := by
    rw [BitVec.toNat_ofInt, Int.emod_eq_of_lt nonneg (by omega), Int.toNat_of_nonneg nonneg]
  have wide : (length.setWidth 64).toNat = length.toNat := by
    rw [BitVec.toNat_setWidth, Nat.mod_eq_of_lt (by have := length.isLt; omega)]
  rw [BitVec.toInt_eq_toNat_cond, BitVec.toNat_add, wide]
  split <;> omega

theorem finishMixJob_writes {span : MixSpan} (start : span.start = BitVec.ofInt 64 output.framesSent)
    (nonneg : 0 ≤ output.framesSent) (noOverflow : output.framesSent + span.length.toNat < 2 ^ 63) :
    ∃ calls, finishMixJob driver span output =
        some (calls, { output with framesSent := output.framesSent + span.length.toNat },
          [.scheduleWakeup (output.framesSent + span.length.toNat - output.lowWaterFrames)]) ∧
      Writes driver.ringFrames.toNat output.framesSent.toNat 0 calls span.length.toNat := by
  have startNat : span.start.toNat = output.framesSent.toNat := by
    rw [start, BitVec.toNat_ofInt, Int.emod_eq_of_lt nonneg (by omega)]
  have narrow := span.length.isLt
  have wide : (span.length.setWidth 64).toNat = span.length.toNat := by
    rw [BitVec.toNat_setWidth, Nat.mod_eq_of_lt (by omega)]
  have zero : (0 : BitVec 64).toNat = 0 := rfl
  obtain ⟨calls, loop, writes⟩ := @writeLoop_writes driver.ringFrames span.start driver.ringFrames_pos
    (span.length.toNat + 1) (span.length.setWidth 64) 0 (by omega) (by omega) (by rw [wide, startNat, zero]; omega)
  rw [zero, wide, Nat.zero_add, startNat] at writes
  refine ⟨calls, ?_, writes⟩
  have loop' : writeLoop driver.ringFrames span.toFrameSpan.start (span.toFrameSpan.length.toNat + 1)
      (span.toFrameSpan.length.setWidth 64) 0 = some (calls, 0 + span.length.setWidth 64) := loop
  have started : (0 : BitVec 64) + span.length.setWidth 64 = span.length.setWidth 64 := BitVec.zero_add _
  rw [finishMixJob, writeToRing, loop', started]
  simp only [Option.map_some', toInt_ofInt_add_setWidth nonneg noOverflow, scheduleNextLowWaterWakeup]

end

theorem finishMixJob_framesSent {driver : Driver} {span : MixSpan} {output output' : Output} {calls : List WriterCall}
    {effects : List Effect} (finished : finishMixJob driver span output = some (calls, output', effects)) :
    ∃ framesSent, output' = { output with framesSent := framesSent } := by
  unfold finishMixJob at finished
  obtain ⟨⟨_, sent⟩, -, made⟩ := Option.map_eq_some'.mp finished
  cases made
  exact ⟨_, rfl⟩

/-! ## Runs of wakeups -/

/-- The clocks read at one wakeup: the reference time `Process` passes to `StartMixJob`, and the
monotonic time `zx::deadline_after` reads inside it. -/
structure Tick where
  refTime : Int
  now : Int
  deriving DecidableEq, Repr

/-- `tick` comes after `earlier`: neither clock goes back, and the reference time is positive
and not past the monotonic time read after it. -/
structure Tick.Follows (tick earlier : Tick) : Prop where
  refTime_le : earlier.refTime ≤ tick.refTime
  now_le : earlier.now ≤ tick.now
  positive : 0 < tick.refTime
  refTime_le_now : tick.refTime ≤ tick.now

/-- One wakeup of the mix task: `StartMixJob`, then `FinishMixJob` on the span or a prefix of it,
since the pipeline may produce fewer frames than asked. -/
inductive Wakeup (driver : Driver) (highWater : Int) (tick : Tick) : Output → Output → Prop
  | idle {settings output output' effects} :
    startMixJob driver highWater settings tick.refTime tick.now output = (none, output', effects) →
    Wakeup driver highWater tick output output'
  | mixed {settings output output' effects span length calls output'' effects'} :
    startMixJob driver highWater settings tick.refTime tick.now output = (some span, output', effects) →
    length.toNat ≤ span.length.toNat →
    finishMixJob driver { span with length := length } output' = some (calls, output'', effects') →
    Wakeup driver highWater tick output output''

/-- Wakeups one after another, each at a tick that follows the one before. -/
inductive Run (driver : Driver) (highWater : Int) : Tick → Output → Tick → Output → Prop
  | nil {tick output} : Run driver highWater tick output tick output
  | wakeup {start tick tick' output output' output''} : Run driver highWater start output tick output' →
    tick'.Follows tick → Wakeup driver highWater tick' output' output'' → Run driver highWater start output tick' output''

theorem wakeup_state {driver : Driver} {highWater : Int} {tick : Tick} {output output' : Output}
    (wakeup : Wakeup driver highWater tick output output') :
    output'.state = output.state ∨ output'.state = .shutdown := by
  have started (settings : Option Bool) (started : output.state = .started) :
      (startMixJob driver highWater settings tick.refTime tick.now output).2.1.state = output.state :=
    (startMixJob_cases started).1.trans started.symm
  cases wakeup with
  | @idle settings _ _ effects returned =>
    by_cases running : output.state = .started
    · exact .inl (by simpa only [returned] using started settings running)
    · rw [startMixJob_not_started running] at returned; cases returned; exact .inr rfl
  | @mixed settings _ _ effects span _ _ _ _ returned _ finished =>
    obtain ⟨framesSent, rfl⟩ := finishMixJob_framesSent finished
    obtain ⟨running, -⟩ := (@startMixJob_framesSent driver highWater settings tick.refTime tick.now output).2 span
      (by rw [returned])
    exact .inl (by simpa only [returned] using started settings running)

/-- The mixing invariant at `tick`: `frames_sent_` is not negative and not past the fill target
`Apply(ref_time + kDefaultHighWaterNsec)`. -/
def OnTarget (driver : Driver) (highWater : Int) (tick : Tick) (output : Output) : Prop :=
  0 ≤ output.framesSent ∧ output.framesSent ≤ driver.safeWrFrame (tick.refTime + highWater)

/-- The ring holds the high-water lead and the FIFO: at any reference time the fill target is at
most `rb.frames()` past the frames transmitted. -/
def HoldsLead (driver : Driver) (highWater : Int) : Prop :=
  ∀ t, driver.safeWrFrame (t + highWater) - (driver.safeWrFrame t - driver.fifoDepthFrames.toNat) ≤
    driver.ringFrames.toNat

/-- The conditions of the `FX_DCHECK`s of `StartMixJob`: `0 <= frames_in_flight <= rb.frames()`
and `frames_sent_ <= fill_target`. -/
def MixChecks (driver : Driver) (highWater refTime framesSent : Int) : Prop :=
  0 ≤ framesSent - (driver.safeWrFrame refTime - driver.fifoDepthFrames.toNat) ∧
    framesSent - (driver.safeWrFrame refTime - driver.fifoDepthFrames.toNat) ≤ driver.ringFrames.toNat ∧
    framesSent ≤ driver.safeWrFrame (refTime + highWater)

/-- An 8-frame ring with a 2-frame FIFO, whose safe write pointer moves a frame a nanosecond
up to frame 1000. -/
def sampleDriver : Driver :=
  ⟨8#32, 2#32, fun t => min t 1000, by decide, fun _ => lt_of_le_of_lt (min_le_right _ _) (by decide)⟩

theorem sampleDriver_steady : Monotone sampleDriver.safeWrFrame := fun _ _ earlier => by
  simp only [sampleDriver]; omega

theorem sampleDriver_holdsLead : HoldsLead sampleDriver 4 := fun t => by
  simp [sampleDriver]; omega

section
variable {driver : Driver} {highWater : Int} {start tick tick' : Tick} {output output' : Output}

theorem wakeup_mixed_writes {settings : Option Bool} {span : MixSpan} {effects : List Effect} {length : BitVec 32}
    (mixed : startMixJob driver highWater settings tick.refTime tick.now output = (some span, output', effects))
    (shorter : length.toNat ≤ span.length.toNat) (nonneg : 0 ≤ output.framesSent)
    (ahead : output.framesSent ≤ driver.safeWrFrame (tick.refTime + highWater)) :
    output'.framesSent = output.framesSent ∧
      output.framesSent + length.toNat ≤ driver.safeWrFrame (tick.refTime + highWater) ∧
      ∃ calls, finishMixJob driver { span with length := length } output' =
          some (calls, { output' with framesSent := output.framesSent + length.toNat },
            [.scheduleWakeup (output.framesSent + length.toNat - output'.lowWaterFrames)]) ∧
        Writes driver.ringFrames.toNat output.framesSent.toNat 0 calls length.toNat := by
  obtain ⟨-, returned⟩ := @startMixJob_framesSent driver highWater settings tick.refTime tick.now output
  rw [mixed] at returned
  dsimp only at returned
  obtain ⟨-, kept, made, -⟩ := returned span rfl
  have begins : span.start = BitVec.ofInt 64 output.framesSent := by rw [(mixSpan_some made).2.2]
  have wanted := (mixSpan_length made ahead).1
  have bounded := driver.safeWrFrame_lt (tick.refTime + highWater)
  have within : output.framesSent + length.toNat ≤ driver.safeWrFrame (tick.refTime + highWater) := by
    omega
  obtain ⟨calls, finished, writes⟩ := @finishMixJob_writes driver output' { span with length := length }
    (by rw [kept]; exact begins) (kept ▸ nonneg) (by dsimp only; rw [kept]; omega)
  exact ⟨kept, within, calls, by simpa only [kept] using finished, by simpa only [kept] using writes⟩

theorem wakeup_onTarget (steady : Monotone driver.safeWrFrame) (follows : tick'.Follows tick)
    (onTarget : OnTarget driver highWater tick output) (wakeup : Wakeup driver highWater tick' output output') :
    OnTarget driver highWater tick' output' ∧ output.framesSent ≤ output'.framesSent := by
  obtain ⟨nonneg, ahead⟩ := onTarget
  have later : output.framesSent ≤ driver.safeWrFrame (tick'.refTime + highWater) :=
    ahead.trans (steady (by have := follows.refTime_le; omega))
  cases wakeup with
  | @idle settings _ _ effects started =>
    obtain ⟨kept | ⟨-, cooled⟩, -⟩ := @startMixJob_framesSent driver highWater settings tick'.refTime tick'.now output
    · rw [started] at kept; dsimp only at kept
      exact ⟨⟨kept ▸ nonneg, kept ▸ later⟩, kept.ge⟩
    · rw [started] at cooled; dsimp only at cooled
      exact ⟨⟨cooled ▸ nonneg.trans later, cooled.le⟩, cooled ▸ later⟩
  | mixed started shorter finished =>
    obtain ⟨-, within, calls, finishes, -⟩ := wakeup_mixed_writes started shorter nonneg later
    rw [finishes] at finished
    cases finished
    exact ⟨⟨by dsimp only; omega, within⟩, by dsimp only; omega⟩

/-- Along a run from a state on target, every state is on target and `frames_sent_` never moves back. -/
theorem run_onTarget (steady : Monotone driver.safeWrFrame) (run : Run driver highWater start output tick output')
    (onTarget : OnTarget driver highWater start output) :
    OnTarget driver highWater tick output' ∧ output.framesSent ≤ output'.framesSent := by
  induction run with
  | nil => exact ⟨onTarget, le_refl _⟩
  | wakeup _ follows wakeup ih =>
    obtain ⟨reached, grew⟩ := ih onTarget
    obtain ⟨kept, grows⟩ := wakeup_onTarget steady follows reached wakeup
    exact ⟨kept, grew.trans grows⟩

theorem no_underflow_of_mixed {settings : Option Bool} {span : MixSpan} {effects : List Effect}
    (follows : tick'.Follows tick)
    (mixed : startMixJob driver highWater settings tick'.refTime tick'.now output = (some span, output', effects)) :
    driver.safeWrFrame tick'.refTime < output.framesSent := by
  obtain ⟨-, returned⟩ := @startMixJob_framesSent driver highWater settings tick'.refTime tick'.now output
  rw [mixed] at returned
  obtain ⟨-, -, -, fine | zero | past⟩ := returned span rfl
  · exact fine
  · exact absurd zero (ne_of_gt follows.positive)
  · have := follows.refTime_le_now
    have cooldown : (0 : Int) < underflowCooldown := by unfold underflowCooldown; decide
    omega

theorem mixChecks_of_fine (steady : Monotone driver.safeWrFrame) (holds : HoldsLead driver highWater)
    (follows : tick'.Follows tick) (onTarget : OnTarget driver highWater tick output)
    (fine : driver.safeWrFrame tick'.refTime < output.framesSent) :
    MixChecks driver highWater tick'.refTime output.framesSent := by
  have later : output.framesSent ≤ driver.safeWrFrame (tick'.refTime + highWater) :=
    onTarget.2.trans (steady (by have := follows.refTime_le; omega))
  exact ⟨by omega, by have := holds tick'.refTime; omega, later⟩

/-- The `FX_DCHECK`s of `StartMixJob` never fail along a run: with a driver clock that does not
run backwards and a ring that holds the high-water lead and the FIFO, from a state on target, a
started output's wakeup that finds an underflow returns at the cooldown check, before the
`FX_DCHECK`s, and one that finds none meets their conditions. -/
theorem start_mix_job_checks_hold {settings : Option Bool} (steady : Monotone driver.safeWrFrame)
    (holds : HoldsLead driver highWater) (onTarget : OnTarget driver highWater start output)
    (run : Run driver highWater start output tick output') (follows : tick'.Follows tick) :
    (output'.framesSent ≤ driver.safeWrFrame tick'.refTime → output'.state = .started →
        startMixJob driver highWater settings tick'.refTime tick'.now output' =
          (none, { (noteUnderflow tick'.refTime tick'.now output').1 with
              framesSent := driver.safeWrFrame (tick'.refTime + highWater) },
            (noteUnderflow tick'.refTime tick'.now output').2 ++
              [.scheduleWakeup (driver.safeWrFrame (tick'.refTime + highWater) - output'.lowWaterFrames)])) ∧
      (driver.safeWrFrame tick'.refTime < output'.framesSent →
        MixChecks driver highWater tick'.refTime output'.framesSent) :=
  ⟨fun underflow started => startMixJob_of_underflow started follows.positive follows.refTime_le_now underflow,
    mixChecks_of_fine steady holds follows (run_onTarget steady run onTarget).1⟩

theorem mix_checks_hold_after_one_job :
    Monotone sampleDriver.safeWrFrame ∧ HoldsLead sampleDriver 4 ∧ OnTarget sampleDriver 4 ⟨1, 1⟩ ⟨.started, 3, 0, 0, 0⟩ ∧
      Run sampleDriver 4 ⟨1, 1⟩ ⟨.started, 3, 0, 0, 0⟩ ⟨2, 2⟩ ⟨.started, 6, 0, 0, 0⟩ ∧
      Tick.Follows ⟨3, 3⟩ ⟨2, 2⟩ ∧ MixChecks sampleDriver 4 3 6 ∧ Tick.Follows ⟨10, 10⟩ ⟨2, 2⟩ ∧
      startMixJob sampleDriver 4 none 10 10 ⟨.started, 6, 0, 0, 0⟩ =
        (none, ⟨.started, 14, 0, 10, 10 + underflowCooldown⟩, [.underflowSilence 10, .scheduleWakeup 14]) :=
  have onTarget : OnTarget sampleDriver 4 ⟨1, 1⟩ ⟨.started, 3, 0, 0, 0⟩ := ⟨by decide, by decide⟩
  have run : Run sampleDriver 4 ⟨1, 1⟩ ⟨.started, 3, 0, 0, 0⟩ ⟨2, 2⟩ ⟨.started, 6, 0, 0, 0⟩ :=
    .wakeup .nil ⟨by decide, by decide, by decide, by decide⟩
      (@Wakeup.mixed sampleDriver 4 ⟨2, 2⟩ none ⟨.started, 3, 0, 0, 0⟩ ⟨.started, 3, 0, 0, 0⟩ []
        ⟨⟨BitVec.ofInt 64 3, 3#32⟩, true⟩ 3#32 [⟨0#64, 3#32, 3#32⟩] ⟨.started, 6, 0, 0, 0⟩ [.scheduleWakeup 6]
        (by decide) (le_refl _) (by decide))
  have fine : Tick.Follows ⟨3, 3⟩ ⟨2, 2⟩ := ⟨by decide, by decide, by decide, by decide⟩
  have late : Tick.Follows ⟨10, 10⟩ ⟨2, 2⟩ := ⟨by decide, by decide, by decide, by decide⟩
  ⟨sampleDriver_steady, sampleDriver_holdsLead, onTarget, run, fine,
    (@start_mix_job_checks_hold sampleDriver 4 ⟨1, 1⟩ ⟨2, 2⟩ ⟨3, 3⟩ _ _ none sampleDriver_steady sampleDriver_holdsLead
      onTarget run fine).2 (by decide), late,
    (@start_mix_job_checks_hold sampleDriver 4 ⟨1, 1⟩ ⟨2, 2⟩ ⟨10, 10⟩ _ _ none sampleDriver_steady sampleDriver_holdsLead
      onTarget run late).1 (by decide) rfl⟩

/-- No overrun: along a run from a state on target, a span a wakeup mixes, or the prefix of it
`FinishMixJob` is given, is written in chunks that tile it and moves `frames_sent_` past it; it
ends by the fill target and, while the frames in flight fit the ring, within `rb.frames()` of the
frames transmitted. -/
theorem mix_job_stays_behind_hardware {settings : Option Bool} {span : MixSpan} {effects : List Effect}
    {length : BitVec 32} {output'' : Output} (steady : Monotone driver.safeWrFrame)
    (onTarget : OnTarget driver highWater start output) (run : Run driver highWater start output tick output')
    (follows : tick'.Follows tick)
    (mixed : startMixJob driver highWater settings tick'.refTime tick'.now output' = (some span, output'', effects))
    (shorter : length.toNat ≤ span.length.toNat) :
    (∃ calls, finishMixJob driver { span with length := length } output'' =
        some (calls, { output'' with framesSent := output'.framesSent + length.toNat },
          [.scheduleWakeup (output'.framesSent + length.toNat - output''.lowWaterFrames)]) ∧
      Writes driver.ringFrames.toNat output'.framesSent.toNat 0 calls length.toNat) ∧
      output'.framesSent + length.toNat ≤ driver.safeWrFrame (tick'.refTime + highWater) ∧
      (output'.framesSent - (driver.safeWrFrame tick'.refTime - driver.fifoDepthFrames.toNat) ≤
          driver.ringFrames.toNat →
        output'.framesSent + length.toNat ≤
          driver.safeWrFrame tick'.refTime - driver.fifoDepthFrames.toNat + driver.ringFrames.toNat) := by
  obtain ⟨⟨nonneg, ahead⟩, -⟩ := run_onTarget steady run onTarget
  have later : output'.framesSent ≤ driver.safeWrFrame (tick'.refTime + highWater) :=
    ahead.trans (steady (by have := follows.refTime_le; omega))
  obtain ⟨-, within, writes⟩ := wakeup_mixed_writes mixed shorter nonneg later
  refine ⟨writes, within, fun inRing => ?_⟩
  have fine := no_underflow_of_mixed follows mixed
  obtain ⟨-, returned⟩ := @startMixJob_framesSent driver highWater settings tick'.refTime tick'.now output'
  rw [mixed] at returned
  obtain ⟨-, -, made, -⟩ := returned span rfl
  have free := (mixSpan_length made later).2 (by omega) inRing
  omega

theorem mix_job_writes_prefix_behind_hardware :
    OnTarget sampleDriver 4 ⟨1, 1⟩ ⟨.started, 3, 0, 0, 0⟩ ∧ Tick.Follows ⟨2, 2⟩ ⟨1, 1⟩ ∧
      startMixJob sampleDriver 4 none 2 2 ⟨.started, 3, 0, 0, 0⟩ =
        (some ⟨⟨BitVec.ofInt 64 3, 3#32⟩, true⟩, ⟨.started, 3, 0, 0, 0⟩, []) ∧ (2#32).toNat ≤ (3#32).toNat ∧
      (∃ calls, finishMixJob sampleDriver { (⟨⟨BitVec.ofInt 64 3, 3#32⟩, true⟩ : MixSpan) with length := 2#32 }
          ⟨.started, 3, 0, 0, 0⟩ =
          some (calls, { (⟨.started, 3, 0, 0, 0⟩ : Output) with framesSent := 3 + (2#32).toNat },
            [.scheduleWakeup (3 + (2#32).toNat - 0)]) ∧
        Writes sampleDriver.ringFrames.toNat (3 : Int).toNat 0 calls (2#32).toNat) ∧
      3 + ((2#32).toNat : Int) ≤ sampleDriver.safeWrFrame (2 + 4) ∧
      (3 - (sampleDriver.safeWrFrame 2 - (2#32).toNat) ≤ (8#32).toNat →
        3 + ((2#32).toNat : Int) ≤ sampleDriver.safeWrFrame 2 - (2#32).toNat + (8#32).toNat) :=
  have onTarget : OnTarget sampleDriver 4 ⟨1, 1⟩ ⟨.started, 3, 0, 0, 0⟩ := ⟨by decide, by decide⟩
  have follows : Tick.Follows ⟨2, 2⟩ ⟨1, 1⟩ := ⟨by decide, by decide, by decide, by decide⟩
  have mixed : startMixJob sampleDriver 4 none 2 2 ⟨.started, 3, 0, 0, 0⟩ =
      (some ⟨⟨BitVec.ofInt 64 3, 3#32⟩, true⟩, ⟨.started, 3, 0, 0, 0⟩, []) := by decide
  ⟨onTarget, follows, mixed, by decide,
    mix_job_stays_behind_hardware sampleDriver_steady onTarget .nil follows mixed (by decide)⟩

end

/-! ## The cooldown -/

/-- The output is shut down, or cooling down until at least `deadline`. -/
def QuietUntil (deadline : Int) (output : Output) : Prop :=
  output.state ≠ .started ∨ output.underflowStartTime ≠ 0 ∧ deadline ≤ output.underflowCooldownDeadline

section
variable {driver : Driver} {highWater : Int} {settings : Option Bool} {refTime now deadline : Int}
  {output : Output}

theorem startMixJob_quietUntil (quiet : QuietUntil deadline output) (early : refTime < deadline)
    (recent : deadline ≤ now + underflowCooldown) :
    (startMixJob driver highWater settings refTime now output).1 = none ∧
      QuietUntil deadline (startMixJob driver highWater settings refTime now output).2.1 := by
  by_cases started : output.state = .started
  · have cooling := quiet.resolve_left (not_not.mpr started)
    rw [startMixJob, if_neg (not_not.mpr started)]
    dsimp only
    have checked : (checkUnderflow (driver.safeWrFrame refTime) refTime now output).1.underflowStartTime ≠ 0 ∧
        deadline ≤ (checkUnderflow (driver.safeWrFrame refTime) refTime now output).1.underflowCooldownDeadline := by
      by_cases late : output.framesSent ≤ driver.safeWrFrame refTime
      · rw [checkUnderflow_of_le late, noteUnderflow_underflowStartTime, noteUnderflow_underflowCooldownDeadline,
          if_neg cooling.1]
        exact ⟨cooling.1, recent⟩
      · rw [checkUnderflow_of_lt (Int.not_le.mp late)]; exact cooling
    obtain ⟨-, -, ⟨-, -, none, cooled⟩ | ⟨ended, -⟩⟩ := @coolDownOrMix_cases driver (settings.getD true)
      (driver.safeWrFrame refTime - driver.fifoDepthFrames.toNat) (driver.safeWrFrame (refTime + highWater)) refTime
      (checkUnderflow (driver.safeWrFrame refTime) refTime now output).1
    · exact ⟨none, .inr (by rw [cooled]; exact checked)⟩
    · rcases ended with zero | past
      · exact absurd zero checked.1
      · omega
  · rw [startMixJob_not_started started]
    exact ⟨rfl, .inl (by simp)⟩

theorem startMixJob_underflow (positive : 0 < refTime) (beforeNow : refTime ≤ now)
    (underflow : output.framesSent ≤ driver.safeWrFrame refTime) :
    (startMixJob driver highWater settings refTime now output).1 = none ∧
      QuietUntil (now + underflowCooldown) (startMixJob driver highWater settings refTime now output).2.1 := by
  by_cases started : output.state = .started
  · rw [startMixJob_of_underflow started positive beforeNow underflow]
    exact ⟨rfl, .inr ⟨noteUnderflow_cooling positive, le_of_eq noteUnderflow_underflowCooldownDeadline.symm⟩⟩
  · rw [startMixJob_not_started started]
    exact ⟨rfl, .inl (by simp)⟩

end

section
variable {driver : Driver} {highWater deadline : Int} {start tick tick' : Tick} {output output' : Output}

theorem Run.ticks_le (run : Run driver highWater start output tick output') :
    start.refTime ≤ tick.refTime ∧ start.now ≤ tick.now := by
  induction run with
  | nil => exact ⟨le_refl _, le_refl _⟩
  | wakeup _ follows _ ih => exact ⟨ih.1.trans follows.refTime_le, ih.2.trans follows.now_le⟩

theorem wakeup_quietUntil (quiet : QuietUntil deadline output) (early : tick.refTime < deadline)
    (recent : deadline ≤ tick.now + underflowCooldown) (wakeup : Wakeup driver highWater tick output output') :
    QuietUntil deadline output' := by
  cases wakeup with
  | @idle settings _ _ effects returned =>
    have := (@startMixJob_quietUntil driver highWater settings _ _ _ _ quiet early recent).2
    rwa [returned] at this
  | @mixed settings _ _ effects span _ _ _ _ returned =>
    have := (@startMixJob_quietUntil driver highWater settings _ _ _ _ quiet early recent).1
    rw [returned] at this; cases this

/-- Along a run whose wakeups all come before `deadline`, an output shut down or cooling down
until `deadline` stays so, provided the deadline is no later than the cooldown after the run's
first monotonic time. -/
theorem Run.quietUntil (run : Run driver highWater start output tick output')
    (quiet : QuietUntil deadline output) (recent : deadline ≤ start.now + underflowCooldown)
    (early : tick.refTime < deadline) : QuietUntil deadline output' := by
  induction run with
  | nil => exact quiet
  | wakeup before follows wakeup ih =>
    exact wakeup_quietUntil (ih quiet (lt_of_le_of_lt follows.refTime_le early)) early
      (by have := before.ticks_le.2; have := follows.now_le; omega) wakeup

/-- Nothing is mixed for `kUnderflowCooldown` after an underflow: once a wakeup finds an
underflow, it returns no span, and neither does any wakeup of any run that follows it before
the monotonic time that wakeup read plus `kUnderflowCooldown`. -/
theorem no_mix_during_underflow_cooldown {settings settings' : Option Bool} {result : Option MixSpan}
    {effects : List Effect} {found : Tick} {output₁ : Output} (positive : 0 < found.refTime)
    (beforeNow : found.refTime ≤ found.now) (underflow : output.framesSent ≤ driver.safeWrFrame found.refTime)
    (first : startMixJob driver highWater settings found.refTime found.now output = (result, output₁, effects))
    (run : Run driver highWater found output₁ tick output') (follows : tick'.Follows tick)
    (early : tick'.refTime < found.now + underflowCooldown) :
    result = none ∧ (startMixJob driver highWater settings' tick'.refTime tick'.now output').1 = none := by
  obtain ⟨none, quiet⟩ := @startMixJob_underflow driver highWater settings _ _ output positive beforeNow underflow
  rw [first] at none quiet
  refine ⟨none, (startMixJob_quietUntil (run.quietUntil quiet le_rfl
    (lt_of_le_of_lt follows.refTime_le early)) early ?_).1⟩
  have := run.ticks_le.2; have := follows.now_le; omega

theorem underflow_silences_next_wakeup :
    0 < (10 : Int) ∧ (10 : Int) ≤ 10 ∧ (5 : Int) ≤ sampleDriver.safeWrFrame 10 ∧
      startMixJob sampleDriver 4 none 10 10 ⟨.started, 5, 0, 0, 0⟩ =
        (none, ⟨.started, 14, 0, 10, 10 + underflowCooldown⟩, [.underflowSilence 10, .scheduleWakeup 14]) ∧
      Tick.Follows ⟨20, 20⟩ ⟨10, 10⟩ ∧ (20 : Int) < 10 + underflowCooldown ∧
      (none : Option MixSpan) = none ∧
      (startMixJob sampleDriver 4 (some false) 20 20 ⟨.started, 14, 0, 10, 10 + underflowCooldown⟩).1 = none :=
  have first : startMixJob sampleDriver 4 none 10 10 ⟨.started, 5, 0, 0, 0⟩ =
      (none, ⟨.started, 14, 0, 10, 10 + underflowCooldown⟩, [.underflowSilence 10, .scheduleWakeup 14]) := by decide
  have follows : Tick.Follows ⟨20, 20⟩ ⟨10, 10⟩ := ⟨by decide, by decide, by decide, by decide⟩
  have early : (20 : Int) < 10 + underflowCooldown := by unfold underflowCooldown; decide
  ⟨by decide, le_refl _, by decide, first, follows, early,
    @no_mix_during_underflow_cooldown sampleDriver 4 ⟨10, 10⟩ ⟨20, 20⟩ ⟨.started, 5, 0, 0, 0⟩ _ none (some false) none _
      ⟨10, 10⟩ _ (by decide) (le_refl _) (by decide) first .nil follows early⟩

end

end ZirconRpi.Audio.MixJob
