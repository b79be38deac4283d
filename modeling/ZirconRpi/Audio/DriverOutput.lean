import Mathlib.Data.Nat.Defs
import Mathlib.Algebra.Group.Nat.Basic
/-! `DriverOutput::WriteToRing` of `audio_core/driver_output.cc`, with the source's integer widths:
a span no longer than the ring is written in at most two chunks that tile it at their ring
positions, and `frames_sent_` advances by its length. -/

namespace ZirconRpi.Audio.DriverOutput

/-- `AudioOutput::FrameSpan`, as far as `WriteToRing` reads it. -/
structure FrameSpan where
  start : BitVec 64
  length : BitVec 32
  deriving DecidableEq, Repr

/-- One call `writer(offset, to_send, dest_buf)`; `dest_buf` is the ring at frame `wrPtr`. -/
structure WriterCall where
  offset : BitVec 64
  length : BitVec 32
  wrPtr : BitVec 32
  deriving DecidableEq, Repr

/-- `wr_ptr = (span.start + offset) % rb->frames()`, computed in 64 bits and kept in 32. -/
def wrPtr (frames : BitVec 32) (start offset : BitVec 64) : BitVec 32 :=
  ((start + offset) % frames.setWidth 64).setWidth 32

/-- `to_send`: the frames left, cut at `contig_space = rb->frames() - wr_ptr`. -/
def toSend (frames wrPtr : BitVec 32) (framesLeft : BitVec 64) : BitVec 32 :=
  let contigSpace := frames - wrPtr
  if framesLeft.setWidth 32 > contigSpace then contigSpace else framesLeft.setWidth 32

/-- The loop of `WriteToRing` from `frames_left` and `offset` on, allowed `fuel` iterations:
the writer calls it makes and the final `offset`, or nothing if it needs more iterations. -/
def writeLoop (frames : BitVec 32) (start : BitVec 64) : Nat → BitVec 64 → BitVec 64 →
    Option (List WriterCall × BitVec 64)
  | 0, _, _ => none
  | fuel + 1, framesLeft, offset =>
    if 0 < framesLeft then
      let wrPtr := wrPtr frames start offset
      let toSend := toSend frames wrPtr framesLeft
      (writeLoop frames start fuel (framesLeft - toSend.setWidth 64) (offset + toSend.setWidth 64)).map
        fun (calls, final) => (⟨offset, toSend, wrPtr⟩ :: calls, final)
    else some ([], offset)

/-- `DriverOutput::WriteToRing` on a ring of `frames` frames: the writer calls and the new
`frames_sent_`. The loop is allowed one iteration more than the span has frames. -/
def writeToRing (frames : BitVec 32) (framesSent : BitVec 64) (span : FrameSpan) :
    Option (List WriterCall × BitVec 64) :=
  (writeLoop frames span.start (span.length.toNat + 1) (span.length.setWidth 64) 0).map
    fun (calls, offset) => (calls, framesSent + offset)

/-- `Writes frames start offset calls final`: the calls tile the frames `[offset, final)` of
the span in order, each non-empty, at ring position `(start + offset) % frames` and inside the
ring; every call but the last runs up to the ring's end. -/
inductive Writes (frames start : Nat) : Nat → List WriterCall → Nat → Prop
  | nil {offset : Nat} : Writes frames start offset [] offset
  | cons {offset final : Nat} {call : WriterCall} {calls : List WriterCall} :
    call.offset.toNat = offset → 0 < call.length.toNat →
    call.wrPtr.toNat = (start + offset) % frames →
    call.wrPtr.toNat + call.length.toNat ≤ frames →
    (calls ≠ [] → call.wrPtr.toNat + call.length.toNat = frames) →
    Writes frames start (offset + call.length.toNat) calls final →
    Writes frames start offset (call :: calls) final

theorem Writes.le_final {frames start offset final : Nat} {calls : List WriterCall}
    (writes : Writes frames start offset calls final) : offset ≤ final := by
  induction writes with
  | nil => exact Nat.le_refl _
  | cons _ _ _ _ _ _ ih => omega

/-- A call writes at least one frame, so a non-empty list of calls ends past its start. -/
theorem Writes.lt_final {frames start offset final : Nat} {call : WriterCall} {calls : List WriterCall}
    (writes : Writes frames start offset (call :: calls) final) : offset < final := by
  cases writes with
  | cons _ nonempty _ _ _ tail => have := tail.le_final; omega

/-! ## One iteration -/

section
variable {frames : BitVec 32} {start offset framesLeft : BitVec 64}

theorem toNat_wrPtr (positive : 0 < frames.toNat) (noOverflow : start.toNat + offset.toNat < 2 ^ 64) :
    (wrPtr frames start offset).toNat = (start.toNat + offset.toNat) % frames.toNat := by
  have inRing := Nat.mod_lt (start.toNat + offset.toNat) positive
  have narrow := frames.isLt
  simp only [wrPtr, BitVec.toNat_setWidth, BitVec.toNat_umod, BitVec.toNat_add, Nat.mod_eq_of_lt noOverflow]
  rw [Nat.mod_eq_of_lt (by omega : frames.toNat < 2 ^ 64), Nat.mod_eq_of_lt (by omega)]

theorem toNat_toSend {wr : BitVec 32} (inRing : wr.toNat < frames.toNat) (narrow : framesLeft.toNat < 2 ^ 32) :
    (toSend frames wr framesLeft).toNat = min framesLeft.toNat (frames.toNat - wr.toNat) := by
  have contig : (frames - wr).toNat = frames.toNat - wr.toNat := by
    rw [BitVec.toNat_sub]; have := frames.isLt; omega
  have left : (framesLeft.setWidth 32).toNat = framesLeft.toNat := by
    rw [BitVec.toNat_setWidth, Nat.mod_eq_of_lt narrow]
  simp only [toSend]
  split
  · next cut => simp only [gt_iff_lt, BitVec.lt_def, contig, left] at cut; rw [contig]; omega
  · next whole => simp only [gt_iff_lt, BitVec.lt_def, contig, left] at whole; rw [left]; omega

theorem writeLoop_done (fuel : Nat) (empty : framesLeft.toNat = 0) :
    writeLoop frames start (fuel + 1) framesLeft offset = some ([], offset) := by
  rw [writeLoop, if_neg (by rw [BitVec.lt_def]; simp [empty])]

theorem writeLoop_next (fuel : Nat) (positive : 0 < framesLeft.toNat) :
    writeLoop frames start (fuel + 1) framesLeft offset =
      (writeLoop frames start fuel (framesLeft - (toSend frames (wrPtr frames start offset) framesLeft).setWidth 64)
        (offset + (toSend frames (wrPtr frames start offset) framesLeft).setWidth 64)).map
        fun (calls, final) => (⟨offset, toSend frames (wrPtr frames start offset) framesLeft,
          wrPtr frames start offset⟩ :: calls, final) := by
  rw [writeLoop, if_pos (by rw [BitVec.lt_def]; simpa using positive)]

/-- Sending `chunk` frames moves them from `frames_left` to `offset`; nothing wraps in 64 bits. -/
theorem advance_toNat {chunk : BitVec 32} (within : chunk.toNat ≤ framesLeft.toNat)
    (noOverflow : offset.toNat + framesLeft.toNat < 2 ^ 64) :
    (framesLeft - chunk.setWidth 64).toNat = framesLeft.toNat - chunk.toNat ∧
      (offset + chunk.setWidth 64).toNat = offset.toNat + chunk.toNat ∧
      offset + chunk.setWidth 64 + (framesLeft - chunk.setWidth 64) = offset + framesLeft := by
  have wide : (chunk.setWidth 64).toNat = chunk.toNat := by
    rw [BitVec.toNat_setWidth, Nat.mod_eq_of_lt (by have := chunk.isLt; omega)]
  have left : (framesLeft - chunk.setWidth 64).toNat = framesLeft.toNat - chunk.toNat := by
    rw [BitVec.toNat_sub, wide]; omega
  have advanced : (offset + chunk.setWidth 64).toNat = offset.toNat + chunk.toNat := by
    rw [BitVec.toNat_add, wide, Nat.mod_eq_of_lt (by omega)]
  refine ⟨left, advanced, BitVec.eq_of_toNat_eq ?_⟩
  rw [BitVec.toNat_add, advanced, left, BitVec.toNat_add]; omega

end

/-! ## The whole loop -/

/-- Given more iterations than frames left, the loop ends, having written exactly the frames
left, in chunks that tile them. -/
theorem writeLoop_writes {frames : BitVec 32} {start : BitVec 64} (positive : 0 < frames.toNat) (fuel : Nat)
    (framesLeft offset : BitVec 64) (enough : framesLeft.toNat < fuel) (narrow : framesLeft.toNat < 2 ^ 32)
    (noOverflow : start.toNat + offset.toNat + framesLeft.toNat < 2 ^ 64) :
    ∃ calls, writeLoop frames start fuel framesLeft offset = some (calls, offset + framesLeft) ∧
      Writes frames.toNat start.toNat offset.toNat calls (offset.toNat + framesLeft.toNat) := by
  induction fuel generalizing framesLeft offset with
  | zero => exact absurd enough (Nat.not_lt_zero _)
  | succ fuel ih =>
    by_cases empty : framesLeft.toNat = 0
    · have zero : framesLeft = 0 := BitVec.eq_of_toNat_eq (by simpa using empty)
      subst zero
      exact ⟨[], by simpa using writeLoop_done fuel empty, by simpa using Writes.nil⟩
    rw [writeLoop_next fuel (by omega)]
    have wr : (wrPtr frames start offset).toNat = (start.toNat + offset.toNat) % frames.toNat :=
      toNat_wrPtr positive (by omega)
    generalize wrPtr frames start offset = position at wr ⊢
    have inRing : position.toNat < frames.toNat := wr ▸ Nat.mod_lt _ positive
    have sent := toNat_toSend inRing narrow
    generalize toSend frames position framesLeft = chunk at sent ⊢
    obtain ⟨left, advanced, final⟩ := @advance_toNat offset framesLeft chunk (by omega) (by omega)
    obtain ⟨calls, loop, writes⟩ := ih (framesLeft - chunk.setWidth 64) (offset + chunk.setWidth 64)
      (by omega) (by omega) (by omega)
    rw [final] at loop
    rw [advanced, left, show offset.toNat + chunk.toNat + (framesLeft.toNat - chunk.toNat) =
      offset.toNat + framesLeft.toNat by omega] at writes
    refine ⟨_, by rw [loop]; rfl, .cons rfl (by dsimp only; omega) wr (by dsimp only; omega) (fun more => ?_) writes⟩
    cases calls with
    | nil => exact absurd rfl more
    | cons call calls => have := writes.lt_final; dsimp only; omega

/-- `WriteToRing` on a span no longer than the ring, with a non-negative start: the loop ends;
the writer is called on at most two chunks that tile `[0, span.length)` in order, each
non-empty, at ring position `(span.start + offset) % rb->frames()` and not past the ring's end;
and `frames_sent_` advances by exactly `span.length`. -/
theorem write_to_ring_splits_at_wrap {frames : BitVec 32} {framesSent : BitVec 64} {span : FrameSpan}
    (positive : 0 < frames.toNat) (nonnegative : 0 ≤ span.start.toInt) (fits : span.length.toNat ≤ frames.toNat) :
    ∃ calls, writeToRing frames framesSent span = some (calls, framesSent + span.length.setWidth 64) ∧
      Writes frames.toNat span.start.toNat 0 calls span.length.toNat ∧ calls.length ≤ 2 := by
  have low : 2 * span.start.toNat < 2 ^ 64 := by
    have := BitVec.toInt_eq_toNat_cond span.start
    split at this <;> omega
  have narrow := span.length.isLt
  have wide : (span.length.setWidth 64).toNat = span.length.toNat := by
    rw [BitVec.toNat_setWidth, Nat.mod_eq_of_lt (by omega)]
  have zero : (0 : BitVec 64).toNat = 0 := rfl
  obtain ⟨calls, loop, writes⟩ := @writeLoop_writes frames span.start positive (span.length.toNat + 1)
    (span.length.setWidth 64) 0 (by omega) (by omega) (by rw [wide, zero]; omega)
  rw [zero, wide, Nat.zero_add] at writes
  refine ⟨calls, by rw [writeToRing, loop]; simp, writes, ?_⟩
  match calls, writes with
  | [], _ | [_], _ | [_, _], _ => simp
  | first :: second :: third :: rest, .cons _ short wr₁ _ ends₁ (.cons _ _ wr₂ _ ends₂ tail) =>
    have start₁ : span.start.toNat % frames.toNat = first.wrPtr.toNat := by simpa using wr₁.symm
    have wrapped : second.wrPtr.toNat = 0 := by
      rw [wr₂, Nat.zero_add, ← Nat.mod_add_mod, start₁, ends₁ (List.cons_ne_nil _ _), Nat.mod_self]
    have past := tail.lt_final
    have full := ends₂ (List.cons_ne_nil _ _)
    omega

theorem write_to_ring_wraps_once :
    (0 < (8#32).toNat ∧ 0 ≤ (6#64).toInt ∧ (5#32).toNat ≤ (8#32).toNat) ∧
      ∃ calls, writeToRing 8#32 6#64 ⟨6#64, 5#32⟩ = some (calls, 6#64 + (5#32).setWidth 64) ∧
        Writes 8 6 0 calls 5 ∧ calls.length ≤ 2 :=
  ⟨⟨by decide, by decide, by decide⟩, write_to_ring_splits_at_wrap (by decide) (by decide) (by decide)⟩

end ZirconRpi.Audio.DriverOutput
