import ZirconRpi.Gap.Table
import Mathlib.Data.List.Basic

/-! Runs of the pairing machine: any sequence of calls from any state, recorded call by
call, none of them aborting. `execute` replays a list of calls and is sound for `Run`; the
lemmas here cut a run at any call, so that a property of every run follows from what one
call preserves. -/

namespace ZirconRpi.Gap.Trace
open ZirconRpi.Gap.Decision ZirconRpi.Gap.Machine ZirconRpi.Gap.Table

/-- One completed call: the state before it, the call, the state after it, and its effects. -/
structure Record where
  pre : PairingState
  event : Event
  post : PairingState
  effects : List Effect
  deriving DecidableEq, Repr

variable (securityProperties : LinkKeyType → SecurityProperties)

/-- `Run start history st`: the calls recorded in `history`, oldest first, take `start` to `st`. -/
inductive Run (start : PairingState) : List Record → PairingState → Prop
  | nil : Run start [] start
  | snoc {history st event st' effects} : Run start history st →
    step securityProperties st event = .ok (st', effects) →
    Run start (history ++ [⟨st, event, st', effects⟩]) st'

/-- A state that some run from construction reaches. -/
def Reachable (st : PairingState) : Prop :=
  ∃ pairingDelegate linkKey history,
    Run securityProperties (PairingState.create pairingDelegate linkKey) history st

/-- Replays calls in order, stopping at the first one that aborts. -/
def execute (st : PairingState) : List Event → Except Fault (List Record × PairingState)
  | [] => .ok ([], st)
  | event :: events =>
    match step securityProperties st event with
    | .ok (st', effects) =>
      match execute st' events with
      | .ok (history, final) => .ok (⟨st, event, st', effects⟩ :: history, final)
      | .error fault => .error fault
    | .error fault => .error fault

variable {securityProperties}

theorem Run.cons {start st final : PairingState} {event : Event} {effects : List Effect}
    {history : List Record} (first : step securityProperties start event = .ok (st, effects))
    (rest : Run securityProperties st history final) :
    Run securityProperties start (⟨start, event, st, effects⟩ :: history) final := by
  induction rest with
  | nil => exact .snoc .nil first
  | snoc _ completes ih => exact List.cons_append _ _ _ ▸ ih.snoc completes

theorem execute_sound {start final : PairingState} {events : List Event} {history : List Record}
    (replay : execute securityProperties start events = .ok (history, final)) :
    Run securityProperties start history final := by
  induction events generalizing start history with
  | nil => cases replay; exact .nil
  | cons event events ih =>
    simp only [execute] at replay
    split at replay
    · next st effects first =>
      split at replay
      · next rest completes => cases replay; exact .cons first (ih completes)
      · cases replay
    · cases replay

theorem Run.snoc_iff {start final : PairingState} {history : List Record} {record : Record} :
    Run securityProperties start (history ++ [record]) final ↔
      Run securityProperties start history record.pre ∧
        step securityProperties record.pre record.event = .ok (record.post, record.effects) ∧
        final = record.post := by
  constructor
  · intro run
    generalize full : history ++ [record] = recorded at run
    cases run with
    | nil => simp at full
    | snoc prefixRun completes =>
      obtain ⟨rfl, last⟩ := List.append_inj' full rfl
      cases last
      exact ⟨prefixRun, completes, rfl⟩
  · rintro ⟨prefixRun, completes, rfl⟩
    exact prefixRun.snoc completes

theorem Run.nil_iff {start final : PairingState} : Run securityProperties start [] final ↔ final = start := by
  refine ⟨fun run => ?_, fun same => same ▸ .nil⟩
  generalize empty : ([] : List Record) = history at run
  cases run with
  | nil => rfl
  | snoc => simp at empty

/-- A run splits at any point into two runs. -/
theorem Run.split {start final : PairingState} {first second : List Record}
    (run : Run securityProperties start (first ++ second) final) :
    ∃ middle, Run securityProperties start first middle ∧ Run securityProperties middle second final := by
  induction second using List.reverseRecOn generalizing final with
  | nil => exact ⟨final, by simpa using run, .nil⟩
  | append_singleton second record ih =>
    rw [← List.append_assoc, Run.snoc_iff] at run
    obtain ⟨middle, firstRun, secondRun⟩ := ih run.1
    exact ⟨middle, firstRun, run.2.2 ▸ secondRun.snoc run.2.1⟩

/-- Every recorded call is a call that completed from the state the run had reached. -/
theorem Run.prefix_of_eq {start final : PairingState} {history before after : List Record}
    {record : Record} (run : Run securityProperties start history final)
    (cut : history = before ++ record :: after) :
    Run securityProperties start before record.pre ∧
      step securityProperties record.pre record.event = .ok (record.post, record.effects) := by
  subst cut
  have split : Run securityProperties start ((before ++ [record]) ++ after) final := by simpa using run
  obtain ⟨middle, firstRun, -⟩ := split.split
  obtain ⟨prefixRun, completes, -⟩ := Run.snoc_iff.mp firstRun
  exact ⟨prefixRun, completes⟩

/-- A run read from its first call: that call completes from the start, and the rest is a run. -/
theorem Run.cons_iff {start final : PairingState} {record : Record} {history : List Record} :
    Run securityProperties start (record :: history) final ↔
      record.pre = start ∧ step securityProperties record.pre record.event = .ok (record.post, record.effects) ∧
        Run securityProperties record.post history final := by
  refine ⟨fun run => ?_, fun ⟨first, completes, rest⟩ => first ▸ .cons completes rest⟩
  obtain ⟨middle, firstRun, rest⟩ := (show Run securityProperties start ([record] ++ history) final from run).split
  obtain ⟨empty, completes, rfl⟩ := Run.snoc_iff.mp (show Run securityProperties start ([] ++ [record]) middle from firstRun)
  exact ⟨Run.nil_iff.mp empty, completes, rest⟩

theorem Run.suffix_of_eq {start final : PairingState} {history before after : List Record}
    {record : Record} (run : Run securityProperties start history final)
    (cut : history = before ++ record :: after) : Run securityProperties record.post after final := by
  subst cut
  have split : Run securityProperties start ((before ++ [record]) ++ after) final := by simpa using run
  obtain ⟨middle, firstRun, secondRun⟩ := split.split
  obtain ⟨-, -, rfl⟩ := Run.snoc_iff.mp firstRun
  exact secondRun

theorem Run.step_of_mem {start final : PairingState} {history : List Record} {record : Record}
    (run : Run securityProperties start history final) (recorded : record ∈ history) :
    step securityProperties record.pre record.event = .ok (record.post, record.effects) := by
  obtain ⟨before, after, cut⟩ := List.append_of_mem recorded
  exact (run.prefix_of_eq cut).2

theorem Run.transition_of_mem {start final : PairingState} {history : List Record} {record : Record}
    (run : Run securityProperties start history final) (recorded : record ∈ history) :
    Transition securityProperties record.pre record.event record.post record.effects :=
  step_transition (run.step_of_mem recorded)

/-- A property every completed call keeps holds along the whole run. -/
theorem Run.preserves {start final : PairingState} {history : List Record} (property : PairingState → Prop)
    (kept : ∀ st event st' effects, property st →
      Transition securityProperties st event st' effects → property st')
    (run : Run securityProperties start history final) (initial : property start) : property final := by
  induction run with
  | nil => exact initial
  | snoc _ completes ih => exact kept _ _ _ _ ih (step_transition completes)

/-- The calls between two recorded calls form a run from the first's result to the second's start. -/
theorem Run.between {start final : PairingState} {before middle after : List Record}
    {first second : Record}
    (run : Run securityProperties start (before ++ first :: middle ++ second :: after) final) :
    Run securityProperties first.post middle second.pre := by
  have cut : before ++ first :: middle ++ second :: after = (before ++ first :: middle) ++ second :: after := by
    simp
  have split : Run securityProperties start ((before ++ [first]) ++ middle) second.pre := by
    simpa using (run.prefix_of_eq cut).1
  obtain ⟨reached, firstRun, middleRun⟩ := split.split
  obtain ⟨-, -, rfl⟩ := Run.snoc_iff.mp firstRun
  exact middleRun

/-- A property that holds where a run starts and fails where it ends is lost by one call. -/
theorem Run.exists_lost {start final : PairingState} {history : List Record} (property : PairingState → Prop)
    (run : Run securityProperties start history final) (initial : property start) (lost : ¬property final) :
    ∃ record ∈ history, property record.pre ∧ ¬property record.post := by
  induction run with
  | nil => exact absurd initial lost
  | @snoc history st event st' effects _ _ ih =>
    by_cases held : property st
    · exact ⟨_, List.mem_append_right _ (List.mem_singleton_self _), held, lost⟩
    · obtain ⟨record, recorded, kept, dropped⟩ := ih held
      exact ⟨record, List.mem_append_left _ recorded, kept, dropped⟩

/-- A property that fails where a run starts and holds where it ends was gained by one call
for the last time: every later call kept it. -/
theorem Run.last_entry {start final : PairingState} {history : List Record} (property : PairingState → Prop)
    (run : Run securityProperties start history final) (initial : ¬property start) (reached : property final) :
    ∃ before entry after, history = before ++ entry :: after ∧ ¬property entry.pre ∧ property entry.post ∧
      ∀ record ∈ after, property record.post := by
  induction run with
  | nil => exact absurd reached initial
  | @snoc history st event st' effects _ _ ih =>
    by_cases held : property st
    · obtain ⟨before, entry, after, rfl, missing, gained, kept⟩ := ih held
      refine ⟨before, entry, after ++ [⟨st, event, st', effects⟩], by simp, missing, gained, ?_⟩
      intro record recorded
      rcases List.mem_append.mp recorded with earlier | last
      · exact kept record earlier
      · rw [List.mem_singleton.mp last]; exact reached
    · exact ⟨history, ⟨st, event, st', effects⟩, [], by simp, held, reached, by simp⟩

end ZirconRpi.Gap.Trace
