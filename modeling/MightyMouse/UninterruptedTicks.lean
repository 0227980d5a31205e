import MightyMouse.MovementLedger

/-!
# Ticks without interruption

If no touch event falls into a tick, the counters of the track pad are only
drained in whole rounds.  All that can be lost then is what a total has beyond
the range of a report: it is dropped, not kept for the next tick.
-/

namespace MightyMouse

open DispatcherSingleton hiding delimiter

namespace TrackPad

open LabelledRun
open DrainedCounter hiding Turn

/-- A touch event, or a whole pass of the sender's loop. -/
inductive Turn
  | touch (event : MotionEvent)
  | tick
  deriving DecidableEq, Repr

/-- The pass only sends if the loop test has found movement. -/
def turn (service : Service) (system : System) : Turn → Option System
  | .touch event => step id service system (.touch event)
  | .tick =>
      (step id service system .test).bind fun tested =>
        if tested.sender = .reading then
          follow (step id service) tested [.read, .send, .reset]
        else some tested

def Turn.event : Turn → Option MotionEvent
  | .touch event => some event
  | .tick => none

def Turn.Whole : Turn → Prop
  | .touch event => event.Whole
  | .tick => True

section Simulation

variable (axis : Axis)

/-- What a turn does to the counter of an axis, given the last position. -/
def counterTurn (last : Rat) : Turn → DrainedCounter.Turn Rat
  | .touch event => .add (event.displacement axis last)
  | .tick => .round

def Turn.position (last : Rat) : Turn → Rat
  | .touch event => event.position axis last
  | .tick => last

def counterTurns : Rat → List Turn → List (DrainedCounter.Turn Rat)
  | _, [] => []
  | last, turn :: turns =>
      counterTurn axis last turn :: counterTurns (turn.position axis last) turns

/-- The sender waits at its loop test and is not told to stop. -/
def System.Steady (system : System) : Prop :=
  system.sender = .testing ∧ system.mKeepRunning = true

variable {axis} {service : Service} {system next : System}

theorem tick_of_still (steady : system.Steady)
    (still : ∀ axis, system.pad.total axis = 0) :
    turn service system .tick = some system := by
  have stillX : system.pad.mRunningTotalX = 0 := still .x
  have stillY : system.pad.mRunningTotalY = 0 := still .y
  simp [turn, step, steady.1, steady.2, stillX, stillY]

theorem tick_of_moved (steady : system.Steady)
    (moved : ∃ axis, system.pad.total axis ≠ 0) :
    turn service system .tick = some { system with
      pad := resetTotals (readTotals system.pad)
      dispatcher := relay service (readTotals system.pad) system.dispatcher
        (mouseInfo (readTotals system.pad)) } := by
  have found : system.pad.mRunningTotalX ≠ 0 ∨
      system.pad.mRunningTotalY ≠ 0 := by
    obtain ⟨axis, nonzero⟩ := moved
    cases axis
    · exact .inl nonzero
    · exact .inr nonzero
  simp only [turn, step, steady.1, steady.2, if_true, Bool.not_true,
    Bool.false_eq_true, if_false, if_pos found, Option.bind_some, follow]

theorem steady_turn (steady : system.Steady) {label : Turn}
    (taken : turn service system label = some next) : next.Steady := by
  cases label with
  | touch event =>
      cases taken
      exact steady
  | tick =>
      by_cases still : ∀ axis, system.pad.total axis = 0
      · rw [tick_of_still steady still] at taken
        cases taken
        exact steady
      · rw [tick_of_moved steady (not_forall.mp still)] at taken
        cases taken
        exact steady

variable {before : Int} {counter : Counter Rat}

/-- Each turn of the system is a turn of the counter. -/
theorem shows_turn (shows : Shows axis before system counter)
    (steady : system.Steady) {label : Turn} (whole : label.Whole)
    (taken : turn service system label = some next) :
    ∃ after, follow (DrainedCounter.step reported) counter
          (counterTurn axis (system.pad.last axis) label).accesses =
        some after ∧
      Shows axis before next after ∧
      next.pad.last axis = label.position axis (system.pad.last axis) := by
  cases label with
  | touch event =>
      have wholeStep : (Step.touch event).Whole := whole
      have stepped : step id service system (.touch event) = some next := taken
      obtain ⟨after, counts, showsNext, last⟩ :=
        shows_step shows wholeStep stepped
      exact ⟨after, (follow_cons_eq_some _).mpr ⟨after, counts, rfl⟩,
        showsNext, last⟩
  | tick =>
      have idle : counter.point = .idle := by
        have point := shows.point
        rwa [steady.1] at point
      by_cases still : ∀ axis, system.pad.total axis = 0
      · rw [tick_of_still steady still] at taken
        cases taken
        have zero : counter.total = 0 := shows.total.trans (still axis)
        refine ⟨_, follow_round idle, ⟨shows.mChat, ?_, shows.wholeTotal,
          shows.wholeLast, ?_, shows.point⟩, rfl⟩
        · exact (still axis).symm
        · rw [zero, reported_zero, add_zero]
          exact shows.sent
      · rw [tick_of_moved steady (not_forall.mp still)] at taken
        cases taken
        have zero : (resetTotals (readTotals system.pad)).total axis = 0 := by
          cases axis <;> rfl
        have last : (resetTotals (readTotals system.pad)).last axis =
            system.pad.last axis := by
          cases axis <;> rfl
        refine ⟨_, follow_round idle, ⟨shows.mChat, zero.symm, ⟨0, zero⟩,
          ?_, ?_, shows.point⟩, last⟩
        · rw [last]
          exact shows.wholeLast
        · have present : (readTotals system.pad).mChat = true := shows.mChat
          dsimp only
          rw [sentDeltas_relay present, Int.cast_add, shows.sent,
            delta_mouseInfo shows.wholeTotal, ← shows.total, add_assoc]

/-- Runs of turns are runs of the counter in whole rounds. -/
theorem shows_of_turns (shows : Shows axis before system counter)
    (steady : system.Steady) {turns : List Turn}
    (whole : ∀ label ∈ turns, label.Whole)
    (run : follow (turn service) system turns = some next) :
    ∃ after, follow (DrainedCounter.step reported) counter
          ((counterTurns axis (system.pad.last axis) turns).flatMap
            DrainedCounter.Turn.accesses) = some after ∧
      Shows axis before next after := by
  induction turns generalizing system counter with
  | nil =>
      cases run
      exact ⟨counter, rfl, shows⟩
  | cons label turns ih =>
      obtain ⟨between, taken, rest⟩ := (follow_cons_eq_some _).mp run
      obtain ⟨middle, counts, showsBetween, last⟩ :=
        shows_turn shows steady (whole label (by simp)) taken
      obtain ⟨after, later, showsNext⟩ := ih showsBetween
        (steady_turn steady taken)
        (fun other member => whole other (by simp [member])) rest
      refine ⟨after, ?_, showsNext⟩
      rw [counterTurns, List.flatMap_cons, follow_append, counts, ← last]
      exact later

theorem addedBy_counterTurns (last : Rat) (turns : List Turn) :
    addedBy ((counterTurns axis last turns).flatMap
        DrainedCounter.Turn.accesses) =
      displacement axis last (turns.filterMap Turn.event) := by
  induction turns generalizing last with
  | nil => rfl
  | cons label turns ih =>
      rw [counterTurns, List.flatMap_cons, addedBy_append, ih]
      cases label with
      | touch event =>
          change event.displacement axis last + 0 + _ = _
          rw [add_zero]
          rfl
      | tick => exact zero_add _

theorem counterTurns_concat (last : Rat) (turns : List Turn) (label : Turn) :
    ∃ position, counterTurns axis last (turns ++ [label]) =
      counterTurns axis last turns ++ [counterTurn axis position label] := by
  induction turns generalizing last with
  | nil => exact ⟨last, rfl⟩
  | cons first turns ih =>
      obtain ⟨position, same⟩ := ih (first.position axis last)
      refine ⟨position, ?_⟩
      rw [List.cons_append, counterTurns, same]
      rfl

end Simulation

section Conservation

variable {service : Service} {dispatcher : Dispatcher}
variable {turns : List Turn} {system : System}

/-- Every run of turns of a new view is a run of the counter, which is left
idle and has erased what the ticks did not report. -/
theorem shows_of_turn_run (axis : Axis)
    (whole : ∀ label ∈ turns, label.Whole)
    (run : follow (turn service) (System.initial true dispatcher) turns =
      some system) :
    ∃ counter, follow (DrainedCounter.step reported) Counter.initial
          ((counterTurns axis 0 turns).flatMap
            DrainedCounter.Turn.accesses) = some counter ∧
        Shows axis (sentDeltas axis dispatcher) system counter ∧
        counter.point = .idle ∧
        counter.erased = unreported reported 0 (counterTurns axis 0 turns) := by
  have zeroLast : (System.initial true dispatcher).pad.last axis = 0 := by
    cases axis <;> rfl
  obtain ⟨counter, counts, shows⟩ := shows_of_turns
    (shows_initial axis dispatcher) ⟨rfl, rfl⟩ whole run
  rw [zeroLast] at counts
  obtain ⟨idle, erased⟩ := erased_of_turns counts rfl
  exact ⟨counter, counts, shows, idle, erased.trans (zero_add _)⟩

theorem accounted_iff_unreported {axis : Axis}
    (whole : ∀ label ∈ turns, label.Whole)
    (run : follow (turn service) (System.initial true dispatcher) turns =
      some system) :
    Accounted axis dispatcher system (turns.filterMap Turn.event) ↔
      unreported reported 0 (counterTurns axis 0 turns) = 0 := by
  obtain ⟨counter, counts, shows, idle, erased⟩ :=
    shows_of_turn_run axis whole run
  rw [accounted_iff_erased shows counts (addedBy_counterTurns 0 turns) idle,
    erased]

/-- A tick leaves unreported what its total has beyond the range. -/
theorem unreported_tick {axis : Axis} (whole : ∀ label ∈ turns, label.Whole)
    (run : follow (turn service) (System.initial true dispatcher) turns =
      some system) :
    unreported reported 0 (counterTurns axis 0 (turns ++ [.tick])) =
      unreported reported 0 (counterTurns axis 0 turns) +
        (system.pad.total axis - reported (system.pad.total axis)) := by
  obtain ⟨counter, counts, shows, idle, _⟩ :=
    shows_of_turn_run axis whole run
  obtain ⟨position, same⟩ := @counterTurns_concat axis 0 turns .tick
  have concat := unreported_concat counts rfl .round
  rw [same, ← shows.total]
  simpa [unreported, counterTurn, Counter.initial] using concat

theorem unreported_touch {axis : Axis} (whole : ∀ label ∈ turns, label.Whole)
    (run : follow (turn service) (System.initial true dispatcher) turns =
      some system) (event : MotionEvent) :
    unreported reported 0 (counterTurns axis 0 (turns ++ [.touch event])) =
      unreported reported 0 (counterTurns axis 0 turns) := by
  obtain ⟨counter, counts, _⟩ := shows_of_turn_run axis whole run
  obtain ⟨position, same⟩ := @counterTurns_concat axis 0 turns (.touch event)
  have concat := unreported_concat counts rfl
    (.add (event.displacement axis position))
  rw [same]
  simpa [unreported, counterTurn, Counter.initial] using concat

variable {last : System} (whole : ∀ label ∈ turns, label.Whole)
  (run : follow (turn service) (System.initial true dispatcher) turns =
    some last)
include whole run

/-- Nothing is left unreported along a run exactly if every tick finds totals
that a report can carry. -/
theorem unreported_eq_zero_iff_inRange :
    (∀ done, done <+: turns → ∀ axis,
        unreported reported 0 (counterTurns axis 0 done) = 0) ↔
      EveryStep (turn service) (fun system label _ => label = .tick →
        InRange system) (System.initial true dispatcher) turns := by
  rw [everyStep_iff]
  constructor
  · rintro none early _ before next begins reached _ rfl axis
    have starts := (List.prefix_append early [Turn.tick]).trans begins
    have ticked : unreported reported 0 (counterTurns axis 0 _) = _ :=
      unreported_tick (fun label member => whole label (starts.subset member))
        reached
    rw [none _ begins, none _ starts, zero_add] at ticked
    rw [← reported_eq_iff]
    exact (sub_eq_zero.mp ticked.symm).symm
  · intro inRange done begins axis
    induction done using List.reverseRecOn with
    | nil => rfl
    | append_singleton done label ih =>
        have starts := (List.prefix_append done [label]).trans begins
        have wholeDone : ∀ label ∈ done, label.Whole :=
          fun label member => whole label (starts.subset member)
        obtain ⟨next, ended⟩ := exists_of_prefix _ run begins
        obtain ⟨before, reached, taken⟩ := (follow_concat_eq_some _).mp ended
        cases label with
        | touch event =>
            rw [unreported_touch wholeDone reached, ih starts]
        | tick =>
            have same := (reported_eq_iff _).mpr
              (inRange done .tick before next begins reached taken rfl axis)
            rw [unreported_tick wholeDone reached, ih starts, same,
              sub_self, add_zero]

/-- The deltas sent, the totals, and what the ticks drop because a report
cannot carry it make up the movement of the finger.  The first two do so all
along a run exactly if every tick finds totals that a report can carry. -/
theorem fast_movement_accounted :
    (∀ axis,
        ((sentDeltas axis last.dispatcher - sentDeltas axis dispatcher : Int) :
            Rat) + last.pad.total axis +
          unreported reported 0 (counterTurns axis 0 turns) =
        travelled axis (turns.filterMap Turn.event)) ∧
      ((∀ done system, done <+: turns →
          follow (turn service) (System.initial true dispatcher) done =
            some system →
          ∀ axis, Accounted axis dispatcher system
            (done.filterMap Turn.event)) ↔
        EveryStep (turn service) (fun system label _ => label = .tick →
          InRange system) (System.initial true dispatcher) turns) := by
  constructor
  · intro axis
    obtain ⟨counter, counts, shows, idle, erased⟩ :=
      shows_of_turn_run axis whole run
    have balanced := balanced_of_follow counts
    rw [Counter.Balanced, idle, Point.outstanding, add_zero,
      added_of_follow counts, addedBy_counterTurns, erased, shows.total]
      at balanced
    rw [shows.sentSince, balanced]
    exact zero_add _
  · rw [← unreported_eq_zero_iff_inRange whole run]
    constructor
    · intro accounted done begins axis
      obtain ⟨system, reached⟩ := exists_of_prefix _ run begins
      exact (accounted_iff_unreported
        (fun label member => whole label (begins.subset member)) reached).mp
          (accounted done system begins reached axis)
    · intro none done system begins reached axis
      exact (accounted_iff_unreported
        (fun label member => whole label (begins.subset member)) reached).mpr
          (none done begins axis)

end Conservation

/-- The finger moves by 200 before a tick, and by 10 more before another. -/
def fastDrag : List Turn :=
  [.touch (.actionDown ⟨0, 0, 1⟩), .touch (.actionMove [] ⟨200, 0, 2⟩), .tick,
    .touch (.actionMove [⟨204, 0, 3⟩] ⟨210, 0, 4⟩), .tick]

theorem whole_fastDrag : ∀ label ∈ fastDrag, label.Whole := by
  simpa [fastDrag, Turn.Whole, MotionEvent.Whole, MotionEvent.samples]
    using ⟨whole_coord 0 0 1, whole_coord 200 0 2, whole_coord 204 0 3,
      whole_coord 210 0 4⟩

/-- The books of the fast movement balance once the dropped part is counted
in. -/
theorem fastDrag_accounted :
    ∃ last, follow (turn alwaysConnected)
        (System.initial true Dispatcher.initial) fastDrag = some last ∧
      ∀ axis, ((sentDeltas axis last.dispatcher -
            sentDeltas axis Dispatcher.initial : Int) : Rat) +
          last.pad.total axis +
          unreported reported 0 (counterTurns axis 0 fastDrag) =
        travelled axis (fastDrag.filterMap Turn.event) := by
  obtain ⟨last, run⟩ : ∃ last, follow (turn alwaysConnected)
      (System.initial true Dispatcher.initial) fastDrag = some last :=
    Option.isSome_iff_exists.mp (by decide +kernel)
  exact ⟨last, run, (fast_movement_accounted whole_fastDrag run).1⟩

/-- Of the 210 moved, 127 and 10 are sent, and nothing is kept for the next
tick. -/
theorem fastDrag_cut_off :
    (∀ label ∈ fastDrag, label.Whole) ∧
      (follow (turn alwaysConnected)
        (System.initial true Dispatcher.initial) fastDrag).map
          (fun system => (sentDeltas .x system.dispatcher,
            system.pad.total .x)) = some (137, 0) ∧
      travelled .x (fastDrag.filterMap Turn.event) = 210 ∧
      ∃ system, follow (turn alwaysConnected)
          (System.initial true Dispatcher.initial) fastDrag = some system ∧
        ¬ Accounted .x Dispatcher.initial system
          (fastDrag.filterMap Turn.event) := by
  have outcome : (follow (turn alwaysConnected)
      (System.initial true Dispatcher.initial) fastDrag).map
        (fun system => (sentDeltas .x system.dispatcher,
          system.pad.total .x)) = some (137, 0) := by
    decide +kernel
  have moved : travelled .x (fastDrag.filterMap Turn.event) = 210 := by
    decide +kernel
  refine ⟨whole_fastDrag, outcome, moved, exists_not_accounted outcome moved ?_⟩
  have before : sentDeltas .x Dispatcher.initial = 0 := rfl
  rw [before]
  norm_num

end TrackPad

end MightyMouse
