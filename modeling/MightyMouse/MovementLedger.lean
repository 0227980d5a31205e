import MightyMouse.DelimiterPayload
import MightyMouse.DrainedCounter
import Mathlib.Algebra.Order.Group.MinMax
import Mathlib.Algebra.Order.Ring.Abs

/-!
# Where finger movements go

On each axis, the running total of the track pad is a counter: touch events
add to it, and the sender thread reads it, sends what a signed byte can hold
of it, and sets it to zero later.  This file relates the two, for exact whole
coordinates, and determines when movement is lost.
-/

namespace MightyMouse

open DispatcherSingleton hiding delimiter

namespace TrackPad

open LabelledRun DrainedCounter

inductive Axis
  | x
  | y
  deriving DecidableEq, Repr

/-- The place of the axis in the payload of a mouse command. -/
def Axis.index : Axis → Nat
  | .x => 0
  | .y => 1

def Sample.coord (sample : Sample) : Axis → Rat
  | .x => sample.x
  | .y => sample.y

def Pad.total (pad : Pad) : Axis → Rat
  | .x => pad.mRunningTotalX
  | .y => pad.mRunningTotalY

def Pad.last (pad : Pad) : Axis → Rat
  | .x => pad.mLastX
  | .y => pad.mLastY

section Displacement

/-- The displacement of the samples, each against the position before it. -/
def sampleDisplacement (axis : Axis) : Rat → List Sample → Rat
  | _, [] => 0
  | last, sample :: samples =>
      sample.coord axis - last +
        sampleDisplacement axis (sample.coord axis) samples

/-- Only `ACTION_MOVE` counts as movement. -/
def MotionEvent.displacement (axis : Axis) (last : Rat) : MotionEvent → Rat
  | .actionMove history sample =>
      sampleDisplacement axis last (history ++ [sample])
  | .actionUp | .actionCancel | .actionDown _ | .other => 0

/-- The position that the next movement is measured against. -/
def MotionEvent.position (axis : Axis) (last : Rat) : MotionEvent → Rat
  | .actionDown sample | .actionMove _ sample => sample.coord axis
  | .actionUp | .actionCancel | .other => last

def displacement (axis : Axis) : Rat → List MotionEvent → Rat
  | _, [] => 0
  | last, event :: events =>
      event.displacement axis last +
        displacement axis (event.position axis last) events

/-- The movement of the finger over the touch events handled since the view
was created. -/
def travelled (axis : Axis) (events : List MotionEvent) : Rat :=
  displacement axis 0 events

/-- The touch event of a step. -/
def Step.event : Step → Option MotionEvent
  | .touch event => some event
  | .stopSendingThread | .test | .read | .send | .reset => none

end Displacement

/-- The deltas handed to `sendByte` so far, read as signed bytes. -/
def sentDeltas (axis : Axis) (dispatcher : Dispatcher) : Int :=
  (dispatcher.calls.map fun call =>
    if call.buffer == .mouseBytes then (call.toSend.getD axis.index 0).toInt
    else 0).sum

section Whole

/-- A whole number. -/
def Whole (value : Rat) : Prop :=
  ∃ n : Int, value = n

theorem whole_add {first second : Rat} (left : Whole first)
    (right : Whole second) : Whole (first + second) := by
  obtain ⟨m, rfl⟩ := left
  obtain ⟨n, rfl⟩ := right
  exact ⟨m + n, by push_cast; rfl⟩

theorem whole_sub {first second : Rat} (left : Whole first)
    (right : Whole second) : Whole (first - second) := by
  obtain ⟨m, rfl⟩ := left
  obtain ⟨n, rfl⟩ := right
  exact ⟨m - n, by push_cast; rfl⟩

theorem whole_coord (x y time : Int) (axis : Axis) :
    Whole (Sample.coord ⟨x, y, time⟩ axis) := by
  cases axis
  · exact ⟨x, rfl⟩
  · exact ⟨y, rfl⟩

def MotionEvent.samples : MotionEvent → List Sample
  | .actionDown sample => [sample]
  | .actionMove history sample => history ++ [sample]
  | .actionUp | .actionCancel | .other => []

/-- All coordinates of the event are whole numbers. -/
def MotionEvent.Whole (event : MotionEvent) : Prop :=
  ∀ sample ∈ event.samples, ∀ axis, TrackPad.Whole (sample.coord axis)

/-- A whole total is left alone by the bump. -/
theorem bump_of_whole {total : Rat} (whole : Whole total) :
    bump total = total := by
  obtain ⟨n, rfl⟩ := whole
  rcases bump_cases (n : Rat) with ⟨⟨above, below⟩, _⟩ | ⟨⟨above, below⟩, _⟩ |
    ⟨_, same⟩
  · have : 0 < n := by exact_mod_cast above
    have : n < 1 := by exact_mod_cast below
    omega
  · have : -1 < n := by exact_mod_cast above
    have : n < 0 := by exact_mod_cast below
    omega
  · exact same

/-- What a tick sends of a whole total: as much as a report can carry.  The
least values of an `int` come out positive, since negation does not change
the least of them. -/
def reported (total : Rat) : Rat :=
  if total ≤ -2 ^ 31 then 127 else max (-127) (min 127 total)

theorem toInt_velByte_of_whole {total : Rat} (whole : Whole total) :
    ((velByte total).toInt : Rat) = reported total := by
  obtain ⟨n, rfl⟩ := whole
  have rounded : ⌊(n : Rat) + 1 / 2⌋ = n := by
    rw [Int.floor_eq_iff]
    constructor <;> linarith
  rw [toInt_velByte, javaRound, rounded, reported]
  have least : (n : Rat) ≤ -2 ^ 31 ↔ n ≤ -2 ^ 31 := by
    exact_mod_cast Iff.rfl
  by_cases low : n ≤ -2 ^ 31
  · rw [if_pos (least.mpr low)]
    have same : max (-2 ^ 31) (min (2 ^ 31 - 1) n) = -2 ^ 31 := by omega
    rw [same]
    decide +kernel
  · rw [if_neg (least.not.mpr low)]
    have asInt : -clampVel (negInt (max (-2 ^ 31) (min (2 ^ 31 - 1) n))) =
        max (-127) (min 127 n) := by
      unfold clampVel negInt
      split_ifs <;> omega
    rw [asInt]
    push_cast
    rfl

theorem reported_zero : reported 0 = 0 := by
  decide +kernel

/-- Exactly the totals from -127 to 127 are sent in full. -/
theorem reported_eq_iff (total : Rat) :
    reported total = total ↔ |total| ≤ 127 := by
  rw [reported, abs_le]
  split
  · next low =>
      constructor
      · intro equal
        norm_num [← equal] at low
      · rintro ⟨above, _⟩
        linarith
  · constructor
    · intro equal
      rw [← equal]
      exact ⟨le_max_left _ _, max_le (by norm_num) (min_le_left _ _)⟩
    · rintro ⟨above, below⟩
      rw [min_eq_right below, max_eq_right above]

end Whole

section Touch

variable (axis : Axis)

theorem addSample_total (pad : Pad) (sample : Sample) :
    (addSample id pad sample).total axis =
      pad.total axis + (sample.coord axis - pad.last axis) := by
  cases axis <;> rfl

theorem addSample_last (pad : Pad) (sample : Sample) :
    (addSample id pad sample).last axis = sample.coord axis := by
  cases axis <;> rfl

/-- Samples add their displacement to the total. -/
theorem foldl_addSample_total (samples : List Sample) (pad : Pad) :
    (samples.foldl (addSample id) pad).total axis =
      pad.total axis + sampleDisplacement axis (pad.last axis) samples := by
  induction samples generalizing pad with
  | nil => exact (add_zero _).symm
  | cons sample samples ih =>
      rw [List.foldl_cons, ih, addSample_total, addSample_last,
        sampleDisplacement, add_assoc]

theorem actionMove_total (pad : Pad) (history : List Sample)
    (sample : Sample) :
    (onTouchEvent id pad (.actionMove history sample)).total axis =
      ((history ++ [sample]).foldl (addSample id) pad).total axis := by
  rw [List.foldl_append]
  cases axis <;> rfl

theorem touch_total (pad : Pad) (event : MotionEvent) :
    (onTouchEvent id pad event).total axis =
      pad.total axis + event.displacement axis (pad.last axis) := by
  cases event with
  | actionMove history sample =>
      rw [actionMove_total, foldl_addSample_total]
      rfl
  | _ =>
      rw [MotionEvent.displacement, add_zero]
      cases axis <;> rfl

theorem touch_last (pad : Pad) (event : MotionEvent) :
    (onTouchEvent id pad event).last axis =
      event.position axis (pad.last axis) := by
  cases event <;> cases axis <;> rfl

variable {axis}

theorem whole_sampleDisplacement {samples : List Sample} {last : Rat}
    (wholeLast : Whole last)
    (whole : ∀ sample ∈ samples, Whole (sample.coord axis)) :
    Whole (sampleDisplacement axis last samples) := by
  induction samples generalizing last with
  | nil => exact ⟨0, rfl⟩
  | cons sample samples ih =>
      have here := whole sample (by simp)
      have later := ih here fun other member =>
        whole other (by simp [member])
      exact whole_add (whole_sub here wholeLast) later

theorem MotionEvent.Whole.displacement {event : MotionEvent}
    (whole : event.Whole) {last : Rat} (wholeLast : TrackPad.Whole last) :
    TrackPad.Whole (event.displacement axis last) := by
  cases event with
  | actionMove history sample =>
      exact whole_sampleDisplacement wholeLast fun other member =>
        whole other member axis
  | _ => exact ⟨0, rfl⟩

theorem MotionEvent.Whole.position {event : MotionEvent}
    (whole : event.Whole) {last : Rat} (wholeLast : TrackPad.Whole last) :
    TrackPad.Whole (event.position axis last) := by
  cases event with
  | actionDown sample => exact whole sample (by simp [samples]) axis
  | actionMove history sample => exact whole sample (by simp [samples]) axis
  | _ => exact wholeLast

end Touch

section Simulation

variable (axis : Axis)

/-- What a step does to the counter of an axis, given the last position. -/
def access (last : Rat) : Step → Access Rat
  | .touch event => .add (event.displacement axis last)
  | .stopSendingThread | .test => .add 0
  | .read => .read
  | .send => .send
  | .reset => .reset

def Step.position (last : Rat) : Step → Rat
  | .touch event => event.position axis last
  | .stopSendingThread | .test | .read | .send | .reset => last

/-- What the steps of a run do to the counter of an axis. -/
def accesses : Rat → List Step → List (Access Rat)
  | _, [] => []
  | last, label :: labels =>
      access axis last label :: accesses (label.position axis last) labels

def Step.Whole : Step → Prop
  | .touch event => event.Whole
  | .stopSendingThread | .test | .read | .send | .reset => True

/-- The byte of the axis in a payload. -/
def delta (info : List Byte) : Int :=
  (info.getD axis.index 0).toInt

/-- The sender thread and the draining party stand at the same point. -/
def SamePoint : SenderPoint → Point Rat → Prop
  | .sending info, point => point = .taken (delta axis info.toList : Int)
  | .resetting, point => ∃ amount, point = .passed amount
  | .testing, point => point = .idle
  | .reading, point => point = .idle
  | .finished, point => point = .idle

/-- The system shows the counter on an axis.  The deltas sent before it was
created are set off. -/
structure Shows (before : Int) (system : System) (counter : Counter Rat) :
    Prop where
  mChat : system.pad.mChat = true
  total : counter.total = system.pad.total axis
  wholeTotal : Whole (system.pad.total axis)
  wholeLast : Whole (system.pad.last axis)
  sent : (sentDeltas axis system.dispatcher : Rat) = before + counter.sent
  point : SamePoint axis system.sender counter.point

variable {axis} {service : Service}

theorem shows_initial (axis : Axis) (dispatcher : Dispatcher) :
    Shows axis (sentDeltas axis dispatcher)
      (System.initial true dispatcher) Counter.initial := by
  have zeroTotal : (Pad.initial true).total axis = 0 := by cases axis <;> rfl
  have zeroLast : (Pad.initial true).last axis = 0 := by cases axis <;> rfl
  refine ⟨rfl, zeroTotal.symm, ⟨0, zeroTotal⟩, ⟨0, zeroLast⟩, ?_, rfl⟩
  exact (add_zero _).symm

theorem sentDeltas_relay {pad : Pad} (present : pad.mChat = true)
    (dispatcher : Dispatcher) (info : Vector Byte numMouseBytes) :
    sentDeltas axis (relay service pad dispatcher info) =
      sentDeltas axis dispatcher + delta axis info.toList := by
  rw [relay, if_pos present, sendMouse, sendFrame_eq, setMouseBytes,
    copyBytes_eq]
  simp [sentDeltas, frameCalls, Dispatcher.contents, delta]

theorem delta_readTotals (axis : Axis) (pad : Pad) :
    delta axis (mouseInfo (readTotals pad)).toList =
      (velByte (bump (pad.total axis))).toInt := by
  cases axis <;> rfl

theorem delta_mouseInfo {pad : Pad} (whole : Whole (pad.total axis)) :
    (delta axis (mouseInfo (readTotals pad)).toList : Rat) =
      reported (pad.total axis) := by
  rw [delta_readTotals, bump_of_whole whole, toInt_velByte_of_whole whole]

theorem readTotals_total {pad : Pad} (whole : Whole (pad.total axis)) :
    (readTotals pad).total axis = pad.total axis := by
  have bumped : (readTotals pad).total axis = bump (pad.total axis) := by
    cases axis <;> rfl
  rw [bumped, bump_of_whole whole]

variable {before : Int} {system next : System} {counter : Counter Rat}

/-- The counter does not change when only the sender moves on. -/
theorem Shows.moveTo (shows : Shows axis before system counter)
    {sender : SenderPoint} (keepRunning : Bool)
    (point : SamePoint axis sender counter.point) :
    Shows axis before
      { system with sender := sender, mKeepRunning := keepRunning }
      counter where
  mChat := shows.mChat
  total := shows.total
  wholeTotal := shows.wholeTotal
  wholeLast := shows.wholeLast
  sent := shows.sent
  point := point

/-- What has been sent since the deltas were last set off. -/
theorem Shows.sentSince (shows : Shows axis before system counter) :
    ((sentDeltas axis system.dispatcher - before : Int) : Rat) =
      counter.sent := by
  rw [Int.cast_sub, shows.sent, add_sub_cancel_left]

/-- Each step of the system is a step of the counter. -/
theorem shows_step (shows : Shows axis before system counter) {label : Step}
    (whole : label.Whole) (taken : step id service system label = some next) :
    ∃ after, DrainedCounter.step reported counter
          (access axis (system.pad.last axis) label) = some after ∧
      Shows axis before next after ∧
      next.pad.last axis = label.position axis (system.pad.last axis) := by
  have unchanged : { counter with
      total := counter.total + 0
      added := counter.added + 0 } = counter := by
    simp only [add_zero]
  cases label with
  | touch event =>
      cases taken
      refine ⟨_, rfl, ⟨?_, ?_, ?_, ?_, shows.sent, shows.point⟩, ?_⟩
      · rw [touch_mChat]
        exact shows.mChat
      · rw [touch_total, ← shows.total]
      · rw [touch_total]
        exact whole_add shows.wholeTotal
          (whole.displacement shows.wholeLast)
      · rw [touch_last]
        exact whole.position shows.wholeLast
      · exact touch_last axis system.pad event
  | stopSendingThread =>
      cases taken
      exact ⟨counter, congrArg some unchanged, shows.moveTo false shows.point,
        rfl⟩
  | test =>
      refine ⟨counter, congrArg some unchanged, ?_⟩
      simp only [step] at taken
      split at taken
      · next testing =>
          have idle : counter.point = .idle := by
            have point := shows.point
            rwa [testing] at point
          split at taken
          · cases taken
            exact ⟨shows.moveTo _ idle, rfl⟩
          · split at taken
            · cases taken
              exact ⟨shows.moveTo _ idle, rfl⟩
            · cases taken
              exact ⟨shows, rfl⟩
      · cases taken
  | read =>
      simp only [step] at taken
      split at taken
      · next reading =>
          have idle : counter.point = .idle := by
            have point := shows.point
            rwa [reading] at point
          cases taken
          have kept := readTotals_total shows.wholeTotal
          refine ⟨_, step_read_eq_some.mpr ⟨idle, rfl⟩, ⟨shows.mChat, ?_, ?_,
            ?_, shows.sent, ?_⟩, ?_⟩
          · rw [kept]
            exact shows.total
          · rw [kept]
            exact shows.wholeTotal
          · have same : (readTotals system.pad).last axis =
                system.pad.last axis := by
              cases axis <;> rfl
            rw [same]
            exact shows.wholeLast
          · change Point.taken (reported counter.total) = .taken _
            rw [delta_mouseInfo shows.wholeTotal, shows.total]
          · cases axis <;> rfl
      · cases taken
  | send =>
      simp only [step] at taken
      split at taken
      · next info sending =>
          have point := shows.point
          rw [sending] at point
          cases taken
          refine ⟨_, step_send_eq_some.mpr ⟨_, point, rfl⟩, ⟨shows.mChat,
            shows.total, shows.wholeTotal, shows.wholeLast, ?_, ?_⟩, rfl⟩
          · rw [sentDeltas_relay shows.mChat, Int.cast_add, shows.sent,
              add_assoc]
          · exact ⟨_, rfl⟩
      · cases taken
  | reset =>
      simp only [step] at taken
      split at taken
      · next resetting =>
          have point := shows.point
          rw [resetting] at point
          obtain ⟨amount, passed⟩ := point
          cases taken
          have zero : (resetTotals system.pad).total axis = 0 := by
            cases axis <;> rfl
          have last : (resetTotals system.pad).last axis =
              system.pad.last axis := by
            cases axis <;> rfl
          refine ⟨_, step_reset_eq_some.mpr ⟨amount, passed, rfl⟩,
            ⟨shows.mChat, zero.symm, ⟨0, zero⟩, ?_, shows.sent, rfl⟩, last⟩
          rw [last]
          exact shows.wholeLast
      · cases taken

/-- Runs of the system are runs of the counter. -/
theorem shows_of_follow (shows : Shows axis before system counter)
    {labels : List Step} (whole : ∀ label ∈ labels, label.Whole)
    (run : follow (step id service) system labels = some next) :
    ∃ after, follow (DrainedCounter.step reported) counter
          (accesses axis (system.pad.last axis) labels) = some after ∧
      Shows axis before next after := by
  induction labels generalizing system counter with
  | nil =>
      cases run
      exact ⟨counter, rfl, shows⟩
  | cons label labels ih =>
      obtain ⟨between, taken, rest⟩ := (follow_cons_eq_some _).mp run
      obtain ⟨middle, counts, showsBetween, last⟩ :=
        shows_step shows (whole label (by simp)) taken
      obtain ⟨after, later, showsNext⟩ := ih showsBetween
        (fun other member => whole other (by simp [member])) rest
      refine ⟨after, (follow_cons_eq_some _).mpr ⟨middle, counts, ?_⟩,
        showsNext⟩
      rwa [last] at later

end Simulation

section Conservation

variable {axis : Axis} {service : Service} {dispatcher : Dispatcher}
variable {labels : List Step}

theorem addedBy_accesses (last : Rat) (labels : List Step) :
    addedBy (accesses axis last labels) =
      displacement axis last (labels.filterMap Step.event) := by
  induction labels generalizing last with
  | nil => rfl
  | cons label labels ih =>
      cases label with
      | touch event =>
          rw [accesses, access, addedBy, ih]
          rfl
      | stopSendingThread =>
          rw [accesses, access, addedBy, ih, zero_add]
          rfl
      | test =>
          rw [accesses, access, addedBy, ih, zero_add]
          rfl
      | read => exact ih last
      | send => exact ih last
      | reset => exact ih last

/-- The accesses of a run are in step with its labels. -/
theorem exists_label_of_prefix {last : Rat} {early : List (Access Rat)}
    {final : Access Rat}
    (begins : early ++ [final] <+: accesses axis last labels) :
    ∃ done label position, done ++ [label] <+: labels ∧
      accesses axis last done = early ∧
      accesses axis last (done ++ [label]) = early ++ [final] ∧
      access axis position label = final := by
  induction labels generalizing last early with
  | nil => simp [accesses] at begins
  | cons label labels ih =>
      cases early with
      | nil =>
          rw [accesses, List.nil_append, List.cons_prefix_cons] at begins
          refine ⟨[], label, last, by simp, rfl, ?_, begins.1.symm⟩
          rw [begins.1]
          rfl
      | cons first early =>
          rw [accesses, List.cons_append, List.cons_prefix_cons] at begins
          obtain ⟨rfl, later⟩ := begins
          obtain ⟨done, other, position, isPrefix, same, whole, isFinal⟩ :=
            ih later
          refine ⟨label :: done, other, position,
            List.cons_prefix_cons.mpr ⟨rfl, isPrefix⟩, ?_, ?_, isFinal⟩
          · rw [accesses, same]
          · rw [List.cons_append, accesses, whole]
            rfl

theorem accesses_append (last : Rat) (first second : List Step) :
    ∃ position, accesses axis last (first ++ second) =
      accesses axis last first ++ accesses axis position second := by
  induction first generalizing last with
  | nil => exact ⟨last, rfl⟩
  | cons label first ih =>
      obtain ⟨position, same⟩ := ih (label.position axis last)
      refine ⟨position, ?_⟩
      rw [List.cons_append, accesses, same]
      rfl

theorem accesses_prefix {last : Rat} {done : List Step}
    (begins : done <+: labels) :
    accesses axis last done <+: accesses axis last labels := by
  obtain ⟨rest, rfl⟩ := begins
  obtain ⟨position, same⟩ := @accesses_append axis last done rest
  exact ⟨accesses axis position rest, same.symm⟩

/-- The deltas sent since the view was created, together with the running
total, make up the movement of the finger. -/
def Accounted (axis : Axis) (dispatcher : Dispatcher) (system : System)
    (events : List MotionEvent) : Prop :=
  ((sentDeltas axis system.dispatcher - sentDeltas axis dispatcher : Int) :
      Rat) + system.pad.total axis = travelled axis events

theorem accounted_iff_erased {system : System} {counter : Counter Rat}
    (shows : Shows axis (sentDeltas axis dispatcher) system counter)
    {trace : List (Access Rat)} {events : List MotionEvent}
    (run : follow (DrainedCounter.step reported) Counter.initial trace =
      some counter)
    (added : addedBy trace = travelled axis events)
    (idle : counter.point = .idle) :
    Accounted axis dispatcher system events ↔ counter.erased = 0 := by
  have total : counter.added = travelled axis events := by
    rw [added_of_follow run, added]
    exact zero_add _
  rw [← conserved_iff_erased (balanced_of_follow run) idle, total, Accounted,
    shows.sentSince, shows.total]

/-- A run that is seen not to add up. -/
theorem exists_not_accounted {result : Option System}
    {events : List MotionEvent} {sent : Int} {total moved : Rat}
    (outcome : result.map (fun system =>
      (sentDeltas axis system.dispatcher, system.pad.total axis)) =
        some (sent, total))
    (travels : travelled axis events = moved)
    (differs : ((sent - sentDeltas axis dispatcher : Int) : Rat) + total ≠
      moved) :
    ∃ system, result = some system ∧
      ¬ Accounted axis dispatcher system events := by
  obtain ⟨system, run, same⟩ := Option.map_eq_some_iff.mp outcome
  obtain ⟨rfl, rfl⟩ := Prod.mk.inj same
  refine ⟨system, run, ?_⟩
  rw [Accounted, travels]
  exact differs

/-- Every run from a new view is a run of the counter. -/
theorem shows_of_run {system : System}
    (whole : ∀ label ∈ labels, label.Whole)
    (run : follow (step id service) (System.initial true dispatcher) labels =
      some system) :
    ∃ counter, follow (DrainedCounter.step reported) Counter.initial
          (accesses axis 0 labels) = some counter ∧
        Shows axis (sentDeltas axis dispatcher) system counter := by
  have zeroLast : (System.initial true dispatcher).pad.last axis = 0 := by
    cases axis <;> rfl
  have shows := shows_of_follow (shows_initial axis dispatcher) whole run
  rwa [zeroLast] at shows

/-- A completed tick leaves the sender at its loop test. -/
theorem idle_of_reset {start system : System} {done : List Step}
    {before : Int} {counter : Counter Rat}
    (run : follow (step id service) start (done ++ [.reset]) = some system)
    (shows : Shows axis before system counter) :
    counter.point = .idle := by
  obtain ⟨previous, _, taken⟩ := (follow_concat_eq_some _).mp run
  have point := shows.point
  simp only [step] at taken
  split at taken
  · cases taken
    exact point
  · cases taken

/-- The totals can be carried by one report. -/
def InRange (system : System) : Prop :=
  ∀ axis, |system.pad.total axis| ≤ 127

variable {last : System}
  (run : follow (step id service) (System.initial true dispatcher) labels =
    some last)
  (whole : ∀ label ∈ labels, label.Whole)
  (inRange : EveryStep (step id service)
    (fun system label _ => label = .read → InRange system)
    (System.initial true dispatcher) labels)
include run whole inRange

/-- Totals within the range of a report are sent in full. -/
theorem exactReads_of_inRange :
    ExactReads reported (accesses axis 0 labels) := by
  intro early counter begins counts
  obtain ⟨done, label, position, isPrefix, rfl, _, final⟩ :=
    exists_label_of_prefix begins
  have isRead : label = .read := by
    cases label <;> simp [access] at final ⊢
  subst isRead
  have starts := (List.prefix_append done [Step.read]).trans isPrefix
  obtain ⟨next, ended⟩ := exists_of_prefix _ run isPrefix
  obtain ⟨system, reached, taken⟩ := (follow_concat_eq_some _).mp ended
  obtain ⟨same, counted, shows⟩ := shows_of_run
    (fun label member => whole label (starts.subset member)) reached
  rw [counts] at counted
  cases counted
  rw [reported_eq_iff, shows.total]
  exact (everyStep_iff _).mp inRange done .read system next isPrefix reached
    taken rfl axis

theorem accounted_iff_quiet_on_axis (axis : Axis) :
    (∀ done system, done ++ [.reset] <+: labels →
        follow (step id service) (System.initial true dispatcher)
          (done ++ [.reset]) = some system →
        Accounted axis dispatcher system
          ((done ++ [.reset]).filterMap Step.event)) ↔
      QuietRounds (accesses axis 0 labels) := by
  obtain ⟨final, counted, _⟩ := shows_of_run whole run
  rw [← erased_eq_zero_iff_quiet counted
    (exactReads_of_inRange run whole inRange)]
  constructor
  · intro accounted early counter begins counts
    obtain ⟨done, label, position, isPrefix, _, same, final⟩ :=
      exists_label_of_prefix begins
    have isReset : label = .reset := by
      cases label <;> simp [access] at final ⊢
    subst isReset
    obtain ⟨system, reached⟩ := exists_of_prefix _ run isPrefix
    obtain ⟨shownBy, counted, shows⟩ := shows_of_run
      (fun label member => whole label (isPrefix.subset member)) reached
    rw [same, counts] at counted
    cases counted
    rw [← same] at counts
    exact (accounted_iff_erased shows counts (addedBy_accesses 0 _)
      (idle_of_reset reached shows)).mp
        (accounted done system isPrefix reached)
  · intro conserved done system isPrefix reached
    obtain ⟨counter, counts, shows⟩ := shows_of_run
      (fun label member => whole label (isPrefix.subset member)) reached
    refine (accounted_iff_erased shows counts (addedBy_accesses 0 _)
      (idle_of_reset reached shows)).mpr ?_
    obtain ⟨position, same⟩ := @accesses_append axis 0 done [Step.reset]
    have begins : accesses axis 0 (done ++ [.reset]) <+: _ :=
      accesses_prefix isPrefix
    rw [same] at counts begins
    exact conserved _ counter begins counts

/-- As long as every tick reads totals that a report can carry, the deltas
sent and the totals make up the movement of the finger after every tick
exactly if, in no tick, the finger moves on balance between the reading and
the reset. -/
theorem movement_kept_iff_quiet :
    (∀ done system, done ++ [.reset] <+: labels →
        follow (step id service) (System.initial true dispatcher)
          (done ++ [.reset]) = some system →
        ∀ axis, Accounted axis dispatcher system
          ((done ++ [.reset]).filterMap Step.event)) ↔
      ∀ axis, QuietRounds (accesses axis 0 labels) := by
  constructor
  · intro accounted axis
    rw [← accounted_iff_quiet_on_axis run whole inRange]
    exact fun done system begins reached =>
      accounted done system begins reached axis
  · intro quiet done system begins reached axis
    exact (accounted_iff_quiet_on_axis run whole inRange axis).mpr
      (quiet axis) done system begins reached

end Conservation

theorem whole_dragAndTick (x y : Int) :
    ∀ label ∈ dragAndTick x y, label.Whole := by
  have down := whole_coord 0 0 1
  have moved := whole_coord x y 2
  simpa [dragAndTick, Step.Whole, MotionEvent.Whole, MotionEvent.samples]
    using ⟨down, moved⟩

/-- A movement to the right and up that is over before the tick is kept. -/
theorem movement_kept_before_tick :
    ∃ last, follow (step id alwaysConnected)
        (System.initial true Dispatcher.initial) (dragAndTick 3 (-4)) =
          some last ∧
      ∀ axis, Accounted axis Dispatcher.initial last
        [.actionDown ⟨0, 0, 1⟩, .actionMove [] ⟨3, -4, 2⟩] := by
  obtain ⟨last, run⟩ : ∃ last, follow (step id alwaysConnected)
      (System.initial true Dispatcher.initial) (dragAndTick 3 (-4)) =
        some last :=
    Option.isSome_iff_exists.mp (by decide +kernel)
  have inRange : EveryStep (step id alwaysConnected)
      (fun system label _ => label = .read → InRange system)
      (System.initial true Dispatcher.initial) (dragAndTick 3 (-4)) := by
    simp [EveryStep, dragAndTick, step, System.initial, Pad.initial,
      onTouchEvent, addSample]
    intro axis
    cases axis <;> norm_num [Pad.total]
  have quiet (axis : Axis) :
      QuietRounds (accesses axis 0 (dragAndTick 3 (-4))) :=
    quietRounds_turns [.add 0, .add _, .add 0, .round]
  exact ⟨last, run, (movement_kept_iff_quiet run (whole_dragAndTick 3 (-4))
    inRange).mpr quiet
      [.touch (.actionDown ⟨0, 0, 1⟩), .touch (.actionMove [] ⟨3, -4, 2⟩),
        .test, .read, .send] last List.prefix_rfl run⟩

/-- The finger moves on between the reading and the reset of a tick. -/
def movingDuringTick : List Step :=
  [.touch (.actionDown ⟨0, 0, 1⟩), .touch (.actionMove [] ⟨5, 0, 2⟩), .test,
    .read, .touch (.actionMove [] ⟨8, 0, 3⟩), .send, .reset]

/-- Of a movement by 8, only 5 is sent, and the total is zero after the
tick. -/
theorem movement_lost_during_tick :
    (∀ label ∈ movingDuringTick, label.Whole) ∧
      EveryStep (step id alwaysConnected)
        (fun system label _ => label = .read → InRange system)
        (System.initial true Dispatcher.initial) movingDuringTick ∧
      (follow (step id alwaysConnected)
        (System.initial true Dispatcher.initial) movingDuringTick).map
          (fun system => (sentDeltas .x system.dispatcher,
            system.pad.total .x)) = some (5, 0) ∧
      travelled .x (movingDuringTick.filterMap Step.event) = 8 ∧
      ∃ system, follow (step id alwaysConnected)
          (System.initial true Dispatcher.initial) movingDuringTick =
            some system ∧
        ¬ Accounted .x Dispatcher.initial system
          (movingDuringTick.filterMap Step.event) := by
  have outcome : (follow (step id alwaysConnected)
      (System.initial true Dispatcher.initial) movingDuringTick).map
        (fun system => (sentDeltas .x system.dispatcher,
          system.pad.total .x)) = some (5, 0) := by
    decide +kernel
  have moved : travelled .x (movingDuringTick.filterMap Step.event) = 8 := by
    decide +kernel
  refine ⟨?_, ?_, outcome, moved, exists_not_accounted outcome moved ?_⟩
  · simpa [movingDuringTick, Step.Whole, MotionEvent.Whole,
      MotionEvent.samples] using
        ⟨whole_coord 0 0 1, whole_coord 5 0 2, whole_coord 8 0 3⟩
  · simp [EveryStep, movingDuringTick, step, System.initial, Pad.initial,
      onTouchEvent, addSample]
    intro axis
    cases axis <;> norm_num [Pad.total]
  · have before : sentDeltas .x Dispatcher.initial = 0 := rfl
    rw [before]
    norm_num

end TrackPad

end MightyMouse
