import MightyMouse.EveryPayload
import MightyMouse.UninterruptedTicks

/-!
# From the finger to the cursor

The reports of the track pad are movement commands, and the dongle hands on
those that it can read.  This file follows them from the touch events to the
HID calls: where a report contains the delimiter, its movement is lost, or it
is even taken for a click or a key.
-/

namespace MightyMouse

open DispatcherSingleton hiding delimiter
open SerialProtocol

namespace TrackPad

open LabelledRun
open DrainedCounter hiding Turn

section Deltas

/-- The movement of the cursor that a call asks for. -/
def outputDelta (axis : Axis) : Output → Int
  | .mouseMove x y _ => delta axis [x, y]
  | .keyboardPrint _ | .mouseClick | .error _ _ _ => 0

/-- The movement of the cursor over all calls. -/
def cursorMovement (axis : Axis) (outputs : List Output) : Int :=
  (outputs.map (outputDelta axis)).sum

def commandDelta (axis : Axis) : Command → Int
  | .move x y _ => delta axis [x, y]
  | .key _ | .click _ => 0

/-- The deltas handed to `sendByte` in reports that contain the delimiter. -/
def spoiledDeltas (axis : Axis) (dispatcher : Dispatcher) : Int :=
  (dispatcher.calls.map fun call =>
    if call.buffer = .mouseBytes ∧ delimiter ∈ call.toSend then
      (call.toSend.getD axis.index 0).toInt
    else 0).sum

variable {axis : Axis} {service : Service}

theorem cursorMovement_append (first second : List Output) :
    cursorMovement axis (first ++ second) =
      cursorMovement axis first + cursorMovement axis second := by
  simp [cursorMovement]

theorem cursorMovement_effect (command : Command) :
    cursorMovement axis command.effect =
      if command.Clean then commandDelta axis command else 0 := by
  split
  · next clean =>
      rw [(Command.effect_eq_action_iff command).mpr clean]
      cases command <;> simp [cursorMovement, Command.action, outputDelta,
        commandDelta]
  · next dirty =>
      rw [← Command.effect_eq_action_iff] at dirty
      cases command with
      | key k =>
          simp only [Command.effect]
          split <;> rfl
      | click c =>
          simp only [Command.effect]
          split <;> rfl
      | move x y s =>
          simp only [Command.effect] at dirty ⊢
          split_ifs at dirty ⊢ with later first isKey isClick
          · rfl
          · rfl
          · rfl
          · rfl
          · exact absurd rfl dirty

theorem getD_payload (axis : Axis) (x y s : Byte) :
    ([x, y, s].getD axis.index 0).toInt = delta axis [x, y] := by
  cases axis <;> rfl

theorem sentDeltas_issue (dispatcher : Dispatcher) (command : Command) :
    sentDeltas axis (issue service dispatcher command) =
      sentDeltas axis dispatcher + commandDelta axis command := by
  unfold sentDeltas
  rw [issue_calls, List.map_append, List.sum_append]
  cases command with
  | move x y s =>
      simp [commandCalls, frameCalls, kindBuffer, payloadBuffer, commandDelta,
        Command.payload, ← getD_payload axis x y s]
  | _ => simp [commandCalls, frameCalls, kindBuffer, payloadBuffer, commandDelta]

theorem spoiledDeltas_issue (dispatcher : Dispatcher) (command : Command) :
    spoiledDeltas axis (issue service dispatcher command) =
      spoiledDeltas axis dispatcher +
        if command.Clean then 0 else commandDelta axis command := by
  unfold spoiledDeltas
  rw [issue_calls, List.map_append, List.sum_append]
  cases command with
  | move x y s =>
      simp only [commandCalls, frameCalls, kindBuffer, payloadBuffer,
        commandDelta, Command.Clean, ite_not, ← getD_payload axis x y s]
      simp [Command.payload]
  | _ => simp [commandCalls, frameCalls, kindBuffer, payloadBuffer, commandDelta]

/-- The cursor moves by what has been sent, but for the spoiled reports. -/
theorem cursorMovement_issueAll (dispatcher : Dispatcher)
    (commands : List Command) :
    cursorMovement axis (commands.flatMap Command.effect) =
      sentDeltas axis (issueAll service dispatcher commands) -
          sentDeltas axis dispatcher -
        (spoiledDeltas axis (issueAll service dispatcher commands) -
          spoiledDeltas axis dispatcher) := by
  induction commands generalizing dispatcher with
  | nil => simp [issueAll, cursorMovement]
  | cons command commands ih =>
      have later : issueAll service dispatcher (command :: commands) =
          issueAll service (issue service dispatcher command) commands := rfl
      rw [later, List.flatMap_cons, cursorMovement_append,
        cursorMovement_effect, ih (issue service dispatcher command),
        sentDeltas_issue, spoiledDeltas_issue]
      split <;> omega

end Deltas

section Reports

/-- The command that a pass of the sender issues. -/
def report (info : Vector Byte numMouseBytes) : Command :=
  .move info[0] info[1] info[2]

variable {fl : Rat → Rat} {service : Service} {pad : Pad}

theorem payload_report (info : Vector Byte numMouseBytes) :
    (report info).payload = info.toList := by
  apply List.ext_getElem
  · simp [report, Command.payload]
  · intro i bound _
    have small : i < 3 := by simpa [report, Command.payload] using bound
    obtain rfl | rfl | rfl : i = 0 ∨ i = 1 ∨ i = 2 := by omega
    all_goals simp [report, Command.payload]

theorem relay_eq_issue (present : pad.mChat = true) (dispatcher : Dispatcher)
    (info : Vector Byte numMouseBytes) :
    relay service pad dispatcher info =
      issue service dispatcher (report info) := by
  have same : #v[info[0], info[1], info[2]] = info := by
    apply Vector.ext
    intro i bound
    obtain rfl | rfl | rfl : i = 0 ∨ i = 1 ∨ i = 2 := by omega
    all_goals rfl
  rw [relay, if_pos present, report, issue, same]

/-- The sender's point, as far as its reports are concerned: they have no
wheel movement. -/
def System.Level (system : System) : Prop :=
  system.pad.mChat = true ∧
    ∀ info, system.sender = .sending info → info[2] = 0#8

theorem level_initial (dispatcher : Dispatcher) :
    (System.initial true dispatcher).Level := by
  refine ⟨rfl, ?_⟩
  rintro info ⟨⟩

/-- A report is only on its way between `read` and `send`. -/
theorem level_of_not_sending {system : System}
    (present : system.pad.mChat = true)
    (idle : ∀ info, system.sender ≠ .sending info) : system.Level :=
  ⟨present, fun info sending => absurd sending (idle info)⟩

/-- What a step issues. -/
def issued (system : System) (label : Step) : List Command :=
  match label, system.sender with
  | .send, .sending info => [report info]
  | _, _ => []

theorem level_step {system next : System} {label : Step}
    (level : system.Level) (taken : step fl service system label = some next) :
    next.Level ∧
      next.dispatcher =
        issueAll service system.dispatcher (issued system label) := by
  obtain ⟨present, flat⟩ := level
  cases label with
  | touch event =>
      cases taken
      exact ⟨⟨(touch_mChat system.pad event).trans present, flat⟩, rfl⟩
  | stopSendingThread =>
      cases taken
      exact ⟨⟨present, flat⟩, rfl⟩
  | test =>
      simp only [step] at taken
      split_ifs at taken
      · cases taken
        exact ⟨level_of_not_sending present (by simp), rfl⟩
      · cases taken
        exact ⟨level_of_not_sending present (by simp), rfl⟩
      · cases taken
        exact ⟨⟨present, flat⟩, rfl⟩
  | read =>
      simp only [step] at taken
      split_ifs at taken
      cases taken
      refine ⟨⟨present, ?_⟩, rfl⟩
      rintro info ⟨⟩
      rfl
  | send =>
      simp only [step] at taken
      split at taken
      · next info sending =>
          cases taken
          refine ⟨level_of_not_sending present (by simp), ?_⟩
          simp only [issued, sending]
          exact relay_eq_issue present system.dispatcher info
      · cases taken
  | reset =>
      simp only [step] at taken
      split_ifs at taken
      cases taken
      exact ⟨level_of_not_sending present (by simp), rfl⟩

/-- The dongle takes the report for a click or a key. -/
def Misread (info : Vector Byte numMouseBytes) : Prop :=
  info[0] = delimiter ∧ (info[1] = keyLetter ∨ info[1] = clickLetter)

/-- A movement of the cursor alone. -/
def PureMove (output : Output) : Prop :=
  ∃ x y, output = .mouseMove x y 0#8

theorem pureMove_report_iff {info : Vector Byte numMouseBytes}
    (flat : info[2] = 0#8) :
    (∀ output ∈ (report info).effect, PureMove output) ↔ ¬ Misread info := by
  have notPrint (k : Byte) : ¬ PureMove (.keyboardPrint k) := by
    simp [PureMove]
  have notClick : ¬ PureMove .mouseClick := by
    simp [PureMove]
  have keyNe : keyLetter ≠ delimiter := by decide
  have clickNe : clickLetter ≠ delimiter := by decide
  have zeroNe : (0#8 : Byte) ≠ delimiter := by decide
  simp only [report, Command.effect, Misread, flat, zeroNe, or_false]
  split_ifs with later first isKey isClick
  · have notLetter : ¬ (info[1] = keyLetter ∨ info[1] = clickLetter) := by
      rw [later]
      rintro (same | same)
      · exact keyNe same.symm
      · exact clickNe same.symm
    simp [notLetter]
  · simp [first, isKey, notPrint]
  · simp [first, isClick, notClick]
  · simp [isKey, isClick]
  · simp [first, PureMove]

variable {dispatcher : Dispatcher} {labels : List Step} {start last : System}

/-- What a run has issued, and when the dongle reads it as movement. -/
theorem issued_of_follow (level : start.Level)
    (run : follow (step fl service) start labels = some last) :
    ∃ commands, last.dispatcher =
        issueAll service start.dispatcher commands ∧
      ((∀ output ∈ commands.flatMap Command.effect, PureMove output) ↔
        EveryStep (step fl service) (fun system label _ => label = .send →
          ∀ info, system.sender = .sending info → ¬ Misread info)
          start labels) := by
  induction labels generalizing start with
  | nil =>
      cases run
      exact ⟨[], rfl, by simp [EveryStep]⟩
  | cons label labels ih =>
      obtain ⟨next, taken, rest⟩ := (follow_cons_eq_some _).mp run
      obtain ⟨nextLevel, here⟩ := level_step level taken
      obtain ⟨commands, later, pure_iff⟩ := ih nextLevel rest
      refine ⟨issued start label ++ commands, ?_, ?_⟩
      · rw [later, here]
        simp [issueAll]
      · have first : (∀ output ∈ (issued start label).flatMap Command.effect,
            PureMove output) ↔ (label = .send → ∀ info,
              start.sender = .sending info → ¬ Misread info) := by
          cases label with
          | send =>
              cases stands : start.sender with
              | sending info =>
                  simpa [issued, stands] using
                    pureMove_report_iff (level.2 info stands)
              | _ => simp [issued, stands]
          | _ => simp [issued]
        rw [List.flatMap_append, List.forall_mem_append, first, pure_iff]
        simp [EveryStep, taken]

/-- While the service stays connected, whatever the finger does, the dongle does
nothing but move the cursor, unless some report is misread: one that moves by
-1 to the left and by 67 or 75 down. -/
theorem finger_only_moves_iff
    (run : follow (step fl service) (System.initial true dispatcher) labels =
      some last)
    (connected : ∀ n, dispatcher.calls.length ≤ n →
      (service n).connected = true) (dongle : Dongle) :
    ∃ written, last.dispatcher.wire = dispatcher.wire ++ written ∧
      ((∀ output ∈ hidCalls .unsigned dongle written, PureMove output) ↔
        EveryStep (step fl service) (fun system label _ => label = .send →
          ∀ info, system.sender = .sending info → ¬ Misread info)
          (System.initial true dispatcher) labels) := by
  obtain ⟨commands, issued, pure_iff⟩ :=
    issued_of_follow (level_initial dispatcher) run
  refine ⟨commands.flatMap Command.frame, ?_, ?_⟩
  · rw [issued]
    exact issueAll_wire connected commands
  · rw [Command.hidCalls_any_frames]
    exact pure_iff

/-- A movement by -1 and 67 is sent, and clicks. -/
theorem finger_only_moves_iff_left_down :
    ∃ last, follow (step id alwaysConnected)
        (System.initial true Dispatcher.initial)
        [.touch (.actionMove [] ⟨-1, 67, 1⟩), .test, .read, .send] =
          some last ∧
      ∃ written, last.dispatcher.wire =
          Dispatcher.initial.wire ++ written ∧
        ((∀ output ∈ hidCalls .unsigned Dongle.initial written,
            PureMove output) ↔
          EveryStep (step id alwaysConnected) (fun system label _ =>
            label = .send → ∀ info, system.sender = .sending info →
              ¬ Misread info) (System.initial true Dispatcher.initial)
            [.touch (.actionMove [] ⟨-1, 67, 1⟩), .test, .read, .send]) := by
  obtain ⟨last, run⟩ : ∃ last, follow (step id alwaysConnected)
      (System.initial true Dispatcher.initial)
      [.touch (.actionMove [] ⟨-1, 67, 1⟩), .test, .read, .send] =
        some last :=
    Option.isSome_iff_exists.mp (by decide +kernel)
  exact ⟨last, run, finger_only_moves_iff run (fun _ _ => rfl) Dongle.initial⟩

end Reports

section Path

variable {service : Service} {dispatcher : Dispatcher} {axis : Axis}
variable {turns : List Turn} {system next last : System} {label : Turn}

theorem steps_of_turn (taken : turn service system label = some next) :
    ∃ labels, follow (step id service) system labels = some next := by
  cases label with
  | touch event =>
      exact ⟨[.touch event], (follow_cons_eq_some _).mpr ⟨next, taken, rfl⟩⟩
  | tick =>
      obtain ⟨tested, test, rest⟩ := Option.bind_eq_some_iff.mp taken
      split at rest
      · refine ⟨[.test, .read, .send, .reset], ?_⟩
        exact (follow_cons_eq_some _).mpr ⟨tested, test, rest⟩
      · cases rest
        exact ⟨[.test], (follow_cons_eq_some _).mpr ⟨next, test, rfl⟩⟩

theorem steps_of_turns (run : follow (turn service) system turns = some next) :
    ∃ labels, follow (step id service) system labels = some next := by
  induction turns generalizing system with
  | nil =>
      cases run
      exact ⟨[], rfl⟩
  | cons label turns ih =>
      obtain ⟨between, taken, rest⟩ := (follow_cons_eq_some _).mp run
      obtain ⟨first, reached⟩ := steps_of_turn taken
      obtain ⟨second, later⟩ := ih rest
      refine ⟨first ++ second, ?_⟩
      rw [follow_append, reached]
      exact later

/-- The movement of the cursor since the view was created. -/
def cursor (dongle : Dongle) (before : Dispatcher) (axis : Axis)
    (system : System) : Int :=
  cursorMovement axis (hidCalls .unsigned dongle
    (system.dispatcher.wire.drop before.wire.length))

theorem cursor_eq
    (run : follow (turn service) (System.initial true dispatcher) turns =
      some system)
    (connected : ∀ n, dispatcher.calls.length ≤ n →
      (service n).connected = true) (dongle : Dongle) :
    cursor dongle dispatcher axis system =
      sentDeltas axis system.dispatcher - sentDeltas axis dispatcher -
        (spoiledDeltas axis system.dispatcher -
          spoiledDeltas axis dispatcher) := by
  obtain ⟨labels, steps⟩ := steps_of_turns run
  obtain ⟨commands, issued, _⟩ :=
    issued_of_follow (level_initial dispatcher) steps
  have wire : system.dispatcher.wire =
      dispatcher.wire ++ commands.flatMap Command.frame := by
    rw [issued]
    exact issueAll_wire connected commands
  rw [cursor, wire, List.drop_left, Command.hidCalls_any_frames,
    cursorMovement_issueAll dispatcher, issued]
  rfl

/-- The books of a run: what has been sent, is pending, or was cut off. -/
theorem sent_add_unreported (axis : Axis) (whole : ∀ label ∈ turns, label.Whole)
    (run : follow (turn service) (System.initial true dispatcher) turns =
      some system) :
    ((sentDeltas axis system.dispatcher - sentDeltas axis dispatcher : Int) :
        Rat) + system.pad.total axis +
      unreported reported 0 (counterTurns axis 0 turns) =
    travelled axis (turns.filterMap Turn.event) := by
  obtain ⟨counter, counts, shows, idle, erased⟩ :=
    shows_of_turn_run axis whole run
  have added : counter.added = travelled axis (turns.filterMap Turn.event) := by
    rw [added_of_follow counts, addedBy_counterTurns]
    exact zero_add _
  have balanced := balanced_of_follow counts
  rw [Counter.Balanced, idle, Point.outstanding, add_zero] at balanced
  rw [shows.sentSince, ← shows.total, ← erased, ← added, balanced]

/-- What a run has lost on the way: what no report could carry, and what was
in reports with the delimiter. -/
def missing (dispatcher : Dispatcher) (axis : Axis) (turns : List Turn)
    (system : System) : Rat :=
  unreported reported 0 (counterTurns axis 0 turns) +
    (spoiledDeltas axis system.dispatcher - spoiledDeltas axis dispatcher : Int)

theorem cursor_add_missing (whole : ∀ label ∈ turns, label.Whole)
    (run : follow (turn service) (System.initial true dispatcher) turns =
      some system)
    (connected : ∀ n, dispatcher.calls.length ≤ n →
      (service n).connected = true) (dongle : Dongle) :
    (cursor dongle dispatcher axis system : Rat) + system.pad.total axis +
        missing dispatcher axis turns system =
      travelled axis (turns.filterMap Turn.event) := by
  rw [← sent_add_unreported axis whole run, cursor_eq run connected, missing]
  push_cast
  ring

section Ticks

/-- Every state that a run of turns reaches is steady. -/
theorem steady_of_turns
    (run : follow (turn service) (System.initial true dispatcher) turns =
      some system) : system.Steady :=
  invariant_of_follow (turn service)
    (fun _ _ _ steady (_ : True) taken => steady_turn steady taken)
    ⟨rfl, rfl⟩ (fun _ _ => trivial) run

theorem safeTotal_zero : SafeTotal 0 :=
  Or.inr le_rfl

/-- The reports of a tick are spoiled if one of its totals is sent as the
delimiter. -/
theorem spoiledDeltas_tick (steady : system.Steady)
    (present : system.pad.mChat = true)
    (taken : turn service system .tick = some next) :
    ((∀ axis, SafeTotal (system.pad.total axis)) →
        spoiledDeltas axis next.dispatcher =
          spoiledDeltas axis system.dispatcher) ∧
      (¬ (∀ axis, SafeTotal (system.pad.total axis)) →
        spoiledDeltas axis next.dispatcher =
          spoiledDeltas axis system.dispatcher +
            delta axis (mouseInfo (readTotals system.pad)).toList) := by
  by_cases still : ∀ axis, system.pad.total axis = 0
  · rw [tick_of_still steady still] at taken
    cases taken
    refine ⟨fun _ => rfl, fun spoiled => absurd (fun axis => ?_) spoiled⟩
    rw [still axis]
    exact safeTotal_zero
  · rw [tick_of_moved steady (not_forall.mp still)] at taken
    cases taken
    have stillPresent : (readTotals system.pad).mChat = true := present
    have clean_iff : (report (mouseInfo (readTotals system.pad))).Clean ↔
        ∀ axis, SafeTotal (system.pad.total axis) := by
      rw [Command.Clean, payload_report, delimiter_not_mem_mouseInfo_iff]
      constructor
      · rintro ⟨safeX, safeY⟩ (_ | _)
        · exact safeX
        · exact safeY
      · exact fun safe => ⟨safe .x, safe .y⟩
    have same : commandDelta axis (report (mouseInfo (readTotals system.pad))) =
        delta axis (mouseInfo (readTotals system.pad)).toList := by
      cases axis <;> rfl
    dsimp only
    rw [relay_eq_issue stillPresent, spoiledDeltas_issue, same]
    constructor
    · intro safe
      rw [if_pos (clean_iff.mpr safe), add_zero]
    · intro spoiled
      rw [if_neg (clean_iff.not.mpr spoiled)]

/-- A whole total is sent as the delimiter exactly if it is -1. -/
theorem safeTotal_iff_of_whole {total : Rat} (whole : Whole total) :
    SafeTotal total ↔ total ≠ -1 := by
  obtain ⟨n, rfl⟩ := whole
  have below : (n : Rat) < -3 / 2 ↔ n < -1 := by
    rw [lt_div_iff₀ (by norm_num)]
    constructor
    · intro low
      have : n * 2 < -3 := by exact_mod_cast low
      omega
    · intro low
      have : n * 2 < -3 := by omega
      exact_mod_cast this
  have isMinusOne : (n : Rat) = -1 ↔ n = -1 := by exact_mod_cast Iff.rfl
  have nonneg : 0 ≤ (n : Rat) ↔ 0 ≤ n := by exact_mod_cast Iff.rfl
  rw [SafeTotal, below, nonneg, ne_eq, isMinusOne]
  omega

variable (whole : ∀ label ∈ turns, label.Whole)
  (run : follow (turn service) (System.initial true dispatcher) turns =
    some system)
include whole run

/-- A tick loses what a report cannot carry, or all of its totals if the
report is spoiled. -/
theorem missing_tick (axis : Axis)
    (taken : turn service system .tick = some next) :
    ((∀ axis, SafeTotal (system.pad.total axis)) →
        missing dispatcher axis (turns ++ [.tick]) next =
          missing dispatcher axis turns system +
            (system.pad.total axis - reported (system.pad.total axis))) ∧
      (¬ (∀ axis, SafeTotal (system.pad.total axis)) →
        missing dispatcher axis (turns ++ [.tick]) next =
          missing dispatcher axis turns system + system.pad.total axis) := by
  obtain ⟨counter, _, shows, _⟩ := shows_of_turn_run axis whole run
  obtain ⟨keeps, spoils⟩ := @spoiledDeltas_tick service axis _ _
    (steady_of_turns run) shows.mChat taken
  rw [missing, missing, unreported_tick whole run]
  constructor
  · intro safe
    rw [keeps safe]
    ring
  · intro spoiled
    rw [spoils spoiled]
    push_cast
    rw [delta_mouseInfo shows.wholeTotal]
    ring

theorem missing_touch (axis : Axis) (event : MotionEvent)
    (taken : turn service system (.touch event) = some next) :
    missing dispatcher axis (turns ++ [.touch event]) next =
      missing dispatcher axis turns system := by
  cases taken
  rw [missing, missing, unreported_touch whole run]

theorem wholeTotal_of_turns (axis : Axis) : Whole (system.pad.total axis) := by
  obtain ⟨_, _, shows, _⟩ := shows_of_turn_run axis whole run
  exact shows.wholeTotal

/-- A tick leaves nothing more missing exactly if it finds totals that a report
can carry and that are not sent as the delimiter. -/
theorem missing_tick_eq_iff (taken : turn service system .tick = some next) :
    (∀ axis, missing dispatcher axis (turns ++ [.tick]) next =
        missing dispatcher axis turns system) ↔
      InRange system ∧ ∀ axis, system.pad.total axis ≠ -1 := by
  have safe_iff (axis : Axis) :=
    safeTotal_iff_of_whole (wholeTotal_of_turns whole run axis)
  constructor
  · intro kept
    have safe : ∀ axis, SafeTotal (system.pad.total axis) := by
      by_contra spoiled
      -- a spoiled report loses all totals, and then they have been zero
      have zero (axis : Axis) : system.pad.total axis = 0 := by
        have lost := (missing_tick whole run axis taken).2 spoiled
        rw [kept axis] at lost
        exact left_eq_add.mp lost
      exact spoiled fun axis => zero axis ▸ safeTotal_zero
    refine ⟨fun axis => ?_, fun axis => (safe_iff axis).mp (safe axis)⟩
    have lost := (missing_tick whole run axis taken).1 safe
    rw [kept axis] at lost
    exact (reported_eq_iff _).mp (sub_eq_zero.mp (left_eq_add.mp lost)).symm
  · rintro ⟨inRange, notMinusOne⟩ axis
    have safe (axis : Axis) := (safe_iff axis).mpr (notMinusOne axis)
    rw [(missing_tick whole run axis taken).1 safe,
      (reported_eq_iff _).mpr (inRange axis), sub_self, add_zero]

end Ticks

/-- Nothing is missing along a run exactly if every tick finds totals that a
report can carry and that are not sent as the delimiter. -/
theorem missing_eq_zero_iff (whole : ∀ label ∈ turns, label.Whole) :
    (∀ done system, done <+: turns →
        follow (turn service) (System.initial true dispatcher) done =
          some system →
        ∀ axis, missing dispatcher axis done system = 0) ↔
      EveryStep (turn service) (fun system label _ => label = .tick →
        InRange system ∧ ∀ axis, system.pad.total axis ≠ -1)
        (System.initial true dispatcher) turns := by
  have wholeIn {done : List Turn} (begins : done <+: turns) :
      ∀ label ∈ done, label.Whole :=
    fun label member => whole label (begins.subset member)
  rw [everyStep_iff]
  constructor
  · rintro none early _ before next begins reached taken rfl
    have starts := (List.prefix_append early [Turn.tick]).trans begins
    have ended : follow (turn service) (System.initial true dispatcher)
        (early ++ [.tick]) = some next :=
      (follow_concat_eq_some _).mpr ⟨before, reached, taken⟩
    refine (missing_tick_eq_iff (wholeIn starts) reached taken).mp
      fun axis => ?_
    rw [none _ _ begins ended, none _ _ starts reached]
  · intro fine done
    induction done using List.reverseRecOn with
    | nil =>
        intro system _ reached axis
        cases reached
        simp [missing, counterTurns, unreported, System.initial]
    | append_singleton done label ih =>
        intro system begins ended axis
        have starts := (List.prefix_append done [label]).trans begins
        obtain ⟨before, reached, taken⟩ := (follow_concat_eq_some _).mp ended
        rw [← ih before starts reached axis]
        cases label with
        | touch event =>
            exact missing_touch (wholeIn starts) reached axis event taken
        | tick =>
            exact (missing_tick_eq_iff (wholeIn starts) reached taken).mpr
              (fine done .tick before system begins reached taken rfl) axis

/-- The cursor follows the finger while the service stays connected.  Its
movement, the totals that wait for the next tick and what is missing make up
the movement of the finger; nothing is missing all along a run exactly if every
tick finds totals that a report can carry, none of them -1. -/
theorem cursor_follows_finger (whole : ∀ label ∈ turns, label.Whole)
    (run : follow (turn service) (System.initial true dispatcher) turns =
      some last)
    (connected : ∀ n, dispatcher.calls.length ≤ n →
      (service n).connected = true) (dongle : Dongle) :
    (∀ axis, (cursor dongle dispatcher axis last : Rat) +
          last.pad.total axis + missing dispatcher axis turns last =
        travelled axis (turns.filterMap Turn.event)) ∧
      ((∀ done system, done <+: turns →
          follow (turn service) (System.initial true dispatcher) done =
            some system →
          ∀ axis, (cursor dongle dispatcher axis system : Rat) +
              system.pad.total axis =
            travelled axis (done.filterMap Turn.event)) ↔
        EveryStep (turn service) (fun system label _ => label = .tick →
          InRange system ∧ ∀ axis, system.pad.total axis ≠ -1)
          (System.initial true dispatcher) turns) := by
  refine ⟨fun axis => cursor_add_missing whole run connected dongle, ?_⟩
  rw [← missing_eq_zero_iff whole]
  refine forall₄_congr fun done system begins reached =>
    forall_congr' fun axis => ?_
  have wholeDone : ∀ label ∈ done, label.Whole :=
    fun label member => whole label (begins.subset member)
  have books := @cursor_add_missing service dispatcher axis done system
    wholeDone reached connected dongle
  rw [← books]
  constructor <;> intro same <;> linarith

end Path

/-- The finger moves to the left by one before a tick, and back by five
before another. -/
def slowDrag : List Turn :=
  [.touch (.actionDown ⟨0, 0, 1⟩), .touch (.actionMove [] ⟨-1, 0, 2⟩), .tick,
    .touch (.actionMove [] ⟨4, 0, 3⟩), .tick]

theorem whole_slowDrag : ∀ label ∈ slowDrag, label.Whole := by
  simpa [slowDrag, Turn.Whole, MotionEvent.Whole, MotionEvent.samples]
    using ⟨whole_coord 0 0 1, whole_coord (-1) 0 2, whole_coord 4 0 3⟩

/-- The books of the slow movement balance once the lost step is counted. -/
theorem cursor_follows_finger_slowDrag :
    ∃ last, follow (turn alwaysConnected)
        (System.initial true Dispatcher.initial) slowDrag = some last ∧
      ∀ axis, (cursor Dongle.initial Dispatcher.initial axis last : Rat) +
          last.pad.total axis +
          missing Dispatcher.initial axis slowDrag last =
        travelled axis (slowDrag.filterMap Turn.event) := by
  obtain ⟨last, run⟩ : ∃ last, follow (turn alwaysConnected)
      (System.initial true Dispatcher.initial) slowDrag = some last :=
    Option.isSome_iff_exists.mp (by decide +kernel)
  exact ⟨last, run, (cursor_follows_finger whole_slowDrag run
    (fun _ _ => rfl) Dongle.initial).1⟩

end TrackPad

end MightyMouse
