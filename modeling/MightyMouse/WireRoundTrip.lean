import MightyMouse.DispatcherSingleton
import MightyMouse.SerialProtocolGrammar

/-!
# Commands across the wire

A command is issued by filling the dispatcher's array for it and sending the
frame `255, letter, payload`.  This file follows such frames from the
dispatcher to the dongle: whatever state the two are in, a sequence of
commands that do not contain the delimiter is performed exactly as issued.
-/

namespace MightyMouse

open SerialProtocol

/-- What the app can ask the dongle to do. -/
inductive Command
  | key (k : Byte)
  | move (x y s : Byte)
  | click (c : Byte)
  deriving DecidableEq, Repr

namespace Command

def letter : Command → Byte
  | .key _ => keyLetter
  | .move _ _ _ => mouseLetter
  | .click _ => clickLetter

def payload : Command → List Byte
  | .key k => [k]
  | .move x y s => [x, y, s]
  | .click c => [c]

/-- The three writes of a command. -/
def writes (command : Command) : List (List Byte) :=
  [[delimiter], [command.letter], command.payload]

/-- The bytes of a command on the wire. -/
def frame (command : Command) : List Byte :=
  delimiter :: command.letter :: command.payload

/-- The call that the command stands for.  The dongle disregards the type of
a click. -/
def action : Command → Output
  | .key k => .keyboardPrint k
  | .move x y s => .mouseMove x y s
  | .click _ => .mouseClick

/-- The framing does not escape the delimiter, so that a payload must not
contain it. -/
def Clean (command : Command) : Prop :=
  delimiter ∉ command.payload

instance (command : Command) : Decidable command.Clean :=
  inferInstanceAs (Decidable (delimiter ∉ command.payload))

theorem writes_flatten (command : Command) :
    command.writes.flatten = command.frame := by
  simp [writes, frame]

theorem action_isHid (command : Command) : command.action.isHid = true := by
  cases command <;> rfl

theorem letter_ne_delimiter (command : Command) :
    command.letter ≠ delimiter := by
  cases command <;> simp [letter, keyLetter, mouseLetter, clickLetter,
    delimiter]

/-- A clean frame is performed from every state of the dongle, which then
waits for the next one. -/
theorem run_frame {command : Command} (clean : command.Clean)
    (dongle : Dongle) :
    outputsOf .unsigned dongle command.frame = [command.action] ∧
      (stateAfter .unsigned dongle command.frame).currentState =
        waitForStart := by
  have letterNe := command.letter_ne_delimiter
  unfold Clean at clean
  rw [frame, outputsOf_cons, stateAfter_cons, onByte_delimiter,
    outputsOf_cons, stateAfter_cons, onByte_started rfl letterNe]
  cases command with
  | key k =>
      have kNe : k ≠ delimiter := by
        rintro rfl
        exact clean (by simp [payload])
      have typed : keyLetter ≠ clickLetter := by decide
      simp only [letter, payload, typed, if_false, if_true]
      rw [outputsOf_cons, stateAfter_cons, onByte_keyGet0 rfl kNe]
      exact ⟨rfl, rfl⟩
  | move x y s =>
      have xNe : x ≠ delimiter := by
        rintro rfl
        exact clean (by simp [payload])
      have yNe : y ≠ delimiter := by
        rintro rfl
        exact clean (by simp [payload])
      have sNe : s ≠ delimiter := by
        rintro rfl
        exact clean (by simp [payload])
      have notClick : mouseLetter ≠ clickLetter := by decide
      have notKey : mouseLetter ≠ keyLetter := by decide
      have moved := run_mousePayload
        (show { dongle with currentState := mouseGet0 }.currentState =
          mouseGet0 from rfl) xNe yNe sNe
      simp only [letter, payload, notClick, notKey, if_false, if_true]
      rw [moved.1, moved.2]
      exact ⟨rfl, rfl⟩
  | click c =>
      have cNe : c ≠ delimiter := by
        rintro rfl
        exact clean (by simp [payload])
      simp only [letter, payload, if_true]
      rw [outputsOf_cons, stateAfter_cons, onByte_clickGet0 rfl cNe]
      exact ⟨rfl, rfl⟩

/-- Clean frames are performed one by one from every state. -/
theorem run_frames {commands : List Command}
    (clean : ∀ command ∈ commands, command.Clean) (dongle : Dongle) :
    outputsOf .unsigned dongle (commands.flatMap frame) =
        commands.map action ∧
      (commands ≠ [] →
        (stateAfter .unsigned dongle (commands.flatMap frame)).currentState =
          waitForStart) := by
  induction commands generalizing dongle with
  | nil => simp
  | cons command commands ih =>
      obtain ⟨performed, waiting⟩ :=
        run_frame (clean command (by simp)) dongle
      obtain ⟨rest, restWaiting⟩ := ih
        (fun other member => clean other (by simp [member]))
        (stateAfter .unsigned dongle command.frame)
      rw [List.flatMap_cons, outputsOf_append, stateAfter_append, performed,
        rest]
      refine ⟨rfl, fun _ => ?_⟩
      by_cases last : commands = []
      · simpa [last] using waiting
      · exact restWaiting last

theorem hidCalls_frames {commands : List Command}
    (clean : ∀ command ∈ commands, command.Clean) (dongle : Dongle) :
    hidCalls .unsigned dongle (commands.flatMap frame) =
      commands.map action := by
  rw [hidCalls, (run_frames clean dongle).1, List.filter_eq_self]
  intro output member
  obtain ⟨command, _, rfl⟩ := List.mem_map.mp member
  exact command.action_isHid

theorem waiting_after_frames {commands : List Command}
    (clean : ∀ command ∈ commands, command.Clean) {dongle : Dongle}
    (waiting : dongle.currentState = waitForStart) :
    (stateAfter .unsigned dongle (commands.flatMap frame)).currentState =
      waitForStart := by
  by_cases none : commands = []
  · subst none
    exact waiting
  · exact (run_frames clean dongle).2 none

theorem Clean.free {command : Command} (clean : command.Clean) :
    delimiter ∉ command.letter :: command.payload := by
  rw [List.mem_cons, not_or]
  exact ⟨Ne.symm command.letter_ne_delimiter, clean⟩

end Command

namespace DispatcherSingleton

variable (service : Service)

/-- Fill the array of the command and send it. -/
def issue (dispatcher : Dispatcher) : Command → Dispatcher
  | .key k => sendKeyboard service (setKeyBytes dispatcher #v[k])
  | .move x y s => sendMouse service (setMouseBytes dispatcher #v[x, y, s])
  | .click c => sendClick service (setClickBytes dispatcher #v[c])

/-- One thread issues the commands in order. -/
def issueAll (dispatcher : Dispatcher) (commands : List Command) :
    Dispatcher :=
  commands.foldl (issue service) dispatcher

variable {service}

/-- The arrays that the frame of a command is sent from. -/
def kindBuffer : Command → Buffer
  | .key _ => .keyboard
  | .move _ _ _ => .mouse
  | .click _ => .click

def payloadBuffer : Command → Buffer
  | .key _ => .keyBytes
  | .move _ _ _ => .mouseBytes
  | .click _ => .clickBytes

/-- The calls of `sendByte` made for a command, the first being number
`start`. -/
def commandCalls (service : Service) (start : Nat) (command : Command) :
    List SendByteCall :=
  frameCalls service start (kindBuffer command) (payloadBuffer command)
    [command.letter] command.payload

theorem issue_calls (dispatcher : Dispatcher) (command : Command) :
    (issue service dispatcher command).calls =
      dispatcher.calls ++
        commandCalls service dispatcher.calls.length command := by
  cases command with
  | key k =>
      simp only [issue, sendKeyboard, sendFrame_eq, setKeyBytes, copyBytes_eq]
      rfl
  | move x y s =>
      simp only [issue, sendMouse, sendFrame_eq, setMouseBytes, copyBytes_eq]
      rfl
  | click c =>
      simp only [issue, sendClick, sendFrame_eq, setClickBytes, copyBytes_eq]
      rfl

/-- The calls made for a list of commands. -/
def callsFrom (service : Service) : Nat → List Command → List SendByteCall
  | _, [] => []
  | start, command :: commands =>
      commandCalls service start command ++
        callsFrom service (start + 3) commands

theorem issueAll_calls (dispatcher : Dispatcher) (commands : List Command) :
    (issueAll service dispatcher commands).calls =
      dispatcher.calls ++
        callsFrom service dispatcher.calls.length commands := by
  induction commands generalizing dispatcher with
  | nil => simp [issueAll, callsFrom]
  | cons command commands ih =>
      have length : (issue service dispatcher command).calls.length =
          dispatcher.calls.length + 3 := by
        rw [issue_calls, List.length_append]
        rfl
      change (issueAll service (issue service dispatcher command)
        commands).calls = _
      rw [ih, length, issue_calls, callsFrom, List.append_assoc]

theorem lowByte_eq_delimiter_iff (c : JavaChar) :
    lowByte c = 0xFF#8 ↔ c.toNat % 256 = 255 := by
  rw [← BitVec.toNat_inj]
  simp [lowByte]

/-- A string is sent as one key command for each of its chars. -/
theorem sendString_eq_issueAll (dispatcher : Dispatcher)
    (message : List JavaChar) :
    sendString service dispatcher message =
      issueAll service dispatcher
        (message.map fun c => .key (lowByte c)) := by
  have sameSend : sendChar service =
      fun before c => issue service before (.key (lowByte c)) := by
    funext before c
    have filled : before.keyBytes.set 0 (lowByte c) = #v[lowByte c] := by
      apply Vector.ext
      intro i bound
      have zero : i = 0 := Nat.lt_one_iff.mp bound
      subst zero
      simp
    rw [sendChar, issue, setKeyBytes, copyBytes_eq, filled]
  rw [sendString, issueAll, List.foldl_map, sameSend]

theorem issue_wire {dispatcher : Dispatcher}
    (connected : ∀ n, dispatcher.calls.length ≤ n →
      (service n).connected = true) (command : Command) :
    (issue service dispatcher command).wire =
      dispatcher.wire ++ command.frame := by
  unfold Dispatcher.wire
  rw [issue_calls, List.flatMap_append]
  have first := connected dispatcher.calls.length (by omega)
  have second := connected (dispatcher.calls.length + 1) (by omega)
  have third := connected (dispatcher.calls.length + 2) (by omega)
  simp [commandCalls, frameCalls, first, second, third, Command.frame,
    DispatcherSingleton.delimiter, SerialProtocol.delimiter]

theorem issueAll_wire {dispatcher : Dispatcher}
    (connected : ∀ n, dispatcher.calls.length ≤ n →
      (service n).connected = true) (commands : List Command) :
    (issueAll service dispatcher commands).wire =
      dispatcher.wire ++ commands.flatMap Command.frame := by
  induction commands generalizing dispatcher with
  | nil => simp [issueAll]
  | cons command commands ih =>
      have later : ∀ n, (issue service dispatcher command).calls.length ≤ n →
          (service n).connected = true := by
        intro n bound
        rw [issue_calls, List.length_append] at bound
        exact connected n (by omega)
      change (issueAll service (issue service dispatcher command)
        commands).wire = _
      rw [ih later, issue_wire connected]
      simp

/-- What one thread issues while the service stays connected, the dongle
performs: every command once, in order and without an error report, from any
contents of the arrays and any state of the dongle. -/
theorem wire_round_trip {commands : List Command}
    (clean : ∀ command ∈ commands, command.Clean)
    {dispatcher : Dispatcher}
    (connected : ∀ n, dispatcher.calls.length ≤ n →
      (service n).connected = true) (dongle : Dongle) :
    ∃ written,
      (issueAll service dispatcher commands).wire =
          dispatcher.wire ++ written ∧
        outputsOf .unsigned dongle written = commands.map Command.action ∧
        (commands ≠ [] →
          (stateAfter .unsigned dongle written).currentState =
            waitForStart) := by
  obtain ⟨performed, waiting⟩ := Command.run_frames clean dongle
  exact ⟨commands.flatMap Command.frame, issueAll_wire connected commands,
    performed, waiting⟩

/-- A key, a movement and a click, sent to a dongle that an abandoned mouse
command has left in the middle of its payload. -/
theorem wire_round_trip_three_commands :
    ∃ written,
      (issueAll alwaysConnected Dispatcher.initial
          [.key 97#8, .move 5#8 0xFD#8 0#8, .click 76#8]).wire =
          Dispatcher.initial.wire ++ written ∧
        outputsOf .unsigned ⟨mouseGet1, 9, 0⟩ written =
          [.key 97#8, .move 5#8 0xFD#8 0#8, .click 76#8].map Command.action ∧
        ([.key 97#8, .move 5#8 0xFD#8 0#8, .click 76#8] ≠
            ([] : List Command) →
          (stateAfter .unsigned ⟨mouseGet1, 9, 0⟩ written).currentState =
            waitForStart) :=
  wire_round_trip
    (by simp [Command.Clean, Command.payload, SerialProtocol.delimiter])
    (fun _ _ => rfl) _

end DispatcherSingleton

end MightyMouse
