import MightyMouse.WireRoundTrip
import Mathlib.Data.Set.Function

/-!
# Keystrokes on the wire

Strings, Delete and Enter are all sent as key frames with one payload byte.
A char is narrowed to its low byte, and the bytes 178 and 176 stand for the
two special keys.  This file determines for which chars the keystrokes can be
read off the wire.
-/

namespace MightyMouse

namespace DispatcherSingleton

/-- The keyboard commands that the activities call. -/
inductive KeyboardCommand
  | sendString (message : List JavaChar)
  | sendDelete
  | sendEnter
  deriving DecidableEq, Repr

/-- What the user means to be typed. -/
inductive Keystroke
  | char (c : JavaChar)
  | delete
  | enter
  deriving DecidableEq, Repr

namespace KeyboardCommand

def keystrokes : KeyboardCommand → List Keystroke
  | .sendString message => message.map .char
  | .sendDelete => [.delete]
  | .sendEnter => [.enter]

def perform (service : Service) (dispatcher : Dispatcher) :
    KeyboardCommand → Dispatcher
  | .sendString message => DispatcherSingleton.sendString service dispatcher message
  | .sendDelete => DispatcherSingleton.sendDelete service dispatcher
  | .sendEnter => DispatcherSingleton.sendEnter service dispatcher

def performAll (service : Service) (dispatcher : Dispatcher)
    (commands : List KeyboardCommand) : Dispatcher :=
  commands.foldl (perform service) dispatcher

/-- The strings among the commands use chars of the alphabet only. -/
def Over (alphabet : Set JavaChar) : KeyboardCommand → Prop
  | .sendString message => ∀ c ∈ message, c ∈ alphabet
  | .sendDelete => True
  | .sendEnter => True

end KeyboardCommand

/-- The payload byte that a keystroke is sent as. -/
def Keystroke.byte : Keystroke → Byte
  | .char c => lowByte c
  | .delete => 178#8
  | .enter => 176#8

def Keystroke.Over (alphabet : Set JavaChar) : Keystroke → Prop
  | .char c => c ∈ alphabet
  | .delete => True
  | .enter => True

/-- The key commands that keystrokes are sent as. -/
def keyCommands (strokes : List Keystroke) : List Command :=
  strokes.map fun stroke => .key stroke.byte

section Wire

variable {service : Service} {dispatcher : Dispatcher}

theorem perform_eq_issueAll (dispatcher : Dispatcher)
    (command : KeyboardCommand) :
    command.perform service dispatcher =
      issueAll service dispatcher (keyCommands command.keystrokes) := by
  cases command with
  | sendString message =>
      rw [KeyboardCommand.perform, sendString_eq_issueAll]
      simp only [keyCommands, KeyboardCommand.keystrokes, List.map_map]
      rfl
  | sendDelete => rfl
  | sendEnter => rfl

theorem performAll_eq_issueAll (dispatcher : Dispatcher)
    (commands : List KeyboardCommand) :
    KeyboardCommand.performAll service dispatcher commands =
      issueAll service dispatcher
        (keyCommands (commands.flatMap KeyboardCommand.keystrokes)) := by
  induction commands generalizing dispatcher with
  | nil => rfl
  | cons command commands ih =>
      change KeyboardCommand.performAll service
        (command.perform service dispatcher) commands = _
      rw [ih, perform_eq_issueAll, List.flatMap_cons, keyCommands,
        keyCommands, keyCommands, List.map_append, issueAll, issueAll,
        issueAll, List.foldl_append]

/-- Key frames are all of the same length, so that the payloads can be read
off their concatenation. -/
theorem frames_keyCommands_inj {first second : List Keystroke} :
    (keyCommands first).flatMap Command.frame =
        (keyCommands second).flatMap Command.frame ↔
      first.map Keystroke.byte = second.map Keystroke.byte := by
  induction first generalizing second with
  | nil =>
      cases second with
      | nil => simp
      | cons other second => simp [keyCommands, Command.frame]
  | cons stroke first ih =>
      cases second with
      | nil => simp [keyCommands, Command.frame]
      | cons other second =>
          have rest := @ih second
          simp only [keyCommands] at rest
          simp [keyCommands, Command.frame, Command.letter, Command.payload,
            rest]

/-- Two sequences of keyboard commands write the same bytes exactly if their
keystrokes are narrowed to the same bytes. -/
theorem performAll_wire_eq_iff
    (connected : ∀ n, dispatcher.calls.length ≤ n →
      (service n).connected = true) (first second : List KeyboardCommand) :
    (KeyboardCommand.performAll service dispatcher first).wire =
        (KeyboardCommand.performAll service dispatcher second).wire ↔
      (first.flatMap KeyboardCommand.keystrokes).map Keystroke.byte =
        (second.flatMap KeyboardCommand.keystrokes).map Keystroke.byte := by
  rw [performAll_eq_issueAll, performAll_eq_issueAll,
    issueAll_wire connected, issueAll_wire connected,
    List.append_cancel_left_eq, frames_keyCommands_inj]

end Wire

section Alphabet

variable {alphabet : Set JavaChar}

/-- The chars of the alphabet keep their identity on the wire: no two of them
have the same low byte, and none is sent as Delete or Enter. -/
def Distinguishable (alphabet : Set JavaChar) : Prop :=
  Set.InjOn lowByte alphabet ∧
    ∀ c ∈ alphabet, lowByte c ≠ 178#8 ∧ lowByte c ≠ 176#8

theorem keystroke_eq_of_byte_eq (distinguishable : Distinguishable alphabet)
    {first second : Keystroke} (firstOver : first.Over alphabet)
    (secondOver : second.Over alphabet) (same : first.byte = second.byte) :
    first = second := by
  obtain ⟨injective, special⟩ := distinguishable
  cases first with
  | char c =>
      cases second with
      | char d => rw [injective firstOver secondOver same]
      | delete => exact absurd same (special c firstOver).1
      | enter => exact absurd same (special c firstOver).2
  | delete =>
      cases second with
      | char d => exact absurd same.symm (special d secondOver).1
      | delete => rfl
      | enter => exact absurd same (by decide)
  | enter =>
      cases second with
      | char d => exact absurd same.symm (special d secondOver).2
      | delete => exact absurd same (by decide)
      | enter => rfl

theorem keystrokes_eq_of_bytes_eq (distinguishable : Distinguishable alphabet)
    {first second : List Keystroke}
    (firstOver : ∀ stroke ∈ first, stroke.Over alphabet)
    (secondOver : ∀ stroke ∈ second, stroke.Over alphabet)
    (same : first.map Keystroke.byte = second.map Keystroke.byte) :
    first = second := by
  induction first generalizing second with
  | nil => simpa using same.symm
  | cons stroke first ih =>
      cases second with
      | nil => simp at same
      | cons other second =>
          rw [List.forall_mem_cons] at firstOver secondOver
          rw [List.map_cons, List.map_cons, List.cons.injEq] at same
          rw [keystroke_eq_of_byte_eq distinguishable firstOver.1
            secondOver.1 same.1, ih firstOver.2 secondOver.2 same.2]

theorem keystrokes_over {commands : List KeyboardCommand}
    (spelled : ∀ command ∈ commands, command.Over alphabet) :
    ∀ stroke ∈ commands.flatMap KeyboardCommand.keystrokes,
      stroke.Over alphabet := by
  intro stroke member
  obtain ⟨command, isCommand, inCommand⟩ := List.mem_flatMap.mp member
  have commandOver := spelled command isCommand
  cases command with
  | sendString message =>
      obtain ⟨c, inMessage, rfl⟩ := List.mem_map.mp inCommand
      exact commandOver c inMessage
  | sendDelete =>
      rw [List.mem_singleton.mp inCommand]
      trivial
  | sendEnter =>
      rw [List.mem_singleton.mp inCommand]
      trivial

/-- Sequences of keyboard commands with strings over an alphabet can be read
off the bytes they write exactly if the chars of the alphabet have different
low bytes, none of them the code of Delete or Enter. -/
theorem uniquely_decodable_iff {service : Service} {dispatcher : Dispatcher}
    (connected : ∀ n, dispatcher.calls.length ≤ n →
      (service n).connected = true) (alphabet : Set JavaChar) :
    (∀ first second : List KeyboardCommand,
        (∀ command ∈ first, command.Over alphabet) →
        (∀ command ∈ second, command.Over alphabet) →
        (KeyboardCommand.performAll service dispatcher first).wire =
          (KeyboardCommand.performAll service dispatcher second).wire →
        first.flatMap KeyboardCommand.keystrokes =
          second.flatMap KeyboardCommand.keystrokes) ↔
      Distinguishable alphabet := by
  simp only [performAll_wire_eq_iff connected]
  constructor
  · intro decodable
    -- one char against another, against Delete and against Enter
    have text (c : JavaChar) (inside : c ∈ alphabet) :
        ∀ command ∈ [KeyboardCommand.sendString [c]],
          command.Over alphabet := by
      simpa [KeyboardCommand.Over] using inside
    have special (other : KeyboardCommand)
        (spelled : other.Over alphabet) :
        ∀ command ∈ [other], command.Over alphabet := by
      simpa using spelled
    refine ⟨?_, fun c inside => ⟨?_, ?_⟩⟩
    · intro c inside d otherInside same
      have equal := decodable _ _ (text c inside) (text d otherInside)
        (by simpa [KeyboardCommand.keystrokes, Keystroke.byte] using same)
      simpa [KeyboardCommand.keystrokes] using equal
    · intro same
      have equal := decodable _ _ (text c inside)
        (special .sendDelete trivial)
        (by simpa [KeyboardCommand.keystrokes, Keystroke.byte] using same)
      simp [KeyboardCommand.keystrokes] at equal
    · intro same
      have equal := decodable _ _ (text c inside)
        (special .sendEnter trivial)
        (by simpa [KeyboardCommand.keystrokes, Keystroke.byte] using same)
      simp [KeyboardCommand.keystrokes] at equal
  · intro distinguishable first second firstOver secondOver same
    exact keystrokes_eq_of_bytes_eq distinguishable
      (keystrokes_over firstOver) (keystrokes_over secondOver) same

/-- The chars of ASCII. -/
def ascii : Set JavaChar :=
  { c | c.toNat < 128 }

theorem distinguishable_ascii : Distinguishable ascii := by
  have low {c : JavaChar} (inside : c ∈ ascii) :
      (lowByte c).toNat = c.toNat := by
    change c.toNat < 128 at inside
    rw [lowByte, BitVec.toNat_setWidth]
    omega
  constructor
  · intro c inside d otherInside same
    apply BitVec.eq_of_toNat_eq
    rw [← low inside, ← low otherInside, same]
  · intro c inside
    have small : (lowByte c).toNat < 128 := (low inside).trans_lt inside
    constructor
    · intro same
      rw [same] at small
      exact absurd small (by decide)
    · intro same
      rw [same] at small
      exact absurd small (by decide)

/-- Text in ASCII, Delete and Enter can be told apart. -/
theorem ascii_uniquely_decodable :
    Distinguishable ascii ∧
      ∀ first second : List KeyboardCommand,
        (∀ command ∈ first, command.Over ascii) →
        (∀ command ∈ second, command.Over ascii) →
        (KeyboardCommand.performAll alwaysConnected .initial first).wire =
          (KeyboardCommand.performAll alwaysConnected .initial second).wire →
        first.flatMap KeyboardCommand.keystrokes =
          second.flatMap KeyboardCommand.keystrokes :=
  ⟨distinguishable_ascii,
    (uniquely_decodable_iff (fun _ _ => rfl) _).mpr distinguishable_ascii⟩

/-- The text `²` is written as the Delete key, and `š` as the text `a`. -/
theorem keystrokes_confused :
    ((KeyboardCommand.performAll alwaysConnected .initial
          [.sendString [178#16]]).wire =
        (KeyboardCommand.performAll alwaysConnected .initial
          [.sendDelete]).wire ∧
      [KeyboardCommand.sendString [178#16]].flatMap
          KeyboardCommand.keystrokes ≠
        [KeyboardCommand.sendDelete].flatMap KeyboardCommand.keystrokes) ∧
    (KeyboardCommand.performAll alwaysConnected .initial
          [.sendString [0x161#16]]).wire =
        (KeyboardCommand.performAll alwaysConnected .initial
          [.sendString [97#16]]).wire ∧
      [KeyboardCommand.sendString [0x161#16]].flatMap
          KeyboardCommand.keystrokes ≠
        [KeyboardCommand.sendString [97#16]].flatMap
          KeyboardCommand.keystrokes := by
  refine ⟨⟨?_, ?_⟩, ?_, ?_⟩ <;> decide +kernel

end Alphabet

end DispatcherSingleton

end MightyMouse
