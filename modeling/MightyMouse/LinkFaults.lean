import MightyMouse.WireRoundTrip

/-!
# Faults of the link

A frame has no length field and no checksum.  This file determines what the
dongle makes of a stream from which the link has dropped one byte, and of the
part of a stream that falls into the time of a connection.
-/

namespace MightyMouse

open SerialProtocol

section Blocks

variable {Item Symbol : Type*} {expand : Item → List Symbol}

/-- A position in a concatenation of blocks lies in one of them. -/
theorem exists_block_of_lt_length {items : List Item} {position : Nat}
    (inside : position < (items.flatMap expand).length) :
    ∃ before item after offset, items = before ++ item :: after ∧
      offset < (expand item).length ∧
      position = (before.flatMap expand).length + offset := by
  induction items generalizing position with
  | nil => simp at inside
  | cons first items ih =>
      by_cases here : position < (expand first).length
      · exact ⟨[], first, items, position, rfl, here, by simp⟩
      · have later : position - (expand first).length <
            (items.flatMap expand).length := by
          rw [List.flatMap_cons, List.length_append] at inside
          omega
        obtain ⟨before, item, after, offset, split, inBlock, place⟩ :=
          ih later
        refine ⟨first :: before, item, after, offset, by rw [split]; rfl,
          inBlock, ?_⟩
        rw [List.flatMap_cons, List.length_append]
        omega

/-- Erasing the symbol at such a position erases it from its block. -/
theorem eraseIdx_flatMap (before : List Item) {item : Item} {offset : Nat}
    (inBlock : offset < (expand item).length) (after : List Item) :
    ((before ++ item :: after).flatMap expand).eraseIdx
        ((before.flatMap expand).length + offset) =
      before.flatMap expand ++
        ((expand item).eraseIdx offset ++ after.flatMap expand) := by
  rw [List.flatMap_append, List.flatMap_cons,
    List.eraseIdx_append_of_length_le (by omega), Nat.add_sub_cancel_left,
    List.eraseIdx_append_of_lt_length inBlock]

end Blocks

section LostByte

/-- What the rest of a frame is taken for when one of its bytes is lost.  A
movement without its letter begins with its x byte; if that is the letter of
a key or of a click, the y byte completes the command. -/
def misreading : Command → Nat → List Output
  | .move x y _, 1 =>
      if x = keyLetter then [.keyboardPrint y]
      else if x = clickLetter then [.mouseClick]
      else []
  | _, _ => []

/-- A movement that has lost its letter. -/
theorem hid_movePayload (x y s : Byte) :
    (segmentOutputs [x, y, s]).filter Output.isHid =
      misreading (.move x y s) 1 := by
  by_cases isKey : x = keyLetter
  · subst isKey
    rfl
  by_cases isClick : x = clickLetter
  · subst isClick
    rfl
  by_cases isMouse : x = mouseLetter
  · subst isMouse
    rfl
  · simp [segmentOutputs, misreading, isKey, isClick, isMouse, strayErrors,
      Output.isHid]

/-- Of the frames whose letter or payload has lost a byte, only a movement
without its letter is long enough for a command. -/
theorem hid_damagedSegment (command : Command) {offset : Nat}
    (inFrame : offset < (command.letter :: command.payload).length) :
    (segmentOutputs
        ((command.letter :: command.payload).eraseIdx offset)).filter
          Output.isHid =
      misreading command (offset + 1) := by
  cases command with
  | key k =>
      apply hid_eq_nil_of_incomplete
      apply not_completesCommand_of_short
      rw [List.length_eraseIdx_of_lt inFrame]
      exact le_refl 1
  | click c =>
      apply hid_eq_nil_of_incomplete
      apply not_completesCommand_of_short
      rw [List.length_eraseIdx_of_lt inFrame]
      exact le_refl 1
  | move x y s =>
      have notKey : mouseLetter ≠ keyLetter := by decide
      have notClick : mouseLetter ≠ clickLetter := by decide
      have cases : offset = 0 ∨ offset = 1 ∨ offset = 2 ∨ offset = 3 := by
        simp only [Command.payload, List.length_cons, List.length_nil]
          at inFrame
        omega
      rcases cases with rfl | rfl | rfl | rfl
      · exact hid_movePayload x y s
      all_goals
        apply hid_eq_nil_of_incomplete
        simp [Command.letter, Command.payload, CompletesCommand, notKey,
          notClick]

/-- What a waiting dongle does with a frame that has lost a byte. -/
theorem hidCalls_damagedFrame {command : Command} (clean : command.Clean)
    {offset : Nat} (inFrame : offset < command.frame.length)
    {dongle : Dongle} (waiting : dongle.currentState = waitForStart) :
    hidCalls .unsigned dongle (command.frame.eraseIdx offset) =
      misreading command offset := by
  cases offset with
  | zero =>
      have nothing : misreading command 0 = [] := by
        cases command <;> rfl
      rw [nothing]
      exact hidCalls_waiting waiting clean.free
  | succ offset =>
      have rest : offset < (command.letter :: command.payload).length :=
        Nat.lt_of_succ_lt_succ inFrame
      have free : delimiter ∉
          (command.letter :: command.payload).eraseIdx offset := fun member =>
        clean.free (List.mem_of_mem_eraseIdx member)
      rw [Command.frame, List.eraseIdx_cons_succ, hidCalls_delimited _ free]
      exact hid_damagedSegment command rest

/-- A lost byte costs at most its own command: the dongle performs all other
commands in order.  In the place of the damaged one it performs nothing,
unless the byte is the letter of a movement whose x byte is itself the letter
of a key or a click. -/
theorem lost_byte_costs_own_command {commands : List Command}
    (clean : ∀ command ∈ commands, command.Clean) {position : Nat}
    (inStream : position < (commands.flatMap Command.frame).length)
    (mouseX mouseY : Int) :
    ∃ before command after offset, commands = before ++ command :: after ∧
      offset < command.frame.length ∧
      position = (before.flatMap Command.frame).length + offset ∧
      hidCalls .unsigned ⟨waitForStart, mouseX, mouseY⟩
          ((commands.flatMap Command.frame).eraseIdx position) =
        before.map Command.action ++ misreading command offset ++
          after.map Command.action := by
  obtain ⟨before, command, after, offset, split, inFrame, place⟩ :=
    exists_block_of_lt_length inStream
  refine ⟨before, command, after, offset, split, inFrame, place, ?_⟩
  subst split
  rw [List.forall_mem_append, List.forall_mem_cons] at clean
  obtain ⟨cleanBefore, cleanCommand, cleanAfter⟩ := clean
  have waiting := Command.waiting_after_frames cleanBefore
    (show (⟨waitForStart, mouseX, mouseY⟩ : Dongle).currentState =
      waitForStart from rfl)
  rw [place, eraseIdx_flatMap before inFrame after, hidCalls_append,
    hidCalls_append, Command.hidCalls_frames cleanBefore,
    hidCalls_damagedFrame cleanCommand inFrame waiting,
    Command.hidCalls_frames cleanAfter, List.append_assoc]

/-- A movement that loses its letter does nothing if its x byte is no letter
of a key or a click. -/
theorem lost_byte_of_slow_movement :
    ∃ before command after offset,
      [.key 97#8, .move 5#8 75#8 0#8, .click 76#8] =
        before ++ command :: after ∧
      offset < command.frame.length ∧
      4 = (before.flatMap Command.frame).length + offset ∧
      hidCalls .unsigned ⟨waitForStart, 0, 0⟩
          (([.key 97#8, .move 5#8 75#8 0#8, .click 76#8].flatMap
            Command.frame).eraseIdx 4) =
        before.map Command.action ++ misreading command offset ++
          after.map Command.action :=
  lost_byte_costs_own_command
    (by simp [Command.Clean, Command.payload, delimiter]) (by decide) 0 0

/-- Without its letter, a movement by (75, 97) is typed as `a`. -/
theorem lost_letter_types_key :
    (∀ command ∈ [Command.move 75#8 97#8 0#8, .key 98#8], command.Clean) ∧
      hidCalls .unsigned Dongle.initial
          (([Command.move 75#8 97#8 0#8, .key 98#8].flatMap
            Command.frame).eraseIdx 1) =
        [.keyboardPrint 97#8, .keyboardPrint 98#8] ∧
      hidCalls .unsigned Dongle.initial
          (([Command.move 75#8 97#8 0#8, .key 98#8].flatMap
            Command.frame).eraseIdx 1) ≠
        [Command.key 98#8].map Command.action := by
  refine ⟨?_, ?_, ?_⟩
  · simp [Command.Clean, Command.payload, delimiter]
  · decide
  · decide

end LostByte

section Window

open DispatcherSingleton hiding delimiter

variable {service : Service} {opens closes : Nat}

/-- The bytes of the calls that were written. -/
def writtenBytes (calls : List SendByteCall) : List Byte :=
  calls.flatMap fun call => if call.written then call.toSend else []

theorem writtenBytes_append (first second : List SendByteCall) :
    writtenBytes (first ++ second) =
      writtenBytes first ++ writtenBytes second :=
  List.flatMap_append

theorem issueAll_wire_eq (dispatcher : Dispatcher)
    (commands : List Command) :
    (issueAll service dispatcher commands).wire =
      dispatcher.wire ++
        writtenBytes (callsFrom service dispatcher.calls.length commands) := by
  unfold Dispatcher.wire
  rw [issueAll_calls, List.flatMap_append]
  rfl

/-- The service is connected for the calls of `sendByte` with these numbers
and for no others. -/
def ConnectedWithin (service : Service) (opens closes : Nat) : Prop :=
  ∀ n, (service n).connected = true ↔ opens ≤ n ∧ n < closes

/-- The commands whose three calls all fall into the window, the first call
being number `start`. -/
def commandsWithin (opens closes : Nat) : Nat → List Command → List Command
  | _, [] => []
  | start, command :: commands =>
      if opens ≤ start ∧ start + 3 ≤ closes then
        command :: commandsWithin opens closes (start + 3) commands
      else commandsWithin opens closes (start + 3) commands

theorem writtenBytes_commandCalls (start : Nat) (command : Command) :
    writtenBytes (commandCalls service start command) =
      (if (service start).connected then [delimiter] else []) ++
        ((if (service (start + 1)).connected then [command.letter] else []) ++
          if (service (start + 2)).connected then command.payload else []) := by
  simp [writtenBytes, commandCalls, frameCalls,
    DispatcherSingleton.delimiter, SerialProtocol.delimiter]

/-- A frame that is begun but not finished, or only its letter, performs
nothing. -/
theorem hidCalls_unfinished (window : ConnectedWithin service opens closes)
    {start : Nat} (unfinished : closes < start + 3) (command : Command)
    {dongle : Dongle} (waiting : dongle.currentState = waitForStart) :
    hidCalls .unsigned dongle
      (writtenBytes (commandCalls service start command)) = [] := by
  have noPayload : ¬ (service (start + 2)).connected = true := by
    rw [window]
    omega
  have letterNe := command.letter_ne_delimiter
  have free : delimiter ∉
      if (service (start + 1)).connected then [command.letter] else [] := by
    split
    · simpa using Ne.symm letterNe
    · simp
  rw [writtenBytes_commandCalls, if_neg noPayload, List.append_nil]
  split
  · rw [List.singleton_append, hidCalls_delimited dongle free]
    apply hid_eq_nil_of_incomplete
    apply not_completesCommand_of_short
    split <;> simp
  · rw [List.nil_append]
    exact hidCalls_waiting waiting free

/-- A frame whose end is written is whole, or consists of strays. -/
theorem writtenBytes_finished (window : ConnectedWithin service opens closes)
    {start : Nat} (finished : start + 3 ≤ closes) {command : Command}
    (clean : command.Clean) :
    (opens ≤ start →
        writtenBytes (commandCalls service start command) = command.frame) ∧
      (start < opens →
        delimiter ∉ writtenBytes (commandCalls service start command)) := by
  rw [writtenBytes_commandCalls]
  constructor
  · intro isOpen
    have first : (service start).connected = true :=
      (window start).mpr ⟨isOpen, by omega⟩
    have second : (service (start + 1)).connected = true :=
      (window (start + 1)).mpr ⟨by omega, by omega⟩
    have third : (service (start + 2)).connected = true :=
      (window (start + 2)).mpr ⟨by omega, by omega⟩
    rw [if_pos first, if_pos second, if_pos third]
    rfl
  · intro early
    have first : ¬ (service start).connected = true := by
      rw [window]
      omega
    have free := clean.free
    rw [List.mem_cons, not_or] at free
    rw [if_neg first, List.nil_append, List.mem_append, not_or]
    constructor
    · split
      · simpa using free.1
      · simp
    · split
      · exact free.2
      · simp

theorem writtenBytes_callsFrom_of_closed
    (window : ConnectedWithin service opens closes) {start : Nat}
    (closed : closes ≤ start) (commands : List Command) :
    writtenBytes (callsFrom service start commands) = [] ∧
      commandsWithin opens closes start commands = [] := by
  induction commands generalizing start with
  | nil => exact ⟨rfl, rfl⟩
  | cons command commands ih =>
      obtain ⟨noBytes, noCommands⟩ :=
        ih (show closes ≤ start + 3 by omega)
      have first : ¬ (service start).connected = true := by
        rw [window]
        omega
      have second : ¬ (service (start + 1)).connected = true := by
        rw [window]
        omega
      have third : ¬ (service (start + 2)).connected = true := by
        rw [window]
        omega
      have outside : ¬ (opens ≤ start ∧ start + 3 ≤ closes) := by omega
      constructor
      · rw [callsFrom, writtenBytes_append, noBytes,
          writtenBytes_commandCalls, if_neg first, if_neg second, if_neg third]
        rfl
      · rw [commandsWithin, if_neg outside, noCommands]

/-- A waiting dongle performs the commands that fall into the window. -/
theorem hidCalls_window (window : ConnectedWithin service opens closes)
    {commands : List Command} (clean : ∀ command ∈ commands, command.Clean)
    (start : Nat) {dongle : Dongle}
    (waiting : dongle.currentState = waitForStart) :
    hidCalls .unsigned dongle
        (writtenBytes (callsFrom service start commands)) =
      (commandsWithin opens closes start commands).map Command.action := by
  induction commands generalizing start dongle with
  | nil => rfl
  | cons command commands ih =>
      rw [List.forall_mem_cons] at clean
      rw [callsFrom, writtenBytes_append, hidCalls_append, commandsWithin]
      by_cases finished : start + 3 ≤ closes
      · obtain ⟨whole, strays⟩ :=
          writtenBytes_finished window finished clean.1
        by_cases isOpen : opens ≤ start
        · -- the frame is whole, and the dongle waits again after it
          obtain ⟨performed, waits⟩ := Command.run_frame clean.1 dongle
          rw [if_pos ⟨isOpen, finished⟩, whole isOpen, List.map_cons, hidCalls,
            performed, ih clean.2 (start + 3) waits]
          simp [command.action_isHid]
        · -- the frame has lost its beginning and is reported byte by byte
          have free := strays (by omega)
          rw [if_neg (fun both => isOpen both.1), hidCalls_waiting waiting free,
            (run_waiting waiting free).2, List.nil_append]
          exact ih clean.2 (start + 3) waiting
      · -- the window closes within the frame
        obtain ⟨noBytes, noCommands⟩ :=
          writtenBytes_callsFrom_of_closed window
            (show closes ≤ start + 3 by omega) commands
        rw [if_neg (fun both => finished both.2), noBytes, noCommands,
          hidCalls_unfinished window (by omega) command waiting]
        rfl

/-- Connecting or disconnecting in the middle of a frame produces no wrong
action: the dongle performs the commands whose three writes fall into the
connection, and is ready for whatever frames come later. -/
theorem connection_performs_whole_commands
    (window : ConnectedWithin service opens closes)
    {commands : List Command} (clean : ∀ command ∈ commands, command.Clean)
    (dispatcher : Dispatcher) (mouseX mouseY : Int) :
    ∃ written,
      (issueAll service dispatcher commands).wire =
          dispatcher.wire ++ written ∧
        hidCalls .unsigned ⟨waitForStart, mouseX, mouseY⟩ written =
          (commandsWithin opens closes dispatcher.calls.length commands).map
            Command.action ∧
        ∀ later : List Command, (∀ command ∈ later, command.Clean) →
          outputsOf .unsigned
              (stateAfter .unsigned ⟨waitForStart, mouseX, mouseY⟩ written)
              (later.flatMap Command.frame) =
            later.map Command.action := by
  refine ⟨_, issueAll_wire_eq dispatcher commands, ?_, ?_⟩
  · exact hidCalls_window window clean dispatcher.calls.length rfl
  · intro later laterClean
    exact (Command.run_frames laterClean _).1

/-- The service connects between the delimiter and the letter of a first key
and disconnects before the payload of a third one. -/
theorem connection_performs_second_key :
    ∃ written,
      (issueAll (fun n => if 1 ≤ n ∧ n < 8 then
            ⟨.stateConnected, .stateConnected⟩ else ⟨.stateNone, .stateNone⟩)
          Dispatcher.initial [.key 75#8, .key 98#8, .key 99#8]).wire =
          Dispatcher.initial.wire ++ written ∧
        hidCalls .unsigned ⟨waitForStart, 0, 0⟩ written =
          (commandsWithin 1 8 Dispatcher.initial.calls.length
            [.key 75#8, .key 98#8, .key 99#8]).map Command.action ∧
        ∀ later : List Command, (∀ command ∈ later, command.Clean) →
          outputsOf .unsigned
              (stateAfter .unsigned ⟨waitForStart, 0, 0⟩ written)
              (later.flatMap Command.frame) =
            later.map Command.action := by
  apply connection_performs_whole_commands
  · intro n
    by_cases inside : 1 ≤ n ∧ n < 8
    · simp only [inside]
      decide
    · simp only [inside, if_false]
      decide
  · simp [Command.Clean, Command.payload, delimiter]

end Window

end MightyMouse
