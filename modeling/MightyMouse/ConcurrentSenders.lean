import MightyMouse.OrderedMerge
import MightyMouse.WireRoundTrip

/-!
# Several threads on one link

The UI thread, the mouse sender and the file task share the dispatcher without
a lock around the three writes of a frame.  This file shows that the dongle
performs a merge of what the threads have issued exactly when no thread writes
inside another thread's frame: a frame that is broken into is always lost.
-/

namespace MightyMouse

open SerialProtocol OrderedMerge
open DispatcherSingleton hiding delimiter

/-- The threads that issue commands. -/
inductive Sender
  | ui
  | mouseSender
  | sendFileTask
  deriving DecidableEq, Repr

instance : Fintype Sender where
  elems := {.ui, .mouseSender, .sendFileTask}
  complete := by
    intro sender
    cases sender <;> simp

/-- The writes that a thread makes for its commands through a connected
dispatcher, one for each call of `sendByte`. -/
def threadWrites (commands : List Command) : List (List Byte) :=
  (issueAll alwaysConnected Dispatcher.initial commands).calls.map
    SendByteCall.toSend

theorem issueAll_toSend {service : Service} (dispatcher : Dispatcher)
    (commands : List Command) :
    (issueAll service dispatcher commands).calls.map SendByteCall.toSend =
      dispatcher.calls.map SendByteCall.toSend ++
        commands.flatMap Command.writes := by
  induction commands generalizing dispatcher with
  | nil => simp [issueAll]
  | cons command commands ih =>
      change (issueAll service (issue service dispatcher command)
        commands).calls.map SendByteCall.toSend = _
      rw [ih, issue_calls, List.map_append, List.flatMap_cons,
        List.append_assoc]
      rfl

theorem threadWrites_eq (commands : List Command) :
    threadWrites commands = commands.flatMap Command.writes := by
  simp [threadWrites, issueAll_toSend, Dispatcher.initial]

/-- A schedule of the writes of all threads. -/
abbrev Schedule := List (Sender × List Byte)

/-- The bytes that the link carries, in order. -/
def Schedule.bytes (schedule : Schedule) : List Byte :=
  schedule.flatMap Prod.snd

/-- The total number of commands. -/
def commandCount (programs : Sender → List Command) : Nat :=
  ∑ sender, (programs sender).length

theorem length_of_isMerge {programs : Sender → List Command}
    {merged : List (Sender × Command)} (merges : IsMerge merged programs) :
    merged.length = commandCount programs := by
  have counted := sum_map_eq_sum_parts (fun _ => 1) merges
  simpa [commandCount] using counted

theorem count_delimiter_frame {command : Command} (clean : command.Clean) :
    command.frame.count delimiter = 1 := by
  have letterNe := command.letter_ne_delimiter
  rw [Command.frame, List.count_cons_self, List.count_cons_of_ne letterNe,
    List.count_eq_zero_of_not_mem clean]

theorem count_delimiter_frames {commands : List Command}
    (clean : ∀ command ∈ commands, command.Clean) :
    (commands.flatMap Command.frame).count delimiter = commands.length := by
  induction commands with
  | nil => rfl
  | cons command commands ih =>
      rw [List.flatMap_cons, List.count_append,
        count_delimiter_frame (clean command (by simp)),
        ih fun other member => clean other (by simp [member]),
        List.length_cons, Nat.add_comm]

theorem flatten_writes (commands : List Command) :
    (commands.flatMap Command.writes).flatten =
      commands.flatMap Command.frame := by
  induction commands with
  | nil => rfl
  | cons command commands ih =>
      rw [List.flatMap_cons, List.flatten_append, Command.writes_flatten, ih,
        List.flatMap_cons]

variable {programs : Sender → List Command} {schedule : Schedule}

/-- The link carries one delimiter for each command. -/
theorem count_delimiter_bytes
    (clean : ∀ sender, ∀ command ∈ programs sender, command.Clean)
    (merges : IsMerge schedule fun sender => threadWrites (programs sender)) :
    schedule.bytes.count delimiter = commandCount programs := by
  have counted := sum_map_eq_sum_parts (fun write => write.count delimiter)
    merges
  have part (sender : Sender) :
      ((threadWrites (programs sender)).map fun write =>
        write.count delimiter).sum = (programs sender).length := by
    rw [threadWrites_eq, ← count_delimiter_frames (clean sender),
      ← flatten_writes, List.count_flatten]
  simp only [part] at counted
  rw [Schedule.bytes, List.count_flatMap]
  exact counted

theorem bytes_append (first second : Schedule) :
    Schedule.bytes (first ++ second) = first.bytes ++ second.bytes :=
  List.flatMap_append

theorem bytes_tagged (sender : Sender) (writes : List (List Byte)) :
    Schedule.bytes (tagged sender writes) = writes.flatten := by
  induction writes with
  | nil => rfl
  | cons write writes ih =>
      change write ++ Schedule.bytes (tagged sender writes) = _
      rw [ih, List.flatten_cons]

theorem bytes_blocks (merged : List (Sender × Command)) :
    Schedule.bytes (blocks Command.writes merged) =
      (merged.map Prod.snd).flatMap Command.frame := by
  induction merged with
  | nil => rfl
  | cons entry merged ih =>
      change Schedule.bytes (tagged entry.1 entry.2.writes ++
        blocks Command.writes merged) = _
      rw [bytes_append, bytes_tagged, Command.writes_flatten, ih,
        List.map_cons, List.flatMap_cons]

/-- The entries of a merge of clean programs are clean. -/
theorem clean_of_isMerge
    (clean : ∀ sender, ∀ command ∈ programs sender, command.Clean)
    {merged : List (Sender × Command)} (merges : IsMerge merged programs) :
    ∀ command ∈ merged.map Prod.snd, command.Clean := by
  intro command member
  obtain ⟨⟨sender, _⟩, inMerged, rfl⟩ := List.mem_map.mp member
  apply clean sender
  rw [← merges sender]
  exact mem_project inMerged

/-- Whole frames perform no more calls than they have delimiters. -/
theorem hidCalls_frames_length_le (commands : List Command)
    (dongle : Dongle) :
    (hidCalls .unsigned dongle (commands.flatMap Command.frame)).length ≤
      (commands.flatMap Command.frame).count delimiter := by
  cases commands with
  | nil => simp [hidCalls]
  | cons command commands =>
      rw [List.flatMap_cons, Command.frame, List.cons_append]
      exact hidCalls_length_le_count dongle _

/-- The beginning of a frame, without its payload, performs nothing. -/
theorem hidCalls_begun {command : Command} {before after : List (List Byte)}
    (splits : command.writes = before ++ after) (begun : before ≠ [])
    (unfinished : after ≠ []) (dongle : Dongle) :
    hidCalls .unsigned dongle before.flatten = [] ∧
      1 ≤ before.flatten.count delimiter := by
  have cases : before = [[delimiter]] ∨
      before = [[delimiter], [command.letter]] := by
    match before, begun with
    | [first], _ =>
        simp [Command.writes] at splits
        exact Or.inl (by rw [splits.1])
    | [first, second], _ =>
        simp [Command.writes] at splits
        exact Or.inr (by rw [splits.1, splits.2.1])
    | first :: second :: third :: more, _ =>
        simp [Command.writes, unfinished] at splits
  have performsNothing {segment : List Byte} (free : delimiter ∉ segment)
      (short : segment.length ≤ 1) :
      hidCalls .unsigned dongle (delimiter :: segment) = [] := by
    rw [hidCalls_delimited dongle free]
    exact hid_eq_nil_of_incomplete (not_completesCommand_of_short short)
  rcases cases with rfl | rfl
  · exact ⟨performsNothing (by simp) (by simp), by simp⟩
  · have free : delimiter ∉ [command.letter] := by
      simpa using Ne.symm command.letter_ne_delimiter
    exact ⟨performsNothing free (by simp), by simp⟩

/-- A frame that is broken into is lost, and no other call makes up for it. -/
theorem hidCalls_length_lt_of_cut (cut : Cut Command.writes schedule)
    (dongle : Dongle) :
    (hidCalls .unsigned dongle schedule.bytes).length <
      schedule.bytes.count delimiter := by
  have event : cut.event = [delimiter] := by
    have intrudes := cut.intrudes
    simp only [Command.writes, List.cons.injEq] at intrudes
    exact intrudes.1.symm
  have bytes : schedule.bytes =
      (cut.whole.map Prod.snd).flatMap Command.frame ++
        (cut.before.flatten ++ delimiter :: Schedule.bytes cut.rest) := by
    conv_lhs => rw [cut.splits]
    rw [bytes_append, bytes_append, bytes_blocks, bytes_tagged,
      List.append_assoc]
    change _ ++ (_ ++ (cut.event ++ Schedule.bytes cut.rest)) = _
    rw [event]
    rfl
  have whole := hidCalls_frames_length_le (cut.whole.map Prod.snd) dongle
  obtain ⟨lost, begun⟩ := hidCalls_begun cut.expands cut.begun cut.unfinished
    (stateAfter .unsigned dongle
      ((cut.whole.map Prod.snd).flatMap Command.frame))
  rw [bytes, hidCalls_append, hidCalls_append, lost, List.nil_append,
    List.length_append, List.count_append, List.count_append]
  have rest := hidCalls_length_le_count
    (stateAfter .unsigned (stateAfter .unsigned dongle
      ((cut.whole.map Prod.snd).flatMap Command.frame)) cut.before.flatten)
    (Schedule.bytes cut.rest)
  omega

/-- The dongle performs an order-preserving merge of the threads' commands
exactly if no thread writes inside the frame of another. -/
theorem performs_merge_iff_frames_whole
    (clean : ∀ sender, ∀ command ∈ programs sender, command.Clean)
    (merges : IsMerge schedule fun sender => threadWrites (programs sender))
    (mouseX mouseY : Int) :
    (∃ merged, IsMerge merged programs ∧
        hidCalls .unsigned ⟨waitForStart, mouseX, mouseY⟩ schedule.bytes =
          merged.map fun entry => entry.2.action) ↔
      ∃ merged, IsMerge merged programs ∧
        schedule = blocks Command.writes merged := by
  constructor
  · rintro ⟨performed, isMerge, actions⟩
    have asWrites : IsMerge schedule fun sender =>
        (programs sender).flatMap Command.writes := by
      simpa only [threadWrites_eq] using merges
    rcases blocks_or_cut (by simp [Command.writes]) asWrites with whole | ⟨⟨cut⟩⟩
    · exact whole
    · have fewer := hidCalls_length_lt_of_cut cut
        ⟨waitForStart, mouseX, mouseY⟩
      rw [actions, List.length_map, length_of_isMerge isMerge,
        count_delimiter_bytes clean merges] at fewer
      exact absurd fewer (lt_irrefl _)
  · rintro ⟨merged, isMerge, rfl⟩
    refine ⟨merged, isMerge, ?_⟩
    rw [bytes_blocks,
      Command.hidCalls_frames (clean_of_isMerge clean isMerge), List.map_map]
    rfl

/-- The user types `a` while a movement by (3, 4) is being sent.  The two
commands go through different payload arrays. -/
def typingWhileMoving : Sender → List Command
  | .ui => [.key 97#8]
  | .mouseSender => [.move 3#8 4#8 0#8]
  | .sendFileTask => []

/-- One frame after the other is performed as issued. -/
theorem typingWhileMoving_in_turn :
    ∃ merged, IsMerge merged typingWhileMoving ∧
      hidCalls .unsigned ⟨waitForStart, 0, 0⟩
          (Schedule.bytes [(.ui, [delimiter]), (.ui, [keyLetter]),
            (.ui, [97#8]), (.mouseSender, [delimiter]),
            (.mouseSender, [mouseLetter]),
            (.mouseSender, [3#8, 4#8, 0#8])]) =
        merged.map fun entry => entry.2.action := by
  refine (performs_merge_iff_frames_whole ?_ ?_ 0 0).mpr
    ⟨[(.ui, .key 97#8), (.mouseSender, .move 3#8 4#8 0#8)], ?_, rfl⟩
  · intro sender
    cases sender <;> simp [typingWhileMoving, Command.Clean, Command.payload,
      delimiter]
  · intro sender
    cases sender <;> rfl
  · intro sender
    cases sender <;> rfl

/-- The writes of the two threads in alternation. -/
def alternating : Schedule :=
  [(.ui, [delimiter]), (.mouseSender, [delimiter]), (.ui, [keyLetter]),
    (.mouseSender, [mouseLetter]), (.ui, [97#8]),
    (.mouseSender, [3#8, 4#8, 0#8])]

/-- Two frames that are spliced write by write lose the key and the movement,
and type an `M` that nobody has asked for. -/
theorem typingWhileMoving_spliced :
    IsMerge alternating
      (fun sender => threadWrites (typingWhileMoving sender)) ∧
    (∀ sender, ∀ command ∈ typingWhileMoving sender, command.Clean) ∧
    hidCalls .unsigned Dongle.initial alternating.bytes =
      [.keyboardPrint mouseLetter] ∧
    ¬ ∃ merged, IsMerge merged typingWhileMoving ∧
      hidCalls .unsigned Dongle.initial alternating.bytes =
        merged.map fun entry => entry.2.action := by
  have typed : hidCalls .unsigned Dongle.initial alternating.bytes =
      [.keyboardPrint mouseLetter] := by
    decide
  refine ⟨?_, ?_, typed, ?_⟩
  · intro sender
    cases sender <;> rfl
  · intro sender
    cases sender <;> simp [typingWhileMoving, Command.Clean, Command.payload,
      delimiter]
  · rintro ⟨merged, isMerge, actions⟩
    rw [typed] at actions
    have two := length_of_isMerge isMerge
    have one := congrArg List.length actions
    rw [List.length_map, two] at one
    exact absurd one (by decide)

end MightyMouse
