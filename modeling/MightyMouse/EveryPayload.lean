import MightyMouse.WireRoundTrip

/-!
# Commands with any payload

The framing does not escape the delimiter.  A payload byte 255 makes the dongle
start over, and the bytes after it are read as a letter and its payload.  This
file computes what is performed of a command with an arbitrary payload, and
shows that the commands are performed as issued only if none of them contains
the delimiter.
-/

namespace MightyMouse

open SerialProtocol

namespace Command

/-- What the dongle performs of a command.  In a movement whose first byte is
the delimiter, the second byte is taken for a letter. -/
def effect : Command → List Output
  | .key k => if k = delimiter then [] else [.keyboardPrint k]
  | .click c => if c = delimiter then [] else [.mouseClick]
  | .move x y s =>
      if y = delimiter ∨ s = delimiter then []
      else if x = delimiter then
        if y = keyLetter then [.keyboardPrint s]
        else if y = clickLetter then [.mouseClick]
        else []
      else [.mouseMove x y s]

section Frames

/-- A segment that another delimiter follows. -/
theorem hidCalls_segment_append (dongle : Dongle) {segment : List Byte}
    (free : delimiter ∉ segment) (rest : List Byte) :
    hidCalls .unsigned dongle (delimiter :: (segment ++ rest)) =
      (segmentOutputs segment).filter Output.isHid ++
        hidCalls .unsigned
          (stateAfter .unsigned dongle (delimiter :: segment)) rest := by
  rw [← List.cons_append, hidCalls_append, hidCalls_delimited dongle free]

/-- An incomplete segment performs nothing. -/
theorem hidCalls_incomplete_append (dongle : Dongle) {segment : List Byte}
    (free : delimiter ∉ segment) (incomplete : ¬ CompletesCommand segment)
    (rest : List Byte) :
    hidCalls .unsigned dongle (delimiter :: (segment ++ rest)) =
      hidCalls .unsigned
        (stateAfter .unsigned dongle (delimiter :: segment)) rest := by
  rw [hidCalls_segment_append dongle free, hid_eq_nil_of_incomplete incomplete,
    List.nil_append]

/-- No command fits into one byte after a delimiter. -/
theorem hidCalls_single (dongle : Dongle) (byte : Byte) :
    hidCalls .unsigned dongle [delimiter, byte] = [] := by
  by_cases again : byte = delimiter
  · subst again
    simp [hidCalls, outputsOf_cons]
  · have free : delimiter ∉ [byte] := by simpa [eq_comm] using again
    rw [hidCalls_delimited dongle free, hid_eq_nil_of_incomplete]
    exact not_completesCommand_of_short le_rfl

/-- The last two bytes of a movement that begins with the delimiter. -/
theorem hidCalls_pair (dongle : Dongle) (y s : Byte) :
    hidCalls .unsigned dongle [delimiter, y, s] =
      effect (.move delimiter y s) := by
  by_cases yIs : y = delimiter
  · subst yIs
    have first := hidCalls_incomplete_append dongle List.not_mem_nil
      (not_completesCommand_of_short (Nat.zero_le 1)) [delimiter, s]
    simp only [List.nil_append] at first
    rw [first, hidCalls_single]
    simp [effect]
  have yFree : delimiter ∉ [y] := by simpa [eq_comm] using yIs
  by_cases sIs : s = delimiter
  · subst sIs
    have first := hidCalls_incomplete_append dongle yFree
      (not_completesCommand_of_short le_rfl) [delimiter]
    simp only [List.cons_append, List.nil_append] at first
    rw [first]
    simp [hidCalls, outputsOf_cons, effect]
  · have free : delimiter ∉ [y, s] := by
      simpa [eq_comm] using And.intro yIs sIs
    rw [hidCalls_delimited dongle free]
    simp only [segmentOutputs, effect, yIs, sIs, or_self, if_false, if_true]
    split_ifs <;> simp [strayErrors, Output.isHid]

/-- In a movement, fewer than three bytes before a delimiter are lost. -/
theorem hidCalls_cut_move (dongle : Dongle) {early : List Byte}
    (free : delimiter ∉ early) (short : early.length ≤ 2) (rest : List Byte) :
    hidCalls .unsigned dongle
        (delimiter :: mouseLetter :: (early ++ rest)) =
      hidCalls .unsigned (stateAfter .unsigned dongle
        (delimiter :: mouseLetter :: early)) rest := by
  have letterFree : delimiter ∉ mouseLetter :: early := by
    rw [List.mem_cons, not_or]
    exact ⟨by decide, free⟩
  have incomplete : ¬ CompletesCommand (mouseLetter :: early) := by
    have notKey : mouseLetter ≠ keyLetter := by decide
    have notClick : mouseLetter ≠ clickLetter := by decide
    simp only [CompletesCommand, notKey, notClick, false_and, false_or,
      true_and]
    omega
  exact hidCalls_incomplete_append dongle letterFree incomplete rest

/-- From every state, the frame of a command has the effect of the command. -/
theorem hidCalls_frame (command : Command) (dongle : Dongle) :
    hidCalls .unsigned dongle command.frame = command.effect := by
  by_cases clean : command.Clean
  · rw [hidCalls, (run_frame clean dongle).1,
      List.filter_cons_of_pos command.action_isHid, List.filter_nil]
    cases command <;>
      simp_all [Clean, payload, action, effect, eq_comm]
  have dirty : delimiter ∈ command.payload := not_not.mp clean
  cases command with
  | key k =>
      obtain rfl : delimiter = k := by simpa [payload] using dirty
      rfl
  | click c =>
      obtain rfl : delimiter = c := by simpa [payload] using dirty
      rfl
  | move x y s =>
      -- the first delimiter among the three bytes cuts the movement
      by_cases xIs : x = delimiter
      · subst xIs
        exact (hidCalls_cut_move dongle List.not_mem_nil (Nat.zero_le 2)
          [delimiter, y, s]).trans (hidCalls_pair _ y s)
      have xFree : delimiter ∉ [x] := by simpa [eq_comm] using xIs
      by_cases yIs : y = delimiter
      · subst yIs
        rw [effect, if_pos (Or.inl rfl)]
        exact (hidCalls_cut_move dongle xFree (Nat.le_succ 1)
          [delimiter, s]).trans (hidCalls_single _ s)
      have free : delimiter ∉ [x, y] := by
        simpa [eq_comm] using And.intro xIs yIs
      obtain rfl : delimiter = s := by
        simpa [payload, eq_comm, xIs, yIs] using dirty
      rw [effect, if_pos (Or.inr rfl)]
      exact (hidCalls_cut_move dongle free le_rfl [delimiter]).trans rfl

/-- Whatever the payloads are, the frames act one by one. -/
theorem hidCalls_any_frames (commands : List Command) (dongle : Dongle) :
    hidCalls .unsigned dongle (commands.flatMap frame) =
      commands.flatMap effect := by
  induction commands generalizing dongle with
  | nil => rfl
  | cons command commands ih =>
      rw [List.flatMap_cons, List.flatMap_cons, hidCalls_append,
        hidCalls_frame, ih]

end Frames

section Faithful

theorem effect_length_le (command : Command) : command.effect.length ≤ 1 := by
  cases command <;> simp only [effect] <;> split_ifs <;> simp

/-- A command has its own action as effect exactly if its payload does not
contain the delimiter. -/
theorem effect_eq_action_iff (command : Command) :
    command.effect = [command.action] ↔ command.Clean := by
  cases command with
  | key k => simp [effect, action, Clean, payload, eq_comm]
  | click c => simp [effect, action, Clean, payload, eq_comm]
  | move x y s =>
      simp only [effect, action, Clean, payload, List.mem_cons,
        List.not_mem_nil, or_false, not_or]
      by_cases later : y = delimiter ∨ s = delimiter
      · rw [if_pos later]
        constructor
        · intro same
          cases same
        · rintro ⟨_, yNe, sNe⟩
          rcases later with rfl | rfl
          · exact absurd rfl yNe
          · exact absurd rfl sNe
      rw [if_neg later]
      rw [not_or] at later
      by_cases first : x = delimiter
      · subst first
        simp only [if_true, not_true_eq_false, false_and, iff_false]
        split_ifs <;> simp
      · simp [first, later, eq_comm]

theorem length_flatMap_le {Item Result : Type} {parts : Item → List Result}
    (short : ∀ item, (parts item).length ≤ 1) (items : List Item) :
    (items.flatMap parts).length ≤ items.length := by
  induction items with
  | nil => simp
  | cons item items ih =>
      have one := short item
      rw [List.flatMap_cons, List.length_append, List.length_cons]
      omega

/-- If none of the lists is longer than one, together they can only make up a
list of single entries by each being one. -/
theorem flatMap_eq_map_iff {Item Result : Type} {parts : Item → List Result}
    {whole : Item → Result} (short : ∀ item, (parts item).length ≤ 1)
    (items : List Item) :
    items.flatMap parts = items.map whole ↔
      ∀ item ∈ items, parts item = [whole item] := by
  induction items with
  | nil => simp
  | cons item items ih =>
      rw [List.flatMap_cons, List.map_cons, List.forall_mem_cons]
      constructor
      · intro same
        have count := congrArg List.length same
        have rest := length_flatMap_le short items
        have one := short item
        rw [List.length_append, List.length_cons, List.length_map] at count
        have single : (parts item).length = 1 := by omega
        obtain ⟨result, here⟩ := List.length_eq_one_iff.mp single
        rw [here, List.singleton_append, List.cons.injEq] at same
        exact ⟨by rw [here, same.1], ih.mp same.2⟩
      · rintro ⟨here, rest⟩
        rw [here, ih.mpr rest]
        rfl

end Faithful

end Command

namespace DispatcherSingleton

variable {service : Service}

/-- What one thread issues while the service stays connected, with any
payloads: each command has its effect, and the dongle performs exactly what
was issued if and only if no payload contains the delimiter. -/
theorem performed_as_issued_iff_clean (commands : List Command)
    {dispatcher : Dispatcher}
    (connected : ∀ n, dispatcher.calls.length ≤ n →
      (service n).connected = true) (dongle : Dongle) :
    ∃ written,
      (issueAll service dispatcher commands).wire =
          dispatcher.wire ++ written ∧
        hidCalls .unsigned dongle written = commands.flatMap Command.effect ∧
        (hidCalls .unsigned dongle written = commands.map Command.action ↔
          ∀ command ∈ commands, command.Clean) := by
  refine ⟨commands.flatMap Command.frame, issueAll_wire connected commands,
    Command.hidCalls_any_frames commands dongle, ?_⟩
  rw [Command.hidCalls_any_frames,
    Command.flatMap_eq_map_iff Command.effect_length_le]
  exact forall₂_congr fun command _ => command.effect_eq_action_iff

/-- A movement by -1 and 67 clicks. -/
theorem performed_as_issued_iff_clean_left_down :
    ∃ written,
      (issueAll alwaysConnected Dispatcher.initial
          [.move 0xFF#8 67#8 0#8]).wire = Dispatcher.initial.wire ++ written ∧
        hidCalls .unsigned Dongle.initial written =
          [.move 0xFF#8 67#8 0#8].flatMap Command.effect ∧
        (hidCalls .unsigned Dongle.initial written =
            [.move 0xFF#8 67#8 0#8].map Command.action ↔
          ∀ command ∈ [Command.move 0xFF#8 67#8 0#8], command.Clean) :=
  performed_as_issued_iff_clean _ (fun _ _ => rfl) _

end DispatcherSingleton

end MightyMouse
