import MightyMouse.SerialProtocol

/-!
# The grammar accepted by the dongle

With plain `char` read as unsigned, the dongle restarts on every `0xFF` and
answers the bytes up to the next `0xFF` as one segment.  This file computes
the answer to a segment, proves that the whole output of the sketch is the
concatenation of these answers, and compares the two readings of `char`.
-/

namespace MightyMouse

namespace SerialProtocol

/-- One location-0 report for each byte that arrives outside a command. -/
def strayErrors (bytes : List Byte) : List Output :=
  bytes.map fun stray => .error waitForStart 0 stray.toNat

/-- The answer to one segment: the bytes read after a `START_BYTE` and
before the next one. -/
def segmentOutputs : List Byte → List Output
  | [] => []
  | kind :: payload =>
      if kind = keyLetter then
        match payload with
        | [] => []
        | inChar :: strays => .keyboardPrint inChar :: strayErrors strays
      else if kind = clickLetter then
        match payload with
        | [] => []
        | _ :: strays => .mouseClick :: strayErrors strays
      else if kind = mouseLetter then
        match payload with
        | x :: y :: wheel :: strays => .mouseMove x y wheel :: strayErrors strays
        | _ => []
      else .error started 5 kind.toNat :: strayErrors payload

section Steps

variable {dongle : Dongle} {inChar : Byte}

@[simp]
theorem onByte_delimiter (dongle : Dongle) :
    onByte .unsigned dongle delimiter =
      ({ dongle with currentState := started }, []) := by
  simp [onByte, loop, unsigned_eq_startByte_iff]

theorem not_startByte (notDelimiter : inChar ≠ delimiter) :
    ¬ CharReading.unsigned.toInt inChar = startByte :=
  (unsigned_eq_startByte_iff inChar).not.mpr notDelimiter

theorem onByte_waiting (atState : dongle.currentState = waitForStart)
    (notDelimiter : inChar ≠ delimiter) :
    onByte .unsigned dongle inChar =
      (dongle, [.error waitForStart 0 inChar.toNat]) := by
  simp only [onByte, loop, not_startByte notDelimiter, if_false, atState,
    if_true, printError]
  rw [← atState]
  rfl

theorem onByte_started (atState : dongle.currentState = started)
    (notDelimiter : inChar ≠ delimiter) :
    onByte .unsigned dongle inChar =
      if inChar = clickLetter then
        ({ dongle with currentState := clickGet0 }, [])
      else if inChar = keyLetter then
        ({ dongle with currentState := keyGet0 }, [])
      else if inChar = mouseLetter then
        ({ dongle with currentState := mouseGet0 }, [])
      else ({ dongle with currentState := waitForStart },
        [.error started 5 inChar.toNat]) := by
  have click := unsigned_eq_letter_iff inChar clickLetter
  have key := unsigned_eq_letter_iff inChar keyLetter
  have mouse := unsigned_eq_letter_iff inChar mouseLetter
  change _ = clickBegin ↔ _ at click
  change _ = keyBegin ↔ _ at key
  change _ = mouseBegin ↔ _ at mouse
  have notWaiting : ¬ started = waitForStart := by decide
  simp only [onByte, loop, not_startByte notDelimiter, if_false, atState,
    notWaiting, if_true, setCommandType, click, key, mouse, printError]
  rfl

theorem onByte_clickGet0 (atState : dongle.currentState = clickGet0)
    (notDelimiter : inChar ≠ delimiter) :
    onByte .unsigned dongle inChar =
      ({ dongle with currentState := waitForStart }, [.mouseClick]) := by
  simp [onByte, loop, not_startByte notDelimiter, atState, waitForStart,
    started, clickGet0]

theorem onByte_keyGet0 (atState : dongle.currentState = keyGet0)
    (notDelimiter : inChar ≠ delimiter) :
    onByte .unsigned dongle inChar =
      ({ dongle with currentState := waitForStart },
        [.keyboardPrint inChar]) := by
  simp [onByte, loop, not_startByte notDelimiter, atState, waitForStart,
    started, clickGet0, keyGet0]

theorem onByte_mouseGet0 (atState : dongle.currentState = mouseGet0)
    (notDelimiter : inChar ≠ delimiter) :
    onByte .unsigned dongle inChar =
      ({ dongle with mouseX := inChar.toNat, currentState := mouseGet1 },
        []) := by
  simp [onByte, loop, not_startByte notDelimiter, atState, waitForStart,
    started, clickGet0, keyGet0, mouseGet0]
  rfl

theorem onByte_mouseGet1 (atState : dongle.currentState = mouseGet1)
    (notDelimiter : inChar ≠ delimiter) :
    onByte .unsigned dongle inChar =
      ({ dongle with mouseY := inChar.toNat, currentState := mouseGet2 },
        []) := by
  simp [onByte, loop, not_startByte notDelimiter, atState, waitForStart,
    started, clickGet0, keyGet0, mouseGet0, mouseGet1]
  rfl

theorem onByte_mouseGet2 (atState : dongle.currentState = mouseGet2)
    (notDelimiter : inChar ≠ delimiter) :
    onByte .unsigned dongle inChar =
      (Dongle.initial,
        [mouseMoveCall dongle.mouseX dongle.mouseY inChar.toNat]) := by
  simp [onByte, loop, not_startByte notDelimiter, atState, waitForStart,
    started, clickGet0, keyGet0, mouseGet0, mouseGet1, mouseGet2,
    Dongle.initial]
  rfl

end Steps

/-- Outside a command every byte but the delimiter is reported and the dongle
keeps waiting. -/
theorem run_waiting {dongle : Dongle}
    (atState : dongle.currentState = waitForStart)
    {bytes : List Byte} (free : delimiter ∉ bytes) :
    outputsOf .unsigned dongle bytes = strayErrors bytes ∧
      stateAfter .unsigned dongle bytes = dongle := by
  induction bytes with
  | nil => exact ⟨rfl, rfl⟩
  | cons inChar bytes ih =>
      have notDelimiter : inChar ≠ delimiter := by
        rintro rfl
        exact free (by simp)
      obtain ⟨restOutputs, restState⟩ :=
        ih (fun member => free (by simp [member]))
      rw [outputsOf_cons, stateAfter_cons,
        onByte_waiting atState notDelimiter, restOutputs]
      exact ⟨rfl, restState⟩

/-- A complete mouse payload is moved as received, whatever `mouseX` and
`mouseY` an abandoned command has left behind. -/
theorem run_mousePayload {dongle : Dongle}
    (atState : dongle.currentState = mouseGet0)
    {x y wheel : Byte} (xNe : x ≠ delimiter) (yNe : y ≠ delimiter)
    (wheelNe : wheel ≠ delimiter) :
    outputsOf .unsigned dongle [x, y, wheel] = [.mouseMove x y wheel] ∧
      stateAfter .unsigned dongle [x, y, wheel] = Dongle.initial := by
  simp only [outputsOf_cons, stateAfter_cons, outputsOf_nil, stateAfter_nil]
  rw [onByte_mouseGet0 atState xNe, onByte_mouseGet1 rfl yNe,
    onByte_mouseGet2 rfl wheelNe]
  simp [mouseMoveCall]

/-- The answer to a delimiter-free segment does not depend on the stored
mouse coordinates. -/
theorem outputsOf_segment {dongle : Dongle}
    (atState : dongle.currentState = started)
    {segment : List Byte} (free : delimiter ∉ segment) :
    outputsOf .unsigned dongle segment = segmentOutputs segment := by
  cases segment with
  | nil => rfl
  | cons kind payload =>
      have kindNe : kind ≠ delimiter := by
        rintro rfl
        exact free (by simp)
      have payloadFree : delimiter ∉ payload := fun member =>
        free (by simp [member])
      rw [outputsOf_cons, onByte_started atState kindNe]
      by_cases isClick : kind = clickLetter
      · have notKey : clickLetter ≠ keyLetter := by decide
        subst kind
        cases payload with
        | nil => simp [segmentOutputs, notKey]
        | cons button strays =>
            have buttonNe : button ≠ delimiter := by
              rintro rfl
              exact payloadFree (by simp)
            simp only [if_true, segmentOutputs, notKey, if_false,
              List.nil_append]
            rw [outputsOf_cons, onByte_clickGet0 rfl buttonNe,
              (run_waiting rfl (fun member =>
                payloadFree (by simp [member]))).1]
            rfl
      by_cases isKey : kind = keyLetter
      · subst kind
        cases payload with
        | nil => simp [segmentOutputs, isClick]
        | cons inChar strays =>
            have inCharNe : inChar ≠ delimiter := by
              rintro rfl
              exact payloadFree (by simp)
            simp only [if_true, segmentOutputs, isClick, if_false,
              List.nil_append]
            rw [outputsOf_cons, onByte_keyGet0 rfl inCharNe,
              (run_waiting rfl (fun member =>
                payloadFree (by simp [member]))).1]
            rfl
      by_cases isMouse : kind = mouseLetter
      · subst kind
        simp only [isClick, isKey, if_false, if_true, List.nil_append,
          segmentOutputs]
        match payload, payloadFree with
        | [], _ => rfl
        | [x], free =>
            rw [outputsOf_cons, onByte_mouseGet0 rfl (by grind)]
            rfl
        | [x, y], free =>
            rw [outputsOf_cons, onByte_mouseGet0 rfl (by grind),
              outputsOf_cons, onByte_mouseGet1 rfl (by grind)]
            rfl
        | x :: y :: wheel :: strays, free =>
            have xNe : x ≠ delimiter := by grind
            have yNe : y ≠ delimiter := by grind
            have wheelNe : wheel ≠ delimiter := by grind
            obtain ⟨moved, reset⟩ := run_mousePayload
              (show { dongle with currentState := mouseGet0 }.currentState =
                mouseGet0 from rfl) xNe yNe wheelNe
            rw [show x :: y :: wheel :: strays =
              [x, y, wheel] ++ strays from rfl, outputsOf_append, moved,
              reset, (run_waiting rfl (by grind)).1]
            rfl
      · simp only [isClick, isKey, isMouse, if_false, segmentOutputs]
        rw [(run_waiting rfl payloadFree).1]
        rfl

/-- After a delimiter, whatever came before it, the dongle answers the
stream segment by segment. -/
theorem outputsOf_after_delimiter (dongle : Dongle) (earlier bytes : List Byte) :
    outputsOf .unsigned
        (stateAfter .unsigned dongle (earlier ++ [delimiter])) bytes =
      (bytes.splitOn delimiter).flatMap segmentOutputs := by
  apply Transducer.outputs_eq_flatMap_splitOn (onByte .unsigned)
    (fun dongle => dongle.currentState = started)
  · intro state
    rw [onByte_delimiter]
    exact ⟨rfl, rfl⟩
  · intro state segment atState free
    exact outputsOf_segment atState free
  · rw [stateAfter_append, stateAfter_cons, onByte_delimiter]
    rfl

/-- The whole answer of a waiting dongle: the bytes before the first
delimiter are strays, the rest is read in segments. -/
def streamOutputs (bytes : List Byte) : List Output :=
  strayErrors ((bytes.splitOn delimiter).headD []) ++
    (bytes.splitOn delimiter).tail.flatMap segmentOutputs

theorem outputsOf_waiting {dongle : Dongle}
    (atState : dongle.currentState = waitForStart) (bytes : List Byte) :
    outputsOf .unsigned dongle bytes = streamOutputs bytes := by
  by_cases appears : delimiter ∈ bytes
  · obtain ⟨leading, later, rfl, leadingFree⟩ :=
      List.eq_append_cons_of_mem appears
    have split := List.splitOn_append_cons_self_of_not_mem leadingFree later
    have restart := outputsOf_after_delimiter dongle leading later
    have joined : leading ++ delimiter :: later =
        (leading ++ [delimiter]) ++ later := by simp
    rw [streamOutputs, split, joined, outputsOf_append, restart,
      outputsOf_append, (run_waiting atState leadingFree).1]
    simp [outputsOf_cons]
  · rw [(run_waiting atState appears).1, streamOutputs,
      List.splitOn_eq_singleton appears]
    simp

/-- The `default` branch, error location 10, is named by no answer. -/
theorem error_ten_not_mem_segmentOutputs (state intVal : Int)
    (segment : List Byte) :
    Output.error state 10 intVal ∉ segmentOutputs segment := by
  have strays (bytes : List Byte) :
      Output.error state 10 intVal ∉ strayErrors bytes := by
    simp [strayErrors]
  cases segment with
  | nil => simp [segmentOutputs]
  | cons kind payload =>
      simp only [segmentOutputs]
      split
      · split <;> simp [strays]
      · split
        · split <;> simp [strays]
        · split
          · split <;> simp [strays]
          · simp [strays]

/-- The decoder accepts exactly its grammar.  After a `START_BYTE` the
outputs depend on the following bytes only and are those of their segments;
a waiting dongle reports every byte before the first `START_BYTE`; and the
`default` branch of the outer `switch` is never entered. -/
theorem loop_accepts_exactly_grammar :
    (∀ (dongle : Dongle) (earlier bytes : List Byte),
      outputsOf .unsigned
          (stateAfter .unsigned dongle (earlier ++ [delimiter])) bytes =
        (bytes.splitOn delimiter).flatMap segmentOutputs) ∧
    (∀ (mouseX mouseY : Int) (bytes : List Byte),
      outputsOf .unsigned ⟨waitForStart, mouseX, mouseY⟩ bytes =
        strayErrors ((bytes.splitOn delimiter).headD []) ++
          (bytes.splitOn delimiter).tail.flatMap segmentOutputs) ∧
    (∀ (mouseX mouseY state intVal : Int) (bytes : List Byte),
      Output.error state 10 intVal ∉
        outputsOf .unsigned ⟨waitForStart, mouseX, mouseY⟩ bytes) := by
  refine ⟨outputsOf_after_delimiter, ?_, ?_⟩
  · intro mouseX mouseY bytes
    exact outputsOf_waiting rfl bytes
  · intro mouseX mouseY state intVal bytes
    rw [outputsOf_waiting rfl, streamOutputs, List.mem_append,
      List.mem_flatMap]
    rintro (stray | ⟨segment, _, inSegment⟩)
    · simp [strayErrors] at stray
    · exact error_ten_not_mem_segmentOutputs state intVal segment inSegment

/-- The segment contains a whole command: its letter and enough payload. -/
def CompletesCommand : List Byte → Prop
  | [] => False
  | kind :: payload =>
      (kind = keyLetter ∧ 1 ≤ payload.length) ∨
        (kind = clickLetter ∧ 1 ≤ payload.length) ∨
        (kind = mouseLetter ∧ 3 ≤ payload.length)

theorem filter_isHid_strayErrors (bytes : List Byte) :
    (strayErrors bytes).filter Output.isHid = [] := by
  simp [strayErrors, Output.isHid]

theorem filter_isHid_call (call : Output) (isCall : call.isHid = true)
    (strays : List Byte) :
    (call :: strayErrors strays).filter Output.isHid = [call] := by
  rw [List.filter_cons_of_pos isCall, filter_isHid_strayErrors]

/-- A segment performs at most one HID call, and performs it exactly when it
contains a whole command. -/
theorem hid_length_segmentOutputs (segment : List Byte) :
    ((segmentOutputs segment).filter Output.isHid).length ≤ 1 ∧
      ((segmentOutputs segment).filter Output.isHid = [] ↔
        ¬ CompletesCommand segment) := by
  cases segment with
  | nil => simp [segmentOutputs, CompletesCommand]
  | cons kind payload =>
      simp only [segmentOutputs, CompletesCommand]
      by_cases isKey : kind = keyLetter
      · subst kind
        cases payload with
        | nil => simp
        | cons inChar strays =>
            simp only [if_true,
              filter_isHid_call (.keyboardPrint inChar) rfl]
            simp
      by_cases isClick : kind = clickLetter
      · subst kind
        cases payload with
        | nil => simp [isKey]
        | cons button strays =>
            simp only [isKey, if_false, if_true,
              filter_isHid_call .mouseClick rfl]
            simp
      by_cases isMouse : kind = mouseLetter
      · subst kind
        match payload with
        | [] | [_] | [_, _] => simp [isKey, isClick]
        | x :: y :: wheel :: strays =>
            simp only [isKey, isClick, if_false, if_true,
              filter_isHid_call (.mouseMove x y wheel) rfl]
            simp
      · simp [isKey, isClick, isMouse, filter_isHid_strayErrors, Output.isHid]

/-- A segment that is no whole command performs nothing. -/
theorem hid_eq_nil_of_incomplete {segment : List Byte}
    (incomplete : ¬ CompletesCommand segment) :
    (segmentOutputs segment).filter Output.isHid = [] :=
  (hid_length_segmentOutputs segment).2.mpr incomplete

/-- No command fits into a single byte. -/
theorem not_completesCommand_of_short {segment : List Byte}
    (short : segment.length ≤ 1) : ¬ CompletesCommand segment := by
  cases segment with
  | nil => exact id
  | cons kind payload =>
      rw [List.length_cons] at short
      simp only [CompletesCommand]
      omega

theorem hidCalls_waiting {dongle : Dongle}
    (waiting : dongle.currentState = waitForStart) {bytes : List Byte}
    (free : delimiter ∉ bytes) : hidCalls .unsigned dongle bytes = [] := by
  rw [hidCalls, (run_waiting waiting free).1, filter_isHid_strayErrors]

theorem hidCalls_delimited (dongle : Dongle) {segment : List Byte}
    (free : delimiter ∉ segment) :
    hidCalls .unsigned dongle (delimiter :: segment) =
      (segmentOutputs segment).filter Output.isHid := by
  rw [hidCalls, outputsOf_cons, onByte_delimiter, List.nil_append,
    outputsOf_segment rfl free]

/-- From any state, the bytes after a delimiter perform at most one HID call
for each delimiter. -/
theorem hidCalls_length_le_count (dongle : Dongle) (bytes : List Byte) :
    (hidCalls .unsigned dongle (delimiter :: bytes)).length ≤
      (delimiter :: bytes).count delimiter := by
  have segments : outputsOf .unsigned dongle (delimiter :: bytes) =
      (bytes.splitOn delimiter).flatMap segmentOutputs := by
    rw [← outputsOf_after_delimiter dongle [] bytes, outputsOf_cons,
      onByte_delimiter, List.nil_append, List.nil_append, stateAfter_cons,
      onByte_delimiter, stateAfter_nil]
  have most (pieces : List (List Byte)) :
      (pieces.flatMap fun segment =>
        (segmentOutputs segment).filter Output.isHid).length ≤
          pieces.length := by
    induction pieces with
    | nil => simp
    | cons piece pieces ih =>
        have one := (hid_length_segmentOutputs piece).1
        rw [List.flatMap_cons, List.length_append, List.length_cons]
        omega
  rw [hidCalls, segments, List.filter_flatMap, List.count_cons_self,
    ← Transducer.length_splitOn]
  exact most _

/-- A dongle that sign-extends its input never leaves `WAIT_FOR_START`. -/
theorem hidCalls_signed {dongle : Dongle}
    (atState : dongle.currentState = waitForStart) (bytes : List Byte) :
    hidCalls .signed dongle bytes = [] := by
  have reportsOnly := Transducer.forall_mem_outputs (onByte .signed)
    (fun dongle => dongle.currentState = waitForStart)
    (fun output => output.isHid = false)
    (fun state inChar waiting => by
      simp [onByte, loop, signed_ne_startByte, waiting, printError,
        Output.isHid])
    atState bytes
  rw [hidCalls, List.filter_eq_nil_iff]
  intro output outputMem
  simp [reportsOnly output outputMem]

theorem hidCalls_unsigned_eq_nil_iff {dongle : Dongle}
    (atState : dongle.currentState = waitForStart) (bytes : List Byte) :
    hidCalls .unsigned dongle bytes = [] ↔
      ∀ segment ∈ (bytes.splitOn delimiter).tail,
        ¬ CompletesCommand segment := by
  rw [hidCalls, outputsOf_waiting atState, streamOutputs, List.filter_append,
    filter_isHid_strayErrors, List.nil_append, List.filter_flatMap,
    List.flatMap_eq_nil_iff]
  exact forall₂_congr fun segment _ => (hid_length_segmentOutputs segment).2

/-- Under sign extension the byte `0xFF` is `-1`, never `START_BYTE`. -/
theorem onByte_signed_ne_started (dongle : Dongle) :
    (onByte .signed dongle delimiter).1.currentState ≠ started := by
  have intVal : CharReading.signed.toInt delimiter = -1 := rfl
  simp only [onByte, loop, intVal, setCommandType, printError]
  repeat' split
  all_goals simp_all [waitForStart, started, mouseGet1, mouseGet2,
    startByte, clickBegin, keyBegin, mouseBegin]

/-- The two readings of `char` agree on the HID calls of a stream exactly
when no segment of the stream contains a whole command, and the wire byte
`0xFF` starts a command under the unsigned reading only. -/
theorem readings_agree_iff_no_command (mouseX mouseY : Int)
    (bytes : List Byte) (dongle : Dongle) :
    (hidCalls .signed ⟨waitForStart, mouseX, mouseY⟩ bytes =
          hidCalls .unsigned ⟨waitForStart, mouseX, mouseY⟩ bytes ↔
        ∀ segment ∈ (bytes.splitOn delimiter).tail,
          ¬ CompletesCommand segment) ∧
      (onByte .unsigned dongle delimiter).1.currentState = started ∧
      (onByte .signed dongle delimiter).1.currentState ≠ started := by
  constructor
  · rw [hidCalls_signed rfl, eq_comm]
    exact hidCalls_unsigned_eq_nil_iff rfl bytes
  · exact ⟨by rw [onByte_delimiter], onByte_signed_ne_started dongle⟩

/-- The frame `255 'K' 'a'` is typed under one reading and rejected byte by
byte under the other. -/
theorem readings_disagree_on_key_frame :
    hidCalls .unsigned Dongle.initial [delimiter, keyLetter, 97#8] =
        [.keyboardPrint 97#8] ∧
      hidCalls .signed Dongle.initial [delimiter, keyLetter, 97#8] = [] ∧
      (onByte .signed Dongle.initial delimiter).1.currentState =
        waitForStart := by
  decide

end SerialProtocol

end MightyMouse
