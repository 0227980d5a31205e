import MightyMouse.SendFileTask

/-!
# A file and the same text

The file task types the chars of a file as `sendString` types those of a
string, and then types the end-of-file value as one more key.  This file shows
that the dongle does not notice: the payload of the extra frame is the
delimiter, which starts the next frame.
-/

namespace MightyMouse

open SerialProtocol
open DispatcherSingleton hiding delimiter

namespace SendFileTask

section ExtraFrame

/-- A dongle that has just been sent a delimiter forgets where it stood. -/
theorem run_delimited {first second : Dongle}
    (sameTotals : { first with currentState := started } =
      { second with currentState := started }) (later : List Byte) :
    outputsOf .unsigned first (delimiter :: later) =
        outputsOf .unsigned second (delimiter :: later) ∧
      stateAfter .unsigned first (delimiter :: later) =
        stateAfter .unsigned second (delimiter :: later) := by
  simp only [outputsOf_cons, stateAfter_cons, onByte_delimiter, sameTotals,
    and_self]

/-- The frame of the end-of-file value does nothing but start the next
frame. -/
theorem run_endOfFile (dongle : Dongle) :
    outputsOf .unsigned dongle (Command.key 0xFF#8).frame = [] ∧
      stateAfter .unsigned dongle (Command.key 0xFF#8).frame =
        { dongle with currentState := started } := by
  have letterNe : keyLetter ≠ delimiter := by decide
  have notClick : keyLetter ≠ clickLetter := by decide
  have lettered : onByte .unsigned { dongle with currentState := started }
      keyLetter = ({ dongle with currentState := keyGet0 }, []) := by
    rw [onByte_started rfl letterNe, if_neg notClick, if_pos rfl]
  have frame : (Command.key 0xFF#8).frame =
      [delimiter, keyLetter, delimiter] := rfl
  rw [frame]
  simp only [outputsOf_cons, stateAfter_cons, onByte_delimiter, lettered]
  exact ⟨rfl, rfl⟩

end ExtraFrame

variable {service : Service} {run : FileRun} {dispatcher : Dispatcher}

/-- The file task writes what `sendString` writes for the text of the file,
and the frame of the end-of-file value. -/
theorem wire_of_calm (clean : ∀ c ∈ run.text, lowByte c ≠ 0xFF#8)
    (found : run.found = true) (calm : run.Calm 0 (passCount run.text))
    (notCanceled : run.canceledAfter (passCount run.text) = false)
    (connected : ∀ n, dispatcher.calls.length ≤ n →
      (service n).connected = true) :
    (sendString service dispatcher run.text).wire =
        dispatcher.wire ++ textFrames run.text ∧
      (doInBackground service run dispatcher).dispatcher.wire =
        dispatcher.wire ++ textFrames run.text ++
          (Command.key 0xFF#8).frame := by
  constructor
  · rw [sendString_eq_issueAll, issueAll_wire connected, List.flatMap_map]
    rfl
  · have reads : (doInBackground service run dispatcher).reads =
        valuesRead run.text := by
      rw [(doInBackground_of_found found dispatcher).2]
      exact (readLoop_of_calm (by rwa [Nat.zero_add]) calm dispatcher).1
    rw [doInBackground_dispatcher, issueAll_wire connected, reads,
      frames_typed_of_clean clean, List.append_assoc]

/-- Typing a file and typing the same text agree.  The task writes the bytes
of the string and the extra frame 255, `K`, 255.  From any state the dongle
performs the same for both, without an error report for the extra frame, and
whatever begins with a delimiter is then performed as if the extra frame had
not been there; so is any later command. -/
theorem file_types_like_string
    (clean : ∀ c ∈ run.text, c.toNat % 256 ≠ 255)
    (found : run.found = true) (calm : run.Calm 0 (passCount run.text))
    (notCanceled : run.canceledAfter (passCount run.text) = false)
    (connected : ∀ n, dispatcher.calls.length ≤ n →
      (service n).connected = true) :
    ∃ written,
      (sendString service dispatcher run.text).wire =
          dispatcher.wire ++ written ∧
        (doInBackground service run dispatcher).dispatcher.wire =
          dispatcher.wire ++ (written ++ [255#8, keyLetter, 255#8]) ∧
        ∀ dongle,
          outputsOf .unsigned dongle (written ++ [255#8, keyLetter, 255#8]) =
              outputsOf .unsigned dongle written ∧
            (∀ later,
              outputsOf .unsigned (stateAfter .unsigned dongle
                    (written ++ [255#8, keyLetter, 255#8]))
                  (delimiter :: later) =
                outputsOf .unsigned (stateAfter .unsigned dongle written)
                  (delimiter :: later) ∧
              stateAfter .unsigned (stateAfter .unsigned dongle
                    (written ++ [255#8, keyLetter, 255#8]))
                  (delimiter :: later) =
                stateAfter .unsigned (stateAfter .unsigned dongle written)
                  (delimiter :: later)) ∧
            ∀ command : Command, command.Clean →
              outputsOf .unsigned (stateAfter .unsigned dongle
                  (written ++ [255#8, keyLetter, 255#8])) command.frame =
                [command.action] := by
  have low : ∀ c ∈ run.text, lowByte c ≠ 0xFF#8 := by
    simpa only [ne_eq, lowByte_eq_delimiter_iff] using clean
  obtain ⟨string, file⟩ := wire_of_calm low found calm notCanceled connected
  refine ⟨textFrames run.text, string, by rw [file, List.append_assoc]; rfl,
    fun dongle => ?_⟩
  have extra := run_endOfFile
    (stateAfter .unsigned dongle (textFrames run.text))
  refine ⟨?_, fun later => ?_, fun command commandClean => ?_⟩
  · rw [outputsOf_append]
    exact (congrArg _ extra.1).trans (List.append_nil _)
  · apply run_delimited
    rw [stateAfter_append]
    exact congrArg (fun state : Dongle =>
      { state with currentState := started }) extra.2
  · exact (Command.run_frame commandClean _).1

/-- The file `hi`, sent to a dongle that waits for the second byte of a
movement. -/
theorem file_hi_types_like_string :
    ∃ written,
      (sendString alwaysConnected Dispatcher.initial [104#16, 105#16]).wire =
          Dispatcher.initial.wire ++ written ∧
        (doInBackground alwaysConnected (.plain [104#16, 105#16])
            Dispatcher.initial).dispatcher.wire =
          Dispatcher.initial.wire ++
            (written ++ [255#8, keyLetter, 255#8]) ∧
        outputsOf .unsigned ⟨mouseGet1, 9, 0⟩
            (written ++ [255#8, keyLetter, 255#8]) =
          outputsOf .unsigned ⟨mouseGet1, 9, 0⟩ written := by
  have undisturbed := undisturbed_plain [104#16, 105#16]
  have clean : ∀ c ∈ (FileRun.plain [104#16, 105#16]).text,
      c.toNat % 256 ≠ 255 := by
    simp [FileRun.plain]
  have connected : ∀ n, Dispatcher.initial.calls.length ≤ n →
      (alwaysConnected n).connected = true := fun _ _ => rfl
  obtain ⟨written, string, file, performed⟩ := file_types_like_string clean
    undisturbed.found undisturbed.calm undisturbed.notCanceled connected
  exact ⟨written, string, file, (performed ⟨mouseGet1, 9, 0⟩).1⟩

end SendFileTask

end MightyMouse
