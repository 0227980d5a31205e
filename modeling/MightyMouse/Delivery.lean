import MightyMouse.EditField
import MightyMouse.SendFileTask

/-!
# Delivery of submitted text

`sendByte` drops what it is given when the service is not connected, and none
of its callers notices.  The field is cleared and the file task reports
success whatever became of the calls, so that both are truthful only if the
service answers every one of these calls as connected.
-/

namespace MightyMouse

open DispatcherSingleton hiding delimiter

/-- The service answers the given calls of `sendByte` as connected. -/
def ConnectedDuring (service : Service) (start calls : Nat) : Prop :=
  ∀ n, start ≤ n → n < start + calls → (service n).connected = true

/-- The three calls for a command, all of them written. -/
def writtenCalls (command : Command) : List SendByteCall :=
  commandCalls alwaysConnected 0 command

section Calls

variable {service : Service}

theorem connectedDuring_add_iff (start first second : Nat) :
    ConnectedDuring service start (first + second) ↔
      ConnectedDuring service start first ∧
        ConnectedDuring service (start + first) second := by
  constructor
  · intro connected
    constructor
    · intro n above below
      exact connected n above (by omega)
    · intro n above below
      exact connected n (by omega) (by omega)
  · rintro ⟨early, late⟩ n above below
    by_cases before : n < start + first
    · exact early n above before
    · exact late n (by omega) (by omega)

theorem commandCalls_eq_writtenCalls_iff (start : Nat) (command : Command) :
    commandCalls service start command = writtenCalls command ↔
      ConnectedDuring service start 3 := by
  have always (n : Nat) :
      (alwaysConnected n).connected = true := rfl
  constructor
  · intro same n above below
    simp only [writtenCalls, commandCalls, frameCalls, List.cons.injEq,
      SendByteCall.mk.injEq, always, true_and, and_true] at same
    obtain ⟨first, second, third⟩ := same
    have cases : n = start ∨ n = start + 1 ∨ n = start + 2 := by omega
    rcases cases with rfl | rfl | rfl
    · exact first
    · exact second
    · exact third
  · intro connected
    have first := connected start (by omega) (by omega)
    have second := connected (start + 1) (by omega) (by omega)
    have third := connected (start + 2) (by omega) (by omega)
    simp [writtenCalls, commandCalls, frameCalls, always, first, second,
      third]

/-- All calls for the commands are written exactly if the service stays
connected while they are made. -/
theorem callsFrom_eq_writtenCalls_iff (start : Nat)
    (commands : List Command) :
    callsFrom service start commands = commands.flatMap writtenCalls ↔
      ConnectedDuring service start (3 * commands.length) := by
  induction commands generalizing start with
  | nil =>
      have none : ConnectedDuring service start (3 * 0) := by
        intro n above below
        omega
      simp only [callsFrom, List.flatMap_nil, List.length_nil, true_iff]
      exact none
  | cons command commands ih =>
      have sameLength : (commandCalls service start command).length =
          (writtenCalls command).length := rfl
      have total : 3 * (command :: commands).length =
          3 + 3 * commands.length := by
        rw [List.length_cons]
        omega
      rw [callsFrom, List.flatMap_cons, total, connectedDuring_add_iff, ← ih,
        ← commandCalls_eq_writtenCalls_iff]
      constructor
      · intro same
        exact List.append_inj same sameLength
      · rintro ⟨first, rest⟩
        rw [first, rest]

theorem callsFrom_append (start : Nat) (first second : List Command) :
    callsFrom service start (first ++ second) =
      callsFrom service start first ++
        callsFrom service (start + 3 * first.length) second := by
  induction first generalizing start with
  | nil => rfl
  | cons command first ih =>
      have later : start + 3 + 3 * first.length =
          start + 3 * (command :: first).length := by
        rw [List.length_cons]
        omega
      rw [List.cons_append, callsFrom, ih, callsFrom, List.append_assoc,
        later]

theorem length_callsFrom (start : Nat) (commands : List Command) :
    (callsFrom service start commands).length = 3 * commands.length := by
  induction commands generalizing start with
  | nil => rfl
  | cons command commands ih =>
      have frame : (commandCalls service start command).length = 3 := rfl
      rw [callsFrom, List.length_append, ih, frame, List.length_cons]
      omega

theorem length_writtenCalls (commands : List Command) :
    (commands.flatMap writtenCalls).length = 3 * commands.length := by
  induction commands with
  | nil => rfl
  | cons command commands ih =>
      have frame : (writtenCalls command).length = 3 := rfl
      rw [List.flatMap_cons, List.length_append, ih, frame, List.length_cons]
      omega

end Calls

section Text

variable {service : Service}

/-- The key commands of a text. -/
def textCommands (text : List JavaChar) : List Command :=
  text.map fun c => .key (lowByte c)

/-- All three writes of every key frame of the text were made. -/
def Delivered (text : List JavaChar) (before after : Dispatcher) : Prop :=
  before.calls ++ (textCommands text).flatMap writtenCalls <+: after.calls

theorem delivered_issueAll_iff (text : List JavaChar)
    (dispatcher : Dispatcher) (more : List Command) :
    Delivered text dispatcher
        (issueAll service dispatcher (textCommands text ++ more)) ↔
      ConnectedDuring service dispatcher.calls.length (3 * text.length) := by
  have count : (textCommands text).length = text.length := List.length_map _
  rw [Delivered, issueAll_calls, List.prefix_append_right_inj,
    callsFrom_append, ← count, ← callsFrom_eq_writtenCalls_iff]
  constructor
  · intro begins
    have first := List.prefix_append
      (callsFrom service dispatcher.calls.length (textCommands text))
      (callsFrom service (dispatcher.calls.length +
        3 * (textCommands text).length) more)
    have ordered := List.prefix_of_prefix_length_le begins first (by
      rw [length_writtenCalls, length_callsFrom])
    exact (ordered.eq_of_length (by
      rw [length_writtenCalls, length_callsFrom])).symm
  · intro same
    rw [same]
    exact List.prefix_append _ _

/-- The field is cleared only if the text was delivered, and otherwise keeps
it. -/
def KeepsUndelivered (text : List JavaChar) (before after : EditField.Screen) :
    Prop :=
  (after.text = [] → Delivered text before.dispatcher after.dispatcher) ∧
    (¬ Delivered text before.dispatcher after.dispatcher → after.text = text)

theorem keepsUndelivered_submit_iff {text : List JavaChar}
    (nonempty : text ≠ []) (screen : EditField.Screen)
    (submission : EditField.Submission) :
    KeepsUndelivered text screen
        (EditField.submit service text screen submission) ↔
      ConnectedDuring service screen.dispatcher.calls.length
        (3 * text.length) := by
  have submitted :
      (EditField.submit service text screen submission).text = [] ∧ _ :=
    EditField.submit_spec nonempty screen submission
  obtain ⟨cleared, sent⟩ := submitted
  have delivered : Delivered text screen.dispatcher (issueAll service
      screen.dispatcher (textCommands text ++ [])) ↔ _ :=
    delivered_issueAll_iff text screen.dispatcher []
  rw [List.append_nil, textCommands, ← sendString_eq_issueAll] at delivered
  rw [KeepsUndelivered, cleared, sent, ← delivered]
  constructor
  · intro keeps
    exact keeps.1 rfl
  · intro arrived
    exact ⟨fun _ => arrived, fun lost => absurd arrived lost⟩

end Text

section File

open SendFileTask

variable {service : Service}

theorem passCount_le (text : List JavaChar) :
    passCount text ≤ text.length + 1 := by
  have shorter := (List.takeWhile_prefix
    (l := text) fun c => lowByte c != 0xFF#8).length_le
  rw [passCount]
  omega

theorem length_valuesRead (text : List JavaChar) :
    (valuesRead text).length = passCount text := by
  have bound := passCount_le text
  rw [valuesRead, List.length_take, List.length_append, List.length_map,
    List.length_singleton]
  omega

/-- The loop comes to every char exactly if none but the last is taken for
the end of the file. -/
theorem length_le_passCount_iff (text : List JavaChar) :
    text.length ≤ passCount text ↔
      ∀ c ∈ text.dropLast, c.toNat % 256 ≠ 255 := by
  induction text with
  | nil => simp
  | cons c text ih =>
      cases text with
      | nil => simp [passCount]
      | cons d text =>
          rw [List.dropLast_cons_cons, List.forall_mem_cons, ← ih, ne_eq,
            ← lowByte_eq_delimiter_iff]
          by_cases stops : lowByte c = 0xFF#8
          · rw [passCount_cons_of_eq stops]
            simp [stops]
          · rw [passCount_cons_of_ne stops]
            simp [stops]

theorem typed_valuesRead {text : List JavaChar}
    (complete : text.length ≤ passCount text) :
    ∃ more, typed (valuesRead text) = textCommands text ++ more := by
  have chars : (text.map fun c : JavaChar =>
      (c.toNat : Int)).length = text.length := List.length_map _
  refine ⟨typed (([-1] : List Int).take (passCount text - text.length)), ?_⟩
  rw [valuesRead, List.take_append, chars,
    List.take_of_length_le (by rw [chars]; exact complete), typed,
    List.map_append, List.map_map]
  have same : ((fun value => Command.key (charToSend value)) ∘
      fun c : JavaChar => (c.toNat : Int)) =
        fun c => Command.key (lowByte c) := by
    funext c
    rw [Function.comp_apply, charToSend_char]
  rw [same]
  rfl

/-- Every char of the file was delivered, for a task that nothing disturbs. -/
theorem delivered_doInBackground_iff {run : FileRun}
    (undisturbed : run.Undisturbed) (dispatcher : Dispatcher) :
    Delivered run.text dispatcher
        (doInBackground service run dispatcher).dispatcher ↔
      (∀ c ∈ run.text.dropLast, c.toNat % 256 ≠ 255) ∧
        ConnectedDuring service dispatcher.calls.length
          (3 * run.text.length) := by
  have reads : (doInBackground service run dispatcher).reads = _ :=
    (doInBackground_of_undisturbed undisturbed dispatcher).2
  rw [doInBackground_dispatcher, reads, ← length_le_passCount_iff]
  by_cases complete : run.text.length ≤ passCount run.text
  · obtain ⟨more, chars⟩ := typed_valuesRead complete
    rw [chars, delivered_issueAll_iff, and_iff_right complete]
  · constructor
    · intro delivered
      have long := delivered.length_le
      rw [issueAll_calls, List.length_append, List.length_append,
        length_writtenCalls, length_callsFrom, textCommands, List.length_map,
        typed, List.length_map, length_valuesRead] at long
      omega
    · intro both
      exact absurd both.1 complete

/-- All frames of the task, that of the end of the file included, were
written. -/
def AllWritten (before : Dispatcher) (ended : TaskEnd) : Prop :=
  ended.dispatcher.calls =
    before.calls ++ (typed ended.reads).flatMap writtenCalls

theorem allWritten_doInBackground_iff {run : FileRun}
    (undisturbed : run.Undisturbed) (dispatcher : Dispatcher) :
    AllWritten dispatcher (doInBackground service run dispatcher) ↔
      ConnectedDuring service dispatcher.calls.length
        (3 * passCount run.text) := by
  have reads : (doInBackground service run dispatcher).reads = _ :=
    (doInBackground_of_undisturbed undisturbed dispatcher).2
  have count : (typed (valuesRead run.text)).length = passCount run.text := by
    rw [typed, List.length_map, length_valuesRead]
  rw [AllWritten, doInBackground_dispatcher, issueAll_calls,
    List.append_cancel_left_eq, callsFrom_eq_writtenCalls_iff, reads, count]

end File

/-- When undelivered input is not discarded: a submitted text is kept or
delivered exactly if the service is connected at all calls made for it, and
the file task reports success only for a delivered file exactly if it is
disturbed or the service is connected at all its calls.  For the chars of the
file to be among these calls, none but the last may be taken for the end of
the file. -/
theorem undelivered_kept_iff (service : Service) :
    (∀ (text : List JavaChar) (screen : EditField.Screen)
        (submission : EditField.Submission), text ≠ [] →
      (KeepsUndelivered text screen
          (EditField.submit service text screen submission) ↔
        ConnectedDuring service screen.dispatcher.calls.length
          (3 * text.length))) ∧
    ∀ (run : SendFileTask.FileRun) (dispatcher : Dispatcher),
      (((SendFileTask.doInBackground service run dispatcher).result =
            .sentSuccessfully →
          Delivered run.text dispatcher
            (SendFileTask.doInBackground service run
              dispatcher).dispatcher) ↔
        ¬ run.Undisturbed ∨
          (∀ c ∈ run.text.dropLast, c.toNat % 256 ≠ 255) ∧
            ConnectedDuring service dispatcher.calls.length
              (3 * run.text.length)) ∧
      (((SendFileTask.doInBackground service run dispatcher).result =
            .sentSuccessfully →
          AllWritten dispatcher
            (SendFileTask.doInBackground service run dispatcher)) ↔
        ¬ run.Undisturbed ∨
          ConnectedDuring service dispatcher.calls.length
            (3 * SendFileTask.passCount run.text)) := by
  constructor
  · intro text screen submission nonempty
    exact keepsUndelivered_submit_iff nonempty screen submission
  · intro run dispatcher
    rw [SendFileTask.sentSuccessfully_iff]
    by_cases undisturbed : run.Undisturbed
    · rw [forall_prop_of_true undisturbed, forall_prop_of_true undisturbed,
        delivered_doInBackground_iff undisturbed,
        allWritten_doInBackground_iff undisturbed]
      simp [undisturbed]
    · simp [undisturbed]

/-- A screen on which nothing has happened yet. -/
def freshScreen : EditField.Screen where
  text := []
  mAutoSend := false
  deleteVisible := true
  dispatcher := Dispatcher.initial
  sent := []

/-- The text `a`, sent while the service is connected. -/
theorem typed_a_kept :
    KeepsUndelivered [97#16] freshScreen
      (EditField.submit alwaysConnected [97#16] freshScreen
        .editorAction) := by
  have kept := (undelivered_kept_iff alwaysConnected).1 [97#16]
    freshScreen .editorAction (by simp)
  exact kept.mpr fun _ _ _ => rfl

/-- Without a connection the text `a` disappears from the field, and the file
`a` is reported as sent, but no byte has been written. -/
theorem typed_a_discarded :
    ¬ KeepsUndelivered [97#16] freshScreen
        (EditField.submit neverConnected [97#16] freshScreen .sendButton) ∧
      (SendFileTask.doInBackground neverConnected (.plain [97#16])
        Dispatcher.initial).result = .sentSuccessfully ∧
      ¬ Delivered [97#16] Dispatcher.initial
        (SendFileTask.doInBackground neverConnected (.plain [97#16])
          Dispatcher.initial).dispatcher ∧
      (SendFileTask.doInBackground neverConnected (.plain [97#16])
        Dispatcher.initial).dispatcher.wire = [] := by
  have offline : ¬ ConnectedDuring neverConnected
      freshScreen.dispatcher.calls.length (3 * [97#16].length) := by
    intro connected
    have first := connected 0 (by decide) (by decide)
    cases first
  have undisturbed := SendFileTask.undisturbed_plain [97#16]
  refine ⟨?_, (SendFileTask.sentSuccessfully_iff _).mpr undisturbed, ?_, ?_⟩
  · rw [keepsUndelivered_submit_iff (by simp)]
    exact offline
  · intro delivered
    have both := (delivered_doInBackground_iff undisturbed _).mp delivered
    exact offline both.2
  · decide +kernel

end MightyMouse
