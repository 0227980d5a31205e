import MightyMouse.Keystrokes
import MightyMouse.SendFileTask
import MightyMouse.SharedRegister

/-!
# Two threads at one key buffer

The UI thread and the file task both store a key in `keyBytes` and then call
`sendKeyboard`, which sends whatever the buffer holds by then.  Even if
`sendKeyboard` is granted to be atomic, the two steps of one key are not: the
buffer is a shared register, and the keys written merge those of the two
threads, whatever they are, exactly if no step falls between the two steps of
another thread.
-/

namespace MightyMouse

open OrderedMerge SharedRegister
open DispatcherSingleton hiding delimiter

/-- The threads that send keys. -/
inductive Typist
  | ui
  | sendFileTask
  deriving DecidableEq, Repr

/-- A schedule of the steps of both threads. -/
abbrev KeySchedule := List (Typist × Access Byte)

namespace DispatcherSingleton

/-- Fill the key buffer, or send it as a whole. -/
def keyStep (service : Service) : Dispatcher → Access Byte → Dispatcher
  | dispatcher, .write k => setKeyBytes dispatcher (Vector.singleton k)
  | dispatcher, .emit => sendKeyboard service dispatcher

def keySteps (service : Service) (dispatcher : Dispatcher)
    (accesses : List (Access Byte)) : Dispatcher :=
  accesses.foldl (keyStep service) dispatcher

/-- The key payloads that have reached the link. -/
def Dispatcher.keysWritten (dispatcher : Dispatcher) : List Byte :=
  dispatcher.keyCalls.flatMap fun call =>
    if call.written then call.toSend else []

variable {service : Service}

section Threads

/-- Requests for keys, made by one thread alone, issue these keys. -/
theorem keySteps_requests (dispatcher : Dispatcher) (keys : List Byte) :
    keySteps service dispatcher (keys.flatMap request) =
      issueAll service dispatcher (keys.map .key) := by
  induction keys generalizing dispatcher with
  | nil => rfl
  | cons k keys ih =>
      change keySteps service (issue service dispatcher (.key k))
        (keys.flatMap request) = _
      rw [ih]
      rfl

theorem sendKeyBytes_eq_keySteps (dispatcher : Dispatcher) (k : Byte) :
    sendKeyBytes service dispatcher #v[k] =
      keySteps service dispatcher (request k) :=
  rfl

/-- The keyboard commands of the UI thread are requests for the bytes of
their keystrokes. -/
theorem performAll_eq_keySteps (dispatcher : Dispatcher)
    (commands : List KeyboardCommand) :
    KeyboardCommand.performAll service dispatcher commands =
      keySteps service dispatcher
        (((commands.flatMap KeyboardCommand.keystrokes).map
          Keystroke.byte).flatMap request) := by
  rw [keySteps_requests, performAll_eq_issueAll, keyCommands, List.map_map]
  rfl

/-- The file task makes a request for each value that it reads. -/
theorem doInBackground_eq_keySteps (run : SendFileTask.FileRun)
    (dispatcher : Dispatcher) :
    (SendFileTask.doInBackground service run dispatcher).dispatcher =
      keySteps service dispatcher
        (((SendFileTask.doInBackground service run dispatcher).reads.map
          SendFileTask.charToSend).flatMap request) := by
  rw [keySteps_requests, SendFileTask.doInBackground_dispatcher,
    SendFileTask.typed, List.map_map]
  rfl

end Threads

section Register

variable {dispatcher : Dispatcher}

theorem sendKeyboard_keysWritten
    (connected : ∀ n, dispatcher.calls.length ≤ n →
      (service n).connected = true) :
    (sendKeyboard service dispatcher).keysWritten =
      dispatcher.keysWritten ++ [dispatcher.keyBytes[0]] := by
  have payload := connected (dispatcher.calls.length + 2) (by omega)
  have held : dispatcher.keyBytes.toList = [dispatcher.keyBytes[0]] := by
    apply List.ext_getElem
    · simp
    · intro i inList _
      have zero : i = 0 := by simpa using inList
      subst zero
      simp
  simp [Dispatcher.keysWritten, keyCalls_sendKeyboard, payload, held]

/-- The key buffer is a shared register: the keys written to the link are
those that the register emits. -/
theorem keysWritten_keySteps
    (connected : ∀ n, dispatcher.calls.length ≤ n →
      (service n).connected = true) (accesses : List (Access Byte)) :
    (keySteps service dispatcher accesses).keysWritten =
      dispatcher.keysWritten ++ emitted dispatcher.keyBytes[0] accesses := by
  induction accesses generalizing dispatcher with
  | nil => simp [keySteps, emitted]
  | cons access accesses ih =>
      cases access with
      | write k =>
          change (keySteps service (setKeyBytes dispatcher #v[k])
            accesses).keysWritten = _
          have rest := @ih (setKeyBytes dispatcher #v[k]) connected
          rw [rest]
          simp only [setKeyBytes, copyBytes_eq]
          rfl
      | emit =>
          have later : ∀ n, (sendKeyboard service dispatcher).calls.length ≤ n →
              (service n).connected = true := by
            intro n bound
            rw [sendKeyboard, sendFrame_eq, List.length_append] at bound
            exact connected n (by omega)
          have kept : (sendKeyboard service dispatcher).keyBytes =
              dispatcher.keyBytes := by
            rw [sendKeyboard, sendFrame_eq]
          change (keySteps service (sendKeyboard service dispatcher)
            accesses).keysWritten = _
          rw [ih later, sendKeyboard_keysWritten connected, emitted,
            List.append_assoc]
          simp only [kept, List.singleton_append]

end Register

/-- What the two threads' steps write is an order-preserving merge of the keys
that they have requested. -/
def KeysMerged (service : Service) (dispatcher : Dispatcher)
    (schedule : KeySchedule) (requested : Typist → List Byte) : Prop :=
  ∃ merged, IsMerge merged requested ∧
    (keySteps service dispatcher (schedule.map Prod.snd)).keysWritten =
      dispatcher.keysWritten ++ merged.map Prod.snd

/-- Whatever keys are sent, an order of the two threads' steps writes a merge
of them exactly if each key is stored and sent without a step of the other
thread in between. -/
theorem keys_merged_iff_pairs_whole {requested : Typist → List Byte}
    {schedule : KeySchedule} (schedules : Schedules schedule requested)
    {dispatcher : Dispatcher}
    (connected : ∀ n, dispatcher.calls.length ≤ n →
      (service n).connected = true) :
    (∀ filled keys, Schedules filled keys →
        filled.map Prod.fst = schedule.map Prod.fst →
        KeysMerged service dispatcher filled keys) ↔
      ∃ merged, IsMerge merged requested ∧
        schedule = blocks request merged := by
  have : Nontrivial Byte := ⟨0#8, 1#8, by decide⟩
  rw [← serves_all_iff_blocks schedules dispatcher.keyBytes[0]]
  simp only [KeysMerged, Serves, keysWritten_keySteps connected,
    List.append_cancel_left_eq]

/-- The user types `a` and then `c`, and the file holds `b`.  With each key
stored and sent in one go, all of them are written. -/
theorem keys_merged_in_turn :
    KeysMerged alwaysConnected Dispatcher.initial
      [(.ui, .write 97#8), (.ui, .emit), (.sendFileTask, .write 98#8),
        (.sendFileTask, .emit), (.ui, .write 99#8), (.ui, .emit)]
      fun | .ui => [97#8, 99#8] | .sendFileTask => [98#8] := by
  have scheduled : Schedules
      [(Typist.ui, Access.write 97#8), (.ui, .emit),
        (.sendFileTask, .write 98#8), (.sendFileTask, .emit),
        (.ui, .write 99#8), (.ui, .emit)]
      fun | .ui => [97#8, 99#8] | .sendFileTask => [98#8] := by
    intro typist
    cases typist <;> rfl
  refine (keys_merged_iff_pairs_whole scheduled fun _ _ => rfl).mpr
    ⟨[(.ui, 97#8), (.sendFileTask, 98#8), (.ui, 99#8)], ?_, rfl⟩ _ _
      scheduled rfl
  intro typist
  cases typist <;> rfl

/-- The user types `a` while the file task types `b`. -/
def typingWhileFile : Typist → List Byte
  | .ui => [97#8]
  | .sendFileTask => [98#8]

/-- Both threads store their key before either sends it. -/
def overwriting : KeySchedule :=
  [(.ui, .write 97#8), (.sendFileTask, .write 98#8), (.ui, .emit),
    (.sendFileTask, .emit)]

/-- The key `a` is overwritten before it is sent: it is lost, and `b` is
typed twice. -/
theorem overwritten_key_lost :
    Schedules overwriting typingWhileFile ∧
      (keySteps alwaysConnected Dispatcher.initial
        (overwriting.map Prod.snd)).keysWritten = [98#8, 98#8] ∧
      ¬ KeysMerged alwaysConnected Dispatcher.initial overwriting
        typingWhileFile := by
  have written : (keySteps alwaysConnected Dispatcher.initial
      (overwriting.map Prod.snd)).keysWritten = [98#8, 98#8] := by
    decide
  refine ⟨?_, written, ?_⟩
  · intro typist
    cases typist <;> rfl
  · rintro ⟨merged, isMerge, equal⟩
    rw [written] at equal
    have wanted : 97#8 ∈ project .ui merged := by
      rw [isMerge .ui]
      simp [typingWhileFile]
    have member : 97#8 ∈ merged.map Prod.snd :=
      List.mem_map.mpr ⟨_, mem_of_mem_project wanted, rfl⟩
    have nothing : Dispatcher.initial.keysWritten = [] := rfl
    rw [nothing, List.nil_append] at equal
    rw [← equal] at member
    exact absurd member (by decide)

end DispatcherSingleton

end MightyMouse
