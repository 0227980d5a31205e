import MightyMouse.LabelledRun
import MightyMouse.WorkerClassPosts
import Mathlib.Data.List.Induction

/-!
# The status that the user sees

The service posts its messages to the handler of the activity, which takes
them from its queue one by one.  A synchronized method posts its messages
before it gives the lock back, but the UI thread and the steps that post
without the lock may come in between.  This file follows the messages through
the queue to the status line.
-/

namespace MightyMouse

namespace StatusDisplay

open LabelledRun
open WorkerClass hiding step

/-- What the status line says. -/
inductive Status
  | connectedTo (name : Option (List JavaChar))
  | connecting
  | notConnected
  deriving DecidableEq, Repr

inductive Toast
  | connectedTo (name : Option (List JavaChar))
  | text (text : String)
  deriving DecidableEq, Repr

/-- The part of the activity that `mHandler` works on. -/
structure Screen where
  mConnectedDeviceName : Option (List JavaChar)
  status : Option Status
  toasts : List Toast
  deriving DecidableEq, Repr

def Screen.initial : Screen where
  mConnectedDeviceName := none
  status := none
  toasts := []

/-- `mHandler.handleMessage`. -/
def handleMessage (screen : Screen) : Message → Screen
  | .stateChange .stateConnected =>
      { screen with status := some (.connectedTo screen.mConnectedDeviceName) }
  | .stateChange .stateConnecting =>
      { screen with status := some .connecting }
  | .stateChange .stateListen | .stateChange .stateNone =>
      { screen with status := some .notConnected }
  | .write _ | .read _ => screen
  | .deviceName name =>
      { screen with
        mConnectedDeviceName := name
        toasts := screen.toasts ++ [.connectedTo name] }
  | .toast text => { screen with toasts := screen.toasts ++ [.text text] }

/-- A message in the queue, with the device that the call of `connected()`
was made with that has posted it. -/
structure Entry where
  message : Message
  device : Option BluetoothDevice
  deriving DecidableEq, Repr

/-- The service, the messages that the holder of the lock has still to post,
the queue of the handler, the messages handled, and the screen.  The lock is
free if nothing is left to post. -/
structure Display where
  worker : Worker
  pending : List Entry
  queue : List Entry
  handled : List Entry
  screen : Screen

def Display.initial : Display where
  worker := Worker.initial
  pending := []
  queue := []
  handled := []
  screen := Screen.initial

/-- A step of the service, the next post under the lock, or the next message
handled by the UI thread. -/
inductive Move
  | work (label : WorkerClass.Step)
  | post
  | handle
  deriving DecidableEq, Repr

/-- The messages that a step of the service adds. -/
def newEntries (before after : Worker) (device : Option BluetoothDevice) :
    List Entry :=
  (after.posted.drop before.posted.length).map fun message => ⟨message, device⟩

/-- A step that takes the lock must find it free, and posts its messages
later; any other step posts at once. -/
def step (display : Display) : Move → Option Display
  | .work label =>
      if label.isLocked && !display.pending.isEmpty then none
      else
        (WorkerClass.step display.worker label).map fun after =>
          let entries := newEntries display.worker after
            (connectedDevice display.worker label)
          if label.isLocked then
            { display with worker := after, pending := entries }
          else
            { display with worker := after, queue := display.queue ++ entries }
  | .post =>
      match display.pending with
      | [] => none
      | entry :: pending =>
          some { display with
            pending := pending
            queue := display.queue ++ [entry] }
  | .handle =>
      match display.queue with
      | [] => none
      | entry :: queue =>
          some { display with
            queue := queue
            handled := display.handled ++ [entry]
            screen := handleMessage display.screen entry.message }

section Entries

def Entry.change (entry : Entry) : Option ServiceState :=
  match entry.message with
  | .stateChange state => some state
  | _ => none

/-- The state carried by the last `MESSAGE_STATE_CHANGE`. -/
def lastChange (entries : List Entry) : Option ServiceState :=
  (entries.filterMap Entry.change).getLast?

/-- The last device name in the entries. -/
def nameAfter (name : Option (List JavaChar)) (entries : List Entry) : Option (List JavaChar) :=
  entries.foldl (fun name entry =>
    match entry.message with
    | .deviceName newer => newer
    | _ => name) name

/-- Where a state change says that the service is connected, the last name
before it is that of the device of the same call. -/
def Named : Option (List JavaChar) → List Entry → Prop
  | _, [] => True
  | name, entry :: entries =>
      (entry.message = .stateChange .stateConnected →
        ∃ device, entry.device = some device ∧ name = device.name) ∧
      Named (nameAfter name [entry]) entries

theorem lastChange_append (first second : List Entry) :
    lastChange (first ++ second) =
      (lastChange second).or (lastChange first) := by
  rw [lastChange, List.filterMap_append, List.getLast?_append]
  rfl

theorem nameAfter_append (name : Option (List JavaChar)) (first second : List Entry) :
    nameAfter name (first ++ second) =
      nameAfter (nameAfter name first) second :=
  List.foldl_append

theorem named_append (name : Option (List JavaChar)) (first second : List Entry) :
    Named name (first ++ second) ↔
      Named name first ∧ Named (nameAfter name first) second := by
  induction first generalizing name with
  | nil => simp [Named, nameAfter]
  | cons entry first ih =>
      rw [List.cons_append, Named, Named, ih, and_assoc]
      rfl

/-- Entries that say nothing about the state. -/
def Quiet (entries : List Entry) : Prop :=
  ∀ entry ∈ entries, entry.message.isStatus = false

variable {entries : List Entry}

theorem quiet_map {told : List Message}
    (none : ∀ message ∈ told, message.isStatus = false)
    (device : Option BluetoothDevice) :
    Quiet (told.map fun message => ⟨message, device⟩) := by
  intro entry member
  obtain ⟨message, inTold, rfl⟩ := List.mem_map.mp member
  exact none message inTold

theorem Quiet.change (quiet : Quiet entries) : lastChange entries = none := by
  rw [lastChange, List.getLast?_eq_none_iff, List.filterMap_eq_nil_iff]
  intro entry member
  have other := quiet entry member
  unfold Entry.change
  cases message : entry.message with
  | stateChange state => simp [message, Message.isStatus] at other
  | _ => rfl

theorem Quiet.named (quiet : Quiet entries) (name : Option (List JavaChar)) :
    Named name entries ∧ nameAfter name entries = name := by
  induction entries generalizing name with
  | nil => exact ⟨trivial, rfl⟩
  | cons entry entries ih =>
      have other := quiet entry (by simp)
      have rest := ih (fun later member => quiet later (by simp [member]))
        name
      have same : nameAfter name [entry] = name := by
        cases message : entry.message with
        | deviceName newer => simp [message, Message.isStatus] at other
        | _ => simp [nameAfter, message]
      refine ⟨⟨fun connected => ?_, ?_⟩, ?_⟩
      · simp [connected, Message.isStatus] at other
      · rw [same]
        exact rest.1
      · change nameAfter (nameAfter name [entry]) entries = name
        rw [same]
        exact rest.2

end Entries

section Screen

/-- The screen after some messages have been handled. -/
def shown (handled : List Entry) : Screen :=
  handled.foldl (fun screen entry => handleMessage screen entry.message)
    Screen.initial

theorem shown_concat (handled : List Entry) (entry : Entry) :
    shown (handled ++ [entry]) =
      handleMessage (shown handled) entry.message :=
  List.foldl_append

theorem shown_name (handled : List Entry) :
    (shown handled).mConnectedDeviceName = nameAfter none handled := by
  induction handled using List.reverseRecOn with
  | nil => rfl
  | append_singleton handled entry ih =>
      rw [shown_concat, nameAfter_append, ← ih]
      obtain ⟨message, device⟩ := entry
      cases message with
      | stateChange state => cases state <;> rfl
      | _ => rfl

/-- The last `MESSAGE_STATE_CHANGE`. -/
def lastChangeEntry (entries : List Entry) : Option Entry :=
  (entries.filter fun entry => entry.change.isSome).getLast?

/-- A connection shown on the screen is the one that the last state change
was posted for. -/
theorem lastChangeEntry_of_shown {handled : List Entry}
    (named : Named none handled) {name : Option (List JavaChar)}
    (connected : (shown handled).status = some (.connectedTo name)) :
    ∃ device, lastChangeEntry handled =
        some ⟨.stateChange .stateConnected, some device⟩ ∧
      name = device.name := by
  induction handled using List.reverseRecOn with
  | nil => cases connected
  | append_singleton handled entry ih =>
      obtain ⟨before, last⟩ := (named_append none handled [entry]).mp named
      obtain ⟨message, origin⟩ := entry
      rw [shown_concat] at connected
      -- Only a state change replaces the status.
      have unchanged (same : (handleMessage (shown handled) message).status =
          (shown handled).status)
          (other : Entry.change ⟨message, origin⟩ = none) :
          ∃ device, lastChangeEntry (handled ++ [⟨message, origin⟩]) =
              some ⟨.stateChange .stateConnected, some device⟩ ∧
            name = device.name := by
        rw [same] at connected
        have earlier := ih before connected
        have skipped : [Entry.mk message origin].filter
            (fun entry => entry.change.isSome) = [] := by
          simp [other]
        rwa [lastChangeEntry, List.filter_append, skipped, List.append_nil]
      cases message with
      | stateChange state =>
          cases state with
          | stateConnected =>
              obtain ⟨device, known, sameName⟩ := last.1 rfl
              change origin = some device at known
              subst known
              refine ⟨device, ?_, ?_⟩
              · rw [lastChangeEntry, List.filter_append]
                exact List.getLast?_concat
              · have shownName : name =
                    (shown handled).mConnectedDeviceName := by
                  simpa [handleMessage, eq_comm] using connected
                rw [shownName, shown_name, sameName]
          | stateConnecting => cases connected
          | stateListen => cases connected
          | stateNone => cases connected
      | deviceName newer => exact unchanged rfl rfl
      | toast text => exact unchanged rfl rfl
      | read bytes => exact unchanged rfl rfl
      | write buffer => exact unchanged rfl rfl

end Screen

section Runs

/-- All messages of the service, in the order in which the handler gets
them. -/
def Display.entries (display : Display) : List Entry :=
  display.handled ++ display.queue ++ display.pending

/-- The last state change is the true one, and the names fit. -/
structure Tells (state : ServiceState) (entries : List Entry) : Prop where
  latest : ∀ told, lastChange entries = some told → told = state
  named : Named none entries

variable {state next : ServiceState} {entries : List Entry}

theorem Tells.insertQuiet {later added : List Entry}
    (tells : Tells state (entries ++ later)) (quiet : Quiet added) :
    Tells state (entries ++ added ++ later) where
  latest := by
    have latest := tells.latest
    rw [lastChange_append] at latest
    rwa [lastChange_append, lastChange_append, quiet.change, Option.none_or]
  named := by
    obtain ⟨early, late⟩ := (named_append none entries later).mp tells.named
    obtain ⟨added, same⟩ := quiet.named (nameAfter none entries)
    rw [named_append, named_append, nameAfter_append, same]
    exact ⟨⟨early, added⟩, late⟩

/-- What a step under the lock adds is told truly. -/
theorem Tells.append (tells : Tells state entries) {told : List Message}
    {locked : Bool} {device : Option BluetoothDevice}
    (tidings : Tidings locked device state told next) :
    Tells next (entries ++ told.map fun message => ⟨message, device⟩) := by
  cases tidings with
  | quiet none =>
      have inserted := @Tells.insertQuiet state entries [] _
        (by rwa [List.append_nil]) (quiet_map none device)
      rwa [List.append_nil] at inserted
  | state holds other =>
      refine ⟨fun told last => ?_, ?_⟩
      · rw [lastChange_append] at last
        exact (Option.some.inj last).symm
      · rw [named_append]
        refine ⟨tells.named, fun connected => ?_, trivial⟩
        cases connected
        exact absurd rfl other
  | @connected found holds origin =>
      refine ⟨fun told last => ?_, ?_⟩
      · rw [lastChange_append] at last
        exact (Option.some.inj last).symm
      · rw [named_append]
        refine ⟨tells.named, fun connected => ?_, fun _ => ?_, trivial⟩
        · cases connected
        · exact ⟨found, origin, rfl⟩

theorem newEntries_eq {before after : Worker} {told : List Message}
    (posted : after.posted = before.posted ++ told)
    (device : Option BluetoothDevice) :
    newEntries before after device =
      told.map fun message => ⟨message, device⟩ := by
  rw [newEntries, posted, List.drop_left]

/-- The screen shows the messages handled, and all messages tell the
truth. -/
structure Display.Faithful (display : Display) : Prop where
  screen : display.screen = shown display.handled
  tells : Tells display.worker.mState display.entries

theorem faithful_initial : Display.initial.Faithful where
  screen := rfl
  tells := ⟨by simp [lastChange, Display.entries, Display.initial], trivial⟩

theorem faithful_step {display after : Display} {move : Move}
    (faithful : display.Faithful) (taken : step display move = some after) :
    after.Faithful := by
  have tells := faithful.tells
  cases move with
  | work label =>
      simp only [step] at taken
      split at taken
      · cases taken
      · next free =>
          obtain ⟨worker, worked, same⟩ := Option.map_eq_some_iff.mp taken
          obtain ⟨told, posted, tidings⟩ := step_tidings worked
          rw [newEntries_eq posted] at same
          cases locked : label.isLocked with
          | true =>
              -- The lock was free, so that the messages come last.
              have none : display.pending = [] := by
                simpa [locked] using free
              rw [locked, if_pos rfl] at same
              cases same
              refine ⟨faithful.screen, ?_⟩
              rw [Display.entries, none, List.append_nil] at tells
              exact tells.append tidings
          | false =>
              rw [locked, if_neg (by simp)] at same
              cases same
              refine ⟨faithful.screen, ?_⟩
              rw [locked] at tidings
              obtain ⟨sameState, none⟩ := tidings.of_unlocked
              have inserted := tells.insertQuiet
                (quiet_map none (connectedDevice display.worker label))
              rw [List.append_assoc display.handled] at inserted
              change Tells worker.mState _
              rw [sameState]
              exact inserted
  | post =>
      simp only [step] at taken
      split at taken
      · cases taken
      · next entry pending held =>
          cases taken
          refine ⟨faithful.screen, ?_⟩
          rw [Display.entries, held] at tells
          simpa [Display.entries] using tells
  | handle =>
      simp only [step] at taken
      split at taken
      · cases taken
      · next entry queue waiting =>
          cases taken
          refine ⟨?_, ?_⟩
          · rw [shown_concat, ← faithful.screen]
          · rw [Display.entries, waiting] at tells
            simpa [Display.entries] using tells

theorem faithful_of_follow {display : Display} {moves : List Move}
    (run : follow step Display.initial moves = some display) :
    display.Faithful :=
  invariant_of_follow step
    (fun _ _ _ faithful _ taken => faithful_step faithful taken)
    faithful_initial (fun _ _ => trivial) run

/-- Once a state change has been posted, the last one in the queue, or else
the last one handled, carries the current state whenever the lock is free.
And whenever the status line shows a connection, it names the device of the
very call of `connected()` that has posted the last state change handled. -/
theorem status_is_true {display : Display} {moves : List Move}
    (run : follow step Display.initial moves = some display) :
    (display.pending = [] →
        (∃ entry ∈ display.handled ++ display.queue,
          entry.change.isSome = true) →
        (lastChange display.queue).or (lastChange display.handled) =
          some display.worker.mState) ∧
      ∀ name, display.screen.status = some (.connectedTo name) →
        ∃ device, lastChangeEntry display.handled =
            some ⟨.stateChange .stateConnected, some device⟩ ∧
          name = device.name := by
  have faithful := faithful_of_follow run
  have tells := faithful.tells
  constructor
  · rintro free ⟨entry, member, isChange⟩
    rw [Display.entries, free, List.append_nil] at tells
    obtain ⟨state, carried⟩ := Option.isSome_iff_exists.mp isChange
    have posted : state ∈ (display.handled ++ display.queue).filterMap
        Entry.change :=
      List.mem_filterMap.mpr ⟨entry, member, carried⟩
    have isSome : (lastChange (display.handled ++ display.queue)).isSome =
        true :=
      List.getLast?_isSome.mpr (List.ne_nil_of_mem posted)
    obtain ⟨told, last⟩ := Option.isSome_iff_exists.mp isSome
    rw [← lastChange_append, last, tells.latest told last]
  · intro name connected
    rw [faithful.screen] at connected
    have named := tells.named
    rw [Display.entries, List.append_assoc, named_append] at named
    exact lastChangeEntry_of_shown named.1 connected

end Runs

def deviceCalled (name : String) : BluetoothDevice :=
  { BluetoothDevice.unnamed 49 with name := some (javaText name) }

/-- The user connects to the dongle.  Its name is handled, and a toast about
an earlier attempt is posted, before the state change is. -/
def connectToDongle : List Move :=
  [.work (.connect (deviceCalled "old") true true), .post, .handle,
    .work (.connectThrows 0),
    .work (.connect (deviceCalled "dongle") true true), .post,
    .work (.connectReturns 1), .work (.resetConnectThread 1),
    .work (.handOver 1 ⟨true, true⟩), .post, .handle, .handle,
    .work (.failedToast 0), .post, .handle, .handle]

/-- The status line names the dongle, which the service is connected to. -/
theorem connectToDongle_status :
    ∃ display, follow step Display.initial connectToDongle = some display ∧
      (lastChange display.queue).or (lastChange display.handled) =
        some .stateConnected ∧
      display.screen.status = some (.connectedTo (some (javaText "dongle"))) ∧
      ∃ device, lastChangeEntry display.handled =
          some ⟨.stateChange .stateConnected, some device⟩ ∧
        some (javaText "dongle") = device.name := by
  have computed : (follow step Display.initial connectToDongle).map
      (fun display => (display.pending, display.worker.mState,
        display.screen.status,
        (display.handled ++ display.queue).any fun entry =>
          entry.change.isSome)) =
      some ([], .stateConnected, some (.connectedTo (some (javaText "dongle"))),
        true) := by
    decide +kernel
  obtain ⟨display, run, same⟩ := Option.map_eq_some_iff.mp computed
  simp only [Prod.mk.injEq] at same
  obtain ⟨free, state, status, posted⟩ := same
  have holds := status_is_true run
  refine ⟨display, run, ?_, status, holds.2 _ status⟩
  rw [← state]
  exact holds.1 free (List.any_eq_true.mp posted)

end StatusDisplay

end MightyMouse
