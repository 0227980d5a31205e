import MightyMouse.LabelledRun
import MightyMouse.WorkerClass

/-!
# The activities of one process

Android creates and destroys instances of `MouseAndKeyboardActivity` and
`TenKeyActivity` and calls back their lifecycle methods; the static field
`mSingleton` of the dispatcher outlives them.  A callback that dereferences a
null field throws, and the process dies.
-/

namespace MightyMouse

open WorkerClass

namespace ActivityLifecycle

/-- Activities and services are named by their order of creation. -/
abbrev ActivityId := Nat
abbrev ServiceId := Nat

inductive Phase
  | created
  | started
  | resumed
  | paused
  | stopped
  | destroyed
  deriving DecidableEq, Repr

/-- The callbacks that move an activity from one phase to another. -/
inductive Callback
  | onStart
  | onResume
  | onPause
  | onStop
  | onDestroy
  deriving DecidableEq, Repr

/-- The order of callbacks that Android keeps to. -/
def Phase.after : Phase → Callback → Option Phase
  | .created, .onStart | .stopped, .onStart => some .started
  | .started, .onResume | .paused, .onResume => some .resumed
  | .resumed, .onPause => some .paused
  | .started, .onStop | .paused, .onStop => some .stopped
  | .created, .onDestroy | .stopped, .onDestroy => some .destroyed
  | _, _ => none

inductive Context
  | mouseAndKeyboard (id : ActivityId)
  | tenKey (id : ActivityId)
  deriving DecidableEq, Repr

/-- The `DispatcherSingleton`, with a service that may be null. -/
structure Singleton where
  mChatService : Option ServiceId
  mContext : Context
  deriving DecidableEq, Repr

/-- The sender thread of the track pad. -/
structure SenderThread where
  alive : Bool
  mKeepRunning : Bool
  deriving DecidableEq, Repr

/-- An instance of `MouseAndKeyboardActivity`.  Fields of type `Bool` tell
whether the Java field is set; `sender` belongs to the track pad that the
layout creates, and `enableRequests` counts the requests to enable Bluetooth
that have not been answered yet. -/
structure MouseAndKeyboard where
  phase : Phase
  mBluetoothAdapter : Bool
  mChatService : Option ServiceId
  mAutoSend : Option Bool
  mDispatcher : Bool
  mTrackPadView : Bool
  sender : SenderThread
  enableRequests : Nat
  finishing : Bool
  deriving DecidableEq, Repr

/-- The process: the static singleton, all services ever created, and the
instances of both activities. -/
structure Process where
  mSingleton : Option Singleton
  services : List Worker
  activities : List MouseAndKeyboard
  tenKeys : List Phase
  crashed : Bool
  deriving DecidableEq, Repr

def Process.initial : Process where
  mSingleton := none
  services := []
  activities := []
  tenKeys := []
  crashed := false

def Process.put (process : Process) (id : ActivityId)
    (activity : MouseAndKeyboard) : Process :=
  { process with activities := process.activities.set id activity }

/-- Only the first call uses `chatService`. -/
def getSingleton (context : Context) (chatService : Option ServiceId)
    (process : Process) : Process :=
  let singleton := process.mSingleton.getD ⟨chatService, context⟩
  { process with mSingleton := some { singleton with mContext := context } }

/-- `DEFAULT_AUTO_SEND`. -/
def defaultAutoSend : Bool := false

/-- `onCreate`: inflating the layout creates the track pad, which starts its
sender thread; without an adapter the activity finishes. -/
def newMouseAndKeyboard (adapter : Bool) : MouseAndKeyboard where
  phase := .created
  mBluetoothAdapter := adapter
  mChatService := none
  mAutoSend := none
  mDispatcher := false
  mTrackPadView := false
  sender := ⟨true, true⟩
  enableRequests := 0
  finishing := !adapter

/-- A callback returns the new fields of the activity and the process, or
`none` for a `NullPointerException`. -/
abbrev Handler :=
  MouseAndKeyboard → Process → Option (MouseAndKeyboard × Process)

def setupChat (activity : MouseAndKeyboard) (process : Process) :
    MouseAndKeyboard × Process :=
  ({ activity with mChatService := some process.services.length },
    { process with services := process.services ++ [Worker.initial] })

def onStart (isEnabled : Bool) : Handler := fun activity process =>
  if !activity.mBluetoothAdapter then none
  else if !isEnabled then
    some ({ activity with enableRequests := activity.enableRequests + 1 },
      process)
  else if activity.mChatService = none then some (setupChat activity process)
  else some (activity, process)

/-- Run a method of a service, if there is one. -/
def callService (body : Body Unit) (service : Option ServiceId)
    (process : Process) : Process :=
  match service with
  | none => process
  | some id =>
      { process with services := process.services.modify id (execute body) }

/-- Only in `STATE_NONE` the service has not been started already. -/
def startIfNone (listens : Listens) : Body Unit := do
  let worker ← get
  if worker.mState = .stateNone then start listens else pure ()

def onResume (id : ActivityId) (listens : Listens) : Handler :=
  fun activity process =>
    let started := callService (startIfNone listens) activity.mChatService
      process
    some
      ({ activity with
          mAutoSend := some defaultAutoSend
          mDispatcher := true
          mTrackPadView := true },
        getSingleton (.mouseAndKeyboard id) activity.mChatService started)

def onPause : Handler := fun activity process => some (activity, process)

/-- `stopSendingThread` and `waitUntilStop`, called through `mTrackPadView`. -/
def stopSender (activity : MouseAndKeyboard) : Option MouseAndKeyboard :=
  if activity.mTrackPadView then some { activity with sender := ⟨false, false⟩ }
  else none

def onStop : Handler := fun activity process =>
  (stopSender activity).map fun silent => (silent, process)

def onDestroy : Handler := fun activity process =>
  (stopSender activity).map fun silent =>
    (silent, callService WorkerClass.stop silent.mChatService process)

/-- `onActivityResult` for `REQUEST_ENABLE_BT`. -/
def onEnableResult (resultOk : Bool) : Handler := fun activity process =>
  let answered :=
    { activity with enableRequests := activity.enableRequests - 1 }
  if resultOk then some (setupChat answered process)
  else some ({ answered with finishing := true }, process)

/-- What happens in the process: callbacks of the activities, with the answers
of the system that they ask for, and steps of the services. -/
inductive Event
  | onCreate (adapter : Bool)
  | onStart (id : ActivityId) (isEnabled : Bool)
  | onResume (id : ActivityId) (listens : Listens)
  | onPause (id : ActivityId)
  | onStop (id : ActivityId)
  | onDestroy (id : ActivityId)
  | onEnableResult (id : ActivityId) (resultOk : Bool)
  | createTenKey
  | tenKey (id : ActivityId) (callback : Callback)
  | service (id : ServiceId) (label : WorkerClass.Step)
  deriving DecidableEq, Repr

/-- One activity at a time is in front. -/
def Process.noneResumed (process : Process) : Bool :=
  process.activities.all (fun activity => activity.phase != .resumed) &&
    process.tenKeys.all (fun phase => phase != .resumed)

/-- Run a handler; an exception that leaves it ends the process. -/
def handle (process : Process) (id : ActivityId)
    (activity : MouseAndKeyboard) (handler : Handler) : Process :=
  match handler activity process with
  | none => { process with crashed := true }
  | some (after, next) => next.put id after

/-- A callback that moves the activity to another phase. -/
def lifecycle (process : Process) (id : ActivityId) (callback : Callback)
    (handler : Handler) : Option Process := do
  let activity ← process.activities[id]?
  let phase ← activity.phase.after callback
  some (handle process id { activity with phase := phase } handler)

/-- `TenKeyActivity` keeps no service of its own. -/
def tenKeyCallback (id : ActivityId) (process : Process) :
    Callback → Process
  | .onResume => getSingleton (.tenKey id) none process
  | _ => process

/-- A finishing activity is not started again, and a result is delivered
before the activity is resumed. -/
def Process.admits (process : Process) : Event → Bool
  | .onStart id _ => process.activities[id]?.any fun activity =>
      !activity.finishing
  | .onResume _ _ | .tenKey _ .onResume => process.noneResumed
  | .onEnableResult id _ => process.activities[id]?.any fun activity =>
      0 < activity.enableRequests &&
        (activity.phase == .started || activity.phase == .paused)
  | _ => true

/-- What an event does, or `none` if it cannot happen. -/
def perform (process : Process) : Event → Option Process
  | .onCreate adapter =>
      some { process with
        activities := process.activities ++ [newMouseAndKeyboard adapter] }
  | .onStart id isEnabled => lifecycle process id .onStart (onStart isEnabled)
  | .onResume id listens =>
      lifecycle process id .onResume (onResume id listens)
  | .onPause id => lifecycle process id .onPause onPause
  | .onStop id => lifecycle process id .onStop onStop
  | .onDestroy id => lifecycle process id .onDestroy onDestroy
  | .onEnableResult id resultOk =>
      process.activities[id]?.map fun activity =>
        handle process id activity (onEnableResult resultOk)
  | .createTenKey =>
      some { process with tenKeys := process.tenKeys ++ [.created] }
  | .tenKey id callback => do
      let before ← process.tenKeys[id]?
      let phase ← before.after callback
      some (tenKeyCallback id
        { process with tenKeys := process.tenKeys.set id phase } callback)
  | .service id label =>
      (process.services[id]?.bind (WorkerClass.step · label)).map fun worker =>
        { process with services := process.services.set id worker }

/-- One step of the process, which ends with the first uncaught exception. -/
def step (process : Process) (event : Event) : Option Process :=
  if process.crashed || process.services.any (fun worker => worker.crashed)
  then none
  else if process.admits event then perform process event
  else none

/-- The service field of an activity. -/
def Process.chatService (process : Process) (id : ActivityId) :
    Option ServiceId :=
  process.activities[id]?.bind fun activity => activity.mChatService

/-- The service that the dispatcher talks to. -/
def Process.dispatcherService (process : Process) : Option ServiceId :=
  process.mSingleton.bind fun singleton => singleton.mChatService

end ActivityLifecycle

end MightyMouse
