import MightyMouse.WorkerClassSteps

/-!
# What the service tells the UI

The synchronized methods of `WorkerClass` set `mState` and post a message that
carries the new state; `connected()` posts the name of the device before.  No
other step changes `mState` or posts a message of these two kinds.
-/

namespace MightyMouse

namespace WorkerClass

open StatefulBody

/-- The message is about the state of the service or the device. -/
def Message.isStatus : Message → Bool
  | .stateChange _ | .deviceName _ => true
  | .toast _ | .read _ | .write _ => false

/-- The steps that hold the lock of the service. -/
def Step.isLocked : Step → Bool
  | .start _ | .connect _ _ _ | .stop | .lockWrite _ | .acceptHandle _ _
  | .failedStart _ _ | .resetConnectThread _ | .handOver _ _
  | .lostStart _ _ | .restart _ _ => true
  | .performWrite _ _ | .acceptTest _ | .acceptReturns _ _ | .acceptThrows _
  | .connectReturns _ | .connectThrows _ | .failedToast _ | .readReturns _ _
  | .readThrows _ | .lostToast _ => false

/-- The device of the call of `connected()` that a step makes. -/
def connectedDevice (worker : Worker) : Step → Option BluetoothDevice
  | .acceptHandle id _ =>
      match worker.acceptThreads[id]?.map AcceptThread.point, worker.mState with
      | some (.accepted _ device), .stateListen
      | some (.accepted _ device), .stateConnecting => some device
      | _, _ => none
  | .handOver id _ =>
      worker.connectThreads[id]?.map ConnectThread.mmDevice
  | _ => none

section Bodies

/-- The state and the messages posted so far. -/
def Telling (state : ServiceState) (told : List Message) (worker : Worker) :
    Prop :=
  worker.mState = state ∧ worker.posted = told

/-- The body leads to the next state and posts the messages.  If it throws,
it has done neither. -/
def Tells (state : ServiceState) (told : List Message) (next : ServiceState)
    (messages : List Message) (body : Body Unit) : Prop :=
  Triple (Telling state told) body
    (fun _ => Telling next (told ++ messages)) (Telling state told)

/-- The body neither changes the state nor posts anything. -/
def Silent (body : Body Unit) : Prop :=
  ∀ state told, Triple (Telling state told) body
    (fun _ => Telling state told) (Telling state told)

/-- The update touches neither `mState` nor the messages. -/
def Mute (update : Worker → Worker) : Prop :=
  ∀ worker, (update worker).mState = worker.mState ∧
    (update worker).posted = worker.posted

theorem Mute.telling {update : Worker → Worker} (mute : Mute update)
    {state : ServiceState} {told : List Message} {worker : Worker}
    (telling : Telling state told worker) :
    Telling state told (update worker) :=
  ⟨(mute worker).1.trans telling.1, (mute worker).2.trans telling.2⟩

theorem Mute.silent {update : Worker → Worker} (mute : Mute update) :
    Silent (modify update) :=
  fun _ _ => triple_modify fun _ => mute.telling

theorem Silent.andThen {first second : Body Unit} (silent : Silent first)
    (silentNext : Silent second) : Silent (do first; second) :=
  fun state told => triple_bind (silent state told) fun _ =>
    silentNext state told

theorem silent_pure : Silent (pure ()) :=
  fun _ _ => triple_pure fun _ telling => telling

theorem silent_throw (raised : JavaException) : Silent (throw raised) :=
  fun _ _ => triple_throw fun _ telling => telling

/-- What a silent body does may depend on the state of the service. -/
theorem silent_get {rest : Worker → Body Unit}
    (silent : ∀ worker, Silent (rest worker)) :
    Silent (do let worker ← get; rest worker) :=
  fun state told => triple_get_keep fun worker => silent worker state told

variable {state next : ServiceState} {told messages : List Message}

theorem Silent.thenTells {first second : Body Unit} (silent : Silent first)
    (tells : Tells state told next messages second) :
    Tells state told next messages (do first; second) :=
  triple_bind (silent state told) fun _ => tells

/-- An update cannot throw, so that it may follow the messages. -/
theorem Tells.thenModify {body : Body Unit} {update : Worker → Worker}
    (tells : Tells state told next messages body) (mute : Mute update) :
    Tells state told next messages (do body; modify update) :=
  triple_bind tells fun _ => triple_modify fun _ => mute.telling

theorem Silent.tells {body : Body Unit} (silent : Silent body)
    (state : ServiceState) (told : List Message) :
    Tells state told state [] body := by
  rw [Tells, List.append_nil]
  exact silent state told

theorem tells_post (message : Message) :
    Tells state told state [message] (post message) :=
  triple_modify fun _ telling =>
    ⟨telling.1, congrArg (· ++ [message]) telling.2⟩

/-- `setState` cannot throw, so that it may follow other messages. -/
theorem triple_setState (next : ServiceState) {thrown : Worker → Prop} :
    Triple (fun worker => worker.posted = told) (setState next)
      (fun _ => Telling next (told ++ [.stateChange next])) thrown :=
  triple_bind (triple_modify fun _ posted => ⟨rfl, posted⟩)
    fun _ => triple_modify fun worker (telling : Telling next told worker) =>
      ⟨telling.1, congrArg (· ++ [Message.stateChange next]) telling.2⟩

theorem tells_setState (next : ServiceState) :
    Tells state told next [.stateChange next] (setState next) :=
  (triple_setState next).weaken (fun _ telling => telling.2)
    (fun _ _ telling => telling) fun _ telling => telling

theorem silent_closeSocket (socket : SocketId) : Silent (closeSocket socket) :=
  Mute.silent fun _ => ⟨rfl, rfl⟩

/-- The flag set by a `cancel()` is nothing the UI hears of. -/
theorem silent_flagged {flag : Worker → Worker} (mute : Mute flag)
    {rest : Worker → Body Unit} (silent : ∀ worker, Silent (rest worker)) :
    Silent (do modify flag; let worker ← get; rest worker) :=
  mute.silent.andThen (silent_get silent)

theorem silent_cancelAccept (id : ThreadId) : Silent (cancelAccept id) := by
  refine silent_flagged (fun _ => by constructor <;> rfl) fun worker => ?_
  split
  · exact silent_throw _
  · exact Mute.silent fun _ => by constructor <;> rfl

theorem silent_cancelConnect (id : ThreadId) : Silent (cancelConnect id) := by
  refine silent_flagged (fun _ => by constructor <;> rfl) fun worker => ?_
  split
  · exact silent_throw _
  · exact silent_closeSocket _

theorem silent_cancelConnected (id : ThreadId) :
    Silent (cancelConnected id) := by
  refine silent_flagged (fun _ => by constructor <;> rfl) fun worker => ?_
  split
  · exact silent_throw _
  · exact silent_closeSocket _

theorem silent_dropThread {field : Worker → Option ThreadId}
    {cancel : ThreadId → Body Unit} {clear : Worker → Worker}
    (cancels : ∀ id, Silent (cancel id)) (mute : Mute clear) :
    Silent (dropThread field cancel clear) := by
  refine silent_get fun worker => ?_
  split
  · exact silent_pure
  · next id _ => exact (cancels id).andThen mute.silent

theorem silent_dropConnectThread : Silent dropConnectThread :=
  silent_dropThread silent_cancelConnect fun _ => ⟨rfl, rfl⟩

theorem silent_dropConnectedThread : Silent dropConnectedThread :=
  silent_dropThread silent_cancelConnected fun _ => ⟨rfl, rfl⟩

theorem silent_dropAcceptThread (secure : Bool) :
    Silent (dropAcceptThread secure) := by
  apply silent_dropThread silent_cancelAccept
  cases secure <;> exact fun _ => ⟨rfl, rfl⟩

theorem silent_dropAllThreads : Silent dropAllThreads :=
  silent_dropConnectThread.andThen (silent_dropConnectedThread.andThen
    ((silent_dropAcceptThread true).andThen (silent_dropAcceptThread false)))

theorem silent_dropPendingConnectThread : Silent dropPendingConnectThread := by
  refine silent_get fun worker => ?_
  split
  · exact silent_dropConnectThread
  · exact silent_pure

theorem tells_startAcceptThread (secure listens : Bool)
    {thrown : Worker → Prop} :
    Triple (Telling state told) (startAcceptThread secure listens)
      (fun _ => Telling state told) thrown := by
  apply triple_modify
  intro worker telling
  split
  · cases secure <;> exact telling
  · exact telling

theorem mute_newConnectThread (device : BluetoothDevice)
    (secure creates : Bool) : Mute (newConnectThread device secure creates) :=
  fun _ => ⟨rfl, rfl⟩

theorem mute_newConnectedThread (socket : SocketId) (streams : Streams) :
    Mute (newConnectedThread socket streams) :=
  fun _ => ⟨rfl, rfl⟩

theorem tells_start (listens : Listens) :
    Tells state told .stateListen [.stateChange .stateListen]
      (start listens) := by
  refine silent_dropConnectThread.thenTells
    (silent_dropConnectedThread.thenTells ?_)
  exact triple_bind (tells_setState .stateListen) fun _ =>
    triple_bind (tells_startAcceptThread true _) fun _ =>
      tells_startAcceptThread false _

theorem tells_connect (device : BluetoothDevice) (secure creates : Bool) :
    Tells state told .stateConnecting [.stateChange .stateConnecting]
      (connect device secure creates) :=
  silent_dropPendingConnectThread.thenTells
    (silent_dropConnectedThread.thenTells
      ((mute_newConnectThread device secure creates).silent.thenTells
        (tells_setState _)))

theorem tells_connected (socket : SocketId) (device : BluetoothDevice)
    (streams : Streams) :
    Tells state told .stateConnected
      [.deviceName device.name, .stateChange .stateConnected]
      (connected socket device streams) := by
  refine silent_dropAllThreads.thenTells
    ((mute_newConnectedThread socket streams).silent.thenTells ?_)
  refine triple_bind (tells_post (.deviceName device.name)) fun _ => ?_
  refine (triple_setState .stateConnected).weaken
    (fun _ telling => telling.2) (fun _ _ telling => ?_) fun _ thrown => thrown
  rwa [List.append_assoc] at telling

theorem tells_stop :
    Tells state told .stateNone [.stateChange .stateNone] stop :=
  silent_dropAllThreads.thenTells (tells_setState _)

theorem tells_handleAccepted {socket : SocketId} {device : BluetoothDevice}
    {streams : Streams}
    (ready : state = .stateListen ∨ state = .stateConnecting) :
    Tells state told .stateConnected
      [.deviceName device.name, .stateChange .stateConnected]
      (handleAccepted socket device streams) := by
  refine triple_get_bind fun worker telling => ?_
  have connects := (@tells_connected state told socket device
    streams).atState telling
  rcases ready with rfl | rfl
  · rw [telling.1]
    exact connects
  · rw [telling.1]
    exact connects

theorem tells_handleRefused {socket : SocketId} {device : BluetoothDevice}
    {streams : Streams}
    (unready : state = .stateNone ∨ state = .stateConnected) :
    Tells state told state [] (handleAccepted socket device streams) := by
  refine triple_get_bind fun worker telling => ?_
  have closes := ((silent_closeSocket socket).tells state told).atState telling
  rcases unready with rfl | rfl
  · rw [telling.1]
    exact closes
  · rw [telling.1]
    exact closes

end Bodies

section Steps

/-- What a step may tell: nothing about the state, which then stays as it is,
or the new state, after the name of the device if the service is connected. -/
inductive Tidings (locked : Bool) (device : Option BluetoothDevice)
    (state : ServiceState) : List Message → ServiceState → Prop
  | quiet {told : List Message}
      (none : ∀ message ∈ told, message.isStatus = false) :
      Tidings locked device state told state
  | state {next : ServiceState} (holds : locked = true)
      (other : next ≠ .stateConnected) :
      Tidings locked device state [.stateChange next] next
  | connected {found : BluetoothDevice} (holds : locked = true)
      (origin : device = some found) :
      Tidings locked device state
        [.deviceName found.name, .stateChange .stateConnected] .stateConnected

/-- Without the lock a step neither changes the state nor tells of it. -/
theorem Tidings.of_unlocked {device : Option BluetoothDevice}
    {state next : ServiceState} {told : List Message}
    (tidings : Tidings false device state told next) :
    next = state ∧ ∀ message ∈ told, message.isStatus = false := by
  cases tidings with
  | quiet none => exact ⟨rfl, none⟩
  | state holds => cases holds
  | connected holds => cases holds

/-- The body tells what a step may tell. -/
def Announces (locked : Bool) (device : Option BluetoothDevice)
    (worker : Worker) (body : Body Unit) : Prop :=
  ∃ next messages, Tells worker.mState worker.posted next messages body ∧
    Tidings locked device worker.mState messages next

variable {locked : Bool} {device : Option BluetoothDevice} {worker : Worker}
variable {body : Body Unit}

theorem Announces.execute (announces : Announces locked device worker body) :
    ∃ told, (execute body worker).posted = worker.posted ++ told ∧
      Tidings locked device worker.mState told
        (execute body worker).mState := by
  obtain ⟨next, messages, tells, tidings⟩ := announces
  rcases execute_cases (tells.atState ⟨rfl, rfl⟩) with
    ⟨state, posted⟩ | ⟨after, ⟨state, posted⟩, result⟩
  · refine ⟨messages, posted, ?_⟩
    rw [state]
    exact tidings
  · refine ⟨[], ?_, ?_⟩
    · rw [result, List.append_nil]
      exact posted
    · rw [result]
      change Tidings locked device worker.mState [] after.mState
      rw [state]
      exact .quiet (by simp)

theorem Silent.announces (silent : Silent body) :
    Announces locked device worker body :=
  ⟨_, _, silent.tells _ _, .quiet (by simp)⟩

theorem silent_crash : Silent crash :=
  silent_throw .nullPointer

theorem mute_moveAccept (id : ThreadId) (point : AcceptPoint) :
    Mute fun worker => { worker with
      acceptThreads := worker.acceptThreads.modify id fun old =>
        { old with point := point } } :=
  fun _ => ⟨rfl, rfl⟩

theorem mute_moveConnect (id : ThreadId) (point : ConnectPoint) :
    Mute fun worker => { worker with
      connectThreads := worker.connectThreads.modify id fun old =>
        { old with point := point } } :=
  fun _ => ⟨rfl, rfl⟩

theorem mute_moveConnected (id : ThreadId) (point : ConnectedPoint) :
    Mute fun worker => { worker with
      connectedThreads := worker.connectedThreads.modify id fun old =>
        { old with point := point } } :=
  fun _ => ⟨rfl, rfl⟩

theorem silent_moveAccept (id : ThreadId) (point : AcceptPoint) :
    Silent (moveAccept id point) :=
  (mute_moveAccept id point).silent

theorem silent_moveConnect (id : ThreadId) (point : ConnectPoint) :
    Silent (moveConnect id point) :=
  (mute_moveConnect id point).silent

theorem silent_moveConnected (id : ThreadId) (point : ConnectedPoint) :
    Silent (moveConnected id point) :=
  (mute_moveConnected id point).silent

/-- A message that is not about the state, followed by an update. -/
theorem announces_post {message : Message} (other : message.isStatus = false)
    {update : Worker → Worker} (mute : Mute update) :
    Announces locked device worker (do post message; modify update) :=
  ⟨_, _, (tells_post message).thenModify mute, .quiet (by simpa using other)⟩

theorem announces_start (listens : Listens) {update : Worker → Worker}
    (mute : Mute update) :
    Announces true device worker (do start listens; modify update) :=
  ⟨_, _, (tells_start listens).thenModify mute, .state rfl (by simp)⟩

/-- The device is handed to `connected()` in two of the four states. -/
theorem announces_acceptHandle {id : ThreadId} {thread : AcceptThread}
    {socket : SocketId} {remote : BluetoothDevice} (streams : Streams)
    (found : worker.acceptThreads[id]? = some thread)
    (stands : thread.point = .accepted socket remote) :
    Announces true (connectedDevice worker (.acceptHandle id streams)) worker
      (do handleAccepted socket remote streams; moveAccept id .testing) := by
  have mute := mute_moveAccept id .testing
  cases state : worker.mState with
  | stateListen =>
      refine ⟨_, _, (tells_handleAccepted (.inl state)).thenModify mute,
        .connected rfl ?_⟩
      simp [connectedDevice, found, stands, state]
  | stateConnecting =>
      refine ⟨_, _, (tells_handleAccepted (.inr state)).thenModify mute,
        .connected rfl ?_⟩
      simp [connectedDevice, found, stands, state]
  | stateNone =>
      exact ⟨_, _, (tells_handleRefused (.inl state)).thenModify mute,
        .quiet (by simp)⟩
  | stateConnected =>
      exact ⟨_, _, (tells_handleRefused (.inr state)).thenModify mute,
        .quiet (by simp)⟩

theorem announces_write (index : Nat) (out : List Byte) (succeeds : Bool) :
    Announces locked device worker (do
      shareWritten out succeeds
      modify fun worker => { worker with
        writers := worker.writers.eraseIdx index }) := by
  have mute : Mute fun worker : Worker =>
      { worker with writers := worker.writers.eraseIdx index } :=
    fun _ => ⟨rfl, rfl⟩
  cases succeeds with
  | true => exact announces_post rfl mute
  | false => exact mute.silent.announces

/-- Every body tells what a step may tell. -/
theorem runs_announces {label : Step} (runs : Runs worker label body) :
    Announces label.isLocked (connectedDevice worker label) worker body := by
  cases runs with
  | nullUse => exact silent_crash.announces
  | start listens => exact ⟨_, _, tells_start listens, .state rfl (by simp)⟩
  | connect device secure creates =>
      exact ⟨_, _, tells_connect device secure creates, .state rfl (by simp)⟩
  | stop => exact ⟨_, _, tells_stop, .state rfl (by simp)⟩
  | lockWrite out =>
      refine Silent.announces (Mute.silent fun worker => ?_)
      split <;> exact ⟨rfl, rfl⟩
  | write succeeds => exact announces_write _ _ succeeds
  | leaveLoop | block | acceptThrows =>
      exact (silent_moveAccept _ _).announces
  | acceptReturns device =>
      exact (Silent.andThen (Mute.silent fun _ => by constructor <;> rfl)
        (silent_moveAccept _ _)).announces
  | acceptHandle streams found stands =>
      exact announces_acceptHandle streams found stands
  | connectReturns => exact (silent_moveConnect _ _).announces
  | connectThrows =>
      exact ((silent_closeSocket _).andThen (silent_moveConnect _ _)).announces
  | failedToast => exact announces_post rfl (mute_moveConnect _ _)
  | failedStart listens => exact announces_start listens (mute_moveConnect _ _)
  | resetConnectThread =>
      exact (Silent.andThen (Mute.silent fun _ => by constructor <;> rfl)
        (silent_moveConnect _ _)).announces
  | handOver streams found =>
      refine ⟨_, _, (tells_connected _ _ streams).thenModify
        (mute_moveConnect _ _), .connected rfl ?_⟩
      simp [connectedDevice, found]
  | readReturns bytes =>
      exact ⟨_, _, tells_post _, .quiet (by simp [Message.isStatus])⟩
  | readThrows => exact (silent_moveConnected _ _).announces
  | lostToast => exact announces_post rfl (mute_moveConnected _ _)
  | lostStart listens | restart listens =>
      exact announces_start listens (mute_moveConnected _ _)

/-- Every step tells the state that it leads to, and nothing else about the
state. -/
theorem step_tidings {label : Step} {next : Worker}
    (taken : step worker label = some next) :
    ∃ told, next.posted = worker.posted ++ told ∧
      Tidings label.isLocked (connectedDevice worker label) worker.mState told
        next.mState := by
  obtain ⟨_, body, runs, rfl⟩ := step_runs taken
  exact (runs_announces runs).execute

end Steps

end WorkerClass

end MightyMouse
