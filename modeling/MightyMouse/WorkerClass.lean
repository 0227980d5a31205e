import MightyMouse.SerialProtocol

/-!
# The Bluetooth service

`WorkerClass` shares five fields between the UI thread and any number of
accept, connect and connected threads.  Its synchronized methods are modelled
as bodies that run to completion or die with a `NullPointerException`,
keeping the state reached so far; the steps of a run are these bodies and the
return or failure of each blocking call.  Socket creation may fail, which
leaves the field of the thread object null, as in its constructor.
-/

namespace MightyMouse

/-- The constants `STATE_NONE`, `STATE_LISTEN`, `STATE_CONNECTING` and
`STATE_CONNECTED`. -/
inductive ServiceState
  | stateNone
  | stateListen
  | stateConnecting
  | stateConnected
  deriving DecidableEq, Repr

/-- A Java `char`. -/
abbrev JavaChar := BitVec 16

/-- A text of characters of the basic plane. -/
def javaText (text : String) : List JavaChar :=
  text.toList.map fun c => BitVec.ofNat 16 c.toNat

inductive BondState
  | bondNone
  | bondBonding
  | bondBonded
  deriving DecidableEq, Repr

/-- A device; an address has the form `00:11:22:AA:BB:CC`. -/
structure BluetoothDevice where
  name : Option (List JavaChar)
  address : Vector JavaChar 17
  bondState : BondState
  deriving DecidableEq, Repr

/-- A device without a name.  Its address is all zeros but for the last
digit. -/
def BluetoothDevice.unnamed (digit : JavaChar) : BluetoothDevice where
  name := none
  address := #v[48, 48, 58, 48, 48, 58, 48, 48, 58, 48, 48, 58, 48, 48, 58,
    48, digit]
  bondState := .bondNone

namespace WorkerClass

/-- Thread objects and sockets are named by their order of creation. -/
abbrev ThreadId := Nat
abbrev SocketId := Nat

/-- A `BluetoothSocket`, either returned by `accept()` or created for an
outgoing connection. -/
structure BluetoothSocket where
  accepted : Bool
  closed : Bool
  deriving DecidableEq, Repr

/-- A `BluetoothServerSocket` belongs to one accept thread. -/
structure BluetoothServerSocket where
  closed : Bool
  deriving DecidableEq, Repr

/-- Where `AcceptThread.run` stands: at the loop test, blocked in `accept()`,
about to enter the synchronized block with a socket, or returned. -/
inductive AcceptPoint
  | testing
  | accepting
  | accepted (socket : SocketId) (device : BluetoothDevice)
  | finished
  deriving DecidableEq, Repr

structure AcceptThread where
  secure : Bool
  mmServerSocket : Option BluetoothServerSocket
  cancelled : Bool
  point : AcceptPoint
  deriving DecidableEq, Repr

/-- Where `ConnectThread.run` stands: blocked in `connect()`, in
`connectionFailed` before the toast and before `start()`, before the block
that resets `mConnectThread`, before `connected()`, or returned. -/
inductive ConnectPoint
  | connecting
  | failed
  | restarting
  | resetting
  | handingOver
  | finished
  deriving DecidableEq, Repr

structure ConnectThread where
  mmDevice : BluetoothDevice
  secure : Bool
  mmSocket : Option SocketId
  cancelled : Bool
  point : ConnectPoint
  deriving DecidableEq, Repr

/-- Where `ConnectedThread.run` stands: blocked in `read()`, in
`connectionLost` before the toast and before its `start()`, before the second
`start()`, or returned. -/
inductive ConnectedPoint
  | reading
  | lost
  | restarting
  | restartingAgain
  | finished
  deriving DecidableEq, Repr

structure ConnectedThread where
  mmSocket : SocketId
  mmInStream : Bool
  mmOutStream : Bool
  cancelled : Bool
  point : ConnectedPoint
  deriving DecidableEq, Repr

/-- Messages sent to `mHandler`. -/
inductive Message
  | stateChange (state : ServiceState)
  | deviceName (name : Option (List JavaChar))
  | toast (text : String)
  | read (bytes : List Byte)
  | write (buffer : List Byte)
  deriving DecidableEq, Repr

/-- A caller of `write` that has left the synchronized block with its copy
`r` of `mConnectedThread`. -/
structure Writer where
  r : Option ThreadId
  out : List Byte
  deriving DecidableEq, Repr

/-- The fields of the service, the thread objects and sockets created so far,
and the messages posted, oldest first.  `crashed` records an uncaught
`NullPointerException`, after which the process takes no further step. -/
structure Worker where
  mState : ServiceState
  mSecureAcceptThread : Option ThreadId
  mInsecureAcceptThread : Option ThreadId
  mConnectThread : Option ThreadId
  mConnectedThread : Option ThreadId
  acceptThreads : List AcceptThread
  connectThreads : List ConnectThread
  connectedThreads : List ConnectedThread
  sockets : List BluetoothSocket
  writers : List Writer
  posted : List Message
  crashed : Bool
  deriving DecidableEq, Repr

/-- The service as its constructor leaves it. -/
def Worker.initial : Worker where
  mState := .stateNone
  mSecureAcceptThread := none
  mInsecureAcceptThread := none
  mConnectThread := none
  mConnectedThread := none
  acceptThreads := []
  connectThreads := []
  connectedThreads := []
  sockets := []
  writers := []
  posted := []
  crashed := false

inductive JavaException
  | nullPointer
  deriving DecidableEq, Repr

/-- A method body: it returns or throws, and keeps what it has written. -/
abbrev Body := EStateM JavaException Worker

def post (message : Message) : Body Unit :=
  modify fun worker => { worker with posted := worker.posted ++ [message] }

def setState (state : ServiceState) : Body Unit := do
  modify fun worker => { worker with mState := state }
  post (.stateChange state)

def closeSocket (socket : SocketId) : Body Unit :=
  modify fun worker => { worker with
    sockets := worker.sockets.modify socket fun old => { old with closed := true } }

/-- `AcceptThread.cancel()`. -/
def cancelAccept (thread : ThreadId) : Body Unit := do
  modify fun worker => { worker with
    acceptThreads := worker.acceptThreads.modify thread fun old =>
      { old with cancelled := true } }
  let worker ← get
  match worker.acceptThreads[thread]?.bind (·.mmServerSocket) with
  | none => throw .nullPointer
  | some _ =>
      modify fun worker => { worker with
        acceptThreads := worker.acceptThreads.modify thread fun old =>
          { old with mmServerSocket := some ⟨true⟩ } }

/-- `ConnectThread.cancel()`. -/
def cancelConnect (thread : ThreadId) : Body Unit := do
  modify fun worker => { worker with
    connectThreads := worker.connectThreads.modify thread fun old =>
      { old with cancelled := true } }
  let worker ← get
  match worker.connectThreads[thread]?.bind (·.mmSocket) with
  | none => throw .nullPointer
  | some socket => closeSocket socket

/-- `ConnectedThread.cancel()`. -/
def cancelConnected (thread : ThreadId) : Body Unit := do
  modify fun worker => { worker with
    connectedThreads := worker.connectedThreads.modify thread fun old =>
      { old with cancelled := true } }
  let worker ← get
  match worker.connectedThreads[thread]? with
  | none => throw .nullPointer
  | some thread => closeSocket thread.mmSocket

/-- `if (mThread != null) {mThread.cancel(); mThread = null;}` for one of the
four thread fields. -/
def dropThread (field : Worker → Option ThreadId)
    (cancel : ThreadId → Body Unit) (clear : Worker → Worker) :
    Body Unit := do
  let worker ← get
  match field worker with
  | none => pure ()
  | some thread =>
      cancel thread
      modify clear

def dropConnectThread : Body Unit :=
  dropThread Worker.mConnectThread cancelConnect fun worker =>
    { worker with mConnectThread := none }

def dropConnectedThread : Body Unit :=
  dropThread Worker.mConnectedThread cancelConnected fun worker =>
    { worker with mConnectedThread := none }

/-- The field for the secure or the insecure accept thread. -/
def Worker.acceptThread (worker : Worker) (secure : Bool) : Option ThreadId :=
  if secure then worker.mSecureAcceptThread else worker.mInsecureAcceptThread

def Worker.setAcceptThread (worker : Worker) (secure : Bool)
    (thread : Option ThreadId) : Worker :=
  if secure then { worker with mSecureAcceptThread := thread }
  else { worker with mInsecureAcceptThread := thread }

def dropAcceptThread (secure : Bool) : Body Unit :=
  dropThread (Worker.acceptThread · secure) cancelAccept fun worker =>
    worker.setAcceptThread secure none

def dropSecureAcceptThread : Body Unit :=
  dropAcceptThread true

def dropInsecureAcceptThread : Body Unit :=
  dropAcceptThread false

/-- The four blocks with which both `connected()` and `stop()` begin. -/
def dropAllThreads : Body Unit := do
  dropConnectThread
  dropConnectedThread
  dropSecureAcceptThread
  dropInsecureAcceptThread

/-- The constructor of `AcceptThread`: a failed `listenUsing...` call is
caught and leaves the server socket null. -/
def newAcceptThread (secure listens : Bool) : AcceptThread where
  secure := secure
  mmServerSocket := if listens then some ⟨false⟩ else none
  cancelled := false
  point := .testing

/-- What the two `listenUsing...` calls of one `start()` answer. -/
structure Listens where
  secure : Bool
  insecure : Bool
  deriving DecidableEq, Repr

/-- `if (mThread == null)`: create the accept thread and start it. -/
def startAcceptThread (secure listens : Bool) : Body Unit :=
  modify fun worker =>
    if worker.acceptThread secure = none then
      { worker.setAcceptThread secure (some worker.acceptThreads.length) with
        acceptThreads := worker.acceptThreads ++
          [newAcceptThread secure listens] }
    else worker

def startSecureAcceptThread (listens : Bool) : Body Unit :=
  startAcceptThread true listens

def startInsecureAcceptThread (listens : Bool) : Body Unit :=
  startAcceptThread false listens

def start (listens : Listens) : Body Unit := do
  dropConnectThread
  dropConnectedThread
  setState .stateListen
  startSecureAcceptThread listens.secure
  startInsecureAcceptThread listens.insecure

/-- Create the `ConnectThread`, with its socket when
`createRfcommSocketToServiceRecord` succeeds, and store it. -/
def newConnectThread (device : BluetoothDevice) (secure creates : Bool)
    (worker : Worker) : Worker :=
  { worker with
    mConnectThread := some worker.connectThreads.length
    connectThreads := worker.connectThreads ++
      [{ mmDevice := device
         secure := secure
         mmSocket := if creates then some worker.sockets.length else none
         cancelled := false
         point := .connecting }]
    sockets := if creates then worker.sockets ++ [⟨false, false⟩]
      else worker.sockets }

/-- `connect` cancels a pending attempt in `STATE_CONNECTING` only. -/
def dropPendingConnectThread : Body Unit := do
  let worker ← get
  if worker.mState = .stateConnecting then dropConnectThread else pure ()

def connect (device : BluetoothDevice) (secure creates : Bool) :
    Body Unit := do
  dropPendingConnectThread
  dropConnectedThread
  modify (newConnectThread device secure creates)
  setState .stateConnecting

/-- What `getInputStream` and `getOutputStream` answer; they share one `try`
block, so that a failing first call leaves both streams null. -/
structure Streams where
  input : Bool
  output : Bool
  deriving DecidableEq, Repr

/-- Create the `ConnectedThread` for a socket and store it. -/
def newConnectedThread (socket : SocketId) (streams : Streams)
    (worker : Worker) : Worker :=
  { worker with
    mConnectedThread := some worker.connectedThreads.length
    connectedThreads := worker.connectedThreads ++
      [{ mmSocket := socket
         mmInStream := streams.input
         mmOutStream := streams.input && streams.output
         cancelled := false
         point := .reading }] }

def connected (socket : SocketId) (device : BluetoothDevice)
    (streams : Streams) : Body Unit := do
  dropAllThreads
  modify (newConnectedThread socket streams)
  post (.deviceName device.name)
  setState .stateConnected

def stop : Body Unit := do
  dropAllThreads
  setState .stateNone

/-- The synchronized block of `write`. -/
def lockWrite (out : List Byte) : Body Unit :=
  modify fun worker =>
    if worker.mState = .stateConnected then
      { worker with
        writers := worker.writers ++ [⟨worker.mConnectedThread, out⟩] }
    else worker

/-- The synchronized block of `AcceptThread.run`. -/
def handleAccepted (socket : SocketId) (device : BluetoothDevice)
    (streams : Streams) : Body Unit := do
  let worker ← get
  match worker.mState with
  | .stateListen | .stateConnecting => connected socket device streams
  | .stateNone | .stateConnected => closeSocket socket

/-- The atomic steps of a run.  The first four are calls made by the UI
thread; the others are named after the point of `run()` they leave.  Boolean
arguments are the answers of the socket-creating calls made on the way. -/
inductive Step
  | start (listens : Listens)
  | connect (device : BluetoothDevice) (secure creates : Bool)
  | stop
  | lockWrite (out : List Byte)
  | performWrite (writer : Nat) (succeeds : Bool)
  | acceptTest (thread : ThreadId)
  | acceptReturns (thread : ThreadId) (device : BluetoothDevice)
  | acceptThrows (thread : ThreadId)
  | acceptHandle (thread : ThreadId) (streams : Streams)
  | connectReturns (thread : ThreadId)
  | connectThrows (thread : ThreadId)
  | failedToast (thread : ThreadId)
  | failedStart (thread : ThreadId) (listens : Listens)
  | resetConnectThread (thread : ThreadId)
  | handOver (thread : ThreadId) (streams : Streams)
  | readReturns (thread : ThreadId) (bytes : List Byte)
  | readThrows (thread : ThreadId)
  | lostToast (thread : ThreadId)
  | lostStart (thread : ThreadId) (listens : Listens)
  | restart (thread : ThreadId) (listens : Listens)
  deriving DecidableEq, Repr

def crash : Body Unit :=
  throw .nullPointer

def moveAccept (thread : ThreadId) (point : AcceptPoint) : Body Unit :=
  modify fun worker => { worker with
    acceptThreads := worker.acceptThreads.modify thread fun old =>
      { old with point := point } }

def moveConnect (thread : ThreadId) (point : ConnectPoint) : Body Unit :=
  modify fun worker => { worker with
    connectThreads := worker.connectThreads.modify thread fun old =>
      { old with point := point } }

def moveConnected (thread : ThreadId) (point : ConnectedPoint) : Body Unit :=
  modify fun worker => { worker with
    connectedThreads := worker.connectedThreads.modify thread fun old =>
      { old with point := point } }

/-- The body of a step of an accept thread, or `none` when the thread is not
at the point the step leaves.  The loop reads `mState` outside the lock. -/
def acceptBody (worker : Worker) (id : ThreadId) (thread : AcceptThread) :
    Step → Option (Body Unit)
  | .acceptTest _ =>
      if thread.point = .testing then
        if worker.mState = .stateConnected then
          some (moveAccept id .finished)
        else if thread.mmServerSocket.isNone then some crash
        else some (moveAccept id .accepting)
      else none
  | .acceptReturns _ device =>
      if thread.point = .accepting ∧ thread.mmServerSocket = some ⟨false⟩ then
        some (do
          modify fun worker => { worker with
            sockets := worker.sockets ++ [⟨true, false⟩] }
          moveAccept id (.accepted worker.sockets.length device))
      else none
  | .acceptThrows _ =>
      if thread.point = .accepting then some (moveAccept id .finished)
      else none
  | .acceptHandle _ streams =>
      match thread.point with
      | .accepted socket device => some (do
          handleAccepted socket device streams
          moveAccept id .testing)
      | _ => none
  | _ => none

/-- The body of a step of a connect thread.  `connect()` on a closed socket
throws. -/
def connectBody (worker : Worker) (id : ThreadId) (thread : ConnectThread) :
    Step → Option (Body Unit)
  | .connectReturns _ =>
      if thread.point = .connecting then
        match thread.mmSocket with
        | none => some crash
        | some socket =>
            if worker.sockets[socket]?.any (fun found => !found.closed) then
              some (moveConnect id .resetting)
            else none
      else none
  | .connectThrows _ =>
      if thread.point = .connecting then
        match thread.mmSocket with
        | none => some crash
        | some socket => some (do
            closeSocket socket
            moveConnect id .failed)
      else none
  | .failedToast _ =>
      if thread.point = .failed then
        some (do
          post (.toast "Unable to connect device")
          moveConnect id .restarting)
      else none
  | .failedStart _ listens =>
      if thread.point = .restarting then
        some (do
          start listens
          moveConnect id .finished)
      else none
  | .resetConnectThread _ =>
      if thread.point = .resetting then
        some (do
          modify fun worker => { worker with mConnectThread := none }
          moveConnect id .handingOver)
      else none
  | .handOver _ streams =>
      if thread.point = .handingOver then
        match thread.mmSocket with
        | none => some crash
        | some socket => some (do
            connected socket thread.mmDevice streams
            moveConnect id .finished)
      else none
  | _ => none

/-- The body of a step of a connected thread.  `read()` on a closed socket
throws. -/
def connectedBody (worker : Worker) (id : ThreadId)
    (thread : ConnectedThread) : Step → Option (Body Unit)
  | .readReturns _ bytes =>
      if thread.point = .reading then
        if thread.mmInStream then
          if worker.sockets[thread.mmSocket]?.any
              (fun found => !found.closed) then
            some (post (.read bytes))
          else none
        else some crash
      else none
  | .readThrows _ =>
      if thread.point = .reading then
        if thread.mmInStream then some (moveConnected id .lost)
        else some crash
      else none
  | .lostToast _ =>
      if thread.point = .lost then
        some (do
          post (.toast "Device connection was lost")
          moveConnected id .restarting)
      else none
  | .lostStart _ listens =>
      if thread.point = .restarting then
        some (do
          start listens
          moveConnected id .restartingAgain)
      else none
  | .restart _ listens =>
      if thread.point = .restartingAgain then
        some (do
          start listens
          moveConnected id .finished)
      else none
  | _ => none

/-- `ConnectedThread.write` shares the message with the UI only if the stream
takes the bytes. -/
def shareWritten (buffer : List Byte) (succeeds : Bool) : Body Unit :=
  if succeeds then post (.write buffer) else pure ()

/-- The unsynchronized call `r.write(out)`. -/
def writeBody (worker : Worker) (index : Nat) (writer : Writer)
    (succeeds : Bool) : Body Unit :=
  match writer.r.bind (worker.connectedThreads[·]?) with
  | none => crash
  | some thread =>
      if thread.mmOutStream then do
        shareWritten writer.out succeeds
        modify fun worker => { worker with
          writers := worker.writers.eraseIdx index }
      else crash

/-- The body a step runs, or `none` when the step is not enabled. -/
def bodyOf (worker : Worker) : Step → Option (Body Unit)
  | .start listens => some (start listens)
  | .connect device secure creates => some (connect device secure creates)
  | .stop => some stop
  | .lockWrite out => some (lockWrite out)
  | .performWrite index succeeds =>
      worker.writers[index]?.map fun writer =>
        writeBody worker index writer succeeds
  | step@(.acceptTest id) | step@(.acceptReturns id _)
  | step@(.acceptThrows id) | step@(.acceptHandle id _) =>
      worker.acceptThreads[id]?.bind fun thread =>
        acceptBody worker id thread step
  | step@(.connectReturns id) | step@(.connectThrows id)
  | step@(.failedToast id) | step@(.failedStart id _)
  | step@(.resetConnectThread id) | step@(.handOver id _) =>
      worker.connectThreads[id]?.bind fun thread =>
        connectBody worker id thread step
  | step@(.readReturns id _) | step@(.readThrows id) | step@(.lostToast id)
  | step@(.lostStart id _) | step@(.restart id _) =>
      worker.connectedThreads[id]?.bind fun thread =>
        connectedBody worker id thread step

/-- Run a body; an exception that leaves it ends the process. -/
def execute (body : Body Unit) (worker : Worker) : Worker :=
  match body worker with
  | .ok _ after => after
  | .error _ after => { after with crashed := true }

/-- One step of a run. -/
def step (worker : Worker) (label : Step) : Option Worker :=
  if worker.crashed then none
  else (bodyOf worker label).map fun body => execute body worker

end WorkerClass

end MightyMouse
