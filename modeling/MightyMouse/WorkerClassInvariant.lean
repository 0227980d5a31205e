import MightyMouse.LabelledRun
import MightyMouse.WorkerClassRefinement
import MightyMouse.WorkerClassSteps

/-!
# The connection-state invariant

The abstract service is joined by the facts about thread tables and sockets
that it leaves out: an accepted socket is never forgotten, and a connect
thread gets past `connect()` only with a socket.  Together they hold in every
state of every run.
-/

namespace MightyMouse

namespace WorkerClass

open StatefulBody

/-- The two states differ in `mState`, the four fields and the messages. -/
structure SameTables (worker next : Worker) : Prop where
  acceptThreads : next.acceptThreads = worker.acceptThreads
  connectThreads : next.connectThreads = worker.connectThreads
  connectedThreads : next.connectedThreads = worker.connectedThreads
  sockets : next.sockets = worker.sockets
  writers : next.writers = worker.writers

/-- The single updates that method bodies are made of.  `admits` says which
answers of socket-creating calls are allowed. -/
inductive Update (admits : Bool → Prop) (worker : Worker) : Worker → Prop
  | fields {next : Worker} (same : SameTables worker next) :
      Update admits worker next
  | closeSocket (socket : SocketId) :
      Update admits worker { worker with
        sockets := worker.sockets.modify socket fun old =>
          { old with closed := true } }
  | flagAccept (id : ThreadId) :
      Update admits worker { worker with
        acceptThreads := worker.acceptThreads.modify id fun old =>
          { old with cancelled := true } }
  | closeServer (id : ThreadId) :
      Update admits worker { worker with
        acceptThreads := worker.acceptThreads.modify id fun old =>
          { old with mmServerSocket := some ⟨true⟩ } }
  | flagConnect (id : ThreadId) :
      Update admits worker { worker with
        connectThreads := worker.connectThreads.modify id fun old =>
          { old with cancelled := true } }
  | flagConnected (id : ThreadId) :
      Update admits worker { worker with
        connectedThreads := worker.connectedThreads.modify id fun old =>
          { old with cancelled := true } }
  | newAccept (secure : Bool) {listens : Bool} (admitted : admits listens) :
      Update admits worker { worker with
        acceptThreads := worker.acceptThreads ++
          [newAcceptThread secure listens] }
  | newConnect (device : BluetoothDevice) (secure : Bool) {creates : Bool}
      (admitted : admits creates) :
      Update admits worker (newConnectThread device secure creates worker)
  | newConnected (socket : SocketId) (streams : Streams) :
      Update admits worker (newConnectedThread socket streams worker)

/-- A property that every single update keeps. -/
def Stable (admits : Bool → Prop) (property : Worker → Prop) : Prop :=
  ∀ worker next, Update admits worker next → property worker → property next

/-- The same for updates that leave `crashed` alone, as all updates made by
method bodies do. -/
def Lasting (admits : Bool → Prop) (property : Worker → Prop) : Prop :=
  ∀ worker next, Update admits worker next →
    next.crashed = worker.crashed → property worker → property next

/-- The body keeps the property, whether it returns or throws. -/
def Preserves (property : Worker → Prop) (body : Body Unit) : Prop :=
  Triple property body (fun _ => property) property

section Preserves

variable {admits : Bool → Prop} {property : Worker → Prop}

theorem Preserves.andThen {first second : Body Unit}
    (firstKeeps : Preserves property first)
    (secondKeeps : Preserves property second) :
    Preserves property (do first; second) :=
  triple_bind firstKeeps fun _ => secondKeeps

theorem preserves_modify {update : Worker → Worker}
    (keeps : ∀ worker, property worker → property (update worker)) :
    Preserves property (modify update) :=
  triple_modify keeps

theorem preserves_pure : Preserves property (pure ()) :=
  triple_pure fun _ holds => holds

theorem preserves_throw (raised : JavaException) :
    Preserves property (throw raised) :=
  triple_throw fun _ holds => holds

theorem Stable.lasting (stable : Stable admits property) :
    Lasting admits property :=
  fun worker next update _ => stable worker next update

/-- No method body touches the flag. -/
theorem lasting_running :
    Lasting admits (fun worker => worker.crashed = false) :=
  fun _ _ _ same running => same.trans running

variable (lasting : Lasting admits property)
include lasting

theorem Lasting.modifyFields {update : Worker → Worker}
    (same : ∀ worker, SameTables worker (update worker))
    (sameFlag : ∀ worker, (update worker).crashed = worker.crashed) :
    Preserves property (modify update) :=
  preserves_modify fun worker =>
    lasting worker _ (.fields (same worker)) (sameFlag worker)

theorem Lasting.post (message : Message) :
    Preserves property (post message) :=
  lasting.modifyFields (fun _ => ⟨rfl, rfl, rfl, rfl, rfl⟩) fun _ => rfl

theorem Lasting.setState (state : ServiceState) :
    Preserves property (setState state) :=
  (lasting.modifyFields (fun _ => by constructor <;> rfl)
    fun _ => by rfl).andThen (lasting.post _)

theorem Lasting.closing (socket : SocketId) :
    Preserves property (WorkerClass.closeSocket socket) :=
  preserves_modify fun worker => lasting worker _ (.closeSocket socket) rfl

theorem Lasting.cancelAccept (id : ThreadId) :
    Preserves property (cancelAccept id) := by
  refine triple_bind (preserves_modify fun worker =>
    lasting worker _ (.flagAccept id) rfl) fun _ => ?_
  refine triple_get_keep fun _ => ?_
  split
  · exact preserves_throw _
  · exact preserves_modify fun worker => lasting worker _ (.closeServer id) rfl

theorem Lasting.cancelConnect (id : ThreadId) :
    Preserves property (cancelConnect id) := by
  refine triple_bind (preserves_modify fun worker =>
    lasting worker _ (.flagConnect id) rfl) fun _ => ?_
  refine triple_get_keep fun _ => ?_
  split
  · exact preserves_throw _
  · exact lasting.closing _

theorem Lasting.cancelConnected (id : ThreadId) :
    Preserves property (cancelConnected id) := by
  refine triple_bind (preserves_modify fun worker =>
    lasting worker _ (.flagConnected id) rfl) fun _ => ?_
  refine triple_get_keep fun _ => ?_
  split
  · exact preserves_throw _
  · exact lasting.closing _

theorem Lasting.dropThread {field : Worker → Option ThreadId}
    {cancel : ThreadId → Body Unit} {clear : Worker → Worker}
    (cancels : ∀ id, Preserves property (cancel id))
    (clears : ∀ worker, SameTables worker (clear worker))
    (sameFlag : ∀ worker, (clear worker).crashed = worker.crashed) :
    Preserves property (dropThread field cancel clear) := by
  refine triple_get_keep fun _ => ?_
  split
  · exact preserves_pure
  · next id _ => exact (cancels id).andThen (lasting.modifyFields clears sameFlag)

theorem Lasting.dropConnectThread : Preserves property dropConnectThread :=
  lasting.dropThread lasting.cancelConnect
    (fun _ => ⟨rfl, rfl, rfl, rfl, rfl⟩) fun _ => rfl

theorem Lasting.dropConnectedThread : Preserves property dropConnectedThread :=
  lasting.dropThread lasting.cancelConnected
    (fun _ => ⟨rfl, rfl, rfl, rfl, rfl⟩) fun _ => rfl

theorem Lasting.dropAcceptThread (secure : Bool) :
    Preserves property (dropAcceptThread secure) := by
  apply lasting.dropThread lasting.cancelAccept
  · exact fun _ => by cases secure <;> constructor <;> rfl
  · exact fun _ => by cases secure <;> rfl

theorem Lasting.dropAllThreads : Preserves property dropAllThreads :=
  lasting.dropConnectThread.andThen
    (lasting.dropConnectedThread.andThen
      ((lasting.dropAcceptThread true).andThen
        (lasting.dropAcceptThread false)))

theorem Lasting.startAcceptThread (secure : Bool) {listens : Bool}
    (admitted : admits listens) :
    Preserves property (startAcceptThread secure listens) := by
  refine preserves_modify fun worker holds => ?_
  split
  · have created := lasting worker _ (.newAccept secure admitted) rfl holds
    apply lasting _ _ (.fields _) _ created
    · cases secure <;> constructor <;> rfl
    · cases secure <;> rfl
  · exact holds

theorem Lasting.start {listens : Listens} (secure : admits listens.secure)
    (insecure : admits listens.insecure) :
    Preserves property (start listens) :=
  lasting.dropConnectThread.andThen (lasting.dropConnectedThread.andThen
    ((lasting.setState _).andThen
      ((lasting.startAcceptThread true secure).andThen
        (lasting.startAcceptThread false insecure))))

theorem Lasting.connect (device : BluetoothDevice) (secure : Bool)
    {creates : Bool} (admitted : admits creates) :
    Preserves property (connect device secure creates) := by
  have dropPending : Preserves property dropPendingConnectThread := by
    refine triple_get_keep fun _ => ?_
    split
    · exact lasting.dropConnectThread
    · exact preserves_pure
  exact dropPending.andThen (lasting.dropConnectedThread.andThen
    ((preserves_modify fun worker =>
      lasting worker _ (.newConnect device secure admitted) rfl).andThen
        (lasting.setState _)))

theorem Lasting.connected (socket : SocketId) (device : BluetoothDevice)
    (streams : Streams) :
    Preserves property (connected socket device streams) :=
  lasting.dropAllThreads.andThen
    ((preserves_modify fun worker =>
      lasting worker _ (.newConnected socket streams) rfl).andThen
        ((lasting.post _).andThen (lasting.setState _)))

theorem Lasting.stop : Preserves property stop :=
  lasting.dropAllThreads.andThen (lasting.setState _)

theorem Lasting.handleAccepted (socket : SocketId) (device : BluetoothDevice)
    (streams : Streams) :
    Preserves property (handleAccepted socket device streams) := by
  refine triple_get_keep fun _ => ?_
  split
  · exact lasting.connected socket device streams
  · exact lasting.connected socket device streams
  · exact lasting.closing socket
  · exact lasting.closing socket

end Preserves

section Moves

/-- Where a step leaves the accept thread that takes it. -/
def acceptMove (worker : Worker) : Step → Option (ThreadId × AcceptPoint)
  | .acceptTest id =>
      some (id, if worker.mState = .stateConnected then .finished
        else .accepting)
  | .acceptReturns id device =>
      some (id, .accepted worker.sockets.length device)
  | .acceptThrows id => some (id, .finished)
  | .acceptHandle id _ => some (id, .testing)
  | _ => none

/-- Where a step leaves the connect thread that takes it. -/
def Step.connectMove : Step → Option (ThreadId × ConnectPoint)
  | .connectReturns id => some (id, .resetting)
  | .connectThrows id => some (id, .failed)
  | .failedToast id => some (id, .restarting)
  | .failedStart id _ => some (id, .finished)
  | .resetConnectThread id => some (id, .handingOver)
  | .handOver id _ => some (id, .finished)
  | _ => none

/-- Where a step leaves the connected thread that takes it. -/
def Step.connectedMove : Step → Option (ThreadId × ConnectedPoint)
  | .readThrows id => some (id, .lost)
  | .lostToast id => some (id, .restarting)
  | .lostStart id _ => some (id, .restartingAgain)
  | .restart id _ => some (id, .finished)
  | _ => none

/-- The steps of callers of `write`. -/
def Step.isWrite : Step → Bool
  | .lockWrite _ | .performWrite _ _ => true
  | _ => false

/-- What a step does besides calling methods: it moves its thread to the point
that the step leads to, takes a socket from `accept()`, or changes the list of
writers. -/
inductive OwnMove (worker : Worker) (label : Step) (state : Worker) :
    Worker → Prop
  | accept {id : ThreadId} {point : AcceptPoint}
      (own : acceptMove worker label = some (id, point)) :
      OwnMove worker label state { state with
        acceptThreads := state.acceptThreads.modify id fun old =>
          { old with point := point } }
  | connect {id : ThreadId} {point : ConnectPoint}
      (own : label.connectMove = some (id, point)) :
      OwnMove worker label state { state with
        connectThreads := state.connectThreads.modify id fun old =>
          { old with point := point } }
  | connected {id : ThreadId} {point : ConnectedPoint}
      (own : label.connectedMove = some (id, point)) :
      OwnMove worker label state { state with
        connectedThreads := state.connectedThreads.modify id fun old =>
          { old with point := point } }
  | socket (own : acceptMove worker label ≠ none) :
      OwnMove worker label state { state with
        sockets := state.sockets ++ [⟨true, false⟩] }
  | writers (writers : List Writer) (own : label.isWrite = true) :
      OwnMove worker label state { state with writers := writers }

variable {property : Worker → Prop} {worker : Worker} {label : Step}
variable {body : Body Unit}

/-- A property that lasts through the methods and is kept by the moves of the
step is kept by the step, whatever the socket-creating calls answer. -/
theorem preserves_of_ownMoves (lasting : Lasting (fun _ => True) property)
    (moved : ∀ state next, OwnMove worker label state next →
      property state → property next)
    (runs : Runs worker label body) : Preserves property body := by
  have acceptMoves {id : ThreadId} {point : AcceptPoint}
      (own : acceptMove worker label = some (id, point)) :
      Preserves property (moveAccept id point) :=
    preserves_modify fun state => moved state _ (.accept own)
  have connectMoves {id : ThreadId} {point : ConnectPoint}
      (own : label.connectMove = some (id, point)) :
      Preserves property (moveConnect id point) :=
    preserves_modify fun state => moved state _ (.connect own)
  have connectedMoves {id : ThreadId} {point : ConnectedPoint}
      (own : label.connectedMove = some (id, point)) :
      Preserves property (moveConnected id point) :=
    preserves_modify fun state => moved state _ (.connected own)
  cases runs with
  | nullUse => exact preserves_throw _
  | start listens => exact lasting.start trivial trivial
  | connect device secure creates =>
      exact lasting.connect device secure trivial
  | stop => exact lasting.stop
  | lockWrite out =>
      apply preserves_modify
      intro state holds
      split
      · exact moved state _ (.writers _ rfl) holds
      · exact holds
  | write succeeds =>
      apply Preserves.andThen
      · unfold shareWritten
        split
        · exact lasting.post _
        · exact preserves_pure
      · exact preserves_modify fun state => moved state _ (.writers _ rfl)
  | leaveLoop _ _ ends => exact acceptMoves (by simp [acceptMove, ends])
  | block _ _ waits => exact acceptMoves (by simp [acceptMove, waits])
  | acceptThrows => exact acceptMoves rfl
  | acceptReturns device =>
      exact (preserves_modify fun state =>
        moved state _ (.socket (by simp [acceptMove]))).andThen
          (acceptMoves rfl)
  | acceptHandle streams =>
      exact (lasting.handleAccepted _ _ streams).andThen (acceptMoves rfl)
  | connectReturns => exact connectMoves rfl
  | connectThrows => exact (lasting.closing _).andThen (connectMoves rfl)
  | failedToast => exact (lasting.post _).andThen (connectMoves rfl)
  | failedStart listens =>
      exact (lasting.start trivial trivial).andThen (connectMoves rfl)
  | resetConnectThread =>
      exact (lasting.modifyFields (fun _ => by constructor <;> rfl)
        fun _ => by rfl).andThen (connectMoves rfl)
  | handOver streams =>
      exact (lasting.connected _ _ streams).andThen (connectMoves rfl)
  | readReturns bytes => exact lasting.post _
  | readThrows => exact connectedMoves rfl
  | lostToast => exact (lasting.post _).andThen (connectedMoves rfl)
  | lostStart listens | restart listens =>
      exact (lasting.start trivial trivial).andThen (connectedMoves rfl)

/-- The accept thread that takes the step. -/
def Step.acceptThread : Step → Option ThreadId
  | .acceptTest id | .acceptReturns id _ | .acceptThrows id
  | .acceptHandle id _ => some id
  | _ => none

/-- The moves without the points that the step leads to: of the accept threads
only the one that takes the step is moved. -/
inductive Move (label : Step) (worker : Worker) : Worker → Prop
  | accept (id : ThreadId) (point : AcceptPoint)
      (own : label.acceptThread = some id) :
      Move label worker { worker with
        acceptThreads := worker.acceptThreads.modify id fun old =>
          { old with point := point } }
  | connect (id : ThreadId) (point : ConnectPoint) :
      Move label worker { worker with
        connectThreads := worker.connectThreads.modify id fun old =>
          { old with point := point } }
  | connected (id : ThreadId) (point : ConnectedPoint) :
      Move label worker { worker with
        connectedThreads := worker.connectedThreads.modify id fun old =>
          { old with point := point } }
  | socket :
      Move label worker { worker with
        sockets := worker.sockets ++ [⟨true, false⟩] }
  | writers (writers : List Writer) :
      Move label worker { worker with writers := writers }

theorem acceptThread_of_acceptMove {id : ThreadId} {point : AcceptPoint}
    (own : acceptMove worker label = some (id, point)) :
    label.acceptThread = some id := by
  cases label with
  | acceptTest | acceptReturns | acceptThrows | acceptHandle =>
      exact congrArg (Option.map Prod.fst) own
  | _ => cases own

theorem OwnMove.move {state next : Worker}
    (move : OwnMove worker label state next) : Move label state next := by
  cases move with
  | accept own => exact .accept _ _ (acceptThread_of_acceptMove own)
  | connect => exact .connect _ _
  | connected => exact .connected _ _
  | socket => exact .socket
  | writers writers => exact .writers writers

theorem preserves_of_runs (lasting : Lasting (fun _ => True) property)
    (moved : ∀ state next, Move label state next → property state →
      property next)
    (runs : Runs worker label body) : Preserves property body :=
  preserves_of_ownMoves lasting
    (fun state next move => moved state next move.move) runs

end Moves

section Tables

variable {Entry : Type} {entries : List Entry}

theorem forall_mem_modify {property : Entry → Prop} {update : Entry → Entry}
    (holds : ∀ entry ∈ entries, property entry) (id : Nat)
    (kept : ∀ entry, entries[id]? = some entry → property entry →
      property (update entry)) :
    ∀ entry ∈ entries.modify id update, property entry := by
  intro entry member
  obtain ⟨index, found⟩ := List.mem_iff_getElem?.mp member
  rw [List.getElem?_modify] at found
  obtain ⟨old, oldFound, rfl⟩ := Option.map_eq_some_iff.mp found
  have holdsHere := holds old (List.mem_of_getElem? oldFound)
  split
  · next same => exact kept old (same ▸ oldFound) holdsHere
  · exact holdsHere

theorem exists_getElem?_modify {property : Entry → Prop}
    {update : Entry → Entry} {index : Nat}
    (holds : ∃ entry, entries[index]? = some entry ∧ property entry)
    (kept : ∀ entry, property entry → property (update entry)) (id : Nat) :
    ∃ entry, (entries.modify id update)[index]? = some entry ∧
      property entry := by
  obtain ⟨entry, found, holdsHere⟩ := holds
  refine ⟨if id = index then update entry else entry, ?_, ?_⟩
  · simp [List.getElem?_modify, found]
  · split
    · exact kept entry holdsHere
    · exact holdsHere

theorem exists_getElem?_append {property : Entry → Prop} {index : Nat}
    (holds : ∃ entry, entries[index]? = some entry ∧ property entry)
    (added : Entry) :
    ∃ entry, (entries ++ [added])[index]? = some entry ∧ property entry := by
  obtain ⟨entry, found, holdsHere⟩ := holds
  have bound : index < entries.length :=
    (List.getElem?_eq_some_iff.mp found).1
  exact ⟨entry, by rw [List.getElem?_append_left bound, found], holdsHere⟩

end Tables

section Sockets

/-- The accept thread exists and stands at the point. -/
def Worker.AcceptAt (worker : Worker) (id : ThreadId) (point : AcceptPoint) :
    Prop :=
  ∃ thread, worker.acceptThreads[id]? = some thread ∧ thread.point = point

/-- The socket was returned by `accept()`. -/
def Worker.Accepted (worker : Worker) (socket : SocketId) : Prop :=
  ∃ found, worker.sockets[socket]? = some found ∧ found.accepted = true

def Worker.Closed (worker : Worker) (socket : SocketId) : Prop :=
  ∃ found, worker.sockets[socket]? = some found ∧ found.closed = true

/-- A connected thread was created for the socket. -/
def Worker.Handed (worker : Worker) (socket : SocketId) : Prop :=
  ∃ id : ThreadId, ∃ thread, worker.connectedThreads[id]? = some thread ∧
    thread.mmSocket = socket

/-- The thread that accepted the socket has not yet been through its
synchronized block. -/
def Worker.Pending (worker : Worker) (socket : SocketId) : Prop :=
  ∃ id device, worker.AcceptAt id (.accepted socket device)

section Held

variable {worker : Worker} {id : ThreadId} {old : AcceptPoint}

theorem Worker.AcceptAt.move (isAt : worker.AcceptAt id old)
    (point : AcceptPoint) :
    Worker.AcceptAt { worker with
      acceptThreads := worker.acceptThreads.modify id fun old =>
        { old with point := point } } id point := by
  obtain ⟨thread, found, _⟩ := isAt
  refine ⟨{ thread with point := point }, ?_, rfl⟩
  rw [List.getElem?_modify_eq, found]
  rfl

/-- When an accept thread moves, a pending socket stays pending, unless it is
the one that this thread held. -/
theorem Worker.Pending.moveAccept {socket : SocketId}
    (pending : worker.Pending socket) (isAt : worker.AcceptAt id old)
    (point : AcceptPoint) :
    (∃ device, old = .accepted socket device) ∨
      Worker.Pending { worker with
        acceptThreads := worker.acceptThreads.modify id fun old =>
          { old with point := point } } socket := by
  obtain ⟨other, device, thread, found, stands⟩ := pending
  by_cases same : id = other
  · subst other
    obtain ⟨thread', found', stands'⟩ := isAt
    rw [found] at found'
    cases found'
    exact Or.inl ⟨device, stands'.symm.trans stands⟩
  · refine Or.inr ⟨other, device, thread, ?_, stands⟩
    rw [List.getElem?_modify_ne _ _ same]
    exact found

theorem Worker.Accepted.created {socket : SocketId}
    (isAccepted : worker.Accepted socket) :
    socket < worker.sockets.length := by
  obtain ⟨found, foundHere, _⟩ := isAccepted
  exact (List.getElem?_eq_some_iff.mp foundHere).1

theorem closed_closeSocket {socket : SocketId}
    (created : socket < worker.sockets.length) :
    Worker.Closed { worker with
      sockets := worker.sockets.modify socket fun old =>
        { old with closed := true } } socket := by
  have found := List.getElem?_eq_getElem created
  exact ⟨_, by rw [List.getElem?_modify_eq, found]; rfl, rfl⟩

end Held

variable {admits : Bool → Prop}

theorem stable_acceptAt (id : ThreadId) (point : AcceptPoint) :
    Stable admits (Worker.AcceptAt · id point) := by
  intro worker next update isAt
  cases update with
  | fields same =>
      unfold Worker.AcceptAt
      rwa [same.acceptThreads]
  | flagAccept other =>
      apply exists_getElem?_modify isAt
      exact fun _ stands => stands
  | closeServer other =>
      apply exists_getElem?_modify isAt
      exact fun _ stands => stands
  | newAccept => exact exists_getElem?_append isAt _
  | _ => exact isAt

theorem stable_closed (socket : SocketId) :
    Stable admits (Worker.Closed · socket) := by
  intro worker next update isClosed
  cases update with
  | fields same =>
      unfold Worker.Closed
      rwa [same.sockets]
  | closeSocket other =>
      exact exists_getElem?_modify isClosed (fun _ _ => rfl) other
  | @newConnect device secure creates =>
      cases creates with
      | false => exact isClosed
      | true => exact exists_getElem?_append isClosed _
  | _ => exact isClosed

theorem stable_handed (socket : SocketId) :
    Stable admits (Worker.Handed · socket) := by
  intro worker next update isHanded
  obtain ⟨id, here⟩ := isHanded
  cases update with
  | fields same =>
      unfold Worker.Handed
      rw [same.connectedThreads]
      exact ⟨id, here⟩
  | flagConnected other =>
      refine ⟨id, ?_⟩
      apply exists_getElem?_modify here
      exact fun _ owns => owns
  | newConnected => exact ⟨id, exists_getElem?_append here _⟩
  | _ => exact ⟨id, here⟩

/-- No method body accepts a socket. -/
theorem stable_not_accepted (socket : SocketId) :
    Stable admits (fun worker => ¬ worker.Accepted socket) := by
  intro worker next update notAccepted
  cases update with
  | fields same =>
      unfold Worker.Accepted
      rwa [same.sockets]
  | closeSocket other =>
      refine mt (Iff.mp ?_) notAccepted
      apply flagged_modify_keep BluetoothSocket.accepted
      exact fun _ => rfl
  | @newConnect device secure creates =>
      cases creates with
      | false => exact notAccepted
      | true =>
          refine mt (Iff.mp ?_) notAccepted
          exact flagged_append_clear BluetoothSocket.accepted rfl socket
  | _ => exact notAccepted

end Sockets

/-- What a run keeps about the tables.  The last two clauses need every
socket-creating call to succeed. -/
structure Sound (creation : Prop) (worker : Worker) : Prop where
  attempted : ∀ thread ∈ worker.connectThreads,
    thread.point = .resetting ∨ thread.point = .handingOver →
      thread.mmSocket ≠ none
  accounted : ∀ socket, worker.Accepted socket →
    worker.Pending socket ∨ worker.Handed socket ∨ worker.Closed socket
  writing : ∀ writer ∈ worker.writers, ∃ id, writer.r = some id ∧
    id < worker.connectedThreads.length
  serving : creation → ∀ thread ∈ worker.acceptThreads,
    thread.mmServerSocket ≠ none
  outgoing : creation → ∀ thread ∈ worker.connectThreads,
    thread.mmSocket ≠ none

section Sound

variable {creation : Prop}

theorem sound_initial : Sound creation Worker.initial where
  attempted := by simp [Worker.initial]
  accounted := by simp [Worker.initial, Worker.Accepted]
  writing := by simp [Worker.initial]
  serving := by simp [Worker.initial]
  outgoing := by simp [Worker.initial]

theorem stable_attempted {admits : Bool → Prop} :
    Stable admits (fun worker => ∀ thread ∈ worker.connectThreads,
      thread.point = .resetting ∨ thread.point = .handingOver →
        thread.mmSocket ≠ none) := by
  intro worker next update holds
  cases update with
  | fields same => rwa [same.connectThreads]
  | flagConnect id =>
      apply forall_mem_modify holds
      exact fun _ _ attempted => attempted
  | newConnect =>
      intro thread member
      rcases List.mem_append.mp member with before | added
      · exact holds thread before
      · simp [List.mem_singleton.mp added]
  | _ => exact holds

theorem stable_accounted {admits : Bool → Prop} (socket : SocketId) :
    Stable admits (fun worker => worker.Accepted socket →
      worker.Pending socket ∨ worker.Handed socket ∨
        worker.Closed socket) := by
  intro worker next update holds isAccepted
  have wasAccepted : worker.Accepted socket := by
    by_contra notAccepted
    exact stable_not_accepted socket worker next update notAccepted isAccepted
  rcases holds wasAccepted with ⟨id, device, isAt⟩ | isHanded | isClosed
  · exact Or.inl ⟨id, device, stable_acceptAt id _ worker next update isAt⟩
  · exact Or.inr (Or.inl (stable_handed socket worker next update isHanded))
  · exact Or.inr (Or.inr (stable_closed socket worker next update isClosed))

theorem stable_sound :
    Stable (fun answer => creation → answer = true) (Sound creation) := by
  intro worker next update sound
  constructor
  · exact stable_attempted worker next update sound.attempted
  · exact fun socket =>
      stable_accounted socket worker next update (sound.accounted socket)
  · have sameWriters : next.writers = worker.writers := by
      cases update with
      | fields same => exact same.writers
      | _ => rfl
    have grows : worker.connectedThreads.length ≤
        next.connectedThreads.length := by
      cases update with
      | fields same => rw [same.connectedThreads]
      | flagConnected id => simp
      | newConnected => simp [newConnectedThread]
      | _ => exact le_rfl
    rw [sameWriters]
    intro writer member
    obtain ⟨id, copied, bound⟩ := sound.writing writer member
    exact ⟨id, copied, bound.trans_le grows⟩
  · intro succeeds
    have holds := sound.serving succeeds
    cases update with
    | fields same => rwa [same.acceptThreads]
    | flagAccept id =>
        apply forall_mem_modify holds
        exact fun _ _ served => served
    | closeServer id =>
        apply forall_mem_modify holds
        simp
    | newAccept secure admitted =>
        have listens := admitted succeeds
        simpa [newAcceptThread, listens, or_imp, forall_and] using holds
    | _ => exact holds
  · intro succeeds
    have holds := sound.outgoing succeeds
    cases update with
    | fields same => rwa [same.connectThreads]
    | flagConnect id =>
        apply forall_mem_modify holds
        exact fun _ _ provided => provided
    | newConnect device secure admitted =>
        have creates := admitted succeeds
        simpa [newConnectThread, creates, or_imp, forall_and] using holds
    | _ => exact holds

theorem lasting_sound :
    Lasting (fun answer => creation → answer = true) (Sound creation) :=
  stable_sound.lasting

variable {worker : Worker}

theorem sound_fields (sound : Sound creation worker) {next : Worker}
    (same : SameTables worker next) : Sound creation next :=
  stable_sound worker next (.fields same) sound

/-- An accept thread may leave its point once the socket it holds there, if
any, has been handed over or closed. -/
theorem sound_moveAccept (sound : Sound creation worker) {id : ThreadId}
    {old : AcceptPoint} (isAt : worker.AcceptAt id old)
    (released : ∀ socket device, old = .accepted socket device →
      worker.Accepted socket → worker.Handed socket ∨ worker.Closed socket)
    (point : AcceptPoint) :
    Sound creation { worker with
      acceptThreads := worker.acceptThreads.modify id fun old =>
        { old with point := point } } where
  attempted := sound.attempted
  accounted := by
    intro socket isAccepted
    rcases sound.accounted socket isAccepted with pending | settled
    · rcases pending.moveAccept isAt point with ⟨device, held⟩ | still
      · exact Or.inr (released socket device held isAccepted)
      · exact Or.inl still
    · exact Or.inr settled
  writing := sound.writing
  serving := by
    intro succeeds
    apply forall_mem_modify (sound.serving succeeds)
    exact fun _ _ served => served
  outgoing := sound.outgoing

/-- `accept()` returns a new socket. -/
theorem sound_acceptReturns (sound : Sound creation worker) {id : ThreadId}
    (isAt : worker.AcceptAt id .accepting) (device : BluetoothDevice) :
    Sound creation { worker with
      sockets := worker.sockets ++ [⟨true, false⟩]
      acceptThreads := worker.acceptThreads.modify id fun old =>
        { old with point := .accepted worker.sockets.length device } } := by
  have moved := sound_moveAccept sound isAt (by simp)
    (.accepted worker.sockets.length device)
  constructor
  · exact sound.attempted
  · intro socket isAccepted
    have upTo : socket < worker.sockets.length + 1 := by
      simpa using isAccepted.created
    rcases Nat.lt_succ_iff_lt_or_eq.mp upTo with before | rfl
    · have wasAccepted : worker.Accepted socket := by
        obtain ⟨found, foundHere, accepted⟩ := isAccepted
        rw [List.getElem?_append_left before] at foundHere
        exact ⟨found, foundHere, accepted⟩
      rcases moved.accounted socket wasAccepted with
        pending | handed | closed
      · exact Or.inl pending
      · exact Or.inr (Or.inl handed)
      · exact Or.inr (Or.inr (exists_getElem?_append closed _))
    · exact Or.inl ⟨id, device, isAt.move _⟩
  · exact sound.writing
  · exact moved.serving
  · exact sound.outgoing

theorem sound_moveConnect (sound : Sound creation worker) (id : ThreadId)
    (point : ConnectPoint)
    (provided : point = .resetting ∨ point = .handingOver →
      ∀ thread, worker.connectThreads[id]? = some thread →
        thread.mmSocket ≠ none) :
    Sound creation { worker with
      connectThreads := worker.connectThreads.modify id fun old =>
        { old with point := point } } where
  attempted := by
    apply forall_mem_modify sound.attempted
    exact fun thread found _ passed => provided passed thread found
  accounted := sound.accounted
  writing := sound.writing
  serving := sound.serving
  outgoing := by
    intro succeeds
    apply forall_mem_modify (sound.outgoing succeeds)
    exact fun _ _ has => has

theorem sound_moveConnected (sound : Sound creation worker) (id : ThreadId)
    (point : ConnectedPoint) :
    Sound creation { worker with
      connectedThreads := worker.connectedThreads.modify id fun old =>
        { old with point := point } } where
  attempted := sound.attempted
  accounted := by
    intro socket isAccepted
    refine (sound.accounted socket isAccepted).imp_right
      (Or.imp_left fun handed => ?_)
    obtain ⟨other, here⟩ := handed
    refine ⟨other, ?_⟩
    apply exists_getElem?_modify here
    exact fun _ owns => owns
  writing := by simpa using sound.writing
  serving := sound.serving
  outgoing := sound.outgoing

end Sound

/-- The effect of a step on the view. -/
def View.after (view : View) : Step → View
  | .start _ | .failedStart _ _ | .lostStart _ _ | .restart _ _ => view.start
  | .connect _ _ _ => view.connect
  | .stop => view.stop
  | .acceptHandle _ _ => view.handleAccepted
  | .resetConnectThread _ => view.reset
  | .handOver _ _ => view.connected
  | .lockWrite _ | .performWrite _ _ | .acceptTest _ | .acceptReturns _ _
  | .acceptThrows _ | .connectReturns _ | .connectThrows _ | .failedToast _
  | .readReturns _ _ | .readThrows _ | .lostToast _ => view

/-- The socket-creating calls made during the step succeed. -/
def Step.Creates : Step → Prop
  | .start listens | .failedStart _ listens | .lostStart _ listens
  | .restart _ listens => listens.secure = true ∧ listens.insecure = true
  | .connect _ _ creates => creates = true
  | _ => True

/-- A step changes the view as `View.after` says and keeps the tables sound.
If it throws, it has done so before changing the view, or in a call of
`cancel()`. -/
def Performs (creation : Prop) (worker : Worker) (label : Step)
    (body : Body Unit) : Prop :=
  Triple (fun state => state = worker) body
    (fun _ next => Sound creation next ∧ next.view = worker.view.after label)
    (fun next => Sound creation next ∧
      (next.view = worker.view.after label ∨
        Struck (worker.view.newlyCancelled (worker.view.after label)) next))

section Steps

variable {creation : Prop} {worker : Worker} {label : Step}

theorem performs_of_refines {body : Body Unit}
    (sound : Sound creation worker)
    (keeps : Preserves (Sound creation) body)
    (refines : Refines (worker.view.newlyCancelled (worker.view.after label))
      worker.view (worker.view.after label) body) :
    Performs creation worker label body := by
  have kept := keeps.atState sound
  have refined := refines.atState rfl
  exact (kept.and refined).weaken (fun _ same => same) (fun _ _ both => both)
    fun _ both => ⟨both.1, Or.inr both.2⟩

/-- A step may end by moving the thread on. -/
theorem Performs.andThen {body : Body Unit} {update : Worker → Worker}
    (performs : Performs creation worker label body)
    (keeps : ∀ state, Sound creation state → Sound creation (update state))
    (sameView : ∀ state, (update state).view = state.view) :
    Performs creation worker label (do body; modify update) := by
  refine triple_bind performs fun _ => triple_modify ?_
  rintro state ⟨sound, after⟩
  exact ⟨keeps state sound, (sameView state).trans after⟩

theorem performs_modify {update : Worker → Worker}
    (keeps : Sound creation (update worker))
    (sameView : (update worker).view = worker.view.after label) :
    Performs creation worker label (modify update) := by
  refine triple_modify ?_
  intro state same
  subst same
  exact ⟨keeps, sameView⟩

theorem performs_crash (sound : Sound creation worker)
    (quiet : worker.view.after label = worker.view) :
    Performs creation worker label crash := by
  refine triple_throw ?_
  intro state same
  subst same
  exact ⟨sound, Or.inl quiet.symm⟩

/-- `connected()` hands its socket to the new thread. -/
theorem connected_handed (before : Worker → Prop) (socket : SocketId)
    (device : BluetoothDevice) (streams : Streams) :
    Triple before (connected socket device streams)
      (fun _ next => next.Handed socket) (fun _ => True) := by
  have lasting : Lasting (fun _ => True) (Worker.Handed · socket) :=
    (stable_handed socket).lasting
  have creates : Triple (fun _ => True)
      (modify (newConnectedThread socket streams) : Body Unit)
      (fun _ next => next.Handed socket) (fun _ => True) := by
    refine triple_modify fun state _ => ?_
    exact ⟨state.connectedThreads.length, _, List.getElem?_concat_length, rfl⟩
  refine triple_bind triple_true fun _ => triple_bind creates fun _ => ?_
  exact ((lasting.post _).andThen (lasting.setState _)).weaken
    (fun _ handed => handed) (fun _ _ handed => handed) fun _ _ => trivial

/-- The synchronized block of an accept thread hands the socket over or
closes it. -/
theorem handleAccepted_released (before : Worker → Prop) (socket : SocketId)
    (device : BluetoothDevice) (streams : Streams) :
    Triple before (handleAccepted socket device streams)
      (fun _ next => socket < next.sockets.length →
        next.Handed socket ∨ next.Closed socket) (fun _ => True) := by
  have connects : Triple (fun _ => True) (connected socket device streams)
      (fun _ next => socket < next.sockets.length →
        next.Handed socket ∨ next.Closed socket) (fun _ => True) :=
    (connected_handed _ socket device streams).weaken (fun _ start => start)
      (fun _ _ handed _ => Or.inl handed) fun _ _ => trivial
  have closes : Triple (fun _ => True) (closeSocket socket)
      (fun _ next => socket < next.sockets.length →
        next.Handed socket ∨ next.Closed socket) (fun _ => True) := by
    refine triple_modify fun state _ created => Or.inr ?_
    exact closed_closeSocket (by simpa using created)
  refine triple_get_bind fun state _ => ?_
  split
  · exact connects.atState trivial
  · exact connects.atState trivial
  · exact closes.atState trivial
  · exact closes.atState trivial

/-- The thread is still at its point when it has been through the block, and
may leave it. -/
theorem handleAccepted_settles {id : ThreadId} {socket : SocketId}
    {device : BluetoothDevice} (streams : Streams)
    (isAt : worker.AcceptAt id (.accepted socket device)) :
    Triple (fun state => state = worker)
      (handleAccepted socket device streams)
      (fun _ next => next.AcceptAt id (.accepted socket device) ∧
        (socket < next.sockets.length →
          next.Handed socket ∨ next.Closed socket)) (fun _ => True) := by
  have lasting : Lasting (fun _ => True)
      (Worker.AcceptAt · id (.accepted socket device)) :=
    (stable_acceptAt id _).lasting
  have stays := (lasting.handleAccepted socket device streams).atState isAt
  have releases := handleAccepted_released (fun state => state = worker)
    socket device streams
  exact (stays.and releases).weaken (fun _ same => same)
    (fun _ _ both => both) fun _ _ => trivial

theorem view_acceptPoint (state : Worker) (id : ThreadId)
    (point : AcceptPoint) :
    { state with
      acceptThreads := state.acceptThreads.modify id fun old =>
        { old with point := point } }.view = state.view :=
  view_moveAccept state id (fun old => { old with point := point })
    fun _ => rfl

theorem view_connectPoint (state : Worker) (id : ThreadId)
    (point : ConnectPoint) :
    { state with
      connectThreads := state.connectThreads.modify id fun old =>
        { old with point := point } }.view = state.view :=
  view_moveConnect state id (fun old => { old with point := point })
    fun _ => rfl

theorem view_connectedPoint (state : Worker) (id : ThreadId)
    (point : ConnectedPoint) :
    { state with
      connectedThreads := state.connectedThreads.modify id fun old =>
        { old with point := point } }.view = state.view :=
  view_moveConnected state id (fun old => { old with point := point })
    fun _ => rfl

theorem performs_acceptHandle (sound : Sound creation worker)
    (tracked : worker.view.Tracked) {id : ThreadId} {socket : SocketId}
    {device : BluetoothDevice} (streams : Streams)
    (isAt : worker.AcceptAt id (.accepted socket device)) :
    Performs creation worker (.acceptHandle id streams) (do
      handleAccepted socket device streams
      moveAccept id .testing) := by
  have handles : Performs creation worker (.acceptHandle id streams)
      (handleAccepted socket device streams) :=
    performs_of_refines sound (lasting_sound.handleAccepted _ _ _)
      (refines_handleAccepted tracked _ _ _)
  refine triple_bind ((handles.and (handleAccepted_settles streams
    isAt)).weaken (fun _ same => same) (fun _ _ all => all)
      fun _ all => all.1) fun _ => ?_
  refine triple_modify ?_
  rintro state ⟨⟨stateSound, after⟩, stands, released⟩
  refine ⟨sound_moveAccept stateSound stands ?_ .testing,
    (view_acceptPoint state id _).trans after⟩
  rintro _ _ ⟨⟩ isAccepted
  exact released isAccepted.created

theorem performs_moveAccept (sound : Sound creation worker) {id : ThreadId}
    {thread : AcceptThread} (found : worker.acceptThreads[id]? = some thread)
    (idle : ∀ socket device, thread.point ≠ .accepted socket device)
    (quiet : worker.view.after label = worker.view) (point : AcceptPoint) :
    Performs creation worker label (moveAccept id point) := by
  refine performs_modify (sound_moveAccept sound ⟨thread, found, rfl⟩ ?_ point)
    ((view_acceptPoint worker id point).trans quiet.symm)
  exact fun socket device same => absurd same (idle socket device)

theorem performs_acceptReturns (sound : Sound creation worker) {id : ThreadId}
    (isAt : worker.AcceptAt id .accepting) (device : BluetoothDevice) :
    Performs creation worker (.acceptReturns id device) (do
      modify fun worker => { worker with
        sockets := worker.sockets ++ [⟨true, false⟩] }
      moveAccept id (.accepted worker.sockets.length device)) := by
  refine triple_modify_bind ?_
  intro state same
  subst same
  refine triple_modify ?_
  intro state same
  subst same
  exact ⟨sound_acceptReturns sound isAt device, view_acceptPoint _ id _⟩

theorem performs_start (sound : Sound creation worker)
    (tracked : worker.view.Tracked) {listens : Listens}
    (creates : creation → listens.secure = true ∧ listens.insecure = true)
    (restarts : worker.view.after label = worker.view.start) :
    Performs creation worker label (start listens) := by
  refine performs_of_refines sound ?_ (restarts ▸ refines_start tracked listens)
  exact lasting_sound.start (fun holds => (creates holds).1)
    fun holds => (creates holds).2

/-- A connect thread may go to a point that asks for nothing. -/
theorem Performs.thenMoveConnect {body : Body Unit}
    (performs : Performs creation worker label body) (id : ThreadId)
    {point : ConnectPoint} (before : point ≠ .resetting)
    (after : point ≠ .handingOver) :
    Performs creation worker label (do body; moveConnect id point) := by
  refine performs.andThen ?_ fun state => view_connectPoint state id point
  intro state stateSound
  refine sound_moveConnect stateSound id point ?_
  rintro (isBefore | isAfter)
  · exact absurd isBefore before
  · exact absurd isAfter after

theorem Performs.thenMoveConnected {body : Body Unit}
    (performs : Performs creation worker label body) (id : ThreadId)
    (point : ConnectedPoint) :
    Performs creation worker label (do body; moveConnected id point) :=
  performs.andThen (fun _ stateSound => sound_moveConnected stateSound id point)
    fun state => view_connectedPoint state id point

theorem performs_connectReturns (sound : Sound creation worker) {id : ThreadId}
    {thread : ConnectThread} {socket : SocketId}
    (found : worker.connectThreads[id]? = some thread)
    (stored : thread.mmSocket = some socket) :
    Performs creation worker (.connectReturns id)
      (moveConnect id .resetting) := by
  refine performs_modify (sound_moveConnect sound id _ ?_)
    (view_connectPoint worker id _)
  intro _ thread' found'
  rw [found] at found'
  cases found'
  simp [stored]

theorem performs_resetConnectThread (sound : Sound creation worker)
    {id : ThreadId} {thread : ConnectThread}
    (found : worker.connectThreads[id]? = some thread)
    (stands : thread.point = .resetting) :
    Performs creation worker (.resetConnectThread id) (do
      modify fun worker => { worker with mConnectThread := none }
      moveConnect id .handingOver) := by
  refine triple_modify_bind fun state same => ?_
  subst state
  refine triple_modify ?_
  intro state same
  subst same
  have resets : Sound creation { worker with mConnectThread := none } :=
    sound_fields sound (by constructor <;> rfl)
  refine ⟨sound_moveConnect resets id _ ?_, view_connectPoint _ id _⟩
  intro _ thread' found'
  rw [found] at found'
  cases found'
  exact sound.attempted thread (List.mem_of_getElem? found) (Or.inl stands)

theorem performs_lockWrite (sound : Sound creation worker)
    (invariant : worker.view.Invariant) (out : List Byte) :
    Performs creation worker (.lockWrite out) (lockWrite out) := by
  refine triple_modify ?_
  intro state same
  subst same
  split
  · next isConnected =>
      refine ⟨⟨sound.attempted, sound.accounted, ?_, sound.serving,
        sound.outgoing⟩, rfl⟩
      obtain ⟨id, current⟩ := Option.ne_none_iff_exists'.mp
        (invariant.connected_iff.mp isConnected)
      intro writer member
      rcases List.mem_append.mp member with before | added
      · exact sound.writing writer before
      · rw [List.mem_singleton.mp added]
        exact ⟨id, current,
          invariant.created (.connected id) (by simpa using current)⟩
  · exact ⟨sound, rfl⟩

theorem performs_write (sound : Sound creation worker) (index : Nat)
    (writer : Writer) (succeeds : Bool) :
    Performs creation worker (.performWrite index succeeds) (do
      shareWritten writer.out succeeds
      modify fun worker => { worker with
        writers := worker.writers.eraseIdx index }) := by
  have shares : Performs creation worker (.performWrite index succeeds)
      (shareWritten writer.out succeeds) := by
    unfold shareWritten
    split
    · exact performs_of_refines sound (lasting_sound.post _) (refines_post _)
    · refine triple_pure ?_
      intro state same
      subst same
      exact ⟨sound, rfl⟩
  refine shares.andThen ?_ fun _ => rfl
  intro state stateSound
  refine ⟨stateSound.attempted, stateSound.accounted, ?_,
    stateSound.serving, stateSound.outgoing⟩
  exact fun other member =>
    stateSound.writing other (List.mem_of_mem_eraseIdx member)

/-- A null is found outside the synchronized methods, before anything has
changed: a connect thread calls `connected()` with a socket only. -/
theorem NullUse.quiet (null : NullUse worker label)
    (sound : Sound creation worker) :
    worker.view.after label = worker.view := by
  cases null with
  | handOver streams found stands missing =>
      exact absurd missing (sound.attempted _ (List.mem_of_getElem? found)
        (Or.inr stands))
  | _ => rfl

theorem runs_performs (sound : Sound creation worker)
    (invariant : worker.view.Invariant) (creates : creation → label.Creates)
    {body : Body Unit} (runs : Runs worker label body) :
    Performs creation worker label body := by
  have tracked := invariant.toTracked
  cases runs with
  | nullUse null => exact performs_crash sound (null.quiet sound)
  | start listens => exact performs_start sound tracked creates rfl
  | connect device secure succeeds =>
      exact performs_of_refines sound (lasting_sound.connect _ _ creates)
        (refines_connect tracked _ _ _)
  | stop =>
      exact performs_of_refines sound lasting_sound.stop (refines_stop tracked)
  | lockWrite out => exact performs_lockWrite sound invariant out
  | write succeeds => exact performs_write sound _ _ succeeds
  | leaveLoop found stands =>
      exact performs_moveAccept sound found (by simp [stands]) rfl _
  | block found stands =>
      exact performs_moveAccept sound found (by simp [stands]) rfl _
  | acceptReturns device found stands =>
      exact performs_acceptReturns sound ⟨_, found, stands⟩ device
  | acceptThrows found stands =>
      exact performs_moveAccept sound found (by simp [stands]) rfl _
  | acceptHandle streams found stands =>
      exact performs_acceptHandle sound tracked streams ⟨_, found, stands⟩
  | connectReturns found _ stored =>
      exact performs_connectReturns sound found stored
  | connectThrows =>
      exact (performs_of_refines sound (lasting_sound.closing _)
        (refines_closeSocket _)).thenMoveConnect _ (by simp) (by simp)
  | failedToast =>
      exact (performs_of_refines sound (lasting_sound.post _)
        (refines_post _)).thenMoveConnect _ (by simp) (by simp)
  | failedStart listens =>
      exact (performs_start sound tracked creates rfl).thenMoveConnect _
        (by simp) (by simp)
  | resetConnectThread found stands =>
      exact performs_resetConnectThread sound found stands
  | @handOver id thread socket streams =>
      have connects : Performs creation worker (.handOver id streams)
          (connected socket thread.mmDevice streams) :=
        performs_of_refines sound (lasting_sound.connected _ _ _)
          (refines_connected tracked _ _ _)
      exact connects.thenMoveConnect id (by simp) (by simp)
  | readReturns bytes =>
      exact performs_of_refines sound (lasting_sound.post _) (refines_post _)
  | readThrows =>
      exact performs_modify (sound_moveConnected sound _ _)
        (view_connectedPoint worker _ _)
  | lostToast =>
      exact (performs_of_refines sound (lasting_sound.post _)
        (refines_post _)).thenMoveConnected _ _
  | lostStart listens | restart listens =>
      exact (performs_start sound tracked creates rfl).thenMoveConnected _ _

theorem step_performs (sound : Sound creation worker)
    (invariant : worker.view.Invariant) (creates : creation → label.Creates)
    {next : Worker} (taken : step worker label = some next) :
    Sound creation next ∧ (next.view = worker.view.after label ∨
      next.crashed = true ∧
        Struck (worker.view.newlyCancelled (worker.view.after label)) next) := by
  obtain ⟨_, body, runs, rfl⟩ := step_runs taken
  rcases execute_cases (runs_performs sound invariant creates runs) with
    ⟨kept, after⟩ | ⟨thrown, ⟨kept, outcome⟩, result⟩
  · exact ⟨kept, Or.inl after⟩
  · rw [result]
    refine ⟨sound_fields kept (by constructor <;> rfl), ?_⟩
    exact outcome.imp id fun struck => ⟨rfl, struck⟩

/-- The invariant of runs.  A `NullPointerException` inside a synchronized
body may leave the fields half updated, but only if creating a socket has
failed before. -/
structure Valid (creation : Prop) (worker : Worker) : Prop where
  sound : Sound creation worker
  invariant : creation ∨ worker.crashed = false → worker.view.Invariant

theorem valid_initial : Valid creation Worker.initial where
  sound := sound_initial
  invariant := by
    intro _
    rw [view_initial]
    exact View.invariant_initial

theorem View.Invariant.after {view : View} (invariant : view.Invariant)
    (label : Step) : (view.after label).Invariant := by
  cases label with
  | start | failedStart | lostStart | restart => exact invariant.start
  | connect => exact invariant.connect
  | stop => exact invariant.stop
  | acceptHandle =>
      simp only [View.after, View.handleAccepted]
      split
      · exact invariant.connected
      · exact invariant
  | resetConnectThread => exact invariant.reset
  | handOver => exact invariant.connected
  | _ => exact invariant

theorem not_failedCancel (sound : Sound True worker) (name : ThreadName) :
    ¬ worker.FailedCancel name := by
  cases name with
  | accept id =>
      rintro ⟨thread, found, _, missing⟩
      exact sound.serving trivial thread (List.mem_of_getElem? found) missing
  | connect id =>
      rintro ⟨thread, found, _, missing⟩
      exact sound.outgoing trivial thread (List.mem_of_getElem? found) missing
  | connected id => exact fun failed => failed

theorem crashed_of_step {next : Worker}
    (taken : step worker label = some next) : worker.crashed = false :=
  (step_runs taken).1

/-- A step that does not throw does to the view what the abstract one does. -/
theorem view_of_step (valid : Valid creation worker)
    (creates : creation → label.Creates) {next : Worker}
    (taken : step worker label = some next) (running : next.crashed = false) :
    next.view = worker.view.after label := by
  have invariant := valid.invariant (Or.inr (crashed_of_step taken))
  obtain ⟨_, same | ⟨crashed, _⟩⟩ :=
    step_performs valid.sound invariant creates taken
  · exact same
  · rw [running] at crashed
    cases crashed

theorem valid_step (valid : Valid creation worker)
    (creates : creation → label.Creates) {next : Worker}
    (taken : step worker label = some next) : Valid creation next := by
  have invariant := valid.invariant (Or.inr (crashed_of_step taken))
  obtain ⟨sound, same | ⟨crashed, name, _, failed⟩⟩ :=
    step_performs valid.sound invariant creates taken
  · refine ⟨sound, fun _ => ?_⟩
    rw [same]
    exact invariant.after label
  · refine ⟨sound, ?_⟩
    rintro (holds | running)
    · exact absurd failed (not_failedCancel (by simpa [holds] using sound) name)
    · simp [crashed] at running

/-- Every state that a run reaches is valid. -/
theorem valid_of_follow {labels : List Step}
    (creates : ∀ label ∈ labels, creation → label.Creates)
    (run : LabelledRun.follow step Worker.initial labels = some worker) :
    Valid creation worker :=
  LabelledRun.invariant_of_follow step
    (fun _ _ _ valid admitted taken => valid_step valid admitted taken)
    valid_initial creates run

end Steps

/-- The connection state of the service, its thread fields and the thread
objects agree. -/
structure Worker.ConnectionInvariant (worker : Worker) : Prop where
  connected_iff : worker.mState = .stateConnected ↔
    worker.mConnectedThread ≠ none
  writes : ∀ writer ∈ worker.writers, ∃ id thread, writer.r = some id ∧
    worker.connectedThreads[id]? = some thread
  connecting : worker.mConnectThread ≠ none →
    worker.mState = .stateConnecting
  connectedCancelled : ∀ id thread,
    worker.connectedThreads[id]? = some thread →
      worker.mConnectedThread ≠ some id → thread.cancelled = true
  connectedUnique : ∀ (id other : ThreadId)
    (thread otherThread : ConnectedThread),
    worker.connectedThreads[id]? = some thread → thread.cancelled = false →
      worker.connectedThreads[other]? = some otherThread →
        otherThread.cancelled = false → id = other
  idle : worker.mState = .stateNone →
    worker.mSecureAcceptThread = none ∧ worker.mInsecureAcceptThread = none ∧
      worker.mConnectThread = none ∧ worker.mConnectedThread = none
  listening : worker.mState = .stateListen →
    worker.mSecureAcceptThread ≠ none ∧ worker.mInsecureAcceptThread ≠ none
  exclusive : worker.mState = .stateConnected →
    worker.mSecureAcceptThread = none ∧ worker.mInsecureAcceptThread = none
  acceptCancelled : ∀ id thread, worker.acceptThreads[id]? = some thread →
    worker.mSecureAcceptThread ≠ some id →
      worker.mInsecureAcceptThread ≠ some id → thread.cancelled = true
  accounted : ∀ socket, worker.Accepted socket →
    worker.Pending socket ∨ worker.Handed socket ∨ worker.Closed socket

/-- The invariant holds after every run in which sockets can be created. -/
theorem connectionInvariant_of_run {labels : List Step} {worker : Worker}
    (creates : ∀ label ∈ labels, label.Creates)
    (run : LabelledRun.follow step Worker.initial labels = some worker) :
    worker.ConnectionInvariant := by
  have valid : Valid True worker :=
    valid_of_follow (fun label member _ => creates label member) run
  have invariant := valid.invariant (Or.inl trivial)
  have cancelled (name : ThreadName) (isCreated : worker.view.Created name)
      (notHeld : name ∉ worker.view.held) (notConnect : ∀ id, name ≠ .connect id) :
      worker.IsCancelled name := by
    rcases invariant.givenUp name isCreated notHeld with before | ⟨id, same⟩
    · exact before
    · exact absurd same (notConnect id)
  have connectedCancelled (id : ThreadId) (thread : ConnectedThread)
      (found : worker.connectedThreads[id]? = some thread)
      (notCurrent : worker.mConnectedThread ≠ some id) :
      thread.cancelled = true := by
    have bound := (List.getElem?_eq_some_iff.mp found).1
    obtain ⟨thread', found', isCancelled⟩ := cancelled (.connected id) bound
      (mt View.connected_mem_held.mp notCurrent) (by simp)
    rw [found] at found'
    cases found'
    exact isCancelled
  constructor
  · exact invariant.connected_iff
  · intro writer member
    obtain ⟨id, copied, bound⟩ := valid.sound.writing writer member
    exact ⟨id, _, copied, List.getElem?_eq_getElem bound⟩
  · exact invariant.connecting
  · exact connectedCancelled
  · intro id other thread otherThread found alive otherFound otherAlive
    have current : worker.mConnectedThread = some id := by
      by_contra notCurrent
      simp [connectedCancelled id thread found notCurrent] at alive
    have otherCurrent : worker.mConnectedThread = some other := by
      by_contra notCurrent
      simp [connectedCancelled other otherThread otherFound notCurrent]
        at otherAlive
    exact Option.some.inj (current.symm.trans otherCurrent)
  · intro isNone
    obtain ⟨accepts, connect, connected⟩ := invariant.idle isNone
    exact ⟨accepts true, accepts false, connect, connected⟩
  · intro isListening
    have accepts := invariant.listening isListening
    exact ⟨accepts true, accepts false⟩
  · intro isConnected
    have accepts := invariant.exclusive isConnected
    exact ⟨accepts true, accepts false⟩
  · intro id thread found notSecure notInsecure
    have bound := (List.getElem?_eq_some_iff.mp found).1
    have notHeld : ThreadName.accept id ∉ worker.view.held := by
      rw [accept_mem_view_held, not_or]
      exact ⟨notSecure, notInsecure⟩
    obtain ⟨thread', found', isCancelled⟩ := cancelled (.accept id) bound
      notHeld (by simp)
    rw [found] at found'
    cases found'
    exact isCancelled
  · exact valid.sound.accounted

/-- An accepted connection that a later call of `connect` replaces. -/
theorem connectionInvariant_after_accept :
    ∃ worker, LabelledRun.follow step Worker.initial
        [.start ⟨true, true⟩, .acceptTest 0,
          .acceptReturns 0 (.unnamed 49), .acceptHandle 0 ⟨true, true⟩,
          .lockWrite [0xFF#8], .connect (.unnamed 50) true true,
          .performWrite 0 true] = some worker ∧
      worker.ConnectionInvariant :=
  have creates : ∀ label ∈ [.start ⟨true, true⟩, .acceptTest 0,
      .acceptReturns 0 (.unnamed 49), .acceptHandle 0 ⟨true, true⟩,
      .lockWrite [0xFF#8], .connect (.unnamed 50) true true,
      .performWrite 0 true], Step.Creates label := by
    simp [Step.Creates]
  ⟨_, rfl, connectionInvariant_of_run creates rfl⟩

end WorkerClass

end MightyMouse
