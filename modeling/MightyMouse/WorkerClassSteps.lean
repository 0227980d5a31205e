import MightyMouse.StatefulBody
import MightyMouse.WorkerClass

/-!
# The steps of the service as rules

`bodyOf` says by cases which body a step runs.  Here the same is said by one
rule for each way through the code, with what the code has tested on the way.
Proofs about steps go through these rules.
-/

namespace MightyMouse

namespace WorkerClass

open StatefulBody

/-- The step uses a socket or stream that is null. -/
inductive NullUse (worker : Worker) : Step → Prop
  | accept {id : ThreadId} {thread : AcceptThread}
      (found : worker.acceptThreads[id]? = some thread)
      (stands : thread.point = .testing)
      (waits : worker.mState ≠ .stateConnected)
      (missing : thread.mmServerSocket = none) :
      NullUse worker (.acceptTest id)
  | connectReturns {id : ThreadId} {thread : ConnectThread}
      (found : worker.connectThreads[id]? = some thread)
      (stands : thread.point = .connecting)
      (missing : thread.mmSocket = none) :
      NullUse worker (.connectReturns id)
  | connectThrows {id : ThreadId} {thread : ConnectThread}
      (found : worker.connectThreads[id]? = some thread)
      (stands : thread.point = .connecting)
      (missing : thread.mmSocket = none) :
      NullUse worker (.connectThrows id)
  | handOver {id : ThreadId} {thread : ConnectThread} (streams : Streams)
      (found : worker.connectThreads[id]? = some thread)
      (stands : thread.point = .handingOver)
      (missing : thread.mmSocket = none) :
      NullUse worker (.handOver id streams)
  | readReturns {id : ThreadId} {thread : ConnectedThread} (bytes : List Byte)
      (found : worker.connectedThreads[id]? = some thread)
      (stands : thread.point = .reading)
      (missing : thread.mmInStream = false) :
      NullUse worker (.readReturns id bytes)
  | readThrows {id : ThreadId} {thread : ConnectedThread}
      (found : worker.connectedThreads[id]? = some thread)
      (stands : thread.point = .reading)
      (missing : thread.mmInStream = false) :
      NullUse worker (.readThrows id)
  | write {index : Nat} {writer : Writer} (succeeds : Bool)
      (waiting : worker.writers[index]? = some writer)
      (missing : ∀ id thread, writer.r = some id →
        worker.connectedThreads[id]? = some thread →
        thread.mmOutStream = false) :
      NullUse worker (.performWrite index succeeds)

/-- The body that a step runs in a state of the service. -/
inductive Runs (worker : Worker) : Step → Body Unit → Prop
  | nullUse {label : Step} (null : NullUse worker label) :
      Runs worker label crash
  | start (listens : Listens) : Runs worker (.start listens) (start listens)
  | connect (device : BluetoothDevice) (secure creates : Bool) :
      Runs worker (.connect device secure creates)
        (connect device secure creates)
  | stop : Runs worker .stop stop
  | lockWrite (out : List Byte) : Runs worker (.lockWrite out) (lockWrite out)
  | write {index : Nat} {writer : Writer} {id : ThreadId}
      {thread : ConnectedThread} (succeeds : Bool)
      (waiting : worker.writers[index]? = some writer)
      (copied : writer.r = some id)
      (found : worker.connectedThreads[id]? = some thread)
      (isOpen : thread.mmOutStream = true) :
      Runs worker (.performWrite index succeeds) (do
        shareWritten writer.out succeeds
        modify fun worker => { worker with
          writers := worker.writers.eraseIdx index })
  | leaveLoop {id : ThreadId} {thread : AcceptThread}
      (found : worker.acceptThreads[id]? = some thread)
      (stands : thread.point = .testing)
      (ends : worker.mState = .stateConnected) :
      Runs worker (.acceptTest id) (moveAccept id .finished)
  | block {id : ThreadId} {thread : AcceptThread}
      (found : worker.acceptThreads[id]? = some thread)
      (stands : thread.point = .testing)
      (waits : worker.mState ≠ .stateConnected)
      (present : thread.mmServerSocket ≠ none) :
      Runs worker (.acceptTest id) (moveAccept id .accepting)
  | acceptReturns {id : ThreadId} {thread : AcceptThread}
      (device : BluetoothDevice)
      (found : worker.acceptThreads[id]? = some thread)
      (stands : thread.point = .accepting)
      (isOpen : thread.mmServerSocket = some ⟨false⟩) :
      Runs worker (.acceptReturns id device) (do
        modify fun worker => { worker with
          sockets := worker.sockets ++ [⟨true, false⟩] }
        moveAccept id (.accepted worker.sockets.length device))
  | acceptThrows {id : ThreadId} {thread : AcceptThread}
      (found : worker.acceptThreads[id]? = some thread)
      (stands : thread.point = .accepting) :
      Runs worker (.acceptThrows id) (moveAccept id .finished)
  | acceptHandle {id : ThreadId} {thread : AcceptThread} {socket : SocketId}
      {device : BluetoothDevice} (streams : Streams)
      (found : worker.acceptThreads[id]? = some thread)
      (stands : thread.point = .accepted socket device) :
      Runs worker (.acceptHandle id streams) (do
        handleAccepted socket device streams
        moveAccept id .testing)
  | connectReturns {id : ThreadId} {thread : ConnectThread} {socket : SocketId}
      (found : worker.connectThreads[id]? = some thread)
      (stands : thread.point = .connecting)
      (stored : thread.mmSocket = some socket) :
      Runs worker (.connectReturns id) (moveConnect id .resetting)
  | connectThrows {id : ThreadId} {thread : ConnectThread} {socket : SocketId}
      (found : worker.connectThreads[id]? = some thread)
      (stands : thread.point = .connecting)
      (stored : thread.mmSocket = some socket) :
      Runs worker (.connectThrows id) (do
        closeSocket socket
        moveConnect id .failed)
  | failedToast {id : ThreadId} {thread : ConnectThread}
      (found : worker.connectThreads[id]? = some thread)
      (stands : thread.point = .failed) :
      Runs worker (.failedToast id) (do
        post (.toast "Unable to connect device")
        moveConnect id .restarting)
  | failedStart {id : ThreadId} {thread : ConnectThread} (listens : Listens)
      (found : worker.connectThreads[id]? = some thread)
      (stands : thread.point = .restarting) :
      Runs worker (.failedStart id listens) (do
        WorkerClass.start listens
        moveConnect id .finished)
  | resetConnectThread {id : ThreadId} {thread : ConnectThread}
      (found : worker.connectThreads[id]? = some thread)
      (stands : thread.point = .resetting) :
      Runs worker (.resetConnectThread id) (do
        modify fun worker => { worker with mConnectThread := none }
        moveConnect id .handingOver)
  | handOver {id : ThreadId} {thread : ConnectThread} {socket : SocketId}
      (streams : Streams)
      (found : worker.connectThreads[id]? = some thread)
      (stands : thread.point = .handingOver)
      (stored : thread.mmSocket = some socket) :
      Runs worker (.handOver id streams) (do
        connected socket thread.mmDevice streams
        moveConnect id .finished)
  | readReturns {id : ThreadId} {thread : ConnectedThread} (bytes : List Byte)
      (found : worker.connectedThreads[id]? = some thread)
      (stands : thread.point = .reading)
      (isOpen : thread.mmInStream = true) :
      Runs worker (.readReturns id bytes) (post (.read bytes))
  | readThrows {id : ThreadId} {thread : ConnectedThread}
      (found : worker.connectedThreads[id]? = some thread)
      (stands : thread.point = .reading)
      (isOpen : thread.mmInStream = true) :
      Runs worker (.readThrows id) (moveConnected id .lost)
  | lostToast {id : ThreadId} {thread : ConnectedThread}
      (found : worker.connectedThreads[id]? = some thread)
      (stands : thread.point = .lost) :
      Runs worker (.lostToast id) (do
        post (.toast "Device connection was lost")
        moveConnected id .restarting)
  | lostStart {id : ThreadId} {thread : ConnectedThread} (listens : Listens)
      (found : worker.connectedThreads[id]? = some thread)
      (stands : thread.point = .restarting) :
      Runs worker (.lostStart id listens) (do
        WorkerClass.start listens
        moveConnected id .restartingAgain)
  | restart {id : ThreadId} {thread : ConnectedThread} (listens : Listens)
      (found : worker.connectedThreads[id]? = some thread)
      (stands : thread.point = .restartingAgain) :
      Runs worker (.restart id listens) (do
        WorkerClass.start listens
        moveConnected id .finished)

section Inversion

-- The equations of the bodies are made once, ahead of the lemmas about them.
attribute [local simp] acceptBody connectBody connectedBody

variable {worker : Worker} {label : Step} {body : Body Unit}

theorem runs_of_writeBody {index : Nat} {writer : Writer} (succeeds : Bool)
    (waiting : worker.writers[index]? = some writer) :
    Runs worker (.performWrite index succeeds)
      (writeBody worker index writer succeeds) := by
  unfold writeBody
  split
  · next missing =>
      refine .nullUse (.write succeeds waiting ?_)
      intro id thread copied found
      rw [copied, Option.bind_some, found] at missing
      cases missing
  · next thread present =>
      obtain ⟨id, copied, found⟩ := Option.bind_eq_some_iff.mp present
      split
      · next isOpen => exact .write succeeds waiting copied found isOpen
      · next closed =>
          refine .nullUse (.write succeeds waiting ?_)
          intro other thread' same found'
          rw [copied] at same
          cases same
          rw [found] at found'
          cases found'
          exact Bool.eq_false_iff.mpr closed

section Accept

variable {id : ThreadId} {thread : AcceptThread}
variable (found : worker.acceptThreads[id]? = some thread)
include found

theorem runs_acceptTest
    (enabled : acceptBody worker id thread (.acceptTest id) = some body) :
    Runs worker (.acceptTest id) body := by
  simp only [acceptBody] at enabled
  split at enabled
  · next stands =>
      split at enabled
      · next ends =>
          cases enabled
          exact .leaveLoop found stands ends
      · next waits =>
          split at enabled
          · next missing =>
              cases enabled
              exact .nullUse (.accept found stands waits
                (Option.isNone_iff_eq_none.mp missing))
          · next present =>
              cases enabled
              refine .block found stands waits fun missing => present ?_
              rw [missing]
              rfl
  · cases enabled

theorem runs_acceptReturns {device : BluetoothDevice}
    (enabled : acceptBody worker id thread (.acceptReturns id device) =
      some body) :
    Runs worker (.acceptReturns id device) body := by
  simp only [acceptBody] at enabled
  split at enabled
  · next guard =>
      cases enabled
      exact .acceptReturns device found guard.1 guard.2
  · cases enabled

theorem runs_acceptThrows
    (enabled : acceptBody worker id thread (.acceptThrows id) = some body) :
    Runs worker (.acceptThrows id) body := by
  simp only [acceptBody] at enabled
  split at enabled
  · next stands =>
      cases enabled
      exact .acceptThrows found stands
  · cases enabled

theorem runs_acceptHandle {streams : Streams}
    (enabled : acceptBody worker id thread (.acceptHandle id streams) =
      some body) :
    Runs worker (.acceptHandle id streams) body := by
  simp only [acceptBody] at enabled
  split at enabled
  · next stands =>
      cases enabled
      exact .acceptHandle streams found stands
  · cases enabled

end Accept

section Connect

variable {id : ThreadId} {thread : ConnectThread}
variable (found : worker.connectThreads[id]? = some thread)
include found

theorem runs_connectReturns
    (enabled : connectBody worker id thread (.connectReturns id) = some body) :
    Runs worker (.connectReturns id) body := by
  simp only [connectBody] at enabled
  split at enabled
  · next stands =>
      split at enabled
      · next missing =>
          cases enabled
          exact .nullUse (.connectReturns found stands missing)
      · next socket stored =>
          split at enabled
          · cases enabled
            exact .connectReturns found stands stored
          · cases enabled
  · cases enabled

theorem runs_connectThrows
    (enabled : connectBody worker id thread (.connectThrows id) = some body) :
    Runs worker (.connectThrows id) body := by
  simp only [connectBody] at enabled
  split at enabled
  · next stands =>
      split at enabled
      · next missing =>
          cases enabled
          exact .nullUse (.connectThrows found stands missing)
      · next socket stored =>
          cases enabled
          exact .connectThrows found stands stored
  · cases enabled

theorem runs_failedToast
    (enabled : connectBody worker id thread (.failedToast id) = some body) :
    Runs worker (.failedToast id) body := by
  simp only [connectBody] at enabled
  split at enabled
  · next stands =>
      cases enabled
      exact .failedToast found stands
  · cases enabled

theorem runs_failedStart {listens : Listens}
    (enabled : connectBody worker id thread (.failedStart id listens) =
      some body) :
    Runs worker (.failedStart id listens) body := by
  simp only [connectBody] at enabled
  split at enabled
  · next stands =>
      cases enabled
      exact .failedStart listens found stands
  · cases enabled

theorem runs_resetConnectThread
    (enabled : connectBody worker id thread (.resetConnectThread id) =
      some body) :
    Runs worker (.resetConnectThread id) body := by
  simp only [connectBody] at enabled
  split at enabled
  · next stands =>
      cases enabled
      exact .resetConnectThread found stands
  · cases enabled

theorem runs_handOver {streams : Streams}
    (enabled : connectBody worker id thread (.handOver id streams) =
      some body) :
    Runs worker (.handOver id streams) body := by
  simp only [connectBody] at enabled
  split at enabled
  · next stands =>
      split at enabled
      · next missing =>
          cases enabled
          exact .nullUse (.handOver streams found stands missing)
      · next socket stored =>
          cases enabled
          exact .handOver streams found stands stored
  · cases enabled

end Connect

section Connected

variable {id : ThreadId} {thread : ConnectedThread}
variable (found : worker.connectedThreads[id]? = some thread)
include found

theorem runs_readReturns {bytes : List Byte}
    (enabled : connectedBody worker id thread (.readReturns id bytes) =
      some body) :
    Runs worker (.readReturns id bytes) body := by
  simp only [connectedBody] at enabled
  split at enabled
  · next stands =>
      split at enabled
      · next isOpen =>
          split at enabled
          · cases enabled
            exact .readReturns bytes found stands isOpen
          · cases enabled
      · next closed =>
          cases enabled
          exact .nullUse (.readReturns bytes found stands
            (Bool.eq_false_iff.mpr closed))
  · cases enabled

theorem runs_readThrows
    (enabled : connectedBody worker id thread (.readThrows id) = some body) :
    Runs worker (.readThrows id) body := by
  simp only [connectedBody] at enabled
  split at enabled
  · next stands =>
      split at enabled
      · next isOpen =>
          cases enabled
          exact .readThrows found stands isOpen
      · next closed =>
          cases enabled
          exact .nullUse (.readThrows found stands
            (Bool.eq_false_iff.mpr closed))
  · cases enabled

theorem runs_lostToast
    (enabled : connectedBody worker id thread (.lostToast id) = some body) :
    Runs worker (.lostToast id) body := by
  simp only [connectedBody] at enabled
  split at enabled
  · next stands =>
      cases enabled
      exact .lostToast found stands
  · cases enabled

theorem runs_lostStart {listens : Listens}
    (enabled : connectedBody worker id thread (.lostStart id listens) =
      some body) :
    Runs worker (.lostStart id listens) body := by
  simp only [connectedBody] at enabled
  split at enabled
  · next stands =>
      cases enabled
      exact .lostStart listens found stands
  · cases enabled

theorem runs_restart {listens : Listens}
    (enabled : connectedBody worker id thread (.restart id listens) =
      some body) :
    Runs worker (.restart id listens) body := by
  simp only [connectedBody] at enabled
  split at enabled
  · next stands =>
      cases enabled
      exact .restart listens found stands
  · cases enabled

end Connected

/-- Every body that a step runs comes from one of the rules. -/
theorem runs_of_bodyOf (enabled : bodyOf worker label = some body) :
    Runs worker label body := by
  cases label with
  | start listens =>
      cases enabled
      exact .start listens
  | connect device secure creates =>
      cases enabled
      exact .connect device secure creates
  | stop =>
      cases enabled
      exact .stop
  | lockWrite out =>
      cases enabled
      exact .lockWrite out
  | performWrite index succeeds =>
      obtain ⟨writer, waiting, rfl⟩ := Option.map_eq_some_iff.mp enabled
      exact runs_of_writeBody succeeds waiting
  | acceptTest id =>
      obtain ⟨thread, found, here⟩ := Option.bind_eq_some_iff.mp enabled
      exact runs_acceptTest found here
  | acceptReturns id device =>
      obtain ⟨thread, found, here⟩ := Option.bind_eq_some_iff.mp enabled
      exact runs_acceptReturns found here
  | acceptThrows id =>
      obtain ⟨thread, found, here⟩ := Option.bind_eq_some_iff.mp enabled
      exact runs_acceptThrows found here
  | acceptHandle id streams =>
      obtain ⟨thread, found, here⟩ := Option.bind_eq_some_iff.mp enabled
      exact runs_acceptHandle found here
  | connectReturns id =>
      obtain ⟨thread, found, here⟩ := Option.bind_eq_some_iff.mp enabled
      exact runs_connectReturns found here
  | connectThrows id =>
      obtain ⟨thread, found, here⟩ := Option.bind_eq_some_iff.mp enabled
      exact runs_connectThrows found here
  | failedToast id =>
      obtain ⟨thread, found, here⟩ := Option.bind_eq_some_iff.mp enabled
      exact runs_failedToast found here
  | failedStart id listens =>
      obtain ⟨thread, found, here⟩ := Option.bind_eq_some_iff.mp enabled
      exact runs_failedStart found here
  | resetConnectThread id =>
      obtain ⟨thread, found, here⟩ := Option.bind_eq_some_iff.mp enabled
      exact runs_resetConnectThread found here
  | handOver id streams =>
      obtain ⟨thread, found, here⟩ := Option.bind_eq_some_iff.mp enabled
      exact runs_handOver found here
  | readReturns id bytes =>
      obtain ⟨thread, found, here⟩ := Option.bind_eq_some_iff.mp enabled
      exact runs_readReturns found here
  | readThrows id =>
      obtain ⟨thread, found, here⟩ := Option.bind_eq_some_iff.mp enabled
      exact runs_readThrows found here
  | lostToast id =>
      obtain ⟨thread, found, here⟩ := Option.bind_eq_some_iff.mp enabled
      exact runs_lostToast found here
  | lostStart id listens =>
      obtain ⟨thread, found, here⟩ := Option.bind_eq_some_iff.mp enabled
      exact runs_lostStart found here
  | restart id listens =>
      obtain ⟨thread, found, here⟩ := Option.bind_eq_some_iff.mp enabled
      exact runs_restart found here

/-- A step is taken in a process that runs, and executes the body of a
rule. -/
theorem step_runs {next : Worker} (taken : step worker label = some next) :
    worker.crashed = false ∧
      ∃ body, Runs worker label body ∧ next = execute body worker := by
  unfold step at taken
  split at taken
  · cases taken
  · next running =>
      obtain ⟨body, enabled, rfl⟩ := Option.map_eq_some_iff.mp taken
      exact ⟨Bool.eq_false_iff.mpr running, body, runs_of_bodyOf enabled, rfl⟩

/-- What a triple says about the state after a step. -/
theorem execute_cases {returned thrown : Worker → Prop}
    (triple : Triple (fun state => state = worker) body (fun _ => returned)
      thrown) :
    returned (execute body worker) ∨
      ∃ after, thrown after ∧
        execute body worker = { after with crashed := true } := by
  have result := triple worker rfl
  unfold execute
  cases run : body worker with
  | ok value after =>
      rw [run] at result
      exact Or.inl result
  | error raised after =>
      rw [run] at result
      exact Or.inr ⟨after, result, rfl⟩

/-- A body that leaves the process running has returned. -/
theorem returned_of_running {returned thrown : Worker → Prop}
    (triple : Triple (fun state => state = worker) body (fun _ => returned)
      thrown) (running : (execute body worker).crashed = false) :
    returned (execute body worker) := by
  rcases execute_cases triple with holds | ⟨after, _, result⟩
  · exact holds
  · rw [result] at running
    cases running

end Inversion

end WorkerClass

end MightyMouse
