import MightyMouse.WorkerClassSurvival

/-!
# The sockets of the service

Every `BluetoothSocket` is created for one thread and passes from a connect or
accept thread to a connected thread.  This file follows the sockets through
the steps of the service: `cancel()` closes the socket of its thread, and a
socket that nobody uses any more has been closed.
-/

namespace MightyMouse

namespace WorkerClass

open StatefulBody LabelledRun

section Writers

variable {worker : Worker} {label : Step}

/-- Only callers of `write` come and go among its callers. -/
theorem writers_of_step (other : label.isWrite = false) {next : Worker}
    (taken : step worker label = some next) :
    next.writers = worker.writers := by
  obtain ⟨_, body, runs, rfl⟩ := step_runs taken
  have keeps : Preserves (fun state => state.writers = worker.writers)
      body := by
    apply preserves_of_ownMoves _ _ runs
    · intro state next update _ same
      cases update with
      | fields tables => exact tables.writers.trans same
      | _ => exact same
    · intro state next move same
      cases move with
      | writers writers own => simp [other] at own
      | _ => exact same
  rcases execute_cases (keeps.atState rfl) with kept | ⟨after, kept, result⟩
  · exact kept
  · rw [result]
    exact kept

end Writers

section Known

/-- The sockets that thread objects refer to exist.  Of the connected threads
only the first ones are spoken about. -/
structure Known (connections : Nat) (worker : Worker) : Prop where
  attempts : ∀ thread ∈ worker.connectThreads, ∀ socket,
    thread.mmSocket = some socket → socket < worker.sockets.length
  accepted : ∀ thread ∈ worker.acceptThreads, ∀ socket device,
    thread.point = .accepted socket device → socket < worker.sockets.length
  connections : ∀ id < connections, ∃ thread,
    worker.connectedThreads[id]? = some thread ∧
      thread.mmSocket < worker.sockets.length

variable {connections : Nat} {worker : Worker}

/-- More sockets, and the same references to them. -/
theorem Known.mono {next : Worker} (known : Known connections worker)
    (grows : worker.sockets.length ≤ next.sockets.length)
    (connects : next.connectThreads = worker.connectThreads)
    (accepts : next.acceptThreads = worker.acceptThreads)
    (connected : next.connectedThreads = worker.connectedThreads) :
    Known connections next where
  attempts := by
    rw [connects]
    intro thread member socket stored
    exact (known.attempts thread member socket stored).trans_le grows
  accepted := by
    rw [accepts]
    intro thread member socket device stands
    exact (known.accepted thread member socket device stands).trans_le grows
  connections := by
    rw [connected]
    intro id bound
    obtain ⟨thread, found, inTable⟩ := known.connections id bound
    exact ⟨thread, found, inTable.trans_le grows⟩

theorem Known.updateAccept (known : Known connections worker) (id : ThreadId)
    {update : AcceptThread → AcceptThread}
    (keeps : ∀ thread, ∀ socket device,
      (update thread).point = .accepted socket device →
        thread.point = .accepted socket device ∨
          socket < worker.sockets.length) :
    Known connections { worker with
      acceptThreads := worker.acceptThreads.modify id update } where
  attempts := known.attempts
  accepted := by
    apply forall_mem_modify known.accepted
    intro thread _ holds socket device stands
    rcases keeps thread socket device stands with before | inTable
    · exact holds socket device before
    · exact inTable
  connections := known.connections

theorem Known.updateConnect (known : Known connections worker) (id : ThreadId)
    {update : ConnectThread → ConnectThread}
    (keeps : ∀ thread, (update thread).mmSocket = thread.mmSocket) :
    Known connections { worker with
      connectThreads := worker.connectThreads.modify id update } where
  attempts := by
    apply forall_mem_modify known.attempts
    intro thread _ holds
    rwa [keeps]
  accepted := known.accepted
  connections := known.connections

theorem Known.updateConnected (known : Known connections worker)
    (id : ThreadId) {update : ConnectedThread → ConnectedThread}
    (keeps : ∀ thread, (update thread).mmSocket = thread.mmSocket) :
    Known connections { worker with
      connectedThreads := worker.connectedThreads.modify id update } where
  attempts := known.attempts
  accepted := known.accepted
  connections := by
    intro other bound
    apply exists_getElem?_modify (known.connections other bound)
    intro thread inTable
    rwa [keeps]

theorem stable_known {admits : Bool → Prop} :
    Stable admits (Known connections) := by
  intro worker next update known
  cases update with
  | fields same =>
      exact known.mono (by rw [same.sockets]) same.connectThreads
        same.acceptThreads same.connectedThreads
  | closeSocket socket => exact known.mono (by simp) rfl rfl rfl
  | flagAccept id => exact known.updateAccept id fun _ _ _ stands => Or.inl stands
  | closeServer id =>
      exact known.updateAccept id fun _ _ _ stands => Or.inl stands
  | flagConnect id => exact known.updateConnect id fun _ => rfl
  | flagConnected id => exact known.updateConnected id fun _ => rfl
  | newAccept secure =>
      refine ⟨known.attempts, ?_, known.connections⟩
      intro thread member
      rcases List.mem_append.mp member with before | added
      · exact known.accepted thread before
      · simp [List.mem_singleton.mp added, newAcceptThread]
  | @newConnect device secure creates =>
      have grows : worker.sockets.length ≤
          (newConnectThread device secure creates worker).sockets.length := by
        cases creates <;> simp [newConnectThread]
      refine ⟨?_, ?_, ?_⟩
      · intro thread member socket stored
        rcases List.mem_append.mp member with before | added
        · exact (known.attempts thread before socket stored).trans_le grows
        · rw [List.mem_singleton.mp added] at stored
          obtain ⟨creating, same⟩ := Option.ite_none_right_eq_some.mp stored
          obtain rfl := Option.some.inj same
          simp [newConnectThread, creating]
      · intro thread member socket device stands
        exact (known.accepted thread member socket device stands).trans_le grows
      · intro id bound
        obtain ⟨thread, found, inTable⟩ := known.connections id bound
        exact ⟨thread, found, inTable.trans_le grows⟩
  | newConnected socket streams =>
      refine ⟨known.attempts, known.accepted, ?_⟩
      exact fun id bound =>
        exists_getElem?_append (known.connections id bound) _

variable {label : Step} {body : Body Unit}

/-- The body of `acceptReturns` is the only one that stores a new reference
outside the methods. -/
theorem runs_known (known : Known connections worker)
    (runs : Runs worker label body) :
    Triple (fun state => state = worker) body (fun _ => Known connections)
      fun _ => True := by
  have quiet (keeps : Preserves (Known connections) body) :
      Triple (fun state => state = worker) body (fun _ => Known connections)
        fun _ => True :=
    keeps.weaken (fun _ same => same ▸ known) (fun _ _ kept => kept)
      fun _ _ => trivial
  by_cases accepts : ∃ id device, label = .acceptReturns id device
  · obtain ⟨id, device, rfl⟩ := accepts
    cases runs with
    | nullUse null => cases null
    | acceptReturns =>
        refine triple_modify_bind fun state same => triple_modify ?_
        subst same
        rintro _ rfl
        have grown : Known connections { state with
            sockets := state.sockets ++ [⟨true, false⟩] } :=
          known.mono (by simp) rfl rfl rfl
        refine grown.updateAccept id fun thread socket other stands => ?_
        cases stands
        exact Or.inr (by simp)
  · apply quiet
    apply preserves_of_ownMoves stable_known.lasting _ runs
    intro state next move stateKnown
    cases move with
    | accept own =>
        refine stateKnown.updateAccept _ fun thread socket device stands => ?_
        cases label with
        | acceptReturns id device => exact absurd ⟨id, device, rfl⟩ accepts
        | acceptTest id =>
            obtain ⟨_, rfl⟩ := Prod.mk.inj (Option.some.inj own)
            simp only at stands
            split at stands <;> cases stands
        | acceptThrows id => cases own; cases stands
        | acceptHandle id streams => cases own; cases stands
        | _ => cases own
    | connect own => exact stateKnown.updateConnect _ fun _ => rfl
    | connected own => exact stateKnown.updateConnected _ fun _ => rfl
    | socket => exact stateKnown.mono (by simp) rfl rfl rfl
    | writers => exact stateKnown.mono le_rfl rfl rfl rfl

end Known

section Released

/-- The server socket of the accept thread is closed. -/
def Worker.ServerClosed (worker : Worker) (id : ThreadId) : Prop :=
  ∃ thread, worker.acceptThreads[id]? = some thread ∧
    thread.mmServerSocket = some ⟨true⟩

/-- The connect thread was created with the socket. -/
def Worker.AttemptOn (worker : Worker) (id : ThreadId) (socket : SocketId) :
    Prop :=
  ∃ thread, worker.connectThreads[id]? = some thread ∧
    thread.mmSocket = some socket

/-- The connected thread was created for the socket. -/
def Worker.ConnectionOn (worker : Worker) (id : ThreadId)
    (socket : SocketId) : Prop :=
  ∃ thread, worker.connectedThreads[id]? = some thread ∧
    thread.mmSocket = socket

/-- The socket of the thread is closed, which is what `cancel()` is for. -/
def Worker.Released (worker : Worker) : ThreadName → Prop
  | .accept id => worker.ServerClosed id
  | .connect id => ∃ socket, worker.AttemptOn id socket ∧ worker.Closed socket
  | .connected id =>
      ∃ socket, worker.ConnectionOn id socket ∧ worker.Closed socket

section Kept

variable {admits : Bool → Prop}

theorem stable_serverClosed (id : ThreadId) :
    Stable admits (Worker.ServerClosed · id) := by
  intro worker next update closed
  cases update with
  | fields same =>
      unfold Worker.ServerClosed
      rwa [same.acceptThreads]
  | flagAccept other =>
      apply exists_getElem?_modify closed
      exact fun _ stays => stays
  | closeServer other => exact exists_getElem?_modify closed (fun _ _ => rfl) other
  | newAccept => exact exists_getElem?_append closed _
  | _ => exact closed

theorem stable_attemptOn (id : ThreadId) (socket : SocketId) :
    Stable admits (Worker.AttemptOn · id socket) := by
  intro worker next update stored
  cases update with
  | fields same =>
      unfold Worker.AttemptOn
      rwa [same.connectThreads]
  | flagConnect other =>
      apply exists_getElem?_modify stored
      exact fun _ stays => stays
  | newConnect => exact exists_getElem?_append stored _
  | _ => exact stored

theorem stable_connectionOn (id : ThreadId) (socket : SocketId) :
    Stable admits (Worker.ConnectionOn · id socket) := by
  intro worker next update owned
  cases update with
  | fields same =>
      unfold Worker.ConnectionOn
      rwa [same.connectedThreads]
  | flagConnected other =>
      apply exists_getElem?_modify owned
      exact fun _ stays => stays
  | newConnected => exact exists_getElem?_append owned _
  | _ => exact owned

theorem stable_released (names : Set ThreadName) :
    Stable admits fun worker => ∀ name ∈ names, worker.Released name := by
  intro worker next update released name member
  have isReleased := released name member
  cases name with
  | accept id => exact stable_serverClosed id worker next update isReleased
  | connect id =>
      obtain ⟨socket, stored, isClosed⟩ := isReleased
      exact ⟨socket, stable_attemptOn id socket worker next update stored,
        stable_closed socket worker next update isClosed⟩
  | connected id =>
      obtain ⟨socket, owned, isClosed⟩ := isReleased
      exact ⟨socket, stable_connectionOn id socket worker next update owned,
        stable_closed socket worker next update isClosed⟩

variable {label : Step} {state next : Worker}

theorem Worker.ConnectionOn.move (move : Move label state next)
    {id : ThreadId} {socket : SocketId} (owned : state.ConnectionOn id socket) :
    next.ConnectionOn id socket := by
  cases move with
  | connected other =>
      apply exists_getElem?_modify owned
      exact fun _ stays => stays
  | _ => exact owned

theorem Worker.Closed.move (move : Move label state next) {socket : SocketId}
    (isClosed : state.Closed socket) : next.Closed socket := by
  cases move with
  | socket => exact exists_getElem?_append isClosed _
  | _ => exact isClosed

/-- Nothing that a step does reopens a socket. -/
theorem Worker.Released.move (move : Move label state next)
    {name : ThreadName} (released : state.Released name) :
    next.Released name := by
  cases name with
  | accept id =>
      cases move with
      | accept other =>
          apply exists_getElem?_modify released
          exact fun _ stays => stays
      | _ => exact released
  | connect id =>
      obtain ⟨socket, stored, isClosed⟩ := released
      refine ⟨socket, ?_, isClosed.move move⟩
      cases move with
      | connect other =>
          apply exists_getElem?_modify stored
          exact fun _ stays => stays
      | _ => exact stored
  | connected id =>
      obtain ⟨socket, owned, isClosed⟩ := released
      exact ⟨socket, owned.move move, isClosed.move move⟩

end Kept

variable {connections : Nat} {before : Worker → Prop}

theorem cancelAccept_releases (id : ThreadId) :
    Triple before (cancelAccept id)
      (fun _ next => next.Released (.accept id)) fun _ => True := by
  refine triple_modify_bind fun worker _ => triple_get_bind ?_
  rintro _ rfl
  split
  · exact triple_throw fun _ _ => trivial
  · next server present =>
      apply triple_modify
      rintro _ rfl
      obtain ⟨thread, found, _⟩ := Option.bind_eq_some_iff.mp present
      exact ⟨_, by rw [List.getElem?_modify_eq, found]; rfl, rfl⟩

theorem cancelConnect_releases (known : ∀ worker, before worker →
      Known connections worker) (id : ThreadId) :
    Triple before (cancelConnect id)
      (fun _ next => next.Released (.connect id)) fun _ => True := by
  refine triple_modify_bind fun worker start => triple_get_bind ?_
  rintro _ rfl
  split
  · exact triple_throw fun _ _ => trivial
  · next socket present =>
      apply triple_modify
      rintro _ rfl
      obtain ⟨thread, found, stored⟩ := Option.bind_eq_some_iff.mp present
      refine ⟨socket, ⟨thread, found, stored⟩, closed_closeSocket ?_⟩
      have flagged : Known connections { worker with
          connectThreads := worker.connectThreads.modify id fun old =>
            { old with cancelled := true } } :=
        (known worker start).updateConnect id fun _ => rfl
      exact flagged.attempts thread (List.mem_of_getElem? found) socket stored

theorem cancelConnected_releases (known : ∀ worker, before worker →
      Known connections worker) {id : ThreadId} (bound : id < connections) :
    Triple before (cancelConnected id)
      (fun _ next => next.Released (.connected id)) fun _ => True := by
  refine triple_modify_bind fun worker start => triple_get_bind ?_
  rintro _ rfl
  split
  · exact triple_throw fun _ _ => trivial
  · next thread found =>
      apply triple_modify
      rintro _ rfl
      have flagged : Known connections { worker with
          connectedThreads := worker.connectedThreads.modify id fun old =>
            { old with cancelled := true } } :=
        (known worker start).updateConnected id fun _ => rfl
      obtain ⟨thread', found', inTable⟩ := flagged.connections id bound
      rw [found] at found'
      cases found'
      exact ⟨thread.mmSocket, ⟨thread, found, rfl⟩, closed_closeSocket inTable⟩

end Released

section Tidy

/-- The sockets referred to exist, and cancelled threads have released
theirs. -/
structure Tidy (connections : Nat) (worker : Worker) : Prop where
  known : Known connections worker
  released : ∀ name ∈ worker.view.cancelled, worker.Released name

/-- A body that returns has changed the view as the abstract method does and
left the sockets tidy. -/
def Tidies (connections : Nat) (view next : View) (body : Body Unit) : Prop :=
  Triple (fun worker => worker.view = view ∧ Tidy connections worker) body
    (fun _ worker => worker.view = next ∧ Tidy connections worker)
    fun _ => True

variable {connections : Nat} {view next last : View}

theorem Tidies.andThen {first second : Body Unit}
    (firstTidies : Tidies connections view next first)
    (secondTidies : Tidies connections next last second) :
    Tidies connections view last (do first; second) :=
  triple_bind firstTidies fun _ => secondTidies

/-- A body that cancels nothing. -/
theorem tidies_of_refines {body : Body Unit}
    (refines : Refines Set.univ view next body)
    (keeps : ∀ property, Stable (fun _ => True) property →
      Preserves property body)
    (same : next.cancelled = view.cancelled) :
    Tidies connections view next body := by
  have knows : Preserves (Known connections) body := keeps _ stable_known
  have frees := keeps _ (stable_released view.cancelled)
  intro worker start
  obtain ⟨rfl, tidy⟩ := start
  have facts := ((refines.atState rfl).and ((knows.atState tidy.known).and
    (frees.atState tidy.released))) worker rfl
  cases run : body worker with
  | ok value after =>
      rw [run] at facts
      obtain ⟨view', known, released⟩ := facts
      refine ⟨view', known, ?_⟩
      rw [view', same]
      exact released
  | error raised after => trivial

/-- `if (mThread != null) {mThread.cancel(); mThread = null;}` releases the
thread that it cancels. -/
theorem tidies_dropThread {field : Worker → Option ThreadId}
    {cancel : ThreadId → Body Unit} {clear : Worker → Worker}
    (name : ThreadId → ThreadName) (stored : Option ThreadId)
    (reads : ∀ worker, worker.view = view → field worker = stored)
    (absent : stored = none → view = next)
    (present : ∀ id, stored = some id →
      Refines Set.univ view (view.cancel (name id)) (cancel id) ∧
        Triple (Known connections) (cancel id)
          (fun _ worker => worker.Released (name id)) fun _ => True)
    (keeps : ∀ id property, Stable (fun _ => True) property →
      Preserves property (cancel id))
    (clears : ∀ worker, SameTables worker (clear worker))
    (clearsView : ∀ id, stored = some id → ∀ worker,
      worker.view = view.cancel (name id) → (clear worker).view = next)
    (cancels : ∀ id, stored = some id →
      next.cancelled = view.cancelled ∪ {name id}) :
    Tidies connections view next (dropThread field cancel clear) := by
  refine triple_get_bind fun worker start => ?_
  obtain ⟨same, tidy⟩ := start
  rw [reads worker same]
  cases stored with
  | none =>
      refine triple_pure ?_
      rintro _ rfl
      exact ⟨same.trans (absent rfl), tidy⟩
  | some id =>
      obtain ⟨refines, releases⟩ := present id rfl
      have knows : Preserves (Known connections) (cancel id) :=
        keeps id _ stable_known
      have frees := keeps id _ (stable_released view.cancelled)
      have facts := ((refines.atState same).and
        ((knows.atState tidy.known).and
          ((releases.atState tidy.known).and
            (frees.atState (same ▸ tidy.released))))).weaken
              (fun _ here => here) (fun _ _ all => all)
              (fun _ _ => True.intro)
      refine triple_bind facts fun _ => triple_modify ?_
      rintro state ⟨stateView, known, released, before⟩
      have cleared : Update (fun _ => True) state (clear state) :=
        .fields (clears state)
      refine ⟨clearsView id rfl state stateView,
        stable_known state _ cleared known, ?_⟩
      rw [clearsView id rfl state stateView, cancels id rfl]
      refine stable_released _ state _ cleared ?_
      rintro other (old | rfl)
      · exact before other old
      · exact released

theorem tidies_dropConnectThread (tracked : view.Tracked) :
    Tidies connections view view.dropConnect dropConnectThread := by
  apply tidies_dropThread .connect view.mConnectThread
  · intro worker same
    subst same
    rfl
  · intro absent
    ext <;> simp [View.dropConnect, absent]
  · intro id stored
    exact ⟨refines_cancelConnect tracked (by simpa using stored) trivial,
      cancelConnect_releases (fun _ known => known) id⟩
  · exact fun id _ stable => stable.lasting.cancelConnect id
  · exact fun _ => by constructor <;> rfl
  · intro id stored worker same
    change { worker.view with mConnectThread := none } = view.dropConnect
    rw [same]
    simp [View.dropConnect, View.cancel, stored]
  · intro id stored
    simp [View.dropConnect, stored]

theorem tidies_dropConnectedThread (tracked : view.Tracked)
    (enough : view.connectedCount ≤ connections) :
    Tidies connections view view.dropConnected dropConnectedThread := by
  apply tidies_dropThread .connected view.mConnectedThread
  · intro worker same
    subst same
    rfl
  · intro absent
    ext <;> simp [View.dropConnected, absent]
  · intro id stored
    have isHeld : ThreadName.connected id ∈ view.held := by simpa using stored
    have bound : id < view.connectedCount := tracked.created _ isHeld
    exact ⟨refines_cancelConnected tracked isHeld,
      cancelConnected_releases (fun _ known => known) (bound.trans_le enough)⟩
  · exact fun id _ stable => stable.lasting.cancelConnected id
  · exact fun _ => by constructor <;> rfl
  · intro id stored worker same
    change { worker.view with mConnectedThread := none } = view.dropConnected
    rw [same]
    simp [View.dropConnected, View.cancel, stored]
  · intro id stored
    simp [View.dropConnected, stored]

theorem tidies_dropAcceptThread (tracked : view.Tracked) (secure : Bool) :
    Tidies connections view (view.dropAccept secure)
      (dropAcceptThread secure) := by
  apply tidies_dropThread .accept (view.acceptThread secure)
  · intro worker same
    subst same
    rfl
  · intro absent
    exact (View.dropAccept_of_absent absent).symm
  · intro id stored
    have isHeld := View.accept_mem_held.mpr ⟨secure, stored⟩
    exact ⟨refines_cancelAccept tracked isHeld trivial,
      cancelAccept_releases id⟩
  · exact fun id _ stable => stable.lasting.cancelAccept id
  · exact fun _ => by cases secure <;> constructor <;> rfl
  · intro id stored worker same
    rw [view_setAcceptThread, same]
    simp [View.dropAccept, View.cancel, stored]
  · intro id stored
    simp [View.dropAccept, stored]

theorem tidies_setState (state : ServiceState) :
    Tidies connections view (view.setState state) (setState state) :=
  tidies_of_refines (refines_setState state)
    (fun _ stable => stable.lasting.setState state) rfl

theorem tidies_startAcceptThread (secure listens : Bool) :
    Tidies connections view (view.ensureAccept secure)
      (startAcceptThread secure listens) :=
  tidies_of_refines (refines_startAcceptThread secure listens)
    (fun _ stable => stable.lasting.startAcceptThread secure trivial) rfl

section Methods

variable (tracked : view.Tracked) (enough : view.connectedCount ≤ connections)
include tracked enough

theorem tidies_start (listens : Listens) :
    Tidies connections view view.start (start listens) :=
  (tidies_dropConnectThread tracked).andThen
    ((tidies_dropConnectedThread tracked.dropConnect enough).andThen
      ((tidies_setState _).andThen
        ((tidies_startAcceptThread true _).andThen
          (tidies_startAcceptThread false _))))

theorem tidies_connect (device : BluetoothDevice) (secure creates : Bool) :
    Tidies connections view view.connect (connect device secure creates) := by
  have dropsPending : Tidies connections view
      (if view.mState = .stateConnecting then view.dropConnect else view)
      dropPendingConnectThread := by
    refine triple_get_bind ?_
    rintro worker ⟨rfl, tidy⟩
    change Triple _ (if worker.view.mState = _ then _ else _) _ _
    split
    · exact (tidies_dropConnectThread tracked).atState ⟨rfl, tidy⟩
    · refine triple_pure ?_
      rintro _ rfl
      exact ⟨rfl, tidy⟩
  have pending : View.Tracked
      (if view.mState = .stateConnecting then view.dropConnect else view) := by
    split
    · exact tracked.dropConnect
    · exact tracked
  have stillEnough : View.connectedCount
      (if view.mState = .stateConnecting then view.dropConnect else view) ≤
        connections := by
    split
    · exact enough
    · exact enough
  have creating : Tidies connections
      (if view.mState = .stateConnecting then view.dropConnect
        else view).dropConnected _
      (modify (newConnectThread device secure creates)) :=
    tidies_of_refines (refines_newConnectThread device secure creates)
      (fun _ stable => preserves_modify fun worker =>
        stable worker _ (.newConnect device secure trivial)) rfl
  exact dropsPending.andThen ((tidies_dropConnectedThread pending
    stillEnough).andThen (creating.andThen (tidies_setState _)))

theorem tidies_dropAllThreads :
    Tidies connections view view.dropAll dropAllThreads := by
  have connects := tracked.dropConnect.dropConnected
  exact (tidies_dropConnectThread tracked).andThen
    ((tidies_dropConnectedThread tracked.dropConnect enough).andThen
      ((tidies_dropAcceptThread connects true).andThen
        (tidies_dropAcceptThread (connects.dropAccept true) false)))

theorem tidies_connected (socket : SocketId) (device : BluetoothDevice)
    (streams : Streams) :
    Tidies connections view view.connected
      (connected socket device streams) := by
  have creating : Tidies connections view.dropAll _
      (modify (newConnectedThread socket streams)) :=
    tidies_of_refines (refines_newConnectedThread socket streams)
      (fun _ stable => preserves_modify fun worker =>
        stable worker _ (.newConnected socket streams)) rfl
  have posting : Tidies connections view.dropAll.newConnected _
      (post (.deviceName device.name)) :=
    tidies_of_refines (refines_post _)
      (fun _ stable => stable.lasting.post _) rfl
  exact (tidies_dropAllThreads tracked enough).andThen
    (creating.andThen (posting.andThen (tidies_setState _)))

theorem tidies_stop : Tidies connections view view.stop stop :=
  (tidies_dropAllThreads tracked enough).andThen (tidies_setState _)

theorem tidies_handleAccepted (socket : SocketId) (device : BluetoothDevice)
    (streams : Streams) :
    Tidies connections view view.handleAccepted
      (handleAccepted socket device streams) := by
  refine triple_get_bind ?_
  rintro worker ⟨rfl, tidy⟩
  have connects := (tidies_connected tracked enough socket device
    streams).atState ⟨rfl, tidy⟩
  have closes : Tidies connections worker.view worker.view
      (closeSocket socket) :=
    tidies_of_refines (refines_closeSocket socket)
      (fun _ stable => stable.lasting.closing socket) rfl
  have refuses := closes.atState ⟨rfl, tidy⟩
  have sameState : worker.view.mState = worker.mState := rfl
  unfold View.handleAccepted
  cases state : worker.mState with
  | stateNone =>
      simp only [sameState, state]
      exact refuses
  | stateListen =>
      simp only [sameState, state]
      exact connects
  | stateConnecting =>
      simp only [sameState, state]
      exact connects
  | stateConnected =>
      simp only [sameState, state]
      exact refuses

end Methods

variable {worker : Worker} {label : Step} {body : Body Unit}

/-- The threads that are cancelled after a step have released their
sockets. -/
theorem runs_releases (tracked : worker.view.Tracked)
    (enough : worker.connectedThreads.length ≤ connections)
    (tidy : Tidy connections worker) (runs : Runs worker label body) :
    Triple (fun state => state = worker) body
      (fun _ next => ∀ name ∈ (worker.view.after label).cancelled,
        next.Released name) fun _ => True := by
  have quiet (same : (worker.view.after label).cancelled =
      worker.view.cancelled) :
      Triple (fun state => state = worker) body
        (fun _ next => ∀ name ∈ (worker.view.after label).cancelled,
          next.Released name) fun _ => True := by
    have keeps : Preserves (fun state => ∀ name ∈ worker.view.cancelled,
        state.Released name) body :=
      preserves_of_runs (stable_released _).lasting
        (fun _ _ move released name member =>
          (released name member).move move) runs
    rw [same]
    exact keeps.weaken (fun _ here => here ▸ tidy.released)
      (fun _ _ released => released) fun _ _ => trivial
  have method {first : Body Unit} {after : View}
      (tidies : Tidies connections worker.view after first) :
      Triple (fun state => state = worker) first
        (fun _ next => ∀ name ∈ after.cancelled, next.Released name)
        fun _ => True := by
    apply (tidies.atState ⟨rfl, tidy⟩).weaken
    · exact fun _ same => same
    · rintro _ state ⟨rfl, stateTidy⟩
      exact stateTidy.released
    · exact fun _ _ => trivial
  have moved {first : Body Unit} {after : View} {update : Worker → Worker}
      (tidies : Tidies connections worker.view after first)
      (moves : ∀ state, Move label state (update state)) :
      Triple (fun state => state = worker) (do first; modify update)
        (fun _ next => ∀ name ∈ after.cancelled, next.Released name)
        fun _ => True := by
    refine triple_bind (method tidies) fun _ => triple_modify ?_
    exact fun state released name member =>
      (released name member).move (moves state)
  cases runs with
  | nullUse => exact triple_throw fun _ _ => trivial
  | start listens => exact method (tidies_start tracked enough listens)
  | connect device secure creates =>
      exact method (tidies_connect tracked enough device secure creates)
  | stop => exact method (tidies_stop tracked enough)
  | failedStart listens =>
      exact moved (tidies_start tracked enough listens) fun _ => .connect _ _
  | lostStart listens | restart listens =>
      exact moved (tidies_start tracked enough listens) fun _ => .connected _ _
  | acceptHandle streams =>
      exact moved (tidies_handleAccepted tracked enough _ _ streams)
        fun _ => .accept _ _ rfl
  | handOver streams =>
      exact moved (tidies_connected tracked enough _ _ streams)
        fun _ => .connect _ _
  | _ => exact quiet rfl

theorem stable_socketCount {admits : Bool → Prop} (count : Nat) :
    Stable admits fun worker => count ≤ worker.sockets.length := by
  intro worker next update enough
  cases update with
  | fields same => rwa [same.sockets]
  | closeSocket socket => simpa using enough
  | @newConnect device secure creates =>
      cases creates with
      | false => exact enough
      | true => simpa [newConnectThread] using enough.trans (Nat.le_succ _)
  | _ => exact enough

theorem sockets_grow {next : Worker} (taken : step worker label = some next) :
    worker.sockets.length ≤ next.sockets.length := by
  obtain ⟨_, body, runs, rfl⟩ := step_runs taken
  have keeps : Preserves (fun state => worker.sockets.length ≤
      state.sockets.length) body := by
    apply preserves_of_runs (stable_socketCount _).lasting _ runs
    intro state next move enough
    cases move with
    | socket => simpa using enough.trans (Nat.le_succ _)
    | _ => exact enough
  rcases execute_cases (keeps.atState le_rfl) with kept | ⟨after, kept, result⟩
  · exact kept
  · rw [result]
    exact kept

/-- The new connected thread is given a socket that exists. -/
theorem runs_connectionOn (tracked : worker.view.Tracked)
    (known : Known connections worker) {streams : Streams}
    (connects : connectingStreams worker label = some streams)
    (runs : Runs worker label body) :
    Triple (fun state => state = worker) body
      (fun _ next => ∃ socket < worker.sockets.length,
        next.ConnectionOn worker.connectedThreads.length socket)
      fun _ => True := by
  have hands {first : Body Unit} {update : Worker → Worker}
      {socket : SocketId} (inTable : socket < worker.sockets.length)
      (adds : Triple (fun state => state = worker) first
        (fun _ next =>
          next.ConnectionOn worker.connectedThreads.length socket)
        fun _ => True)
      (same : ∀ state, (update state).connectedThreads =
        state.connectedThreads) :
      Triple (fun state => state = worker) (do first; modify update)
        (fun _ next => ∃ socket < worker.sockets.length,
          next.ConnectionOn worker.connectedThreads.length socket)
        fun _ => True := by
    refine triple_bind adds fun _ => triple_modify fun state owned => ?_
    refine ⟨socket, inTable, ?_⟩
    unfold Worker.ConnectionOn
    rw [same]
    exact owned
  have adds (socket : SocketId) (device : BluetoothDevice)
      (streams : Streams) :
      Triple (fun state => state = worker) (connected socket device streams)
        (fun _ next =>
          next.ConnectionOn worker.connectedThreads.length socket)
        fun _ => True :=
    (connected_adds tracked socket device streams).weaken
      (fun _ same => same) (fun _ _ found => ⟨_, found, rfl⟩) fun _ _ => trivial
  cases runs with
  | nullUse => exact triple_throw fun _ _ => trivial
  | @handOver id thread socket asked found _ stored =>
      have inTable := known.attempts thread (List.mem_of_getElem? found) socket
        stored
      exact hands inTable (adds socket _ asked) fun _ => rfl
  | @acceptHandle id thread socket device asked found stands =>
      obtain ⟨ready, _⟩ := Option.ite_none_right_eq_some.mp connects
      have inTable := known.accepted thread (List.mem_of_getElem? found) socket
        device stands
      refine hands inTable (triple_get_bind ?_) fun _ => rfl
      rintro state rfl
      rcases ready with listening | connecting
      · rw [listening]
        exact adds socket device asked
      · rw [connecting]
        exact adds socket device asked
  | _ => cases connects

/-- Every step of a process that runs on leaves the sockets tidy. -/
theorem tidy_step (valid : Valid False worker)
    (tidy : Tidy worker.connectedThreads.length worker) {next : Worker}
    (taken : step worker label = some next) (running : next.crashed = false) :
    Tidy next.connectedThreads.length next := by
  have tracked :=
    (valid.invariant (Or.inr (crashed_of_step taken))).toTracked
  have view := view_of_step valid False.elim taken running
  have count : next.connectedThreads.length = _ :=
    (congrArg View.connectedCount view).trans (connectedCount_after worker label)
  have grows := sockets_grow taken
  obtain ⟨_, body, runs, rfl⟩ := step_runs taken
  have known := returned_of_running (runs_known tidy.known runs) running
  have released := returned_of_running
    (runs_releases tracked le_rfl tidy runs) running
  rw [← view] at released
  refine ⟨⟨known.attempts, known.accepted, ?_⟩, released⟩
  intro id bound
  by_cases before : id < worker.connectedThreads.length
  · exact known.connections id before
  -- The only other thread is the one made by `connected()`.
  cases connects : connectingStreams worker label with
  | none =>
      rw [connects] at count
      have same : (execute body worker).connectedThreads.length =
          worker.connectedThreads.length := count
      exact absurd (same ▸ bound) before
  | some streams =>
      rw [connects] at count
      have upTo : id < worker.connectedThreads.length + 1 := count ▸ bound
      have last : id = worker.connectedThreads.length :=
        le_antisymm (Nat.lt_succ_iff.mp upTo) (not_lt.mp before)
      obtain ⟨socket, inTable, thread, found, owned⟩ := returned_of_running
        (runs_connectionOn tracked tidy.known connects runs) running
      rw [last]
      exact ⟨thread, found, owned ▸ inTable.trans_le grows⟩

theorem tidy_initial : Tidy 0 Worker.initial where
  known := by constructor <;> simp [Worker.initial]
  released := by
    rw [view_initial]
    simp [View.initial]

end Tidy

section Accounted

/-- The points at which a connect thread has its socket in hand. -/
def ConnectPoint.holds : ConnectPoint → Bool
  | .connecting | .resetting | .handingOver => true
  | .failed | .restarting | .finished => false

/-- The connect thread exists with the socket and stands at the point. -/
def Worker.ConnectAt (worker : Worker) (id : ThreadId)
    (socket : Option SocketId) (point : ConnectPoint) : Prop :=
  ∃ thread, worker.connectThreads[id]? = some thread ∧
    (thread.mmSocket = socket ∧ thread.point = point)

/-- A connect thread is still at work on the socket. -/
def Worker.Attempting (worker : Worker) (socket : SocketId) : Prop :=
  ∃ id point, worker.ConnectAt id (some socket) point ∧ point.holds = true

/-- Nobody has lost the socket without closing it. -/
def Worker.Accounted (worker : Worker) (socket : SocketId) : Prop :=
  worker.Closed socket ∨ worker.Pending socket ∨ worker.Attempting socket ∨
    worker.Handed socket

variable {admits : Bool → Prop}

theorem stable_connectAt (id : ThreadId) (socket : Option SocketId)
    (point : ConnectPoint) :
    Stable admits (Worker.ConnectAt · id socket point) := by
  intro worker next update isAt
  cases update with
  | fields same =>
      unfold Worker.ConnectAt
      rwa [same.connectThreads]
  | flagConnect other =>
      apply exists_getElem?_modify isAt
      exact fun _ stays => stays
  | newConnect => exact exists_getElem?_append isAt _
  | _ => exact isAt

theorem Worker.Accounted.update {worker next : Worker} {socket : SocketId}
    (accounted : worker.Accounted socket)
    (update : Update admits worker next) : next.Accounted socket := by
  rcases accounted with isClosed | ⟨id, device, isAt⟩ |
    ⟨id, point, isAt, holds⟩ | isHanded
  · exact Or.inl (stable_closed socket worker next update isClosed)
  · exact Or.inr (Or.inl
      ⟨id, device, stable_acceptAt id _ worker next update isAt⟩)
  · exact Or.inr (Or.inr (Or.inl
      ⟨id, point, stable_connectAt id _ point worker next update isAt, holds⟩))
  · exact Or.inr (Or.inr (Or.inr
      (stable_handed socket worker next update isHanded)))

theorem stable_accounted_all :
    Stable admits fun worker =>
      ∀ socket < worker.sockets.length, worker.Accounted socket := by
  intro worker next update accounted socket bound
  by_cases before : socket < worker.sockets.length
  · exact (accounted socket before).update update
  cases update with
  | fields same => exact absurd (same.sockets ▸ bound) before
  | closeSocket other => exact absurd (by simpa using bound) before
  | @newConnect device secure creates =>
      cases creates with
      | false => exact absurd bound before
      | true =>
          -- the socket that has just been created
          have upTo : socket < worker.sockets.length + 1 := by
            simpa [newConnectThread] using bound
          have last : socket = worker.sockets.length :=
            le_antisymm (Nat.lt_succ_iff.mp upTo) (not_lt.mp before)
          refine Or.inr (Or.inr (Or.inl ⟨worker.connectThreads.length,
            .connecting, ⟨_, List.getElem?_concat_length, ?_, rfl⟩, rfl⟩))
          rw [last]
          rfl
  | _ => exact absurd bound before

variable {worker next : Worker} {label : Step} {body : Body Unit}

/-- An accept thread may leave its point once the socket it holds there, if
any, has been handed over or closed. -/
theorem Worker.Accounted.moveAccept {socket : SocketId}
    (accounted : worker.Accounted socket) {id : ThreadId} {old : AcceptPoint}
    (isAt : worker.AcceptAt id old)
    (released : ∀ device, old = .accepted socket device →
      worker.Handed socket ∨ worker.Closed socket) (point : AcceptPoint) :
    Worker.Accounted { worker with
      acceptThreads := worker.acceptThreads.modify id fun old =>
        { old with point := point } } socket := by
  rcases accounted with isClosed | pending | rest
  · exact Or.inl isClosed
  · rcases pending.moveAccept isAt point with ⟨device, held⟩ | still
    · rcases released device held with handed | closed
      · exact Or.inr (Or.inr (Or.inr handed))
      · exact Or.inl closed
    · exact Or.inr (Or.inl still)
  · exact Or.inr (Or.inr rest)

/-- A connect thread may put its socket down once it has been handed over or
closed. -/
theorem Worker.Accounted.moveConnect {socket : SocketId}
    (accounted : worker.Accounted socket) {id : ThreadId}
    {stored : Option SocketId} {old point : ConnectPoint}
    (isAt : worker.ConnectAt id stored old)
    (released : stored = some socket → old.holds = true →
      point.holds = true ∨ worker.Handed socket ∨ worker.Closed socket) :
    Worker.Accounted { worker with
      connectThreads := worker.connectThreads.modify id fun old =>
        { old with point := point } } socket := by
  rcases accounted with isClosed | pending |
    ⟨other, stands, ⟨thread, found, owned, here⟩, holds⟩ | handed
  · exact Or.inl isClosed
  · exact Or.inr (Or.inl pending)
  · by_cases same : id = other
    · subst other
      obtain ⟨thread', found', owned', here'⟩ := isAt
      rw [found] at found'
      cases found'
      have isHeld : old.holds = true := by rw [← here', here, holds]
      rcases released (owned'.symm.trans owned) isHeld with
        still | handed | closed
      · refine Or.inr (Or.inr (Or.inl ⟨id, point,
          ⟨{ thread with point := point }, ?_, owned, rfl⟩, still⟩))
        rw [List.getElem?_modify_eq, found]
        rfl
      · exact Or.inr (Or.inr (Or.inr handed))
      · exact Or.inl closed
    · refine Or.inr (Or.inr (Or.inl ⟨other, stands,
        ⟨thread, ?_, owned, here⟩, holds⟩))
      rw [List.getElem?_modify_ne _ _ same]
      exact found
  · exact Or.inr (Or.inr (Or.inr handed))

section Bodies

variable (accounted : ∀ socket < worker.sockets.length,
  worker.Accounted socket)
include accounted

/-- The body of a step of a connect thread. -/
theorem accounted_thenMoveConnect {first : Body Unit} {id : ThreadId}
    {thread : ConnectThread} {point : ConnectPoint}
    (found : worker.connectThreads[id]? = some thread)
    (keeps : ∀ property, Stable (fun _ => True) property →
      Preserves property first)
    (released : thread.point.holds = true → point.holds = true ∨
      ∀ socket, thread.mmSocket = some socket →
        Triple (fun state => state = worker) first
          (fun _ next => socket < next.sockets.length →
            next.Handed socket ∨ next.Closed socket) fun _ => True) :
    Triple (fun state => state = worker) (do first; moveConnect id point)
      (fun _ next => ∀ socket < next.sockets.length, next.Accounted socket)
      fun _ => True := by
  have kept := (keeps _ stable_accounted_all).atState accounted
  have stays := (keeps _ (stable_connectAt id thread.mmSocket
    thread.point)).atState ⟨thread, found, rfl, rfl⟩
  have releases : Triple (fun state => state = worker) first
      (fun _ next => ∀ socket < next.sockets.length,
        thread.mmSocket = some socket → thread.point.holds = true →
          point.holds = true ∨ next.Handed socket ∨ next.Closed socket)
      fun _ => True := by
    intro state same
    cases run : first state with
    | error raised after => trivial
    | ok value after =>
        intro socket bound stored holds
        refine (released holds).imp_right fun givesUp => ?_
        have result := givesUp socket stored state same
        rw [run] at result
        exact result bound
  refine triple_bind (((kept.and stays).and releases).weaken
    (fun _ same => same) (fun _ _ all => all) fun _ _ => trivial) fun _ => ?_
  refine triple_modify ?_
  rintro state ⟨⟨stateAccounted, isAt⟩, putDown⟩ socket bound
  exact (stateAccounted socket bound).moveConnect isAt (putDown socket bound)

theorem accounted_moveAccept {id : ThreadId} {thread : AcceptThread}
    (found : worker.acceptThreads[id]? = some thread)
    (idle : ∀ socket device, thread.point ≠ .accepted socket device)
    (point : AcceptPoint) :
    Triple (fun state => state = worker) (moveAccept id point)
      (fun _ next => ∀ socket < next.sockets.length, next.Accounted socket)
      fun _ => True := by
  refine triple_modify ?_
  rintro _ rfl socket bound
  exact (accounted socket bound).moveAccept ⟨thread, found, rfl⟩
    (fun device same => absurd same (idle socket device)) point

theorem accounted_acceptReturns {id : ThreadId} {thread : AcceptThread}
    (found : worker.acceptThreads[id]? = some thread)
    (stands : thread.point = .accepting) (device : BluetoothDevice) :
    Triple (fun state => state = worker) (do
        modify fun worker => { worker with
          sockets := worker.sockets ++ [⟨true, false⟩] }
        moveAccept id (.accepted worker.sockets.length device))
      (fun _ next => ∀ socket < next.sockets.length, next.Accounted socket)
      fun _ => True := by
  refine triple_modify_bind fun state same => ?_
  subst state
  refine triple_modify fun state same socket bound => ?_
  subst state
  have isAt : worker.AcceptAt id .accepting := ⟨thread, found, stands⟩
  have upTo : socket < worker.sockets.length + 1 := by simpa using bound
  rcases Nat.lt_succ_iff_lt_or_eq.mp upTo with before | rfl
  · have was : Worker.Accounted { worker with
        sockets := worker.sockets ++ [⟨true, false⟩] } socket :=
      (accounted socket before).imp_left fun isClosed =>
        exists_getElem?_append isClosed _
    exact was.moveAccept isAt (by simp) _
  · exact Or.inr (Or.inl ⟨id, device, isAt.move _⟩)

theorem accounted_acceptHandle {id : ThreadId} {thread : AcceptThread}
    {socket : SocketId} {device : BluetoothDevice} (streams : Streams)
    (found : worker.acceptThreads[id]? = some thread)
    (stands : thread.point = .accepted socket device) :
    Triple (fun state => state = worker) (do
        handleAccepted socket device streams
        moveAccept id .testing)
      (fun _ next => ∀ socket < next.sockets.length, next.Accounted socket)
      fun _ => True := by
  have lasting : Lasting (fun _ => True) fun worker =>
      ∀ socket < worker.sockets.length, worker.Accounted socket :=
    stable_accounted_all.lasting
  have kept := (lasting.handleAccepted socket device streams).atState accounted
  have settles := handleAccepted_settles streams ⟨thread, found, stands⟩
  refine triple_bind ((kept.and settles).weaken (fun _ same => same)
    (fun _ _ all => all) fun _ _ => trivial) fun _ => ?_
  refine triple_modify ?_
  rintro state ⟨stateAccounted, isAt, putDown⟩ other bound
  refine (stateAccounted other bound).moveAccept isAt ?_ .testing
  rintro _ ⟨⟩
  exact putDown bound

theorem runs_accounted (runs : Runs worker label body) :
    Triple (fun state => state = worker) body
      (fun _ next => ∀ socket < next.sockets.length, next.Accounted socket)
      fun _ => True := by
  have lasting : Lasting (fun _ => True) fun worker =>
      ∀ socket < worker.sockets.length, worker.Accounted socket :=
    stable_accounted_all.lasting
  have quiet (idle : acceptMove worker label = none)
      (noAttempt : label.connectMove = none) :
      Triple (fun state => state = worker) body
        (fun _ next => ∀ socket < next.sockets.length, next.Accounted socket)
        fun _ => True := by
    have keeps : Preserves (fun worker => ∀ socket < worker.sockets.length,
        worker.Accounted socket) body := by
      apply preserves_of_ownMoves lasting _ runs
      intro state next move holds socket bound
      cases move with
      | accept own => simp [idle] at own
      | connect own => simp [noAttempt] at own
      | socket own => exact absurd idle own
      | writers => exact holds socket bound
      | @connected id point own =>
          rcases holds socket bound with closed | pending | attempting | handed
          · exact Or.inl closed
          · exact Or.inr (Or.inl pending)
          · exact Or.inr (Or.inr (Or.inl attempting))
          · obtain ⟨other, owned⟩ := handed
            refine Or.inr (Or.inr (Or.inr ⟨other, ?_⟩))
            apply exists_getElem?_modify owned
            exact fun _ stays => stays
    exact keeps.weaken (fun _ same => same ▸ accounted)
      (fun _ _ holds => holds) fun _ _ => trivial
  cases runs with
  | nullUse => exact triple_throw fun _ _ => trivial
  | leaveLoop found stands =>
      exact accounted_moveAccept accounted found (by simp [stands]) _
  | block found stands =>
      exact accounted_moveAccept accounted found (by simp [stands]) _
  | acceptThrows found stands =>
      exact accounted_moveAccept accounted found (by simp [stands]) _
  | acceptReturns device found stands =>
      exact accounted_acceptReturns accounted found stands device
  | acceptHandle streams found stands =>
      exact accounted_acceptHandle accounted streams found stands
  | @connectReturns id thread socket found =>
      refine triple_modify ?_
      rintro _ rfl other bound
      exact (accounted other bound).moveConnect ⟨thread, found, rfl, rfl⟩
        fun _ _ => Or.inl rfl
  | @connectThrows id thread socket found stands stored =>
      refine accounted_thenMoveConnect accounted found
        (fun _ stable => stable.lasting.closing socket) fun _ => Or.inr ?_
      intro other same
      obtain rfl := Option.some.inj (stored.symm.trans same)
      refine triple_modify fun state _ bound => Or.inr ?_
      exact closed_closeSocket (by simpa using bound)
  | failedToast found stands =>
      refine accounted_thenMoveConnect accounted found
        (fun _ stable => stable.lasting.post _) fun holds => ?_
      simp [stands, ConnectPoint.holds] at holds
  | failedStart listens found stands =>
      refine accounted_thenMoveConnect accounted found
        (fun _ stable => stable.lasting.start trivial trivial) fun holds => ?_
      simp [stands, ConnectPoint.holds] at holds
  | resetConnectThread found stands =>
      exact accounted_thenMoveConnect accounted found
        (fun _ stable => stable.lasting.modifyFields
          (fun _ => by constructor <;> rfl) fun _ => by rfl)
        fun _ => Or.inl rfl
  | @handOver id thread socket streams found stands stored =>
      refine accounted_thenMoveConnect accounted found
        (fun _ stable => stable.lasting.connected socket _ streams)
        fun _ => Or.inr ?_
      intro other same
      obtain rfl := Option.some.inj (stored.symm.trans same)
      exact (connected_handed _ socket _ streams).weaken
        (fun _ start => start) (fun _ _ handed _ => Or.inl handed)
        fun _ _ => trivial
  | _ => exact quiet rfl rfl

end Bodies

/-- The socket is that of the current connection. -/
def Worker.Serving (worker : Worker) (socket : SocketId) : Prop :=
  ∃ id, worker.mConnectedThread = some id ∧ worker.ConnectionOn id socket

/-- What a run keeps about sockets as long as the process lives. -/
structure Housekeeping (worker : Worker) : Prop where
  valid : Valid False worker
  tidy : worker.crashed = false → Tidy worker.connectedThreads.length worker
  accounted : worker.crashed = false →
    ∀ socket < worker.sockets.length, worker.Accounted socket

theorem housekeeping_initial : Housekeeping Worker.initial where
  valid := valid_initial
  tidy := fun _ => tidy_initial
  accounted := by simp [Worker.initial]

theorem housekeeping_step (keeping : Housekeeping worker)
    (taken : step worker label = some next) : Housekeeping next := by
  have wasRunning := crashed_of_step taken
  refine ⟨valid_step keeping.valid False.elim taken, ?_, ?_⟩
  · exact tidy_step keeping.valid (keeping.tidy wasRunning) taken
  · intro running
    obtain ⟨_, body, runs, rfl⟩ := step_runs taken
    exact returned_of_running
      (runs_accounted (keeping.accounted wasRunning) runs) running

theorem housekeeping_of_follow {labels : List Step}
    (run : follow step Worker.initial labels = some worker) :
    Housekeeping worker :=
  invariant_of_follow step
    (fun _ _ _ keeping (_ : True) taken => housekeeping_step keeping taken)
    housekeeping_initial (fun _ _ => trivial) run

/-- A connection that has been replaced or dropped is closed. -/
theorem Housekeeping.closed_of_not_current (keeping : Housekeeping worker)
    (running : worker.crashed = false) {id : ThreadId} {socket : SocketId}
    (owned : worker.ConnectionOn id socket)
    (notCurrent : worker.mConnectedThread ≠ some id) :
    worker.Closed socket := by
  have invariant := keeping.valid.invariant (Or.inr running)
  obtain ⟨thread, found, rfl⟩ := owned
  have bound := (List.getElem?_eq_some_iff.mp found).1
  have cancelled : ThreadName.connected id ∈ worker.view.cancelled := by
    rcases invariant.givenUp (.connected id) bound
      (mt View.connected_mem_held.mp notCurrent) with isCancelled | ⟨_, same⟩
    · exact isCancelled
    · cases same
  obtain ⟨socket, ⟨thread', found', owned⟩, isClosed⟩ :=
    (keeping.tidy running).released _ cancelled
  rw [found] at found'
  cases found'
  exact owned ▸ isClosed

/-- No socket is forgotten: as long as the process lives, every socket that
`accept()` has returned or `connect` has created is closed, or it is that of
the current connection, or a thread that is still at work holds it. -/
theorem sockets_closed_or_in_use {labels : List Step}
    (run : follow step Worker.initial labels = some worker)
    (running : worker.crashed = false) {socket : SocketId}
    (created : socket < worker.sockets.length) :
    worker.Closed socket ∨ worker.Pending socket ∨ worker.Attempting socket ∨
      worker.Serving socket := by
  have keeping := housekeeping_of_follow run
  rcases keeping.accounted running socket created with
    closed | pending | attempting | ⟨id, owned⟩
  · exact Or.inl closed
  · exact Or.inr (Or.inl pending)
  · exact Or.inr (Or.inr (Or.inl attempting))
  · by_cases current : worker.mConnectedThread = some id
    · exact Or.inr (Or.inr (Or.inr ⟨id, current, owned⟩))
    · exact Or.inl (keeping.closed_of_not_current running owned current)

/-- A second attempt replaces an accepted connection, whose socket is then
closed. -/
theorem sockets_closed_or_in_use_after_connect :
    ∃ worker, follow step Worker.initial
        [.start ⟨true, true⟩, .acceptTest 0,
          .acceptReturns 0 (.unnamed 49), .acceptHandle 0 ⟨true, true⟩,
          .connect (.unnamed 50) true true] = some worker ∧
      (worker.Closed 0 ∨ worker.Pending 0 ∨ worker.Attempting 0 ∨
        worker.Serving 0) := by
  have run : follow step Worker.initial
      [.start ⟨true, true⟩, .acceptTest 0, .acceptReturns 0 (.unnamed 49),
        .acceptHandle 0 ⟨true, true⟩, .connect (.unnamed 50) true true] =
      some _ := rfl
  exact ⟨_, run, sockets_closed_or_in_use run rfl (by decide)⟩

end Accounted

end WorkerClass

end MightyMouse
